import AAAos.Net.DottedQuad
import Mathlib.Logic.Relation

/-!
# Reading a name of the DNS

`dns_decode_name` (`net/dns/dns.c`).  A name is a list of labels, each behind its length, up to a zero byte;
two bytes from `0xC0` on are a pointer, and the name goes on where it leads.  The packet and the output are
arrays whose sizes are checked in every access, so that the model stops where the code would leave them.

**What goes wrong.**  The loop ends at a zero byte, but also where the offset has left the packet, and what
comes after the loop is the same: a name that leaves the packet is returned like a complete one, with the
length 0, or with that of the bytes up to its first pointer (`pointer_outside_accepted`).

**What is proved.**  Every access is inside (`dnsDecodeName_inside`), the loop ends, and the result is that of
the name itself except where the name leaves the packet (`dnsDecodeName_strict_iff`).
-/

namespace AAAos

/-- `DNS_MAX_LABEL_LEN`. -/
def dnsMaxLabelLen : Nat := 63

/-- `max_jumps`. -/
def maxJumps : Nat := 128

/-- What the decoder stops with: `DNS_ERR_FORMAT`, or an access outside its arrays. -/
inductive NameStop
  | format
  | outside
deriving DecidableEq

/-- The variables of the loop, with the part of `name_out` that is written. -/
structure NameState where
  nameOut : List UInt8 := []
  dataOffset : Nat
  bytesConsumed : Int := 0
  jumped : Bool := false
  jumpCount : Nat := 0
deriving DecidableEq

/-- What an iteration of the loop leads to. -/
inductive NameTurn
  | next (st : NameState)
  | leave (st : NameState)
deriving DecidableEq

/-- A size in an `int`. -/
def asInt (n : Nat) : Int := (n : Int).bmod (2 ^ 32)

/-- The offset in a compression pointer. -/
def pointerOffset (len low : UInt8) : UInt16 := (len &&& 0x3F).toUInt16 <<< 8 ||| low.toUInt16

/-! ## The decoder -/

section Decoder

variable (packet : List UInt8) (data nameSize : Nat)

/-- `name_pos >= name_size - 1`. -/
def nameFull (name : List UInt8) : Bool := nameSize - 1 ≤ name.length

/-- `name_out[name_pos++] = c`. -/
def putChar (name : List UInt8) (c : UInt8) : Except NameStop (List UInt8) :=
  if nameSize ≤ name.length then .error .outside else .ok (name ++ [c])

/-- The loop that copies a label. -/
def copyLabel : Nat → Nat → List UInt8 → Except NameStop (List UInt8)
  | 0, _, name => .ok name
  | len + 1, i, name =>
    if nameFull nameSize name then .error .format
    else
      match packet[i]? with
      | none => .error .outside
      | some c => (putChar nameSize name c).bind (copyLabel len (i + 1))

/-- A label of the packet behind what is written, with the dot. -/
def appendLabel (len i : Nat) (name : List UInt8) : Except NameStop (List UInt8) :=
  if name = [] then copyLabel packet nameSize len i name
  else if nameFull nameSize name then .error .format
  else (putChar nameSize name charDot).bind (copyLabel packet nameSize len i)

/-- `bytes_consumed`, as it is set before the first jump. -/
def NameState.consume (st : NameState) (n : Nat) : NameState :=
  if st.jumped then st else { st with bytesConsumed := asInt (st.dataOffset - data + n) }

/-- One iteration of the loop. -/
def decodeTurn (st : NameState) : Except NameStop NameTurn :=
  if packet.length ≤ st.dataOffset then .ok (.leave st)
  else
    match packet[st.dataOffset]? with
    | none => .error .outside
    | some len =>
      if len &&& 0xC0 = 0xC0 then
        if packet.length ≤ st.dataOffset + 1 then .error .format
        else
          match packet[st.dataOffset + 1]? with
          | none => .error .outside
          | some low =>
            if maxJumps < st.jumpCount + 1 then .error .format
            else
              .ok (.next { st.consume data 2 with
                jumped := true
                dataOffset := (pointerOffset len low).toNat
                jumpCount := st.jumpCount + 1 })
      else if len = 0 then .ok (.leave (st.consume data 1))
      else if dnsMaxLabelLen < len.toNat then .error .format
      else if packet.length < st.dataOffset + 1 + len.toNat then .error .format
      else
        (appendLabel packet nameSize len.toNat (st.dataOffset + 1) st.nameOut).map fun name =>
          .next { st with nameOut := name, dataOffset := st.dataOffset + 1 + len.toNat }

lemma decodeTurn_decreases {st st' : NameState} (hturn : decodeTurn packet data nameSize st = .ok (.next st')) :
    Prod.Lex (· < ·) (· < ·) (maxJumps + 1 - st'.jumpCount, packet.length - st'.dataOffset)
      (maxJumps + 1 - st.jumpCount, packet.length - st.dataOffset) := by
  unfold decodeTurn at hturn
  by_cases hpast : packet.length ≤ st.dataOffset
  · rw [if_pos hpast] at hturn
    exact nomatch hturn
  rw [if_neg hpast] at hturn
  split at hturn
  · exact nomatch hturn
  · next len hlen =>
      by_cases hpointer : len &&& 0xC0 = 0xC0
      · rw [if_pos hpointer] at hturn
        split_ifs at hturn with hshort hjumps
        all_goals split at hturn
        · exact nomatch hturn
        · exact nomatch hturn
        · exact nomatch hturn
        · obtain rfl := NameTurn.next.inj (Except.ok.inj hturn)
          refine Prod.Lex.left _ _ ?_
          dsimp only
          omega
      · rw [if_neg hpointer] at hturn
        split_ifs at hturn with hzero
        · exact nomatch Except.ok.inj hturn
        cases happend : appendLabel packet nameSize len.toNat (st.dataOffset + 1) st.nameOut with
        | error stop => simp [happend, Except.map] at hturn
        | ok name =>
          rw [happend] at hturn
          obtain rfl := NameTurn.next.inj (Except.ok.inj hturn)
          refine Prod.Lex.right _ ?_
          dsimp only
          omega

/-- The loop. -/
def decodeLoop (st : NameState) : Except NameStop NameState :=
  match _hturn : decodeTurn packet data nameSize st with
  | .error stop => .error stop
  | .ok (.leave st) => .ok st
  | .ok (.next st') => decodeLoop st'
termination_by (maxJumps + 1 - st.jumpCount, packet.length - st.dataOffset)
decreasing_by exact decodeTurn_decreases packet data nameSize _hturn

/-- `dns_decode_name` at an offset of the packet: the number of bytes and the name, before its NUL. -/
def dnsDecodeName : Except NameStop (Int × List UInt8) :=
  if nameSize = 0 then .error .format
  else
    match decodeLoop packet data nameSize { dataOffset := data } with
    | .error stop => .error stop
    | .ok st =>
      if nameSize ≤ st.nameOut.length then .error .outside
      else .ok (st.bytesConsumed, st.nameOut)

end Decoder

/-! ## What a name is -/

/-- How far a name has been followed: its labels, the pointers, and the bytes that lie at the place where it
starts. -/
structure NameCursor where
  labels : List (List UInt8) := []
  pointers : Nat := 0
  bytes : Nat := 0
  offset : Nat

namespace NameCursor

variable (c : NameCursor)

/-- The labels with dots between them. -/
def text : List UInt8 := [charDot].intercalate c.labels

/-- The bytes up to the first pointer, and with `n` more where there was none. -/
def taken (n : Nat) : Nat := if c.pointers = 0 then c.bytes + n else c.bytes

/-- The bytes that a name takes which ends here with a zero byte. -/
def occupied : Nat := c.taken 1

/-- Past a label. -/
def label (packet : List UInt8) (len : Nat) : NameCursor where
  labels := c.labels ++ [(packet.drop (c.offset + 1)).take len]
  pointers := c.pointers
  bytes := c.taken (1 + len)
  offset := c.offset + 1 + len

/-- Past a pointer. -/
def jump (target : Nat) : NameCursor where
  labels := c.labels
  pointers := c.pointers + 1
  bytes := c.taken 2
  offset := target

/-- What the limits of the decoder allow. -/
structure Fits (size : Nat) : Prop where
  pointers : c.pointers ≤ maxJumps
  text : c.text.length < size

end NameCursor

/-- **One label, or one pointer**, all of it in the packet. -/
inductive NameStep (packet : List UInt8) : NameCursor → NameCursor → Prop
  | label (c : NameCursor) {len : UInt8} (hlen : packet[c.offset]? = some len) (hpos : 1 ≤ len.toNat)
      (hle : len.toNat ≤ 63) (hinside : c.offset + 1 + len.toNat ≤ packet.length) :
      NameStep packet c (c.label packet len.toNat)
  | pointer (c : NameCursor) {high low : UInt8} (hhigh : packet[c.offset]? = some high)
      (hmark : 192 ≤ high.toNat) (hlow : packet[c.offset + 1]? = some low) :
      NameStep packet c (c.jump ((high.toNat - 192) * 256 + low.toNat))

/-- What is reached from the start of a name. -/
def Follows (packet : List UInt8) (start : Nat) : NameCursor → Prop :=
  Relation.ReflTransGen (NameStep packet) { offset := start }

/-- **The decoder is strict** there. -/
structure Strict (packet : List UInt8) (start size : Nat) : Prop where
  inside : dnsDecodeName packet start size ≠ .error .outside
  room : ∀ count name, dnsDecodeName packet start size = .ok (count, name) → name.length + 1 ≤ size
  ends : ∀ count name, dnsDecodeName packet start size = .ok (count, name) → 0 ≤ count →
    ∃ c, Follows packet start c ∧ packet[c.offset]? = some 0 ∧ count = c.occupied
  taken : ∀ count name, dnsDecodeName packet start size = .ok (count, name) → 0 ≤ count →
    1 ≤ count ∧ start + count ≤ packet.length

/-- **The condition**: within the limits, the name does not leave the packet, and its length is one that an
`int` can hold.  (A length that wraps to a negative number is an error, and does no harm.) -/
structure Closed (packet : List UInt8) (start size : Nat) : Prop where
  stays : ∀ c, Follows packet start c → c.Fits size → packet.length ≤ c.offset → c.pointers ≠ 0 ∧ asInt c.bytes < 0
  short : ∀ c, Follows packet start c → c.Fits size → packet[c.offset]? = some 0 →
    0 ≤ asInt c.occupied → asInt c.occupied = c.occupied

/-! ## One iteration -/

lemma toNat_pointerOffset {high : UInt8} (low : UInt8) (hmark : 192 ≤ high.toNat) :
    (pointerOffset high low).toNat = (high.toNat - 192) * 256 + low.toNat := by
  have hhigh := high.toNat_lt
  have hlow := low.toNat_lt
  have hmask : high.toNat &&& 63 = high.toNat - 192 := by
    rw [Nat.and_two_pow_sub_one_eq_mod _ 6]
    omega
  unfold pointerOffset
  rw [UInt16.toNat_or, UInt16.toNat_shiftLeft, UInt8.toNat_toUInt16, UInt8.toNat_toUInt16, UInt8.toNat_and]
  simp only [UInt8.reduceToNat, UInt16.reduceToNat, Nat.reduceMod]
  rw [hmask, Nat.shiftLeft_eq, Nat.mod_eq_of_lt (by omega)]
  exact or_eq_add 8 (Nat.dvd_mul_left _ _) hlow

lemma mark_iff (len : UInt8) : len &&& 0xC0 = 0xC0 ↔ 192 ≤ len.toNat := by
  have h := forall_octet (p := fun len => decide (len &&& 0xC0 = 0xC0) == decide (192 ≤ len.toNat))
    (by set_option maxRecDepth 8192 in decide) len
  rw [beq_iff_eq, decide_eq_decide] at h
  exact h

lemma intercalate_concat {sep : List UInt8} (ls : List (List UInt8)) (l : List UInt8) (hls : ls ≠ []) :
    sep.intercalate (ls ++ [l]) = sep.intercalate ls ++ sep ++ l := by
  induction ls with
  | nil => exact absurd rfl hls
  | cons a ls ih =>
    cases ls with
    | nil => simp
    | cons b ls =>
      rw [List.cons_append, List.cons_append, List.intercalate_cons_cons, ← List.cons_append,
        ih (List.cons_ne_nil b ls), List.intercalate_cons_cons]
      simp only [List.append_assoc]

lemma intercalate_eq_nil {sep : List UInt8} {ls : List (List UInt8)} (hls : ∀ l ∈ ls, l ≠ []) :
    sep.intercalate ls = [] ↔ ls = [] := by
  refine ⟨fun h => ?_, fun h => by rw [h]; rfl⟩
  cases ls with
  | nil => rfl
  | cons a ls =>
    have ha := hls a List.mem_cons_self
    cases ls with
    | nil => exact absurd (by simpa using h) ha
    | cons b ls =>
      rw [List.intercalate_cons_cons] at h
      exact absurd (List.append_eq_nil_iff.mp (List.append_eq_nil_iff.mp h).1).1 ha

section Turns

variable {packet : List UInt8} {start size : Nat}

lemma copyLabel_eq (len i : Nat) (name : List UInt8) (hinside : i + len ≤ packet.length)
    (hroom : name.length < size) :
    copyLabel packet size len i name =
      if name.length + len < size then .ok (name ++ (packet.drop i).take len) else .error .format := by
  induction len generalizing i name with
  | zero => simp [copyLabel, hroom]
  | succ len ih =>
    have hi : i < packet.length := by omega
    have hread : packet[i]? = some packet[i] := List.getElem?_eq_getElem hi
    unfold copyLabel nameFull
    rw [hread]
    dsimp only
    by_cases hfull : size - 1 ≤ name.length
    · rw [if_pos (decide_eq_true hfull), if_neg (by omega)]
    · have hput : putChar size name packet[i] = .ok (name ++ [packet[i]]) :=
        if_neg (by omega)
      have hlength : (name ++ [packet[i]]).length = name.length + 1 := by simp
      rw [if_neg (by simpa using hfull), hput]
      dsimp only [Except.bind]
      rw [ih (i + 1) _ (by omega) (by omega), hlength, List.drop_eq_getElem_cons hi,
        List.take_succ_cons, List.append_assoc, Nat.add_assoc, Nat.add_comm 1 len]
      rfl

lemma NameCursor.text_label {c : NameCursor} (hne : ∀ l ∈ c.labels, l ≠ []) (len : Nat) : (c.label packet len).text =
      (if c.text = [] then [] else c.text ++ [charDot]) ++ (packet.drop (c.offset + 1)).take len := by
  unfold NameCursor.text NameCursor.label
  dsimp only
  by_cases hnil : c.labels = []
  · rw [hnil]
    simp
  · rw [intercalate_concat _ _ hnil, if_neg (mt (intercalate_eq_nil hne).mp hnil)]

/-- **A label is appended** if the text with it is shorter than the output. -/
lemma appendLabel_eq {c : NameCursor} (hne : ∀ l ∈ c.labels, l ≠ []) {len : Nat}
    (hinside : c.offset + 1 + len ≤ packet.length) (hpos : 1 ≤ len) (hroom : c.text.length < size) :
    appendLabel packet size len (c.offset + 1) c.text =
      if (c.label packet len).text.length < size then .ok (c.label packet len).text
      else .error .format := by
  have hlength : ((packet.drop (c.offset + 1)).take len).length = len := by
    rw [List.length_take, List.length_drop]
    omega
  rw [NameCursor.text_label hne]
  unfold appendLabel
  by_cases hempty : c.text = []
  · rw [if_pos hempty, if_pos hempty, copyLabel_eq len _ _ hinside hroom, hempty, List.nil_append]
    rw [hlength, List.length_nil, Nat.zero_add]
  · rw [if_neg hempty, if_neg hempty]
    unfold nameFull
    by_cases hfull : size - 1 ≤ c.text.length
    · rw [if_pos (decide_eq_true hfull), if_neg]
      rw [List.length_append, List.length_append, List.length_singleton, hlength]
      omega
    · have hput : putChar size c.text charDot = .ok (c.text ++ [charDot]) := if_neg (by omega)
      rw [if_neg (by simpa using hfull), hput]
      dsimp only [Except.bind]
      rw [copyLabel_eq len _ _ hinside (by rw [List.length_append, List.length_singleton]; omega)]
      simp only [List.length_append, List.length_singleton, hlength]

/-- The variables of the loop at a cursor. -/
def NameCursor.state (c : NameCursor) : NameState where
  nameOut := c.text
  dataOffset := c.offset
  bytesConsumed := if c.pointers = 0 then 0 else asInt c.bytes
  jumped := c.pointers != 0
  jumpCount := c.pointers

/-- **The invariant** of following a name. -/
structure NameCursor.OnTrack (packet : List UInt8) (start : Nat) (c : NameCursor) : Prop where
  nonempty : ∀ l ∈ c.labels, l ≠ []
  straight : c.pointers = 0 → c.offset = start + c.bytes
  counted : c.pointers ≠ 0 → 2 ≤ c.bytes ∧ start + c.bytes ≤ packet.length

lemma NameCursor.OnTrack.step {c d : NameCursor} (hc : c.OnTrack packet start)
    (hstep : NameStep packet c d) : d.OnTrack packet start := by
  cases hstep with
  | @label len hlen hpos hle hinside =>
    refine ⟨fun l hl => ?_, fun hzero => ?_, fun hjumped => ?_⟩
    · rcases List.mem_append.mp hl with hl | hl
      · exact hc.nonempty l hl
      · rw [List.mem_singleton.mp hl]
        refine List.ne_nil_of_length_pos ?_
        rw [List.length_take, List.length_drop]
        omega
    · have htaken : c.taken (1 + len.toNat) = c.bytes + (1 + len.toNat) := if_pos hzero
      have hoffset := hc.straight hzero
      simp only [NameCursor.label, htaken]
      omega
    · have htaken : c.taken (1 + len.toNat) = c.bytes := if_neg hjumped
      simp only [NameCursor.label, htaken]
      exact hc.counted hjumped
  | @pointer high low hhigh hmark hlow =>
    refine ⟨hc.nonempty, fun hzero => absurd hzero (Nat.succ_ne_zero _), fun _ => ?_⟩
    have hbound : c.offset + 1 < packet.length := (List.getElem?_eq_some_iff.mp hlow).1
    by_cases hzero : c.pointers = 0
    · have htaken : c.taken 2 = c.bytes + 2 := if_pos hzero
      have hoffset := hc.straight hzero
      simp only [NameCursor.jump, htaken]
      omega
    · have htaken : c.taken 2 = c.bytes := if_neg hzero
      simp only [NameCursor.jump, htaken]
      exact hc.counted hzero

lemma Follows.onTrack {c : NameCursor} (hc : Follows packet start c) : c.OnTrack packet start := by
  induction hc with
  | refl => exact ⟨(fun l hl => nomatch hl), fun _ => rfl, fun h => absurd rfl h⟩
  | tail _ hstep ih => exact ih.step hstep

lemma NameCursor.state_consume {c : NameCursor} (hc : c.OnTrack packet start) (n : Nat) :
    c.state.consume start n = { c.state with bytesConsumed := asInt (c.taken n) } := by
  unfold NameState.consume NameCursor.state NameCursor.taken
  dsimp only
  by_cases hzero : c.pointers = 0
  · have hbytes : c.offset - start = c.bytes := by
      have := hc.straight hzero
      omega
    simp [hzero, hbytes]
  · simp [hzero]

lemma decodeTurn_past {c : NameCursor} (hpast : packet.length ≤ c.offset) :
    decodeTurn packet start size c.state = .ok (.leave c.state) :=
  if_pos hpast

lemma decodeTurn_zero {c : NameCursor} (hc : c.OnTrack packet start) (hzero : packet[c.offset]? = some 0) :
    decodeTurn packet start size c.state = .ok (.leave { c.state with bytesConsumed := asInt c.occupied }) := by
  have hbound : c.offset < packet.length := (List.getElem?_eq_some_iff.mp hzero).1
  unfold decodeTurn
  rw [if_neg (show ¬packet.length ≤ c.state.dataOffset from Nat.not_le.mpr hbound)]
  rw [show packet[c.state.dataOffset]? = some 0 from hzero]
  dsimp only
  rw [if_neg (by decide), if_pos rfl, NameCursor.state_consume hc]
  rfl

/-- **A label**, and what the loop makes of it. -/
lemma decodeTurn_label {c : NameCursor} (hc : c.OnTrack packet start) (hroom : c.text.length < size)
    {len : UInt8} (hlen : packet[c.offset]? = some len) (hpos : 1 ≤ len.toNat) (hle : len.toNat ≤ 63)
    (hinside : c.offset + 1 + len.toNat ≤ packet.length) :
    decodeTurn packet start size c.state =
      if (c.label packet len.toNat).text.length < size then .ok (.next (c.label packet len.toNat).state)
      else .error .format := by
  have hbound : c.offset < packet.length := (List.getElem?_eq_some_iff.mp hlen).1
  have hne : len ≠ 0 := fun h => by
    rw [h] at hpos
    exact absurd hpos (by decide)
  unfold decodeTurn
  rw [if_neg (show ¬packet.length ≤ c.state.dataOffset from Nat.not_le.mpr hbound)]
  rw [show packet[c.state.dataOffset]? = some len from hlen]
  dsimp only
  rw [if_neg (mt (mark_iff len).mp (by omega)), if_neg hne, if_neg (by unfold dnsMaxLabelLen; omega),
    if_neg (show ¬packet.length < c.state.dataOffset + 1 + len.toNat from Nat.not_lt.mpr hinside)]
  rw [show c.state.dataOffset = c.offset from rfl, show c.state.nameOut = c.text from rfl,
    appendLabel_eq hc.nonempty hinside hpos hroom]
  split_ifs with hfits
  · refine congrArg (fun st => Except.ok (NameTurn.next st)) ?_
    unfold NameCursor.state NameCursor.label NameCursor.taken
    by_cases hzero : c.pointers = 0 <;> simp [hzero]
  · rfl

/-- **A pointer**, and what the loop makes of it. -/
lemma decodeTurn_pointer {c : NameCursor} (hc : c.OnTrack packet start) {high low : UInt8}
    (hhigh : packet[c.offset]? = some high) (hmark : 192 ≤ high.toNat)
    (hlow : packet[c.offset + 1]? = some low) :
    decodeTurn packet start size c.state = if maxJumps < c.pointers + 1 then .error .format
      else .ok (.next (c.jump ((high.toNat - 192) * 256 + low.toNat)).state) := by
  have hbound : c.offset < packet.length := (List.getElem?_eq_some_iff.mp hhigh).1
  have hnext : c.offset + 1 < packet.length := (List.getElem?_eq_some_iff.mp hlow).1
  unfold decodeTurn
  rw [if_neg (show ¬packet.length ≤ c.state.dataOffset from Nat.not_le.mpr hbound)]
  rw [show packet[c.state.dataOffset]? = some high from hhigh]
  dsimp only
  rw [if_pos ((mark_iff high).mpr hmark),
    if_neg (show ¬packet.length ≤ c.state.dataOffset + 1 from Nat.not_le.mpr hnext)]
  rw [show packet[c.state.dataOffset + 1]? = some low from hlow]
  dsimp only
  rw [NameCursor.state_consume hc, toNat_pointerOffset low hmark]
  rw [show c.state.jumpCount = c.pointers from rfl]
  refine if_congr Iff.rfl rfl (congrArg (fun st => Except.ok (NameTurn.next st)) ?_)
  unfold NameCursor.state NameCursor.jump NameCursor.text
  simp

lemma decodeTurn_stuck {c : NameCursor} {len : UInt8} (hlen : packet[c.offset]? = some len)
    (hne : len ≠ 0) (hstuck : ∀ d, ¬NameStep packet c d) :
    decodeTurn packet start size c.state = .error .format := by
  have hbound : c.offset < packet.length := (List.getElem?_eq_some_iff.mp hlen).1
  unfold decodeTurn
  rw [if_neg (show ¬packet.length ≤ c.state.dataOffset from Nat.not_le.mpr hbound)]
  rw [show packet[c.state.dataOffset]? = some len from hlen]
  dsimp only
  by_cases hmark : 192 ≤ len.toNat
  · rw [if_pos ((mark_iff len).mpr hmark), if_pos]
    refine Nat.not_lt.mp fun hnext => ?_
    exact hstuck _ (.pointer c hlen hmark (List.getElem?_eq_getElem hnext))
  · rw [if_neg (mt (mark_iff len).mp hmark), if_neg hne]
    by_cases hlong : dnsMaxLabelLen < len.toNat
    · rw [if_pos hlong]
    · rw [if_neg hlong, if_pos]
      refine Nat.not_le.mp fun hinside => ?_
      have hpos : 1 ≤ len.toNat := Nat.one_le_iff_ne_zero.mpr fun h => hne (UInt8.toNat_inj.mp h)
      exact hstuck _ (.label c hlen hpos (Nat.not_lt.mp hlong) hinside)

/-! ## The loop -/

/-- The bytes that are counted at a cursor where the loop is left: at a zero byte, or past the packet. -/
inductive Leaves (packet : List UInt8) (c : NameCursor) : Int → Prop
  | zero (hzero : packet[c.offset]? = some 0) : Leaves packet c (asInt c.occupied)
  | past (hpast : packet.length ≤ c.offset) :
      Leaves packet c (if c.pointers = 0 then 0 else asInt c.bytes)

/-- **What one iteration comes to.** -/
lemma decodeTurn_cases {c : NameCursor} (hc : c.OnTrack packet start) (hfits : c.Fits size) :
    decodeTurn packet start size c.state = .error .format ∨ (∃ count, decodeTurn packet start size c.state =
        .ok (.leave { c.state with bytesConsumed := count }) ∧ Leaves packet c count) ∨
      ∃ d, decodeTurn packet start size c.state = .ok (.next d.state) ∧ NameStep packet c d ∧ d.Fits size := by
  by_cases hpast : packet.length ≤ c.offset
  · exact .inr (.inl ⟨_, decodeTurn_past hpast, .past hpast⟩)
  have hread : packet[c.offset]? = some packet[c.offset] :=
    List.getElem?_eq_getElem (Nat.not_le.mp hpast)
  by_cases hzero : packet[c.offset] = 0
  · rw [hzero] at hread
    exact .inr (.inl ⟨_, decodeTurn_zero hc hread, .zero hread⟩)
  by_cases hstuck : ∀ d, ¬NameStep packet c d
  · exact .inl (decodeTurn_stuck hread hzero hstuck)
  obtain ⟨d, hstep⟩ := not_forall_not.mp hstuck
  cases hstep with
  | @label len hlen hpos hle hinside =>
    have hturn := decodeTurn_label hc hfits.text hlen hpos hle hinside
    split_ifs at hturn with htext
    · exact .inr (.inr ⟨_, hturn, .label c hlen hpos hle hinside, hfits.pointers, htext⟩)
    · exact .inl hturn
  | @pointer high low hhigh hmark hlow =>
    have hturn := @decodeTurn_pointer packet start size c hc _ _ hhigh hmark hlow
    split_ifs at hturn with hjumps
    · exact .inl hturn
    · exact .inr (.inr ⟨_, hturn, .pointer c hhigh hmark hlow, Nat.not_lt.mp hjumps, hfits.text⟩)

lemma decodeLoop_cases {c : NameCursor} (hc : Follows packet start c) (hfits : c.Fits size) :
    decodeLoop packet start size c.state = .error .format ∨
      ∃ d count, Follows packet start d ∧ d.Fits size ∧ Leaves packet d count ∧
        decodeLoop packet start size c.state = .ok { d.state with bytesConsumed := count } := by
  generalize hst : c.state = st
  induction st using decodeLoop.induct packet start size generalizing c with
  | case1 st stop hturn =>
    subst hst
    rcases decodeTurn_cases hc.onTrack hfits with h | ⟨count, h, -⟩ | ⟨d, h, -⟩
    · left
      rw [decodeLoop, h]
    · exact absurd (hturn.symm.trans h) (fun h => nomatch h)
    · exact absurd (hturn.symm.trans h) (fun h => nomatch h)
  | case2 st last hturn =>
    subst hst
    rcases decodeTurn_cases hc.onTrack hfits with h | ⟨count, h, hleaves⟩ | ⟨d, h, -⟩
    · exact absurd (hturn.symm.trans h) (fun h => nomatch h)
    · refine .inr ⟨c, count, hc, hfits, hleaves, ?_⟩
      rw [decodeLoop, h]
    · exact absurd (Except.ok.inj (hturn.symm.trans h)) (fun h => nomatch h)
  | case3 st next hturn ih =>
    subst hst
    rcases decodeTurn_cases hc.onTrack hfits with h | ⟨count, h, -⟩ | ⟨d, h, hstep, hd⟩
    · exact absurd (hturn.symm.trans h) (fun h => nomatch h)
    · exact absurd (Except.ok.inj (hturn.symm.trans h)) (fun h => nomatch h)
    · rw [decodeLoop, h]
      have hnext : next = d.state := NameTurn.next.inj (Except.ok.inj (hturn.symm.trans h))
      rw [hnext] at ih
      exact ih (hc.tail hstep) hd rfl

lemma NameCursor.Fits.of_step {c d : NameCursor} (hd : d.Fits size) (hc : c.OnTrack packet start)
    (hstep : NameStep packet c d) : c.Fits size := by
  cases hstep with
  | @label len hlen hpos hle hinside =>
    refine ⟨hd.pointers, lt_of_le_of_lt ?_ hd.text⟩
    rw [NameCursor.text_label hc.nonempty, List.length_append]
    split_ifs with hempty
    · rw [hempty]
      exact Nat.zero_le _
    · rw [List.length_append]
      omega
  | pointer hhigh hmark hlow => exact ⟨Nat.le_of_succ_le hd.pointers, hd.text⟩

lemma decodeTurn_of_step {c d : NameCursor} (hc : c.OnTrack packet start) (hfits : c.Fits size)
    (hd : d.Fits size) (hstep : NameStep packet c d) :
    decodeTurn packet start size c.state = .ok (.next d.state) := by
  cases hstep with
  | label hlen hpos hle hinside =>
    rw [decodeTurn_label hc hfits.text hlen hpos hle hinside, if_pos hd.text]
  | pointer hhigh hmark hlow =>
    rw [decodeTurn_pointer hc hhigh hmark hlow]
    exact if_neg (Nat.not_lt.mpr hd.pointers)

lemma decodeLoop_of_follows {d : NameCursor} (hd : Follows packet start d) (hfits : d.Fits size) :
    decodeLoop packet start size { dataOffset := start } = decodeLoop packet start size d.state := by
  induction hd with
  | refl => rfl
  | @tail c d hc hstep ih =>
    have htrack : c.OnTrack packet start := Follows.onTrack hc
    have hfits' : c.Fits size := hfits.of_step htrack hstep
    rw [ih hfits', decodeLoop, decodeTurn_of_step htrack hfits' hfits hstep]

lemma NameCursor.Fits.room {c : NameCursor} (hfits : c.Fits size) : ¬size ≤ c.state.nameOut.length :=
  Nat.not_le.mpr hfits.text

lemma dnsDecodeName_eq (packet : List UInt8) (start : Nat) (hsize : size ≠ 0) :
    dnsDecodeName packet start size = .error .format ∨
      ∃ c count, Follows packet start c ∧ c.Fits size ∧ Leaves packet c count ∧
        dnsDecodeName packet start size = .ok (count, c.text) := by
  have hfirst : NameCursor.Fits { offset := start } size :=
    ⟨Nat.zero_le _, Nat.one_le_iff_ne_zero.mpr hsize⟩
  unfold dnsDecodeName
  rw [if_neg hsize]
  rcases decodeLoop_cases .refl hfirst with hloop | ⟨c, count, hc, hfits, hleaves, hloop⟩
  · left
    rw [show decodeLoop packet start size { dataOffset := start } = _ from hloop]
  · refine .inr ⟨c, count, hc, hfits, hleaves, ?_⟩
    rw [show decodeLoop packet start size { dataOffset := start } = _ from hloop]
    dsimp only
    rw [if_neg hfits.room]
    rfl

/-- **What the decoder returns.** -/
theorem dnsDecodeName_eq_ok {count : Int} {name : List UInt8} : dnsDecodeName packet start size = .ok (count, name) ↔
      ∃ c, Follows packet start c ∧ c.Fits size ∧ Leaves packet c count ∧ name = c.text := by
  constructor
  · intro h
    have hsize : size ≠ 0 := fun hzero => by
      rw [dnsDecodeName, if_pos hzero] at h
      exact nomatch h
    rcases dnsDecodeName_eq packet start hsize with hformat | ⟨c, n, hc, hfits, hleaves, hok⟩
    · exact absurd (hformat.symm.trans h) (fun h => nomatch h)
    · obtain ⟨rfl, rfl⟩ := Prod.mk.inj (Except.ok.inj (hok.symm.trans h))
      exact ⟨c, hc, hfits, hleaves, rfl⟩
  · rintro ⟨c, hc, hfits, hleaves, rfl⟩
    have hturn : decodeTurn packet start size c.state = .ok (.leave { c.state with bytesConsumed := count }) := by
      cases hleaves with
      | zero hzero => exact decodeTurn_zero hc.onTrack hzero
      | past hpast => exact decodeTurn_past hpast
    have hsize : size ≠ 0 := Nat.ne_of_gt (Nat.zero_lt_of_lt hfits.text)
    unfold dnsDecodeName
    rw [if_neg hsize, decodeLoop_of_follows hc hfits, decodeLoop, hturn]
    dsimp only
    rw [if_neg hfits.room]
    rfl

/-- **The decoder stays inside its arrays**, whatever the packet. -/
theorem dnsDecodeName_inside (packet : List UInt8) (start size : Nat) :
    dnsDecodeName packet start size ≠ .error .outside := by
  intro houtside
  by_cases hsize : size = 0
  · rw [dnsDecodeName, if_pos hsize] at houtside
    exact nomatch Except.error.inj houtside
  · rcases dnsDecodeName_eq packet start hsize with hformat | ⟨c, count, -, -, -, hok⟩
    · exact nomatch Except.error.inj (hformat.symm.trans houtside)
    · exact nomatch hok.symm.trans houtside

/-! ## The condition -/

lemma nameStep_rightUnique : Relator.RightUnique (NameStep packet) := by
  intro c d e hd he
  cases hd with
  | label hlen hpos hle hinside =>
    cases he with
    | label hlen' _ _ _ =>
      obtain rfl := Option.some.inj (hlen.symm.trans hlen')
      rfl
    | pointer hhigh hmark hlow =>
      obtain rfl := Option.some.inj (hlen.symm.trans hhigh)
      omega
  | pointer hhigh hmark hlow =>
    cases he with
    | label hlen hpos hle hinside =>
      obtain rfl := Option.some.inj (hhigh.symm.trans hlen)
      omega
    | pointer hhigh' _ hlow' =>
      obtain rfl := Option.some.inj (hhigh.symm.trans hhigh')
      obtain rfl := Option.some.inj (hlow.symm.trans hlow')
      rfl

lemma Leaves.not_step {c : NameCursor} {count : Int} (hleaves : Leaves packet c count)
    (d : NameCursor) : ¬NameStep packet c d := by
  intro hstep
  obtain ⟨len, hlen, hne⟩ : ∃ len, packet[c.offset]? = some len ∧ len ≠ 0 := by
    cases hstep with
    | label hlen hpos hle hinside =>
      exact ⟨_, hlen, fun h => absurd (h ▸ hpos) (by decide)⟩
    | pointer hhigh hmark hlow => exact ⟨_, hhigh, fun h => absurd (h ▸ hmark) (by decide)⟩
  cases hleaves with
  | zero hzero => exact hne (Option.some.inj (hlen.symm.trans hzero))
  | past hpast =>
    have hbound : c.offset < packet.length := (List.getElem?_eq_some_iff.mp hlen).1
    omega

/-- **A name ends in one place.** -/
lemma Follows.unique {c d : NameCursor} {m n : Int} (hc : Follows packet start c)
    (hd : Follows packet start d) (hm : Leaves packet c m) (hn : Leaves packet d n) : c = d := by
  rcases Relation.ReflTransGen.total_of_right_unique nameStep_rightUnique hc hd with h | h
  · rcases Relation.ReflTransGen.cases_head h with heq | ⟨e, hstep, -⟩
    · exact heq
    · exact absurd hstep (hm.not_step e)
  · rcases Relation.ReflTransGen.cases_head h with heq | ⟨e, hstep, -⟩
    · exact heq.symm
    · exact absurd hstep (hn.not_step e)

lemma Follows.occupied_le {c : NameCursor} (hc : Follows packet start c)
    (hzero : packet[c.offset]? = some 0) : 1 ≤ c.occupied ∧ start + c.occupied ≤ packet.length := by
  have htrack := hc.onTrack
  have hbound : c.offset < packet.length := (List.getElem?_eq_some_iff.mp hzero).1
  unfold NameCursor.occupied NameCursor.taken
  split_ifs with hstraight
  · have hoffset := htrack.straight hstraight
    omega
  · have hcounted := htrack.counted hstraight
    omega

lemma Closed.strict (h : Closed packet start size) : Strict packet start size := by
  have hends : ∀ count name, dnsDecodeName packet start size = .ok (count, name) → 0 ≤ count →
      ∃ c, Follows packet start c ∧ packet[c.offset]? = some 0 ∧ count = c.occupied := by
    intro count name hok hcount
    obtain ⟨c, hc, hfits, hleaves, -⟩ := dnsDecodeName_eq_ok.mp hok
    cases hleaves with
    | zero hzero => exact ⟨c, hc, hzero, h.short c hc hfits hzero hcount⟩
    | past hpast =>
      obtain ⟨hjumped, hneg⟩ := h.stays c hc hfits hpast
      rw [if_neg hjumped] at hcount
      omega
  refine ⟨dnsDecodeName_inside packet start size, fun count name hok => ?_, hends,
    fun count name hok hcount => ?_⟩
  · obtain ⟨c, -, hfits, -, rfl⟩ := dnsDecodeName_eq_ok.mp hok
    exact hfits.text
  · obtain ⟨c, hc, hzero, rfl⟩ := hends count name hok hcount
    have hbounds := hc.occupied_le hzero
    omega

lemma Strict.closed (h : Strict packet start size) : Closed packet start size := by
  refine ⟨fun c hc hfits hpast => ?_, fun c hc hfits hzero hcount => ?_⟩
  · have hok := dnsDecodeName_eq_ok.mpr ⟨c, hc, hfits, .past hpast, rfl⟩
    by_contra hnot
    have hcount : 0 ≤ (if c.pointers = 0 then 0 else asInt c.bytes) := by
      split_ifs with hstraight
      · exact Int.le_refl 0
      · exact Int.not_lt.mp fun hneg => hnot ⟨hstraight, hneg⟩
    obtain ⟨d, hd, hzero, -⟩ := h.ends _ _ hok hcount
    obtain rfl := hc.unique hd (.past hpast) (.zero hzero)
    have hbound : c.offset < packet.length := (List.getElem?_eq_some_iff.mp hzero).1
    omega
  · have hok := dnsDecodeName_eq_ok.mpr ⟨c, hc, hfits, .zero hzero, rfl⟩
    obtain ⟨d, hd, hzero', heq⟩ := h.ends _ _ hok hcount
    obtain rfl := hc.unique hd (.zero hzero) (.zero hzero')
    exact heq

/-- **Decoding is strict** exactly where the name does not leave the packet. -/
theorem dnsDecodeName_strict_iff (packet : List UInt8) (start size : Nat) :
    Strict packet start size ↔ Closed packet start size :=
  ⟨Strict.closed, Closed.strict⟩

/-- **A pointer out of the packet** is a complete name of two bytes, and a label at its end one of none. -/
theorem pointer_outside_accepted : ¬∀ (packet : List UInt8) (start size : Nat), start < packet.length → 1 ≤ size →
      Strict packet start size := by
  intro h
  obtain ⟨d, hd, hfits, hleaves, htext, hoffset⟩ : ∃ d, Follows [0xC0, 0xFF] 0 d ∧ d.Fits 256 ∧
      Leaves [0xC0, 0xFF] d (asInt 2) ∧ [] = d.text ∧ d.offset = 255 := by
    refine ⟨(({ offset := 0 } : NameCursor).jump ((192 - 192) * 256 + 255)),
      .single (@NameStep.pointer _ _ 0xC0 0xFF rfl (by decide) rfl),
      ⟨by decide, by decide⟩, ?_, rfl, rfl⟩
    have hleaves := @Leaves.past [0xC0, 0xFF]
      (({ offset := 0 } : NameCursor).jump ((192 - 192) * 256 + 255)) (by decide)
    rwa [if_neg (by decide)] at hleaves
  obtain ⟨c, hc, hzero, -⟩ := (h [0xC0, 0xFF] 0 256 (by decide) (by decide)).ends (asInt 2) []
    (dnsDecodeName_eq_ok.mpr ⟨d, hd, hfits, hleaves, htext⟩) (by decide)
  obtain rfl := hc.unique hd (.zero hzero) hleaves
  rw [hoffset] at hzero
  exact nomatch hzero

end Turns

end AAAos
