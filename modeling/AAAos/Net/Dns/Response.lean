import AAAos.Net.Dns.Hostname

/-!
# Responses of the DNS

`dns_parse_response` (`net/dns/dns.c`): the header, the questions, which are skipped, and the answers up to the
first address.  A read outside the packet is no result at all.

**What goes wrong.**  An answer may begin with a name that leaves the packet, since `dns_decode_name` returns a
length for it, and a question with labels of up to 191 bytes, since the loop that skips them asks for a pointer
and for nothing else.  In both cases the parser takes the bytes that follow for a record
(`address_after_open_name`).

**What is proved.**  The parser reads inside the packet, and its result is the grammar's exactly where the packet
is free of both on the way to an address, and of names with more than 128 pointers (`dnsParseResponse_iff`).
-/

namespace AAAos

def dnsErrFormat : Int := -5
def dnsErrServer : Int := -6

/-- `DNS_HEADER_SIZE`. -/
def dnsHeaderSize : Nat := 12

/-- `sizeof(dns_question_t)`. -/
def dnsQuestionSize : Nat := 4

/-- `sizeof(dns_answer_t)`. -/
def dnsAnswerSize : Nat := 10

/-- `DNS_TYPE_A`. -/
def dnsTypeA : UInt16 := 1

/-- `DNS_CLASS_IN`. -/
def dnsClassIn : UInt16 := 1

/-- What a call ends with: an address and its time to live, or an error. -/
inductive ResponseEnd
  | found (ip ttl : UInt32)
  | error (code : Int)
deriving DecidableEq

section Parser

variable (packet : List UInt8)

/-- A half word of the packet, in the order of the machine. -/
def readHalf (offset : Nat) : Option UInt16 :=
  if offset + 2 ≤ packet.length then some (htons (load16 packet offset)) else none

/-- A word of the packet, as it lies there. -/
def readWord (offset : Nat) : Option UInt32 :=
  if offset + 4 ≤ packet.length then some (loadWord packet offset) else none

/-- The loop that skips a name in a question. -/
def skipName (offset : Nat) : Option Nat :=
  if packet.length ≤ offset then some offset
  else
    match packet[offset]? with
    | none => none
    | some labelLen =>
      if labelLen = 0 then some (offset + 1)
      else if labelLen &&& 0xC0 = 0xC0 then some (offset + 2)
      else skipName (offset + labelLen.toNat + 1)
termination_by packet.length - offset

/-- The loop over the questions: the offset behind them, or the error. -/
def skipQuestions : Nat → Nat → Option (Except Int Nat)
  | 0, offset => some (.ok offset)
  | qdcount + 1, offset =>
    match skipName packet offset with
    | none => none
    | some offset =>
      if packet.length < offset + dnsQuestionSize then some (.error dnsErrFormat)
      else skipQuestions qdcount (offset + dnsQuestionSize)

/-- The loop over the answers. -/
def parseAnswers : Nat → Nat → Option ResponseEnd
  | 0, _ => some (.error dnsErrNotFound)
  | ancount + 1, offset =>
    if packet.length ≤ offset then some (.error dnsErrFormat)
    else
      match dnsDecodeName packet offset (dnsMaxNameLen + 1) with
      | .error .outside => none
      | .error .format => some (.error dnsErrFormat)
      | .ok (nameBytes, _) =>
        if nameBytes < 0 then some (.error dnsErrFormat)
        else
          let offset := offset + nameBytes.toNat
          if packet.length < offset + dnsAnswerSize then some (.error dnsErrFormat)
          else do
            let atype ← readHalf packet offset
            let aclass ← readHalf packet (offset + 2)
            let attl ← readWord packet (offset + 4)
            let rdlength ← readHalf packet (offset + 8)
            let offset := offset + 10
            if packet.length < offset + rdlength.toNat then some (.error dnsErrFormat)
            else if atype = dnsTypeA && aclass = dnsClassIn && rdlength = 4 then
              (readWord packet offset).map fun ip => .found ip (htonl attl)
            else parseAnswers ancount (offset + rdlength.toNat)

/-- The error for a response code. -/
def rcodeError (rcode : UInt16) : Int :=
  if rcode = 1 then dnsErrFormat
  else if rcode = 2 then dnsErrServer
  else if rcode = 3 then dnsErrNotFound
  else dnsErrServer

/-- `dns_parse_response`. -/
def dnsParseResponse : Option ResponseEnd :=
  if packet.length < dnsHeaderSize then some (.error dnsErrFormat)
  else do
    let flags ← readHalf packet 2
    let qdcount ← readHalf packet 4
    let ancount ← readHalf packet 6
    if flags &&& 0x8000 = 0 then some (.error dnsErrFormat)
    else if flags &&& 0x000F ≠ 0 then some (.error (rcodeError (flags &&& 0x000F)))
    else if ancount = 0 then some (.error dnsErrNotFound)
    else
      match ← skipQuestions packet qdcount.toNat dnsHeaderSize with
      | .error code => some (.error code)
      | .ok offset => parseAnswers packet ancount.toNat offset

end Parser

/-! ## The grammar -/

/-- A record of the answers: what stands behind its name. -/
structure AnswerRecord where
  type : UInt16
  cls : UInt16
  ttl : UInt32
  rdlength : UInt16
  address : UInt32
deriving DecidableEq

/-- An address of the internet. -/
def AnswerRecord.isA (r : AnswerRecord) : Bool := r.type = 1 && r.cls = 1 && r.rdlength = 4

/-- The record whose name ends at an offset. -/
def recordAt (packet : List UInt8) (offset : Nat) : AnswerRecord where
  type := htons (load16 packet offset)
  cls := htons (load16 packet (offset + 2))
  ttl := htonl (loadWord packet (offset + 4))
  rdlength := htons (load16 packet (offset + 8))
  address := loadWord packet (offset + 10)

/-- The bytes of a name in a question, with labels up to some length: up to a zero byte, or a pointer. -/
inductive NameExtent (limit : Nat) (packet : List UInt8) : Nat → Nat → Prop
  | zero {o : Nat} (hzero : packet[o]? = some 0) : NameExtent limit packet o (o + 1)
  | pointer {o : Nat} {len : UInt8} (hlen : packet[o]? = some len) (hmark : 192 ≤ len.toNat) :
      NameExtent limit packet o (o + 2)
  | label {o e : Nat} {len : UInt8} (hlen : packet[o]? = some len) (hpos : 1 ≤ len.toNat)
      (hle : len.toNat ≤ limit) (hrest : NameExtent limit packet (o + len.toNat + 1) e) :
      NameExtent limit packet o e

/-- Questions one after another: a name, and four bytes. -/
inductive Questions (limit : Nat) (packet : List UInt8) : Nat → Nat → Nat → Prop
  | nil (o : Nat) : Questions limit packet 0 o o
  | cons {n o e o' : Nat} (hname : NameExtent limit packet o e) (hinside : e + 4 ≤ packet.length)
      (hrest : Questions limit packet n (e + 4) o') : Questions limit packet (n + 1) o o'

/-- Records one after another, whose names take the bytes that a relation says. -/
inductive Records (name : Nat → Nat → Prop) (packet : List UInt8) : Nat → List AnswerRecord → Prop
  | nil (o : Nat) : Records name packet o []
  | cons {o n : Nat} {rs : List AnswerRecord} (hname : name o n) (hheader : o + n + 10 ≤ packet.length)
      (hdata : o + n + 10 + (recordAt packet (o + n)).rdlength.toNat ≤ packet.length)
      (hrest : Records name packet (o + n + 10 + (recordAt packet (o + n)).rdlength.toNat) rs) :
      Records name packet o (recordAt packet (o + n) :: rs)

/-- **A name of the grammar**: it ends with a zero byte in the packet, and is not too long. -/
def WholeName (packet : List UInt8) (o n : Nat) : Prop :=
  ∃ c, Follows packet o c ∧ packet[c.offset]? = some 0 ∧ c.text.length ≤ 255 ∧ n = c.occupied

/-- A name of the grammar that follows at most 128 pointers. -/
def NearName (packet : List UInt8) (o n : Nat) : Prop :=
  ∃ c, Follows packet o c ∧ packet[c.offset]? = some 0 ∧ c.text.length ≤ 255 ∧ c.pointers ≤ 128 ∧ n = c.occupied

/-- A name that may also leave the packet: it takes the bytes up to its first pointer then, or none. -/
def LooseName (packet : List UInt8) (o n : Nat) : Prop :=
  o < packet.length ∧ ∃ c, Follows packet o c ∧ c.text.length ≤ 255 ∧ c.pointers ≤ 128 ∧
    (packet[c.offset]? = some 0 ∧ n = c.occupied ∨
      packet.length ≤ c.offset ∧ n = if c.pointers = 0 then 0 else c.bytes)

/-- A response without an error, by its header. -/
structure IsResponse (packet : List UInt8) : Prop where
  length : 12 ≤ packet.length
  response : htons (load16 packet 2) &&& 0x8000 ≠ 0
  rcode : htons (load16 packet 2) &&& 0x000F = 0

def questionCount (packet : List UInt8) : Nat := (htons (load16 packet 4)).toNat

def answerCount (packet : List UInt8) : Nat := (htons (load16 packet 6)).toNat

/-- **Records of the response**: those at the beginning of the answers, behind all the questions. -/
def Reads (limit : Nat) (name : Nat → Nat → Prop) (packet : List UInt8) (rs : List AnswerRecord) : Prop :=
  ∃ o, Questions limit packet (questionCount packet) 12 o ∧ Records name packet o rs ∧ rs.length ≤ answerCount packet

/-- The result for records. -/
def answer (rs : List AnswerRecord) : ResponseEnd :=
  match rs.find? AnswerRecord.isA with
  | some r => .found r.address r.ttl
  | none => .error dnsErrNotFound

/-- The records up to the first address. -/
def untilA : List AnswerRecord → List AnswerRecord
  | [] => []
  | r :: rs => if r.isA then [r] else r :: untilA rs

/-- **Parsing is correct** for a packet. -/
structure ParsesWell (packet : List UInt8) : Prop where
  inside : dnsParseResponse packet ≠ none
  wellFormed : ∀ rs, IsResponse packet → Reads 63 (WholeName packet) packet rs →
    rs.length = answerCount packet → dnsParseResponse packet = some (answer rs)
  sound : ∀ ip ttl, dnsParseResponse packet = some (.found ip ttl) →
    IsResponse packet ∧ ∃ rs, Reads 63 (WholeName packet) packet rs ∧ answer rs = .found ip ttl

/-- **The condition**: where a loose reading comes to an address, the names on the way are of the grammar, and
where the response is well-formed, the names up to the first address follow at most 128 pointers. -/
structure Tight (packet : List UInt8) : Prop where
  strict : ∀ rs, IsResponse packet → Reads 191 (LooseName packet) packet rs →
    rs.find? AnswerRecord.isA ≠ none → Reads 63 (WholeName packet) packet (untilA rs)
  near : ∀ rs, IsResponse packet → Reads 63 (WholeName packet) packet rs →
    rs.length = answerCount packet → Reads 63 (NearName packet) packet (untilA rs)

/-! ## Names -/

section Names

variable {packet : List UInt8} {o : Nat}

lemma Follows.bytes_le {c : NameCursor} (hc : Follows packet o c) : c.bytes ≤ c.text.length + 3 := by
  have hwire : c.bytes ≤ (wireLabels c.labels).length + if c.pointers = 0 then 0 else 2 := by
    induction hc with
    | refl => exact Nat.zero_le _
    | @tail c d hc hstep ih =>
      cases hstep with
      | @label len hlen hpos hle hinside =>
        have hslice : ((packet.drop (c.offset + 1)).take len.toNat).length = len.toNat := by
          rw [List.length_take, List.length_drop]
          omega
        have hwire : (wireLabels (c.label packet len.toNat).labels).length =
            (wireLabels c.labels).length + (1 + len.toNat) := by
          simp only [NameCursor.label, wireLabels, List.flatMap_append, List.length_append,
            List.flatMap_singleton, List.length_cons, hslice]
          omega
        rw [hwire]
        simp only [NameCursor.label, NameCursor.taken]
        split_ifs at ih ⊢ <;> omega
      | pointer hhigh hmark hlow =>
        simp only [NameCursor.jump, NameCursor.taken, Nat.succ_ne_zero, if_false]
        split_ifs at ih ⊢ <;> omega
  have htext : (wireLabels c.labels).length ≤ c.text.length + 1 := by
    by_cases hnil : c.labels = []
    · rw [hnil]
      exact Nat.zero_le _
    · exact (length_wireLabels hnil).le
  split_ifs at hwire <;> omega

lemma Follows.lt_length {c : NameCursor} (hc : Follows packet o c) (hzero : packet[c.offset]? = some 0) :
    o < packet.length := by
  have hbounds := hc.occupied_le hzero
  omega

lemma NearName.loose {n : Nat} (h : NearName packet o n) : LooseName packet o n := by
  obtain ⟨c, hc, hzero, htext, hpointers, hn⟩ := h
  exact ⟨hc.lt_length hzero, c, hc, htext, hpointers, .inl ⟨hzero, hn⟩⟩

/-- **A name has one length.** -/
lemma WholeName.eq_loose {n m : Nat} (hn : WholeName packet o n) (hm : LooseName packet o m) :
    n = m ∧ NearName packet o n := by
  obtain ⟨c, hc, hzero, htext, rfl⟩ := hn
  obtain ⟨-, d, hd, -, hpointers, hend⟩ := hm
  rcases hend with ⟨hzero', rfl⟩ | ⟨hpast, -⟩
  · obtain rfl := hc.unique hd (.zero hzero) (.zero hzero')
    exact ⟨rfl, c, hc, hzero, htext, hpointers, rfl⟩
  · obtain rfl := hc.unique hd (.zero hzero) (.past hpast)
    have hbound : c.offset < packet.length := (List.getElem?_eq_some_iff.mp hzero).1
    omega

/-- **What the decoder counts** are the loose names. -/
lemma decode_eq_loose (ho : o < packet.length) {count : Int} :
    (∃ name, dnsDecodeName packet o (dnsMaxNameLen + 1) = .ok (count, name)) ↔
      ∃ n : Nat, count = n ∧ LooseName packet o n := by
  constructor
  · rintro ⟨name, hok⟩
    obtain ⟨c, hc, hfits, hleaves, -⟩ := dnsDecodeName_eq_ok.mp hok
    have htext : c.text.length ≤ 255 := Nat.le_of_lt_succ hfits.text
    have hbytes := hc.bytes_le
    cases hleaves with
    | zero hzero =>
      refine ⟨c.occupied, asInt_of_lt ?_, ho, c, hc, htext, hfits.pointers, .inl ⟨hzero, rfl⟩⟩
      unfold NameCursor.occupied NameCursor.taken
      split_ifs <;> omega
    | past hpast =>
      refine ⟨_, ?_, ho, c, hc, htext, hfits.pointers, .inr ⟨hpast, rfl⟩⟩
      split_ifs
      · rfl
      · exact asInt_of_lt (by omega)
  · rintro ⟨n, rfl, -, c, hc, htext, hpointers, hend⟩
    have hfits : c.Fits (dnsMaxNameLen + 1) := ⟨hpointers, Nat.lt_succ_of_le htext⟩
    have hbytes := hc.bytes_le
    refine ⟨c.text, dnsDecodeName_eq_ok.mpr ⟨c, hc, hfits, ?_, rfl⟩⟩
    rcases hend with ⟨hzero, rfl⟩ | ⟨hpast, rfl⟩
    · have hint : asInt c.occupied = c.occupied := by
        refine asInt_of_lt ?_
        unfold NameCursor.occupied NameCursor.taken
        split_ifs <;> omega
      rw [← hint]
      exact .zero hzero
    · have hint : ((if c.pointers = 0 then 0 else c.bytes : Nat) : Int) =
          if c.pointers = 0 then 0 else asInt c.bytes := by
        split_ifs
        · rfl
        · exact (asInt_of_lt (by omega)).symm
      rw [hint]
      exact .past hpast

end Names

/-! ## Questions -/

section QuestionSection

variable {packet : List UInt8}

lemma NameExtent.mono {limit limit' o e : Nat} (hle : limit ≤ limit') (h : NameExtent limit packet o e) :
    NameExtent limit' packet o e := by
  induction h with
  | zero hzero => exact .zero hzero
  | pointer hlen hmark => exact .pointer hlen hmark
  | label hlen hpos hlabel _ ih => exact .label hlen hpos (hlabel.trans hle) ih

lemma NameExtent.skipName {o e : Nat} (h : NameExtent 191 packet o e) : skipName packet o = some e := by
  induction h with
  | @zero o hzero =>
    have hbound : o < packet.length := (List.getElem?_eq_some_iff.mp hzero).1
    rw [AAAos.skipName, if_neg (Nat.not_le.mpr hbound), hzero]
    rfl
  | @pointer o len hlen hmark =>
    have hbound : o < packet.length := (List.getElem?_eq_some_iff.mp hlen).1
    have hne : len ≠ 0 := fun h => absurd (h ▸ hmark) (by decide)
    rw [AAAos.skipName, if_neg (Nat.not_le.mpr hbound), hlen]
    dsimp only
    rw [if_neg hne, if_pos ((mark_iff len).mpr hmark)]
  | @label o e len hlen hpos hle _ ih =>
    have hbound : o < packet.length := (List.getElem?_eq_some_iff.mp hlen).1
    have hne : len ≠ 0 := fun h => absurd (h ▸ hpos) (by decide)
    rw [AAAos.skipName, if_neg (Nat.not_le.mpr hbound), hlen]
    dsimp only
    rw [if_neg hne, if_neg (mt (mark_iff len).mp (by omega)), ih]

/-- **What is skipped**: a name, or all that is left. -/
lemma skipName_cases (o : Nat) : ∃ e, skipName packet o = some e ∧
    (NameExtent 191 packet o e ∨ packet.length ≤ e) := by
  induction o using skipName.induct packet with
  | case1 o hpast => exact ⟨o, by rw [skipName, if_pos hpast], .inr hpast⟩
  | case2 o hpast hnone =>
    exact absurd (List.getElem?_eq_none_iff.mp hnone) hpast
  | case3 o hpast hzero =>
    refine ⟨o + 1, ?_, .inl (.zero hzero)⟩
    exact (@NameExtent.zero 191 packet o hzero).skipName
  | case4 o hpast len hlen hne hmark =>
    have hextent : NameExtent 191 packet o (o + 2) := .pointer hlen ((mark_iff len).mp hmark)
    exact ⟨o + 2, hextent.skipName, .inl hextent⟩
  | case5 o hpast len hlen hne hmark ih =>
    obtain ⟨e, hskip, hend⟩ := ih
    refine ⟨e, ?_, hend.imp_left fun h => ?_⟩
    · rw [skipName, if_neg hpast, hlen]
      dsimp only
      rw [if_neg hne, if_neg hmark, hskip]
    · have hpos : 1 ≤ len.toNat := Nat.one_le_iff_ne_zero.mpr fun h => hne (UInt8.toNat_inj.mp h)
      have hle : len.toNat ≤ 191 := Nat.le_of_lt_succ (Nat.not_le.mp (mt (mark_iff len).mpr hmark))
      exact .label hlen hpos hle h

lemma Questions.mono {limit limit' n o o' : Nat} (hle : limit ≤ limit') (h : Questions limit packet n o o') :
    Questions limit' packet n o o' := by
  induction h with
  | nil o => exact .nil o
  | cons hname hinside _ ih => exact .cons (hname.mono hle) hinside ih

lemma Questions.skipQuestions {n o o' : Nat} (h : Questions 191 packet n o o') :
    skipQuestions packet n o = some (.ok o') := by
  induction h with
  | nil o => rfl
  | @cons n o e o' hname hinside _ ih =>
    rw [AAAos.skipQuestions, hname.skipName]
    dsimp only
    rw [if_neg (show ¬packet.length < e + dnsQuestionSize from Nat.not_lt.mpr hinside)]
    exact ih

/-- **The questions**: they are there, or the packet is malformed. -/
lemma skipQuestions_cases (n o : Nat) : skipQuestions packet n o = some (.error dnsErrFormat) ∨
    ∃ o', skipQuestions packet n o = some (.ok o') ∧ Questions 191 packet n o o' := by
  induction n generalizing o with
  | zero => exact .inr ⟨o, rfl, .nil o⟩
  | succ n ih =>
    obtain ⟨e, hskip, hend⟩ := @skipName_cases packet o
    rw [skipQuestions, hskip]
    dsimp only
    by_cases hpast : packet.length < e + dnsQuestionSize
    · exact .inl (if_pos hpast)
    · rw [if_neg hpast]
      have hinside : e + 4 ≤ packet.length := Nat.not_lt.mp hpast
      have hextent : NameExtent 191 packet o e := hend.resolve_right fun h => by omega
      refine (ih (e + dnsQuestionSize)).imp_right ?_
      rintro ⟨o', hrest, hquestions⟩
      exact ⟨o', hrest, .cons hextent hinside hquestions⟩

lemma Questions.unique {n o p q : Nat} (hp : Questions 191 packet n o p) (hq : Questions 191 packet n o q) : p = q :=
  Except.ok.inj (Option.some.inj (hp.skipQuestions.symm.trans hq.skipQuestions))

end QuestionSection

/-! ## Records -/

section RecordSection

variable {packet : List UInt8}

lemma readHalf_of_le {offset : Nat} (h : offset + 2 ≤ packet.length) :
    readHalf packet offset = some (htons (load16 packet offset)) := if_pos h

lemma readWord_of_le {offset : Nat} (h : offset + 4 ≤ packet.length) :
    readWord packet offset = some (loadWord packet offset) := if_pos h

/-- **A record** behind a loose name, and what the loop makes of it. -/
lemma parseAnswers_step {n o m : Nat} (hname : LooseName packet o m) (hheader : o + m + 10 ≤ packet.length)
    (hdata : o + m + 10 + (recordAt packet (o + m)).rdlength.toNat ≤ packet.length) :
    parseAnswers packet (n + 1) o =
      if (recordAt packet (o + m)).isA then
        some (.found (recordAt packet (o + m)).address (recordAt packet (o + m)).ttl)
      else parseAnswers packet n (o + m + 10 + (recordAt packet (o + m)).rdlength.toNat) := by
  obtain ⟨name, hok⟩ := (decode_eq_loose hname.1).mpr ⟨m, rfl, hname⟩
  have hlength : (recordAt packet (o + m)).rdlength = htons (load16 packet (o + m + 8)) := rfl
  have hisA : (recordAt packet (o + m)).isA = (decide (htons (load16 packet (o + m)) = dnsTypeA) &&
        decide (htons (load16 packet (o + m + 2)) = dnsClassIn) &&
        decide (htons (load16 packet (o + m + 8)) = 4)) := rfl
  rw [parseAnswers, if_neg (Nat.not_le.mpr hname.1), hok]
  dsimp only
  rw [if_neg (by omega), Int.toNat_natCast,
    if_neg (show ¬packet.length < o + m + dnsAnswerSize from Nat.not_lt.mpr hheader),
    readHalf_of_le (by omega), readHalf_of_le (by omega), readWord_of_le (by omega),
    readHalf_of_le (by omega), hisA, hlength]
  rw [hlength] at hdata
  simp only [Option.bind_eq_bind, Option.bind_some]
  rw [if_neg (Nat.not_lt.mpr hdata)]
  split_ifs with h
  · have hfour : htons (load16 packet (o + m + 8)) = 4 := by
      simp only [Bool.and_eq_true, decide_eq_true_eq] at h
      exact h.2
    rw [hfour] at hdata
    rw [readWord_of_le hdata]
    rfl
  · rfl

lemma parseAnswers_stuck (n : Nat) {o : Nat} (hstuck : ∀ m, LooseName packet o m → o + m + 10 ≤ packet.length →
      packet.length < o + m + 10 + (recordAt packet (o + m)).rdlength.toNat) :
    parseAnswers packet (n + 1) o = some (.error dnsErrFormat) := by
  rw [parseAnswers]
  by_cases hpast : packet.length ≤ o
  · rw [if_pos hpast]
  rw [if_neg hpast]
  cases hdecode : dnsDecodeName packet o (dnsMaxNameLen + 1) with
  | error stop =>
    cases stop with
    | format => rfl
    | outside => exact absurd hdecode (dnsDecodeName_inside packet o _)
  | ok result =>
    obtain ⟨count, name⟩ := result
    obtain ⟨m, rfl, hname⟩ := (decode_eq_loose (Nat.not_le.mp hpast)).mp ⟨name, hdecode⟩
    dsimp only
    rw [if_neg (by omega), Int.toNat_natCast]
    by_cases hheader : o + m + 10 ≤ packet.length
    · have hdata := hstuck m hname hheader
      rw [if_neg (show ¬packet.length < o + m + dnsAnswerSize from Nat.not_lt.mpr hheader),
        readHalf_of_le (by omega), readHalf_of_le (by omega), readWord_of_le (by omega),
        readHalf_of_le (by omega)]
      simp only [Option.bind_eq_bind, Option.bind_some]
      exact if_pos hdata
    · exact if_pos (Nat.not_le.mp hheader)

lemma answer_cons (r : AnswerRecord) (rs : List AnswerRecord) :
    answer (r :: rs) = if r.isA then .found r.address r.ttl else answer rs := by
  unfold answer
  rw [List.find?_cons]
  cases r.isA <;> rfl

lemma Records.parseAnswers {o n : Nat} {rs : List AnswerRecord} (h : Records (LooseName packet) packet o rs)
    (hle : rs.length ≤ n) (hend : rs.find? AnswerRecord.isA ≠ none ∨ rs.length = n) :
    parseAnswers packet n o = some (answer rs) := by
  induction h generalizing n with
  | nil o =>
    have hzero : n = 0 := by simpa [eq_comm] using hend
    subst hzero
    rfl
  | @cons o m rs hname hheader hdata hrest ih =>
    obtain ⟨n, rfl⟩ := Nat.exists_eq_succ_of_ne_zero (Nat.ne_of_gt (Nat.lt_of_lt_of_le
      (Nat.succ_pos rs.length) hle))
    rw [Nat.succ_eq_add_one, parseAnswers_step hname hheader hdata, answer_cons]
    by_cases hisA : (recordAt packet (o + m)).isA = true
    · rw [if_pos hisA, if_pos hisA]
    · rw [if_neg hisA, if_neg hisA]
      refine ih (Nat.le_of_succ_le_succ hle) ?_
      rw [List.find?_cons_of_neg hisA] at hend
      exact hend.imp_right Nat.succ.inj

/-- **The answers**: the records that the loop reads, or the packet is malformed. -/
lemma parseAnswers_cases (n o : Nat) : parseAnswers packet n o = some (.error dnsErrFormat) ∨
    ∃ rs, Records (LooseName packet) packet o rs ∧ rs.length ≤ n ∧
      (rs.find? AnswerRecord.isA ≠ none ∨ rs.length = n) := by
  induction n generalizing o with
  | zero => exact .inr ⟨[], .nil o, Nat.le_refl 0, .inr rfl⟩
  | succ n ih =>
    by_cases hrecord : ∃ m, LooseName packet o m ∧ o + m + 10 ≤ packet.length ∧
        o + m + 10 + (recordAt packet (o + m)).rdlength.toNat ≤ packet.length
    · obtain ⟨m, hname, hheader, hdata⟩ := hrecord
      by_cases hisA : (recordAt packet (o + m)).isA = true
      · refine .inr ⟨[recordAt packet (o + m)], .cons hname hheader hdata (.nil _),
          Nat.succ_le_succ (Nat.zero_le n), .inl ?_⟩
        rw [List.find?_cons_of_pos hisA]
        exact Option.some_ne_none _
      · rw [parseAnswers_step hname hheader hdata, if_neg hisA]
        refine (ih _).imp_right ?_
        rintro ⟨rs, hrest, hle, hend⟩
        refine ⟨_, .cons hname hheader hdata hrest, Nat.succ_le_succ hle, ?_⟩
        rw [List.find?_cons_of_neg hisA]
        exact hend.imp_right (congrArg Nat.succ)
    · refine .inl (parseAnswers_stuck n fun m hname hheader => ?_)
      exact Nat.not_le.mp fun hdata => hrecord ⟨m, hname, hheader, hdata⟩

lemma Records.mono {name name' : Nat → Nat → Prop} {o : Nat} {rs : List AnswerRecord}
    (hle : ∀ o n, name o n → name' o n) (h : Records name packet o rs) : Records name' packet o rs := by
  induction h with
  | nil o => exact .nil o
  | cons hname hheader hdata _ ih => exact .cons (hle _ _ hname) hheader hdata ih

lemma Records.initial {name : Nat → Nat → Prop} {o : Nat} {rs ss : List AnswerRecord}
    (h : Records name packet o rs) (hinit : ss <+: rs) : Records name packet o ss := by
  induction h generalizing ss with
  | nil o =>
    rw [List.prefix_nil.mp hinit]
    exact .nil o
  | cons hname hheader hdata _ ih =>
    cases ss with
    | nil => exact .nil _
    | cons s ss =>
      obtain ⟨rfl, htail⟩ := List.cons_prefix_cons.mp hinit
      exact .cons hname hheader hdata (ih htail)

/-- **One grid.**  Where the names have one length each, one of two lists of records goes on as the other. -/
lemma Records.comparable {o : Nat} {rs ss : List AnswerRecord} (h : Records (WholeName packet) packet o rs)
    (h' : Records (LooseName packet) packet o ss) : rs <+: ss ∨ ss <+: rs := by
  induction h generalizing ss with
  | nil o => exact .inl List.nil_prefix
  | cons hname hheader hdata _ ih =>
    cases h' with
    | nil o => exact .inr List.nil_prefix
    | cons hname' _ _ hrest' =>
      obtain ⟨rfl, -⟩ := hname.eq_loose hname'
      rw [List.cons_prefix_cons, List.cons_prefix_cons]
      exact (ih hrest').imp (fun h => ⟨rfl, h⟩) (fun h => ⟨rfl, h⟩)

lemma Records.near {o : Nat} {rs ss : List AnswerRecord} (h : Records (WholeName packet) packet o rs)
    (h' : Records (LooseName packet) packet o ss) (hle : rs.length ≤ ss.length) :
    Records (NearName packet) packet o rs := by
  induction h generalizing ss with
  | nil o => exact .nil o
  | cons hname hheader hdata _ ih =>
    cases h' with
    | nil o => exact absurd hle (Nat.not_succ_le_zero _)
    | cons hname' _ _ hrest' =>
      obtain ⟨rfl, hnear⟩ := hname.eq_loose hname'
      exact .cons hnear hheader hdata (ih hrest' (Nat.le_of_succ_le_succ hle))

/-! ### Up to the first address -/

lemma untilA_cons (r : AnswerRecord) (rs : List AnswerRecord) :
    untilA (r :: rs) = if r.isA then [r] else r :: untilA rs := rfl

lemma untilA_initial (rs : List AnswerRecord) : untilA rs <+: rs := by
  induction rs with
  | nil => exact List.nil_prefix
  | cons r rs ih =>
    rw [untilA_cons]
    split_ifs
    · exact ⟨rs, rfl⟩
    · exact List.cons_prefix_cons.mpr ⟨rfl, ih⟩

lemma untilA_eq_self {rs : List AnswerRecord} (h : rs.find? AnswerRecord.isA = none) : untilA rs = rs := by
  induction rs with
  | nil => rfl
  | cons r rs ih =>
    obtain ⟨hr, hrest⟩ := List.forall_mem_cons.mp (List.find?_eq_none.mp h)
    rw [untilA_cons, if_neg hr, ih (List.find?_eq_none.mpr hrest)]

lemma find?_untilA (rs : List AnswerRecord) : (untilA rs).find? AnswerRecord.isA = rs.find? AnswerRecord.isA := by
  induction rs with
  | nil => rfl
  | cons r rs ih =>
    rw [untilA_cons]
    by_cases hr : r.isA = true
    · rw [if_pos hr, List.find?_cons_of_pos hr, List.find?_cons_of_pos hr]
    · rw [if_neg hr, List.find?_cons_of_neg hr, List.find?_cons_of_neg hr, ih]

lemma untilA_eq_of_initial {rs ss : List AnswerRecord} (hinit : rs <+: ss)
    (hfind : rs.find? AnswerRecord.isA ≠ none) : untilA rs = untilA ss := by
  induction rs generalizing ss with
  | nil => exact absurd rfl hfind
  | cons r rs ih =>
    cases ss with
    | nil => exact absurd (List.prefix_nil.mp hinit) (List.cons_ne_nil r rs)
    | cons s ss =>
      obtain ⟨rfl, htail⟩ := List.cons_prefix_cons.mp hinit
      rw [untilA_cons, untilA_cons]
      by_cases hr : r.isA = true
      · rw [if_pos hr, if_pos hr]
      · rw [List.find?_cons_of_neg hr] at hfind
        rw [if_neg hr, if_neg hr, ih htail hfind]

lemma answer_untilA (rs : List AnswerRecord) : answer (untilA rs) = answer rs := by
  unfold answer
  rw [find?_untilA]

end RecordSection

/-! ## The response -/

section Whole

variable {packet : List UInt8}

lemma Reads.initial {limit : Nat} {name : Nat → Nat → Prop} {rs ss : List AnswerRecord}
    (h : Reads limit name packet rs) (hinit : ss <+: rs) : Reads limit name packet ss := by
  obtain ⟨o, hquestions, hrecords, hle⟩ := h
  exact ⟨o, hquestions, hrecords.initial hinit, hinit.length_le.trans hle⟩

lemma Reads.loose {rs : List AnswerRecord} (h : Reads 63 (NearName packet) packet rs) :
    Reads 191 (LooseName packet) packet rs := by
  obtain ⟨o, hquestions, hrecords, hle⟩ := h
  exact ⟨o, hquestions.mono (by decide), hrecords.mono fun _ _ => NearName.loose, hle⟩

/-- **The header is passed** by a response without an error. -/
lemma IsResponse.parse_eq (h : IsResponse packet) : dnsParseResponse packet =
      if answerCount packet = 0 then some (.error dnsErrNotFound)
      else
        (skipQuestions packet (questionCount packet) 12).bind fun skipped =>
          match skipped with
          | .error code => some (.error code)
          | .ok offset => parseAnswers packet (answerCount packet) offset := by
  have hcount : htons (load16 packet 6) = 0 ↔ answerCount packet = 0 := UInt16.toNat_inj.symm
  have hlength := h.length
  unfold dnsParseResponse
  rw [if_neg (show ¬packet.length < dnsHeaderSize from Nat.not_lt.mpr h.length),
    readHalf_of_le (by omega), readHalf_of_le (by omega), readHalf_of_le (by omega)]
  simp only [Option.bind_eq_bind, Option.bind_some]
  rw [if_neg h.response, if_neg (not_not.mpr h.rcode)]
  exact if_congr hcount rfl rfl

lemma parse_of_not_response (h : ¬IsResponse packet) : ∃ code, dnsParseResponse packet = some (.error code) := by
  unfold dnsParseResponse
  by_cases hshort : packet.length < dnsHeaderSize
  · exact ⟨_, if_pos hshort⟩
  have hlength : 12 ≤ packet.length := Nat.not_lt.mp hshort
  rw [if_neg hshort, readHalf_of_le (by omega), readHalf_of_le (by omega), readHalf_of_le (by omega)]
  simp only [Option.bind_eq_bind, Option.bind_some]
  by_cases hquery : htons (load16 packet 2) &&& 0x8000 = 0
  · exact ⟨_, if_pos hquery⟩
  rw [if_neg hquery]
  by_cases hrcode : htons (load16 packet 2) &&& 0x000F = 0
  · exact absurd ⟨hlength, hquery, hrcode⟩ h
  · exact ⟨_, if_pos hrcode⟩

lemma Reads.parse {rs : List AnswerRecord} (hresponse : IsResponse packet)
    (h : Reads 191 (LooseName packet) packet rs)
    (hend : rs.find? AnswerRecord.isA ≠ none ∨ rs.length = answerCount packet) :
    dnsParseResponse packet = some (answer rs) := by
  obtain ⟨o, hquestions, hrecords, hle⟩ := h
  rw [hresponse.parse_eq]
  by_cases hzero : answerCount packet = 0
  · have hnil : rs = [] := List.length_eq_zero_iff.mp (Nat.le_zero.mp (hzero ▸ hle))
    rw [if_pos hzero, hnil]
    rfl
  · rw [if_neg hzero, hquestions.skipQuestions]
    exact hrecords.parseAnswers hle hend

/-- **The result of a response**: what it says without answers, that it is malformed, or what is read. -/
lemma IsResponse.parse_cases (h : IsResponse packet) :
    dnsParseResponse packet = some (.error dnsErrFormat) ∨ answerCount packet = 0 ∨
      ∃ rs, Reads 191 (LooseName packet) packet rs ∧
        (rs.find? AnswerRecord.isA ≠ none ∨ rs.length = answerCount packet) := by
  rw [h.parse_eq]
  by_cases hzero : answerCount packet = 0
  · exact .inr (.inl hzero)
  rw [if_neg hzero]
  rcases @skipQuestions_cases packet (questionCount packet) 12 with herror | ⟨o, hok, hquestions⟩
  · left
    rw [herror]
    rfl
  · rw [hok]
    refine (parseAnswers_cases (answerCount packet) o).imp_right fun hrecords => .inr ?_
    obtain ⟨rs, hrecords, hle, hend⟩ := hrecords
    exact ⟨rs, ⟨o, hquestions, hrecords, hle⟩, hend⟩

/-- **The parser stays inside the packet.** -/
theorem dnsParseResponse_inside (packet : List UInt8) : dnsParseResponse packet ≠ none := by
  by_cases hresponse : IsResponse packet
  · rcases hresponse.parse_cases with h | hzero | ⟨rs, hreads, hend⟩
    · rw [h]
      exact Option.some_ne_none _
    · rw [hresponse.parse_eq, if_pos hzero]
      exact Option.some_ne_none _
    · rw [hreads.parse hresponse hend]
      exact Option.some_ne_none _
  · obtain ⟨code, h⟩ := parse_of_not_response hresponse
    rw [h]
    exact Option.some_ne_none _

lemma answer_found {rs : List AnswerRecord} {ip ttl : UInt32} (h : answer rs = .found ip ttl) :
    rs.find? AnswerRecord.isA ≠ none := by
  intro hnone
  rw [answer, hnone] at h
  exact nomatch h

lemma answer_ne_format (rs : List AnswerRecord) : answer rs ≠ .error dnsErrFormat := by
  unfold answer
  split
  · exact fun h => nomatch h
  · exact fun h => absurd (ResponseEnd.error.inj h) (by decide)

/-- **An address is read**, loosely. -/
lemma reads_of_found {ip ttl : UInt32} (h : dnsParseResponse packet = some (.found ip ttl)) :
    IsResponse packet ∧ ∃ rs, Reads 191 (LooseName packet) packet rs ∧ answer rs = .found ip ttl := by
  by_cases hresponse : IsResponse packet
  · refine ⟨hresponse, ?_⟩
    rcases hresponse.parse_cases with hformat | hzero | ⟨rs, hreads, hend⟩
    · exact nomatch Option.some.inj (hformat.symm.trans h)
    · rw [hresponse.parse_eq, if_pos hzero] at h
      exact nomatch Option.some.inj h
    · exact ⟨rs, hreads, Option.some.inj ((hreads.parse hresponse hend).symm.trans h)⟩
  · obtain ⟨code, herror⟩ := parse_of_not_response hresponse
    exact nomatch Option.some.inj (herror.symm.trans h)

lemma Reads.comparable {rs ss : List AnswerRecord} (h : Reads 63 (WholeName packet) packet rs)
    (h' : Reads 191 (LooseName packet) packet ss) :
    (rs <+: ss ∨ ss <+: rs) ∧ (rs.length ≤ ss.length → Reads 63 (NearName packet) packet rs) := by
  obtain ⟨o, hquestions, hrecords, hle⟩ := h
  obtain ⟨o', hquestions', hrecords', -⟩ := h'
  obtain rfl := (hquestions.mono (by decide)).unique hquestions'
  exact ⟨hrecords.comparable hrecords', fun hlength =>
    ⟨o, hquestions, hrecords.near hrecords' hlength, hle⟩⟩

lemma Tight.parsesWell (h : Tight packet) : ParsesWell packet := by
  refine ⟨dnsParseResponse_inside packet, fun rs hresponse hreads hlength => ?_, fun ip ttl hfound => ?_⟩
  · have hend : (untilA rs).find? AnswerRecord.isA ≠ none ∨ (untilA rs).length = answerCount packet := by
      by_cases hnone : rs.find? AnswerRecord.isA = none
      · right
        rw [untilA_eq_self hnone, hlength]
      · left
        rwa [find?_untilA]
    rw [(h.near rs hresponse hreads hlength).loose.parse hresponse hend, answer_untilA]
  · obtain ⟨hresponse, rs, hreads, hanswer⟩ := reads_of_found hfound
    exact ⟨hresponse, untilA rs, h.strict rs hresponse hreads (answer_found hanswer),
      (answer_untilA rs).trans hanswer⟩

lemma ParsesWell.tight (h : ParsesWell packet) : Tight packet := by
  constructor
  · intro rs hresponse hreads hfind
    have hparse := hreads.parse hresponse (.inl hfind)
    obtain ⟨r, hr⟩ := Option.ne_none_iff_exists'.mp hfind
    have hanswer : answer rs = .found r.address r.ttl := by rw [answer, hr]
    rw [hanswer] at hparse
    obtain ⟨-, ss, hwhole, hsame⟩ := h.sound _ _ hparse
    have huntil : untilA rs = untilA ss := by
      rcases (hwhole.comparable hreads).1 with hinit | hinit
      · exact (untilA_eq_of_initial hinit (answer_found hsame)).symm
      · exact untilA_eq_of_initial hinit hfind
    rw [huntil]
    exact hwhole.initial (untilA_initial ss)
  · intro rs hresponse hreads hlength
    have hparse := h.wellFormed rs hresponse hreads hlength
    rcases hresponse.parse_cases with hformat | hzero | ⟨ss, hloose, hend⟩
    · exact absurd (Option.some.inj (hformat.symm.trans hparse)).symm (answer_ne_format rs)
    · have hnil : rs = [] := List.length_eq_zero_iff.mp (hlength.trans hzero)
      obtain ⟨o, hquestions, -, -⟩ := hreads
      rw [hnil]
      exact ⟨o, hquestions, .nil o, Nat.zero_le _⟩
    · refine ((hreads.initial (untilA_initial rs)).comparable hloose).2 ?_
      have hle := (untilA_initial rs).length_le
      rcases hend with hfind | hlength'
      · rcases (hreads.comparable hloose).1 with hinit | hinit
        · exact hle.trans hinit.length_le
        · rw [← untilA_eq_of_initial hinit hfind]
          exact (untilA_initial ss).length_le
      · omega

/-- **Parsing is correct** exactly where the packet is tight. -/
theorem dnsParseResponse_iff (packet : List UInt8) : ParsesWell packet ↔ Tight packet :=
  ⟨ParsesWell.tight, Tight.parsesWell⟩

/-- A response whose answer begins with a pointer out of the packet. -/
def openName : List UInt8 :=
  [0, 0, 0x80, 0, 0, 0, 0, 1, 0, 0, 0, 0, 0xC0, 0xFF, 0, 1, 0, 1, 0, 0, 0, 60, 0, 4, 1, 2, 3, 4]

lemma openName_follows : Follows openName 12 (({ offset := 12 } : NameCursor).jump ((192 - 192) * 256 + 255)) :=
  .single (@NameStep.pointer _ _ 0xC0 0xFF rfl (by decide) rfl)

lemma openName_name : LooseName openName 12 2 :=
  ⟨by decide, _, openName_follows, by decide, by decide, .inr ⟨by decide, by decide⟩⟩

lemma openName_questions : questionCount openName = 0 := by decide

lemma openName_data : 12 + 2 + 10 + (recordAt openName (12 + 2)).rdlength.toNat ≤ openName.length := by
  decide

lemma openName_answers : 1 ≤ answerCount openName := by decide

lemma openName_records : Records (LooseName openName) openName 12 [recordAt openName (12 + 2)] :=
  .cons openName_name (by decide) openName_data (.nil _)

lemma openName_reads : Reads 191 (LooseName openName) openName [recordAt openName (12 + 2)] :=
  ⟨12, openName_questions ▸ .nil 12, openName_records, openName_answers⟩

lemma openName_isA : [recordAt openName (12 + 2)].find? AnswerRecord.isA ≠ none := by decide

/-- **An address behind a name that leaves the packet** is returned. -/
theorem address_after_open_name :
    ¬∀ (packet : List UInt8) (ip ttl : UInt32), dnsParseResponse packet = some (.found ip ttl) →
      ∃ rs, Reads 63 (WholeName packet) packet rs ∧ answer rs = .found ip ttl := by
  intro h
  have hresponse : IsResponse openName := ⟨by decide, by decide, by decide⟩
  obtain ⟨r, hr⟩ := Option.ne_none_iff_exists'.mp openName_isA
  have hparse := openName_reads.parse hresponse (.inl openName_isA)
  rw [answer, hr] at hparse
  obtain ⟨rs, ⟨o, hquestions, hrecords, -⟩, hsame⟩ := h openName _ _ hparse
  rw [openName_questions] at hquestions
  have hstart : o = 12 := (hquestions.mono (by decide)).unique (.nil 12)
  subst hstart
  cases hrecords with
  | nil => exact absurd rfl (answer_found hsame)
  | cons hwhole _ _ _ =>
    obtain ⟨c, hc, hzero, -, -⟩ := hwhole
    obtain rfl := hc.unique openName_follows (.zero hzero) (.past (by decide))
    exact nomatch hzero

end Whole

end AAAos
