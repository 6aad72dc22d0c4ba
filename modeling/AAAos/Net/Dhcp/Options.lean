import AAAos.Net.Dhcp.LeaseTimes
import AAAos.Net.Dhcp.Requests

/-!
# The options of a packet

`dhcp_parse_options` walks the options: a code, a length, a value.  Each step is checked against the length that the
caller passes, and `dhcp_input` passes four bytes more than it received, as if the cookie came on top of what
`DHCP_PACKET_MIN_SIZE` leaves out.

**What goes wrong.**  Options that do not stop inside of the packet are read up to four bytes behind it
(`reads_behind_packet`).

**What is proved.**  The walk depends on no byte but those it reads (`dhcpParseOptions_congr`), and they are all
received exactly if the walk meets an END, or another stop, before the packet ends (`parseOffsets_lt_iff`).  Of options
that are well formed each value lands in its field, the last of its code, whatever stands between them
(`dhcpParseOptions_area`), and what the client builds is parsed back.  `dhcp_options_iff` puts these together.
-/

namespace AAAos

/-! ## What is read -/

/-- How many bytes of the value of an option are read. -/
def optionReads (code : UInt8) (len : Nat) : Nat :=
  if code = dhcpOptMsgType then min len 1
  else if len < 4 then 0
  else if code = dhcpOptDnsServer then if 8 ≤ len then 8 else 4
  else if code ∈ [dhcpOptSubnetMask, dhcpOptRouter, dhcpOptBroadcast, dhcpOptLeaseTime, dhcpOptServerId,
    dhcpOptRenewalTime, dhcpOptRebindingTime] then 4
  else 0

/-- The offsets that the loop of `dhcp_parse_options` reads. -/
def parseReads (options : Mem) (len : Nat) : Nat → Nat → List Nat
  | 0, _ => []
  | rounds + 1, ptr =>
    if len ≤ ptr then []
    else if options ptr = dhcpOptPad then ptr :: parseReads options len rounds (ptr + 1)
    else if options ptr = dhcpOptEnd then [ptr]
    else if len ≤ ptr + 1 then [ptr]
    else
      let optLen := (options (ptr + 1)).toNat
      if len < ptr + 2 + optLen then [ptr, ptr + 1]
      else
        ptr :: (ptr + 1) :: (List.range' (ptr + 2) (optionReads (options ptr) optLen) ++
          parseReads options len rounds (ptr + 2 + optLen))

/-- The offsets that are read to verify the cookie: up to the first byte that differs. -/
def cookieReads (options : Mem) : List Nat :=
  (List.range 4).filter fun j => ∀ k < j, options k = dhcpCookie.getD k 0

/-- The offsets that `dhcp_parse_options` reads. -/
def dhcpParseReads (options : Mem) (len : Nat) : List Nat :=
  if len < 4 then []
  else cookieReads options ++
    if (List.range 4).map options = dhcpCookie then parseReads options len len 4 else []

lemma optionReads_le (code : UInt8) (len : Nat) : optionReads code len ≤ len := by
  unfold optionReads
  split_ifs <;> omega

lemma map_range_eq_cookie {options : Mem} :
    (List.range 4).map options = dhcpCookie ↔ ∀ k < 4, options k = dhcpCookie.getD k 0 := by
  rw [show dhcpCookie = (List.range 4).map (dhcpCookie.getD · 0) from rfl, List.map_inj_left]
  exact forall_congr' fun k => by rw [List.mem_range]; rfl

/-! ## What is read was received -/

/-- A walk over received bytes that stops before they end, though it would go `slack` bytes on: at an END, at an option
that reaches too far, or where the walk would stop anyway, at an option that ends there and whose value is not read. -/
inductive StopsInside (slack : Nat) : List UInt8 → Prop
  | atEnd {rest : List UInt8} : StopsInside slack (dhcpOptEnd :: rest)
  | pad {rest : List UInt8} (h : StopsInside slack rest) : StopsInside slack (dhcpOptPad :: rest)
  | option {code len : UInt8} {rest : List UInt8} (hpad : code ≠ dhcpOptPad) (hend : code ≠ dhcpOptEnd)
      (hlen : len.toNat ≤ rest.length) (h : StopsInside slack (rest.drop len.toNat)) :
      StopsInside slack (code :: len :: rest)
  | truncated {code len : UInt8} {rest : List UInt8} (hpad : code ≠ dhcpOptPad) (hend : code ≠ dhcpOptEnd)
      (hlen : rest.length + slack < len.toNat) : StopsInside slack (code :: len :: rest)
  | last {code len : UInt8} {rest : List UInt8} (hpad : code ≠ dhcpOptPad) (hend : code ≠ dhcpOptEnd)
      (hlen : len.toNat = rest.length + slack) (hvalue : optionReads code len.toNat ≤ rest.length) :
      StopsInside slack (code :: len :: rest)

namespace StopsInside

variable {slack : Nat} {code len : UInt8} {rest : List UInt8}

lemma not_nil : ¬ StopsInside slack [] := by
  intro h
  cases h

lemma pad_iff : StopsInside slack (dhcpOptPad :: rest) ↔ StopsInside slack rest := by
  refine ⟨fun h => ?_, .pad⟩
  cases h with
  | pad h => exact h
  | option hpad => exact absurd rfl hpad
  | truncated hpad => exact absurd rfl hpad
  | last hpad => exact absurd rfl hpad

lemma not_code (hpad : code ≠ dhcpOptPad) (hend : code ≠ dhcpOptEnd) : ¬ StopsInside slack [code] := by
  intro h
  cases h with
  | atEnd => exact hend rfl
  | pad => exact hpad rfl

lemma option_iff (hpad : code ≠ dhcpOptPad) (hend : code ≠ dhcpOptEnd) : StopsInside slack (code :: len :: rest) ↔
    len.toNat ≤ rest.length ∧ StopsInside slack (rest.drop len.toNat) ∨ rest.length + slack < len.toNat ∨
      len.toNat = rest.length + slack ∧ optionReads code len.toNat ≤ rest.length := by
  constructor
  · intro h
    cases h with
    | atEnd => exact absurd rfl hend
    | pad => exact absurd rfl hpad
    | option _ _ hlen h => exact Or.inl ⟨hlen, h⟩
    | truncated _ _ hlen => exact Or.inr (Or.inl hlen)
    | last _ _ hlen hvalue => exact Or.inr (Or.inr ⟨hlen, hvalue⟩)
  · rintro (⟨hlen, h⟩ | hlen | ⟨hlen, hvalue⟩)
    · exact .option hpad hend hlen h
    · exact .truncated hpad hend hlen
    · exact .last hpad hend hlen hvalue

end StopsInside

section Inside

variable {options : Mem} {n slack : Nat}

lemma parseReads_lt {len rounds ptr a : Nat} (h : a ∈ parseReads options len rounds ptr) : a < len := by
  induction rounds generalizing ptr with
  | zero => exact absurd h List.not_mem_nil
  | succ rounds ih =>
    unfold parseReads at h
    dsimp only at h
    split_ifs at h with hend hpad hstop hlast hlong
    · exact absurd h List.not_mem_nil
    · rcases List.mem_cons.mp h with rfl | h
      · omega
      · exact ih h
    · rw [List.mem_singleton.mp h]
      omega
    · rw [List.mem_singleton.mp h]
      omega
    · rcases List.mem_cons.mp h with rfl | h
      · omega
      · rw [List.mem_singleton.mp h]
        omega
    · rcases List.mem_cons.mp h with rfl | h
      · omega
      rcases List.mem_cons.mp h with rfl | h
      · omega
      rcases List.mem_append.mp h with h | h
      · have hrange := List.mem_range'_1.mp h
        have hle := optionReads_le (options ptr) (options (ptr + 1)).toNat
        omega
      · exact ih h

lemma mem_parseReads {len rounds ptr : Nat} (hptr : ptr < len) : ptr ∈ parseReads options len (rounds + 1) ptr := by
  change ptr ∈ ite (len ≤ ptr) _ _
  rw [if_neg (Nat.not_le.mpr hptr)]
  dsimp only
  split_ifs <;> simp

lemma mem_parseReads_length {len rounds ptr : Nat} (hptr : ptr + 1 < len) (hpad : options ptr ≠ dhcpOptPad)
    (hstop : options ptr ≠ dhcpOptEnd) : ptr + 1 ∈ parseReads options len (rounds + 1) ptr := by
  change ptr + 1 ∈ ite (len ≤ ptr) _ _
  rw [if_neg (by omega), if_neg hpad, if_neg hstop, if_neg (Nat.not_le.mpr hptr)]
  dsimp only
  split_ifs <;> simp

lemma parseReads_end {len ptr : Nat} (hptr : len ≤ ptr) (rounds : Nat) : parseReads options len rounds ptr = [] := by
  cases rounds with
  | zero => rfl
  | succ rounds => exact if_pos hptr

/-- A range that ends before `n`. -/
lemma range'_lt_iff {ptr m count : Nat} (hn : ptr + m = n) : (∀ a ∈ List.range' ptr count, a < n) ↔ count ≤ m := by
  simp only [List.mem_range'_1]
  constructor
  · intro h
    by_contra hmore
    have hbehind := h n ⟨by omega, by omega⟩
    exact lt_irrefl n hbehind
  · intro h a ha
    omega

/-- **The walk.**  The bytes from `ptr` on are `rest`, and are `n` with those before. -/
lemma parseReads_lt_iff {rounds ptr : Nat} {rest : List UInt8} (hslack : 0 < slack) (hptr : ptr + rest.length = n)
    (hrest : ∀ j < rest.length, options (ptr + j) = rest.getD j 0) (hrounds : n + slack ≤ ptr + rounds) :
    (∀ a ∈ parseReads options (n + slack) rounds ptr, a < n) ↔ StopsInside slack rest := by
  induction rounds generalizing ptr rest with
  | zero => omega
  | succ rounds ih =>
    cases rest with
    | nil =>
      -- the code itself is not there
      refine iff_of_false (fun h => ?_) StopsInside.not_nil
      rw [List.length_nil] at hptr
      have hfirst := h ptr (mem_parseReads (by omega))
      omega
    | cons code rest =>
      rw [List.length_cons] at hptr hrest
      have hcode : options ptr = code := hrest 0 (Nat.succ_pos _)
      have hnext : ∀ j < rest.length, options (ptr + 1 + j) = rest.getD j 0 := fun j hj => by
        rw [Nat.add_assoc, Nat.add_comm 1 j, hrest (j + 1) (Nat.succ_lt_succ hj)]
        rfl
      by_cases hpad : code = dhcpOptPad
      · unfold parseReads
        rw [if_neg (by omega), hcode, if_pos hpad, hpad, StopsInside.pad_iff, List.forall_mem_cons, ih (by omega) hnext (by omega)]
        exact and_iff_right (by omega)
      by_cases hstop : code = dhcpOptEnd
      · unfold parseReads
        rw [if_neg (by omega), hcode, if_neg hpad, if_pos hstop, hstop, List.forall_mem_cons]
        exact iff_of_true ⟨by omega, fun a ha => absurd ha List.not_mem_nil⟩ .atEnd
      cases rest with
      | nil =>
        -- the length is not there
        refine iff_of_false (fun h => ?_) (StopsInside.not_code hpad hstop)
        rw [List.length_nil] at hptr
        have hlength := h (ptr + 1) (mem_parseReads_length (by omega) (hcode ▸ hpad) (hcode ▸ hstop))
        omega
      | cons len rest =>
        rw [List.length_cons] at hptr hnext
        have hlen : options (ptr + 1) = len := hnext 0 (Nat.succ_pos _)
        have hvalue : ∀ j < rest.length, options (ptr + 2 + j) = rest.getD j 0 := fun j hj => by
          rw [show ptr + 2 + j = ptr + 1 + (j + 1) by omega, hnext (j + 1) (Nat.succ_lt_succ hj)]
          rfl
        unfold parseReads
        rw [if_neg (by omega), hcode, if_neg hpad, if_neg hstop, if_neg (by omega), hlen,
          StopsInside.option_iff hpad hstop]
        dsimp only
        by_cases hlong : n + slack < ptr + 2 + len.toNat
        · rw [if_pos hlong]
          refine iff_of_true (fun a ha => ?_) (Or.inr (Or.inl (by omega)))
          rcases List.mem_cons.mp ha with rfl | ha
          · omega
          · rw [List.mem_singleton.mp ha]
            omega
        rw [if_neg hlong, List.forall_mem_cons, List.forall_mem_cons, List.forall_mem_append]
        have hle := optionReads_le code len.toNat
        rw [range'_lt_iff (show ptr + 2 + rest.length = n by omega)]
        by_cases hfits : len.toNat ≤ rest.length
        · have hdrop := @ih (ptr + 2 + len.toNat) (rest.drop len.toNat)
            (by rw [List.length_drop]; omega)
            (fun j hj => by
              rw [List.length_drop] at hj
              rw [Nat.add_assoc, hvalue (len.toNat + j) (by omega), List.getD_eq_getElem?_getD,
                List.getD_eq_getElem?_getD, List.getElem?_drop])
            (by omega)
          rw [hdrop]
          constructor
          · rintro ⟨-, -, -, h⟩
            exact Or.inl ⟨hfits, h⟩
          · rintro (⟨-, h⟩ | h | ⟨h, -⟩)
            · exact ⟨by omega, by omega, by omega, h⟩
            · omega
            · omega
        · constructor
          · rintro ⟨-, -, hreads', hwalk⟩
            refine Or.inr (Or.inr ⟨?_, hreads'⟩)
            by_contra hbefore
            -- the next code is not there
            obtain ⟨left, rfl⟩ := Nat.exists_eq_succ_of_ne_zero (show rounds ≠ 0 by omega)
            have hbehind := hwalk _ (mem_parseReads (by omega))
            omega
          · rintro (⟨h, -⟩ | h | ⟨h, hreads'⟩)
            · exact absurd h hfits
            · omega
            · refine ⟨by omega, by omega, hreads', fun a ha => ?_⟩
              rw [parseReads_end (by omega)] at ha
              exact absurd ha List.not_mem_nil

end Inside

/-! ## A received packet -/

/-- The options of a packet of `len` bytes, as far as they were received. -/
def received (packet : Mem) (len : Nat) : List UInt8 :=
  (List.range (len - dhcpPacketMinSize)).map fun j => packet (dhcpPacketMinSize + j)

/-- What `dhcp_input` adds to the number of option bytes that it received. -/
def optionsSlack (n : Nat) : Nat := min n dhcpOptionsMaxSize + 4 - n

/-- The walk stops inside of `n` received bytes: the cookie breaks off in another way, or the options behind it stop, or
there are more bytes than are looked at. -/
def OptionsStop (bytes : List UInt8) : Prop :=
  ¬ bytes <+: dhcpCookie ∧ ¬ dhcpCookie <+: bytes ∨ dhcpCookie <+: bytes ∧
      (dhcpOptionsMaxSize + 4 ≤ bytes.length ∨ StopsInside (optionsSlack bytes.length) (bytes.drop 4))

namespace DhcpClient

variable {c : DhcpClient} {packet : Mem} {len : Nat}

/-- The checks of `dhcp_input` before it parses. -/
def Passes (c : DhcpClient) (packet : Mem) (len : Nat) : Prop :=
  dhcpPacketMinSize ≤ len ∧ packet 0 = dhcpOpReply ∧ htonl (load32 packet 4) = c.xid ∧
    (fun j : Fin 6 => packet (28 + j)) = c.mac

instance : Decidable (c.Passes packet len) := inferInstanceAs (Decidable (_ ∧ _ ∧ _ ∧ _))

/-- The offsets in the packet that `dhcp_parse_options` reads. -/
def parseOffsets (c : DhcpClient) (packet : Mem) (len : Nat) : List Nat :=
  if c.Passes packet len then
    (dhcpParseReads (fun j => packet (dhcpPacketMinSize + j))
      (min (len - dhcpPacketMinSize) dhcpOptionsMaxSize + 4)).map (dhcpPacketMinSize + ·)
  else []

end DhcpClient

section Received

variable {options : Mem} {n : Nat}

lemma cookie_prefix_iff (hn : 4 ≤ n) : dhcpCookie <+: (List.range n).map options ↔
    (List.range 4).map options = dhcpCookie := by
  have htake : ((List.range n).map options).take 4 = (List.range 4).map options := by
    rw [← List.map_take, List.take_range, min_eq_left hn]
  rw [List.prefix_iff_eq_take, show dhcpCookie.length = 4 from rfl, htake]
  exact eq_comm

/-- The bytes of the cookie that are read were received, or the cookie breaks off with them. -/
lemma cookieReads_lt_iff : (∀ a ∈ cookieReads options, a < n) ↔ 4 ≤ n ∨ ¬ (List.range n).map options <+: dhcpCookie := by
  have hbefore : ∀ a, (∀ k < a, options k = dhcpCookie.getD k 0) ↔ (List.range a).map options =
      (List.range a).map (dhcpCookie.getD · 0) := by
    intro a
    rw [List.map_inj_left]
    exact forall_congr' fun k => by rw [List.mem_range]
  have hcookie : n < 4 → ((List.range n).map options <+: dhcpCookie ↔ ∀ k < n, options k = dhcpCookie.getD k 0) := by
    intro hn
    rw [hbefore, List.prefix_iff_eq_take, List.length_map, List.length_range]
    interval_cases n <;> rfl
  constructor
  · intro h
    by_contra hnot
    obtain ⟨hshort, hmatch⟩ := not_or.mp hnot
    have hread := h n (List.mem_filter.mpr ⟨List.mem_range.mpr (by omega),
      decide_eq_true ((hcookie (by omega)).mp (not_not.mp hmatch))⟩)
    exact lt_irrefl n hread
  · intro h a ha
    obtain ⟨hfour, hsame⟩ := List.mem_filter.mp ha
    have hfour := List.mem_range.mp hfour
    by_contra hbehind
    rcases h with hlong | hbreaks
    · omega
    · exact hbreaks ((hcookie (by omega)).mpr fun k hk => of_decide_eq_true hsame k (by omega))

lemma dhcpParseReads_lt_iff : (∀ a ∈ dhcpParseReads options (min n dhcpOptionsMaxSize + 4), a < n) ↔
    OptionsStop ((List.range n).map options) := by
  have hlength : ((List.range n).map options).length = n := by rw [List.length_map, List.length_range]
  unfold dhcpParseReads OptionsStop
  rw [if_neg (by omega), List.forall_mem_append, cookieReads_lt_iff, hlength]
  by_cases hfour : 4 ≤ n
  · rw [cookie_prefix_iff hfour]
    have hlong : ∀ h : (List.range n).map options <+: dhcpCookie, n = 4 := fun h => by
      have hle := h.length_le
      rw [hlength, show dhcpCookie.length = 4 from rfl] at hle
      omega
    by_cases hmatch : (List.range 4).map options = dhcpCookie
    · rw [if_pos hmatch]
      have hwalk : (∀ a ∈ parseReads options (min n dhcpOptionsMaxSize + 4) (min n dhcpOptionsMaxSize + 4) 4, a < n) ↔
          dhcpOptionsMaxSize + 4 ≤ n ∨ StopsInside (optionsSlack n) (((List.range n).map options).drop 4) := by
        by_cases hall : dhcpOptionsMaxSize + 4 ≤ n
        · refine iff_of_true (fun a ha => ?_) (Or.inl hall)
          have hlt := parseReads_lt ha
          omega
        · have hsum : min n dhcpOptionsMaxSize + 4 = n + optionsSlack n := by
            unfold optionsSlack
            omega
          rw [hsum, or_iff_right hall]
          refine parseReads_lt_iff (by unfold optionsSlack; omega) ?_ (fun j hj => ?_) (by omega)
          · rw [List.length_drop, hlength]
            omega
          · rw [List.length_drop, hlength] at hj
            rw [List.getD_eq_getElem?_getD, List.getElem?_drop, List.getElem?_map, List.getElem?_range (by omega)]
            rfl
      rw [hwalk]
      constructor
      · rintro ⟨-, h⟩
        exact Or.inr ⟨hmatch, h⟩
      · rintro (⟨-, h⟩ | ⟨-, h⟩)
        · exact absurd hmatch h
        · exact ⟨Or.inl hfour, h⟩
    · rw [if_neg hmatch]
      refine iff_of_true ⟨Or.inl hfour, fun a ha => absurd ha List.not_mem_nil⟩ (Or.inl ⟨fun h => hmatch ?_, hmatch⟩)
      rw [← hlong h]
      exact h.eq_of_length (by rw [hlength, hlong h]; rfl)
  · -- not all of the cookie was received
    have hnot : ¬ dhcpCookie <+: (List.range n).map options := fun h => by
      have hle := h.length_le
      rw [hlength, show dhcpCookie.length = 4 from rfl] at hle
      exact hfour hle
    rw [or_iff_right hfour, and_iff_left hnot, or_iff_left fun h => hnot h.1, and_iff_left_iff_imp]
    intro hbreaks a ha
    split_ifs at ha with hmatch
    · refine absurd ?_ hbreaks
      have htake : (List.range n).map options = ((List.range 4).map options).take n := by
        rw [← List.map_take, List.take_range, min_eq_left (by omega)]
      rw [htake, hmatch]
      exact List.take_prefix _ _
    · exact absurd ha List.not_mem_nil

end Received

/-- **What is read was received**, exactly if the options stop inside of the packet. -/
lemma DhcpClient.parseOffsets_lt_iff (c : DhcpClient) (packet : Mem) (len : Nat) :
    (∀ a ∈ c.parseOffsets packet len, a < len) ↔ (c.Passes packet len → OptionsStop (received packet len)) := by
  unfold parseOffsets
  by_cases hpasses : c.Passes packet len
  · have hmin : dhcpPacketMinSize ≤ len := hpasses.1
    rw [if_pos hpasses, List.forall_mem_map]
    have hshift : (∀ a ∈ dhcpParseReads (fun j => packet (dhcpPacketMinSize + j))
        (min (len - dhcpPacketMinSize) dhcpOptionsMaxSize + 4), dhcpPacketMinSize + a < len) ↔
        ∀ a ∈ dhcpParseReads (fun j => packet (dhcpPacketMinSize + j))
          (min (len - dhcpPacketMinSize) dhcpOptionsMaxSize + 4), a < len - dhcpPacketMinSize :=
      forall₂_congr fun a _ => by omega
    rw [hshift, dhcpParseReads_lt_iff]
    exact ⟨fun h _ => h, fun h => h hpasses⟩
  · rw [if_neg hpasses]
    exact iff_of_true (fun a ha => absurd ha List.not_mem_nil) fun h => absurd h hpasses

/-! ## Well-formed options -/

/-- An option that can be written: its code is not one of the two that stand alone, and its length is a byte. -/
structure DhcpOption where
  code : UInt8
  data : List UInt8
  not_pad : code ≠ dhcpOptPad
  not_end : code ≠ dhcpOptEnd
  short : data.length < 256

/-- What stands between the cookie and the END. -/
inductive DhcpItem
  | pad
  | option (o : DhcpOption)

namespace DhcpItem

def bytes : DhcpItem → List UInt8
  | .pad => [dhcpOptPad]
  | .option o => dhcpOption o.code o.data

/-- The word at `k` of the value, of an option of a code that has at least `need` bytes. -/
def word (code : UInt8) (need k : Nat) : DhcpItem → Option UInt32
  | .pad => none
  | .option o => if o.code = code ∧ need ≤ o.data.length then some (loadWord o.data k) else none

/-- The first byte of the value. -/
def byte (code : UInt8) : DhcpItem → Option UInt8
  | .pad => none
  | .option o => if o.code = code ∧ 1 ≤ o.data.length then some (o.data.getD 0 0) else none

/-- The last of the items that has what is looked for. -/
def lastOf {β : Type} (f : DhcpItem → Option β) (items : List DhcpItem) : Option β := items.reverse.findSome? f

end DhcpItem

open DhcpItem

/-- Cookie, items, END. -/
def optionArea (items : List DhcpItem) : List UInt8 := dhcpCookie ++ (items.flatMap bytes ++ [dhcpOptEnd])

/-- The value of a field: that of the last option of its code, or else zero. -/
def fieldOf (items : List DhcpItem) (code : UInt8) (need k : Nat) : UInt32 := (lastOf (word code need k) items).getD 0

/-- **What the items say.** -/
def leaseOf (items : List DhcpItem) : DhcpLease where
  subnetMask := fieldOf items dhcpOptSubnetMask 4 0
  gateway := fieldOf items dhcpOptRouter 4 0
  dnsServer := fieldOf items dhcpOptDnsServer 4 0
  dnsServer2 := fieldOf items dhcpOptDnsServer 8 4
  broadcast := fieldOf items dhcpOptBroadcast 4 0
  serverIp := fieldOf items dhcpOptServerId 4 0
  leaseTime := htonl (fieldOf items dhcpOptLeaseTime 4 0)
  renewalTime := htonl (fieldOf items dhcpOptRenewalTime 4 0)
  rebindTime := htonl (fieldOf items dhcpOptRebindingTime 4 0)

/-- The message type, or else zero. -/
def msgTypeOf (items : List DhcpItem) : UInt8 := (lastOf (byte dhcpOptMsgType) items).getD 0

section Area

variable {options : Mem} {len : Nat}

/-- One item. -/
def DhcpLease.takeItem (lease : DhcpLease) (item : DhcpItem) : DhcpLease :=
  { lease with
    subnetMask := (item.word dhcpOptSubnetMask 4 0).getD lease.subnetMask
    gateway := (item.word dhcpOptRouter 4 0).getD lease.gateway
    dnsServer := (item.word dhcpOptDnsServer 4 0).getD lease.dnsServer
    dnsServer2 := (item.word dhcpOptDnsServer 8 4).getD lease.dnsServer2
    broadcast := (item.word dhcpOptBroadcast 4 0).getD lease.broadcast
    serverIp := (item.word dhcpOptServerId 4 0).getD lease.serverIp
    leaseTime := ((item.word dhcpOptLeaseTime 4 0).map htonl).getD lease.leaseTime
    renewalTime := ((item.word dhcpOptRenewalTime 4 0).map htonl).getD lease.renewalTime
    rebindTime := ((item.word dhcpOptRebindingTime 4 0).map htonl).getD lease.rebindTime }

lemma foldl_getD {α β : Type} (f : α → Option β) (b : β) (l : List α) :
    l.foldl (fun b a => (f a).getD b) b = (l.reverse.findSome? f).getD b := by
  induction l using List.reverseRecOn with
  | nil => rfl
  | append_singleton l a ih =>
    rw [List.foldl_append, List.foldl_cons, List.foldl_nil, ih, List.reverse_append, List.reverse_singleton,
      List.singleton_append, List.findSome?_cons]
    cases f a <;> rfl

lemma field_foldl {β : Type} (φ : DhcpLease → β) (f : DhcpItem → Option β)
    (h : ∀ lease item, φ (DhcpLease.takeItem lease item) = (f item).getD (φ lease)) (lease : DhcpLease)
    (items : List DhcpItem) : φ (items.foldl DhcpLease.takeItem lease) = (lastOf f items).getD (φ lease) := by
  rw [lastOf, ← foldl_getD]
  exact (List.foldl_hom φ fun lease item => (h lease item).symm).symm

lemma findSome?_map {α β γ : Type} (f : α → Option β) (g : β → γ) (l : List α) :
    l.findSome? (fun a => (f a).map g) = (l.findSome? f).map g := by
  induction l with
  | nil => rfl
  | cons a l ih =>
    rw [List.findSome?_cons, List.findSome?_cons]
    cases f a with
    | none => exact ih
    | some b => rfl

lemma time_foldl (φ : DhcpLease → UInt32) (code : UInt8)
    (h : ∀ lease item, φ (DhcpLease.takeItem lease item) = ((word code 4 0 item).map htonl).getD (φ lease))
    (hzero : φ {} = 0) (items : List DhcpItem) :
    φ (items.foldl DhcpLease.takeItem {}) = htonl (fieldOf items code 4 0) := by
  rw [field_foldl φ _ h, lastOf, findSome?_map, hzero, fieldOf, lastOf]
  cases items.reverse.findSome? (word code 4 0) <;> rfl

lemma foldl_takeItem (items : List DhcpItem) : items.foldl DhcpLease.takeItem {} = leaseOf items := by
  have hframe : ∀ lease : DhcpLease, (items.foldl DhcpLease.takeItem lease).ipAddr = lease.ipAddr ∧
      (items.foldl DhcpLease.takeItem lease).obtainedTime = lease.obtainedTime ∧
      (items.foldl DhcpLease.takeItem lease).valid = lease.valid := by
    induction items with
    | nil => exact fun lease => ⟨rfl, rfl, rfl⟩
    | cons item items ih => exact fun lease => ih (lease.takeItem item)
  obtain ⟨haddr, htime, hvalid⟩ := hframe {}
  refine DhcpLease.ext ?_ ?_ ?_ ?_ ?_ ?_ ?_ ?_ ?_ ?_ ?_ ?_
  · exact haddr
  · exact field_foldl DhcpLease.subnetMask _ (fun _ _ => rfl) {} items
  · exact field_foldl DhcpLease.gateway _ (fun _ _ => rfl) {} items
  · exact field_foldl DhcpLease.dnsServer _ (fun _ _ => rfl) {} items
  · exact field_foldl DhcpLease.dnsServer2 _ (fun _ _ => rfl) {} items
  · exact field_foldl DhcpLease.broadcast _ (fun _ _ => rfl) {} items
  · exact field_foldl DhcpLease.serverIp _ (fun _ _ => rfl) {} items
  · exact time_foldl DhcpLease.leaseTime _ (fun _ _ => rfl) rfl items
  · exact time_foldl DhcpLease.renewalTime _ (fun _ _ => rfl) rfl items
  · exact time_foldl DhcpLease.rebindTime _ (fun _ _ => rfl) rfl items
  · exact htime
  · exact hvalid

/-- The bytes are in memory from an offset on. -/
def HoldsAt (m : Mem) (a : Nat) (bytes : List UInt8) : Prop := ∀ j < bytes.length, m (a + j) = bytes.getD j 0

lemma HoldsAt.append_left {m : Mem} {a : Nat} {l l' : List UInt8} (h : HoldsAt m a (l ++ l')) : HoldsAt m a l := by
  intro j hj
  rw [h j (by rw [List.length_append]; omega), List.getD_eq_getElem?_getD, List.getD_eq_getElem?_getD,
    List.getElem?_append_left hj]

lemma HoldsAt.append_right {m : Mem} {a : Nat} {l l' : List UInt8} (h : HoldsAt m a (l ++ l')) :
    HoldsAt m (a + l.length) l' := by
  intro j hj
  rw [Nat.add_assoc, h (l.length + j) (by rw [List.length_append]; omega), List.getD_eq_getElem?_getD,
    List.getD_eq_getElem?_getD, List.getElem?_append_right (Nat.le_add_right _ _), Nat.add_sub_cancel_left]

lemma HoldsAt.load32 {m : Mem} {a k : Nat} {l : List UInt8} (h : HoldsAt m a l) (hk : k + 4 ≤ l.length) :
    load32 m (a + k) = loadWord l k := by
  have hbyte : ∀ j < 4, m (a + k + j) = l.getD (k + j) 0 := fun j hj => by
    rw [Nat.add_assoc]
    exact h (k + j) (by omega)
  have h0 := (l.getD k 0).toNat_lt
  have h1 := (l.getD (k + 1) 0).toNat_lt
  refine UInt32.toNat_inj.mp ?_
  unfold AAAos.load32 loadWord load16
  rw [readLE, readLE, readLE, readLE, readLE, show a + k + 1 + 1 = a + k + 2 from rfl,
    show a + k + 2 + 1 = a + k + 3 from rfl, show k + 2 + 1 = k + 3 from rfl, hbyte 1 (by decide), hbyte 2 (by decide), hbyte 3 (by decide),
    show m (a + k) = l.getD k 0 from hbyte 0 (by decide)]
  simp only [UInt32.toNat_ofNat', UInt32.toNat_add, UInt32.toNat_shiftLeft, UInt16.toNat_toUInt32, UInt16.toNat_add,
    UInt16.toNat_shiftLeft, UInt8.toNat_toUInt16, Nat.shiftLeft_eq, show (8 : UInt16).toNat % 16 = 8 from rfl,
    show (16 : UInt32).toNat % 32 = 16 from rfl]
  omega

/-- **One option of the source** is one item. -/
lemma setOption_eq {lease : DhcpLease} {o : DhcpOption} {ptr : Nat} (h : HoldsAt options ptr o.data) :
    lease.setOption options o.code o.data.length ptr = lease.takeItem (.option o) := by
  have hword : ∀ code need k, k + 4 ≤ need → word code need k (.option o) =
      if o.code = code ∧ need ≤ o.data.length then some (AAAos.load32 options (ptr + k)) else none := by
    intro code need k hk
    rw [word]
    by_cases htakes : o.code = code ∧ need ≤ o.data.length
    · rw [if_pos htakes, if_pos htakes, h.load32 (by omega)]
    · rw [if_neg htakes, if_neg htakes]
  unfold DhcpLease.takeItem
  rw [hword _ 4 0 (by decide), hword _ 4 0 (by decide), hword _ 4 0 (by decide), hword _ 8 4 (by decide),
    hword _ 4 0 (by decide), hword _ 4 0 (by decide), hword _ 4 0 (by decide), hword _ 4 0 (by decide),
    hword _ 4 0 (by decide)]
  generalize o.code = code
  generalize o.data.length = len
  unfold DhcpLease.setOption
  by_cases hshort : len < 4
  · have hfour : ¬ 4 ≤ len := by omega
    have height : ¬ 8 ≤ len := by omega
    simp only [if_pos hshort, hfour, height, and_false, if_false, Option.map_none, Option.getD_none]
  have hfour : 4 ≤ len := by omega
  rw [if_neg hshort]
  -- one case for each code, in which the others are skipped
  simp only [hfour, and_true, dhcpOptSubnetMask, dhcpOptRouter, dhcpOptDnsServer, dhcpOptBroadcast, dhcpOptLeaseTime,
    dhcpOptServerId, dhcpOptRenewalTime, dhcpOptRebindingTime]
  by_cases hmask : code = 1
  · subst hmask
    simp
  by_cases hrouter : code = 3
  · subst hrouter
    simp
  by_cases hdns : code = 6
  · subst hdns
    by_cases hlong : 8 ≤ len <;> simp [hlong]
  by_cases hbroadcast : code = 28
  · subst hbroadcast
    simp
  by_cases hlease : code = 51
  · subst hlease
    simp
  by_cases hserver : code = 54
  · subst hserver
    simp
  by_cases hrenewal : code = 58
  · subst hrenewal
    simp
  by_cases hrebinding : code = 59
  · subst hrebinding
    simp
  · simp [hmask, hrouter, hdns, hbroadcast, hlease, hserver, hrenewal, hrebinding]

lemma parseOptions_area {items : List DhcpItem} {rounds ptr : Nat} {lease : DhcpLease} {msgType : UInt8}
    (h : HoldsAt options ptr (items.flatMap bytes ++ [dhcpOptEnd]))
    (hlen : ptr + (items.flatMap bytes).length + 1 ≤ len) (hrounds : (items.flatMap bytes).length + 1 ≤ rounds) :
    parseOptions options len rounds ptr lease msgType = (items.foldl DhcpLease.takeItem lease,
        items.foldl (fun b item => (byte dhcpOptMsgType item).getD b) msgType) := by
  induction items generalizing ptr rounds lease msgType with
  | nil =>
    obtain ⟨rounds, rfl⟩ := Nat.exists_eq_succ_of_ne_zero (by omega : rounds ≠ 0)
    have hcode : options ptr = dhcpOptEnd := h 0 (Nat.succ_pos _)
    rw [List.flatMap_nil, List.length_nil] at hlen
    rw [parseOptions, if_neg (by omega), if_neg (by rw [hcode]; decide), if_pos hcode]
    rfl
  | cons item items ih =>
    obtain ⟨rounds, rfl⟩ := Nat.exists_eq_succ_of_ne_zero (by omega : rounds ≠ 0)
    rw [List.flatMap_cons, List.append_assoc] at h
    rw [List.flatMap_cons, List.length_append] at hlen hrounds
    have hitem := h.append_left
    have hitems := h.append_right
    rw [List.foldl_cons, List.foldl_cons, parseOptions]
    cases item with
    | pad =>
      have hcode : options ptr = dhcpOptPad := hitem 0 (Nat.succ_pos _)
      change ptr + (1 + _) + 1 ≤ len at hlen
      change 1 + _ + 1 ≤ _ at hrounds
      rw [if_neg (by omega), if_pos hcode]
      exact ih hitems (by omega) (by omega)
    | option o =>
      have hshort : (UInt8.ofNat o.data.length).toNat = o.data.length := UInt8.toNat_ofNat_of_lt' o.short
      have hcode : options ptr = o.code := hitem 0 (Nat.succ_pos _)
      have hlength : options (ptr + 1) = UInt8.ofNat o.data.length := hitem 1 (Nat.succ_lt_succ (Nat.succ_pos _))
      have hdata : HoldsAt options (ptr + 2) o.data := by
        have happend : bytes (.option o) = [o.code, UInt8.ofNat o.data.length] ++ o.data := rfl
        rw [happend] at hitem
        exact hitem.append_right
      have hsize : (bytes (.option o)).length = o.data.length + 2 := rfl
      rw [hsize] at hlen hrounds hitems
      rw [if_neg (by omega), hcode, if_neg o.not_pad, if_neg o.not_end, if_neg (by omega), hlength, hshort]
      dsimp only
      rw [if_neg (by omega), setOption_eq hdata, show ptr + 2 + o.data.length = ptr + (o.data.length + 2) by omega,
        ih hitems (by omega) (by omega)]
      refine Prod.ext rfl (congrArg (fun b => items.foldl _ b) ?_)
      rw [byte]
      by_cases htype : o.code = dhcpOptMsgType ∧ 1 ≤ o.data.length
      · rw [if_pos htype, if_pos htype]
        exact hdata 0 htype.2
      · rw [if_neg htype, if_neg htype]
        rfl

/-- **Well-formed options are parsed**: each value lands in its field. -/
lemma dhcpParseOptions_area {items : List DhcpItem} (h : HoldsAt options 0 (optionArea items))
    (hlen : (optionArea items).length ≤ len) :
    dhcpParseOptions options len = some (leaseOf items, msgTypeOf items) := by
  have hsize : (optionArea items).length = 4 + ((items.flatMap bytes).length + 1) := by
    rw [optionArea, List.length_append, List.length_append]
    rfl
  have hcookie : (List.range 4).map options = dhcpCookie := map_range_eq_cookie.mpr fun k hk => by
    have hbyte := h.append_left k hk
    rw [Nat.zero_add] at hbyte
    exact hbyte
  have hwalk := @parseOptions_area options len items len 4 {} 0 h.append_right (by omega) (by omega)
  rw [dhcpParseOptions, if_neg (not_or.mpr ⟨by omega, not_not.mpr hcookie⟩), hwalk, foldl_takeItem, foldl_getD]
  rfl

end Area

/-! ## What the client builds -/

namespace DhcpClient

variable (c : DhcpClient) (offeredIp serverIp : UInt32)

def msgTypeItem (msgType : UInt8) : DhcpItem :=
  .option { code := dhcpOptMsgType, data := [msgType], not_pad := by decide, not_end := by decide,
            short := Nat.lt_of_sub_eq_succ rfl }

def clientIdItem : DhcpItem :=
  .option { code := dhcpOptClientId, data := dhcpHtypeEthernet :: List.ofFn c.mac, not_pad := by decide,
            not_end := by decide, short := c.length_clientId }

def paramsItem : DhcpItem :=
  .option { code := dhcpOptParamRequest, data := dhcpParams, not_pad := by decide, not_end := by decide,
            short := by decide }

def requestedIpItem : DhcpItem :=
  .option { code := dhcpOptRequestedIp, data := wordBytes offeredIp, not_pad := by decide, not_end := by decide,
            short := Nat.lt_of_sub_eq_succ rfl }

def serverIdItem : DhcpItem :=
  .option { code := dhcpOptServerId, data := wordBytes serverIp, not_pad := by decide, not_end := by decide,
            short := Nat.lt_of_sub_eq_succ rfl }

lemma options_discover_eq : c.dhcpBuildDiscover.options =
    optionArea [msgTypeItem dhcpMsgDiscover, c.clientIdItem, paramsItem] := by
  simp [dhcpBuildDiscover, optionArea, msgTypeItem, clientIdItem, paramsItem, bytes, clientId]

lemma options_request_eq : (c.dhcpBuildRequest offeredIp serverIp).options =
    optionArea ([msgTypeItem dhcpMsgRequest, c.clientIdItem] ++
      (if c.state = .selecting ∨ c.state = .initReboot ∨ c.state = .rebooting then [requestedIpItem offeredIp] else []) ++
      (if c.state = .selecting then [serverIdItem serverIp] else []) ++ [paramsItem]) := by
  unfold dhcpBuildRequest requestedIpOption serverIdOption
  split_ifs <;> simp [optionArea, msgTypeItem, clientIdItem, requestedIpItem, serverIdItem, paramsItem, bytes, clientId]

lemma options_release_eq : c.dhcpBuildRelease.options =
    optionArea [msgTypeItem dhcpMsgRelease, serverIdItem c.lease.serverIp, c.clientIdItem] := by
  simp [dhcpBuildRelease, optionArea, msgTypeItem, serverIdItem, clientIdItem, bytes, clientId]

lemma word_serverId : word dhcpOptServerId 4 0 (serverIdItem serverIp) = some serverIp := by
  have hword := loadWord_wordBytes serverIp []
  rw [List.append_nil] at hword
  exact congrArg some hword

/-- **What is built is parsed back**: the message type, and the server where it is named. -/
lemma parse_discover {m : Mem} {len : Nat} (h : HoldsAt m 0 c.dhcpBuildDiscover.options)
    (hlen : c.dhcpBuildDiscover.options.length ≤ len) :
    (dhcpParseOptions m len).map (fun p => (p.2, p.1.serverIp)) = some (dhcpMsgDiscover, 0) := by
  rw [options_discover_eq] at h hlen
  rw [dhcpParseOptions_area h hlen]
  rfl

lemma parse_request {m : Mem} {len : Nat} (h : HoldsAt m 0 (c.dhcpBuildRequest offeredIp serverIp).options)
    (hlen : (c.dhcpBuildRequest offeredIp serverIp).options.length ≤ len) :
    (dhcpParseOptions m len).map (fun p => (p.2, p.1.serverIp)) =
      some (dhcpMsgRequest, if c.state = .selecting then serverIp else 0) := by
  rw [options_request_eq] at h hlen
  rw [dhcpParseOptions_area h hlen]
  have hword := word_serverId serverIp
  by_cases hselecting : c.state = .selecting
  · rw [if_pos hselecting, if_pos hselecting, if_pos (Or.inl hselecting)]
    refine congrArg some (Prod.ext rfl ?_)
    exact congrArg (fun w => w.getD 0) hword
  · rw [if_neg hselecting, if_neg hselecting]
    split_ifs <;> rfl

lemma parse_release {m : Mem} {len : Nat} (h : HoldsAt m 0 c.dhcpBuildRelease.options)
    (hlen : c.dhcpBuildRelease.options.length ≤ len) :
    (dhcpParseOptions m len).map (fun p => (p.2, p.1.serverIp)) = some (dhcpMsgRelease, c.lease.serverIp) := by
  rw [options_release_eq] at h hlen
  rw [dhcpParseOptions_area h hlen]
  refine congrArg some (Prod.ext rfl ?_)
  exact congrArg (fun w => w.getD 0) (word_serverId c.lease.serverIp)

end DhcpClient

/-! ## Options of every packet -/

/-- **The options.**  The bytes that are read were received exactly if the options stop inside of the packet; options
that are well formed are parsed completely; and what the client builds is parsed back. -/
theorem dhcp_options_iff (c : DhcpClient) (packet : Mem) (len : Nat) (items : List DhcpItem) (m : Mem) (n : Nat) :
    ((∀ a ∈ c.parseOffsets packet len, a < len) ↔ (c.Passes packet len → OptionsStop (received packet len))) ∧
    (HoldsAt m 0 (optionArea items) → (optionArea items).length ≤ n →
      dhcpParseOptions m n = some (leaseOf items, msgTypeOf items)) ∧
    (HoldsAt m 0 c.dhcpBuildDiscover.options → c.dhcpBuildDiscover.options.length ≤ n →
      (dhcpParseOptions m n).map (fun p => (p.2, p.1.serverIp)) = some (dhcpMsgDiscover, 0)) ∧
    (∀ offeredIp serverIp, HoldsAt m 0 (c.dhcpBuildRequest offeredIp serverIp).options →
      (c.dhcpBuildRequest offeredIp serverIp).options.length ≤ n →
        (dhcpParseOptions m n).map (fun p => (p.2, p.1.serverIp)) =
          some (dhcpMsgRequest, if c.state = .selecting then serverIp else 0)) ∧
    (HoldsAt m 0 c.dhcpBuildRelease.options → c.dhcpBuildRelease.options.length ≤ n →
      (dhcpParseOptions m n).map (fun p => (p.2, p.1.serverIp)) = some (dhcpMsgRelease, c.lease.serverIp)) :=
  ⟨c.parseOffsets_lt_iff packet len, fun h hlen => dhcpParseOptions_area h hlen,
    fun h hlen => c.parse_discover h hlen, fun offeredIp serverIp h hlen => c.parse_request offeredIp serverIp h hlen,
    fun h hlen => c.parse_release h hlen⟩

/-- An ACK without an END: the byte behind the packet is read. -/
theorem reads_behind_packet : ∃ packet : Mem, (243 : Nat) ∈
    (LeaseRun.leased 2).dhcp.client.parseOffsets packet 243 := by
  refine ⟨LeaseRun.serverPacket [dhcpOptMsgType, 1, dhcpMsgAck], ?_⟩
  decide

end AAAos
