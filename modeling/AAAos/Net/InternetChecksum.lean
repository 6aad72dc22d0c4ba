import AAAos.Net.Udp.Delivery

/-!
# The checksums of IP, UDP and TCP

`ip_checksum` of `net/ip/ip.c`, `udp_checksum` of `net/udp/udp.c` and `tcp_checksum` of `net/tcp/tcp.c`, against the
ones' complement sum of the 16-bit words they cover, as they lie in memory.

**What is proved.**  Up to 65535 bytes the 32 bits hold the plain sum of the words, so the fold is their ones'
complement sum (`sumOf_eq`).  A word more adds its value modulo 65535.  From that a stored checksum makes the sum
65535, and two sums that differ in one word are different modulo 65535, unless one word is zero and the other all ones
(`checksum_correct`).
-/

namespace AAAos

/-! ## The three checksums -/

/-- `TCP_PROTOCOL`. -/
def tcpProtocol : UInt8 := 6

/-- `tcp_pseudo_header_t`, in memory. -/
def tcpPseudoHeader (srcIp dstIp : UInt32) (tcpLength : UInt16) : List UInt8 :=
  wordBytes (htonl srcIp) ++ (wordBytes (htonl dstIp) ++ (0 :: tcpProtocol :: halfBytes (htons tcpLength)))

/-- `tcp_checksum`. -/
def tcpChecksum (srcIp dstIp : UInt32) (tcpData : List UInt8) : UInt16 :=
  complementSum (sumWords
    (sumWords 0 (tcpPseudoHeader srcIp dstIp (UInt16.ofNat tcpData.length))) tcpData)

/-- Which checksum it is, with the addresses of its pseudo-header. -/
inductive ChecksumKind
  | ip
  | udp (srcIp dstIp : UInt32)
  | tcp (srcIp dstIp : UInt32)

namespace ChecksumKind

def checksum (data : List UInt8) : ChecksumKind → UInt16
  | ip => ipChecksum data
  | udp srcIp dstIp => udpChecksum srcIp dstIp data
  | tcp srcIp dstIp => tcpChecksum srcIp dstIp data

/-- What is added before the data. -/
def pseudoHeader (data : List UInt8) : ChecksumKind → List UInt8
  | ip => []
  | udp srcIp dstIp => udpPseudoHeader srcIp dstIp (UInt16.ofNat data.length)
  | tcp srcIp dstIp => tcpPseudoHeader srcIp dstIp (UInt16.ofNat data.length)

/-- The bytes a checksum covers. -/
def covered (data : List UInt8) (k : ChecksumKind) : List UInt8 := k.pseudoHeader data ++ data

/-- The 32 bits before they are folded. -/
def sumOf (data : List UInt8) (k : ChecksumKind) : UInt32 := sumWords (sumWords 0 (k.pseudoHeader data)) data

lemma checksum_eq (k : ChecksumKind) (data : List UInt8) : k.checksum data = complementSum (k.sumOf data) := by
  cases k <;> rfl

end ChecksumKind

/-! ## Words -/

/-- The 16-bit words of some bytes, as they lie in memory.  An odd byte is a word with a zero. -/
def words : List UInt8 → List Nat
  | a :: b :: rest => (a.toNat + 256 * b.toNat) :: words rest
  | [a] => [a.toNat]
  | [] => []

lemma sum_words (l : List UInt8) : (words l).sum = wordSum l := by
  fun_induction words l with
  | case1 a b rest ih => simp [wordSum, ih]
  | case2 a => simp [wordSum]
  | case3 => rfl

lemma words_lt (l : List UInt8) : ∀ w ∈ words l, w < 2 ^ 16 := by
  fun_induction words l with
  | case1 a b rest ih =>
    intro w hw
    have ha := a.toNat_lt
    have hb := b.toNat_lt
    rcases List.mem_cons.mp hw with rfl | hrest
    · omega
    · exact ih w hrest
  | case2 a =>
    intro w hw
    have ha := a.toNat_lt
    rw [List.mem_singleton] at hw
    omega
  | case3 => simp

lemma wordSum_append {pre : List UInt8} (heven : 2 ∣ pre.length) (l : List UInt8) :
    wordSum (pre ++ l) = wordSum pre + wordSum l := by
  fun_induction wordSum pre with
  | case1 a b rest ih =>
    simp only [List.length_cons] at heven
    simp only [List.cons_append, wordSum, ih (by omega)]
    omega
  | case2 a => simp at heven
  | case3 => simp

/-! ## The sum -/

namespace ChecksumKind

variable {k : ChecksumKind} {data : List UInt8}

lemma length_pseudoHeader (k : ChecksumKind) (data : List UInt8) :
    (k.pseudoHeader data).length = 0 ∨ (k.pseudoHeader data).length = 12 := by
  cases k with
  | ip => exact Or.inl rfl
  | udp srcIp dstIp => exact Or.inr rfl
  | tcp srcIp dstIp => exact Or.inr rfl

lemma wordSum_covered (k : ChecksumKind) (data : List UInt8) :
    wordSum (k.covered data) = wordSum (k.pseudoHeader data) + wordSum data :=
  wordSum_append (by rcases k.length_pseudoHeader data with h | h <;> rw [h] <;> decide) data

lemma wordSum_covered_lt (h : data.length ≤ 65535) : wordSum (k.covered data) < 2 ^ 32 := by
  have hpseudo := wordSum_le (k.pseudoHeader data)
  have hdata := wordSum_le data
  rw [wordSum_covered]
  rcases k.length_pseudoHeader data with hlen | hlen <;> rw [hlen] at hpseudo <;> omega

/-- **No overflow.** -/
lemma toNat_sumOf (h : data.length ≤ 65535) : (k.sumOf data).toNat = wordSum (k.covered data) := by
  have hlt : wordSum (k.covered data) < 2 ^ 32 := wordSum_covered_lt h
  rw [wordSum_covered] at hlt ⊢
  have hfirst : (sumWords 0 (k.pseudoHeader data)).toNat = wordSum (k.pseudoHeader data) := by
    rw [toNat_sumWords (by rw [UInt32.toNat_zero]; omega), UInt32.toNat_zero, Nat.zero_add]
  rw [sumOf, toNat_sumWords (by rw [hfirst]; exact hlt), hfirst]

lemma toNat_foldSum_sumOf (h : data.length ≤ 65535) :
    (foldSum (k.sumOf data)).toNat = OnesComplement.sum (2 ^ 16) (words (k.covered data)) := by
  rw [toNat_foldSum, toNat_sumOf h, ← sum_words]
  refine OnesComplement.fold_fold_eq_sum (words_lt _) ?_
  rw [sum_words]
  exact wordSum_covered_lt h

/-! ## Storing and changing a word -/

lemma wordSum_store {pre post : List UInt8} (heven : 2 ∣ pre.length) (hdata : data = pre ++ 0 :: 0 :: post)
    (k : ChecksumKind) (x : UInt16) :
    wordSum (k.covered (pre ++ (halfBytes x ++ post))) = x.toNat + wordSum (k.covered data) := by
  have hlen : (pre ++ (halfBytes x ++ post)).length = data.length := by
    rw [hdata]
    simp [halfBytes]
  have hpseudo : k.pseudoHeader (pre ++ (halfBytes x ++ post)) = k.pseudoHeader data := by
    cases k with
    | ip => rfl
    | udp srcIp dstIp => rw [pseudoHeader, pseudoHeader, hlen]
    | tcp srcIp dstIp => rw [pseudoHeader, pseudoHeader, hlen]
  have hfield : wordSum (0 :: 0 :: post) = wordSum post := by simp [wordSum]
  rw [wordSum_covered, wordSum_covered, hpseudo, wordSum_append heven, wordSum_halfBytes, hdata,
    wordSum_append heven, hfield]
  omega

lemma checksum_modEq (h : data.length ≤ 65535) :
    (k.checksum data).toNat + wordSum (k.covered data) ≡ 0 [MOD 65535] := by
  have hmod : wordSum (k.covered data) ≡ (foldSum (k.sumOf data)).toNat [MOD 65535] := by
    rw [← toNat_sumOf h]
    exact (foldSum_modEq _).symm
  calc (k.checksum data).toNat + wordSum (k.covered data)
      ≡ (k.checksum data).toNat + (foldSum (k.sumOf data)).toNat [MOD 65535] := hmod.add_left _
    _ = 65535 := by rw [checksum_eq, toNat_complementSum]
    _ ≡ 0 [MOD 65535] := by decide

lemma checksum_stored (h : data.length ≤ 65535) {pre post : List UInt8} (heven : 2 ∣ pre.length)
    (hdata : data = pre ++ 0 :: 0 :: post) :
    k.checksum (pre ++ (halfBytes (k.checksum data) ++ post)) = 0 := by
  have hlen : (pre ++ (halfBytes (k.checksum data) ++ post)).length ≤ 65535 := by
    rw [hdata] at h
    simpa [halfBytes] using h
  have hsum := wordSum_store heven hdata k (k.checksum data)
  have hmod := checksum_modEq (k := k) h
  rw [← hsum] at hmod
  rw [checksum_eq, complementSum_eq_zero_iff]
  · rw [toNat_sumOf hlen]
    exact (Nat.modEq_zero_iff_dvd).mp hmod
  · -- the checksum of an empty sum is not zero
    rw [toNat_sumOf hlen, hsum, Nat.pos_iff_ne_zero]
    intro hzero
    have hcomplement := toNat_complementSum (k.sumOf data)
    have hempty : k.sumOf data = 0 := UInt32.toNat_inj.mp (by rw [toNat_sumOf h, UInt32.toNat_zero]; omega)
    rw [← checksum_eq, hempty] at hcomplement
    have hfold : (foldSum 0).toNat = 0 := by decide
    omega

end ChecksumKind

/-- The same bytes but for one word, which does not change between zero and all ones.  An odd byte at the end is half
of a word. -/
def OneWordChanged (l l' : List UInt8) : Prop :=
  (∃ pre w w' post, 2 ∣ pre.length ∧ l = pre ++ (halfBytes w ++ post) ∧ l' = pre ++ (halfBytes w' ++ post) ∧
      w ≠ w' ∧ ¬(w = 0 ∧ w' = 0xFFFF) ∧ ¬(w = 0xFFFF ∧ w' = 0)) ∨
    ∃ pre b b', 2 ∣ pre.length ∧ l = pre ++ [b] ∧ l' = pre ++ [b'] ∧ b ≠ b'

lemma OneWordChanged.not_modEq {l l' : List UInt8} (h : OneWordChanged l l') :
    ¬ wordSum l ≡ wordSum l' [MOD 65535] := by
  rintro hmod
  rcases h with ⟨pre, w, w', post, heven, rfl, rfl, hne, hup, hdown⟩ | ⟨pre, b, b', heven, rfl, rfl, hne⟩
  · have hw := w.toNat_lt
    have hw' := w'.toNat_lt
    rw [wordSum_append heven, wordSum_append heven, wordSum_halfBytes, wordSum_halfBytes] at hmod
    have hwords : w.toNat ≡ w'.toNat [MOD 65535] :=
      Nat.ModEq.add_right_cancel' _ (Nat.ModEq.add_left_cancel' _ hmod)
    have hnat : w.toNat ≠ w'.toNat := fun heq => hne (UInt16.toNat_inj.mp heq)
    have hones : (0xFFFF : UInt16).toNat = 65535 := rfl
    rw [← UInt16.toNat_inj, ← UInt16.toNat_inj, hones, UInt16.toNat_zero] at hup hdown
    unfold Nat.ModEq at hwords
    omega
  · have hb := b.toNat_lt
    have hb' := b'.toNat_lt
    rw [wordSum_append heven, wordSum_append heven] at hmod
    have hbytes : b.toNat ≡ b'.toNat [MOD 65535] := Nat.ModEq.add_left_cancel' _ hmod
    exact hne (UInt8.toNat_inj.mp (Nat.ModEq.eq_of_lt_of_lt hbytes (by omega) (by omega)))

/-- **The checksums are correct.**  For data up to 65535 bytes the 32 bits hold the sum of the words, the checksum is
the complement of their ones' complement sum, stored in a zero field at an even place it makes the checksum zero, and
it is different where one covered word is. -/
theorem checksum_correct (k : ChecksumKind) (data : List UInt8) (h : data.length ≤ 65535) :
    (k.sumOf data).toNat = (words (k.covered data)).sum ∧ (words (k.covered data)).sum < 2 ^ 32 ∧
      (k.checksum data).toNat = 65535 - OnesComplement.sum (2 ^ 16) (words (k.covered data)) ∧
      (∀ pre post, 2 ∣ pre.length → data = pre ++ 0 :: 0 :: post →
        k.checksum (pre ++ (halfBytes (k.checksum data) ++ post)) = 0) ∧
      ∀ (k' : ChecksumKind) (data' : List UInt8), data'.length ≤ 65535 →
        OneWordChanged (k.covered data) (k'.covered data') → k.checksum data ≠ k'.checksum data' := by
  refine ⟨?_, ?_, ?_, ?_, ?_⟩
  · rw [ChecksumKind.toNat_sumOf h, sum_words]
  · rw [sum_words]
    exact ChecksumKind.wordSum_covered_lt h
  · rw [← ChecksumKind.toNat_foldSum_sumOf h, ChecksumKind.checksum_eq]
    have hcomplement := toNat_complementSum (k.sumOf data)
    omega
  · intro pre post heven hdata
    exact ChecksumKind.checksum_stored h heven hdata
  · intro k' data' h' hchanged hsame
    have hmod := ChecksumKind.checksum_modEq (k := k) h
    have hmod' := ChecksumKind.checksum_modEq (k := k') h'
    rw [← hsame] at hmod'
    exact hchanged.not_modEq (Nat.ModEq.add_left_cancel' _ (hmod.trans hmod'.symm))

/-- An odd string, with the pseudo-header of UDP. -/
theorem checksum_correct_three_bytes :
    (ChecksumKind.udp 1 2).checksum ([] ++ (halfBytes ((ChecksumKind.udp 1 2).checksum [0, 0, 7]) ++ [7])) = 0 :=
  (checksum_correct (.udp 1 2) [0, 0, 7] (by decide)).2.2.2.1 [] [7] (by decide) rfl

end AAAos
