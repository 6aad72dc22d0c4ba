import AAAos.Net.Dns.Cache
import AAAos.Net.Dns.Name
import Mathlib.Data.List.DropRight

/-!
# Writing a name of the DNS

`dns_validate_hostname` and `dns_encode_name` (`net/dns/dns.c`): which strings are hostnames, and the bytes of
one in a packet.

**What is not so.**  The limits are 63 characters for a label and 255 for the string.  The first makes the
validator refuse strings that the rules for labels allow, and the second does not keep the encoding within
255 bytes, which is two bytes longer than the string (`hostname_limits`).

**What is proved.**  The validator accepts exactly the hostnames within the two limits, and the encoding of
one is read back by `dns_decode_name`, wherever it lies in a packet (`hostname_roundTrips`).
-/

namespace AAAos

def dnsErrNoMemory : Int := -4

/-- `'-'`. -/
def charHyphen : UInt8 := 45

/-- A letter, a digit or a hyphen. -/
def hostChar (c : UInt8) : Bool :=
  97 ≤ c && c ≤ 122 || 65 ≤ c && c ≤ 90 || 48 ≤ c && c ≤ 57 || c == charHyphen

/-! ## The validator -/

/-- The loop of `dns_validate_hostname` from the index `i` on. -/
def validateFrom : List UInt8 → Nat → Nat → Bool → Bool
  | [], _, labelLen, _ => !decide (dnsMaxLabelLen < labelLen)
  | c :: rest, i, labelLen, prevWasDot =>
    if c = charDot then
      if prevWasDot && 0 < i then false
      else if dnsMaxLabelLen < labelLen then false
      else validateFrom rest (i + 1) 0 true
    else if !hostChar c then false
    else if c == charHyphen && (prevWasDot || rest.headD 0 == charDot || rest.headD 0 == 0) then false
    else validateFrom rest (i + 1) (labelLen + 1) false

/-- `dns_validate_hostname`. -/
def dnsValidateHostname (hostname : CString) : Bool :=
  if hostname.1 = [] then false
  else if dnsMaxNameLen < hostname.1.length then false
  else validateFrom hostname.1 0 0 true

/-! ## The encoder -/

/-- The loop of `dns_encode_name`: what is left of the string, and what is in the buffer. -/
def encodeFrom (bufsize : Nat) (labelStart buf : List UInt8) : Except Int (List UInt8) :=
  if labelStart = [] then .ok buf
  else
    let label := labelStart.takeWhile (· != charDot)
    let labelEnd := labelStart.dropWhile (· != charDot)
    if label = [] then encodeFrom bufsize labelStart.tail buf
    else if dnsMaxLabelLen < label.length then .error dnsErrInvalidName
    else if bufsize ≤ buf.length + label.length + 1 then .error dnsErrNoMemory
    else encodeFrom bufsize labelEnd.tail (buf ++ UInt8.ofNat label.length :: label)
termination_by labelStart.length
decreasing_by
  · have hpos := List.length_pos_of_ne_nil ‹¬labelStart = []›
    rw [List.length_tail]
    omega
  · have hpos := List.length_pos_of_ne_nil ‹¬labelStart = []›
    have hle := List.length_dropWhile_le (· != charDot) labelStart
    rw [List.length_tail]
    omega

/-- `dns_encode_name`: the bytes. -/
def dnsEncodeName (hostname : CString) (bufsize : Nat) : Except Int (List UInt8) :=
  if bufsize = 0 then .error dnsErrInvalidName
  else if !dnsValidateHostname hostname then .error dnsErrInvalidName
  else if bufsize < hostname.1.length + 2 then .error dnsErrNoMemory
  else (encodeFrom bufsize hostname.1 []).map fun buf => buf ++ [0]

/-! ## Hostnames -/

/-- **A label**: letters, digits and hyphens, and no hyphen at an end. -/
structure IsLabel (l : List UInt8) : Prop where
  chars : ∀ c ∈ l, hostChar c = true
  head : l.head? ≠ some charHyphen
  last : l.getLast? ≠ some charHyphen

/-- Labels with dots between them, of which only the first and the last may be empty. -/
def LabelSequence (s : List UInt8) (ls : List (List UInt8)) : Prop :=
  ls ≠ [] ∧ s = [charDot].intercalate ls ∧ (∀ l ∈ ls, IsLabel l) ∧ ∀ l ∈ ls.tail.dropLast, l ≠ []

/-- **A hostname**, within the limits. -/
def IsHostname (s : List UInt8) : Prop :=
  s ≠ [] ∧ s.length ≤ 255 ∧ ∃ ls, LabelSequence s ls ∧ ∀ l ∈ ls, l.length ≤ 63

/-- Without the dots at the two ends. -/
def stripDots (s : List UInt8) : List UInt8 := (s.dropWhile (· == charDot)).rdropWhile (· == charDot)

/-- The bytes of labels, each behind its length. -/
def wireLabels (ls : List (List UInt8)) : List UInt8 :=
  ls.flatMap fun l => UInt8.ofNat l.length :: l

/-- **The round trip** of a hostname. -/
structure RoundTrips (hostname : CString) : Prop where
  accepted : dnsValidateHostname hostname = true ↔ IsHostname hostname.1
  encoded : ∀ bufsize, dnsValidateHostname hostname = true → hostname.1.length + 2 ≤ bufsize →
    ∃ bytes, dnsEncodeName hostname bufsize = .ok bytes
  labels : ∀ bufsize bytes, dnsEncodeName hostname bufsize = .ok bytes →
    dnsValidateHostname hostname = true ∧ bytes.length ≤ bufsize ∧ bytes.length ≤ (stripDots hostname.1).length + 2 ∧
      ∃ ls, bytes = wireLabels ls ++ [0] ∧ ∀ l ∈ ls, 1 ≤ l.length ∧ l.length ≤ 63
  decoded : ∀ bufsize bytes before after size, dnsEncodeName hostname bufsize = .ok bytes →
    (stripDots hostname.1).length < size →
    dnsDecodeName (before ++ bytes ++ after) before.length size = .ok (bytes.length, stripDots hostname.1)

/-! ## What the validator accepts -/

lemma hostChar_ne_dot {c : UInt8} (hc : hostChar c = true) : c ≠ charDot := by
  rintro rfl
  exact absurd hc (by decide)

lemma field_eq_nil {str g : List UInt8} {gs : List (List UInt8)} (hsplit : str.splitOn charDot = g :: gs) :
    g = [] ↔ str = [] ∨ str.head? = some charDot := by
  cases str with
  | nil =>
    obtain ⟨rfl, -⟩ : [] = g ∧ [] = gs := by simpa using hsplit
    simp
  | cons c str =>
    obtain ⟨f, fs, hrest⟩ := List.exists_cons_of_ne_nil (List.splitOn_ne_nil charDot str)
    rw [List.splitOn_cons_eq_if_modifyHead, hrest] at hsplit
    by_cases hdot : c = charDot
    · rw [hdot, beq_self_eq_true, if_pos rfl] at hsplit
      obtain ⟨rfl, -⟩ := List.cons.inj hsplit
      simp [hdot]
    · rw [beq_eq_false_iff_ne.mpr hdot, if_neg Bool.false_ne_true] at hsplit
      obtain ⟨rfl, -⟩ := List.cons.inj hsplit
      simp [hdot]

lemma lookahead_iff {str g : List UInt8} {gs : List (List UInt8)} (hnul : (0 : UInt8) ∉ str)
    (hsplit : str.splitOn charDot = g :: gs) :
    (str.headD 0 == charDot || str.headD 0 == 0) = true ↔ g = [] := by
  rw [field_eq_nil hsplit, Bool.or_eq_true, beq_iff_eq, beq_iff_eq]
  cases str with
  | nil => simp
  | cons c str =>
    have hc : c ≠ 0 := fun h => hnul (h ▸ List.mem_cons_self)
    simp [hc]

/-- The fields that the loop has still to see are right: `f` goes on with a label that has `labelLen` characters, and
`fs` come behind it. -/
structure FieldsRight (i labelLen : Nat) (prevWasDot : Bool) (f : List UInt8) (fs : List (List UInt8)) : Prop where
  chars : ∀ c ∈ f, hostChar c = true
  head : prevWasDot = true → f.head? ≠ some charHyphen
  last : f.getLast? ≠ some charHyphen
  length : labelLen + f.length ≤ 63
  filled : fs ≠ [] → prevWasDot = true → 0 < i → f ≠ []
  later : ∀ g ∈ fs, IsLabel g ∧ g.length ≤ 63
  inner : ∀ g ∈ fs.dropLast, g ≠ []

namespace FieldsRight

variable {i labelLen : Nat} {prevWasDot : Bool} {c : UInt8} {g : List UInt8} {gs : List (List UInt8)}

lemma nil_iff : FieldsRight i labelLen prevWasDot [] [] ↔ labelLen ≤ 63 := by
  refine ⟨fun h => h.length, fun h => ?_⟩
  exact ⟨fun _ hc => absurd hc List.not_mem_nil, (fun _ h => nomatch h), (fun h => nomatch h), h,
    fun hne => absurd rfl hne, fun _ hg => absurd hg List.not_mem_nil, fun _ hg => absurd hg List.not_mem_nil⟩

lemma dot_iff (hfirst : ¬(prevWasDot = true ∧ 0 < i)) (hlen : labelLen ≤ 63) :
    FieldsRight i labelLen prevWasDot [] (g :: gs) ↔ FieldsRight (i + 1) 0 true g gs := by
  constructor
  · intro h
    obtain ⟨⟨hg, hle⟩, hgs⟩ := List.forall_mem_cons.mp h.later
    refine ⟨hg.chars, fun _ => hg.head, hg.last, by omega, fun hne _ _ => ?_, hgs, fun d hd => ?_⟩
    · have hinner := h.inner
      rw [List.dropLast_cons_of_ne_nil hne] at hinner
      exact hinner g List.mem_cons_self
    · refine h.inner d ?_
      cases gs with
      | nil => exact nomatch hd
      | cons e es =>
        rw [List.dropLast_cons_of_ne_nil (List.cons_ne_nil e es)]
        exact List.mem_cons_of_mem g hd
  · intro h
    have hle := h.length
    refine ⟨(fun _ h => nomatch h), (fun _ h => nomatch h), (fun h => nomatch h), hlen,
      fun _ hprev hi => absurd ⟨hprev, hi⟩ hfirst, ?_, ?_⟩
    · refine List.forall_mem_cons.mpr ⟨⟨⟨h.chars, h.head rfl, h.last⟩, ?_⟩, h.later⟩
      omega
    · cases gs with
      | nil => exact fun _ h => nomatch h
      | cons d ds =>
        rw [List.dropLast_cons_of_ne_nil (List.cons_ne_nil d ds)]
        exact List.forall_mem_cons.mpr ⟨h.filled (List.cons_ne_nil d ds) rfl (Nat.succ_pos i), h.inner⟩

lemma char_iff (hchar : hostChar c = true) (hends : c = charHyphen → prevWasDot = false ∧ g ≠ []) :
    FieldsRight i labelLen prevWasDot (c :: g) gs ↔ FieldsRight (i + 1) (labelLen + 1) false g gs := by
  constructor
  · intro h
    have hle := h.length
    rw [List.length_cons] at hle
    refine ⟨(List.forall_mem_cons.mp h.chars).2, (fun h => nomatch h), fun hg => h.last ?_, by omega,
      (fun _ h => nomatch h), h.later, h.inner⟩
    rw [List.getLast?_cons, hg]
    rfl
  · intro h
    have hle := h.length
    refine ⟨List.forall_mem_cons.mpr ⟨hchar, h.chars⟩, fun hprev hc => ?_, ?_, ?_, fun _ _ _ => List.cons_ne_nil c g,
      h.later, h.inner⟩
    · exact absurd (hprev.symm.trans (hends (Option.some.inj hc)).1) (fun h => nomatch h)
    · rw [List.getLast?_cons]
      cases hg : g.getLast? with
      | none => exact fun hc => (hends (Option.some.inj hc)).2 (List.getLast?_eq_none_iff.mp hg)
      | some d => exact fun hd => h.last (hg.trans hd)
    · rw [List.length_cons]
      omega

end FieldsRight

/-- **What the loop accepts**, by the fields between the dots. -/
lemma validateFrom_iff {str f : List UInt8} {fs : List (List UInt8)} {i labelLen : Nat} {prevWasDot : Bool}
    (hnul : (0 : UInt8) ∉ str) (hsplit : str.splitOn charDot = f :: fs) :
    validateFrom str i labelLen prevWasDot = true ↔ FieldsRight i labelLen prevWasDot f fs := by
  induction str generalizing f fs i labelLen prevWasDot with
  | nil =>
    obtain ⟨rfl, rfl⟩ : [] = f ∧ [] = fs := by simpa using hsplit
    rw [validateFrom, FieldsRight.nil_iff, Bool.not_eq_true', decide_eq_false_iff_not]
    exact Nat.not_lt
  | cons c str ih =>
    obtain ⟨g, gs, hrest⟩ := List.exists_cons_of_ne_nil (List.splitOn_ne_nil charDot str)
    have hnul' : (0 : UInt8) ∉ str := fun h => hnul (List.mem_cons_of_mem c h)
    rw [List.splitOn_cons_eq_if_modifyHead, hrest] at hsplit
    unfold validateFrom
    by_cases hdot : c = charDot
    · rw [hdot, beq_self_eq_true, if_pos rfl] at hsplit
      obtain ⟨rfl, rfl⟩ := List.cons.inj hsplit
      rw [if_pos hdot]
      by_cases hempty : (prevWasDot && decide (0 < i)) = true
      · rw [if_pos hempty]
        refine ⟨(fun h => nomatch h), fun h => ?_⟩
        obtain ⟨hprev, hi⟩ := (Bool.and_eq_true _ _).mp hempty
        exact absurd rfl (h.filled (List.cons_ne_nil g gs) hprev (of_decide_eq_true hi))
      · rw [if_neg hempty]
        by_cases hlong : dnsMaxLabelLen < labelLen
        · rw [if_pos hlong]
          exact ⟨(fun h => nomatch h), fun h => absurd hlong (Nat.not_lt.mpr h.length)⟩
        · have hfirst : ¬(prevWasDot = true ∧ 0 < i) := fun h => hempty (by simp [h.1, h.2])
          rw [if_neg hlong, ih hnul' hrest, FieldsRight.dot_iff hfirst (Nat.not_lt.mp hlong)]
    · rw [beq_eq_false_iff_ne.mpr hdot, if_neg Bool.false_ne_true] at hsplit
      obtain ⟨rfl, rfl⟩ := List.cons.inj hsplit
      rw [if_neg hdot]
      by_cases hchar : hostChar c = true
      · rw [if_neg (by simpa using hchar)]
        by_cases hhyphen : (c == charHyphen && (prevWasDot || str.headD 0 == charDot || str.headD 0 == 0)) = true
        · rw [if_pos hhyphen]
          refine ⟨(fun h => nomatch h), fun h => ?_⟩
          obtain ⟨hc, hends⟩ := (Bool.and_eq_true _ _).mp hhyphen
          rw [beq_iff_eq] at hc
          rw [Bool.or_assoc, Bool.or_eq_true, lookahead_iff hnul' hrest] at hends
          rcases hends with hprev | rfl
          · exact absurd (congrArg some hc) (h.head hprev)
          · exact absurd (congrArg some hc) h.last
        · have hends : c = charHyphen → prevWasDot = false ∧ g ≠ [] := fun hc => by
            rw [hc, beq_self_eq_true, Bool.true_and, Bool.or_assoc, Bool.or_eq_true,
              lookahead_iff hnul' hrest, not_or] at hhyphen
            exact ⟨Bool.eq_false_iff.mpr hhyphen.1, hhyphen.2⟩
          rw [if_neg hhyphen, ih hnul' hrest, FieldsRight.char_iff hchar hends]
      · rw [if_pos (by simpa using hchar)]
        exact ⟨(fun h => nomatch h), fun h => absurd (h.chars c List.mem_cons_self) hchar⟩

lemma IsLabel.dot_notMem {l : List UInt8} (hl : IsLabel l) : charDot ∉ l :=
  fun h => hostChar_ne_dot (hl.chars charDot h) rfl

/-- **The validator accepts the hostnames.** -/
lemma dnsValidateHostname_iff (hostname : CString) : dnsValidateHostname hostname = true ↔ IsHostname hostname.1 := by
  obtain ⟨f, fs, hsplit⟩ := List.exists_cons_of_ne_nil (List.splitOn_ne_nil charDot hostname.1)
  have hloop := @validateFrom_iff hostname.1 f fs 0 0 true hostname.2 hsplit
  unfold dnsValidateHostname IsHostname
  by_cases hempty : hostname.1 = []
  · rw [if_pos hempty]
    exact ⟨(fun h => nomatch h), fun h => absurd hempty h.1⟩
  rw [if_neg hempty]
  by_cases hlong : dnsMaxNameLen < hostname.1.length
  · rw [if_pos hlong]
    exact ⟨(fun h => nomatch h), fun h => absurd h.2.1 (Nat.not_le.mpr hlong)⟩
  rw [if_neg hlong, hloop]
  constructor
  · rintro ⟨hchars, hhead, hlast, hle, -, hfs, hdrop⟩
    refine ⟨hempty, Nat.not_lt.mp hlong, f :: fs, ⟨List.cons_ne_nil f fs, ?_, ?_, hdrop⟩, ?_⟩
    · rw [← hsplit, List.intercalate_splitOn]
    · exact List.forall_mem_cons.mpr ⟨⟨hchars, hhead rfl, hlast⟩, fun l hl => (hfs l hl).1⟩
    · exact List.forall_mem_cons.mpr ⟨by omega, fun l hl => (hfs l hl).2⟩
  · rintro ⟨-, -, ls, ⟨hne, htext, hlabels, hinner⟩, hle⟩
    have hls : ls = f :: fs := by
      rw [← hsplit, htext, List.splitOn_intercalate _ (fun l hl => (hlabels l hl).dot_notMem) hne]
    subst hls
    obtain ⟨hf, hfs⟩ := List.forall_mem_cons.mp hlabels
    obtain ⟨hlef, hlefs⟩ := List.forall_mem_cons.mp hle
    refine ⟨hf.chars, fun _ => hf.head, hf.last, by omega, fun _ _ hi => ?_,
      fun l hl => ⟨hfs l hl, hlefs l hl⟩, hinner⟩
    exact absurd hi (Nat.lt_irrefl 0)

/-! ## What the encoder writes -/

lemma firstField {str f : List UInt8} {fs : List (List UInt8)} (hsplit : str.splitOn charDot = f :: fs) :
    str.takeWhile (· != charDot) = f ∧ ((fs = [] ∧ str.dropWhile (· != charDot) = []) ∨
        ∃ rest, str.dropWhile (· != charDot) = charDot :: rest ∧ rest.splitOn charDot = fs) := by
  induction str generalizing f with
  | nil =>
    obtain ⟨rfl, rfl⟩ : [] = f ∧ [] = fs := by simpa using hsplit
    exact ⟨rfl, .inl ⟨rfl, rfl⟩⟩
  | cons c str ih =>
    obtain ⟨g, gs, hrest⟩ := List.exists_cons_of_ne_nil (List.splitOn_ne_nil charDot str)
    rw [List.splitOn_cons_eq_if_modifyHead, hrest] at hsplit
    by_cases hdot : c = charDot
    · rw [hdot, beq_self_eq_true, if_pos rfl] at hsplit
      obtain ⟨rfl, rfl⟩ := List.cons.inj hsplit
      rw [hdot]
      exact ⟨rfl, .inr ⟨str, rfl, hrest⟩⟩
    · rw [beq_eq_false_iff_ne.mpr hdot, if_neg Bool.false_ne_true] at hsplit
      obtain ⟨rfl, rfl⟩ := List.cons.inj hsplit
      obtain ⟨htake, hdrop⟩ := ih hrest
      have hc : (c != charDot) = true := by simpa using hdot
      rw [List.takeWhile_cons, List.dropWhile_cons, if_pos hc, if_pos hc, htake]
      exact ⟨rfl, hdrop⟩

/-- The fields that are not empty. -/
def properLabels (s : List UInt8) : List (List UInt8) := (s.splitOn charDot).filter (· ≠ [])

lemma properLabels_eq {s f : List UInt8} {fs : List (List UInt8)} (hsplit : s.splitOn charDot = f :: fs) :
    properLabels s = (if f = [] then [] else [f]) ++ fs.filter (· ≠ []) := by
  unfold properLabels
  rw [hsplit, List.filter_cons]
  by_cases hf : f = [] <;> simp [hf]

@[simp] lemma wireLabels_nil : wireLabels [] = [] := rfl

@[simp] lemma wireLabels_cons (l : List UInt8) (ls : List (List UInt8)) :
    wireLabels (l :: ls) = UInt8.ofNat l.length :: l ++ wireLabels ls := List.flatMap_cons

/-- **The bytes**, where the buffer has room for the string and two more. -/
lemma encodeFrom_eq {bufsize : Nat} (str buf : List UInt8) (hle : ∀ l ∈ str.splitOn charDot, l.length ≤ 63)
    (hroom : str ≠ [] → buf.length + str.length + 2 ≤ bufsize) :
    encodeFrom bufsize str buf = .ok (buf ++ wireLabels (properLabels str)) := by
  induction hn : str.length using Nat.strong_induction_on generalizing str buf with
  | _ n ih =>
  subst hn
  unfold encodeFrom
  by_cases hempty : str = []
  · rw [if_pos hempty, hempty]
    simp [properLabels]
  obtain ⟨f, fs, hsplit⟩ := List.exists_cons_of_ne_nil (List.splitOn_ne_nil charDot str)
  obtain ⟨htake, hend⟩ := firstField hsplit
  have hroom := hroom hempty
  have happend : f ++ str.dropWhile (· != charDot) = str := by
    rw [← htake]
    exact List.takeWhile_append_dropWhile
  have hlength := congrArg List.length happend
  rw [List.length_append] at hlength
  rw [hsplit] at hle
  obtain ⟨hlef, hlefs⟩ := List.forall_mem_cons.mp hle
  rw [if_neg hempty]
  dsimp only
  rw [htake, properLabels_eq hsplit]
  by_cases hf : f = []
  · rw [if_pos hf, if_pos hf, List.nil_append]
    rcases hend with ⟨-, hdrop⟩ | ⟨rest, hdrop, hrest⟩
    · rw [hf, hdrop] at happend
      exact absurd happend.symm hempty
    · rw [hf, hdrop, List.nil_append] at happend
      rw [← happend, List.length_cons] at hroom
      rw [← happend, List.tail_cons, ih rest.length (by rw [← happend]; simp) rest buf
        (by rw [hrest]; exact hlefs) (fun _ => by omega) rfl, properLabels, hrest]
  · rw [if_neg hf, if_neg hf, if_neg (show ¬dnsMaxLabelLen < f.length from Nat.not_lt.mpr hlef), if_neg (by omega)]
    rcases hend with ⟨rfl, hdrop⟩ | ⟨rest, hdrop, hrest⟩
    · rw [hdrop, List.tail_nil, encodeFrom, if_pos rfl]
      simp
    · rw [hdrop, List.length_cons] at hlength
      rw [hdrop, List.tail_cons, ih rest.length (by omega) rest _ (by rw [hrest]; exact hlefs)
        (fun _ => ?_) rfl, properLabels, hrest]
      · simp
      · rw [List.length_append, List.length_cons]
        omega

lemma length_wireLabels {ls : List (List UInt8)} (hne : ls ≠ []) :
    (wireLabels ls).length = ([charDot].intercalate ls).length + 1 := by
  induction ls with
  | nil => exact absurd rfl hne
  | cons l ls ih =>
    cases ls with
    | nil => simp
    | cons m ls =>
      rw [wireLabels_cons, List.length_append, ih (List.cons_ne_nil m ls), List.intercalate_cons_cons]
      simp only [List.length_append, List.length_cons, List.length_nil]
      omega

/-! ## The name without the outer dots -/

/-- Fields that are empty at most at the end: those that are not empty, and dots. -/
lemma exists_trailing (ls : List (List UInt8)) (hinner : ∀ l ∈ ls.dropLast, l ≠ []) : ∃ b, [charDot].intercalate ls =
        [charDot].intercalate (ls.filter (· ≠ [])) ++ List.replicate b charDot ∧
      (ls.filter (· ≠ []) = [] → b = 0) := by
  induction ls with
  | nil => exact ⟨0, rfl, fun _ => rfl⟩
  | cons l ls ih =>
    cases ls with
    | nil =>
      refine ⟨0, ?_, fun _ => rfl⟩
      by_cases hl : l = [] <;> simp [hl]
    | cons m ls =>
      rw [List.dropLast_cons_of_ne_nil (List.cons_ne_nil m ls)] at hinner
      obtain ⟨hl, hinner⟩ := List.forall_mem_cons.mp hinner
      obtain ⟨b, htext, hzero⟩ := ih hinner
      have hfilter : (l :: m :: ls).filter (· ≠ []) = l :: (m :: ls).filter (· ≠ []) :=
        List.filter_cons_of_pos (by simpa using hl)
      rw [List.intercalate_cons_cons, htext, hfilter]
      cases hcore : (m :: ls).filter (· ≠ []) with
      | nil =>
        refine ⟨1, ?_, fun h => absurd h (List.cons_ne_nil l _)⟩
        rw [hzero hcore]
        simp
      | cons n core =>
        refine ⟨b, ?_, fun h => absurd h (List.cons_ne_nil l _)⟩
        rw [List.intercalate_cons_cons]
        simp only [List.append_assoc]

lemma LabelSequence.exists_dots {s : List UInt8} {ls : List (List UInt8)} (h : LabelSequence s ls) :
    ∃ a b, s = List.replicate a charDot ++ [charDot].intercalate (ls.filter (· ≠ [])) ++
      List.replicate b charDot := by
  obtain ⟨hne, htext, -, hinner⟩ := h
  obtain ⟨f, fs, rfl⟩ := List.exists_cons_of_ne_nil hne
  obtain ⟨b, hrest, -⟩ := exists_trailing fs hinner
  rw [htext]
  cases fs with
  | nil =>
    refine ⟨0, 0, ?_⟩
    by_cases hf : f = [] <;> simp [hf]
  | cons g gs =>
    by_cases hf : f = []
    · refine ⟨1, b, ?_⟩
      have hfilter : (f :: g :: gs).filter (· ≠ []) = (g :: gs).filter (· ≠ []) :=
        List.filter_cons_of_neg (by simpa using hf)
      rw [List.intercalate_cons_cons, hrest, hfilter, hf]
      rfl
    · obtain ⟨b, hall, -⟩ := exists_trailing (f :: g :: gs) (by
        rw [List.dropLast_cons_of_ne_nil (List.cons_ne_nil g gs)]
        exact List.forall_mem_cons.mpr ⟨hf, hinner⟩)
      exact ⟨0, b, by rw [hall]; rfl⟩

lemma intercalate_ends {ls : List (List UInt8)} (hls : ∀ l ∈ ls, l ≠ [] ∧ charDot ∉ l) :
    ([charDot].intercalate ls).head? ≠ some charDot ∧ ([charDot].intercalate ls).getLast? ≠ some charDot := by
  induction ls with
  | nil => exact ⟨(fun h => nomatch h), (fun h => nomatch h)⟩
  | cons l ls ih =>
    obtain ⟨⟨hl, hdot⟩, hrest⟩ := List.forall_mem_cons.mp hls
    have hhead : l.head? ≠ some charDot := fun h => hdot (List.mem_of_head? h)
    cases ls with
    | nil =>
      rw [List.intercalate_singleton]
      exact ⟨hhead, fun h => hdot (List.mem_of_getLast? h)⟩
    | cons m ls =>
      rw [List.intercalate_cons_cons]
      obtain ⟨c, cs, rfl⟩ := List.exists_cons_of_ne_nil hl
      refine ⟨hhead, ?_⟩
      have hne : [charDot].intercalate (m :: ls) ≠ [] :=
        mt (intercalate_eq_nil fun l hl => (hrest l hl).1).mp (List.cons_ne_nil m ls)
      rw [List.getLast?_append_of_ne_nil _ hne]
      exact (ih hrest).2

lemma stripDots_eq {t : List UInt8} (a b : Nat) (hhead : t.head? ≠ some charDot) (hlast : t.getLast? ≠ some charDot) :
    stripDots (List.replicate a charDot ++ t ++ List.replicate b charDot) = t := by
  have hback : ∀ u : List UInt8, (u ++ List.replicate b charDot).rdropWhile (· == charDot) =
      u.rdropWhile (· == charDot) := by
    intro u
    induction b with
    | zero => simp
    | succ b ih => rw [List.replicate_succ', ← List.append_assoc, List.rdropWhile_concat_pos _ _ _ rfl, ih]
  have hfront : ∀ u : List UInt8, (List.replicate a charDot ++ u).dropWhile (· == charDot) =
      u.dropWhile (· == charDot) := by
    intro u
    induction a with
    | zero => rfl
    | succ a ih => rw [List.replicate_succ, List.cons_append, List.dropWhile_cons_of_pos rfl, ih]
  unfold stripDots
  rw [List.append_assoc, hfront]
  cases t with
  | nil =>
    rw [List.nil_append, List.dropWhile_eq_nil_iff.mpr fun x hx => ?_]
    · rfl
    · exact beq_iff_eq.mpr (List.eq_of_mem_replicate hx)
  | cons c t =>
    have hc : ¬(c == charDot) = true := fun h => hhead (by rw [beq_iff_eq.mp h]; rfl)
    rw [List.cons_append, List.dropWhile_cons, if_neg hc, ← List.cons_append, hback, List.rdropWhile_eq_self_iff]
    intro hne h
    exact hlast (by rw [List.getLast?_eq_some_getLast hne, beq_iff_eq.mp h])

/-! ## Reading it back -/

/-- A cursor past labels, before the first pointer. -/
def NameCursor.past (c : NameCursor) (ls : List (List UInt8)) : NameCursor where
  labels := c.labels ++ ls
  pointers := c.pointers
  bytes := c.bytes + (wireLabels ls).length
  offset := c.offset + (wireLabels ls).length

lemma follows_wire {packet : List UInt8} (ls : List (List UInt8)) (c : NameCursor) {rest : List UInt8}
    (hls : ∀ l ∈ ls, 1 ≤ l.length ∧ l.length ≤ 63) (hstraight : c.pointers = 0)
    (hpacket : packet.drop c.offset = wireLabels ls ++ rest) :
    Relation.ReflTransGen (NameStep packet) c (c.past ls) := by
  induction ls generalizing c with
  | nil =>
    unfold NameCursor.past
    rw [List.append_nil]
    exact .refl
  | cons l ls ih =>
    obtain ⟨⟨hpos, hle⟩, hrest⟩ := List.forall_mem_cons.mp hls
    have htoNat : (UInt8.ofNat l.length).toNat = l.length := by
      rw [UInt8.toNat_ofNat']
      omega
    have hdrop : packet.drop c.offset = UInt8.ofNat l.length :: (l ++ (wireLabels ls ++ rest)) := by
      rw [hpacket, wireLabels_cons]
      simp only [List.cons_append, List.append_assoc]
    have hnext : packet.drop (c.offset + 1) = l ++ (wireLabels ls ++ rest) := by
      rw [← List.tail_drop, hdrop, List.tail_cons]
    have hlen : packet[c.offset]? = some (UInt8.ofNat l.length) := by
      have hhead := congrArg List.head? hdrop
      rwa [List.head?_drop, List.head?_cons] at hhead
    have hlength := congrArg List.length hnext
    simp only [List.length_drop, List.length_append] at hlength
    have hstep := NameStep.label c hlen (by omega) (by omega) (by rw [htoNat]; omega)
    rw [htoNat] at hstep
    have htail := ih (c.label packet l.length) hrest hstraight (by
      show packet.drop (c.offset + 1 + l.length) = _
      rw [← List.drop_drop, hnext, List.drop_left])
    have hpast : (c.label packet l.length).past ls = c.past (l :: ls) := by
      have hbytes : (c.label packet l.length).bytes = c.bytes + (1 + l.length) := if_pos hstraight
      have hlabels : (c.label packet l.length).labels = c.labels ++ [l] := by
        show c.labels ++ [(packet.drop (c.offset + 1)).take l.length] = c.labels ++ [l]
        rw [hnext, List.take_left]
      have hlengths : (wireLabels (l :: ls)).length = 1 + l.length + (wireLabels ls).length := by
        rw [wireLabels_cons, List.length_append, List.length_cons]
        omega
      have hoffset : (c.label packet l.length).offset + (wireLabels ls).length =
          c.offset + (1 + l.length + (wireLabels ls).length) := by
        show c.offset + 1 + l.length + (wireLabels ls).length = _
        omega
      unfold NameCursor.past
      rw [hbytes, hlabels, hlengths, hoffset, List.append_assoc, Nat.add_assoc c.bytes]
      rfl
    rw [hpast] at htail
    exact .head hstep htail

lemma asInt_of_lt {n : Nat} (h : n < 2 ^ 31) : asInt n = n := by
  unfold asInt
  exact Int.bmod_eq_of_le_mul_two (by omega) (by omega)

/-- **Labels are read** from wherever they lie in a packet. -/
lemma dnsDecodeName_wire {before after : List UInt8} {ls : List (List UInt8)} {size : Nat}
    (hls : ∀ l ∈ ls, 1 ≤ l.length ∧ l.length ≤ 63)
    (hsize : ([charDot].intercalate ls).length < size) (hint : (wireLabels ls).length + 1 < 2 ^ 31) :
    dnsDecodeName (before ++ (wireLabels ls ++ [0]) ++ after) before.length size =
      .ok (((wireLabels ls).length + 1 : Nat), [charDot].intercalate ls) := by
  have hdrop : (before ++ (wireLabels ls ++ [0]) ++ after).drop before.length = wireLabels ls ++ 0 :: after := by
    rw [List.append_assoc, List.drop_left, List.append_assoc]
    rfl
  have hfollows := follows_wire ls { offset := before.length } hls rfl hdrop
  have hzero : (before ++ (wireLabels ls ++ [0]) ++ after)[before.length + (wireLabels ls).length]? = some 0 := by
    rw [← List.head?_drop, ← List.drop_drop, hdrop, List.drop_left]
    rfl
  have hleaves := Leaves.zero (c := NameCursor.past { offset := before.length } ls) hzero
  have hoccupied : NameCursor.occupied (NameCursor.past { offset := before.length } ls) =
      (wireLabels ls).length + 1 := by
    show 0 + (wireLabels ls).length + 1 = _
    rw [Nat.zero_add]
  rw [hoccupied, asInt_of_lt hint] at hleaves
  exact dnsDecodeName_eq_ok.mpr ⟨_, hfollows, ⟨Nat.zero_le _, hsize⟩, hleaves, rfl⟩

/-! ## The round trip -/

lemma IsHostname.labels {s : List UInt8} (h : IsHostname s) : (∀ l ∈ s.splitOn charDot, l.length ≤ 63) ∧
      (∀ l ∈ properLabels s, 1 ≤ l.length ∧ l.length ≤ 63) ∧
      stripDots s = [charDot].intercalate (properLabels s) := by
  obtain ⟨-, -, ls, hseq, hle⟩ := h
  have hsplit : s.splitOn charDot = ls := by
    rw [hseq.2.1, List.splitOn_intercalate _ (fun l hl => (hseq.2.2.1 l hl).dot_notMem) hseq.1]
  have hproper : ∀ l ∈ properLabels s, l ≠ [] ∧ l ∈ ls := fun l hl => by
    rw [properLabels, hsplit] at hl
    obtain ⟨hmem, hne⟩ := List.mem_filter.mp hl
    exact ⟨of_decide_eq_true hne, hmem⟩
  refine ⟨by rwa [hsplit], fun l hl => ?_, ?_⟩
  · obtain ⟨hne, hmem⟩ := hproper l hl
    exact ⟨List.length_pos_of_ne_nil hne, hle l hmem⟩
  · obtain ⟨a, b, htext⟩ := hseq.exists_dots
    have hends := intercalate_ends fun l hl =>
      ⟨(hproper l hl).1, (hseq.2.2.1 l (hproper l hl).2).dot_notMem⟩
    rw [properLabels, hsplit] at hends ⊢
    rw [htext]
    exact stripDots_eq a b hends.1 hends.2

lemma IsHostname.wireLabels_le {s : List UInt8} (h : IsHostname s) :
    (wireLabels (properLabels s)).length ≤ s.length + 1 := by
  by_cases hnil : properLabels s = []
  · rw [hnil]
    exact Nat.zero_le _
  · have hback : (stripDots s).length ≤ (s.dropWhile (· == charDot)).length :=
      (List.rdropWhile_prefix _ _).length_le
    have hfront := List.length_dropWhile_le (· == charDot) s
    rw [length_wireLabels hnil, ← h.labels.2.2]
    omega

/-- **The encoding** of a hostname, in a buffer that is large enough. -/
lemma dnsEncodeName_eq_ok {hostname : CString} {bufsize : Nat} {bytes : List UInt8} :
    dnsEncodeName hostname bufsize = .ok bytes ↔ IsHostname hostname.1 ∧ hostname.1.length + 2 ≤ bufsize ∧
        bytes = wireLabels (properLabels hostname.1) ++ [0] := by
  unfold dnsEncodeName
  by_cases hvalid : dnsValidateHostname hostname = true
  · have hhost := (dnsValidateHostname_iff hostname).mp hvalid
    by_cases hroom : hostname.1.length + 2 ≤ bufsize
    · rw [if_neg (by omega), if_neg (by simpa using hvalid), if_neg (by omega),
        encodeFrom_eq _ _ hhost.labels.1 (fun _ => by rw [List.length_nil]; omega)]
      constructor
      · intro h
        exact ⟨hhost, hroom, (Except.ok.inj h).symm⟩
      · rintro ⟨-, -, rfl⟩
        rfl
    · refine ⟨fun h => ?_, fun h => absurd h.2.1 hroom⟩
      split_ifs at h
      omega
  · refine ⟨fun h => ?_, fun h => absurd ((dnsValidateHostname_iff hostname).mpr h.1) hvalid⟩
    have hinvalid : (!dnsValidateHostname hostname) = true := by simpa using hvalid
    rw [if_pos hinvalid, ite_self] at h
    exact nomatch h

/-- **Hostnames make the round trip**: what is accepted, what is written, and what is read back. -/
theorem hostname_roundTrips (hostname : CString) : RoundTrips hostname := by
  refine ⟨dnsValidateHostname_iff hostname, fun bufsize hvalid hroom => ?_, fun bufsize bytes hok => ?_,
    fun bufsize bytes before after size hok hsize => ?_⟩
  · exact ⟨_, dnsEncodeName_eq_ok.2 ⟨(dnsValidateHostname_iff hostname).mp hvalid, hroom, rfl⟩⟩
  · obtain ⟨hhost, hroom, rfl⟩ := dnsEncodeName_eq_ok.1 hok
    obtain ⟨-, hproper, hstrip⟩ := hhost.labels
    have hshort := hhost.wireLabels_le
    refine ⟨(dnsValidateHostname_iff hostname).mpr hhost, ?_, ?_, properLabels hostname.1, rfl, hproper⟩
    · rw [List.length_append, List.length_singleton]
      omega
    · rw [hstrip, List.length_append, List.length_singleton]
      by_cases hnil : properLabels hostname.1 = []
      · rw [hnil]
        simp
      · rw [length_wireLabels hnil]
  · obtain ⟨hhost, hroom, rfl⟩ := dnsEncodeName_eq_ok.1 hok
    obtain ⟨-, hproper, hstrip⟩ := hhost.labels
    have hshort := hhost.wireLabels_le
    have hlimit : hostname.1.length ≤ 255 := hhost.2.1
    rw [hstrip] at hsize
    rw [dnsDecodeName_wire hproper hsize (by omega), hstrip, List.length_append, List.length_singleton]

/-- A label of `a`s. -/
def longLabel (n : Nat) : CString :=
  ⟨List.replicate n 97, fun h => absurd (List.eq_of_mem_replicate h) (by decide)⟩

/-- Four labels of 63 characters. -/
def longHostname : CString :=
  ⟨[charDot].intercalate (List.replicate 4 (longLabel 63).1),
    not_mem_intercalate (by decide) fun l hl => List.eq_of_mem_replicate hl ▸ (longLabel 63).2⟩

/-- Labels without a limit are not what is accepted, and 255 characters are 257 bytes. -/
theorem hostname_limits : (¬∀ hostname : CString, dnsValidateHostname hostname = true ↔
      hostname.1 ≠ [] ∧ ∃ ls, LabelSequence hostname.1 ls) ∧
    ¬∀ (hostname : CString) (bufsize : Nat) (bytes : List UInt8),
      dnsEncodeName hostname bufsize = .ok bytes → bytes.length ≤ 255 := by
  constructor
  · intro h
    have hvalid := (h (longLabel 64)).mpr ⟨by decide, [(longLabel 64).1], List.cons_ne_nil _ _,
      List.intercalate_singleton.symm, fun l hl => ?_, (fun l hl => nomatch hl)⟩
    · exact absurd hvalid (by decide)
    · rw [List.mem_singleton.mp hl]
      refine ⟨fun c hc => ?_, by decide, by decide⟩
      rw [List.eq_of_mem_replicate hc]
      decide
  · intro h
    have hvalid : dnsValidateHostname longHostname = true := by
      set_option maxRecDepth 8192 in decide
    have hlength : longHostname.1.length = 255 := by
      set_option maxRecDepth 8192 in decide
    have hle := h longHostname 257 _ (dnsEncodeName_eq_ok.2
      ⟨(dnsValidateHostname_iff longHostname).mp hvalid, by omega, rfl⟩)
    exact absurd hle (by set_option maxRecDepth 8192 in decide)

end AAAos
