import AAAos.Fs.Vfs.Path

/-!
# What a normalised path is

`vfs_normalize_path` cuts its copy of the path at the slashes, keeps a stack of pointers to the components, and writes
them out again.  What it is to give can be said without the stack of pointers: split the text at every slash, leave out
what is empty and `.`, and let `..` take back the component before it (`normalOf`).

**What is proved.**  The answer is that path, in the form that a normalised path has, and normalising it again gives the
same bytes; the stack of pointers is never used at or behind its end (`normalizePath_correct`).  A path of one-byte
components fills it to the last pointer (`pushedAt_full`).
-/

namespace AAAos

/-! ## The path that is meant -/

/-- One component more. -/
def foldComponent (stack : List Str) (c : Str) : List Str :=
  if c = [] ∨ c = [dot] then stack
  else if c = [dot, dot] then stack.dropLast
  else stack ++ [c]

/-- The names that a path comes to. -/
def normalOf (p : Str) : List Str := (p.splitOn slash).foldl foldComponent []

lemma componentsUpTo_eq_filter {fuel : Nat} {s : Str} (h : s.length ≤ fuel) :
    componentsUpTo fuel s = (s.splitOn slash).filter (· ≠ []) := by
  -- the text gets shorter, by a slash or by a component
  induction hn : s.length using Nat.strongRecOn generalizing fuel s with
  | ind n ih =>
    cases s with
    | nil =>
      rw [List.splitOn_nil]
      cases fuel with
      | zero => rfl
      | succ fuel => rfl
    | cons b t =>
      subst hn
      rw [List.length_cons] at h
      by_cases hb : b = slash
      · subst hb
        have hsplit : (slash :: t).splitOn slash = [] :: t.splitOn slash :=
          List.splitOn_append_cons_self_of_not_mem List.not_mem_nil t
        rw [componentsUpTo_cons_slash, hsplit, List.filter_cons_of_neg (by simp)]
        exact ih t.length (Nat.lt_succ_self _) (by omega) rfl
      · obtain ⟨fuel, rfl⟩ : ∃ k, fuel = k + 1 := ⟨fuel - 1, by omega⟩
        have htoken : (b :: t).dropWhile (· == slash) = b :: t := by simp [hb]
        have hnot : slash ∉ (b :: t).takeWhile (· != slash) := fun hmem => by
          have := List.mem_takeWhile_imp hmem
          simp at this
        have hne : (b :: t).takeWhile (· != slash) ≠ [] := by simp [hb]
        have hcut := List.takeWhile_append_dropWhile (p := (· != slash)) (l := b :: t)
        rw [componentsUpTo, nextComponent, htoken, if_neg (List.cons_ne_nil b t)]
        dsimp only
        generalize (b :: t).takeWhile (· != slash) = c at hnot hne hcut
        cases hrest : (b :: t).dropWhile (· != slash) with
        | nil =>
          rw [hrest, List.append_nil] at hcut
          rw [← hcut, List.splitOn_eq_singleton hnot, List.filter_cons_of_pos (by simpa using hne)]
          cases fuel <;> rfl
        | cons d u =>
          have hd : d = slash := by
            have hhead := List.head?_dropWhile_not (· != slash) (b :: t)
            rw [hrest] at hhead
            simpa using hhead
          subst hd
          rw [hrest] at hcut
          have hlen := congrArg List.length hcut
          rw [List.length_append, List.length_cons, List.length_cons] at hlen
          rw [← hcut, List.splitOn_append_cons_self_of_not_mem hnot,
            List.filter_cons_of_pos (by simpa using hne), List.tail_cons]
          exact congrArg (c :: ·) (ih u.length (by rw [List.length_cons]; omega) (by omega) rfl)

lemma foldl_filter_nonempty (cs stack : List Str) :
    (cs.filter (· ≠ [])).foldl pushComponent stack = cs.foldl foldComponent stack := by
  induction cs generalizing stack with
  | nil => rfl
  | cons c cs ih =>
    by_cases hc : c = []
    · rw [List.filter_cons_of_neg (by simp [hc]), List.foldl_cons, foldComponent, if_pos (.inl hc)]
      exact ih stack
    · rw [List.filter_cons_of_pos (by simpa using hc), List.foldl_cons, List.foldl_cons, ih]
      congr 1
      simp only [pushComponent, foldComponent, hc, false_or]

lemma foldl_components (p : Str) : (components p).foldl pushComponent [] = normalOf p := by
  rw [components, componentsUpTo_eq_filter le_rfl, foldl_filter_nonempty, normalOf]

/-! ## The form of the answer -/

/-- `q` is the normalised form of `p`. -/
structure Normalises (p q : Str) : Prop where
  folded : q = render (normalOf p)
  absolute : q.head? = some slash
  names : q = [slash] ∨ ∃ cs, q.splitOn slash = [] :: cs ∧ ∀ c ∈ cs, c ≠ [] ∧ c ≠ [dot] ∧ c ≠ [dot, dot]
  trailing : q.getLast? = some slash → q = [slash]
  again : vfsNormalizePath q = some q

lemma splitOn_slashed {cs : List Str} (hcs : ∀ c ∈ cs, IsComponent c) : (slashed cs).splitOn slash = [] :: cs := by
  have hfront : ∀ c s : Str, slash ∉ c → (c ++ slash :: s).splitOn slash = c :: s.splitOn slash := fun c s hc =>
    List.splitOn_append_cons_self_of_not_mem hc s
  suffices h : ∀ c : Str, slash ∉ c → (c ++ slashed cs).splitOn slash = c :: cs from h [] List.not_mem_nil
  induction cs with
  | nil =>
    intro c hc
    rw [slashed_nil, List.append_nil, List.splitOn_eq_singleton hc]
  | cons d cs ih =>
    intro c hc
    rw [slashed_cons, hfront c _ hc, ih (fun e he => hcs e (List.mem_cons_of_mem d he)) d
      (hcs d List.mem_cons_self).2]

lemma getLast?_slashed {cs : List Str} (hcs : ∀ c ∈ cs, IsComponent c) : (slashed cs).getLast? ≠ some slash := by
  induction cs with
  | nil => exact fun h => nomatch h
  | cons c cs ih =>
    have hc := hcs c List.mem_cons_self
    rw [slashed_cons]
    cases cs with
    | nil =>
      obtain ⟨front, b, rfl⟩ := (List.eq_nil_or_concat' c).resolve_left hc.1
      rw [slashed_nil, List.append_nil, ← List.cons_append, List.getLast?_concat]
      intro hb
      exact hc.2 (by simp [Option.some.inj hb])
    | cons d ds =>
      have hne : slashed (d :: ds) ≠ [] := List.cons_ne_nil _ _
      rw [← List.cons_append, List.getLast?_append_of_ne_nil _ hne]
      exact ih fun e he => hcs e (List.mem_cons_of_mem c he)

/-- **The answer** is the normalised form. -/
lemma vfsNormalizePath_normalises {p q : Str} (h : vfsNormalizePath p = some q) : Normalises p q := by
  have hfolded : q = render (normalOf p) := by
    unfold vfsNormalizePath at h
    split_ifs at h with hnil hlong
    · rw [← Option.some.inj h, hnil]
      rfl
    · rw [joinComponents_eq_some h, foldl_components]
      rfl
  obtain ⟨⟨cs, hcs, hrender⟩, -⟩ := vfsNormalizePath_spec h
  have hcomponents : ∀ c ∈ cs, IsComponent c := fun c hc => (hcs c hc).1
  refine ⟨hfolded, by rw [hrender]; rfl, ?_, fun hlast => ?_, vfsNormalizePath_idem h⟩
  · by_cases hnil : cs = []
    · subst hnil
      exact .inl hrender
    · refine .inr ⟨cs, ?_, fun c hc => ⟨(hcomponents c hc).1, (hcs c hc).2⟩⟩
      rw [hrender, render_of_ne_nil hnil, splitOn_slashed hcomponents]
  · by_cases hnil : cs = []
    · subst hnil
      exact hrender
    · rw [hrender, render_of_ne_nil hnil] at hlast
      exact absurd hlast (getLast?_slashed hcomponents)

/-! ## The stack of pointers -/

/-- The indices at which the loop over the components writes its array. -/
def pushedAt : List Str → List Str → List Nat
  | [], _ => []
  | c :: cs, stack =>
    (if c = [dot] ∨ c = [dot, dot] then [] else [stack.length]) ++ pushedAt cs (pushComponent stack c)

lemma length_pushComponent_le (stack : List Str) (c : Str) : (pushComponent stack c).length ≤ stack.length + 1 := by
  unfold pushComponent
  split_ifs
  · exact Nat.le_succ _
  · rw [List.length_dropLast]
    omega
  · rw [List.length_append, List.length_singleton]

lemma lt_of_mem_pushedAt {cs stack : List Str} {i : Nat} (h : i ∈ pushedAt cs stack) : i < stack.length + cs.length := by
  induction cs generalizing stack with
  | nil => exact absurd h List.not_mem_nil
  | cons c cs ih =>
    rw [List.length_cons]
    rcases List.mem_append.mp h with hthis | hrest
    · split_ifs at hthis
      · exact absurd hthis List.not_mem_nil
      · rw [List.mem_singleton] at hthis
        omega
    · have := ih hrest
      have := length_pushComponent_le stack c
      omega

lemma length_foldl_pushComponent_le (cs stack : List Str) :
    (cs.foldl pushComponent stack).length ≤ stack.length + cs.length := by
  induction cs generalizing stack with
  | nil => exact le_rfl
  | cons c cs ih =>
    have := ih (pushComponent stack c)
    have := length_pushComponent_le stack c
    rw [List.foldl_cons, List.length_cons]
    omega

lemma two_mul_length_filter_le (cs : List Str) :
    2 * (cs.filter (· ≠ [])).length ≤ ([slash].intercalate cs).length + 1 := by
  induction cs with
  | nil => exact Nat.zero_le _
  | cons c cs ih =>
    have hc : 2 * ([c].filter (· ≠ [])).length ≤ c.length + 1 := by
      by_cases hnil : c = []
      · rw [List.filter_cons_of_neg (by simp [hnil])]
        exact Nat.zero_le _
      · have hpos := List.length_pos_iff.mpr hnil
        rw [List.filter_cons_of_pos (by simpa using hnil), List.filter_nil, List.length_singleton]
        omega
    cases cs with
    | nil =>
      rw [List.intercalate_singleton]
      exact hc
    | cons d ds =>
      rw [List.intercalate_cons_cons, ← List.singleton_append, List.filter_append]
      simp only [List.length_append, List.length_singleton]
      omega

lemma two_mul_length_components_le (p : Str) : 2 * (components p).length ≤ p.length + 1 := by
  rw [components, componentsUpTo_eq_filter le_rfl]
  refine (two_mul_length_filter_le (p.splitOn slash)).trans_eq ?_
  rw [List.intercalate_splitOn]

/-- **Normalising a path.**  What is not refused is the normalised form, and the array of components is written and read
within its bounds. -/
theorem normalizePath_correct (p : Str) (hp : p.length < vfsPathMax) :
    (∀ q, vfsNormalizePath p = some q → Normalises p q) ∧ (∀ i ∈ pushedAt (components p) [], i < vfsPathMax / 2) ∧
      ((components p).foldl pushComponent []).length ≤ vfsPathMax / 2 := by
  have hcount := two_mul_length_components_le p
  refine ⟨fun q h => vfsNormalizePath_normalises h, fun i hi => ?_, ?_⟩
  · have hlt := lt_of_mem_pushedAt hi
    rw [List.length_nil] at hlt
    omega
  · have hle := length_foldl_pushComponent_le (components p) []
    rw [List.length_nil] at hle
    omega

/-- A path with every kind of component. -/
theorem normalizePath_correct_dots : Normalises [0x61, 47, 47, 46, 47, 0x62, 47, 46, 46, 47, 0x63, 47] [47, 0x61, 47, 0x63] :=
  (normalizePath_correct [0x61, 47, 47, 46, 47, 0x62, 47, 46, 46, 47, 0x63, 47] (by decide)).1 _ (by decide)

lemma pushedAt_replicate (n : Nat) (stack : List Str) :
    pushedAt (List.replicate n [0x61]) stack = List.range' stack.length n := by
  induction n generalizing stack with
  | zero => rfl
  | succ n ih =>
    have hpush : pushComponent stack [0x61] = stack ++ [[0x61]] := by
      unfold pushComponent
      rw [if_neg (by decide), if_neg (by decide)]
    rw [List.replicate_succ, pushedAt, if_neg (by decide), hpush, ih, List.length_append, List.length_singleton,
      List.range'_succ, List.singleton_append]

/-- The longest path of one-byte names uses every pointer of the array. -/
theorem pushedAt_full : ∃ p : Str, p.length + 1 = vfsPathMax ∧
    pushedAt (components p) [] = List.range (vfsPathMax / 2) := by
  have hlen : ∀ n, ([slash].intercalate (List.replicate (n + 1) [0x61])).length = 2 * n + 1 := by
    intro n
    induction n with
    | zero => rfl
    | succ n ih =>
      rw [List.replicate_succ] at ih ⊢
      rw [List.replicate_succ, List.intercalate_cons_cons]
      simp only [List.length_append, List.length_singleton, ih]
      omega
  refine ⟨[slash].intercalate (List.replicate (2047 + 1) [0x61]), by rw [hlen 2047]; rfl, ?_⟩
  have hsplit : ([slash].intercalate (List.replicate (2047 + 1) [(0x61 : UInt8)])).splitOn slash =
      List.replicate (2047 + 1) [0x61] := by
    refine List.splitOn_intercalate slash (fun c hc => ?_) (List.ne_nil_of_length_pos ?_)
    · rw [List.eq_of_mem_replicate hc]
      decide
    · rw [List.length_replicate]
      decide
  have hkept : (List.replicate (2047 + 1) [(0x61 : UInt8)]).filter (· ≠ []) = List.replicate (2047 + 1) [0x61] := by
    refine List.filter_eq_self.mpr fun c hc => ?_
    rw [List.eq_of_mem_replicate hc]
    rfl
  rw [components, componentsUpTo_eq_filter le_rfl, hsplit, hkept, pushedAt_replicate, List.range_eq_range']
  rfl

end AAAos
