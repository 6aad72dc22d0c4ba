import Mathlib.Data.List.Basic
import Mathlib.Data.List.Infix
import Mathlib.Data.List.TakeWhile
import Mathlib.Tactic.Common

/-!
# Paths

The path utilities of `fs/vfs/vfs.c`.  A C string is the list of its bytes before the
terminator, so `vfs_strcmp(s, t) == 0` is `s = t`, `vfs_strlen` is `length`, and
`vfs_strncmp(s, t, vfs_strlen(s)) == 0` is `s.isPrefixOf t`.

`vfs_normalize_path` keeps its working copy and its answer in static buffers.  A caller that
holds the answer while another call normalises it again (`vfs_lookup` around `vfs_get_mount`)
finds the same bytes there afterwards: `vfsNormalizePath_idem`.

The abstract side is a list of names.  `render` writes it as a path, `components` reads it
back, and every answer of `vfs_normalize_path` is the rendering of a list of proper names.  On
such texts the byte test that `vfs_get_mount` makes is the prefix order on lists of names:
`matchesText_render`.
-/

namespace AAAos

/-- A C string, without its terminator. -/
abbrev Str := List UInt8

/-- The byte `'/'`. -/
def slash : UInt8 := 47

/-- The byte `'.'`. -/
def dot : UInt8 := 46

/-- `VFS_PATH_MAX`. -/
def vfsPathMax : Nat := 4096

/-! ## The utilities of the source -/

/-- One round of the tokenizer loops: skip the slashes, take a component, and step over the
slash that ended it.  `none` when only slashes were left. -/
def nextComponent (s : Str) : Option (Str × Str) :=
  let token := s.dropWhile (· == slash)
  if token = [] then none
  else some (token.takeWhile (· != slash), (token.dropWhile (· != slash)).tail)

/-- The components a tokenizer loop sees, in order, over at most `fuel` rounds. -/
def componentsUpTo : Nat → Str → List Str
  | 0, _ => []
  | fuel + 1, s =>
    match nextComponent s with
    | none => []
    | some (c, rest) => c :: componentsUpTo fuel rest

/-- The components of a string: every round takes at least one byte. -/
def components (s : Str) : List Str := componentsUpTo s.length s

/-- What `vfs_normalize_path` does with one component. -/
def pushComponent (stack : List Str) (c : Str) : List Str :=
  if c = [dot] then stack
  else if c = [dot, dot] then stack.dropLast
  else stack ++ [c]

/-- The loop that writes the answer of `vfs_normalize_path` behind `acc`. -/
def joinComponents : List Str → Str → Option Str
  | [], acc => some acc
  | c :: cs, acc =>
    if acc.length + c.length + 1 ≥ vfsPathMax then none
    else joinComponents cs (acc ++ c ++ if cs = [] then [] else [slash])

/-- `vfs_normalize_path`. -/
def vfsNormalizePath (path : Str) : Option Str :=
  if path = [] then some [slash]
  else if path.length ≥ vfsPathMax then none
  else joinComponents ((components path).foldl pushComponent []) [slash]

/-- `vfs_parent_path`. -/
def vfsParentPath (path : Str) : Str :=
  if path = [] ∨ path = [slash] then [slash]
  else
    let parent := if path.getLast? = some slash then path.dropLast else path
    -- what is left once everything behind the last slash is gone
    let upTo := (parent.reverse.dropWhile (· != slash)).reverse
    if upTo.length = 0 then [slash]
    else if upTo.length = 1 then parent.take 1
    else upTo.dropLast

/-- The bytes of `path` behind the last slash before position `len`. -/
def baseFrom (path : Str) : Nat → Str
  | 0 => path
  | len + 1 => if path[len]? = some slash then path.drop (len + 1) else baseFrom path len

/-- `vfs_basename`: a trailing slash is skipped in the search but stays in the answer. -/
def vfsBasename (path : Str) : Str :=
  if path = [] then path
  else
    let base := path.length - 1
    let base := if path[base]? = some slash ∧ base > 0 then base - 1 else base
    baseFrom path base

/-- The test of `vfs_get_mount`: `mountPath` is a prefix of `normalized`, and ends there, before
a slash, or is the root. -/
def matchesText (mountPath normalized : Str) : Bool :=
  mountPath.isPrefixOf normalized &&
    (normalized[mountPath.length]? == none || normalized[mountPath.length]? == some slash || mountPath.length == 1)

/-! ## Names and their rendering -/

/-- A component as a tokenizer sees it. -/
def IsComponent (c : Str) : Prop := c ≠ [] ∧ slash ∉ c

/-- A component that stands in a normalised path. -/
def IsName (c : Str) : Prop := IsComponent c ∧ c ≠ [dot] ∧ c ≠ [dot, dot]

/-- Each name behind a slash. -/
def slashed (cs : List Str) : Str := cs.flatMap (slash :: ·)

/-- The absolute path with these components. -/
def render (cs : List Str) : Str := slash :: (slashed cs).tail

@[simp] lemma slashed_nil : slashed [] = [] := rfl

@[simp] lemma slashed_cons (c : Str) (cs : List Str) : slashed (c :: cs) = slash :: (c ++ slashed cs) := rfl

lemma render_of_ne_nil {cs : List Str} (h : cs ≠ []) : render cs = slashed cs := by
  cases cs with
  | nil => exact absurd rfl h
  | cons c cs => rfl

/-- What may follow a component: nothing, or a slash. -/
def AtBoundary (s : Str) : Prop := ∀ b, s.head? = some b → b = slash

lemma atBoundary_slashed (cs : List Str) (s : Str) (h : AtBoundary s) : AtBoundary (slashed cs ++ s) := by
  intro b hb
  cases cs with
  | nil => exact h b hb
  | cons c cs => simpa using hb.symm

lemma takeWhile_component {c s : Str} (hc : slash ∉ c) (hs : AtBoundary s) : (c ++ s).takeWhile (· != slash) = c := by
  have hall : ∀ b ∈ c, (b != slash) = true := by
    intro b hb
    simp only [bne_iff_ne, ne_eq]
    rintro rfl
    exact hc hb
  rw [List.takeWhile_append_of_pos hall]
  cases s with
  | nil => simp
  | cons b s => simp [hs b rfl]

lemma dropWhile_component {c s : Str} (hc : slash ∉ c) (hs : AtBoundary s) : (c ++ s).dropWhile (· != slash) = s := by
  have h := List.takeWhile_append_dropWhile (p := (· != slash)) (l := c ++ s)
  rw [takeWhile_component hc hs] at h
  exact List.append_cancel_left h

/-! ## Reading a rendered path back -/

lemma nextComponent_cons_slash (s : Str) : nextComponent (slash :: s) = nextComponent s := by
  simp [nextComponent]

lemma componentsUpTo_cons_slash (fuel : Nat) (s : Str) :
    componentsUpTo fuel (slash :: s) = componentsUpTo fuel s := by
  cases fuel with
  | zero => rfl
  | succ fuel => rw [componentsUpTo, componentsUpTo, nextComponent_cons_slash]

lemma nextComponent_component {c s : Str} (hc : IsComponent c) (hs : AtBoundary s) :
    nextComponent (c ++ s) = some (c, s.tail) := by
  obtain ⟨b, c', rfl⟩ := List.exists_cons_of_ne_nil hc.1
  have hb : b ≠ slash := by
    rintro rfl
    exact hc.2 (by simp)
  have htoken : (b :: c' ++ s).dropWhile (· == slash) = b :: c' ++ s := by simp [hb]
  rw [nextComponent, htoken, takeWhile_component hc.2 hs, dropWhile_component hc.2 hs]
  simp

lemma componentsUpTo_slashed {cs : List Str} (hcs : ∀ c ∈ cs, IsComponent c) {fuel : Nat}
    (hfuel : cs.length ≤ fuel) : componentsUpTo fuel (slashed cs) = cs := by
  induction cs generalizing fuel with
  | nil =>
    cases fuel with
    | zero => rfl
    | succ fuel => simp [componentsUpTo, nextComponent]
  | cons c cs ih =>
    cases fuel with
    | zero => simp at hfuel
    | succ fuel =>
      have hb : AtBoundary (slashed cs) := by
        have h := atBoundary_slashed cs [] (by intro b hb; simp at hb)
        simpa using h
      have htail : componentsUpTo fuel (slashed cs).tail = componentsUpTo fuel (slashed cs) := by
        cases cs with
        | nil => rfl
        | cons d ds => rw [slashed_cons, List.tail_cons, componentsUpTo_cons_slash]
      rw [slashed_cons, componentsUpTo_cons_slash, componentsUpTo, nextComponent_component (hcs c (by simp)) hb]
      simp only [htail]
      rw [ih (fun d hd => hcs d (by simp [hd])) (by simpa using hfuel)]

lemma length_le_slashed (cs : List Str) : cs.length ≤ (slashed cs).length := by
  induction cs with
  | nil => simp
  | cons c cs ih =>
    simp only [slashed_cons, List.length_cons, List.length_append]
    omega

/-- **Rendering then reading.**  The components of a rendered path are its names. -/
theorem components_render {cs : List Str} (hcs : ∀ c ∈ cs, IsComponent c) : components (render cs) = cs := by
  by_cases h : cs = []
  · subst h
    decide
  · rw [components, render_of_ne_nil h]
    exact componentsUpTo_slashed hcs (length_le_slashed cs)

lemma isComponent_of_nextComponent {s c rest : Str} (h : nextComponent s = some (c, rest)) : IsComponent c := by
  unfold nextComponent at h
  simp only at h
  split at h
  · simp at h
  · rename_i hne
    obtain ⟨rfl, -⟩ := Prod.mk.inj (Option.some.inj h)
    refine ⟨?_, ?_⟩
    · obtain ⟨b, t, ht⟩ := List.exists_cons_of_ne_nil hne
      have hb : (b == slash) = false := by
        have h0 := List.head?_dropWhile_not (· == slash) s
        rw [ht] at h0
        simpa using h0
      rw [ht, List.takeWhile_cons_of_pos (by simpa using hb)]
      simp
    · intro hmem
      have := List.mem_takeWhile_imp hmem
      simp at this

lemma isComponent_of_mem_componentsUpTo {fuel : Nat} {s c : Str} (h : c ∈ componentsUpTo fuel s) : IsComponent c := by
  induction fuel generalizing s with
  | zero => simp [componentsUpTo] at h
  | succ fuel ih =>
    rw [componentsUpTo] at h
    split at h
    · simp at h
    · rename_i d rest hnext
      rcases List.mem_cons.mp h with rfl | h
      · exact isComponent_of_nextComponent hnext
      · exact ih h

/-! ## Normal forms -/

lemma isName_of_mem_pushComponent {stack : List Str} {c d : Str} (hs : ∀ e ∈ stack, IsName e)
    (hc : IsComponent c) (h : d ∈ pushComponent stack c) : IsName d := by
  unfold pushComponent at h
  split at h
  · exact hs d h
  · split at h
    · exact hs d (List.dropLast_subset _ h)
    · rename_i h1 h2
      rcases List.mem_append.mp h with h | h
      · exact hs d h
      · rw [List.mem_singleton.mp h]
        exact ⟨hc, h1, h2⟩

lemma isName_of_mem_foldl {cs stack : List Str} (hcs : ∀ c ∈ cs, IsComponent c)
    (hs : ∀ e ∈ stack, IsName e) : ∀ d ∈ cs.foldl pushComponent stack, IsName d := by
  induction cs generalizing stack with
  | nil => exact hs
  | cons c cs ih =>
    exact ih (fun d hd => hcs d (by simp [hd]))
      (fun d hd => isName_of_mem_pushComponent hs (hcs c (by simp)) hd)

lemma foldl_pushComponent_names {cs stack : List Str} (hcs : ∀ c ∈ cs, IsName c) :
    cs.foldl pushComponent stack = stack ++ cs := by
  induction cs generalizing stack with
  | nil => simp
  | cons c cs ih =>
    have hc := hcs c (by simp)
    rw [List.foldl_cons, ih fun d hd => hcs d (by simp [hd])]
    simp [pushComponent, hc.2.1, hc.2.2]

lemma joinComponents_cons (c : Str) (cs : List Str) (acc : Str) : joinComponents (c :: cs) acc =
    if acc.length + c.length + 1 ≥ vfsPathMax then none
    else joinComponents cs (acc ++ c ++ if cs = [] then [] else [slash]) := rfl

lemma joinComponents_eq_some {cs : List Str} {acc q : Str} (h : joinComponents cs acc = some q) :
    q = acc ++ (slashed cs).tail := by
  induction cs generalizing acc with
  | nil =>
    obtain rfl := Option.some.inj h
    simp
  | cons c cs ih =>
    rw [joinComponents_cons] at h
    split at h
    · simp at h
    · rw [ih h]
      cases cs <;> simp

/-- The writing loop gives up exactly when a name does not fit behind what is written. -/
lemma joinComponents_isSome {cs : List Str} {acc : Str}
    (h : cs = [] ∨ (acc ++ (slashed cs).tail).length + 1 < vfsPathMax) :
    joinComponents cs acc = some (acc ++ (slashed cs).tail) := by
  induction cs generalizing acc with
  | nil =>
    change some acc = _
    simp
  | cons c cs ih =>
    have hlen := h.resolve_left (by simp)
    simp only [slashed_cons, List.tail_cons, List.length_append] at hlen
    rw [joinComponents_cons, if_neg (by omega)]
    cases cs with
    | nil =>
      change some _ = _
      simp
    | cons d ds =>
      rw [ih (.inr ?_)]
      · simp
      · simp only [slashed_cons, List.tail_cons, List.length_append, List.length_cons,
          reduceCtorEq, if_false, List.length_nil] at hlen ⊢
        omega

lemma joinComponents_length {cs : List Str} {acc q : Str} (h : joinComponents cs acc = some q) :
    cs = [] ∨ q.length + 1 < vfsPathMax := by
  induction cs generalizing acc with
  | nil => exact .inl rfl
  | cons c cs ih =>
    rw [joinComponents_cons] at h
    split at h
    · simp at h
    · rename_i hfits
      rcases ih h with rfl | hlen
      · obtain rfl := Option.some.inj h
        simp only [if_true, List.append_nil, List.length_append]
        omega
      · exact .inr hlen

/-- The text of a normalised path. -/
def IsNormal (q : Str) : Prop := ∃ cs : List Str, (∀ c ∈ cs, IsName c) ∧ q = render cs

lemma isNormal_render_names {q : Str} (h : IsNormal q) :
    (∀ c ∈ components q, IsName c) ∧ q = render (components q) := by
  obtain ⟨cs, hcs, rfl⟩ := h
  rw [components_render fun c hc => (hcs c hc).1]
  exact ⟨hcs, rfl⟩

lemma isNormal_root : IsNormal [slash] := ⟨[], by simp, rfl⟩

/-- Whatever `vfs_normalize_path` answers is a rendered list of names that fits its buffer. -/
lemma vfsNormalizePath_spec {p q : Str} (h : vfsNormalizePath p = some q) :
    IsNormal q ∧ (q = [slash] ∨ q.length + 1 < vfsPathMax) := by
  unfold vfsNormalizePath at h
  split at h
  · obtain rfl := Option.some.inj h
    exact ⟨isNormal_root, .inl rfl⟩
  · split at h
    · simp at h
    · have hnames : ∀ c ∈ (components p).foldl pushComponent [], IsName c :=
        isName_of_mem_foldl (fun c hc => isComponent_of_mem_componentsUpTo hc) (by simp)
      refine ⟨⟨_, hnames, joinComponents_eq_some h⟩, ?_⟩
      · rcases joinComponents_length h with hnil | hlen
        · refine .inl ?_
          rw [joinComponents_eq_some h, hnil]
          rfl
        · exact .inr hlen

/-- **Normalising twice.**  The second call writes the bytes that are already there. -/
theorem vfsNormalizePath_idem {p q : Str} (h : vfsNormalizePath p = some q) : vfsNormalizePath q = some q := by
  obtain ⟨⟨cs, hcs, rfl⟩, hlen⟩ := vfsNormalizePath_spec h
  have hfold : (components (render cs)).foldl pushComponent [] = cs := by
    rw [components_render fun c hc => (hcs c hc).1, foldl_pushComponent_names hcs]
    rfl
  have hshort : ¬ (render cs).length ≥ vfsPathMax := by
    rcases hlen with hroot | hlen
    · rw [hroot]
      decide
    · omega
  rw [vfsNormalizePath, if_neg (by simp [render]), if_neg hshort, hfold]
  refine (joinComponents_isSome ?_).trans rfl
  rcases hlen with hroot | hlen
  · left
    by_contra hne
    obtain ⟨c, cs', rfl⟩ := List.exists_cons_of_ne_nil hne
    have := (hcs c (by simp)).1.1
    simp [render, this] at hroot
  · exact .inr hlen

/-! ## The byte test of `vfs_get_mount` -/

lemma prefix_of_slashed_eq {ds cs : List Str} {rest : Str} (hds : ∀ d ∈ ds, IsComponent d)
    (hcs : ∀ c ∈ cs, IsComponent c) (hrest : AtBoundary rest)
    (h : slashed cs = slashed ds ++ rest) : ds <+: cs := by
  induction ds generalizing cs with
  | nil => exact List.nil_prefix
  | cons d ds ih =>
    cases cs with
    | nil => simp at h
    | cons c cs =>
      simp only [slashed_cons, List.cons_append, List.append_assoc, List.cons.injEq, true_and] at h
      have hb : ∀ es : List Str, AtBoundary (slashed es) := by
        intro es
        simpa using atBoundary_slashed es [] (by intro b hb; simp at hb)
      -- both sides agree up to their first slash, so the first names are equal
      have hdc : d = c := by
        have htake := congrArg (List.takeWhile (· != slash)) h
        rw [takeWhile_component (hcs c (by simp)).2 (hb cs),
          takeWhile_component (hds d (by simp)).2 (atBoundary_slashed ds rest hrest)] at htake
        exact htake.symm
      subst hdc
      rw [List.cons_prefix_cons]
      exact ⟨rfl, ih (fun e he => hds e (by simp [he])) (fun e he => hcs e (by simp [he]))
        (List.append_cancel_left h)⟩

lemma slashed_append (cs ds : List Str) : slashed (cs ++ ds) = slashed cs ++ slashed ds := by
  simp [slashed]

/-- **Bytes and names.**  On normal forms the textual test is the prefix order on components. -/
theorem matchesText_render {ds cs : List Str} (hds : ∀ d ∈ ds, IsComponent d)
    (hcs : ∀ c ∈ cs, IsComponent c) : matchesText (render ds) (render cs) = true ↔ ds <+: cs := by
  by_cases hnil : ds = []
  · subst hnil
    simp [matchesText, render]
  rw [matchesText, render_of_ne_nil hnil]
  simp only [Bool.and_eq_true, Bool.or_eq_true, beq_iff_eq, List.isPrefixOf_iff_prefix]
  constructor
  · rintro ⟨⟨rest, hrest⟩, hend⟩
    have hlen : (slashed ds).length ≠ 1 := by
      obtain ⟨d, ds', rfl⟩ := List.exists_cons_of_ne_nil hnil
      have := (hds d (by simp)).1
      simp [this]
    have hb : AtBoundary rest := by
      intro b hb
      rw [← hrest, List.getElem?_append_right (le_refl _), Nat.sub_self] at hend
      rw [List.head?_eq_getElem?] at hb
      rw [hb] at hend
      simpa [hlen] using hend
    have hcs' : cs ≠ [] := by
      rintro rfl
      have hle := congrArg List.length hrest
      obtain ⟨d, ds', rfl⟩ := List.exists_cons_of_ne_nil hnil
      have hd := (hds d (by simp)).1
      simp [render, hd] at hle
    rw [render_of_ne_nil hcs'] at hrest
    exact prefix_of_slashed_eq hds hcs hb hrest.symm
  · rintro ⟨es, rfl⟩
    rw [render_of_ne_nil (by simp [hnil]), slashed_append]
    refine ⟨List.prefix_append _ _, .inl ?_⟩
    rw [List.getElem?_append_right (le_refl _), Nat.sub_self]
    cases es <;> simp

lemma render_length_lt {ds es : List Str} (hes : ∀ e ∈ es, IsComponent e) (h : ds <+: es)
    (hlt : ds.length < es.length) : (render ds).length < (render es).length := by
  obtain ⟨fs, rfl⟩ := h
  obtain ⟨f, fs', rfl⟩ : ∃ f fs', fs = f :: fs' :=
    List.exists_cons_of_ne_nil (by rintro rfl; simp at hlt)
  have hf := (hes f (by simp)).1
  have hpos := List.length_pos_iff.mpr hf
  by_cases hnil : ds = []
  · subst hnil
    simp only [render, slashed_nil, List.nil_append, slashed_cons, List.tail_nil, List.tail_cons,
      List.length_cons, List.length_append, List.length_nil]
    omega
  · rw [render_of_ne_nil hnil, render_of_ne_nil (by simp), slashed_append, slashed_cons]
    simp only [List.length_append, List.length_cons]
    omega

end AAAos
