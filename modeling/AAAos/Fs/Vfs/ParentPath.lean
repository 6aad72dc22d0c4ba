import AAAos.Fs.Vfs.Vfs

/-!
# Where a new object goes

`vfs_create`, `vfs_mkdir` and `vfs_open` with `VFS_O_CREAT` look the parent path up and hand the base
name to the filesystem.  The lookup normalises its path; the two scanners that cut the path in two
work on the text as it came.

**What goes wrong.**  `vfs_parent_path` drops a trailing slash and `vfs_basename` keeps it, so of a
path that ends in a slash the filesystem gets a name with a slash in it.  And `vfs_parent_path`
copies before anything has looked at the length: a path that is too long does not resolve, and the
calls that create something then copy it into a buffer of `VFS_PATH_MAX` bytes.

**What is proved.**  A path shorter than `VFS_PATH_MAX` that does not stand for the root is cut right
exactly when it does not end in a slash, whatever dots and slashes are in it, and for each call the
copy is in bounds exactly under its condition.
-/

namespace AAAos

/-! ## The last slash -/

/-- A path without a trailing slash, cut behind its last slash. -/
structure LastCut (p u c : Str) : Prop where
  eq : p = u ++ c
  ne_nil : c ≠ []
  noSlash : slash ∉ c
  boundary : u = [] ∨ u.getLast? = some slash

lemma exists_lastCut {p : Str} (hne : p ≠ []) (hlast : p.getLast? ≠ some slash) : ∃ u c, LastCut p u c := by
  have happ := List.takeWhile_append_dropWhile (p := (· != slash)) (l := p.reverse)
  refine ⟨(p.reverse.dropWhile (· != slash)).reverse, (p.reverse.takeWhile (· != slash)).reverse, ?_, ?_, ?_, ?_⟩
  · rw [← List.reverse_append, happ, List.reverse_reverse]
  · intro hnil
    obtain ⟨b, t, ht⟩ := List.exists_cons_of_ne_nil (List.reverse_ne_nil_iff.mpr hne)
    rw [List.reverse_eq_nil_iff, ht] at hnil
    have hb : b = slash := by simpa [List.takeWhile_cons] using hnil
    rw [List.getLast?_eq_head?_reverse, ht, List.head?_cons, hb] at hlast
    exact hlast rfl
  · intro hmem
    have := List.mem_takeWhile_imp (List.mem_reverse.mp hmem)
    simp at this
  · rw [List.getLast?_reverse, List.reverse_eq_nil_iff]
    have hhead := List.head?_dropWhile_not (· != slash) p.reverse
    cases hd : p.reverse.dropWhile (· != slash) with
    | nil => exact .inl rfl
    | cons b t =>
      rw [hd] at hhead
      simp only [List.head?_cons] at hhead
      exact .inr (by simpa using hhead)

variable {p u c : Str}

lemma LastCut.isComponent (h : LastCut p u c) : IsComponent c := ⟨h.ne_nil, h.noSlash⟩

lemma LastCut.getLast (h : LastCut p u c) : p.getLast? ≠ some slash := by
  rw [h.eq, List.getLast?_append_of_ne_nil _ h.ne_nil]
  intro hlast
  exact h.noSlash (List.mem_of_getLast? hlast)

/-- The search of `vfs_basename` from inside the last component. -/
lemma LastCut.baseFrom (h : LastCut p u c) {n : Nat} (hlo : u.length ≤ n) (hhi : n ≤ p.length) :
    baseFrom p n = c := by
  induction n with
  | zero =>
    have hu : u = [] := List.length_eq_zero_iff.mp (by omega)
    rw [AAAos.baseFrom, h.eq, hu, List.nil_append]
  | succ n ih =>
    rw [AAAos.baseFrom]
    rcases Nat.lt_or_ge n u.length with hlt | hge
    · -- the slash that ends `u`
      have hn : n = u.length - 1 := by omega
      have hslash : u.getLast? = some slash := h.boundary.resolve_left fun h0 => by simp [h0] at hlt
      rw [List.getLast?_eq_getElem?, ← hn] at hslash
      rw [h.eq, List.getElem?_append_left hlt, if_pos hslash, show n + 1 = u.length by omega,
        List.drop_left]
    · rw [if_neg, ih hge (by omega)]
      rw [h.eq, List.getElem?_append_right hge]
      intro hslash
      exact h.noSlash (List.mem_of_getElem? hslash)

lemma LastCut.vfsBasename (h : LastCut p u c) : vfsBasename p = c := by
  have hlen : 0 < c.length := List.length_pos_of_ne_nil h.ne_nil
  have hp : p.length = u.length + c.length := by rw [h.eq, List.length_append]
  have hne : p ≠ [] := List.ne_nil_of_length_pos (by omega)
  have hlast : ¬ p[p.length - 1]? = some slash := by
    rw [← List.getLast?_eq_getElem?]
    exact h.getLast
  simp only [AAAos.vfsBasename, if_neg hne, hlast, false_and, if_false]
  exact h.baseFrom (by omega) (by omega)

lemma LastCut.vfsParentPath (h : LastCut p u c) :
    vfsParentPath p = if u = [] ∨ u = [slash] then [slash] else u.dropLast := by
  have hne : p ≠ [] := by
    rw [h.eq]
    simp [h.ne_nil]
  have hroot : p ≠ [slash] := fun h0 => h.getLast (by simp [h0])
  have hboundary : AtBoundary u.reverse := fun b hb => by
    rw [List.head?_reverse] at hb
    rcases h.boundary with rfl | hslash
    · cases hb
    · exact Option.some.inj (hb.symm.trans hslash)
  have hup : (p.reverse.dropWhile (· != slash)).reverse = u := by
    rw [h.eq, List.reverse_append, dropWhile_component (by simpa using h.noSlash) hboundary,
      List.reverse_reverse]
  simp only [AAAos.vfsParentPath, hne, hroot, or_self, if_false, if_neg h.getLast, hup]
  match u, h with
  | [], _ => simp
  | [b], h =>
    have hb : b = slash := by simpa using h.boundary
    simp [h.eq, hb]
  | b :: d :: u, _ => simp

/-! ## Normalising the two parts -/

lemma componentsUpTo_component {fuel : Nat} (hc : IsComponent c) (hfuel : 0 < fuel) :
    componentsUpTo fuel c = [c] := by
  obtain ⟨fuel, rfl⟩ := Nat.exists_eq_add_one.mpr hfuel
  have hnext := nextComponent_component (s := []) hc (by intro b hb; cases hb)
  rw [List.append_nil, List.tail_nil] at hnext
  rw [componentsUpTo, hnext]
  cases fuel with
  | zero => rfl
  | succ fuel => simp [componentsUpTo, nextComponent]

lemma components_replicate (n : Nat) (hc : IsComponent c) : components (List.replicate n slash ++ c) = [c] := by
  have hpos : 0 < n + c.length := Nat.add_pos_right _ (List.length_pos_of_ne_nil hc.1)
  rw [components, List.length_append, List.length_replicate]
  generalize n + c.length = fuel at hpos
  induction n with
  | zero => exact componentsUpTo_component hc hpos
  | succ n ih =>
    rw [List.replicate_succ, List.cons_append, componentsUpTo_cons_slash]
    exact ih

/-- One component behind any slashes: the dots are the root, and any other name stands for itself
unless it is too long. -/
lemma vfsNormalizePath_replicate (n : Nat) (hc : IsComponent c) : vfsNormalizePath (List.replicate n slash ++ c) =
      if vfsPathMax ≤ n + c.length then none
      else if c = [dot] ∨ c = [dot, dot] then some [slash]
      else if vfsPathMax ≤ c.length + 2 then none else some (slash :: c) := by
  have hne : List.replicate n slash ++ c ≠ [] := by simp [hc.1]
  rw [vfsNormalizePath, if_neg hne, List.length_append, List.length_replicate, components_replicate n hc]
  split_ifs with hlong hdots hname
  · rfl
  · rcases hdots with rfl | rfl
    · rfl
    · rfl
  · obtain ⟨hdot, hdots⟩ := not_or.mp hdots
    simp only [List.foldl_cons, List.foldl_nil, pushComponent, if_neg hdot, if_neg hdots, List.nil_append,
      joinComponents, List.length_singleton]
    rw [if_pos (by omega)]
  · obtain ⟨hdot, hdots⟩ := not_or.mp hdots
    simp only [List.foldl_cons, List.foldl_nil, pushComponent, if_neg hdot, if_neg hdots, List.nil_append,
      joinComponents, List.length_singleton]
    rw [if_neg (by omega)]
    simp

/-- Where the two scanners say the object is. -/
def objectPath (p : Str) : Str := vfsParentPath p ++ slash :: vfsBasename p

/-- The base name is one component, and below the parent path it is the object of the path. -/
structure CutRight (p : Str) : Prop where
  noSlash : slash ∉ vfsBasename p
  same : vfsNormalizePath (objectPath p) = vfsNormalizePath p

lemma LastCut.objectPath (h : LastCut p u c) :
    objectPath p = if u = [] ∨ u = [slash] then List.replicate 2 slash ++ c else p := by
  rw [AAAos.objectPath, h.vfsParentPath, h.vfsBasename]
  split_ifs with hroot
  · rfl
  · obtain ⟨hnil, -⟩ := not_or.mp hroot
    have hslash := h.boundary.resolve_left hnil
    obtain ⟨ys, hys⟩ := List.getLast?_eq_some_iff.mp hslash
    rw [h.eq, hys, List.dropLast_concat, List.append_assoc, List.singleton_append]

lemma LastCut.cutRight (h : LastCut p u c) (hlen : p.length < vfsPathMax)
    (hroot : vfsNormalizePath p ≠ some [slash]) : CutRight p := by
  refine ⟨h.vfsBasename.symm ▸ h.noSlash, ?_⟩
  rw [h.objectPath]
  split_ifs with hu
  · obtain ⟨n, hn, hp⟩ : ∃ n ≤ 1, p = List.replicate n slash ++ c := by
      rcases hu with rfl | rfl
      · exact ⟨0, by omega, h.eq⟩
      · exact ⟨1, le_rfl, h.eq⟩
    have hlen' : n + c.length < vfsPathMax := by
      rw [hp, List.length_append, List.length_replicate] at hlen
      exact hlen
    rw [hp, vfsNormalizePath_replicate n h.isComponent] at hroot ⊢
    rw [vfsNormalizePath_replicate 2 h.isComponent]
    rw [if_neg (not_le.mpr hlen')] at hroot ⊢
    have hname : ¬ (c = [dot] ∨ c = [dot, dot]) := fun hdots => hroot (if_pos hdots)
    rw [if_neg hname]
    by_cases hlong : vfsPathMax ≤ 2 + c.length
    · rw [if_pos hlong, if_pos (by omega)]
    · rw [if_neg hlong]
  · rfl

lemma baseFrom_eq_drop (p : Str) (n : Nat) : ∃ k ≤ n, baseFrom p n = p.drop k := by
  induction n with
  | zero => exact ⟨0, le_rfl, rfl⟩
  | succ n ih =>
    rw [baseFrom]
    split_ifs
    · exact ⟨n + 1, le_rfl, rfl⟩
    · obtain ⟨k, hk, heq⟩ := ih
      exact ⟨k, hk.trans n.le_succ, heq⟩

lemma slash_mem_vfsBasename (hne : p ≠ []) (hlast : p.getLast? = some slash) : slash ∈ vfsBasename p := by
  have hpos := List.length_pos_of_ne_nil hne
  obtain ⟨k, hk, heq⟩ : ∃ k < p.length, vfsBasename p = p.drop k := by
    simp only [vfsBasename, if_neg hne]
    split_ifs
    · obtain ⟨k, hk, heq⟩ := baseFrom_eq_drop p (p.length - 1 - 1)
      exact ⟨k, by omega, heq⟩
    · obtain ⟨k, hk, heq⟩ := baseFrom_eq_drop p (p.length - 1)
      exact ⟨k, by omega, heq⟩
  rw [heq]
  refine List.mem_of_getLast? ?_
  rw [List.getLast?_drop, if_neg (by omega), hlast]

/-- **A path is cut right exactly when it does not end in a slash.** -/
theorem cutRight_iff (hlen : p.length < vfsPathMax) (hroot : vfsNormalizePath p ≠ some [slash]) :
    CutRight p ↔ p.getLast? ≠ some slash := by
  have hne : p ≠ [] := by
    rintro rfl
    exact hroot rfl
  refine ⟨fun h hlast => h.noSlash (slash_mem_vfsBasename hne hlast), fun hlast => ?_⟩
  obtain ⟨u, c, h⟩ := exists_lastCut hne hlast
  exact h.cutRight hlen hroot

/-! ## What the filesystem is asked for -/

open Vfs

section

variable {σ : Type} {v : Vfs σ} {path : Str} {mode flags : UInt32}

/-- After the path has not resolved, the filesystem below the node that `parent` resolves to has made
`name` there. -/
def AskedFor (v : Vfs σ) (path parent name : Str) (op : VfsOps σ → Option (Node → Str → σ → Int × σ)) : Prop :=
  (vfsLookup v path).1 = none ∧ ∃ node w f, vfsLookup (vfsLookup v path).2 parent = (some node, w) ∧
    w.op node op = some f ∧ (f (w.nodes node) name w.fs).1 = vfsOk

lemma askedFor_of_makeAt {op : VfsOps σ → Option (Node → Str → σ → Int × σ)} (hok : (makeAt v path op).1 = vfsOk) :
    AskedFor v path (vfsParentPath path) (vfsBasename path) op := by
  unfold makeAt at hok
  rcases hlookup : vfsLookup v path with ⟨_ | node, w⟩
  · rw [hlookup] at hok
    refine ⟨by rw [hlookup], ?_⟩
    simp only [inParent] at hok
    rw [hlookup]
    rcases hparent : vfsLookup w (vfsParentPath path) with ⟨_ | parent, w'⟩
    · rw [hparent] at hok
      exact absurd hok (by decide : errNoEnt ≠ vfsOk)
    · rw [hparent] at hok
      dsimp only at hok
      cases hop : w'.op parent op with
      | none =>
        rw [hop] at hok
        dsimp only at hok
        split_ifs at hok
        · exact absurd hok (by decide : errNotDir ≠ vfsOk)
        · exact absurd hok (by decide : errNoSys ≠ vfsOk)
      | some f =>
        rw [hop] at hok
        dsimp only at hok
        split_ifs at hok
        · exact absurd hok (by decide : errNotDir ≠ vfsOk)
        · exact absurd hok (by decide : errRoFs ≠ vfsOk)
        · exact ⟨parent, w', f, rfl, hop, hok⟩
  · rw [hlookup] at hok
    exact absurd hok (by decide : errExist ≠ vfsOk)

/-- `vfs_open` that found its node only after creating it. -/
lemma askedFor_of_openLookup (hnone : (vfsLookup v path).1 = none) (hopen : (openLookup v path flags).1 ≠ none) :
    AskedFor v path (vfsParentPath path) (vfsBasename path)
      fun ops => ops.create.map fun f node name => f node name ownerReadWrite := by
  refine ⟨hnone, ?_⟩
  rcases hlookup : vfsLookup v path with ⟨_ | node, w⟩
  swap
  · rw [hlookup] at hnone
    cases hnone
  unfold openLookup at hopen
  rw [hlookup] at hopen
  dsimp only at hopen ⊢
  rcases hparent : vfsLookup w (vfsParentPath path) with ⟨_ | parent, w'⟩
  · rw [hparent] at hopen
    split_ifs at hopen
    · exact absurd rfl hopen
    · exact absurd rfl hopen
  rw [hparent] at hopen
  dsimp only at hopen
  cases hop : w'.op parent VfsOps.create with
  | none =>
    rw [hop] at hopen
    split_ifs at hopen
    · exact absurd rfl hopen
    · exact absurd rfl hopen
  | some f =>
    rw [hop] at hopen
    dsimp only at hopen
    split_ifs at hopen with hcreat hfail
    · exact absurd rfl hopen
    · exact absurd rfl hopen
    · refine ⟨parent, w', fun node name => f node name ownerReadWrite, rfl, ?_, not_not.mp hfail⟩
      unfold Vfs.op at hop ⊢
      obtain ⟨m, hm, hops⟩ := Option.bind_eq_some_iff.mp hop
      obtain ⟨ops, hops, hf⟩ := Option.bind_eq_some_iff.mp hops
      simp [hm, hops, hf]

lemma askedFor_of_vfsOpen (hnone : (vfsLookup v path).1 = none) (hopen : (vfsOpen v path flags).1 ≠ none) :
    AskedFor v path (vfsParentPath path) (vfsBasename path)
      fun ops => ops.create.map fun f node name => f node name ownerReadWrite := by
  refine @askedFor_of_openLookup _ _ _ flags hnone fun hfail => hopen ?_
  unfold vfsOpen
  rcases hfound : openLookup v path flags with ⟨_ | node, w⟩
  · rfl
  · rw [hfound] at hfail
    cases hfail

/-! ## What `vfs_parent_path` copies -/

/-- The bytes that `vfs_parent_path` copies into its buffer of `VFS_PATH_MAX`; of the empty path and the
root it copies none. -/
def parentCopied (path : Str) : Nat := if path = [] ∨ path = [slash] then 0 else path.length + 1

/-- The calls that take a path apart. -/
inductive PathCall
  | openPath (path : Str) (flags : UInt32)
  | create (path : Str)
  | mkdir (path : Str)
  | unlink (path : Str)
  | rename (oldpath newpath : Str)

/-- The paths that a call hands to `vfs_parent_path`. -/
def parentCalls (v : Vfs σ) : PathCall → List Str
  | .openPath path flags =>
    if (vfsLookup v path).1 = none ∧ flags &&& oCreat ≠ 0 then [path] else []
  | .create path | .mkdir path => if (vfsLookup v path).1 = none then [path] else []
  | .unlink path =>
    match vfsLookup v path with
    | (none, _) => []
    | (some node, w) => if (w.nodes node).info.type = .directory then [] else [path]
  | .rename oldpath newpath =>
    if (vfsLookup v (vfsParentPath oldpath)).1 = none then [oldpath] else [oldpath, newpath]

/-- When the copies are in bounds. -/
def InBounds (v : Vfs σ) : PathCall → Prop
  | .openPath path flags => path.length < vfsPathMax ∨ flags &&& oCreat = 0
  | .create path | .mkdir path => path.length < vfsPathMax
  | .unlink _ => True
  | .rename oldpath newpath => oldpath.length < vfsPathMax ∧
      (newpath.length < vfsPathMax ∨ (vfsLookup v (vfsParentPath oldpath)).1 = none)

lemma parentCopied_le_iff (path : Str) : parentCopied path ≤ vfsPathMax ↔ path.length < vfsPathMax := by
  unfold parentCopied
  split_ifs with hroot
  · refine iff_of_true (Nat.zero_le _) ?_
    rcases hroot with rfl | rfl
    · decide
    · decide
  · exact Nat.succ_le_iff

lemma length_lt_of_vfsLookup (h : (vfsLookup v path).1 ≠ none) : path.length < vfsPathMax := by
  by_contra hlong
  refine h ?_
  have hne : path ≠ [] := by
    rintro rfl
    exact hlong (by decide)
  have hnone : vfsNormalizePath path = none := by
    rw [vfsNormalizePath, if_neg hne, if_pos (not_lt.mp hlong)]
  rw [vfsLookup, hnone]

lemma parentCalls_iff (v : Vfs σ) (c : PathCall) :
    (∀ q ∈ parentCalls v c, parentCopied q ≤ vfsPathMax) ↔ InBounds v c := by
  have hmade : ∀ path,
      (∀ q ∈ if (vfsLookup v path).1 = none then [path] else [], parentCopied q ≤ vfsPathMax) ↔
        path.length < vfsPathMax := by
    intro path
    split_ifs with hnone
    · simp [parentCopied_le_iff]
    · simp [length_lt_of_vfsLookup hnone]
  cases c with
  | openPath path flags =>
    rw [parentCalls, InBounds, ← hmade path]
    by_cases hflags : flags &&& oCreat = 0
    · simp [hflags]
    · simp [hflags]
  | create path => exact hmade path
  | mkdir path => exact hmade path
  | unlink path =>
    refine iff_of_true (fun q hq => (parentCopied_le_iff q).mpr ?_) trivial
    rcases hlookup : vfsLookup v path with ⟨_ | node, w⟩
    · simp [parentCalls, hlookup] at hq
    · simp only [parentCalls, hlookup] at hq
      split_ifs at hq
      · cases hq
      · obtain rfl := List.mem_singleton.mp hq
        exact length_lt_of_vfsLookup (v := v) (by rw [hlookup]; simp)
  | rename oldpath newpath =>
    rw [parentCalls, InBounds]
    split_ifs with hnone
    · simp [parentCopied_le_iff, hnone]
    · simp [parentCopied_le_iff, hnone]

/-- **Parent and base name.**  When they are cut right; what a successful creation has asked for; and
when the copy of the path is in bounds. -/
theorem createdAt_iff : (∀ p : Str, p.length < vfsPathMax → vfsNormalizePath p ≠ some [slash] →
      (CutRight p ↔ p.getLast? ≠ some slash)) ∧
    (∀ (v : Vfs σ) (path : Str) (mode : UInt32), (vfsCreate v path mode).1 = vfsOk →
      AskedFor v path (vfsParentPath path) (vfsBasename path)
        fun ops => ops.create.map fun f node name => f node name mode) ∧
    (∀ (v : Vfs σ) (path : Str) (mode : UInt32), (vfsMkdir v path mode).1 = vfsOk →
      AskedFor v path (vfsParentPath path) (vfsBasename path)
        fun ops => ops.mkdir.map fun f node name => f node name mode) ∧
    (∀ (v : Vfs σ) (path : Str) (flags : UInt32), (vfsLookup v path).1 = none →
      (vfsOpen v path flags).1 ≠ none → AskedFor v path (vfsParentPath path) (vfsBasename path)
        fun ops => ops.create.map fun f node name => f node name ownerReadWrite) ∧
    ∀ (v : Vfs σ) (c : PathCall),
      (∀ q ∈ parentCalls v c, parentCopied q ≤ vfsPathMax) ↔ InBounds v c :=
  ⟨fun _ => cutRight_iff, fun _ _ _ => askedFor_of_makeAt, fun _ _ _ => askedFor_of_makeAt,
    fun _ _ _ => askedFor_of_vfsOpen, parentCalls_iff⟩

/-- `/a/../b` is cut into `/a/..` and `b`. -/
theorem createdAt_dots : CutRight [47, 97, 47, 46, 46, 47, 98] :=
  ((createdAt_iff (σ := Unit)).1 _ (by decide) (by decide)).mpr (by decide)

/-- `/a/` is cut into the root and `a/`, and creating a file of 4096 bytes of path copies 4097. -/
theorem not_createdAt_all : ¬ CutRight [47, 97, 47] ∧
      ¬ ∀ q ∈ parentCalls (vfsInit 0 ()) (.create (List.replicate 4096 97)), parentCopied q ≤ vfsPathMax := by
  refine ⟨fun hcut => ?_, fun hbound => ?_⟩
  · exact (cutRight_iff (by decide) (by decide)).mp hcut (by decide)
  · have hlen : (List.replicate 4096 (97 : UInt8)).length < vfsPathMax :=
      (parentCalls_iff (vfsInit 0 ()) (.create (List.replicate 4096 97))).mp hbound
    rw [List.length_replicate] at hlen
    exact absurd hlen (by decide)

end

end AAAos
