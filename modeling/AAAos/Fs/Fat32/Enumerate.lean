import AAAos.Fs.Fat32.ListWalks

/-!
# Reading a directory entry by entry

`vfs_readdir` asks `fat32_vfs_readdir` for the entry at the position of the handle, and adds one to the position.
`fat32_vfs_readdir` passes over the slots that hold no entry, and over `.` and `..`, and does not say how many it
passed over.

**What goes wrong.**  Each slot that is passed over is the position of another call, and that call passes over it again:
the entry behind it is returned once more for every such slot.  In a subdirectory, which begins with `.` and `..`, the
first file is returned three times (`readdir_repeats`).

**What is proved.**  For every directory, what the calls return (`run_readdirAll`), and exactly when that is each entry
once: the slots before the last entry all hold entries (`readdir_enumerates_iff`).
-/

namespace AAAos

open View

/-! ## Asking at each position -/

section Repeats

variable {α β : Type} {p : α → Bool}

/-- The answers at the positions of a list, each the first element from there on, until there is none. -/
def repeats (p : α → Bool) : List α → List α
  | [] => []
  | x :: l =>
    match (x :: l).find? p with
    | none => []
    | some y => y :: repeats p l

lemma find?_of_not {x : α} (hx : ¬ p x = true) (l : List α) : (x :: l).find? p = l.find? p :=
  List.find?_cons_of_neg hx

lemma repeats_cons (x : α) (l : List α) : repeats p (x :: l) =
    match (x :: l).find? p with
    | none => []
    | some y => y :: repeats p l := rfl

lemma repeats_of_pos {x : α} (hx : p x = true) (l : List α) : repeats p (x :: l) = x :: repeats p l := by
  rw [repeats_cons, List.find?_cons_of_pos hx]

lemma length_filter_le_repeats (l : List α) : (l.filter p).length ≤ (repeats p l).length := by
  induction l with
  | nil => exact le_rfl
  | cons x l ih =>
    by_cases hx : p x = true
    · rw [repeats_of_pos hx, List.filter_cons_of_pos hx]
      exact Nat.succ_le_succ ih
    · rw [List.filter_cons_of_neg hx, repeats_cons, find?_of_not hx]
      cases hfind : l.find? p with
      | none =>
        rw [List.filter_eq_nil_iff.mpr (List.find?_eq_none.mp hfind)]
      | some y => exact Nat.le_succ_of_le ih

/-- Each is there once, exactly if they all come first. -/
theorem map_repeats_eq_iff (f : α → β) (l : List α) :
    (repeats p l).map f = (l.filter p).map f ↔ ∀ x ∈ l.dropWhile p, ¬ p x = true := by
  induction l with
  | nil => simp [repeats]
  | cons x l ih =>
    by_cases hx : p x = true
    · rw [repeats_of_pos hx, List.filter_cons_of_pos hx, List.dropWhile_cons_of_pos hx, List.map_cons, List.map_cons,
        List.cons.injEq, and_iff_right rfl, ih]
    · rw [List.filter_cons_of_neg hx, List.dropWhile_cons_of_neg hx, repeats_cons, find?_of_not hx]
      cases hfind : l.find? p with
      | none =>
        have hnone := List.find?_eq_none.mp hfind
        rw [List.filter_eq_nil_iff.mpr hnone]
        refine iff_of_true rfl fun y hy => ?_
        rcases List.mem_cons.mp hy with rfl | hy
        · exact hx
        · exact hnone y hy
      | some y =>
        refine iff_of_false (fun heq => ?_) fun hall =>
          hall y (List.mem_cons_of_mem x (List.mem_of_find?_eq_some hfind)) (List.find?_some hfind)
        have hlen := congrArg List.length heq
        rw [List.length_map, List.length_map, List.length_cons] at hlen
        have := length_filter_le_repeats (p := p) l
        omega

end Repeats

/-! ## One call -/

/-- The slot holds an entry, and it is not `.` or `..`. -/
def isShown (slot : Mem) : Bool := !decide (SlotSkipped slot) && !isDotName (fat32FormatShortName slot 0)

/-- The slots of a directory before its end. -/
def beforeEnd (slots : List Mem) : List Mem := slots.takeWhile fun slot => !decide (SlotEnd slot)

/-- What `fat32_vfs_readdir` answers with for an entry. -/
def shownDirent (slot : Mem) : Dirent := direntOf slot (fat32FormatShortName slot 0)

section Call

variable {v : Volume} {t : View} {fs : Fat32Fs} {p q : Nat} {cs : List Nat} {slot x : Mem} {l : List Mem} {name : Str}

lemma beforeEnd_cons_of_end (h : SlotEnd x) (l : List Mem) : beforeEnd (x :: l) = [] :=
  List.takeWhile_cons_of_neg (by simp [h])

lemma beforeEnd_cons (h : ¬ SlotEnd x) (l : List Mem) : beforeEnd (x :: l) = x :: beforeEnd l :=
  List.takeWhile_cons_of_pos (by simp [h])

lemma not_isShown (h : SlotSkipped x) : ¬ isShown x = true := by
  unfold isShown
  simp [h]

/-- The first entry is the one that is wanted, unless it is `.` or `..`. -/
lemma find?_of_readFirst (h : readFirst l = .ok (slot, name)) :
    name = fat32FormatShortName slot 0 ∧ (isDotName name = false → (beforeEnd l).find? isShown = some slot) := by
  induction l with
  | nil => cases h
  | cons x l ih =>
    unfold readFirst at h
    split_ifs at h with hend hskip
    · rw [beforeEnd_cons hend, find?_of_not (not_isShown hskip)]
      exact ih h
    · obtain ⟨rfl, rfl⟩ := Prod.mk.inj (Except.ok.inj h)
      refine ⟨rfl, fun hdot => ?_⟩
      rw [beforeEnd_cons hend, List.find?_cons_of_pos (by simp [isShown, hskip, hdot])]

lemma find?_of_readFirst_error {e : Int} (h : readFirst l = .error e) : (beforeEnd l).find? isShown = none := by
  induction l with
  | nil => rfl
  | cons x l ih =>
    unfold readFirst at h
    split_ifs at h with hend hskip
    · rw [beforeEnd_cons_of_end hend]
      rfl
    · rw [beforeEnd_cons hend, find?_of_not (not_isShown hskip)]
      exact ih h

/-- A slot from which `.` or `..` is found can be passed over. -/
lemma dot_passed (h : readFirst (x :: l) = .ok (slot, name)) (hdot : isDotName name = true) :
    ¬ SlotEnd x ∧ isShown x = false := by
  unfold readFirst at h
  split_ifs at h with hend hskip
  · exact ⟨hend, eq_false_of_ne_true (not_isShown hskip)⟩
  · obtain ⟨rfl, rfl⟩ := Prod.mk.inj (Except.ok.inj h)
    exact ⟨hend, by simp [isShown, hdot]⟩

/-- A directory: its clusters, up to the end of the chain or the end mark. -/
structure DirChain (v : Volume) (t : View) (p : Nat) (cs : List Nat) (q : Nat) : Prop where
  chained : Chained v t p cs q
  proper : Proper v p
  last : ¬ v.Cluster q ∨ ∃ slot ∈ t.slots v cs, SlotEnd slot

lemma slots_append (v : Volume) (t : View) (cs ds : List Nat) : t.slots v (cs ++ ds) = t.slots v cs ++ t.slots v ds :=
  List.flatMap_append

lemma length_slots (v : Volume) (t : View) (cs : List Nat) :
    (t.slots v cs).length = cs.length * entriesPerCluster v := by
  induction cs with
  | nil => rw [View.slots, List.flatMap_nil, List.length_nil, List.length_nil, Nat.zero_mul]
  | cons c cs ih =>
    rw [slots_cons, List.length_append, length_slotsFrom, ih, List.length_cons, Nat.succ_mul, Nat.add_comm]

/-- The answer is the expected one, or both are errors. -/
def SameAnswer {α : Type} : Except Int α → Except Int α → Prop
  | .ok a, r => r = .ok a
  | .error _, r => ∃ e, r = .error e

lemma SameAnswer.rfl {α : Type} {r : Except Int α} : SameAnswer r r := by
  cases r with
  | ok a => exact Eq.refl _
  | error e => exact ⟨e, Eq.refl _⟩

/-- **`fat32_read_dir_entry`** answers with the first entry from the slot with that index on. -/
lemma wp_fat32ReadDirEntry (hv : v.Regular) (hnext : ∀ c, t.next c < 2 ^ 28) (h : Chained v t p cs q) (hp : Proper v p)
    {index fuel : Nat} (hindex : index + entriesPerCluster v < 2 ^ 32)
    (hend : ¬ v.Cluster q ∨ ∃ slot ∈ (t.slots v cs).drop index, SlotStops slot) (hfuel : cs.length + 1 ≤ fuel) :
    (fat32ReadDirEntry v fuel p index).wp (fatSpec v)
      (fun r u => u = t ∧ SameAnswer (readFirst ((t.slots v cs).drop index)) r) t := by
  have hpos := entries_pos hv
  have hdiv := Nat.div_add_mod index (entriesPerCluster v)
  have hmod := Nat.mod_lt index hpos
  rw [fat32ReadDirEntry_eq, Prog.wp_bind]
  by_cases hk : index / entriesPerCluster v < cs.length
  · -- the cluster of the index is one of the directory
    have hsplit := List.take_append_drop (index / entriesPerCluster v) cs
    generalize hfront : cs.take (index / entriesPerCluster v) = front at hsplit
    generalize hrest : cs.drop (index / entriesPerCluster v) = ds at hsplit
    have hlen : front.length = index / entriesPerCluster v := by
      rw [← hfront, List.length_take]
      omega
    have hne : ds ≠ [] := by
      intro hnil
      rw [hnil] at hrest
      exact absurd (List.drop_eq_nil_iff.mp hrest) (Nat.not_le.mpr hk)
    rw [← hsplit] at h hend ⊢
    have hslots : (t.slots v (front ++ ds)).drop index = (t.slots v ds).drop (index % entriesPerCluster v) := by
      have hsum : index = (t.slots v front).length + index % entriesPerCluster v := by
        rw [length_slots, hlen, Nat.mul_comm]
        exact hdiv.symm
      rw [slots_append]
      exact (congrArg (fun i => (t.slots v front ++ t.slots v ds).drop i) hsum).trans (List.drop_length_add_append _)
    obtain ⟨s, hseg, hback⟩ := Seg.append.mp h.seg
    have hstart : Chained v t p front s := ⟨hseg, fun c hc => h.clusters c (List.mem_append_left ds hc)⟩
    have hthen : Chained v t s ds q := ⟨hback, fun c hc => h.clusters c (List.mem_append_right front hc)⟩
    rw [hslots] at hend ⊢
    have hsize : cs.length = front.length + ds.length := by rw [← hsplit, List.length_append]
    refine Prog.wp_mono (wp_readDirSkip hv hnext hp hindex hstart (.inl hlen) (by omega)) ?_
    rintro r u ⟨rfl, rfl⟩
    rw [if_pos hlen]
    refine Prog.wp_mono
      (wp_readDirRest hv hthen (Chained.proper_of_ne hv hnext hthen hne) hne hmod.le hend (by omega)) ?_
    rintro r u ⟨rfl, rfl⟩
    exact ⟨rfl, SameAnswer.rfl⟩
  · -- it is behind the last cluster
    have hnone : (t.slots v cs).drop index = [] := by
      refine List.drop_eq_nil_of_le ?_
      have hle := Nat.mul_le_mul_left (entriesPerCluster v) (Nat.not_lt.mp hk)
      rw [length_slots, Nat.mul_comm]
      omega
    rw [hnone] at hend ⊢
    have hout : ¬ v.Cluster q := hend.resolve_right fun ⟨slot, hmem, _⟩ => absurd hmem List.not_mem_nil
    have hlen : cs.length = index / entriesPerCluster v ∨ cs.length < index / entriesPerCluster v ∧ ¬ v.Cluster q := by
      rcases Nat.eq_or_lt_of_le (Nat.not_lt.mp hk) with heq | hlt
      · exact .inl heq
      · exact .inr ⟨hlt, hout⟩
    refine Prog.wp_mono (wp_readDirSkip hv hnext hp hindex h hlen (by omega)) ?_
    rintro r u ⟨rfl, rfl⟩
    split_ifs with hreach
    · obtain ⟨fuel, rfl⟩ : ∃ n, fuel = n + 1 := ⟨fuel - 1, by omega⟩
      dsimp only
      rw [Prog.wp_loop_succ]
      unfold readDirRound
      rw [if_neg ((Chained.proper hv hnext hp h).invalid hout)]
      exact ⟨rfl, errInval, rfl⟩
    · exact ⟨rfl, errNoEnt, rfl⟩

/-- **`fat32_vfs_readdir`** answers with the first entry from the slot with that index on that is not `.` or `..`. -/
lemma wp_fat32VfsReaddir (fuel rounds : Nat) (hv : v.Regular) (hnext : ∀ c, t.next c < 2 ^ 28)
    (h : Chained v t p cs q) (hp : Proper v p) (hsize : (t.slots v cs).length + entriesPerCluster v < 2 ^ 32) {index : Nat}
    (hindex : index ≤ (t.slots v cs).length)
    (hend : ¬ v.Cluster q ∨ ∃ slot ∈ (t.slots v cs).drop index, SlotEnd slot) (hfuel : cs.length + 1 ≤ fuel)
    (hrounds : (t.slots v cs).length + 1 ≤ index + rounds) :
    (Prog.loop (readdirRound v fuel p) rounds index).wp (fatSpec v)
      (fun r u => u = t ∧ r = ((beforeEnd ((t.slots v cs).drop index)).find? isShown).map shownDirent) t := by
  induction rounds generalizing index with
  | zero => omega
  | succ rounds ih =>
    rw [Prog.wp_loop_succ]
    unfold readdirRound
    rw [Prog.wp_bind]
    refine Prog.wp_mono (wp_fat32ReadDirEntry hv hnext h hp (by omega)
      (hend.imp_right fun ⟨slot, hmem, hslot⟩ => ⟨slot, hmem, .inl hslot⟩) hfuel) ?_
    rintro r u ⟨rfl, hanswer⟩
    cases hfirst : readFirst ((u.slots v cs).drop index) with
    | error e =>
      rw [hfirst] at hanswer
      obtain ⟨e', rfl⟩ := hanswer
      rw [find?_of_readFirst_error hfirst]
      exact ⟨rfl, rfl⟩
    | ok found =>
      obtain ⟨slot, name⟩ := found
      rw [hfirst] at hanswer
      obtain rfl : r = .ok (slot, name) := hanswer
      obtain ⟨rfl, hshown⟩ := find?_of_readFirst hfirst
      dsimp only
      split_ifs with hdot
      · -- the slot with this index is not the one that is wanted
        have hlt : index < (u.slots v cs).length := by
          by_contra hge
          rw [List.drop_eq_nil_of_le (Nat.not_lt.mp hge)] at hfirst
          cases hfirst
        rw [List.drop_eq_getElem_cons hlt] at hfirst hend ⊢
        obtain ⟨hnotend, hhidden⟩ := dot_passed hfirst hdot
        rw [beforeEnd_cons hnotend, find?_of_not (by simp [hhidden])]
        have hstep : u32 (index + 1) = index + 1 := Nat.mod_eq_of_lt (by omega)
        rw [Prog.wp_pure]
        dsimp only
        rw [hstep]
        refine ih (by omega) (hend.imp_right fun ⟨slot, hmem, hslot⟩ => ⟨slot, ?_, hslot⟩) (by omega)
        exact (List.mem_cons.mp hmem).resolve_left fun heq => hnotend (heq ▸ hslot)
      · rw [hshown (by simpa using hdot)]
        exact ⟨rfl, rfl⟩

lemma beforeEnd_drop {k : Nat} (hk : k ≤ (beforeEnd l).length) : beforeEnd (l.drop k) = (beforeEnd l).drop k ∧
      ((∃ slot ∈ l, SlotEnd slot) → ∃ slot ∈ l.drop k, SlotEnd slot) := by
  induction l generalizing k with
  | nil =>
    exact ⟨by rw [List.drop_nil, show beforeEnd [] = [] from rfl, List.drop_nil],
      fun ⟨_, hmem, _⟩ => absurd hmem List.not_mem_nil⟩
  | cons x l ih =>
    cases k with
    | zero => exact ⟨rfl, id⟩
    | succ k =>
      by_cases hend : SlotEnd x
      · rw [beforeEnd_cons_of_end hend] at hk
        exact absurd hk (Nat.not_succ_le_zero k)
      · rw [beforeEnd_cons hend] at hk ⊢
        rw [List.length_cons] at hk
        obtain ⟨heq, hmem⟩ := ih (Nat.le_of_succ_le_succ hk)
        rw [List.drop_succ_cons, List.drop_succ_cons]
        refine ⟨heq, fun ⟨slot, hslot, h⟩ => hmem ⟨slot, ?_, h⟩⟩
        exact (List.mem_cons.mp hslot).resolve_left fun heq => hend (heq ▸ h)

lemma length_beforeEnd_le (l : List Mem) : (beforeEnd l).length ≤ l.length := (List.takeWhile_prefix _).length_le

end Call

/-! ## The handle -/

/-- `fat32_vfs_readdir` as the callback of a mount.  `firstCluster` says what the handle behind `fs_data` holds. -/
def fat32ReaddirOp (fuel : Nat) (firstCluster : UInt64 → Option Nat) (dir : Node) (index : UInt32) (fs : Fat32Fs) :
    Option Dirent × Fat32Fs :=
  if dir.info.type ≠ .directory then (none, fs)
  else
    match firstCluster dir.info.fsData with
    | none => (none, fs)
    | some cluster => ((fat32VfsReaddir fs.vol fuel cluster index.toNat).run fatMachine fs).getD (none, fs)

/-- `vfs_readdir`, again and again until it returns `NULL`. -/
def readdirAll {σ : Type} : Nat → Vfs σ → DirSlot → Option (List Dirent)
  | 0, _, _ => none
  | rounds + 1, v, dir =>
    match vfsReaddir v dir with
    | (none, _) => some []
    | (some entry, v) => (readdirAll rounds v dir).map (entry :: ·)

lemma readdirAll_mono {σ : Type} {v : Vfs σ} {dir : DirSlot} {l : List Dirent} {rounds rounds' : Nat}
    (h : readdirAll rounds v dir = some l) (hle : rounds ≤ rounds') : readdirAll rounds' v dir = some l := by
  induction rounds generalizing v l rounds' with
  | zero => cases h
  | succ rounds ih =>
    obtain ⟨rounds', rfl⟩ : ∃ n, rounds' = n + 1 := ⟨rounds' - 1, by omega⟩
    unfold readdirAll at h ⊢
    rcases hread : vfsReaddir v dir with ⟨answer, v'⟩
    rw [hread] at h
    cases answer with
    | none => exact h
    | some entry =>
      obtain ⟨rest, hrest, rfl⟩ := Option.map_eq_some_iff.mp h
      dsimp only
      rw [ih hrest (Nat.le_of_succ_le_succ hle)]
      rfl

/-- A handle of a FAT32 directory that begins at cluster `p`, at a position. -/
structure FatHandle (fuel : Nat) (firstCluster : UInt64 → Option Nat) (v : Vfs Fat32Fs) (dir : DirSlot) (p : Nat)
    (position : UInt32) : Prop where
  inUse : (v.openDirs dir).inUse = true
  position : (v.openDirs dir).position = position
  node : ∃ node, (v.openDirs dir).node = some node ∧ v.op node VfsOps.readdir = some (fat32ReaddirOp fuel firstCluster) ∧
    (v.nodes node).info.type = .directory ∧ firstCluster (v.nodes node).info.fsData = some p

section Handle

variable {v : Vfs Fat32Fs} {vol : Volume} {t : View} {dir : DirSlot} {p q fuel rounds : Nat} {cs : List Nat}
  {firstCluster : UInt64 → Option Nat} {position : UInt32}

/-- **One call** of `vfs_readdir`. -/
lemma vfsReaddir_fat (hv : vol.Regular) (hfs : Shows vol v.fs t) (hnext : ∀ c, t.next c < 2 ^ 28)
    (hdir : DirChain vol t p cs q) (hsize : (t.slots vol cs).length + entriesPerCluster vol < 2 ^ 32)
    (hfuel : cs.length + (t.slots vol cs).length + 1 ≤ fuel) (h : FatHandle fuel firstCluster v dir p position)
    (hposition : position.toNat ≤ (beforeEnd (t.slots vol cs)).length) :
    ∃ v', vfsReaddir v dir =
        ((((beforeEnd (t.slots vol cs)).drop position.toNat).find? isShown).map shownDirent, v') ∧ Shows vol v'.fs t ∧
      ((((beforeEnd (t.slots vol cs)).drop position.toNat).find? isShown).isSome →
        FatHandle fuel firstCluster v' dir p (position + 1)) := by
  obtain ⟨node, hnode, hop, htype, hfirst⟩ := h.node
  obtain ⟨heq, hmem⟩ := beforeEnd_drop hposition
  have hcall := wp_fat32VfsReaddir fuel fuel hv hnext hdir.chained hdir.proper hsize
    (Nat.le_trans hposition (length_beforeEnd_le _)) (hdir.last.imp_right hmem) (by omega) (by omega)
  obtain ⟨r, fs', u, hrun, hshows, rfl, rfl⟩ := hfs.run hv hcall
  rw [heq] at hrun
  have hanswer : fat32ReaddirOp fuel firstCluster (v.nodes node) position v.fs =
      ((((beforeEnd (u.slots vol cs)).drop position.toNat).find? isShown).map shownDirent, fs') := by
    unfold fat32ReaddirOp
    rw [if_neg (fun hne => hne htype), hfirst]
    dsimp only
    rw [hfs.vol]
    exact congrArg (fun r => Option.getD r (none, v.fs)) hrun
  unfold vfsReaddir
  rw [h.inUse, hnode]
  dsimp only
  rw [if_neg (by decide), hop]
  dsimp only
  rw [h.position, hanswer]
  dsimp only
  cases hfind : ((beforeEnd (u.slots vol cs)).drop position.toNat).find? isShown with
  | none => exact ⟨_, rfl, hshows, fun hsome => absurd hsome (by decide)⟩
  | some slot =>
    refine ⟨_, rfl, hshows, fun _ => ⟨?_, ?_, node, ?_, hop, htype, hfirst⟩⟩
    · simp [Vfs.setDir, Vfs.setFs, h.inUse]
    · simp [Vfs.setDir, Vfs.setFs, h.position]
    · simp [Vfs.setDir, Vfs.setFs, hnode]

/-- **All calls**: an answer for each position, until there is none. -/
theorem run_readdirAll (hv : vol.Regular) (hfs : Shows vol v.fs t) (hnext : ∀ c, t.next c < 2 ^ 28)
    (hdir : DirChain vol t p cs q) (hsize : (t.slots vol cs).length + entriesPerCluster vol < 2 ^ 32)
    (hfuel : cs.length + (t.slots vol cs).length + 1 ≤ fuel) (h : FatHandle fuel firstCluster v dir p position)
    (hposition : position.toNat ≤ (beforeEnd (t.slots vol cs)).length)
    (hrounds : (beforeEnd (t.slots vol cs)).length + 1 ≤ position.toNat + rounds) :
    readdirAll rounds v dir =
      some ((repeats isShown ((beforeEnd (t.slots vol cs)).drop position.toNat)).map shownDirent) := by
  induction rounds generalizing v position with
  | zero => omega
  | succ rounds ih =>
    obtain ⟨v', hread, hshows, hhandle⟩ := vfsReaddir_fat hv hfs hnext hdir hsize hfuel h hposition
    unfold readdirAll
    rw [hread]
    rcases Nat.eq_or_lt_of_le hposition with hlast | hlt
    · rw [hlast, List.drop_length]
      rfl
    · have hlength := length_beforeEnd_le (t.slots vol cs)
      have hadd : (position + 1).toNat = position.toNat + 1 := by
        rw [UInt32.toNat_add]
        exact Nat.mod_eq_of_lt (by have : (1 : UInt32).toNat = 1 := rfl; omega)
      rw [List.drop_eq_getElem_cons hlt] at hhandle ⊢
      rw [repeats_cons]
      cases hfind : ((beforeEnd (t.slots vol cs))[position.toNat] ::
          (beforeEnd (t.slots vol cs)).drop (position.toNat + 1)).find? isShown with
      | none => rfl
      | some slot =>
        rw [hfind] at hhandle
        have hrest := ih hshows (hhandle rfl) (by omega) (by omega)
        rw [hadd] at hrest
        dsimp only [Option.map_some]
        rw [hrest]
        rfl

/-- The entries of a directory but `.` and `..`, in the order they have on the disk. -/
def shownEntries (slots : List Mem) : List Dirent := ((beforeEnd slots).filter isShown).map shownDirent

/-- The calls on a fresh handle return each entry once. -/
def EnumeratesOnce (v : Vfs Fat32Fs) (dir : DirSlot) (slots : List Mem) : Prop :=
  ∃ rounds, readdirAll rounds v dir = some (shownEntries slots)

lemma enumeratesOnce_iff (hv : vol.Regular) (hfs : Shows vol v.fs t) (hnext : ∀ c, t.next c < 2 ^ 28)
    (hdir : DirChain vol t p cs q) (hsize : (t.slots vol cs).length + entriesPerCluster vol < 2 ^ 32)
    (hfuel : cs.length + (t.slots vol cs).length + 1 ≤ fuel) (h : FatHandle fuel firstCluster v dir p 0) :
    EnumeratesOnce v dir (t.slots vol cs) ↔
      ∀ slot ∈ (beforeEnd (t.slots vol cs)).dropWhile isShown, ¬ isShown slot = true := by
  have hall := fun rounds (hrounds : (beforeEnd (t.slots vol cs)).length + 1 ≤ rounds) =>
    show readdirAll rounds v dir = _ from run_readdirAll hv hfs hnext hdir hsize hfuel h (Nat.zero_le _)
      (Nat.le_trans hrounds (Nat.le_add_left _ _))
  rw [← map_repeats_eq_iff shownDirent]
  constructor
  · rintro ⟨rounds, hrun⟩
    have hmore := readdirAll_mono hrun (Nat.le_max_left rounds ((beforeEnd (t.slots vol cs)).length + 1))
    exact Option.some.inj ((hall _ (Nat.le_max_right _ _)).symm.trans hmore)
  · intro heq
    exact ⟨_, (hall _ le_rfl).trans (congrArg some heq)⟩

end Handle

/-- **Reading a directory**, for every contents of its slots: the calls return each entry but `.` and `..` once, in the
order they have on the disk, exactly if there is no such entry behind a slot that is passed over. -/
theorem readdir_enumerates_iff {fs : Fat32Fs} {p q : Nat} {cs : List Nat} (hfs : fs.Sound) (hv : fs.vol.Regular)
    (hdir : DirChain fs.vol fs.view p cs q)
    (hsize : (fs.view.slots fs.vol cs).length + entriesPerCluster fs.vol < 2 ^ 32) :
    ∃ n, ∀ fuel, n ≤ fuel → ∀ (v : Vfs Fat32Fs) (dir : DirSlot) (firstCluster : UInt64 → Option Nat), v.fs = fs →
      FatHandle fuel firstCluster v dir p 0 → (EnumeratesOnce v dir (fs.view.slots fs.vol cs) ↔
        ∀ slot ∈ (beforeEnd (fs.view.slots fs.vol cs)).dropWhile isShown, ¬ isShown slot = true) := by
  refine ⟨cs.length + (fs.view.slots fs.vol cs).length + 1, fun fuel hfuel v dir firstCluster hvfs h => ?_⟩
  have hshows : Shows fs.vol v.fs fs.view := hvfs ▸ fs.shows_view hfs
  exact enumeratesOnce_iff hv hshows fs.view_next_lt hdir hsize hfuel h

/-- A volume whose root directory begins with these slots. -/
def dirFs (slots : Mem) (n : Nat) : Fat32Fs :=
  { tinyFs with
    device :=
      ⟨paste (writeLE tinyDisk.bytes 520 4 clusterEof) 1536 (direntSize * n) slots, fun _ => false, fun _ => false⟩ }

/-- An open handle of it. -/
def dirVfs (fuel : Nat) (fs : Fat32Fs) : Vfs Fat32Fs :=
  { vfsInit 0 fs with
    mounts := fun _ => { ops := some { readdir := some (fat32ReaddirOp fuel fun _ => some 2) }, active := true }
    nodes := fun _ => { info := { type := .directory }, mount := some 0, refCount := 1 }
    openDirs := fun _ => ⟨some 0, 0, true⟩ }

lemma dirVfs_handle (fuel : Nat) (fs : Fat32Fs) : FatHandle fuel (fun _ => some 2) (dirVfs fuel fs) 0 2 0 :=
  ⟨rfl, rfl, 0, rfl, rfl, rfl, rfl⟩

/-- The entry of a file called `A`. -/
def fileEntryA : Mem := newEntry (0x41 :: List.replicate 10 0x20) attrArchive

/-- A subdirectory with a file in it. -/
def subdirFs : Fat32Fs := dirFs (paste (dotEntries 2 0) 64 32 fileEntryA) 3

/-- A root directory with a file in it. -/
def rootFileFs : Fat32Fs := dirFs fileEntryA 1

lemma dirFs_sound (slots : Mem) (n : Nat) : (dirFs slots n).Sound :=
  Fat32Fs.sound_of_empty (fun _ => ⟨rfl, rfl⟩) (fun _ => ⟨rfl, rfl⟩) tinyFs_layout rfl

lemma tinyFs_cluster_two : tinyFs.vol.Cluster 2 := by decide

lemma dirFs_chain (slots : Mem) (n : Nat) (hnext : (dirFs slots n).view.next 2 = clusterEof) :
    DirChain (dirFs slots n).vol (dirFs slots n).view 2 [2] clusterEof where
  chained := ⟨⟨rfl, hnext⟩, fun c hc => List.mem_singleton.mp hc ▸ tinyFs_cluster_two⟩
  proper := fun _ => tinyFs_cluster_two
  last := .inl (show ¬ tinyFs.vol.Cluster clusterEof by decide)

/-- The file is returned for the positions of `.` and `..` too. -/
theorem readdir_repeats : subdirFs.Sound ∧ subdirFs.vol.Regular ∧
    ∃ n, ∀ fuel, n ≤ fuel → ¬ EnumeratesOnce (dirVfs fuel subdirFs) 0 (subdirFs.view.slots subdirFs.vol [2]) := by
  have hsound : subdirFs.Sound := dirFs_sound _ _
  refine ⟨hsound, Fat32Fs.tinyFs_regular, [2].length + (subdirFs.view.slots subdirFs.vol [2]).length + 1,
    fun fuel hfuel h => ?_⟩
  have hdir := dirFs_chain (paste (dotEntries 2 0) 64 32 fileEntryA) 3 (by decide)
  have hshows : Shows subdirFs.vol (dirVfs fuel subdirFs).fs subdirFs.view := subdirFs.shows_view hsound
  have hcond := (enumeratesOnce_iff Fat32Fs.tinyFs_regular hshows subdirFs.view_next_lt hdir
    (by rw [length_slots]; decide) hfuel (dirVfs_handle fuel subdirFs)).mp h
  have hbad : ¬ ∀ slot ∈ (beforeEnd (subdirFs.view.slots subdirFs.vol [2])).dropWhile isShown,
      ¬ isShown slot = true := by decide
  exact hbad hcond

/-- Where the file comes first, it is returned once. -/
theorem readdir_enumerates_root : ∃ n, ∀ fuel, n ≤ fuel →
    EnumeratesOnce (dirVfs fuel rootFileFs) 0 (rootFileFs.view.slots rootFileFs.vol [2]) := by
  obtain ⟨n, hn⟩ := readdir_enumerates_iff (dirFs_sound fileEntryA 1) Fat32Fs.tinyFs_regular
    (dirFs_chain fileEntryA 1 (by decide)) (by rw [length_slots]; decide)
  refine ⟨n, fun fuel hfuel => (hn fuel hfuel _ 0 _ rfl (dirVfs_handle fuel rootFileFs)).mpr ?_⟩
  decide

end AAAos
