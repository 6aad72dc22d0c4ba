import AAAos.Fs.Vfs.NodeAccounting

/-!
# No handle outlives its mount

`vfs_unmount` refuses while a file is open on the mount and does not look at open directories.  As
long as no unmount goes through under an open directory, every handle's node is on an active mount
whose filesystem has not been released since the handle was opened.

The node of a handle keeps its mount because it stays in use, so the argument rests on the
accounting of references.  Here it has to survive unmounts: a filesystem may leave its root node in
the pool, and that reference is then lost for good.  The invariant carries the lost references, and
`rootRefs + lost ≤ 1` keeps every counter far from overflow.
-/

namespace AAAos

section

variable {σ : Type} {u v w : Vfs σ} {p q lost : Multiset NodeSlot} {n k : NodeSlot} {m : MountSlot}

/-- The node is on the mount, and the mount is active. -/
def Vfs.LivesOn (v : Vfs σ) (n : NodeSlot) (m : MountSlot) : Prop :=
  (v.nodes n).mount = some m ∧ (v.mounts m).active = true

lemma Vfs.LivesOn.congr (h : v.LivesOn n m) (hmounts : w.mounts = v.mounts)
    (hnode : (w.nodes n).mount = (v.nodes n).mount) : w.LivesOn n m :=
  ⟨hnode.trans h.1, hmounts ▸ h.2⟩

/-- When a handle was opened, by its slot. -/
structure Epochs where
  released : MountSlot → Nat
  file : FileSlot → Nat
  dir : DirSlot → Nat

/-- Root nodes are on their mounts; what an operation has in hand and what the handles refer to is
on active mounts; and a handle outside `O` was opened since the last release of its mount. -/
structure Homed (E : Epochs) (O : Set Handle) (v : Vfs σ) (p : Multiset NodeSlot) : Prop where
  roots : ∀ m r, (v.mounts m).holds = some r → (v.nodes r).mount = some m
  pins : ∀ n ∈ p, ∃ m, v.LivesOn n m
  files : ∀ f, (v.openFiles f).inUse = true → ∃ n m, (v.openFiles f).holds = some n ∧
    v.LivesOn n m ∧ (Handle.file f ∉ O → E.file f = E.released m)
  dirs : ∀ d, (v.openDirs d).inUse = true → ∃ n m, (v.openDirs d).holds = some n ∧
    v.LivesOn n m ∧ (Handle.dir d ∉ O → E.dir d = E.released m)

/-! ## Changes to the nodes -/

lemma Vfs.refs_pos_of_file {f : FileSlot} (h : (v.openFiles f).holds = some n) : 0 < v.refs p n := by
  have : 0 < v.fileRefs n := tally_pos_of_mem (t := fun f => (v.openFiles f).holds) h
  unfold Vfs.refs
  omega

lemma Vfs.refs_pos_of_dir {d : DirSlot} (h : (v.openDirs d).holds = some n) : 0 < v.refs p n := by
  have : 0 < v.dirRefs n := tally_pos_of_mem (t := fun d => (v.openDirs d).holds) h
  unfold Vfs.refs
  omega

lemma Vfs.refs_add (v : Vfs σ) (p q : Multiset NodeSlot) (n : NodeSlot) :
    v.refs (p + q) n = v.refs p n + q.count n := by
  unfold Vfs.refs
  rw [Multiset.count_add]
  omega

lemma Homed.congrNodes {E : Epochs} {O : Set Handle} (h : Homed E O v p) (hq : ∀ n ∈ q, n ∈ p)
    (hmounts : w.mounts = v.mounts) (hfiles : w.openFiles = v.openFiles)
    (hdirs : w.openDirs = v.openDirs)
    (hnodes : ∀ n, 0 < v.refs p n → (w.nodes n).mount = (v.nodes n).mount) : Homed E O w q where
  roots := by
    intro m r hr
    rw [hmounts] at hr
    rw [hnodes r (Vfs.refs_pos_of_root hr)]
    exact h.roots m r hr
  pins := by
    intro n hn
    obtain ⟨m, hm⟩ := h.pins n (hq n hn)
    exact ⟨m, hm.congr hmounts (hnodes n (Vfs.refs_pos_of_mem (hq n hn)))⟩
  files := by
    intro f hf
    rw [hfiles] at hf ⊢
    obtain ⟨n, m, hn, hm, he⟩ := h.files f hf
    exact ⟨n, m, hn, hm.congr hmounts (hnodes n (Vfs.refs_pos_of_file hn)), he⟩
  dirs := by
    intro d hd
    rw [hdirs] at hd ⊢
    obtain ⟨n, m, hn, hm, he⟩ := h.dirs d hd
    exact ⟨n, m, hn, hm.congr hmounts (hnodes n (Vfs.refs_pos_of_dir hn)), he⟩

lemma Homed.of_quiet {E : Epochs} {O : Set Handle} (h : Homed E O v p) (hq : Quiet v w) : Homed E O w p where
  roots := by
    intro m r hr
    rw [hq.mounts] at hr
    rw [hq.nodeMount]
    exact h.roots m r hr
  pins := by
    intro n hn
    obtain ⟨m, hm⟩ := h.pins n hn
    exact ⟨m, hm.congr hq.mounts (hq.nodeMount n)⟩
  files := by
    intro f hf
    obtain ⟨n, m, hn, hm, he⟩ := h.files f (hq.filesUsed f hf)
    exact ⟨n, m, (hq.files f).trans hn, hm.congr hq.mounts (hq.nodeMount n), he⟩
  dirs := by
    intro d hd
    obtain ⟨n, m, hn, hm, he⟩ := h.dirs d (hq.dirsUsed d hd)
    exact ⟨n, m, (hq.dirs d).trans hn, hm.congr hq.mounts (hq.nodeMount n), he⟩

lemma Homed.pin {E : Epochs} {O : Set Handle} (h : Homed E O v p) (hn : v.LivesOn n m) : Homed E O v (n ::ₘ p) := by
  refine ⟨h.roots, ?_, h.files, h.dirs⟩
  intro k hk
  rcases Multiset.mem_cons.mp hk with rfl | hk
  · exact ⟨m, hn⟩
  · exact h.pins k hk

lemma unrefNode_mount (v : Vfs σ) (n k : NodeSlot) : ((v.unrefNode n).nodes k).mount = (v.nodes k).mount := by
  by_cases hk : k = n
  · subst hk
    simp only [Vfs.unrefNode, Vfs.freeNode]
    split_ifs <;> simp
  · simp only [Vfs.unrefNode, Vfs.freeNode]
    split_ifs <;> simp [hk]

lemma refNode_mount (v : Vfs σ) (n k : NodeSlot) : ((v.refNode n).nodes k).mount = (v.nodes k).mount := by
  by_cases hk : k = n
  · subst hk
    simp [Vfs.refNode]
  · simp [Vfs.refNode, hk]

/-! ## Changes to the handles -/

lemma Homed.openFile {E : Epochs} {O : Set Handle} {f : FileSlot} {file : File}
    (h : Homed E O v (n ::ₘ p)) (hO : Handle.file f ∈ O) (hused : file.inUse = true)
    (hnode : file.node = some n) : Homed E O (v.setFile f file) p where
  roots := h.roots
  pins := fun k hk => h.pins k (Multiset.mem_cons_of_mem hk)
  files := by
    intro g hg
    by_cases hgf : g = f
    · subst hgf
      obtain ⟨m, hm⟩ := h.pins n (Multiset.mem_cons_self n p)
      exact ⟨n, m, by simp [File.holds, hused, hnode], hm, fun hnot => absurd hO hnot⟩
    · simp only [Vfs.setFile_openFiles, Function.update_of_ne hgf] at hg ⊢
      exact h.files g hg
  dirs := h.dirs

lemma Homed.closeFile {E : Epochs} {O : Set Handle} {f : FileSlot} {file : File}
    (h : Homed E O v p) (hold : (v.openFiles f).holds = some n) (hunused : file.inUse = false) :
    Homed E O (v.setFile f file) (n ::ₘ p) := by
  have hused : (v.openFiles f).inUse = true := by
    by_contra hnot
    simp [File.holds, hnot] at hold
  obtain ⟨n', m, hn', hm, -⟩ := h.files f hused
  obtain rfl : n' = n := Option.some.inj (hn'.symm.trans hold)
  refine ⟨h.roots, (h.pin hm).pins, ?_, h.dirs⟩
  intro g hg
  by_cases hgf : g = f
  · subst hgf
    simp [hunused] at hg
  · simp only [Vfs.setFile_openFiles, Function.update_of_ne hgf] at hg ⊢
    exact h.files g hg

lemma Homed.openDir {E : Epochs} {O : Set Handle} {d : DirSlot} {dir : Dir}
    (h : Homed E O v (n ::ₘ p)) (hO : Handle.dir d ∈ O) (hused : dir.inUse = true)
    (hnode : dir.node = some n) : Homed E O (v.setDir d dir) p where
  roots := h.roots
  pins := fun k hk => h.pins k (Multiset.mem_cons_of_mem hk)
  files := h.files
  dirs := by
    intro g hg
    by_cases hgd : g = d
    · subst hgd
      obtain ⟨m, hm⟩ := h.pins n (Multiset.mem_cons_self n p)
      exact ⟨n, m, by simp [Dir.holds, hused, hnode], hm, fun hnot => absurd hO hnot⟩
    · simp only [Vfs.setDir_openDirs, Function.update_of_ne hgd] at hg ⊢
      exact h.dirs g hg

lemma Homed.closeDir {E : Epochs} {O : Set Handle} {d : DirSlot} {dir : Dir}
    (h : Homed E O v p) (hold : (v.openDirs d).holds = some n) (hunused : dir.inUse = false) :
    Homed E O (v.setDir d dir) (n ::ₘ p) := by
  have hused : (v.openDirs d).inUse = true := by
    by_contra hnot
    simp [Dir.holds, hnot] at hold
  obtain ⟨n', m, hn', hm, -⟩ := h.dirs d hused
  obtain rfl : n' = n := Option.some.inj (hn'.symm.trans hold)
  refine ⟨h.roots, (h.pin hm).pins, h.files, ?_⟩
  intro g hg
  by_cases hgd : g = d
  · subst hgd
    simp [hunused] at hg
  · simp only [Vfs.setDir_openDirs, Function.update_of_ne hgd] at hg ⊢
    exact h.dirs g hg

/-- **The induction over the changes an operation makes**, with the lost references set aside. -/
theorem Effect.homed {E : Epochs} {O : Set Handle} {b : Nat} (h : Effect O b v p w q)
    (hl : Ledger v (p + lost) b) (hh : Homed E O v p) : Homed E O w q := by
  induction h with
  | done => exact hh
  | quiet hq _ ih => exact ih (hl.quiet hq) (hh.of_quiet hq)
  | @ref _ v _ p _ m r hactive hroot _ ih =>
    have hholds := holds_of_active_root hactive hroot
    have hl' := hl.ref hholds
    rw [← Multiset.cons_add] at hl'
    refine ih hl' ?_
    have hpin : Homed E O v (r ::ₘ p) := hh.pin ⟨hh.roots m r hholds, hactive⟩
    exact hpin.congrNodes (fun _ h => h) rfl rfl rfl fun n _ => refNode_mount v r n
  | @alloc _ v _ p _ dir n info hdir hunused _ ih =>
    have hl' := hl.take hunused (v.nodes dir).mount info
    rw [← Multiset.cons_add] at hl'
    refine ih hl' ?_
    -- no reference was on the fresh node, so the nodes that matter keep their mounts
    have hzero : v.refs p n = 0 := by
      have hnot : ¬ 0 < v.refs (p + lost) n := by
        rw [← hl.counted.used, hunused]
        simp
      have := Vfs.refs_add v p lost n
      omega
    have hkept : Homed E O (v.takeNode n (v.nodes dir).mount info) p := by
      refine hh.congrNodes (fun _ h => h) rfl rfl rfl fun k hk => ?_
      have hne : k ≠ n := by
        rintro rfl
        omega
      simp [Vfs.takeNode, hne]
    obtain ⟨m, hm⟩ := hh.pins dir hdir
    refine hkept.pin (m := m) ⟨?_, hm.2⟩
    simpa [Vfs.takeNode] using hm.1
  | @unref _ v _ p _ n _ ih =>
    rw [Multiset.cons_add] at hl
    refine ih hl.unref (hh.congrNodes (fun _ h => Multiset.mem_cons_of_mem h) ?_ ?_ ?_ ?_)
    · exact Vfs.unrefNode_mounts v n
    · exact unrefNode_openFiles v n
    · exact unrefNode_openDirs v n
    · exact fun k _ => unrefNode_mount v n k
  | openFile hO hfree hused hnode _ ih =>
    rw [Multiset.cons_add] at hl
    exact ih (hl.openFile hfree hused hnode) (hh.openFile hO hused hnode)
  | closeFile hold hunused _ ih =>
    have hl' := hl.closeFile hold hunused
    rw [← Multiset.cons_add] at hl'
    exact ih hl' (hh.closeFile hold hunused)
  | openDir hO hfree hused hnode _ ih =>
    rw [Multiset.cons_add] at hl
    exact ih (hl.openDir hfree hused hnode) (hh.openDir hO hused hnode)
  | closeDir hold hunused _ ih =>
    have hl' := hl.closeDir hold hunused
    rw [← Multiset.cons_add] at hl'
    exact ih hl' (hh.closeDir hold hunused)

/-! ## Mounting and unmounting -/

namespace Homed

variable {E : Epochs} {O : Set Handle}

lemma mono (h : Homed E ∅ v p) : Homed E O v p where
  roots := h.roots
  pins := h.pins
  files := by
    intro f hf
    obtain ⟨n, m, hn, hm, he⟩ := h.files f hf
    exact ⟨n, m, hn, hm, fun _ => he (by simp)⟩
  dirs := by
    intro d hd
    obtain ⟨n, m, hn, hm, he⟩ := h.dirs d hd
    exact ⟨n, m, hn, hm, fun _ => he (by simp)⟩

/-- A mount slot is written that no handle lives on, and its release may be counted. -/
lemma setMount {mount : Mount σ} {released : MountSlot → Nat} (h : Homed E ∅ v 0)
    (hfiles : ∀ f n, (v.openFiles f).holds = some n → ¬ v.LivesOn n m)
    (hdirs : ∀ d n, (v.openDirs d).holds = some n → ¬ v.LivesOn n m)
    (hroot : ∀ r, mount.holds = some r → (v.nodes r).mount = some m)
    (hreleased : ∀ m', m' ≠ m → released m' = E.released m') (count : UInt32) :
    Homed { E with released := released } ∅ ((v.setMount m mount).setMountCount count) 0 := by
  -- a handle lives on another slot, which is as it was
  have hlives : ∀ n m', v.LivesOn n m' → ¬ v.LivesOn n m →
      ((v.setMount m mount).setMountCount count).LivesOn n m' ∧ released m' = E.released m' := by
    intro n m' hm' hnot
    have hne : m' ≠ m := by
      rintro rfl
      exact hnot hm'
    exact ⟨⟨hm'.1, by simpa [hne] using hm'.2⟩, hreleased m' hne⟩
  refine ⟨?_, by simp, ?_, ?_⟩
  · intro m' r hr
    by_cases hne : m' = m
    · subst hne
      simp only [Vfs.setMountCount_mounts, Vfs.setMount_mounts, Function.update_self] at hr
      exact hroot r hr
    · simp only [Vfs.setMountCount_mounts, Vfs.setMount_mounts, Function.update_of_ne hne] at hr
      exact h.roots m' r hr
  · intro f hf
    obtain ⟨n, m', hn, hm', he⟩ := h.files f hf
    obtain ⟨hlive, hrel⟩ := hlives n m' hm' (hfiles f n hn)
    exact ⟨n, m', hn, hlive, fun hO => (he hO).trans hrel.symm⟩
  · intro d hd
    obtain ⟨n, m', hn, hm', he⟩ := h.dirs d hd
    obtain ⟨hlive, hrel⟩ := hlives n m' hm' (hdirs d n hn)
    exact ⟨n, m', hn, hlive, fun hO => (he hO).trans hrel.symm⟩

lemma mountsInto {path : Str} (h : Homed E ∅ v 0) (hc : v.Counted lost)
    (hfree : (v.mounts m).active = false) (hinto : MountsInto v w m path) : Homed E ∅ w 0 := by
  have hnot : ∀ n, ¬ v.LivesOn n m := by
    intro n hn
    simp [hn.2] at hfree
  have hset : ∀ (mount : Mount σ) (count : UInt32), mount.holds = none →
      Homed E ∅ ((v.setMount m mount).setMountCount count) 0 := fun mount count hnone =>
    h.setMount (fun _ n _ => hnot n) (fun _ n _ => hnot n) (by simp [hnone]) (fun _ _ => rfl) count
  rcases hinto with ⟨mount, hin, hq⟩ | ⟨mount, hact, -, ⟨hroot, hq⟩ | ⟨r, info, hroot, hunused, hq⟩⟩
  · have hsame := hset mount v.mountCount (by simp [Mount.holds, hin])
    exact hsame.of_quiet hq
  · exact (hset mount _ (by simp [Mount.holds, hroot])).of_quiet hq
  · have hzero : v.refs 0 r = 0 := by
      have hpos : ¬ 0 < v.refs lost r := by
        rw [← hc.used, hunused]
        simp
      have := Vfs.refs_add v 0 lost r
      rw [zero_add] at this
      omega
    have htake : Homed E ∅ (v.takeNode r (some m) info) 0 := by
      refine h.congrNodes (fun _ h => h) rfl rfl rfl fun n hn => ?_
      have hne : n ≠ r := by
        rintro rfl
        omega
      simp [Vfs.takeNode, hne]
    have hnot' : ∀ n, ¬ (v.takeNode r (some m) info).LivesOn n m := by
      intro n hn
      have : (v.mounts m).active = true := hn.2
      simp [this] at hfree
    refine (htake.setMount (fun _ n _ => hnot' n) (fun _ n _ => hnot' n) ?_ (fun _ _ => rfl)
      _).of_quiet hq
    intro r' hr'
    obtain rfl : r = r' := Option.some.inj ((holds_of_active_root hact hroot).symm.trans hr')
    simp [Vfs.takeNode]

end Homed

namespace Vfs.Counted

/-- A root that stays in the pool after its mount is gone is a lost reference. -/
lemma loseRoot (h : v.Counted lost) {mount : Mount σ} (hin : mount.active = false)
    (count : UInt32) : ((v.setMount m mount).setMountCount count).Counted
      (pin lost (v.mounts m).holds) := by
  refine h.congr (fun n => ?_) rfl fun _ => rfl
  have hmove := Vfs.refs_setMount v m mount lost n
  have hnew : mount.holds = none := by simp [Mount.holds, hin]
  rw [Vfs.refs_setMountCount]
  cases hold : (v.mounts m).holds with
  | none => simpa [hold, hnew] using hmove
  | some r =>
    rw [pin_some, Vfs.refs_cons]
    simpa [hold, hnew] using hmove

/-- A root that goes back to the pool with its mount had that one reference only. -/
lemma freeRoot (h : v.Counted lost) {mount : Mount σ} {r : NodeSlot} (hin : mount.active = false)
    (hroot : (v.mounts m).holds = some r) (hone : v.refs lost r = 1) (count : UInt32) :
    (((v.freeNode r).setMount m mount).setMountCount count).Counted lost := by
  have hnew : mount.holds = none := by simp [Mount.holds, hin]
  have hrefs : ∀ n, (((v.freeNode r).setMount m mount).setMountCount count).refs lost n +
      (if r = n then 1 else 0) = v.refs lost n := by
    intro n
    have hmove := Vfs.refs_setMount (v.freeNode r) m mount lost n
    rw [Vfs.refs_freeNode] at hmove
    have hroot' : ((v.freeNode r).mounts m).holds = some r := hroot
    rw [Vfs.refs_setMountCount]
    simpa [hroot', hnew] using hmove
  constructor
  · intro n
    have hn := hrefs n
    by_cases hnr : r = n
    · subst hnr
      rw [if_pos rfl, hone, Nat.add_eq_right] at hn
      rw [hn]
      simp [Vfs.freeNode]
    · rw [if_neg hnr] at hn
      rw [← Nat.add_zero (Vfs.refs _ _ _), hn, ← h.used n]
      simp [Vfs.freeNode, Ne.symm hnr]
  · intro n hpos
    have hn := hrefs n
    have hnr : r ≠ n := by
      rintro rfl
      simp only [if_true, hone] at hn
      omega
    rw [if_neg hnr, Nat.add_zero] at hn
    rw [hn] at hpos ⊢
    exact h.count n hpos

end Vfs.Counted

/-! ## Runs -/

namespace VfsMachine

variable {κ : VfsMachine σ} {c : VfsCall σ}

/-- The handle's node is on an active mount, and the mount's filesystem has not been released since
the handle was opened. -/
def NodeLive (κ : VfsMachine σ) (node : Option NodeSlot) (epoch : Nat) : Prop :=
  ∃ n m, node = some n ∧ κ.vfs.LivesOn n m ∧ epoch = κ.released m

/-- No handle has outlived its mount. -/
structure HandlesLive (κ : VfsMachine σ) : Prop where
  files : ∀ f, (κ.vfs.openFiles f).inUse = true → κ.NodeLive (κ.vfs.openFiles f).node (κ.fileEpoch f)
  dirs : ∀ d, (κ.vfs.openDirs d).inUse = true → κ.NodeLive (κ.vfs.openDirs d).node (κ.dirEpoch d)

/-- Some open directory is on the mount. -/
def HasOpenDir (v : Vfs σ) (m : MountSlot) : Prop :=
  ∃ d n, (v.openDirs d).holds = some n ∧ (v.nodes n).mount = some m

/-- The calls of mounts and handles. -/
def HandleCall : VfsCall σ → Prop
  | .registerFs _ _ | .unregisterFs _ | .mount _ _ _ | .unmount _ | .openFile _ _ | .close _
  | .opendir _ | .closedir _ => True
  | _ => False

/-- An unmount of this path does not go through under an open directory. -/
def SparesDirs (v : Vfs σ) (path : Str) : Prop :=
  ∀ m, unmountTarget v path = some m → v.Releasable m → ¬ HasOpenDir v m

/-- Calls of mounts and handles, and no unmount under an open directory. -/
def UnmountsSpareDirs (κ : VfsMachine σ) (c : VfsCall σ) : Prop :=
  HandleCall c ∧ ∀ path, c = .unmount path → SparesDirs κ.vfs path

def epochs (κ : VfsMachine σ) : Epochs := ⟨κ.released, κ.fileEpoch, κ.dirEpoch⟩

/-- The inductive form, with the references that unmounts left behind. -/
structure LifetimeInv (κ : VfsMachine σ) (lost : Multiset NodeSlot) : Prop where
  held : κ.held = []
  counted : κ.vfs.Counted lost
  single : ∀ n, κ.vfs.rootRefs n + lost.count n ≤ 1
  homed : Homed κ.epochs ∅ κ.vfs 0

lemma LifetimeInv.handlesLive (h : κ.LifetimeInv lost) : κ.HandlesLive where
  files := by
    intro f hf
    obtain ⟨n, m, hn, hm, he⟩ := h.homed.files f hf
    refine ⟨n, m, ?_, hm, he (by simp)⟩
    simpa [File.holds, hf] using hn
  dirs := by
    intro d hd
    obtain ⟨n, m, hn, hm, he⟩ := h.homed.dirs d hd
    refine ⟨n, m, ?_, hm, he (by simp)⟩
    simpa [Dir.holds, hd] using hn

/-- No counter comes near its limit: the tables are small and roots are counted once. -/
lemma LifetimeInv.ledger (h : κ.LifetimeInv lost) : Ledger κ.vfs (0 + lost) 3 := by
  rw [zero_add]
  refine ⟨h.counted, fun m r _ => ?_⟩
  have hfiles : κ.vfs.fileRefs r ≤ 1024 := (tally_le_card _ r).trans (by simp)
  have hdirs : κ.vfs.dirRefs r ≤ 256 := (tally_le_card _ r).trans (by simp)
  have hroots := h.single r
  unfold Vfs.refs
  omega

lemma lifetimeInv_boot (fstypeCount : Nat) (fs : σ) : (boot fstypeCount fs).LifetimeInv 0 where
  held := rfl
  counted := (accountInv_boot fstypeCount fs).counted
  single := by
    intro n
    simp [boot, vfsInit, Vfs.rootRefs, tally_eq_zero, Mount.holds]
  homed := by constructor <;> simp [boot, vfsInit, Mount.holds]

/-- The handle that `vfs_open` returns was opened now; the others are as old as they were. -/
lemma homed_execOpen (path : Str) (flags : UInt32)
    (h : Homed κ.epochs (κ.opened (.openFile path flags)) (vfsOpen κ.vfs path flags).2 0) :
    Homed (κ.execOpen path flags).epochs ∅ (κ.execOpen path flags).vfs 0 := by
  refine ⟨h.roots, h.pins, ?_, ?_⟩
  · intro f hf
    obtain ⟨n, m, hn, hm, he⟩ := h.files f hf
    refine ⟨n, m, hn, hm, fun _ => ?_⟩
    have hnode : ((vfsOpen κ.vfs path flags).2.openFiles f).node = some n := by
      have hf' : ((vfsOpen κ.vfs path flags).2.openFiles f).inUse = true := hf
      simpa [File.holds, hf'] using hn
    have hold : (vfsOpen κ.vfs path flags).1 ≠ some f → κ.fileEpoch f = κ.released m := by
      intro hne
      refine he ?_
      rintro ⟨g, hg, hcase⟩
      obtain rfl : f = g := by simpa using hg
      rcases hcase with hcase | hcase
      · exact hne hcase
      · exact absurd (hcase.symm.trans hf) (by simp)
    simp only [epochs, execOpen]
    cases hr : (vfsOpen κ.vfs path flags).1 with
    | none => exact hold (by simp [hr])
    | some g =>
      by_cases hgf : f = g
      · subst hgf
        simp [epochOf, hnode, hm.1]
      · simp only [Function.update_of_ne hgf]
        refine hold ?_
        rw [hr]
        simpa using Ne.symm hgf
  · intro d hd
    obtain ⟨n, m, hn, hm, he⟩ := h.dirs d hd
    refine ⟨n, m, hn, hm, fun _ => he ?_⟩
    rintro ⟨g, hg, -⟩
    simp at hg

lemma homed_execOpendir (path : Str) (h : Homed κ.epochs (κ.opened (.opendir path)) (vfsOpendir κ.vfs path).2 0) :
    Homed (κ.execOpendir path).epochs ∅ (κ.execOpendir path).vfs 0 := by
  refine ⟨h.roots, h.pins, ?_, ?_⟩
  · intro f hf
    obtain ⟨n, m, hn, hm, he⟩ := h.files f hf
    refine ⟨n, m, hn, hm, fun _ => he ?_⟩
    rintro ⟨g, hg, -⟩
    simp at hg
  · intro d hd
    obtain ⟨n, m, hn, hm, he⟩ := h.dirs d hd
    refine ⟨n, m, hn, hm, fun _ => ?_⟩
    have hnode : ((vfsOpendir κ.vfs path).2.openDirs d).node = some n := by
      have hd' : ((vfsOpendir κ.vfs path).2.openDirs d).inUse = true := hd
      simpa [Dir.holds, hd'] using hn
    have hold : (vfsOpendir κ.vfs path).1 ≠ some d → κ.dirEpoch d = κ.released m := by
      intro hne
      refine he ?_
      rintro ⟨g, hg, hcase⟩
      obtain rfl : d = g := by simpa using hg
      exact hne hcase
    simp only [epochs, execOpendir]
    cases hr : (vfsOpendir κ.vfs path).1 with
    | none => exact hold (by simp [hr])
    | some g =>
      by_cases hgd : d = g
      · subst hgd
        simp [epochOf, hnode, hm.1]
      · simp only [Function.update_of_ne hgd]
        refine hold ?_
        rw [hr]
        simpa using Ne.symm hgd

lemma LifetimeInv.effect {O : Set Handle} (h : κ.LifetimeInv lost) (heff : Effect O 3 κ.vfs 0 w 0) :
    w.Counted lost ∧ (∀ n, w.rootRefs n + lost.count n ≤ 1) ∧ Homed κ.epochs O w 0 := by
  refine ⟨?_, ?_, heff.homed h.ledger h.homed.mono⟩
  · simpa using heff.counted h.ledger
  · intro n
    have hroots : w.rootRefs = κ.vfs.rootRefs := by
      unfold Vfs.rootRefs
      rw [heff.sameMounts.1]
    rw [hroots]
    exact h.single n

lemma lifetimeInv_handle (h : κ.LifetimeInv lost) (hlegal : κ.Legal c) (hcall : HandleCall c)
    (hc : ¬ ChangesMounts c) : (κ.exec c).LifetimeInv lost := by
  have heff := exec_effect κ c hlegal hc
  have hheld : (κ.exec c).held = κ.held := by
    cases c with
    | openFile path flags => rfl
    | opendir path => rfl
    | registerFs name ops => rfl
    | unregisterFs name => rfl
    | close file => rfl
    | closedir dir => rfl
    | _ => first | exact absurd hcall id | exact absurd trivial hc
  have hleak : κ.leaked c = none := by
    cases c with
    | mkdir path mode => exact absurd hcall id
    | create path mode => exact absurd hcall id
    | _ => rfl
  rw [hleak, hheld, h.held, pin_none, Multiset.coe_nil] at heff
  obtain ⟨hcounted, hsingle, hhomed⟩ := h.effect heff
  refine ⟨hheld.trans h.held, hcounted, hsingle, ?_⟩
  cases c with
  | openFile path flags => exact homed_execOpen path flags hhomed
  | opendir path => exact homed_execOpendir path hhomed
  | registerFs name ops => exact hhomed
  | unregisterFs name => exact hhomed
  | close file => exact hhomed
  | closedir dir => exact hhomed
  | _ => first | exact absurd hcall id | exact absurd trivial hc

lemma lifetimeInv_mount (h : κ.LifetimeInv lost) (path type : Str) (device : UInt64) :
    (κ.exec (.mount path type device)).LifetimeInv lost := by
  rcases vfsMount_cases κ.vfs path type device with hq | ⟨m, q, -, hslot, hinto⟩
  · have heff : Effect ∅ 3 κ.vfs 0 (vfsMount κ.vfs path type device).2 0 := .of_quiet hq
    obtain ⟨hcounted, hsingle, hhomed⟩ := h.effect heff
    exact ⟨h.held, hcounted, hsingle, hhomed⟩
  · refine ⟨h.held, h.counted.mountsInto hslot.free hinto, ?_, h.homed.mountsInto h.counted hslot.free hinto⟩
    intro n
    have hold : (κ.vfs.mounts m).holds = none := by simp [Mount.holds, hslot.free]
    have hroots : ∀ mount : Mount σ, (κ.exec (.mount path type device)).vfs.mounts =
        Function.update κ.vfs.mounts m mount →
        (κ.exec (.mount path type device)).vfs.rootRefs n =
          κ.vfs.rootRefs n + if mount.holds = some n then 1 else 0 := by
      intro mount hmounts
      simpa [hold] using Vfs.rootRefs_update hmounts n
    have hsingle := h.single n
    rcases hinto with ⟨mount, hin, hq⟩ | ⟨mount, hact, -, ⟨hroot, hq⟩ | ⟨r, info, hroot, hunused, hq⟩⟩
    · rw [hroots mount hq.mounts]
      simpa [Mount.holds, hin] using hsingle
    · rw [hroots mount hq.mounts]
      simpa [Mount.holds, hroot] using hsingle
    · rw [hroots mount hq.mounts, holds_of_active_root hact hroot]
      by_cases hrn : r = n
      · -- the fresh root had no reference
        subst hrn
        have hzero : ¬ 0 < κ.vfs.refs lost r := by
          rw [← h.counted.used, hunused]
          simp
        unfold Vfs.refs at hzero
        simp only [if_true]
        omega
      · simpa [hrn] using hsingle

/-- With nothing open on the mount, its root node has the mount's reference only. -/
lemma LifetimeInv.root_alone (h : κ.LifetimeInv lost) {r : NodeSlot} (hroot : (κ.vfs.mounts m).holds = some r)
    (hfiles : ∀ f n, (κ.vfs.openFiles f).holds = some n → ¬ κ.vfs.LivesOn n m)
    (hdirs : ∀ d n, (κ.vfs.openDirs d).holds = some n → ¬ κ.vfs.LivesOn n m) :
    κ.vfs.refs lost r = 1 := by
  have hactive : (κ.vfs.mounts m).active = true := by
    by_contra hnot
    simp [Mount.holds, hnot] at hroot
  have hlives : κ.vfs.LivesOn r m := ⟨h.homed.roots m r hroot, hactive⟩
  have hf : κ.vfs.fileRefs r = 0 := tally_eq_zero fun f hf => hfiles f r hf hlives
  have hd : κ.vfs.dirRefs r = 0 := tally_eq_zero fun d hd => hdirs d r hd hlives
  have hpos : 0 < κ.vfs.rootRefs r :=
    tally_pos_of_mem (t := fun m => (κ.vfs.mounts m).holds) hroot
  have hsingle := h.single r
  unfold Vfs.refs
  omega

lemma not_livesOn_of_hasOpenFile (hfile : hasOpenFile v m = false) (f : FileSlot) (n : NodeSlot)
    (hn : (v.openFiles f).holds = some n) : ¬ v.LivesOn n m := by
  intro hm
  have hscan : (firstSlot fun f => (v.openFiles f).inUse &&
      (v.openFiles f).node.any fun n => (v.nodes n).mount == some m) = none := by
    simpa [hasOpenFile] using hfile
  have hf := firstSlot_none hscan f
  by_cases hused : (v.openFiles f).inUse = true
  · have hnode : (v.openFiles f).node = some n := by simpa [File.holds, hused] using hn
    simp [hused, hnode, hm.1] at hf
  · simp [File.holds, hused] at hn

lemma lifetimeInv_unmount (h : κ.LifetimeInv lost) (path : Str) (hspare : SparesDirs κ.vfs path) :
    ∃ lost', (κ.exec (.unmount path)).LifetimeInv lost' := by
  rcases vfsUnmount_cases κ.vfs path with ⟨hq, hstop⟩ | ⟨m, htarget, hrel, mount, hin, hdone⟩
  · have heff : Effect ∅ 3 κ.vfs 0 (vfsUnmount κ.vfs path).2 0 := .of_quiet hq
    obtain ⟨hcounted, hsingle, hhomed⟩ := h.effect heff
    refine ⟨lost, h.held, hcounted, hsingle, ?_⟩
    have hepochs : (κ.exec (.unmount path)).epochs = κ.epochs := by
      simp only [epochs, exec, execUnmount]
      cases htarget : unmountTarget κ.vfs path with
      | none => rfl
      | some m => simp [hstop m htarget]
    rw [hepochs]
    exact hhomed
  · have hfiles := not_livesOn_of_hasOpenFile hrel.1
    have hdirs : ∀ d n, (κ.vfs.openDirs d).holds = some n → ¬ κ.vfs.LivesOn n m :=
      fun d n hn hm => hspare m htarget hrel ⟨d, n, hn, hm.1⟩
    have hreleased : ∀ m', m' ≠ m → (κ.exec (.unmount path)).released m' = κ.released m' := by
      intro m' hne
      simp [exec, execUnmount, htarget, hrel, hne]
    have hnone : mount.holds = none := by simp [Mount.holds, hin]
    have hrootless : ∀ r, mount.holds = some r → (κ.vfs.nodes r).mount = some m := by simp [hnone]
    have hset := h.homed.setMount hfiles hdirs hrootless hreleased (κ.vfs.mountCount - 1)
    rcases hdone with hq | ⟨r, hroot, hq⟩
    · -- the root stays in the pool and is lost
      refine ⟨pin lost (κ.vfs.mounts m).holds, h.held, ?_, ?_, hset.of_quiet hq⟩
      · exact (h.counted.loseRoot hin _).congr (Vfs.Quiet.refs_eq hq _) hq.nodeUsed hq.refCount
      · intro n
        have hn := Vfs.rootRefs_update (v := κ.vfs) hq.mounts n
        have hsingle := h.single n
        change (vfsUnmount κ.vfs path).2.rootRefs n + _ ≤ 1
        cases hold : (κ.vfs.mounts m).holds with
        | none =>
          simp only [hold, hnone, reduceCtorEq, if_false, Nat.add_zero] at hn
          rw [pin_none, hn]
          exact hsingle
        | some r =>
          simp only [hold, hnone, Option.some.injEq, reduceCtorEq, if_false, Nat.add_zero] at hn
          rw [pin_some, Multiset.count_cons]
          simp only [eq_comm (a := n)]
          omega
    · -- the root goes back to the pool
      have hactive := active_of_unmountTarget htarget
      have hholds := holds_of_active_root hactive hroot
      have hone := h.root_alone hholds hfiles hdirs
      refine ⟨lost, h.held, ?_, ?_, ?_⟩
      · exact (h.counted.freeRoot hin hholds hone _).congr (Vfs.Quiet.refs_eq hq _) hq.nodeUsed
          hq.refCount
      · intro n
        have hn := Vfs.rootRefs_update (v := κ.vfs) hq.mounts n
        have hsingle := h.single n
        change (vfsUnmount κ.vfs path).2.rootRefs n + _ ≤ 1
        simp only [hnone, reduceCtorEq, if_false, Nat.add_zero] at hn
        omega
      · refine Homed.of_quiet ?_ hq
        exact hset.congrNodes (fun _ h => h) rfl rfl rfl fun _ _ => rfl

lemma lifetimeInv_step (κ : VfsMachine σ) (c : VfsCall σ) (κ' : VfsMachine σ)
    (h : ∃ lost, κ.LifetimeInv lost) (hstep : Step UnmountsSpareDirs κ c κ') :
    ∃ lost, κ'.LifetimeInv lost := by
  obtain ⟨lost, h⟩ := h
  obtain ⟨hlegal, ⟨hcall, hspare⟩, rfl⟩ := hstep
  by_cases hc : ChangesMounts c
  · cases c with
    | mount path type device => exact ⟨lost, lifetimeInv_mount h path type device⟩
    | unmount path => exact lifetimeInv_unmount h path (hspare path rfl)
    | _ => exact absurd hc id
  · exact ⟨lost, lifetimeInv_handle h hlegal hcall hc⟩

/-- An unmount that goes through under an open directory leaves the handle on an inactive mount. -/
lemma not_handlesLive_of_hasOpenDir {path : Str} {d : DirSlot}
    (htarget : unmountTarget κ.vfs path = some m) (hrel : κ.vfs.Releasable m)
    (hn : (κ.vfs.openDirs d).holds = some n) (hmount : (κ.vfs.nodes n).mount = some m) :
    ¬ (κ.exec (.unmount path)).HandlesLive := by
  intro hlive
  -- the unmount moves neither the handle nor its node
  obtain ⟨mount, hin, hmounts, hdir, hnode⟩ : ∃ mount : Mount σ, mount.active = false ∧
      (vfsUnmount κ.vfs path).2.mounts = Function.update κ.vfs.mounts m mount ∧
      ((vfsUnmount κ.vfs path).2.openDirs d).holds = some n ∧
      ((vfsUnmount κ.vfs path).2.nodes n).mount = some m := by
    rcases vfsUnmount_cases κ.vfs path with ⟨-, hstop⟩ | ⟨m', htarget', -, mount, hin, hdone⟩
    · exact absurd hrel (hstop m htarget)
    · obtain rfl : m = m' := Option.some.inj (htarget.symm.trans htarget')
      rcases hdone with hq | ⟨r, -, hq⟩
      · exact ⟨mount, hin, hq.mounts, (hq.dirs d).trans hn, (hq.nodeMount n).trans hmount⟩
      · exact ⟨mount, hin, hq.mounts, (hq.dirs d).trans hn, (hq.nodeMount n).trans hmount⟩
  have hused : ((vfsUnmount κ.vfs path).2.openDirs d).inUse = true := by
    by_contra hnot
    simp [Dir.holds, hnot] at hdir
  obtain ⟨n', m', hn', hm', -⟩ := hlive.dirs d hused
  obtain rfl : n = n' := by
    rw [Dir.holds, if_pos hused] at hdir
    exact Option.some.inj (hdir.symm.trans hn')
  obtain rfl : m = m' := Option.some.inj (hnode.symm.trans hm'.1)
  have hactive : ((vfsUnmount κ.vfs path).2.mounts m).active = true := hm'.2
  simp [hmounts, hin] at hactive

/-- **Handles over runs.**  Whatever the filesystems answer, as long as no unmount goes through
under an open directory, every handle's node is on an active mount whose filesystem has not been
released since; and the first unmount that does go through under an open directory breaks this. -/
theorem handlesLive_of_unmountsSpareDirs (fstypeCount : Nat) (fs : σ) (calls : List (VfsCall σ))
    (κ : VfsMachine σ) (hrun : Steps (Step UnmountsSpareDirs) (boot fstypeCount fs) calls κ) :
    κ.HandlesLive ∧ ∀ path, ¬ SparesDirs κ.vfs path → ¬ (κ.exec (.unmount path)).HandlesLive := by
  obtain ⟨lost, hinv⟩ := hrun.invariant (I := fun κ => ∃ lost, κ.LifetimeInv lost) lifetimeInv_step
    ⟨0, lifetimeInv_boot fstypeCount fs⟩
  refine ⟨hinv.handlesLive, ?_⟩
  intro path hnot hlive
  simp only [SparesDirs, not_forall, not_not] at hnot
  obtain ⟨m, htarget, hrel, d, n, hn, hmount⟩ := hnot
  exact not_handlesLive_of_hasOpenDir htarget hrel hn hmount hlive

/-- `bareOps` mounted at `/`, with its root directory open. -/
def bareOpen : VfsMachine Unit := bareRoot.exec (.opendir [47])

lemma bareOpen_steps : Steps (Step UnmountsSpareDirs) (boot 0 ())
    [.registerFs [116] bareOps, .mount [47] [116] 0, .opendir [47]] bareOpen := by
  refine .cons ⟨trivial, ⟨trivial, ?_⟩, rfl⟩ (.cons ⟨trivial, ⟨trivial, ?_⟩, rfl⟩
    (.cons ⟨trivial, ⟨trivial, ?_⟩, rfl⟩ (.nil _)))
  · simp
  · simp
  · simp

/-- The open root directory is on the active mount. -/
theorem handlesLive_bareOpen : bareOpen.HandlesLive ∧ (bareOpen.vfs.openDirs 0).inUse = true :=
  ⟨(handlesLive_of_unmountsSpareDirs 0 () _ bareOpen bareOpen_steps).1,
    by set_option maxRecDepth 8192 in with_unfolding_all decide⟩

/-- `vfs_unmount("/")` goes through under the open directory. -/
theorem not_handlesLive_bareOpen : ¬ ∀ (calls : List (VfsCall Unit)) (κ : VfsMachine Unit),
      Steps (Step fun _ c => HandleCall c) (boot 0 ()) calls κ → κ.HandlesLive := by
  intro h
  set_option maxRecDepth 8192 in
  have htarget : unmountTarget bareOpen.vfs [47] = some 0 := by with_unfolding_all decide
  have hrel : bareOpen.vfs.Releasable 0 := by with_unfolding_all decide
  have hn : (bareOpen.vfs.openDirs 0).holds = some 0 := by with_unfolding_all decide
  have hmount : (bareOpen.vfs.nodes 0).mount = some 0 := by with_unfolding_all decide
  refine not_handlesLive_of_hasOpenDir htarget hrel hn hmount ?_
  exact h [.registerFs [116] bareOps, .mount [47] [116] 0, .opendir [47], .unmount [47]] _
    (.cons ⟨trivial, trivial, rfl⟩ (.cons ⟨trivial, trivial, rfl⟩
      (.cons ⟨trivial, trivial, rfl⟩ (.cons ⟨trivial, trivial, rfl⟩ (.nil _)))))

end VfsMachine

end

end AAAos
