import AAAos.Fs.Vfs.Clients
import AAAos.Lib.Tally
import Mathlib.Data.Multiset.Count

/-!
# Node accounting

Every reference on a pool node is in one of five places: an open file, an open directory, a mount
root, a caller's hand or the hand of a running operation.  `refs` counts them, and `Counted` says
that a node in use has exactly this many in its `ref_count`, and that a node is in use exactly when
there is one.

`Effect.counted` is the one induction: it goes over the kinds of change and not over the return
paths of the operations.  `vfs_ref_node` does not check for overflow, so the induction also needs
`Room` in the counters of the mount roots, the only nodes that are referenced again.
-/

namespace AAAos

section

variable {σ : Type} {v w : Vfs σ} {p q : Multiset NodeSlot} {n : NodeSlot} {m : MountSlot}

/-- The root node that a mount holds. -/
def Mount.holds (mount : Mount σ) : Option NodeSlot := if mount.active then mount.root else none

namespace Vfs

def fileRefs (v : Vfs σ) : NodeSlot → Nat := tally fun f => (v.openFiles f).holds

def dirRefs (v : Vfs σ) : NodeSlot → Nat := tally fun d => (v.openDirs d).holds

def rootRefs (v : Vfs σ) : NodeSlot → Nat := tally fun m => (v.mounts m).holds

/-- The references on a node, with `p` in somebody's hand. -/
def refs (v : Vfs σ) (p : Multiset NodeSlot) (n : NodeSlot) : Nat :=
  v.fileRefs n + v.dirRefs n + v.rootRefs n + p.count n

/-- The counters are right where there are references, and a node is in use where there are. -/
structure Counted (v : Vfs σ) (p : Multiset NodeSlot) : Prop where
  used : ∀ n, v.nodeUsed n = true ↔ 0 < v.refs p n
  count : ∀ n, 0 < v.refs p n → (v.nodes n).refCount.toNat = v.refs p n

/-- The counters of the mount roots can take `b` more references. -/
def Room (v : Vfs σ) (p : Multiset NodeSlot) (b : Nat) : Prop :=
  ∀ m r, (v.mounts m).holds = some r → v.refs p r + b < 2 ^ 32

/-! ## One change at a time -/

lemma refs_cons (v : Vfs σ) (p : Multiset NodeSlot) (n k : NodeSlot) :
    v.refs (n ::ₘ p) k = v.refs p k + if n = k then 1 else 0 := by
  unfold refs
  rw [Multiset.count_cons]
  simp only [eq_comm (a := k)]
  omega

lemma refs_pos_of_root (h : (v.mounts m).holds = some n) : 0 < v.refs p n := by
  have : 0 < v.rootRefs n := tally_pos_of_mem (t := fun m => (v.mounts m).holds) h
  unfold refs
  omega

lemma refs_pos_of_mem (h : n ∈ p) : 0 < v.refs p n := by
  have := Multiset.count_pos.mpr h
  unfold refs
  omega

lemma Quiet.refs_eq (h : Quiet v w) (p : Multiset NodeSlot) (n : NodeSlot) : w.refs p n = v.refs p n := by
  unfold refs fileRefs dirRefs rootRefs
  simp only [h.files, h.dirs, h.mounts]

/-- A file slot is written: the file references move by what it held and holds. -/
lemma fileRefs_setFile (v : Vfs σ) (f : FileSlot) (file : File) : (v.setFile f file).fileRefs =
      tally (Function.update (fun g => (v.openFiles g).holds) f file.holds) := by
  unfold fileRefs
  congr 1
  funext g
  by_cases hg : g = f
  · subst hg
    simp
  · simp [hg]

lemma dirRefs_setDir (v : Vfs σ) (d : DirSlot) (dir : Dir) : (v.setDir d dir).dirRefs =
      tally (Function.update (fun g => (v.openDirs g).holds) d dir.holds) := by
  unfold dirRefs
  congr 1
  funext g
  by_cases hg : g = d
  · subst hg
    simp
  · simp [hg]

lemma refs_openFile {f : FileSlot} {file : File} (hfree : (v.openFiles f).inUse = false)
    (hused : file.inUse = true) (hnode : file.node = some n) (k : NodeSlot) :
    (v.setFile f file).refs p k = v.refs (n ::ₘ p) k := by
  have hold : (v.openFiles f).holds = none := by simp [File.holds, hfree]
  have hnew : file.holds = some n := by simp [File.holds, hused, hnode]
  have h := tally_fill (t := fun g => (v.openFiles g).holds) hold n k
  rw [refs_cons]
  unfold refs
  rw [fileRefs_setFile, hnew, h]
  unfold fileRefs dirRefs rootRefs
  simp only [setFile_openDirs, setFile_mounts]
  omega

lemma refs_closeFile {f : FileSlot} {file : File} (hold : (v.openFiles f).holds = some n)
    (hunused : file.inUse = false) (k : NodeSlot) :
    (v.setFile f file).refs (n ::ₘ p) k = v.refs p k := by
  have hnew : file.holds = none := by simp [File.holds, hunused]
  have h := tally_clear (t := fun g => (v.openFiles g).holds) hold k
  rw [refs_cons]
  unfold refs
  rw [fileRefs_setFile, hnew]
  unfold fileRefs dirRefs rootRefs
  simp only [setFile_openDirs, setFile_mounts]
  omega

lemma refs_openDir {d : DirSlot} {dir : Dir} (hfree : (v.openDirs d).inUse = false)
    (hused : dir.inUse = true) (hnode : dir.node = some n) (k : NodeSlot) :
    (v.setDir d dir).refs p k = v.refs (n ::ₘ p) k := by
  have hold : (v.openDirs d).holds = none := by simp [Dir.holds, hfree]
  have hnew : dir.holds = some n := by simp [Dir.holds, hused, hnode]
  have h := tally_fill (t := fun g => (v.openDirs g).holds) hold n k
  rw [refs_cons]
  unfold refs
  rw [dirRefs_setDir, hnew, h]
  unfold fileRefs dirRefs rootRefs
  simp only [setDir_openFiles, setDir_mounts]
  omega

lemma refs_closeDir {d : DirSlot} {dir : Dir} (hold : (v.openDirs d).holds = some n)
    (hunused : dir.inUse = false) (k : NodeSlot) :
    (v.setDir d dir).refs (n ::ₘ p) k = v.refs p k := by
  have hnew : dir.holds = none := by simp [Dir.holds, hunused]
  have h := tally_clear (t := fun g => (v.openDirs g).holds) hold k
  rw [refs_cons]
  unfold refs
  rw [dirRefs_setDir, hnew]
  unfold fileRefs dirRefs rootRefs
  simp only [setDir_openFiles, setDir_mounts]
  omega

lemma rootRefs_update {mount : Mount σ} (hw : w.mounts = Function.update v.mounts m mount) (n : NodeSlot) :
    w.rootRefs n + (if (v.mounts m).holds = some n then 1 else 0) =
      v.rootRefs n + if mount.holds = some n then 1 else 0 := by
  have htable : (fun k => (w.mounts k).holds) =
      Function.update (fun k => (v.mounts k).holds) m mount.holds := by
    funext k
    by_cases hk : k = m
    · subst hk
      simp [hw]
    · simp [hw, hk]
  unfold rootRefs
  rw [htable]
  exact tally_update (fun k => (v.mounts k).holds) m mount.holds n

lemma refs_setMount (v : Vfs σ) (m : MountSlot) (mount : Mount σ) (p : Multiset NodeSlot) (n : NodeSlot) :
    (v.setMount m mount).refs p n + (if (v.mounts m).holds = some n then 1 else 0) =
      v.refs p n + if mount.holds = some n then 1 else 0 := by
  have h := rootRefs_update (v := v) (w := v.setMount m mount) rfl n
  unfold refs
  simp only [fileRefs, dirRefs, setMount_openFiles, setMount_openDirs]
  omega

lemma refs_setMount_none {mount : Mount σ} (hold : (v.mounts m).holds = none)
    (hnew : mount.holds = none) (n : NodeSlot) : (v.setMount m mount).refs p n = v.refs p n := by
  simpa [hold, hnew] using refs_setMount v m mount p n

lemma refs_setMount_root {mount : Mount σ} (hold : (v.mounts m).holds = none)
    (hnew : mount.holds = some n) (k : NodeSlot) :
    (v.setMount m mount).refs p k = v.refs (n ::ₘ p) k := by
  rw [refs_cons]
  simpa [hold, hnew] using refs_setMount v m mount p k

lemma refs_refNode (v : Vfs σ) (n : NodeSlot) : (v.refNode n).refs = v.refs := rfl

lemma refs_freeNode (v : Vfs σ) (n : NodeSlot) : (v.freeNode n).refs = v.refs := rfl

lemma refs_setMountCount (v : Vfs σ) (count : UInt32) : (v.setMountCount count).refs = v.refs := rfl

lemma refs_takeNode (v : Vfs σ) (n : NodeSlot) (mount : Option MountSlot) (info : NodeInfo) :
    (v.takeNode n mount info).refs = v.refs := rfl

lemma refs_unrefNode (v : Vfs σ) (n : NodeSlot) : (v.unrefNode n).refs = v.refs := by
  funext p k
  unfold refs fileRefs dirRefs rootRefs
  rw [unrefNode_openFiles, unrefNode_openDirs, unrefNode_mounts]

-- from here on `refs` moves by the lemmas above
attribute [irreducible] refs

namespace Counted

lemma congr (h : v.Counted p) (hrefs : ∀ n, w.refs q n = v.refs p n) (hused : w.nodeUsed = v.nodeUsed)
    (hcount : ∀ n, (w.nodes n).refCount = (v.nodes n).refCount) : w.Counted q := by
  constructor
  · intro n
    rw [hused, hrefs, h.used]
  · intro n hn
    rw [hrefs] at hn ⊢
    rw [hcount, h.count n hn]

lemma ref (h : v.Counted p) (hpos : 0 < v.refs p n) (hroom : v.refs p n + 1 < 2 ^ 32) :
    (v.refNode n).Counted (n ::ₘ p) := by
  have hrefs : ∀ k, (v.refNode n).refs (n ::ₘ p) k = v.refs p k + if n = k then 1 else 0 := by
    intro k
    rw [refs_refNode, refs_cons]
  constructor
  · intro k
    rw [hrefs]
    by_cases hk : n = k
    · subst hk
      have := (h.used n).mpr hpos
      simp [refNode, this]
    · simpa [refNode, hk] using h.used k
  · intro k
    rw [hrefs]
    by_cases hk : n = k
    · subst hk
      intro _
      have hcount := h.count n hpos
      simp only [refNode, setNode_nodes, Function.update_self, if_true, UInt32.toNat_add, UInt32.toNat_one, hcount]
      omega
    · simpa [refNode, hk, Ne.symm hk] using h.count k

lemma take (h : v.Counted p) (hunused : v.nodeUsed n = false) (mount : Option MountSlot)
    (info : NodeInfo) : (v.takeNode n mount info).Counted (n ::ₘ p) := by
  have hzero : v.refs p n = 0 := by
    have := h.used n
    rw [hunused] at this
    simpa using this
  have hrefs : ∀ k, (v.takeNode n mount info).refs (n ::ₘ p) k = v.refs p k + if n = k then 1 else 0 := by
    intro k
    rw [refs_takeNode, refs_cons]
  constructor
  · intro k
    rw [hrefs]
    by_cases hk : n = k
    · subst hk
      simp [takeNode]
    · simpa [takeNode, hk, Ne.symm hk] using h.used k
  · intro k
    rw [hrefs]
    by_cases hk : n = k
    · subst hk
      simp [takeNode, hzero]
    · simpa [takeNode, hk, Ne.symm hk] using h.count k

lemma unref (h : v.Counted (n ::ₘ p)) : (v.unrefNode n).Counted p := by
  have hpos : 0 < v.refs (n ::ₘ p) n := refs_pos_of_mem (Multiset.mem_cons_self n p)
  have hcount := h.count n hpos
  have hself : v.refs (n ::ₘ p) n = v.refs p n + 1 := by simp [refs_cons]
  have hother : ∀ k, k ≠ n → v.refs (n ::ₘ p) k = v.refs p k := by
    intro k hk
    simp [refs_cons, Ne.symm hk]
  have hrc : 0 < (v.nodes n).refCount := by
    rw [UInt32.lt_iff_toNat_lt, hcount]
    simpa using hpos
  have hdec : ((v.nodes n).refCount - 1).toNat = v.refs p n := by
    rw [UInt32.toNat_sub_of_le _ _ (by rw [UInt32.le_iff_toNat_le]; simp [hcount, hself]), hcount,
      hself]
    simp
  have hzero : (v.nodes n).refCount - 1 = 0 ↔ v.refs p n = 0 := by
    rw [← UInt32.toNat_inj, hdec]
    simp
  constructor
  · intro k
    rw [refs_unrefNode]
    by_cases hk : k = n
    · subst hk
      simp only [unrefNode, gt_iff_lt, hrc, if_true, hzero]
      have hused := (h.used k).mpr hpos
      split
      · rename_i h0
        simp [freeNode, h0]
      · rename_i h0
        simp only [setNode_nodeUsed, hused, true_iff]
        omega
    · rw [← hother k hk, ← h.used k]
      simp only [unrefNode, freeNode]
      split_ifs <;> simp [hk]
  · intro k
    rw [refs_unrefNode]
    by_cases hk : k = n
    · subst hk
      intro hk
      simp only [unrefNode, gt_iff_lt, hrc, if_true, hzero]
      rw [if_neg (by omega)]
      simpa using hdec
    · rw [← hother k hk]
      intro hpos
      rw [← h.count k hpos]
      simp only [unrefNode, freeNode]
      split_ifs <;> simp [hk]

end Counted

/-- A node that is not in use has a counter of zero. -/
def Idle (v : Vfs σ) : Prop := ∀ n, v.nodeUsed n = false → (v.nodes n).refCount = 0

lemma Idle.ref (h : v.Idle) (hused : v.nodeUsed n = true) : (v.refNode n).Idle := by
  intro k hk
  by_cases hkn : k = n
  · subst hkn
    simp [refNode, hused] at hk
  · simpa [refNode, hkn] using h k hk

lemma Idle.take (h : v.Idle) (mount : Option MountSlot) (info : NodeInfo) : (v.takeNode n mount info).Idle := by
  intro k hk
  by_cases hkn : k = n
  · subst hkn
    simp [takeNode] at hk
  · simpa [takeNode, hkn] using h k (by simpa [takeNode, hkn] using hk)

lemma Idle.unref (h : v.Idle) : (v.unrefNode n).Idle := by
  intro k hk
  by_cases hkn : k = n
  · subst hkn
    by_cases hrc : (v.nodes k).refCount > 0
    · by_cases hlast : (v.nodes k).refCount - 1 = 0
      · simp [unrefNode, freeNode, hrc, hlast]
      · simp only [unrefNode, hrc, hlast, if_true, if_false, setNode_nodeUsed] at hk
        rw [h k hk] at hrc
        simp at hrc
    · have hzero : (v.nodes k).refCount = 0 := by simpa using hrc
      simp [unrefNode, freeNode, hzero]
  · have hsame : ((v.unrefNode n).nodes k).refCount = (v.nodes k).refCount ∧
        (v.unrefNode n).nodeUsed k = v.nodeUsed k := by
      simp only [unrefNode, freeNode]
      split_ifs <;> simp [hkn]
    rw [hsame.1]
    exact h k (hsame.2 ▸ hk)

end Vfs

/-! ## Chains of changes -/

/-- Right counters, with room for `b` more references on each mount root. -/
structure Ledger (v : Vfs σ) (p : Multiset NodeSlot) (b : Nat) : Prop where
  counted : v.Counted p
  room : v.Room p b

namespace Ledger

variable {b : Nat}

lemma congr (h : Ledger v p b) (hrefs : ∀ n, w.refs q n = v.refs p n)
    (hmounts : w.mounts = v.mounts) (hused : w.nodeUsed = v.nodeUsed)
    (hcount : ∀ n, (w.nodes n).refCount = (v.nodes n).refCount) : Ledger w q b := by
  refine ⟨h.counted.congr hrefs hused hcount, ?_⟩
  intro m r hr
  rw [hrefs]
  exact h.room m r (hmounts ▸ hr)

lemma quiet (h : Ledger v p b) (hq : Quiet v w) : Ledger w p b :=
  h.congr (Vfs.Quiet.refs_eq hq p) hq.mounts hq.nodeUsed hq.refCount

lemma ref (h : Ledger v p (b + 1)) (hroot : (v.mounts m).holds = some n) : Ledger (v.refNode n) (n ::ₘ p) b := by
  have hfits := h.room m n hroot
  refine ⟨h.counted.ref (Vfs.refs_pos_of_root hroot) (by omega), ?_⟩
  intro m' r hr
  have hold := h.room m' r hr
  rw [Vfs.refs_refNode, Vfs.refs_cons]
  split <;> omega

lemma take (h : Ledger v p b) (hunused : v.nodeUsed n = false) (mount : Option MountSlot)
    (info : NodeInfo) : Ledger (v.takeNode n mount info) (n ::ₘ p) b := by
  refine ⟨h.counted.take hunused mount info, ?_⟩
  intro m r hr
  have hpos : 0 < v.refs p r := Vfs.refs_pos_of_root hr
  have hne : n ≠ r := by
    rintro rfl
    rw [← h.counted.used, hunused] at hpos
    simp at hpos
  rw [Vfs.refs_takeNode, Vfs.refs_cons, if_neg hne]
  exact h.room m r hr

lemma unref (h : Ledger v (n ::ₘ p) b) : Ledger (v.unrefNode n) p b := by
  refine ⟨h.counted.unref, ?_⟩
  intro m r hr
  rw [Vfs.unrefNode_mounts] at hr
  have hold := h.room m r hr
  rw [Vfs.refs_cons] at hold
  rw [Vfs.refs_unrefNode]
  omega

lemma openFile (h : Ledger v (n ::ₘ p) b) {f : FileSlot} {file : File}
    (hfree : (v.openFiles f).inUse = false) (hused : file.inUse = true)
    (hnode : file.node = some n) : Ledger (v.setFile f file) p b :=
  h.congr (Vfs.refs_openFile hfree hused hnode) rfl rfl fun _ => rfl

lemma closeFile (h : Ledger v p b) {f : FileSlot} {file : File}
    (hold : (v.openFiles f).holds = some n) (hunused : file.inUse = false) :
    Ledger (v.setFile f file) (n ::ₘ p) b :=
  h.congr (Vfs.refs_closeFile hold hunused) rfl rfl fun _ => rfl

lemma openDir (h : Ledger v (n ::ₘ p) b) {d : DirSlot} {dir : Dir}
    (hfree : (v.openDirs d).inUse = false) (hused : dir.inUse = true)
    (hnode : dir.node = some n) : Ledger (v.setDir d dir) p b :=
  h.congr (Vfs.refs_openDir hfree hused hnode) rfl rfl fun _ => rfl

lemma closeDir (h : Ledger v p b) {d : DirSlot} {dir : Dir}
    (hold : (v.openDirs d).holds = some n) (hunused : dir.inUse = false) :
    Ledger (v.setDir d dir) (n ::ₘ p) b :=
  h.congr (Vfs.refs_closeDir hold hunused) rfl rfl fun _ => rfl

end Ledger

lemma holds_of_active_root {mount : Mount σ} (hactive : mount.active = true)
    (hroot : mount.root = some n) : mount.holds = some n := by
  simp [Mount.holds, hactive, hroot]

/-- **The induction over the changes an operation makes**, with references `r` set aside that it
has nothing to do with. -/
theorem Effect.counted {O : Set Handle} {b : Nat} {r : Multiset NodeSlot} (h : Effect O b v p w q)
    (hl : Ledger v (p + r) b) : w.Counted (q + r) := by
  induction h with
  | done => exact hl.counted
  | quiet hq _ ih => exact ih (hl.quiet hq)
  | ref hactive hroot _ ih =>
    have h := hl.ref (holds_of_active_root hactive hroot)
    rw [← Multiset.cons_add] at h
    exact ih h
  | @alloc _ v _ _ _ dir n info _ hunused _ ih =>
    have h := hl.take hunused (v.nodes dir).mount info
    rw [← Multiset.cons_add] at h
    exact ih h
  | unref _ ih =>
    rw [Multiset.cons_add] at hl
    exact ih hl.unref
  | openFile _ hfree hused hnode _ ih =>
    rw [Multiset.cons_add] at hl
    exact ih (hl.openFile hfree hused hnode)
  | closeFile hold hunused _ ih =>
    have h := hl.closeFile hold hunused
    rw [← Multiset.cons_add] at h
    exact ih h
  | openDir _ hfree hused hnode _ ih =>
    rw [Multiset.cons_add] at hl
    exact ih (hl.openDir hfree hused hnode)
  | closeDir hold hunused _ ih =>
    have h := hl.closeDir hold hunused
    rw [← Multiset.cons_add] at h
    exact ih h

lemma Vfs.Idle.quiet (h : v.Idle) (hq : Quiet v w) : w.Idle :=
  fun n hn => (hq.refCount n).trans (h n (hq.nodeUsed ▸ hn))

/-- Idle nodes stay idle: only nodes in use are referenced again. -/
theorem Effect.idle {O : Set Handle} {b : Nat} (h : Effect O b v p w q) (hl : Ledger v p b)
    (hidle : v.Idle) : w.Idle := by
  induction h with
  | done => exact hidle
  | quiet hq _ ih => exact ih (hl.quiet hq) (hidle.quiet hq)
  | ref hactive hroot _ ih =>
    have hholds := holds_of_active_root hactive hroot
    have hused := (hl.counted.used _).mpr (Vfs.refs_pos_of_root hholds)
    exact ih (hl.ref hholds) (hidle.ref hused)
  | alloc _ hunused _ ih => exact ih (hl.take hunused _ _) (hidle.take _ _)
  | unref _ ih => exact ih hl.unref hidle.unref
  | openFile _ hfree hused hnode _ ih => exact ih (hl.openFile hfree hused hnode) hidle
  | closeFile hold hunused _ ih => exact ih (hl.closeFile hold hunused) hidle
  | openDir _ hfree hused hnode _ ih => exact ih (hl.openDir hfree hused hnode) hidle
  | closeDir hold hunused _ ih => exact ih (hl.closeDir hold hunused) hidle

/-! ## Mounting -/

namespace Vfs

lemma Counted.mountsInto (h : v.Counted p) {path : Str} (hfree : (v.mounts m).active = false)
    (hinto : MountsInto v w m path) : w.Counted p := by
  have hold : (v.mounts m).holds = none := by simp [Mount.holds, hfree]
  -- the change of the mount slot, then the quiet rest
  have hquiet : ∀ u : Vfs σ, Quiet u w → u.Counted p → w.Counted p :=
    fun u hq hu => hu.congr (Quiet.refs_eq hq p) hq.nodeUsed hq.refCount
  rcases hinto with ⟨mount, hin, hq⟩ | ⟨mount, hact, -, ⟨hroot, hq⟩ | ⟨r, info, hroot, hunused, hq⟩⟩
  · have hnew : mount.holds = none := by simp [Mount.holds, hin]
    exact hquiet _ hq (h.congr (refs_setMount_none hold hnew) rfl fun _ => rfl)
  · have hnew : mount.holds = none := by simp [Mount.holds, hroot]
    refine hquiet _ hq (h.congr ?_ rfl fun _ => rfl)
    rw [refs_setMountCount]
    exact refs_setMount_none hold hnew
  · have hnew : mount.holds = some r := holds_of_active_root hact hroot
    refine hquiet _ hq ((h.take hunused (some m) info).congr ?_ rfl fun _ => rfl)
    rw [refs_setMountCount]
    exact refs_setMount_root (v := v.takeNode r (some m) info) hold hnew

lemma Idle.mountsInto (h : v.Idle) {path : Str} (hinto : MountsInto v w m path) : w.Idle := by
  rcases hinto with ⟨mount, -, hq⟩ | ⟨mount, -, -, ⟨-, hq⟩ | ⟨r, info, -, -, hq⟩⟩
  · exact Idle.quiet (v := v.setMount m mount) h hq
  · exact Idle.quiet (v := (v.setMount m mount).setMountCount (v.mountCount + 1)) h hq
  · exact Idle.quiet (v := ((v.takeNode r (some m) info).setMount m mount).setMountCount
      (v.mountCount + 1)) (h.take (some m) info) hq

end Vfs

/-! ## Runs -/

namespace VfsMachine

variable {k k' : VfsMachine σ} {c : VfsCall σ}

/-- The open files, open directories, mount roots and callers' lookup results that refer to a
node. -/
def references (k : VfsMachine σ) (n : NodeSlot) : Nat :=
  k.vfs.fileRefs n + k.vfs.dirRefs n + k.vfs.rootRefs n + k.held.count n

/-- Every `ref_count` is the number of references, and the nodes in use are those with some. -/
structure Accounted (k : VfsMachine σ) : Prop where
  count : ∀ n, (k.vfs.nodes n).refCount.toNat = k.references n
  used : ∀ n, k.vfs.nodeUsed n = true ↔ 0 < k.references n

/-- Any call but an unmount. -/
def NoUnmount (_ : VfsMachine σ) : VfsCall σ → Prop
  | .unmount _ => False
  | _ => True

/-- No call but an unmount, no `vfs_mkdir` or `vfs_create` on a path that resolves, and none while
the counter of a mount root is about to overflow. -/
structure ReleasesAll (k : VfsMachine σ) (c : VfsCall σ) : Prop where
  noUnmount : k.NoUnmount c
  noLeak : k.leaked c = none
  room : ∀ m r, (k.vfs.mounts m).holds = some r → (k.vfs.nodes r).refCount.toNat + 3 < 2 ^ 32

lemma references_eq (k : VfsMachine σ) (n : NodeSlot) : k.references n = k.vfs.refs k.held n := by
  simp [references, Vfs.refs]

/-- The inductive form. -/
structure AccountInv (k : VfsMachine σ) : Prop where
  counted : k.vfs.Counted k.held
  idle : k.vfs.Idle

lemma AccountInv.accounted (h : k.AccountInv) : k.Accounted := by
  constructor
  · intro n
    rw [references_eq]
    rcases Nat.eq_zero_or_pos (k.vfs.refs k.held n) with hzero | hpos
    · have hunused : k.vfs.nodeUsed n = false := by
        rw [← Bool.not_eq_true, h.counted.used]
        omega
      rw [h.idle n hunused, hzero]
      rfl
    · exact h.counted.count n hpos
  · intro n
    rw [references_eq]
    exact h.counted.used n

lemma AccountInv.room (h : k.AccountInv) (hroom : ∀ m r, (k.vfs.mounts m).holds = some r →
      (k.vfs.nodes r).refCount.toNat + 3 < 2 ^ 32) : k.vfs.Room k.held 3 := by
  intro m r hr
  rw [← h.counted.count r (Vfs.refs_pos_of_root hr)]
  exact hroom m r hr

lemma accountInv_boot (fstypeCount : Nat) (fs : σ) : (boot fstypeCount fs).AccountInv := by
  have hrefs : ∀ n, (boot fstypeCount fs).vfs.refs (boot fstypeCount fs).held n = 0 := by
    intro n
    simp [Vfs.refs, boot, vfsInit, Vfs.fileRefs, Vfs.dirRefs, Vfs.rootRefs, tally, File.holds, Dir.holds, Mount.holds]
  refine ⟨⟨?_, ?_⟩, ?_⟩
  · intro n
    rw [hrefs]
    simp [boot, vfsInit]
  · intro n hn
    rw [hrefs] at hn
    exact absurd hn (by omega)
  · intro n _
    rfl

/-- A call that is no unmount ends with the right counters, except for what it leaks. -/
lemma AccountInv.exec (h : k.AccountInv) (hlegal : k.Legal c) (hscope : k.NoUnmount c) (hroom : k.vfs.Room k.held 3) :
    (k.exec c).vfs.Counted (pin (k.exec c).held (k.leaked c)) ∧ (k.exec c).vfs.Idle := by
  by_cases hc : ChangesMounts c
  · cases c with
    | mount path type device =>
      rcases vfsMount_cases k.vfs path type device with hq | ⟨m, q, -, hslot, hinto⟩
      · exact ⟨h.counted.congr (Vfs.Quiet.refs_eq hq _) hq.nodeUsed hq.refCount, h.idle.quiet hq⟩
      · exact ⟨h.counted.mountsInto hslot.free hinto, h.idle.mountsInto hinto⟩
    | unmount path => exact absurd hscope id
    | _ => exact absurd hc id
  · have heff := exec_effect k c hlegal hc
    have hcounted := heff.counted (r := 0) ⟨by simpa using h.counted, by simpa using hroom⟩
    exact ⟨by simpa using hcounted, heff.idle ⟨h.counted, hroom⟩ h.idle⟩

lemma accountInv_step (k : VfsMachine σ) (c : VfsCall σ) (k' : VfsMachine σ) (h : k.AccountInv)
    (hstep : Step ReleasesAll k c k') : k'.AccountInv := by
  obtain ⟨hlegal, hallowed, rfl⟩ := hstep
  obtain ⟨hcounted, hidle⟩ := h.exec hlegal hallowed.noUnmount (h.room hallowed.room)
  rw [hallowed.noLeak] at hcounted
  exact ⟨hcounted, hidle⟩

/-- A `vfs_mkdir` or `vfs_create` on a path that resolves leaves a count that nobody holds. -/
lemma not_accounted_of_leaked (h : k.AccountInv) (hlegal : k.Legal c)
    (hroom : k.vfs.Room k.held 3) {n : NodeSlot} (hleak : k.leaked c = some n) :
    ¬ (k.exec c).Accounted := by
  intro hacc
  have hscope : k.NoUnmount c := by
    cases c with
    | unmount path => simp [leaked] at hleak
    | _ => trivial
  obtain ⟨hcounted, -⟩ := h.exec hlegal hscope hroom
  rw [hleak, pin_some] at hcounted
  have hcount := hcounted.count n (Vfs.refs_pos_of_mem (Multiset.mem_cons_self _ _))
  rw [Vfs.refs_cons, if_pos rfl, hacc.count n, references_eq] at hcount
  omega

/-- **Node accounting over runs.**  Whatever the callbacks answer, as long as no `vfs_mkdir` or
`vfs_create` is called on a path that resolves and no counter is about to overflow, every counter
is exact in every state reached; and the first such call on a path that resolves breaks this. -/
theorem accounted_of_releasesAll (fstypeCount : Nat) (fs : σ) (calls : List (VfsCall σ))
    (k : VfsMachine σ) (hrun : Steps (Step ReleasesAll) (boot fstypeCount fs) calls k) :
    k.Accounted ∧ ∀ c n, k.Legal c →
      (∀ m r, (k.vfs.mounts m).holds = some r → (k.vfs.nodes r).refCount.toNat + 3 < 2 ^ 32) →
      k.leaked c = some n → ¬ (k.exec c).Accounted := by
  have hinv := hrun.invariant accountInv_step (accountInv_boot fstypeCount fs)
  exact ⟨hinv.accounted, fun c n hlegal hroom hleak =>
    not_accounted_of_leaked hinv hlegal (hinv.room hroom) hleak⟩

/-- A filesystem that has a root directory and nothing else. -/
def bareOps : VfsOps Unit where
  mount := some fun _ _ _ _ fs => ⟨vfsOk, some { type := .directory }, false, fs⟩

/-- `bareOps` mounted at `/`. -/
def bareRoot : VfsMachine Unit :=
  ((boot 0 ()).exec (.registerFs [116] bareOps)).exec (.mount [47] [116] 0)

lemma releasesAll_of_small (k : VfsMachine Unit) (c : VfsCall Unit) (hscope : k.NoUnmount c)
    (hleak : k.leaked c = none) (hsmall : ∀ n, (k.vfs.nodes n).refCount ≤ 9) : k.ReleasesAll c := by
  refine ⟨hscope, hleak, fun m r _ => ?_⟩
  have := UInt32.le_iff_toNat_le.mp (hsmall r)
  simp only [UInt32.reduceToNat] at this
  omega

lemma bareRoot_steps : Steps (Step ReleasesAll) (boot 0 ())
    [.registerFs [116] bareOps, .mount [47] [116] 0] bareRoot := by
  refine .cons ⟨trivial, ?_, rfl⟩ (.cons ⟨trivial, ?_, rfl⟩ (.nil _))
  · exact releasesAll_of_small _ _ trivial rfl fun n => show (0 : UInt32) ≤ 9 by decide
  · exact releasesAll_of_small _ _ trivial rfl fun n => show (0 : UInt32) ≤ 9 by decide

/-- With the root mounted and nothing open, the root node has one reference. -/
theorem accounted_bareRoot : bareRoot.Accounted ∧ (bareRoot.vfs.nodes 0).refCount = 1 :=
  ⟨(accounted_of_releasesAll 0 () _ bareRoot bareRoot_steps).1,
    by set_option maxRecDepth 8192 in with_unfolding_all decide⟩

/-- `vfs_mkdir("/")` fails with `VFS_ERR_EXIST` and keeps a reference on the root node. -/
theorem not_accounted_bareRoot : ¬ ∀ (calls : List (VfsCall Unit)) (k : VfsMachine Unit),
      Steps (Step NoUnmount) (boot 0 ()) calls k → k.Accounted := by
  intro h
  have hinv := bareRoot_steps.invariant accountInv_step (accountInv_boot 0 ())
  have hroom : ∀ m r, (bareRoot.vfs.mounts m).holds = some r → (bareRoot.vfs.nodes r).refCount.toNat + 3 < 2 ^ 32 :=
    (releasesAll_of_small bareRoot (.stat []) trivial rfl (by
      set_option maxRecDepth 8192 in with_unfolding_all decide)).room
  have hleak : bareRoot.leaked (.mkdir [47] 0) = some 0 := by
    set_option maxRecDepth 8192 in with_unfolding_all decide
  have hlegal : bareRoot.Legal (.mkdir [47] 0) := trivial
  refine not_accounted_of_leaked hinv hlegal (hinv.room hroom) hleak ?_
  exact h [.registerFs [116] bareOps, .mount [47] [116] 0, .mkdir [47] 0] _
    (.cons ⟨trivial, trivial, rfl⟩ (.cons ⟨trivial, trivial, rfl⟩
      (.cons ⟨trivial, trivial, rfl⟩ (.nil _))))

end VfsMachine

end

end AAAos
