import AAAos.Fs.Vfs.MountTable
import Mathlib.Data.Multiset.AddSub

/-!
# What the operations of the VFS do to its tables

About thirty return paths take and release references.  Here each operation is read once, as a
chain of nine kinds of change (`Effect`), and everything that is proved about whole runs is then
proved about these nine.

An operation carries the references it has taken and not yet put into a table or released; they
are a multiset, because `vfs_rename` may hold the same directory twice.  The number in front of
`Effect` bounds how many references on mount roots are taken on the way, which is what a 32-bit
reference count has to have room for.

`vfs_mount` and `vfs_unmount` change the mount table itself and are read by `vfsMount_cases` and
`vfsUnmount_cases`.
-/

namespace AAAos

section

variable {σ : Type} {u v w x : Vfs σ}

/-! ## Changes that take and release nothing -/

/-- The node a file handle refers to. -/
def File.holds (file : File) : Option NodeSlot := if file.inUse then file.node else none

/-- The node a directory handle refers to. -/
def Dir.holds (dir : Dir) : Option NodeSlot := if dir.inUse then dir.node else none

/-- No reference moved: the mount table, the references counted and the handles' nodes are the
same.  Errors, offsets, the filesystems' state and the nodes' own fields may differ. -/
structure Quiet (v w : Vfs σ) : Prop where
  mounts : w.mounts = v.mounts
  mountCount : w.mountCount = v.mountCount
  nodeUsed : w.nodeUsed = v.nodeUsed
  refCount : ∀ n, (w.nodes n).refCount = (v.nodes n).refCount
  nodeMount : ∀ n, (w.nodes n).mount = (v.nodes n).mount
  files : ∀ f, (w.openFiles f).holds = (v.openFiles f).holds
  filesUsed : ∀ f, (w.openFiles f).inUse = true → (v.openFiles f).inUse = true
  dirs : ∀ d, (w.openDirs d).holds = (v.openDirs d).holds
  dirsUsed : ∀ d, (w.openDirs d).inUse = true → (v.openDirs d).inUse = true

namespace Quiet

lemma refl (v : Vfs σ) : Quiet v v := by constructor <;> simp

lemma trans (h : Quiet u v) (k : Quiet v w) : Quiet u w where
  mounts := k.mounts.trans h.mounts
  mountCount := k.mountCount.trans h.mountCount
  nodeUsed := k.nodeUsed.trans h.nodeUsed
  refCount := fun n => (k.refCount n).trans (h.refCount n)
  nodeMount := fun n => (k.nodeMount n).trans (h.nodeMount n)
  files := fun f => (k.files f).trans (h.files f)
  filesUsed := fun f hf => h.filesUsed f (k.filesUsed f hf)
  dirs := fun d => (k.dirs d).trans (h.dirs d)
  dirsUsed := fun d hd => h.dirsUsed d (k.dirsUsed d hd)

lemma setError (h : Quiet v w) (error : Int) : Quiet v (w.setError error) :=
  h.trans (by constructor <;> simp)

lemma setFs (h : Quiet v w) (fs : σ) : Quiet v (w.setFs fs) :=
  h.trans (by constructor <;> simp)

lemma setInfo (h : Quiet v w) (n : NodeSlot) (info : NodeInfo) (fs : σ) : Quiet v (w.setInfo n info fs) := by
  refine h.trans ?_
  constructor <;> simp only [Vfs.setInfo, Vfs.setFs_mounts, Vfs.setNode_mounts,
    Vfs.setFs_mountCount, Vfs.setNode_mountCount, Vfs.setFs_nodeUsed, Vfs.setNode_nodeUsed,
    Vfs.setFs_nodes, Vfs.setNode_nodes, Vfs.setFs_openFiles, Vfs.setNode_openFiles,
    Vfs.setFs_openDirs, Vfs.setNode_openDirs, implies_true, imp_self]
  all_goals
    intro k
    by_cases hk : k = n
    · subst hk
      simp
    · simp [hk]

lemma setFile (h : Quiet v w) {f : FileSlot} {file : File} (hholds : file.holds = (w.openFiles f).holds)
    (hused : file.inUse = true → (w.openFiles f).inUse = true) : Quiet v (w.setFile f file) := by
  refine h.trans ?_
  constructor <;> simp only [Vfs.setFile_mounts, Vfs.setFile_mountCount, Vfs.setFile_nodeUsed,
    Vfs.setFile_nodes, Vfs.setFile_openDirs, Vfs.setFile_openFiles, implies_true, imp_self]
  all_goals
    intro g
    by_cases hg : g = f
    · subst hg
      simpa using by assumption
    · simp [hg]

lemma setOffset (h : Quiet v w) (f : FileSlot) (offset : UInt64) : Quiet v (w.setOffset f offset) := h.setFile rfl id

lemma setDir (h : Quiet v w) {d : DirSlot} {dir : Dir} (hholds : dir.holds = (w.openDirs d).holds)
    (hused : dir.inUse = true → (w.openDirs d).inUse = true) : Quiet v (w.setDir d dir) := by
  refine h.trans ?_
  constructor <;> simp only [Vfs.setDir_mounts, Vfs.setDir_mountCount, Vfs.setDir_nodeUsed,
    Vfs.setDir_nodes, Vfs.setDir_openDirs, Vfs.setDir_openFiles, implies_true, imp_self]
  all_goals
    intro g
    by_cases hg : g = d
    · subst hg
      simpa using by assumption
    · simp [hg]

lemma callOn (h : Quiet v w) (n : NodeSlot) (f : Node → σ → Int × σ) : Quiet v (w.callOn n f).2 := h.setFs _

lemma callInfo (h : Quiet v w) (n : NodeSlot) (f : Node → σ → Int × NodeInfo × σ) :
    Quiet v (w.callInfo n f).2 := h.setInfo _ _ _

lemma callIfPresent (h : Quiet v w) (n : NodeSlot)
    (f : Option (Node → σ → Int × NodeInfo × σ)) : Quiet v (w.callIfPresent n f).2 := by
  cases f with
  | none => exact h
  | some f => exact h.callInfo n f

end Quiet

/-! ## Chains of changes -/

/-- The pool with node `n` taken, as `vfs_alloc_node` and its caller leave it. -/
def Vfs.takeNode (v : Vfs σ) (n : NodeSlot) (mount : Option MountSlot) (info : NodeInfo) : Vfs σ :=
  (v.setUsed n true).setNode n ⟨info, mount, 1⟩

/-- An open file or an open directory. -/
inductive Handle
  | file (f : FileSlot)
  | dir (d : DirSlot)

/-- `Effect O b v p w q`: from `v` with references `p` in hand, by the changes an operation makes,
to `w` with `q` in hand, opening handles in `O` only and taking at most `b` references on mount
roots. -/
inductive Effect (O : Set Handle) :
    Nat → Vfs σ → Multiset NodeSlot → Vfs σ → Multiset NodeSlot → Prop
  | done {b v p} : Effect O b v p v p
  | quiet {b v w x p q} : Quiet v w → Effect O b w p x q → Effect O b v p x q
  | ref {b v x p q} {m : MountSlot} {r : NodeSlot} : (v.mounts m).active = true →
      (v.mounts m).root = some r → Effect O b (v.refNode r) (r ::ₘ p) x q → Effect O (b + 1) v p x q
  | alloc {b v x p q} {dir n : NodeSlot} {info : NodeInfo} : dir ∈ p → v.nodeUsed n = false →
      Effect O b (v.takeNode n (v.nodes dir).mount info) (n ::ₘ p) x q → Effect O b v p x q
  | unref {b v x p q} {n : NodeSlot} : Effect O b (v.unrefNode n) p x q → Effect O b v (n ::ₘ p) x q
  | openFile {b v x p q} {n : NodeSlot} {f : FileSlot} {file : File} :
      Handle.file f ∈ O → (v.openFiles f).inUse = false → file.inUse = true →
      file.node = some n →
      Effect O b (v.setFile f file) p x q → Effect O b v (n ::ₘ p) x q
  | closeFile {b v x p q} {n : NodeSlot} {f : FileSlot} {file : File} :
      (v.openFiles f).holds = some n → file.inUse = false →
      Effect O b (v.setFile f file) (n ::ₘ p) x q → Effect O b v p x q
  | openDir {b v x p q} {n : NodeSlot} {d : DirSlot} {dir : Dir} :
      Handle.dir d ∈ O → (v.openDirs d).inUse = false → dir.inUse = true →
      dir.node = some n →
      Effect O b (v.setDir d dir) p x q → Effect O b v (n ::ₘ p) x q
  | closeDir {b v x p q} {n : NodeSlot} {d : DirSlot} {dir : Dir} :
      (v.openDirs d).holds = some n → dir.inUse = false →
      Effect O b (v.setDir d dir) (n ::ₘ p) x q → Effect O b v p x q

/-- The references in hand with what a lookup returned. -/
def pin (p : Multiset NodeSlot) : Option NodeSlot → Multiset NodeSlot
  | none => p
  | some n => n ::ₘ p

@[simp] lemma pin_none (p : Multiset NodeSlot) : pin p none = p := rfl

@[simp] lemma pin_some (p : Multiset NodeSlot) (n : NodeSlot) : pin p (some n) = n ::ₘ p := rfl

namespace Effect

variable {O : Set Handle} {a b : Nat} {p q r : Multiset NodeSlot}

lemma mono (h : Effect O a v p w q) (hab : a ≤ b) : Effect O b v p w q := by
  induction h generalizing b with
  | done => exact .done
  | quiet hq _ ih => exact .quiet hq (ih hab)
  | ref hm hr _ ih =>
    obtain ⟨c, rfl⟩ : ∃ c, b = c + 1 := ⟨b - 1, by omega⟩
    exact .ref hm hr (ih (by omega))
  | alloc hd hn _ ih => exact .alloc hd hn (ih hab)
  | unref _ ih => exact .unref (ih hab)
  | openFile ho hf hu hn _ ih => exact .openFile ho hf hu hn (ih hab)
  | closeFile hf hu _ ih => exact .closeFile hf hu (ih hab)
  | openDir ho hd hu hn _ ih => exact .openDir ho hd hu hn (ih hab)
  | closeDir hd hu _ ih => exact .closeDir hd hu (ih hab)

lemma trans (h : Effect O a u p v q) (k : Effect O b v q w r) : Effect O (a + b) u p w r := by
  induction h with
  | done => exact k.mono (by omega)
  | quiet hq _ ih => exact .quiet hq (ih k)
  | ref hm hr _ ih =>
    rw [Nat.add_right_comm]
    exact .ref hm hr (ih k)
  | alloc hd hn _ ih => exact .alloc hd hn (ih k)
  | unref _ ih => exact .unref (ih k)
  | openFile ho hf hu hn _ ih => exact .openFile ho hf hu hn (ih k)
  | closeFile hf hu _ ih => exact .closeFile hf hu (ih k)
  | openDir ho hd hu hn _ ih => exact .openDir ho hd hu hn (ih k)
  | closeDir hd hu _ ih => exact .closeDir hd hu (ih k)

lemma of_quiet (h : Quiet v w) : Effect O b v p w p := .quiet h .done

lemma thenQuiet (h : Effect O b v p w q) (k : Quiet w x) : Effect O b v p x q :=
  h.trans (b := 0) (of_quiet k)

lemma setError (h : Effect O b v p w q) (error : Int) : Effect O b v p (w.setError error) q :=
  h.thenQuiet ((Quiet.refl w).setError error)

lemma thenUnref {n : NodeSlot} (h : Effect O b v p w (n ::ₘ q)) : Effect O b v p (w.unrefNode n) q :=
  h.trans (b := 0) (.unref .done)

end Effect

/-! ## Lookup -/

section

variable {O : Set Handle} {p : Multiset NodeSlot} {n : NodeSlot} {path : Str}

lemma allocNode_effect {dir : NodeSlot} (hdir : dir ∈ p) (info : NodeInfo) :
    Effect O 0 v p (v.allocNode (v.nodes dir).mount info).2
      (pin p (v.allocNode (v.nodes dir).mount info).1) := by
  unfold Vfs.allocNode
  split
  · exact .done
  · rename_i n hn
    have hunused : v.nodeUsed n = false := by simpa using firstSlot_some hn
    exact .alloc hdir hunused .done

lemma callFinddir_effect {m : MountSlot} {dir : NodeSlot} (hdir : dir ∈ p) (name : Str) :
    Effect O 0 v p (callFinddir v m dir name).2 (pin p (callFinddir v m dir name).1) := by
  unfold callFinddir
  split
  · exact .done
  · simp only
    split
    · exact .of_quiet ((Quiet.refl v).setFs _)
    · exact .quiet ((Quiet.refl v).setFs _) (allocNode_effect (v := v.setFs _) hdir _)

lemma walk_effect {m : MountSlot} (cs : List Str) (node : NodeSlot) (v : Vfs σ) :
    Effect O 0 v (node ::ₘ p) (walk m cs node v).2 (pin p (walk m cs node v).1) := by
  induction cs generalizing node v with
  | nil => exact .done
  | cons c cs ih =>
    rw [walk]
    split
    · exact Effect.done.thenUnref.setError _
    · have hfind := callFinddir_effect (O := O) (v := v) (m := m) (Multiset.mem_cons_self node p) c
      split
      · rename_i w hw
        rw [hw] at hfind
        exact hfind.thenUnref.setError _
      · rename_i next w hw
        rw [hw, pin_some, Multiset.cons_swap] at hfind
        exact hfind.thenUnref.trans (b := 0) (ih next (w.unrefNode node))

/-- **Lookup.**  It takes one reference on a mount root and ends with one reference in hand, on
the node it returns, or with none. -/
theorem vfsLookup_effect (v : Vfs σ) (path : Str) (p : Multiset NodeSlot) :
    Effect O 1 v p (vfsLookup v path).2 (pin p (vfsLookup v path).1) := by
  unfold vfsLookup
  split
  · exact Effect.done.setError _
  · split
    · exact Effect.done.setError _
    · rename_i m hm
      have hactive := active_of_vfsGetMount hm
      split
      · exact Effect.done.setError _
      · rename_i root hroot
        split
        · exact .ref hactive hroot .done
        · exact .ref hactive hroot (walk_effect _ _ _)

/-! ## The other operations -/

lemma lookup_none (h : vfsLookup v path = (none, w)) : Effect O 1 v p w p := by
  have := vfsLookup_effect (O := O) v path p
  rwa [h] at this

lemma lookup_some (h : vfsLookup v path = (some n, w)) : Effect O 1 v p w (n ::ₘ p) := by
  have := vfsLookup_effect (O := O) v path p
  rwa [h] at this

variable {n : NodeSlot}

lemma inParent_effect (v : Vfs σ) (path : Str) (checkDir : Bool) (op : VfsOps σ → Option (Node → Str → σ → Int × σ)) :
    Effect O 1 v p (inParent v path checkDir op).2 p := by
  unfold inParent
  split
  · rename_i w hw
    exact (lookup_none hw).setError _
  · rename_i parent w hw
    have h := lookup_some (O := O) (p := p) hw
    split
    · exact h.thenUnref.setError _
    · split
      · exact h.thenUnref.setError _
      · split
        · exact h.thenUnref.setError _
        · exact (h.thenQuiet ((Quiet.refl w).callOn _ _)).thenUnref

/-- `vfs_mkdir` and `vfs_create` keep the reference on the node their path resolves to, if it
does. -/
lemma makeAt_effect (v : Vfs σ) (path : Str) (op : VfsOps σ → Option (Node → Str → σ → Int × σ)) :
    Effect O 2 v p (makeAt v path op).2 (pin p (vfsLookup v path).1) := by
  unfold makeAt
  rcases hr : vfsLookup v path with ⟨_ | node, w⟩
  · exact (lookup_none hr).trans (inParent_effect w path true op)
  · exact ((lookup_some hr).setError _).mono (by omega)

lemma vfsRmdir_effect (v : Vfs σ) (path : Str) : Effect O 1 v p (vfsRmdir v path).2 p := by
  unfold vfsRmdir
  split
  · exact Effect.done.setError _
  · exact inParent_effect v path false _

lemma vfsUnlink_effect (v : Vfs σ) (path : Str) : Effect O 2 v p (vfsUnlink v path).2 p := by
  unfold vfsUnlink
  split
  · rename_i w hw
    exact ((lookup_none hw).setError _).mono (by omega)
  · rename_i node w hw
    have h := lookup_some (O := O) (p := p) hw
    split
    · exact (h.thenUnref.setError _).mono (by omega)
    · exact h.thenUnref.trans (inParent_effect _ path false _)

lemma renameBetween_effect (v : Vfs σ) (oldParent newParent : NodeSlot) (oldName newName : Str) :
    Effect O 0 v (newParent ::ₘ oldParent ::ₘ p)
      (renameBetween v oldParent newParent oldName newName).2 p := by
  have h : Effect O 0 v (newParent ::ₘ oldParent ::ₘ p) v (oldParent ::ₘ newParent ::ₘ p) := by
    rw [Multiset.cons_swap]
    exact .done
  unfold renameBetween
  simp only
  split
  · exact h.thenUnref.thenUnref.setError _
  · split
    · exact h.thenUnref.thenUnref.setError _
    · split
      · exact h.thenUnref.thenUnref.setError _
      · exact (h.thenQuiet ((Quiet.refl v).callOn _ _)).thenUnref.thenUnref

lemma vfsRename_effect (v : Vfs σ) (oldpath newpath : Str) : Effect O 2 v p (vfsRename v oldpath newpath).2 p := by
  unfold vfsRename
  split
  · rename_i w hw
    exact ((lookup_none hw).setError _).mono (by omega)
  · rename_i oldParent w hw
    have h := lookup_some (O := O) (p := p) hw
    split
    · rename_i x hx
      exact (h.trans (lookup_none hx)).thenUnref.setError _
    · rename_i newParent x hx
      exact (h.trans (lookup_some hx)).trans (b := 0) (renameBetween_effect x _ _ _ _)

lemma vfsStat_effect (v : Vfs σ) (path : Str) : Effect O 1 v p (vfsStat v path).2 p := by
  unfold vfsStat
  split
  · rename_i w hw
    exact lookup_none hw
  · rename_i node w hw
    have h := lookup_some (O := O) (p := p) hw
    simp only
    split
    · exact h.thenUnref
    · exact (h.thenQuiet ((Quiet.refl w).setFs _)).thenUnref

lemma askNode_effect (v : Vfs σ) (path : Str) (q : NodeType → Bool) : Effect O 1 v p (askNode v path q).2 p := by
  unfold askNode
  split
  · rename_i w hw
    exact lookup_none hw
  · rename_i node w hw
    exact (lookup_some hw).thenUnref

/-! ## Handles -/

lemma unrefNode_openFiles (v : Vfs σ) (n : NodeSlot) : (v.unrefNode n).openFiles = v.openFiles := by
  unfold Vfs.unrefNode
  dsimp only
  split_ifs <;> rfl

lemma unrefNode_openDirs (v : Vfs σ) (n : NodeSlot) : (v.unrefNode n).openDirs = v.openDirs := by
  unfold Vfs.unrefNode
  dsimp only
  split_ifs <;> rfl

lemma Vfs.unrefNode_mounts (v : Vfs σ) (n : NodeSlot) : (v.unrefNode n).mounts = v.mounts := by
  unfold Vfs.unrefNode
  dsimp only
  split_ifs <;> rfl

lemma Vfs.unrefNode_mountCount (v : Vfs σ) (n : NodeSlot) : (v.unrefNode n).mountCount = v.mountCount := by
  unfold Vfs.unrefNode
  dsimp only
  split_ifs <;> rfl

lemma unrefNode_setFile (v : Vfs σ) (n : NodeSlot) (f : FileSlot) (file : File) :
    (v.unrefNode n).setFile f file = (v.setFile f file).unrefNode n := by
  unfold Vfs.unrefNode
  simp only [Vfs.setFile_nodes]
  split_ifs <;> rfl

lemma unrefNode_setDir (v : Vfs σ) (n : NodeSlot) (d : DirSlot) (dir : Dir) :
    (v.unrefNode n).setDir d dir = (v.setDir d dir).unrefNode n := by
  unfold Vfs.unrefNode
  simp only [Vfs.setDir_nodes]
  split_ifs <;> rfl

lemma openLookup_effect (v : Vfs σ) (path : Str) (flags : UInt32) :
    Effect O 3 v p (openLookup v path flags).2 (pin p (openLookup v path flags).1) := by
  unfold openLookup
  split
  · rename_i node w hw
    exact (lookup_some hw).mono (by omega)
  · rename_i w hw
    have h := lookup_none (O := O) (p := p) hw
    split
    · exact (h.setError _).mono (by omega)
    · split
      · rename_i x hx
        exact ((h.trans (lookup_none hx)).setError _).mono (by omega)
      · rename_i parent x hx
        have hp := h.trans (lookup_some hx)
        split
        · exact (hp.thenUnref.setError _).mono (by omega)
        · have hcall := fun f => (hp.thenQuiet ((Quiet.refl x).callOn parent f)).thenUnref
          simp only
          split
          · exact ((hcall _).setError _).mono (by omega)
          · split
            · rename_i node y hy
              exact (hcall _).trans (lookup_some hy)
            · rename_i y hy
              exact ((hcall _).trans (lookup_none hy)).setError _

lemma openTruncate_quiet (v : Vfs σ) (node : NodeSlot) (flags : UInt32) : Quiet v (openTruncate v node flags) := by
  unfold openTruncate
  split
  · exact ((Quiet.refl v).callIfPresent _ _).setInfo _ _ _
  · exact .refl v

lemma openAppend_quiet (v : Vfs σ) (file : FileSlot) (node : NodeSlot) (flags : UInt32) :
    Quiet v (openAppend v file node flags) := by
  unfold openAppend
  split
  · exact (Quiet.refl v).setOffset _ _
  · exact .refl v

/-- The file slot is filled; if the filesystem then refuses, it is emptied again. -/
lemma openSlot_effect {file : FileSlot} (flags : UInt32)
    (hfree : (v.openFiles file).inUse = false) (hO : Handle.file file ∈ O) :
    Effect O 0 v (n ::ₘ p) (openSlot v file n flags).2 p := by
  obtain ⟨w, hw⟩ : ∃ w, v.setFile file
      { node := some n, offset := 0, flags := flags, refCount := 1, inUse := true } = w := ⟨_, rfl⟩
  have hopen : Effect O 0 v (n ::ₘ p) w p := by
    rw [← hw]
    exact .openFile hO hfree rfl rfl .done
  have hholds : (w.openFiles file).holds = some n := by simp [← hw, File.holds]
  obtain ⟨r, hr⟩ : ∃ r, w.callIfPresent n
      ((w.op n VfsOps.openNode).map fun f node => f node flags) = r := ⟨_, rfl⟩
  have hquiet : Quiet w r.2 := hr ▸ (Quiet.refl w).callIfPresent _ _
  simp only [openSlot, hw, hr]
  split
  · refine (hopen.thenQuiet hquiet).trans (b := 0) ?_
    refine .setError ?_ _
    exact .closeFile (by rw [hquiet.files, hholds]) rfl (.unref .done)
  · exact (hopen.thenQuiet hquiet).thenQuiet
      ((openTruncate_quiet r.2 n flags).trans (openAppend_quiet _ file n flags))

lemma openSlot_fails {file : FileSlot} {flags : UInt32} (h : (openSlot v file n flags).1 = none) :
    ((openSlot v file n flags).2.openFiles file).inUse = false := by
  unfold openSlot at h ⊢
  simp only at h ⊢
  split at h
  · rename_i hr
    rw [if_pos hr]
    rw [Vfs.setError_openFiles, unrefNode_openFiles]
    simp
  · simp at h

lemma openSlot_some {file g : FileSlot} {flags : UInt32} (h : (openSlot v file n flags).1 = some g) : g = file := by
  unfold openSlot at h
  simp only at h
  split at h
  · simp at h
  · exact (Option.some.inj h).symm

/-- **Opening.**  The references that `vfs_open` takes end up in the handle it returns. -/
theorem vfsOpen_effect (v : Vfs σ) (path : Str) (flags : UInt32) (hO : ∀ f, (vfsOpen v path flags).1 = some f ∨
      ((vfsOpen v path flags).2.openFiles f).inUse = false → Handle.file f ∈ O) :
    Effect O 3 v p (vfsOpen v path flags).2 p := by
  have h := openLookup_effect (O := O) (p := p) v path flags
  unfold vfsOpen at hO ⊢
  rcases hr : openLookup v path flags with ⟨_ | node, w⟩ <;> rw [hr] at h <;>
    simp only [hr, pin_none, pin_some] at h hO ⊢
  · exact h
  · split
    · exact h.thenUnref.setError _
    · rename_i hdir
      rw [if_neg hdir] at hO
      split
      · exact h.thenUnref.setError _
      · rename_i hexcl
        rw [if_neg hexcl] at hO
        split
        · exact h.thenUnref.setError _
        · rename_i file hfile
          simp only [hfile] at hO
          have hfree : (w.openFiles file).inUse = false := by simpa using firstSlot_some hfile
          refine h.trans (b := 0) (openSlot_effect flags hfree (hO file ?_))
          cases hs : (openSlot w file node flags).1 with
          | none => exact .inr (openSlot_fails hs)
          | some g => exact .inl (by rw [openSlot_some hs])

/-- **Closing.**  The handle's reference is released. -/
theorem vfsClose_effect (v : Vfs σ) (file : FileSlot) : Effect O 0 v p (vfsClose v file).2 p := by
  unfold vfsClose
  split
  · exact Effect.done.setError _
  · rename_i hused
    have hused : (v.openFiles file).inUse = true := by simpa using hused
    split
    · exact .of_quiet ((Quiet.refl v).setFile rfl id)
    · cases hnode : (v.openFiles file).node with
      | none =>
        refine .of_quiet ((Quiet.refl v).setFile ?_ ?_)
        · simp [File.holds, hnode]
        · simp
      | some node =>
        obtain ⟨r, hr⟩ : ∃ r, v.callIfPresent node (v.op node VfsOps.close) = r := ⟨_, rfl⟩
        have hquiet : Quiet v r.2 := hr ▸ (Quiet.refl v).callIfPresent _ _
        simp only [hr, unrefNode_setFile, unrefNode_openFiles]
        refine .quiet hquiet (.closeFile ?_ rfl (.unref .done))
        rw [hquiet.files, File.holds, if_pos hused, hnode]

theorem vfsOpendir_effect (v : Vfs σ) (path : Str) (hO : ∀ d, (vfsOpendir v path).1 = some d → Handle.dir d ∈ O) :
    Effect O 1 v p (vfsOpendir v path).2 p := by
  unfold vfsOpendir at hO ⊢
  rcases hr : vfsLookup v path with ⟨_ | node, w⟩ <;> simp only [hr] at hO ⊢
  · exact lookup_none hr
  · have h := lookup_some (O := O) (p := p) hr
    split
    · exact h.thenUnref.setError _
    · rename_i hdir
      rw [if_neg hdir] at hO
      split
      · exact h.thenUnref.setError _
      · rename_i dir hdir'
        simp only [hdir'] at hO
        have hfree : (w.openDirs dir).inUse = false := by simpa using firstSlot_some hdir'
        exact h.trans (b := 0) (.openDir (hO dir rfl) hfree rfl rfl .done)

theorem vfsClosedir_effect (v : Vfs σ) (dir : DirSlot) : Effect O 0 v p (vfsClosedir v dir).2 p := by
  unfold vfsClosedir
  split
  · exact Effect.done.setError _
  · rename_i hused
    have hused : (v.openDirs dir).inUse = true := by simpa using hused
    cases hnode : (v.openDirs dir).node with
    | none =>
      refine .of_quiet ((Quiet.refl v).setDir ?_ ?_)
      · simp [Dir.holds, hnode]
      · simp
    | some node =>
      simp only [unrefNode_setDir, unrefNode_openDirs]
      refine .closeDir ?_ rfl (.unref .done)
      rw [Dir.holds, if_pos hused, hnode]

/-! ## Operations that move no reference -/

lemma readNode_quiet (v : Vfs σ) (file : FileSlot) (node : NodeSlot) (size : UInt64) :
    Quiet v (readNode v file node size).2 := by
  unfold readNode
  split
  · exact (Quiet.refl v).setError _
  · have h := fun info fs => (Quiet.refl v).setInfo node info fs
    simp only
    split
    · exact (h _ _).setOffset _ _
    · exact h _ _

lemma vfsRead_quiet (v : Vfs σ) (file : FileSlot) (size : UInt64) : Quiet v (vfsRead v file size).2 := by
  unfold vfsRead
  split
  · exact (Quiet.refl v).setError _
  · split
    · exact (Quiet.refl v).setError _
    · simp only
      split_ifs
      · exact (Quiet.refl v).setError _
      · exact (Quiet.refl v).setError _
      · exact .refl v
      · exact readNode_quiet v file _ _
      · exact readNode_quiet v file _ _

lemma writeNode_quiet (v : Vfs σ) (file : FileSlot) (node : NodeSlot) (buf : List UInt8) :
    Quiet v (writeNode v file node buf).2 := by
  unfold writeNode
  split
  · exact (Quiet.refl v).setError _
  · have h := fun f => (Quiet.refl v).callInfo node f
    simp only
    split
    · exact ((h _).setOffset _ _).setInfo _ _ _
    · exact h _

lemma vfsWrite_quiet (v : Vfs σ) (file : FileSlot) (buf : List UInt8) : Quiet v (vfsWrite v file buf).2 := by
  unfold vfsWrite
  split
  · exact (Quiet.refl v).setError _
  · split
    · exact (Quiet.refl v).setError _
    · have h := fun node offset =>
        ((Quiet.refl v).setOffset file offset).trans (writeNode_quiet _ file node buf)
      simp only
      split_ifs
      · exact (Quiet.refl v).setError _
      · exact (Quiet.refl v).setError _
      · exact (Quiet.refl v).setError _
      · exact h _ _
      · exact h _ _

lemma vfsSeek_quiet (v : Vfs σ) (file : FileSlot) (offset : Int64) (whence : Whence) :
    Quiet v (vfsSeek v file offset whence).2 := by
  unfold vfsSeek
  split
  · exact (Quiet.refl v).setError _
  · split
    · exact (Quiet.refl v).setError _
    · simp only
      split
      · exact (Quiet.refl v).setError _
      · split
        · exact (Quiet.refl v).setError _
        · exact (Quiet.refl v).setOffset _ _

lemma vfsTruncate_quiet (v : Vfs σ) (file : FileSlot) (size : UInt64) : Quiet v (vfsTruncate v file size).2 := by
  unfold vfsTruncate
  split
  · exact (Quiet.refl v).setError _
  · split
    · exact (Quiet.refl v).setError _
    · split
      · exact (Quiet.refl v).setError _
      · split
        · exact (Quiet.refl v).setError _
        · exact (Quiet.refl v).callInfo _ _

lemma vfsReaddir_quiet (v : Vfs σ) (dir : DirSlot) : Quiet v (vfsReaddir v dir).2 := by
  unfold vfsReaddir
  split
  · exact (Quiet.refl v).setError _
  · split
    · exact (Quiet.refl v).setError _
    · split
      · exact (Quiet.refl v).setError _
      · simp only
        split
        · exact (Quiet.refl v).setFs _
        · exact ((Quiet.refl v).setFs _).setDir rfl id

lemma vfsRegisterFs_quiet (v : Vfs σ) (name : Str) (ops : VfsOps σ) : Quiet v (vfsRegisterFs v name ops).2 := by
  unfold vfsRegisterFs
  split_ifs
  · exact .refl v
  · exact .refl v
  · constructor <;> simp

lemma vfsUnregisterFs_quiet (v : Vfs σ) (name : Str) : Quiet v (vfsUnregisterFs v name).2 := by
  unfold vfsUnregisterFs
  split_ifs
  · constructor <;> simp
  · exact .refl v

/-! ## Mounting and unmounting -/

/-- The slot that `vfs_mount` takes for a path: the first inactive one, and no scanned active mount
has the path. -/
structure Vfs.SlotFor (v : Vfs σ) (m : MountSlot) (normalized : Str) : Prop where
  free : (v.mounts m).active = false
  first : ∀ n : MountSlot, (v.mounts n).active = false → m ≤ n
  fresh : ∀ n : MountSlot, n.val < v.mountCount.toNat → (v.mounts n).active = true → (v.mounts n).path ≠ normalized

lemma countMount_quiet (v : Vfs σ) (m : MountSlot) (q : Str) :
    Quiet (v.setMountCount (v.mountCount + 1)) (countMount v m q) := by
  unfold countMount
  simp only
  split
  · constructor <;> simp
  · exact .refl _

lemma Quiet.countedMount (h : Quiet v w) (m : MountSlot) (q : Str) (mount : Mount σ) :
    Quiet ((v.setMount m mount).setMountCount (v.mountCount + 1))
      (countMount (w.setMount m mount) m q) := by
  refine Quiet.trans ?_ (countMount_quiet (w.setMount m mount) m q)
  constructor
  · simp [h.mounts]
  · simp [h.mountCount]
  · exact h.nodeUsed
  · exact h.refCount
  · exact h.nodeMount
  · exact h.files
  · exact h.filesUsed
  · exact h.dirs
  · exact h.dirsUsed

/-- What a `vfs_mount` that found its slot does: the filesystem refuses and the slot stays
inactive, or the slot is filled, with no root node or with a fresh one. -/
def MountsInto (v w : Vfs σ) (m : MountSlot) (q : Str) : Prop :=
  (∃ mount : Mount σ, mount.active = false ∧ Quiet (v.setMount m mount) w) ∨
  ∃ mount : Mount σ, mount.active = true ∧ mount.path = q ∧
    ((mount.root = none ∧ Quiet ((v.setMount m mount).setMountCount (v.mountCount + 1)) w) ∨
    ∃ r info, mount.root = some r ∧ v.nodeUsed r = false ∧
      Quiet (((v.takeNode r (some m) info).setMount m mount).setMountCount (v.mountCount + 1)) w)

lemma mountAnswered_cases (v : Vfs σ) (m : MountSlot) (q : Str) (ops : VfsOps σ)
    (a : MountAnswer σ) : MountsInto v (mountAnswered v m q ops a).2 m q := by
  unfold mountAnswered
  simp only
  split
  · left
    refine ⟨⟨q, none, some ops, a.readonly, false⟩, rfl, ?_⟩
    exact .setError (by constructor <;> simp) _
  · right
    have hfs : Quiet v (v.setFs a.state) := (Quiet.refl v).setFs _
    cases a.root with
    | none =>
      refine ⟨⟨q, none, some ops, a.readonly, true⟩, rfl, rfl, .inl ⟨rfl, ?_⟩⟩
      exact hfs.countedMount m q ⟨q, none, some ops, a.readonly, true⟩
    | some info =>
      cases hr : firstSlot fun n => !v.nodeUsed n with
      | none =>
        simp only [makeRoot, Vfs.allocNode, Vfs.setFs_nodeUsed, hr]
        refine ⟨⟨q, none, some ops, a.readonly, true⟩, rfl, rfl, .inl ⟨rfl, ?_⟩⟩
        exact hfs.countedMount m q _
      | some r =>
        simp only [makeRoot, Vfs.allocNode, Vfs.setFs_nodeUsed, hr]
        have hunused : v.nodeUsed r = false := by simpa using firstSlot_some hr
        refine ⟨⟨q, some r, some ops, a.readonly, true⟩, rfl, rfl, .inr ⟨r, info, rfl, hunused, ?_⟩⟩
        have htake : Quiet (v.takeNode r (some m) info)
            ((v.setFs a.state).takeNode r (some m) info) := by
          constructor <;> simp [Vfs.takeNode]
        exact htake.countedMount m q _

/-- **Mounting.**  Either nothing moves, or a free slot is found and `MountsInto` says the rest. -/
theorem vfsMount_cases (v : Vfs σ) (path type : Str) (device : UInt64) :
    Quiet v (vfsMount v path type device).2 ∨ ∃ m q, vfsNormalizePath path = some q ∧
      v.SlotFor m q ∧ MountsInto v (vfsMount v path type device).2 m q := by
  unfold vfsMount
  split
  · exact .inl ((Quiet.refl v).setError _)
  · rename_i q hq
    split
    · exact .inl ((Quiet.refl v).setError _)
    · rename_i fstype hfstype
      split
      · exact .inl ((Quiet.refl v).setError _)
      · rename_i hfresh
        split
        · exact .inl ((Quiet.refl v).setError _)
        · rename_i m hm
          refine .inr ⟨m, q, hq, ⟨?_, ?_, ?_⟩, ?_⟩
          · simpa using firstSlot_some hm
          · intro n hn
            exact firstSlot_least hm (by simp [hn])
          · intro n hn hactive hpath
            refine hfresh (List.any_eq_true.mpr ⟨n, mem_scannedMounts.mpr hn, ?_⟩)
            simp [hactive, hpath]
          · unfold mountAt
            split
            · exact .inr ⟨⟨q, none, some fstype.ops, false, true⟩, rfl, rfl, .inl ⟨rfl, countMount_quiet _ m q⟩⟩
            · exact mountAnswered_cases v m q fstype.ops _

/-- The mount that `vfs_unmount` finds for a path. -/
def unmountTarget (v : Vfs σ) (path : Str) : Option MountSlot :=
  (vfsNormalizePath path).bind (mountAtPath v)

/-- Nothing stops `vfs_unmount`: no open file is on the mount and its filesystem agrees. -/
def Vfs.Releasable (v : Vfs σ) (m : MountSlot) : Prop :=
  hasOpenFile v m = false ∧ (unmountAnswer v m).result = vfsOk

instance (v : Vfs σ) (m : MountSlot) : Decidable (v.Releasable m) :=
  inferInstanceAs (Decidable (_ ∧ _))

lemma active_of_unmountTarget {m : MountSlot} (h : unmountTarget v path = some m) : (v.mounts m).active = true := by
  obtain ⟨q, -, hm⟩ := Option.bind_eq_some_iff.mp h
  have := firstSlot_some hm
  simp only [Bool.and_eq_true] at this
  exact this.1

lemma teardown_cases (v : Vfs σ) (m : MountSlot) (freesRoot : Bool) : ∃ mount : Mount σ, mount.active = false ∧
      (Quiet ((v.setMount m mount).setMountCount (v.mountCount - 1)) (teardown v m freesRoot) ∨
      ∃ r, (v.mounts m).root = some r ∧ Quiet (((v.freeNode r).setMount m mount).setMountCount (v.mountCount - 1))
          (teardown v m freesRoot)) := by
  have hclear : ∀ (w : Vfs σ) (mount : Mount σ),
      Quiet ((w.setMount m mount).setMountCount (w.mountCount - 1))
        (((if w.rootMount = some m then w.setRootMount none else w).setMount m mount).setMountCount
          ((if w.rootMount = some m then w.setRootMount none else w).mountCount - 1)) := by
    intro w mount
    split
    · constructor <;> simp
    · exact .refl _
  unfold teardown
  cases freesRoot with
  | false => exact ⟨{ v.mounts m with active := false }, rfl, .inl (hclear v _)⟩
  | true =>
    refine ⟨{ v.mounts m with root := none, active := false }, rfl, ?_⟩
    cases hroot : (v.mounts m).root with
    | none =>
      simp only [if_true, hroot, Option.elim]
      exact .inl (hclear v _)
    | some r =>
      simp only [if_true, hroot, Option.elim]
      exact .inr ⟨r, rfl, hclear (v.freeNode r) _⟩

/-- **Unmounting.**  Either something stops it and nothing moves, or the target is released: its
slot becomes inactive, and its root node goes back to the pool or stays where it is. -/
theorem vfsUnmount_cases (v : Vfs σ) (path : Str) :
    (Quiet v (vfsUnmount v path).2 ∧ ∀ m, unmountTarget v path = some m → ¬ v.Releasable m) ∨
    ∃ m, unmountTarget v path = some m ∧ v.Releasable m ∧ ∃ mount : Mount σ, mount.active = false ∧
        (Quiet ((v.setMount m mount).setMountCount (v.mountCount - 1)) (vfsUnmount v path).2 ∨
        ∃ r, (v.mounts m).root = some r ∧ Quiet (((v.freeNode r).setMount m mount).setMountCount (v.mountCount - 1))
            (vfsUnmount v path).2) := by
  unfold vfsUnmount
  split
  · rename_i hq
    exact .inl ⟨(Quiet.refl v).setError _, by simp [unmountTarget, hq]⟩
  · rename_i q hq
    split
    · rename_i hm
      exact .inl ⟨(Quiet.refl v).setError _, by simp [unmountTarget, hq, hm]⟩
    · rename_i m hm
      have htarget : unmountTarget v path = some m := by simp [unmountTarget, hq, hm]
      split
      · rename_i hfile
        refine .inl ⟨(Quiet.refl v).setError _, fun m' hm' hrel => ?_⟩
        obtain rfl := Option.some.inj (htarget.symm.trans hm')
        simp [hrel.1] at hfile
      · rename_i hfile
        simp only
        split
        · rename_i hrefused
          refine .inl ⟨((Quiet.refl v).setFs _).setError _, fun m' hm' hrel => ?_⟩
          obtain rfl := Option.some.inj (htarget.symm.trans hm')
          exact hrefused hrel.2
        · rename_i hok
          refine .inr ⟨m, htarget, ⟨by simpa using hfile, by simpa using hok⟩, ?_⟩
          obtain ⟨mount, hinactive, h⟩ :=
            teardown_cases (v.setFs (unmountAnswer v m).state) m (unmountAnswer v m).freesRoot
          refine ⟨mount, hinactive, h.imp ?_ ?_⟩
          · intro h
            refine Quiet.trans ?_ h
            constructor <;> simp
          · rintro ⟨r, hr, h⟩
            refine ⟨r, hr, Quiet.trans ?_ h⟩
            constructor <;> simp [Vfs.freeNode]

lemma vfsUnmount_released {m : MountSlot} (hm : unmountTarget v path = some m) (h : v.Releasable m) :
    ∃ mount : Mount σ, mount.active = false ∧ (vfsUnmount v path).2.mounts = Function.update v.mounts m mount ∧
      (vfsUnmount v path).2.mountCount = v.mountCount - 1 := by
  obtain ⟨q, hq, hm⟩ := Option.bind_eq_some_iff.mp hm
  obtain ⟨hfile, hok⟩ := h
  obtain ⟨mount, hinactive, ht⟩ :=
    teardown_cases (v.setFs (unmountAnswer v m).state) m (unmountAnswer v m).freesRoot
  refine ⟨mount, hinactive, ?_⟩
  simp only [vfsUnmount, hq, hm, hfile, hok]
  rcases ht with ht | ⟨r, -, ht⟩
  · exact ⟨ht.mounts, ht.mountCount⟩
  · exact ⟨ht.mounts, ht.mountCount⟩

end

end

end AAAos
