import AAAos.Fs.Vfs.Clients

/-!
# Access modes

The access mode is the low two bits of the open flags: 1 for reading, 2 for writing, 3 for both.
`vfs_read` compares the bits with 2 and enforces the mode.  `vfs_write` and the `VFS_O_TRUNC` part
of `vfs_open` only ask whether one of the bits is set, which holds for a handle opened for reading
too, and `vfs_truncate` does not ask.

So a handle opened for reading protects its file as long as it was opened without `VFS_O_TRUNC` and
something else stops each write and truncation through it: a read-only mount, a directory, or a
filesystem without the callback.  What the filesystem stores is seen through an arbitrary `view`
that its lookups, opens and reads leave alone.
-/

namespace AAAos

section

variable {σ α : Type} {view : σ → α} {u v w : Vfs σ} {file : FileSlot} {node n : NodeSlot}

/-- The calls that go through one file handle. -/
inductive FileCall
  | read (size : UInt64)
  | write (buf : List UInt8)
  | seek (offset : Int64) (whence : Whence)
  | truncate (size : UInt64)

/-- One call through the handle, with the file data it returns. -/
def fileCall (v : Vfs σ) (file : FileSlot) : FileCall → List UInt8 × Vfs σ
  | .read size => ((vfsRead v file size).1.2, (vfsRead v file size).2)
  | .write buf => ([], (vfsWrite v file buf).2)
  | .seek offset whence => ([], (vfsSeek v file offset whence).2)
  | .truncate size => ([], (vfsTruncate v file size).2)

/-- The bits of the access mode. -/
def accessMode (flags : UInt32) : UInt32 := flags &&& oRdwr

/-! ## What a filesystem leaves alone -/

/-- Looking up, creating another file, opening and reading do not change what is stored, nor the
size of a node. -/
structure VfsOps.Preserves (ops : VfsOps σ) (view : σ → α) : Prop where
  openNode : ∀ f, ops.openNode = some f → ∀ node flags s,
    view (f node flags s).2.2 = view s ∧ (f node flags s).2.1.size = node.info.size
  read : ∀ f, ops.read = some f → ∀ node size offset s,
    view (f node size offset s).2.2.2 = view s ∧ (f node size offset s).2.2.1.size = node.info.size
  finddir : ∀ f, ops.finddir = some f → ∀ node name room s, view (f node name room s).2 = view s
  create : ∀ f, ops.create = some f → ∀ node name mode s, view (f node name mode s).2 = view s

/-- Every mounted filesystem does so. -/
def Vfs.Preserves (v : Vfs σ) (view : σ → α) : Prop :=
  ∀ m ops, (v.mounts m).ops = some ops → ops.Preserves view

lemma Vfs.Preserves.congr (h : v.Preserves view) (hw : w.mounts = v.mounts) :
    w.Preserves view := fun m ops hops => h m ops (hw ▸ hops)

lemma exists_of_op {β : Type} {pick : VfsOps σ → Option β} {f : β} (h : v.op n pick = some f) :
    ∃ m ops, (v.mounts m).ops = some ops ∧ pick ops = some f := by
  obtain ⟨m, -, hm⟩ := Option.bind_eq_some_iff.mp h
  obtain ⟨ops, hops, hf⟩ := Option.bind_eq_some_iff.mp hm
  exact ⟨m, ops, hops, hf⟩

/-! ## Lookups -/

/-- The same mounts, and the same things stored. -/
structure SameStore (view : σ → α) (v w : Vfs σ) : Prop where
  mounts : w.mounts = v.mounts
  stored : view w.fs = view v.fs

namespace SameStore

lemma refl (v : Vfs σ) : SameStore view v v := ⟨rfl, rfl⟩

lemma trans (h : SameStore view u v) (k : SameStore view v w) : SameStore view u w :=
  ⟨k.mounts.trans h.mounts, k.stored.trans h.stored⟩

lemma setError (h : SameStore view v w) (error : Int) : SameStore view v (w.setError error) :=
  ⟨h.mounts, h.stored⟩

lemma refNode (h : SameStore view v w) (n : NodeSlot) : SameStore view v (w.refNode n) :=
  ⟨h.mounts, h.stored⟩

lemma unrefNode (h : SameStore view v w) (n : NodeSlot) : SameStore view v (w.unrefNode n) := by
  refine h.trans ⟨Vfs.unrefNode_mounts w n, ?_⟩
  simp only [Vfs.unrefNode, Vfs.freeNode]
  split_ifs <;> rfl

lemma allocNode (h : SameStore view v w) (mount : Option MountSlot) (info : NodeInfo) :
    SameStore view v (w.allocNode mount info).2 := by
  unfold Vfs.allocNode
  split
  · exact h
  · exact ⟨h.mounts, h.stored⟩

lemma callFinddir (h : SameStore view v w) (hv : v.Preserves view) (m : MountSlot)
    (dir : NodeSlot) (name : Str) : SameStore view v (callFinddir w m dir name).2 := by
  unfold AAAos.callFinddir
  split
  · exact h
  · rename_i f hf
    obtain ⟨ops, hops, hf⟩ := Option.bind_eq_some_iff.mp hf
    have hkeep := (hv m ops (h.mounts ▸ hops)).finddir f hf
    have hfs : ∀ room, SameStore view v (w.setFs (f (w.nodes dir) name room w.fs).2) :=
      fun room => h.trans ⟨rfl, hkeep _ _ _ _⟩
    simp only
    split
    · exact hfs _
    · exact (hfs _).allocNode _ _

lemma walk (h : SameStore view v w) (hv : v.Preserves view) (m : MountSlot) (cs : List Str)
    (node : NodeSlot) : SameStore view v (AAAos.walk m cs node w).2 := by
  induction cs generalizing node w with
  | nil => exact h
  | cons c cs ih =>
    rw [AAAos.walk]
    split
    · exact (h.unrefNode _).setError _
    · have hfind := h.callFinddir hv m node c
      split
      · rename_i x hx
        rw [hx] at hfind
        exact (hfind.unrefNode _).setError _
      · rename_i next x hx
        rw [hx] at hfind
        exact ih (hfind.unrefNode node) next

lemma vfsLookup (h : SameStore view v w) (hv : v.Preserves view) (path : Str) :
    SameStore view v (AAAos.vfsLookup w path).2 := by
  unfold AAAos.vfsLookup
  split
  · exact h.setError _
  · split
    · exact h.setError _
    · split
      · exact h.setError _
      · split
        · exact h.refNode _
        · exact (h.refNode _).walk hv _ _ _

lemma openLookup (h : SameStore view v w) (hv : v.Preserves view) (path : Str) (flags : UInt32) :
    SameStore view v (AAAos.openLookup w path flags).2 := by
  have hfirst := h.vfsLookup hv path
  unfold AAAos.openLookup
  split
  · rename_i node x hx
    rw [hx] at hfirst
    exact hfirst
  · rename_i x hx
    rw [hx] at hfirst
    have hparent := hfirst.vfsLookup hv (vfsParentPath path)
    split
    · exact hfirst.setError _
    · split
      · rename_i y hy
        rw [hy] at hparent
        exact hparent.setError _
      · rename_i parent y hy
        rw [hy] at hparent
        split
        · exact (hparent.unrefNode _).setError _
        · rename_i f hf
          obtain ⟨m, ops, hops, hf⟩ := exists_of_op hf
          have hkeep := (hv m ops (hparent.mounts ▸ hops)).create f hf
          have hcreate : SameStore view y (y.callOn parent fun node =>
              f node (vfsBasename path) ownerReadWrite).2 := ⟨rfl, hkeep _ _ _ _⟩
          have hcall := (hparent.trans hcreate).unrefNode parent
          have hagain := hcall.vfsLookup hv path
          simp only
          split
          · exact hcall.setError _
          · split
            · rename_i node z hz
              rw [hz] at hagain
              exact hagain
            · rename_i z hz
              rw [hz] at hagain
              exact hagain.setError _

end SameStore

/-! ## One handle -/

/-- The handle is open on the node with these flags. -/
structure OpenOn (v : Vfs σ) (file : FileSlot) (n : NodeSlot) (flags : UInt32) : Prop where
  inUse : (v.openFiles file).inUse = true
  node : (v.openFiles file).node = some n
  flags : (v.openFiles file).flags = flags

/-- The file as the handle and the filesystem see it: its size and what is stored. -/
structure Unchanged (view : σ → α) (n : NodeSlot) (v w : Vfs σ) : Prop extends
    SameStore view v w where
  size : (w.nodes n).info.size = (v.nodes n).info.size

namespace Unchanged

lemma refl (v : Vfs σ) : Unchanged view n v v := ⟨.refl v, rfl⟩

lemma trans (h : Unchanged view n u v) (k : Unchanged view n v w) : Unchanged view n u w :=
  ⟨h.toSameStore.trans k.toSameStore, k.size.trans h.size⟩

lemma setError (h : Unchanged view n v w) (error : Int) : Unchanged view n v (w.setError error) :=
  ⟨h.toSameStore.setError error, h.size⟩

lemma setFile (h : Unchanged view n v w) (f : FileSlot) (x : File) :
    Unchanged view n v (w.setFile f x) := ⟨⟨h.mounts, h.stored⟩, h.size⟩

lemma setOffset (h : Unchanged view n v w) (f : FileSlot) (offset : UInt64) :
    Unchanged view n v (w.setOffset f offset) := h.setFile f _

lemma setInfo (h : Unchanged view n v w) {info : NodeInfo} {fs : σ} (hfs : view fs = view w.fs)
    (hsize : info.size = (w.nodes n).info.size) : Unchanged view n v (w.setInfo n info fs) := by
  refine h.trans ⟨⟨rfl, hfs⟩, ?_⟩
  simpa [Vfs.setInfo] using hsize

end Unchanged

namespace OpenOn

variable {flags : UInt32}

lemma congr (h : OpenOn v file n flags) (hw : w.openFiles = v.openFiles) :
    OpenOn w file n flags := ⟨hw ▸ h.inUse, hw ▸ h.node, hw ▸ h.flags⟩

lemma setOffset (h : OpenOn v file n flags) (offset : UInt64) : OpenOn (v.setOffset file offset) file n flags := by
  constructor
  · simpa [Vfs.setOffset] using h.inUse
  · simpa [Vfs.setOffset] using h.node
  · simpa [Vfs.setOffset] using h.flags

lemma readNode (h : OpenOn v file n flags) (size : UInt64) : OpenOn (readNode v file n size).2 file n flags := by
  unfold AAAos.readNode
  split
  · exact h.congr rfl
  · simp only
    split
    · exact (h.congr (w := v.setInfo n _ _) rfl).setOffset _
    · exact h.congr rfl

lemma vfsRead (h : OpenOn v file n flags) (size : UInt64) : OpenOn (vfsRead v file size).2 file n flags := by
  simp only [AAAos.vfsRead, h.inUse, h.node]
  split_ifs
  · exact absurd ‹_› (by simp)
  · exact h.congr rfl
  · exact h.congr rfl
  · exact h
  · exact h.readNode _
  · exact h.readNode _

lemma writeNode (h : OpenOn v file n flags) (buf : List UInt8) : OpenOn (writeNode v file n buf).2 file n flags := by
  unfold AAAos.writeNode
  split
  · exact h.congr rfl
  · simp only
    split
    · exact ((h.congr (w := v.setInfo n _ _) rfl).setOffset _).congr rfl
    · exact h.congr rfl

lemma vfsWrite (h : OpenOn v file n flags) (buf : List UInt8) : OpenOn (vfsWrite v file buf).2 file n flags := by
  simp only [AAAos.vfsWrite, h.inUse, h.node]
  split_ifs
  · exact absurd ‹_› (by simp)
  · exact h.congr rfl
  · exact h.congr rfl
  · exact h.congr rfl
  · exact (h.setOffset _).writeNode buf
  · exact (h.setOffset _).writeNode buf

lemma vfsSeek (h : OpenOn v file n flags) (offset : Int64) (whence : Whence) :
    OpenOn (vfsSeek v file offset whence).2 file n flags := by
  simp only [AAAos.vfsSeek, h.inUse, h.node]
  split_ifs
  · exact absurd ‹_› (by simp)
  · split
    · exact h.congr rfl
    · split_ifs
      · exact h.congr rfl
      · exact h.setOffset _

lemma vfsTruncate (h : OpenOn v file n flags) (size : UInt64) : OpenOn (vfsTruncate v file size).2 file n flags := by
  simp only [AAAos.vfsTruncate, h.inUse, h.node]
  split_ifs
  · exact absurd ‹_› (by simp)
  · exact h.congr rfl
  · split
    · exact h.congr rfl
    · exact h.congr rfl

lemma fileCall (h : OpenOn v file n flags) (c : FileCall) : OpenOn (fileCall v file c).2 file n flags := by
  cases c with
  | read size => exact h.vfsRead size
  | write buf => exact h.vfsWrite buf
  | seek offset whence => exact h.vfsSeek offset whence
  | truncate size => exact h.vfsTruncate size

end OpenOn

/-! ## Reading handles -/

/-- Something other than the access mode stops the call before the filesystem's `write` or
`truncate`: the node is a directory, the mount is read-only, or the filesystem has no such
callback. -/
def Stopped (v : Vfs σ) (n : NodeSlot) : FileCall → Prop
  | .write _ => (v.nodes n).info.type = .directory ∨ v.onReadonly n = true ∨
      (v.op n VfsOps.write).isNone = true
  | .truncate _ => v.onReadonly n = true ∨ (v.op n VfsOps.truncate).isNone = true
  | _ => True

section

variable {flags : UInt32}

lemma readNode_unchanged (hv : v.Preserves view) (size : UInt64) : Unchanged view n v (readNode v file n size).2 := by
  unfold readNode
  split
  · exact (Unchanged.refl v).setError _
  · rename_i f hf
    obtain ⟨m, ops, hops, hf⟩ := exists_of_op hf
    have hkeep := (hv m ops hops).read f hf (v.nodes n) size (v.openFiles file).offset v.fs
    have hsame : Unchanged view n v v := .refl v
    have hinfo := hsame.setInfo hkeep.1 hkeep.2
    simp only
    split
    · exact hinfo.setOffset _ _
    · exact hinfo

lemma vfsRead_unchanged (h : OpenOn v file n flags) (hv : v.Preserves view) (size : UInt64) :
    Unchanged view n v (vfsRead v file size).2 := by
  simp only [vfsRead, h.inUse, h.node]
  split_ifs
  · exact absurd ‹_› (by simp)
  · exact (Unchanged.refl v).setError _
  · exact (Unchanged.refl v).setError _
  · exact .refl v
  · exact readNode_unchanged hv _
  · exact readNode_unchanged hv _

lemma vfsWrite_unchanged (h : OpenOn v file n flags) {buf : List UInt8}
    (hstop : Stopped v n (.write buf)) : Unchanged view n v (vfsWrite v file buf).2 := by
  have hmissing : (v.op n VfsOps.write).isNone = true → ∀ offset,
      Unchanged view n v (writeNode (v.setOffset file offset) file n buf).2 := by
    intro hnone offset
    have hop : (v.setOffset file offset).op n VfsOps.write = none := by
      simpa [Vfs.op, Vfs.setOffset] using hnone
    simp only [writeNode, hop]
    exact ((Unchanged.refl v).setOffset _ _).setError _
  simp only [vfsWrite, h.inUse, h.node]
  split_ifs with h1 h2 h3 h4 h5
  · exact absurd h1 (by simp)
  · exact (Unchanged.refl v).setError _
  · exact (Unchanged.refl v).setError _
  · exact (Unchanged.refl v).setError _
  · exact hmissing ((hstop.resolve_left h3).resolve_left h4) _
  · exact hmissing ((hstop.resolve_left h3).resolve_left h4) _

lemma vfsSeek_unchanged (h : OpenOn v file n flags) (offset : Int64) (whence : Whence) :
    Unchanged view n v (vfsSeek v file offset whence).2 := by
  simp only [vfsSeek, h.inUse, h.node]
  split_ifs
  · exact absurd ‹_› (by simp)
  · split
    · exact (Unchanged.refl v).setError _
    · split_ifs
      · exact (Unchanged.refl v).setError _
      · exact (Unchanged.refl v).setOffset _ _

lemma vfsTruncate_unchanged (h : OpenOn v file n flags) {size : UInt64}
    (hstop : Stopped v n (.truncate size)) : Unchanged view n v (vfsTruncate v file size).2 := by
  simp only [vfsTruncate, h.inUse, h.node]
  split_ifs with h1 h2
  · exact absurd h1 (by simp)
  · exact (Unchanged.refl v).setError _
  · split
    · exact (Unchanged.refl v).setError _
    · rename_i f hf
      have hnone := hstop.resolve_left h2
      simp [hf] at hnone

lemma fileCall_unchanged (h : OpenOn v file n flags) (hv : v.Preserves view) {c : FileCall}
    (hstop : Stopped v n c) : Unchanged view n v (fileCall v file c).2 := by
  cases c with
  | read size => exact vfsRead_unchanged h hv size
  | write buf => exact vfsWrite_unchanged h hstop
  | seek offset whence => exact vfsSeek_unchanged h offset whence
  | truncate size => exact vfsTruncate_unchanged h hstop

/-! ## Writing handles -/

/-- `vfs_read` refuses a handle opened for writing. -/
lemma vfsRead_wronly (h : OpenOn v file n flags) (hmode : accessMode flags = oWronly)
    (size : UInt64) : (vfsRead v file size).1.2 = [] := by
  have hflags : (v.openFiles file).flags &&& oRdwr = oWronly := by rw [h.flags]; exact hmode
  simp [vfsRead, h.inUse, h.node, hflags]

lemma fileCall_wronly (h : OpenOn v file n flags) (hmode : accessMode flags = oWronly)
    (c : FileCall) : (fileCall v file c).1 = [] := by
  cases c with
  | read size => exact vfsRead_wronly h hmode size
  | write buf => rfl
  | seek offset whence => rfl
  | truncate size => rfl

/-! ## Opening -/

/-- A handle is returned on the node that the first part of `vfs_open` found. -/
lemma vfsOpen_some {path : Str} (h : vfsOpen v path flags = (some file, w)) :
    ∃ n u, openLookup v path flags = (some n, u) ∧ openSlot u file n flags = (some file, w) := by
  unfold vfsOpen at h
  split at h
  · simp at h
  · rename_i n u hu
    refine ⟨n, u, hu, ?_⟩
    split at h
    · simp at h
    · split at h
      · simp at h
      · split at h
        · simp at h
        · rename_i slot hslot
          obtain rfl := openSlot_some (congrArg Prod.fst h)
          exact h

/-- The handle that `vfs_open` fills is open on its node, and without `VFS_O_TRUNC` the file is as
it was. -/
lemma openSlot_openOn (h : openSlot v file n flags = (some file, w)) (hv : v.Preserves view) :
    OpenOn w file n flags ∧ (flags &&& oTrunc = 0 → Unchanged view n v w) := by
  obtain ⟨x, hx⟩ : ∃ x, v.setFile file
      { node := some n, offset := 0, flags := flags, refCount := 1, inUse := true } = x := ⟨_, rfl⟩
  obtain ⟨y, hy⟩ : ∃ y, (x.callIfPresent n
      ((x.op n VfsOps.openNode).map fun f node => f node flags)).2 = y := ⟨_, rfl⟩
  have hxopen : OpenOn x file n flags := by
    constructor <;> simp [← hx]
  have hxsame : Unchanged view n v x := hx ▸ (Unchanged.refl v).setFile _ _
  have hyopen : OpenOn y file n flags := by
    refine hxopen.congr ?_
    rw [← hy]
    cases (x.op n VfsOps.openNode) <;> rfl
  have hysame : Unchanged view n v y := by
    rw [← hy]
    cases hop : x.op n VfsOps.openNode with
    | none => exact hxsame
    | some f =>
      obtain ⟨m, ops, hops, hf⟩ := exists_of_op hop
      have hkeep := (hv m ops (hxsame.mounts ▸ hops)).openNode f hf (x.nodes n) flags x.fs
      exact hxsame.setInfo hkeep.1 hkeep.2
  simp only [openSlot, hx, hy] at h
  split at h
  · simp at h
  · obtain ⟨-, rfl⟩ := Prod.mk.inj h
    have htrunc : (openTruncate y n flags).openFiles = y.openFiles := by
      unfold openTruncate
      split
      · cases y.op n VfsOps.truncate <;> rfl
      · rfl
    have hopen := hyopen.congr htrunc
    refine ⟨?_, fun hno => ?_⟩
    · unfold openAppend
      split
      · exact hopen.setOffset _
      · exact hopen
    · have hkeep : openTruncate y n flags = y := by simp [openTruncate, hno]
      rw [hkeep]
      unfold openAppend
      split
      · exact hysame.setOffset _ _
      · exact hysame

/-! ## Runs -/

/-- A call through the handle.  If the handle was opened for reading, something stops its writes
and truncations. -/
def ThroughHandle (file : FileSlot) (v : Vfs σ) (c : FileCall) (w : Vfs σ) : Prop :=
  (accessMode (v.openFiles file).flags = oRdonly →
    ∀ n, (v.openFiles file).node = some n → Stopped v n c) ∧ w = (fileCall v file c).2

/-- **Access modes over runs.**  Through a handle opened for reading without `VFS_O_TRUNC`, as long
as something stops its writes and truncations, neither the open nor any sequence of calls changes
the file's size or what is stored; through a handle opened for writing no call returns data. -/
theorem accessMode_enforced {path : Str} {v' : Vfs σ} {calls : List FileCall}
    (hv : v.Preserves view) (hopen : vfsOpen v path flags = (some file, v'))
    (hrun : Steps (ThroughHandle file) v' calls w) :
    ∃ n u, openLookup v path flags = (some n, u) ∧ (accessMode flags = oRdonly → flags &&& oTrunc = 0 →
        view w.fs = view v.fs ∧ (w.nodes n).info.size = (u.nodes n).info.size) ∧
      (accessMode flags = oWronly → ∀ c, (fileCall w file c).1 = []) := by
  obtain ⟨n, u, hu, hslot⟩ := vfsOpen_some hopen
  have hstart : SameStore view v v := .refl v
  have hlookup := hstart.openLookup hv path flags
  rw [hu] at hlookup
  obtain ⟨hon, hsame⟩ := openSlot_openOn hslot (hv.congr hlookup.mounts)
  refine ⟨n, u, hu, fun hmode hno => ?_, fun hmode => ?_⟩
  · have hinv := hrun.invariant (I := fun x => OpenOn x file n flags ∧ Unchanged view n u x)
      (by
        rintro x c y ⟨hx, hkept⟩ ⟨hstop, rfl⟩
        have hpres := hv.congr (hkept.mounts.trans hlookup.mounts)
        have hs := hstop (by rw [hx.flags, hmode]) n hx.node
        exact ⟨hx.fileCall c, hkept.trans (fileCall_unchanged hx hpres hs)⟩)
      ⟨hon, hsame hno⟩
    exact ⟨hinv.2.stored.trans hlookup.stored, hinv.2.size⟩
  · have hinv := hrun.invariant (I := fun x => OpenOn x file n flags)
      (by
        rintro x c y hx ⟨-, rfl⟩
        exact hx.fileCall c)
      hon
    exact fileCall_wronly hinv hmode

end

end

/-! ## A filesystem with one file -/

section

variable {σ α : Type} {view : σ → α} {v : Vfs σ}

lemma countMount_mounts (v : Vfs σ) (m : MountSlot) (q : Str) : (countMount v m q).mounts = v.mounts := by
  unfold countMount
  simp only
  split <;> rfl

lemma makeRoot_mounts (v : Vfs σ) (m : MountSlot) (root : Option NodeInfo) :
    (makeRoot v m root).2.mounts = v.mounts := by
  cases root with
  | none => rfl
  | some info =>
    simp only [makeRoot, Vfs.allocNode]
    split <;> rfl

/-- Whatever the filesystem answers, only the slot is rewritten, with the filesystem's callbacks. -/
lemma mountAnswered_mounts (v : Vfs σ) (m : MountSlot) (q : Str) (ops : VfsOps σ)
    (a : MountAnswer σ) : ∃ mount : Mount σ, mount.ops = some ops ∧
      (mountAnswered v m q ops a).2.mounts = Function.update v.mounts m mount := by
  unfold mountAnswered
  simp only
  split
  · exact ⟨⟨q, none, some ops, a.readonly, false⟩, rfl, rfl⟩
  · refine ⟨⟨q, (makeRoot (v.setFs a.state) m a.root).1, some ops, a.readonly, true⟩, rfl, ?_⟩
    rw [countMount_mounts, Vfs.setMount_mounts, makeRoot_mounts]
    rfl

lemma vfsMount_preserves (hv : v.Preserves view) (hfs : ∀ t ∈ v.fsTypes, t.ops.Preserves view)
    (path type : Str) (device : UInt64) : (vfsMount v path type device).2.Preserves view := by
  -- whatever happens, at most one slot is rewritten, with the callbacks of a registered type
  have hset : ∀ (w : Vfs σ) (m : MountSlot) (mount : Mount σ) (t : FsType σ), t ∈ v.fsTypes →
      mount.ops = some t.ops → w.mounts = Function.update v.mounts m mount →
      w.Preserves view := by
    intro w m mount t ht hmount hw m' ops hops
    rw [hw] at hops
    by_cases hm : m' = m
    · subst hm
      rw [Function.update_self, hmount] at hops
      exact Option.some.inj hops ▸ hfs t ht
    · rw [Function.update_of_ne hm] at hops
      exact hv m' ops hops
  unfold vfsMount
  split
  · exact hv
  · rename_i q hq
    split
    · exact hv
    · rename_i t ht
      have htmem : t ∈ v.fsTypes := List.mem_of_find?_eq_some ht
      split
      · exact hv
      · split
        · exact hv
        · rename_i m hm
          unfold mountAt
          split
          · exact hset _ m _ t htmem rfl (countMount_mounts _ _ _)
          · rename_i f hf
            obtain ⟨mount, hops, hmounts⟩ := mountAnswered_mounts v m q t.ops
              (f m q device (firstSlot fun n => !v.nodeUsed n).isSome v.fs)
            exact hset _ m mount t htmem hops hmounts

end

/-- One file, whatever its name, kept in memory. -/
def memOps : VfsOps (List UInt8) where
  mount := some fun _ _ _ _ s => ⟨vfsOk, some { type := .directory }, false, s⟩
  finddir := some fun _ _ _ s => (some { type := .file, size := .ofNat s.length }, s)
  read := some fun node size offset s =>
    let data := (s.drop offset.toNat).take size.toNat
    (data.length, data, node.info, s)
  write := some fun node buf offset s =>
    let s' := s.take offset.toNat ++ buf ++ s.drop (offset.toNat + buf.length)
    (buf.length, { node.info with size := .ofNat s'.length }, s')
  truncate := some fun node size s =>
    (vfsOk, { node.info with size := size }, s.take size.toNat)

/-- The file holds the bytes 1, 2, 3 and its filesystem is mounted at `/`. -/
def memRoot : Vfs (List UInt8) :=
  (vfsMount (vfsRegisterFs (vfsInit 0 [1, 2, 3]) [116] memOps).2 [47] [116] 0).2

lemma memOps_preserves : memOps.Preserves fun s => s := by
  constructor <;> simp [memOps]

lemma memRoot_preserves : memRoot.Preserves fun s => s := by
  refine vfsMount_preserves (fun m ops h => ?_) (fun t ht => ?_) _ _ _
  · simp [vfsRegisterFs, vfsInit] at h
  · have : t.ops = memOps := by
      simp [vfsRegisterFs, vfsInit] at ht
      rw [ht]
    rw [this]
    exact memOps_preserves

/-- The file is opened for reading and read. -/
theorem accessMode_enforced_memRoot : ∃ n u, openLookup memRoot [47, 102] oRdonly = (some n, u) ∧
      (vfsRead (vfsOpen memRoot [47, 102] oRdonly).2 0 3).2.fs = [1, 2, 3] ∧
      ((vfsRead (vfsOpen memRoot [47, 102] oRdonly).2 0 3).2.nodes n).info.size = (u.nodes n).info.size := by
  set_option maxRecDepth 8192 in
  have hfst : (vfsOpen memRoot [47, 102] oRdonly).1 = some 0 := by with_unfolding_all decide
  have hopen : vfsOpen memRoot [47, 102] oRdonly =
      (some 0, (vfsOpen memRoot [47, 102] oRdonly).2) := Prod.ext hfst rfl
  have hrun : Steps (ThroughHandle 0) (vfsOpen memRoot [47, 102] oRdonly).2 [.read 3]
      (vfsRead (vfsOpen memRoot [47, 102] oRdonly).2 0 3).2 :=
    .cons ⟨fun _ _ _ => trivial, rfl⟩ (.nil _)
  obtain ⟨n, u, hu, hread, -⟩ := accessMode_enforced memRoot_preserves hopen hrun
  obtain ⟨hstored, hsize⟩ := hread (by decide) (by decide)
  refine ⟨n, u, hu, hstored.trans ?_, hsize⟩
  with_unfolding_all decide

/-- `vfs_write` through a handle opened for reading overwrites the file. -/
theorem accessMode_not_enforced : ¬ ∀ (path : Str) (flags : UInt32) (file : FileSlot) (v' w : Vfs (List UInt8))
        (calls : List FileCall), accessMode flags = oRdonly →
      vfsOpen memRoot path flags = (some file, v') →
      Steps (fun v c w => w = (fileCall v file c).2) v' calls w → w.fs = memRoot.fs := by
  intro h
  set_option maxRecDepth 8192 in
  have hfst : (vfsOpen memRoot [47, 102] oRdonly).1 = some 0 := by with_unfolding_all decide
  have hopen : vfsOpen memRoot [47, 102] oRdonly =
      (some 0, (vfsOpen memRoot [47, 102] oRdonly).2) := Prod.ext hfst rfl
  have hwrite := h [47, 102] oRdonly 0 _ _ [.write [9]] (by decide) hopen (.cons rfl (.nil _))
  have hfs : (fileCall (vfsOpen memRoot [47, 102] oRdonly).2 0 (.write [9])).2.fs = [9, 2, 3] := by
    with_unfolding_all decide
  have hbefore : memRoot.fs = [1, 2, 3] := by with_unfolding_all decide
  rw [hfs, hbefore] at hwrite
  simp at hwrite

end AAAos
