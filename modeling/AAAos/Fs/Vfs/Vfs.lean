import AAAos.Fs.Vfs.Path
import Mathlib.Data.List.FinRange
import Mathlib.Order.Fin.Basic
import Mathlib.Data.Fintype.Basic
import Mathlib.Tactic.Simps.Basic

/-!
# The virtual file system

`fs/vfs/vfs.c`: a mount table, a pool of reference-counted nodes, and tables of open files and
open directories.  Pointers into these static arrays are slot numbers.

The filesystems below the VFS are a parameter: a state `σ` of their own and tables of callbacks
over it, so a result here is about every filesystem.  A callback may fail in any way and may
change the fields of the node it is given.  Two conventions of `vfs.h` and of the one filesystem
in the tree (`fat32_vfs_finddir`, `fat32_vfs_mount`, `fat32_vfs_unmount`) are built in: a node
that `finddir` or `mount` returns is a fresh pool node with one reference on the mount it was
looked up in, and a `mount` or `unmount` that fails leaves no node behind and frees none.
-/

namespace AAAos

/-! ## Constants -/

def oRdonly : UInt32 := 0x0001
def oWronly : UInt32 := 0x0002
def oRdwr : UInt32 := 0x0003
def oAppend : UInt32 := 0x0008
def oCreat : UInt32 := 0x0200
def oTrunc : UInt32 := 0x0400
def oExcl : UInt32 := 0x0800
def oDirectory : UInt32 := 0x10000

/-- `VFS_S_IRUSR | VFS_S_IWUSR`, the mode of a file that `vfs_open` creates. -/
def ownerReadWrite : UInt32 := 0o600

def vfsOk : Int := 0
def errNoEnt : Int := -2
def errIo : Int := -5
def errBadF : Int := -9
def errNoMem : Int := -12
def errAcces : Int := -13
def errBusy : Int := -16
def errExist : Int := -17
def errNotDir : Int := -20
def errIsDir : Int := -21
def errInval : Int := -22
def errNFile : Int := -23
def errNoSpc : Int := -28
def errRoFs : Int := -30
def errNameTooLong : Int := -36
def errNoSys : Int := -78

/-- The values of `whence`. -/
inductive Whence
  | set
  | cur
  | fromEnd
  | other
  deriving DecidableEq

/-! ## Data -/

/-- `VFS_MAX_MOUNTS`, `VFS_NODE_POOL_SIZE`, `VFS_MAX_OPEN_FILES` and `VFS_MAX_OPEN_DIRS` slots. -/
abbrev MountSlot := Fin 64
abbrev NodeSlot := Fin 1024
abbrev FileSlot := Fin 1024
abbrev DirSlot := Fin 256

/-- `vfs_node_type_t`; `unset` is the zero that `vfs_memset` leaves. -/
inductive NodeType
  | unset
  | file
  | directory
  | chardev
  | blockdev
  | pipe
  | symlink
  | socket
  | mountpoint
  deriving DecidableEq

/-- The fields of a node that belong to its filesystem. -/
structure NodeInfo where
  type : NodeType := .unset
  permissions : UInt32 := 0
  uid : UInt32 := 0
  gid : UInt32 := 0
  inode : UInt64 := 0
  size : UInt64 := 0
  atime : UInt64 := 0
  mtime : UInt64 := 0
  ctime : UInt64 := 0
  nlink : UInt32 := 0
  fsData : UInt64 := 0
  dirty : Bool := false
  deriving DecidableEq

/-- `vfs_node_t`. -/
structure Node where
  info : NodeInfo := {}
  mount : Option MountSlot := none
  refCount : UInt32 := 0
  deriving DecidableEq

/-- `vfs_file_t`. -/
structure File where
  node : Option NodeSlot := none
  offset : UInt64 := 0
  flags : UInt32 := 0
  refCount : UInt32 := 0
  inUse : Bool := false
  deriving DecidableEq

/-- `vfs_dir_t`. -/
structure Dir where
  node : Option NodeSlot := none
  position : UInt32 := 0
  inUse : Bool := false
  deriving DecidableEq

/-- `vfs_dirent_t`. -/
structure Dirent where
  ino : UInt64
  type : NodeType
  name : Str
  deriving DecidableEq

/-- `vfs_stat_t`. -/
structure Stat where
  ino : UInt64 := 0
  mode : UInt32 := 0
  nlink : UInt32 := 0
  uid : UInt32 := 0
  gid : UInt32 := 0
  size : UInt64 := 0
  blksize : UInt64 := 0
  blocks : UInt64 := 0
  atime : UInt64 := 0
  mtime : UInt64 := 0
  ctime : UInt64 := 0
  type : NodeType := .unset
  deriving DecidableEq

/-- What a filesystem's `mount` answers: the root node it made, if any, and the `readonly` flag
it set. -/
structure MountAnswer (σ : Type) where
  result : Int
  root : Option NodeInfo
  readonly : Bool
  state : σ

/-- What a filesystem's `unmount` answers: whether it gave the root node back to the pool. -/
structure UnmountAnswer (σ : Type) where
  result : Int
  freesRoot : Bool
  state : σ

/-- `vfs_ops_t`.  A callback that may change its node's fields answers with the new ones;
`finddir` and `mount` are told whether the node pool has room. -/
structure VfsOps (σ : Type) where
  openNode : Option (Node → UInt32 → σ → Int × NodeInfo × σ) := none
  close : Option (Node → σ → Int × NodeInfo × σ) := none
  read : Option (Node → UInt64 → UInt64 → σ → Int × List UInt8 × NodeInfo × σ) := none
  write : Option (Node → List UInt8 → UInt64 → σ → Int × NodeInfo × σ) := none
  truncate : Option (Node → UInt64 → σ → Int × NodeInfo × σ) := none
  readdir : Option (Node → UInt32 → σ → Option Dirent × σ) := none
  finddir : Option (Node → Str → Bool → σ → Option NodeInfo × σ) := none
  mkdir : Option (Node → Str → UInt32 → σ → Int × σ) := none
  rmdir : Option (Node → Str → σ → Int × σ) := none
  create : Option (Node → Str → UInt32 → σ → Int × σ) := none
  unlink : Option (Node → Str → σ → Int × σ) := none
  rename : Option (Node → Str → Node → Str → σ → Int × σ) := none
  stat : Option (Node → σ → Int × Stat × σ) := none
  mount : Option (MountSlot → Str → UInt64 → Bool → σ → MountAnswer σ) := none
  unmount : Option (MountSlot → σ → UnmountAnswer σ) := none

/-- `vfs_mount_t`. -/
structure Mount (σ : Type) where
  path : Str := []
  root : Option NodeSlot := none
  ops : Option (VfsOps σ) := none
  readonly : Bool := false
  active : Bool := false

/-- `vfs_fstype_t`. -/
structure FsType (σ : Type) where
  name : Str
  ops : VfsOps σ

/-- The static variables of `vfs.c`, and the state of the filesystems. -/
structure Vfs (σ : Type) where
  rootMount : Option MountSlot
  mounts : MountSlot → Mount σ
  mountCount : UInt32
  openFiles : FileSlot → File
  openDirs : DirSlot → Dir
  fsTypes : List (FsType σ)
  fstypeCount : Nat
  lastError : Int
  nodes : NodeSlot → Node
  nodeUsed : NodeSlot → Bool
  fs : σ

/-- The first slot of a table with a property, as the scans of `vfs.c` find it. -/
def firstSlot {n : Nat} (p : Fin n → Bool) : Option (Fin n) := (List.finRange n).find? p

lemma firstSlot_some {n : Nat} {p : Fin n → Bool} {i : Fin n} (h : firstSlot p = some i) :
    p i = true := List.find?_some h

lemma firstSlot_none {n : Nat} {p : Fin n → Bool} (h : firstSlot p = none) (i : Fin n) : p i = false := by
  simpa using List.find?_eq_none.mp h i (List.mem_finRange i)

lemma firstSlot_least {n : Nat} {p : Fin n → Bool} {i j : Fin n} (h : firstSlot p = some i)
    (hj : p j = true) : i ≤ j := by
  obtain ⟨hi, as, bs, hsplit, has⟩ := List.find?_eq_some_iff_append.mp h
  have hsorted : (List.finRange n).Pairwise (· < ·) := List.pairwise_lt_finRange n
  rw [hsplit, List.pairwise_append] at hsorted
  have hmem : j ∈ as ++ i :: bs := hsplit ▸ List.mem_finRange j
  rcases List.mem_append.mp hmem with hja | hjb
  · exact absurd hj (by simpa using has j hja)
  · rcases List.mem_cons.mp hjb with rfl | hjb
    · exact le_refl _
    · exact le_of_lt ((List.pairwise_cons.mp hsorted.2.1).1 j hjb)

-- a scan of a table of symbolic contents must not be evaluated slot by slot
attribute [irreducible] firstSlot

section

variable {σ : Type}

/-- `vfs_init`; the pool of filesystem types is static and keeps its count. -/
def vfsInit (fstypeCount : Nat) (fs : σ) : Vfs σ where
  rootMount := none
  mounts := fun _ => {}
  mountCount := 0
  openFiles := fun _ => {}
  openDirs := fun _ => {}
  fsTypes := []
  fstypeCount := fstypeCount
  lastError := vfsOk
  nodes := fun _ => {}
  nodeUsed := fun _ => false
  fs := fs

namespace Vfs

/-! ## Writing one slot -/

@[simps -fullyApplied]
def setError (v : Vfs σ) (error : Int) : Vfs σ := { v with lastError := error }

@[simps -fullyApplied]
def setFs (v : Vfs σ) (fs : σ) : Vfs σ := { v with fs := fs }

@[simps -fullyApplied]
def setMount (v : Vfs σ) (m : MountSlot) (mount : Mount σ) : Vfs σ :=
  { v with mounts := Function.update v.mounts m mount }

@[simps -fullyApplied]
def setMountCount (v : Vfs σ) (count : UInt32) : Vfs σ := { v with mountCount := count }

@[simps -fullyApplied]
def setRootMount (v : Vfs σ) (m : Option MountSlot) : Vfs σ := { v with rootMount := m }

@[simps -fullyApplied]
def setFile (v : Vfs σ) (f : FileSlot) (file : File) : Vfs σ :=
  { v with openFiles := Function.update v.openFiles f file }

@[simps -fullyApplied]
def setDir (v : Vfs σ) (d : DirSlot) (dir : Dir) : Vfs σ :=
  { v with openDirs := Function.update v.openDirs d dir }

@[simps -fullyApplied]
def setNode (v : Vfs σ) (n : NodeSlot) (node : Node) : Vfs σ :=
  { v with nodes := Function.update v.nodes n node }

@[simps -fullyApplied]
def setUsed (v : Vfs σ) (n : NodeSlot) (used : Bool) : Vfs σ :=
  { v with nodeUsed := Function.update v.nodeUsed n used }

def setOffset (v : Vfs σ) (f : FileSlot) (offset : UInt64) : Vfs σ :=
  v.setFile f { v.openFiles f with offset := offset }

/-- A callback's changes to the fields of its node, and its new state. -/
def setInfo (v : Vfs σ) (n : NodeSlot) (info : NodeInfo) (fs : σ) : Vfs σ :=
  (v.setNode n { v.nodes n with info := info }).setFs fs

/-! ## Node management -/

/-- `vfs_alloc_node`, with the fields its caller then fills in. -/
def allocNode (v : Vfs σ) (mount : Option MountSlot) (info : NodeInfo) :
    Option NodeSlot × Vfs σ :=
  match firstSlot fun n => !v.nodeUsed n with
  | none => (none, v)
  | some n => (some n, (v.setUsed n true).setNode n ⟨info, mount, 1⟩)

/-- `vfs_free_node`. -/
def freeNode (v : Vfs σ) (n : NodeSlot) : Vfs σ := v.setUsed n false

/-- `vfs_ref_node`. -/
def refNode (v : Vfs σ) (n : NodeSlot) : Vfs σ :=
  v.setNode n { v.nodes n with refCount := (v.nodes n).refCount + 1 }

/-- `vfs_unref_node`. -/
def unrefNode (v : Vfs σ) (n : NodeSlot) : Vfs σ :=
  let count := (v.nodes n).refCount
  let count := if count > 0 then count - 1 else count
  let v := v.setNode n { v.nodes n with refCount := count }
  if count = 0 then v.freeNode n else v

/-- The callback that `f` picks, if the node's mount has it. -/
def op {α : Type} (v : Vfs σ) (n : NodeSlot) (f : VfsOps σ → Option α) : Option α :=
  (v.nodes n).mount.bind fun m => (v.mounts m).ops.bind f

/-- The node is on a mount that is `readonly`. -/
def onReadonly (v : Vfs σ) (n : NodeSlot) : Bool :=
  ((v.nodes n).mount.map fun m => (v.mounts m).readonly).getD false

/-- A directory callback that only answers with a result code. -/
def callOn (v : Vfs σ) (n : NodeSlot) (f : Node → σ → Int × σ) : Int × Vfs σ :=
  let r := f (v.nodes n) v.fs
  (r.1, v.setFs r.2)

/-- A file callback that may change the node it is given. -/
def callInfo (v : Vfs σ) (n : NodeSlot) (f : Node → σ → Int × NodeInfo × σ) : Int × Vfs σ :=
  let r := f (v.nodes n) v.fs
  (r.1, v.setInfo n r.2.1 r.2.2)

/-- A file callback that the filesystem may lack: then it counts as a success. -/
def callIfPresent (v : Vfs σ) (n : NodeSlot) :
    Option (Node → σ → Int × NodeInfo × σ) → Int × Vfs σ
  | none => (vfsOk, v)
  | some f => v.callInfo n f

end Vfs

open Vfs

/-! ## Filesystem types -/

/-- `vfs_register_fs`; `vfs_strncpy` cuts the name at 31 bytes. -/
def vfsRegisterFs (v : Vfs σ) (name : Str) (ops : VfsOps σ) : Int × Vfs σ :=
  if v.fsTypes.any fun t => t.name == name then (errExist, v)
  else if v.fstypeCount ≥ 16 then (errNoMem, v)
  else (vfsOk, { v with
    fsTypes := ⟨name.take 31, ops⟩ :: v.fsTypes
    fstypeCount := v.fstypeCount + 1 })

/-- `vfs_unregister_fs`. -/
def vfsUnregisterFs (v : Vfs σ) (name : Str) : Int × Vfs σ :=
  if v.fsTypes.any fun t => t.name == name then
    (vfsOk, { v with fsTypes := v.fsTypes.eraseP fun t => t.name == name })
  else (errNoEnt, v)

/-- `vfs_find_fstype`. -/
def vfsFindFstype (v : Vfs σ) (name : Str) : Option (FsType σ) :=
  v.fsTypes.find? fun t => t.name == name

/-! ## Mount management -/

/-- The slots below `vfs_mount_count`, in the order of the scans. -/
def scannedMounts (v : Vfs σ) : List MountSlot :=
  (List.finRange 64).filter fun m => m.val < v.mountCount.toNat

/-- One round of the search of `vfs_get_mount`, which keeps the best length and its mount. -/
def betterMount (v : Vfs σ) (normalized : Str) (best : Nat × Option MountSlot) (m : MountSlot) :
    Nat × Option MountSlot :=
  if (v.mounts m).active && matchesText (v.mounts m).path normalized &&
      (v.mounts m).path.length > best.1 then ((v.mounts m).path.length, some m)
  else best

/-- `vfs_get_mount`. -/
def vfsGetMount (v : Vfs σ) (path : Str) : Option MountSlot :=
  match vfsNormalizePath path with
  | none => none
  | some normalized => ((scannedMounts v).foldl (betterMount v normalized) (0, none)).2

/-- The last lines of `vfs_mount`. -/
def countMount (v : Vfs σ) (m : MountSlot) (normalized : Str) : Vfs σ :=
  let v := v.setMountCount (v.mountCount + 1)
  if normalized = [slash] then v.setRootMount (some m) else v

/-- The root node that a filesystem's `mount` makes, if it makes one. -/
def makeRoot (v : Vfs σ) (m : MountSlot) : Option NodeInfo → Option NodeSlot × Vfs σ
  | none => (none, v)
  | some info => v.allocNode (some m) info

/-- `vfs_mount` from the answer of the filesystem's `mount` on. -/
def mountAnswered (v : Vfs σ) (m : MountSlot) (normalized : Str) (ops : VfsOps σ) (a : MountAnswer σ) : Int × Vfs σ :=
  let v := v.setFs a.state
  if a.result ≠ vfsOk then
    (a.result, (v.setMount m
      { path := normalized, ops := some ops, readonly := a.readonly, active := false }).setError
        a.result)
  else
    let r := makeRoot v m a.root
    (vfsOk, countMount (r.2.setMount m
      { path := normalized, root := r.1, ops := some ops, readonly := a.readonly, active := true })
        m normalized)

/-- `vfs_mount` once the slot is chosen: fill it, call the filesystem, count it. -/
def mountAt (v : Vfs σ) (m : MountSlot) (normalized : Str) (ops : VfsOps σ) (device : UInt64) :
    Int × Vfs σ :=
  match ops.mount with
  | none =>
    (vfsOk, countMount (v.setMount m { path := normalized, ops := some ops, active := true })
      m normalized)
  | some f =>
    mountAnswered v m normalized ops
      (f m normalized device (firstSlot fun n => !v.nodeUsed n).isSome v.fs)

/-- `vfs_mount`. -/
def vfsMount (v : Vfs σ) (path type : Str) (device : UInt64) : Int × Vfs σ :=
  match vfsNormalizePath path with
  | none => (errNameTooLong, v.setError errNameTooLong)
  | some normalized =>
    match vfsFindFstype v type with
    | none => (errNoEnt, v.setError errNoEnt)
    | some fstype =>
      if (scannedMounts v).any fun m => (v.mounts m).active && (v.mounts m).path == normalized then
        (errBusy, v.setError errBusy)
      else
        match firstSlot fun m => !(v.mounts m).active with
        | none => (errNoMem, v.setError errNoMem)
        | some m => mountAt v m normalized fstype.ops device

/-- The mount that `vfs_unmount` finds at a normalised path: here every slot is scanned. -/
def mountAtPath (v : Vfs σ) (normalized : Str) : Option MountSlot :=
  firstSlot fun m => (v.mounts m).active && (v.mounts m).path == normalized

/-- Some open file is on the mount. -/
def hasOpenFile (v : Vfs σ) (m : MountSlot) : Bool :=
  (firstSlot fun f => (v.openFiles f).inUse &&
    (v.openFiles f).node.any fun n => (v.nodes n).mount == some m).isSome

/-- What the filesystem's `unmount` answers; without one nothing happens. -/
def unmountAnswer (v : Vfs σ) (m : MountSlot) : UnmountAnswer σ :=
  match (v.mounts m).ops.bind VfsOps.unmount with
  | none => ⟨vfsOk, false, v.fs⟩
  | some f => f m v.fs

/-- The end of `vfs_unmount`, once the filesystem has agreed: `freesRoot` says whether it gave
the root node back. -/
def teardown (v : Vfs σ) (m : MountSlot) (freesRoot : Bool) : Vfs σ :=
  let mount := v.mounts m
  let root := if freesRoot then none else mount.root
  let v := if freesRoot then mount.root.elim v v.freeNode else v
  let v := if v.rootMount = some m then v.setRootMount none else v
  (v.setMount m { mount with root := root, active := false }).setMountCount (v.mountCount - 1)

/-- `vfs_unmount`.  It looks at the open files of the mount and not at its open directories. -/
def vfsUnmount (v : Vfs σ) (path : Str) : Int × Vfs σ :=
  match vfsNormalizePath path with
  | none => (errNameTooLong, v.setError errNameTooLong)
  | some normalized =>
    match mountAtPath v normalized with
    | none => (errNoEnt, v.setError errNoEnt)
    | some m =>
      if hasOpenFile v m then (errBusy, v.setError errBusy)
      else
        let a := unmountAnswer v m
        let v := v.setFs a.state
        if a.result ≠ vfsOk then (a.result, v.setError a.result)
        else (vfsOk, teardown v m a.freesRoot)

/-! ## Path resolution -/

/-- The `finddir` of mount `m` on a node, with the pool node it returns. -/
def callFinddir (v : Vfs σ) (m : MountSlot) (dir : NodeSlot) (name : Str) :
    Option NodeSlot × Vfs σ :=
  match (v.mounts m).ops.bind VfsOps.finddir with
  | none => (none, v)
  | some f =>
    let r := f (v.nodes dir) name (firstSlot fun n => !v.nodeUsed n).isSome v.fs
    match r.1 with
    | none => (none, v.setFs r.2)
    | some info => (v.setFs r.2).allocNode (v.nodes dir).mount info

/-- The loop of `vfs_lookup`: one reference is held, on the node reached so far. -/
def walk (m : MountSlot) : List Str → NodeSlot → Vfs σ → Option NodeSlot × Vfs σ
  | [], node, v => (some node, v)
  | c :: cs, node, v =>
    if (v.nodes node).info.type ≠ .directory then (none, (v.unrefNode node).setError errNotDir)
    else
      match callFinddir v m node c with
      | (none, v) => (none, (v.unrefNode node).setError errNoEnt)
      | (some next, v) => walk m cs next (v.unrefNode node)

/-- `vfs_lookup`.  The components are those of what follows the mount's path. -/
def vfsLookup (v : Vfs σ) (path : Str) : Option NodeSlot × Vfs σ :=
  match vfsNormalizePath path with
  | none => (none, v.setError errNameTooLong)
  | some normalized =>
    match vfsGetMount v normalized with
    | none => (none, v.setError errNoEnt)
    | some m =>
      match (v.mounts m).root with
      | none => (none, v.setError errNoEnt)
      | some node =>
        if normalized = [slash] ∨ normalized = (v.mounts m).path then (some node, v.refNode node)
        else
          walk m (components (normalized.drop (v.mounts m).path.length)) node (v.refNode node)

/-! ## File operations -/

/-- The first part of `vfs_open`: find the node, or with `VFS_O_CREAT` make it and find it. -/
def openLookup (v : Vfs σ) (path : Str) (flags : UInt32) : Option NodeSlot × Vfs σ :=
  match vfsLookup v path with
  | (some node, v) => (some node, v)
  | (none, v) =>
    if flags &&& oCreat = 0 then (none, v.setError errNoEnt)
    else
      match vfsLookup v (vfsParentPath path) with
      | (none, v) => (none, v.setError errNoEnt)
      | (some parent, v) =>
        match v.op parent VfsOps.create with
        | none => (none, (v.unrefNode parent).setError errNoSys)
        | some f =>
          let r := v.callOn parent fun node => f node (vfsBasename path) ownerReadWrite
          let v := r.2.unrefNode parent
          if r.1 ≠ vfsOk then (none, v.setError r.1)
          else
            match vfsLookup v path with
            | (some node, v) => (some node, v)
            | (none, v) => (none, v.setError errNoEnt)

/-- The `VFS_O_TRUNC` part of `vfs_open`. -/
def openTruncate (v : Vfs σ) (node : NodeSlot) (flags : UInt32) : Vfs σ :=
  if flags &&& oTrunc ≠ 0 ∧ flags &&& (oWronly ||| oRdwr) ≠ 0 then
    let v := (v.callIfPresent node ((v.op node VfsOps.truncate).map fun f node => f node 0)).2
    v.setInfo node { (v.nodes node).info with size := 0 } v.fs
  else v

/-- The `VFS_O_APPEND` part of `vfs_open`. -/
def openAppend (v : Vfs σ) (file : FileSlot) (node : NodeSlot) (flags : UInt32) : Vfs σ :=
  if flags &&& oAppend ≠ 0 then
    v.setOffset file (v.nodes node).info.size
  else v

/-- The last part of `vfs_open`, with the file slot in hand. -/
def openSlot (v : Vfs σ) (file : FileSlot) (node : NodeSlot) (flags : UInt32) :
    Option FileSlot × Vfs σ :=
  let v := v.setFile file
    { node := some node, offset := 0, flags := flags, refCount := 1, inUse := true }
  let r := v.callIfPresent node ((v.op node VfsOps.openNode).map fun f node => f node flags)
  if r.1 ≠ vfsOk then
    (none, ((r.2.setFile file { r.2.openFiles file with inUse := false }).unrefNode node).setError
      r.1)
  else (some file, openAppend (openTruncate r.2 node flags) file node flags)

/-- `vfs_open`. -/
def vfsOpen (v : Vfs σ) (path : Str) (flags : UInt32) : Option FileSlot × Vfs σ :=
  match openLookup v path flags with
  | (none, v) => (none, v)
  | (some node, v) =>
    if (v.nodes node).info.type = .directory ∧ flags &&& oDirectory = 0 then
      (none, (v.unrefNode node).setError errIsDir)
    else if flags &&& oCreat ≠ 0 ∧ flags &&& oExcl ≠ 0 then
      (none, (v.unrefNode node).setError errExist)
    else
      match firstSlot fun f => !(v.openFiles f).inUse with
      | none => (none, (v.unrefNode node).setError errNFile)
      | some file => openSlot v file node flags

/-- `vfs_close`. -/
def vfsClose (v : Vfs σ) (file : FileSlot) : Int × Vfs σ :=
  if !(v.openFiles file).inUse then (errBadF, v.setError errBadF)
  else if (v.openFiles file).refCount > 1 then
    (vfsOk, v.setFile file
      { v.openFiles file with refCount := (v.openFiles file).refCount - 1 })
  else
    let r := match (v.openFiles file).node with
      | none => (vfsOk, v)
      | some node =>
        let r := v.callIfPresent node (v.op node VfsOps.close)
        (r.1, r.2.unrefNode node)
    (r.1, r.2.setFile file { r.2.openFiles file with inUse := false, node := none })

/-- The end of `vfs_read`, with the size cut at the end of the file. -/
def readNode (v : Vfs σ) (file : FileSlot) (node : NodeSlot) (size : UInt64) : (Int × List UInt8) × Vfs σ :=
  match v.op node VfsOps.read with
  | none => ((errNoSys, []), v.setError errNoSys)
  | some f =>
    let offset := (v.openFiles file).offset
    let r := f (v.nodes node) size offset v.fs
    let v := v.setInfo node r.2.2.1 r.2.2.2
    ((r.1, r.2.1), if r.1 > 0 then v.setOffset file (offset + .ofNat r.1.toNat) else v)

/-- `vfs_read`: the result and the bytes put into the buffer. -/
def vfsRead (v : Vfs σ) (file : FileSlot) (size : UInt64) : (Int × List UInt8) × Vfs σ :=
  if !(v.openFiles file).inUse then ((errInval, []), v.setError errInval)
  else
    match (v.openFiles file).node with
    | none => ((errBadF, []), v.setError errBadF)
    | some node =>
      if (v.openFiles file).flags &&& oRdwr = oWronly then ((errAcces, []), v.setError errAcces)
      else if (v.nodes node).info.type = .directory then ((errIsDir, []), v.setError errIsDir)
      else
        let offset := (v.openFiles file).offset
        let fileSize := (v.nodes node).info.size
        if offset ≥ fileSize then ((0, []), v)
        else
          readNode v file node (if offset + size > fileSize then fileSize - offset else size)

/-- The bookkeeping of `vfs_write` for `written` bytes that went to `offset`. -/
def noteWritten (v : Vfs σ) (file : FileSlot) (node : NodeSlot) (offset : UInt64) (written : Int) :
    Vfs σ :=
  let offset := offset + .ofNat written.toNat
  let info := (v.nodes node).info
  (v.setOffset file offset).setInfo node
    { info with size := if offset > info.size then offset else info.size, dirty := true } v.fs

/-- The end of `vfs_write`, with the offset in place. -/
def writeNode (v : Vfs σ) (file : FileSlot) (node : NodeSlot) (buf : List UInt8) : Int × Vfs σ :=
  match v.op node VfsOps.write with
  | none => (errNoSys, v.setError errNoSys)
  | some f =>
    let offset := (v.openFiles file).offset
    let r := v.callInfo node fun node => f node buf offset
    (r.1, if r.1 > 0 then noteWritten r.2 file node offset r.1 else r.2)

/-- `vfs_write`. -/
def vfsWrite (v : Vfs σ) (file : FileSlot) (buf : List UInt8) : Int × Vfs σ :=
  if !(v.openFiles file).inUse then (errInval, v.setError errInval)
  else
    match (v.openFiles file).node with
    | none => (errBadF, v.setError errBadF)
    | some node =>
      if (v.openFiles file).flags &&& (oWronly ||| oRdwr) = 0 then
        (errAcces, v.setError errAcces)
      else if (v.nodes node).info.type = .directory then (errIsDir, v.setError errIsDir)
      else if v.onReadonly node then (errRoFs, v.setError errRoFs)
      else
        let offset := if (v.openFiles file).flags &&& oAppend ≠ 0 then (v.nodes node).info.size
          else (v.openFiles file).offset
        writeNode (v.setOffset file offset) file node buf

/-- `vfs_seek`. -/
def vfsSeek (v : Vfs σ) (file : FileSlot) (offset : Int64) (whence : Whence) : Int64 × Vfs σ :=
  if !(v.openFiles file).inUse then (.ofInt errBadF, v.setError errBadF)
  else
    match (v.openFiles file).node with
    | none => (.ofInt errBadF, v.setError errBadF)
    | some node =>
      let target : Option Int64 := match whence with
        | .set => some offset
        | .cur => some ((v.openFiles file).offset.toInt64 + offset)
        | .fromEnd => some ((v.nodes node).info.size.toInt64 + offset)
        | .other => none
      match target with
      | none => (.ofInt errInval, v.setError errInval)
      | some target =>
        if target < 0 then (.ofInt errInval, v.setError errInval)
        else (target, v.setOffset file target.toUInt64)

/-- `vfs_truncate`.  It does not look at the flags the file was opened with. -/
def vfsTruncate (v : Vfs σ) (file : FileSlot) (size : UInt64) : Int × Vfs σ :=
  if !(v.openFiles file).inUse then (errBadF, v.setError errBadF)
  else
    match (v.openFiles file).node with
    | none => (errBadF, v.setError errBadF)
    | some node =>
      if v.onReadonly node then (errRoFs, v.setError errRoFs)
      else
        match v.op node VfsOps.truncate with
        | none => (errNoSys, v.setError errNoSys)
        | some f => v.callInfo node fun node => f node size

/-! ## Directory operations -/

/-- `vfs_opendir`. -/
def vfsOpendir (v : Vfs σ) (path : Str) : Option DirSlot × Vfs σ :=
  match vfsLookup v path with
  | (none, v) => (none, v)
  | (some node, v) =>
    if (v.nodes node).info.type ≠ .directory then (none, (v.unrefNode node).setError errNotDir)
    else
      match firstSlot fun d => !(v.openDirs d).inUse with
      | none => (none, (v.unrefNode node).setError errNFile)
      | some dir => (some dir, v.setDir dir { node := some node, position := 0, inUse := true })

/-- `vfs_readdir`. -/
def vfsReaddir (v : Vfs σ) (dir : DirSlot) : Option Dirent × Vfs σ :=
  if !(v.openDirs dir).inUse then (none, v.setError errBadF)
  else
    match (v.openDirs dir).node with
    | none => (none, v.setError errBadF)
    | some node =>
      match v.op node VfsOps.readdir with
      | none => (none, v.setError errNoSys)
      | some f =>
        let r := f (v.nodes node) (v.openDirs dir).position v.fs
        let v := v.setFs r.2
        match r.1 with
        | none => (none, v)
        | some entry =>
          (some entry, v.setDir dir
            { v.openDirs dir with position := (v.openDirs dir).position + 1 })

/-- `vfs_closedir`. -/
def vfsClosedir (v : Vfs σ) (dir : DirSlot) : Int × Vfs σ :=
  if !(v.openDirs dir).inUse then (errBadF, v.setError errBadF)
  else
    let v' := match (v.openDirs dir).node with
      | none => v
      | some node => v.unrefNode node
    (vfsOk, v'.setDir dir { v'.openDirs dir with inUse := false, node := none })

/-- What `vfs_mkdir`, `vfs_create`, `vfs_rmdir` and `vfs_unlink` do with the parent directory of
their path: find it, check it, call the filesystem on it and let it go.  The first two also
check that it is a directory. -/
def inParent (v : Vfs σ) (path : Str) (checkDir : Bool)
    (op : VfsOps σ → Option (Node → Str → σ → Int × σ)) : Int × Vfs σ :=
  match vfsLookup v (vfsParentPath path) with
  | (none, v) => (errNoEnt, v.setError errNoEnt)
  | (some parent, v) =>
    if checkDir ∧ (v.nodes parent).info.type ≠ .directory then
      (errNotDir, (v.unrefNode parent).setError errNotDir)
    else
      match v.op parent op with
      | none => (errNoSys, (v.unrefNode parent).setError errNoSys)
      | some f =>
        if v.onReadonly parent then (errRoFs, (v.unrefNode parent).setError errRoFs)
        else
          let r := v.callOn parent fun node => f node (vfsBasename path)
          (r.1, r.2.unrefNode parent)

/-- What `vfs_mkdir` and `vfs_create` do: nothing if the path resolves.  The node that the lookup
then returned is not released. -/
def makeAt (v : Vfs σ) (path : Str) (op : VfsOps σ → Option (Node → Str → σ → Int × σ)) :
    Int × Vfs σ :=
  match vfsLookup v path with
  | (some _, v) => (errExist, v.setError errExist)
  | (none, v) => inParent v path true op

/-- `vfs_mkdir`. -/
def vfsMkdir (v : Vfs σ) (path : Str) (mode : UInt32) : Int × Vfs σ :=
  makeAt v path fun ops => ops.mkdir.map fun f node name => f node name mode

/-- `vfs_rmdir`. -/
def vfsRmdir (v : Vfs σ) (path : Str) : Int × Vfs σ :=
  if path = [slash] then (errBusy, v.setError errBusy)
  else inParent v path false VfsOps.rmdir

/-! ## Path operations -/

/-- `vfs_create`. -/
def vfsCreate (v : Vfs σ) (path : Str) (mode : UInt32) : Int × Vfs σ :=
  makeAt v path fun ops => ops.create.map fun f node name => f node name mode

/-- `vfs_unlink`. -/
def vfsUnlink (v : Vfs σ) (path : Str) : Int × Vfs σ :=
  match vfsLookup v path with
  | (none, v) => (errNoEnt, v.setError errNoEnt)
  | (some node, v) =>
    if (v.nodes node).info.type = .directory then
      (errIsDir, (v.unrefNode node).setError errIsDir)
    else inParent (v.unrefNode node) path false VfsOps.unlink

/-- The end of `vfs_rename`, with both parents in hand. -/
def renameBetween (v : Vfs σ) (oldParent newParent : NodeSlot) (oldName newName : Str) :
    Int × Vfs σ :=
  let release (v : Vfs σ) : Vfs σ := (v.unrefNode oldParent).unrefNode newParent
  if (v.nodes oldParent).mount ≠ (v.nodes newParent).mount then
    (errInval, (release v).setError errInval)
  else
    match v.op oldParent VfsOps.rename with
    | none => (errNoSys, (release v).setError errNoSys)
    | some f =>
      if v.onReadonly oldParent then (errRoFs, (release v).setError errRoFs)
      else
        let r := v.callOn oldParent fun node => f node oldName (v.nodes newParent) newName
        (r.1, release r.2)

/-- `vfs_rename`. -/
def vfsRename (v : Vfs σ) (oldpath newpath : Str) : Int × Vfs σ :=
  match vfsLookup v (vfsParentPath oldpath) with
  | (none, v) => (errNoEnt, v.setError errNoEnt)
  | (some oldParent, v) =>
    match vfsLookup v (vfsParentPath newpath) with
    | (none, v) => (errNoEnt, (v.unrefNode oldParent).setError errNoEnt)
    | (some newParent, v) =>
      renameBetween v oldParent newParent (vfsBasename oldpath) (vfsBasename newpath)

/-- The answer of `vfs_stat` when the filesystem has no `stat`. -/
def statOfNode (info : NodeInfo) : Stat where
  ino := info.inode
  mode := info.permissions
  nlink := info.nlink
  uid := info.uid
  gid := info.gid
  size := info.size
  atime := info.atime
  mtime := info.mtime
  ctime := info.ctime
  type := info.type

/-- `vfs_stat`: the result and what it put into the caller's structure. -/
def vfsStat (v : Vfs σ) (path : Str) : (Int × Option Stat) × Vfs σ :=
  match vfsLookup v path with
  | (none, v) => ((errNoEnt, none), v)
  | (some node, v) =>
    let r := match v.op node VfsOps.stat with
      | none => ((vfsOk, some (statOfNode (v.nodes node).info)), v)
      | some f =>
        let r := f (v.nodes node) v.fs
        ((r.1, some r.2.1), v.setFs r.2.2)
    (r.1, r.2.unrefNode node)

/-- What `vfs_exists`, `vfs_is_directory` and `vfs_is_file` share: a question about the node. -/
def askNode (v : Vfs σ) (path : Str) (q : NodeType → Bool) : Bool × Vfs σ :=
  match vfsLookup v path with
  | (none, v) => (false, v)
  | (some node, v) => (q (v.nodes node).info.type, v.unrefNode node)

/-- `vfs_exists`. -/
def vfsExists (v : Vfs σ) (path : Str) : Bool × Vfs σ := askNode v path fun _ => true

/-- `vfs_is_directory`. -/
def vfsIsDirectory (v : Vfs σ) (path : Str) : Bool × Vfs σ := askNode v path (· == .directory)

/-- `vfs_is_file`. -/
def vfsIsFile (v : Vfs σ) (path : Str) : Bool × Vfs σ := askNode v path (· == .file)

end

end AAAos
