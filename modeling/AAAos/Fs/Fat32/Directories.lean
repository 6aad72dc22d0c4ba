import AAAos.Fs.Fat32.FileData

/-!
# Going through FAT32 directories

The lookup of a path, and the two ways of listing a directory: entry by entry, for `readdir`, and all at once.

A directory is the 32-byte slots of its clusters, one after another (`View.slots`).  A slot is the end of the directory,
or is passed over (deleted, part of a long name, or a volume label), or is live.  Every routine here looks at one
cluster after another until something in a cluster makes it stop (`scanDir`); `WalkEnds` says that this happens, and
that is when such a loop ends (`walk_hangs`, `wp_walk`).
-/

namespace AAAos

open FatProg

/-! ## Paths -/

/-- `'/'` and `'\\'`. -/
def isPathSeparator (c : UInt8) : Bool := c == slash || c == 0x5C

/-- `fat32_path_next_component`, with a buffer of `FAT32_MAX_NAME + 1` bytes: the component, and the rest. -/
def fat32PathNextComponent (path : Str) : Option (Str × Str) :=
  let path := path.dropWhile isPathSeparator
  if path = [] then none
  else
    let component := (path.takeWhile fun c => !isPathSeparator c).take 255
    some (component, path.drop component.length)

/-- The entry that stands for the root directory. -/
def rootDirEntry (v : Volume) : Mem :=
  fat32EntrySetCluster (fun j => if j = 11 then attrDirectory else 0) 0 v.rootCluster

/-- The loop of `fat32_lookup`.  `component` and `entry` are what the variables hold before the round.  Each round takes
at least one byte of the path, so as many rounds as it has bytes, and one more, are enough. -/
def lookupComponents (v : Volume) (fuel : Nat) : Nat → Str → Nat → Str → Mem → FatProg (Except Int (Mem × Nat))
  | 0, _, cluster, _, entry => pure (.ok (entry, cluster))
  | rounds + 1, remaining, cluster, component, entry =>
    match fat32PathNextComponent remaining with
    | none =>
      if component = [] then pure (.ok (entry, cluster))
      else do
        match ← fat32FindEntryInDir v fuel cluster component with
        | .error e => pure (.error e)
        | .ok (entry, _) => pure (.ok (entry, fat32EntryCluster entry 0))
    | some (component, remaining) => do
      match ← fat32FindEntryInDir v fuel cluster component with
      | .error e => pure (.error e)
      | .ok (entry, _) =>
        let next := remaining.dropWhile isPathSeparator
        if next = [] then pure (.ok (entry, fat32EntryCluster entry 0))
        else if entryAttr entry 0 &&& attrDirectory = 0 then pure (.error errNotDir)
        else lookupComponents v fuel rounds next (fat32EntryCluster entry 0) [] entry

/-- `fat32_lookup`: the entry and its first cluster.  `component` and `entry` are the contents of its local variables,
which it does not initialize. -/
def fat32Lookup (v : Volume) (fuel : Nat) (component : Str) (entry : Mem) (path : Str) :
    FatProg (Except Int (Mem × Nat)) :=
  if path = [slash] ∨ path = [0x5C] then pure (.ok (rootDirEntry v, v.rootCluster))
  else lookupComponents v fuel (path.length + 1) path v.rootCluster component entry

/-! ## Slots -/

/-- The slot of an entry. -/
def slotAt (buf : Mem) (i : Nat) : Mem := slice buf (direntSize * i) direntSize

/-- The end of the directory. -/
def SlotEnd (slot : Mem) : Prop := slot 0 = direntEnd

/-- The slot has been deleted, or belongs to a long name, or is a volume label. -/
def SlotSkipped (slot : Mem) : Prop :=
  slot 0 = direntFree ∨ entryAttr slot 0 &&& attrLongNameMask = attrLongName ∨ entryAttr slot 0 &&& attrVolumeId ≠ 0

instance (slot : Mem) : Decidable (SlotEnd slot) := inferInstanceAs (Decidable (_ = _))

instance (slot : Mem) : Decidable (SlotSkipped slot) := inferInstanceAs (Decidable (_ ∨ _ ∨ _))

/-- One round of the loop of `fat32_read_dir_entry`. -/
def readVerdict (buf : Mem) (i : Nat) : Option DirScan :=
  if SlotEnd (slotAt buf i) then some .ended
  else if SlotSkipped (slotAt buf i) then none
  else some (.found i)

/-- The entries in `n` slots from slot `i` on, up to the end of the directory, and whether that is among them. -/
def liveEntries (buf : Mem) : Nat → Nat → List Mem × Bool
  | 0, _ => ([], false)
  | n + 1, i =>
    if SlotEnd (slotAt buf i) then ([], true)
    else if SlotSkipped (slotAt buf i) then liveEntries buf n (i + 1)
    else (slotAt buf i :: (liveEntries buf n (i + 1)).1, (liveEntries buf n (i + 1)).2)

/-! ## One entry after another -/

/-- The loop of `fat32_read_dir_entry` that skips clusters: the cluster, and the index in it. -/
def readDirSkip (v : Volume) (index : Nat) (s : Nat × Nat) : FatProg ((Nat × Nat) ⊕ Option (Nat × Nat)) :=
  if u32 (s.2 + entriesPerCluster v) ≤ index then
    if fat32ClusterIsValid v s.1 then do
      let next ← fat32NextCluster v s.1
      pure (.inl (next, u32 (s.2 + entriesPerCluster v)))
    else pure (.inr none)
  else pure (.inr (some (s.1, u32 (index + 2 ^ 32 - s.2))))

/-- The rest of `fat32_read_dir_entry`, which calls itself on the next cluster with index 0.  `fat32_read_cluster`
refuses what is no cluster. -/
def readDirRound (v : Volume) (s : Nat × Nat) : FatProg ((Nat × Nat) ⊕ Except Int (Mem × Str)) :=
  if fat32ClusterIsValid v s.1 then do
    match ← readCluster s.1 with
    | .error e => pure (.inr (.error e))
    | .ok buf =>
      match scanDir (readVerdict buf) (entriesPerCluster v - s.2) s.2 with
      | .found i => pure (.inr (.ok (slotAt buf i, fat32FormatShortName (slotAt buf i) 0)))
      | .ended => pure (.inr (.error errNoEnt))
      | .exhausted => do
        let next ← fat32NextCluster v s.1
        pure (if fat32ClusterIsValid v next then .inl (next, 0) else .inr (.error errNoEnt))
  else pure (.inr (.error errInval))

/-- `fat32_read_dir_entry`: the entry and its name. -/
def fat32ReadDirEntry (v : Volume) (fuel dirCluster index : Nat) : FatProg (Except Int (Mem × Str)) := do
  match ← Prog.loop (readDirSkip v index) fuel (dirCluster, 0) with
  | none => pure (.error errNoEnt)
  | some s => Prog.loop (readDirRound v) fuel s

/-- The names `"."` and `".."`. -/
def isDotName (name : Str) : Bool := name == [0x2E] || name == [0x2E, 0x2E]

/-- The `vfs_dirent_t` of an entry. -/
def direntOf (entry : Mem) (name : Str) : Dirent where
  ino := UInt64.ofNat (fat32EntryCluster entry 0)
  type := if entryAttr entry 0 &&& attrDirectory ≠ 0 then .directory else .file
  name := name.take 255

/-- One round of the loop of `fat32_vfs_readdir`. -/
def readdirRound (v : Volume) (fuel firstCluster index : Nat) : FatProg (Nat ⊕ Option Dirent) := do
  match ← fat32ReadDirEntry v fuel firstCluster index with
  | .error _ => pure (.inr none)
  | .ok (entry, name) => pure (if isDotName name then .inl (u32 (index + 1)) else .inr (some (direntOf entry name)))

/-- `fat32_vfs_readdir`, of a directory whose first cluster is known. -/
def fat32VfsReaddir (v : Volume) (fuel firstCluster index : Nat) : FatProg (Option Dirent) :=
  Prog.loop (readdirRound v fuel firstCluster) fuel index

/-! ## All entries at once -/

/-- One round of the loop of `fat32_list_dir` that counts. -/
def countRound (v : Volume) (s : Nat × Nat) : FatProg ((Nat × Nat) ⊕ Option Nat) :=
  if fat32ClusterIsValid v s.1 then do
    match ← readCluster s.1 with
    | .error _ => pure (.inr none)
    | .ok buf =>
      let live := liveEntries buf (entriesPerCluster v) 0
      let count := u32 (s.2 + live.1.length)
      if live.2 then pure (.inr (some count))
      else do
        let next ← fat32NextCluster v s.1
        pure (.inl (next, count))
  else pure (.inr (some s.2))

/-- One round of the loop that copies, up to `count` entries. -/
def copyRound (v : Volume) (count : Nat) (s : Nat × List Mem) : FatProg ((Nat × List Mem) ⊕ Option (List Mem)) :=
  if fat32ClusterIsValid v s.1 ∧ s.2.length < count then do
    match ← readCluster s.1 with
    | .error _ => pure (.inr none)
    | .ok buf =>
      let live := liveEntries buf (entriesPerCluster v) 0
      let array := s.2 ++ live.1.take (count - s.2.length)
      -- the end is only seen while there is room
      if live.2 ∧ array.length < count then pure (.inr (some array))
      else do
        let next ← fat32NextCluster v s.1
        pure (.inl (next, array))
  else pure (.inr (some s.2))

/-- `fat32_list_dir`, once the directory is found: the array, up to its end mark.  `pages` says whether there are pages
for an array of so many entries. -/
def listCluster (v : Volume) (fuel : Nat) (pages : Nat → Bool) (dirCluster : Nat) : FatProg (Option (List Mem)) := do
  match ← Prog.loop (countRound v) fuel (dirCluster, 0) with
  | none => pure none
  | some count =>
    if pages (u32 (count + 1)) then Prog.loop (copyRound v count) fuel (dirCluster, []) else pure none

/-- `fat32_list_dir`. -/
def fat32ListDir (v : Volume) (fuel : Nat) (pages : Nat → Bool) (component : Str) (entry : Mem) (path : Str) :
    FatProg (Option (List Mem)) := do
  match ← fat32Lookup v fuel component entry path with
  | .error _ => pure none
  | .ok (entry, cluster) =>
    if entryAttr entry 0 &&& attrDirectory = 0 then pure none else listCluster v fuel pages cluster

end AAAos
