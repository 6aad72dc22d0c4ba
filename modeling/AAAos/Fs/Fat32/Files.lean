import AAAos.Fs.Fat32.Fat32
import AAAos.Lib.Prog
import Mathlib.Data.List.DropRight

/-!
# The FAT32 driver: chains, directories, files

The rest of `fs/fat32/fat32.c`: cluster chains, 8.3 names, directory entries, and the contents of
files.  These functions touch the volume only through the FAT cache, through whole clusters, and
through the FSInfo fields, so they are programs over these calls (`FatCall`), and `fatMachine` runs
them on the driver's state.

Loops that follow a chain or search the FAT end only if what is on disk lets them; they have a bound
`fuel` and hang when it is reached.  Loops over the bytes of a buffer or over a known number of
clusters are recursions.

A directory entry is 32 bytes of a buffer.  `fat32_create_entry` clears as many bytes behind the
cluster buffer as it has; that is not seen here, as the buffer is a value.
-/

namespace AAAos

/-! ## Constants -/

/-- `FAT32_ATTR_DIRECTORY`. -/
def attrDirectory : UInt8 := 0x10

/-- `FAT32_ATTR_VOLUME_ID`. -/
def attrVolumeId : UInt8 := 0x08

/-- `FAT32_ATTR_ARCHIVE`. -/
def attrArchive : UInt8 := 0x20

/-- `FAT32_ATTR_LONG_NAME`. -/
def attrLongName : UInt8 := 0x0F

/-- `FAT32_ATTR_LONG_NAME_MASK`. -/
def attrLongNameMask : UInt8 := 0x3F

/-- `FAT32_DIRENT_FREE`. -/
def direntFree : UInt8 := 0xE5

/-- `FAT32_DIRENT_END`. -/
def direntEnd : UInt8 := 0

/-- `sizeof(fat32_dir_entry_t)`. -/
def direntSize : Nat := 32

/-! ## The calls -/

/-- What the driver does to its volume. -/
inductive FatCall
  | readFat (cluster : Nat)
  | writeFat (cluster value : Nat)
  | readCluster (cluster : Nat)
  | writeCluster (cluster : Nat) (buf : Mem)
  | getInfo
  | setInfo (info : FsInfo)

def FatCall.Reply : FatCall → Type
  | readFat _ => Nat
  | writeFat _ _ => Int
  | readCluster _ => Except Int Mem
  | writeCluster _ _ => Int
  | getInfo => FsInfo
  | setInfo _ => Unit

def fatInterface : Interface := ⟨FatCall, FatCall.Reply⟩

abbrev FatProg := Prog fatInterface

/-- The calls on the driver's state. -/
def fatMachine : Machine fatInterface Fat32Fs := fun c fs =>
  match c with
  | .readFat cluster => fat32ReadFatEntry fs cluster
  | .writeFat cluster value => fat32WriteFatEntry fs cluster value
  | .readCluster cluster => (fat32ReadCluster fs cluster, fs)
  | .writeCluster cluster buf => fat32WriteCluster fs cluster buf
  | .getInfo => (fs.info, fs)
  | .setInfo info => ((), { fs with info := info })

namespace FatProg

def readFat (cluster : Nat) : FatProg Nat := Prog.issue (I := fatInterface) (.readFat cluster)

def writeFat (cluster value : Nat) : FatProg Int :=
  Prog.issue (I := fatInterface) (.writeFat cluster value)

def readCluster (cluster : Nat) : FatProg (Except Int Mem) :=
  Prog.issue (I := fatInterface) (.readCluster cluster)

def writeCluster (cluster : Nat) (buf : Mem) : FatProg Int :=
  Prog.issue (I := fatInterface) (.writeCluster cluster buf)

def getInfo : FatProg FsInfo := Prog.issue (I := fatInterface) .getInfo

def setInfo (info : FsInfo) : FatProg Unit := Prog.issue (I := fatInterface) (.setInfo info)

end FatProg

open FatProg

/-! ## Cluster chains -/

/-- `fat32_next_cluster`. -/
def fat32NextCluster (v : Volume) (cluster : Nat) : FatProg Nat :=
  if fat32ClusterIsValid v cluster then readFat cluster else pure clusterEof

/-- `fat32_set_cluster`. -/
def fat32SetCluster (cluster value : Nat) : FatProg Int := writeFat cluster value

/-- `fat32_alloc_cluster` has found a free cluster. -/
def takeCluster (cluster : Nat) : FatProg Nat := do
  let result ← writeFat cluster clusterEof
  if result ≠ 0 then pure 0
  else do
    let info ← getInfo
    let free :=
      if info.freeClusters ≠ freeUnknown ∧ 0 < info.freeClusters then info.freeClusters - 1
      else info.freeClusters
    setInfo ⟨free, u32 (cluster + 1), true⟩
    pure cluster

/-- `fat32_alloc_cluster`; `0` when there is none. -/
def fat32AllocCluster (v : Volume) (fuel : Nat) : FatProg Nat :=
  if v.readonly then pure 0
  else do
    let info ← getInfo
    let start :=
      if info.nextFreeCluster < firstDataCluster then firstDataCluster else info.nextFreeCluster
    Prog.loop (fun cluster => do
      let entry ← readFat cluster
      if entry = clusterFree then Sum.inr <$> takeCluster cluster
      else
        let next := u32 (cluster + 1)
        let next :=
          if u32 (firstDataCluster + v.totalClusters) ≤ next then firstDataCluster else next
        pure (if next = start then .inr 0 else .inl next)) fuel start

/-- The loop of `fat32_free_chain`: an error, or the number of clusters freed. -/
def freeChainLoop (v : Volume) (fuel start : Nat) : FatProg (Except Int Nat) :=
  Prog.loop (fun (cluster, count) =>
    if fat32ClusterIsValid v cluster then do
      let next ← readFat cluster
      let result ← writeFat cluster clusterFree
      if result ≠ 0 then pure (.inr (.error result))
      else pure (if fat32IsEof next then .inr (.ok (count + 1)) else .inl (next, count + 1))
    else pure (.inr (.ok count))) fuel (start, 0)

/-- `fat32_free_chain`. -/
def fat32FreeChain (v : Volume) (fuel startCluster : Nat) : FatProg Int :=
  if v.readonly then pure errRoFs
  else do
    match ← freeChainLoop v fuel startCluster with
    | .error e => pure e
    | .ok count => do
      let info ← getInfo
      let free :=
        if info.freeClusters ≠ freeUnknown then u32 (info.freeClusters + count)
        else info.freeClusters
      setInfo { info with freeClusters := free, dirty := true }
      pure 0

/-! ## Short names -/

/-- `fat32_toupper`. -/
def fat32Toupper (c : UInt8) : UInt8 := if 0x61 ≤ c ∧ c ≤ 0x7A then c - 32 else c

/-- The characters `fat32_to_short_name` keeps: capital letters, digits, and punctuation. -/
def validShortChar (c : UInt8) : Bool :=
  (0x41 ≤ c && c ≤ 0x5A) || (0x30 ≤ c && c ≤ 0x39) ||
    [0x21, 0x23, 0x24, 0x25, 0x26, 0x27, 0x28, 0x29, 0x2D, 0x40, 0x5E, 0x5F, 0x60, 0x7B, 0x7D, 0x7E].contains c

/-- A part of a short name: at most `n` of its characters, filled up with spaces. -/
def shortPart (s : Str) (n : Nat) : Str :=
  let kept := ((s.map fat32Toupper).filter validShortChar).take n
  kept ++ List.replicate (n - kept.length) 0x20

/-- `fat32_to_short_name`: the eleven bytes. -/
def fat32ToShortName (name : Str) : Str :=
  match (List.range name.length).reverse.find? fun i => name[i]? = some 0x2E with
  | some dot => shortPart (name.take dot) 8 ++ shortPart (name.drop (dot + 1)) 3
  | none => shortPart name 8 ++ List.replicate 3 0x20

/-- The bytes `a` to `a + n` of a buffer. -/
def bytesAt (buf : Mem) (a n : Nat) : List UInt8 := (List.range n).map fun j => buf (a + j)

/-- `fat32_format_short_name` of the entry at `a`, as the C string it leaves. -/
def fat32FormatShortName (buf : Mem) (a : Nat) : Str :=
  let name := (bytesAt buf a 8).rdropWhile (· = 0x20)
  let ext := (bytesAt buf (a + 8) 3).rdropWhile (· = 0x20)
  (name ++ if ext = [] then [] else 0x2E :: ext).takeWhile (· ≠ 0)

/-- `fat32_strcmp_83(name, entry) == 0`. -/
def fat32Strcmp83 (name : Str) (buf : Mem) (a : Nat) : Bool :=
  name.map fat32Toupper == (fat32FormatShortName buf a).map fat32Toupper

/-! ## Directory entries -/

/-- `fat32_entry_cluster` of the entry at `a`. -/
def fat32EntryCluster (buf : Mem) (a : Nat) : Nat :=
  readLE buf (a + 20) 2 * 2 ^ 16 + readLE buf (a + 26) 2

/-- `fat32_entry_set_cluster`. -/
def fat32EntrySetCluster (buf : Mem) (a cluster : Nat) : Mem :=
  writeLE (writeLE buf (a + 20) 2 (cluster / 2 ^ 16)) (a + 26) 2 cluster

/-- `file_size`. -/
def entryFileSize (entry : Mem) : Nat := readLE entry 28 4

def setEntryFileSize (entry : Mem) (size : Nat) : Mem := writeLE entry 28 4 size

/-- `attr` of the entry at `a`. -/
def entryAttr (buf : Mem) (a : Nat) : UInt8 := buf (a + 11)

/-- A new entry: the names, the attributes, and zeros. -/
def newEntry (shortName : Str) (attr : UInt8) : Mem := fun j =>
  if j < 11 then shortName.getD j 0 else if j = 11 then attr else 0

/-- What the search through one cluster of a directory comes to. -/
inductive DirScan
  | found (i : Nat)
  | ended
  | exhausted

/-- The loop over the entries of a cluster, `n` of them from entry `i` on. -/
def scanDir (verdict : Nat → Option DirScan) : Nat → Nat → DirScan
  | 0, _ => .exhausted
  | n + 1, i =>
    match verdict i with
    | some r => r
    | none => scanDir verdict n (i + 1)

/-- `entries_per_cluster`. -/
def entriesPerCluster (v : Volume) : Nat := v.bytesPerCluster / direntSize

/-- One round of the loop of `fat32_find_entry_in_dir`. -/
def findVerdict (name : Str) (buf : Mem) (i : Nat) : Option DirScan :=
  let a := direntSize * i
  if buf a = direntEnd then some .ended
  else if buf a = direntFree then none
  else if entryAttr buf a &&& attrLongNameMask = attrLongName ∨
      entryAttr buf a &&& attrVolumeId ≠ 0 then none
  else if fat32Strcmp83 name buf a then some (.found i)
  else none

/-- `fat32_find_entry_in_dir`: the entry and its index. -/
def fat32FindEntryInDir (v : Volume) (fuel dirCluster : Nat) (name : Str) :
    FatProg (Except Int (Mem × Nat)) :=
  Prog.loop (fun (cluster, index) =>
    if fat32ClusterIsValid v cluster then do
      match ← readCluster cluster with
      | .error e => pure (.inr (.error e))
      | .ok buf =>
        match scanDir (findVerdict name buf) (entriesPerCluster v) 0 with
        | .found i =>
          pure (.inr (.ok (slice buf (direntSize * i) direntSize, u32 (index + i))))
        | .ended => pure (.inr (.error errNoEnt))
        | .exhausted => do
          let next ← fat32NextCluster v cluster
          pure (.inl (next, u32 (index + entriesPerCluster v)))
    else pure (.inr (.error errNoEnt))) fuel (dirCluster, 0)

/-- One round of the loop of `fat32_create_entry`: a slot that is free. -/
def freeVerdict (buf : Mem) (i : Nat) : Option DirScan :=
  if buf (direntSize * i) = direntEnd ∨ buf (direntSize * i) = direntFree then some (.found i)
  else none

/-- The `.` and `..` entries of a new directory. -/
def dotEntries (newCluster parentCluster : Nat) : Mem :=
  let dot := fat32EntrySetCluster (newEntry (0x2E :: List.replicate 10 0x20) attrDirectory) 0
    newCluster
  let dotdot := fat32EntrySetCluster
    (newEntry (0x2E :: 0x2E :: List.replicate 9 0x20) attrDirectory) 0 parentCluster
  paste (paste (fun _ => 0) 0 direntSize dot) direntSize direntSize dotdot

/-- `fat32_create_entry` in slot `i` of a cluster it has read. -/
def createInSlot (v : Volume) (fuel parentCluster : Nat) (shortName : Str) (attr : UInt8)
    (cluster : Nat) (buf : Mem) (i : Nat) : FatProg (Except Int Mem) := do
  let a := direntSize * i
  let entry := newEntry shortName attr
  if attr &&& attrDirectory ≠ 0 then do
    let newCluster ← fat32AllocCluster v fuel
    if newCluster = 0 then pure (.error errNoSpc)
    else do
      let entry := fat32EntrySetCluster entry 0 newCluster
      let result ← writeCluster cluster (paste buf a direntSize entry)
      if result ≠ 0 then pure (.error result)
      else do
        let dirBuf := dotEntries newCluster parentCluster
        let result ← writeCluster newCluster dirBuf
        if result ≠ 0 then pure (.error result)
        else do
          -- a failed read leaves the buffer as it is
          match ← readCluster cluster with
          | .error _ => pure (.ok (slice dirBuf a direntSize))
          | .ok buf => pure (.ok (slice buf a direntSize))
  else do
    let result ← writeCluster cluster (paste buf a direntSize entry)
    if result ≠ 0 then pure (.error result) else pure (.ok entry)

/-- The entry `fat32_create_entry` puts into a new cluster; `none` if there is no space. -/
def newClusterEntry (v : Volume) (fuel : Nat) (shortName : Str) (attr : UInt8) :
    FatProg (Option Mem) :=
  if attr &&& attrDirectory ≠ 0 then do
    let dirCluster ← fat32AllocCluster v fuel
    pure (if dirCluster = 0 then none
      else some (fat32EntrySetCluster (newEntry shortName attr) 0 dirCluster))
  else pure (some (newEntry shortName attr))

/-- `fat32_create_entry` in a new cluster behind `prevCluster`.  A directory made here gets no `.`
and `..` entries. -/
def createInNewCluster (v : Volume) (fuel prevCluster : Nat) (shortName : Str) (attr : UInt8) :
    FatProg (Except Int Mem) := do
  let newCluster ← fat32AllocCluster v fuel
  if newCluster = 0 then pure (.error errNoSpc)
  else do
    let result ← fat32SetCluster prevCluster newCluster
    if result ≠ 0 then pure (.error result)
    else do
      match ← newClusterEntry v fuel shortName attr with
      | none => pure (.error errNoSpc)
      | some entry => do
        let result ← writeCluster newCluster (paste (fun _ => 0) 0 direntSize entry)
        if result ≠ 0 then pure (.error result) else pure (.ok entry)

/-- `fat32_create_entry`: the entry. -/
def fat32CreateEntry (v : Volume) (fuel parentCluster : Nat) (name : Str) (attr : UInt8) :
    FatProg (Except Int Mem) :=
  if v.readonly then pure (.error errRoFs)
  else do
    let shortName := fat32ToShortName name
    let slot ← Prog.loop (α := Except Int Mem ⊕ Nat) (fun (cluster, prevCluster) =>
      if fat32ClusterIsValid v cluster then do
        match ← readCluster cluster with
        | .error e => pure (.inr (.inl (.error e)))
        | .ok buf =>
          match scanDir (freeVerdict buf) (entriesPerCluster v) 0 with
          | .found i => do
            let r ← createInSlot v fuel parentCluster shortName attr cluster buf i
            pure (.inr (.inl r))
          | _ => do
            let next ← fat32NextCluster v cluster
            pure (.inl (next, cluster))
      else pure (.inr (.inr prevCluster))) fuel (parentCluster, 0)
    match slot with
    | .inl r => pure r
    | .inr prevCluster => createInNewCluster v fuel prevCluster shortName attr

/-- One round of the loop of `fat32_delete_entry`.  A volume label is not passed over. -/
def deleteVerdict (name : Str) (buf : Mem) (i : Nat) : Option DirScan :=
  let a := direntSize * i
  if buf a = direntEnd then some .ended
  else if buf a = direntFree then none
  else if entryAttr buf a &&& attrLongNameMask = attrLongName then none
  else if fat32Strcmp83 name buf a then some (.found i)
  else none

/-- `fat32_delete_entry`. -/
def fat32DeleteEntry (v : Volume) (fuel parentCluster : Nat) (name : Str) : FatProg Int :=
  if v.readonly then pure errRoFs
  else
    Prog.loop (fun cluster =>
      if fat32ClusterIsValid v cluster then do
        match ← readCluster cluster with
        | .error e => pure (.inr e)
        | .ok buf =>
          match scanDir (deleteVerdict name buf) (entriesPerCluster v) 0 with
          | .found i => do
            let a := direntSize * i
            if firstDataCluster ≤ fat32EntryCluster buf a then do
              let _ ← fat32FreeChain v fuel (fat32EntryCluster buf a)
              Sum.inr <$> writeCluster cluster (Function.update buf a direntFree)
            else Sum.inr <$> writeCluster cluster (Function.update buf a direntFree)
          | .ended => pure (.inr errNoEnt)
          | .exhausted => Sum.inl <$> fat32NextCluster v cluster
      else pure (.inr errNoEnt)) fuel parentCluster

/-! ## Files -/

/-- The loop of `fat32_read_file` that skips clusters. -/
def readSkip (v : Volume) : Nat → Nat → FatProg Nat
  | 0, cluster => pure cluster
  | skip + 1, cluster =>
    if fat32ClusterIsValid v cluster then do
      let next ← fat32NextCluster v cluster
      readSkip v skip next
    else pure cluster

/-- The loop of `fat32_read_file` that copies.  Each round copies at least one byte, so `len` rounds
are enough. -/
def readData (v : Volume) : Nat → Nat → Nat → Nat → List UInt8 → FatProg (Except Int (List UInt8))
  | 0, _, _, _, acc => pure (.ok acc)
  | rounds + 1, cluster, offset, len, acc =>
    if 0 < len ∧ fat32ClusterIsValid v cluster = true then do
      match ← readCluster cluster with
      | .error e => pure (.error e)
      | .ok buf => do
        let toCopy := min (v.bytesPerCluster - offset) len
        let next ← fat32NextCluster v cluster
        readData v rounds next 0 (len - toCopy) (acc ++ bytesAt buf offset toCopy)
    else pure (.ok acc)

/-- `fat32_read_file`: the bytes read. -/
def fat32ReadFile (v : Volume) (entry : Mem) (offset len : Nat) :
    FatProg (Except Int (List UInt8)) :=
  if entryAttr entry 0 &&& attrDirectory ≠ 0 then pure (.error errIsDir)
  else if entryFileSize entry ≤ offset then pure (.ok [])
  else do
    let len :=
      if entryFileSize entry < (offset + len) % 2 ^ 64 then entryFileSize entry - offset else len
    if len = 0 then pure (.ok [])
    else do
      let cluster ← readSkip v (u32 (offset / v.bytesPerCluster)) (fat32EntryCluster entry 0)
      readData v len cluster (offset % v.bytesPerCluster) len []

/-- The cluster behind `cluster`, allocated and linked if there is none; `0` if that fails. -/
def extendChain (v : Volume) (fuel cluster : Nat) (zero : Bool) : FatProg Nat := do
  let next ← fat32NextCluster v cluster
  if fat32IsEof next ∨ fat32ClusterIsValid v next = false then do
    let newCluster ← fat32AllocCluster v fuel
    if newCluster = 0 then pure 0
    else do
      let _ ← fat32SetCluster cluster newCluster
      if zero then do
        let _ ← writeCluster newCluster fun _ => 0
        pure newCluster
      else pure newCluster
  else pure next

/-- The loop of `fat32_write_file` that skips clusters; `0` when there is no space. -/
def writeSkip (v : Volume) (fuel : Nat) : Nat → Nat → FatProg Nat
  | 0, cluster => pure cluster
  | skip + 1, cluster => do
    let next ← extendChain v fuel cluster true
    if next = 0 then pure 0 else writeSkip v fuel skip next

/-- The loop of `fat32_write_file` that writes: the error, or the number of bytes written.  Each
round writes at least one byte, so as many rounds as bytes are enough. -/
def writeData (v : Volume) (fuel : Nat) :
    Nat → Nat → Nat → List UInt8 → Nat → FatProg (Except Int Nat)
  | 0, _, _, _, written => pure (.ok written)
  | rounds + 1, cluster, offset, src, written => do
    let old ← readCluster cluster
    let buf := match old with
      | .error _ => fun _ => 0
      | .ok buf => buf
    let chunk := src.take (v.bytesPerCluster - offset)
    let result ← writeCluster cluster (paste buf offset chunk.length fun j => chunk.getD j 0)
    if result ≠ 0 then pure (.error result)
    else if chunk.length < src.length then do
      let next ← extendChain v fuel cluster false
      if next = 0 then pure (.ok (written + chunk.length))
      else writeData v fuel rounds next 0 (src.drop chunk.length) (written + chunk.length)
    else pure (.ok (written + chunk.length))

/-- `fat32_write_file` on a file that has a cluster. -/
def writeChain (v : Volume) (fuel : Nat) (entry : Mem) (src : List UInt8) (offset : Nat) :
    FatProg (Int × Mem) := do
  let cluster ← writeSkip v fuel (u32 (offset / v.bytesPerCluster)) (fat32EntryCluster entry 0)
  if cluster = 0 then pure (errNoSpc, entry)
  else do
    match ← writeData v fuel src.length cluster (offset % v.bytesPerCluster) src 0 with
    | .error e => pure (e, entry)
    | .ok written =>
      let newEnd := (offset + written) % 2 ^ 64
      if entryFileSize entry < newEnd then pure (written, setEntryFileSize entry (u32 newEnd))
      else pure (written, entry)

/-- `fat32_write_file`: the answer and the entry. -/
def fat32WriteFile (v : Volume) (fuel : Nat) (entry : Mem) (src : List UInt8) (offset : Nat) :
    FatProg (Int × Mem) :=
  if v.readonly then pure (errRoFs, entry)
  else if entryAttr entry 0 &&& attrDirectory ≠ 0 then pure (errIsDir, entry)
  else if src.length = 0 then pure (0, entry)
  else if fat32EntryCluster entry 0 < firstDataCluster then do
    let cluster ← fat32AllocCluster v fuel
    if cluster = 0 then pure (errNoSpc, entry)
    else writeChain v fuel (fat32EntrySetCluster entry 0 cluster) src offset
  else writeChain v fuel entry src offset

/-- The loop of `fat32_truncate_file`: the cluster it stops at and the one before. -/
def truncateSkip (v : Volume) : Nat → Nat → Nat → FatProg (Nat × Nat)
  | 0, cluster, prevCluster => pure (cluster, prevCluster)
  | more + 1, cluster, prevCluster =>
    if fat32ClusterIsValid v cluster then do
      let next ← fat32NextCluster v cluster
      truncateSkip v more next cluster
    else pure (cluster, prevCluster)

/-- `fat32_truncate_file`: the answer and the entry. -/
def fat32TruncateFile (v : Volume) (fuel : Nat) (entry : Mem) (newSize : Nat) :
    FatProg (Int × Mem) :=
  if v.readonly then pure (errRoFs, entry)
  else if newSize = entryFileSize entry then pure (0, entry)
  else
    let cluster := fat32EntryCluster entry 0
    if newSize = 0 then do
      if firstDataCluster ≤ cluster then do
        let _ ← fat32FreeChain v fuel cluster
        pure (0, setEntryFileSize (fat32EntrySetCluster entry 0 0) 0)
      else pure (0, setEntryFileSize (fat32EntrySetCluster entry 0 0) 0)
    else if newSize < entryFileSize entry then do
      let clustersNeeded := u32 (newSize + v.bytesPerCluster + 2 ^ 32 - 1) / v.bytesPerCluster
      let (cluster, prevCluster) ← truncateSkip v (clustersNeeded - 1) cluster 0
      if prevCluster ≠ 0 ∧ fat32ClusterIsValid v cluster = true then do
        let _ ← fat32SetCluster prevCluster clusterEof
        let _ ← fat32FreeChain v fuel cluster
        pure (0, setEntryFileSize entry newSize)
      else pure (0, setEntryFileSize entry newSize)
    else pure (0, setEntryFileSize entry newSize)

end AAAos
