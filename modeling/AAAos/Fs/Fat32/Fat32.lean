import AAAos.Lib.Memory
import AAAos.Fs.Vfs.Vfs

/-!
# The FAT32 driver: volume, FAT cache, clusters

`fs/fat32/fat32.c` down to `fat32_write_cluster`, with `fat32_sync`: mounting, the 16-slot
write-back cache of FAT sectors, and the transfer of whole clusters.  The block device is flat
bytes in 512-byte sectors, with a set of sectors that cannot be read and one that cannot be
written; a transfer that touches such a sector fails and moves nothing.

`uint32_t` quantities are numbers, reduced modulo `2 ^ 32` wherever the source's expression can
wrap.  What `fat32_mount` computes and nothing changes afterwards is the `Volume`; the rest of
`fat32_fs_t` is `Fat32Fs`.  The one cluster buffer of `fat32_fs_t` is filled before each use, so
it is a local value here.
-/

namespace AAAos

/-! ## Constants -/

/-- `FAT32_SECTOR_SIZE`. -/
def sectorSize : Nat := 512

def clusterFree : Nat := 0
def clusterBad : Nat := 0x0FFFFFF7
def clusterEofMin : Nat := 0x0FFFFFF8
def clusterEof : Nat := 0x0FFFFFFF

/-- `FAT32_FIRST_DATA_CLUSTER`. -/
def firstDataCluster : Nat := 2

/-- The value of `free_clusters` when it is not known. -/
def freeUnknown : Nat := 0xFFFFFFFF

/-- What a `uint32_t` keeps of a number. -/
def u32 (n : Nat) : Nat := n % 2 ^ 32

/-- `x & FAT32_CLUSTER_MASK`. -/
def clusterMask (n : Nat) : Nat := n % 2 ^ 28

/-! ## The block device -/

structure Device where
  bytes : Mem
  readFails : Nat → Bool
  writeFails : Nat → Bool

namespace Device

/-- `read_sectors(device, lba, count, buffer)`: the buffer, unless a sector is unreadable. -/
def readSectors (d : Device) (lba count : Nat) : Option Mem :=
  if (List.range count).any fun k => d.readFails (lba + k) then none
  else some (slice d.bytes (lba * sectorSize) (count * sectorSize))

/-- `write_sectors(device, lba, count, buffer)`. -/
def writeSectors (d : Device) (lba count : Nat) (buf : Mem) : Option Device :=
  if (List.range count).any fun k => d.writeFails (lba + k) then none
  else some { d with bytes := paste d.bytes (lba * sectorSize) (count * sectorSize) buf }

end Device

/-! ## State -/

/-- `FAT32_FAT_CACHE_SIZE` slots. -/
abbrev CacheSlot := Fin 16

/-- `fat32_fat_cache_entry_t`. -/
structure CacheEntry where
  sector : Nat
  dirty : Bool
  valid : Bool
  data : Mem

/-- The part of `fat32_fs_t` that `fat32_mount` fixes: the fields of the BPB that are read later
and the geometry computed from it. -/
structure Volume where
  bytesPerSector : Nat
  sectorsPerCluster : Nat
  numFats : Nat
  fsInfoSector : Nat
  bytesPerCluster : Nat
  fatStartSector : Nat
  fatSectors : Nat
  dataStartSector : Nat
  totalClusters : Nat
  rootCluster : Nat
  readonly : Bool
  deriving DecidableEq

/-- `free_clusters`, `next_free_cluster` and `fsinfo_dirty`. -/
structure FsInfo where
  freeClusters : Nat
  nextFreeCluster : Nat
  dirty : Bool
  deriving DecidableEq

/-- `fat32_fs_t`, with the device it owns. -/
structure Fat32Fs where
  vol : Volume
  device : Device
  info : FsInfo
  fatCache : CacheSlot → CacheEntry
  mounted : Bool

namespace Fat32Fs

def setSlot (fs : Fat32Fs) (i : CacheSlot) (e : CacheEntry) : Fat32Fs :=
  { fs with fatCache := Function.update fs.fatCache i e }

end Fat32Fs

/-! ## Boot sector and FSInfo -/

/-- The checks of `fat32_read_boot_sector` on the sector it read.  The file system type string
only produces a warning. -/
def bootSectorOk (sector : Mem) : Bool :=
  let bytesPerSector := readLE sector 11 2
  let spc := readLE sector 13 1
  readLE sector 510 2 == 0xAA55 && (bytesPerSector == 512 || bytesPerSector == 1024 || bytesPerSector == 2048 ||
      bytesPerSector == 4096) &&
    (spc != 0 && spc &&& (spc - 1) == 0) &&
    readLE sector 22 2 == 0

/-- The geometry that `fat32_mount` computes from the boot sector. -/
def mountGeometry (sector : Mem) : Volume :=
  let bytesPerSector := readLE sector 11 2
  let spc := readLE sector 13 1
  let reserved := readLE sector 14 2
  let numFats := readLE sector 16 1
  let fatSize := readLE sector 36 4
  let dataStart := u32 (reserved + u32 (numFats * fatSize))
  let total := if readLE sector 32 4 ≠ 0 then readLE sector 32 4 else readLE sector 19 2
  { bytesPerSector := bytesPerSector
    sectorsPerCluster := spc
    numFats := numFats
    fsInfoSector := readLE sector 48 2
    bytesPerCluster := bytesPerSector * spc
    fatStartSector := reserved
    fatSectors := fatSize
    dataStartSector := dataStart
    totalClusters := u32 (total + 2 ^ 32 - dataStart) / spc
    rootCluster := readLE sector 44 4
    readonly := false }

/-- `fat32_read_fsinfo`; `none` when it reports an error. -/
def fat32ReadFsinfo (d : Device) (v : Volume) : Option FsInfo :=
  if v.fsInfoSector = 0 ∨ v.fsInfoSector = 0xFFFF then none
  else
    match d.readSectors v.fsInfoSector 1 with
    | none => none
    | some sector =>
      if readLE sector 0 4 ≠ 0x41615252 ∨ readLE sector 484 4 ≠ 0x61417272 ∨
          readLE sector 508 4 ≠ 0xAA550000 then none
      else some ⟨readLE sector 488 4, readLE sector 492 4, false⟩

/-- `fat32_mount`, when the page allocator serves it. -/
def fat32Mount (d : Device) : Option Fat32Fs :=
  match d.readSectors 0 1 with
  | none => none
  | some sector =>
    if bootSectorOk sector then
      let v := mountGeometry sector
      some
        { vol := v
          device := d
          info := (fat32ReadFsinfo d v).getD ⟨freeUnknown, firstDataCluster, false⟩
          fatCache := fun _ => ⟨0, false, false, fun _ => 0⟩
          mounted := true }
    else none

/-- `fat32_write_fsinfo`. -/
def fat32WriteFsinfo (fs : Fat32Fs) : Int × Fat32Fs :=
  if fs.vol.readonly then (errRoFs, fs)
  else if fs.vol.fsInfoSector = 0 ∨ fs.vol.fsInfoSector = 0xFFFF then (0, fs)
  else
    match fs.device.readSectors fs.vol.fsInfoSector 1 with
    | none => (errIo, fs)
    | some sector =>
      let sector := writeLE sector 488 4 fs.info.freeClusters
      let sector := writeLE sector 492 4 fs.info.nextFreeCluster
      match fs.device.writeSectors fs.vol.fsInfoSector 1 sector with
      | none => (errIo, fs)
      | some d => (0, { fs with device := d, info := { fs.info with dirty := false } })

/-! ## The FAT cache -/

namespace Volume

/-- `fat_offset`, the byte offset of a cluster's entry. -/
def fatOffset (cluster : Nat) : Nat := u32 (cluster * 4)

/-- `fat_sector`. -/
def fatSector (v : Volume) (cluster : Nat) : Nat :=
  u32 (v.fatStartSector + fatOffset cluster / v.bytesPerSector)

/-- `entry_offset`. -/
def entryOffset (v : Volume) (cluster : Nat) : Nat := fatOffset cluster % v.bytesPerSector

end Volume

/-- The search loop of `fat32_read_fat_entry` and `fat32_write_fat_entry`: the slot that holds
the sector, if any, and `oldest_idx`. -/
def scanFrom (cache : CacheSlot → CacheEntry) (sector : Nat) :
    List CacheSlot → CacheSlot → Option CacheSlot × CacheSlot
  | [], oldest => (none, oldest)
  | i :: rest, oldest =>
    if (cache i).valid && (cache i).sector == sector then (some i, oldest)
    else scanFrom cache sector rest (if (cache i).valid then oldest else i)

def scanCache (cache : CacheSlot → CacheEntry) (sector : Nat) : Option CacheSlot × CacheSlot :=
  scanFrom cache sector (List.finRange 16) 0

/-- The FAT word of a cluster in a cached sector. -/
def CacheEntry.word (e : CacheEntry) (offset : Nat) : Nat := readLE e.data offset 4

/-- `fat32_read_fat_entry`.  A write-back that fails is not noticed. -/
def fat32ReadFatEntry (fs : Fat32Fs) (cluster : Nat) : Nat × Fat32Fs :=
  let sector := fs.vol.fatSector cluster
  let offset := fs.vol.entryOffset cluster
  match scanCache fs.fatCache sector with
  | (some i, _) => (clusterMask ((fs.fatCache i).word offset), fs)
  | (none, i) =>
    let old := fs.fatCache i
    let device :=
      if old.dirty then (fs.device.writeSectors old.sector 1 old.data).getD fs.device
      else fs.device
    match device.readSectors sector 1 with
    | none => (clusterBad, { fs with device := device }.setSlot i { old with dirty := false })
    | some data =>
      let e : CacheEntry := ⟨sector, false, true, data⟩
      (clusterMask (e.word offset), { fs with device := device }.setSlot i e)

/-- The write-back of the write path: the victim's slot is clean afterwards. -/
def writeBack (fs : Fat32Fs) (i : CacheSlot) : Option Fat32Fs :=
  let old := fs.fatCache i
  if old.dirty then
    match fs.device.writeSectors old.sector 1 old.data with
    | none => none
    | some d => some ({ fs with device := d }.setSlot i { old with dirty := false })
  else some fs

/-- `*entry = (*entry & 0xF0000000) | (value & FAT32_CLUSTER_MASK)`, and the slot is dirty. -/
def CacheEntry.store (e : CacheEntry) (offset value : Nat) : CacheEntry :=
  { e with
    dirty := true
    data := writeLE e.data offset 4 (e.word offset / 2 ^ 28 * 2 ^ 28 + clusterMask value) }

/-- `fat32_write_fat_entry`. -/
def fat32WriteFatEntry (fs : Fat32Fs) (cluster value : Nat) : Int × Fat32Fs :=
  if fs.vol.readonly then (errRoFs, fs)
  else
    let sector := fs.vol.fatSector cluster
    let offset := fs.vol.entryOffset cluster
    match scanCache fs.fatCache sector with
    | (some i, _) => (0, fs.setSlot i ((fs.fatCache i).store offset value))
    | (none, i) =>
      match writeBack fs i with
      | none => (errIo, fs)
      | some fs =>
        match fs.device.readSectors sector 1 with
        | none => (errIo, fs)
        | some data =>
          let e : CacheEntry := ⟨sector, false, true, data⟩
          (0, fs.setSlot i (e.store offset value))

/-- The loop of `fat32_flush_fat_cache` over the slots.  A backup that cannot be written is not
noticed. -/
def flushFrom : List CacheSlot → Fat32Fs → Int × Fat32Fs
  | [], fs => (0, fs)
  | i :: rest, fs =>
    let e := fs.fatCache i
    if e.valid && e.dirty then
      match fs.device.writeSectors e.sector 1 e.data with
      | none => (errIo, fs)
      | some d =>
        let backup := u32 (e.sector + fs.vol.fatSectors)
        let d := if fs.vol.numFats > 1 then (d.writeSectors backup 1 e.data).getD d else d
        flushFrom rest ({ fs with device := d }.setSlot i { e with dirty := false })
    else flushFrom rest fs

/-- `fat32_flush_fat_cache`. -/
def fat32FlushFatCache (fs : Fat32Fs) : Int × Fat32Fs :=
  if fs.vol.readonly then (0, fs) else flushFrom (List.finRange 16) fs

/-- `fat32_sync`.  The device's own flush moves nothing. -/
def fat32Sync (fs : Fat32Fs) : Int × Fat32Fs :=
  if fs.mounted then
    let (result, fs) := fat32FlushFatCache fs
    if result ≠ 0 then (result, fs)
    else if fs.info.dirty then fat32WriteFsinfo fs
    else (0, fs)
  else (errInval, fs)

/-! ## Clusters -/

/-- `fat32_cluster_to_sector`. -/
def fat32ClusterToSector (v : Volume) (cluster : Nat) : Nat :=
  u32 (v.dataStartSector + (cluster + 2 ^ 32 - firstDataCluster) * v.sectorsPerCluster)

/-- `fat32_cluster_is_valid`. -/
def fat32ClusterIsValid (v : Volume) (cluster : Nat) : Bool :=
  firstDataCluster ≤ clusterMask cluster && clusterMask cluster < u32 (firstDataCluster + v.totalClusters)

/-- `fat32_is_eof`. -/
def fat32IsEof (entry : Nat) : Bool := clusterEofMin ≤ clusterMask entry

/-- `fat32_read_cluster`. -/
def fat32ReadCluster (fs : Fat32Fs) (cluster : Nat) : Except Int Mem :=
  if fat32ClusterIsValid fs.vol cluster then
    match fs.device.readSectors (fat32ClusterToSector fs.vol cluster) fs.vol.sectorsPerCluster with
    | none => .error errIo
    | some buf => .ok buf
  else .error errInval

/-- `fat32_write_cluster`. -/
def fat32WriteCluster (fs : Fat32Fs) (cluster : Nat) (buf : Mem) : Int × Fat32Fs :=
  if fs.vol.readonly then (errRoFs, fs)
  else if fat32ClusterIsValid fs.vol cluster then
    match fs.device.writeSectors (fat32ClusterToSector fs.vol cluster) fs.vol.sectorsPerCluster
        buf with
    | none => (errIo, fs)
    | some d => (0, { fs with device := d })
  else (errInval, fs)

end AAAos
