import AAAos.Fs.Fat32.FatCache
import AAAos.Fs.Fat32.Files
import AAAos.Lib.Trace

/-!
# The two copies of the FAT

`fat32_flush_fat_cache` writes a dirty sector to the backup FAT too.  The two other places that write
a dirty sector back, where `fat32_read_fat_entry` and `fat32_write_fat_entry` need its slot for
another sector, write the primary FAT only.  Since the slot is clean afterwards, no later flush makes
up for it.

**The invariant.**  A sector of the FAT that no slot holds dirty is the same in both copies
(`Mirrored`).  Every call of the driver keeps it that writes back no dirty slot and stays where it
belongs (`Admissible`), so every operation does whose calls are admissible, by the induction over its
run.  A sync then leaves no dirty slot (`copiesAgree_of_steps`).
-/

namespace AAAos

/-! ## The layout of the volume -/

namespace Volume

variable {v : Volume} {c s : Nat}

/-- The data area and the FSInfo sector lie outside the FATs, and the data area ends below sector
`2 ^ 32`. -/
structure Apart (v : Volume) : Prop where
  sectors : 0 < v.sectorsPerCluster
  data : v.fatStartSector + v.numFats * v.fatSectors ≤ v.dataStartSector
  fits : v.dataStartSector + v.totalClusters * v.sectorsPerCluster ≤ 2 ^ 32
  info : v.fsInfoSector = 0 ∨ v.fsInfoSector = 0xFFFF ∨ v.fsInfoSector < v.fatStartSector ∨
    v.fatStartSector + v.numFats * v.fatSectors ≤ v.fsInfoSector

/-- The sectors of all FATs. -/
def AnyFat (v : Volume) (s : Nat) : Prop :=
  v.fatStartSector ≤ s ∧ s < v.fatStartSector + v.numFats * v.fatSectors

lemma Primary.anyFat (hs : v.Primary s) (hnum : v.numFats = 2) : v.AnyFat s ∧ v.AnyFat (s + v.fatSectors) := by
  obtain ⟨hlow, hhigh⟩ := hs
  unfold AnyFat
  rw [hnum]
  omega

lemma Apart.cluster (hv : v.Apart) (hc : c < 2 ^ 28) (hvalid : fat32ClusterIsValid v c = true) :
    c - 2 < v.totalClusters ∧ 2 ≤ c ∧
      fat32ClusterToSector v c = v.dataStartSector + (c - 2) * v.sectorsPerCluster := by
  have hmask : clusterMask c = c := Nat.mod_eq_of_lt hc
  simp only [fat32ClusterIsValid, hmask, Bool.and_eq_true, decide_eq_true_eq, firstDataCluster, u32] at hvalid
  have hlt : c - 2 < v.totalClusters := by
    have := Nat.mod_le (2 + v.totalClusters) (2 ^ 32)
    omega
  have hmul : (c - 2) * v.sectorsPerCluster + v.sectorsPerCluster ≤ v.totalClusters * v.sectorsPerCluster := by
    rw [← Nat.succ_mul]
    exact Nat.mul_le_mul_right _ hlt
  have hwrap : (c + 2 ^ 32 - 2) * v.sectorsPerCluster =
      (c - 2) * v.sectorsPerCluster + 2 ^ 32 * v.sectorsPerCluster := by
    rw [← Nat.add_mul]
    congr 1
    omega
  have hfits := hv.fits
  have hspc := hv.sectors
  refine ⟨hlt, hvalid.1, ?_⟩
  rw [fat32ClusterToSector, firstDataCluster, u32, hwrap, ← Nat.add_assoc,
    Nat.add_mul_mod_self_left, Nat.mod_eq_of_lt (by omega)]

end Volume

namespace Fat32Fs

variable {fs : Fat32Fs} {i : CacheSlot} {c s : Nat}

/-- Every sector of the backup FAT equals the sector of the primary FAT. -/
def CopiesAgree (fs : Fat32Fs) : Prop := ∀ s, fs.vol.Primary s →
  slice fs.device.bytes ((s + fs.vol.fatSectors) * 512) 512 = slice fs.device.bytes (s * 512) 512

/-- The device after sectors outside all FATs were written has the same FATs. -/
def SameFats (v : Volume) (d d' : Device) : Prop :=
  ∀ s, v.AnyFat s → slice d'.bytes (s * 512) 512 = slice d.bytes (s * 512) 512

lemma sameFats_written {v : Volume} (d : Device) {lba count : Nat} (buf : Mem)
    (h : ∀ s, v.AnyFat s → s + 1 ≤ lba ∨ lba + count ≤ s) :
    SameFats v d (d.written lba count buf) := by
  intro s hs
  rw [Device.written_bytes, slice_paste_apart]
  rcases h s hs with hbelow | habove
  · left
    omega
  · right
    omega

/-- A sector that no slot holds dirty is the same in both copies. -/
structure Mirrored (fs : Fat32Fs) : Prop where
  sound : fs.Sound
  apart : fs.vol.Apart
  two : fs.vol.numFats = 2
  same : ∀ s, fs.vol.Primary s → (∀ i, Holds fs.fatCache i s → (fs.fatCache i).dirty = false) →
    slice fs.device.bytes ((s + fs.vol.fatSectors) * 512) 512 = slice fs.device.bytes (s * 512) 512

lemma Mirrored.of_cache {fs' : Fat32Fs} (h : fs.Mirrored) (hsound : fs'.Sound)
    (hvol : fs'.vol = fs.vol) (hdevice : fs'.device = fs.device)
    (hdirty : ∀ s i, Holds fs.fatCache i s → (fs.fatCache i).dirty = true →
      ∃ j, Holds fs'.fatCache j s ∧ (fs'.fatCache j).dirty = true) : fs'.Mirrored := by
  refine ⟨hsound, hvol ▸ h.apart, hvol ▸ h.two, fun s hs hclean => ?_⟩
  rw [hvol] at hs
  rw [hvol, hdevice]
  refine h.same s hs fun i hi => ?_
  by_contra hnot
  obtain ⟨j, hj, hjd⟩ := hdirty s i hi (by simpa using hnot)
  rw [hclean j hj] at hjd
  cases hjd

lemma Mirrored.of_device {fs' : Fat32Fs} (h : fs.Mirrored) (hvol : fs'.vol = fs.vol)
    (hcache : fs'.fatCache = fs.fatCache) (hreliable : fs'.device.Reliable)
    (hfats : SameFats fs.vol fs.device fs'.device) : fs'.Mirrored := by
  have hsound : fs'.Sound :=
    h.sound.of_device hvol hcache hreliable fun s hs => hfats s (hs.anyFat h.two).1
  refine ⟨hsound, hvol ▸ h.apart, hvol ▸ h.two, fun s hs hclean => ?_⟩
  rw [hvol] at hs
  rw [hcache] at hclean
  rw [hvol, hfats s (hs.anyFat h.two).1, hfats _ (hs.anyFat h.two).2]
  exact h.same s hs hclean

/-! ## The FAT accesses -/

/-- Looking for a sector writes a dirty slot back: it is in no slot, and the slot it will get is
dirty. -/
def evictsDirty (fs : Fat32Fs) (s : Nat) : Bool :=
  match scanCache fs.fatCache s with
  | (some _, _) => false
  | (none, i) => (fs.fatCache i).dirty

lemma Mirrored.fetch (h : fs.Mirrored) (hevict : fs.evictsDirty s = false) : (fs.fetch s).2.Mirrored := by
  have hsound := h.sound.fetch s
  unfold evictsDirty at hevict
  unfold Fat32Fs.fetch at hsound ⊢
  rcases hscan : scanCache fs.fatCache s with ⟨_ | j, victim⟩
  · rw [hscan] at hevict hsound
    dsimp only at hevict hsound ⊢
    refine h.of_cache hsound rfl ?_ fun s' j hj hdirty => ?_
    · unfold loaded spilled
      rw [if_neg (by simp [hevict])]
      rfl
    · have hne : j ≠ victim := by
        rintro rfl
        rw [hevict] at hdirty
        cases hdirty
      refine ⟨j, (holds_setSlot_ne hne).mpr hj, ?_⟩
      rw [loaded, setSlot_fatCache_ne _ hne]
      exact hdirty
  · exact h

lemma Mirrored.readFat (h : fs.Mirrored) (hevict : fs.evictsDirty (fs.vol.fatSector c) = false) :
    (fat32ReadFatEntry fs c).2.Mirrored := by
  rw [fat32ReadFatEntry_eq h.sound.reliable]
  exact h.fetch hevict

lemma Mirrored.writeFat (h : fs.Mirrored) (hc : fs.vol.InFat c)
    (hevict : fs.evictsDirty (fs.vol.fatSector c) = false) (value : Nat) :
    (fat32WriteFatEntry fs c value).2.Mirrored := by
  have hsound := h.sound.writeFat hc value
  have hfetch := h.fetch hevict
  rw [fat32WriteFatEntry_eq h.sound.reliable h.sound.writable] at hsound ⊢
  refine hfetch.of_cache hsound rfl rfl fun s i hi hdirty => ?_
  refine ⟨i, (holds_stored _ _ _ _ i s).mpr hi, ?_⟩
  by_cases hslot : i = (fs.fetch (fs.vol.fatSector c)).1
  · rw [hslot, setSlot_fatCache_self]
    rfl
  · rw [setSlot_fatCache_ne _ hslot]
    exact hdirty

/-! ## Clusters and FSInfo -/

lemma Mirrored.writeCluster (h : fs.Mirrored) (hc : c < 2 ^ 28) (buf : Mem) :
    (fat32WriteCluster fs c buf).2.Mirrored := by
  have hapart : fat32ClusterIsValid fs.vol c = true → ∀ s, fs.vol.AnyFat s →
      s + 1 ≤ fat32ClusterToSector fs.vol c := by
    intro hvalid s hs
    obtain ⟨-, -, hsector⟩ := h.apart.cluster hc hvalid
    have hdata := h.apart.data
    have hhigh := hs.2
    rw [hsector]
    omega
  unfold fat32WriteCluster
  split_ifs with hro hvalid
  · exact h
  · rw [h.sound.reliable.writeSectors_eq]
    dsimp only
    have hfats : SameFats fs.vol fs.device
        (fs.device.written (fat32ClusterToSector fs.vol c) fs.vol.sectorsPerCluster buf) :=
      sameFats_written _ _ fun s hs => .inl (hapart hvalid s hs)
    exact h.of_device rfl rfl h.sound.reliable.written hfats
  · exact h

lemma Mirrored.writeFsinfo (h : fs.Mirrored) : (fat32WriteFsinfo fs).2.Mirrored := by
  unfold fat32WriteFsinfo
  split_ifs with hro hnone
  · exact h
  · exact h
  · split
    · exact h
    · dsimp only
      split
      · exact h
      · rename_i d hwrite
        rw [h.sound.reliable.writeSectors_eq] at hwrite
        obtain rfl := Option.some.inj hwrite
        refine h.of_device rfl rfl h.sound.reliable.written (sameFats_written _ _ fun s hs => ?_)
        have hinfo := h.apart.info
        obtain ⟨hlow, hhigh⟩ := hs
        omega

/-! ## Syncing -/

lemma Mirrored.flushed (h : fs.Mirrored) (i : CacheSlot) : (fs.flushed i).Mirrored := by
  refine ⟨h.sound.flushed i, h.apart, h.two, fun s hs hclean => ?_⟩
  have hs' : fs.vol.Primary s := hs
  change slice (fs.mirrored i).bytes ((s + fs.vol.fatSectors) * 512) 512 = slice (fs.mirrored i).bytes (s * 512) 512
  have hothers : ∀ j, j ≠ i → Holds fs.fatCache j s → (fs.fatCache j).dirty = false := by
    intro j hji hj
    have hflushed := hclean j ((holds_flushed fs i j s).mpr hj)
    rwa [Fat32Fs.flushed, setSlot_fatCache_ne _ hji] at hflushed
  by_cases hdirty : (fs.fatCache i).dirty = true
  · -- the sector of the slot is written to both copies
    obtain ⟨hvalid, hprimary⟩ := h.sound.coherent.dirty i hdirty
    have hnum : 1 < fs.vol.numFats := by rw [h.two]; decide
    rw [mirrored, if_pos ⟨hdirty, hnum⟩, spilled, if_pos hdirty]
    obtain ⟨hlow, hhigh⟩ := hprimary
    obtain ⟨hslow, hshigh⟩ := hs'
    by_cases hsec : s = (fs.fatCache i).sector
    · subst hsec
      rw [slice_written_self, slice_written_ne _ (by omega), slice_written_self]
    · rw [slice_written_ne _ (by omega), slice_written_ne _ (by omega),
        slice_written_ne _ (by omega), slice_written_ne _ hsec]
      refine h.same s hs fun j hj => ?_
      by_cases hji : j = i
      · subst hji
        exact absurd hj.2.symm hsec
      · exact hothers j hji hj
  · rw [mirrored, if_neg (by simp [hdirty]), spilled, if_neg hdirty]
    refine h.same s hs fun j hj => ?_
    by_cases hji : j = i
    · subst hji
      simpa using hdirty
    · exact hothers j hji hj

lemma Mirrored.flush (h : fs.Mirrored) : (fat32FlushFatCache fs).2.Mirrored := by
  rw [h.sound.flush_eq]
  exact (flushFrom_invariant (fun _ i _ ht => ht.flushed i) (List.finRange 16) h.sound h).2.2

/-- **After a sync** the copies agree. -/
lemma Mirrored.sync (h : fs.Mirrored) (hsync : (fat32Sync fs).1 = 0) : (fat32Sync fs).2.CopiesAgree := by
  have hagree : ∀ t : Fat32Fs, t.Mirrored → (∀ i, (t.fatCache i).dirty = false) → t.CopiesAgree :=
    fun t ht hdirty s hs => ht.same s hs fun i _ => hdirty i
  have hinfo : ∀ t : Fat32Fs, (fat32WriteFsinfo t).2.fatCache = t.fatCache := by
    intro t
    unfold fat32WriteFsinfo
    split_ifs
    · rfl
    · rfl
    · split
      · rfl
      · dsimp only
        split
        · rfl
        · rfl
  obtain ⟨hres, -, -, -, hclean⟩ := h.sound.flush
  have hflush := h.flush
  unfold fat32Sync at hsync ⊢
  rcases hpair : fat32FlushFatCache fs with ⟨result, t⟩
  rw [hpair] at hres hclean hflush hsync
  dsimp only at hres hclean hflush hsync ⊢
  subst hres
  split_ifs at hsync ⊢
  · exact hagree t hflush hclean
  · exact hagree _ hflush.writeFsinfo fun i => by rw [hinfo]; exact hclean i
  · exact hagree t hflush hclean
  · exact absurd (show errInval = 0 from hsync) (by decide)

end Fat32Fs

/-! ## Runs of operations -/

/-- The operations that write to the FAT. -/
inductive FatOp
  | allocCluster
  | freeChain (startCluster : Nat)
  | setCluster (cluster value : Nat)
  | writeFile (entry : Mem) (src : List UInt8) (offset : Nat)
  | truncateFile (entry : Mem) (newSize : Nat)
  | createEntry (parentCluster : Nat) (name : Str) (attr : UInt8)
  | deleteEntry (parentCluster : Nat) (name : Str)

namespace FatOp

/-- The program of an operation, without its answer. -/
def prog (v : Volume) (fuel : Nat) : FatOp → FatProg Unit
  | allocCluster => (fun _ => ()) <$> fat32AllocCluster v fuel
  | freeChain startCluster => (fun _ => ()) <$> fat32FreeChain v fuel startCluster
  | setCluster cluster value => (fun _ => ()) <$> fat32SetCluster cluster value
  | writeFile entry src offset => (fun _ => ()) <$> fat32WriteFile v fuel entry src offset
  | truncateFile entry newSize => (fun _ => ()) <$> fat32TruncateFile v fuel entry newSize
  | createEntry parentCluster name attr =>
    (fun _ => ()) <$> fat32CreateEntry v fuel parentCluster name attr
  | deleteEntry parentCluster name => (fun _ => ()) <$> fat32DeleteEntry v fuel parentCluster name

/-- An operation that returns, after any number of rounds of its loops. -/
def Step (fs : Fat32Fs) (op : FatOp) (fs' : Fat32Fs) : Prop :=
  ∃ fuel, (op.prog fs.vol fuel).run fatMachine fs = some ((), fs')

/-- What the driver does not see to: an access to the FAT is for an entry inside it and writes no
dirty slot back, and a cluster that is written has a number of 28 bits. -/
def Admissible : FatCall → Fat32Fs → Prop
  | .readFat cluster, fs => fs.evictsDirty (fs.vol.fatSector cluster) = false
  | .writeFat cluster _, fs =>
    fs.vol.InFat cluster ∧ fs.evictsDirty (fs.vol.fatSector cluster) = false
  | .writeCluster cluster _, _ => cluster < 2 ^ 28
  | _, _ => True

/-- The operations that need no rounds, computed. -/
def exec (fs : Fat32Fs) (op : FatOp) : Option Fat32Fs :=
  ((op.prog fs.vol 0).run fatMachine fs).map (·.2)

lemma step_of_exec (fs : Fat32Fs) (op : FatOp) (fs' : Fat32Fs) (h : exec fs op = some fs') : Step fs op fs' := by
  obtain ⟨⟨⟨⟩, t⟩, hrun, rfl⟩ := Option.map_eq_some_iff.mp h
  exact ⟨0, hrun⟩

/-- An operation whose calls are all admissible when they are made. -/
def OrderlyStep (fs : Fat32Fs) (op : FatOp) (fs' : Fat32Fs) : Prop :=
  ∃ fuel, (op.prog fs.vol fuel).run fatMachine fs = some ((), fs') ∧
    (op.prog fs.vol fuel).Along fatMachine Admissible fs

/-- **One call.** -/
lemma mirrored_call (c : FatCall) (fs : Fat32Fs) (h : fs.Mirrored) (hc : Admissible c fs) :
    (fatMachine c fs).2.Mirrored := by
  cases c with
  | readFat cluster => exact h.readFat hc
  | writeFat cluster value => exact h.writeFat hc.1 hc.2 value
  | readCluster cluster => exact h
  | writeCluster cluster buf => exact h.writeCluster hc buf
  | getInfo => exact h
  | setInfo info =>
    exact h.of_device rfl rfl h.sound.reliable fun s _ => rfl

/-- **The two copies agree after a sync**, in every run whose calls are all admissible. -/
theorem copiesAgree_of_steps {d : Device} (hd : d.Reliable) {fs fs' : Fat32Fs}
    (hmount : fat32Mount d = some fs) (hlayout : fs.vol.FatLayout) (hapart : fs.vol.Apart)
    (htwo : fs.vol.numFats = 2) (hagree : fs.CopiesAgree) {ops : List FatOp}
    (hrun : Steps OrderlyStep fs ops fs') (hsync : (fat32Sync fs').1 = 0) :
    (fat32Sync fs').2.CopiesAgree := by
  obtain ⟨hsound, -, -⟩ := Fat32Fs.sound_of_mount hd hmount hlayout
  have hstart : fs.Mirrored := ⟨hsound, hapart, htwo, fun s hs _ => hagree s hs⟩
  have hend : fs'.Mirrored := by
    refine hrun.invariant (fun t op t' ht hst => ?_) hstart
    obtain ⟨fuel, hprog, halong⟩ := hst
    exact Prog.run_invariant mirrored_call ht halong hprog
  exact hend.sync hsync

/-! ## A volume with seventeen FAT sectors -/

/-- One reserved sector, two FATs of seventeen sectors, and 2174 clusters. -/
def wideDisk : Device :=
  ⟨Function.update (blankBytes 1 2 0xA1 17) 33 8, fun _ => false, fun _ => false⟩

/-- The volume on `wideDisk` as it is mounted. -/
def wideFs : Fat32Fs where
  vol := ⟨512, 1, 2, 0, 512, 1, 17, 35, 2174, 2, false⟩
  device := wideDisk
  info := ⟨freeUnknown, firstDataCluster, false⟩
  fatCache := fun _ => ⟨0, false, false, fun _ => 0⟩
  mounted := true

lemma wideDisk_reliable : wideDisk.Reliable := fun _ => ⟨rfl, rfl⟩

lemma mount_wideDisk : fat32Mount wideDisk = some wideFs := by
  have hok : bootSectorOk (slice wideDisk.bytes (0 * 512) (1 * 512)) = true := by decide
  have hvol : mountGeometry (slice wideDisk.bytes (0 * 512) (1 * 512)) = wideFs.vol := by
    decide
  have hinfo : fat32ReadFsinfo wideDisk wideFs.vol = none := by decide
  simp only [fat32Mount, wideDisk_reliable.readSectors_eq, hok, if_true, hvol, hinfo]
  rfl

lemma wideFs_layout : wideFs.vol.FatLayout ∧ wideFs.vol.Apart :=
  ⟨⟨rfl, by decide, by decide⟩, ⟨by decide, by decide, by decide, .inl rfl⟩⟩

/-- The FATs on `wideDisk` are empty. -/
lemma wideFs_agree : wideFs.CopiesAgree := by
  have hzero : ∀ a, 512 ≤ a → wideDisk.bytes a = 0 := by
    intro a ha
    rw [show wideDisk.bytes a = blankBytes 1 2 0xA1 17 a from Function.update_of_ne (by omega) _ _]
    unfold blankBytes
    split <;> simp_all
  intro s hs
  refine slice_eq_slice fun j hj => ?_
  have hlow : 1 ≤ s := hs.1
  change wideDisk.bytes _ = wideDisk.bytes _
  rw [hzero _ (by omega), hzero _ (by omega)]

/-- An entry is written, and the volume synced. -/
theorem copiesAgree_of_one_write : ∃ fs', Steps OrderlyStep wideFs [.setCluster 5 7] fs' ∧
    (fat32Sync fs').1 = 0 ∧ (fat32Sync fs').2.CopiesAgree := by
  obtain ⟨fs', hrun, hsync⟩ : ∃ fs', Steps OrderlyStep wideFs [.setCluster 5 7] fs' ∧ (fat32Sync fs').1 = 0 := by
    refine ⟨_, .cons ⟨0, rfl, ⟨⟨by decide, by decide⟩, ?_⟩, trivial⟩ (.nil _), ?_⟩
    · decide
    · decide
  exact ⟨fs', hrun, hsync, copiesAgree_of_steps wideDisk_reliable mount_wideDisk wideFs_layout.1
    wideFs_layout.2 rfl wideFs_agree hrun hsync⟩

/-- An entry of each of the seventeen sectors is written. -/
def touchAll : List FatOp := (List.range 17).map fun k => .setCluster (2 + 128 * k) clusterEof

/-- The last write takes the slot of the sixteenth sector, and the sync does not write that sector
to the backup. -/
theorem copies_differ_after_sync : ∃ fs', Steps Step wideFs touchAll fs' ∧
    (fat32Sync fs').1 = 0 ∧ ¬ (fat32Sync fs').2.CopiesAgree := by
  obtain ⟨fs', hrun, hend⟩ := Option.map_eq_some_iff.mp
    (show (touchAll.foldlM exec wideFs).map (fun t => ((fat32Sync t).1, (fat32Sync t).2.vol,
      (fat32Sync t).2.device.bytes (16 * 512 + 8), (fat32Sync t).2.device.bytes (33 * 512 + 8))) =
      some (0, wideFs.vol, 0xFF, 0) by decide +kernel)
  simp only [Prod.mk.injEq] at hend
  obtain ⟨hsync, hvol, hprimary, hbackup⟩ := hend
  refine ⟨fs', .of_exec step_of_exec hrun, hsync, fun hagree => ?_⟩
  have hbyte := congrFun (hagree 16 (by rw [hvol]; decide)) 8
  rw [hvol, slice_of_lt (by decide), slice_of_lt (by decide)] at hbyte
  rw [hprimary] at hbyte
  exact absurd (hbackup.symm.trans hbyte) (by decide)

end FatOp

end AAAos
