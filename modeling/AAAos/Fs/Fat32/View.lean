import AAAos.Fs.Fat32.Mirror
import AAAos.Lib.LinkedSegment

/-!
# What the FAT32 driver's files rest on

Above the FAT cache and the block device a volume is two tables: the entry of each cluster in the
FAT, and the data of each cluster (`View`).  `fatSpec` gives every call of the driver its meaning on
the tables, for clusters that the volume has, and `shows_call` is the simulation: the driver's state
answers as the tables do, whatever sits in the cache.  A routine is reasoned about on the tables by
its weakest precondition, and `Shows.run` carries the result back.

**What the simulation rests on.**  A dirty slot only ever holds a sector of the primary FAT, so
writing it back, to the backup too, stays below the data area; and clusters do not overlap.
-/

namespace AAAos

/-! ## Volumes -/

namespace Volume

variable {v : Volume} {c c' : Nat}

/-- The clusters of a volume. -/
def Cluster (v : Volume) (c : Nat) : Prop := 2 ≤ c ∧ c < 2 + v.totalClusters

instance (v : Volume) (c : Nat) : Decidable (v.Cluster c) := inferInstanceAs (Decidable (_ ∧ _))

/-- The areas of the volume do not overlap, and the FAT has an entry for every cluster. -/
structure Regular (v : Volume) : Prop where
  layout : v.FatLayout
  apart : v.Apart
  covers : 2 + v.totalClusters ≤ 128 * v.fatSectors
  small : 2 + v.totalClusters ≤ clusterBad
  size : v.bytesPerCluster = v.sectorsPerCluster * 512
  info : v.fsInfoSector = 0 ∨ v.fsInfoSector = 0xFFFF ∨ v.fsInfoSector < v.dataStartSector

/-- Where the data of a cluster lies on the device. -/
def clusterAddr (v : Volume) (c : Nat) : Nat :=
  (v.dataStartSector + (c - 2) * v.sectorsPerCluster) * 512

lemma dataStart_le (v : Volume) (c : Nat) : v.dataStartSector * 512 ≤ v.clusterAddr c :=
  Nat.mul_le_mul_right 512 (Nat.le_add_right _ _)

namespace Regular

variable (hv : v.Regular)
include hv

lemma lt (hc : v.Cluster c) : c < 2 ^ 28 := by
  have hsmall := hv.small
  have hlt := hc.2
  unfold clusterBad at hsmall
  omega

lemma valid_iff (hc : c < 2 ^ 28) : fat32ClusterIsValid v c = true ↔ v.Cluster c := by
  have hsmall := hv.small
  unfold clusterBad at hsmall
  have hmask : clusterMask c = c := Nat.mod_eq_of_lt hc
  have hend : u32 (firstDataCluster + v.totalClusters) = 2 + v.totalClusters :=
    Nat.mod_eq_of_lt (show 2 + v.totalClusters < 2 ^ 32 by omega)
  rw [fat32ClusterIsValid, Bool.and_eq_true, decide_eq_true_eq, decide_eq_true_eq, hmask, hend]
  exact Iff.rfl

lemma valid (hc : v.Cluster c) : fat32ClusterIsValid v c = true := (hv.valid_iff (hv.lt hc)).mpr hc

lemma not_eof (hc : v.Cluster c) : fat32IsEof c = false := by
  have hsmall := hv.small
  have hlt := hc.2
  have hmask : clusterMask c = c := Nat.mod_eq_of_lt (hv.lt hc)
  unfold clusterBad at hsmall
  rw [fat32IsEof, decide_eq_false_iff_not, hmask, clusterEofMin]
  omega

lemma inFat (hc : v.Cluster c) : v.InFat c := by
  have hlt := hv.lt hc
  have hcovers := hv.covers
  have hhigh := hc.2
  exact ⟨by omega, by omega⟩

lemma pos : 0 < v.bytesPerCluster := by
  have hpos := hv.apart.sectors
  rw [hv.size]
  omega

lemma sector_eq (hc : v.Cluster c) : fat32ClusterToSector v c * 512 = v.clusterAddr c := by
  rw [(hv.apart.cluster (hv.lt hc) (hv.valid hc)).2.2, clusterAddr]

lemma clusterAddr_apart (hc : v.Cluster c) (hc' : v.Cluster c') (hne : c' ≠ c) :
    v.clusterAddr c' + v.bytesPerCluster ≤ v.clusterAddr c ∨
      v.clusterAddr c + v.bytesPerCluster ≤ v.clusterAddr c' := by
  have hstep : ∀ a b, v.Cluster a → v.Cluster b → a < b → v.clusterAddr a + v.bytesPerCluster ≤ v.clusterAddr b := by
    intro a b ha hb hab
    have hle : (a - 2 + 1) * v.sectorsPerCluster ≤ (b - 2) * v.sectorsPerCluster :=
      Nat.mul_le_mul_right _ (by have := ha.1; omega)
    rw [Nat.succ_mul] at hle
    rw [clusterAddr, clusterAddr, hv.size]
    omega
  rcases Nat.lt_or_gt_of_ne hne with hlt | hgt
  · exact .inl (hstep c' c hc' hc hlt)
  · exact .inr (hstep c c' hc hc' hgt)

end Regular

end Volume

/-! ## The tables -/

/-- A volume above its cache: the FAT, the clusters, and the FSInfo fields. -/
structure View where
  next : Nat → Nat
  data : Nat → Mem
  info : FsInfo

namespace View

def setNext (t : View) (c value : Nat) : View :=
  { t with next := Function.update t.next c (clusterMask value) }

def setData (t : View) (c : Nat) (buf : Mem) : View := { t with data := Function.update t.data c buf }

@[simp] lemma setData_next (t : View) (c : Nat) (buf : Mem) : (t.setData c buf).next = t.next := rfl

end View

/-- The calls on the tables. -/
def fatSpec (v : Volume) : Spec fatInterface View where
  pre c _ :=
    match c with
    | .readFat cluster => v.Cluster cluster
    | .writeFat cluster _ => v.Cluster cluster
    | .readCluster cluster => v.Cluster cluster
    | .writeCluster cluster _ => v.Cluster cluster
    | .getInfo => True
    | .setInfo _ => True
  post c t :=
    match c with
    | .readFat cluster => fun (r : Nat) u => r = t.next cluster ∧ u = t
    | .writeFat cluster value => fun (r : Int) u => r = 0 ∧ u = t.setNext cluster value
    | .readCluster cluster => fun (r : Except Int Mem) u => r = .ok (t.data cluster) ∧ u = t
    | .writeCluster cluster buf => fun (r : Int) u =>
      r = 0 ∧ u = t.setData cluster (slice buf 0 v.bytesPerCluster)
    | .getInfo => fun (r : FsInfo) u => r = t.info ∧ u = t
    | .setInfo info => fun _ u => u = { t with info := info }

namespace Fat32Fs

/-- The tables that the driver's state stands for. -/
def view (fs : Fat32Fs) : View where
  next c := clusterMask (fs.fatWord c)
  data c := slice fs.device.bytes (fs.vol.clusterAddr c) fs.vol.bytesPerCluster
  info := fs.info

end Fat32Fs

/-- The driver's state shows the tables `t`. -/
structure Shows (v : Volume) (fs : Fat32Fs) (t : View) : Prop where
  sound : fs.Sound
  vol : fs.vol = v
  next : ∀ c, v.Cluster c → fs.view.next c = t.next c
  data : ∀ c, v.Cluster c → fs.view.data c = t.data c
  info : fs.info = t.info

/-! ## The data area is left alone -/

/-- The data areas of two devices agree. -/
def SameData (v : Volume) (d d' : Device) : Prop :=
  ∀ a, v.dataStartSector * 512 ≤ a → d'.bytes a = d.bytes a

lemma sameData_written {v : Volume} (d : Device) {lba : Nat} (buf : Mem)
    (h : lba < v.dataStartSector) : SameData v d (d.written lba 1 buf) := by
  intro a ha
  rw [Device.written_bytes, paste_outside (by omega)]

lemma SameData.trans {v : Volume} {d d' d'' : Device} (h : SameData v d d')
    (h' : SameData v d' d'') : SameData v d d'' := fun a ha => (h' a ha).trans (h a ha)

lemma SameData.slice {v : Volume} {d d' : Device} (h : SameData v d d') (c n : Nat) :
    slice d'.bytes (v.clusterAddr c) n = slice d.bytes (v.clusterAddr c) n :=
  slice_eq_slice fun _ _ => h _ (Nat.le_trans (v.dataStart_le c) (Nat.le_add_right _ _))

namespace Fat32Fs

variable {fs : Fat32Fs} {v : Volume}

lemma sameData_spilled (hfs : fs.Coherent) (hv : fs.vol.Regular) (i : CacheSlot) :
    SameData fs.vol fs.device (fs.spilled i) := by
  unfold spilled
  split_ifs with hdirty
  · have hprimary := (hfs.dirty i hdirty).2.2
    have hfats := Nat.mul_le_mul_right fs.vol.fatSectors hv.layout.hasFat
    have hdata := hv.apart.data
    exact sameData_written _ _ (by omega)
  · exact fun _ _ => rfl

lemma sameData_mirrored (hfs : fs.Coherent) (hv : fs.vol.Regular) (i : CacheSlot) :
    SameData fs.vol fs.device (fs.mirrored i) := by
  have hspilled := sameData_spilled hfs hv i
  unfold mirrored
  split_ifs with hdirty
  · have hprimary := (hfs.dirty i hdirty.1).2.2
    have hfats := Nat.mul_le_mul_right fs.vol.fatSectors (show 2 ≤ fs.vol.numFats from hdirty.2)
    have hdata := hv.apart.data
    exact hspilled.trans (sameData_written _ _ (by omega))
  · exact hspilled

lemma sameData_fetch (hfs : fs.Coherent) (hv : fs.vol.Regular) (s : Nat) :
    SameData fs.vol fs.device (fs.fetch s).2.device := by
  rcases fs.fetch_cases s with ⟨i, -, heq⟩ | ⟨i, -, -, heq⟩
  · rw [heq]
    exact fun _ _ => rfl
  · rw [heq]
    exact sameData_spilled hfs hv i

end Fat32Fs

/-! ## The simulation -/

namespace Shows

variable {v : Volume} {fs fs' : Fat32Fs} {t : View} {c : Nat}

lemma data_of_sameData (hvol : fs'.vol = fs.vol) (hdata : SameData fs.vol fs.device fs'.device)
    (c : Nat) : fs'.view.data c = fs.view.data c := by
  rw [Fat32Fs.view, Fat32Fs.view]
  dsimp only
  rw [hvol]
  exact hdata.slice c _

lemma of_frame (h : Shows v fs t) (hsound : fs'.Sound) (hvol : fs'.vol = fs.vol)
    (hinfo : fs'.info = fs.info) (hdata : SameData v fs.device fs'.device)
    (hnext : ∀ c, v.Cluster c → fs'.fatWord c = fs.fatWord c) : Shows v fs' t where
  sound := hsound
  vol := hvol.trans h.vol
  next c hc := by
    rw [← h.next c hc, Fat32Fs.view, Fat32Fs.view]
    exact congrArg clusterMask (hnext c hc)
  data c hc := (data_of_sameData hvol (h.vol.symm ▸ hdata) c).trans (h.data c hc)
  info := hinfo.trans h.info

lemma readFat (hv : v.Regular) (h : Shows v fs t) (hc : v.Cluster c) :
    (fat32ReadFatEntry fs c).1 = t.next c ∧ Shows v (fat32ReadFatEntry fs c).2 t := by
  obtain rfl := h.vol
  have hfst := h.sound.readFat_fst c
  have hsound := h.sound.readFat c
  have hword := fun c' (hc' : fs.vol.Cluster c') => h.sound.fatWord_readFat c (hv.inFat hc')
  rw [Fat32Fs.fat32ReadFatEntry_eq h.sound.reliable] at hfst hsound hword ⊢
  have hframe := fs.fetch_frame (fs.vol.fatSector c)
  refine ⟨hfst.trans (h.next c hc), ?_⟩
  exact h.of_frame hsound hframe.1 hframe.2.1 (Fat32Fs.sameData_fetch h.sound.coherent hv _) hword

lemma writeFat (hv : v.Regular) (h : Shows v fs t) (hc : v.Cluster c) (value : Nat) :
    (fat32WriteFatEntry fs c value).1 = 0 ∧ Shows v (fat32WriteFatEntry fs c value).2 (t.setNext c value) := by
  obtain rfl := h.vol
  have hsound := h.sound.writeFat (hv.inFat hc) value
  have hword := fun c' (hc' : fs.vol.Cluster c') =>
    h.sound.fatWord_writeFat (hv.inFat hc) value (hv.inFat hc')
  have hdata := Fat32Fs.sameData_fetch h.sound.coherent hv (fs.vol.fatSector c)
  have hframe := fs.fetch_frame (fs.vol.fatSector c)
  refine ⟨h.sound.writeFat_fst c value, ?_⟩
  rw [Fat32Fs.fat32WriteFatEntry_eq h.sound.reliable h.sound.writable] at hsound hword ⊢
  refine ⟨hsound, hframe.1, fun c' hc' => ?_, fun c' hc' => ?_, hframe.2.1.trans h.info⟩
  · refine (congrArg clusterMask (hword c' hc')).trans ?_
    by_cases hcc : c' = c
    · subst hcc
      rw [if_pos rfl, Fat32Fs.clusterMask_mergeWord]
      exact (Function.update_self c' (clusterMask value) t.next).symm
    · rw [if_neg hcc]
      refine (h.next c' hc').trans ?_
      exact (Function.update_of_ne hcc (clusterMask value) t.next).symm
  · exact (data_of_sameData hframe.1 hdata c').trans (h.data c' hc')

lemma readCluster (hv : v.Regular) (h : Shows v fs t) (hc : v.Cluster c) :
    fat32ReadCluster fs c = .ok (t.data c) := by
  obtain rfl := h.vol
  rw [fat32ReadCluster, if_pos (hv.valid hc), h.sound.reliable.readSectors_eq, ← h.data c hc,
    hv.sector_eq hc, ← hv.size]
  rfl

lemma writeCluster (hv : v.Regular) (h : Shows v fs t) (hc : v.Cluster c) (buf : Mem) :
    (fat32WriteCluster fs c buf).1 = 0 ∧ Shows v (fat32WriteCluster fs c buf).2
      (t.setData c (slice buf 0 v.bytesPerCluster)) := by
  obtain rfl := h.vol
  rw [fat32WriteCluster, if_neg (by simp [h.sound.writable]), if_pos (hv.valid hc),
    h.sound.reliable.writeSectors_eq]
  dsimp only
  have hprimary : ∀ s, fs.vol.Primary s → s * 512 + 512 ≤ fs.vol.clusterAddr c := by
    intro s hs
    have hhigh := hs.2
    have hfats := Nat.mul_le_mul_right fs.vol.fatSectors hv.layout.hasFat
    have hdata := hv.apart.data
    exact Nat.le_trans (by omega) (fs.vol.dataStart_le c)
  have hsame : ∀ s, fs.vol.Primary s →
      slice (fs.device.written (fat32ClusterToSector fs.vol c) fs.vol.sectorsPerCluster buf).bytes
        (s * 512) 512 = slice fs.device.bytes (s * 512) 512 := by
    intro s hs
    rw [Device.written_bytes, hv.sector_eq hc, slice_paste_apart (.inl (hprimary s hs))]
  refine ⟨rfl, h.sound.of_device rfl rfl h.sound.reliable.written hsame, rfl,
    fun c' hc' => ?_, fun c' hc' => ?_, h.info⟩
  · refine Eq.trans ?_ (h.next c' hc')
    exact congrArg clusterMask (h.sound.fatWord_of_device rfl rfl hsame (hv.inFat hc'))
  · rw [Fat32Fs.view]
    dsimp only [View.setData]
    rw [Device.written_bytes, hv.sector_eq hc, ← hv.size]
    by_cases hcc : c' = c
    · subst hcc
      rw [slice_paste_self, Function.update_self]
    · rw [slice_paste_apart (hv.clusterAddr_apart hc hc' hcc), Function.update_of_ne hcc]
      exact h.data c' hc'

lemma writeFsinfo (hv : v.Regular) (h : Shows v fs t) :
    ∃ info, Shows v (fat32WriteFsinfo fs).2 { t with info := info } := by
  obtain rfl := h.vol
  rw [fat32WriteFsinfo, if_neg (by simp [h.sound.writable])]
  split_ifs with hnone
  · exact ⟨t.info, h⟩
  · rw [h.sound.reliable.readSectors_eq]
    dsimp only
    rw [h.sound.reliable.writeSectors_eq]
    dsimp only
    have hinfo := hv.apart.info
    have hbelow : fs.vol.fsInfoSector < fs.vol.dataStartSector := by
      have := hv.info
      omega
    have hfats := Nat.mul_le_mul_right fs.vol.fatSectors hv.layout.hasFat
    refine ⟨{ t.info with dirty := false }, ?_⟩
    generalize writeLE _ 492 4 _ = sector
    have hsame : ∀ s, fs.vol.Primary s → slice (fs.device.written fs.vol.fsInfoSector 1 sector).bytes (s * 512) 512 =
          slice fs.device.bytes (s * 512) 512 := by
      rintro s ⟨hlow, hhigh⟩
      exact Fat32Fs.slice_written_ne _ (by omega) _
    refine ⟨h.sound.of_device rfl rfl h.sound.reliable.written hsame, rfl, fun c hc => ?_,
      fun c hc => ?_, ?_⟩
    · refine Eq.trans ?_ (h.next c hc)
      exact congrArg clusterMask (h.sound.fatWord_of_device rfl rfl hsame (hv.inFat hc))
    · refine Eq.trans ?_ (h.data c hc)
      exact (sameData_written fs.device sector hbelow).slice c _
    · dsimp only
      rw [h.info]

lemma sync (hv : v.Regular) (h : Shows v fs t) : ∃ info, Shows v (fat32Sync fs).2 { t with info := info } := by
  obtain rfl := h.vol
  have hflush : Shows fs.vol (fat32FlushFatCache fs).2 t := by
    obtain ⟨-, hsound, hvol, -, -⟩ := h.sound.flush
    have hkeep := (Fat32Fs.flushFrom_invariant
      (J := fun u => u.vol = fs.vol ∧ u.info = fs.info ∧ SameData fs.vol fs.device u.device)
      (fun u i hu hJ => ⟨hJ.1, hJ.2.1, hJ.2.2.trans
        (hJ.1 ▸ Fat32Fs.sameData_mirrored hu.coherent (hJ.1.symm ▸ hv) i)⟩)
      (List.finRange 16) h.sound ⟨rfl, rfl, fun _ _ => rfl⟩).2.2
    rw [← h.sound.flush_eq] at hkeep
    exact h.of_frame hsound hkeep.1 hkeep.2.1 hkeep.2.2 fun c hc =>
      h.sound.fatWord_flush (hv.inFat hc)
  unfold fat32Sync
  rcases hpair : fat32FlushFatCache fs with ⟨result, fs₁⟩
  rw [hpair] at hflush
  dsimp only at hflush ⊢
  split_ifs
  · exact ⟨_, hflush⟩
  · exact hflush.writeFsinfo hv
  · exact ⟨_, hflush⟩
  · exact ⟨_, h⟩

/-- **One call** is answered as the tables answer it. -/
lemma call (hv : v.Regular) (h : Shows v fs t) (call : FatCall) (hpre : (fatSpec v).pre call t) :
    ∃ u, (fatSpec v).post call t (fatMachine call fs).1 u ∧ Shows v (fatMachine call fs).2 u := by
  cases call with
  | readFat cluster =>
    obtain ⟨hres, hshows⟩ := h.readFat hv hpre
    exact ⟨t, ⟨hres, rfl⟩, hshows⟩
  | writeFat cluster value =>
    obtain ⟨hres, hshows⟩ := h.writeFat hv hpre value
    exact ⟨_, ⟨hres, rfl⟩, hshows⟩
  | readCluster cluster => exact ⟨t, ⟨h.readCluster hv hpre, rfl⟩, h⟩
  | writeCluster cluster buf =>
    obtain ⟨hres, hshows⟩ := h.writeCluster hv hpre buf
    exact ⟨_, ⟨hres, rfl⟩, hshows⟩
  | getInfo => exact ⟨t, ⟨h.info, rfl⟩, h⟩
  | setInfo info =>
    refine ⟨{ t with info := info }, rfl, ?_⟩
    exact ⟨h.sound.of_device rfl rfl h.sound.reliable fun _ _ => rfl, h.vol, h.next, h.data, rfl⟩

/-- **A whole routine** returns on the driver's state, with what was proved on the tables. -/
theorem run {α : Type} {p : FatProg α} {Q : α → View → Prop} (hv : v.Regular) (h : Shows v fs t)
    (hwp : p.wp (fatSpec v) Q t) :
    ∃ a fs' u, p.run fatMachine fs = some (a, fs') ∧ Shows v fs' u ∧ Q a u :=
  Prog.simulates (fun call _ _ hshows _ hpre => hshows.call hv call hpre) h
    (Prog.wp_assuming (P := fun _ => True) hwp)
    (Prog.along_of_forall (fun _ _ => trivial) p fs)

end Shows

lemma Fat32Fs.shows_view {fs : Fat32Fs} (hfs : fs.Sound) : Shows fs.vol fs fs.view :=
  ⟨hfs, rfl, fun _ _ => rfl, fun _ _ => rfl, rfl⟩

/-! ## The calls on the tables -/

namespace FatProg

variable {v : Volume} {t : View} {c : Nat}

@[simp] lemma wp_readFat {Q : Nat → View → Prop} : (readFat c).wp (fatSpec v) Q t ↔ v.Cluster c ∧ Q (t.next c) t := by
  refine and_congr_right fun _ => ⟨fun h => h _ _ ⟨rfl, rfl⟩, ?_⟩
  rintro h r u ⟨rfl, rfl⟩
  exact h

@[simp] lemma wp_writeFat {value : Nat} {Q : Int → View → Prop} :
    (writeFat c value).wp (fatSpec v) Q t ↔ v.Cluster c ∧ Q 0 (t.setNext c value) := by
  refine and_congr_right fun _ => ⟨fun h => h _ _ ⟨rfl, rfl⟩, ?_⟩
  rintro h r u ⟨rfl, rfl⟩
  exact h

@[simp] lemma wp_readCluster {Q : Except Int Mem → View → Prop} :
    (readCluster c).wp (fatSpec v) Q t ↔ v.Cluster c ∧ Q (.ok (t.data c)) t := by
  refine and_congr_right fun _ => ⟨fun h => h _ _ ⟨rfl, rfl⟩, ?_⟩
  rintro h r u ⟨rfl, rfl⟩
  exact h

@[simp] lemma wp_writeCluster {buf : Mem} {Q : Int → View → Prop} : (writeCluster c buf).wp (fatSpec v) Q t ↔
      v.Cluster c ∧ Q 0 (t.setData c (slice buf 0 v.bytesPerCluster)) := by
  refine and_congr_right fun _ => ⟨fun h => h _ _ ⟨rfl, rfl⟩, ?_⟩
  rintro h r u ⟨rfl, rfl⟩
  exact h

end FatProg

end AAAos
