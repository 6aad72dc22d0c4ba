import AAAos.Fs.Fat32.FatCache

/-!
# The geometry of a mounted volume

`fat32_mount` computes where the FAT and the clusters lie from the fields of the boot sector, in 32 bits, and checks
little of it: the signature, that the sector size and the cluster size are of the right kind, and that it is a FAT32
volume.  Nothing compares the FAT with the number of clusters, or the areas with the size of the volume.

**What goes wrong.**  A FAT that is too small has no entries for the last clusters (`mount_small_fat`), areas larger than
the volume make the subtraction wrap, and a sector larger than 512 bytes has entries behind the end of a cache slot.
`fat32_cluster_is_valid` looks at 28 bits of a cluster number, and the computations use all of them.

**What is proved.**  For every boot sector and every cluster, exactly when the entry and the sectors of the cluster are
where they belong (`geometry_safe_iff`), and that every cluster is so on a volume of 512-byte sectors whose areas fit,
with a FAT that covers its clusters (`geometrySafe_of_covered`).
-/

namespace AAAos

/-! ## What is to hold of a cluster -/

/-- `total_sectors`, of the two fields of the boot sector. -/
def bootTotalSectors (sector : Mem) : Nat :=
  if readLE sector 32 4 ≠ 0 then readLE sector 32 4 else readLE sector 19 2

/-- The sectors in front of the data area, not cut to 32 bits. -/
def bootDataStart (sector : Mem) : Nat := readLE sector 14 2 + readLE sector 16 1 * readLE sector 36 4

/-- The entry of a cluster lies in the FAT and in a cache slot, its sectors lie in the data area, and no computation of
these wraps. -/
structure GeometrySafe (sector : Mem) (v : Volume) (cluster : Nat) : Prop where
  areas : bootDataStart sector < 2 ^ 32 ∧ v.dataStartSector ≤ bootTotalSectors sector
  entryWraps : cluster * 4 < 2 ^ 32 ∧ v.fatStartSector + cluster * 4 / v.bytesPerSector < 2 ^ 32
  entrySector : v.fatStartSector ≤ v.fatSector cluster ∧ v.fatSector cluster < v.fatStartSector + v.fatSectors
  entryOffset : v.entryOffset cluster + 4 ≤ 512
  sectorsWrap : 2 ≤ cluster ∧ v.dataStartSector + (cluster - 2) * v.sectorsPerCluster < 2 ^ 32
  sectors : ∀ k < v.sectorsPerCluster, v.dataStartSector ≤ fat32ClusterToSector v cluster + k ∧
    fat32ClusterToSector v cluster + k < bootTotalSectors sector

/-- The fields of the boot sector put the cluster where it belongs: the areas fit the volume, the cluster is one of those
that fit the data area, and its entry is one of those that fit the FAT and end before a slot does. -/
structure GeometryFits (sector : Mem) (cluster : Nat) : Prop where
  areas : bootDataStart sector ≤ bootTotalSectors sector
  inData : cluster < 2 + (bootTotalSectors sector - bootDataStart sector) / readLE sector 13 1
  entry : cluster < 2 ^ 30 ∧ cluster * 4 / readLE sector 11 2 < readLE sector 36 4 ∧
    readLE sector 14 2 + cluster * 4 / readLE sector 11 2 < 2 ^ 32
  slot : cluster * 4 % readLE sector 11 2 ≤ 508

section Geometry

variable {sector : Mem} {cluster : Nat}

lemma bootTotalSectors_lt (sector : Mem) : bootTotalSectors sector < 2 ^ 32 := by
  have h32 := readLE_lt sector 32 4
  have h16 := readLE_lt sector 19 2
  unfold bootTotalSectors
  split_ifs <;> omega

lemma mount_geometry {d : Device} {fs : Fat32Fs} (hmount : fat32Mount d = some fs)
    (hsector : d.readSectors 0 1 = some sector) : bootSectorOk sector = true ∧ fs.vol = mountGeometry sector := by
  unfold fat32Mount at hmount
  rw [hsector] at hmount
  simp only [Option.ite_none_right_eq_some, Option.some.injEq] at hmount
  obtain ⟨hok, rfl⟩ := hmount
  exact ⟨hok, rfl⟩

lemma bootSectorOk_sizes (h : bootSectorOk sector = true) : 512 ≤ readLE sector 11 2 ∧ 0 < readLE sector 13 1 := by
  unfold bootSectorOk at h
  simp only [Bool.and_eq_true, Bool.or_eq_true, beq_iff_eq, bne_iff_ne, ne_eq] at h
  obtain ⟨⟨⟨-, hsize⟩, hspc, -⟩, -⟩ := h
  omega

lemma dataStart_eq (h : bootDataStart sector < 2 ^ 32) :
    (mountGeometry sector).dataStartSector = bootDataStart sector := by
  unfold bootDataStart at h
  change u32 (readLE sector 14 2 + u32 (readLE sector 16 1 * readLE sector 36 4)) = bootDataStart sector
  unfold bootDataStart u32
  rw [Nat.mod_eq_of_lt (show readLE sector 16 1 * readLE sector 36 4 < 2 ^ 32 by omega), Nat.mod_eq_of_lt h]

/-- Where nothing wraps, the first sector of a cluster is what it is meant to be. -/
lemma fat32ClusterToSector_eq {v : Volume} (hc : 2 ≤ cluster)
    (h : v.dataStartSector + (cluster - 2) * v.sectorsPerCluster < 2 ^ 32) :
    fat32ClusterToSector v cluster = v.dataStartSector + (cluster - 2) * v.sectorsPerCluster := by
  have hwrap : (cluster + 2 ^ 32 - 2) * v.sectorsPerCluster =
      (cluster - 2) * v.sectorsPerCluster + 2 ^ 32 * v.sectorsPerCluster := by
    rw [← Nat.add_mul]
    congr 1
    omega
  rw [fat32ClusterToSector, firstDataCluster, u32, hwrap, ← Nat.add_assoc, Nat.add_mul_mod_self_left, Nat.mod_eq_of_lt h]

lemma lt_clusters_iff {spc room : Nat} (hspc : 0 < spc) (hc : 2 ≤ cluster) :
    cluster < 2 + room / spc ↔ (cluster - 2) * spc + spc ≤ room := by
  rw [← Nat.succ_mul, ← Nat.le_div_iff_mul_le hspc]
  omega

/-- **One cluster.** -/
lemma geometrySafe_iff_fits (hok : bootSectorOk sector = true) (hc : 2 ≤ cluster) :
    GeometrySafe sector (mountGeometry sector) cluster ↔ GeometryFits sector cluster := by
  obtain ⟨hsize, hspc⟩ := bootSectorOk_sizes hok
  have htotal := bootTotalSectors_lt sector
  have hstart : (mountGeometry sector).fatStartSector = readLE sector 14 2 := rfl
  have hfat : (mountGeometry sector).fatSectors = readLE sector 36 4 := rfl
  have hbytes : (mountGeometry sector).bytesPerSector = readLE sector 11 2 := rfl
  have hcluster : (mountGeometry sector).sectorsPerCluster = readLE sector 13 1 := rfl
  have hoffset : cluster * 4 < 2 ^ 32 → Volume.fatOffset cluster = cluster * 4 := fun h => Nat.mod_eq_of_lt h
  constructor
  · intro h
    have hdata := dataStart_eq h.areas.1
    have hle := h.areas.2
    rw [hdata] at hle
    have hlast := (h.sectors (readLE sector 13 1 - 1) (by rw [hcluster]; omega)).2
    rw [fat32ClusterToSector_eq hc h.sectorsWrap.2, hdata, hcluster] at hlast
    have hentry := h.entrySector.2
    rw [Volume.fatSector, hoffset h.entryWraps.1, u32, Nat.mod_eq_of_lt h.entryWraps.2, hstart, hfat, hbytes] at hentry
    have hwraps := h.entryWraps
    rw [hstart, hbytes] at hwraps
    have hslot := h.entryOffset
    rw [Volume.entryOffset, hoffset h.entryWraps.1, hbytes] at hslot
    refine ⟨hle, ?_, ⟨by omega, by omega, hwraps.2⟩, by omega⟩
    rw [lt_clusters_iff hspc hc]
    omega
  · intro h
    have hareas := h.areas
    have hdata := dataStart_eq (lt_of_le_of_lt hareas htotal)
    have hroom := (lt_clusters_iff hspc hc).mp h.inData
    obtain ⟨h30, hentry, hsum⟩ := h.entry
    have hwraps : cluster * 4 < 2 ^ 32 := by omega
    have hsector : (mountGeometry sector).fatSector cluster = readLE sector 14 2 + cluster * 4 / readLE sector 11 2 := by
      rw [Volume.fatSector, hoffset hwraps, u32, hstart, hbytes, Nat.mod_eq_of_lt hsum]
    have hfirst : (mountGeometry sector).dataStartSector + (cluster - 2) * (mountGeometry sector).sectorsPerCluster < 2 ^ 32 := by
      rw [hdata, hcluster]
      omega
    refine ⟨⟨lt_of_le_of_lt hareas htotal, hdata ▸ hareas⟩, ⟨hwraps, hsum⟩, ?_, ?_, ⟨hc, hfirst⟩, fun k hk => ?_⟩
    · rw [hsector, hstart, hfat]
      exact ⟨Nat.le_add_right _ _, Nat.add_lt_add_left hentry _⟩
    · have hslot := h.slot
      rw [Volume.entryOffset, hoffset hwraps, hbytes]
      omega
    · rw [fat32ClusterToSector_eq hc hfirst, hdata, hcluster]
      rw [hcluster] at hk
      omega

/-- **The geometry of a mounted volume**, for every boot sector and every cluster that is accepted.  The entry and the
sectors of the cluster are where they belong exactly if the fields of the boot sector fit each other and the cluster. -/
theorem geometry_safe_iff {d : Device} {fs : Fat32Fs} (hmount : fat32Mount d = some fs)
    (hsector : d.readSectors 0 1 = some sector) (hvalid : fat32ClusterIsValid fs.vol cluster = true) :
    GeometrySafe sector fs.vol cluster ↔ GeometryFits sector cluster := by
  obtain ⟨hok, hvol⟩ := mount_geometry hmount hsector
  rw [fat32ClusterIsValid, Bool.and_eq_true, decide_eq_true_eq] at hvalid
  have hmask : clusterMask cluster ≤ cluster := Nat.mod_le _ _
  rw [hvol]
  exact geometrySafe_iff_fits hok (le_trans hvalid.1 hmask)

/-- On a volume whose areas fit, and whose FAT covers its clusters, every cluster number of 28 bits is safe. -/
theorem geometrySafe_of_covered {d : Device} {fs : Fat32Fs} (hmount : fat32Mount d = some fs)
    (hsector : d.readSectors 0 1 = some sector) (hsize : fs.vol.bytesPerSector = 512) (hnum : 1 ≤ fs.vol.numFats)
    (hareas : bootDataStart sector ≤ bootTotalSectors sector)
    (hcovers : 2 + fs.vol.totalClusters ≤ 128 * fs.vol.fatSectors) (hc : cluster < 2 ^ 28)
    (hvalid : fat32ClusterIsValid fs.vol cluster = true) : GeometrySafe sector fs.vol cluster := by
  obtain ⟨hok, hvol⟩ := mount_geometry hmount hsector
  obtain ⟨-, hspc⟩ := bootSectorOk_sizes hok
  rw [hvol] at hsize hnum hcovers hvalid ⊢
  have hmask : clusterMask cluster = cluster := Nat.mod_eq_of_lt hc
  rw [fat32ClusterIsValid, Bool.and_eq_true, decide_eq_true_eq, decide_eq_true_eq, hmask] at hvalid
  have htotal := bootTotalSectors_lt sector
  have hdata := dataStart_eq (lt_of_le_of_lt hareas htotal)
  have hclusters : (mountGeometry sector).totalClusters =
      (bootTotalSectors sector - bootDataStart sector) / readLE sector 13 1 := by
    change u32 (bootTotalSectors sector + 2 ^ 32 - (mountGeometry sector).dataStartSector) / readLE sector 13 1 = _
    rw [hdata, u32, show bootTotalSectors sector + 2 ^ 32 - bootDataStart sector =
      bootTotalSectors sector - bootDataStart sector + 2 ^ 32 by omega, Nat.add_mod_right, Nat.mod_eq_of_lt (by omega)]
  have hbytes : readLE sector 11 2 = 512 := hsize
  have hlt : cluster < 2 + (mountGeometry sector).totalClusters := lt_of_lt_of_le hvalid.2 (Nat.mod_le _ _)
  have hentry : cluster * 4 / 512 < readLE sector 36 4 := by
    have hfat : (mountGeometry sector).fatSectors = readLE sector 36 4 := rfl
    omega
  have hfats : readLE sector 14 2 + readLE sector 36 4 ≤ bootDataStart sector :=
    Nat.add_le_add_left (Nat.le_mul_of_pos_left _ hnum) _
  refine (geometrySafe_iff_fits hok hvalid.1).mpr ⟨hareas, hclusters ▸ hlt, ⟨by omega, ?_, ?_⟩, ?_⟩
  · rw [hbytes]
    exact hentry
  · rw [hbytes]
    omega
  · rw [hbytes]
    omega

end Geometry

/-- One reserved sector, two FATs without a sector, and fifteen clusters. -/
def noFatDisk : Device := ⟨blankBytes 1 2 16 0, fun _ => false, fun _ => false⟩

/-- It is mounted, and the entry of cluster 2 is read from the first sector of the data area. -/
theorem mount_small_fat : ∃ fs sector, fat32Mount noFatDisk = some fs ∧ noFatDisk.readSectors 0 1 = some sector ∧
    fat32ClusterIsValid fs.vol 2 = true ∧ ¬ GeometrySafe sector fs.vol 2 := by
  have hsector : noFatDisk.readSectors 0 1 = some (slice noFatDisk.bytes (0 * 512) (1 * 512)) :=
    Device.Reliable.readSectors_eq (fun _ => ⟨rfl, rfl⟩) 0 1
  have hok : bootSectorOk (slice noFatDisk.bytes (0 * 512) (1 * 512)) = true := by decide
  have hfat : readLE (slice noFatDisk.bytes (0 * 512) (1 * 512)) 36 4 = 0 := by decide
  obtain ⟨fs, hmount⟩ : ∃ fs, fat32Mount noFatDisk = some fs := by
    unfold fat32Mount
    rw [hsector]
    dsimp only
    rw [if_pos hok]
    exact ⟨_, rfl⟩
  have hvol := (mount_geometry hmount hsector).2
  refine ⟨fs, _, hmount, hsector, ?_, ?_⟩
  · rw [hvol]
    decide
  · rw [hvol, geometrySafe_iff_fits hok le_rfl]
    intro h
    have hentry := h.entry.2.1
    rw [hfat] at hentry
    exact absurd hentry (Nat.not_lt_zero _)

/-- The small volume, and its first cluster. -/
theorem geometry_safe_tiny : GeometrySafe (slice tinyDisk.bytes (0 * 512) (1 * 512)) tinyFs.vol 2 := by
  have hfits : GeometryFits (slice tinyDisk.bytes (0 * 512) (1 * 512)) 2 :=
    ⟨by decide, by decide, ⟨by decide, by decide, by decide⟩, by decide⟩
  exact (geometry_safe_iff mount_tinyDisk (tinyDisk_reliable.readSectors_eq 0 1) (by decide)).mpr hfits

/-- Its last cluster. -/
theorem geometrySafe_last : GeometrySafe (slice tinyDisk.bytes (0 * 512) (1 * 512)) tinyFs.vol 14 :=
  geometrySafe_of_covered mount_tinyDisk (tinyDisk_reliable.readSectors_eq 0 1) rfl (by decide) (by decide)
    (by decide) (by decide) (by decide)

end AAAos
