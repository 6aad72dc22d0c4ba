import AAAos.Fs.Fat32.Fat32

/-!
# The FAT cache is transparent

What the driver holds of a FAT sector is its `line`: the data of the slot that holds the sector,
or the sector on disk.  `Coherent` is what keeps the two apart from contradicting each other: no
sector in two slots, only sectors of the primary FAT dirty, and a clean slot equal to the disk.

Both access paths do the same on a device that never fails: they `fetch` the sector into a slot,
writing the victim back first.  `fetch_cases` says once what that can do, and everything else
here is read off it: fetching changes no line, storing changes one word of one line, and flushing
makes the disk equal to the lines.
-/

namespace AAAos

/-! ## Where the FAT lies -/

namespace Volume

variable {v : Volume} {c s : Nat}

/-- 512-byte sectors, and at least one FAT, all of them below sector `2 ^ 32`. -/
structure FatLayout (v : Volume) : Prop where
  sector512 : v.bytesPerSector = 512
  hasFat : 1 ≤ v.numFats
  fits : v.fatStartSector + v.numFats * v.fatSectors ≤ 2 ^ 32

/-- Sectors of the primary FAT. -/
def Primary (v : Volume) (s : Nat) : Prop :=
  v.fatStartSector ≤ s ∧ s < v.fatStartSector + v.fatSectors

instance (v : Volume) (s : Nat) : Decidable (v.Primary s) := inferInstanceAs (Decidable (_ ∧ _))

/-- Clusters with an entry inside the FAT, at an offset that 32 bits can hold. -/
def InFat (v : Volume) (c : Nat) : Prop := c < 2 ^ 30 ∧ c / 128 < v.fatSectors

instance (v : Volume) (c : Nat) : Decidable (v.InFat c) := inferInstanceAs (Decidable (_ ∧ _))

lemma FatLayout.primary_lt (hv : v.FatLayout) (hs : v.Primary s) : s < 2 ^ 32 := by
  have := hv.fits
  have := Nat.mul_le_mul_right v.fatSectors hv.hasFat
  have := hs.2
  omega

lemma FatLayout.backup_lt (hv : v.FatLayout) (hnum : 1 < v.numFats) (hs : v.Primary s) :
    s + v.fatSectors < 2 ^ 32 := by
  have := hv.fits
  have := Nat.mul_le_mul_right v.fatSectors hnum
  have := hs.2
  omega

lemma FatLayout.fatSector_eq (hv : v.FatLayout) (hc : v.InFat c) : v.fatSector c = v.fatStartSector + c / 128 := by
  have hprimary : v.Primary (v.fatStartSector + c / 128) := ⟨by omega, by have := hc.2; omega⟩
  have hlt := hv.primary_lt hprimary
  have hoffset : c * 4 % 2 ^ 32 = c * 4 := Nat.mod_eq_of_lt (by have := hc.1; omega)
  rw [fatSector, fatOffset, u32, u32, hoffset, hv.sector512,
    show c * 4 / 512 = c / 128 by omega, Nat.mod_eq_of_lt hlt]

lemma FatLayout.entryOffset_eq (hv : v.FatLayout) (c : Nat) : v.entryOffset c = 4 * (c % 128) := by
  rw [entryOffset, fatOffset, u32, hv.sector512]
  omega

lemma FatLayout.primary_fatSector (hv : v.FatLayout) (hc : v.InFat c) : v.Primary (v.fatSector c) := by
  rw [hv.fatSector_eq hc]
  exact ⟨by omega, by have := hc.2; omega⟩

end Volume

/-! ## A device that never fails -/

def Device.Reliable (d : Device) : Prop := ∀ s, d.readFails s = false ∧ d.writeFails s = false

namespace Device

variable {d : Device} {lba count : Nat} {buf : Mem}

/-- The device after a write. -/
def written (d : Device) (lba count : Nat) (buf : Mem) : Device :=
  { d with bytes := paste d.bytes (lba * 512) (count * 512) buf }

@[simp] lemma written_bytes : (d.written lba count buf).bytes = paste d.bytes (lba * 512) (count * 512) buf := rfl

lemma Reliable.written (hd : d.Reliable) : (d.written lba count buf).Reliable := hd

lemma Reliable.readSectors_eq (hd : d.Reliable) (lba count : Nat) :
    d.readSectors lba count = some (slice d.bytes (lba * 512) (count * 512)) := by
  rw [readSectors, if_neg]
  · rfl
  · simp [(hd _).1]

lemma Reliable.writeSectors_eq (hd : d.Reliable) (lba count : Nat) (buf : Mem) :
    d.writeSectors lba count buf = some (d.written lba count buf) := by
  rw [writeSectors, if_neg]
  · rfl
  · simp [(hd _).2]

end Device

/-! ## The search of the cache -/

/-- Slot `i` holds sector `s`. -/
def Holds (cache : CacheSlot → CacheEntry) (i : CacheSlot) (s : Nat) : Prop :=
  (cache i).valid = true ∧ (cache i).sector = s

section Scan

variable {cache : CacheSlot → CacheEntry} {s : Nat} {l : List CacheSlot} {i o : CacheSlot}

lemma scanFrom_cons : scanFrom cache s (i :: l) o = if (cache i).valid && (cache i).sector == s then (some i, o)
    else scanFrom cache s l (if (cache i).valid then o else i) := rfl

lemma scanFrom_hit (h : (scanFrom cache s l o).1 = some i) : Holds cache i s := by
  induction l generalizing o with
  | nil => cases h
  | cons j rest ih =>
    by_cases hj : ((cache j).valid && (cache j).sector == s) = true
    · rw [scanFrom_cons, if_pos hj] at h
      cases h
      simpa [Holds] using hj
    · rw [scanFrom_cons, if_neg hj] at h
      exact ih h

lemma scanFrom_miss (h : (scanFrom cache s l o).1 = none) : ∀ j ∈ l, ¬ Holds cache j s := by
  induction l generalizing o with
  | nil => simp
  | cons j rest ih =>
    by_cases hj : ((cache j).valid && (cache j).sector == s) = true
    · rw [scanFrom_cons, if_pos hj] at h
      cases h
    · rw [scanFrom_cons, if_neg hj] at h
      intro k hk
      rcases List.mem_cons.mp hk with rfl | hk
      · rintro ⟨hvalid, hsector⟩
        exact hj (by simp [hvalid, hsector])
      · exact ih h k hk

/-- `oldest_idx` is an invalid slot, or the one the search started with if there is none. -/
lemma scanFrom_oldest (h : (scanFrom cache s l o).1 = none) : (cache (scanFrom cache s l o).2).valid = false ∨
      (scanFrom cache s l o).2 = o ∧ ∀ j ∈ l, (cache j).valid = true := by
  induction l generalizing o with
  | nil => exact .inr ⟨rfl, by simp⟩
  | cons j rest ih =>
    rw [scanFrom_cons] at h ⊢
    split_ifs at h ⊢ with hj hvalid
    · refine (ih h).imp_right fun ⟨heq, hrest⟩ => ⟨heq, ?_⟩
      intro k hk
      rcases List.mem_cons.mp hk with rfl | hk
      · exact hvalid
      · exact hrest k hk
    · refine .inl ((ih h).elim id fun ⟨heq, _⟩ => ?_)
      rw [heq]
      simpa using hvalid

end Scan

/-! ## The logical FAT -/

namespace Fat32Fs

variable {fs : Fat32Fs} {i : CacheSlot} {s c : Nat}

/-- Sector `s` as the driver holds it. -/
def line (fs : Fat32Fs) (s : Nat) : Mem :=
  match (scanCache fs.fatCache s).1 with
  | some i => (fs.fatCache i).data
  | none => slice fs.device.bytes (s * 512) 512

/-- The 32-bit FAT word of a cluster as the driver holds it. -/
def fatWord (fs : Fat32Fs) (c : Nat) : Nat :=
  readLE (fs.line (fs.vol.fatSector c)) (fs.vol.entryOffset c) 4

/-- What relates the cache to the disk. -/
structure Coherent (fs : Fat32Fs) : Prop where
  unique : ∀ i j s, Holds fs.fatCache i s → Holds fs.fatCache j s → i = j
  dirty : ∀ i, (fs.fatCache i).dirty = true → (fs.fatCache i).valid = true ∧ fs.vol.Primary (fs.fatCache i).sector
  clean : ∀ i s, Holds fs.fatCache i s → fs.vol.Primary s → (fs.fatCache i).dirty = false →
    (fs.fatCache i).data = slice fs.device.bytes (s * 512) 512
  clipped : ∀ i, (fs.fatCache i).valid = true → slice (fs.fatCache i).data 0 512 = (fs.fatCache i).data

lemma line_of_holds (hfs : fs.Coherent) (hi : Holds fs.fatCache i s) : fs.line s = (fs.fatCache i).data := by
  unfold line
  cases hscan : (scanCache fs.fatCache s).1 with
  | none => exact absurd hi (scanFrom_miss hscan i (List.mem_finRange i))
  | some j =>
    rw [hfs.unique j i s (scanFrom_hit hscan) hi]

lemma line_of_not_held (h : ∀ i, ¬ Holds fs.fatCache i s) : fs.line s = slice fs.device.bytes (s * 512) 512 := by
  unfold line
  cases hscan : (scanCache fs.fatCache s).1 with
  | none => rfl
  | some j => exact absurd (scanFrom_hit hscan) (h j)

/-! ## Fetching a sector -/

/-- The device after slot `i` is written back, if it has to be. -/
def spilled (fs : Fat32Fs) (i : CacheSlot) : Device :=
  if (fs.fatCache i).dirty then
    fs.device.written (fs.fatCache i).sector 1 (fs.fatCache i).data
  else fs.device

/-- Sector `s` read into slot `i`. -/
def loaded (fs : Fat32Fs) (i : CacheSlot) (s : Nat) : Fat32Fs :=
  { fs with device := fs.spilled i }.setSlot i
    ⟨s, false, true, slice (fs.spilled i).bytes (s * 512) 512⟩

/-- What both access paths do before they touch the word. -/
def fetch (fs : Fat32Fs) (s : Nat) : CacheSlot × Fat32Fs :=
  match scanCache fs.fatCache s with
  | (some i, _) => (i, fs)
  | (none, i) => (i, fs.loaded i s)

/-- A fetch finds the sector, or loads it into an invalid slot, or into slot 0 if all are in
use. -/
lemma fetch_cases (fs : Fat32Fs) (s : Nat) : (∃ i, Holds fs.fatCache i s ∧ fs.fetch s = (i, fs)) ∨
      ∃ i, (∀ j, ¬ Holds fs.fatCache j s) ∧
        ((fs.fatCache i).valid = false ∨ i = 0 ∧ ∀ j, (fs.fatCache j).valid = true) ∧
        fs.fetch s = (i, fs.loaded i s) := by
  unfold fetch
  cases hscan : scanCache fs.fatCache s with
  | mk hit oldest =>
    cases hit with
    | some i => exact .inl ⟨i, scanFrom_hit (o := 0) (congrArg Prod.fst hscan), rfl⟩
    | none =>
      have hmiss : (scanFrom fs.fatCache s (List.finRange 16) 0).1 = none :=
        congrArg Prod.fst hscan
      have hold : (scanFrom fs.fatCache s (List.finRange 16) 0).2 = oldest :=
        congrArg Prod.snd hscan
      have hvictim := scanFrom_oldest hmiss
      rw [hold] at hvictim
      refine .inr ⟨oldest, fun j => scanFrom_miss hmiss j (List.mem_finRange j), ?_, rfl⟩
      exact hvictim.imp_right fun h => ⟨h.1, fun j => h.2 j (List.mem_finRange j)⟩

lemma fat32ReadFatEntry_eq (hd : fs.device.Reliable) (c : Nat) : fat32ReadFatEntry fs c =
      (clusterMask (((fs.fetch (fs.vol.fatSector c)).2.fatCache
          (fs.fetch (fs.vol.fatSector c)).1).word (fs.vol.entryOffset c)),
        (fs.fetch (fs.vol.fatSector c)).2) := by
  unfold fat32ReadFatEntry fetch
  cases hscan : scanCache fs.fatCache (fs.vol.fatSector c) with
  | mk hit i =>
    cases hit with
    | some j => simp [hscan]
    | none =>
      have hspill : (if (fs.fatCache i).dirty = true then
          (fs.device.writeSectors (fs.fatCache i).sector 1 (fs.fatCache i).data).getD fs.device
          else fs.device) = fs.spilled i := by
        simp [spilled, hd.writeSectors_eq]
      have hspilled : (fs.spilled i).Reliable := by
        rw [spilled]
        split_ifs
        · exact hd.written
        · exact hd
      simp only [hscan, hspill, hspilled.readSectors_eq]
      simp [loaded, setSlot]

lemma fat32WriteFatEntry_eq (hd : fs.device.Reliable) (hrw : fs.vol.readonly = false) (c value : Nat) :
    fat32WriteFatEntry fs c value = (0, (fs.fetch (fs.vol.fatSector c)).2.setSlot (fs.fetch (fs.vol.fatSector c)).1
        (((fs.fetch (fs.vol.fatSector c)).2.fatCache (fs.fetch (fs.vol.fatSector c)).1).store
          (fs.vol.entryOffset c) value)) := by
  unfold fat32WriteFatEntry fetch
  rw [if_neg (by simp [hrw])]
  cases hscan : scanCache fs.fatCache (fs.vol.fatSector c) with
  | mk hit i =>
    cases hit with
    | some j => simp [hscan]
    | none =>
      by_cases hdirty : (fs.fatCache i).dirty = true
      · simp [hscan, writeBack, hdirty, hd.writeSectors_eq, setSlot, loaded, spilled, hd.written.readSectors_eq]
      · simp [hscan, writeBack, hdirty, setSlot, loaded, spilled, hd.readSectors_eq]

/-! ## Fetching changes no line -/

@[simp] lemma setSlot_vol (fs : Fat32Fs) (i : CacheSlot) (e : CacheEntry) : (fs.setSlot i e).vol = fs.vol := rfl

@[simp] lemma setSlot_fatCache_self (fs : Fat32Fs) (i : CacheSlot) (e : CacheEntry) :
    (fs.setSlot i e).fatCache i = e := by simp [setSlot]

lemma setSlot_fatCache_ne (fs : Fat32Fs) {i j : CacheSlot} (h : j ≠ i) (e : CacheEntry) :
    (fs.setSlot i e).fatCache j = fs.fatCache j := by simp [setSlot, h]

lemma holds_setSlot_ne {e : CacheEntry} {j : CacheSlot} (h : j ≠ i) :
    Holds (fs.setSlot i e).fatCache j s ↔ Holds fs.fatCache j s := by
  simp [Holds, setSlot_fatCache_ne fs h]

lemma holds_setSlot_self {e : CacheEntry} : Holds (fs.setSlot i e).fatCache i s ↔ e.valid = true ∧ e.sector = s := by
  simp [Holds]

lemma slice_written_self (d : Device) (s : Nat) (buf : Mem) :
    slice (d.written s 1 buf).bytes (s * 512) 512 = slice buf 0 512 := by
  simp [slice_paste_self]

lemma slice_written_ne (d : Device) {s s' : Nat} (h : s' ≠ s) (buf : Mem) :
    slice (d.written s 1 buf).bytes (s' * 512) 512 = slice d.bytes (s' * 512) 512 := by
  rw [Device.written_bytes, slice_paste_apart (by omega)]

/-- Writing a slot back leaves the sectors of the disk that the other slots may hold. -/
lemma slice_spilled (hfs : fs.Coherent) (h : ¬ Holds fs.fatCache i s) :
    slice (fs.spilled i).bytes (s * 512) 512 = slice fs.device.bytes (s * 512) 512 := by
  rw [spilled]
  split_ifs with hdirty
  · have hne : s ≠ (fs.fatCache i).sector := fun hs => h ⟨(hfs.dirty i hdirty).1, hs.symm⟩
    exact slice_written_ne _ hne _
  · rfl

lemma slice_spilled_self (hfs : fs.Coherent) (h : Holds fs.fatCache i s) (hs : fs.vol.Primary s) :
    slice (fs.spilled i).bytes (s * 512) 512 = (fs.fatCache i).data := by
  rw [spilled]
  split_ifs with hdirty
  · rw [← h.2, slice_written_self]
    exact hfs.clipped i h.1
  · exact (hfs.clean i s h hs (by simpa using hdirty)).symm

lemma Coherent.loaded (hfs : fs.Coherent) (hmiss : ∀ j, ¬ Holds fs.fatCache j s) : (fs.loaded i s).Coherent where
  unique := by
    intro j k s' hj hk
    by_cases hji : j = i
    · subst hji
      by_cases hkj : k = j
      · exact hkj.symm
      · rw [Fat32Fs.loaded, holds_setSlot_self] at hj
        rw [Fat32Fs.loaded, holds_setSlot_ne hkj, ← hj.2] at hk
        exact absurd hk (hmiss k)
    · rw [Fat32Fs.loaded, holds_setSlot_ne hji] at hj
      by_cases hki : k = i
      · subst hki
        rw [Fat32Fs.loaded, holds_setSlot_self] at hk
        rw [← hk.2] at hj
        exact absurd hj (hmiss j)
      · rw [Fat32Fs.loaded, holds_setSlot_ne hki] at hk
        exact hfs.unique j k s' hj hk
  dirty := by
    intro j hdirty
    by_cases hji : j = i
    · subst hji
      simp [Fat32Fs.loaded] at hdirty
    · rw [Fat32Fs.loaded, setSlot_fatCache_ne _ hji] at hdirty ⊢
      exact hfs.dirty j hdirty
  clean := by
    intro j s' hj hs' hclean
    by_cases hji : j = i
    · subst hji
      rw [Fat32Fs.loaded, holds_setSlot_self] at hj
      rw [Fat32Fs.loaded, setSlot_fatCache_self, ← hj.2]
      rfl
    · rw [Fat32Fs.loaded, holds_setSlot_ne hji] at hj
      rw [Fat32Fs.loaded, setSlot_fatCache_ne _ hji] at hclean ⊢
      refine (hfs.clean j s' hj hs' hclean).trans (slice_spilled hfs fun hi => hji ?_).symm
      exact hfs.unique j i s' hj hi
  clipped := by
    intro j hvalid
    by_cases hji : j = i
    · subst hji
      rw [Fat32Fs.loaded, setSlot_fatCache_self]
      exact slice_slice _ _ _
    · rw [Fat32Fs.loaded, setSlot_fatCache_ne _ hji] at hvalid ⊢
      exact hfs.clipped j hvalid

/-- Loading a sector keeps every line of the FAT: the line that leaves the cache is on disk. -/
lemma line_loaded (hfs : fs.Coherent) (hmiss : ∀ j, ¬ Holds fs.fatCache j s) {s' : Nat}
    (hs' : fs.vol.Primary s') : (fs.loaded i s).line s' = fs.line s' := by
  have hloaded := hfs.loaded (i := i) hmiss
  by_cases hnew : s' = s
  · subst hnew
    have hi : Holds (fs.loaded i s').fatCache i s' := holds_setSlot_self.mpr ⟨rfl, rfl⟩
    rw [line_of_holds hloaded hi, line_of_not_held hmiss, Fat32Fs.loaded, setSlot_fatCache_self]
    exact slice_spilled hfs (hmiss i)
  · have hold : ¬ Holds (fs.loaded i s).fatCache i s' := fun h =>
      hnew (holds_setSlot_self.mp h).2.symm
    by_cases hheld : ∃ j, Holds fs.fatCache j s'
    · obtain ⟨j, hj⟩ := hheld
      rw [line_of_holds hfs hj]
      by_cases hji : j = i
      · subst hji
        refine (line_of_not_held fun k hk => ?_).trans (slice_spilled_self hfs hj hs')
        by_cases hkj : k = j
        · exact hold (hkj ▸ hk)
        · exact hkj (hfs.unique k j s' ((holds_setSlot_ne hkj).mp hk) hj)
      · rw [line_of_holds hloaded ((holds_setSlot_ne hji).mpr hj), Fat32Fs.loaded, setSlot_fatCache_ne _ hji]
    · have hnone := not_exists.mp hheld
      rw [line_of_not_held hnone]
      refine (line_of_not_held fun k hk => ?_).trans (slice_spilled hfs (hnone i))
      by_cases hki : k = i
      · exact hold (hki ▸ hk)
      · exact hnone k ((holds_setSlot_ne hki).mp hk)

section Fetch

variable (hfs : fs.Coherent)
include hfs

lemma fetch_coherent (s : Nat) : (fs.fetch s).2.Coherent := by
  rcases fs.fetch_cases s with ⟨i, -, heq⟩ | ⟨i, hmiss, -, heq⟩
  · rwa [heq]
  · rw [heq]
    exact hfs.loaded hmiss

lemma line_fetch (s : Nat) {s' : Nat} (hs' : fs.vol.Primary s') : (fs.fetch s).2.line s' = fs.line s' := by
  rcases fs.fetch_cases s with ⟨i, -, heq⟩ | ⟨i, hmiss, -, heq⟩
  · rw [heq]
  · rw [heq]
    exact line_loaded hfs hmiss hs'

end Fetch

lemma fetch_holds (fs : Fat32Fs) (s : Nat) : Holds (fs.fetch s).2.fatCache (fs.fetch s).1 s := by
  rcases fs.fetch_cases s with ⟨i, hi, heq⟩ | ⟨i, -, -, heq⟩
  · rwa [heq]
  · rw [heq]
    exact holds_setSlot_self.mpr ⟨rfl, rfl⟩

lemma Reliable.spilled (hd : fs.device.Reliable) (i : CacheSlot) : (fs.spilled i).Reliable := by
  rw [Fat32Fs.spilled]
  split_ifs
  · exact hd.written
  · exact hd

lemma fetch_frame (fs : Fat32Fs) (s : Nat) : (fs.fetch s).2.vol = fs.vol ∧ (fs.fetch s).2.info = fs.info ∧
      (fs.fetch s).2.mounted = fs.mounted := by
  rcases fs.fetch_cases s with ⟨i, -, heq⟩ | ⟨i, -, -, heq⟩
  all_goals
    rw [heq]
    exact ⟨rfl, rfl, rfl⟩

lemma fetch_reliable (hd : fs.device.Reliable) (s : Nat) : (fs.fetch s).2.device.Reliable := by
  rcases fs.fetch_cases s with ⟨i, -, heq⟩ | ⟨i, -, -, heq⟩
  · rwa [heq]
  · rw [heq]
    exact Reliable.spilled hd i

/-! ## Storing changes one word -/

section Store

variable {offset value : Nat}

lemma holds_stored (fs : Fat32Fs) (i : CacheSlot) (offset value : Nat) (j : CacheSlot) (s : Nat) :
    Holds (fs.setSlot i ((fs.fatCache i).store offset value)).fatCache j s ↔ Holds fs.fatCache j s := by
  by_cases hji : j = i
  · subst hji
    exact holds_setSlot_self
  · exact holds_setSlot_ne hji

lemma Coherent.stored (hfs : fs.Coherent) (hi : Holds fs.fatCache i s) (hs : fs.vol.Primary s)
    (hoffset : offset + 4 ≤ 512) :
    (fs.setSlot i ((fs.fatCache i).store offset value)).Coherent where
  unique := by
    intro j k s' hj hk
    rw [holds_stored] at hj hk
    exact hfs.unique j k s' hj hk
  dirty := by
    intro j hdirty
    by_cases hji : j = i
    · subst hji
      rw [setSlot_fatCache_self]
      exact ⟨hi.1, by rwa [show ((fs.fatCache j).store offset value).sector = s from hi.2]⟩
    · rw [setSlot_fatCache_ne _ hji] at hdirty ⊢
      exact hfs.dirty j hdirty
  clean := by
    intro j s' hj hs' hclean
    by_cases hji : j = i
    · subst hji
      rw [setSlot_fatCache_self] at hclean
      cases hclean
    · rw [holds_stored] at hj
      rw [setSlot_fatCache_ne _ hji] at hclean ⊢
      exact hfs.clean j s' hj hs' hclean
  clipped := by
    intro j hvalid
    by_cases hji : j = i
    · subst hji
      rw [setSlot_fatCache_self]
      funext x
      by_cases hx : x < 512
      · simp [slice_of_lt hx]
      · have hold := congrFun (hfs.clipped j hi.1) x
        rw [slice, if_neg hx] at hold ⊢
        exact hold.trans (writeLE_outside (by omega)).symm
    · rw [setSlot_fatCache_ne _ hji] at hvalid ⊢
      exact hfs.clipped j hvalid

lemma line_stored_self (hfs : fs.Coherent) (hi : Holds fs.fatCache i s) (hs : fs.vol.Primary s)
    (hoffset : offset + 4 ≤ 512) :
    (fs.setSlot i ((fs.fatCache i).store offset value)).line s = writeLE (fs.line s) offset 4
        (readLE (fs.line s) offset 4 / 2 ^ 28 * 2 ^ 28 + clusterMask value) := by
  rw [line_of_holds (hfs.stored hi hs hoffset) ((holds_stored fs i offset value i s).mpr hi),
    line_of_holds hfs hi, setSlot_fatCache_self]
  rfl

lemma line_stored_ne (hfs : fs.Coherent) (hi : Holds fs.fatCache i s) (hs : fs.vol.Primary s)
    (hoffset : offset + 4 ≤ 512) {s' : Nat} (hne : s' ≠ s) :
    (fs.setSlot i ((fs.fatCache i).store offset value)).line s' = fs.line s' := by
  by_cases hheld : ∃ j, Holds fs.fatCache j s'
  · obtain ⟨j, hj⟩ := hheld
    have hji : j ≠ i := fun h => hne (hj.2.symm.trans (h ▸ hi.2))
    rw [line_of_holds (hfs.stored hi hs hoffset) ((holds_stored fs i offset value j s').mpr hj),
      line_of_holds hfs hj, setSlot_fatCache_ne _ hji]
  · have hnone := not_exists.mp hheld
    rw [line_of_not_held hnone, line_of_not_held fun j hj => hnone j ((holds_stored fs i offset value j s').mp hj)]
    rfl

end Store

/-! ## The two accesses -/

/-- The word that `fat32_write_fat_entry` leaves. -/
def mergeWord (old value : Nat) : Nat := old / 2 ^ 28 * 2 ^ 28 + clusterMask value

lemma clusterMask_mergeWord (old value : Nat) : clusterMask (mergeWord old value) = clusterMask value := by
  unfold mergeWord clusterMask
  omega

/-- A writable volume on a device that never fails, with its cache in order. -/
structure Sound (fs : Fat32Fs) : Prop where
  coherent : fs.Coherent
  reliable : fs.device.Reliable
  layout : fs.vol.FatLayout
  writable : fs.vol.readonly = false

namespace Sound

lemma of_device {fs' : Fat32Fs} (hfs : fs.Sound) (hvol : fs'.vol = fs.vol)
    (hcache : fs'.fatCache = fs.fatCache) (hreliable : fs'.device.Reliable)
    (hsame : ∀ s, fs.vol.Primary s →
      slice fs'.device.bytes (s * 512) 512 = slice fs.device.bytes (s * 512) 512) : fs'.Sound := by
  refine ⟨⟨?_, ?_, ?_, ?_⟩, hreliable, hvol ▸ hfs.layout, hvol ▸ hfs.writable⟩
  · rw [hcache]
    exact hfs.coherent.unique
  · rw [hcache, hvol]
    exact hfs.coherent.dirty
  · intro i s hi hs hclean
    rw [hcache] at hi hclean ⊢
    rw [hvol] at hs
    rw [hsame s hs]
    exact hfs.coherent.clean i s hi hs hclean
  · rw [hcache]
    exact hfs.coherent.clipped

lemma fatWord_of_device {fs' : Fat32Fs} (hfs : fs.Sound) (hvol : fs'.vol = fs.vol)
    (hcache : fs'.fatCache = fs.fatCache)
    (hsame : ∀ s, fs.vol.Primary s → slice fs'.device.bytes (s * 512) 512 = slice fs.device.bytes (s * 512) 512)
    (hc : fs.vol.InFat c) : fs'.fatWord c = fs.fatWord c := by
  have hline : fs'.line (fs.vol.fatSector c) = fs.line (fs.vol.fatSector c) := by
    unfold line
    rw [hcache, hsame _ (hfs.layout.primary_fatSector hc)]
  rw [fatWord, fatWord, hvol, hline]

lemma fetch (hfs : fs.Sound) (s : Nat) : (fs.fetch s).2.Sound where
  coherent := fetch_coherent hfs.coherent s
  reliable := fetch_reliable hfs.reliable s
  layout := (fs.fetch_frame s).1 ▸ hfs.layout
  writable := (fs.fetch_frame s).1 ▸ hfs.writable

lemma readFat (hfs : fs.Sound) (c : Nat) : (fat32ReadFatEntry fs c).2.Sound := by
  rw [fat32ReadFatEntry_eq hfs.reliable]
  exact hfs.fetch _

/-- Reading an entry gives the low bits of its word, wherever the sector is, and also outside the FAT. -/
lemma readFat_fst (hfs : fs.Sound) (c : Nat) : (fat32ReadFatEntry fs c).1 = clusterMask (fs.fatWord c) := by
  rw [fat32ReadFatEntry_eq hfs.reliable]
  rw [CacheEntry.word, fatWord]
  rcases fs.fetch_cases (fs.vol.fatSector c) with ⟨i, hi, heq⟩ | ⟨i, hmiss, -, heq⟩
  · rw [heq, line_of_holds hfs.coherent hi]
  · rw [heq, line_of_not_held hmiss, ← slice_spilled hfs.coherent (hmiss i), loaded, setSlot_fatCache_self]

lemma fatWord_fetch (hfs : fs.Sound) (s : Nat) {c' : Nat} (hc' : fs.vol.InFat c') :
    (fs.fetch s).2.fatWord c' = fs.fatWord c' := by
  rw [fatWord, fatWord, (fs.fetch_frame s).1, line_fetch hfs.coherent s (hfs.layout.primary_fatSector hc')]

lemma fatWord_readFat (hfs : fs.Sound) (c : Nat) {c' : Nat} (hc' : fs.vol.InFat c') :
    (fat32ReadFatEntry fs c).2.fatWord c' = fs.fatWord c' := by
  rw [fat32ReadFatEntry_eq hfs.reliable]
  exact hfs.fatWord_fetch _ hc'

lemma entryOffset_le (hfs : fs.Sound) (c : Nat) : fs.vol.entryOffset c + 4 ≤ 512 := by
  rw [hfs.layout.entryOffset_eq]
  omega

lemma primary_fetch (hfs : fs.Sound) (hc : fs.vol.InFat c) :
    (fs.fetch (fs.vol.fatSector c)).2.vol.Primary (fs.vol.fatSector c) := by
  rw [(fs.fetch_frame _).1]
  exact hfs.layout.primary_fatSector hc

lemma writeFat_fst (hfs : fs.Sound) (c value : Nat) : (fat32WriteFatEntry fs c value).1 = 0 := by
  rw [fat32WriteFatEntry_eq hfs.reliable hfs.writable]

lemma writeFat (hfs : fs.Sound) (hc : fs.vol.InFat c) (value : Nat) : (fat32WriteFatEntry fs c value).2.Sound := by
  have hfetch := hfs.fetch (fs.vol.fatSector c)
  rw [fat32WriteFatEntry_eq hfs.reliable hfs.writable]
  exact ⟨hfetch.coherent.stored (fs.fetch_holds _) (hfs.primary_fetch hc) (hfs.entryOffset_le c),
    hfetch.reliable, hfetch.layout, hfetch.writable⟩

/-- Writing an entry changes the low bits of that entry and nothing else of the FAT. -/
lemma fatWord_writeFat (hfs : fs.Sound) (hc : fs.vol.InFat c) (value : Nat) {c' : Nat} (hc' : fs.vol.InFat c') :
    (fat32WriteFatEntry fs c value).2.fatWord c' =
      if c' = c then mergeWord (fs.fatWord c) value else fs.fatWord c' := by
  have hcoh := (hfs.fetch (fs.vol.fatSector c)).coherent
  have hvol := (fs.fetch_frame (fs.vol.fatSector c)).1
  have hholds := fs.fetch_holds (fs.vol.fatSector c)
  have hprimary := hfs.primary_fetch hc
  have hline := line_fetch hfs.coherent (fs.vol.fatSector c) (hfs.layout.primary_fatSector hc)
  have hoffset := hfs.entryOffset_le c
  rw [fat32WriteFatEntry_eq hfs.reliable hfs.writable, fatWord]
  simp only [setSlot_vol, hvol]
  by_cases hsector : fs.vol.fatSector c' = fs.vol.fatSector c
  · rw [hsector, line_stored_self hcoh hholds hprimary hoffset, hline]
    split_ifs with hcc
    · subst hcc
      rw [readLE_writeLE_self, Nat.mod_eq_of_lt]
      · rfl
      · have hlt := readLE_lt (fs.line (fs.vol.fatSector c')) (fs.vol.entryOffset c') 4
        unfold clusterMask
        omega
    · -- two entries of one sector differ in their offset
      rw [hfs.layout.fatSector_eq hc, hfs.layout.fatSector_eq hc'] at hsector
      rw [readLE_writeLE_apart, fatWord, hfs.layout.fatSector_eq hc, hfs.layout.fatSector_eq hc', hsector]
      rw [hfs.layout.entryOffset_eq, hfs.layout.entryOffset_eq]
      omega
  · have hcc : c' ≠ c := fun h => hsector (h ▸ rfl)
    rw [line_stored_ne hcoh hholds hprimary hoffset hsector, if_neg hcc,
      line_fetch hfs.coherent _ (hfs.layout.primary_fatSector hc'), fatWord]

end Sound

/-! ## Flushing makes the disk equal to the lines -/

/-- The device after the flush reaches slot `i`: the slot is on disk, in the backup too. -/
def mirrored (fs : Fat32Fs) (i : CacheSlot) : Device :=
  if (fs.fatCache i).dirty ∧ 1 < fs.vol.numFats then
    (fs.spilled i).written ((fs.fatCache i).sector + fs.vol.fatSectors) 1 (fs.fatCache i).data
  else fs.spilled i

/-- The flush of one slot. -/
def flushed (fs : Fat32Fs) (i : CacheSlot) : Fat32Fs :=
  { fs with device := fs.mirrored i }.setSlot i { fs.fatCache i with dirty := false }

lemma flushFrom_cons (hfs : fs.Sound) (i : CacheSlot) (rest : List CacheSlot) :
    flushFrom (i :: rest) fs = flushFrom rest (fs.flushed i) := by
  by_cases hdirty : (fs.fatCache i).dirty = true
  · obtain ⟨hvalid, hprimary⟩ := hfs.coherent.dirty i hdirty
    have hspilled : fs.spilled i = fs.device.written (fs.fatCache i).sector 1 (fs.fatCache i).data := if_pos hdirty
    by_cases hnum : 1 < fs.vol.numFats
    · have hbackup : u32 ((fs.fatCache i).sector + fs.vol.fatSectors) = (fs.fatCache i).sector + fs.vol.fatSectors :=
        Nat.mod_eq_of_lt (hfs.layout.backup_lt hnum hprimary)
      simp [flushFrom, hvalid, hdirty, hbackup, hfs.reliable.writeSectors_eq,
        hfs.reliable.written.writeSectors_eq, flushed, mirrored, hspilled]
    · simp [flushFrom, hvalid, hdirty, hnum, hfs.reliable.writeSectors_eq, flushed, mirrored, hspilled]
  · have hclean : { fs.fatCache i with dirty := false } = fs.fatCache i := by
      cases h : fs.fatCache i
      simp_all
    rw [flushFrom, if_neg (by simp [hdirty]), flushed, mirrored, if_neg (by simp [hdirty]),
      spilled, if_neg hdirty, hclean, setSlot, Function.update_eq_self]

/-- The backup lies past the primary FAT, so the primary sectors are as after a write-back. -/
lemma slice_mirrored (hfs : fs.Coherent) (hs : fs.vol.Primary s) :
    slice (fs.mirrored i).bytes (s * 512) 512 = slice (fs.spilled i).bytes (s * 512) 512 := by
  rw [mirrored]
  split_ifs with h
  · have hlow := (hfs.dirty i h.1).2.1
    have hhigh := hs.2
    exact slice_written_ne _ (by omega) _
  · rfl

lemma holds_flushed (fs : Fat32Fs) (i j : CacheSlot) (s : Nat) :
    Holds (fs.flushed i).fatCache j s ↔ Holds fs.fatCache j s := by
  by_cases hji : j = i
  · subst hji
    exact holds_setSlot_self
  · exact holds_setSlot_ne hji

lemma data_flushed (fs : Fat32Fs) (i j : CacheSlot) : ((fs.flushed i).fatCache j).data = (fs.fatCache j).data := by
  by_cases hji : j = i
  · subst hji
    simp [flushed]
  · rw [flushed, setSlot_fatCache_ne _ hji]

lemma Coherent.flushed (hfs : fs.Coherent) (i : CacheSlot) : (fs.flushed i).Coherent where
  unique := by
    intro j k s hj hk
    rw [holds_flushed] at hj hk
    exact hfs.unique j k s hj hk
  dirty := by
    intro j hdirty
    by_cases hji : j = i
    · subst hji
      rw [Fat32Fs.flushed, setSlot_fatCache_self] at hdirty
      cases hdirty
    · rw [Fat32Fs.flushed, setSlot_fatCache_ne _ hji] at hdirty ⊢
      exact hfs.dirty j hdirty
  clean := by
    intro j s hj hs hclean
    rw [holds_flushed] at hj
    rw [data_flushed]
    refine Eq.trans ?_ (slice_mirrored hfs hs).symm
    by_cases hji : j = i
    · subst hji
      exact (slice_spilled_self hfs hj hs).symm
    · rw [Fat32Fs.flushed, setSlot_fatCache_ne _ hji] at hclean
      refine (hfs.clean j s hj hs hclean).trans (slice_spilled hfs fun hi => hji ?_).symm
      exact hfs.unique j i s hj hi
  clipped := by
    intro j hvalid
    rw [data_flushed]
    exact hfs.clipped j ((holds_flushed fs i j _).mp ⟨hvalid, rfl⟩).1

lemma Sound.flushed (hfs : fs.Sound) (i : CacheSlot) : (fs.flushed i).Sound where
  coherent := hfs.coherent.flushed i
  reliable := by
    have hspilled := Reliable.spilled hfs.reliable i
    change (fs.mirrored i).Reliable
    rw [mirrored]
    split_ifs
    · exact hspilled.written
    · exact hspilled
  layout := hfs.layout
  writable := hfs.writable

lemma line_flushed (hfs : fs.Coherent) (hs : fs.vol.Primary s) : (fs.flushed i).line s = fs.line s := by
  by_cases hheld : ∃ j, Holds fs.fatCache j s
  · obtain ⟨j, hj⟩ := hheld
    rw [line_of_holds (hfs.flushed i) ((holds_flushed fs i j s).mpr hj), line_of_holds hfs hj, data_flushed]
  · have hnone := not_exists.mp hheld
    rw [line_of_not_held hnone, line_of_not_held fun j hj => hnone j ((holds_flushed fs i j s).mp hj)]
    exact (slice_mirrored hfs hs).trans (slice_spilled hfs (hnone i))

/-- **The induction over a flush.**  What the flush of one slot preserves, the flush
preserves. -/
lemma flushFrom_invariant {J : Fat32Fs → Prop} (hstep : ∀ fs i, fs.Sound → J fs → J (fs.flushed i))
    (l : List CacheSlot) (hfs : fs.Sound) (hJ : J fs) :
    (flushFrom l fs).1 = 0 ∧ (flushFrom l fs).2.Sound ∧ J (flushFrom l fs).2 := by
  induction l generalizing fs with
  | nil => exact ⟨rfl, hfs, hJ⟩
  | cons i rest ih =>
    rw [flushFrom_cons hfs]
    exact ih (hfs.flushed i) (hstep fs i hfs hJ)

lemma flushFrom_clean (l : List CacheSlot) (hfs : fs.Sound) (h : i ∈ l ∨ (fs.fatCache i).dirty = false) :
    ((flushFrom l fs).2.fatCache i).dirty = false := by
  induction l generalizing fs with
  | nil => simpa [flushFrom] using h
  | cons j rest ih =>
    rw [flushFrom_cons hfs]
    refine ih (hfs.flushed j) ?_
    by_cases hij : i = j
    · subst hij
      right
      simp [flushed]
    · rw [flushed, setSlot_fatCache_ne _ hij]
      exact h.imp_left fun hmem => (List.mem_cons.mp hmem).resolve_left hij

namespace Sound

lemma flush_eq (hfs : fs.Sound) : fat32FlushFatCache fs = flushFrom (List.finRange 16) fs :=
  if_neg (by simp [hfs.writable])

/-- **Flushing.**  The flush succeeds, keeps every line of the FAT, and leaves no dirty slot. -/
lemma flush (hfs : fs.Sound) : (fat32FlushFatCache fs).1 = 0 ∧ (fat32FlushFatCache fs).2.Sound ∧
      (fat32FlushFatCache fs).2.vol = fs.vol ∧
      (∀ s, fs.vol.Primary s → (fat32FlushFatCache fs).2.line s = fs.line s) ∧
      ∀ i, ((fat32FlushFatCache fs).2.fatCache i).dirty = false := by
  rw [hfs.flush_eq]
  obtain ⟨hres, hsound, hvol, hline⟩ := flushFrom_invariant
    (J := fun t => t.vol = fs.vol ∧ ∀ s, fs.vol.Primary s → t.line s = fs.line s)
    (fun t i ht hJ => ⟨hJ.1, fun s hs =>
      (line_flushed ht.coherent (hJ.1 ▸ hs)).trans (hJ.2 s hs)⟩)
    (List.finRange 16) hfs ⟨rfl, fun _ _ => rfl⟩
  exact ⟨hres, hsound, hvol, hline, fun i => flushFrom_clean _ hfs (.inl (List.mem_finRange i))⟩

lemma fatWord_flush (hfs : fs.Sound) (hc : fs.vol.InFat c) : (fat32FlushFatCache fs).2.fatWord c = fs.fatWord c := by
  obtain ⟨-, -, hvol, hline, -⟩ := hfs.flush
  rw [fatWord, fatWord, hvol, hline _ (hfs.layout.primary_fatSector hc)]

end Sound

lemma sound_of_empty (hempty : ∀ i, (fs.fatCache i).valid = false ∧ (fs.fatCache i).dirty = false)
    (hd : fs.device.Reliable) (hv : fs.vol.FatLayout) (hrw : fs.vol.readonly = false) : fs.Sound := by
  have hnone : ∀ i s, ¬ Holds fs.fatCache i s := fun i s hi => Bool.noConfusion ((hempty i).1.symm.trans hi.1)
  refine ⟨⟨fun i j s hi => absurd hi (hnone i s), fun i hi => ?_, fun i s hi => absurd hi (hnone i s), fun i hi => ?_⟩,
    hd, hv, hrw⟩
  · exact Bool.noConfusion ((hempty i).2.symm.trans hi)
  · exact Bool.noConfusion ((hempty i).1.symm.trans hi)

lemma sound_of_mount {d : Device} (hd : d.Reliable) (hmount : fat32Mount d = some fs) (hv : fs.vol.FatLayout) :
    fs.Sound ∧ fs.device = d ∧ ∀ i, (fs.fatCache i).dirty = false := by
  unfold fat32Mount at hmount
  rw [hd.readSectors_eq] at hmount
  simp only [Option.ite_none_right_eq_some, Option.some.injEq] at hmount
  obtain ⟨-, rfl⟩ := hmount
  exact ⟨sound_of_empty (fun _ => ⟨rfl, rfl⟩) hd hv rfl, rfl, fun _ => rfl⟩

end Fat32Fs

/-! ## Runs of FAT accesses -/

/-- The calls on the FAT cache. -/
inductive TableCall
  | read (c : Nat)
  | write (c value : Nat)
  | flush

namespace TableCall

def exec (fs : Fat32Fs) : TableCall → Fat32Fs
  | read c => (fat32ReadFatEntry fs c).2
  | write c value => (fat32WriteFatEntry fs c value).2
  | flush => (fat32FlushFatCache fs).2

/-- The cluster of the call lies inside the FAT. -/
def InFat (v : Volume) : TableCall → Prop
  | read c => v.InFat c
  | write c _ => v.InFat c
  | flush => True

variable {fs : Fat32Fs} {call : TableCall} {calls : List TableCall}

end TableCall

/-! ## A small volume -/

/-- A boot sector with one sector per cluster and the given counts, followed by zeros. -/
def blankBytes (reserved numFats totalSectors fatSize : UInt8) : Mem := fun a =>
  match a with
  | 12 => 2
  | 13 => 1
  | 14 => reserved
  | 16 => numFats
  | 32 => totalSectors
  | 36 => fatSize
  | 44 => 2
  | 510 => 0x55
  | 511 => 0xAA
  | _ => 0

/-- One reserved sector, two FATs of one sector, and thirteen clusters. -/
def tinyDisk : Device := ⟨blankBytes 1 2 16 1, fun _ => false, fun _ => false⟩

lemma tinyDisk_reliable : tinyDisk.Reliable := fun _ => ⟨rfl, rfl⟩

/-- The volume on `tinyDisk` as it is mounted. -/
def tinyFs : Fat32Fs where
  vol := ⟨512, 1, 2, 0, 512, 1, 1, 3, 13, 2, false⟩
  device := tinyDisk
  info := ⟨freeUnknown, firstDataCluster, false⟩
  fatCache := fun _ => ⟨0, false, false, fun _ => 0⟩
  mounted := true

lemma mount_tinyDisk : fat32Mount tinyDisk = some tinyFs := by
  rfl

lemma tinyFs_layout : tinyFs.vol.FatLayout := ⟨rfl, by decide, by decide⟩

lemma tinyFs_sound : tinyFs.Sound := (Fat32Fs.sound_of_mount tinyDisk_reliable mount_tinyDisk tinyFs_layout).1

end AAAos
