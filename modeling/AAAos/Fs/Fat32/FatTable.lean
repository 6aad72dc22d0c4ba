import AAAos.Fs.Fat32.View

/-!
# Accesses to the FAT, word by word

The tables of `View` have an entry for every cluster of the volume.  The FAT has more words than that: those of clusters
0 and 1, those behind the last cluster, and four bits of each word that are not part of the entry.  Here is what an
access does to all of them: a read changes no word, whatever it reads (`SameFat`), and a write changes the low bits of
one (`WritesFat`).  Neither touches the data area.
-/

namespace AAAos

namespace Volume

variable {v : Volume} {c : Nat}

/-- Where the search for a free cluster goes: the clusters, and cluster 2 where there is none. -/
def Searched (v : Volume) (c : Nat) : Prop := v.Cluster c ∨ c = firstDataCluster

lemma Regular.fatSectors_pos (hv : v.Regular) : 0 < v.fatSectors := by
  have hcovers := hv.covers
  omega

lemma Regular.inFat_low (hv : v.Regular) (hc : c ≤ 2) : v.InFat c := by
  have hpos := hv.fatSectors_pos
  exact ⟨by omega, by omega⟩

lemma Searched.inFat (hv : v.Regular) (h : v.Searched c) : v.InFat c := by
  rcases h with hc | rfl
  · exact hv.inFat hc
  · exact hv.inFat_low le_rfl

end Volume

/-! ## One access -/

/-- The FAT is as before, and so are the data and the FSInfo fields. -/
structure SameFat (fs fs' : Fat32Fs) : Prop where
  sound : fs'.Sound
  vol : fs'.vol = fs.vol
  info : fs'.info = fs.info
  word : ∀ c, fs.vol.InFat c → fs'.fatWord c = fs.fatWord c
  data : SameData fs.vol fs.device fs'.device

/-- The low bits of one word are written. -/
structure WritesFat (fs : Fat32Fs) (c value : Nat) (fs' : Fat32Fs) : Prop where
  sound : fs'.Sound
  vol : fs'.vol = fs.vol
  info : fs'.info = fs.info
  word : ∀ c', fs.vol.InFat c' → fs'.fatWord c' = if c' = c then Fat32Fs.mergeWord (fs.fatWord c) value else fs.fatWord c'
  data : SameData fs.vol fs.device fs'.device

section Access

variable {fs fs' fs'' : Fat32Fs} {c value : Nat}

lemma SameFat.refl (hfs : fs.Sound) : SameFat fs fs := ⟨hfs, rfl, rfl, fun _ _ => rfl, fun _ _ => rfl⟩

lemma SameFat.trans (h : SameFat fs fs') (h' : SameFat fs' fs'') : SameFat fs fs'' where
  sound := h'.sound
  vol := h'.vol.trans h.vol
  info := h'.info.trans h.info
  word c hc := (h'.word c (h.vol.symm ▸ hc)).trans (h.word c hc)
  data := h.data.trans (h.vol ▸ h'.data)

lemma SameFat.writes (h : SameFat fs fs') (hc : fs.vol.InFat c) (h' : WritesFat fs' c value fs'') :
    WritesFat fs c value fs'' where
  sound := h'.sound
  vol := h'.vol.trans h.vol
  info := h'.info.trans h.info
  word c' hc' := by rw [h'.word c' (h.vol.symm ▸ hc'), h.word c hc, h.word c' hc']
  data := h.data.trans (h.vol ▸ h'.data)

/-- **Reading**, of whatever cluster. -/
lemma run_readFat (hfs : fs.Sound) (hv : fs.vol.Regular) (c : Nat) :
    ∃ fs', (FatProg.readFat c).run fatMachine fs = some (clusterMask (fs.fatWord c), fs') ∧ SameFat fs fs' := by
  refine ⟨(fat32ReadFatEntry fs c).2, ?_, ?_⟩
  · rw [← hfs.readFat_fst c]
    rfl
  · have hsound := hfs.readFat c
    have hword := fun c' (hc' : fs.vol.InFat c') => hfs.fatWord_readFat c hc'
    rw [Fat32Fs.fat32ReadFatEntry_eq hfs.reliable] at hsound hword ⊢
    obtain ⟨hvol, hinfo, -⟩ := fs.fetch_frame (fs.vol.fatSector c)
    exact ⟨hsound, hvol, hinfo, hword, Fat32Fs.sameData_fetch hfs.coherent hv _⟩

/-- **Writing** inside the FAT. -/
lemma run_writeFat (hfs : fs.Sound) (hv : fs.vol.Regular) (hc : fs.vol.InFat c) (value : Nat) :
    ∃ fs', (FatProg.writeFat c value).run fatMachine fs = some (0, fs') ∧ WritesFat fs c value fs' := by
  refine ⟨(fat32WriteFatEntry fs c value).2, ?_, ?_⟩
  · rw [← hfs.writeFat_fst c value]
    rfl
  · have hsound := hfs.writeFat hc value
    have hword := fun c' (hc' : fs.vol.InFat c') => hfs.fatWord_writeFat hc value hc'
    rw [Fat32Fs.fat32WriteFatEntry_eq hfs.reliable hfs.writable] at hsound hword ⊢
    obtain ⟨hvol, hinfo, -⟩ := fs.fetch_frame (fs.vol.fatSector c)
    exact ⟨hsound, hvol, hinfo, hword, Fat32Fs.sameData_fetch hfs.coherent hv _⟩

lemma run_writeFat_fst (hfs : fs.Sound) (c value : Nat) :
    ∃ fs', (FatProg.writeFat c value).run fatMachine fs = some (0, fs') := by
  refine ⟨(fat32WriteFatEntry fs c value).2, ?_⟩
  rw [← hfs.writeFat_fst c value]
  rfl

end Access

end AAAos
