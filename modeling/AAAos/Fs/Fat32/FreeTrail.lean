import AAAos.Fs.Fat32.AllocSearch
import AAAos.Fs.Fat32.Truncate
import Mathlib.Order.Interval.Finset.Nat

/-!
# Freeing what a chain leads to

`fat32_free_chain` reads the entry of a cluster, frees the cluster, and goes on to the cluster read, until that is none.
On a FAT that nobody has checked the clusters may lead back to one that was already visited.  The clusters visited once
are the trail (`Trail`): there always is one, since there are finitely many clusters.

**What goes wrong.**  Where the trail leads back into itself, the cluster there is visited once more before the walk
ends: its entry says free by then.  It is counted twice (`freeChain_counts_twice`).

**What is proved.**  The walk ends for every FAT, and frees the clusters of the trail and nothing else
(`run_freeLoop`); what it adds to the count is right exactly if the trail does not lead back into itself, and the count
does not run over (`freeChain_iff`).
-/

namespace AAAos

/-! ## The trail -/

/-- The clusters that `p` leads to, each once, and where the last of them leads. -/
structure Trail (fs : Fat32Fs) (p : Nat) (cs : List Nat) (q : Nat) : Prop where
  seg : Seg (fun c => clusterMask (fs.fatWord c)) p cs q
  clusters : ∀ c ∈ cs, fs.vol.Cluster c
  nodup : cs.Nodup
  stops : ¬ fs.vol.Cluster q ∨ q ∈ cs

lemma exists_trail (fs : Fat32Fs) (p : Nat) : ∃ cs q, Trail fs p cs q := by
  obtain ⟨cs, q, hseg, hnodup, hin, hstops⟩ := Seg.exists_trail (fun c => clusterMask (fs.fatWord c))
    (Finset.Ico 2 (2 + fs.vol.totalClusters)) p
  refine ⟨cs, q, hseg, fun c hc => Finset.mem_Ico.mp (hin c hc), hnodup, hstops.imp_left fun hout hq => ?_⟩
  exact hout (Finset.mem_Ico.mpr hq)

/-! ## One round -/

/-- One round of the loop of `fat32_free_chain`. -/
def freeRound (v : Volume) (s : Nat × Nat) : FatProg ((Nat × Nat) ⊕ Except Int Nat) :=
  if fat32ClusterIsValid v s.1 then do
    let next ← FatProg.readFat s.1
    let result ← FatProg.writeFat s.1 clusterFree
    if result ≠ 0 then pure (.inr (.error result))
    else pure (if fat32IsEof next then .inr (.ok (s.2 + 1)) else .inl (next, s.2 + 1))
  else pure (.inr (.ok s.2))

section Rounds

variable {fs fs' : Fat32Fs} {v : Volume} {p q c n fuel : Nat} {cs : List Nat}

lemma clusterMask_clusterMask (n : Nat) : clusterMask (clusterMask n) = clusterMask n := Nat.mod_mod n (2 ^ 28)

lemma clusterMask_lt (n : Nat) : clusterMask n < 2 ^ 28 := Nat.mod_lt n (by decide)

lemma fatOffset_clusterMask (hp : p % 2 ^ 30 < 2 ^ 28) : Volume.fatOffset (clusterMask p) = Volume.fatOffset p := by
  unfold Volume.fatOffset u32 clusterMask
  omega

lemma fatWord_clusterMask (fs : Fat32Fs) (hp : p % 2 ^ 30 < 2 ^ 28) : fs.fatWord (clusterMask p) = fs.fatWord p := by
  rw [Fat32Fs.fatWord, Fat32Fs.fatWord, Volume.fatSector, Volume.fatSector, Volume.entryOffset, Volume.entryOffset,
    fatOffset_clusterMask hp]

lemma fat32WriteFatEntry_clusterMask (fs : Fat32Fs) (hp : p % 2 ^ 30 < 2 ^ 28) (value : Nat) :
    fat32WriteFatEntry fs (clusterMask p) value = fat32WriteFatEntry fs p value := by
  rw [fat32WriteFatEntry, fat32WriteFatEntry, Volume.fatSector, Volume.fatSector, Volume.entryOffset,
    Volume.entryOffset, fatOffset_clusterMask hp]

lemma Volume.Regular.valid_iff_mask (hv : v.Regular) (p : Nat) :
    fat32ClusterIsValid v p = true ↔ v.Cluster (clusterMask p) := by
  rw [← hv.valid_iff (clusterMask_lt p), fat32ClusterIsValid, fat32ClusterIsValid, clusterMask_clusterMask]

lemma run_freeRound (hfs : fs.Sound) (hvol : fs.vol = v) (hv : v.Regular) (hc : v.Cluster (clusterMask p))
    (hp : p % 2 ^ 30 < 2 ^ 28) (n : Nat) :
    ∃ fs', (freeRound v (p, n)).run fatMachine fs =
      some (if fat32IsEof (clusterMask (fs.fatWord (clusterMask p))) then .inr (.ok (n + 1))
        else .inl (clusterMask (fs.fatWord (clusterMask p)), n + 1), fs') ∧
      WritesFat fs (clusterMask p) clusterFree fs' := by
  obtain ⟨fs₁, hread, hsame⟩ := run_readFat hfs (hvol ▸ hv) p
  have hin : fs₁.vol.InFat (clusterMask p) := by
    rw [hsame.vol, hvol]
    exact hv.inFat hc
  obtain ⟨fs₂, hwrite, hwrites⟩ := run_writeFat hsame.sound (hsame.vol.symm ▸ hvol ▸ hv) hin clusterFree
  have hwrite' : (FatProg.writeFat p clusterFree).run fatMachine fs₁ = some (0, fs₂) :=
    (congrArg some (fat32WriteFatEntry_clusterMask fs₁ hp clusterFree).symm).trans hwrite
  refine ⟨fs₂, ?_, hsame.writes (hsame.vol ▸ hin) hwrites⟩
  rw [fatWord_clusterMask fs hp]
  unfold freeRound
  dsimp only
  rw [if_pos ((hv.valid_iff_mask p).mpr hc)]
  refine (Prog.run_bind fs).trans ?_
  rw [hread, Option.bind_some]
  refine (Prog.run_bind fs₁).trans ?_
  rw [hwrite', Option.bind_some, if_neg (fun h => h rfl)]
  rfl

lemma run_freeRound_stops (hv : v.Regular) (hp : ¬ v.Cluster (clusterMask p)) (n : Nat) :
    (freeRound v (p, n)).run fatMachine fs = some (.inr (.ok n), fs) := by
  unfold freeRound
  dsimp only
  rw [if_neg (fun h => hp ((hv.valid_iff_mask p).mp h))]
  rfl

/-! ## The walk -/

/-- The clusters have been freed. -/
structure Freed (fs : Fat32Fs) (cs : List Nat) (fs' : Fat32Fs) : Prop where
  vol : fs'.vol = fs.vol
  info : fs'.info = fs.info
  word : ∀ c, fs.vol.InFat c →
    fs'.fatWord c = if c ∈ cs then Fat32Fs.mergeWord (fs.fatWord c) clusterFree else fs.fatWord c
  data : SameData fs.vol fs.device fs'.device

lemma Freed.refl (fs : Fat32Fs) : Freed fs [] fs := ⟨rfl, rfl, fun _ _ => rfl, fun _ _ => rfl⟩

lemma mergeWord_free {w : Nat} (hw : clusterMask w = clusterFree) : Fat32Fs.mergeWord w clusterFree = w := by
  unfold clusterMask clusterFree at hw
  unfold Fat32Fs.mergeWord clusterMask clusterFree
  omega

/-- **The walk** through the trail.  Where it ends at a cluster, that is one it has freed: it is counted once more. -/
lemma run_freeLoop (hfs : fs.Sound) (hvol : fs.vol = v) (hv : v.Regular)
    (hseg : Seg (fun c => clusterMask (fs.fatWord c)) (clusterMask p) cs q) (hin : ∀ c ∈ cs, v.Cluster c)
    (hnodup : cs.Nodup) (hstops : v.Cluster q → q ∈ cs ∨ fs.Free q)
    (hp : v.Cluster (clusterMask p) → p % 2 ^ 30 < 2 ^ 28) (hfuel : cs.length + 2 ≤ fuel) :
    ∃ fs', (Prog.loop (freeRound v) fuel (p, n)).run fatMachine fs =
      some (.ok (n + cs.length + if v.Cluster q then 1 else 0), fs') ∧ Freed fs cs fs' := by
  induction cs generalizing fs p n fuel with
  | nil =>
    obtain ⟨fuel, rfl⟩ : ∃ k, fuel = k + 2 := ⟨fuel - 2, by omega⟩
    obtain rfl : clusterMask p = q := hseg
    by_cases hq : v.Cluster (clusterMask p)
    · -- the entry is free: the next round is the last
      have hfree : clusterMask (fs.fatWord (clusterMask p)) = clusterFree :=
        (hstops hq).resolve_left List.not_mem_nil
      obtain ⟨fs₁, hrun, hwrites⟩ := run_freeRound hfs hvol hv hq (hp hq) n
      rw [hfree, if_neg (by decide)] at hrun
      refine ⟨fs₁, ?_, hwrites.vol, hwrites.info, fun c hc => ?_, hwrites.data⟩
      · rw [if_pos hq]
        refine (Prog.run_loop_inl hrun).trans (Prog.run_loop_inr (run_freeRound_stops hv ?_ (n + 1)))
        rintro ⟨hlow, -⟩
        exact absurd hlow (by decide)
      · rw [hwrites.word c hc, if_neg List.not_mem_nil]
        split_ifs with hcp
        · rw [hcp, mergeWord_free hfree]
        · rfl
    · rw [if_neg hq]
      exact ⟨fs, Prog.run_loop_inr (run_freeRound_stops hv hq n), Freed.refl fs⟩
  | cons c cs ih =>
    obtain ⟨fuel, rfl⟩ : ∃ k, fuel = k + 1 := ⟨fuel - 1, by omega⟩
    obtain rfl : clusterMask p = c := hseg.1
    have hrest : Seg (fun c => clusterMask (fs.fatWord c)) (clusterMask (fs.fatWord (clusterMask p))) cs q := hseg.2
    obtain ⟨hfresh, hnodup'⟩ := List.nodup_cons.mp hnodup
    have hc := hin _ List.mem_cons_self
    obtain ⟨fs₁, hrun, hwrites⟩ := run_freeRound hfs hvol hv hc (hp hc) n
    have hkeep : ∀ x ∈ cs, fs₁.fatWord x = fs.fatWord x := by
      intro x hx
      have hne : x ≠ clusterMask p := fun h => hfresh (h ▸ hx)
      rw [hwrites.word x (hvol ▸ hv.inFat (hin x (List.mem_cons_of_mem _ hx))), if_neg hne]
    have hfreed : clusterMask (fs₁.fatWord (clusterMask p)) = clusterFree := by
      rw [hwrites.word _ (hvol ▸ hv.inFat hc), if_pos rfl, Fat32Fs.clusterMask_mergeWord]
      rfl
    by_cases heof : fat32IsEof (clusterMask (fs.fatWord (clusterMask p))) = true
    · -- an end mark is no cluster
      have hout : ¬ v.Cluster (clusterMask (fs.fatWord (clusterMask p))) := fun h => by
        rw [hv.not_eof h] at heof
        cases heof
      obtain rfl : cs = [] := by
        by_contra hne
        exact hout (hin _ (List.mem_cons_of_mem _ (Seg.head_mem hrest hne)))
      obtain rfl : clusterMask (fs.fatWord (clusterMask p)) = q := hrest
      rw [if_pos heof] at hrun
      rw [if_neg hout]
      refine ⟨fs₁, Prog.run_loop_inr hrun, hwrites.vol, hwrites.info, fun c hc => ?_, hwrites.data⟩
      rw [hwrites.word c hc]
      simp only [List.mem_singleton]
      split_ifs with hcp
      · rw [hcp]
      · rfl
    · rw [if_neg heof] at hrun
      have hstops' : v.Cluster q → q ∈ cs ∨ fs₁.Free q := by
        intro hq
        by_cases hqp : q = clusterMask p
        · exact .inr (hqp ▸ hfreed)
        · rcases hstops hq with hmem | hfree
          · exact .inl ((List.mem_cons.mp hmem).resolve_left hqp)
          · right
            unfold Fat32Fs.Free
            rw [hwrites.word q (hvol ▸ hv.inFat hq), if_neg hqp]
            exact hfree
      obtain ⟨fs', hloop, hthen⟩ := ih (n := n + 1) hwrites.sound (hwrites.vol.trans hvol)
        ((clusterMask_clusterMask _).symm ▸ Seg.congr hrest fun x hx => congrArg clusterMask (hkeep x hx))
        (fun x hx => hin x (List.mem_cons_of_mem _ hx)) hnodup' hstops'
        (fun _ => lt_of_le_of_lt (Nat.mod_le _ _) (clusterMask_lt _)) (Nat.le_of_succ_le_succ hfuel)
      refine ⟨fs', ?_, hthen.vol.trans hwrites.vol, hthen.info.trans hwrites.info, fun x hx => ?_,
        hwrites.data.trans (hwrites.vol ▸ hthen.data)⟩
      · refine (Prog.run_loop_inl hrun).trans (hloop.trans ?_)
        rw [List.length_cons, Nat.add_right_comm n 1, Nat.add_assoc n cs.length]
      · rw [hthen.word x (hwrites.vol.symm ▸ hx)]
        by_cases hxp : x = clusterMask p
        · rw [hxp, if_neg hfresh, if_pos List.mem_cons_self, hwrites.word _ (hxp ▸ hx), if_pos rfl]
        · have hmem : x ∈ clusterMask p :: cs ↔ x ∈ cs := by
            rw [List.mem_cons, or_iff_right hxp]
          simp only [hmem, hwrites.word x hx, if_neg hxp]

end Rounds

/-! ## `fat32_free_chain` -/

/-- The answer and the state that freeing the clusters `cs` is to give. -/
structure FreeRight (fs : Fat32Fs) (cs : List Nat) (r : Int) (fs' : Fat32Fs) : Prop where
  result : r = 0
  word : ∀ c, fs.vol.InFat c →
    fs'.fatWord c = if c ∈ cs then Fat32Fs.mergeWord (fs.fatWord c) clusterFree else fs.fatWord c
  count : fs.info.freeClusters ≠ freeUnknown → fs'.info.freeClusters = fs.info.freeClusters + cs.length

/-- The routine comes to an end, and has freed the clusters `cs`. -/
def Fat32Fs.Frees (fs : Fat32Fs) (p : Nat) (cs : List Nat) : Prop :=
  ∃ fuel r fs', (fat32FreeChain fs.vol fuel p).run fatMachine fs = some (r, fs') ∧ FreeRight fs cs r fs'

section FreeChain

variable {fs : Fat32Fs} {p q : Nat} {cs : List Nat}

lemma run_fat32FreeChain (hfs : fs.Sound) {fuel n : Nat} {fs' : Fat32Fs}
    (hrun : (Prog.loop (freeRound fs.vol) fuel (p, 0)).run fatMachine fs = some (.ok n, fs')) :
    (fat32FreeChain fs.vol fuel p).run fatMachine fs = some (0, { fs' with info := freedInfo fs'.info n }) := by
  unfold fat32FreeChain
  rw [if_neg (by simp [hfs.writable])]
  refine (Prog.run_bind fs).trans ?_
  change ((Prog.loop (freeRound fs.vol) fuel (p, 0)).run fatMachine fs).bind _ = _
  rw [hrun]
  rfl

/-- **What the routine does.**  It ends for every FAT, frees the clusters of the trail, and adds one more than these to
the count if the trail leads back into itself. -/
lemma freeChain_ends (hfs : fs.Sound) (hv : fs.vol.Regular) (h : Trail fs (clusterMask p) cs q)
    (hp : fs.vol.Cluster (clusterMask p) → p % 2 ^ 30 < 2 ^ 28) {fuel : Nat} (hfuel : cs.length + 2 ≤ fuel) :
    ∃ fs', (fat32FreeChain fs.vol fuel p).run fatMachine fs = some (0, fs') ∧ (∀ c, fs.vol.InFat c →
        fs'.fatWord c = if c ∈ cs then Fat32Fs.mergeWord (fs.fatWord c) clusterFree else fs.fatWord c) ∧
      fs'.info = freedInfo fs.info (cs.length + if q ∈ cs then 1 else 0) := by
  have hiff : fs.vol.Cluster q ↔ q ∈ cs := ⟨fun hq => h.stops.resolve_left (not_not.mpr hq), h.clusters q⟩
  obtain ⟨fs', hrun, hfreed⟩ := run_freeLoop (n := 0) hfs rfl hv h.seg h.clusters h.nodup (fun hq => .inl (hiff.mp hq))
    hp hfuel
  refine ⟨_, run_fat32FreeChain hfs hrun, hfreed.word, ?_⟩
  rw [hfreed.info, Nat.zero_add]
  simp only [hiff]

lemma run_fat32FreeChain_mono {fuel fuel' : Nat} {x : Int × Fat32Fs}
    (h : (fat32FreeChain fs.vol fuel p).run fatMachine fs = some x) (hle : fuel ≤ fuel') :
    (fat32FreeChain fs.vol fuel' p).run fatMachine fs = some x := by
  unfold fat32FreeChain at h ⊢
  split_ifs at h ⊢ with hrw
  · exact h
  · exact Prog.run_bind_mono (fun x hx => Prog.run_loop_mono hx hle) (fun _ _ hy => hy) h

lemma frees_iff_of_run {fuel : Nat} {r : Int} {fs' : Fat32Fs}
    (hrun : (fat32FreeChain fs.vol fuel p).run fatMachine fs = some (r, fs')) :
    fs.Frees p cs ↔ FreeRight fs cs r fs' := by
  constructor
  · rintro ⟨fuel', r', fs'', hrun', hright⟩
    have h := (run_fat32FreeChain_mono hrun (Nat.le_max_left fuel fuel')).symm.trans
      (run_fat32FreeChain_mono hrun' (Nat.le_max_right fuel fuel'))
    obtain ⟨rfl, rfl⟩ := Prod.mk.inj (Option.some.inj h)
    exact hright
  · intro hright
    exact ⟨fuel, r, fs', hrun, hright⟩

lemma frees_iff_count (hfs : fs.Sound) (hv : fs.vol.Regular) (h : Trail fs (clusterMask p) cs q)
    (hp : fs.vol.Cluster (clusterMask p) → p % 2 ^ 30 < 2 ^ 28) :
    fs.Frees p cs ↔ (fs.info.freeClusters ≠ freeUnknown → q ∉ cs ∧ fs.info.freeClusters + cs.length < 2 ^ 32) := by
  obtain ⟨fs', hrun, hword, hinfo⟩ := freeChain_ends hfs hv h hp le_rfl
  have hcount : fs.info.freeClusters ≠ freeUnknown →
      fs'.info.freeClusters = u32 (fs.info.freeClusters + (cs.length + if q ∈ cs then 1 else 0)) := by
    intro hknown
    rw [hinfo, freedInfo]
    exact if_pos hknown
  rw [frees_iff_of_run hrun]
  constructor
  · intro hright hknown
    have hsum := (hcount hknown).symm.trans (hright.count hknown)
    unfold u32 at hsum
    split_ifs at hsum with hq
    · omega
    · exact ⟨hq, by omega⟩
  · intro hcond
    refine ⟨rfl, hword, fun hknown => ?_⟩
    obtain ⟨hq, hfits⟩ := hcond hknown
    rw [hcount hknown, if_neg hq, u32, Nat.add_zero, Nat.mod_eq_of_lt hfits]

/-- **Freeing a chain**, for every FAT.  From every cluster there is a trail; the routine ends, and frees its clusters
and counts them, exactly if the trail does not lead back into itself and the count does not run over, or the count is
not known. -/
theorem freeChain_iff (hfs : fs.Sound) (hv : fs.vol.Regular)
    (hp : fs.vol.Cluster (clusterMask p) → p % 2 ^ 30 < 2 ^ 28) :
    (∃ cs q, Trail fs (clusterMask p) cs q) ∧ ∀ cs q, Trail fs (clusterMask p) cs q →
      (∃ fuel r fs', (fat32FreeChain fs.vol fuel p).run fatMachine fs = some (r, fs')) ∧
      (fs.Frees p cs ↔
        (fs.info.freeClusters ≠ freeUnknown → q ∉ cs ∧ fs.info.freeClusters + cs.length < 2 ^ 32)) := by
  refine ⟨exists_trail fs _, fun cs q h => ⟨?_, frees_iff_count hfs hv h hp⟩⟩
  obtain ⟨fs', hrun, -⟩ := freeChain_ends hfs hv h hp le_rfl
  exact ⟨_, 0, fs', hrun⟩

end FreeChain

/-- The last cluster of a chain leads to itself, and the number of free clusters is known. -/
def ringFs : Fat32Fs :=
  { tinyFs with
    device := ⟨writeLE tinyDisk.bytes 520 4 2, fun _ => false, fun _ => false⟩
    info := ⟨12, 3, false⟩ }

lemma ringFs_sound : ringFs.Sound :=
  Fat32Fs.sound_of_empty (fun _ => ⟨rfl, rfl⟩) (fun _ => ⟨rfl, rfl⟩) tinyFs_layout rfl

lemma ringFs_next : clusterMask (ringFs.fatWord 2) = 2 := by decide

lemma ringFs_trail : Trail ringFs (clusterMask 2) [2] 2 where
  seg := ⟨rfl, ringFs_next⟩
  clusters c hc := by
    obtain rfl := List.mem_singleton.mp hc
    exact ⟨by decide, by decide⟩
  nodup := List.nodup_singleton 2
  stops := .inr List.mem_cons_self

/-- The walk ends, and its one cluster has been counted twice. -/
theorem freeChain_counts_twice : ringFs.Sound ∧ ringFs.vol.Regular ∧ Trail ringFs (clusterMask 2) [2] 2 ∧
    ¬ ringFs.Frees 2 [2] := by
  refine ⟨ringFs_sound, Fat32Fs.tinyFs_regular, ringFs_trail, fun h => ?_⟩
  have hcond := (frees_iff_count ringFs_sound Fat32Fs.tinyFs_regular ringFs_trail fun _ => by decide).mp h (by decide)
  exact hcond.1 List.mem_cons_self

/-- A chain of one cluster, to an end mark. -/
def singleFs : Fat32Fs :=
  { tinyFs with
    device := ⟨writeLE tinyDisk.bytes 520 4 clusterEof, fun _ => false, fun _ => false⟩
    info := ⟨12, 3, false⟩ }

/-- It is freed and counted. -/
theorem freeChain_iff_single : singleFs.Frees 2 [2] := by
  have htrail : Trail singleFs (clusterMask 2) [2] clusterEof := by
    have hnext : clusterMask (singleFs.fatWord 2) = clusterEof := by decide
    refine ⟨⟨rfl, hnext⟩, fun c hc => ?_, List.nodup_singleton 2, .inl (by decide)⟩
    obtain rfl := List.mem_singleton.mp hc
    exact ⟨by decide, by decide⟩
  have hsound : singleFs.Sound :=
    Fat32Fs.sound_of_empty (fun _ => ⟨rfl, rfl⟩) (fun _ => ⟨rfl, rfl⟩) tinyFs_layout rfl
  exact (((freeChain_iff hsound Fat32Fs.tinyFs_regular fun _ => by decide).2 [2] clusterEof htrail).2).mpr
    fun _ => ⟨by decide, by decide⟩

end AAAos
