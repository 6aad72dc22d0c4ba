import AAAos.Fs.Fat32.Allocation
import AAAos.Fs.Fat32.FatTable

/-!
# Where the search for a free cluster ends

`fat32_alloc_cluster` goes from the hint on until it finds a free entry or is at the hint again.  The entries behind the
last cluster lead back to cluster 2, so from there on the search stays among the clusters.

**What goes wrong.**  A hint below 2 is corrected, one behind the last cluster is not: the FSInfo sector may hold any
number, and the last cluster of the volume leaves such a hint when it is taken.  The first entry looked at then belongs
to no cluster.  If it is free it is returned as a cluster (`alloc_behind_last`).  If it is not, and the volume is full,
the search goes round for ever, since it never is at the hint again.

**What is proved.**  For every FAT and every hint, what the search does (`run_allocLoop_found`, `run_allocLoop_full`,
`run_allocLoop_hangs`), and exactly when it does what it is there for (`alloc_iff`).
-/

namespace AAAos

open CyclicSearch

/-! ## One round -/

/-- The cluster looked at next, as the source computes it. -/
def Volume.lookNext (v : Volume) (cluster : Nat) : Nat :=
  if u32 (firstDataCluster + v.totalClusters) ≤ u32 (cluster + 1) then firstDataCluster else u32 (cluster + 1)

/-- One round of the search of `fat32_alloc_cluster`. -/
def allocRound (v : Volume) (start cluster : Nat) : FatProg (Nat ⊕ Nat) := do
  let entry ← FatProg.readFat cluster
  if entry = clusterFree then Sum.inr <$> takeCluster cluster
  else pure (if v.lookNext cluster = start then .inr 0 else .inl (v.lookNext cluster))

namespace Fat32Fs

/-- The entry of the cluster is free. -/
def Free (fs : Fat32Fs) (c : Nat) : Prop := clusterMask (fs.fatWord c) = clusterFree

instance (fs : Fat32Fs) (c : Nat) : Decidable (fs.Free c) := inferInstanceAs (Decidable (_ = _))

/-- Some cluster of the volume is free. -/
def HasFree (fs : Fat32Fs) : Prop := ∃ c, fs.vol.Cluster c ∧ fs.Free c

end Fat32Fs

/-- Cluster `c` has been taken. -/
structure ClusterTaken (fs : Fat32Fs) (c : Nat) (fs' : Fat32Fs) : Prop where
  word : ∀ c', fs.vol.InFat c' →
    fs'.fatWord c' = if c' = c then Fat32Fs.mergeWord (fs.fatWord c) clusterEof else fs.fatWord c'
  count : fs'.info.freeClusters =
    if fs.info.freeClusters ≠ freeUnknown ∧ 0 < fs.info.freeClusters then fs.info.freeClusters - 1
    else fs.info.freeClusters

namespace Volume

variable {v : Volume} {c : Nat}

lemma Regular.end_eq (hv : v.Regular) : u32 (firstDataCluster + v.totalClusters) = firstDataCluster + v.totalClusters :=
  Nat.mod_eq_of_lt (lt_of_le_of_lt hv.small (by decide))

lemma Searched.lt (hv : v.Regular) (h : v.Searched c) : c < 2 ^ 28 := by
  rcases h with hc | rfl
  · exact hv.lt hc
  · decide

lemma Searched.lookNext_eq (hv : v.Regular) (h : v.Searched c) : v.lookNext c = v.after c := by
  have hlt := h.lt hv
  rw [lookNext, hv.end_eq, u32, Nat.mod_eq_of_lt (show c + 1 < 2 ^ 32 by omega)]
  rfl

lemma Searched.after (h : v.Searched c) : v.Searched (v.after c) := by
  unfold Volume.after nextIn
  split_ifs with hlast
  · exact .inr rfl
  · refine .inl ⟨?_, ?_⟩
    · rcases h with hc | rfl
      · exact Nat.le_succ_of_le hc.1
      · decide
    · unfold firstDataCluster at hlast
      omega

lemma Searched.iterate (h : v.Searched c) (i : Nat) : v.Searched (v.after^[i] c) := by
  induction i with
  | zero => exact h
  | succ i ih =>
    rw [Function.iterate_succ_apply']
    exact ih.after

end Volume

section Rounds

variable {fs fs' fs'' : Fat32Fs} {v : Volume} {start c d m fuel : Nat}

lemma SameFat.free_iff (h : SameFat fs fs') (hc : fs.vol.InFat c) : fs'.Free c ↔ fs.Free c := by
  rw [Fat32Fs.Free, Fat32Fs.Free, h.word c hc]

lemma SameFat.taken (h : SameFat fs fs') (hc : fs.vol.InFat c) (h' : ClusterTaken fs' c fs'') :
    ClusterTaken fs c fs'' where
  word c' hc' := by
    rw [h'.word c' (h.vol.symm ▸ hc'), h.word c hc, h.word c' hc']
  count := h.info ▸ h'.count

lemma run_takeCluster (hfs : fs.Sound) (c : Nat) : ∃ fs', (takeCluster c).run fatMachine fs = some (c, fs') ∧
      (fs.vol.Regular → fs.vol.InFat c → ClusterTaken fs c fs') := by
  have hrest : ∀ fs₁, (FatProg.writeFat c clusterEof).run fatMachine fs = some (0, fs₁) →
      (takeCluster c).run fatMachine fs = some (c, { fs₁ with info :=
        ⟨if fs₁.info.freeClusters ≠ freeUnknown ∧ 0 < fs₁.info.freeClusters then fs₁.info.freeClusters - 1
          else fs₁.info.freeClusters, u32 (c + 1), true⟩ }) := by
    intro fs₁ hrun
    refine (Prog.run_bind fs).trans ?_
    rw [hrun, Option.bind_some, if_neg (fun h => h rfl)]
    rfl
  by_cases hin : fs.vol.Regular ∧ fs.vol.InFat c
  · obtain ⟨fs₁, hrun, hwrites⟩ := run_writeFat hfs hin.1 hin.2 clusterEof
    exact ⟨_, hrest fs₁ hrun, fun _ _ => ⟨hwrites.word, by rw [hwrites.info]⟩⟩
  · obtain ⟨fs₁, hrun⟩ := run_writeFat_fst hfs c clusterEof
    exact ⟨_, hrest fs₁ hrun, fun hv hc => absurd ⟨hv, hc⟩ hin⟩

lemma run_allocRound_free (v : Volume) (start : Nat) (hfs : fs.Sound) (hv : fs.vol.Regular) (hfree : fs.Free c) :
    ∃ fs', (allocRound v start c).run fatMachine fs = some (.inr c, fs') ∧ (fs.vol.InFat c → ClusterTaken fs c fs') := by
  obtain ⟨fs₁, hread, hsame⟩ := run_readFat hfs hv c
  obtain ⟨fs₂, htake, htaken⟩ := run_takeCluster hsame.sound c
  refine ⟨fs₂, (Prog.run_bind fs).trans ?_, fun hc => ?_⟩
  · unfold Fat32Fs.Free at hfree
    rw [hread, Option.bind_some, if_pos hfree]
    refine (Prog.run_bind fs₁).trans ?_
    rw [htake]
    rfl
  · exact hsame.taken hc (htaken (hsame.vol.symm ▸ hv) (hsame.vol.symm ▸ hc))

lemma run_allocRound_taken (v : Volume) (start : Nat) (hfs : fs.Sound) (hv : fs.vol.Regular) (hfree : ¬ fs.Free c) :
    ∃ fs', (allocRound v start c).run fatMachine fs =
      some (if v.lookNext c = start then .inr 0 else .inl (v.lookNext c), fs') ∧ SameFat fs fs' := by
  obtain ⟨fs₁, hread, hsame⟩ := run_readFat hfs hv c
  refine ⟨fs₁, (Prog.run_bind fs).trans ?_, hsame⟩
  unfold Fat32Fs.Free at hfree
  rw [hread, Option.bind_some, if_neg hfree]
  rfl

/-! ## The search among the clusters -/

variable {free : Nat → Bool}

/-- **A free cluster is found** before the search is where it started. -/
lemma run_allocLoop_found (hfs : fs.Sound) (hvol : fs.vol = v) (hv : v.Regular)
    (hfree : ∀ c, v.Searched c → (free c = true ↔ fs.Free c)) (hc : v.Searched c)
    (hfound : (tryUpTo free v.after m c).1 = some d) (havoid : ∀ i, 0 < i → i < m → v.after^[i] c ≠ start)
    (hfuel : m ≤ fuel) :
    ∃ fs', (Prog.loop (allocRound v start) fuel c).run fatMachine fs = some (d, fs') ∧
      v.Searched d ∧ fs.Free d ∧ ClusterTaken fs d fs' := by
  induction m generalizing fs c fuel with
  | zero => cases hfound
  | succ m ih =>
    obtain ⟨fuel, rfl⟩ : ∃ n, fuel = n + 1 := ⟨fuel - 1, by omega⟩
    rw [tryUpTo] at hfound
    by_cases hthis : fs.Free c
    · rw [if_pos ((hfree c hc).mpr hthis)] at hfound
      obtain rfl : c = d := Option.some.inj hfound
      obtain ⟨fs', hrun, htaken⟩ := run_allocRound_free v start hfs (hvol ▸ hv) hthis
      exact ⟨fs', Prog.run_loop_inr hrun, hc, hthis, htaken (hvol ▸ hc.inFat hv)⟩
    · rw [if_neg (fun h => hthis ((hfree c hc).mp h))] at hfound
      have hm : 0 < m := by
        rcases Nat.eq_zero_or_pos m with rfl | hm
        · cases hfound
        · exact hm
      have hgoes : v.after c ≠ start := havoid 1 Nat.one_pos (by omega)
      obtain ⟨fs₁, hrun, hsame⟩ := run_allocRound_taken v start hfs (hvol ▸ hv) hthis
      rw [hc.lookNext_eq hv, if_neg hgoes] at hrun
      have hkeeps : ∀ c, v.Searched c → (fs₁.Free c ↔ fs.Free c) := fun c hc =>
        hsame.free_iff (hvol ▸ hc.inFat hv)
      obtain ⟨fs', hrest, hd, hdfree, htaken⟩ := ih hsame.sound (hsame.vol.trans hvol)
        (fun c hc => (hfree c hc).trans (hkeeps c hc).symm) hc.after hfound
        (fun i _ him => havoid (i + 1) (Nat.succ_pos i) (Nat.succ_lt_succ him)) (Nat.le_of_succ_le_succ hfuel)
      exact ⟨fs', (Prog.run_loop_inl hrun).trans hrest, hd, (hkeeps d hd).mp hdfree,
        hsame.taken (hvol ▸ hd.inFat hv) htaken⟩

/-- **No cluster is free**, and the search is where it started. -/
lemma run_allocLoop_full (hfs : fs.Sound) (hvol : fs.vol = v) (hv : v.Regular)
    (hnone : ∀ c, v.Searched c → ¬ fs.Free c) (hc : v.Searched c) (hm : 0 < m) (hround : v.after^[m] c = start)
    (havoid : ∀ i, 0 < i → i < m → v.after^[i] c ≠ start) (hfuel : m ≤ fuel) :
    ∃ fs', (Prog.loop (allocRound v start) fuel c).run fatMachine fs = some (0, fs') ∧ SameFat fs fs' := by
  induction m generalizing fs c fuel with
  | zero => exact absurd hm (Nat.lt_irrefl 0)
  | succ m ih =>
    obtain ⟨fuel, rfl⟩ : ∃ n, fuel = n + 1 := ⟨fuel - 1, by omega⟩
    obtain ⟨fs₁, hrun, hsame⟩ := run_allocRound_taken v start hfs (hvol ▸ hv) (hnone c hc)
    rw [hc.lookNext_eq hv] at hrun
    by_cases hlast : m = 0
    · subst hlast
      have hback : v.after c = start := hround
      rw [if_pos hback] at hrun
      exact ⟨fs₁, Prog.run_loop_inr hrun, hsame⟩
    · have hgoes : v.after c ≠ start := havoid 1 Nat.one_pos (by omega)
      rw [if_neg hgoes] at hrun
      obtain ⟨fs', hrest, hsame'⟩ := ih hsame.sound (hsame.vol.trans hvol)
        (fun c hc hf => hnone c hc ((hsame.free_iff (hvol ▸ hc.inFat hv)).mp hf)) hc.after
        (Nat.pos_of_ne_zero hlast) hround
        (fun i _ him => havoid (i + 1) (Nat.succ_pos i) (Nat.succ_lt_succ him)) (Nat.le_of_succ_le_succ hfuel)
      exact ⟨fs', (Prog.run_loop_inl hrun).trans hrest, hsame.trans hsame'⟩

/-- **No cluster is free**, and the search never is where it started. -/
lemma run_allocLoop_hangs (hfs : fs.Sound) (hvol : fs.vol = v) (hv : v.Regular)
    (hnone : ∀ c, v.Searched c → ¬ fs.Free c) (hc : v.Searched c) (hstart : ¬ v.Searched start) (fuel : Nat) :
    (Prog.loop (allocRound v start) fuel c).run fatMachine fs = none := by
  refine Prog.run_loop_hangs (J := fun c fs' => v.Searched c ∧ SameFat fs fs') ?_ fuel ⟨hc, SameFat.refl hfs⟩
  rintro c fs₁ ⟨hc, hsame⟩
  have htaken : ¬ fs₁.Free c := fun hf => hnone c hc ((hsame.free_iff (hvol ▸ hc.inFat hv)).mp hf)
  obtain ⟨fs₂, hrun, hsame'⟩ := run_allocRound_taken v start hsame.sound
    (hsame.vol.symm ▸ hvol ▸ hv) htaken
  have hgoes : v.after c ≠ start := fun h => hstart (h ▸ hc.after)
  rw [hc.lookNext_eq hv, if_neg hgoes] at hrun
  exact ⟨_, fs₂, hrun, hc.after, hsame.trans hsame'⟩

end Rounds

/-! ## What an allocation is to do -/

/-- Cluster `r` is the answer, and `fs'` the state afterwards, that an allocation is to give. -/
structure AllocRight (fs : Fat32Fs) (r : Nat) (fs' : Fat32Fs) : Prop where
  found : fs.HasFree → fs.vol.Cluster r ∧ fs.Free r ∧
    (∀ c, fs.vol.InFat c → fs'.fatWord c = if c = r then Fat32Fs.mergeWord (fs.fatWord r) clusterEof else fs.fatWord c) ∧
    (fs.info.freeClusters ≠ freeUnknown → fs'.info.freeClusters + 1 = fs.info.freeClusters)
  full : ¬ fs.HasFree → r = 0 ∧ fs'.info = fs.info ∧ ∀ c, fs.vol.InFat c → fs'.fatWord c = fs.fatWord c

namespace Fat32Fs

/-- The allocation comes to an end, with the right answer. -/
def Allocates (fs : Fat32Fs) : Prop :=
  ∃ fuel r fs', (fat32AllocCluster fs.vol fuel).run fatMachine fs = some (r, fs') ∧ AllocRight fs r fs'

/-- Where the search starts. -/
def start (fs : Fat32Fs) : Nat := Volume.searchStart fs.info.nextFreeCluster

/-- The entries before the clusters, that a search from the last 32-bit number goes through. -/
def LowFree (fs : Fat32Fs) : Prop := fs.start + 1 = 2 ^ 32 ∧ (fs.Free 0 ∨ fs.Free 1)

/-- The search starts among the clusters; or what it looks at before it gets there is not free, and there it finds
something. -/
def SearchEnds (fs : Fat32Fs) : Prop :=
  fs.vol.Cluster fs.start ∨ (fs.vol.totalClusters = 0 ∧ fs.start = firstDataCluster ∧ ¬ fs.Free firstDataCluster) ∨
    (¬ fs.Free fs.start ∧ ¬ fs.LowFree ∧ fs.HasFree)

end Fat32Fs

section Right

variable {fs fs' : Fat32Fs} {r : Nat}

lemma run_fat32AllocCluster (hfs : fs.Sound) (fuel : Nat) : (fat32AllocCluster fs.vol fuel).run fatMachine fs =
    (Prog.loop (allocRound fs.vol fs.start) fuel fs.start).run fatMachine fs := by
  unfold fat32AllocCluster
  rw [if_neg (by simp [hfs.writable])]
  rfl

lemma allocates_iff_of_run (hfs : fs.Sound) {fuel : Nat}
    (hrun : (Prog.loop (allocRound fs.vol fs.start) fuel fs.start).run fatMachine fs = some (r, fs')) :
    fs.Allocates ↔ AllocRight fs r fs' := by
  constructor
  · rintro ⟨fuel', r', fs'', hrun', hright⟩
    rw [run_fat32AllocCluster hfs] at hrun'
    have h := (Prog.run_loop_mono hrun (Nat.le_max_left fuel fuel')).symm.trans
      (Prog.run_loop_mono hrun' (Nat.le_max_right fuel fuel'))
    obtain ⟨rfl, rfl⟩ := Prod.mk.inj (Option.some.inj h)
    exact hright
  · intro hright
    exact ⟨fuel, r, fs', (run_fat32AllocCluster hfs fuel).trans hrun, hright⟩

lemma allocates_iff_of_round (hfs : fs.Sound)
    (hrun : (allocRound fs.vol fs.start fs.start).run fatMachine fs = some (.inr r, fs')) :
    fs.Allocates ↔ AllocRight fs r fs' := by
  refine allocates_iff_of_run hfs (?_ : (Prog.loop _ 1 fs.start).run fatMachine fs = _)
  exact Prog.run_loop_inr hrun

lemma ClusterTaken.right_iff (h : ClusterTaken fs r fs') (hr : fs.vol.Cluster r) (hfree : fs.Free r) :
    AllocRight fs r fs' ↔ fs.info.freeClusters ≠ 0 := by
  have hhas : fs.HasFree := ⟨r, hr, hfree⟩
  have hcount := h.count
  constructor
  · intro hright hzero
    have hknown := (hright.found hhas).2.2.2 (by rw [hzero]; decide)
    omega
  · intro hne
    refine ⟨fun _ => ⟨hr, hfree, h.word, fun hknown => ?_⟩, fun hnone => absurd hhas hnone⟩
    rw [hcount, if_pos ⟨hknown, Nat.pos_of_ne_zero hne⟩]
    omega

lemma ClusterTaken.not_right (h : ClusterTaken fs r fs') (hin : fs.vol.InFat r) (hr : ¬ fs.vol.Cluster r)
    (hfree : fs.Free r) :
    ¬ AllocRight fs r fs' := by
  intro hright
  by_cases hhas : fs.HasFree
  · exact hr (hright.found hhas).1
  · -- the word of `r` is the end mark now
    have hword := (hright.full hhas).2.2 r hin
    rw [h.word r hin, if_pos rfl] at hword
    unfold Fat32Fs.Free at hfree
    rw [← hword, Fat32Fs.clusterMask_mergeWord] at hfree
    exact absurd hfree (by decide)

lemma SameFat.right (h : SameFat fs fs') (hnone : ¬ fs.HasFree) : AllocRight fs 0 fs' :=
  ⟨fun hhas => absurd hhas hnone, fun _ => ⟨rfl, h.info, h.word⟩⟩

lemma allocLoop_leadIn (hfs : fs.Sound) (hv : fs.vol.Regular) (hout : ¬ fs.vol.Searched fs.start)
    (hlow : 2 ≤ fs.start) (h32 : fs.start < 2 ^ 32) :
    ((fs.Free fs.start ∨ fs.LowFree) ∧ ∃ fuel r fs',
      (Prog.loop (allocRound fs.vol fs.start) fuel fs.start).run fatMachine fs = some (r, fs') ∧ ¬ AllocRight fs r fs') ∨
    (¬ fs.Free fs.start ∧ ¬ fs.LowFree ∧ ∃ k fs₁, SameFat fs fs₁ ∧ ∀ fuel,
      (Prog.loop (allocRound fs.vol fs.start) (fuel + k) fs.start).run fatMachine fs =
        (Prog.loop (allocRound fs.vol fs.start) fuel firstDataCluster).run fatMachine fs₁) := by
  have hbehind : 2 + fs.vol.totalClusters ≤ fs.start := by
    by_contra hlt
    exact hout (.inl ⟨hlow, by omega⟩)
  have hend : u32 (firstDataCluster + fs.vol.totalClusters) = 2 + fs.vol.totalClusters := hv.end_eq
  by_cases hfree : fs.Free fs.start
  · obtain ⟨fs', hrun, -⟩ := run_allocRound_free fs.vol fs.start hfs hv hfree
    refine .inl ⟨.inl hfree, 1, fs.start, fs', Prog.run_loop_inr hrun, fun hright => ?_⟩
    by_cases hhas : fs.HasFree
    · exact hout (.inl (hright.found hhas).1)
    · have hzero := (hright.full hhas).1
      omega
  obtain ⟨fs₁, hrun, hsame⟩ := run_allocRound_taken fs.vol fs.start hfs hv hfree
  by_cases hwrap : fs.start + 1 = 2 ^ 32
  · -- the entries 0 and 1 come next
    have hnext : fs.vol.lookNext fs.start = 0 := by
      unfold Volume.lookNext
      rw [hend, hwrap, u32, Nat.mod_self, if_neg (by omega)]
    rw [hnext, if_neg (by omega)] at hrun
    have hnext₀ : fs.vol.lookNext 0 = 1 := by
      unfold Volume.lookNext
      rw [hend, if_neg (by rw [u32]; omega)]
      rfl
    have hnext₁ : fs.vol.lookNext 1 = firstDataCluster := by
      unfold Volume.lookNext
      split_ifs <;> rfl
    have hnot : ∀ c, c < 2 → ¬ fs.vol.Cluster c := fun c hc h => absurd h.1 (Nat.not_le.mpr hc)
    have hin : ∀ c, c < 2 → fs.vol.InFat c := fun c hc => hv.inFat_low (Nat.le_of_lt hc)
    by_cases h0 : fs₁.Free 0
    · have h0' := (hsame.free_iff (hin 0 (by decide))).mp h0
      obtain ⟨fs', hrun', htaken⟩ := run_allocRound_free fs.vol fs.start hsame.sound
        (hsame.vol.symm ▸ hv) h0
      refine .inl ⟨.inr ⟨hwrap, .inl h0'⟩, 2, 0, fs', (Prog.run_loop_inl hrun).trans (Prog.run_loop_inr hrun'), ?_⟩
      exact (hsame.taken (hin 0 (by decide)) (htaken (hsame.vol.symm ▸ hin 0 (by decide)))).not_right
        (hin 0 (by decide)) (hnot 0 (by decide)) h0'
    obtain ⟨fs₂, hrun₀, hsame₀⟩ := run_allocRound_taken fs.vol fs.start hsame.sound
      (hsame.vol.symm ▸ hv) h0
    rw [hnext₀, if_neg (by omega)] at hrun₀
    have hsame₂ := hsame.trans hsame₀
    by_cases h1 : fs₂.Free 1
    · have h1' := (hsame₂.free_iff (hin 1 (by decide))).mp h1
      obtain ⟨fs', hrun', htaken⟩ := run_allocRound_free fs.vol fs.start hsame₂.sound
        (hsame₂.vol.symm ▸ hv) h1
      refine .inl ⟨.inr ⟨hwrap, .inr h1'⟩, 3, 1, fs',
        ((Prog.run_loop_inl hrun).trans (Prog.run_loop_inl hrun₀)).trans (Prog.run_loop_inr hrun'), ?_⟩
      exact (hsame₂.taken (hin 1 (by decide)) (htaken (hsame₂.vol.symm ▸ hin 1 (by decide)))).not_right
        (hin 1 (by decide)) (hnot 1 (by decide)) h1'
    obtain ⟨fs₃, hrun₁, hsame₁⟩ := run_allocRound_taken fs.vol fs.start hsame₂.sound
      (hsame₂.vol.symm ▸ hv) h1
    have hgoes : firstDataCluster ≠ fs.start := fun h => hout (.inr h.symm)
    rw [hnext₁, if_neg hgoes] at hrun₁
    refine .inr ⟨hfree, ?_, 3, fs₃, hsame₂.trans hsame₁, fun fuel => ?_⟩
    · rintro ⟨-, hf | hf⟩
      · exact h0 ((hsame.free_iff (hin 0 (by decide))).mpr hf)
      · exact h1 ((hsame₂.free_iff (hin 1 (by decide))).mpr hf)
    · exact ((Prog.run_loop_inl hrun).trans (Prog.run_loop_inl hrun₀)).trans (Prog.run_loop_inl hrun₁)
  · have hnext : fs.vol.lookNext fs.start = firstDataCluster := by
      unfold Volume.lookNext
      rw [hend, u32, Nat.mod_eq_of_lt (by omega), if_pos (by omega)]
    have hgoes : firstDataCluster ≠ fs.start := fun h => hout (.inr h.symm)
    rw [hnext, if_neg hgoes] at hrun
    exact .inr ⟨hfree, fun h => hwrap h.1, 1, fs₁, hsame, fun fuel => Prog.run_loop_inl hrun⟩

lemma run_allocLoop_finds {v : Volume} {c : Nat} (start : Nat) (hfs : fs.Sound) (hvol : fs.vol = v) (hv : v.Regular)
    (hc : v.Cluster c) (hhas : fs.HasFree) (havoid : ∀ i, 0 < i → i < v.totalClusters → v.after^[i] c ≠ start) :
    ∃ r fs', (Prog.loop (allocRound v start) v.totalClusters c).run fatMachine fs = some (r, fs') ∧
      v.Cluster r ∧ fs.Free r ∧ ClusterTaken fs r fs' := by
  obtain ⟨a, ha, hfree⟩ := hhas
  rw [hvol] at ha
  have hfound : ∃ d, (tryUpTo (fun c => decide (fs.Free c)) v.after v.totalClusters c).1 = some d :=
    tryUpTo_nextIn_complete hc.1 hc.2 ha.1 ha.2 (decide_eq_true hfree)
  obtain ⟨d, hd⟩ := hfound
  obtain ⟨fs', hrun, -, hdfree, htaken⟩ := run_allocLoop_found hfs hvol hv (fun c _ => decide_eq_true_iff) (.inl hc) hd
    havoid le_rfl
  obtain ⟨hlow, hhigh, -⟩ := tryUpTo_nextIn_sound hc.1 hc.2 hd
  exact ⟨d, fs', hrun, ⟨hlow, hhigh⟩, hdfree, htaken⟩

/-- A search that has come to cluster 2 from behind the last cluster finds a free cluster, or does not do what it is
there for. -/
lemma allocates_iff_of_leadIn {fs₁ : Fat32Fs} {k : Nat} (hfs : fs.Sound) (hv : fs.vol.Regular)
    (hout : ¬ fs.vol.Searched fs.start) (hsame : SameFat fs fs₁)
    (hrest : ∀ fuel, (Prog.loop (allocRound fs.vol fs.start) (fuel + k) fs.start).run fatMachine fs =
      (Prog.loop (allocRound fs.vol fs.start) fuel firstDataCluster).run fatMachine fs₁) :
    fs.Allocates ↔ fs.HasFree ∧ fs.info.freeClusters ≠ 0 := by
  have hfirst : fs.vol.Searched firstDataCluster := .inr rfl
  by_cases hhas : fs.HasFree
  · have hcluster : fs.vol.Cluster firstDataCluster := by
      obtain ⟨c, hc, -⟩ := hhas
      exact ⟨le_rfl, lt_of_le_of_lt hc.1 hc.2⟩
    have hhas₁ : fs₁.HasFree := by
      obtain ⟨c, hc, hfree⟩ := hhas
      exact ⟨c, hsame.vol.symm ▸ hc, (hsame.free_iff (hv.inFat hc)).mpr hfree⟩
    obtain ⟨r, fs', hrun, hr, hfree, htaken⟩ := run_allocLoop_finds fs.start hsame.sound hsame.vol hv hcluster
      hhas₁ fun i _ _ h => hout (h ▸ hfirst.iterate i)
    have hin := hv.inFat hr
    rw [allocates_iff_of_run hfs ((hrest _).trans hrun),
      (hsame.taken hin htaken).right_iff hr ((hsame.free_iff hin).mp hfree)]
    exact (and_iff_right hhas).symm
  · refine ⟨fun h => ?_, fun h => absurd h.1 hhas⟩
    by_cases hfree : fs.Free firstDataCluster
    · have hin := hfirst.inFat hv
      obtain ⟨fs', hrun, htaken⟩ := run_allocRound_free fs.vol fs.start hsame.sound
        (hsame.vol.symm ▸ hv) ((hsame.free_iff hin).mpr hfree)
      rw [allocates_iff_of_run hfs ((hrest 1).trans (Prog.run_loop_inr hrun))] at h
      exact absurd h ((hsame.taken hin (htaken (hsame.vol.symm ▸ hin))).not_right hin
        (fun hc => hhas ⟨_, hc, hfree⟩) hfree)
    · have hnone : ∀ c, fs.vol.Searched c → ¬ fs₁.Free c := by
        intro c hc hf
        have hf' := (hsame.free_iff (hc.inFat hv)).mp hf
        rcases hc with hc | rfl
        · exact hhas ⟨c, hc, hf'⟩
        · exact hfree hf'
      obtain ⟨fuel, r, fs', hrun, -⟩ := h
      rw [run_fat32AllocCluster hfs] at hrun
      have hmore := (hrest fuel).symm.trans (Prog.run_loop_mono hrun (Nat.le_add_right fuel k))
      rw [run_allocLoop_hangs hsame.sound hsame.vol hv hnone hfirst hout] at hmore
      cases hmore

end Right

/-- **The allocation does what it is there for**, for every FAT and every hint, exactly if the search does not start
behind the last cluster (with a volume that is full, or at a free entry), and no count of zero contradicts the FAT. -/
theorem alloc_iff {fs : Fat32Fs} (hfs : fs.Sound) (hv : fs.vol.Regular) (hhint : fs.info.nextFreeCluster < 2 ^ 32) :
    fs.Allocates ↔ fs.SearchEnds ∧ (fs.HasFree → fs.info.freeClusters ≠ 0) := by
  have hlow : 2 ≤ fs.start := by
    unfold Fat32Fs.start Volume.searchStart firstDataCluster
    split_ifs <;> omega
  have h32 : fs.start < 2 ^ 32 := by
    unfold Fat32Fs.start Volume.searchStart firstDataCluster
    split_ifs <;> omega
  by_cases hstart : fs.vol.Cluster fs.start
  · by_cases hhas : fs.HasFree
    · obtain ⟨r, fs', hrun, hr, hfree, htaken⟩ := run_allocLoop_finds fs.start hfs rfl hv hstart hhas
        fun i hi hn => iterate_nextIn_ne hstart.1 hstart.2 hi hn
      rw [allocates_iff_of_run hfs hrun, htaken.right_iff hr hfree]
      exact ⟨fun h => ⟨.inl hstart, fun _ => h⟩, fun h => h.2 hhas⟩
    · have hpos : 0 < fs.vol.totalClusters := by
        have := hstart.1
        have := hstart.2
        omega
      have hnone : ∀ c, fs.vol.Searched c → ¬ fs.Free c := by
        rintro c (hc | rfl) hf
        · exact hhas ⟨c, hc, hf⟩
        · exact hhas ⟨_, ⟨le_rfl, Nat.lt_add_of_pos_right hpos⟩, hf⟩
      obtain ⟨fs', hrun, hsame⟩ := run_allocLoop_full hfs rfl hv hnone (.inl hstart) hpos
        (iterate_nextIn_round hstart.1 hstart.2) (fun i hi hn => iterate_nextIn_ne hstart.1 hstart.2 hi hn) le_rfl
      rw [allocates_iff_of_run hfs hrun]
      exact ⟨fun _ => ⟨.inl hstart, fun h => absurd h hhas⟩, fun _ => hsame.right hhas⟩
  by_cases htwo : fs.start = firstDataCluster
  · -- the volume has no clusters
    have hzero : fs.vol.totalClusters = 0 := by
      by_contra hne
      exact hstart ⟨hlow, by rw [htwo, firstDataCluster]; omega⟩
    have hhas : ¬ fs.HasFree := by
      rintro ⟨c, ⟨h1, h2⟩, -⟩
      omega
    have hnone : ∀ c, fs.vol.Searched c → c = fs.start := by
      rintro c (⟨h1, h2⟩ | rfl)
      · omega
      · exact htwo.symm
    by_cases hfree : fs.Free fs.start
    · obtain ⟨fs', hrun, htaken⟩ := run_allocRound_free fs.vol fs.start hfs hv hfree
      have hin : fs.vol.InFat fs.start := hv.inFat_low (le_of_eq htwo)
      rw [allocates_iff_of_round hfs hrun]
      refine ⟨fun h => absurd h ((htaken hin).not_right hin hstart hfree), ?_⟩
      rintro ⟨h | ⟨-, -, h⟩ | ⟨h, -, -⟩, -⟩
      · exact absurd h hstart
      · exact absurd (htwo ▸ hfree) h
      · exact absurd hfree h
    · have hsearched : fs.vol.Searched fs.start := .inr htwo
      obtain ⟨fs', hrun, hsame⟩ := run_allocLoop_full (m := 1) hfs rfl hv (fun c hc => hnone c hc ▸ hfree)
        hsearched Nat.one_pos (hnone _ hsearched.after)
        (fun i hi hn => absurd hi (by omega)) le_rfl
      rw [allocates_iff_of_run hfs hrun]
      exact ⟨fun _ => ⟨.inr (.inl ⟨hzero, htwo, htwo ▸ hfree⟩), fun h => absurd h hhas⟩, fun _ => hsame.right hhas⟩
  have hout : ¬ fs.vol.Searched fs.start := fun h => h.elim hstart htwo
  rcases allocLoop_leadIn hfs hv hout hlow h32 with ⟨hlead, fuel, r, fs', hrun, hwrong⟩ | ⟨hfree, hlead, k, fs₁, hsame, hrest⟩
  · rw [allocates_iff_of_run hfs hrun]
    refine ⟨fun h => absurd h hwrong, ?_⟩
    rintro ⟨h | ⟨-, h, -⟩ | ⟨h, h', -⟩, -⟩
    · exact absurd h hstart
    · exact absurd h htwo
    · exact absurd hlead (not_or.mpr ⟨h, h'⟩)
  rw [allocates_iff_of_leadIn hfs hv hout hsame hrest]
  constructor
  · intro h
    exact ⟨.inr (.inr ⟨hfree, hlead, h.1⟩), fun _ => h.2⟩
  · rintro ⟨h | ⟨-, h, -⟩ | ⟨-, -, h⟩, hcount⟩
    · exact absurd h hstart
    · exact absurd h htwo
    · exact ⟨h, hcount h⟩

/-- An empty volume whose last cluster was taken and given back. -/
def behindLast : Fat32Fs := { tinyFs with info := ⟨freeUnknown, 15, true⟩ }

/-- The search starts behind its last cluster, at an entry that is free. -/
theorem alloc_behind_last : behindLast.Sound ∧ behindLast.vol.Regular ∧ behindLast.HasFree ∧ ¬ behindLast.Allocates := by
  have hfs : behindLast.Sound := tinyFs_sound.of_device rfl rfl tinyDisk_reliable fun _ _ => rfl
  have hv : behindLast.vol.Regular := Fat32Fs.tinyFs_regular
  have hfree : behindLast.Free behindLast.start := by decide
  have hin : behindLast.vol.InFat behindLast.start := by decide
  obtain ⟨fs', hrun, htaken⟩ := run_allocRound_free behindLast.vol behindLast.start hfs hv hfree
  refine ⟨hfs, hv, ⟨2, by decide, by decide⟩, ?_⟩
  rw [allocates_iff_of_round hfs hrun]
  exact (htaken hin).not_right hin (by decide) hfree

/-- The same volume before anything was taken. -/
theorem alloc_iff_tiny : tinyFs.Allocates :=
  (alloc_iff tinyFs_sound Fat32Fs.tinyFs_regular (by decide)).mpr ⟨.inl (by decide), fun _ => by decide⟩

end AAAos
