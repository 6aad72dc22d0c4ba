import AAAos.Fs.Fat32.Directories
import AAAos.Fs.Fat32.FreeTrail

/-!
# Where the searches through directories end

The loops of `fat32_find_entry_in_dir` and `fat32_delete_entry` follow the chain of a directory until something in a
cluster makes them stop (`WalkTo`), and nothing bounds them.  Such a loop ends where the walk does: `walk_hangs`, and
`wp_walk` and `run_walk` on the way to where it stops.

Exactly when the searches come to an end is `find_terminates_iff` and `delete_terminates_iff`, and
`lookup_terminates_iff` for a path, which is one search after another.
-/

namespace AAAos

open View

/-! ## Walks -/

section Walks

variable {v : Volume} {t : View} {stops : Nat → Prop} {p q : Nat} {cs : List Nat}

/-- The walk from `p` arrives at `q`, and that makes it stop or is no cluster. -/
def WalkTo (v : Volume) (t : View) (stops : Nat → Prop) (p q : Nat) : Prop :=
  ∃ cs, Chained v t p cs q ∧ (∀ c ∈ cs, ¬ stops c) ∧ (v.Cluster q → stops q)

/-- The walk ends. -/
def WalkEnds (v : Volume) (t : View) (stops : Nat → Prop) (p : Nat) : Prop := ∃ q, WalkTo v t stops p q

lemma walkTo_self (h : v.Cluster p → stops p) : WalkTo v t stops p p :=
  ⟨[], ⟨rfl, fun _ h => absurd h List.not_mem_nil⟩, fun _ h => absurd h List.not_mem_nil, h⟩

lemma WalkTo.cons (hc : v.Cluster p) (hp : ¬ stops p) (h : WalkTo v t stops (t.next p) q) : WalkTo v t stops p q := by
  obtain ⟨cs, hcs, hpass, hq⟩ := h
  refine ⟨p :: cs, ⟨⟨rfl, hcs.seg⟩, fun c hmem => ?_⟩, fun c hmem => ?_, hq⟩
  · rcases List.mem_cons.mp hmem with rfl | hmem
    · exact hc
    · exact hcs.clusters c hmem
  · rcases List.mem_cons.mp hmem with rfl | hmem
    · exact hp
    · exact hpass c hmem

lemma not_walkEnds (h : ¬ WalkEnds v t stops p) : v.Cluster p ∧ ¬ stops p ∧ ¬ WalkEnds v t stops (t.next p) := by
  have hgoes : ¬ (v.Cluster p → stops p) := fun hstops => h ⟨p, walkTo_self hstops⟩
  obtain ⟨hc, hp⟩ := Classical.not_imp.mp hgoes
  exact ⟨hc, hp, fun ⟨q, hq⟩ => h ⟨q, hq.cons hc hp⟩⟩

lemma not_walkEnds_of_ring (hc : v.Cluster p) (hp : ¬ stops p) (hring : t.next p = p) : ¬ WalkEnds v t stops p := by
  rintro ⟨q, cs, hcs, -, hq⟩
  have hstays : q = p := by
    induction cs with
    | nil => exact hcs.seg.symm
    | cons c cs ih =>
      obtain rfl := hcs.head
      have htail := hcs.tail
      rw [hring] at htail
      exact ih htail
  subst hstays
  exact hp (hq hc)

variable {α β : Type} {body : β → FatProg (β ⊕ α)} {pos : β → Nat} {P : β → Prop} {fs : Fat32Fs} {b : β}

/-- A round at a cluster that does not stop it leads to the next cluster. -/
def GoesOn (v : Volume) (t : View) (stops : Nat → Prop) (body : β → FatProg (β ⊕ α)) (pos : β → Nat) (P : β → Prop) :
    Prop :=
  ∀ b, P b → v.Cluster (pos b) → ¬ stops (pos b) → (body b).wp (fatSpec v)
    (fun r u => u = t ∧ ∃ b', r = .inl b' ∧ pos b' = t.next (pos b) ∧ P b') t

/-- **A walk that does not end.** -/
theorem walk_hangs (hv : v.Regular) (hfs : Shows v fs t) (hgo : GoesOn v t stops body pos P) (hP : P b)
    (hends : ¬ WalkEnds v t stops (pos b)) (fuel : Nat) : (Prog.loop body fuel b).run fatMachine fs = none := by
  refine Prog.run_loop_hangs (J := fun b fs => Shows v fs t ∧ P b ∧ ¬ WalkEnds v t stops (pos b)) ?_ fuel
    ⟨hfs, hP, hends⟩
  rintro b fs ⟨hfs, hP, hends⟩
  obtain ⟨hc, hp, hnext⟩ := not_walkEnds hends
  obtain ⟨r, fs', u, hrun, hshows, rfl, b', rfl, hpos, hP'⟩ := hfs.run hv (hgo b hP hc hp)
  exact ⟨b', fs', hrun, hshows, hP', hpos ▸ hnext⟩

/-- A walk of the driver, through clusters that do not stop it. -/
theorem run_walk (hv : v.Regular) (hfs : Shows v fs t) (hgo : GoesOn v t stops body pos P) (hP : P b)
    (hcs : Chained v t (pos b) cs q) (hpass : ∀ c ∈ cs, ¬ stops c) :
    ∃ b' fs', Shows v fs' t ∧ pos b' = q ∧ P b' ∧ ∀ fuel,
      (Prog.loop body (fuel + cs.length) b).run fatMachine fs = (Prog.loop body fuel b').run fatMachine fs' := by
  induction cs generalizing b fs with
  | nil => exact ⟨b, fs, hfs, hcs.seg, hP, fun _ => rfl⟩
  | cons c cs ih =>
    have hpos := hcs.head
    have hgoes := hgo b hP (hpos ▸ hcs.cluster) (hpos ▸ hpass c List.mem_cons_self)
    obtain ⟨r, fs₁, u, hrun, hshows, rfl, b₁, rfl, hnext, hP₁⟩ := hfs.run hv hgoes
    have htail : Chained v u (pos b₁) cs q := by
      rw [hnext, hpos]
      exact hcs.tail
    obtain ⟨b', fs', hshows', hq, hP', hloop⟩ :=
      ih hshows hP₁ htail fun c hc => hpass c (List.mem_cons_of_mem _ hc)
    exact ⟨b', fs', hshows', hq, hP', fun fuel => (Prog.run_loop_inl hrun).trans (hloop fuel)⟩

/-- **A walk** through clusters that do not stop it. -/
theorem wp_walk {Q : α → View → Prop} {fuel : Nat} (hgo : GoesOn v t stops body pos P) (hP : P b)
    (hcs : Chained v t (pos b) cs q) (hpass : ∀ c ∈ cs, ¬ stops c)
    (hrest : ∀ b', pos b' = q → P b' → (Prog.loop body fuel b').wp (fatSpec v) Q t) :
    (Prog.loop body (fuel + cs.length) b).wp (fatSpec v) Q t := by
  induction cs generalizing b with
  | nil => exact hrest b hcs.seg hP
  | cons c cs ih =>
    have hpos := hcs.head
    have hc := hcs.cluster
    rw [List.length_cons, ← Nat.add_assoc, Prog.wp_loop_succ]
    refine Prog.wp_mono (hgo b hP (hpos ▸ hc) (hpos ▸ hpass c List.mem_cons_self)) ?_
    rintro r u ⟨rfl, b', rfl, hnext, hP'⟩
    refine ih hP' ?_ fun c hc => hpass c (List.mem_cons_of_mem _ hc)
    rw [hnext, hpos]
    exact hcs.tail

/-- One that ends, at a cluster where the last round is the one that stops it. -/
lemma wp_walkTo {Q : α → View → Prop} {fuel : Nat} (hgo : GoesOn v t stops body pos P) (hP : P b)
    (hcs : Chained v t (pos b) cs q) (hpass : ∀ c ∈ cs, ¬ stops c) (hfuel : cs.length < fuel)
    (hlast : ∀ b', pos b' = q → P b' → (body b').wp (fatSpec v) (fun r u => ∃ a, r = .inr a ∧ Q a u) t) :
    (Prog.loop body fuel b).wp (fatSpec v) Q t := by
  obtain ⟨n, rfl⟩ : ∃ n, fuel = (n + 1) + cs.length := ⟨fuel - cs.length - 1, by omega⟩
  refine wp_walk hgo hP hcs hpass fun b' hpos hP' => ?_
  rw [Prog.wp_loop_succ]
  refine Prog.wp_mono (hlast b' hpos hP') ?_
  rintro r u ⟨a, rfl, hQ⟩
  exact hQ

end Walks

/-! ## The scan of one cluster -/

section Scan

variable {verdict : Nat → Option DirScan}

lemma scanDir_cases (verdict : Nat → Option DirScan) (n i : Nat) :
    (∃ j, i ≤ j ∧ j < i + n ∧ (∀ k, i ≤ k → k < j → verdict k = none) ∧ verdict j = some (scanDir verdict n i)) ∨
      ((∀ j, i ≤ j → j < i + n → verdict j = none) ∧ scanDir verdict n i = .exhausted) := by
  induction n generalizing i with
  | zero => exact .inr ⟨fun j hij hj => absurd hj (by omega), rfl⟩
  | succ n ih =>
    unfold scanDir
    cases hi : verdict i with
    | some r => exact .inl ⟨i, le_rfl, by omega, fun k hik hk => absurd hk (by omega), by rw [hi]⟩
    | none =>
      have hfirst : ∀ k, i ≤ k → ¬ i + 1 ≤ k → verdict k = none := by
        intro k hik hk
        obtain rfl : k = i := by omega
        exact hi
      dsimp only
      rcases ih (i + 1) with ⟨j, hij, hj, hbefore, hverdict⟩ | ⟨hall, hscan⟩
      · refine .inl ⟨j, by omega, by omega, fun k hik hk => ?_, hverdict⟩
        by_cases hk1 : i + 1 ≤ k
        · exact hbefore k hk1 hk
        · exact hfirst k hik hk1
      · refine .inr ⟨fun j hij hj => ?_, hscan⟩
        by_cases hj1 : i + 1 ≤ j
        · exact hall j hj1 (by omega)
        · exact hfirst j hij hj1

/-- A loop over the slots of a cluster stops in it. -/
def ScanStops (verdict : Nat → Option DirScan) (n i : Nat) : Prop := ∃ j, i ≤ j ∧ j < i + n ∧ verdict j ≠ none

lemma scanDir_of_stops (hnot : ∀ j, verdict j ≠ some .exhausted) {n i : Nat} :
    ScanStops verdict n i ↔ scanDir verdict n i ≠ .exhausted := by
  rcases scanDir_cases verdict n i with ⟨j, hij, hj, -, hverdict⟩ | ⟨hall, hscan⟩
  · refine iff_of_true ⟨j, hij, hj, ?_⟩ fun hscan => hnot j (hscan ▸ hverdict)
    rw [hverdict]
    exact Option.some_ne_none _
  · exact iff_of_false (fun ⟨j, hij, hj, hne⟩ => hne (hall j hij hj)) (not_not.mpr hscan)

end Scan

lemma findVerdict_ne (name : Str) (buf : Mem) (i : Nat) : findVerdict name buf i ≠ some .exhausted := by
  unfold findVerdict
  dsimp only
  split_ifs <;> simp

lemma deleteVerdict_ne (name : Str) (buf : Mem) (i : Nat) : deleteVerdict name buf i ≠ some .exhausted := by
  unfold deleteVerdict
  dsimp only
  split_ifs <;> simp

lemma readVerdict_ne (buf : Mem) (i : Nat) : readVerdict buf i ≠ some .exhausted := by
  unfold readVerdict
  split_ifs <;> simp

/-! ## Termination -/

/-- The routine comes to an end. -/
def Terminates {α : Type} (p : Nat → FatProg α) (fs : Fat32Fs) : Prop := ∃ fuel r, (p fuel).run fatMachine fs = some r

lemma Shows.terminates {α : Type} {v : Volume} {t : View} {fs : Fat32Fs} {p : Nat → FatProg α} {fuel : Nat}
    {Q : α → View → Prop} (hv : v.Regular) (h : Shows v fs t) (hwp : (p fuel).wp (fatSpec v) Q t) : Terminates p fs := by
  obtain ⟨r, fs', -, hrun, -⟩ := h.run hv hwp
  exact ⟨fuel, (r, fs'), hrun⟩

section Find

variable {v : Volume} {t : View} {fs : Fat32Fs} {p q c : Nat} {cs : List Nat} {name : Str}

/-- `fat32_find_entry_in_dir` stops in the cluster. -/
def FindStops (v : Volume) (t : View) (name : Str) (c : Nat) : Prop :=
  ScanStops (findVerdict name (t.data c)) (entriesPerCluster v) 0

/-- The entry that it finds there. -/
def foundIn (v : Volume) (t : View) (name : Str) (c : Nat) : Option Mem :=
  if v.Cluster c then
    match scanDir (findVerdict name (t.data c)) (entriesPerCluster v) 0 with
    | .found i => some (slotAt (t.data c) i)
    | _ => none
  else none

/-- One round of the loop of `fat32_find_entry_in_dir`. -/
def findRound (v : Volume) (name : Str) (s : Nat × Nat) : FatProg ((Nat × Nat) ⊕ Except Int (Mem × Nat)) :=
  if fat32ClusterIsValid v s.1 then do
    match ← FatProg.readCluster s.1 with
    | .error e => pure (.inr (.error e))
    | .ok buf =>
      match scanDir (findVerdict name buf) (entriesPerCluster v) 0 with
      | .found i => pure (.inr (.ok (slice buf (direntSize * i) direntSize, u32 (s.2 + i))))
      | .ended => pure (.inr (.error errNoEnt))
      | .exhausted => do
        let next ← fat32NextCluster v s.1
        pure (.inl (next, u32 (s.2 + entriesPerCluster v)))
  else pure (.inr (.error errNoEnt))

lemma fat32FindEntryInDir_eq (v : Volume) (fuel p : Nat) (name : Str) :
    fat32FindEntryInDir v fuel p name = Prog.loop (findRound v name) fuel (p, 0) := rfl

/-- A start of a walk: no bits above the 28 of a cluster number, if these are one. -/
def Proper (v : Volume) (p : Nat) : Prop := fat32ClusterIsValid v p = true → v.Cluster p

lemma Proper.invalid (hp : Proper v p) (hc : ¬ v.Cluster p) : fat32ClusterIsValid v p ≠ true := fun h => hc (hp h)

lemma proper_next (hv : v.Regular) (h : t.next c < 2 ^ 28) : Proper v (t.next c) := (hv.valid_iff h).mp

/-- The answer of `fat32_find_entry_in_dir`. -/
def findAnswer (found : Option Mem) (r : Except Int (Mem × Nat)) : Prop :=
  match found with
  | some entry => ∃ index, r = .ok (entry, index)
  | none => r = .error errNoEnt

lemma findRound_goesOn (hv : v.Regular) (hnext : ∀ c, t.next c < 2 ^ 28) :
    GoesOn v t (FindStops v t name) (findRound v name) Prod.fst (fun s => Proper v s.1) := by
  rintro ⟨c, index⟩ - hc hstops
  have hscan := not_not.mp (mt (scanDir_of_stops (findVerdict_ne name (t.data c))).mpr hstops)
  unfold findRound
  dsimp only at hc ⊢
  rw [if_pos (hv.valid hc), Prog.wp_bind, FatProg.wp_readCluster]
  refine ⟨hc, ?_⟩
  dsimp only
  rw [hscan]
  dsimp only
  rw [Prog.wp_bind, wp_fat32NextCluster hv hc]
  exact ⟨rfl, _, rfl, rfl, proper_next hv (hnext c)⟩

lemma wp_findRound_last (hv : v.Regular) (hp : Proper v q) (hq : v.Cluster q → FindStops v t name q) (index : Nat) :
    (findRound v name (q, index)).wp (fatSpec v)
      (fun r u => ∃ a, r = .inr a ∧ findAnswer (foundIn v t name q) a ∧ u = t) t := by
  unfold findRound foundIn
  dsimp only
  by_cases hc : v.Cluster q
  · have hscan := (scanDir_of_stops (findVerdict_ne name (t.data q))).mp (hq hc)
    rw [if_pos (hv.valid hc), if_pos hc, Prog.wp_bind, FatProg.wp_readCluster]
    refine ⟨hc, ?_⟩
    dsimp only
    cases hcase : scanDir (findVerdict name (t.data q)) (entriesPerCluster v) 0 with
    | found i => exact ⟨_, rfl, ⟨_, rfl⟩, rfl⟩
    | ended => exact ⟨_, rfl, rfl, rfl⟩
    | exhausted => exact absurd hcase hscan
  · rw [if_neg (hp.invalid hc), if_neg hc]
    exact ⟨_, rfl, rfl, rfl⟩

lemma View.Chained.proper (hv : v.Regular) (hnext : ∀ c, t.next c < 2 ^ 28) (hp : Proper v p)
    (hcs : Chained v t p cs q) :
    Proper v q := by
  induction cs generalizing p with
  | nil => exact hcs.seg ▸ hp
  | cons c cs ih => exact ih (proper_next hv (hnext c)) hcs.tail

/-- **Finding**, where the walk ends. -/
lemma wp_fat32FindEntryInDir (hv : v.Regular) (hnext : ∀ c, t.next c < 2 ^ 28) (hp : Proper v p)
    (h : WalkTo v t (FindStops v t name) p q) : ∃ n, ∀ fuel, n ≤ fuel →
      (fat32FindEntryInDir v fuel p name).wp (fatSpec v) (fun r u => findAnswer (foundIn v t name q) r ∧ u = t) t := by
  obtain ⟨cs, hcs, hpass, hq⟩ := h
  refine ⟨cs.length + 1, fun fuel hfuel => ?_⟩
  rw [fat32FindEntryInDir_eq]
  refine wp_walkTo (findRound_goesOn hv hnext) (b := (p, 0)) hp hcs hpass hfuel ?_
  rintro ⟨q', index⟩ rfl hp'
  exact wp_findRound_last hv hp' hq index

lemma Fat32Fs.view_next_lt (fs : Fat32Fs) (c : Nat) : fs.view.next c < 2 ^ 28 := clusterMask_lt _

lemma find_hangs (hv : v.Regular) (hfs : Shows v fs t) (hnext : ∀ c, t.next c < 2 ^ 28) (hp : Proper v p)
    (h : ¬ WalkEnds v t (FindStops v t name) p) (fuel : Nat) :
    (fat32FindEntryInDir v fuel p name).run fatMachine fs = none :=
  walk_hangs hv hfs (findRound_goesOn hv hnext) (b := (p, 0)) hp h fuel

theorem find_terminates_iff (hv : v.Regular) (hfs : Shows v fs t) (hnext : ∀ c, t.next c < 2 ^ 28) (hp : Proper v p) :
    Terminates (fun fuel => fat32FindEntryInDir v fuel p name) fs ↔ WalkEnds v t (FindStops v t name) p := by
  constructor
  · rintro ⟨fuel, r, hrun⟩
    by_contra hends
    rw [find_hangs hv hfs hnext hp hends fuel] at hrun
    cases hrun
  · rintro ⟨q, hq⟩
    obtain ⟨n, hwp⟩ := wp_fat32FindEntryInDir hv hnext hp hq
    exact hfs.terminates hv (hwp n le_rfl)

end Find

/-! ## Deleting -/

section Delete

variable {v : Volume} {t : View} {fs : Fat32Fs} {p q : Nat} {cs : List Nat} {name : Str}

/-- `fat32_delete_entry` stops in the cluster. -/
def DeleteStops (v : Volume) (t : View) (name : Str) (c : Nat) : Prop :=
  ScanStops (deleteVerdict name (t.data c)) (entriesPerCluster v) 0

/-- One round of the loop of `fat32_delete_entry`. -/
def deleteRound (v : Volume) (fuel : Nat) (name : Str) (cluster : Nat) : FatProg (Nat ⊕ Int) :=
  if fat32ClusterIsValid v cluster then do
    match ← FatProg.readCluster cluster with
    | .error e => pure (.inr e)
    | .ok buf =>
      match scanDir (deleteVerdict name buf) (entriesPerCluster v) 0 with
      | .found i => do
        let a := direntSize * i
        if firstDataCluster ≤ fat32EntryCluster buf a then do
          let _ ← fat32FreeChain v fuel (fat32EntryCluster buf a)
          Sum.inr <$> FatProg.writeCluster cluster (Function.update buf a direntFree)
        else Sum.inr <$> FatProg.writeCluster cluster (Function.update buf a direntFree)
      | .ended => pure (.inr errNoEnt)
      | .exhausted => Sum.inl <$> fat32NextCluster v cluster
  else pure (.inr errNoEnt)

lemma fat32DeleteEntry_eq (hrw : v.readonly = false) (fuel p : Nat) (name : Str) :
    fat32DeleteEntry v fuel p name = Prog.loop (deleteRound v fuel name) fuel p :=
  if_neg (by simp [hrw])

lemma deleteRound_goesOn (hv : v.Regular) (hnext : ∀ c, t.next c < 2 ^ 28) (fuel : Nat) :
    GoesOn v t (DeleteStops v t name) (deleteRound v fuel name) id (Proper v) := by
  rintro c - hc hstops
  have hscan := not_not.mp (mt (scanDir_of_stops (deleteVerdict_ne name (t.data c))).mpr hstops)
  change v.Cluster c at hc
  unfold deleteRound
  rw [if_pos (hv.valid hc), Prog.wp_bind, FatProg.wp_readCluster]
  refine ⟨hc, ?_⟩
  dsimp only
  rw [hscan]
  dsimp only
  rw [Prog.wp_map, wp_fat32NextCluster hv hc]
  exact ⟨rfl, _, rfl, rfl, proper_next hv (hnext c)⟩

lemma Volume.length_le_clusters (hnodup : cs.Nodup) (h : ∀ c ∈ cs, v.Cluster c) : cs.length ≤ v.totalClusters := by
  have hsub : cs ⊆ List.range' 2 v.totalClusters := fun c hc => by
    rw [List.mem_range'_1]
    exact h c hc
  have hlen := (List.subperm_of_subset hnodup hsub).length_le
  rwa [List.length_range'] at hlen

lemma Trail.length_le (h : Trail fs p cs q) : cs.length ≤ fs.vol.totalClusters :=
  Volume.length_le_clusters h.nodup h.clusters

/-- The entry that is found has a proper cluster number. -/
def DeleteProper (v : Volume) (t : View) (name : Str) (p : Nat) : Prop :=
  ∀ q i, WalkTo v t (DeleteStops v t name) p q →
    scanDir (deleteVerdict name (t.data q)) (entriesPerCluster v) 0 = .found i →
    Proper v (fat32EntryCluster (t.data q) (direntSize * i))

lemma run_deleteRound_last (hv : v.Regular) (hfs : Shows v fs t) (hp : Proper v q)
    (hq : v.Cluster q → DeleteStops v t name q) {fuel : Nat} (hfuel : v.totalClusters + 2 ≤ fuel)
    (hentry : ∀ i, scanDir (deleteVerdict name (t.data q)) (entriesPerCluster v) 0 = .found i →
      Proper v (fat32EntryCluster (t.data q) (direntSize * i))) :
    ∃ r fs', (deleteRound v fuel name q).run fatMachine fs = some (.inr r, fs') := by
  unfold deleteRound
  by_cases hc : v.Cluster q
  · have hscan := (scanDir_of_stops (deleteVerdict_ne name (t.data q))).mp (hq hc)
    rw [if_pos (hv.valid hc), Prog.run_bind]
    have hread : (FatProg.readCluster q).run fatMachine fs = some (.ok (t.data q), fs) :=
      congrArg (fun r => some (r, fs)) (hfs.readCluster hv hc)
    rw [hread, Option.bind_some]
    dsimp only
    cases hcase : scanDir (deleteVerdict name (t.data q)) (entriesPerCluster v) 0 with
    | found i =>
      dsimp only
      split_ifs with hdata
      · -- the chain of the entry is freed, however it goes
        obtain rfl := hfs.vol
        obtain ⟨cs, q', htrail⟩ := exists_trail fs
          (clusterMask (fat32EntryCluster (t.data q) (direntSize * i)))
        have hproper := hentry i hcase
        obtain ⟨fs₁, hfree, -⟩ := freeChain_ends hfs.sound hv htrail (fun hmask => lt_of_le_of_lt (Nat.mod_le _ _)
          (hv.lt (hproper ((hv.valid_iff_mask _).mpr hmask)))) (Nat.le_trans (Nat.add_le_add_right htrail.length_le 2) hfuel)
        rw [Prog.run_bind, hfree]
        exact ⟨_, _, rfl⟩
      · exact ⟨_, _, rfl⟩
    | ended => exact ⟨_, _, rfl⟩
    | exhausted => exact absurd hcase hscan
  · rw [if_neg (hp.invalid hc)]
    exact ⟨_, _, rfl⟩

theorem delete_terminates_iff (hv : v.Regular) (hfs : Shows v fs t) (hnext : ∀ c, t.next c < 2 ^ 28)
    (hp : Proper v p) (hentry : DeleteProper v t name p) :
    Terminates (fun fuel => fat32DeleteEntry v fuel p name) fs ↔ WalkEnds v t (DeleteStops v t name) p := by
  have hrw : v.readonly = false := hfs.vol ▸ hfs.sound.writable
  constructor
  · rintro ⟨fuel, r, hrun⟩
    by_contra hends
    dsimp only at hrun
    rw [fat32DeleteEntry_eq hrw, walk_hangs hv hfs (deleteRound_goesOn hv hnext fuel) hp hends fuel] at hrun
    cases hrun
  · rintro ⟨q, hwalk⟩
    obtain ⟨cs, hcs, hpass, hq⟩ := hwalk
    obtain ⟨q', fs', hshows, hqq, hp', hloop⟩ :=
      run_walk hv hfs (deleteRound_goesOn hv hnext (v.totalClusters + 2 + cs.length)) (b := p) hp hcs hpass
    obtain rfl : q' = q := hqq
    obtain ⟨r, fs'', hlast⟩ := run_deleteRound_last hv hshows hp' hq
      (show v.totalClusters + 2 ≤ v.totalClusters + 2 + cs.length from Nat.le_add_right _ _)
      fun i hi => hentry q' i ⟨cs, hcs, hpass, hq⟩ hi
    refine ⟨v.totalClusters + 2 + cs.length, (r, fs''), ?_⟩
    dsimp only
    rw [fat32DeleteEntry_eq hrw, hloop]
    exact Prog.run_loop_inr hlast

end Delete

/-! ## Looking a path up -/

section Lookup

variable {v : Volume} {t : View} {fs : Fat32Fs} {p q : Nat} {component path : Str} {entry : Mem}

/-- The path is looked up, from `p` on, with this answer: each walk on the way ends. -/
def LookupTo (v : Volume) (t : View) : Nat → Str → Nat → Str → Mem → Except Int (Mem × Nat) → Prop
  | 0, _, p, _, entry, r => r = .ok (entry, p)
  | rounds + 1, remaining, p, component, entry, r =>
    match fat32PathNextComponent remaining with
    | none =>
      if component = [] then r = .ok (entry, p)
      else ∃ q, WalkTo v t (FindStops v t component) p q ∧
        match foundIn v t component q with
        | none => r = .error errNoEnt
        | some entry => r = .ok (entry, fat32EntryCluster entry 0)
    | some (component, remaining) =>
      ∃ q, WalkTo v t (FindStops v t component) p q ∧
        match foundIn v t component q with
        | none => r = .error errNoEnt
        | some entry =>
          if remaining.dropWhile isPathSeparator = [] then r = .ok (entry, fat32EntryCluster entry 0)
          else if entryAttr entry 0 &&& attrDirectory = 0 then r = .error errNotDir
          else LookupTo v t rounds (remaining.dropWhile isPathSeparator) (fat32EntryCluster entry 0) [] entry r

/-- The entries found on the way have proper cluster numbers. -/
def LookupProper (v : Volume) (t : View) : Nat → Str → Nat → Str → Prop
  | 0, _, p, _ => Proper v p
  | rounds + 1, remaining, p, component =>
    Proper v p ∧
      match fat32PathNextComponent remaining with
      | none => component ≠ [] → ∀ q entry, WalkTo v t (FindStops v t component) p q →
          foundIn v t component q = some entry → Proper v (fat32EntryCluster entry 0)
      | some (component, remaining) =>
        ∀ q entry, WalkTo v t (FindStops v t component) p q → foundIn v t component q = some entry →
          LookupProper v t rounds (remaining.dropWhile isPathSeparator) (fat32EntryCluster entry 0) []

lemma LookupProper.start {rounds : Nat} (h : LookupProper v t rounds path p component) : Proper v p := by
  cases rounds with
  | zero => exact h
  | succ rounds => exact h.1

/-- **The loop of `fat32_lookup`**, where the walks end. -/
lemma wp_lookupComponents (hv : v.Regular) (hnext : ∀ c, t.next c < 2 ^ 28) {rounds : Nat} {r : Except Int (Mem × Nat)}
    (hproper : LookupProper v t rounds path p component) (h : LookupTo v t rounds path p component entry r) :
    ∃ n, ∀ fuel, n ≤ fuel → (lookupComponents v fuel rounds path p component entry).wp (fatSpec v)
      (fun r' u => r' = r ∧ u = t) t := by
  induction rounds generalizing path p component entry with
  | zero => exact ⟨0, fun _ _ => ⟨h.symm, rfl⟩⟩
  | succ rounds ih =>
    have hp := hproper.start
    have hrest := hproper.2
    unfold LookupTo at h
    simp only [lookupComponents]
    cases hnextc : fat32PathNextComponent path with
    | none =>
      rw [hnextc] at h
      dsimp only at h ⊢
      split_ifs at h ⊢ with hempty
      · exact ⟨0, fun _ _ => ⟨h.symm, rfl⟩⟩
      · obtain ⟨q, hwalk, hanswer⟩ := h
        obtain ⟨n, hwp⟩ := wp_fat32FindEntryInDir hv hnext hp hwalk
        refine ⟨n, fun fuel hfuel => ?_⟩
        rw [Prog.wp_bind]
        refine Prog.wp_mono (hwp fuel hfuel) ?_
        rintro r' u ⟨hfound, rfl⟩
        cases hcase : foundIn v u component q with
        | none =>
          rw [hcase] at hanswer hfound
          obtain rfl : r' = .error errNoEnt := hfound
          exact ⟨hanswer.symm, rfl⟩
        | some entry =>
          rw [hcase] at hanswer hfound
          obtain ⟨index, rfl⟩ := hfound
          exact ⟨hanswer.symm, rfl⟩
    | some next =>
      obtain ⟨component', remaining⟩ := next
      rw [hnextc] at h hrest
      dsimp only at h hrest ⊢
      obtain ⟨q, hwalk, hanswer⟩ := h
      obtain ⟨n, hwp⟩ := wp_fat32FindEntryInDir hv hnext hp hwalk
      cases hcase : foundIn v t component' q with
      | none =>
        rw [hcase] at hanswer
        refine ⟨n, fun fuel hfuel => ?_⟩
        rw [Prog.wp_bind]
        refine Prog.wp_mono (hwp fuel hfuel) ?_
        rintro r' u ⟨hfound, rfl⟩
        rw [hcase] at hfound
        obtain rfl : r' = .error errNoEnt := hfound
        exact ⟨hanswer.symm, rfl⟩
      | some found =>
        rw [hcase] at hanswer
        dsimp only at hanswer
        have hafter : ∃ m, ∀ fuel, m ≤ fuel →
            (if remaining.dropWhile isPathSeparator = [] then pure (.ok (found, fat32EntryCluster found 0))
              else if entryAttr found 0 &&& attrDirectory = 0 then pure (.error errNotDir)
              else lookupComponents v fuel rounds (remaining.dropWhile isPathSeparator) (fat32EntryCluster found 0) []
                found : FatProg (Except Int (Mem × Nat))).wp (fatSpec v) (fun r' u => r' = r ∧ u = t) t := by
          split_ifs at hanswer ⊢ with hlast hdir
          · exact ⟨0, fun _ _ => ⟨hanswer.symm, rfl⟩⟩
          · exact ⟨0, fun _ _ => ⟨hanswer.symm, rfl⟩⟩
          · exact ih (hrest q found hwalk hcase) hanswer
        obtain ⟨m, hafter⟩ := hafter
        refine ⟨max n m, fun fuel hfuel => ?_⟩
        rw [Prog.wp_bind]
        refine Prog.wp_mono (hwp fuel (Nat.le_trans (Nat.le_max_left n m) hfuel)) ?_
        rintro r' u ⟨hfound, rfl⟩
        rw [hcase] at hfound
        obtain ⟨index, rfl⟩ := hfound
        exact hafter fuel (Nat.le_trans (Nat.le_max_right n m) hfuel)

/-- **The loop of `fat32_lookup`**, where a walk does not end. -/
lemma lookupComponents_hangs (hv : v.Regular) (hnext : ∀ c, t.next c < 2 ^ 28) {rounds : Nat} (hfs : Shows v fs t)
    (hproper : LookupProper v t rounds path p component) (h : ∀ r, ¬ LookupTo v t rounds path p component entry r)
    (fuel : Nat) : (lookupComponents v fuel rounds path p component entry).run fatMachine fs = none := by
  induction rounds generalizing path p component entry fs with
  | zero => exact absurd rfl (h _)
  | succ rounds ih =>
    have hp := hproper.start
    have hrest := hproper.2
    unfold LookupTo at h
    unfold lookupComponents
    -- either the walk does not end, or something after it does not
    have hfind : ∀ {name : Str}, ¬ WalkEnds v t (FindStops v t name) p →
        (fat32FindEntryInDir v fuel p name).run fatMachine fs = none :=
      fun hends => find_hangs hv hfs hnext hp hends fuel
    cases hnextc : fat32PathNextComponent path with
    | none =>
      rw [hnextc] at h
      dsimp only at h ⊢
      split_ifs at h ⊢ with hempty
      · exact absurd rfl (h _)
      · have hends : ¬ WalkEnds v t (FindStops v t component) p := by
          rintro ⟨q, hwalk⟩
          cases hcase : foundIn v t component q with
          | none => exact h (.error errNoEnt) ⟨q, hwalk, by rw [hcase]⟩
          | some found => exact h (.ok (found, fat32EntryCluster found 0)) ⟨q, hwalk, by rw [hcase]⟩
        rw [Prog.run_bind, hfind hends]
        rfl
    | some next =>
      obtain ⟨component', remaining⟩ := next
      rw [hnextc] at h hrest
      dsimp only at h hrest ⊢
      rw [Prog.run_bind]
      by_cases hends : WalkEnds v t (FindStops v t component') p
      · obtain ⟨q, hwalk⟩ := hends
        cases hrun : (fat32FindEntryInDir v fuel p component').run fatMachine fs with
        | none => rfl
        | some result =>
          obtain ⟨n, hwp⟩ := wp_fat32FindEntryInDir hv hnext hp hwalk
          obtain ⟨r', fs', u, hrun', hshows, hfound, rfl⟩ := hfs.run hv (hwp (max n fuel) (Nat.le_max_left n fuel))
          have hsame : result = (r', fs') := by
            rw [fat32FindEntryInDir_eq] at hrun hrun'
            have hmore := Prog.run_loop_mono hrun (Nat.le_max_right n fuel)
            exact Option.some.inj (hmore.symm.trans hrun')
          subst hsame
          rw [Option.bind_some]
          dsimp only
          cases hcase : foundIn v u component' q with
          | none => exact absurd ⟨q, hwalk, by rw [hcase]⟩ (h (.error errNoEnt))
          | some found =>
            rw [hcase] at hfound
            obtain ⟨index, rfl⟩ := hfound
            dsimp only
            have hgo : ∀ r, ¬ (if remaining.dropWhile isPathSeparator = [] then
                  r = .ok (found, fat32EntryCluster found 0)
                else if entryAttr found 0 &&& attrDirectory = 0 then r = .error errNotDir
                else LookupTo v u rounds (remaining.dropWhile isPathSeparator) (fat32EntryCluster found 0) []
                  found r) := by
              intro r hr
              refine h r ⟨q, hwalk, ?_⟩
              rw [hcase]
              exact hr
            split_ifs at hgo ⊢ with hlast hdir
            · exact absurd rfl (hgo _)
            · exact absurd rfl (hgo _)
            · exact ih hshows (hrest q found hwalk hcase) hgo
      · rw [hfind hends]
        rfl

/-- The lookup of a path, for what the local variables hold before it. -/
def PathTo (v : Volume) (t : View) (component : Str) (entry : Mem) (path : Str) (r : Except Int (Mem × Nat)) : Prop :=
  if path = [slash] ∨ path = [0x5C] then r = .ok (rootDirEntry v, v.rootCluster)
  else LookupTo v t (path.length + 1) path v.rootCluster component entry r

/-- The root, and the entries found on the way. -/
def PathProper (v : Volume) (t : View) (component path : Str) : Prop :=
  Proper v v.rootCluster ∧ LookupProper v t (path.length + 1) path v.rootCluster component

lemma wp_fat32Lookup (hv : v.Regular) (hnext : ∀ c, t.next c < 2 ^ 28) {r : Except Int (Mem × Nat)}
    (hproper : PathProper v t component path) (h : PathTo v t component entry path r) :
    ∃ n, ∀ fuel, n ≤ fuel → (fat32Lookup v fuel component entry path).wp (fatSpec v)
      (fun r' u => r' = r ∧ u = t) t := by
  unfold PathTo at h
  unfold fat32Lookup
  split_ifs at h ⊢ with hroot
  · exact ⟨0, fun _ _ => ⟨h.symm, rfl⟩⟩
  · exact wp_lookupComponents hv hnext hproper.2 h

lemma fat32Lookup_hangs (hv : v.Regular) (hnext : ∀ c, t.next c < 2 ^ 28) (hfs : Shows v fs t)
    (hproper : PathProper v t component path) (h : ∀ r, ¬ PathTo v t component entry path r) (fuel : Nat) :
    (fat32Lookup v fuel component entry path).run fatMachine fs = none := by
  unfold PathTo at h
  unfold fat32Lookup
  split_ifs at h ⊢ with hroot
  · exact absurd rfl (h _)
  · exact lookupComponents_hangs hv hnext hfs hproper.2 h fuel

theorem lookup_terminates_iff (hv : v.Regular) (hnext : ∀ c, t.next c < 2 ^ 28) (hfs : Shows v fs t)
    (hproper : PathProper v t component path) :
    Terminates (fun fuel => fat32Lookup v fuel component entry path) fs ↔ ∃ r, PathTo v t component entry path r := by
  constructor
  · rintro ⟨fuel, r, hrun⟩
    by_contra hends
    dsimp only at hrun
    rw [fat32Lookup_hangs hv hnext hfs hproper (not_exists.mp hends) fuel] at hrun
    cases hrun
  · rintro ⟨r, hr⟩
    obtain ⟨n, hwp⟩ := wp_fat32Lookup hv hnext hproper hr
    exact hfs.terminates hv (hwp n le_rfl)

end Lookup

end AAAos
