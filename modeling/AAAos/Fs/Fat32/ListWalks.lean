import AAAos.Fs.Fat32.DirWalks

/-!
# Where the listings of directories end

`fat32_read_dir_entry` skips clusters up to the index that it is given, and goes on from there until there is an entry.
`fat32_list_dir` goes through the directory twice, up to its end.

**What goes wrong.**  On a directory that leads back into itself, and in which nothing makes them stop, the searches and
the listings go round for ever (`walks_in_ring`).  `fat32_read_dir_entry` goes round for ever also on an index in the
last cluster's worth below 2^32, since the index that it counts up to wraps.

**What is proved.**  For every FAT and every contents of the clusters, exactly when each of the walks ends
(`dirWalks_end_iff`).
-/

namespace AAAos

open View

/-! ## One entry -/

section Read

variable {v : Volume} {t : View} {fs : Fat32Fs} {p q c index : Nat} {cs : List Nat}

/-- `fat32_read_dir_entry` stops in the cluster, from slot `offset` on. -/
def ReadStops (v : Volume) (t : View) (offset c : Nat) : Prop :=
  ScanStops (readVerdict (t.data c)) (entriesPerCluster v - offset) offset

/-- The reading of the entry at `index` ends. -/
def ReadEnds (v : Volume) (t : View) (p index : Nat) : Prop :=
  if 2 ^ 32 ≤ index + entriesPerCluster v then WalkEnds v t (fun _ => False) p
  else ∀ cs q, Chained v t p cs q → cs.length = index / entriesPerCluster v → v.Cluster q →
    ReadStops v t (index % entriesPerCluster v) q ∨ WalkEnds v t (ReadStops v t 0) (t.next q)

/-- A chain can be followed for `n` clusters, or it ends before. -/
lemma exists_chained (v : Volume) (t : View) (p n : Nat) :
    ∃ cs q, Chained v t p cs q ∧ (cs.length = n ∨ cs.length < n ∧ ¬ v.Cluster q) := by
  induction n generalizing p with
  | zero => exact ⟨[], p, ⟨rfl, fun _ h => absurd h List.not_mem_nil⟩, .inl rfl⟩
  | succ n ih =>
    by_cases hc : v.Cluster p
    · obtain ⟨cs, q, hcs, hlen⟩ := ih (t.next p)
      refine ⟨p :: cs, q, ⟨⟨rfl, hcs.seg⟩, fun c hmem => ?_⟩, ?_⟩
      · rcases List.mem_cons.mp hmem with rfl | hmem
        · exact hc
        · exact hcs.clusters c hmem
      · rw [List.length_cons]
        exact hlen.imp (fun h => by omega) fun h => ⟨by omega, h.2⟩
    · exact ⟨[], p, ⟨rfl, fun _ h => absurd h List.not_mem_nil⟩, .inr ⟨Nat.succ_pos n, hc⟩⟩

lemma View.Chained.end_eq {cs' : List Nat} {q' : Nat} (h : Chained v t p cs q) (h' : Chained v t p cs' q')
    (hlen : cs.length = cs'.length) : q = q' := by
  induction cs generalizing p cs' with
  | nil =>
    obtain rfl := List.length_eq_zero_iff.mp hlen.symm
    exact h.seg.symm.trans h'.seg
  | cons c cs ih =>
    cases cs' with
    | nil => cases hlen
    | cons c' cs' =>
      obtain rfl := h.head
      obtain rfl := h'.head
      exact ih h.tail h'.tail (Nat.succ.inj hlen)

lemma entries_pos (hv : v.Regular) : 0 < entriesPerCluster v := by
  have hpos := hv.apart.sectors
  rw [entriesPerCluster, hv.size, direntSize]
  omega

lemma readDirSkip_goesOn (hv : v.Regular) (hnext : ∀ c, t.next c < 2 ^ 28) {P : Nat → Prop}
    (hP : ∀ k, P k → u32 (k + entriesPerCluster v) ≤ index ∧ P (u32 (k + entriesPerCluster v))) :
    GoesOn v t (fun _ => False) (readDirSkip v index) Prod.fst (fun s => Proper v s.1 ∧ P s.2) := by
  rintro ⟨c, k⟩ ⟨-, hk⟩ hc -
  obtain ⟨hle, hthen⟩ := hP k hk
  unfold readDirSkip
  rw [if_pos hle, if_pos (hv.valid hc), Prog.wp_bind, wp_fat32NextCluster hv hc]
  exact ⟨rfl, _, rfl, rfl, proper_next hv (hnext c), hthen⟩

lemma readDirSkip_wraps (hdvd : entriesPerCluster v ∣ 2 ^ 32) (hlast : 2 ^ 32 ≤ index + entriesPerCluster v) {k : Nat}
    (hk : entriesPerCluster v ∣ k) :
    u32 (k + entriesPerCluster v) ≤ index ∧ entriesPerCluster v ∣ u32 (k + entriesPerCluster v) := by
  have hsum : entriesPerCluster v ∣ u32 (k + entriesPerCluster v) :=
    (Nat.dvd_mod_iff hdvd).mpr ((Nat.dvd_add_right hk).mpr (Nat.dvd_refl _))
  refine ⟨?_, hsum⟩
  -- a multiple below 2^32 is at most one cluster's worth below it
  have hlt : u32 (k + entriesPerCluster v) < 2 ^ 32 := Nat.mod_lt _ (by decide)
  obtain ⟨a, ha⟩ := hsum
  obtain ⟨b, hb⟩ := hdvd
  rw [ha] at hlt ⊢
  rw [hb] at hlt hlast
  have hab : a < b := Nat.lt_of_mul_lt_mul_left hlt
  have hle := Nat.mul_le_mul_left (entriesPerCluster v) (show a + 1 ≤ b from hab)
  rw [Nat.mul_succ] at hle
  omega

lemma wp_readDirSkip (hv : v.Regular) (hnext : ∀ c, t.next c < 2 ^ 28) (hp : Proper v p)
    (hindex : index + entriesPerCluster v < 2 ^ 32) (h : Chained v t p cs q)
    (hlen : cs.length = index / entriesPerCluster v ∨ cs.length < index / entriesPerCluster v ∧ ¬ v.Cluster q)
    {fuel : Nat} (hfuel : cs.length < fuel) :
    (Prog.loop (readDirSkip v index) fuel (p, 0)).wp (fatSpec v)
      (fun r u => u = t ∧ r = if cs.length = index / entriesPerCluster v then some (q, index % entriesPerCluster v)
        else none) t := by
  have hpos := entries_pos hv
  -- after `j` rounds the clusters `cs.drop j` are left
  suffices hgen : ∀ (ds : List Nat) (j p fuel : Nat), Chained v t p ds q → Proper v p →
      j + ds.length = cs.length → ds.length < fuel →
      (Prog.loop (readDirSkip v index) fuel (p, j * entriesPerCluster v)).wp (fatSpec v)
        (fun r u => u = t ∧ r = if cs.length = index / entriesPerCluster v then some (q, index % entriesPerCluster v)
          else none) t by
    have hstart := hgen cs 0 p fuel h hp (Nat.zero_add _) hfuel
    rwa [Nat.zero_mul] at hstart
  intro ds
  have hdiv := Nat.div_add_mod index (entriesPerCluster v)
  have hmod := Nat.mod_lt index hpos
  rw [Nat.mul_comm] at hdiv
  have hreach : ∀ j, j < index / entriesPerCluster v →
      u32 (j * entriesPerCluster v + entriesPerCluster v) = (j + 1) * entriesPerCluster v ∧
        (j + 1) * entriesPerCluster v ≤ index := by
    intro j hj
    have hle := Nat.mul_le_mul_right (entriesPerCluster v) (show j + 1 ≤ index / entriesPerCluster v from hj)
    rw [show j * entriesPerCluster v + entriesPerCluster v = (j + 1) * entriesPerCluster v from
      (Nat.succ_mul j (entriesPerCluster v)).symm]
    exact ⟨Nat.mod_eq_of_lt (by omega), by omega⟩
  induction ds with
  | nil =>
    intro j p fuel hseg hp hj hfuel
    obtain ⟨fuel, rfl⟩ : ∃ n, fuel = n + 1 := ⟨fuel - 1, by omega⟩
    obtain rfl : p = q := hseg.seg
    obtain rfl : j = cs.length := by simpa using hj
    rw [Prog.wp_loop_succ]
    unfold readDirSkip
    by_cases hk : cs.length = index / entriesPerCluster v
    · have hstop : ¬ u32 (cs.length * entriesPerCluster v + entriesPerCluster v) ≤ index := by
        have hsum : u32 (cs.length * entriesPerCluster v + entriesPerCluster v) =
            cs.length * entriesPerCluster v + entriesPerCluster v := Nat.mod_eq_of_lt (by rw [hk]; omega)
        rw [hsum, hk]
        omega
      have hoffset : u32 (index + 2 ^ 32 - cs.length * entriesPerCluster v) = index % entriesPerCluster v := by
        unfold u32
        rw [hk]
        omega
      rw [if_neg hstop, if_pos hk, hoffset]
      exact ⟨rfl, rfl⟩
    · obtain ⟨hshort, hout⟩ := hlen.resolve_left hk
      obtain ⟨hsum, hle⟩ := hreach cs.length hshort
      rw [if_pos (hsum ▸ hle), if_neg (hp.invalid hout), if_neg hk]
      exact ⟨rfl, rfl⟩
  | cons c ds ih =>
    intro j p fuel hseg hp hj hfuel
    obtain ⟨fuel, rfl⟩ : ∃ n, fuel = n + 1 := ⟨fuel - 1, by omega⟩
    obtain rfl := hseg.head
    rw [List.length_cons] at hj hfuel
    have hshort : j < index / entriesPerCluster v := by
      omega
    obtain ⟨hsum, hle⟩ := hreach j hshort
    rw [Prog.wp_loop_succ]
    unfold readDirSkip
    rw [if_pos (hsum ▸ hle), if_pos (hv.valid hseg.cluster), Prog.wp_bind, wp_fat32NextCluster hv hseg.cluster, hsum]
    exact ih (j + 1) (t.next p) fuel hseg.tail (proper_next hv (hnext p)) (by omega) (by omega)

end Read

/-! ## The slots of a directory -/

/-- `n` slots of a cluster, from slot `i` on. -/
def slotsFrom (buf : Mem) (n i : Nat) : List Mem := (List.range' i n).map (slotAt buf)

/-- The slots of a directory, one cluster after another. -/
def View.slots (v : Volume) (t : View) (cs : List Nat) : List Mem :=
  cs.flatMap fun c => slotsFrom (t.data c) (entriesPerCluster v) 0

/-- A reading of the directory stops at the slot. -/
def SlotStops (slot : Mem) : Prop := SlotEnd slot ∨ ¬ SlotSkipped slot

/-- What `fat32_read_dir_entry` answers with, from the first of these slots on. -/
def readFirst : List Mem → Except Int (Mem × Str)
  | [] => .error errNoEnt
  | slot :: rest =>
    if SlotEnd slot then .error errNoEnt
    else if SlotSkipped slot then readFirst rest
    else .ok (slot, fat32FormatShortName slot 0)

section Slots

variable {v : Volume} {t : View} {fs : Fat32Fs} {p q c offset : Nat} {ds : List Nat} {buf : Mem}

lemma slotsFrom_succ (buf : Mem) (n i : Nat) : slotsFrom buf (n + 1) i = slotAt buf i :: slotsFrom buf n (i + 1) := rfl

@[simp] lemma length_slotsFrom (buf : Mem) (n i : Nat) : (slotsFrom buf n i).length = n := by
  simp [slotsFrom]

lemma drop_slotsFrom (buf : Mem) (n i k : Nat) : (slotsFrom buf n i).drop k = slotsFrom buf (n - k) (i + k) := by
  induction k generalizing n i with
  | zero => rfl
  | succ k ih =>
    cases n with
    | zero => rw [Nat.zero_sub, show slotsFrom buf 0 i = [] from rfl]; rfl
    | succ n =>
      rw [slotsFrom_succ, List.drop_succ_cons, ih, Nat.succ_sub_succ, Nat.add_right_comm, Nat.add_assoc]

lemma slots_cons (v : Volume) (t : View) (c : Nat) (ds : List Nat) :
    t.slots v (c :: ds) = slotsFrom (t.data c) (entriesPerCluster v) 0 ++ t.slots v ds := List.flatMap_cons

lemma drop_slots_cons (hoffset : offset ≤ entriesPerCluster v) : (t.slots v (c :: ds)).drop offset =
    slotsFrom (t.data c) (entriesPerCluster v - offset) offset ++ t.slots v ds := by
  rw [slots_cons, List.drop_append_of_le_length (by rwa [length_slotsFrom]), drop_slotsFrom, Nat.zero_add]

lemma readVerdict_ne_none (buf : Mem) (i : Nat) : readVerdict buf i ≠ none ↔ SlotStops (slotAt buf i) := by
  unfold readVerdict SlotStops
  split_ifs with hend hskip
  · exact iff_of_true (Option.some_ne_none _) (.inl hend)
  · exact iff_of_false (fun h => h rfl) (fun h => h.elim hend fun h => h hskip)
  · exact iff_of_true (Option.some_ne_none _) (.inr hskip)

lemma scanStops_iff (buf : Mem) (n i : Nat) :
    ScanStops (readVerdict buf) n i ↔ ∃ slot ∈ slotsFrom buf n i, SlotStops slot := by
  constructor
  · rintro ⟨j, hij, hj, hne⟩
    exact ⟨slotAt buf j, List.mem_map.mpr ⟨j, List.mem_range'_1.mpr ⟨hij, hj⟩, rfl⟩, (readVerdict_ne_none buf j).mp hne⟩
  · rintro ⟨slot, hmem, hstops⟩
    obtain ⟨j, hj, rfl⟩ := List.mem_map.mp hmem
    rw [List.mem_range'_1] at hj
    exact ⟨j, hj.1, hj.2, (readVerdict_ne_none buf j).mpr hstops⟩

/-- The scan of a cluster looks for the first slot that does not have to be passed over. -/
lemma readFirst_append (buf : Mem) (n i : Nat) (rest : List Mem) : readFirst (slotsFrom buf n i ++ rest) =
      match scanDir (readVerdict buf) n i with
      | .found j => .ok (slotAt buf j, fat32FormatShortName (slotAt buf j) 0)
      | .ended => .error errNoEnt
      | .exhausted => readFirst rest := by
  induction n generalizing i with
  | zero => rfl
  | succ n ih =>
    rw [slotsFrom_succ, List.cons_append, readFirst, scanDir]
    unfold readVerdict
    split_ifs with hend hskip
    · rfl
    · exact ih (i + 1)
    · rfl

/-- **Reading on** from a slot of a cluster: the first entry behind it. -/
lemma wp_readDirRest (hv : v.Regular) (h : Chained v t p ds q) (hproper : Proper v q) (hne : ds ≠ [])
    (hoffset : offset ≤ entriesPerCluster v)
    (hend : ¬ v.Cluster q ∨ ∃ slot ∈ (t.slots v ds).drop offset, SlotStops slot) {fuel : Nat}
    (hfuel : ds.length ≤ fuel) : (Prog.loop (readDirRound v) fuel (p, offset)).wp (fatSpec v)
      (fun r u => u = t ∧ r = readFirst ((t.slots v ds).drop offset)) t := by
  induction ds generalizing p offset fuel with
  | nil => exact absurd rfl hne
  | cons c ds ih =>
    obtain ⟨fuel, rfl⟩ : ∃ n, fuel = n + 1 := ⟨fuel - 1, by rw [List.length_cons] at hfuel; omega⟩
    obtain rfl := h.head
    have hc := h.cluster
    rw [drop_slots_cons hoffset] at hend ⊢
    have hfirst := readFirst_append (t.data p) (entriesPerCluster v - offset) offset (t.slots v ds)
    have hstops := scanDir_of_stops (readVerdict_ne (t.data p)) (n := entriesPerCluster v - offset) (i := offset)
    rw [Prog.wp_loop_succ]
    unfold readDirRound
    rw [if_pos (hv.valid hc), Prog.wp_bind, FatProg.wp_readCluster]
    refine ⟨hc, ?_⟩
    dsimp only
    cases hcase : scanDir (readVerdict (t.data p)) (entriesPerCluster v - offset) offset with
    | found j | ended =>
      rw [hcase] at hfirst
      exact ⟨rfl, hfirst.symm⟩
    | exhausted =>
      rw [hcase] at hfirst hstops
      have hnone := mt hstops.mp (not_not.mpr rfl)
      rw [scanStops_iff] at hnone
      rw [hfirst]
      rw [Prog.wp_bind, wp_fat32NextCluster hv hc]
      cases ds with
      | nil =>
        have hq : t.next p = q := h.tail.seg
        have hout : ¬ v.Cluster q := hend.resolve_right fun ⟨slot, hmem, hslot⟩ =>
          hnone ⟨slot, by simpa [View.slots] using hmem, hslot⟩
        rw [hq, if_neg (hproper.invalid hout)]
        exact ⟨rfl, rfl⟩
      | cons d ds =>
        have hd := h.tail.head
        rw [hd, if_pos (hv.valid h.tail.cluster)]
        have htail : Chained v t d (d :: ds) q := hd ▸ h.tail
        refine ih htail (List.cons_ne_nil d ds) (Nat.zero_le _) ?_ (Nat.le_of_succ_le_succ hfuel)
        refine hend.imp_right fun ⟨slot, hmem, hslot⟩ => ⟨slot, ?_, hslot⟩
        exact (List.mem_append.mp hmem).resolve_left fun hmem => hnone ⟨slot, hmem, hslot⟩

lemma readDirRest_hangs (hv : v.Regular) (hnext : ∀ c, t.next c < 2 ^ 28) (hfs : Shows v fs t) (hc : v.Cluster p)
    (hstops : ¬ ReadStops v t offset p) (hends : ¬ WalkEnds v t (ReadStops v t 0) (t.next p)) (fuel : Nat) :
    (Prog.loop (readDirRound v) fuel (p, offset)).run fatMachine fs = none := by
  refine Prog.run_loop_hangs (J := fun s fs => Shows v fs t ∧ v.Cluster s.1 ∧ ¬ ReadStops v t s.2 s.1 ∧
    ¬ WalkEnds v t (ReadStops v t 0) (t.next s.1)) ?_ fuel ⟨hfs, hc, hstops, hends⟩
  rintro ⟨c, k⟩ fs ⟨hfs, hc, hstops, hends⟩
  obtain ⟨hc', hstops', hends'⟩ := not_walkEnds hends
  have hscan := not_not.mp (mt (scanDir_of_stops (readVerdict_ne (t.data c))).mpr hstops)
  have hround : (readDirRound v (c, k)).wp (fatSpec v) (fun r u => u = t ∧ r = .inl (t.next c, 0)) t := by
    unfold readDirRound
    rw [if_pos (hv.valid hc), Prog.wp_bind, FatProg.wp_readCluster]
    refine ⟨hc, ?_⟩
    dsimp only
    rw [hscan]
    rw [Prog.wp_bind, wp_fat32NextCluster hv hc, if_pos (hv.valid hc')]
    exact ⟨rfl, rfl⟩
  obtain ⟨r, fs', u, hrun, hshows, rfl, rfl⟩ := hfs.run hv hround
  exact ⟨_, fs', hrun, hshows, hc', hstops', hends'⟩

lemma exists_slots (hc : v.Cluster p) (hoffset : offset ≤ entriesPerCluster v)
    (h : ReadStops v t offset p ∨ WalkEnds v t (ReadStops v t 0) (t.next p)) :
    ∃ ds q, Chained v t p ds q ∧ ds ≠ [] ∧ (¬ v.Cluster q ∨ ∃ slot ∈ (t.slots v ds).drop offset, SlotStops slot) := by
  have hcons : ∀ {ds q}, Chained v t (t.next p) ds q → Chained v t p (p :: ds) q := fun h =>
    ⟨⟨rfl, h.seg⟩, fun c hmem => (List.mem_cons.mp hmem).elim (fun hcp => hcp ▸ hc) (h.clusters c)⟩
  rcases h with hstops | ⟨q, cs, hcs, -, hq⟩
  · refine ⟨[p], t.next p, hcons ⟨rfl, fun _ h => absurd h List.not_mem_nil⟩, List.cons_ne_nil _ _, .inr ?_⟩
    obtain ⟨slot, hmem, hslot⟩ := (scanStops_iff _ _ _).mp hstops
    rw [drop_slots_cons hoffset]
    exact ⟨slot, List.mem_append_left _ hmem, hslot⟩
  · by_cases hcq : v.Cluster q
    · refine ⟨p :: (cs ++ [q]), t.next q, hcons ⟨Seg.append.mpr ⟨q, hcs.seg, rfl, rfl⟩, fun c hmem => ?_⟩,
        List.cons_ne_nil _ _, .inr ?_⟩
      · rcases List.mem_append.mp hmem with hmem | hmem
        · exact hcs.clusters c hmem
        · exact List.mem_singleton.mp hmem ▸ hcq
      · obtain ⟨slot, hmem, hslot⟩ := (scanStops_iff _ _ _).mp (hq hcq)
        rw [drop_slots_cons hoffset]
        refine ⟨slot, List.mem_append_right _ ?_, hslot⟩
        exact List.mem_flatMap.mpr ⟨q, List.mem_append_right _ List.mem_cons_self, hmem⟩
    · exact ⟨p :: cs, q, hcons hcs, List.cons_ne_nil _ _, .inl hcq⟩

lemma View.Chained.proper_of_ne (hv : v.Regular) (hnext : ∀ c, t.next c < 2 ^ 28) (h : Chained v t p ds q)
    (hne : ds ≠ []) :
    Proper v q := by
  cases ds with
  | nil => exact absurd rfl hne
  | cons c ds => exact Chained.proper hv hnext (proper_next hv (hnext c)) h.tail

lemma fat32ReadDirEntry_eq (v : Volume) (fuel p index : Nat) : fat32ReadDirEntry v fuel p index =
    Prog.loop (readDirSkip v index) fuel (p, 0) >>= fun s =>
      match s with
      | none => pure (.error errNoEnt)
      | some s => Prog.loop (readDirRound v) fuel s := rfl

lemma read_wrapping_terminates_iff (hv : v.Regular) (hnext : ∀ c, t.next c < 2 ^ 28) (hfs : Shows v fs t)
    (hp : Proper v p) (hdvd : entriesPerCluster v ∣ 2 ^ 32) {index : Nat} (hlast : 2 ^ 32 ≤ index + entriesPerCluster v) :
    Terminates (fun fuel => fat32ReadDirEntry v fuel p index) fs ↔ WalkEnds v t (fun _ => False) p := by
  have hgo := readDirSkip_goesOn hv hnext (P := fun k => entriesPerCluster v ∣ k)
    fun k hk => readDirSkip_wraps hdvd hlast hk
  constructor
  · rintro ⟨fuel, r, hrun⟩
    by_contra hends
    dsimp only at hrun
    rw [fat32ReadDirEntry_eq, Prog.run_bind,
      walk_hangs hv hfs hgo (b := (p, 0)) ⟨hp, Nat.dvd_zero _⟩ hends fuel] at hrun
    cases hrun
  · rintro ⟨q, cs, hcs, hpass, hq⟩
    have hwp : (fat32ReadDirEntry v (cs.length + 1) p index).wp (fatSpec v) (fun _ _ => True) t := by
      rw [fat32ReadDirEntry_eq, Prog.wp_bind]
      refine wp_walkTo hgo (b := (p, 0)) ⟨hp, Nat.dvd_zero _⟩ hcs hpass (Nat.lt_succ_self _) ?_
      rintro ⟨q', k⟩ rfl ⟨hp', hk⟩
      unfold readDirSkip
      rw [if_pos (readDirSkip_wraps hdvd hlast hk).1, if_neg (hp'.invalid hq)]
      exact ⟨none, rfl, trivial⟩
    exact hfs.terminates hv hwp

/-- An index in the cluster `q` of the chain. -/
lemma read_reached_terminates_iff (hv : v.Regular) (hnext : ∀ c, t.next c < 2 ^ 28) (hfs : Shows v fs t)
    (hp : Proper v p) {index : Nat} (hindex : index + entriesPerCluster v < 2 ^ 32) (hcs : Chained v t p cs q)
    (hk : cs.length = index / entriesPerCluster v) : Terminates (fun fuel => fat32ReadDirEntry v fuel p index) fs ↔
      (v.Cluster q → ReadStops v t (index % entriesPerCluster v) q ∨ WalkEnds v t (ReadStops v t 0) (t.next q)) := by
  have hoffset := (Nat.mod_lt index (entries_pos hv)).le
  have hskip := fun fuel (hfuel : cs.length < fuel) => wp_readDirSkip hv hnext hp hindex hcs (.inl hk) hfuel
  constructor
  · rintro ⟨fuel, r, hrun⟩ hc
    by_contra hends
    obtain ⟨hstops, hwalk⟩ := not_or.mp hends
    dsimp only at hrun
    rw [fat32ReadDirEntry_eq, Prog.run_bind] at hrun
    obtain ⟨⟨s, fs₁⟩, hloop, hrest⟩ := Option.bind_eq_some_iff.mp hrun
    obtain ⟨s', fs', u, hrun', hshows, rfl, hs⟩ := hfs.run hv (hskip (max (cs.length + 1) fuel) (by omega))
    have hmore := Prog.run_loop_mono hloop (Nat.le_max_right (cs.length + 1) fuel)
    obtain ⟨rfl, rfl⟩ := Prod.mk.inj (Option.some.inj (hmore.symm.trans hrun'))
    rw [if_pos hk] at hs
    subst hs
    rw [readDirRest_hangs hv hnext hshows hc hstops hwalk fuel] at hrest
    cases hrest
  · intro h
    have hwp : ∃ fuel, (fat32ReadDirEntry v fuel p index).wp (fatSpec v) (fun _ _ => True) t := by
      by_cases hc : v.Cluster q
      · obtain ⟨ds, q', hds, hne, hend⟩ := exists_slots hc hoffset (h hc)
        refine ⟨cs.length + 1 + ds.length, ?_⟩
        rw [fat32ReadDirEntry_eq, Prog.wp_bind]
        refine Prog.wp_mono (hskip _ (by omega)) ?_
        rintro s u ⟨rfl, rfl⟩
        rw [if_pos hk]
        exact Prog.wp_mono (wp_readDirRest hv hds (Chained.proper_of_ne hv hnext hds hne) hne hoffset hend
          (Nat.le_add_left _ _)) fun _ _ _ => trivial
      · refine ⟨cs.length + 1, ?_⟩
        rw [fat32ReadDirEntry_eq, Prog.wp_bind]
        refine Prog.wp_mono (hskip _ (Nat.lt_succ_self _)) ?_
        rintro s u ⟨rfl, rfl⟩
        rw [if_pos hk]
        rw [Prog.wp_loop_succ]
        unfold readDirRound
        rw [if_neg ((Chained.proper hv hnext hp hcs).invalid hc)]
        exact trivial
    obtain ⟨fuel, hwp⟩ := hwp
    exact hfs.terminates hv hwp

/-- **The reading of one entry** comes to an end, exactly if its walk does. -/
theorem read_terminates_iff (hv : v.Regular) (hnext : ∀ c, t.next c < 2 ^ 28) (hfs : Shows v fs t) (hp : Proper v p)
    (hdvd : entriesPerCluster v ∣ 2 ^ 32) {index : Nat} :
    Terminates (fun fuel => fat32ReadDirEntry v fuel p index) fs ↔ ReadEnds v t p index := by
  unfold ReadEnds
  split_ifs with hlast
  · exact read_wrapping_terminates_iff hv hnext hfs hp hdvd hlast
  · obtain ⟨cs, q, hcs, hlen⟩ := exists_chained v t p (index / entriesPerCluster v)
    by_cases hk : cs.length = index / entriesPerCluster v
    · rw [read_reached_terminates_iff hv hnext hfs hp (Nat.not_le.mp hlast) hcs hk]
      constructor
      · intro h ds q' hds hlen' hc
        obtain rfl := Chained.end_eq hcs hds (hk.trans hlen'.symm)
        exact h hc
      · intro h hc
        exact h cs q hcs hk hc
    · -- the chain ends before the index
      obtain ⟨hshort, hout⟩ := hlen.resolve_left hk
      refine iff_of_true ?_ fun ds q' hds hlen' _ => ?_
      · have hwp : (fat32ReadDirEntry v (cs.length + 1) p index).wp (fatSpec v) (fun _ _ => True) t := by
          rw [fat32ReadDirEntry_eq, Prog.wp_bind]
          refine Prog.wp_mono (wp_readDirSkip hv hnext hp (Nat.not_le.mp hlast) hcs hlen (Nat.lt_succ_self _)) ?_
          rintro s u ⟨rfl, rfl⟩
          rw [if_neg hk]
          exact trivial
        exact hfs.terminates hv hwp
      · exact absurd (hds.clusters q (Seg.end_mem hcs.seg hds.seg (by omega))) hout

end Slots

/-! ## All entries -/

section List

variable {v : Volume} {t : View} {fs : Fat32Fs} {p q c : Nat} {cs : List Nat}

/-- The end of the directory is in the cluster. -/
def ListStops (v : Volume) (t : View) (c : Nat) : Prop :=
  (liveEntries (t.data c) (entriesPerCluster v) 0).2 = true

lemma countRound_goesOn (hv : v.Regular) (hnext : ∀ c, t.next c < 2 ^ 28) :
    GoesOn v t (ListStops v t) (countRound v) Prod.fst (fun s => Proper v s.1) := by
  rintro ⟨c, count⟩ - hc hstops
  unfold ListStops at hstops
  unfold countRound
  rw [if_pos (hv.valid hc), Prog.wp_bind, FatProg.wp_readCluster]
  refine ⟨hc, ?_⟩
  dsimp only
  rw [if_neg hstops, Prog.wp_bind, wp_fat32NextCluster hv hc]
  exact ⟨rfl, _, rfl, rfl, proper_next hv (hnext c)⟩

lemma wp_copy_full (v : Volume) {count : Nat} {array : List Mem} (h : count ≤ array.length) {fuel : Nat}
    (hfuel : 0 < fuel) :
    (Prog.loop (copyRound v count) fuel (p, array)).wp (fatSpec v) (fun r u => u = t ∧ r = some array) t := by
  obtain ⟨fuel, rfl⟩ : ∃ k, fuel = k + 1 := ⟨fuel - 1, by omega⟩
  rw [Prog.wp_loop_succ]
  unfold copyRound
  rw [if_neg (fun hgoes => absurd hgoes.2 (Nat.not_lt.mpr h))]
  exact ⟨rfl, rfl⟩

lemma wp_copy (hv : v.Regular) (hnext : ∀ c, t.next c < 2 ^ 28) {count : Nat} {array : List Mem} (hp : Proper v p)
    (h : Chained v t p cs q) (hq : v.Cluster q → ListStops v t q) {fuel : Nat} (hfuel : cs.length + 2 ≤ fuel) :
    (Prog.loop (copyRound v count) fuel (p, array)).wp (fatSpec v) (fun _ u => u = t) t := by
  induction cs generalizing p array fuel with
  | nil =>
    obtain ⟨fuel, rfl⟩ : ∃ n, fuel = n + 2 := ⟨fuel - 2, by omega⟩
    obtain rfl : p = q := h.seg
    by_cases hroom : array.length < count
    · rw [Prog.wp_loop_succ]
      unfold copyRound
      by_cases hc : v.Cluster p
      · rw [if_pos ⟨hv.valid hc, hroom⟩, Prog.wp_bind, FatProg.wp_readCluster]
        refine ⟨hc, ?_⟩
        dsimp only
        split_ifs with hend
        · exact rfl
        · -- the array is full
          rw [Prog.wp_bind, wp_fat32NextCluster hv hc, Prog.wp_pure]
          have hfull : count ≤ (array ++ (liveEntries (t.data p) (entriesPerCluster v) 0).1.take
              (count - array.length)).length := Nat.not_lt.mp fun hlt => hend ⟨hq hc, hlt⟩
          exact Prog.wp_mono (wp_copy_full v hfull (Nat.succ_pos fuel)) fun _ _ h => h.1
      · rw [if_neg (fun hgoes => hp.invalid hc hgoes.1)]
        exact rfl
    · exact Prog.wp_mono (wp_copy_full v (Nat.not_lt.mp hroom) (Nat.succ_pos _)) fun _ _ h => h.1
  | cons c cs ih =>
    obtain ⟨fuel, rfl⟩ : ∃ n, fuel = n + 1 := ⟨fuel - 1, by omega⟩
    obtain rfl := h.head
    by_cases hroom : array.length < count
    · rw [Prog.wp_loop_succ]
      unfold copyRound
      rw [if_pos ⟨hv.valid h.cluster, hroom⟩, Prog.wp_bind, FatProg.wp_readCluster]
      refine ⟨h.cluster, ?_⟩
      dsimp only
      split_ifs with hend
      · exact rfl
      · rw [Prog.wp_bind, wp_fat32NextCluster hv h.cluster]
        exact ih (proper_next hv (hnext p)) h.tail (Nat.le_of_succ_le_succ hfuel)
    · exact Prog.wp_mono (wp_copy_full v (Nat.not_lt.mp hroom) (Nat.succ_pos fuel)) fun _ _ h => h.1

lemma listCluster_eq (v : Volume) (fuel : Nat) (pages : Nat → Bool) (p : Nat) : listCluster v fuel pages p =
    Prog.loop (countRound v) fuel (p, 0) >>= fun r =>
      match r with
      | none => pure none
      | some count => if pages (u32 (count + 1)) then Prog.loop (copyRound v count) fuel (p, []) else pure none := rfl

lemma wp_listCluster (hv : v.Regular) (hnext : ∀ c, t.next c < 2 ^ 28) (hp : Proper v p) (pages : Nat → Bool)
    (h : WalkEnds v t (ListStops v t) p) :
    ∃ n, ∀ fuel, n ≤ fuel → (listCluster v fuel pages p).wp (fatSpec v) (fun _ u => u = t) t := by
  obtain ⟨q, cs, hcs, hpass, hq⟩ := h
  refine ⟨cs.length + 2, fun fuel hfuel => ?_⟩
  rw [listCluster_eq, Prog.wp_bind]
  refine wp_walkTo (countRound_goesOn hv hnext) (b := (p, 0)) hp hcs hpass (by omega) ?_
  rintro ⟨q', count⟩ rfl hp'
  have hafter : ∀ count, (if pages (u32 (count + 1)) then Prog.loop (copyRound v count) fuel (p, [])
      else pure none : FatProg (Option (List Mem))).wp (fatSpec v) (fun _ u => u = t) t := by
    intro count
    split_ifs with hpages
    · exact wp_copy hv hnext hp hcs hq hfuel
    · exact rfl
  unfold countRound
  by_cases hc : v.Cluster q'
  · rw [if_pos (hv.valid hc), Prog.wp_bind, FatProg.wp_readCluster]
    refine ⟨hc, ?_⟩
    dsimp only
    have hend : (liveEntries (t.data q') (entriesPerCluster v) 0).2 = true := hq hc
    rw [if_pos hend]
    refine ⟨_, rfl, ?_⟩
    exact hafter _
  · rw [if_neg (hp'.invalid hc)]
    refine ⟨_, rfl, ?_⟩
    exact hafter _

lemma listCluster_hangs (hv : v.Regular) (hnext : ∀ c, t.next c < 2 ^ 28) (hfs : Shows v fs t) (hp : Proper v p)
    (pages : Nat → Bool) (h : ¬ WalkEnds v t (ListStops v t) p) (fuel : Nat) :
    (listCluster v fuel pages p).run fatMachine fs = none := by
  rw [listCluster_eq, Prog.run_bind, walk_hangs hv hfs (countRound_goesOn hv hnext) (b := (p, 0)) hp h fuel]
  rfl

lemma LookupTo.proper {rounds : Nat} {path component : Str} {entry found : Mem} {r : Except Int (Mem × Nat)}
    (hproper : LookupProper v t rounds path p component) (h : LookupTo v t rounds path p component entry r)
    (hr : r = .ok (found, c)) : Proper v c := by
  subst hr
  induction rounds generalizing path p component entry with
  | zero =>
    obtain ⟨-, rfl⟩ := Prod.mk.inj (Except.ok.inj h)
    exact hproper
  | succ rounds ih =>
    have hstart := hproper.start
    have hrest := hproper.2
    unfold LookupTo at h
    cases hnextc : fat32PathNextComponent path with
    | none =>
      rw [hnextc] at h hrest
      dsimp only at h hrest
      split_ifs at h with hempty
      · obtain ⟨-, rfl⟩ := Prod.mk.inj (Except.ok.inj h)
        exact hstart
      · obtain ⟨q, hwalk, hanswer⟩ := h
        cases hcase : foundIn v t component q with
        | none =>
          rw [hcase] at hanswer
          cases hanswer
        | some e =>
          rw [hcase] at hanswer
          obtain ⟨-, rfl⟩ := Prod.mk.inj (Except.ok.inj hanswer)
          exact hrest hempty q e hwalk hcase
    | some next =>
      obtain ⟨component', remaining⟩ := next
      rw [hnextc] at h hrest
      obtain ⟨q, hwalk, hanswer⟩ := h
      cases hcase : foundIn v t component' q with
      | none =>
        rw [hcase] at hanswer
        cases hanswer
      | some e =>
        rw [hcase] at hanswer
        dsimp only at hanswer
        have hthen := hrest q e hwalk hcase
        split_ifs at hanswer with hlast hdir
        · obtain ⟨-, rfl⟩ := Prod.mk.inj (Except.ok.inj hanswer)
          exact hthen.start
        · exact ih hthen hanswer

lemma PathTo.proper {path component : Str} {entry found : Mem} (hproper : PathProper v t component path)
    (h : PathTo v t component entry path (.ok (found, c))) : Proper v c := by
  unfold PathTo at h
  split_ifs at h with hroot
  · obtain ⟨-, rfl⟩ := Prod.mk.inj (Except.ok.inj h)
    exact hproper.1
  · exact LookupTo.proper hproper.2 h rfl

lemma run_lookupComponents_mono {fuel fuel' rounds : Nat} {path component : Str} {entry : Mem}
    {x : Except Int (Mem × Nat) × Fat32Fs} (hle : fuel ≤ fuel')
    (h : (lookupComponents v fuel rounds path p component entry).run fatMachine fs = some x) :
    (lookupComponents v fuel' rounds path p component entry).run fatMachine fs = some x := by
  induction rounds generalizing path p component entry fs with
  | zero => exact h
  | succ rounds ih =>
    unfold lookupComponents at h ⊢
    cases hnextc : fat32PathNextComponent path with
    | none =>
      rw [hnextc] at h
      split_ifs at h ⊢ with hempty
      · exact h
      · exact Prog.run_bind_mono (fun x hx => Prog.run_loop_mono hx hle) (fun _ _ hy => hy) h
    | some next =>
      rw [hnextc] at h
      refine Prog.run_bind_mono (fun x hx => Prog.run_loop_mono hx hle) (fun answer fs₁ hy => ?_) h
      cases answer with
      | error e => exact hy
      | ok found =>
        dsimp only at hy ⊢
        split_ifs at hy ⊢ with hlast hdir
        · exact hy
        · exact hy
        · exact ih hy

lemma run_fat32Lookup_mono {fuel fuel' : Nat} {path component : Str} {entry : Mem}
    {x : Except Int (Mem × Nat) × Fat32Fs} (h : (fat32Lookup v fuel component entry path).run fatMachine fs = some x)
    (hle : fuel ≤ fuel') : (fat32Lookup v fuel' component entry path).run fatMachine fs = some x := by
  unfold fat32Lookup at h ⊢
  split_ifs at h ⊢ with hroot
  · exact h
  · exact run_lookupComponents_mono hle h

/-- The listing of a path ends: the lookup does, and the directory found has an end. -/
def ListEnds (v : Volume) (t : View) (component : Str) (entry : Mem) (path : Str) : Prop :=
  ∃ r, PathTo v t component entry path r ∧ ∀ found c, r = .ok (found, c) → entryAttr found 0 &&& attrDirectory ≠ 0 →
    WalkEnds v t (ListStops v t) c

lemma fat32ListDir_eq (v : Volume) (fuel : Nat) (pages : Nat → Bool) (component path : Str) (entry : Mem) :
    fat32ListDir v fuel pages component entry path = fat32Lookup v fuel component entry path >>= fun r =>
      match r with
      | .error _ => pure none
      | .ok (entry, cluster) =>
        if entryAttr entry 0 &&& attrDirectory = 0 then pure none else listCluster v fuel pages cluster := rfl

theorem list_terminates_iff (hv : v.Regular) (hnext : ∀ c, t.next c < 2 ^ 28) (hfs : Shows v fs t)
    {pages : Nat → Bool} {path component : Str} {entry : Mem} (hproper : PathProper v t component path) :
    Terminates (fun fuel => fat32ListDir v fuel pages component entry path) fs ↔
      ListEnds v t component entry path := by
  constructor
  · rintro ⟨fuel, r, hrun⟩
    by_contra hends
    dsimp only at hrun
    rw [fat32ListDir_eq, Prog.run_bind] at hrun
    obtain ⟨⟨answer, fs₁⟩, hlookup, hrest⟩ := Option.bind_eq_some_iff.mp hrun
    obtain ⟨r', hr'⟩ := (lookup_terminates_iff hv hnext hfs hproper).mp ⟨fuel, _, hlookup⟩
    obtain ⟨n, hwp⟩ := wp_fat32Lookup hv hnext hproper hr'
    obtain ⟨a, fs', u, hrun', hshows, rfl, rfl⟩ := hfs.run hv (hwp (max n fuel) (Nat.le_max_left n fuel))
    have hmore := run_fat32Lookup_mono hlookup (Nat.le_max_right n fuel)
    obtain ⟨rfl, rfl⟩ := Prod.mk.inj (Option.some.inj (hmore.symm.trans hrun'))
    refine hends ⟨answer, hr', fun found c heq hdir => ?_⟩
    subst heq
    dsimp only at hrest
    rw [if_neg hdir] at hrest
    by_contra hwalk
    rw [listCluster_hangs hv hnext hshows (PathTo.proper hproper hr') pages hwalk fuel] at hrest
    cases hrest
  · rintro ⟨r, hr, hends⟩
    obtain ⟨n, hwp⟩ := wp_fat32Lookup hv hnext hproper hr
    have hlist : ∃ m, ∀ fuel, m ≤ fuel → ∀ found c, r = .ok (found, c) → entryAttr found 0 &&& attrDirectory ≠ 0 →
        (listCluster v fuel pages c).wp (fatSpec v) (fun _ u => u = t) t := by
      cases r with
      | error e => exact ⟨0, fun _ _ found c h => nomatch h⟩
      | ok answer =>
        obtain ⟨found, c⟩ := answer
        by_cases hdir : entryAttr found 0 &&& attrDirectory ≠ 0
        · obtain ⟨m, hm⟩ := wp_listCluster hv hnext (PathTo.proper hproper hr) pages (hends found c rfl hdir)
          refine ⟨m, fun fuel hfuel found' c' heq _ => ?_⟩
          obtain ⟨rfl, rfl⟩ := Prod.mk.inj (Except.ok.inj heq)
          exact hm fuel hfuel
        · refine ⟨0, fun _ _ found' c' heq hdir' => ?_⟩
          obtain ⟨rfl, rfl⟩ := Prod.mk.inj (Except.ok.inj heq)
          exact absurd hdir' hdir
    obtain ⟨m, hlist⟩ := hlist
    have hall : (fat32ListDir v (max n m) pages component entry path).wp (fatSpec v) (fun _ u => u = t) t := by
      rw [fat32ListDir_eq, Prog.wp_bind]
      refine Prog.wp_mono (hwp _ (Nat.le_max_left n m)) ?_
      rintro r' u ⟨rfl, rfl⟩
      cases r' with
      | error e => exact rfl
      | ok answer =>
        dsimp only
        split_ifs with hdir
        · exact rfl
        · exact hlist _ (Nat.le_max_right n m) _ _ rfl hdir
    exact hfs.terminates hv hall

end List

/-! ## All walks -/

lemma sectorsPerCluster_dvd {d : Device} {fs : Fat32Fs} (hmount : fat32Mount d = some fs) :
    fs.vol.sectorsPerCluster ∣ 128 := by
  have hpow : ∀ spc : Fin 256, (spc.val != 0 && spc.val &&& (spc.val - 1) == 0) = true → spc.val ∣ 128 := by
    set_option maxRecDepth 8192 in decide
  unfold fat32Mount at hmount
  cases hread : d.readSectors 0 1 with
  | none =>
    rw [hread] at hmount
    cases hmount
  | some sector =>
    rw [hread] at hmount
    dsimp only at hmount
    split_ifs at hmount with hok
    obtain rfl := Option.some.inj hmount
    unfold bootSectorOk at hok
    simp only [Bool.and_eq_true] at hok
    have hlt : readLE sector 13 1 < 256 := readLE_lt sector 13 1
    exact hpow ⟨_, hlt⟩ (by simpa using hok.1.2)

/-- **Walks through directories**, for every FAT and every contents of the clusters: each of the routines comes to an
end exactly if the walks that it is made of do. -/
theorem dirWalks_end_iff {fs : Fat32Fs} (hfs : fs.Sound) (hv : fs.vol.Regular)
    (hspc : fs.vol.sectorsPerCluster ∣ 128) :
    (∀ p name, Proper fs.vol p → (Terminates (fun fuel => fat32FindEntryInDir fs.vol fuel p name) fs ↔
      WalkEnds fs.vol fs.view (FindStops fs.vol fs.view name) p)) ∧
    (∀ component entry path, PathProper fs.vol fs.view component path →
      (Terminates (fun fuel => fat32Lookup fs.vol fuel component entry path) fs ↔
        ∃ r, PathTo fs.vol fs.view component entry path r)) ∧
    (∀ p index, Proper fs.vol p → (Terminates (fun fuel => fat32ReadDirEntry fs.vol fuel p index) fs ↔
      ReadEnds fs.vol fs.view p index)) ∧
    (∀ pages component entry path, PathProper fs.vol fs.view component path →
      (Terminates (fun fuel => fat32ListDir fs.vol fuel pages component entry path) fs ↔
        ListEnds fs.vol fs.view component entry path)) ∧
    (∀ p name, Proper fs.vol p → DeleteProper fs.vol fs.view name p →
      (Terminates (fun fuel => fat32DeleteEntry fs.vol fuel p name) fs ↔
        WalkEnds fs.vol fs.view (DeleteStops fs.vol fs.view name) p)) := by
  have hshows := fs.shows_view hfs
  have hnext := fs.view_next_lt
  have hdvd : entriesPerCluster fs.vol ∣ 2 ^ 32 := by
    have heq : entriesPerCluster fs.vol = 16 * fs.vol.sectorsPerCluster := by
      rw [entriesPerCluster, hv.size, direntSize]
      omega
    rw [heq]
    exact Nat.dvd_trans (Nat.mul_dvd_mul_left 16 hspc) (by decide)
  refine ⟨fun p name hp => find_terminates_iff hv hshows hnext hp,
    fun component entry path hproper => lookup_terminates_iff hv hnext hshows hproper,
    fun p index hp => read_terminates_iff hv hnext hshows hp hdvd,
    fun pages component entry path hproper => list_terminates_iff hv hnext hshows hproper,
    fun p name hp hentry => delete_terminates_iff hv hshows hnext hp hentry⟩

/-- The one cluster of the root directory leads to itself, and is full of entries. -/
def ringDirFs : Fat32Fs :=
  { tinyFs with
    device :=
      ⟨fun a => if 1536 ≤ a ∧ a < 2048 then 0x20 else writeLE tinyDisk.bytes 520 4 2 a, fun _ => false, fun _ => false⟩ }

lemma ringDirFs_sound : ringDirFs.Sound :=
  Fat32Fs.sound_of_empty (fun _ => ⟨rfl, rfl⟩) (fun _ => ⟨rfl, rfl⟩) tinyFs_layout rfl

lemma ringDirFs_next : ringDirFs.view.next 2 = 2 := by decide

/-- No entry is called `A`, and the directory has no end. -/
theorem walks_in_ring : ringDirFs.Sound ∧ ringDirFs.vol.Regular ∧
    ¬ Terminates (fun fuel => fat32FindEntryInDir ringDirFs.vol fuel 2 [0x41]) ringDirFs ∧
    ¬ Terminates (fun fuel => fat32ListDir ringDirFs.vol fuel (fun _ => true) [] (fun _ => 0) [slash]) ringDirFs := by
  have hshows := ringDirFs.shows_view ringDirFs_sound
  have hc : ringDirFs.vol.Cluster 2 := by decide
  refine ⟨ringDirFs_sound, Fat32Fs.tinyFs_regular, fun h => ?_, fun h => ?_⟩
  · have hends := (find_terminates_iff Fat32Fs.tinyFs_regular hshows ringDirFs.view_next_lt fun _ => hc).mp h
    refine not_walkEnds_of_ring hc ?_ ringDirFs_next hends
    have hnone : ∀ j < 16, (findVerdict [0x41] (ringDirFs.view.data 2) j).isNone = true := by decide
    rintro ⟨j, -, hj, hne⟩
    exact hne (Option.isNone_iff_eq_none.mp (hnone j hj))
  · have hproper : PathProper ringDirFs.vol ringDirFs.view [] [slash] := ⟨fun _ => hc, fun _ => hc, fun h => absurd rfl h⟩
    obtain ⟨r, hr, hends⟩ :=
      (list_terminates_iff Fat32Fs.tinyFs_regular ringDirFs.view_next_lt hshows hproper).mp h
    have hroot : r = .ok (rootDirEntry ringDirFs.vol, 2) := hr
    refine not_walkEnds_of_ring hc ?_ ringDirFs_next (hends _ _ hroot ?_)
    · have hend : (liveEntries (ringDirFs.view.data 2) 16 0).2 = false := by decide
      exact fun hstops => Bool.false_ne_true (hend.symm.trans hstops)
    · decide

/-- A directory whose cluster is blank has its end in it. -/
theorem dirWalks_end_tiny : Terminates (fun fuel => fat32FindEntryInDir tinyFs.vol fuel 2 [0x41]) tinyFs := by
  refine ((dirWalks_end_iff tinyFs_sound Fat32Fs.tinyFs_regular (sectorsPerCluster_dvd mount_tinyDisk)).1 2 [0x41]
    fun _ => by decide).mpr ⟨2, walkTo_self fun _ => ?_⟩
  exact ⟨0, le_rfl, by decide, by decide⟩

end AAAos
