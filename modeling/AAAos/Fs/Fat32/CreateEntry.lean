import AAAos.Fs.Fat32.Listing

/-!
# Creating a directory entry

`fat32_create_entry` takes the first slot of the directory that is deleted or the end mark, and where there is none it
puts a new cluster behind the last one.  On the tables, this is what each of the cases does: `wp_create_slot` and
`wp_create_append`.
-/

namespace AAAos

open View

/-! ## Writing a slot -/

/-- The slot can be taken by a new entry. -/
def SlotFree (slot : Mem) : Prop := SlotEnd slot ∨ slot 0 = direntFree

instance (slot : Mem) : Decidable (SlotFree slot) := inferInstanceAs (Decidable (_ ∨ _))

/-- The slots before the first that can be taken. -/
def slotsBefore (slots : List Mem) : List Mem := slots.takeWhile fun slot => !decide (SlotFree slot)

/-- The slots from there on. -/
def slotsFree (slots : List Mem) : List Mem := slots.dropWhile fun slot => !decide (SlotFree slot)

section Slots

variable {v : Volume} {t u : View} {buf entry : Mem} {i j n c : Nat} {front back cs : List Nat} {l l' : List Mem}

lemma slotsBefore_append (slots : List Mem) : slotsBefore slots ++ slotsFree slots = slots :=
  List.takeWhile_append_dropWhile

lemma not_free_of_mem {slot : Mem} (h : slot ∈ slotsBefore l) : ¬ SlotFree slot := by
  simpa using List.mem_takeWhile_imp h

lemma slotsBefore_eq {x : Mem} (h : ∀ slot ∈ l, ¬ SlotFree slot) (hx : SlotFree x) (l' : List Mem) :
    slotsBefore (l ++ x :: l') = l ∧ slotsFree (l ++ x :: l') = x :: l' := by
  have hall : ∀ slot ∈ l, (!decide (SlotFree slot)) = true := fun slot hmem => by simp [h slot hmem]
  have hnot : ¬ (!decide (SlotFree x)) = true := by simp [hx]
  refine ⟨?_, ?_⟩
  · rw [slotsBefore, List.takeWhile_append_of_pos hall]
    exact (congrArg (l ++ ·) (List.takeWhile_cons_of_neg (p := fun slot => !decide (SlotFree slot)) hnot)).trans
      (List.append_nil l)
  · rw [slotsFree, List.dropWhile_append_of_pos hall]
    exact List.dropWhile_cons_of_neg (p := fun slot => !decide (SlotFree slot)) hnot

lemma slotsFree_eq_nil : slotsFree l = [] ↔ ∀ slot ∈ l, ¬ SlotFree slot := by
  rw [slotsFree, List.dropWhile_eq_nil_iff]
  exact forall₂_congr fun slot _ => by simp

lemma slotAt_zero (buf : Mem) (i : Nat) : slotAt buf i 0 = buf (direntSize * i) := by
  rw [slotAt, slice_of_lt (by decide), Nat.add_zero]

lemma freeVerdict_eq (buf : Mem) (i : Nat) :
    freeVerdict buf i = if SlotFree (slotAt buf i) then some (.found i) else none := by
  have hiff : SlotFree (slotAt buf i) ↔ buf (direntSize * i) = direntEnd ∨ buf (direntSize * i) = direntFree := by
    unfold SlotFree SlotEnd
    rw [slotAt_zero]
  unfold freeVerdict
  simp only [hiff]

lemma getElem?_slotsFrom (buf : Mem) (n i j : Nat) :
    (slotsFrom buf n i)[j]? = if j < n then some (slotAt buf (i + j)) else none := by
  unfold slotsFrom
  rw [List.getElem?_map]
  split_ifs with hj
  · rw [List.getElem?_range' hj, Option.map_some, Nat.one_mul]
  · rw [List.getElem?_eq_none (by rw [List.length_range']; omega), Option.map_none]

lemma slotAt_paste (buf entry : Mem) (i j : Nat) : slotAt (paste buf (direntSize * i) direntSize entry) j =
    if j = i then slice entry 0 direntSize else slotAt buf j := by
  unfold slotAt
  split_ifs with hij
  · rw [hij, slice_paste_self]
  · rw [slice_paste_apart (by unfold direntSize; omega)]

lemma slotAt_written (buf entry : Mem) (i : Nat) (hj : direntSize * (j + 1) ≤ n) :
    slotAt (slice (paste buf (direntSize * i) direntSize entry) 0 n) j =
      if j = i then slice entry 0 direntSize else slotAt buf j := by
  rw [← slotAt_paste]
  refine slice_eq_slice fun k hk => ?_
  rw [slice_of_lt (by unfold direntSize at *; omega), Nat.zero_add]

lemma slotsFrom_written (hn : direntSize * n ≤ v.bytesPerCluster) :
    slotsFrom (slice (paste buf (direntSize * i) direntSize entry) 0 v.bytesPerCluster) n 0 =
      (slotsFrom buf n 0).set i (slice entry 0 direntSize) := by
  refine List.ext_getElem? fun j => ?_
  rw [List.getElem?_set, getElem?_slotsFrom, getElem?_slotsFrom, length_slotsFrom, Nat.zero_add]
  by_cases hj : j < n
  · have hin : direntSize * (j + 1) ≤ v.bytesPerCluster := Nat.le_trans (Nat.mul_le_mul_left _ hj) hn
    rw [if_pos hj, if_pos hj, slotAt_written _ _ _ hin]
    by_cases hij : i = j
    · rw [if_pos hij.symm, if_pos hij, if_pos (hij ▸ hj)]
    · rw [if_neg (Ne.symm hij), if_neg hij]
  · rw [if_neg hj, if_neg hj]
    by_cases hij : i = j
    · rw [if_pos hij, if_neg (hij ▸ hj)]
    · rw [if_neg hij]

lemma entries_size (v : Volume) : direntSize * entriesPerCluster v ≤ v.bytesPerCluster := Nat.mul_div_le _ _

lemma slots_congr (h : ∀ x ∈ cs, u.data x = t.data x) : u.slots v cs = t.slots v cs := by
  unfold View.slots
  exact List.flatMap_congr fun x hx => by rw [h x hx]

/-- Where the first slot that can be taken is. -/
structure FirstFree (v : Volume) (t : View) (front : List Nat) (c : Nat) (back : List Nat) (i : Nat) : Prop where
  used : ∀ slot ∈ t.slots v front, ¬ SlotFree slot
  slot : i < entriesPerCluster v
  scan : scanDir (freeVerdict (t.data c)) (entriesPerCluster v) 0 = .found i
  before : slotsBefore (t.slots v (front ++ c :: back)) =
    t.slots v front ++ (slotsFrom (t.data c) (entriesPerCluster v) 0).take i
  free : slotsFree (t.slots v (front ++ c :: back)) =
    slotAt (t.data c) i :: ((slotsFrom (t.data c) (entriesPerCluster v) 0).drop (i + 1) ++ t.slots v back)

lemma scanFree_cases (buf : Mem) (n : Nat) :
    ((∀ slot ∈ slotsFrom buf n 0, ¬ SlotFree slot) ∧ scanDir (freeVerdict buf) n 0 = .exhausted) ∨
      ∃ i, i < n ∧ scanDir (freeVerdict buf) n 0 = .found i ∧ SlotFree (slotAt buf i) ∧
        ∀ slot ∈ (slotsFrom buf n 0).take i, ¬ SlotFree slot := by
  have hnone : ∀ j, freeVerdict buf j = none → ¬ SlotFree (slotAt buf j) := by
    intro j hj hfree
    rw [freeVerdict_eq, if_pos hfree] at hj
    cases hj
  rcases scanDir_cases (freeVerdict buf) n 0 with ⟨j, -, hj, hbefore, hverdict⟩ | ⟨hall, hscan⟩
  · right
    rw [freeVerdict_eq] at hverdict
    split_ifs at hverdict with hfree
    have hscan := (Option.some.inj hverdict).symm
    refine ⟨j, by omega, hscan, hfree, fun slot hmem => ?_⟩
    obtain ⟨k, hk⟩ := List.mem_iff_getElem?.mp hmem
    rw [List.getElem?_take] at hk
    split_ifs at hk with hkj
    rw [getElem?_slotsFrom, Nat.zero_add] at hk
    split_ifs at hk with hkn
    obtain rfl := Option.some.inj hk
    exact hnone k (hbefore k (Nat.zero_le k) hkj)
  · left
    refine ⟨fun slot hmem => ?_, hscan⟩
    obtain ⟨k, hk, rfl⟩ := List.mem_map.mp hmem
    rw [List.mem_range'_1] at hk
    exact hnone k (hall k hk.1 hk.2)

lemma exists_firstFree (v : Volume) (t : View) (cs : List Nat) : (∀ slot ∈ t.slots v cs, ¬ SlotFree slot) ∨
      ∃ front c back i, cs = front ++ c :: back ∧ FirstFree v t front c back i := by
  induction cs with
  | nil => exact .inl fun slot hmem => absurd hmem List.not_mem_nil
  | cons c cs ih =>
    rcases scanFree_cases (t.data c) (entriesPerCluster v) with ⟨hused, -⟩ | ⟨i, hi, hscan, hfree, hbefore⟩
    · rcases ih with hall | ⟨front, d, back, i, rfl, hfirst⟩
      · left
        intro slot hmem
        rw [slots_cons] at hmem
        exact (List.mem_append.mp hmem).elim (hused slot) (hall slot)
      · right
        have hfree := hfirst.free
        have hbefore := hfirst.before
        have hsplit := slotsBefore_append (t.slots v (front ++ d :: back))
        have hx : SlotFree (slotAt (t.data d) i) := by
          have hhead := List.head?_dropWhile_not (fun slot => !decide (SlotFree slot)) (t.slots v (front ++ d :: back))
          rw [← slotsFree, hfree] at hhead
          simpa using hhead
        have hall : ∀ slot ∈ slotsFrom (t.data c) (entriesPerCluster v) 0 ++
            slotsBefore (t.slots v (front ++ d :: back)), ¬ SlotFree slot := by
          intro slot hmem
          exact (List.mem_append.mp hmem).elim (hused slot) not_free_of_mem
        have heq := slotsBefore_eq hall hx ((slotsFrom (t.data d) (entriesPerCluster v) 0).drop (i + 1) ++ t.slots v back)
        rw [← hfree, List.append_assoc, hsplit, ← slots_cons] at heq
        refine ⟨c :: front, d, back, i, rfl, ?_, hfirst.slot, hfirst.scan, ?_, ?_⟩
        · intro slot hmem
          rw [slots_cons] at hmem
          exact (List.mem_append.mp hmem).elim (hused slot) (hfirst.used slot)
        · rw [slots_cons, List.append_assoc, ← hbefore]
          exact heq.1
        · rw [← hfree]
          exact heq.2
    · right
      have hsplit : slotsFrom (t.data c) (entriesPerCluster v) 0 =
          (slotsFrom (t.data c) (entriesPerCluster v) 0).take i ++
            slotAt (t.data c) i :: (slotsFrom (t.data c) (entriesPerCluster v) 0).drop (i + 1) := by
        have hget : (slotsFrom (t.data c) (entriesPerCluster v) 0)[i]? = some (slotAt (t.data c) i) := by
          rw [getElem?_slotsFrom, if_pos hi, Nat.zero_add]
        obtain ⟨hlt, hval⟩ := List.getElem?_eq_some_iff.mp hget
        rw [← hval, ← List.drop_eq_getElem_cons hlt, List.take_append_drop]
      have heq := slotsBefore_eq hbefore hfree
        ((slotsFrom (t.data c) (entriesPerCluster v) 0).drop (i + 1) ++ t.slots v cs)
      have hslots : t.slots v (c :: cs) = (slotsFrom (t.data c) (entriesPerCluster v) 0).take i ++
          slotAt (t.data c) i :: ((slotsFrom (t.data c) (entriesPerCluster v) 0).drop (i + 1) ++ t.slots v cs) := by
        rw [slots_cons]
        conv_lhs => rw [hsplit]
        rw [List.append_assoc, List.cons_append]
      rw [← hslots] at heq
      exact ⟨[], c, cs, i, rfl, fun slot hmem => absurd hmem List.not_mem_nil, hi, hscan, heq.1, heq.2⟩

lemma FirstFree.slots_written (h : FirstFree v t front c back i) (hnodup : (front ++ c :: back).Nodup)
    (hdata : u.data c = slice (paste (t.data c) (direntSize * i) direntSize entry) 0 v.bytesPerCluster)
    (hkeep : ∀ x ∈ front ++ c :: back, x ≠ c → u.data x = t.data x) :
    u.slots v (front ++ c :: back) = slotsBefore (t.slots v (front ++ c :: back)) ++
      slice entry 0 direntSize :: (slotsFree (t.slots v (front ++ c :: back))).tail := by
  obtain ⟨hfront, hrest, hdisjoint⟩ := List.nodup_append.mp hnodup
  have hback := (List.nodup_cons.mp hrest).1
  have hset : (slotsFrom (t.data c) (entriesPerCluster v) 0).set i (slice entry 0 direntSize) =
      (slotsFrom (t.data c) (entriesPerCluster v) 0).take i ++
        slice entry 0 direntSize :: (slotsFrom (t.data c) (entriesPerCluster v) 0).drop (i + 1) :=
    List.set_eq_take_append_cons_drop.trans (if_pos (by rw [length_slotsFrom]; exact h.slot))
  rw [h.before, h.free, List.tail_cons, slots_append, slots_cons, hdata, slotsFrom_written (entries_size v), hset,
    slots_congr fun x hx => hkeep x (List.mem_append_left _ hx) fun hxc => hdisjoint x hx c List.mem_cons_self hxc,
    slots_congr fun x hx => hkeep x (List.mem_append_right _ (List.mem_cons_of_mem c hx)) fun hxc => hback (hxc ▸ hx)]
  simp only [List.append_assoc, List.cons_append]

end Slots

/-! ## The search -/

section Search

variable {v : Volume} {t : View} {p q c d i fuel prev : Nat} {cs front : List Nat} {shortName : Str} {attr : UInt8}

/-- One round of the loop of `fat32_create_entry`. -/
def createRound (v : Volume) (fuel parentCluster : Nat) (shortName : Str) (attr : UInt8) (s : Nat × Nat) :
    FatProg ((Nat × Nat) ⊕ (Except Int Mem ⊕ Nat)) :=
  if fat32ClusterIsValid v s.1 then do
    match ← FatProg.readCluster s.1 with
    | .error e => pure (.inr (.inl (.error e)))
    | .ok buf =>
      match scanDir (freeVerdict buf) (entriesPerCluster v) 0 with
      | .found i => do
        let r ← createInSlot v fuel parentCluster shortName attr s.1 buf i
        pure (.inr (.inl r))
      | _ => do
        let next ← fat32NextCluster v s.1
        pure (.inl (next, s.1))
  else pure (.inr (.inr s.2))

lemma fat32CreateEntry_eq (hrw : v.readonly = false) (fuel p : Nat) (name : Str) (attr : UInt8) :
    fat32CreateEntry v fuel p name attr =
      Prog.loop (createRound v fuel p (fat32ToShortName name) attr) fuel (p, 0) >>= fun slot =>
        match slot with
        | .inl r => pure r
        | .inr prevCluster => createInNewCluster v fuel prevCluster (fat32ToShortName name) attr :=
  if_neg (by simp [hrw])

lemma wp_createRound_used (hv : v.Regular) (hc : v.Cluster c)
    (hused : ∀ slot ∈ slotsFrom (t.data c) (entriesPerCluster v) 0, ¬ SlotFree slot) (parent : Nat) :
    (createRound v fuel parent shortName attr (c, prev)).wp (fatSpec v)
      (fun r u => u = t ∧ r = .inl (t.next c, c)) t := by
  have hscan : scanDir (freeVerdict (t.data c)) (entriesPerCluster v) 0 = .exhausted := by
    rcases scanFree_cases (t.data c) (entriesPerCluster v) with ⟨-, hscan⟩ | ⟨i, hi, -, hfree, -⟩
    · exact hscan
    · refine absurd hfree (hused _ (List.mem_iff_getElem?.mpr ⟨i, ?_⟩))
      rw [getElem?_slotsFrom, if_pos hi, Nat.zero_add]
  unfold createRound
  dsimp only
  rw [if_pos (hv.valid hc), Prog.wp_bind, FatProg.wp_readCluster]
  refine ⟨hc, ?_⟩
  dsimp only
  rw [hscan]
  dsimp only
  rw [Prog.wp_bind, wp_fat32NextCluster hv hc]
  exact ⟨rfl, rfl⟩

/-- **All slots in use**: the search ends behind the last cluster. -/
lemma wp_search_used (hv : v.Regular) (h : Chained v t p cs q) (hq : fat32ClusterIsValid v q ≠ true)
    (hused : ∀ slot ∈ t.slots v cs, ¬ SlotFree slot) {rounds parent : Nat} (hrounds : cs.length < rounds) :
    (Prog.loop (createRound v fuel parent shortName attr) rounds (p, prev)).wp (fatSpec v)
      (fun r u => u = t ∧ r = .inr (cs.getLastD prev)) t := by
  induction cs generalizing p prev rounds with
  | nil =>
    obtain ⟨rounds, rfl⟩ : ∃ k, rounds = k + 1 := ⟨rounds - 1, by rw [List.length_nil] at hrounds; omega⟩
    obtain rfl : p = q := h.seg
    rw [Prog.wp_loop_succ]
    unfold createRound
    rw [if_neg hq]
    exact ⟨rfl, rfl⟩
  | cons c cs ih =>
    obtain ⟨rounds, rfl⟩ : ∃ k, rounds = k + 1 := ⟨rounds - 1, by omega⟩
    obtain rfl := h.head
    rw [slots_cons] at hused
    rw [Prog.wp_loop_succ]
    refine Prog.wp_mono (wp_createRound_used hv h.cluster
      (fun slot hmem => hused slot (List.mem_append_left _ hmem)) parent) ?_
    rintro r u ⟨rfl, rfl⟩
    rw [List.length_cons] at hrounds
    dsimp only
    rw [List.getLastD_cons]
    exact ih h.tail (fun slot hmem => hused slot (List.mem_append_right _ hmem)) (Nat.lt_of_succ_lt_succ hrounds)

/-- **A slot that can be taken**: the search ends there. -/
lemma wp_search_found (hv : v.Regular) (h : Chained v t p front c) (hc : v.Cluster c)
    (hused : ∀ slot ∈ t.slots v front, ¬ SlotFree slot)
    (hscan : scanDir (freeVerdict (t.data c)) (entriesPerCluster v) 0 = .found i) {rounds parent : Nat}
    (hrounds : front.length < rounds) {Q : Except Int Mem → View → Prop}
    (hslot : (createInSlot v fuel parent shortName attr c (t.data c) i).wp (fatSpec v) Q t) :
    (Prog.loop (createRound v fuel parent shortName attr) rounds (p, prev)).wp (fatSpec v)
      (fun r u => ∃ a, r = .inl a ∧ Q a u) t := by
  induction front generalizing p prev rounds with
  | nil =>
    obtain ⟨rounds, rfl⟩ : ∃ k, rounds = k + 1 := ⟨rounds - 1, by rw [List.length_nil] at hrounds; omega⟩
    obtain rfl : p = c := h.seg
    rw [Prog.wp_loop_succ]
    unfold createRound
    dsimp only
    rw [if_pos (hv.valid hc), Prog.wp_bind, FatProg.wp_readCluster]
    refine ⟨hc, ?_⟩
    dsimp only
    rw [hscan]
    dsimp only
    rw [Prog.wp_bind]
    exact Prog.wp_mono hslot fun a u hQ => ⟨a, rfl, hQ⟩
  | cons e front ih =>
    obtain ⟨rounds, rfl⟩ : ∃ k, rounds = k + 1 := ⟨rounds - 1, by omega⟩
    obtain rfl := h.head
    rw [slots_cons] at hused
    rw [Prog.wp_loop_succ]
    refine Prog.wp_mono (wp_createRound_used hv h.cluster
      (fun slot hmem => hused slot (List.mem_append_left _ hmem)) parent) ?_
    rintro r u ⟨rfl, rfl⟩
    rw [List.length_cons] at hrounds
    exact ih h.tail (fun slot hmem => hused slot (List.mem_append_right _ hmem)) (Nat.lt_of_succ_lt_succ hrounds)

end Search

/-! ## Taking a cluster -/

section Alloc

variable {v : Volume} {t : View} {c d m start fuel : Nat}

lemma wp_allocLoop_full (hv : v.Regular) (hnone : ∀ c, v.Cluster c → t.next c ≠ clusterFree) (hc : v.Cluster c)
    (hm : 0 < m) (hround : v.after^[m] c = start) (havoid : ∀ i, 0 < i → i < m → v.after^[i] c ≠ start)
    (hfuel : m ≤ fuel) :
    (Prog.loop (allocRound v start) fuel c).wp (fatSpec v) (fun r u => u = t ∧ r = 0) t := by
  induction m generalizing c fuel with
  | zero => exact absurd hm (Nat.lt_irrefl 0)
  | succ m ih =>
    obtain ⟨fuel, rfl⟩ : ∃ n, fuel = n + 1 := ⟨fuel - 1, by omega⟩
    have hafter : v.Cluster (v.after c) := by
      have hlow := hc.1
      have hhigh := hc.2
      unfold Volume.after CyclicSearch.nextIn
      split_ifs with hlast
      · exact ⟨le_rfl, by unfold firstDataCluster; omega⟩
      · exact ⟨by omega, by unfold firstDataCluster at hlast; omega⟩
    rw [Prog.wp_loop_succ]
    unfold allocRound
    rw [Prog.wp_bind, FatProg.wp_readFat]
    refine ⟨hc, ?_⟩
    rw [if_neg (hnone c hc), Prog.wp_pure, Volume.Searched.lookNext_eq hv (.inl hc)]
    by_cases hlast : m = 0
    · subst hlast
      have hback : v.after c = start := hround
      rw [if_pos hback]
      exact ⟨rfl, rfl⟩
    · have hgoes : v.after c ≠ start := havoid 1 Nat.one_pos (by omega)
      rw [if_neg hgoes]
      exact ih hafter (Nat.pos_of_ne_zero hlast) hround
        (fun i _ him => havoid (i + 1) (Nat.succ_pos i) (Nat.succ_lt_succ him)) (Nat.le_of_succ_le_succ hfuel)

/-- **Taking a cluster**, or none where none is free. -/
lemma wp_alloc (hv : v.Regular) (hrw : v.readonly = false)
    (hstart : v.Cluster (Volume.searchStart t.info.nextFreeCluster)) (hfuel : v.totalClusters ≤ fuel) :
    (fat32AllocCluster v fuel).wp (fatSpec v) (fun r u =>
      match t.nextPick v with
      | some d => r = d ∧ u = t.allocate d
      | none => r = 0 ∧ u = t) t := by
  unfold fat32AllocCluster
  rw [if_neg (by simp [hrw]), Prog.wp_bind]
  refine ⟨trivial, ?_⟩
  rintro info w ⟨rfl, rfl⟩
  cases hpick : w.nextPick v with
  | some d =>
    exact wp_allocLoop hv hstart
      ((congrArg Prod.fst (CyclicSearch.searchFrom_nextIn hstart.1 hstart.2 hfuel)).trans hpick)
  | none =>
    have hnone : ∀ c, v.Cluster c → w.next c ≠ clusterFree := by
      intro c hc hfree
      obtain ⟨d, hd⟩ := Volume.exists_pick hstart hc (mem_freeClusters.mpr ⟨hc, hfree⟩)
      exact Option.some_ne_none d (hd.symm.trans hpick)
    have htotal : 0 < v.totalClusters := by
      have hlow := hstart.1
      have hhigh := hstart.2
      omega
    have hfull := wp_allocLoop_full hv hnone hstart htotal
      (CyclicSearch.iterate_nextIn_round hstart.1 hstart.2)
      (fun _ hi hn => CyclicSearch.iterate_nextIn_ne hstart.1 hstart.2 hi hn) hfuel
    have hnothing := Prog.wp_mono hfull fun r u h => (⟨h.2, h.1⟩ : r = 0 ∧ u = w)
    exact hnothing

lemma nextPick_free (hstart : v.Cluster (Volume.searchStart t.info.nextFreeCluster)) (h : t.nextPick v = some d) :
    v.Cluster d ∧ t.next d = clusterFree := mem_freeClusters.mp (Volume.pick_mem hstart h).2

end Alloc

/-! ## The entry -/

/-- The entry of a new directory with this first cluster. -/
def newDirEntry (shortName : Str) (attr : UInt8) (cluster : Nat) : Mem :=
  fat32EntrySetCluster (newEntry shortName attr) 0 cluster

section Entry

variable {v : Volume} {t u : View} {p q c d l n i fuel parent : Nat} {cs : List Nat} {shortName : Str} {attr : UInt8}

lemma newEntry_beyond {j : Nat} (hj : direntSize ≤ j) : newEntry shortName attr j = 0 := by
  unfold direntSize at hj
  unfold newEntry
  rw [if_neg (by omega), if_neg (by omega)]

lemma slice_of_beyond {entry : Mem} (h : ∀ j, direntSize ≤ j → entry j = 0) : slice entry 0 direntSize = entry := by
  funext j
  unfold slice
  split_ifs with hj
  · rw [Nat.zero_add]
  · exact (h j (Nat.not_lt.mp hj)).symm

@[simp] lemma slice_newEntry : slice (newEntry shortName attr) 0 direntSize = newEntry shortName attr :=
  slice_of_beyond fun _ hj => newEntry_beyond hj

@[simp] lemma slice_newDirEntry (n : Nat) :
    slice (newDirEntry shortName attr n) 0 direntSize = newDirEntry shortName attr n := by
  refine slice_of_beyond fun j hj => ?_
  unfold newDirEntry fat32EntrySetCluster
  rw [writeLE_outside (.inr (by unfold direntSize at hj; omega)),
    writeLE_outside (.inr (by unfold direntSize at hj; omega)), newEntry_beyond hj]

/-- The slot of a cluster with an entry in it. -/
def withSlot (v : Volume) (buf : Mem) (i : Nat) (entry : Mem) : Mem :=
  slice (paste buf (direntSize * i) direntSize entry) 0 v.bytesPerCluster

lemma setData_self (t : View) (c : Nat) (buf : Mem) : (t.setData c buf).data c = buf :=
  Function.update_self (β := fun _ => Mem) c buf t.data

/-- **A file** in a slot. -/
lemma wp_createInSlot_file (hc : v.Cluster c) (hfile : attr &&& attrDirectory = 0) :
    (createInSlot v fuel parent shortName attr c (t.data c) i).wp (fatSpec v) (fun r u =>
      r = .ok (newEntry shortName attr) ∧ u = t.setData c (withSlot v (t.data c) i (newEntry shortName attr))) t := by
  unfold createInSlot
  dsimp only
  rw [if_neg (not_not.mpr hfile), Prog.wp_bind, FatProg.wp_writeCluster]
  refine ⟨hc, ?_⟩
  rw [if_neg (fun h => h rfl)]
  exact ⟨rfl, rfl⟩

/-- **A directory** in a slot. -/
lemma wp_createInSlot_dir (hv : v.Regular) (hrw : v.readonly = false) (hfuel : v.totalClusters ≤ fuel)
    (hc : v.Cluster c) (hused : t.next c ≠ clusterFree) (hi : i < entriesPerCluster v)
    (hdir : attr &&& attrDirectory ≠ 0) (hstart : v.Cluster (Volume.searchStart t.info.nextFreeCluster)) :
    (createInSlot v fuel parent shortName attr c (t.data c) i).wp (fatSpec v) (fun r u =>
      match t.nextPick v with
      | none => r = .error errNoSpc ∧ u = t
      | some n => r = .ok (newDirEntry shortName attr n) ∧
          u = ((t.allocate n).setData c (withSlot v (t.data c) i (newDirEntry shortName attr n))).setData n
            (slice (dotEntries n parent) 0 v.bytesPerCluster)) t := by
  have halloc := wp_alloc hv hrw hstart hfuel
  unfold createInSlot
  dsimp only
  rw [if_pos hdir, Prog.wp_bind]
  refine Prog.wp_mono halloc ?_
  intro r u hru
  cases hpick : t.nextPick v with
  | none =>
    rw [hpick] at hru
    obtain ⟨rfl, rfl⟩ := hru
    rw [if_pos rfl]
    exact ⟨rfl, rfl⟩
  | some n =>
    rw [hpick] at hru
    obtain ⟨rfl, rfl⟩ := hru
    obtain ⟨hn, hfree⟩ := nextPick_free hstart hpick
    have hne : c ≠ r := fun h => hused (h ▸ hfree)
    have hpos : r ≠ 0 := fun hzero => absurd hn.1 (by rw [hzero]; decide)
    rw [if_neg hpos, Prog.wp_bind, FatProg.wp_writeCluster]
    refine ⟨hc, ?_⟩
    rw [if_neg (fun h => h rfl), Prog.wp_bind, FatProg.wp_writeCluster]
    refine ⟨hn, ?_⟩
    rw [if_neg (fun h => h rfl), Prog.wp_bind, FatProg.wp_readCluster]
    refine ⟨hc, ?_⟩
    refine ⟨?_, rfl⟩
    rw [setData_ne hne, setData_self]
    have hslot := slotAt_written (t.data c) (newDirEntry shortName attr r) i
      (Nat.le_trans (Nat.mul_le_mul_left direntSize hi) (entries_size v))
    rw [if_pos rfl, slice_newDirEntry] at hslot
    exact congrArg Except.ok hslot

/-- **A file** in a new cluster. -/
lemma wp_createInNewCluster_file (hv : v.Regular) (hrw : v.readonly = false) (hfuel : v.totalClusters ≤ fuel)
    (hl : v.Cluster l) (hfile : attr &&& attrDirectory = 0)
    (hstart : v.Cluster (Volume.searchStart t.info.nextFreeCluster)) :
    (createInNewCluster v fuel l shortName attr).wp (fatSpec v) (fun r u =>
      match t.nextPick v with
      | none => r = .error errNoSpc ∧ u = t
      | some d => r = .ok (newEntry shortName attr) ∧
          u = (t.link l d).setData d (withSlot v (fun _ => 0) 0 (newEntry shortName attr))) t := by
  have halloc := wp_alloc hv hrw hstart hfuel
  unfold createInNewCluster
  rw [Prog.wp_bind]
  refine Prog.wp_mono halloc ?_
  intro r u hru
  cases hpick : t.nextPick v with
  | none =>
    rw [hpick] at hru
    obtain ⟨rfl, rfl⟩ := hru
    rw [if_pos rfl]
    exact ⟨rfl, rfl⟩
  | some d =>
    rw [hpick] at hru
    obtain ⟨rfl, rfl⟩ := hru
    obtain ⟨hd, -⟩ := nextPick_free hstart hpick
    have hpos : r ≠ 0 := fun hzero => absurd hd.1 (by rw [hzero]; decide)
    unfold fat32SetCluster newClusterEntry
    rw [if_neg hpos, Prog.wp_bind, FatProg.wp_writeFat]
    refine ⟨hl, ?_⟩
    rw [if_neg (fun h => h rfl), if_neg (not_not.mpr hfile), Prog.wp_bind, Prog.wp_pure]
    dsimp only
    rw [Prog.wp_bind, FatProg.wp_writeCluster]
    refine ⟨hd, ?_⟩
    rw [if_neg (fun h => h rfl)]
    exact ⟨rfl, rfl⟩

/-- **A directory** in a new cluster, which takes two. -/
lemma wp_createInNewCluster_dir (hv : v.Regular) (hrw : v.readonly = false) (hfuel : v.totalClusters ≤ fuel)
    (hl : v.Cluster l) (hdir : attr &&& attrDirectory ≠ 0)
    (hstart : v.Cluster (Volume.searchStart t.info.nextFreeCluster))
    (hagain : ∀ d, t.nextPick v = some d → v.Cluster (Volume.searchStart (t.link l d).info.nextFreeCluster)) :
    (createInNewCluster v fuel l shortName attr).wp (fatSpec v) (fun r u =>
      match t.nextPick v with
      | none => r = .error errNoSpc ∧ u = t
      | some d =>
        match (t.link l d).nextPick v with
        | none => r = .error errNoSpc ∧ u = t.link l d
        | some n => r = .ok (newDirEntry shortName attr n) ∧
            u = ((t.link l d).allocate n).setData d (withSlot v (fun _ => 0) 0 (newDirEntry shortName attr n))) t := by
  have halloc := wp_alloc hv hrw hstart hfuel
  unfold createInNewCluster
  rw [Prog.wp_bind]
  refine Prog.wp_mono halloc ?_
  intro r u hru
  cases hpick : t.nextPick v with
  | none =>
    rw [hpick] at hru
    obtain ⟨rfl, rfl⟩ := hru
    rw [if_pos rfl]
    exact ⟨rfl, rfl⟩
  | some d =>
    rw [hpick] at hru
    obtain ⟨rfl, rfl⟩ := hru
    obtain ⟨hd, -⟩ := nextPick_free hstart hpick
    have hpos : r ≠ 0 := fun hzero => absurd hd.1 (by rw [hzero]; decide)
    have halloc' := wp_alloc (t := t.link l r) hv hrw (hagain r hpick) hfuel
    unfold fat32SetCluster newClusterEntry
    rw [if_neg hpos, Prog.wp_bind, FatProg.wp_writeFat]
    refine ⟨hl, ?_⟩
    rw [if_neg (fun h => h rfl), if_pos hdir, Prog.wp_bind, Prog.wp_bind]
    refine Prog.wp_mono halloc' ?_
    intro n w hnw
    dsimp only
    cases hpick' : (t.link l r).nextPick v with
    | none =>
      rw [hpick'] at hnw
      obtain ⟨rfl, rfl⟩ := hnw
      exact ⟨rfl, rfl⟩
    | some n' =>
      rw [hpick'] at hnw
      obtain ⟨rfl, rfl⟩ := hnw
      obtain ⟨hn, -⟩ := nextPick_free (hagain r hpick) hpick'
      have hpos' : n ≠ 0 := fun hzero => absurd hn.1 (by rw [hzero]; decide)
      rw [if_neg hpos', Prog.wp_pure]
      dsimp only
      rw [Prog.wp_bind, FatProg.wp_writeCluster]
      refine ⟨hd, ?_⟩
      rw [if_neg (fun h => h rfl)]
      exact ⟨rfl, rfl⟩

/-! ## The chains -/

lemma View.Ends.allocate (h : Ends v t p cs) (hfree : t.next n = clusterFree) : Ends v (t.allocate n) p cs := by
  have hne : ∀ x ∈ cs, x ≠ n := fun x hx hxn => h.not_free hx (hxn ▸ hfree)
  obtain ⟨q, hchain, hq⟩ := h
  exact ⟨q, ⟨hchain.seg.congr fun x hx => allocate_next_ne (hne x hx), hchain.clusters⟩, hq⟩

lemma ends_allocated (hn : v.Cluster n) : Ends v (t.allocate n) n [n] :=
  ⟨clusterEof, ⟨⟨rfl, allocate_next_self t n⟩, fun x hx => List.mem_singleton.mp hx ▸ hn⟩, by decide⟩

lemma View.Ends.link (hv : v.Regular) (h : Ends v t p cs) (hne : cs ≠ []) (hd : v.Cluster d)
    (hfree : t.next d = clusterFree) :
    Ends v (t.link (cs.getLastD 0) d) p (cs ++ [d]) := by
  obtain ⟨front, l, rfl⟩ := (List.eq_nil_or_concat' cs).resolve_left hne
  have hlast : (front ++ [l]).getLastD 0 = l := by rw [List.getLastD_concat]
  rw [hlast]
  have hnodup := h.nodup hv
  have hout : ∀ x ∈ front ++ [l], x ≠ d := fun x hx hxd => h.not_free hx (hxd ▸ hfree)
  obtain ⟨q, hchain, -⟩ := h
  have hdl : d ≠ l := fun hdl => hout l (by simp) hdl.symm
  refine ⟨clusterEof, ⟨Seg.append.mpr ⟨d, ?_, rfl, ?_⟩, fun x hx => ?_⟩, by decide⟩
  · refine hchain.seg.redirect (fun x hx => ?_) (link_next_self t l (hv.lt hd))
    have hxl : x ≠ l := fun hxl => (List.nodup_append.mp hnodup).2.2 x hx l List.mem_cons_self hxl
    rw [link_next_ne hxl, allocate_next_ne (hout x (List.mem_append_left _ hx))]
  · rw [link_next_ne hdl, allocate_next_self]
    exact rfl
  · rcases List.mem_append.mp hx with hin | hin
    · exact hchain.clusters x hin
    · exact List.mem_singleton.mp hin ▸ hd

end Entry

end AAAos
