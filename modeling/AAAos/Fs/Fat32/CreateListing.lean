import AAAos.Fs.Fat32.CreateEntry

/-!
# What creating an entry does to the listing

**What goes wrong.**  The end mark of a directory is the slot that is taken first, where no slot before it was deleted,
and no new one is written behind it: what follows in the cluster was never looked at before, and is listed from then on
(`create_uncovers`).  A directory in a new cluster of its parent gets no `.` and `..`, and lists what its cluster
happens to hold.  And where the second of the two clusters that it takes is not there, the first stays behind the
parent, and what it holds is listed.

**What is proved.**  For every contents of the clusters, exactly when the listing changes by the new entry alone
(`create_listing_iff`).
-/

namespace AAAos

open View

/-! ## The new slots -/

section Slots

variable {v : Volume} {t u : View} {p n i : Nat} {shortName name : Str} {attr : UInt8} {entry : Mem} {l : List Mem}

lemma validShortChar_marks {c : UInt8} (h : validShortChar c = true) : c ≠ direntEnd ∧ c ≠ direntFree := by
  refine ⟨?_, ?_⟩
  all_goals
    rintro rfl
    exact absurd h (by decide)

lemma shortPart_length (s : Str) (n : Nat) : (shortPart s n).length = n := by
  unfold shortPart
  rw [List.length_append, List.length_replicate]
  have := List.length_take_le n ((s.map fat32Toupper).filter validShortChar)
  omega

lemma shortPart_head (s : Str) {n : Nat} (hn : 0 < n) (rest : Str) :
    (shortPart s n ++ rest).getD 0 0 ≠ direntEnd ∧ (shortPart s n ++ rest).getD 0 0 ≠ direntFree := by
  unfold shortPart
  cases hkept : ((s.map fat32Toupper).filter validShortChar).take n with
  | nil =>
    obtain ⟨k, rfl⟩ : ∃ k, n = k + 1 := ⟨n - 1, by omega⟩
    exact ⟨show (0x20 : UInt8) ≠ direntEnd by decide, show (0x20 : UInt8) ≠ direntFree by decide⟩
  | cons c kept =>
    have hmem : c ∈ ((s.map fat32Toupper).filter validShortChar).take n := hkept ▸ List.mem_cons_self
    exact validShortChar_marks (List.mem_filter.mp (List.mem_of_mem_take hmem)).2

lemma fat32ToShortName_head (name : Str) : (fat32ToShortName name).getD 0 0 ≠ direntEnd ∧
    (fat32ToShortName name).getD 0 0 ≠ direntFree := by
  unfold fat32ToShortName
  split
  · exact shortPart_head _ (by decide) _
  · exact shortPart_head _ (by decide) _

/-- The slot holds an entry. -/
def SlotLive (slot : Mem) : Prop := ¬ SlotEnd slot ∧ ¬ SlotSkipped slot

lemma slotLive_of {slot : Mem} (hend : slot 0 ≠ direntEnd) (hfree : slot 0 ≠ direntFree)
    (hattr : entryAttr slot 0 &&& attrVolumeId = 0) : SlotLive slot := by
  refine ⟨hend, ?_⟩
  rintro (h | h | h)
  · exact hfree h
  · have hmask : entryAttr slot 0 &&& attrVolumeId = attrLongName &&& attrVolumeId := by
      rw [← h, UInt8.and_assoc]
      rfl
    rw [hattr] at hmask
    exact absurd hmask (by decide)
  · exact h hattr

lemma newEntry_zero (shortName : Str) (attr : UInt8) : newEntry shortName attr 0 = shortName.getD 0 0 := rfl

lemma newDirEntry_zero (shortName : Str) (attr : UInt8) (n : Nat) :
    newDirEntry shortName attr n 0 = shortName.getD 0 0 := by
  unfold newDirEntry fat32EntrySetCluster
  rw [writeLE_outside (by omega), writeLE_outside (by omega), newEntry_zero]

lemma slotLive_newEntry (hname : shortName.getD 0 0 ≠ direntEnd ∧ shortName.getD 0 0 ≠ direntFree)
    (hattr : attr &&& attrVolumeId = 0) : SlotLive (newEntry shortName attr) :=
  slotLive_of hname.1 hname.2 hattr

lemma slotLive_newDirEntry (hname : shortName.getD 0 0 ≠ direntEnd ∧ shortName.getD 0 0 ≠ direntFree)
    (hattr : attr &&& attrVolumeId = 0) (n : Nat) : SlotLive (newDirEntry shortName attr n) := by
  refine slotLive_of ?_ ?_ ?_
  · rw [newDirEntry_zero]
    exact hname.1
  · rw [newDirEntry_zero]
    exact hname.2
  · unfold newDirEntry
    rw [entryAttr_setCluster]
    exact hattr

/-- The `.` entry of a directory. -/
def dotEntry (n : Nat) : Mem := newDirEntry (0x2E :: List.replicate 10 0x20) attrDirectory n

/-- The `..` entry of a directory in `p`. -/
def dotdotEntry (p : Nat) : Mem := newDirEntry (0x2E :: 0x2E :: List.replicate 9 0x20) attrDirectory p

lemma three_slots (hv : v.Regular) : ∃ k, entriesPerCluster v = k + 3 := by
  have hpos := hv.apart.sectors
  refine ⟨entriesPerCluster v - 3, ?_⟩
  rw [entriesPerCluster, hv.size, direntSize]
  omega

lemma listing_live (h : SlotLive entry) (l : List Mem) : listing (entry :: l) = entry :: listing l :=
  listing_cons_live h.1 h.2 l

lemma blank_slotEnd (i : Nat) : SlotEnd (slotAt (fun _ => 0) i) := slotAt_zero _ i

lemma listing_withSlot (hv : v.Regular) (hentry : SlotLive entry) (hslice : slice entry 0 direntSize = entry) :
    listing (slotsFrom (withSlot v (fun _ => 0) 0 entry) (entriesPerCluster v) 0) = [entry] := by
  obtain ⟨k, hk⟩ := three_slots hv
  unfold withSlot
  rw [slotsFrom_written (entries_size v), hslice, hk, slotsFrom_succ, slotsFrom_succ, List.set_cons_zero,
    listing_live hentry, listing_cons_end (blank_slotEnd _)]

lemma listing_dotEntries (hv : v.Regular) (n p : Nat) :
    listing (slotsFrom (slice (dotEntries n p) 0 v.bytesPerCluster) (entriesPerCluster v) 0) =
      [dotEntry n, dotdotEntry p] := by
  obtain ⟨k, hk⟩ := three_slots hv
  have hdot : SlotLive (dotEntry n) := slotLive_newDirEntry ⟨by decide, by decide⟩ (by decide) n
  have hdotdot : SlotLive (dotdotEntry p) := slotLive_newDirEntry ⟨by decide, by decide⟩ (by decide) p
  have hsecond : dotEntries n p = paste (paste (fun _ => 0) (direntSize * 0) direntSize (dotEntry n))
      (direntSize * 1) direntSize (dotdotEntry p) := rfl
  rw [hsecond, slotsFrom_written (entries_size v), hk, slotsFrom_succ, slotsFrom_succ, slotsFrom_succ,
    List.set_cons_succ, List.set_cons_zero, slotAt_paste, slotAt_paste, if_pos rfl, if_neg (by decide)]
  unfold dotEntry dotdotEntry at *
  rw [slice_newDirEntry, slice_newDirEntry, listing_live hdot, listing_live hdotdot, listing_cons_end (blank_slotEnd _)]

lemma not_end_of_before {slot : Mem} (h : slot ∈ slotsBefore l) : ¬ SlotEnd slot :=
  fun hend => not_free_of_mem h (.inl hend)

lemma listing_create {x : Mem} {rest : List Mem} (hfree : slotsFree l = x :: rest) (hentry : SlotLive entry) :
    (∃ front, listing l = front ++ (if SlotEnd x then [] else listing rest) ∧
      listing (slotsBefore l ++ entry :: rest) = front ++ entry :: listing rest) := by
  have hx : SlotFree x := by
    have hhead := List.head?_dropWhile_not (fun slot => !decide (SlotFree slot)) l
    rw [← slotsFree, hfree] at hhead
    simpa using hhead
  refine ⟨listing (slotsBefore l), ?_, ?_⟩
  · have hsplit := slotsBefore_append l
    rw [hfree] at hsplit
    conv_lhs => rw [← hsplit]
    rw [listing_append fun slot => not_end_of_before]
    split_ifs with hend
    · rw [listing_cons_end hend]
    · rw [listing_cons_skipped hend (.inl (hx.resolve_left hend))]
  · rw [listing_append fun slot => not_end_of_before, listing_live hentry]

end Slots

/-! ## What is to happen -/

/-- How many clusters are taken. -/
def createTakes (v : Volume) (t : View) (attr : UInt8) (cs : List Nat) : Nat :=
  (if slotsFree (t.slots v cs) = [] then 1 else 0) + if attr &&& attrDirectory ≠ 0 then 1 else 0

/-! ## On the tables -/

/-- What `fat32_create_entry` answers and leaves. -/
def CreateOutcome (v : Volume) (t : View) (p : Nat) (name : Str) (attr : UInt8) (cs : List Nat) (r : Except Int Mem)
    (u : View) : Prop :=
  match slotsFree (t.slots v cs) with
  | _ :: rest =>
    if attr &&& attrDirectory = 0 then
      r = .ok (newEntry (fat32ToShortName name) attr) ∧ Ends v u p cs ∧
        u.slots v cs = slotsBefore (t.slots v cs) ++ newEntry (fat32ToShortName name) attr :: rest
    else
      match t.nextPick v with
      | none => r = .error errNoSpc ∧ u = t
      | some n => r = .ok (newDirEntry (fat32ToShortName name) attr n) ∧ Ends v u p cs ∧
          u.slots v cs = slotsBefore (t.slots v cs) ++ newDirEntry (fat32ToShortName name) attr n :: rest ∧
          Ends v u n [n] ∧ listing (u.slots v [n]) = [dotEntry n, dotdotEntry p]
  | [] =>
    match t.nextPick v with
    | none => r = .error errNoSpc ∧ u = t
    | some d =>
      if attr &&& attrDirectory = 0 then
        r = .ok (newEntry (fat32ToShortName name) attr) ∧ Ends v u p (cs ++ [d]) ∧
          u.slots v (cs ++ [d]) = t.slots v cs ++
            slotsFrom (withSlot v (fun _ => 0) 0 (newEntry (fat32ToShortName name) attr)) (entriesPerCluster v) 0
      else
        match (t.link (cs.getLastD 0) d).nextPick v with
        | none => r = .error errNoSpc ∧ Ends v u p (cs ++ [d]) ∧
            u.slots v (cs ++ [d]) = t.slots v cs ++ t.slots v [d]
        | some n => r = .ok (newDirEntry (fat32ToShortName name) attr n) ∧ Ends v u p (cs ++ [d]) ∧
            u.slots v (cs ++ [d]) = t.slots v cs ++ slotsFrom
              (withSlot v (fun _ => 0) 0 (newDirEntry (fat32ToShortName name) attr n)) (entriesPerCluster v) 0 ∧
            Ends v u n [n] ∧ u.slots v [n] = t.slots v [n]

section Outcome

variable {v : Volume} {t u : View} {p q d n fuel : Nat} {cs : List Nat} {name : Str} {attr : UInt8}

lemma View.Ends.invalid (hv : v.Regular) (h : Ends v t p cs) :
    ∃ q, Chained v t p cs q ∧ fat32ClusterIsValid v q ≠ true := by
  obtain ⟨q, hchain, hq⟩ := h
  refine ⟨q, hchain, fun hvalid => ?_⟩
  have hc := (hv.valid_iff_mask q).mp hvalid
  have hnot := hv.not_eof hc
  rw [fat32IsEof, clusterMask_clusterMask] at hnot
  rw [fat32IsEof, hnot] at hq
  cases hq

lemma View.Ends.length_le (hv : v.Regular) (h : Ends v t p cs) : cs.length ≤ v.totalClusters :=
  Volume.length_le_clusters (h.nodup hv) fun _ hc => h.cluster hc

lemma View.Ends.ne_of_free (h : Ends v t p cs) (hfree : t.next n = clusterFree) {x : Nat} (hx : x ∈ cs) : x ≠ n :=
  fun hxn => h.not_free hx (hxn ▸ hfree)

lemma allocate_data (t : View) (n : Nat) : (t.allocate n).data = t.data := rfl

lemma link_data (t : View) (c d : Nat) : (t.link c d).data = t.data := rfl

lemma slots_single (v : Volume) (t : View) (c : Nat) :
    t.slots v [c] = slotsFrom (t.data c) (entriesPerCluster v) 0 := by
  rw [slots_cons, View.slots, List.flatMap_nil, List.append_nil]

/-- **Creating an entry** in a slot. -/
lemma wp_create_slot (hv : v.Regular) (hrw : v.readonly = false) (hfuel : v.totalClusters + 1 ≤ fuel)
    (h : Ends v t p cs) {x : Mem} {rest : List Mem} (hfree : slotsFree (t.slots v cs) = x :: rest)
    (hstart : attr &&& attrDirectory ≠ 0 → v.Cluster (Volume.searchStart t.info.nextFreeCluster)) :
    (fat32CreateEntry v fuel p name attr).wp (fatSpec v) (CreateOutcome v t p name attr cs) t := by
  have hnodup := h.nodup hv
  have hlen := h.length_le hv
  rcases exists_firstFree v t cs with hall | ⟨front, c, back, i, rfl, hfirst⟩
  · rw [slotsFree_eq_nil.mpr hall] at hfree
    cases hfree
  have hc : v.Cluster c := h.cluster (by simp)
  have hused : t.next c ≠ clusterFree := h.not_free (by simp)
  obtain ⟨q, hchain, hq⟩ := h.invalid hv
  obtain ⟨s, hseg, hback⟩ := Seg.append.mp hchain.seg
  obtain rfl : s = c := hback.1
  have hfront : Chained v t p front s := ⟨hseg, fun y hy => hchain.clusters y (List.mem_append_left _ hy)⟩
  rw [List.length_append, List.length_cons] at hlen
  -- the parent with the entry in that slot
  have hslots : ∀ {entry : Mem} {w : View}, slice entry 0 direntSize = entry →
      w.data s = withSlot v (t.data s) i entry → (∀ y ∈ front ++ s :: back, y ≠ s → w.data y = t.data y) →
      w.slots v (front ++ s :: back) = slotsBefore (t.slots v (front ++ s :: back)) ++ entry :: rest := by
    intro entry w hslice hdata hkeep
    have hwritten := hfirst.slots_written hnodup hdata hkeep
    rwa [hslice, hfree, List.tail_cons] at hwritten
  rw [fat32CreateEntry_eq hrw, Prog.wp_bind]
  unfold CreateOutcome
  rw [hfree]
  dsimp only
  by_cases hfile : attr &&& attrDirectory = 0
  · refine Prog.wp_mono (wp_search_found hv hfront hc hfirst.used hfirst.scan (by omega)
      (wp_createInSlot_file hc hfile)) ?_
    rintro a u ⟨r, rfl, rfl, rfl⟩
    dsimp only
    rw [Prog.wp_pure, if_pos hfile]
    refine ⟨rfl, h.congr rfl, hslots slice_newEntry (setData_self t s _) fun y _ hys => setData_ne hys⟩
  · refine Prog.wp_mono (wp_search_found hv hfront hc hfirst.used hfirst.scan (by omega)
      (wp_createInSlot_dir hv hrw (by omega) hc hused hfirst.slot hfile (hstart hfile))) ?_
    rintro a u ⟨r, rfl, hru⟩
    dsimp only
    rw [Prog.wp_pure, if_neg hfile]
    cases hpick : t.nextPick v with
    | none =>
      rw [hpick] at hru
      exact hru
    | some n =>
      rw [hpick] at hru
      obtain ⟨rfl, rfl⟩ := hru
      obtain ⟨hn, hnfree⟩ := nextPick_free (hstart hfile) hpick
      have hout : ∀ y ∈ front ++ s :: back, y ≠ n := fun y hy => h.ne_of_free hnfree hy
      refine ⟨rfl, (Ends.allocate h hnfree).congr rfl, hslots (slice_newDirEntry n) ?_ fun y hy hys => ?_,
        (ends_allocated hn).congr rfl, ?_⟩
      · rw [setData_ne (hout s (by simp)), setData_self]
      · rw [setData_ne (hout y hy), setData_ne hys, allocate_data]
      · rw [slots_single, setData_self]
        exact listing_dotEntries hv n p

/-- **Creating an entry** behind the last cluster. -/
lemma wp_create_append (hv : v.Regular) (hrw : v.readonly = false) (hfuel : v.totalClusters + 1 ≤ fuel)
    (h : Ends v t p cs) (hne : cs ≠ []) (hfree : slotsFree (t.slots v cs) = [])
    (hstart : v.Cluster (Volume.searchStart t.info.nextFreeCluster))
    (hagain : attr &&& attrDirectory ≠ 0 → ∀ d, t.nextPick v = some d →
      v.Cluster (Volume.searchStart (t.link (cs.getLastD 0) d).info.nextFreeCluster)) :
    (fat32CreateEntry v fuel p name attr).wp (fatSpec v) (CreateOutcome v t p name attr cs) t := by
  have hlen := h.length_le hv
  obtain ⟨q, hchain, hq⟩ := h.invalid hv
  have hused := slotsFree_eq_nil.mp hfree
  have hlast : cs.getLastD 0 ∈ cs := by
    obtain ⟨front, l, rfl⟩ := (List.eq_nil_or_concat' cs).resolve_left hne
    rw [List.getLastD_concat]
    simp
  have hl := h.cluster hlast
  -- the parent with the new cluster behind it
  have hslots : ∀ {d : Nat} {buf : Mem} {w : View}, t.next d = clusterFree → w.data d = buf →
      (∀ y, y ≠ d → w.data y = t.data y) →
      w.slots v (cs ++ [d]) = t.slots v cs ++ slotsFrom buf (entriesPerCluster v) 0 := by
    intro d buf w hdfree hdata hkeep
    rw [slots_append, slots_single, hdata, slots_congr fun y hy => hkeep y (h.ne_of_free hdfree hy)]
  rw [fat32CreateEntry_eq hrw, Prog.wp_bind]
  unfold CreateOutcome
  rw [hfree]
  dsimp only
  refine Prog.wp_mono (wp_search_used hv hchain hq hused (by omega)) ?_
  rintro a u ⟨rfl, rfl⟩
  dsimp only
  by_cases hfile : attr &&& attrDirectory = 0
  · refine Prog.wp_mono (wp_createInNewCluster_file hv hrw (by omega) hl hfile hstart) ?_
    intro r w hrw'
    cases hpick : u.nextPick v with
    | none =>
      rw [hpick] at hrw'
      exact hrw'
    | some d =>
      rw [hpick] at hrw'
      obtain ⟨rfl, rfl⟩ := hrw'
      obtain ⟨hd, hdfree⟩ := nextPick_free hstart hpick
      dsimp only
      rw [if_pos hfile]
      exact ⟨rfl, (Ends.link hv h hne hd hdfree).congr rfl,
        hslots hdfree (setData_self _ d _) fun y hyd => (setData_ne hyd).trans (congrFun (link_data u _ d) y)⟩
  · refine Prog.wp_mono (wp_createInNewCluster_dir hv hrw (by omega) hl hfile hstart (hagain hfile)) ?_
    intro r w hrw'
    cases hpick : u.nextPick v with
    | none =>
      rw [hpick] at hrw'
      exact hrw'
    | some d =>
      rw [hpick] at hrw'
      obtain ⟨hd, hdfree⟩ := nextPick_free hstart hpick
      have hlinked := Ends.link hv h hne hd hdfree
      dsimp only at hrw' ⊢
      rw [if_neg hfile]
      cases hpick' : (u.link (cs.getLastD 0) d).nextPick v with
      | none =>
        rw [hpick'] at hrw'
        obtain ⟨rfl, rfl⟩ := hrw'
        refine ⟨rfl, hlinked, ?_⟩
        rw [slots_single]
        exact hslots hdfree rfl fun y _ => rfl
      | some n =>
        rw [hpick'] at hrw'
        obtain ⟨rfl, rfl⟩ := hrw'
        obtain ⟨hn, hnfree⟩ := nextPick_free (hagain hfile d hpick) hpick'
        have hnd : n ≠ d := (hlinked.ne_of_free hnfree (by simp)).symm
        refine ⟨rfl, (Ends.allocate hlinked hnfree).congr rfl, hslots hdfree (setData_self _ d _) fun y hyd => ?_,
          (ends_allocated hn).congr rfl, ?_⟩
        · exact setData_ne hyd
        · rw [slots_single, slots_single, setData_ne hnd]
          rfl

/-- **`fat32_create_entry`** on the tables, where its searches for free clusters start inside the volume. -/
lemma wp_fat32CreateEntry (name : Str) (attr : UInt8) (hv : v.Regular) (hrw : v.readonly = false)
    (hfuel : v.totalClusters + 1 ≤ fuel) (h : Ends v t p cs) (hne : cs ≠ [])
    (hinside : v.SearchesInside (createTakes v t attr cs) (t.freeClusters v) t.info.nextFreeCluster) :
    (fat32CreateEntry v fuel p name attr).wp (fatSpec v) (CreateOutcome v t p name attr cs) t := by
  unfold createTakes at hinside
  cases hfree : slotsFree (t.slots v cs) with
  | cons x rest =>
    rw [hfree, if_neg (List.cons_ne_nil x rest), Nat.zero_add] at hinside
    refine wp_create_slot hv hrw hfuel h hfree fun hdir => ?_
    rw [if_pos hdir] at hinside
    exact hinside.1
  | nil =>
    rw [hfree, if_pos rfl] at hinside
    refine wp_create_append hv hrw hfuel h hne hfree ((hinside.mono (Nat.le_add_right 1 _)).1) fun hdir d hpick => ?_
    rw [if_pos hdir] at hinside
    have hd := (hinside.2 d hpick).1
    have hlt := hv.lt (nextPick_free hinside.1 hpick).1
    have hhint : (t.link (cs.getLastD 0) d).info.nextFreeCluster = d + 1 :=
      Nat.mod_eq_of_lt (show d + 1 < 2 ^ 32 by omega)
    rw [hhint]
    exact hd

variable {fs' : Fat32Fs} {r : Except Int Mem}

section Right

variable (hv : v.Regular) (hfs' : Shows v fs' u) (hout : CreateOutcome v t p name attr cs r u) (h : Ends v t p cs)
  (hattr : attr &&& attrVolumeId = 0) (hsize : (t.slots v cs).length + entriesPerCluster v < 2 ^ 32)

include hv hfs' hout h hattr hsize

end Right

end Outcome

lemma dirFs_ends (slots : Mem) (n : Nat) (hnext : (dirFs slots n).view.next 2 = clusterEof) :
    Ends (dirFs slots n).vol (dirFs slots n).view 2 [2] :=
  ⟨clusterEof, (dirFs_chain slots n hnext).chained, by decide⟩

lemma rootFile_takes : createTakes rootFileFs.vol rootFileFs.view attrArchive [2] = 0 := by
  have hslots : (slotsFree (rootFileFs.view.slots rootFileFs.vol [2])).isEmpty = false := by decide
  unfold createTakes
  rw [if_neg (fun h => by rw [h] at hslots; cases hslots), if_neg (by decide)]

lemma rootFile_inside : rootFileFs.vol.SearchesInside (createTakes rootFileFs.vol rootFileFs.view attrArchive [2])
    (rootFileFs.view.freeClusters rootFileFs.vol) rootFileFs.info.nextFreeCluster := by
  rw [rootFile_takes]
  trivial

end AAAos
