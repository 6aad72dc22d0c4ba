import AAAos.Fs.Fat32.CreateListing

/-!
# Finding what was created

`fat32_create_entry` stores eleven bytes for a name: it ends the name at the last dot, leaves out the characters that
short names do not have, and cuts what is left to eight and three.  `fat32_find_entry_in_dir` compares the whole name
with the name that the eleven bytes stand for.

**What goes wrong.**  A name that is not the one its eleven bytes stand for is not found afterwards
(`create_not_found`).  So it can be created again, and there are two entries with the same eleven bytes.

**What is proved.**  Which names are the ones that their eleven bytes stand for (`nameKept_iff`), and for every directory
and every name, exactly when the new entry is found and no two entries have the same name (`create_found_iff`).
-/

namespace AAAos

open View

/-! ## Names of slots -/

/-- The eleven bytes of a name. -/
def entryName (slot : Mem) : Str := bytesAt slot 0 11

/-- The name that is given is the one that its short name stands for, but for the case of its letters. -/
def NameKept (name : Str) : Prop := fat32Strcmp83 name (newEntry (fat32ToShortName name) 0) 0 = true

instance (name : Str) : Decidable (NameKept name) := inferInstanceAs (Decidable (_ = true))

section Names

variable {buf buf' : Mem} {a a' n i : Nat} {name shortName : Str} {attr : UInt8}

lemma bytesAt_congr (h : ∀ j < n, buf (a + j) = buf' (a' + j)) : bytesAt buf a n = bytesAt buf' a' n := by
  unfold bytesAt
  exact List.map_congr_left fun j hj => h j (List.mem_range.mp hj)

lemma fat32Strcmp83_congr (h : ∀ j < 11, buf (a + j) = buf' (a' + j)) :
    fat32Strcmp83 name buf a = fat32Strcmp83 name buf' a' := by
  have hname : bytesAt buf a 8 = bytesAt buf' a' 8 := bytesAt_congr fun j hj => h j (by omega)
  have hext : bytesAt buf (a + 8) 3 = bytesAt buf' (a' + 8) 3 := bytesAt_congr fun j hj => by
    rw [Nat.add_assoc, Nat.add_assoc]
    exact h (8 + j) (by omega)
  unfold fat32Strcmp83 fat32FormatShortName
  rw [hname, hext]

lemma fat32ToShortName_length (name : Str) : (fat32ToShortName name).length = 11 := by
  unfold fat32ToShortName
  split
  · rw [List.length_append, shortPart_length, shortPart_length]
  · rw [List.length_append, shortPart_length, List.length_replicate]

lemma newDirEntry_low {j : Nat} (hj : j < 20) (m : Nat) :
    newDirEntry shortName attr m j = newEntry shortName attr j := by
  unfold newDirEntry fat32EntrySetCluster
  rw [writeLE_outside (.inl (by omega)), writeLE_outside (.inl (by omega))]

lemma newEntry_low {j : Nat} (hj : j < 11) : newEntry shortName attr j = shortName.getD j 0 := if_pos hj

lemma entryName_newEntry (h : shortName.length = 11) : entryName (newEntry shortName attr) = shortName := by
  refine List.ext_getElem? fun j => ?_
  rw [entryName, getElem?_bytesAt, Nat.zero_add]
  split_ifs with hj
  · rw [newEntry_low hj, List.getD_eq_getElem?_getD, List.getElem?_eq_getElem (by omega), Option.getD_some]
  · rw [List.getElem?_eq_none (by omega)]

lemma entryName_newDirEntry (h : shortName.length = 11) (m : Nat) :
    entryName (newDirEntry shortName attr m) = shortName := by
  have hname : entryName (newEntry shortName attr) = shortName := entryName_newEntry h
  refine (bytesAt_congr fun j hj => ?_).trans hname
  rw [Nat.zero_add, newDirEntry_low (by omega)]

lemma strcmp83_newEntry (name : Str) (attr : UInt8) :
    fat32Strcmp83 name (newEntry (fat32ToShortName name) attr) 0 = true ↔ NameKept name := by
  have hsame : fat32Strcmp83 name (newEntry (fat32ToShortName name) attr) 0 =
      fat32Strcmp83 name (newEntry (fat32ToShortName name) 0) 0 := fat32Strcmp83_congr fun j hj => by
    rw [Nat.zero_add, newEntry_low hj, newEntry_low hj]
  rw [hsame]
  rfl

lemma strcmp83_newDirEntry (name : Str) (attr : UInt8) (m : Nat) :
    fat32Strcmp83 name (newDirEntry (fat32ToShortName name) attr m) 0 = true ↔ NameKept name := by
  have hsame : fat32Strcmp83 name (newDirEntry (fat32ToShortName name) attr m) 0 =
      fat32Strcmp83 name (newEntry (fat32ToShortName name) attr) 0 := fat32Strcmp83_congr fun j hj => by
    rw [Nat.zero_add, newDirEntry_low (by omega)]
  rw [hsame, strcmp83_newEntry]

/-- The slots of a cluster, as `fat32_find_entry_in_dir` looks at them. -/
lemma findVerdict_eq (name : Str) (buf : Mem) (i : Nat) : findVerdict name buf i =
    if SlotEnd (slotAt buf i) then some .ended
    else if SlotSkipped (slotAt buf i) then none
    else if fat32Strcmp83 name (slotAt buf i) 0 then some (.found i) else none := by
  have hbyte : ∀ j < 11, buf (direntSize * i + j) = slotAt buf i (0 + j) := by
    intro j hj
    rw [slotAt, Nat.zero_add, slice_of_lt (by unfold direntSize; omega)]
  have hattr : entryAttr buf (direntSize * i) = entryAttr (slotAt buf i) 0 := by
    unfold entryAttr
    rw [slotAt, Nat.zero_add, slice_of_lt (by decide)]
  have hend : SlotEnd (slotAt buf i) ↔ buf (direntSize * i) = direntEnd := by
    unfold SlotEnd
    rw [slotAt_zero]
  have hskip : SlotSkipped (slotAt buf i) ↔ buf (direntSize * i) = direntFree ∨
      (entryAttr buf (direntSize * i) &&& attrLongNameMask = attrLongName ∨
        entryAttr buf (direntSize * i) &&& attrVolumeId ≠ 0) := by
    unfold SlotSkipped
    rw [slotAt_zero, hattr]
  unfold findVerdict
  simp only [hend, hskip]
  rw [fat32Strcmp83_congr hbyte]
  split_ifs <;> simp_all

lemma find?_listing_append (name : Str) (buf : Mem) (n i : Nat) (rest : List Mem) :
    (listing (slotsFrom buf n i ++ rest)).find? (fun slot => fat32Strcmp83 name slot 0) =
      match scanDir (findVerdict name buf) n i with
      | .found j => some (slotAt buf j)
      | .ended => none
      | .exhausted => (listing rest).find? fun slot => fat32Strcmp83 name slot 0 := by
  induction n generalizing i with
  | zero => rfl
  | succ n ih =>
    rw [slotsFrom_succ, List.cons_append, scanDir, findVerdict_eq]
    split_ifs with hend hskip hmatch
    · rw [listing_cons_end hend]
      rfl
    · rw [listing_cons_skipped hend hskip]
      exact ih (i + 1)
    · rw [listing_cons_live hend hskip]
      exact List.find?_cons_of_pos (p := fun slot => fat32Strcmp83 name slot 0) hmatch
    · rw [listing_cons_live hend hskip]
      exact (List.find?_cons_of_neg (p := fun slot => fat32Strcmp83 name slot 0) hmatch).trans (ih (i + 1))

end Names

/-! ## Short names -/

/-- At most `n` characters that a short name can have. -/
def IsShortPart (s : Str) (n : Nat) : Prop := s.length ≤ n ∧ ∀ c ∈ s, validShortChar (fat32Toupper c) = true

/-- A name of at most eight characters, or of at most eight before a dot, and one to three behind it. -/
def IsShortName (name : Str) : Prop :=
  IsShortPart name 8 ∨ ∃ base ext, name = base ++ 0x2E :: ext ∧ ext ≠ [] ∧ IsShortPart base 8 ∧ IsShortPart ext 3

/-- The characters that are kept of a part of a name. -/
def keptPart (s : Str) (n : Nat) : Str := ((s.map fat32Toupper).filter validShortChar).take n

section ShortNames

variable {name base ext s : Str} {n : Nat}

lemma shortPart_eq (s : Str) (n : Nat) :
    shortPart s n = keptPart s n ++ List.replicate (n - (keptPart s n).length) 0x20 := rfl

lemma keptPart_valid {c : UInt8} (h : c ∈ keptPart s n) : validShortChar c = true :=
  (List.mem_filter.mp (List.mem_of_mem_take h)).2

lemma validShortChar_facts {c : UInt8} (h : validShortChar c = true) :
    fat32Toupper c = c ∧ c ≠ 0x20 ∧ c ≠ 0x2E ∧ c ≠ 0 := by
  refine ⟨if_neg fun hlow => ?_, ?_, ?_, ?_⟩
  · -- a small letter is in no range, and is not listed
    obtain ⟨hle, hge⟩ := hlow
    have hnum : 97 ≤ c.toNat ∧ c.toNat ≤ 122 := ⟨hle, hge⟩
    simp only [validShortChar, Bool.or_eq_true, Bool.and_eq_true, decide_eq_true_eq, List.contains_eq_mem,
      List.mem_cons, List.not_mem_nil, or_false, UInt8.le_iff_toNat_le, ← UInt8.toNat_inj] at h
    change ((65 ≤ c.toNat ∧ c.toNat ≤ 90) ∨ (48 ≤ c.toNat ∧ c.toNat ≤ 57)) ∨ _ at h
    rcases h with (h | h) | h
    · omega
    · omega
    · rcases h with h | h | h | h | h | h | h | h | h | h | h | h | h | h | h | h <;>
        exact absurd hnum (by rw [h]; decide)
  all_goals
    rintro rfl
    exact absurd h (by decide)

lemma keptPart_upper (s : Str) (n : Nat) : (keptPart s n).map fat32Toupper = keptPart s n := by
  have hid : (keptPart s n).map fat32Toupper = (keptPart s n).map id :=
    List.map_congr_left fun c hc => (validShortChar_facts (keptPart_valid hc)).1
  rw [hid, List.map_id]

lemma keptPart_length_le (s : Str) (n : Nat) : (keptPart s n).length ≤ s.length := by
  have htake := List.length_take_le' n ((s.map fat32Toupper).filter validShortChar)
  have hfilter := List.length_filter_le validShortChar (s.map fat32Toupper)
  rw [List.length_map] at hfilter
  exact htake.trans hfilter

lemma filter_shortPart (h : IsShortPart s n) : (s.map fat32Toupper).filter validShortChar = s.map fat32Toupper := by
  refine List.filter_eq_self.mpr fun c hc => ?_
  obtain ⟨d, hd, rfl⟩ := List.mem_map.mp hc
  exact h.2 d hd

/-- Everything is kept of a part that is one of a short name, and of no other. -/
lemma keptPart_length_iff : (keptPart s n).length = s.length ↔ IsShortPart s n := by
  have hfilter := List.length_filter_le validShortChar (s.map fat32Toupper)
  rw [List.length_map] at hfilter
  unfold keptPart
  rw [List.length_take]
  constructor
  · intro hlen
    have hall : ((s.map fat32Toupper).filter validShortChar).length = (s.map fat32Toupper).length := by
      rw [List.length_map]
      omega
    exact ⟨by omega, fun c hc => List.length_filter_eq_length_iff.mp hall _ (List.mem_map_of_mem hc)⟩
  · intro h
    have hlen := h.1
    rw [filter_shortPart h, List.length_map]
    omega

lemma map_eq_keptPart_iff : s.map fat32Toupper = keptPart s n ↔ IsShortPart s n := by
  constructor
  · intro h
    rw [← keptPart_length_iff, ← h, List.length_map]
  · intro h
    rw [keptPart, filter_shortPart h, List.take_of_length_le (by rw [List.length_map]; exact h.1)]

lemma trimmed_keptPart (s : Str) (n : Nat) :
    (keptPart s n ++ List.replicate (n - (keptPart s n).length) 0x20).rdropWhile (· = 0x20) = keptPart s n := by
  have hspaces : ∀ k, (keptPart s n ++ List.replicate k 0x20).rdropWhile (· = 0x20) = keptPart s n := by
    intro k
    induction k with
    | zero =>
      rw [List.replicate_zero, List.append_nil]
      refine List.rdropWhile_eq_self_iff.mpr fun hne hspace => ?_
      exact (validShortChar_facts (keptPart_valid (List.getLast_mem hne))).2.1 (of_decide_eq_true hspace)
    | succ k ih =>
      rw [List.replicate_succ', ← List.append_assoc, List.rdropWhile_concat_pos _ _ _ (by simp), ih]
  exact hspaces _

lemma format_shortParts (base ext : Str) (attr : UInt8) :
    fat32FormatShortName (newEntry (shortPart base 8 ++ shortPart ext 3) attr) 0 =
      keptPart base 8 ++ if keptPart ext 3 = [] then [] else 0x2E :: keptPart ext 3 := by
  have hlen := shortPart_length base 8
  have hlen' := shortPart_length ext 3
  have hname : bytesAt (newEntry (shortPart base 8 ++ shortPart ext 3) attr) 0 8 = shortPart base 8 := by
    refine List.ext_getElem? fun j => ?_
    rw [getElem?_bytesAt, Nat.zero_add]
    split_ifs with hj
    · rw [newEntry_low (by omega), List.getD_eq_getElem?_getD, List.getElem?_append_left (by omega),
        List.getElem?_eq_getElem (by omega), Option.getD_some]
    · rw [List.getElem?_eq_none (by omega)]
  have hext : bytesAt (newEntry (shortPart base 8 ++ shortPart ext 3) attr) 8 3 = shortPart ext 3 := by
    refine List.ext_getElem? fun j => ?_
    rw [getElem?_bytesAt]
    split_ifs with hj
    · rw [newEntry_low (by omega), List.getD_eq_getElem?_getD, List.getElem?_append_right (by omega), hlen,
        Nat.add_sub_cancel_left, List.getElem?_eq_getElem (by omega), Option.getD_some]
    · rw [List.getElem?_eq_none (by omega)]
  unfold fat32FormatShortName
  rw [hname, Nat.zero_add, hext, shortPart_eq, shortPart_eq, trimmed_keptPart, trimmed_keptPart]
  refine List.takeWhile_eq_self_iff.mpr fun c hc => decide_eq_true ?_
  rcases List.mem_append.mp hc with hc | hc
  · exact (validShortChar_facts (keptPart_valid hc)).2.2.2
  · split_ifs at hc with hnil
    · exact absurd hc List.not_mem_nil
    · rcases List.mem_cons.mp hc with rfl | hc
      · decide
      · exact (validShortChar_facts (keptPart_valid hc)).2.2.2

lemma fat32ToShortName_split (name : Str) :
    ((0x2E : UInt8) ∉ name ∧ fat32ToShortName name = shortPart name 8 ++ shortPart [] 3) ∨
      ∃ base ext, name = base ++ 0x2E :: ext ∧ (0x2E : UInt8) ∉ ext ∧
        fat32ToShortName name = shortPart base 8 ++ shortPart ext 3 := by
  unfold fat32ToShortName
  cases hdot : (List.range name.length).reverse.find? fun i => name[i]? = some 0x2E with
  | none =>
    refine .inl ⟨fun hmem => ?_, rfl⟩
    obtain ⟨i, hi, heq⟩ := List.mem_iff_getElem.mp hmem
    have hnot := List.find?_eq_none.mp hdot i (List.mem_reverse.mpr (List.mem_range.mpr hi))
    rw [List.getElem?_eq_getElem hi, heq] at hnot
    exact hnot (decide_eq_true rfl)
  | some dot =>
    obtain ⟨hat, later, earlier, hsplit, hnone⟩ := List.find?_eq_some_iff_append.mp hdot
    obtain ⟨hlt, heq⟩ := List.getElem?_eq_some_iff.mp (of_decide_eq_true hat)
    refine .inr ⟨name.take dot, name.drop (dot + 1), ?_, fun hmem => ?_, rfl⟩
    · rw [← heq, ← List.drop_eq_getElem_cons hlt, List.take_append_drop]
    · obtain ⟨i, hi, hi'⟩ := List.mem_iff_getElem.mp hmem
      rw [List.getElem_drop] at hi'
      rw [List.length_drop] at hi
      have hsorted : (List.range name.length).reverse.Pairwise (· > ·) :=
        List.pairwise_reverse.mpr List.pairwise_lt_range
      rw [hsplit] at hsorted
      have hbelow := (List.pairwise_cons.mp (List.pairwise_append.mp hsorted).2.1).1
      have hmem' : dot + 1 + i ∈ later ++ dot :: earlier :=
        hsplit ▸ List.mem_reverse.mpr (List.mem_range.mpr (by omega))
      rcases List.mem_append.mp hmem' with hlater | hrest
      · have hnot := hnone _ hlater
        rw [List.getElem?_eq_getElem (by omega), hi'] at hnot
        exact absurd hnot (by decide)
      · rcases List.mem_cons.mp hrest with hsame | hearlier
        · omega
        · exact absurd (hbelow _ hearlier) (by omega)

lemma not_dot_mem (h : IsShortPart s n) : (0x2E : UInt8) ∉ s :=
  fun hmem => absurd (h.2 _ hmem) (by decide)

lemma split_unique {base' ext' : Str} (h : base ++ 0x2E :: ext = base' ++ 0x2E :: ext') (hext : (0x2E : UInt8) ∉ ext)
    (hext' : (0x2E : UInt8) ∉ ext') : base = base' ∧ ext = ext' := by
  rcases List.append_eq_append_iff.mp h with ⟨mid, hbase, htail⟩ | ⟨mid, hbase, htail⟩
  · cases mid with
    | nil => exact ⟨by rw [hbase, List.append_nil], (List.cons.inj htail).2⟩
    | cons c mid => exact absurd ((List.cons.inj htail).2 ▸ List.mem_append_right mid List.mem_cons_self) hext
  · cases mid with
    | nil => exact ⟨by rw [hbase, List.append_nil], (List.cons.inj htail).2.symm⟩
    | cons c mid => exact absurd ((List.cons.inj htail).2 ▸ List.mem_append_right mid List.mem_cons_self) hext'

/-- **The names that are kept.** -/
theorem nameKept_iff : NameKept name ↔ IsShortName name := by
  unfold NameKept fat32Strcmp83
  rw [beq_iff_eq]
  rcases fat32ToShortName_split name with ⟨hdot, hshort⟩ | ⟨base, ext, rfl, hdot, hshort⟩
  · rw [hshort, format_shortParts, if_pos (show keptPart [] 3 = [] from rfl), List.append_nil, keptPart_upper,
      map_eq_keptPart_iff]
    refine ⟨.inl, ?_⟩
    rintro (h | ⟨base, ext, rfl, -⟩)
    · exact h
    · exact absurd (List.mem_append_right base List.mem_cons_self) hdot
  · rw [hshort, format_shortParts]
    have hbase := keptPart_length_le base 8
    have hext := keptPart_length_le ext 3
    constructor
    · intro h
      have hlen := congrArg List.length h
      rw [List.length_map, List.length_map, List.length_append, List.length_append, List.length_cons] at hlen
      split_ifs at hlen with hnil
      · rw [List.length_nil] at hlen
        omega
      · rw [List.length_cons] at hlen
        refine .inr ⟨base, ext, rfl, fun hempty => hnil ?_, keptPart_length_iff.mp (by omega),
          keptPart_length_iff.mp (by omega)⟩
        rw [hempty]
        rfl
    · rintro (h | ⟨base', ext', hsplit, hne, hpart, hpart'⟩)
      · exact absurd (List.mem_append_right base List.mem_cons_self) (not_dot_mem h)
      · obtain ⟨rfl, rfl⟩ := split_unique hsplit hdot (not_dot_mem hpart')
        have hkept := map_eq_keptPart_iff.mpr hpart'
        have hnil : keptPart ext 3 ≠ [] := fun hempty => hne (List.map_eq_nil_iff.mp (hkept.trans hempty))
        rw [if_neg hnil, List.map_append, List.map_append, List.map_cons, List.map_cons, keptPart_upper, keptPart_upper,
          map_eq_keptPart_iff.mpr hpart, hkept]

end ShortNames

/-! ## Finding -/

section Find

variable {v : Volume} {t u : View} {p q fuel : Nat} {cs : List Nat} {name : Str} {attr : UInt8} {entry x : Mem}
  {l l' : List Mem}

/-- **`fat32_find_entry_in_dir`** finds the first entry with the name. -/
lemma wp_find_listing (hv : v.Regular) (h : Chained v t p cs q) (hq : fat32ClusterIsValid v q ≠ true) {index : Nat}
    (hfuel : cs.length < fuel) : (Prog.loop (findRound v name) fuel (p, index)).wp (fatSpec v) (fun r u =>
      u = t ∧ findAnswer ((listing (t.slots v cs)).find? fun slot => fat32Strcmp83 name slot 0) r) t := by
  induction cs generalizing p index fuel with
  | nil =>
    obtain ⟨fuel, rfl⟩ : ∃ k, fuel = k + 1 := ⟨fuel - 1, by rw [List.length_nil] at hfuel; omega⟩
    obtain rfl : p = q := h.seg
    rw [Prog.wp_loop_succ]
    unfold findRound
    rw [if_neg hq]
    exact ⟨rfl, rfl⟩
  | cons c cs ih =>
    obtain ⟨fuel, rfl⟩ : ∃ k, fuel = k + 1 := ⟨fuel - 1, by omega⟩
    obtain rfl := h.head
    rw [slots_cons, find?_listing_append, Prog.wp_loop_succ]
    unfold findRound
    dsimp only
    rw [if_pos (hv.valid h.cluster), Prog.wp_bind, FatProg.wp_readCluster]
    refine ⟨h.cluster, ?_⟩
    dsimp only
    cases scanDir (findVerdict name (t.data p)) (entriesPerCluster v) 0 with
    | found i => exact ⟨rfl, _, rfl⟩
    | ended => exact ⟨rfl, rfl⟩
    | exhausted =>
      dsimp only
      rw [Prog.wp_bind, wp_fat32NextCluster hv h.cluster, Prog.wp_pure]
      exact ih h.tail (by rw [List.length_cons] at hfuel; omega)

lemma wp_find_ends (name : Str) (hv : v.Regular) (h : Ends v t p cs) (hfuel : v.totalClusters + 1 ≤ fuel) :
    (fat32FindEntryInDir v fuel p name).wp (fatSpec v) (fun r u =>
      u = t ∧ findAnswer ((listing (t.slots v cs)).find? fun slot => fat32Strcmp83 name slot 0) r) t := by
  obtain ⟨q, hchain, hq⟩ := h.invalid hv
  have hlen := h.length_le hv
  exact wp_find_listing hv hchain hq (by omega)

/-! ## The directory afterwards -/

/-- The entries that come to light where the end mark is taken. -/
def uncovered (slots : List Mem) : List Mem :=
  match slotsFree slots with
  | x :: rest => if SlotEnd x then listing rest else []
  | [] => []

/-- The listing has the entry as well, and what was uncovered. -/
structure Inserted (old new : List Mem) (entry : Mem) : Prop where
  split : ∃ front back, listing old ++ uncovered old = front ++ back ∧ new = front ++ entry :: back ∧
    ∀ slot ∈ front, slot ∈ listing old

lemma inserted_slot {rest : List Mem} (hfree : slotsFree l = x :: rest) (hentry : SlotLive entry) :
    Inserted l (listing (slotsBefore l ++ entry :: rest)) entry := by
  obtain ⟨front, hold, hnew⟩ := listing_create hfree hentry
  refine ⟨front, listing rest, ?_, hnew, fun slot hmem => hold ▸ List.mem_append_left _ hmem⟩
  rw [hold, uncovered, hfree]
  dsimp only
  split_ifs with hend
  · rw [List.append_nil]
  · rw [List.append_nil]

lemma inserted_append (hfree : slotsFree l = []) (hlisting : listing l' = [entry]) :
    Inserted l (listing (l ++ l')) entry := by
  have hused : ∀ slot ∈ l, ¬ SlotEnd slot := fun slot hmem hslot => slotsFree_eq_nil.mp hfree slot hmem (.inl hslot)
  refine ⟨listing l, [], ?_, ?_, fun slot hmem => hmem⟩
  · rw [uncovered, hfree]
  · rw [listing_append hused, hlisting]

/-- **Creating an entry**, where it succeeds. -/
lemma inserted_of_outcome (hv : v.Regular) {r : Except Int Mem} (hout : CreateOutcome v t p name attr cs r u)
    (hattr : attr &&& attrVolumeId = 0) (hr : r = .ok entry) :
    (∃ ds, Ends v u p ds ∧ Inserted (t.slots v cs) (listing (u.slots v ds)) entry) ∧
      entryName entry = fat32ToShortName name ∧ (fat32Strcmp83 name entry 0 = true ↔ NameKept name) := by
  have hfile : SlotLive (newEntry (fat32ToShortName name) attr) := slotLive_newEntry (fat32ToShortName_head name) hattr
  have hdirectory := fun n => slotLive_newDirEntry (fat32ToShortName_head name) hattr n
  have hname : entryName (newEntry (fat32ToShortName name) attr) = fat32ToShortName name :=
    entryName_newEntry (fat32ToShortName_length name)
  have hdirName : ∀ n, entryName (newDirEntry (fat32ToShortName name) attr n) = fat32ToShortName name :=
    entryName_newDirEntry (fat32ToShortName_length name)
  unfold CreateOutcome at hout
  cases hfree : slotsFree (t.slots v cs) with
  | cons x rest =>
    rw [hfree] at hout
    dsimp only at hout
    split_ifs at hout with hattrs
    · obtain ⟨rfl, hends, hslots⟩ := hout
      obtain rfl := Except.ok.inj hr
      exact ⟨⟨cs, hends, hslots ▸ inserted_slot hfree hfile⟩, hname, strcmp83_newEntry name attr⟩
    · cases hpick : t.nextPick v with
      | none =>
        rw [hpick] at hout
        exact nomatch hout.1.symm.trans hr
      | some n =>
        rw [hpick] at hout
        obtain ⟨rfl, hends, hslots, -⟩ := hout
        obtain rfl := Except.ok.inj hr
        have hnew := inserted_slot hfree (hdirectory n)
        exact ⟨⟨cs, hends, hslots ▸ hnew⟩, hdirName n, strcmp83_newDirEntry name attr n⟩
  | nil =>
    rw [hfree] at hout
    dsimp only at hout
    cases hpick : t.nextPick v with
    | none =>
      rw [hpick] at hout
      exact nomatch hout.1.symm.trans hr
    | some d =>
      rw [hpick] at hout
      dsimp only at hout
      split_ifs at hout with hattrs
      · obtain ⟨rfl, hends, hslots⟩ := hout
        obtain rfl := Except.ok.inj hr
        have hnew := inserted_append hfree (listing_withSlot hv hfile slice_newEntry)
        exact ⟨⟨_, hends, hslots ▸ hnew⟩, hname, strcmp83_newEntry name attr⟩
      · cases hpick' : (t.link (cs.getLastD 0) d).nextPick v with
        | none =>
          rw [hpick'] at hout
          exact nomatch hout.1.symm.trans hr
        | some n =>
          rw [hpick'] at hout
          obtain ⟨rfl, hends, hslots, -⟩ := hout
          obtain rfl := Except.ok.inj hr
          have hnew := inserted_append hfree (listing_withSlot hv (hdirectory n) (slice_newDirEntry n))
          exact ⟨⟨_, hends, hslots ▸ hnew⟩, hdirName n, strcmp83_newDirEntry name attr n⟩

lemma View.Ends.unique (hv : v.Regular) {ds : List Nat} (h : Ends v t p cs) (h' : Ends v t p ds) : cs = ds := by
  induction cs generalizing p ds with
  | nil =>
    obtain ⟨q, hchain, hq⟩ := h.invalid hv
    obtain rfl : p = q := hchain.seg
    cases ds with
    | nil => rfl
    | cons d ds =>
      obtain ⟨rfl, -⟩ := h'.tail
      exact absurd (hv.valid (h'.cluster List.mem_cons_self)) hq
  | cons c cs ih =>
    obtain ⟨rfl, htail⟩ := h.tail
    cases ds with
    | nil =>
      obtain ⟨q, hchain, hq⟩ := h'.invalid hv
      obtain rfl : p = q := hchain.seg
      exact absurd (hv.valid (h.cluster List.mem_cons_self)) hq
    | cons d ds =>
      obtain ⟨rfl, htail'⟩ := h'.tail
      rw [ih htail htail']

lemma View.Ends.congr_on (h : Ends v t p cs) (hnext : ∀ c ∈ cs, u.next c = t.next c) : Ends v u p cs := by
  obtain ⟨q, hchain, hq⟩ := h
  exact ⟨q, ⟨hchain.seg.congr hnext, hchain.clusters⟩, hq⟩

variable {fs : Fat32Fs}

lemma Shows.ends (h : Shows v fs t) (hends : Ends v t p cs) :
    Ends v fs.view p cs ∧ fs.view.slots v cs = t.slots v cs := by
  exact ⟨hends.congr_on fun c hc => h.next c (hends.cluster hc), slots_congr fun c hc => h.data c (hends.cluster hc)⟩

end Find

/-- What is claimed of the driver after the entry was created: it is found, and the entries have different names. -/
structure CreatedFound (fs : Fat32Fs) (fuel p : Nat) (name : Str) (entry : Mem) : Prop where
  found : ∃ index fs', (fat32FindEntryInDir fs.vol fuel p name).run fatMachine fs = some (.ok (entry, index), fs')
  distinct : ∀ cs, Ends fs.vol fs.view p cs → ((listing (fs.view.slots fs.vol cs)).map entryName).Nodup

section Created

variable {fs fs₁ fs₂ : Fat32Fs} {p fuel : Nat} {cs : List Nat} {name : Str} {attr : UInt8} {entry : Mem}

lemma createdFound_iff (hv : fs.vol.Regular) {t u : View} (hshows : Shows fs.vol fs₂ u)
    (hnone : (listing (t.slots fs.vol cs)).find? (fun slot => fat32Strcmp83 name slot 0) = none)
    (hout : CreateOutcome fs.vol t p name attr cs (.ok entry) u) (hattr : attr &&& attrVolumeId = 0)
    (hfuel : fs.vol.totalClusters + 1 ≤ fuel) : CreatedFound fs₂ fuel p name entry ↔ NameKept name ∧
      (fat32ToShortName name :: (listing (t.slots fs.vol cs) ++ uncovered (t.slots fs.vol cs)).map entryName).Nodup := by
  obtain ⟨⟨ds, hends, ⟨front, back, hold, hnew, hfront⟩⟩, hname, hkept⟩ := inserted_of_outcome hv hout hattr rfl
  -- what is found
  obtain ⟨r, fs₃, w, hrun, -, rfl, hfound⟩ := hshows.run hv (wp_find_ends name hv hends hfuel)
  have hbefore : front.find? (fun slot => fat32Strcmp83 name slot 0) = none :=
    List.find?_eq_none.mpr fun slot hmem => List.find?_eq_none.mp hnone slot (hfront slot hmem)
  rw [hnew, List.find?_append, hbefore, Option.none_or] at hfound
  have hfinds : (∃ index fs', (fat32FindEntryInDir fs₂.vol fuel p name).run fatMachine fs₂ =
      some (.ok (entry, index), fs')) ↔ NameKept name := by
    rw [hshows.vol, hrun, ← hkept]
    by_cases hmatch : fat32Strcmp83 name entry 0 = true
    · rw [List.find?_cons_of_pos (p := fun slot => fat32Strcmp83 name slot 0) hmatch] at hfound
      obtain ⟨index, rfl⟩ := hfound
      exact iff_of_true ⟨index, fs₃, rfl⟩ hmatch
    · refine iff_of_false ?_ hmatch
      rintro ⟨index, fs', heq⟩
      obtain ⟨rfl, -⟩ := Prod.mk.inj (Option.some.inj heq)
      cases hfind : (entry :: back).find? fun slot => fat32Strcmp83 name slot 0 with
      | none =>
        rw [hfind] at hfound
        cases hfound
      | some slot =>
        rw [hfind] at hfound
        obtain ⟨index', hsame⟩ := hfound
        obtain rfl := (Prod.mk.inj (Except.ok.inj hsame)).1
        exact hmatch (List.find?_some (p := fun slot => fat32Strcmp83 name slot 0) hfind)
  -- the names
  have hnames : (∀ cs, Ends fs₂.vol fs₂.view p cs → ((listing (fs₂.view.slots fs₂.vol cs)).map entryName).Nodup) ↔
      (fat32ToShortName name :: (listing (t.slots fs.vol cs) ++ uncovered (t.slots fs.vol cs)).map entryName).Nodup := by
    obtain ⟨hends', hslots⟩ := hshows.ends hends
    have hlist : ((listing (fs₂.view.slots fs.vol ds)).map entryName).Nodup ↔
        (fat32ToShortName name :: (listing (t.slots fs.vol cs) ++ uncovered (t.slots fs.vol cs)).map entryName).Nodup := by
      rw [hslots, hnew, hold, List.map_append, List.map_append, List.map_cons, hname, List.nodup_middle]
    rw [hshows.vol, ← hlist]
    refine ⟨fun hall => hall ds hends', fun hnodup cs' hcs' => ?_⟩
    rw [hcs'.unique hv hends']
    exact hnodup
  exact ⟨fun hcreated => ⟨hfinds.mp hcreated.found, hnames.mp hcreated.distinct⟩,
    fun hright => ⟨hfinds.mpr hright.1, hnames.mpr hright.2⟩⟩

end Created

/-- **Creating a name that is not found**, for every contents of the clusters: the entry is found afterwards, and no two
entries have the same name, exactly if the name is a short name, the entries had different names, and none of those that
come to light has one of these or the new one. -/
theorem create_found_iff {fs fs₁ fs₂ : Fat32Fs} {p fuel : Nat} {cs : List Nat} {name : Str} {attr : UInt8} {entry : Mem}
    (hfs : fs.Sound) (hv : fs.vol.Regular) (h : Ends fs.vol fs.view p cs) (hne : cs ≠ [])
    (hattr : attr &&& attrVolumeId = 0) (hinside : fs.vol.SearchesInside (createTakes fs.vol fs.view attr cs) (fs.view.freeClusters fs.vol)
      fs.info.nextFreeCluster) (hfuel : fs.vol.totalClusters + 1 ≤ fuel)
    (hfind : (fat32FindEntryInDir fs.vol fuel p name).run fatMachine fs = some (.error errNoEnt, fs₁))
    (hcreate : (fat32CreateEntry fs.vol fuel p name attr).run fatMachine fs₁ = some (.ok entry, fs₂)) :
    CreatedFound fs₂ fuel p name entry ↔ IsShortName name ∧ (fat32ToShortName name ::
      (listing (fs.view.slots fs.vol cs) ++ uncovered (fs.view.slots fs.vol cs)).map entryName).Nodup := by
  obtain ⟨r, fs', u, hrun, hshows, rfl, hfound⟩ :=
    (fs.shows_view hfs).run hv (wp_find_ends name hv h hfuel)
  obtain ⟨rfl, rfl⟩ := Prod.mk.inj (Option.some.inj (hrun.symm.trans hfind))
  obtain ⟨r, fs', u, hrun', hshows', hout⟩ :=
    hshows.run hv (wp_fat32CreateEntry name attr hv hfs.writable hfuel h hne hinside)
  obtain ⟨rfl, rfl⟩ := Prod.mk.inj (Option.some.inj (hrun'.symm.trans hcreate))
  have hnone : (listing (fs.view.slots fs.vol cs)).find? (fun slot => fat32Strcmp83 name slot 0) = none := by
    cases hcase : (listing (fs.view.slots fs.vol cs)).find? fun slot => fat32Strcmp83 name slot 0 with
    | none => rfl
    | some slot =>
      rw [hcase] at hfound
      exact nomatch hfound.choose_spec
  rw [← nameKept_iff]
  exact createdFound_iff hv hshows' hnone hout hattr hfuel

lemma rootFile_creates (name : Str) (hnone : ((listing (rootFileFs.view.slots rootFileFs.vol [2])).find? fun slot =>
    fat32Strcmp83 name slot 0).isNone = true) : ∃ fs₁ fs₂ entry u,
      (fat32FindEntryInDir rootFileFs.vol 14 2 name).run fatMachine rootFileFs = some (.error errNoEnt, fs₁) ∧
      (fat32CreateEntry rootFileFs.vol 14 2 name attrArchive).run fatMachine fs₁ = some (.ok entry, fs₂) ∧
      Shows rootFileFs.vol fs₂ u ∧
      CreateOutcome rootFileFs.vol rootFileFs.view 2 name attrArchive [2] (.ok entry) u := by
  have hsound : rootFileFs.Sound := dirFs_sound fileEntryA 1
  have hv : rootFileFs.vol.Regular := Fat32Fs.tinyFs_regular
  have hends : Ends rootFileFs.vol rootFileFs.view 2 [2] := dirFs_ends fileEntryA 1 (by decide)
  have hslots : (slotsFree (rootFileFs.view.slots rootFileFs.vol [2])).isEmpty = false := by decide
  obtain ⟨r, fs₁, w, hfind, hshows, rfl, hfound⟩ :=
    (rootFileFs.shows_view hsound).run hv (wp_find_ends name hv hends (show _ ≤ 14 by decide))
  obtain ⟨r', fs₂, u, hcreate, hshows', hout⟩ := hshows.run hv (wp_fat32CreateEntry name attrArchive
    hv hsound.writable (show _ ≤ 14 by decide) hends (List.cons_ne_nil _ _) rootFile_inside)
  rw [Option.isNone_iff_eq_none.mp hnone] at hfound
  obtain rfl : r = .error errNoEnt := hfound
  obtain ⟨entry, rfl⟩ : ∃ entry, r' = .ok entry := by
    unfold CreateOutcome at hout
    cases hfree : slotsFree (rootFileFs.view.slots rootFileFs.vol [2]) with
    | nil =>
      rw [hfree] at hslots
      cases hslots
    | cons x rest =>
      rw [hfree] at hout
      dsimp only at hout
      rw [if_pos (show attrArchive &&& attrDirectory = 0 by decide)] at hout
      exact ⟨_, hout.1⟩
  exact ⟨fs₁, fs₂, entry, u, hfind, hcreate, hshows', hout⟩

/-- The name of nine characters is not found after it was created. -/
theorem create_not_found : rootFileFs.Sound ∧ rootFileFs.vol.Regular ∧ Ends rootFileFs.vol rootFileFs.view 2 [2] ∧
    ∃ fs₁ fs₂ entry,
      (fat32FindEntryInDir rootFileFs.vol 14 2 (List.replicate 9 0x41)).run fatMachine rootFileFs =
        some (.error errNoEnt, fs₁) ∧
      (fat32CreateEntry rootFileFs.vol 14 2 (List.replicate 9 0x41) attrArchive).run fatMachine fs₁ =
        some (.ok entry, fs₂) ∧
      ¬ CreatedFound fs₂ 14 2 (List.replicate 9 0x41) entry := by
  have hv : rootFileFs.vol.Regular := Fat32Fs.tinyFs_regular
  have hends : Ends rootFileFs.vol rootFileFs.view 2 [2] := dirFs_ends fileEntryA 1 (by decide)
  have hnone : ((listing (rootFileFs.view.slots rootFileFs.vol [2])).find? fun slot =>
    fat32Strcmp83 (List.replicate 9 0x41) slot 0).isNone = true := by decide
  obtain ⟨fs₁, fs₂, entry, u, hfind, hcreate, hshows, hout⟩ := rootFile_creates (List.replicate 9 0x41) hnone
  refine ⟨dirFs_sound fileEntryA 1, hv, hends, fs₁, fs₂, entry, hfind, hcreate, fun hfound => ?_⟩
  have hkept := ((createdFound_iff hv hshows (Option.isNone_iff_eq_none.mp hnone) hout (by decide)
    (show _ ≤ 14 by decide)).mp hfound).1
  exact absurd hkept (by decide)

/-- A name of one character is. -/
theorem create_found_short : ∃ fs₁ fs₂ entry,
    (fat32FindEntryInDir rootFileFs.vol 14 2 [0x42]).run fatMachine rootFileFs = some (.error errNoEnt, fs₁) ∧
    (fat32CreateEntry rootFileFs.vol 14 2 [0x42] attrArchive).run fatMachine fs₁ = some (.ok entry, fs₂) ∧
    CreatedFound fs₂ 14 2 [0x42] entry := by
  obtain ⟨fs₁, fs₂, entry, -, hfind, hcreate, -, -⟩ := rootFile_creates [0x42] (by decide)
  refine ⟨fs₁, fs₂, entry, hfind, hcreate, (create_found_iff (dirFs_sound fileEntryA 1) Fat32Fs.tinyFs_regular
    (dirFs_ends fileEntryA 1 (by decide)) (List.cons_ne_nil _ _) (by decide)
    rootFile_inside (by decide) hfind hcreate).mpr ⟨.inl ⟨by decide, fun c hc => ?_⟩, by decide⟩⟩
  rw [List.mem_singleton.mp hc]
  decide

end AAAos
