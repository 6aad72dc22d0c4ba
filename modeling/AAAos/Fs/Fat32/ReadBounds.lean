import AAAos.Fs.Fat32.Truncate

/-!
# Reading past the end of a file

`vfs_read` and `fat32_read_file` cut the length of a read at the end of the file, if the end of the range lies behind it.
The end of the range is the sum of two 64-bit numbers, and it can wrap.

**What goes wrong.**  A range whose end wraps ends before the file does, as the sum says, so nothing is cut.  `vfs_read`
passes the whole length on, and `fat32_read_file` copies the clusters of the file to the end of the chain, behind the
end of the file (`read_past_end`).

**What is proved.**  For every size, position and length, what is passed on and copied (`readRequest_le_iff`,
`wp_fat32ReadFile_cut`, `wp_fat32ReadFile_beyond`), and exactly when no byte behind the end is (`reads_within_iff`).
-/

namespace AAAos

/-! ## `vfs_read` -/

section Request

variable {σ : Type} {v : Vfs σ} {file : FileSlot} {size : UInt64}

/-- What `vfs_read` asks of the filesystem: the node and the length, if it gets that far. -/
def readRequest (v : Vfs σ) (file : FileSlot) (size : UInt64) : Option (NodeSlot × UInt64) :=
  match (v.openFiles file).node with
  | none => none
  | some node =>
    if !(v.openFiles file).inUse ∨ (v.openFiles file).flags &&& oRdwr = oWronly ∨
        (v.nodes node).info.type = .directory ∨ (v.openFiles file).offset ≥ (v.nodes node).info.size then none
    else some (node,
      if (v.openFiles file).offset + size > (v.nodes node).info.size then
        (v.nodes node).info.size - (v.openFiles file).offset
      else size)

lemma vfsRead_request (v : Vfs σ) (file : FileSlot) (size : UInt64) :
    match readRequest v file size with
    | some (node, k) => vfsRead v file size = readNode v file node k
    | none => (vfsRead v file size).2.fs = v.fs := by
  unfold readRequest vfsRead
  cases hnode : (v.openFiles file).node with
  | none =>
    dsimp only
    split_ifs <;> rfl
  | some node =>
    dsimp only
    by_cases huse : (!(v.openFiles file).inUse) = true
    · rw [if_pos huse, if_pos (.inl huse)]
      rfl
    by_cases hflags : (v.openFiles file).flags &&& oRdwr = oWronly
    · rw [if_neg huse, if_pos hflags, if_pos (.inr (.inl hflags))]
      rfl
    by_cases hdir : (v.nodes node).info.type = .directory
    · rw [if_neg huse, if_neg hflags, if_pos hdir, if_pos (.inr (.inr (.inl hdir)))]
      rfl
    by_cases hend : (v.openFiles file).offset ≥ (v.nodes node).info.size
    · rw [if_neg huse, if_neg hflags, if_neg hdir, if_pos hend, if_pos (.inr (.inr (.inr hend)))]
    · have hall := not_or.mpr ⟨huse, not_or.mpr ⟨hflags, not_or.mpr ⟨hdir, hend⟩⟩⟩
      rw [if_neg huse, if_neg hflags, if_neg hdir, if_neg hend, if_neg hall]

/-- A read of the handle reaches the filesystem. -/
def CanRead (v : Vfs σ) (file : FileSlot) (node : NodeSlot) : Prop :=
  (v.openFiles file).node = some node ∧ (v.openFiles file).inUse = true ∧
    (v.openFiles file).flags &&& oRdwr ≠ oWronly ∧ (v.nodes node).info.type ≠ .directory ∧
    (v.openFiles file).offset < (v.nodes node).info.size

lemma readRequest_isSome_iff {node : NodeSlot} :
    (∃ k, readRequest v file size = some (node, k)) ↔ CanRead v file node := by
  unfold readRequest CanRead
  cases hnode : (v.openFiles file).node with
  | none => simp
  | some n =>
    simp only [Option.some.injEq]
    constructor
    · rintro ⟨k, hk⟩
      split_ifs at hk with hguard hcut
      all_goals
        obtain ⟨rfl, -⟩ := Prod.mk.inj (Option.some.inj hk)
        obtain ⟨huse, hrest⟩ := not_or.mp hguard
        obtain ⟨hflags, hrest⟩ := not_or.mp hrest
        obtain ⟨hdir, hend⟩ := not_or.mp hrest
        exact ⟨rfl, by simpa using huse, hflags, hdir, UInt64.not_le.mp hend⟩
    · rintro ⟨rfl, huse, hflags, hdir, hoffset⟩
      rw [if_neg]
      · exact ⟨_, rfl⟩
      · rintro (h | h | h | h)
        · rw [huse] at h
          exact absurd h (by decide)
        · exact hflags h
        · exact hdir h
        · exact absurd hoffset (UInt64.not_lt.mpr h)

/-- `vfs_read` passes on no more than the rest of the file. -/
def PassesWithin (v : Vfs σ) (file : FileSlot) (size : UInt64) : Prop :=
  ∀ node k, readRequest v file size = some (node, k) →
    k.toNat ≤ (v.nodes node).info.size.toNat - (v.openFiles file).offset.toNat

/-- What is passed on stays within the file exactly if the end of the range does not wrap. -/
lemma readRequest_le_iff {node : NodeSlot} {k : UInt64} (h : readRequest v file size = some (node, k)) :
    k.toNat ≤ (v.nodes node).info.size.toNat - (v.openFiles file).offset.toNat ↔
      (v.openFiles file).offset.toNat + size.toNat < 2 ^ 64 := by
  unfold readRequest at h
  cases hnode : (v.openFiles file).node with
  | none =>
    rw [hnode] at h
    cases h
  | some n =>
    rw [hnode] at h
    dsimp only at h
    have hsum := UInt64.toNat_add (v.openFiles file).offset size
    have hfile := (v.nodes n).info.size.toNat_lt
    have hsize := size.toNat_lt
    split_ifs at h with hguard hcut
    all_goals
      obtain ⟨rfl, rfl⟩ := Prod.mk.inj (Option.some.inj h)
      have hend := (not_or.mp (not_or.mp (not_or.mp hguard).2).2).2
      have hoffset := UInt64.lt_iff_toNat_lt.mp (UInt64.not_le.mp hend)
      rw [gt_iff_lt, UInt64.lt_iff_toNat_lt] at hcut
    · rw [UInt64.toNat_sub_of_le _ _ (UInt64.le_iff_toNat_le.mpr hoffset.le)]
      omega
    · omega

lemma passesWithin_iff (v : Vfs σ) (file : FileSlot) (size : UInt64) : PassesWithin v file size ↔
    ∀ node, CanRead v file node → (v.openFiles file).offset.toNat + size.toNat < 2 ^ 64 := by
  constructor
  · intro h node hcan
    obtain ⟨k, hk⟩ := readRequest_isSome_iff.mpr hcan
    exact (readRequest_le_iff hk).mp (h node k hk)
  · intro h node k hk
    exact (readRequest_le_iff hk).mpr (h node (readRequest_isSome_iff.mp ⟨k, hk⟩))

end Request

/-! ## `fat32_read_file` -/

section Beyond

variable {v : Volume} {t : View} {p q : Nat} {cs : List Nat} {entry : Mem} {offset len : Nat}

/-- Whatever the chain, the copying ends, and goes on while there is a cluster. -/
lemma wp_readData_length (hv : v.Regular) {rounds : Nat} {acc : List UInt8} (hp : p < 2 ^ 28)
    (hoffset : offset < v.bytesPerCluster) (hnext : ∀ c, t.next c < 2 ^ 28) :
    (readData v rounds p offset len acc).wp (fatSpec v)
      (fun r _ => ∃ bytes, r = .ok bytes ∧ acc.length ≤ bytes.length ∧
        (v.Cluster p → 0 < len → 0 < rounds → acc.length < bytes.length)) t := by
  induction rounds generalizing p offset len acc with
  | zero => exact ⟨acc, rfl, le_rfl, fun _ _ h => absurd h (Nat.lt_irrefl 0)⟩
  | succ rounds ih =>
    unfold readData
    by_cases hgoes : 0 < len ∧ fat32ClusterIsValid v p = true
    · have hc := (hv.valid_iff hp).mp hgoes.2
      rw [if_pos hgoes, Prog.wp_bind, FatProg.wp_readCluster]
      refine ⟨hc, ?_⟩
      dsimp only
      rw [Prog.wp_bind, wp_fat32NextCluster hv hc]
      refine Prog.wp_mono (ih (hnext p) hv.pos) ?_
      rintro r u ⟨bytes, rfl, hle, -⟩
      rw [List.length_append, length_bytesAt] at hle
      exact ⟨bytes, rfl, by omega, fun _ _ _ => by omega⟩
    · rw [if_neg hgoes]
      refine ⟨acc, rfl, le_rfl, fun hc hlen _ => absurd ⟨hlen, hv.valid hc⟩ hgoes⟩

/-- Where the chain goes on behind `cs`, and more than `cs` holds is asked for, more is copied. -/
lemma wp_readData_beyond (hv : v.Regular) {rounds : Nat} {acc : List UInt8} (h : View.Chained v t p cs q)
    (hq : v.Cluster q) (hoffset : offset < v.bytesPerCluster) (hnext : ∀ c, t.next c < 2 ^ 28)
    (hlen : cs.length * v.bytesPerCluster < offset + len) (hpos : 0 < len) (hrounds : len ≤ rounds) :
    (readData v rounds p offset len acc).wp (fatSpec v)
      (fun r _ => ∃ bytes, r = .ok bytes ∧ acc.length + (cs.length * v.bytesPerCluster - offset) < bytes.length) t := by
  induction rounds generalizing p cs offset len acc with
  | zero => exact absurd hpos (by omega)
  | succ rounds ih =>
    cases cs with
    | nil =>
      obtain rfl : p = q := h.seg
      refine Prog.wp_mono (wp_readData_length hv (hv.lt hq) hoffset hnext) ?_
      rintro r u ⟨bytes, rfl, -, hmore⟩
      refine ⟨bytes, rfl, ?_⟩
      have hlt := hmore hq hpos (Nat.succ_pos rounds)
      rw [List.length_nil, Nat.zero_mul, Nat.zero_sub]
      exact hlt
    | cons c cs =>
      obtain rfl := h.head
      unfold readData
      rw [List.length_cons, Nat.succ_mul] at hlen
      rw [if_pos ⟨hpos, hv.valid h.cluster⟩, Prog.wp_bind, FatProg.wp_readCluster]
      refine ⟨h.cluster, ?_⟩
      dsimp only
      rw [Prog.wp_bind, wp_fat32NextCluster hv h.cluster]
      have hcopy : min (v.bytesPerCluster - offset) len = v.bytesPerCluster - offset := by omega
      rw [hcopy]
      refine Prog.wp_mono (ih h.tail hv.pos (by omega) (by omega) (by omega)) ?_
      rintro r u ⟨bytes, rfl, hmore⟩
      refine ⟨bytes, rfl, ?_⟩
      rw [List.length_append, length_bytesAt] at hmore
      rw [List.length_cons, Nat.succ_mul]
      omega

/-- **Behind the end.**  Where the end of the range wraps, and the chain goes on behind the clusters of the file, more is
copied than these hold. -/
lemma wp_fat32ReadFile_beyond (hv : v.Regular) (hfile : entryAttr entry 0 &&& attrDirectory = 0)
    (h : View.Chained v t (fat32EntryCluster entry 0) cs q) (hq : v.Cluster q) (hnext : ∀ c, t.next c < 2 ^ 28)
    (hoffset : offset < entryFileSize entry) (hfits : entryFileSize entry ≤ cs.length * v.bytesPerCluster)
    (hlong : cs.length * v.bytesPerCluster < offset + len) (hlen : len < 2 ^ 64) (hwrap : 2 ^ 64 ≤ offset + len) :
    (fat32ReadFile v entry offset len).wp (fatSpec v)
      (fun r _ => ∃ bytes, r = .ok bytes ∧ entryFileSize entry - offset < bytes.length) t := by
  have hsize := entryFileSize_lt entry
  have hpos := hv.pos
  unfold fat32ReadFile
  rw [if_neg (fun hne => hne hfile), if_neg (Nat.not_le.mpr hoffset)]
  have hcut : (if entryFileSize entry < (offset + len) % 2 ^ 64 then entryFileSize entry - offset else len) = len :=
    if_neg (by omega)
  rw [hcut]
  dsimp only
  rw [if_neg (by omega), Prog.wp_bind]
  have hskip : offset / v.bytesPerCluster < cs.length :=
    Nat.div_lt_of_lt_mul (by rw [Nat.mul_comm]; omega)
  have hsplit := Nat.div_add_mod' offset v.bytesPerCluster
  have hskip32 : u32 (offset / v.bytesPerCluster) = offset / v.bytesPerCluster :=
    Nat.mod_eq_of_lt (Nat.lt_of_le_of_lt (Nat.div_le_self _ _) (by omega))
  rw [hskip32]
  refine Prog.wp_mono (wp_readSkip hv h (.inl hskip.le)) ?_
  rintro p u ⟨rfl, hchain⟩
  have hlength : (cs.drop (offset / v.bytesPerCluster)).length * v.bytesPerCluster =
      cs.length * v.bytesPerCluster - offset / v.bytesPerCluster * v.bytesPerCluster := by
    rw [List.length_drop, Nat.sub_mul]
  refine Prog.wp_mono (wp_readData_beyond hv hchain hq (Nat.mod_lt _ hpos) hnext (by omega) (by omega) le_rfl) ?_
  rintro r u' ⟨bytes, rfl, hmore⟩
  rw [List.length_nil, Nat.zero_add, hlength] at hmore
  exact ⟨bytes, rfl, by omega⟩

end Beyond

/-! ## What a read is to give -/

/-- The bytes are of the file, and as many as were asked for if the chain holds them. -/
structure ReadsWithin (fs : Fat32Fs) (entry : Mem) (cs : List Nat) (offset len : Nat) (bytes : List UInt8) : Prop where
  within : bytes.length ≤ entryFileSize entry - offset
  content : entryFileSize entry ≤ cs.length * fs.vol.bytesPerCluster →
    bytes.length = min len (entryFileSize entry - offset) ∧
      bytes = ((fs.view.content fs.vol entry cs).drop offset).take len

/-- The read succeeds, with such bytes. -/
def Fat32Fs.ReadsRight (fs : Fat32Fs) (entry : Mem) (cs : List Nat) (offset len : Nat) : Prop :=
  ∃ bytes, fs.reads entry offset len = some (.ok bytes) ∧ ReadsWithin fs entry cs offset len bytes

section Right

variable {fs : Fat32Fs} {entry : Mem} {cs : List Nat} {p q offset len : Nat} {bytes : List UInt8}

lemma View.Chained.end_lt {v : Volume} (h : View.Chained v fs.view p cs q) (hne : cs ≠ []) : q < 2 ^ 28 := by
  obtain ⟨front, c, rfl⟩ := (List.eq_nil_or_concat' cs).resolve_left hne
  obtain ⟨s, -, rfl, hend⟩ := Seg.append.mp h.seg
  obtain rfl : fs.view.next s = q := hend
  exact Nat.mod_lt _ (by decide)

lemma readsRight_iff_of_reads (h : fs.reads entry offset len = some (.ok bytes)) :
    fs.ReadsRight entry cs offset len ↔ ReadsWithin fs entry cs offset len bytes := by
  constructor
  · rintro ⟨bytes', h', hright⟩
    obtain rfl := Except.ok.inj (Option.some.inj (h.symm.trans h'))
    exact hright
  · exact fun hright => ⟨bytes, h, hright⟩

/-- **Reading a file**, of whatever size, position and length, along whatever chain. -/
lemma readsRight_iff (hfs : fs.Sound) (hv : fs.vol.Regular) (hfile : entryAttr entry 0 &&& attrDirectory = 0)
    (h : View.Chained fs.vol fs.view (fat32EntryCluster entry 0) cs q)
    (hreach : fat32ClusterIsValid fs.vol q = false ∨ entryFileSize entry ≤ cs.length * fs.vol.bytesPerCluster)
    (hlen : len < 2 ^ 64) :
    fs.ReadsRight entry cs offset len ↔ entryFileSize entry ≤ offset ∨ offset + len < 2 ^ 64 ∨
        (fat32ClusterIsValid fs.vol q = false ∧ cs.length * fs.vol.bytesPerCluster ≤ entryFileSize entry) := by
  have hsize := entryFileSize_lt entry
  have hraw := View.length_raw fs.vol fs.view cs
  have hread : entryFileSize entry ≤ offset ∨
      offset + readCut (entryFileSize entry) offset len ≤ cs.length * fs.vol.bytesPerCluster ∨
      fat32ClusterIsValid fs.vol q = false → fs.reads entry offset len =
        some (.ok (((fs.view.raw fs.vol cs).drop offset).take (readCut (entryFileSize entry) offset len))) := by
    intro hcut
    obtain ⟨r, fs', u, hrun, -, -, rfl⟩ := (Fat32Fs.shows_view hfs).run hv (wp_fat32ReadFile_cut hv hfile h hcut)
    rw [Fat32Fs.reads, hrun]
    rfl
  by_cases hend : entryFileSize entry ≤ offset
  · -- behind the end there is nothing
    have hcut : readCut (entryFileSize entry) offset len = 0 := if_pos hend
    rw [readsRight_iff_of_reads (hread (.inl hend)), hcut, List.take_zero]
    refine ⟨fun _ => .inl hend, fun _ => ⟨Nat.zero_le _, fun hfits => ⟨?_, ?_⟩⟩⟩
    · rw [List.length_nil]
      omega
    · rw [View.content, List.drop_eq_nil_of_le (by rw [List.length_take]; omega), List.take_nil]
  by_cases hwrap : offset + len < 2 ^ 64
  · have hcut : readCut (entryFileSize entry) offset len = min (entryFileSize entry - offset) len := readCut_eq hwrap
    have hlong := hreach.symm.imp_left fun hfits =>
      show offset + readCut (entryFileSize entry) offset len ≤ cs.length * fs.vol.bytesPerCluster by rw [hcut]; omega
    rw [readsRight_iff_of_reads (hread (.inr hlong)), hcut]
    refine ⟨fun _ => .inr (.inl hwrap), fun _ => ⟨?_, fun hfits => ⟨?_, ?_⟩⟩⟩
    · rw [List.length_take]
      omega
    · rw [List.length_take, List.length_drop, hraw]
      omega
    · rw [View.content, List.drop_take, List.take_take, Nat.min_comm]
  -- the end of the range wraps: nothing is cut
  have hcut : readCut (entryFileSize entry) offset len = len := by
    unfold readCut
    rw [if_neg hend, if_neg (by omega)]
  have hrhs : (entryFileSize entry ≤ offset ∨ offset + len < 2 ^ 64 ∨
      (fat32ClusterIsValid fs.vol q = false ∧ cs.length * fs.vol.bytesPerCluster ≤ entryFileSize entry)) ↔
      fat32ClusterIsValid fs.vol q = false ∧ cs.length * fs.vol.bytesPerCluster ≤ entryFileSize entry :=
    (or_iff_right hend).trans (or_iff_right hwrap)
  rw [hrhs]
  by_cases hq : fat32ClusterIsValid fs.vol q = false
  · rw [readsRight_iff_of_reads (hread (.inr (.inr hq))), hcut]
    constructor
    · intro hright
      have hwithin := hright.within
      rw [List.length_take, List.length_drop, hraw] at hwithin
      exact ⟨hq, by omega⟩
    · rintro ⟨-, hshort⟩
      refine ⟨?_, fun hfits => ⟨?_, ?_⟩⟩
      · rw [List.length_take, List.length_drop, hraw]
        omega
      · rw [List.length_take, List.length_drop, hraw]
        omega
      · rw [View.content, List.take_of_length_le (by omega : (fs.view.raw fs.vol cs).length ≤ entryFileSize entry)]
  · have hfits := hreach.resolve_left hq
    refine ⟨fun hright => ?_, fun hcond => absurd hcond.1 hq⟩
    exfalso
    by_cases hinside : offset + len ≤ cs.length * fs.vol.bytesPerCluster
    · have hwithin := ((readsRight_iff_of_reads (hread (.inr (.inl (hcut.symm ▸ hinside))))).mp hright).within
      rw [hcut, List.length_take, List.length_drop, hraw] at hwithin
      omega
    · have hne : cs ≠ [] := by
        rintro rfl
        rw [List.length_nil, Nat.zero_mul] at hfits
        omega
      have hcluster : fs.vol.Cluster q := (hv.valid_iff (h.end_lt hne)).mp (by simpa using hq)
      obtain ⟨r, fs', u, hrun, -, bytes, rfl, hmore⟩ := (Fat32Fs.shows_view hfs).run hv
        (wp_fat32ReadFile_beyond hv hfile h hcluster (fun c => Nat.mod_lt _ (by decide)) (Nat.not_le.mp hend)
          hfits (Nat.not_le.mp hinside) hlen (Nat.not_lt.mp hwrap))
      have hreads : fs.reads entry offset len = some (.ok bytes) := by
        rw [Fat32Fs.reads, hrun]
        rfl
      have hwithin := ((readsRight_iff_of_reads hreads).mp hright).within
      omega

end Right

/-- **No byte behind the end** is passed on, or copied, exactly if the end of the range does not wrap, or the read ends
before anyway: `vfs_read` does not get to the filesystem, the position is behind the end of the file, or the chain ends
there. -/
theorem reads_within_iff {σ : Type} (v : Vfs σ) (file : FileSlot) (size : UInt64) {fs : Fat32Fs} {entry : Mem}
    {cs : List Nat} {q offset len : Nat} (hfs : fs.Sound) (hv : fs.vol.Regular)
    (hfile : entryAttr entry 0 &&& attrDirectory = 0)
    (h : View.Chained fs.vol fs.view (fat32EntryCluster entry 0) cs q)
    (hreach : fat32ClusterIsValid fs.vol q = false ∨ entryFileSize entry ≤ cs.length * fs.vol.bytesPerCluster)
    (hlen : len < 2 ^ 64) :
    (match readRequest v file size with
      | some (node, k) => vfsRead v file size = readNode v file node k
      | none => (vfsRead v file size).2.fs = v.fs) ∧
    (PassesWithin v file size ↔ ∀ node, CanRead v file node → (v.openFiles file).offset.toNat + size.toNat < 2 ^ 64) ∧
    (fs.ReadsRight entry cs offset len ↔ entryFileSize entry ≤ offset ∨ offset + len < 2 ^ 64 ∨
      (fat32ClusterIsValid fs.vol q = false ∧ cs.length * fs.vol.bytesPerCluster ≤ entryFileSize entry)) :=
  ⟨vfsRead_request v file size, passesWithin_iff v file size, readsRight_iff hfs hv hfile h hreach hlen⟩

lemma firstSlot_lt : 0 < 1024 := by decide

/-- A handle at the second byte of a file of a thousand, both in the first slot. -/
def secondByte : Vfs Unit :=
  ((vfsInit 0 ()).setFile ⟨0, firstSlot_lt⟩
    { node := some ⟨0, firstSlot_lt⟩, offset := 1, flags := oRdonly, inUse := true }).setNode ⟨0, firstSlot_lt⟩
    { info := { type := .file, size := 1000 } }

/-- The entry of a file of a thousand bytes in two clusters. -/
def thousandEntry : Mem := setEntryFileSize (fat32EntrySetCluster (fun _ => 0) 0 2) 1000

lemma thousandEntry_file : entryAttr thousandEntry 0 &&& attrDirectory = 0 ∧ entryFileSize thousandEntry = 1000 ∧
    fat32EntryCluster thousandEntry 0 = 2 := by decide

lemma thousandEntry_chained :
    View.Chained Fat32Fs.pairFs.vol Fat32Fs.pairFs.view (fat32EntryCluster thousandEntry 0) [2, 3] clusterEof := by
  rw [thousandEntry_file.2.2]
  refine ⟨⟨rfl, Fat32Fs.pairFs_next.1, Fat32Fs.pairFs_next.2⟩, fun c hc => ?_⟩
  simp only [List.mem_cons, List.not_mem_nil, or_false] at hc
  rcases hc with rfl | rfl
  · exact ⟨by decide, by decide⟩
  · exact ⟨by decide, by decide⟩

/-- Five bytes from the second on. -/
theorem reads_within_five : PassesWithin secondByte 0 5 ∧ Fat32Fs.pairFs.ReadsRight thousandEntry [2, 3] 1 5 := by
  obtain ⟨-, hvfs, hfat⟩ := reads_within_iff secondByte 0 5 Fat32Fs.pairFs_sound Fat32Fs.tinyFs_regular
    thousandEntry_file.1 thousandEntry_chained (.inl (by decide)) (by decide : 5 < 2 ^ 64)
  exact ⟨hvfs.mpr fun _ _ => by decide, hfat.mpr (.inr (.inl (by decide : 1 + 5 < 2 ^ 64)))⟩

/-- As many bytes as there can be, from the second on. -/
theorem read_past_end : ¬ PassesWithin secondByte 0 0xFFFFFFFFFFFFFFFF ∧
    ¬ Fat32Fs.pairFs.ReadsRight thousandEntry [2, 3] 1 (2 ^ 64 - 1) := by
  constructor
  · rw [passesWithin_iff]
    intro h
    have hsum := h 0 ⟨rfl, rfl, by decide, by decide, by decide⟩
    have hoffset : (secondByte.openFiles 0).offset.toNat = 1 := by decide
    have hsize : (0xFFFFFFFFFFFFFFFF : UInt64).toNat = 2 ^ 64 - 1 := rfl
    omega
  · rw [readsRight_iff Fat32Fs.pairFs_sound Fat32Fs.tinyFs_regular thousandEntry_file.1 thousandEntry_chained
      (.inl (by decide)) (by decide), thousandEntry_file.2.1]
    rintro (h | h | ⟨-, h⟩)
    · exact absurd h (by decide)
    · exact absurd h (by decide)
    · exact absurd h (by decide)

end AAAos
