import AAAos.Fs.Fat32.View
import AAAos.Lib.Blocks

/-!
# The contents of a file

On the tables a file is the data of its clusters in the order of the chain.  `fat32_read_file` gives
the bytes asked for (`wp_fat32ReadFile`, and `Shows.reads` for the driver).
-/

namespace AAAos

/-! ## Bytes of a buffer -/

@[simp] lemma length_bytesAt (buf : Mem) (a n : Nat) : (bytesAt buf a n).length = n := by
  simp [bytesAt]

lemma getElem?_bytesAt (buf : Mem) (a n j : Nat) :
    (bytesAt buf a n)[j]? = if j < n then some (buf (a + j)) else none := by
  unfold bytesAt
  rw [List.getElem?_map]
  split_ifs with hj
  · rw [List.getElem?_range hj, Option.map_some]
  · rw [List.getElem?_eq_none (by rw [List.length_range]; omega), Option.map_none]

lemma take_drop_bytesAt {buf : Mem} {n offset k : Nat} (h : offset + k ≤ n) :
    ((bytesAt buf 0 n).drop offset).take k = bytesAt buf offset k := by
  refine List.ext_getElem? fun j => ?_
  rw [getElem?_bytesAt, List.getElem?_take]
  split_ifs with hj
  · rw [List.getElem?_drop, getElem?_bytesAt, if_pos (by omega), Nat.zero_add]
  · rfl

lemma bytesAt_paste {buf : Mem} {n offset : Nat} {src : List UInt8} (h : offset + src.length ≤ n) :
    bytesAt (slice (paste buf offset src.length fun j => src.getD j 0) 0 n) 0 n =
      overwrite (bytesAt buf 0 n) offset src := by
  refine List.ext_getElem? fun j => ?_
  rw [getElem?_overwrite (by rw [length_bytesAt]; exact h), getElem?_bytesAt, getElem?_bytesAt,
    Nat.zero_add]
  by_cases hin : offset ≤ j ∧ j < offset + src.length
  · rw [if_pos hin, if_pos (by omega), slice_of_lt (by omega), Nat.zero_add, paste_inside hin,
      List.getD_eq_getElem?_getD, List.getElem?_eq_getElem (by omega), Option.getD_some]
  rw [if_neg hin]
  by_cases hj : j < n
  · rw [if_pos hj, if_pos hj, slice_of_lt hj, Nat.zero_add, paste_outside (by omega)]
  · rw [if_neg hj, if_neg hj]

/-! ## Chains on the tables -/

namespace View

variable {v : Volume} {t u : View} {c : Nat} {cs : List Nat}

/-- The data of a cluster. -/
def block (v : Volume) (t : View) (c : Nat) : List UInt8 := bytesAt (t.data c) 0 v.bytesPerCluster

@[simp] lemma length_block (v : Volume) (t : View) (c : Nat) :
    (t.block v c).length = v.bytesPerCluster := length_bytesAt _ _ _

/-- The data of clusters, one after another. -/
def raw (v : Volume) (t : View) (cs : List Nat) : List UInt8 := cs.flatMap (t.block v)

lemma raw_cons (v : Volume) (t : View) (c : Nat) (cs : List Nat) :
    t.raw v (c :: cs) = t.block v c ++ t.raw v cs := List.flatMap_cons

lemma length_raw (v : Volume) (t : View) (cs : List Nat) : (t.raw v cs).length = cs.length * v.bytesPerCluster :=
  length_flatMap_blocks (fun c => length_block v t c) cs

lemma drop_raw (v : Volume) (t : View) (cs : List Nat) (k : Nat) :
    (t.raw v cs).drop (k * v.bytesPerCluster) = t.raw v (cs.drop k) :=
  drop_flatMap_blocks (fun c => length_block v t c) cs k

lemma raw_congr (h : ∀ c ∈ cs, u.data c = t.data c) : u.raw v cs = t.raw v cs := by
  unfold raw
  refine List.flatMap_congr fun c hc => ?_
  rw [block, block, h c hc]

/-- The clusters `cs` are linked from `p` on, and belong to the volume. -/
structure Chained (v : Volume) (t : View) (p : Nat) (cs : List Nat) (q : Nat) : Prop where
  seg : Seg t.next p cs q
  clusters : ∀ c ∈ cs, v.Cluster c

namespace Chained

variable {p q : Nat}

lemma head (h : Chained v t p (c :: cs) q) : p = c := h.seg.1

lemma cluster (h : Chained v t p (c :: cs) q) : v.Cluster c := h.clusters c List.mem_cons_self

lemma tail (h : Chained v t p (c :: cs) q) : Chained v t (t.next c) cs q :=
  ⟨h.seg.2, fun d hd => h.clusters d (List.mem_cons_of_mem c hd)⟩

lemma congr (h : Chained v t p cs q) (hnext : u.next = t.next) : Chained v u p cs q :=
  ⟨hnext ▸ h.seg, h.clusters⟩

lemma nodup (hv : v.Regular) (h : Chained v t p cs q) (hq : fat32IsEof q = true) : cs.Nodup := by
  refine h.seg.nodup fun hmem => ?_
  rw [hv.not_eof (h.clusters q hmem)] at hq
  cases hq

lemma next_ne_free (h : Chained v t p cs q) (hq : fat32IsEof q = true) (hc : c ∈ cs) : t.next c ≠ clusterFree := by
  intro hfree
  obtain ⟨front, rest, rfl⟩ := List.append_of_mem hc
  obtain ⟨s, -, rfl, hback⟩ := Seg.append.mp h.seg
  cases rest with
  | nil =>
    obtain rfl : t.next s = q := hback
    rw [hfree] at hq
    exact absurd hq (by decide)
  | cons d rest =>
    obtain rfl : t.next s = d := hback.1
    have hcluster := h.clusters (t.next s) (by simp)
    rw [hfree] at hcluster
    exact absurd hcluster.1 (by decide)

end Chained

/-- The clusters `cs` are linked from `p` on, and the last of them is the end. -/
def Ends (v : Volume) (t : View) (p : Nat) (cs : List Nat) : Prop :=
  ∃ q, Chained v t p cs q ∧ fat32IsEof q = true

end View

/-! ## Reading -/

section Reading

variable {v : Volume} {t : View} {p q c : Nat} {cs : List Nat}

lemma wp_fat32NextCluster (hv : v.Regular) (hc : v.Cluster c) {Q : Nat → View → Prop} :
    (fat32NextCluster v c).wp (fatSpec v) Q t ↔ Q (t.next c) t := by
  unfold fat32NextCluster
  rw [if_pos (hv.valid hc), FatProg.wp_readFat]
  exact and_iff_right hc

lemma wp_readSkip (hv : v.Regular) {skip : Nat} (h : View.Chained v t p cs q)
    (hskip : skip ≤ cs.length ∨ fat32ClusterIsValid v q = false) :
    (readSkip v skip p).wp (fatSpec v)
      (fun r u => u = t ∧ View.Chained v t r (cs.drop skip) q) t := by
  induction skip generalizing p cs with
  | zero => exact ⟨rfl, h⟩
  | succ skip ih =>
    cases cs with
    | nil =>
      have hend := hskip.resolve_left (Nat.not_succ_le_zero skip)
      obtain rfl : p = q := h.seg
      unfold readSkip
      rw [if_neg (by rw [hend]; decide)]
      exact ⟨rfl, h⟩
    | cons c cs =>
      obtain rfl := h.head
      unfold readSkip
      rw [if_pos (hv.valid h.cluster), Prog.wp_bind, wp_fat32NextCluster hv h.cluster]
      exact ih h.tail (hskip.imp_left Nat.le_of_succ_le_succ)

lemma wp_readData (hv : v.Regular) {rounds offset len : Nat} {acc : List UInt8}
    (h : View.Chained v t p cs q) (hoffset : offset < v.bytesPerCluster)
    (hfits : offset + len ≤ cs.length * v.bytesPerCluster ∨ len = 0 ∨ fat32ClusterIsValid v q = false)
    (hrounds : len ≤ rounds) :
    (readData v rounds p offset len acc).wp (fatSpec v)
      (fun r u => u = t ∧ r = .ok (acc ++ ((t.raw v cs).drop offset).take len)) t := by
  induction rounds generalizing p cs offset len acc with
  | zero =>
    obtain rfl : len = 0 := by omega
    refine ⟨rfl, ?_⟩
    rw [List.take_zero, List.append_nil]
  | succ rounds ih =>
    unfold readData
    by_cases hlen : len = 0
    · subst hlen
      rw [if_neg (fun hpos => absurd hpos.1 (by omega))]
      refine ⟨rfl, ?_⟩
      rw [List.take_zero, List.append_nil]
    cases cs with
    | nil =>
      -- nothing is left, so the chain has ended
      have hend : fat32ClusterIsValid v q = false := by
        rcases hfits with hfits | hzero | hend
        · rw [List.length_nil, Nat.zero_mul] at hfits
          omega
        · exact absurd hzero hlen
        · exact hend
      obtain rfl : p = q := h.seg
      rw [if_neg (fun hvalid => by rw [hend] at hvalid; exact absurd hvalid.2 (by decide))]
      refine ⟨rfl, ?_⟩
      rw [View.raw, List.flatMap_nil, List.drop_nil, List.take_nil, List.append_nil]
    | cons c cs =>
      obtain rfl := h.head
      rw [List.length_cons, Nat.succ_mul] at hfits
      rw [if_pos ⟨by omega, hv.valid h.cluster⟩, Prog.wp_bind, FatProg.wp_readCluster]
      refine ⟨h.cluster, ?_⟩
      dsimp only
      rw [Prog.wp_bind, wp_fat32NextCluster hv h.cluster]
      generalize htoCopy : min (v.bytesPerCluster - offset) len = toCopy
      refine Prog.wp_mono (ih h.tail hv.pos ?_ (by omega)) ?_
      · rcases hfits with hfits | hzero | hend
        · exact .inl (by omega)
        · exact absurd hzero hlen
        · exact .inr (.inr hend)
      · rintro r u ⟨rfl, rfl⟩
        refine ⟨rfl, ?_⟩
        have hblock : ((u.block v p).drop offset).take toCopy =
            bytesAt (u.data p) offset toCopy := take_drop_bytesAt (by omega)
        have hlength : ((u.block v p).drop offset).length = v.bytesPerCluster - offset := by
          rw [List.length_drop, View.length_block]
        have htake : ((u.block v p).drop offset).take toCopy = ((u.block v p).drop offset).take len := by
          rcases Nat.le_total len (v.bytesPerCluster - offset) with hle | hle
          · rw [show toCopy = len by omega]
          · rw [List.take_of_length_le (by omega), List.take_of_length_le (by omega)]
        have hrest : len - (v.bytesPerCluster - offset) = len - toCopy := by omega
        rw [View.raw_cons, List.drop_append_of_le_length (by rw [View.length_block]; omega),
          List.take_append, hlength, ← htake, hblock, hrest, List.drop_zero, List.append_assoc]

end Reading

/-! ## Files -/

/-- The clusters `cs` hold the file of an entry, `q` behind the last one. -/
structure View.Stores (v : Volume) (t : View) (entry : Mem) (cs : List Nat) (q : Nat) : Prop where
  isFile : entryAttr entry 0 &&& attrDirectory = 0
  chained : Chained v t (fat32EntryCluster entry 0) cs q
  fits : entryFileSize entry ≤ cs.length * v.bytesPerCluster

/-- The bytes of a file. -/
def View.content (v : Volume) (t : View) (entry : Mem) (cs : List Nat) : List UInt8 :=
  (t.raw v cs).take (entryFileSize entry)

section Files

variable {v : Volume} {t u : View} {entry : Mem} {cs : List Nat} {q offset : Nat}

lemma entryFileSize_lt (entry : Mem) : entryFileSize entry < 2 ^ 32 := readLE_lt entry 28 4

/-- The length that `fat32_read_file` uses. -/
def readCut (size offset len : Nat) : Nat :=
  if size ≤ offset then 0 else if size < (offset + len) % 2 ^ 64 then size - offset else len

/-- What `fat32_read_file` gives of a chain that holds the bytes, or that ends. -/
lemma wp_fat32ReadFile_cut (hv : v.Regular) (hfile : entryAttr entry 0 &&& attrDirectory = 0)
    (h : View.Chained v t (fat32EntryCluster entry 0) cs q) {len : Nat}
    (hreach : entryFileSize entry ≤ offset ∨
      offset + readCut (entryFileSize entry) offset len ≤ cs.length * v.bytesPerCluster ∨
      fat32ClusterIsValid v q = false) :
    (fat32ReadFile v entry offset len).wp (fatSpec v)
      (fun r u => u = t ∧ r = .ok (((t.raw v cs).drop offset).take (readCut (entryFileSize entry) offset len))) t := by
  have hsize := entryFileSize_lt entry
  unfold readCut at hreach ⊢
  unfold fat32ReadFile
  rw [if_neg (fun hne => hne hfile)]
  by_cases hend : entryFileSize entry ≤ offset
  · rw [if_pos hend, if_pos hend, List.take_zero]
    exact ⟨rfl, rfl⟩
  rw [if_neg hend, if_neg hend] at *
  generalize (if entryFileSize entry < (offset + len) % 2 ^ 64 then entryFileSize entry - offset else len) = cut at *
  dsimp only
  by_cases hzero : cut = 0
  · rw [if_pos hzero, hzero, List.take_zero]
    exact ⟨rfl, rfl⟩
  rw [if_neg hzero]
  have hreach := hreach.resolve_left hend
  have hpos := hv.pos
  have hskip : offset / v.bytesPerCluster ≤ cs.length ∨ fat32ClusterIsValid v q = false :=
    hreach.imp_left fun hfits => Nat.div_le_of_le_mul (by rw [Nat.mul_comm]; omega)
  have hsplit := Nat.div_add_mod' offset v.bytesPerCluster
  have hskip32 : u32 (offset / v.bytesPerCluster) = offset / v.bytesPerCluster :=
    Nat.mod_eq_of_lt (Nat.lt_of_le_of_lt (Nat.div_le_self _ _) (by omega))
  rw [Prog.wp_bind, hskip32]
  refine Prog.wp_mono (wp_readSkip hv h hskip) ?_
  rintro p u ⟨rfl, hchain⟩
  refine Prog.wp_mono (wp_readData hv hchain (Nat.mod_lt _ hpos) ?_ (Nat.le_refl cut)) ?_
  · refine hreach.imp (fun hfits => ?_) .inr
    rw [List.length_drop, Nat.sub_mul]
    omega
  · rintro r u' ⟨rfl, rfl⟩
    refine ⟨rfl, ?_⟩
    rw [List.nil_append, ← View.drop_raw, List.drop_drop, hsplit]

/-- Where the sum does not wrap, that is the part of the range that lies in the file. -/
lemma readCut_eq {size len : Nat} (hlen : offset + len < 2 ^ 64) : readCut size offset len = min (size - offset) len := by
  unfold readCut
  rw [Nat.mod_eq_of_lt hlen]
  split_ifs
  all_goals omega

/-- `fat32_read_file` gives the bytes that there are. -/
theorem wp_fat32ReadFile (hv : v.Regular) (h : View.Stores v t entry cs q) {len : Nat}
    (hlen : offset + len < 2 ^ 64) :
    (fat32ReadFile v entry offset len).wp (fatSpec v)
      (fun r u => u = t ∧ r = .ok (((t.content v entry cs).drop offset).take len)) t := by
  have hfits := h.fits
  have hbytes : ((t.content v entry cs).drop offset).take len =
      ((t.raw v cs).drop offset).take (readCut (entryFileSize entry) offset len) := by
    rw [View.content, List.drop_take, List.take_take, readCut_eq hlen, Nat.min_comm]
  rw [hbytes]
  refine wp_fat32ReadFile_cut hv h.isFile h.chained ?_
  rw [readCut_eq hlen]
  omega

end Files

open View

/-! ## How many clusters -/

/-- The clusters that `n` bytes need. -/
def Volume.clustersFor (v : Volume) (n : Nat) : Nat := (n + v.bytesPerCluster - 1) / v.bytesPerCluster

section ClustersFor

variable {v : Volume} {newSize : Nat}

lemma clustersFor_mono {m n : Nat} (h : m ≤ n) : v.clustersFor m ≤ v.clustersFor n :=
  Nat.div_le_div_right (by omega)

lemma clustersFor_pos (hpos : 0 < v.bytesPerCluster) (h0 : 0 < newSize) : 0 < v.clustersFor newSize :=
  Nat.div_pos (by omega) hpos

lemma two_le_clustersFor (hpos : 0 < v.bytesPerCluster) (h : v.bytesPerCluster < newSize) :
    2 ≤ v.clustersFor newSize :=
  (Nat.le_div_iff_mul_le hpos).mpr (by omega)

lemma le_clustersFor_mul (hpos : 0 < v.bytesPerCluster) (n : Nat) : n ≤ v.clustersFor n * v.bytesPerCluster := by
  have hmod := Nat.div_add_mod (n + v.bytesPerCluster - 1) v.bytesPerCluster
  have hlt := Nat.mod_lt (n + v.bytesPerCluster - 1) hpos
  rw [Nat.mul_comm] at hmod
  unfold Volume.clustersFor
  omega

end ClustersFor

/-! ## The entry of a file -/

section Entry

variable (entry : Mem)

lemma entryAttr_setFileSize (n : Nat) : entryAttr (setEntryFileSize entry n) 0 = entryAttr entry 0 :=
  writeLE_outside (by omega)

lemma entryCluster_setFileSize (n : Nat) :
    fat32EntryCluster (setEntryFileSize entry n) 0 = fat32EntryCluster entry 0 := by
  unfold fat32EntryCluster setEntryFileSize
  rw [readLE_writeLE_apart (by omega), readLE_writeLE_apart (by omega)]

lemma entryFileSize_setFileSize {n : Nat} (h : n < 2 ^ 32) : entryFileSize (setEntryFileSize entry n) = n := by
  unfold entryFileSize setEntryFileSize
  rw [readLE_writeLE_self]
  omega

lemma entryAttr_setCluster (c : Nat) : entryAttr (fat32EntrySetCluster entry 0 c) 0 = entryAttr entry 0 := by
  unfold entryAttr fat32EntrySetCluster
  rw [writeLE_outside (by omega), writeLE_outside (by omega)]

lemma entryFileSize_setCluster (c : Nat) : entryFileSize (fat32EntrySetCluster entry 0 c) = entryFileSize entry := by
  unfold entryFileSize fat32EntrySetCluster
  rw [readLE_writeLE_apart (by omega), readLE_writeLE_apart (by omega)]

lemma entryCluster_setCluster {c : Nat} (h : c < 2 ^ 32) : fat32EntryCluster (fat32EntrySetCluster entry 0 c) 0 = c := by
  unfold fat32EntryCluster fat32EntrySetCluster
  rw [readLE_writeLE_apart (by omega), readLE_writeLE_self, readLE_writeLE_self]
  omega

end Entry

/-! ## Files of the driver -/

/-- The clusters of a file, to an end mark; a file without clusters has no first one. -/
def View.FileChain (v : Volume) (t : View) (entry : Mem) (cs : List Nat) : Prop :=
  if cs = [] then fat32EntryCluster entry 0 < firstDataCluster
  else Ends v t (fat32EntryCluster entry 0) cs

section FileChain

variable {v : Volume} {t u : View} {entry : Mem} {cs : List Nat}

lemma View.FileChain.ends (h : FileChain v t entry cs) (hne : cs ≠ []) : Ends v t (fat32EntryCluster entry 0) cs := by
  unfold FileChain at h
  rw [if_neg hne] at h
  exact h

lemma View.FileChain.congr (h : FileChain v t entry cs) (hnext : ∀ c ∈ cs, v.Cluster c → u.next c = t.next c) :
    FileChain v u entry cs := by
  unfold FileChain at h ⊢
  split_ifs at h ⊢ with hnone
  · exact h
  · obtain ⟨q, hchain, hq⟩ := h
    exact ⟨q, ⟨hchain.seg.congr fun x hx => hnext x hx (hchain.clusters x hx), hchain.clusters⟩, hq⟩

lemma View.FileChain.stores (h : FileChain v t entry cs) (hfile : entryAttr entry 0 &&& attrDirectory = 0)
    (hfits : entryFileSize entry ≤ cs.length * v.bytesPerCluster) : ∃ q, Stores v t entry cs q := by
  by_cases hnone : cs = []
  · subst hnone
    exact ⟨fat32EntryCluster entry 0, hfile, ⟨rfl, fun c hc => absurd hc List.not_mem_nil⟩, hfits⟩
  · obtain ⟨q, hchain, -⟩ := h.ends hnone
    exact ⟨q, hfile, hchain, hfits⟩

/-- What the driver reads from a file. -/
def Fat32Fs.reads (fs : Fat32Fs) (entry : Mem) (offset len : Nat) : Option (Except Int (List UInt8)) :=
  ((fat32ReadFile fs.vol entry offset len).run fatMachine fs).map Prod.fst

lemma Shows.reads {fs : Fat32Fs} (hv : v.Regular) (h : Shows v fs t) {q offset len : Nat}
    (hs : Stores v t entry cs q) (hlen : offset + len < 2 ^ 64) :
    fs.reads entry offset len = some (.ok (((t.content v entry cs).drop offset).take len)) := by
  obtain ⟨r, fs', u, hrun, -, -, rfl⟩ := h.run hv (wp_fat32ReadFile hv hs hlen)
  rw [Fat32Fs.reads, h.vol, hrun]
  rfl

end FileChain

/-! ## The small volume -/

lemma Fat32Fs.tinyFs_regular : tinyFs.vol.Regular where
  layout := tinyFs_layout
  apart := ⟨by decide, by decide, by decide, .inl rfl⟩
  covers := by decide
  small := by decide
  size := rfl
  info := .inl rfl

end AAAos
