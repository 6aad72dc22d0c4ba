import AAAos.Fs.Fat32.FileData

/-!
# Truncating a file

`fat32_truncate_file` counts clusters from one, and keeps the one before in `prev_cluster`: it ends the chain at
`prev_cluster`, and frees from the cluster that it counted on.

**What goes wrong.**  The cluster counted is the last one that is needed, so it is freed (`truncate_frees_data`).  Where
one cluster is needed, there is none before it, and nothing is freed.

**What is proved.**  On the tables, what the routine does to the FAT (`wp_truncate_all`,
`wp_truncate_keep`, `wp_truncate_cut`).  On the driver, that the
file keeps as many clusters as its new size needs, exactly if it loses all of them or there is none to lose
(`truncates_iff`).
-/

namespace AAAos

/-! ## Freeing a chain -/

namespace View

variable {v : Volume} {t u : View} {p q c : Nat} {cs : List Nat}

/-- The clusters are free. -/
def cleared (t : View) (cs : List Nat) : View := cs.foldl (fun t c => t.setNext c clusterFree) t

lemma cleared_next (t : View) (cs : List Nat) (c : Nat) :
    (t.cleared cs).next c = if c ∈ cs then clusterFree else t.next c := by
  induction cs generalizing t with
  | nil => rfl
  | cons d cs ih =>
    rw [cleared, List.foldl_cons, ← cleared, ih]
    by_cases hmem : c ∈ cs
    · rw [if_pos hmem, if_pos (List.mem_cons_of_mem d hmem)]
    · rw [if_neg hmem]
      by_cases hcd : c = d
      · subst hcd
        rw [if_pos List.mem_cons_self]
        exact Function.update_self c (clusterMask clusterFree) t.next
      · rw [if_neg (fun h => (List.mem_cons.mp h).elim hcd hmem)]
        exact Function.update_of_ne hcd (clusterMask clusterFree) t.next

@[simp] lemma cleared_data (t : View) (cs : List Nat) : (t.cleared cs).data = t.data := by
  induction cs generalizing t with
  | nil => rfl
  | cons d cs ih =>
    rw [cleared, List.foldl_cons, ← cleared, ih]
    rfl

@[simp] lemma cleared_info (t : View) (cs : List Nat) : (t.cleared cs).info = t.info := by
  induction cs generalizing t with
  | nil => rfl
  | cons d cs ih =>
    rw [cleared, List.foldl_cons, ← cleared, ih]
    rfl

end View

open View

section Freeing

variable {v : Volume} {t : View} {p q : Nat} {cs : List Nat}

lemma wp_freeChainLoop (hv : v.Regular) (h : Chained v t p cs q) (hq : fat32IsEof q = true) (hne : cs ≠ [])
    (hnodup : cs.Nodup) {fuel count : Nat} (hfuel : cs.length ≤ fuel) :
    (Prog.loop (fun (s : Nat × Nat) =>
      if fat32ClusterIsValid v s.1 then do
        let next ← FatProg.readFat s.1
        let result ← FatProg.writeFat s.1 clusterFree
        if result ≠ 0 then pure (.inr (.error result))
        else pure (if fat32IsEof next then .inr (.ok (s.2 + 1)) else .inl (next, s.2 + 1))
      else pure (.inr (.ok s.2))) fuel (p, count) : FatProg (Except Int Nat)).wp (fatSpec v)
      (fun r u => r = .ok (count + cs.length) ∧ u = t.cleared cs) t := by
  induction cs generalizing t p fuel count with
  | nil => exact absurd rfl hne
  | cons c cs ih =>
    obtain rfl := h.head
    obtain ⟨hfresh, hnodup'⟩ := List.nodup_cons.mp hnodup
    obtain ⟨fuel, rfl⟩ := Nat.exists_eq_succ_of_ne_zero
      (by rw [List.length_cons] at hfuel; omega : fuel ≠ 0)
    rw [Prog.wp_loop_succ]
    dsimp only
    rw [if_pos (hv.valid h.cluster), Prog.wp_bind, FatProg.wp_readFat]
    refine ⟨h.cluster, ?_⟩
    rw [Prog.wp_bind, FatProg.wp_writeFat]
    refine ⟨h.cluster, ?_⟩
    rw [if_neg (by decide), Prog.wp_pure]
    cases cs with
    | nil =>
      have hend : t.next p = q := h.tail.seg
      rw [hend, if_pos hq]
      exact ⟨rfl, rfl⟩
    | cons d cs =>
      obtain hhead := h.tail.head
      have hcluster := h.tail.cluster
      rw [hhead, if_neg (by rw [hv.not_eof hcluster]; decide)]
      have hrest : Chained v (t.setNext p clusterFree) d (d :: cs) q := by
        refine ⟨?_, h.tail.clusters⟩
        refine (hhead ▸ h.tail.seg).congr fun x hx => ?_
        exact Function.update_of_ne (fun hxp : x = p => hfresh (hxp ▸ hx)) _ _
      refine Prog.wp_mono (ih hrest (List.cons_ne_nil _ _) hnodup' (Nat.le_of_succ_le_succ hfuel)) ?_
      rintro r u ⟨rfl, rfl⟩
      refine ⟨congrArg Except.ok ?_, rfl⟩
      simp only [List.length_cons]
      omega

/-- The count of free clusters after `n` more. -/
def freedInfo (info : FsInfo) (n : Nat) : FsInfo :=
  { info with
    freeClusters := if info.freeClusters ≠ freeUnknown then u32 (info.freeClusters + n) else info.freeClusters
    dirty := true }

/-- **A chain is freed.** -/
lemma wp_fat32FreeChain (hv : v.Regular) (hrw : v.readonly = false) (h : Chained v t p cs q)
    (hq : fat32IsEof q = true) (hne : cs ≠ []) (hnodup : cs.Nodup) {fuel : Nat} (hfuel : cs.length ≤ fuel) :
    (fat32FreeChain v fuel p).wp (fatSpec v)
      (fun r u => r = 0 ∧ u = { t.cleared cs with info := freedInfo t.info cs.length }) t := by
  unfold fat32FreeChain freeChainLoop
  rw [if_neg (by simp [hrw]), Prog.wp_bind]
  refine Prog.wp_mono (wp_freeChainLoop hv h hq hne hnodup hfuel) ?_
  rintro r u ⟨rfl, rfl⟩
  rw [Nat.zero_add]
  refine ⟨trivial, ?_⟩
  rintro info w ⟨rfl, rfl⟩
  refine ⟨trivial, ?_⟩
  rintro - w rfl
  rw [cleared_info]
  exact ⟨rfl, rfl⟩

end Freeing

/-! ## What the routine does -/

section Truncating

variable {v : Volume} {t : View} {p q c d prev : Nat} {cs front rest : List Nat} {entry : Mem} {newSize fuel : Nat}

/-- How often the loop goes round. -/
def truncateRounds (v : Volume) (newSize : Nat) : Nat :=
  u32 (newSize + v.bytesPerCluster + 2 ^ 32 - 1) / v.bytesPerCluster - 1

/-- The sum runs over 32 bits where it would count all clusters that there can be. -/
lemma truncateRounds_eq_zero (hpos : 0 < v.bytesPerCluster) (h0 : 0 < newSize) (h32 : newSize < 2 ^ 32)
    (h : newSize ≤ v.bytesPerCluster ∨ 2 ^ 32 < newSize + v.bytesPerCluster) : truncateRounds v newSize = 0 := by
  have hsum : newSize + v.bytesPerCluster + 2 ^ 32 - 1 = newSize + v.bytesPerCluster - 1 + 2 ^ 32 := by omega
  have hquot : u32 (newSize + v.bytesPerCluster + 2 ^ 32 - 1) / v.bytesPerCluster < 2 := by
    refine Nat.div_lt_of_lt_mul ?_
    rw [u32, hsum, Nat.add_mod_right]
    rcases h with hsmall | hwraps
    · exact lt_of_le_of_lt (Nat.mod_le _ _) (by omega)
    · rcases Nat.lt_or_ge newSize v.bytesPerCluster with hlt | hge
      · exact lt_of_le_of_lt (Nat.mod_le _ _) (by omega)
      · have hwrapped : (newSize + v.bytesPerCluster - 1) % 2 ^ 32 ≤ newSize + v.bytesPerCluster - 1 - 2 ^ 32 := by
          rw [Nat.mod_eq_sub_mod (by omega)]
          exact Nat.mod_le _ _
        omega
  unfold truncateRounds
  omega

lemma truncateRounds_eq (hpos : 0 < v.bytesPerCluster) (h0 : 0 < newSize)
    (h32 : newSize + v.bytesPerCluster ≤ 2 ^ 32) :
    truncateRounds v newSize = v.clustersFor newSize - 1 := by
  have hsum : newSize + v.bytesPerCluster + 2 ^ 32 - 1 = newSize + v.bytesPerCluster - 1 + 2 ^ 32 := by omega
  rw [truncateRounds, u32, hsum, Nat.add_mod_right, Nat.mod_eq_of_lt (by omega), Volume.clustersFor]

lemma wp_truncateSkip (hv : v.Regular) (h : Chained v t p (front ++ c :: rest) q) :
    (truncateSkip v front.length p prev).wp (fatSpec v)
      (fun r u => r = (c, front.getLast?.getD prev) ∧ u = t) t := by
  induction front generalizing p prev with
  | nil =>
    obtain rfl := h.head
    exact ⟨rfl, rfl⟩
  | cons d front ih =>
    obtain rfl := h.head
    rw [List.length_cons]
    unfold truncateSkip
    rw [if_pos (hv.valid h.cluster), Prog.wp_bind, wp_fat32NextCluster hv h.cluster]
    refine Prog.wp_mono (ih h.tail) ?_
    rintro r u ⟨rfl, rfl⟩
    refine ⟨congrArg (Prod.mk c) ?_, rfl⟩
    cases hlast : front.getLast? with
    | none =>
      obtain rfl := List.getLast?_eq_none_iff.mp hlast
      rfl
    | some e => rw [List.getLast?_cons, hlast]; rfl

lemma wp_truncate_all (hv : v.Regular) (hrw : v.readonly = false)
    (h : Chained v t (fat32EntryCluster entry 0) cs q) (hq : fat32IsEof q = true) (hne : cs ≠ [])
    (hnodup : cs.Nodup) (hsize : 0 < entryFileSize entry) (hfuel : cs.length ≤ fuel) :
    (fat32TruncateFile v fuel entry 0).wp (fatSpec v)
      (fun r u => r = (0, setEntryFileSize (fat32EntrySetCluster entry 0 0) 0) ∧
        u = { t.cleared cs with info := freedInfo t.info cs.length }) t := by
  have hfirst : firstDataCluster ≤ fat32EntryCluster entry 0 := by
    obtain ⟨c, cs, rfl⟩ := List.exists_cons_of_ne_nil hne
    rw [h.head]
    exact h.cluster.1
  unfold fat32TruncateFile
  rw [if_neg (by simp [hrw]), if_neg (by omega)]
  dsimp only
  rw [if_pos rfl, if_pos hfirst, Prog.wp_bind]
  refine Prog.wp_mono (wp_fat32FreeChain hv hrw h hq hne hnodup hfuel) ?_
  rintro r u ⟨rfl, rfl⟩
  exact ⟨rfl, rfl⟩

lemma wp_truncate_keep (hrw : v.readonly = false)
    (hne : newSize ≠ 0) (hless : newSize < entryFileSize entry) (hrounds : truncateRounds v newSize = 0) :
    (fat32TruncateFile v fuel entry newSize).wp (fatSpec v)
      (fun r u => r = (0, setEntryFileSize entry newSize) ∧ u = t) t := by
  unfold fat32TruncateFile
  rw [if_neg (by simp [hrw]), if_neg (by omega)]
  dsimp only
  rw [if_neg hne, if_pos hless, show u32 (newSize + v.bytesPerCluster + 2 ^ 32 - 1) / v.bytesPerCluster - 1 = 0
    from hrounds]
  exact ⟨rfl, rfl⟩

/-- The loop goes round: the cluster it stops at is freed with those behind it. -/
lemma wp_truncate_cut (hv : v.Regular) (hrw : v.readonly = false) {front : List Nat}
    (h : Chained v t (fat32EntryCluster entry 0) (front ++ d :: c :: rest) q) (hq : fat32IsEof q = true)
    (hnodup : (front ++ d :: c :: rest).Nodup) (hne : newSize ≠ 0) (hless : newSize < entryFileSize entry)
    (hrounds : truncateRounds v newSize = front.length + 1) (hfuel : rest.length + 1 ≤ fuel) :
    (fat32TruncateFile v fuel entry newSize).wp (fatSpec v)
      (fun r u => r = (0, setEntryFileSize entry newSize) ∧
        u = { (t.setNext d clusterEof).cleared (c :: rest) with
          info := freedInfo t.info (rest.length + 1) }) t := by
  have hsplit : front ++ d :: c :: rest = (front ++ [d]) ++ c :: rest := by simp
  rw [hsplit] at h hnodup
  have hd : v.Cluster d := h.clusters d (by simp)
  have hc : v.Cluster c := h.clusters c (by simp)
  obtain ⟨-, hnodup', hdisjoint⟩ := List.nodup_append.mp hnodup
  unfold fat32TruncateFile
  rw [if_neg (by simp [hrw]), if_neg (by omega)]
  dsimp only
  rw [if_neg hne, if_pos hless, show u32 (newSize + v.bytesPerCluster + 2 ^ 32 - 1) / v.bytesPerCluster - 1 =
    (front ++ [d]).length by rw [List.length_append]; exact hrounds, Prog.wp_bind]
  refine Prog.wp_mono (wp_truncateSkip hv h) ?_
  rintro r u ⟨rfl, rfl⟩
  dsimp only
  rw [List.getLast?_append, List.getLast?_singleton]
  have hprev : d ≠ 0 := fun hzero => absurd hd.1 (by rw [hzero]; decide)
  rw [if_pos ⟨hprev, hv.valid hc⟩, Prog.wp_bind]
  unfold fat32SetCluster
  rw [FatProg.wp_writeFat]
  refine ⟨hd, ?_⟩
  have hrest : Chained v (u.setNext d clusterEof) c (c :: rest) q := by
    obtain ⟨s, -, hs⟩ := Seg.append.mp h.seg
    obtain rfl := hs.1
    refine ⟨hs.congr fun x hx => ?_, fun x hx => h.clusters x (List.mem_append_right _ hx)⟩
    exact Function.update_of_ne (fun hxd => hdisjoint d (by simp) x hx hxd.symm) _ _
  rw [Prog.wp_bind]
  refine Prog.wp_mono (wp_fat32FreeChain hv hrw hrest hq (List.cons_ne_nil _ _) hnodup' hfuel) ?_
  rintro r w ⟨rfl, rfl⟩
  exact ⟨rfl, rfl⟩

end Truncating

/-! ## Truncation -/

namespace Fat32Fs

variable {fs fs' : Fat32Fs} {entry entry' : Mem} {cs : List Nat} {newSize fuel : Nat}

/-- **What truncation should do** to a file with the clusters `cs`. -/
structure Truncates (fs fs' : Fat32Fs) (entry entry' : Mem) (cs : List Nat) (newSize : Nat) : Prop where
  chain : ∃ kept, kept <+: cs ∧ kept.length = fs.vol.clustersFor newSize ∧ View.FileChain fs.vol fs'.view entry' kept
  free : ∀ c, fs.vol.Cluster c → (fs'.view.next c = clusterFree ↔
    fs.view.next c = clusterFree ∨ c ∈ cs.drop (fs.vol.clustersFor newSize))
  others : ∀ c, fs.vol.Cluster c → c ∉ cs → fs'.view.next c = fs.view.next c
  count : fs.info.freeClusters ≠ freeUnknown → u32 fs'.info.freeClusters =
    u32 (fs.info.freeClusters + (cs.length - fs.vol.clustersFor newSize))
  reads : ∀ offset len, offset + len ≤ newSize → fs'.reads entry' offset len = fs.reads entry offset len

/-- All clusters go, or there is none to go. -/
def NoneCut (v : Volume) (size newSize : Nat) : Prop :=
  newSize = 0 ∨ v.clustersFor newSize = v.clustersFor size ∧
    (newSize ≤ v.bytesPerCluster ∨ 2 ^ 32 < newSize + v.bytesPerCluster)

lemma reads_prefix (hv : fs.vol.Regular) (hfs : fs.Sound) {u : View} (hu : Shows fs.vol fs' u) {kept : List Nat}
    (hfile : entryAttr entry 0 &&& attrDirectory = 0) (hfile' : entryAttr entry' 0 &&& attrDirectory = 0)
    (hchain : View.FileChain fs.vol fs.view entry cs) (hchain' : View.FileChain fs.vol u entry' kept)
    (hkept : kept <+: cs) (hdata : u.data = fs.view.data)
    (hfits : entryFileSize entry ≤ cs.length * fs.vol.bytesPerCluster) (hsize' : entryFileSize entry' = newSize)
    (hfits' : newSize ≤ kept.length * fs.vol.bytesPerCluster) (hless : newSize ≤ entryFileSize entry)
    {offset len : Nat} (hlen : offset + len ≤ newSize) :
    fs'.reads entry' offset len = fs.reads entry offset len := by
  have hsize := entryFileSize_lt entry
  obtain ⟨q, hstores⟩ := hchain.stores hfile hfits
  obtain ⟨q', hstores'⟩ := hchain'.stores hfile' (hsize' ▸ hfits')
  rw [hu.reads hv hstores' (by omega), (shows_view hfs).reads hv hstores (by omega)]
  obtain ⟨rest, rfl⟩ := hkept
  have hsame : u.raw fs.vol kept = fs.view.raw fs.vol kept := raw_congr fun c _ => by rw [hdata]
  have happend : fs.view.raw fs.vol (kept ++ rest) = fs.view.raw fs.vol kept ++ fs.view.raw fs.vol rest :=
    List.flatMap_append
  have hraw := View.length_raw fs.vol fs.view kept
  have hcut : ∀ n, newSize ≤ n → ((fs.view.raw fs.vol (kept ++ rest)).take n).take newSize =
      (fs.view.raw fs.vol kept).take newSize := by
    intro n hn
    rw [List.take_take, Nat.min_eq_left hn, happend, List.take_append_of_le_length (by omega)]
  have hwindow : ∀ l : List UInt8, (l.drop offset).take len = ((l.take newSize).drop offset).take len := by
    intro l
    rw [List.drop_take, List.take_take, Nat.min_eq_left (by omega)]
  rw [View.content, View.content, hsize', hsame, hwindow ((fs.view.raw fs.vol (kept ++ rest)).take _), hcut _ hless]

section Cases

variable (hfs : fs.Sound) (hv : fs.vol.Regular) (hfile : entryAttr entry 0 &&& attrDirectory = 0)
  (hchain : View.FileChain fs.vol fs.view entry cs) (hlen : cs.length = fs.vol.clustersFor (entryFileSize entry))
  (hless : newSize < entryFileSize entry)
include hfs hv hfile hchain hlen hless

lemma truncates_all (hzero : newSize = 0)
    (hu : Shows fs.vol fs' { fs.view.cleared cs with info := freedInfo fs.info cs.length }) :
    Truncates fs fs' entry (setEntryFileSize (fat32EntrySetCluster entry 0 0) 0) cs newSize := by
  subst hzero
  have hnone : fs.vol.clustersFor 0 = 0 := Nat.div_eq_of_lt (by have := hv.pos; omega)
  have hchain' : View.FileChain fs.vol { fs.view.cleared cs with info := freedInfo fs.info cs.length }
      (setEntryFileSize (fat32EntrySetCluster entry 0 0) 0) [] := by
    unfold View.FileChain
    rw [if_pos rfl, entryCluster_setFileSize, entryCluster_setCluster entry (by decide)]
    decide
  refine ⟨⟨[], List.nil_prefix, hnone.symm, hchain'.congr fun c _ => hu.next c⟩, fun c hc => ?_, fun c hc hmem => ?_, ?_, ?_⟩
  · rw [hu.next c hc, cleared_next, hnone, List.drop_zero]
    split_ifs with hmem
    · exact ⟨fun _ => .inr hmem, fun _ => rfl⟩
    · exact ⟨.inl, fun h => h.resolve_right hmem⟩
  · rw [hu.next c hc, cleared_next, if_neg hmem]
  · intro hknown
    rw [hu.info, hnone, Nat.sub_zero]
    show u32 (if _ then _ else _) = _
    rw [if_pos hknown]
    exact Nat.mod_mod _ _
  · intro offset len hwithin
    refine reads_prefix hv hfs hu hfile ?_ hchain hchain' List.nil_prefix (cleared_data _ _) ?_ ?_ (Nat.zero_le _)
      (Nat.zero_le _) hwithin
    · rw [entryAttr_setFileSize, entryAttr_setCluster]
      exact hfile
    · rw [hlen]
      exact le_clustersFor_mul hv.pos _
    · exact entryFileSize_setFileSize _ (by decide)

lemma truncates_keep (hu : Shows fs.vol fs' fs.view)
    (hsame : fs.vol.clustersFor newSize = fs.vol.clustersFor (entryFileSize entry)) :
    Truncates fs fs' entry (setEntryFileSize entry newSize) cs newSize := by
  have hsize := entryFileSize_lt entry
  have hall : fs.vol.clustersFor newSize = cs.length := hsame.trans hlen.symm
  have hchain' : View.FileChain fs.vol fs.view (setEntryFileSize entry newSize) cs := by
    unfold View.FileChain at hchain ⊢
    rw [entryCluster_setFileSize]
    exact hchain
  refine ⟨⟨cs, List.prefix_rfl, hall.symm, hchain'.congr fun c _ => hu.next c⟩, fun c hc => ?_, fun c hc _ => hu.next c hc, ?_, ?_⟩
  · rw [hu.next c hc, hall, List.drop_length]
    exact ⟨.inl, fun h => h.resolve_right List.not_mem_nil⟩
  · intro _
    rw [hu.info, hall, Nat.sub_self, Nat.add_zero]
    rfl
  · intro offset len hwithin
    refine reads_prefix hv hfs hu hfile ?_ hchain hchain' List.prefix_rfl rfl ?_ ?_ ?_ hless.le hwithin
    · rw [entryAttr_setFileSize]
      exact hfile
    · rw [hlen]
      exact le_clustersFor_mul hv.pos _
    · exact entryFileSize_setFileSize _ (hless.trans hsize)
    · rw [← hall]
      exact le_clustersFor_mul hv.pos _

omit hfs hv hfile hless in
lemma not_truncates_keep {entry' : Mem} (hu : Shows fs.vol fs' fs.view)
    (hfewer : fs.vol.clustersFor newSize < fs.vol.clustersFor (entryFileSize entry)) :
    ¬ Truncates fs fs' entry entry' cs newSize := by
  intro htruncates
  have hin : fs.vol.clustersFor newSize < cs.length := hlen ▸ hfewer
  obtain ⟨q, hchained, hq⟩ := hchain.ends (List.ne_nil_of_length_pos (by omega))
  have hmem : cs[fs.vol.clustersFor newSize] ∈ cs := List.getElem_mem hin
  have hdrop : cs[fs.vol.clustersFor newSize] ∈ cs.drop (fs.vol.clustersFor newSize) := by
    rw [List.drop_eq_getElem_cons hin]
    exact List.mem_cons_self
  have hfreed := (htruncates.free _ (hchained.clusters _ hmem)).mpr (.inr hdrop)
  rw [hu.next _ (hchained.clusters _ hmem)] at hfreed
  exact hchained.next_ne_free hq hmem hfreed

omit hfs hfile hlen hless in
lemma not_truncates_cut {entry' : Mem} {u : View} {front rest : List Nat} {d c : Nat}
    (hsplit : cs = front ++ d :: c :: rest) (hu : Shows fs.vol fs' u) (hfreed : u.next c = clusterFree)
    (hneeds : fs.vol.clustersFor newSize = front.length + 2) :
    ¬ Truncates fs fs' entry entry' cs newSize := by
  intro htruncates
  subst hsplit
  obtain ⟨q, hchained, hq⟩ := hchain.ends (by simp)
  have hmem : c ∈ front ++ d :: c :: rest := by simp
  have hfree := (htruncates.free c (hchained.clusters c hmem)).mp ((hu.next c (hchained.clusters c hmem)).trans hfreed)
  rcases hfree with hbefore | hdrop
  · exact hchained.next_ne_free hq hmem hbefore
  · have hnodup := hchained.nodup hv hq
    rw [show front ++ d :: c :: rest = (front ++ [d, c]) ++ rest by simp] at hnodup hdrop
    rw [hneeds, List.drop_left' (by simp)] at hdrop
    exact (List.nodup_append.mp hnodup).2.2 c (by simp) c hdrop rfl

end Cases

/-- **Truncation.**  A file is cut to the clusters that its new size needs exactly if it needs none, or all of them. -/
theorem truncates_iff (hfs : fs.Sound) (hv : fs.vol.Regular) (hfile : entryAttr entry 0 &&& attrDirectory = 0)
    (hchain : View.FileChain fs.vol fs.view entry cs)
    (hlen : cs.length = fs.vol.clustersFor (entryFileSize entry)) (hless : newSize < entryFileSize entry)
    (hfuel : cs.length ≤ fuel) :
    ∃ ret entry' fs', (fat32TruncateFile fs.vol fuel entry newSize).run fatMachine fs = some ((ret, entry'), fs') ∧
      (Truncates fs fs' entry entry' cs newSize ↔ NoneCut fs.vol (entryFileSize entry) newSize) := by
  have hsize := entryFileSize_lt entry
  have hmono := clustersFor_mono (v := fs.vol) hless.le
  have hne : cs ≠ [] :=
    List.ne_nil_of_length_pos (hlen ▸ clustersFor_pos hv.pos (by omega))
  obtain ⟨q, hchained, hq⟩ := hchain.ends hne
  have hnodup := hchained.nodup hv hq
  rcases Nat.eq_zero_or_pos newSize with rfl | hpos
  · obtain ⟨r, fs', u, hrun, hu, rfl, rfl⟩ := (shows_view hfs).run hv
      (wp_truncate_all hv hfs.writable hchained hq hne hnodup (by omega) hfuel)
    exact ⟨_, _, fs', hrun, fun _ => .inl rfl, fun _ => truncates_all hfs hv hfile hchain hlen hless rfl hu⟩
  · by_cases hsmall : newSize ≤ fs.vol.bytesPerCluster ∨ 2 ^ 32 < newSize + fs.vol.bytesPerCluster
    · obtain ⟨r, fs', u, hrun, hu, rfl, rfl⟩ := (shows_view hfs).run hv
        (wp_truncate_keep hfs.writable hpos.ne' hless
          (truncateRounds_eq_zero hv.pos hpos (hless.trans hsize) hsmall))
      refine ⟨_, _, fs', hrun, fun htruncates => .inr ⟨?_, hsmall⟩, fun hnone => ?_⟩
      · refine hmono.antisymm (Nat.le_of_not_lt fun hfewer => ?_)
        exact not_truncates_keep hchain hlen hu hfewer htruncates
      · exact truncates_keep hfs hv hfile hchain hlen hless hu (hnone.resolve_left hpos.ne').1
    · -- the loop stops at the cluster `c`, the last that is needed
      have htwo : 2 ≤ fs.vol.clustersFor newSize := two_le_clustersFor hv.pos (by omega)
      have hrounds : truncateRounds fs.vol newSize = fs.vol.clustersFor newSize - 1 :=
        truncateRounds_eq hv.pos hpos (by omega)
      obtain ⟨front, d, c, rest, hsplit, hfront⟩ :
          ∃ front : List Nat, ∃ d c rest, cs = front ++ d :: c :: rest ∧
            front.length = fs.vol.clustersFor newSize - 2 := by
        refine ⟨cs.take (fs.vol.clustersFor newSize - 2), cs[fs.vol.clustersFor newSize - 2],
          cs[fs.vol.clustersFor newSize - 2 + 1], cs.drop (fs.vol.clustersFor newSize - 2 + 1 + 1), ?_, ?_⟩
        · rw [List.getElem_cons_drop, List.getElem_cons_drop, List.take_append_drop]
        · rw [List.length_take]
          omega
      subst hsplit
      obtain ⟨r, fs', u, hrun, hu, rfl, rfl⟩ := (shows_view hfs).run
        (p := fat32TruncateFile fs.vol fuel entry newSize) hv (wp_truncate_cut hv hfs.writable hchained hq hnodup hpos.ne' hless
          (by omega) (by simp only [List.length_append, List.length_cons] at hfuel; omega))
      refine ⟨_, _, fs', hrun, fun htruncates => ?_, fun hnone => ?_⟩
      · refine absurd htruncates (not_truncates_cut hv hchain rfl hu ?_ (by omega))
        exact (cleared_next _ _ _).trans (if_pos List.mem_cons_self)
      · exact absurd (hnone.resolve_left hpos.ne').2 hsmall

/-! ## A file of two clusters -/

/-- Clusters two and three are the chain of a file. -/
def pairDisk : Device := ⟨writeLE (writeLE tinyDisk.bytes 520 4 3) 524 4 clusterEof, fun _ => false, fun _ => false⟩

/-- The volume on `pairDisk` as it is mounted. -/
def pairFs : Fat32Fs := { tinyFs with device := pairDisk }

/-- The entry of the file. -/
def pairEntry : Mem := setEntryFileSize (fat32EntrySetCluster (fun _ => 0) 0 2) 1024

lemma pairFs_sound : pairFs.Sound :=
  sound_of_empty (fun _ => ⟨rfl, rfl⟩) (fun _ => ⟨rfl, rfl⟩) tinyFs_layout rfl

lemma pairFs_next : pairFs.view.next 2 = 3 ∧ pairFs.view.next 3 = clusterEof := by decide

lemma pairEntry_file : entryAttr pairEntry 0 &&& attrDirectory = 0 ∧ entryFileSize pairEntry = 1024 ∧
    fat32EntryCluster pairEntry 0 = 2 := by decide

lemma pairEntry_chain : View.FileChain pairFs.vol pairFs.view pairEntry [2, 3] := by
  unfold View.FileChain
  rw [if_neg (by decide), pairEntry_file.2.2]
  refine ⟨clusterEof, ⟨⟨rfl, pairFs_next.1, pairFs_next.2⟩, fun c hc => ?_⟩, by decide⟩
  simp only [List.mem_cons, List.not_mem_nil, or_false] at hc
  rcases hc with rfl | rfl
  · exact ⟨by decide, by decide⟩
  · exact ⟨by decide, by decide⟩

/-- The file is emptied. -/
theorem truncates_to_nothing : ∃ ret entry' fs',
    (fat32TruncateFile pairFs.vol 2 pairEntry 0).run fatMachine pairFs = some ((ret, entry'), fs') ∧
      Truncates pairFs fs' pairEntry entry' [2, 3] 0 := by
  obtain ⟨ret, entry', fs', hrun, hiff⟩ : ∃ ret entry' fs',
      (fat32TruncateFile pairFs.vol 2 pairEntry 0).run fatMachine pairFs = some ((ret, entry'), fs') ∧
        (Truncates pairFs fs' pairEntry entry' [2, 3] 0 ↔ NoneCut pairFs.vol (entryFileSize pairEntry) 0) :=
    truncates_iff pairFs_sound tinyFs_regular pairEntry_file.1 pairEntry_chain (by rw [pairEntry_file.2.1]; rfl)
      (by rw [pairEntry_file.2.1]; decide) le_rfl
  exact ⟨ret, entry', fs', hrun, hiff.mpr (.inl rfl)⟩

/-- A thousand bytes need both clusters, and the second is freed. -/
theorem truncate_frees_data : ∃ ret entry' fs',
    (fat32TruncateFile pairFs.vol 2 pairEntry 1000).run fatMachine pairFs = some ((ret, entry'), fs') ∧
      pairFs.vol.clustersFor 1000 = 2 ∧ fs'.view.next 2 = clusterEof ∧ fs'.view.next 3 = clusterFree ∧
      ¬ Truncates pairFs fs' pairEntry entry' [2, 3] 1000 := by
  obtain ⟨⟨⟨ret, entry'⟩, fs'⟩, hrun, hend⟩ := Option.map_eq_some_iff.mp
    (show ((fat32TruncateFile pairFs.vol 2 pairEntry 1000).run fatMachine pairFs).map
      (fun r => (r.2.view.next 2, r.2.view.next 3)) = some (clusterEof, clusterFree) by decide)
  simp only [Prod.mk.injEq] at hend
  obtain ⟨htwo, hthree⟩ := hend
  refine ⟨ret, entry', fs', hrun, rfl, htwo, hthree, fun htruncates => ?_⟩
  rcases (htruncates.free 3 ⟨by decide, by decide⟩).mp hthree with hbefore | hcut
  · rw [pairFs_next.2] at hbefore
    exact absurd hbefore (by decide)
  · exact absurd hcut (by decide)

end Fat32Fs

end AAAos
