import AAAos.Fs.Fat32.FileData
import AAAos.Lib.CyclicSearch
import Mathlib.Data.Finset.Range

/-!
# Allocating clusters

`fat32_alloc_cluster` searches the FAT from the hint on, round to the hint again.  After it has taken the last cluster of
the volume the hint is one too high, and it is not compared with the number of clusters: the next search starts at an
entry that belongs to no cluster (`Volume.SearchesInside`).

**What is proved.**  A search that starts inside the volume finds a free cluster where there is one
(`wp_fat32AllocCluster`), and a chain is extended by it (`wp_extendChain`).
-/

namespace AAAos

open CyclicSearch

/-! ## The search -/

namespace Volume

variable {v : Volume} {c n hint : Nat} {F : Finset Nat}

/-- Where the search starts. -/
def searchStart (hint : Nat) : Nat := if hint < firstDataCluster then firstDataCluster else hint

/-- The cluster looked at next. -/
def after (v : Volume) (c : Nat) : Nat := nextIn firstDataCluster v.totalClusters c

/-- The free cluster that is found, of those in `F`. -/
def pick (v : Volume) (F : Finset Nat) (hint : Nat) : Option Nat :=
  (tryUpTo (fun c => decide (c ∈ F)) v.after v.totalClusters (searchStart hint)).1

/-- So many searches, one after another, start inside the volume. -/
def SearchesInside (v : Volume) : Nat → Finset Nat → Nat → Prop
  | 0, _, _ => True
  | n + 1, F, hint =>
    v.Cluster (searchStart hint) ∧ ∀ c, v.pick F hint = some c → SearchesInside v n (F.erase c) (c + 1)

lemma pick_mem (hstart : v.Cluster (searchStart hint)) (h : v.pick F hint = some c) : v.Cluster c ∧ c ∈ F := by
  obtain ⟨hlow, hhigh, hfree⟩ := tryUpTo_nextIn_sound hstart.1 hstart.2 h
  exact ⟨⟨hlow, hhigh⟩, of_decide_eq_true hfree⟩

lemma exists_pick (hstart : v.Cluster (searchStart hint)) (hc : v.Cluster c) (hmem : c ∈ F) :
    ∃ d, v.pick F hint = some d :=
  tryUpTo_nextIn_complete hstart.1 hstart.2 hc.1 hc.2 (decide_eq_true hmem)

lemma SearchesInside.mono {m : Nat} (h : v.SearchesInside n F hint) (hmn : m ≤ n) : v.SearchesInside m F hint := by
  induction n generalizing m F hint with
  | zero =>
    obtain rfl := Nat.le_zero.mp hmn
    trivial
  | succ n ih =>
    cases m with
    | zero => trivial
    | succ m => exact ⟨h.1, fun c hc => ih (h.2 c hc) (Nat.le_of_succ_le_succ hmn)⟩

end Volume

namespace View

variable {v : Volume} {t u : View} {c d n : Nat}

/-- The free clusters. -/
def freeClusters (v : Volume) (t : View) : Finset Nat :=
  (Finset.range (2 + v.totalClusters)).filter fun c => 2 ≤ c ∧ t.next c = clusterFree

@[simp] lemma mem_freeClusters : c ∈ t.freeClusters v ↔ v.Cluster c ∧ t.next c = clusterFree := by
  rw [freeClusters, Finset.mem_filter, Finset.mem_range, Volume.Cluster]
  exact ⟨fun h => ⟨⟨h.2.1, h.1⟩, h.2.2⟩, fun h => ⟨h.1.2, h.1.1, h.2⟩⟩

/-- There are so many free clusters, and they are found. -/
structure Ready (v : Volume) (n : Nat) (t : View) : Prop where
  enough : n ≤ (t.freeClusters v).card
  inside : v.SearchesInside n (t.freeClusters v) t.info.nextFreeCluster

lemma Ready.mono {m : Nat} (h : Ready v n t) (hmn : m ≤ n) : Ready v m t :=
  ⟨hmn.trans h.enough, h.inside.mono hmn⟩

/-- The cluster is taken. -/
def allocate (t : View) (c : Nat) : View :=
  { t.setNext c clusterEof with
    info := ⟨if t.info.freeClusters ≠ freeUnknown ∧ 0 < t.info.freeClusters then t.info.freeClusters - 1
      else t.info.freeClusters, u32 (c + 1), true⟩ }

/-- What the next allocation takes. -/
def nextPick (v : Volume) (t : View) : Option Nat := v.pick (t.freeClusters v) t.info.nextFreeCluster

lemma Ready.pick (hv : v.Regular) (h : Ready v (n + 1) t) :
    ∃ d, t.nextPick v = some d ∧ v.Cluster d ∧ t.next d = clusterFree ∧
      ∀ u, u.freeClusters v = (t.freeClusters v).erase d → u.info.nextFreeCluster = u32 (d + 1) → Ready v n u := by
  obtain ⟨henough, hstart, hrest⟩ := h
  obtain ⟨c, hc⟩ := Finset.card_pos.mp (Nat.lt_of_lt_of_le (Nat.succ_pos n) henough)
  obtain ⟨d, hd⟩ := Volume.exists_pick hstart (mem_freeClusters.mp hc).1 hc
  obtain ⟨hcluster, hmem⟩ := Volume.pick_mem hstart hd
  refine ⟨d, hd, hcluster, (mem_freeClusters.mp hmem).2, fun u hfree hhint => ?_⟩
  have hlt := hv.lt hcluster
  rw [u32, Nat.mod_eq_of_lt (show d + 1 < 2 ^ 32 by omega)] at hhint
  refine ⟨?_, ?_⟩
  · rw [hfree, Finset.card_erase_of_mem hmem]
    omega
  · rw [hfree, hhint]
    exact hrest d hd

end View

open View

/-! ## `fat32_alloc_cluster` -/

section Allocate

variable {v : Volume} {t u : View} {c d n fuel : Nat}

lemma wp_takeCluster (hc : v.Cluster c) : (takeCluster c).wp (fatSpec v) (fun r u => r = c ∧ u = t.allocate c) t := by
  unfold takeCluster
  rw [Prog.wp_bind, FatProg.wp_writeFat]
  refine ⟨hc, ?_⟩
  rw [if_neg (by decide), Prog.wp_bind]
  refine ⟨trivial, ?_⟩
  rintro info w ⟨rfl, rfl⟩
  refine ⟨trivial, ?_⟩
  rintro - w rfl
  exact ⟨rfl, rfl⟩

lemma wp_allocLoop (hv : v.Regular) {start : Nat} (hc : v.Cluster c)
    (hfound : (searchFrom (fun c => decide (c ∈ t.freeClusters v)) v.after start fuel c).1 = some d) :
    (Prog.loop (fun cluster => do
      let entry ← FatProg.readFat cluster
      if entry = clusterFree then Sum.inr <$> takeCluster cluster
      else
        let next := u32 (cluster + 1)
        let next :=
          if u32 (firstDataCluster + v.totalClusters) ≤ next then firstDataCluster else next
        pure (if next = start then .inr 0 else .inl next)) fuel c).wp (fatSpec v)
      (fun r u => r = d ∧ u = t.allocate d) t := by
  induction fuel generalizing c with
  | zero => cases hfound
  | succ fuel ih =>
    have hlt := hv.lt hc
    have hsmall := hv.small
    have hnext : (if u32 (firstDataCluster + v.totalClusters) ≤ u32 (c + 1) then firstDataCluster
        else u32 (c + 1)) = v.after c := by
      have hend : u32 (firstDataCluster + v.totalClusters) = firstDataCluster + v.totalClusters :=
        Nat.mod_eq_of_lt (lt_of_le_of_lt hsmall (by decide))
      rw [hend, u32, Nat.mod_eq_of_lt (show c + 1 < 2 ^ 32 by omega)]
      rfl
    rw [Prog.wp_loop_succ, Prog.wp_bind, FatProg.wp_readFat]
    refine ⟨hc, ?_⟩
    dsimp only
    rw [hnext]
    unfold searchFrom at hfound
    by_cases hfree : t.next c = clusterFree
    · rw [if_pos (decide_eq_true (mem_freeClusters.mpr ⟨hc, hfree⟩))] at hfound
      obtain rfl : c = d := Option.some.inj hfound
      rw [if_pos hfree, Prog.wp_map]
      exact Prog.wp_mono (wp_takeCluster hc) fun r u h => h
    · rw [if_neg (fun h => hfree (mem_freeClusters.mp (of_decide_eq_true h)).2)] at hfound
      rw [if_neg hfree, Prog.wp_pure]
      by_cases hback : v.after c = start
      · rw [if_neg (not_not.mpr hback)] at hfound
        cases hfound
      · rw [if_pos hback] at hfound
        rw [if_neg hback]
        refine ih ?_ hfound
        have hhigh := hc.2
        have hlow := hc.1
        unfold Volume.after nextIn
        split_ifs with hlast
        · exact ⟨le_rfl, by unfold firstDataCluster; omega⟩
        · exact ⟨by omega, by unfold firstDataCluster at hlast; omega⟩

/-- **A cluster is allocated.** -/
lemma wp_fat32AllocCluster (hv : v.Regular) (hrw : v.readonly = false) (h : Ready v (n + 1) t)
    (hd : t.nextPick v = some d) (hfuel : v.totalClusters ≤ fuel) :
    (fat32AllocCluster v fuel).wp (fatSpec v) (fun r u => r = d ∧ u = t.allocate d) t := by
  have hstart := h.inside.1
  unfold fat32AllocCluster
  rw [if_neg (by simp [hrw]), Prog.wp_bind]
  refine ⟨trivial, ?_⟩
  rintro info w ⟨rfl, rfl⟩
  exact wp_allocLoop hv hstart ((congrArg Prod.fst (searchFrom_nextIn hstart.1 hstart.2 hfuel)).trans hd)

end Allocate

/-! ## Longer chains -/

namespace View

variable {v : Volume} {t u u' : View} {p r c d : Nat} {cs ds ps ps' front : List Nat}

/-- The chain `cs` may have changed, and the free clusters `ps` have been taken. -/
structure Grown (v : Volume) (t : View) (cs ps : List Nat) (u : View) : Prop where
  fresh : ∀ c ∈ ps, v.Cluster c ∧ t.next c = clusterFree
  next : ∀ c, c ∉ cs → c ∉ ps → u.next c = t.next c
  data : ∀ c, c ∉ cs → c ∉ ps → u.data c = t.data c

lemma Ends.tail (h : Ends v t p (c :: cs)) : p = c ∧ Ends v t (t.next c) cs := by
  obtain ⟨q, hchain, hq⟩ := h
  exact ⟨hchain.head, q, hchain.tail, hq⟩

lemma Ends.cluster (h : Ends v t p cs) (hc : c ∈ cs) : v.Cluster c := by
  obtain ⟨q, hchain, -⟩ := h
  exact hchain.clusters c hc

lemma Ends.not_free (h : Ends v t p cs) (hc : c ∈ cs) : t.next c ≠ clusterFree := by
  obtain ⟨q, hchain, hq⟩ := h
  exact hchain.next_ne_free hq hc

lemma Ends.nodup (hv : v.Regular) (h : Ends v t p cs) : cs.Nodup := by
  obtain ⟨q, hchain, hq⟩ := h
  exact hchain.nodup hv hq

lemma Ends.congr (h : Ends v t p cs) (hnext : u.next = t.next) : Ends v u p cs := by
  obtain ⟨q, hchain, hq⟩ := h
  exact ⟨q, hchain.congr hnext, hq⟩

lemma Grown.apart (hv : v.Regular) (h : Ends v t p (front ++ ds)) (hg : Grown v t ds ps u) :
    ∀ c ∈ front, c ∉ ds ∧ c ∉ ps := by
  intro c hc
  refine ⟨fun hmem => ?_, fun hmem => ?_⟩
  · exact (List.nodup_append.mp (h.nodup hv)).2.2 c hc c hmem rfl
  · exact h.not_free (List.mem_append_left ds hc) (hg.fresh c hmem).2

lemma Ends.regrow (hv : v.Regular) (h : Ends v t p (front ++ ds)) (hr : Ends v t r ds) (hne : ds ≠ [])
    (hg : Grown v t ds ps u) (hu : Ends v u r (ds ++ ps)) : Ends v u p (front ++ (ds ++ ps)) := by
  have hapart := hg.apart hv h
  obtain ⟨q, hchain, -⟩ := h
  obtain ⟨q', hchain', hq'⟩ := hu
  obtain ⟨s, hfront, hback⟩ := Seg.append.mp hchain.seg
  obtain ⟨d, ds, rfl⟩ := List.exists_cons_of_ne_nil hne
  obtain rfl : s = d := hback.1
  obtain rfl : r = s := hr.tail.1
  refine ⟨q', ⟨Seg.append.mpr ⟨r, hfront.congr fun x hx => ?_, hchain'.seg⟩, fun x hx => ?_⟩, hq'⟩
  · exact hg.next x (hapart x hx).1 (hapart x hx).2
  · rcases List.mem_append.mp hx with hin | hin
    · exact hchain.clusters x (List.mem_append_left _ hin)
    · exact hchain'.clusters x hin

lemma Grown.trans (hg : Grown v t cs ps u) (hu : Ends v u p (cs ++ ps)) (hg' : Grown v u ds ps' u')
    (hsub : ds ⊆ cs ++ ps) : Grown v t cs (ps ++ ps') u' where
  fresh c hc := by
    rcases List.mem_append.mp hc with hin | hin
    · exact hg.fresh c hin
    · obtain ⟨hcluster, hfree⟩ := hg'.fresh c hin
      have hout : c ∉ cs ++ ps := fun hmem => hu.not_free hmem hfree
      rw [List.mem_append, not_or] at hout
      exact ⟨hcluster, (hg.next c hout.1 hout.2) ▸ hfree⟩
  next c hcs hps := by
    rw [List.mem_append, not_or] at hps
    have hds : c ∉ ds := fun hmem => (List.mem_append.mp (hsub hmem)).elim hcs hps.1
    rw [hg'.next c hds hps.2, hg.next c hcs hps.1]
  data c hcs hps := by
    rw [List.mem_append, not_or] at hps
    have hds : c ∉ ds := fun hmem => (List.mem_append.mp (hsub hmem)).elim hcs hps.1
    rw [hg'.data c hds hps.2, hg.data c hcs hps.1]

/-- The cluster `d` is taken and put behind `c`. -/
def link (t : View) (c d : Nat) : View := (t.allocate d).setNext c d

lemma setNext_self (t : View) (c value : Nat) : (t.setNext c value).next c = clusterMask value :=
  Function.update_self (β := fun _ => Nat) c (clusterMask value) t.next

lemma setNext_ne {x value : Nat} (hne : x ≠ c) : (t.setNext c value).next x = t.next x :=
  Function.update_of_ne (β := fun _ => Nat) hne (clusterMask value) t.next

lemma setData_ne {x : Nat} {buf : Mem} (hne : x ≠ c) : (t.setData c buf).data x = t.data x :=
  Function.update_of_ne (β := fun _ => Mem) hne buf t.data

lemma block_setData (t : View) (c : Nat) (buf : Mem) :
    (t.setData c buf).block v c = bytesAt buf 0 v.bytesPerCluster :=
  congrArg (fun buf => bytesAt buf 0 v.bytesPerCluster) (Function.update_self (β := fun _ => Mem) c buf t.data)

lemma bytesAt_blank (n : Nat) : bytesAt (slice (fun _ => 0) 0 n) 0 n = List.replicate n 0 := by
  refine List.ext_getElem? fun j => ?_
  rw [getElem?_bytesAt, List.getElem?_replicate]
  split_ifs with hj
  · rw [slice_of_lt (by omega)]
  · rfl

lemma allocate_next_self (t : View) (d : Nat) : (t.allocate d).next d = clusterEof := setNext_self t d clusterEof

lemma allocate_next_ne {x : Nat} (hne : x ≠ d) : (t.allocate d).next x = t.next x := setNext_ne hne

lemma link_next_self (t : View) (c : Nat) (hd : d < 2 ^ 28) : (t.link c d).next c = d :=
  (setNext_self (t.allocate d) c d).trans (Nat.mod_eq_of_lt hd)

lemma link_next_ne {x : Nat} (hne : x ≠ c) : (t.link c d).next x = (t.allocate d).next x := setNext_ne hne

lemma freeClusters_allocate : (t.allocate d).freeClusters v = (t.freeClusters v).erase d := by
  ext x
  rw [mem_freeClusters, Finset.mem_erase, mem_freeClusters]
  by_cases hx : x = d
  · subst hx
    rw [allocate_next_self]
    exact ⟨fun h => absurd h.2 (by decide), fun h => absurd rfl h.1⟩
  · rw [allocate_next_ne hx]
    exact ⟨fun h => ⟨hx, h⟩, fun h => h.2⟩

lemma freeClusters_link (hd : 2 ≤ d) (hd' : d < 2 ^ 28) (hused : t.next c ≠ clusterFree) :
    (t.link c d).freeClusters v = (t.freeClusters v).erase d := by
  rw [← freeClusters_allocate]
  ext x
  rw [mem_freeClusters, mem_freeClusters]
  by_cases hx : x = c
  · subst hx
    rw [link_next_self t x hd']
    refine and_congr_right fun _ => ⟨fun h => absurd (h ▸ hd) (by decide), fun h => ?_⟩
    by_cases hxd : x = d
    · subst hxd
      rw [allocate_next_self] at h
      exact absurd h (by decide)
    · rw [allocate_next_ne hxd] at h
      exact absurd h hused
  · rw [link_next_ne hx]

end View

section Extend

variable {v : Volume} {t u : View} {c n fuel : Nat} {rest : List Nat} {zero : Bool}

/-- **The cluster behind another one**, which is allocated if there is none. -/
lemma wp_extendChain (hv : v.Regular) (hrw : v.readonly = false) (hfuel : v.totalClusters ≤ fuel)
    (h : Ends v t c (c :: rest)) (hready : Ready v (n + (1 - rest.length)) t) :
    (extendChain v fuel c zero).wp (fatSpec v)
      (fun r u => ∃ ps, ps.length = 1 - rest.length ∧ Grown v t (c :: rest) ps u ∧
        Ends v u c ([c] ++ (rest ++ ps)) ∧ u.next c = r ∧ Ready v n u ∧ (∀ x, x ∉ ps → u.data x = t.data x) ∧
        ∀ x ∈ ps, u.block v x = if zero then List.replicate v.bytesPerCluster 0 else t.block v x) t := by
  have hc := h.cluster List.mem_cons_self
  unfold extendChain
  rw [Prog.wp_bind, wp_fat32NextCluster hv hc]
  cases rest with
  | cons d rest =>
    obtain ⟨-, hrest⟩ := h.tail
    have hhead := hrest.tail.1
    have hd := h.cluster (List.mem_cons_of_mem c List.mem_cons_self)
    rw [hhead, if_neg (by rw [hv.not_eof hd, hv.valid hd]; decide)]
    refine ⟨[], by simp, ⟨fun x hx => absurd hx List.not_mem_nil, fun x _ _ => rfl, fun x _ _ => rfl⟩, ?_, hhead,
      hready.mono (Nat.le_add_right n _), fun x _ => rfl, fun x hx => absurd hx List.not_mem_nil⟩
    rw [List.append_nil]
    exact h
  | nil =>
    obtain ⟨q, hchain, hq⟩ := h
    have hend : t.next c = q := hchain.tail.seg
    have hused := hchain.next_ne_free hq List.mem_cons_self
    obtain ⟨d, hpick, hd, hfree, hleft⟩ := Ready.pick hv hready
    have hdc : d ≠ c := fun hsame => hused (hsame ▸ hfree)
    have hlt := hv.lt hd
    rw [if_pos (Or.inl (hend ▸ hq)), Prog.wp_bind]
    refine Prog.wp_mono (wp_fat32AllocCluster hv hrw hready hpick hfuel) ?_
    rintro r w ⟨rfl, rfl⟩
    have hpos : r ≠ 0 := fun hzero => absurd hd.1 (by rw [hzero]; decide)
    rw [if_neg hpos, Prog.wp_bind]
    unfold fat32SetCluster
    rw [FatProg.wp_writeFat]
    refine ⟨hc, ?_⟩
    have hgrown : ∀ w : View, w.next = (t.link c r).next → (∀ x, x ∉ [r] → w.data x = t.data x) →
        w.info = (t.link c r).info → Grown v t [c] [r] w ∧ Ends v w c ([c] ++ ([] ++ [r])) ∧ w.next c = r ∧
          Ready v n w := by
      intro w hnext hdata hinfo
      have hself : w.next c = r := by rw [hnext, link_next_self t c hlt]
      refine ⟨⟨fun x hx => ?_, fun x hxc hxr => ?_, fun x _ hxr => hdata x hxr⟩, ?_, hself, hleft w ?_ ?_⟩
      · obtain rfl := List.mem_singleton.mp hx
        exact ⟨hd, hfree⟩
      · rw [hnext, link_next_ne (by simpa using hxc), allocate_next_ne (by simpa using hxr)]
      · refine ⟨clusterEof, ⟨⟨rfl, hself, ?_⟩, fun x hx => ?_⟩, by decide⟩
        · show w.next r = clusterEof
          rw [hnext, link_next_ne hdc, allocate_next_self]
        · rcases List.mem_cons.mp hx with rfl | hx
          · exact hc
          · obtain rfl := List.mem_singleton.mp hx
            exact hd
      · rw [← freeClusters_link hd.1 hlt hused]
        unfold freeClusters
        rw [hnext]
      · rw [hinfo]
        rfl
    cases zero with
    | false =>
      obtain ⟨hg, hends, hself, hrest⟩ := hgrown (t.link c r) rfl (fun x _ => rfl) rfl
      exact ⟨[r], rfl, hg, hends, hself, hrest, fun x _ => rfl, fun x _ => rfl⟩
    | true =>
      rw [if_pos rfl, Prog.wp_bind, FatProg.wp_writeCluster]
      refine ⟨hd, ?_⟩
      have hdata : ∀ x, x ∉ [r] → ((t.link c r).setData r (slice (fun _ => 0) 0 v.bytesPerCluster)).data x =
          t.data x := fun x hx => setData_ne (by simpa using hx)
      obtain ⟨hg, hends, hself, hrest⟩ :=
        hgrown ((t.link c r).setData r (slice (fun _ => 0) 0 v.bytesPerCluster)) rfl hdata rfl
      refine ⟨[r], rfl, hg, hends, hself, hrest, hdata, fun x hx => ?_⟩
      obtain rfl := List.mem_singleton.mp hx
      exact (block_setData _ _ _).trans (bytesAt_blank _)

end Extend

end AAAos
