import AAAos.Fs.Fat32.Allocation

/-!
# Writing a file

`fat32_write_file` goes to the cluster of the offset, and writes cluster after cluster.  Where the chain ends it is made
longer.

**What goes wrong.**  Only the clusters that are added on the way to the offset are filled with zeros.  What is between
the old end of the file and the offset in clusters that the file had, or in the first cluster of an empty file, is what
was on the device before (`stale_byte`).

**What is proved.**  The bytes that are written are read back, and those around them are as before.  Between the old end
and the offset there are zeros exactly if there were zeros on the device (`writesBack_iff`).
-/

namespace AAAos

open View

/-! ## The loops -/

section Loops

variable {v : Volume} {t u : View} {p r c n fuel offset : Nat} {cs ds ps front : List Nat} {src : List UInt8}

lemma raw_append (v : Volume) (t : View) (cs ds : List Nat) : t.raw v (cs ++ ds) = t.raw v cs ++ t.raw v ds :=
  List.flatMap_append

lemma raw_blank (h : ∀ x ∈ cs, t.block v x = List.replicate v.bytesPerCluster 0) :
    t.raw v cs = List.replicate (cs.length * v.bytesPerCluster) 0 := by
  induction cs with
  | nil => rw [List.length_nil, Nat.zero_mul]; rfl
  | cons c cs ih =>
    rw [raw_cons, h c List.mem_cons_self, ih fun x hx => h x (List.mem_cons_of_mem c hx), List.length_cons,
      Nat.succ_mul, Nat.add_comm, List.replicate_add]

lemma clustersFor_add_cluster (hpos : 0 < v.bytesPerCluster) (n : Nat) :
    v.clustersFor (v.bytesPerCluster + n) = v.clustersFor n + 1 := by
  unfold Volume.clustersFor
  rw [show v.bytesPerCluster + n + v.bytesPerCluster - 1 = n + v.bytesPerCluster - 1 + v.bytesPerCluster by omega,
    Nat.add_div_right _ hpos]

lemma clustersFor_le (hpos : 0 < v.bytesPerCluster) {m : Nat} (h : n ≤ m * v.bytesPerCluster) : v.clustersFor n ≤ m := by
  unfold Volume.clustersFor
  rw [Nat.div_le_iff_le_mul_add_pred hpos, Nat.mul_comm]
  omega

lemma wp_writeSkip (hv : v.Regular) (hrw : v.readonly = false) (hfuel : v.totalClusters ≤ fuel) {skip : Nat}
    (h : Ends v t p cs) (hne : cs ≠ []) (hready : Ready v (n + (skip + 1 - cs.length)) t) :
    (writeSkip v fuel skip p).wp (fatSpec v)
      (fun r u => ∃ ps, ps.length = skip + 1 - cs.length ∧ Grown v t cs ps u ∧ Ends v u p (cs ++ ps) ∧
        Ends v u r ((cs ++ ps).drop skip) ∧
        u.raw v (cs ++ ps) = t.raw v cs ++ List.replicate (ps.length * v.bytesPerCluster) 0 ∧ Ready v n u) t := by
  induction skip generalizing t p cs with
  | zero =>
    have hlen := List.length_pos_of_ne_nil hne
    refine ⟨[], by simp; omega, ⟨fun x hx => absurd hx List.not_mem_nil, fun _ _ _ => rfl,
      fun _ _ _ => rfl⟩, ?_, ?_, ?_, hready.mono (Nat.le_add_right n _)⟩
    · rw [List.append_nil]
      exact h
    · rwa [List.append_nil]
    · simp
  | succ skip ih =>
    obtain ⟨c, rest, rfl⟩ := List.exists_cons_of_ne_nil hne
    obtain rfl := h.tail.1
    have hneed : n + (skip + 1 + 1 - (p :: rest).length) =
        n + (skip + 1 - (rest.length + (1 - rest.length))) + (1 - rest.length) := by
      simp
      omega
    rw [hneed] at hready
    unfold writeSkip
    rw [Prog.wp_bind]
    refine Prog.wp_mono (wp_extendChain hv hrw hfuel h hready) ?_
    rintro r u ⟨ps, hps, hgrown, hends, rfl, hleft, hother, hblank⟩
    have hdne : rest ++ ps ≠ [] :=
      List.ne_nil_of_length_pos (by simp; omega)
    have htail : Ends v u (u.next p) (rest ++ ps) := hends.tail.2
    have hpos : u.next p ≠ 0 := hends.not_free (List.mem_append_left _ List.mem_cons_self)
    rw [if_neg hpos]
    rw [← hps, ← List.length_append] at hleft
    refine Prog.wp_mono (ih htail hdne hleft) ?_
    rintro r w ⟨ps', hps', hgrown', hends', hat, hraw, hready'⟩
    have hapart := hgrown'.apart hv hends
    refine ⟨ps ++ ps', ?_, hgrown.trans hends hgrown' ?_, ?_, ?_, ?_, hready'⟩
    · rw [List.length_append, hps', List.length_append, hps]
      omega
    · exact fun x hx => List.mem_cons_of_mem p hx
    · rw [List.cons_append, ← List.append_assoc]
      exact hends.regrow hv htail hdne hgrown' hends'
    · rwa [List.cons_append, ← List.append_assoc]
    · have hself : w.block v p = t.block v p := by
        obtain ⟨hds, hps'⟩ := hapart p List.mem_cons_self
        rw [block, block, hgrown'.data p hds hps', hother p fun hmem => hds (List.mem_append_right rest hmem)]
      have hrest : u.raw v rest = t.raw v rest := by
        refine raw_congr fun x hx => hother x fun hmem => ?_
        exact h.not_free (List.mem_cons_of_mem p hx) (hgrown.fresh x hmem).2
      rw [List.cons_append, ← List.append_assoc, raw_cons, hraw, hself, raw_append, hrest,
        raw_blank fun x hx => hblank x hx, raw_cons, List.append_assoc, List.append_assoc, ← List.replicate_add,
        ← Nat.add_mul, ← List.length_append]

/-- What it is to overwrite a part of the first cluster of a chain. -/
structure ChunkWritten (v : Volume) (t u : View) (p : Nat) (rest : List Nat) (offset : Nat) (chunk : List UInt8) :
    Prop where
  grown : Grown v t (p :: rest) [] u
  ends : Ends v u p (p :: rest)
  block : u.block v p = overwrite (t.block v p) offset chunk
  raw : ∀ ds : List Nat, p ∉ ds → u.raw v ds = t.raw v ds
  ready : ∀ n, Ready v n t → Ready v n u

lemma chunk_written {rest : List Nat} {chunk : List UInt8} (h : Ends v t p (p :: rest))
    (hroom : offset + chunk.length ≤ v.bytesPerCluster) :
    ChunkWritten v t (t.setData p (slice (paste (t.data p) offset chunk.length fun j => chunk.getD j 0) 0
      v.bytesPerCluster)) p rest offset chunk := by
  have hdata : ∀ x buf, x ≠ p → (t.setData p buf).data x = t.data x := fun x buf hx => setData_ne hx
  refine ⟨⟨fun x hx => absurd hx List.not_mem_nil, fun x _ _ => rfl, fun x hx _ => ?_⟩, h.congr rfl, ?_,
    fun ds hmem => ?_, fun n hn => ⟨hn.enough, hn.inside⟩⟩
  · exact hdata x _ fun hxp => hx (hxp ▸ List.mem_cons_self)
  · rw [block_setData]
    exact bytesAt_paste hroom
  · exact raw_congr fun x hx => hdata x _ fun hxp => hmem (hxp ▸ hx)

lemma wp_writeData (hv : v.Regular) (hrw : v.readonly = false) (hfuel : v.totalClusters ≤ fuel)
    {rounds written : Nat} (h : Ends v t p cs) (hne : cs ≠ []) (hoffset : offset < v.bytesPerCluster) (hsrc : src ≠ [])
    (hrounds : src.length ≤ rounds) (hready : Ready v (v.clustersFor (offset + src.length) - cs.length) t) :
    (writeData v fuel rounds p offset src written).wp (fatSpec v)
      (fun r u => r = .ok (written + src.length) ∧ ∃ ps, Grown v t cs ps u ∧ Ends v u p (cs ++ ps) ∧
        offset + src.length ≤ (cs ++ ps).length * v.bytesPerCluster ∧
        u.raw v (cs ++ ps) = overwrite (t.raw v cs ++ t.raw v ps) offset src ∧
        ps.length ≤ v.clustersFor (offset + src.length) - cs.length) t := by
  induction rounds generalizing t p cs offset src written with
  | zero => exact absurd (List.length_eq_zero_iff.mp (Nat.le_zero.mp hrounds)) hsrc
  | succ rounds ih =>
    obtain ⟨c, rest, rfl⟩ := List.exists_cons_of_ne_nil hne
    obtain rfl := h.tail.1
    have hp := h.cluster List.mem_cons_self
    have hnodup := h.nodup hv
    unfold writeData
    rw [Prog.wp_bind, FatProg.wp_readCluster]
    refine ⟨hp, ?_⟩
    generalize hchunk : src.take (v.bytesPerCluster - offset) = chunk
    have hchunkLength : chunk.length = min (v.bytesPerCluster - offset) src.length := by
      simp [← hchunk]
    rw [Prog.wp_bind, FatProg.wp_writeCluster]
    refine ⟨hp, ?_⟩
    rw [if_neg (by decide)]
    generalize hu : t.setData p _ = u
    obtain ⟨hgrown, hends, hblock, hrest, hkeep⟩ : ChunkWritten v t u p rest offset chunk :=
      hu ▸ chunk_written h (by omega)
    have hready' := hkeep _ hready
    split_ifs with hmore
    · have hfull : chunk.length = v.bytesPerCluster - offset := by omega
      have hleft : (src.drop chunk.length).length = src.length - (v.bytesPerCluster - offset) := by
        rw [List.length_drop, hfull]
      have hmoreSrc : src.drop chunk.length ≠ [] := List.ne_nil_of_length_pos (by omega)
      have hcount : v.clustersFor (offset + src.length) = v.clustersFor (0 + (src.drop chunk.length).length) + 1 := by
        rw [← clustersFor_add_cluster hv.pos]
        exact congrArg v.clustersFor (by omega)
      have hcountPos : 0 < v.clustersFor (0 + (src.drop chunk.length).length) := clustersFor_pos hv.pos (by omega)
      have hneed : v.clustersFor (offset + src.length) - (p :: rest).length =
          v.clustersFor (0 + (src.drop chunk.length).length) - (rest.length + (1 - rest.length)) +
            (1 - rest.length) := by
        rw [List.length_cons]
        omega
      rw [hneed] at hready'
      rw [Prog.wp_bind]
      refine Prog.wp_mono (wp_extendChain hv hrw hfuel hends hready') ?_
      rintro r w ⟨ps, hps, hgrownw, hendsw, rfl, hready'', hother, hblank⟩
      have hdne : rest ++ ps ≠ [] :=
        List.ne_nil_of_length_pos (by rw [List.length_append]; omega)
      have htail : Ends v w (w.next p) (rest ++ ps) := hendsw.tail.2
      have hpos : w.next p ≠ 0 := hendsw.not_free (List.mem_append_left _ List.mem_cons_self)
      rw [if_neg hpos]
      rw [← hps, ← List.length_append] at hready''
      refine Prog.wp_mono (ih htail hdne hv.pos hmoreSrc (by omega) hready'') ?_
      rintro r x ⟨rfl, ps', hgrownx, hendsx, hfitsx, hrawx, hfew⟩
      obtain ⟨hout, hout'⟩ := hgrownx.apart hv hendsw p List.mem_cons_self
      have hwdata : ∀ ds : List Nat, p ∉ ds → w.raw v ds = t.raw v ds := fun ds hmem => by
        refine Eq.trans (List.flatMap_congr fun y hy => ?_) (hrest ds hmem)
        by_cases hin : y ∈ ps
        · exact (hblank y hin).trans (if_neg (by decide))
        · rw [block, block, hother y hin]
      have hself : x.block v p = overwrite (t.block v p) offset chunk := by
        rw [← hblock, block, block, hgrownx.data p hout hout', hother p fun hmem => hout (List.mem_append_right rest hmem)]
      refine ⟨congrArg Except.ok (by omega), ps ++ ps', ?_, ?_, ?_, ?_, ?_⟩
      · have hfirst := hgrown.trans (by rw [List.append_nil]; exact hends) hgrownw (by rw [List.append_nil]; exact fun _ hy => hy)
        rw [List.nil_append] at hfirst
        exact hfirst.trans hendsw hgrownx fun y hy => List.mem_cons_of_mem p hy
      · rw [List.cons_append, ← List.append_assoc]
        exact hendsw.regrow hv htail hdne hgrownx hendsx
      · rw [List.cons_append, ← List.append_assoc, List.length_cons, Nat.succ_mul]
        omega
      · rw [List.cons_append, ← List.append_assoc, raw_cons, hrawx, hself, hwdata _ hout, hwdata _ hout', raw_append,
          raw_append, raw_cons, List.append_assoc, List.append_assoc]
        have hacross := @overwrite_append_across UInt8 (t.block v p) (t.raw v rest ++ (t.raw v ps ++ t.raw v ps')) src
          offset (by rw [length_block]; omega) (by rw [length_block]; omega)
        rw [length_block, hchunk, ← hfull] at hacross
        rw [hacross]
      · rw [List.length_append] at hfew ⊢
        rw [List.length_cons]
        omega
    · obtain rfl : src = chunk := by
        rw [← hchunk, List.take_of_length_le (by omega)]
      refine ⟨rfl, [], hgrown, ?_, ?_, ?_, Nat.zero_le _⟩
      · rw [List.append_nil]
        exact hends
      · rw [List.append_nil, List.length_cons, Nat.succ_mul]
        omega
      · rw [List.append_nil, raw_cons, raw_cons, hblock, hrest rest (List.nodup_cons.mp hnodup).1,
          show t.raw v [] = [] from rfl, List.append_nil, overwrite_append_left]
        rw [length_block]
        omega

end Loops

/-! ## What the routine does -/

/-- The clusters that the file has before those that are added behind them: an empty file gets its first one. -/
def View.startChain (v : Volume) (t : View) (cs : List Nat) : List Nat :=
  if cs = [] then (t.nextPick v).toList else cs

/-- How many clusters the file lacks. -/
def Volume.lacking (v : Volume) (cs : List Nat) (offset len : Nat) : Nat :=
  if len = 0 then 0 else v.clustersFor (offset + len) - cs.length

/-- The file with the clusters `cs` has been written, and other clusters in use are as before. -/
structure View.Written (v : Volume) (t : View) (entry : Mem) (cs : List Nat) (offset : Nat) (src : List UInt8)
    (entry' : Mem) (u : View) : Prop where
  attr : entryAttr entry' 0 = entryAttr entry 0
  size : entryFileSize entry' = max (entryFileSize entry) (offset + src.length)
  kept : ∀ c, c ∉ cs → t.next c ≠ clusterFree → u.next c = t.next c ∧ u.data c = t.data c
  file : ∃ ps pad, Ends v u (fat32EntryCluster entry' 0) (t.startChain v cs ++ ps) ∧
    pad.length = ps.length * v.bytesPerCluster ∧
    (∀ j, (t.startChain v cs).length * v.bytesPerCluster + j < offset → pad.getD j 0 = 0) ∧
    offset + src.length ≤ (t.startChain v cs ++ ps).length * v.bytesPerCluster ∧
    u.raw v (t.startChain v cs ++ ps) = overwrite (t.raw v (t.startChain v cs) ++ pad) offset src

/-- A part of the file has been written, and the file has the clusters that it had. -/
structure View.WrittenInside (v : Volume) (t : View) (p : Nat) (cs : List Nat) (offset : Nat) (src : List UInt8)
    (u : View) : Prop where
  ends : Ends v u p cs
  grown : Grown v t cs [] u
  raw : u.raw v cs = overwrite (t.raw v cs) offset src

section Writing

variable {v : Volume} {t u : View} {n fuel offset : Nat} {cs : List Nat} {src : List UInt8} {entry entry' : Mem}

lemma clustersFor_offset (hpos : 0 < v.bytesPerCluster) (offset n : Nat) :
    v.clustersFor (offset + n) = offset / v.bytesPerCluster + v.clustersFor (offset % v.bytesPerCluster + n) := by
  have hsplit := Nat.div_add_mod offset v.bytesPerCluster
  generalize offset / v.bytesPerCluster = k at hsplit ⊢
  induction k generalizing offset with
  | zero =>
    rw [Nat.mul_zero, Nat.zero_add] at hsplit
    simp [hsplit]
  | succ k ih =>
    have hless : v.bytesPerCluster ≤ offset := by
      rw [Nat.mul_succ] at hsplit
      omega
    have hmod : (offset - v.bytesPerCluster) % v.bytesPerCluster = offset % v.bytesPerCluster :=
      (Nat.mod_eq_sub_mod hless).symm
    have hrest := ih (offset - v.bytesPerCluster) (by rw [hmod]; rw [Nat.mul_succ] at hsplit; omega)
    rw [hmod] at hrest
    simp [show offset + n = v.bytesPerCluster + (offset - v.bytesPerCluster + n) by omega, clustersFor_add_cluster hpos]
    omega

lemma View.Grown.raw_behind (hv : v.Regular) {p : Nat} {front ds ps : List Nat} {pad : List UInt8}
    (h : Ends v t p (front ++ ds)) (hg : Grown v t ds ps u)
    (hraw : u.raw v (ds ++ ps) = overwrite (t.raw v ds ++ pad) offset src) :
    u.raw v (front ++ (ds ++ ps)) =
      overwrite (t.raw v (front ++ ds) ++ pad) (front.length * v.bytesPerCluster + offset) src := by
  have hkeep : u.raw v front = t.raw v front :=
    raw_congr fun x hx => hg.data x (hg.apart hv h x hx).1 (hg.apart hv h x hx).2
  have hlength := length_raw v t front
  have hright := @overwrite_append_right UInt8 (t.raw v front) (t.raw v ds ++ pad) src
    (front.length * v.bytesPerCluster + offset) (by omega)
  rw [hlength, Nat.add_sub_cancel_left] at hright
  rw [raw_append, hkeep, hraw, raw_append, List.append_assoc, hright]

lemma wp_writeChain (hv : v.Regular) (hrw : v.readonly = false) (hfuel : v.totalClusters ≤ fuel)
    (h : Ends v t (fat32EntryCluster entry 0) cs) (hne : cs ≠ []) (hsrc : src ≠ []) (hend : offset + src.length < 2 ^ 32)
    (hready : Ready v (v.clustersFor (offset + src.length) - cs.length) t) :
    (writeChain v fuel entry src offset).wp (fatSpec v)
      (fun r u => r.1 = src.length ∧ Written v t entry cs offset src r.2 u ∧
        (offset + src.length ≤ cs.length * v.bytesPerCluster → offset + src.length ≤ entryFileSize entry →
          r.2 = entry ∧ WrittenInside v t (fat32EntryCluster entry 0) cs offset src u)) t := by
  have hpos := hv.pos
  have hlen := List.length_pos_of_ne_nil hsrc
  have hsplit := Nat.div_add_mod' offset v.bytesPerCluster
  have hin := Nat.mod_lt offset hpos
  have hstart : t.startChain v cs = cs := if_neg hne
  have hcount := clustersFor_offset hpos offset src.length
  have hone : 0 < v.clustersFor (offset % v.bytesPerCluster + src.length) := clustersFor_pos hpos (by omega)
  have hskip : u32 (offset / v.bytesPerCluster) = offset / v.bytesPerCluster :=
    Nat.mod_eq_of_lt (Nat.lt_of_le_of_lt (Nat.div_le_self _ _) (by omega))
  generalize hk : offset / v.bytesPerCluster = k at hsplit hcount hskip
  have hneed : v.clustersFor (offset + src.length) - cs.length =
      v.clustersFor (offset % v.bytesPerCluster + src.length) - (cs.length + (k + 1 - cs.length) - k) +
        (k + 1 - cs.length) := by omega
  rw [hneed] at hready
  unfold writeChain
  rw [hk, hskip, Prog.wp_bind]
  refine Prog.wp_mono (wp_writeSkip hv hrw hfuel h hne hready) ?_
  rintro r u ⟨ps, hps, hgrown, hends, hat, hraw, hready'⟩
  have hlong : (cs ++ ps).length = cs.length + (k + 1 - cs.length) := by rw [List.length_append, hps]
  have hwhole : (cs ++ ps).take k ++ (cs ++ ps).drop k = cs ++ ps := List.take_append_drop k (cs ++ ps)
  have hfront : ((cs ++ ps).take k).length = k := by
    rw [List.length_take]
    omega
  have hdne : (cs ++ ps).drop k ≠ [] :=
    List.ne_nil_of_length_pos (by rw [List.length_drop]; omega)
  have hr : r ≠ 0 := by
    obtain ⟨d, ds, hds⟩ := List.exists_cons_of_ne_nil hdne
    rw [hds] at hat
    have hd := hat.cluster List.mem_cons_self
    rw [hat.tail.1]
    exact fun hzero => absurd hd.1 (by rw [hzero]; decide)
  rw [if_neg hr, Prog.wp_bind]
  rw [← hlong, ← List.length_drop] at hready'
  refine Prog.wp_mono (wp_writeData hv hrw hfuel hat hdne hin hsrc le_rfl hready') ?_
  rintro r' w ⟨rfl, ps', hgrown', hends', hfits, hraw', hfew⟩
  rw [← hwhole] at hends
  have hall : Ends v w (fat32EntryCluster entry 0) (cs ++ (ps ++ ps')) := by
    have hregrow := hends.regrow hv hat hdne hgrown' hends'
    rw [← List.append_assoc, hwhole, List.append_assoc] at hregrow
    exact hregrow
  have htotal : Grown v t cs (ps ++ ps') w := by
    rw [hwhole] at hends
    exact hgrown.trans hends hgrown' (List.drop_subset k (cs ++ ps))
  have hbytes : w.raw v (cs ++ (ps ++ ps')) = overwrite (t.raw v cs ++
      (List.replicate (ps.length * v.bytesPerCluster) 0 ++ u.raw v ps')) offset src := by
    have hbehind := hgrown'.raw_behind hv hends hraw'
    rw [← List.append_assoc, hwhole, List.append_assoc, hfront, hsplit] at hbehind
    rw [hbehind, hraw, List.append_assoc]
  have hfile : ∃ qs, ∃ pad : List UInt8, Ends v w (fat32EntryCluster entry 0) (t.startChain v cs ++ qs) ∧
      pad.length = qs.length * v.bytesPerCluster ∧
      (∀ j, (t.startChain v cs).length * v.bytesPerCluster + j < offset → pad.getD j 0 = 0) ∧
      offset + src.length ≤ (t.startChain v cs ++ qs).length * v.bytesPerCluster ∧
      w.raw v (t.startChain v cs ++ qs) = overwrite (t.raw v (t.startChain v cs) ++ pad) offset src := by
    rw [hstart]
    refine ⟨ps ++ ps', _, hall, ?_, fun j hj => ?_, ?_, hbytes⟩
    · rw [List.length_append, List.length_replicate, length_raw, List.length_append, Nat.add_mul]
    · -- the byte lies in a blank cluster
      have hblank : j < ps.length * v.bytesPerCluster := by
        rw [hps, Nat.sub_mul, Nat.succ_mul]
        omega
      rw [List.getD_eq_getElem?_getD, List.getElem?_append_left (by rw [List.length_replicate]; exact hblank),
        List.getElem?_replicate, if_pos hblank]
      rfl
    · have hlength : (cs ++ (ps ++ ps')).length = k + ((cs ++ ps).drop k ++ ps').length := by
        have hsum := congrArg List.length (congrArg (· ++ ps') hwhole)
        simp only [List.length_append, hfront] at hsum ⊢
        omega
      rw [hlength, Nat.add_mul]
      omega
  have hinside : offset + src.length ≤ cs.length * v.bytesPerCluster →
      WrittenInside v t (fat32EntryCluster entry 0) cs offset src w := by
    intro hroom
    have hfew' := clustersFor_le hpos hroom
    rw [List.length_drop, hlong] at hfew
    obtain rfl : ps = [] := List.length_eq_zero_iff.mp (by omega)
    obtain rfl : ps' = [] := List.length_eq_zero_iff.mp (by omega)
    rw [List.append_nil, List.append_nil] at hall hbytes
    rw [List.append_nil] at htotal
    refine ⟨hall, htotal, hbytes.trans ?_⟩
    rw [List.length_nil, Nat.zero_mul, List.replicate_zero, List.nil_append,
      show u.raw v [] = [] from rfl, List.append_nil]
  have hkept : ∀ c, c ∉ cs → t.next c ≠ clusterFree → w.next c = t.next c ∧ w.data c = t.data c := by
    intro c hc hused
    have hfresh : c ∉ ps ++ ps' := fun hmem => hused (htotal.fresh c hmem).2
    exact ⟨htotal.next c hc hfresh, htotal.data c hc hfresh⟩
  dsimp only
  rw [Nat.zero_add, Nat.mod_eq_of_lt (show offset + src.length < 2 ^ 64 by omega)]
  split_ifs with hgrows
  · refine ⟨rfl, ⟨entryAttr_setFileSize entry _, ?_, hkept, ?_⟩, fun _ hless => absurd hgrows (Nat.not_lt.mpr hless)⟩
    · show entryFileSize (setEntryFileSize entry (u32 (offset + src.length))) = _
      rw [u32, Nat.mod_eq_of_lt hend, entryFileSize_setFileSize entry hend]
      omega
    · show ∃ qs pad, Ends v w (fat32EntryCluster (setEntryFileSize entry _) 0) _ ∧ _
      rw [entryCluster_setFileSize]
      exact hfile
  · exact ⟨rfl, ⟨rfl, by show entryFileSize entry = _; omega, hkept, hfile⟩, fun hroom _ => ⟨rfl, hinside hroom⟩⟩

lemma View.Written.first {d : Nat} (hpick : t.nextPick v = some d) (hfree : t.next d = clusterFree)
    (h : Written v (t.allocate d) (fat32EntrySetCluster entry 0 d) [d] offset src entry' u) :
    Written v t entry [] offset src entry' u where
  attr := h.attr.trans (entryAttr_setCluster entry d)
  size := by rw [h.size, entryFileSize_setCluster]
  kept c _ hused := by
    have hcd : c ≠ d := fun hsame => hused (hsame ▸ hfree)
    have hsame : (t.allocate d).next c = t.next c := allocate_next_ne hcd
    obtain ⟨hnext, hdata⟩ := h.kept c (by simpa using hcd) (by rwa [hsame])
    exact ⟨hnext.trans hsame, hdata⟩
  file := by
    have hstart : t.startChain v [] = [d] := by
      rw [startChain, hpick]
      rfl
    rw [hstart]
    exact h.file

/-- **A file is written.** -/
lemma wp_fat32WriteFile (hv : v.Regular) (hrw : v.readonly = false) (hfuel : v.totalClusters ≤ fuel)
    (hfile : entryAttr entry 0 &&& attrDirectory = 0) (h : View.FileChain v t entry cs) (hsrc : src ≠ [])
    (hend : offset + src.length < 2 ^ 32) (hready : Ready v (v.lacking cs offset src.length) t) :
    (fat32WriteFile v fuel entry src offset).wp (fatSpec v)
      (fun r u => r.1 = src.length ∧ Written v t entry cs offset src r.2 u) t := by
  have hlen := List.length_pos_of_ne_nil hsrc
  rw [Volume.lacking, if_neg (by omega)] at hready
  unfold fat32WriteFile
  rw [if_neg (by simp [hrw]), if_neg (fun hdir => hdir hfile), if_neg (by omega)]
  by_cases hnone : cs = []
  · subst hnone
    have hless : fat32EntryCluster entry 0 < firstDataCluster := by
      unfold View.FileChain at h
      rwa [if_pos rfl] at h
    have hone : 0 < v.clustersFor (offset + src.length) := clustersFor_pos hv.pos (by omega)
    obtain ⟨m, hm⟩ := Nat.exists_eq_succ_of_ne_zero hone.ne'
    rw [hm, List.length_nil] at hready
    obtain ⟨d, hpick, hd, hfree, hleft⟩ := hready.pick hv
    have hlt := hv.lt hd
    rw [if_pos hless, Prog.wp_bind]
    refine Prog.wp_mono (wp_fat32AllocCluster hv hrw hready hpick hfuel) ?_
    rintro r u ⟨rfl, rfl⟩
    rw [if_neg (fun hzero => absurd hd.1 (by omega))]
    have hcluster : fat32EntryCluster (fat32EntrySetCluster entry 0 r) 0 = r :=
      entryCluster_setCluster entry (by omega)
    have hends : Ends v (t.allocate r) (fat32EntryCluster (fat32EntrySetCluster entry 0 r) 0) [r] := by
      refine ⟨clusterEof, ⟨⟨hcluster, allocate_next_self t r⟩, fun x hx => ?_⟩, by decide⟩
      obtain rfl := List.mem_singleton.mp hx
      exact hd
    have hready' : Ready v (v.clustersFor (offset + src.length) - [r].length) (t.allocate r) := by
      rw [hm]
      exact hleft _ freeClusters_allocate rfl
    refine Prog.wp_mono (wp_writeChain hv hrw hfuel hends (List.cons_ne_nil _ _) hsrc hend hready') ?_
    rintro r' w ⟨hret, hwritten, -⟩
    exact ⟨hret, hwritten.first hpick hfree⟩
  · have hends := h.ends hnone
    have hmore : ¬ fat32EntryCluster entry 0 < firstDataCluster := by
      obtain ⟨c, cs, rfl⟩ := List.exists_cons_of_ne_nil hnone
      rw [hends.tail.1]
      exact Nat.not_lt.mpr (hends.cluster List.mem_cons_self).1
    rw [if_neg hmore]
    exact Prog.wp_mono (wp_writeChain hv hrw hfuel hends hnone hsrc hend hready) fun _ _ hr => ⟨hr.1, hr.2.1⟩

/-- **A part of a file is written.** -/
lemma wp_fat32WriteFile_inside (hv : v.Regular) (hrw : v.readonly = false) (hfuel : v.totalClusters ≤ fuel)
    (hfile : entryAttr entry 0 &&& attrDirectory = 0) (h : View.FileChain v t entry cs) (hsrc : src ≠ [])
    (hend : offset + src.length ≤ entryFileSize entry) (hfits : entryFileSize entry ≤ cs.length * v.bytesPerCluster) :
    (fat32WriteFile v fuel entry src offset).wp (fatSpec v) (fun r u =>
      r = (↑src.length, entry) ∧ WrittenInside v t (fat32EntryCluster entry 0) cs offset src u) t := by
  have hlen := List.length_pos_of_ne_nil hsrc
  have hsize := entryFileSize_lt entry
  have hne : cs ≠ [] := by
    rintro rfl
    rw [List.length_nil] at hfits
    omega
  have hends := h.ends hne
  have hmore : ¬ fat32EntryCluster entry 0 < firstDataCluster := by
    obtain ⟨c, cs, rfl⟩ := List.exists_cons_of_ne_nil hne
    rw [hends.tail.1]
    exact Nat.not_lt.mpr (hends.cluster List.mem_cons_self).1
  have hnone : v.clustersFor (offset + src.length) - cs.length = 0 :=
    Nat.sub_eq_zero_of_le (clustersFor_le hv.pos (hend.trans hfits))
  unfold fat32WriteFile
  rw [if_neg (by simp [hrw]), if_neg (fun hdir => hdir hfile), if_neg (by omega), if_neg hmore]
  refine Prog.wp_mono (wp_writeChain hv hrw hfuel hends hne hsrc (by omega)
    (by rw [hnone]; exact ⟨Nat.zero_le _, trivial⟩)) ?_
  rintro ⟨ret, entry'⟩ u ⟨rfl, -, hinside⟩
  obtain ⟨rfl, hwritten⟩ := hinside (hend.trans hfits) hend
  exact ⟨rfl, hwritten⟩

lemma wp_fat32WriteFile_nil (hrw : v.readonly = false) (hfile : entryAttr entry 0 &&& attrDirectory = 0) :
    (fat32WriteFile v fuel entry [] offset).wp (fatSpec v) (fun r u => r = (0, entry) ∧ u = t) t := by
  unfold fat32WriteFile
  rw [if_neg (by simp [hrw]), if_neg (fun hdir => hdir hfile)]
  exact ⟨rfl, rfl⟩

end Writing

/-! ## Reading back -/

namespace Fat32Fs

variable {fs fs' : Fat32Fs} {entry entry' : Mem} {cs : List Nat} {src : List UInt8} {ret : Int} {offset fuel : Nat}

/-- **What a write should do** to a file with the clusters `cs`. -/
structure WritesBack (fs fs' : Fat32Fs) (entry entry' : Mem) (cs : List Nat) (ret : Int) (offset : Nat)
    (src : List UInt8) : Prop where
  returns : ret = src.length
  data : fs'.reads entry' offset src.length = some (.ok src)
  old : ∀ from' len, from' + len ≤ entryFileSize entry → from' + len ≤ offset ∨ offset + src.length ≤ from' →
    fs'.reads entry' from' len = fs.reads entry from' len
  gap : ∀ from' len, entryFileSize entry ≤ from' → from' + len ≤ offset →
    fs'.reads entry' from' len = some (.ok (List.replicate len 0))
  size : entryFileSize entry' = max (entryFileSize entry) (offset + src.length)
  others : ∀ other ds, entryAttr other 0 &&& attrDirectory = 0 → View.FileChain fs.vol fs.view other ds →
    ds.Disjoint cs → entryFileSize other ≤ ds.length * fs.vol.bytesPerCluster →
    ∀ from' len, from' + len < 2 ^ 64 → fs'.reads other from' len = fs.reads other from' len

/-- Between the old end of the file and the offset, its clusters hold zeros. -/
def BlankGap (v : Volume) (t : View) (cs : List Nat) (size offset : Nat) : Prop :=
  ∀ j, size ≤ j → j < offset → (t.raw v (t.startChain v cs)).getD j 0 = 0

section Contents

variable {v : Volume} {t u : View}

/-- **The bytes of the file** after a write. -/
lemma content_written (hw : Written v t entry cs offset src entry' u) (hfile : entryAttr entry 0 &&& attrDirectory = 0)
    (hfits : entryFileSize entry ≤ cs.length * v.bytesPerCluster) :
    ∃ ds q, Stores v u entry' ds q ∧ ∀ j, j < max (entryFileSize entry) (offset + src.length) →
      (u.content v entry' ds)[j]? = some (if offset ≤ j ∧ j < offset + src.length then src.getD (j - offset) 0
        else (t.raw v (t.startChain v cs)).getD j 0) := by
  obtain ⟨ps, pad, ⟨q, hchain, -⟩, hpad, hblank, hlong, hraw⟩ := hw.file
  have hstart : entryFileSize entry ≤ (t.startChain v cs).length * v.bytesPerCluster := by
    unfold startChain
    split_ifs with hnone
    · subst hnone
      rw [List.length_nil] at hfits
      omega
    · exact hfits
  generalize t.startChain v cs = ds at hchain hblank hlong hraw hstart ⊢
  have hlength := length_raw v t ds
  rw [List.length_append, Nat.add_mul] at hlong
  have hstores : Stores v u entry' (ds ++ ps) q := by
    refine ⟨hw.attr ▸ hfile, hchain, ?_⟩
    simp [hw.size, Nat.add_mul]
    omega
  refine ⟨ds ++ ps, q, hstores, fun j hj => ?_⟩
  have hroom : offset + src.length ≤ (t.raw v ds ++ pad).length := by
    simp
    omega
  rw [content, hw.size, List.getElem?_take_of_lt hj, hraw, getElem?_overwrite hroom]
  split_ifs with hin
  · rw [List.getD_eq_getElem?_getD, List.getElem?_eq_getElem (by omega)]
    rfl
  · rcases Nat.lt_or_ge j (t.raw v ds).length with hold | hnew
    · rw [List.getElem?_append_left hold, List.getD_eq_getElem?_getD, List.getElem?_eq_getElem hold]
      rfl
    · -- behind the clusters that the file had there is only what the write added
      have hzero := hblank (j - (t.raw v ds).length) (by omega)
      rw [List.getD_eq_getElem?_getD] at hzero
      rw [List.getElem?_append_right hnew, List.getD_eq_getElem?_getD, List.getElem?_eq_none hnew,
        List.getElem?_eq_getElem (by omega)]
      rw [List.getElem?_eq_getElem (by omega)] at hzero
      exact congrArg some hzero

lemma window_congr {l m : List UInt8} {a b len : Nat} (h : ∀ j < len, l[a + j]? = m[b + j]?) :
    (l.drop a).take len = (m.drop b).take len := by
  refine List.ext_getElem? fun j => ?_
  rw [List.getElem?_take, List.getElem?_take]
  split_ifs with hj
  · rw [List.getElem?_drop, List.getElem?_drop, h j hj]
  · rfl

lemma window_eq {l m : List UInt8} {a : Nat} (h : ∀ j < m.length, l[a + j]? = m[j]?) :
    (l.drop a).take m.length = m := by
  have hwindow : (l.drop a).take m.length = (m.drop 0).take m.length := window_congr (by simpa using h)
  simp [hwindow]

end Contents

section Reads

variable (hfs : fs.Sound) (hv : fs.vol.Regular) (hfile : entryAttr entry 0 &&& attrDirectory = 0)
  (hchain : View.FileChain fs.vol fs.view entry cs) (hfits : entryFileSize entry ≤ cs.length * fs.vol.bytesPerCluster)
include hfs hv hfile hchain hfits

omit hfile hchain hfits in
lemma reads_other {u : View} (hu : Shows fs.vol fs' u)
    (hkept : ∀ c, c ∉ cs → fs.view.next c ≠ clusterFree → u.next c = fs.view.next c ∧ u.data c = fs.view.data c)
    {other : Mem} {ds : List Nat} (hother : entryAttr other 0 &&& attrDirectory = 0)
    (hds : View.FileChain fs.vol fs.view other ds) (hdisjoint : ds.Disjoint cs)
    (hroom : entryFileSize other ≤ ds.length * fs.vol.bytesPerCluster) {from' len : Nat} (hlen : from' + len < 2 ^ 64) :
    fs'.reads other from' len = fs.reads other from' len := by
  have hsame : ∀ c ∈ ds, u.next c = fs.view.next c ∧ u.data c = fs.view.data c := by
    intro c hc
    have hends := hds.ends (List.ne_nil_of_mem hc)
    exact hkept c (fun hmem => hdisjoint hc hmem) (hends.not_free hc)
  obtain ⟨q, hstores⟩ := hds.stores hother hroom
  obtain ⟨q', hstores'⟩ := (hds.congr fun c hc _ => (hsame c hc).1).stores hother hroom
  rw [hu.reads hv hstores' hlen, (shows_view hfs).reads hv hstores hlen, content, content,
    raw_congr fun c hc => (hsame c hc).2]

lemma writesBack_of_written (hend : offset + src.length < 2 ^ 32) {u : View}
    (hu : Shows fs.vol fs' u) (hw : Written fs.vol fs.view entry cs offset src entry' u) (hret : ret = src.length) :
    WritesBack fs fs' entry entry' cs ret offset src ↔ BlankGap fs.vol fs.view cs (entryFileSize entry) offset := by
  have hsize := entryFileSize_lt entry
  obtain ⟨q, hbefore⟩ := hchain.stores hfile hfits
  obtain ⟨ds, q', hafter, hbytes⟩ := content_written hw hfile hfits
  have hreads : ∀ a n, a + n < 2 ^ 64 → fs'.reads entry' a n =
      some (.ok (((u.content fs.vol entry' ds).drop a).take n)) := fun a n hn => hu.reads hv hafter hn
  constructor
  · intro hback j hj hgap
    have hzero := hback.gap j 1 hj hgap
    rw [hreads j 1 (by omega)] at hzero
    have hbyte := hbytes j (by omega)
    rw [if_neg (by omega)] at hbyte
    have hone := congrArg (fun l : List UInt8 => l[0]?) (Except.ok.inj (Option.some.inj hzero))
    rw [List.getElem?_take_of_lt (by decide), List.getElem?_drop, Nat.add_zero, hbyte] at hone
    exact Option.some.inj hone
  · intro hblank
    refine ⟨hret, ?_, fun a n hn hout => ?_, fun a n ha hn => ?_, hw.size, fun other es hother hes hdisjoint hroom a n hn =>
      reads_other hfs hv hu hw.kept hother hes hdisjoint hroom hn⟩
    · rw [hreads offset src.length (by omega)]
      refine congrArg (fun l => some (Except.ok l)) (window_eq fun j hj => ?_)
      rw [hbytes (offset + j) (by omega), if_pos (by omega), Nat.add_sub_cancel_left, List.getD_eq_getElem?_getD,
        List.getElem?_eq_getElem hj]
      rfl
    · rw [hreads a n (by omega), (shows_view hfs).reads hv hbefore (by omega)]
      refine congrArg (fun l => some (Except.ok l)) (window_congr fun j hj => ?_)
      have hne : cs ≠ [] := by
        rintro rfl
        rw [List.length_nil] at hfits
        omega
      have hroom := length_raw fs.vol fs.view cs
      rw [hbytes (a + j) (by omega), if_neg (by omega), startChain, if_neg hne, content,
        List.getElem?_take_of_lt (by omega), List.getD_eq_getElem?_getD, List.getElem?_eq_getElem (by omega)]
      rfl
    · rw [hreads a n (by omega)]
      refine congrArg (fun l => some (Except.ok l)) ?_
      have hzeros := window_eq (l := u.content fs.vol entry' ds) (m := List.replicate n 0) (a := a) fun j hj => by
        rw [List.length_replicate] at hj
        rw [hbytes (a + j) (by omega), if_neg (by omega), hblank (a + j) (by omega) (by omega), List.getElem?_replicate,
          if_pos hj]
      rwa [List.length_replicate] at hzeros

lemma writesBack_nil (hend : offset < 2 ^ 32) (hu : Shows fs.vol fs' fs.view) :
    WritesBack fs fs' entry entry cs 0 offset [] ↔ offset ≤ entryFileSize entry := by
  have hsize := entryFileSize_lt entry
  obtain ⟨q, hstores⟩ := hchain.stores hfile hfits
  have hreads : ∀ a n, a + n < 2 ^ 64 → fs'.reads entry a n = fs.reads entry a n := fun a n hn => by
    rw [hu.reads hv hstores hn, (shows_view hfs).reads hv hstores hn]
  have hnone : ∀ a, a < 2 ^ 64 → fs'.reads entry a 0 = some (.ok []) := fun a ha => by
    rw [hu.reads hv hstores (by omega), List.take_zero]
  constructor
  · intro hback
    have hmax := hback.size
    omega
  · intro hin
    refine ⟨rfl, hnone offset (by omega), fun a n hn _ => hreads a n (by omega), fun a n ha hn => ?_, ?_,
      fun other es hother hes hdisjoint hroom a n hn =>
        reads_other hfs hv hu (fun c _ _ => ⟨rfl, rfl⟩) hother hes hdisjoint hroom hn⟩
    · obtain rfl : n = 0 := by omega
      exact hnone a (by omega)
    · simp
      omega

end Reads

/-- **Reading back what was written.**  Where the searches for free clusters start inside the volume, a write does what it
should exactly if the clusters of the file hold zeros between its old end and the offset, and an empty write is not
behind the end. -/
theorem writesBack_iff (hfs : fs.Sound) (hv : fs.vol.Regular) (hfile : entryAttr entry 0 &&& attrDirectory = 0)
    (hchain : View.FileChain fs.vol fs.view entry cs)
    (hfits : entryFileSize entry ≤ cs.length * fs.vol.bytesPerCluster) (hend : offset + src.length < 2 ^ 32)
    (henough : fs.vol.lacking cs offset src.length ≤ (fs.view.freeClusters fs.vol).card)
    (hinside : fs.vol.SearchesInside (fs.vol.lacking cs offset src.length) (fs.view.freeClusters fs.vol)
      fs.info.nextFreeCluster)
    (hfuel : fs.vol.totalClusters ≤ fuel) :
    ∃ ret entry' fs', (fat32WriteFile fs.vol fuel entry src offset).run fatMachine fs = some ((ret, entry'), fs') ∧
      (WritesBack fs fs' entry entry' cs ret offset src ↔ (src = [] → offset ≤ entryFileSize entry) ∧
          BlankGap fs.vol fs.view cs (entryFileSize entry) offset) := by
  by_cases hsrc : src = []
  · subst hsrc
    obtain ⟨r, fs', u, hrun, hu, rfl, rfl⟩ := (shows_view hfs).run
      (p := fat32WriteFile fs.vol fuel entry [] offset) hv (wp_fat32WriteFile_nil hfs.writable hfile)
    refine ⟨0, entry, fs', hrun, (writesBack_nil hfs hv hfile hchain hfits hend hu).trans ⟨fun hin => ?_, fun h => h.1 rfl⟩⟩
    exact ⟨fun _ => hin, fun j hj hlt => absurd hlt (by omega)⟩
  · obtain ⟨r, fs', u, hrun, hu, hret, hw⟩ := (shows_view hfs).run hv
      (wp_fat32WriteFile hv hfs.writable hfuel hfile hchain hsrc hend ⟨henough, hinside⟩)
    refine ⟨r.1, r.2, fs', hrun, (writesBack_of_written hfs hv hfile hchain hfits hend hu hw hret).trans ?_⟩
    exact ⟨fun h => ⟨fun hnil => absurd hnil hsrc, h⟩, fun h => h.2⟩

/-! ## A file of one byte -/

/-- Cluster two is the chain of a file, and its second byte is left over. -/
def staleDisk : Device :=
  ⟨Function.update (writeLE tinyDisk.bytes 520 4 clusterEof) (3 * 512 + 1) 7, fun _ => false, fun _ => false⟩

/-- The volume on `staleDisk` as it is mounted. -/
def staleFs : Fat32Fs := { tinyFs with device := staleDisk }

/-- The entry of the file. -/
def staleEntry : Mem := setEntryFileSize (fat32EntrySetCluster (fun _ => 0) 0 2) 1

lemma staleFs_sound : staleFs.Sound :=
  sound_of_empty (fun _ => ⟨rfl, rfl⟩) (fun _ => ⟨rfl, rfl⟩) tinyFs_layout rfl

lemma staleEntry_file : entryAttr staleEntry 0 &&& attrDirectory = 0 ∧ entryFileSize staleEntry = 1 ∧
    fat32EntryCluster staleEntry 0 = 2 := by decide

lemma staleEntry_chain : View.FileChain staleFs.vol staleFs.view staleEntry [2] := by
  refine ⟨clusterEof, ⟨⟨rfl, show staleFs.view.next 2 = clusterEof by decide⟩, fun c hc => ?_⟩, by decide⟩
  obtain rfl := List.mem_singleton.mp hc
  exact ⟨by decide, by decide⟩

/-- A second byte is written behind the first. -/
theorem writesBack_one_byte : ∃ ret entry' fs',
    (fat32WriteFile staleFs.vol 13 staleEntry [9] 1).run fatMachine staleFs = some ((ret, entry'), fs') ∧
      WritesBack staleFs fs' staleEntry entry' [2] ret 1 [9] := by
  have hlacking : staleFs.vol.lacking [2] 1 [(9 : UInt8)].length = 0 := rfl
  obtain ⟨ret, entry', fs', hrun, hiff⟩ : ∃ ret entry' fs',
      (fat32WriteFile staleFs.vol 13 staleEntry [9] 1).run fatMachine staleFs = some ((ret, entry'), fs') ∧
        (WritesBack staleFs fs' staleEntry entry' [2] ret 1 [9] ↔
          (([9] : List UInt8) = [] → 1 ≤ entryFileSize staleEntry) ∧
            BlankGap staleFs.vol staleFs.view [2] (entryFileSize staleEntry) 1) :=
    writesBack_iff staleFs_sound tinyFs_regular staleEntry_file.1 staleEntry_chain
      (by rw [staleEntry_file.2.1]; decide) (by decide) (by rw [hlacking]; exact Nat.zero_le _)
      (by rw [hlacking]; trivial) le_rfl
  refine ⟨ret, entry', fs', hrun, hiff.mpr ⟨fun hnil => absurd hnil (by decide), fun j hj hlt => ?_⟩⟩
  rw [staleEntry_file.2.1] at hj
  exact absurd hlt (by omega)

/-- The byte between the old end and the offset is not zero. -/
theorem stale_byte : ∃ ret entry' fs',
    (fat32WriteFile staleFs.vol 13 staleEntry [9] 2).run fatMachine staleFs = some ((ret, entry'), fs') ∧
      fs'.reads entry' 1 1 = some (.ok [7]) ∧ ¬ WritesBack staleFs fs' staleEntry entry' [2] ret 2 [9] := by
  obtain ⟨⟨⟨ret, entry'⟩, fs'⟩, hrun, hread⟩ := Option.map_eq_some_iff.mp
    (show ((fat32WriteFile staleFs.vol 13 staleEntry [9] 2).run fatMachine staleFs).map
      (fun r => r.2.reads r.1.2 1 1) = some (some (.ok [7])) by decide +kernel)
  refine ⟨ret, entry', fs', hrun, hread, fun hback => ?_⟩
  have hgap := hback.gap 1 1 (by rw [staleEntry_file.2.1]) le_rfl
  rw [hread] at hgap
  exact absurd (Except.ok.inj (Option.some.inj hgap)) (by decide)

end Fat32Fs

end AAAos
