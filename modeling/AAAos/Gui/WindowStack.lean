import AAAos.Gui.WindowLinks
import AAAos.Lib.Trace
import Mathlib.Data.List.Pairwise

/-!
# The stack of windows

The links, the numbers, the flags and `active_window` all describe one stack.

**What is proved.**  After fewer than `2 ^ 30` calls on live windows, whatever the heap answers, they agree: both
directions visit the live windows once, the numbers go up, every buffer has the pixels of its window, and the
window that is marked active is `active_window` (`windowStack_of_steps`).
-/

namespace AAAos

/-! ## Flags -/

namespace WindowData

variable {d : WindowData} {flag other : UInt32}

lemma has_eq_true_iff : d.has flag = true ↔ d.flags &&& flag ≠ 0 := by simp [has]

lemma and_or_distrib (x a b : UInt32) : (x ||| a) &&& b = x &&& b ||| a &&& b :=
  UInt32.toBitVec_inj.mp (BitVec.and_or_distrib_right ..)

lemma has_set_of (h : flag &&& other = 0) : (d.set flag).has other = d.has other := by
  simp only [has, set, and_or_distrib, h, UInt32.or_zero]

lemma has_set (h : flag ≠ 0) : (d.set flag).has flag = true := by
  rw [has_eq_true_iff]
  have hself : (d.flags ||| flag) &&& flag = flag := by
    apply UInt32.toBitVec_inj.mp
    ext i
    simpa using Or.inr
  simp only [set, hself]
  exact h

lemma has_clear_of (h : ~~~flag &&& other = other) : (d.clear flag).has other = d.has other := by
  simp only [has, clear, UInt32.and_assoc, h]

lemma has_clear : (d.clear flag).has flag = false := by
  have hnone : ~~~flag &&& flag = 0 := by
    rw [UInt32.and_comm]
    exact UInt32.and_not_self
  simp only [has, clear, UInt32.and_assoc, hnone, UInt32.and_zero, bne_self_eq_false]

end WindowData

/-! ## Pixels -/

/-- A buffer of as many pixels as the window has. -/
structure WindowData.Shaped (d : WindowData) : Prop where
  width : 0 < d.width.toInt
  height : 0 < d.height.toInt
  buffer : (d.buffer.length : Int) = d.width.toInt * d.height.toInt

lemma toNat_size {w : Int32} (hw : 0 < w.toInt) : w.toInt64.toUInt64.toNat = w.toInt.toNat := by
  have hle : 0 ≤ w.toInt64 := by
    rw [Int64.le_iff_toInt_le, Int32.toInt_toInt64]
    exact hw.le
  simp [Int64.toNat_toUInt64_of_le hle]

lemma length_whiteBuffer {w h : Int32} (hw : 0 < w.toInt) (hh : 0 < h.toInt) :
    (whiteBuffer w h).length = w.toInt.toNat * h.toInt.toNat := by
  have hw' : w.toInt.toNat < 2 ^ 31 := by have := w.toInt_lt; omega
  have hh' : h.toInt.toNat < 2 ^ 31 := by have := h.toInt_lt; omega
  have hsmall : w.toInt.toNat * h.toInt.toNat * 4 < 2 ^ 64 := by
    have hmul : w.toInt.toNat * h.toInt.toNat ≤ (2 ^ 31 - 1) * (2 ^ 31 - 1) :=
      Nat.mul_le_mul (by omega) (by omega)
    omega
  have hsize : (bufferSize w h).toNat = w.toInt.toNat * h.toInt.toNat * 4 := by
    rw [bufferSize, UInt64.toNat_mul, UInt64.toNat_mul, toNat_size hw, toNat_size hh,
      Nat.mod_eq_of_lt (a := w.toInt.toNat * h.toInt.toNat) (by omega)]
    exact Nat.mod_eq_of_lt hsmall
  simp [whiteBuffer, hsize]

lemma length_copyRow {old new : List UInt32} {oldWidth width copyW row : Nat}
    (hold : row * oldWidth + copyW ≤ old.length) (hnew : row * width + copyW ≤ new.length) :
    (copyRow old oldWidth width copyW new row).length = new.length := by
  simp only [copyRow, List.length_append, List.length_take, List.length_drop]
  omega

lemma length_copyRows {d : WindowData} {w h : Int32} (hd : d.Shaped) (hw : 0 < w.toInt) (hh : 0 < h.toInt) :
    (copyRows d w h).length = w.toInt.toNat * h.toInt.toNat := by
  have hold : d.buffer.length = d.height.toInt.toNat * d.width.toInt.toNat := by
    have hbuffer := hd.buffer
    have hdw := Int.toNat_of_nonneg hd.width.le
    have hdh := Int.toNat_of_nonneg hd.height.le
    rw [← hdw, ← hdh] at hbuffer
    rw [Nat.mul_comm]
    exact_mod_cast hbuffer
  unfold copyRows
  generalize hcw : min d.width.toInt.toNat w.toInt.toNat = copyW
  generalize hch : min d.height.toInt.toNat h.toInt.toNat = copyH
  -- Rows below `copyH`, one after another, and the length stays.
  have hrows : ∀ rows : List Nat, (∀ row ∈ rows, row < copyH) → ∀ new : List UInt32,
      new.length = w.toInt.toNat * h.toInt.toNat →
      (rows.foldl (copyRow d.buffer d.width.toInt.toNat w.toInt.toNat copyW) new).length =
        w.toInt.toNat * h.toInt.toNat := by
    intro rows
    induction rows with
    | nil => exact fun _ new hnew => hnew
    | cons row rows ih =>
      intro hrows new hnew
      have hrow : row < copyH := hrows row List.mem_cons_self
      apply ih (fun r hr => hrows r (List.mem_cons_of_mem _ hr))
      rw [length_copyRow, hnew]
      · have hle : (row + 1) * d.width.toInt.toNat ≤ d.height.toInt.toNat * d.width.toInt.toNat :=
          Nat.mul_le_mul_right _ (by omega)
        rw [Nat.add_one_mul] at hle
        omega
      · have hle : (row + 1) * w.toInt.toNat ≤ h.toInt.toNat * w.toInt.toNat :=
          Nat.mul_le_mul_right _ (by omega)
        rw [Nat.add_one_mul] at hle
        rw [hnew, Nat.mul_comm w.toInt.toNat]
        omega
  apply hrows
  · intro row hrow
    exact List.mem_range.mp hrow
  · exact length_whiteBuffer hw hh

/-! ## Numbers -/

lemma toInt_add_one {z : Int32} (h : z.toInt < 2 ^ 30) : (z + 1).toInt = z.toInt + 1 := by
  have hle := z.le_toInt
  rw [Int32.toInt_add]
  exact Int.bmod_eq_of_le (by simp; omega) (by simp; omega)

lemma toInt_sub_one {z : Int32} (h : -(2 ^ 30 : Int) ≤ z.toInt) : (z - 1).toInt = z.toInt - 1 := by
  have hlt := z.toInt_lt
  rw [Int32.toInt_sub]
  exact Int.bmod_eq_of_le (by simp; omega) (by simp; omega)

namespace Compositor

variable {s t : Compositor} {n : Nat} {stack stack' l r : List WindowPtr} {v w : WindowPtr}

/-- What the windows of a stack say of themselves, after `n` calls. -/
structure Described (n : Nat) (s : Compositor) (stack : List WindowPtr) : Prop where
  ordered : stack.Pairwise fun v w => (s.data v).zOrder.toInt < (s.data w).zOrder.toInt
  lowest : ∀ w ∈ stack, -(n : Int) ≤ (s.data w).zOrder.toInt
  below : ∀ w ∈ stack, (s.data w).zOrder.toInt < s.nextZOrder.toInt
  nextZOrder : 0 ≤ s.nextZOrder.toInt ∧ s.nextZOrder.toInt ≤ n
  shaped : ∀ w ∈ stack, (s.data w).Shaped
  active : ∀ w ∈ stack, (s.data w).has windowFlagActive = true ↔ s.activeWindow = w
  focus : s.activeWindow = 0 ∨ s.activeWindow ∈ stack

/-- The live windows are those of the stack, and counted. -/
structure Counted (s : Compositor) (stack : List WindowPtr) : Prop where
  live : ∀ w, w ∈ stack ↔ s.live w = true
  count : s.windowCount.toNat = stack.length
  room : stack.length ≤ compositorMaxWindows

/-- The invariant, after `n` calls. -/
structure Stacked (n : Nat) (s : Compositor) (stack : List WindowPtr) : Prop where
  links : s.Links stack
  described : Described n s stack
  counted : Counted s stack

/-! ## Windows that do not move in the stack -/

/-- A change that keeps the number, the mark and the shape. -/
structure Harmless (f : WindowData → WindowData) : Prop where
  zOrder : ∀ d, (f d).zOrder = d.zOrder
  active : ∀ d, (f d).has windowFlagActive = d.has windowFlagActive
  shaped : ∀ d : WindowData, d.Shaped → (f d).Shaped

lemma harmless_set {flag : UInt32} (h : flag &&& windowFlagActive = 0) : Harmless (·.set flag) :=
  ⟨fun _ => rfl, fun _ => WindowData.has_set_of h, fun _ hd => ⟨hd.width, hd.height, hd.buffer⟩⟩

lemma harmless_clear {flag : UInt32} (h : ~~~flag &&& windowFlagActive = windowFlagActive) :
    Harmless (·.clear flag) :=
  ⟨fun _ => rfl, fun _ => WindowData.has_clear_of h, fun _ hd => ⟨hd.width, hd.height, hd.buffer⟩⟩

lemma harmless_moveTo {x y : WindowData → Int32} : Harmless fun d => d.moveTo (x d) (y d) :=
  ⟨fun _ => rfl, fun _ => rfl, fun _ hd => ⟨hd.width, hd.height, hd.buffer⟩⟩

lemma harmless_savePlace : Harmless (·.savePlace) :=
  ⟨fun _ => rfl, fun _ => rfl, fun _ hd => ⟨hd.width, hd.height, hd.buffer⟩⟩

lemma harmless_resizeTo {w h : Int32} (hw : 0 < w.toInt) (hh : 0 < h.toInt) : Harmless (·.resizeTo w h) := by
  refine ⟨fun _ => rfl, fun _ => rfl, fun d hd => ⟨hw, hh, ?_⟩⟩
  have hlen : (d.resizeTo w h).buffer.length = w.toInt.toNat * h.toInt.toNat := length_copyRows hd hw hh
  rw [hlen]
  push_cast
  rw [Int.toNat_of_nonneg hw.le, Int.toNat_of_nonneg hh.le]
  rfl

namespace Described

lemma mono (h : Described n s stack) : Described (n + 1) s stack where
  ordered := h.ordered
  lowest w hw := by
    have := h.lowest w hw
    omega
  below := h.below
  nextZOrder := by
    have := h.nextZOrder
    omega
  shaped := h.shaped
  active := h.active
  focus := h.focus

lemma relinked (h : Described n s stack) (hr : Relinked s t) : Described n t stack where
  ordered := hr.data ▸ h.ordered
  lowest := hr.data ▸ h.lowest
  below := hr.data ▸ hr.nextZOrder ▸ h.below
  nextZOrder := hr.nextZOrder ▸ h.nextZOrder
  shaped := hr.data ▸ h.shaped
  active := hr.data ▸ hr.activeWindow ▸ h.active
  focus := hr.activeWindow ▸ h.focus

lemma sublist (h : Described n s stack) (hsub : stack'.Sublist stack)
    (hfocus : s.activeWindow = 0 ∨ s.activeWindow ∈ stack') : Described n s stack' where
  ordered := h.ordered.sublist hsub
  lowest w hw := h.lowest w (hsub.subset hw)
  below w hw := h.below w (hsub.subset hw)
  nextZOrder := h.nextZOrder
  shaped w hw := h.shaped w (hsub.subset hw)
  active w hw := h.active w (hsub.subset hw)
  focus := hfocus

lemma modify {f : WindowData → WindowData} (h : Described n s stack) (hf : Harmless f) :
    Described n (s.modify w f) stack := by
  have hdata : ∀ v, ((s.modify w f).data v).zOrder = (s.data v).zOrder ∧
      ((s.modify w f).data v).has windowFlagActive = (s.data v).has windowFlagActive ∧
      ((s.data v).Shaped → ((s.modify w f).data v).Shaped) := by
    intro v
    rw [data_modify]
    split_ifs with hvw
    · exact ⟨hf.zOrder _, hf.active _, hf.shaped _⟩
    · exact ⟨rfl, rfl, id⟩
  exact
    { ordered := by
        simp only [(hdata _).1]
        exact h.ordered
      lowest := by
        simp only [(hdata _).1]
        exact h.lowest
      below := by
        simp only [(hdata _).1]
        exact h.below
      nextZOrder := h.nextZOrder
      shaped := fun v hv => (hdata v).2.2 (h.shaped v hv)
      active := by
        simp only [(hdata _).2.1]
        exact h.active
      focus := h.focus }

end Described

lemma links_modify {f : WindowData → WindowData} : (s.modify w f).Links stack ↔ s.Links stack := by
  unfold Links
  rw [next_modify, prev_modify]
  exact Iff.rfl

lemma Links.setActive (h : s.Links stack) : (s.compositorSetActiveWindow w).Links stack := by
  have hold : s.deactivate.Links stack := by
    unfold deactivate
    split_ifs
    · exact links_modify.mpr h
    · exact h
  unfold compositorSetActiveWindow
  split_ifs
  · exact links_modify.mpr hold
  · exact hold

lemma windowCount_setActive : (s.compositorSetActiveWindow w).windowCount = s.windowCount := by
  unfold compositorSetActiveWindow deactivate
  split_ifs <;> rfl

lemma live_setActive : (s.compositorSetActiveWindow w).live = s.live := by
  unfold compositorSetActiveWindow deactivate
  split_ifs <;> rfl

lemma Counted.setActive (h : Counted s stack) : Counted (s.compositorSetActiveWindow w) stack := by
  refine ⟨?_, ?_, h.room⟩
  · rw [live_setActive]
    exact h.live
  · rw [windowCount_setActive]
    exact h.count

/-- A window that stays, however it is marked. -/
def SameButFlags (d e : WindowData) : Prop := ∃ flags, e = { d with flags := flags }

lemma SameButFlags.refl (d : WindowData) : SameButFlags d d := ⟨d.flags, rfl⟩

lemma SameButFlags.trans {d e f : WindowData} (h : SameButFlags d e) (h' : SameButFlags e f) : SameButFlags d f := by
  obtain ⟨flags, rfl⟩ := h
  obtain ⟨flags', rfl⟩ := h'
  exact ⟨flags', rfl⟩

lemma sameButFlags_modify {f : WindowData → WindowData} (hf : ∀ d, SameButFlags d (f d)) (v : WindowPtr) :
    SameButFlags (s.data v) ((s.modify w f).data v) := by
  rw [data_modify]
  split_ifs
  · exact hf _
  · exact .refl _

lemma Described.remark (h : Described n s stack) (hdata : ∀ v ∈ stack, SameButFlags (s.data v) (t.data v))
    (hz : t.nextZOrder = s.nextZOrder)
    (hactive : ∀ v ∈ stack, (t.data v).has windowFlagActive = true ↔ t.activeWindow = v)
    (hfocus : t.activeWindow = 0 ∨ t.activeWindow ∈ stack) : Described n t stack := by
  have hzOrder : ∀ v ∈ stack, (t.data v).zOrder = (s.data v).zOrder := by
    intro v hv
    obtain ⟨flags, he⟩ := hdata v hv
    rw [he]
  exact
    { ordered := h.ordered.imp_of_mem fun hv hw hlt => by rwa [hzOrder _ hv, hzOrder _ hw]
      lowest := fun v hv => by rw [hzOrder v hv]; exact h.lowest v hv
      below := fun v hv => by rw [hzOrder v hv, hz]; exact h.below v hv
      nextZOrder := by rw [hz]; exact h.nextZOrder
      shaped := by
        intro v hv
        obtain ⟨flags, he⟩ := hdata v hv
        have hs := h.shaped v hv
        rw [he]
        exact ⟨hs.width, hs.height, hs.buffer⟩
      active := hactive
      focus := hfocus }

lemma Described.deactivate (h : Described n s stack) (h0 : 0 ∉ stack) (hv : v ∈ stack) :
    SameButFlags (s.data v) (s.deactivate.data v) ∧ (s.deactivate.data v).has windowFlagActive = false := by
  have hclear : ∀ d : WindowData, SameButFlags d (d.clear windowFlagActive) := fun d => ⟨_, rfl⟩
  unfold Compositor.deactivate
  by_cases hactive : s.activeWindow = v
  · subst hactive
    have hne : s.activeWindow ≠ 0 := fun hc => h0 (hc ▸ hv)
    rw [if_pos hne]
    refine ⟨sameButFlags_modify hclear _, ?_⟩
    rw [data_modify, if_pos rfl]
    exact WindowData.has_clear
  · have hfalse : (s.data v).has windowFlagActive = false := by
      rw [← Bool.not_eq_true]
      exact fun hc => hactive ((h.active v hv).mp hc)
    split_ifs
    · refine ⟨sameButFlags_modify hclear _, ?_⟩
      rwa [data_modify, if_neg (Ne.symm hactive)]
    · exact ⟨.refl _, hfalse⟩

/-- **Activating** a window of the stack, or none. -/
lemma Described.setActive (h : Described n s stack) (h0 : 0 ∉ stack) (hw : w = 0 ∨ w ∈ stack) :
    Described n (s.compositorSetActiveWindow w) stack := by
  have hz : s.deactivate.nextZOrder = s.nextZOrder := by
    unfold Compositor.deactivate
    split_ifs <;> rfl
  have hold := fun v (hv : v ∈ stack) => h.deactivate h0 hv
  unfold compositorSetActiveWindow
  generalize s.deactivate = u at hold hz ⊢
  by_cases hw0 : w = 0
  · rw [if_neg (not_not.mpr hw0)]
    refine h.remark (t := { u with activeWindow := w }) (fun v hv => (hold v hv).1) hz ?_ (Or.inl hw0)
    intro v hv
    refine ⟨fun hc => absurd (hc.symm.trans (hold v hv).2) (by decide), ?_⟩
    rintro rfl
    exact absurd (hw0 ▸ hv) h0
  · rw [if_pos hw0]
    have hset : ∀ d : WindowData, SameButFlags d (d.set windowFlagActive) := fun d => ⟨_, rfl⟩
    have hdata : ∀ v, (({ u with activeWindow := w } : Compositor).modify w (·.set windowFlagActive)).data v =
        if v = w then (u.data v).set windowFlagActive else u.data v := fun v => data_modify
    refine h.remark ?_ hz ?_ (Or.inr (hw.resolve_left hw0))
    · intro v hv
      exact (hold v hv).1.trans (sameButFlags_modify (s := { u with activeWindow := w }) hset v)
    · intro v hv
      rw [hdata]
      split_ifs with hvw
      · exact ⟨fun _ => hvw.symm, fun _ => WindowData.has_set (by decide)⟩
      · rw [(hold v hv).2]
        exact ⟨fun hc => absurd hc (by decide), fun hc => absurd hc.symm hvw⟩

lemma Stacked.setActive (h : Stacked n s stack) (hw : w = 0 ∨ w ∈ stack) :
    Stacked n (s.compositorSetActiveWindow w) stack :=
  ⟨h.links.setActive, h.described.setActive h.links.notNull hw, h.counted.setActive⟩

lemma Stacked.modify {f : WindowData → WindowData} (h : Stacked n s stack) (hf : Harmless f) :
    Stacked n (s.modify w f) stack :=
  ⟨links_modify.mpr h.links, h.described.modify hf, ⟨h.counted.live, h.counted.count, h.counted.room⟩⟩

/-! ## Windows that move -/

lemma data_setZOrder {z : Int32} :
    (s.setZOrder w z).data v = if v = w then { s.data v with zOrder := z } else s.data v := data_modify

lemma links_setZOrder {z z' : Int32} : Links { s.setZOrder w z with nextZOrder := z' } stack ↔ s.Links stack :=
  @links_modify s stack w fun d => { d with zOrder := z }

lemma Described.restack {z z' : Int32} (h : Described n s stack) (hperm : stack'.Perm stack)
    (hordered : stack'.Pairwise fun v w' =>
      ((s.setZOrder w z).data v).zOrder.toInt < ((s.setZOrder w z).data w').zOrder.toInt)
    (hlowest : -(n + 1 : Int) ≤ z.toInt) (hbelow : z.toInt < z'.toInt)
    (hnext : s.nextZOrder.toInt ≤ z'.toInt ∧ z'.toInt ≤ n + 1) :
    Described (n + 1) { s.setZOrder w z with nextZOrder := z' } stack' := by
  have hdata : ∀ v, ({ s.setZOrder w z with nextZOrder := z' } : Compositor).data v =
      if v = w then { s.data v with zOrder := z } else s.data v := fun v => data_setZOrder
  exact
    { ordered := hordered
      lowest := by
        intro v hv
        rw [hdata]
        have hlow := h.lowest v (hperm.mem_iff.mp hv)
        split_ifs
        · exact hlowest
        · omega
      below := by
        intro v hv
        rw [hdata]
        have hbel := h.below v (hperm.mem_iff.mp hv)
        split_ifs
        · exact hbelow
        · exact hbel.trans_le hnext.1
      nextZOrder := by
        have := h.nextZOrder
        dsimp only
        omega
      shaped := by
        intro v hv
        have hs := h.shaped v (hperm.mem_iff.mp hv)
        rw [hdata]
        split_ifs
        · exact ⟨hs.width, hs.height, hs.buffer⟩
        · exact hs
      active := by
        intro v hv
        have hmark := h.active v (hperm.mem_iff.mp hv)
        rw [hdata]
        split_ifs <;> exact hmark
      focus := h.focus.imp_right hperm.mem_iff.mpr }

lemma Described.others (h : Described n s (l ++ w :: r)) (hnew : w ∉ l ++ r) {z : Int32} :
    (∀ v ∈ l ++ r, (s.setZOrder w z).data v = s.data v) ∧ (l ++ r).Pairwise fun v w' =>
        ((s.setZOrder w z).data v).zOrder.toInt < ((s.setZOrder w z).data w').zOrder.toInt := by
  have hsame : ∀ v ∈ l ++ r, (s.setZOrder w z).data v = s.data v := by
    intro v hv
    rw [data_setZOrder, if_neg]
    rintro rfl
    exact hnew hv
  refine ⟨hsame, ?_⟩
  have hsub : (l ++ r).Sublist (l ++ w :: r) := (List.sublist_cons_self w r).append_left l
  exact (h.ordered.sublist hsub).imp_of_mem fun hv hw hlt => by rwa [hsame _ hv, hsame _ hw]

/-- The window that is taken out is still described and counted. -/
structure Unlinked (n : Nat) (s u : Compositor) (l r : List WindowPtr) (w : WindowPtr) : Prop where
  links : u.Links (l ++ r)
  described : Described n u (l ++ w :: r)
  counted : Counted u (l ++ w :: r)
  ne_zero : w ≠ 0
  new : w ∉ l ++ r
  nextZOrder : u.nextZOrder = s.nextZOrder
  activeWindow : u.activeWindow = s.activeWindow

lemma Stacked.unlink (h : Stacked n s (l ++ w :: r)) : Unlinked n s (s.compositorUnlinkWindow w) l r w where
  links := links_unlink h.links
  described := h.described.relinked relinked_unlink
  counted := by
    have hr := relinked_unlink (s := s) (w := w)
    exact ⟨hr.live ▸ h.counted.live, hr.windowCount ▸ h.counted.count, h.counted.room⟩
  ne_zero := h.links.ne_zero (by simp)
  new := (List.nodup_cons.mp (List.nodup_middle.mp h.links.nodup)).1
  nextZOrder := relinked_unlink.nextZOrder
  activeWindow := relinked_unlink.activeWindow

lemma Counted.relinked (h : Counted s stack) (hr : Relinked s t) (hperm : stack'.Perm stack) : Counted t stack' where
  live v := by
    rw [hperm.mem_iff, hr.live]
    exact h.live v
  count := by
    rw [hperm.length_eq, hr.windowCount]
    exact h.count
  room := by
    rw [hperm.length_eq]
    exact h.room

/-- **Raising** a window that is not in front. -/
lemma Stacked.raise (h : Stacked n s (l ++ w :: r)) (hn : n < 2 ^ 30) (hback : w ≠ s.windowTail) :
    Stacked (n + 1) (s.compositorRaiseWindow w) (l ++ r ++ [w]) := by
  have hperm : (l ++ r ++ [w]).Perm (l ++ w :: r) := by
    rw [List.append_assoc]
    exact (List.perm_append_singleton w r).append_left l
  have hu := h.unlink
  rw [compositorRaiseWindow, if_neg hu.ne_zero, if_neg hback]
  generalize s.compositorUnlinkWindow w = u at hu ⊢
  have hbounds := hu.described.nextZOrder
  have hnext : (u.nextZOrder + 1).toInt = u.nextZOrder.toInt + 1 := toInt_add_one (by omega)
  obtain ⟨hsame, hothers⟩ := hu.described.others hu.new (z := u.nextZOrder)
  have hfirst : Described (n + 1)
      { u.setZOrder w u.nextZOrder with nextZOrder := u.nextZOrder + 1 } (l ++ r ++ [w]) := by
    apply hu.described.restack hperm
    · refine List.pairwise_append.mpr ⟨hothers, List.pairwise_singleton _ _, ?_⟩
      intro v hv w' hw'
      obtain rfl := List.mem_singleton.mp hw'
      rw [hsame v hv, data_setZOrder, if_pos rfl]
      exact hu.described.below v (hperm.mem_iff.mp (List.mem_append_left _ hv))
    · omega
    · omega
    · omega
  have hlinks : Links { u.setZOrder w u.nextZOrder with nextZOrder := u.nextZOrder + 1 }
      (l ++ r) := links_setZOrder.mpr hu.links
  have hcounted : Counted { u.setZOrder w u.nextZOrder with nextZOrder := u.nextZOrder + 1 }
      (l ++ w :: r) := ⟨hu.counted.live, hu.counted.count, hu.counted.room⟩
  have hlinked : Stacked (n + 1)
      (compositorLinkWindow { u.setZOrder w u.nextZOrder with
        nextZOrder := u.nextZOrder + 1 } w) (l ++ r ++ [w]) :=
    ⟨links_link hlinks hu.ne_zero hu.new, hfirst.relinked relinked_link, hcounted.relinked relinked_link hperm⟩
  exact hlinked.setActive (Or.inr (by simp))

/-- **Lowering** a window that is not at the back. -/
lemma Stacked.lower (h : Stacked n s (l ++ w :: r)) (hn : n < 2 ^ 30) (hfront : w ≠ s.windowList) :
    Stacked (n + 1) (s.compositorLowerWindow w) (w :: (l ++ r)) := by
  have hperm : (w :: (l ++ r)).Perm (l ++ w :: r) := List.perm_middle.symm
  have hu := h.unlink
  obtain ⟨first, l, rfl⟩ : ∃ first l', l = first :: l' := by
    cases l with
    | nil => exact absurd h.links.head_eq.symm hfront
    | cons first l' => exact ⟨first, l', rfl⟩
  rw [compositorLowerWindow, if_neg hu.ne_zero, if_neg hfront]
  generalize s.compositorUnlinkWindow w = u at hu ⊢
  dsimp only
  have hlist : u.windowList = first := hu.links.head_eq
  have hne : u.windowList ≠ 0 := by
    rw [hlist]
    exact hu.links.ne_zero (by simp)
  rw [if_pos hne, hlist]
  have hmem : first ∈ first :: l ++ w :: r := by simp
  have hlow := hu.described.lowest first hmem
  have hbelow := hu.described.below first hmem
  have hbounds := hu.described.nextZOrder
  have hz : ((u.win first).zOrder - 1).toInt = (u.data first).zOrder.toInt - 1 := toInt_sub_one (by
    have hsame : (u.win first).zOrder = (u.data first).zOrder := rfl
    rw [hsame]
    omega)
  obtain ⟨hsame, hothers⟩ := hu.described.others hu.new (z := (u.win first).zOrder - 1)
  have hnumbered : Described (n + 1) (u.setZOrder w ((u.win first).zOrder - 1)) (w :: (first :: l ++ r)) := by
    apply @Described.restack u n _ _ w _ u.nextZOrder hu.described hperm
    · refine List.pairwise_cons.mpr ⟨?_, hothers⟩
      intro v hv
      rw [hsame v hv, data_setZOrder, if_pos rfl, hz]
      rcases List.mem_cons.mp hv with rfl | hv
      · omega
      · have hsorted := hu.described.ordered
        rw [List.cons_append, List.pairwise_cons] at hsorted
        have hmem : v ∈ l ++ w :: r := by
          rcases List.mem_append.mp hv with hv | hv
          · exact List.mem_append_left _ hv
          · exact List.mem_append_right _ (List.mem_cons_of_mem _ hv)
        have hlt := hsorted.1 v hmem
        omega
    · omega
    · omega
    · omega
  have hcounted : Counted (u.setZOrder w ((u.win first).zOrder - 1)) (first :: l ++ w :: r) :=
    ⟨hu.counted.live, hu.counted.count, hu.counted.room⟩
  exact
    ⟨links_linkAtFront (links_setZOrder.mpr hu.links) hu.ne_zero hu.new,
      hnumbered.relinked relinked_linkAtFront, hcounted.relinked relinked_linkAtFront hperm⟩

/-! ## Windows that come and go -/

lemma whiteBuffer_shaped {d : WindowData} (hw : 0 < d.width.toInt) (hh : 0 < d.height.toInt)
    (hbuffer : d.buffer = whiteBuffer d.width d.height) : d.Shaped := by
  refine ⟨hw, hh, ?_⟩
  rw [hbuffer, length_whiteBuffer hw hh]
  push_cast
  rw [Int.toNat_of_nonneg hw.le, Int.toNat_of_nonneg hh.le]

lemma Described.born {p : WindowPtr} (h : Described n s stack) (hn : n < 2 ^ 30) (hp : p ≠ 0) (hnew : p ∉ stack)
    (hsame : ∀ v ∈ stack, t.data v = s.data v) (hz : (t.data p).zOrder = s.nextZOrder)
    (hnext : t.nextZOrder = s.nextZOrder + 1) (hshaped : (t.data p).Shaped)
    (hmark : (t.data p).has windowFlagActive = false) (hactive : t.activeWindow = s.activeWindow) :
    Described (n + 1) t (stack ++ [p]) := by
  have hbounds := h.nextZOrder
  have hnext' : t.nextZOrder.toInt = s.nextZOrder.toInt + 1 := by
    rw [hnext]
    exact toInt_add_one (by omega)
  have hcases : ∀ v ∈ stack ++ [p], v ∈ stack ∨ v = p := by simp
  exact
    { ordered := by
        refine List.pairwise_append.mpr ⟨?_, List.pairwise_singleton _ _, ?_⟩
        · exact h.ordered.imp_of_mem fun hv hw hlt => by rwa [hsame _ hv, hsame _ hw]
        · intro v hv w hw
          obtain rfl := List.mem_singleton.mp hw
          rw [hsame v hv, hz]
          exact h.below v hv
      lowest := by
        intro v hv
        rcases hcases v hv with hv | rfl
        · have hlow := h.lowest v hv
          rw [hsame v hv]
          omega
        · rw [hz]
          omega
      below := by
        intro v hv
        rcases hcases v hv with hv | rfl
        · have hbel := h.below v hv
          rw [hsame v hv]
          omega
        · rw [hz]
          omega
      nextZOrder := by
        omega
      shaped := by
        intro v hv
        rcases hcases v hv with hv | rfl
        · rw [hsame v hv]
          exact h.shaped v hv
        · exact hshaped
      active := by
        intro v hv
        rw [hactive]
        rcases hcases v hv with hv | rfl
        · rw [hsame v hv]
          exact h.active v hv
        · refine ⟨fun hc => absurd (hc.symm.trans hmark) (by decide), ?_⟩
          intro hc
          rcases h.focus with h0 | hmem
          · exact absurd (hc.symm.trans h0) hp
          · exact absurd (hc ▸ hmem) hnew
      focus := by
        rw [hactive]
        exact h.focus.imp_right (List.mem_append_left _) }

lemma Stacked.created {p : WindowPtr} {d : WindowData} (hs : Stacked n s stack) (hn : n < 2 ^ 30) (hp : p ≠ 0)
    (hnew : p ∉ stack) (hroom : s.windowCount.toNat < compositorMaxWindows) (hz : d.zOrder = s.nextZOrder)
    (hshaped : d.Shaped) (hmark : d.has windowFlagActive = false) :
    let t := ((s.placeWindow p d).compositorLinkWindow p).compositorSetActiveWindow p
    Stacked (n + 1) { t with windowCount := t.windowCount + 1, windowsCreated := t.windowsCreated + 1 }
      (stack ++ [p]) := by
  have hwin : ∀ v ∈ stack, (s.placeWindow p d).win v = s.win v := by
    intro v hv
    have hne : v ≠ p := fun hc => hnew (hc ▸ hv)
    exact Function.update_of_ne hne _ _
  have hself : (s.placeWindow p d).data p = d := by simp [data, placeWindow]
  have hplaced : (s.placeWindow p d).Links stack :=
    DoublyLinked.congr hs.links (fun v hv => congrArg (·.next) (hwin v hv)) fun v hv =>
      congrArg (·.prev) (hwin v hv)
  have hdescribed : Described (n + 1) (s.placeWindow p d) (stack ++ [p]) := by
    apply hs.described.born hn hp hnew
    · exact fun v hv => congrArg (·.toWindowData) (hwin v hv)
    · rwa [hself]
    · rfl
    · rwa [hself]
    · rwa [hself]
    · rfl
  have hlinks := links_link hplaced hp hnew
  have hmem : p ∈ stack ++ [p] := by simp
  have hlinked := (hdescribed.relinked (relinked_link (w := p))).setActive hlinks.notNull (Or.inr hmem)
  intro t
  have hlive : t.live = Function.update s.live p true := live_setActive.trans relinked_link.live
  have hcount : t.windowCount = s.windowCount := windowCount_setActive.trans relinked_link.windowCount
  refine ⟨hlinks.setActive, ⟨hlinked.ordered, hlinked.lowest, hlinked.below, hlinked.nextZOrder, hlinked.shaped,
    hlinked.active, hlinked.focus⟩, ?_⟩
  exact
    { live := by
        intro v
        rw [hlive, List.mem_append]
        by_cases hvp : v = p
        · subst hvp
          simp
        · rw [hs.counted.live]
          simp [hvp]
      count := by
        have hlen := hs.counted.count
        have hmax : compositorMaxWindows = 64 := rfl
        rw [hcount, List.length_append, ← hlen]
        exact Nat.mod_eq_of_lt (by simp; omega)
      room := by
        have hlen := hs.counted.count
        rwa [List.length_append, ← hlen] }

/-- **Creating** a window. -/
lemma Stacked.create {x y w h : Int32} {title : Option CString} {answer : CreateAnswer}
    (hs : Stacked n s stack) (hn : n < 2 ^ 30)
    (hfree : ∀ p, answer.window = some p → p ≠ 0 ∧ s.live p = false) :
    ∃ stack', Stacked (n + 1) (s.compositorCreateWindow x y w h title answer).2 stack' := by
  have hsame : ∃ stack', Stacked (n + 1) s stack' := ⟨stack, hs.links, hs.described.mono, hs.counted⟩
  unfold compositorCreateWindow
  by_cases hinit : (!s.initialized) = true
  · rwa [if_pos hinit]
  rw [if_neg hinit]
  by_cases hroom : compositorMaxWindows ≤ s.windowCount.toNat
  · rwa [if_pos hroom]
  rw [if_neg hroom]
  by_cases hsize : w ≤ 0 ∨ h ≤ 0
  · rwa [if_pos hsize]
  rw [if_neg hsize]
  cases hwindow : answer.window with
  | none => exact hsame
  | some p =>
    obtain ⟨hp, hdead⟩ := hfree p hwindow
    by_cases hbuffer : (!answer.buffer) = true
    · dsimp only
      rwa [if_pos hbuffer]
    dsimp only
    rw [if_neg hbuffer]
    have hnew : p ∉ stack := by
      rw [hs.counted.live, hdead]
      exact Bool.false_ne_true
    have hshaped : (s.newWindow x y w h title).Shaped := by
      refine whiteBuffer_shaped ?_ ?_ rfl
      · exact not_le.mp fun hc => hsize (Or.inl (Int32.le_iff_toInt_le.mpr hc))
      · exact not_le.mp fun hc => hsize (Or.inr (Int32.le_iff_toInt_le.mpr hc))
    have hmark : (windowFlagsDefault &&& windowFlagActive != 0) = false := by decide
    exact ⟨_, hs.created hn hp hnew (by omega) rfl hshaped hmark⟩

lemma Described.orphaned (h : Described n s stack) (hsub : stack'.Sublist stack) (hgone : s.activeWindow ∉ stack')
    (h0 : 0 ∉ stack') : Described n { s with activeWindow := 0 } stack' where
  ordered := h.ordered.sublist hsub
  lowest w hw := h.lowest w (hsub.subset hw)
  below w hw := h.below w (hsub.subset hw)
  nextZOrder := h.nextZOrder
  shaped w hw := h.shaped w (hsub.subset hw)
  active w hw := by
    refine ⟨fun hc => ?_, ?_⟩
    · exact absurd ((h.active w (hsub.subset hw)).mp hc ▸ hw) hgone
    · rintro rfl
      exact absurd hw h0
  focus := Or.inl rfl

lemma activateTail_eq :
    s.activateTail = ({ s with activeWindow := 0 } : Compositor).compositorSetActiveWindow s.windowTail := by
  simp [activateTail, compositorSetActiveWindow, deactivate]

/-- **Destroying** a window. -/
lemma Stacked.destroy (h : Stacked n s (l ++ w :: r)) : Stacked n (s.compositorDestroyWindow w) (l ++ r) := by
  have hu := h.unlink
  have hsub : (l ++ r).Sublist (l ++ w :: r) := (List.sublist_cons_self w r).append_left l
  have h0 : 0 ∉ l ++ r := fun hc => h.links.notNull (hsub.subset hc)
  rw [compositorDestroyWindow, if_neg hu.ne_zero]
  generalize s.compositorUnlinkWindow w = u at hu ⊢
  dsimp only
  -- What is left when another window has taken over.
  have hleft : (if u.activeWindow = w then u.activateTail else u).Links (l ++ r) ∧
      Described n (if u.activeWindow = w then u.activateTail else u) (l ++ r) ∧
      (if u.activeWindow = w then u.activateTail else u).live = u.live ∧
      (if u.activeWindow = w then u.activateTail else u).windowCount = u.windowCount := by
    by_cases hactive : u.activeWindow = w
    · have htail : u.windowTail = 0 ∨ u.windowTail ∈ l ++ r := by
        by_cases hne : u.windowTail = 0
        · exact Or.inl hne
        · exact Or.inr (hu.links.tail_mem hne)
      have horphan : Described n { u with activeWindow := 0 } (l ++ r) :=
        hu.described.orphaned hsub (hactive ▸ hu.new) h0
      have hlinks : Links { u with activeWindow := 0 } (l ++ r) := hu.links
      rw [if_pos hactive, activateTail_eq]
      exact ⟨hlinks.setActive, horphan.setActive h0 htail, live_setActive, windowCount_setActive⟩
    · rw [if_neg hactive]
      refine ⟨hu.links, hu.described.sublist hsub ?_, rfl, rfl⟩
      rcases hu.described.focus with hnone | hmem
      · exact Or.inl hnone
      · simp only [List.mem_append, List.mem_cons] at hmem ⊢
        tauto
  generalize (if u.activeWindow = w then u.activateTail else u) = t at hleft ⊢
  obtain ⟨hlinks, hdescribed, hlive, hcount⟩ := hleft
  refine ⟨hlinks, ⟨hdescribed.ordered, hdescribed.lowest, hdescribed.below, hdescribed.nextZOrder,
    hdescribed.shaped, hdescribed.active, hdescribed.focus⟩, ?_⟩
  have hlen : u.windowCount.toNat = (l ++ r).length + 1 := by
    simp [hu.counted.count, Nat.add_assoc]
  have hroom := hu.counted.room
  exact
    { live := by
        intro v
        show v ∈ l ++ r ↔ Function.update t.live w false v = true
        by_cases hvw : v = w
        · subst hvw
          rw [Function.update_self]
          exact ⟨fun hc => absurd hc hu.new, fun hc => absurd hc Bool.false_ne_true⟩
        · rw [Function.update_of_ne hvw, hlive, ← hu.counted.live]
          simp [hvw]
      count := by
        have hone : (1 : UInt32) ≤ u.windowCount := by
          rw [UInt32.le_iff_toNat_le, hlen]
          simp
        rw [hcount, UInt32.toNat_sub_of_le _ _ hone, hlen]
        simp
      room := hsub.length_le.trans hroom }

/-! ## The other calls -/

/-- **Resizing** a window, whether there is memory or not. -/
lemma Stacked.resize {w h : Int32} {p : WindowPtr} {buffer : Bool} (hs : Stacked n s stack) :
    Stacked n (s.compositorResizeWindow p w h buffer).2 stack := by
  unfold compositorResizeWindow
  split_ifs with h0 hfixed hsize hmem
  · exact hs
  · exact hs
  · exact hs
  · exact hs
  · have hw : 0 < w.toInt := not_le.mp fun hc => hsize (Or.inl (Int32.le_iff_toInt_le.mpr hc))
    have hh : 0 < h.toInt := not_le.mp fun hc => hsize (Or.inr (Int32.le_iff_toInt_le.mpr hc))
    exact hs.modify (harmless_resizeTo hw hh)

lemma Stacked.move {x y : Int32} (h : Stacked n s stack) : Stacked n (s.compositorMoveWindow w x y) stack := by
  unfold compositorMoveWindow
  split_ifs
  · exact h
  · exact h
  · exact h.modify harmless_moveTo

lemma Stacked.setVisible {visible : Bool} (h : Stacked n s stack) :
    Stacked n (s.compositorSetWindowVisible w visible) stack := by
  unfold compositorSetWindowVisible
  split_ifs
  · exact h
  · exact h
  · exact h.modify (harmless_set (by decide))
  · exact h.modify (harmless_clear (by decide))

lemma Stacked.maximize {buffer : Bool} (h : Stacked n s stack) :
    Stacked n (s.compositorMaximizeWindow w buffer) stack := by
  unfold compositorMaximizeWindow
  split_ifs
  · exact h
  · exact h
  · have hsaved := h.modify (w := w) harmless_savePlace
    have hmarked := hsaved.modify (w := w) (@harmless_set windowFlagMaximized (by decide))
    have hshown := hmarked.modify (w := w) (@harmless_clear windowFlagMinimized (by decide))
    exact (hshown.modify harmless_moveTo).resize

lemma Stacked.mono (h : Stacked n s stack) : Stacked (n + 1) s stack := ⟨h.links, h.described.mono, h.counted⟩

lemma Stacked.raised (h : Stacked n s stack) (hn : n < 2 ^ 30) (hw : w ∈ stack) :
    ∃ stack', Stacked (n + 1) (s.compositorRaiseWindow w) stack' := by
  obtain ⟨l, r, rfl⟩ := List.append_of_mem hw
  by_cases hback : w = s.windowTail
  · have hsame : s.compositorRaiseWindow w = s := by
      simp [compositorRaiseWindow, hback]
    rw [hsame]
    exact ⟨_, h.mono⟩
  · exact ⟨_, h.raise hn hback⟩

lemma Stacked.lowered (h : Stacked n s stack) (hn : n < 2 ^ 30) (hw : w ∈ stack) :
    ∃ stack', Stacked (n + 1) (s.compositorLowerWindow w) stack' := by
  obtain ⟨l, r, rfl⟩ := List.append_of_mem hw
  by_cases hfront : w = s.windowList
  · have hsame : s.compositorLowerWindow w = s := by
      simp [compositorLowerWindow, hfront]
    rw [hsame]
    exact ⟨_, h.mono⟩
  · exact ⟨_, h.lower hn hfront⟩

lemma Stacked.restore {buffer : Bool} (h : Stacked n s stack) (hn : n < 2 ^ 30) (hw : w ∈ stack) :
    ∃ stack', Stacked (n + 1) (s.compositorRestoreWindow w buffer) stack' := by
  have hshown : ∃ stack', Stacked (n + 1) (if (s.win w).has windowFlagMinimized = true then
      (s.modify w (·.clear windowFlagMinimized)).compositorRaiseWindow w else s) stack' := by
    split_ifs
    · exact (h.modify (harmless_clear (by decide))).raised hn hw
    · exact ⟨_, h.mono⟩
  rw [compositorRestoreWindow, if_neg (h.links.ne_zero hw)]
  generalize (if (s.win w).has windowFlagMinimized = true then
      (s.modify w (·.clear windowFlagMinimized)).compositorRaiseWindow w else s) = u at hshown ⊢
  obtain ⟨stack', hu⟩ := hshown
  dsimp only
  split_ifs
  · have hcleared := hu.modify (w := w) (@harmless_clear windowFlagMaximized (by decide))
    exact ⟨_, (hcleared.modify harmless_moveTo).resize⟩
  · exact ⟨_, hu⟩

lemma nextVisible_of_seg {fuel : Nat} {p : WindowPtr} {back : List WindowPtr} (h : Seg s.prev p back 0)
    (h0 : 0 ∉ back) (hfuel : back.length < fuel) : ∃ q, s.nextVisible fuel p = some q ∧ (q = 0 ∨ q ∈ back) := by
  induction fuel generalizing p back with
  | zero => exact absurd hfuel (Nat.not_lt_zero _)
  | succ fuel ih =>
    rw [nextVisible]
    split_ifs with hskip
    · cases back with
      | nil => exact absurd h hskip.1
      | cons x back =>
        obtain ⟨rfl, hrest⟩ := h
        obtain ⟨q, hq, hmem⟩ := ih hrest (fun hc => h0 (List.mem_cons_of_mem _ hc))
          (by simpa using hfuel)
        exact ⟨q, hq, hmem.imp_right (List.mem_cons_of_mem _)⟩
    · refine ⟨p, rfl, ?_⟩
      cases back with
      | nil => exact Or.inl h
      | cons x back => exact Or.inr (h.1 ▸ List.mem_cons_self)

/-- **Minimizing** a window returns. -/
lemma Stacked.minimize (h : Stacked n s stack) (hw : w ∈ stack) :
    ∃ t, s.compositorMinimizeWindow w = some t ∧ Stacked n t stack := by
  rw [compositorMinimizeWindow, if_neg (h.links.ne_zero hw)]
  split_ifs with hmin
  · exact ⟨s, rfl, h⟩
  have hu := h.modify (w := w) (@harmless_set windowFlagMinimized (by decide))
  generalize s.modify w (·.set windowFlagMinimized) = u at hu ⊢
  dsimp only
  split_ifs with hactive
  · obtain ⟨l, r, rfl⟩ := List.append_of_mem hw
    have hback := hu.links.backward
    rw [DoublyLinked.reverse_split] at hback
    obtain ⟨q, -, rfl, hrest⟩ := Seg.append.mp hback
    have hnull : 0 ∉ l.reverse := fun hc =>
      hu.links.notNull (List.mem_append_left _ (List.mem_reverse.mp hc))
    have hcount := hu.counted.count
    have hlen : l.reverse.length < u.windowCount.toNat + 1 := by
      rw [hcount, List.length_reverse, List.length_append]
      omega
    obtain ⟨v, hv, hmem⟩ := nextVisible_of_seg hrest hnull hlen
    refine ⟨u.compositorSetActiveWindow v, ?_, ?_⟩
    · show (u.nextVisible _ (u.prev q)).map _ = _
      rw [hv]
      rfl
    · apply hu.setActive
      exact hmem.imp_right fun hc => List.mem_append_left _ (List.mem_reverse.mp hc)
  · exact ⟨u, rfl, hu⟩

/-! ## Runs -/

/-- `NULL` is passed over. -/
lemma Stacked.passable (h : Stacked n s stack) (hw : s.Passable w) : w = 0 ∨ w ∈ stack :=
  hw.imp_right (h.counted.live w).mpr

lemma stacked_call {c : WindowCall} (h : Stacked n s stack) (hn : n < 2 ^ 30) (hc : s.Guard c) :
    ∃ t, s.call c = some t ∧ ∃ stack', Stacked (n + 1) t stack' := by
  cases c with
  | create x y w h' title answer => exact ⟨_, rfl, h.create hn hc⟩
  | destroy w =>
    refine ⟨_, rfl, ?_⟩
    rcases h.passable hc with rfl | hw
    · exact ⟨_, h.mono⟩
    · obtain ⟨l, r, rfl⟩ := List.append_of_mem hw
      exact ⟨_, h.destroy.mono⟩
  | move w x y => exact ⟨_, rfl, _, h.move.mono⟩
  | resize p w h' buffer => exact ⟨_, rfl, _, h.resize.mono⟩
  | raise w =>
    refine ⟨_, rfl, ?_⟩
    rcases h.passable hc with rfl | hw
    · exact ⟨_, h.mono⟩
    · exact h.raised hn hw
  | lower w =>
    refine ⟨_, rfl, ?_⟩
    rcases h.passable hc with rfl | hw
    · exact ⟨_, h.mono⟩
    · exact h.lowered hn hw
  | setActive w => exact ⟨_, rfl, _, (h.setActive (h.passable hc)).mono⟩
  | minimize w =>
    rcases h.passable hc with rfl | hw
    · exact ⟨s, rfl, _, h.mono⟩
    · obtain ⟨t, ht, hstack⟩ := h.minimize hw
      exact ⟨t, ht, _, hstack.mono⟩
  | maximize w buffer => exact ⟨_, rfl, _, h.maximize.mono⟩
  | restore w buffer =>
    refine ⟨_, rfl, ?_⟩
    rcases h.passable hc with rfl | hw
    · exact ⟨_, h.mono⟩
    · exact h.restore hn hw
  | setVisible w visible => exact ⟨_, rfl, _, h.setVisible.mono⟩

lemma stacked_init (width height : UInt32) (backBuffer framebuffer : Bool) :
    Stacked 0 (compositorInit width height backBuffer framebuffer).2 [] := by
  have hempty : ∀ s : Compositor, s.windowList = 0 → s.windowTail = 0 → s.windowCount = 0 →
      s.activeWindow = 0 → s.nextZOrder = 0 → (∀ w, s.live w = false) → Stacked 0 s [] := by
    intro s hlist htail hcount hactive hz hlive
    exact
      { links := ⟨hlist, htail, List.nodup_nil, List.not_mem_nil⟩
        described := ⟨.nil, nofun, nofun, by rw [hz]; decide, nofun, nofun, Or.inl hactive⟩
        counted := ⟨fun w => by simp [hlive w], by rw [hcount]; rfl, Nat.zero_le _⟩ }
  unfold compositorInit
  split_ifs <;> exact hempty _ rfl rfl rfl rfl rfl fun _ => rfl

/-- **The windows are a stack**: `stack` is the live windows from back to front. -/
structure WindowStack (s : Compositor) (stack : List WindowPtr) : Prop where
  forward : Seg (fun w => (s.win w).next) s.windowList stack 0
  backward : Seg (fun w => (s.win w).prev) s.windowTail stack.reverse 0
  once : stack.Nodup
  live : ∀ w, w ∈ stack ↔ s.live w = true
  count : s.windowCount.toNat = stack.length
  room : stack.length ≤ compositorMaxWindows
  ordered : stack.Pairwise fun v w => (s.win v).zOrder.toInt < (s.win w).zOrder.toInt
  buffers : ∀ w ∈ stack, ((s.win w).buffer.length : Int) = (s.win w).width.toInt * (s.win w).height.toInt
  active : ∀ w ∈ stack, (s.win w).has windowFlagActive = true ↔ s.activeWindow = w
  focus : s.activeWindow = 0 ∨ s.activeWindow ∈ stack
  notNull : 0 ∉ stack

lemma Stacked.windowStack (h : Stacked n s stack) : WindowStack s stack where
  forward := h.links.forward
  backward := h.links.backward
  once := h.links.nodup
  live := h.counted.live
  count := h.counted.count
  room := h.counted.room
  ordered := h.described.ordered
  buffers w hw := (h.described.shaped w hw).buffer
  active := h.described.active
  focus := h.described.focus
  notNull := h.links.notNull

/-- **After fewer than `2 ^ 30` calls the windows are a stack**, and the next call returns. -/
theorem windowStack_of_steps (width height : UInt32) (backBuffer framebuffer : Bool) {calls : List WindowCall}
    (hrun : Steps WindowStep (compositorInit width height backBuffer framebuffer).2 calls s)
    (hlen : calls.length < 2 ^ 30) :
    (∃ stack, WindowStack s stack) ∧ ∀ c, s.Guard c → ∃ t, WindowStep s c t := by
  have hstep : ∀ n s c t, n < 2 ^ 30 → (∃ stack, Stacked n s stack) → WindowStep s c t →
      ∃ stack, Stacked (n + 1) t stack := by
    intro n s c t hn hs ht
    obtain ⟨stack, h⟩ := hs
    obtain ⟨t', ht', hstack⟩ := stacked_call h hn ht.1
    rw [ht.2, Option.some.injEq] at ht'
    exact ht' ▸ hstack
  obtain ⟨stack, h⟩ := hrun.counted (I := fun n s => ∃ stack, Stacked n s stack) hstep (n := 0) (by omega)
    ⟨[], stacked_init ..⟩
  refine ⟨⟨stack, h.windowStack⟩, ?_⟩
  intro c hc
  obtain ⟨t, ht, -⟩ := stacked_call h (by omega) hc
  exact ⟨t, hc, ht⟩

/-- Two windows, of which the first is raised and then minimized. -/
theorem windowStack_of_four_calls : ∃ s, Steps WindowStep (compositorInit 800 600 true true).2
    [.create 10 10 4 3 none ⟨some 4096, true⟩, .create 20 20 2 2 none ⟨some 8192, true⟩, .raise 4096,
      .minimize 4096] s ∧ ∃ stack, WindowStack s stack := by
  have hfree : ∀ (s : Compositor) (p : WindowPtr), p ≠ 0 → s.live p = false →
      ∀ q, some p = some q → q ≠ 0 ∧ s.live q = false := by
    rintro s p hp hlive q hq
    obtain rfl := Option.some.inj hq
    exact ⟨hp, hlive⟩
  have hrun : ∃ s, Steps WindowStep (compositorInit 800 600 true true).2
      [.create 10 10 4 3 none ⟨some 4096, true⟩, .create 20 20 2 2 none ⟨some 8192, true⟩, .raise 4096,
        .minimize 4096] s := by
    refine ⟨_, .cons ⟨hfree _ _ (by decide) rfl, rfl⟩ (.cons ⟨hfree _ _ (by decide) rfl, rfl⟩
      (.cons ⟨Or.inr rfl, rfl⟩ (.cons ⟨Or.inr rfl, rfl⟩ (.nil _))))⟩
  obtain ⟨s, hs⟩ := hrun
  exact ⟨s, hs, (windowStack_of_steps 800 600 true true hs (by decide)).1⟩

end Compositor

end AAAos
