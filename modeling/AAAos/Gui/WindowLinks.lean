import AAAos.Gui.Compositor
import AAAos.Lib.DoublyLinked

/-!
# The links of the windows

What the updates of `gui/compositor/compositor.c` change, field by field, and what linking and unlinking does to the
list of windows: `Links s stack` says that both directions visit `stack`.

**What is proved.**  A window is taken out of the list (`links_unlink`) or put at an end of it (`links_link`,
`links_linkAtFront`), and nothing but links is different then (`Relinked`).
-/

namespace AAAos.Compositor

variable {s t : Compositor} {v w : WindowPtr}

/-! ## What an update changes -/

def data (s : Compositor) (w : WindowPtr) : WindowData := (s.win w).toWindowData

def next (s : Compositor) (w : WindowPtr) : WindowPtr := (s.win w).next

def prev (s : Compositor) (w : WindowPtr) : WindowPtr := (s.win w).prev

section

variable {f : WindowData → WindowData} {p : WindowPtr}

@[simp] lemma data_modify : (s.modify w f).data v = if v = w then f (s.data v) else s.data v := by
  unfold data modify
  by_cases h : v = w
  · subst h
    simp
  · simp [h]

@[simp] lemma next_modify : (s.modify w f).next = s.next := by
  funext v
  unfold next modify
  by_cases h : v = w
  · subst h
    simp
  · simp [h]

@[simp] lemma prev_modify : (s.modify w f).prev = s.prev := by
  funext v
  unfold prev modify
  by_cases h : v = w
  · subst h
    simp
  · simp [h]

@[simp] lemma data_setNext : (s.setNext w p).data = s.data := by
  funext v
  unfold data setNext
  by_cases h : v = w
  · subst h
    simp
  · simp [h]

@[simp] lemma next_setNext : (s.setNext w p).next v = if v = w then p else s.next v := by
  unfold next setNext
  by_cases h : v = w
  · subst h
    simp
  · simp [h]

@[simp] lemma prev_setNext : (s.setNext w p).prev = s.prev := by
  funext v
  unfold prev setNext
  by_cases h : v = w
  · subst h
    simp
  · simp [h]

@[simp] lemma data_setPrev : (s.setPrev w p).data = s.data := by
  funext v
  unfold data setPrev
  by_cases h : v = w
  · subst h
    simp
  · simp [h]

@[simp] lemma next_setPrev : (s.setPrev w p).next = s.next := by
  funext v
  unfold next setPrev
  by_cases h : v = w
  · subst h
    simp
  · simp [h]

@[simp] lemma prev_setPrev : (s.setPrev w p).prev v = if v = w then p else s.prev v := by
  unfold prev setPrev
  by_cases h : v = w
  · subst h
    simp
  · simp [h]

lemma next_setAfter : (s.setAfter w p).next v = if v = w ∧ w ≠ 0 then p else s.next v := by
  unfold setAfter
  by_cases h : w = 0
  · simp [h]
    rfl
  · simp [h]

lemma prev_setAfter : (s.setAfter w p).prev = s.prev := by
  unfold setAfter
  by_cases h : w = 0
  · simp [h]
    rfl
  · simp [h]

lemma windowList_setAfter : (s.setAfter w p).windowList = if w = 0 then p else s.windowList := by
  unfold setAfter setNext
  by_cases h : w = 0
  · simp [h]
  · simp [h]

lemma windowTail_setAfter : (s.setAfter w p).windowTail = s.windowTail := by
  unfold setAfter setNext
  by_cases h : w = 0
  · simp [h]
  · simp [h]

lemma next_setBefore : (s.setBefore w p).next = s.next := by
  unfold setBefore
  by_cases h : w = 0
  · simp [h]
    rfl
  · simp [h]

lemma prev_setBefore : (s.setBefore w p).prev v = if v = w ∧ w ≠ 0 then p else s.prev v := by
  unfold setBefore
  by_cases h : w = 0
  · simp [h]
    rfl
  · simp [h]

lemma windowList_setBefore : (s.setBefore w p).windowList = s.windowList := by
  unfold setBefore setPrev
  by_cases h : w = 0
  · simp [h]
  · simp [h]

lemma windowTail_setBefore : (s.setBefore w p).windowTail = if w = 0 then p else s.windowTail := by
  unfold setBefore setPrev
  by_cases h : w = 0
  · simp [h]
  · simp [h]

end

/-- What changing links leaves as it is. -/
structure Relinked (s t : Compositor) : Prop where
  data : t.data = s.data
  live : t.live = s.live
  windowCount : t.windowCount = s.windowCount
  activeWindow : t.activeWindow = s.activeWindow
  nextZOrder : t.nextZOrder = s.nextZOrder

lemma Relinked.refl : Relinked s s := ⟨rfl, rfl, rfl, rfl, rfl⟩

lemma Relinked.trans {u : Compositor} (h : Relinked s t) (h' : Relinked t u) : Relinked s u where
  data := h'.data.trans h.data
  live := h'.live.trans h.live
  windowCount := h'.windowCount.trans h.windowCount
  activeWindow := h'.activeWindow.trans h.activeWindow
  nextZOrder := h'.nextZOrder.trans h.nextZOrder

section

variable {p : WindowPtr}

lemma relinked_setNext : Relinked s (s.setNext w p) := ⟨data_setNext, rfl, rfl, rfl, rfl⟩

lemma relinked_setPrev : Relinked s (s.setPrev w p) := ⟨data_setPrev, rfl, rfl, rfl, rfl⟩

lemma relinked_windowList : Relinked s { s with windowList := p } := ⟨rfl, rfl, rfl, rfl, rfl⟩

lemma relinked_windowTail : Relinked s { s with windowTail := p } := ⟨rfl, rfl, rfl, rfl, rfl⟩

lemma relinked_ends {l r : WindowPtr} : Relinked s { s with windowList := l, windowTail := r } :=
  ⟨rfl, rfl, rfl, rfl, rfl⟩

lemma relinked_setAfter : Relinked s (s.setAfter w p) := by
  unfold setAfter
  split_ifs
  · exact relinked_setNext
  · exact relinked_windowList

lemma relinked_setBefore : Relinked s (s.setBefore w p) := by
  unfold setBefore
  split_ifs
  · exact relinked_setPrev
  · exact relinked_windowTail

end

lemma relinked_unlink : Relinked s (s.compositorUnlinkWindow w) := by
  unfold compositorUnlinkWindow
  split_ifs
  · exact .refl
  · exact ((relinked_setAfter.trans relinked_setBefore).trans relinked_setPrev).trans relinked_setNext

lemma relinked_link : Relinked s (s.compositorLinkWindow w) := by
  unfold compositorLinkWindow
  split_ifs
  · exact .refl
  · exact ((relinked_setPrev.trans relinked_setNext).trans relinked_setAfter).trans relinked_windowTail

lemma relinked_linkAtFront : Relinked s (s.linkAtFront w) := by
  unfold linkAtFront
  have hcell : Relinked s ((s.setPrev w 0).setNext w s.windowList) := relinked_setPrev.trans relinked_setNext
  generalize (s.setPrev w 0).setNext w s.windowList = u at hcell ⊢
  dsimp only
  by_cases hlist : u.windowList ≠ 0
  · rw [if_pos hlist]
    exact (hcell.trans relinked_setPrev).trans relinked_ends
  · rw [if_neg hlist]
    exact hcell.trans relinked_ends

/-! ## Links -/

/-- The windows of the list, from back to front. -/
def Links (s : Compositor) (stack : List WindowPtr) : Prop :=
  DoublyLinked 0 s.next s.prev s.windowList s.windowTail stack

section

variable {stack l r : List WindowPtr}

lemma Links.ne_zero (h : s.Links stack) (hw : w ∈ stack) : w ≠ 0 := by
  rintro rfl
  exact h.notNull hw

lemma Links.prev_ne (h : s.Links (l ++ w :: r)) : s.prev w ≠ w := by
  intro hsame
  have hprev := h.prev_eq
  rw [hsame] at hprev
  rcases List.eq_nil_or_concat l with rfl | ⟨front, last, rfl⟩
  · exact h.ne_zero (by simp) hprev
  · rw [List.concat_eq_append, List.getLast?_concat, Option.getD_some] at hprev
    subst hprev
    have hnodup := (List.nodup_append.mp h.nodup).2.2
    exact hnodup w (by simp) w (by simp) rfl

/-- **Unlinking** takes the window out. -/
lemma links_unlink (h : s.Links (l ++ w :: r)) : (s.compositorUnlinkWindow w).Links (l ++ r) := by
  have hw : w ≠ 0 := h.ne_zero (by simp)
  have hnext : (s.setAfter (s.win w).prev (s.win w).next).next w = s.next w := by
    rw [next_setAfter, if_neg (fun hc => h.prev_ne hc.1.symm)]
  have hprev : (s.setAfter (s.win w).prev (s.win w).next).prev w = s.prev w := by
    rw [prev_setAfter]
  have hother : ∀ y ∈ l ++ r, y ≠ w ∧ y ≠ 0 := by
    intro y hy
    have hmem : y ∈ l ++ w :: r := by
      simp only [List.mem_append, List.mem_cons] at hy ⊢
      tauto
    refine ⟨?_, h.ne_zero hmem⟩
    rintro rfl
    have hnodup := List.nodup_middle.mp h.nodup
    exact (List.nodup_cons.mp hnodup).1 hy
  rw [compositorUnlinkWindow, if_neg hw]
  apply DoublyLinked.remove h
  · exact windowList_setBefore.trans windowList_setAfter
  · refine windowTail_setBefore.trans ?_
    rw [windowTail_setAfter]
    exact congrArg₂ (fun n p => if n = 0 then p else s.windowTail) hnext hprev
  · intro y hy
    rw [next_setNext, if_neg (hother y hy).1, next_setPrev, next_setBefore, next_setAfter]
    by_cases hyp : y = s.prev w
    · have hne : s.prev w ≠ 0 := hyp ▸ (hother y hy).2
      rw [if_pos hyp, if_pos ⟨hyp, hne⟩]
      rfl
    · rw [if_neg hyp, if_neg (fun hc => hyp hc.1)]
  · intro y hy
    rw [prev_setNext, prev_setPrev, if_neg (hother y hy).1, prev_setBefore, prev_setAfter]
    by_cases hyn : y = s.next w
    · have hne : (s.setAfter (s.win w).prev (s.win w).next).next w ≠ 0 := by
        rw [hnext, ← hyn]
        exact (hother y hy).2
      rw [if_pos hyn, if_pos ⟨hyn.trans hnext.symm, hne⟩]
      exact hprev
    · rw [if_neg hyn, if_neg (fun hc => hyn (hc.1.trans hnext))]

/-- **Linking** puts it at the end. -/
lemma links_link (h : s.Links stack) (hw : w ≠ 0) (hnew : w ∉ stack) :
    (s.compositorLinkWindow w).Links (stack ++ [w]) := by
  have hother : ∀ y ∈ stack, y ≠ w := fun y hy hyw => hnew (hyw ▸ hy)
  have htail : s.windowTail ≠ w := by
    rintro rfl
    exact hnew (h.tail_mem hw)
  rw [compositorLinkWindow, if_neg hw]
  apply DoublyLinked.pushBack h hnew hw
  · exact windowList_setAfter
  · rfl
  · intro y hy
    refine next_setAfter.trans ?_
    rw [next_setNext, if_neg (hother y hy), next_setPrev]
    by_cases hyt : y = s.windowTail
    · have hne : s.windowTail ≠ 0 := hyt ▸ h.ne_zero hy
      rw [if_pos hyt]
      exact if_pos ⟨hyt, hne⟩
    · rw [if_neg hyt]
      exact if_neg fun hc => hyt hc.1
  · refine next_setAfter.trans ?_
    rw [next_setNext, if_pos rfl]
    exact if_neg fun hc => htail hc.1.symm
  · intro y hy
    refine (congrFun prev_setAfter y).trans ?_
    rw [prev_setNext, prev_setPrev, if_neg (hother y hy)]
  · refine (congrFun prev_setAfter w).trans ?_
    rw [prev_setNext, prev_setPrev, if_pos rfl]

lemma links_linkAtFront (h : s.Links stack) (hw : w ≠ 0) (hnew : w ∉ stack) :
    (s.linkAtFront w).Links (w :: stack) := by
  have hother : ∀ y ∈ stack, y ≠ w := fun y hy hyw => hnew (hyw ▸ hy)
  have hhead : s.windowList ≠ w := by
    rintro rfl
    exact hnew (h.head_mem hw)
  have hempty : s.windowTail = 0 ↔ s.windowList = 0 := h.tail_eq_null.trans h.head_eq_null.symm
  have hcell : ∀ y ∈ stack, ((s.setPrev w 0).setNext w s.windowList).next y = s.next y ∧
      ((s.setPrev w 0).setNext w s.windowList).prev y = s.prev y := by
    intro y hy
    rw [next_setNext, if_neg (hother y hy), next_setPrev, prev_setNext, prev_setPrev, if_neg (hother y hy)]
    exact ⟨rfl, rfl⟩
  have hnextw : ((s.setPrev w 0).setNext w s.windowList).next w = s.windowList := by
    rw [next_setNext, if_pos rfl]
  have hprevw : ((s.setPrev w 0).setNext w s.windowList).prev w = 0 := by
    rw [prev_setNext, prev_setPrev, if_pos rfl]
  have hlist : ((s.setPrev w 0).setNext w s.windowList).windowList = s.windowList := rfl
  have htail : ((s.setPrev w 0).setNext w s.windowList).windowTail = s.windowTail := rfl
  unfold linkAtFront
  generalize (s.setPrev w 0).setNext w s.windowList = u at hcell hnextw hprevw hlist htail ⊢
  dsimp only
  rw [hlist]
  by_cases h0 : s.windowList = 0
  · rw [if_neg (not_not.mpr h0)]
    apply DoublyLinked.pushFront h hnew hw rfl
    · dsimp only
      rw [htail, if_pos (hempty.mpr h0), if_pos h0]
    · intro y hy
      have hne : y ≠ s.windowList := fun hc => h.ne_zero hy (hc.trans h0)
      exact (hcell y hy).2.trans (if_neg hne).symm
    · exact hprevw
    · exact fun y hy => (hcell y hy).1
    · exact hnextw
  · rw [if_pos h0]
    apply DoublyLinked.pushFront h hnew hw rfl
    · show (if u.windowTail = 0 then w else u.windowTail) = _
      rw [htail, if_neg (fun hc => h0 (hempty.mp hc)), if_neg h0]
    · intro y hy
      refine prev_setPrev.trans ?_
      rw [(hcell y hy).2]
    · refine prev_setPrev.trans ?_
      rw [if_neg hhead.symm, hprevw]
    · intro y hy
      exact (congrFun next_setPrev y).trans (hcell y hy).1
    · exact (congrFun next_setPrev w).trans hnextw

end

end AAAos.Compositor
