import AAAos.Apps.EditorLines
import AAAos.Apps.EditorSearch
import AAAos.Apps.EditorText

/-!
# The keys of the editor

`editor_handle_key` of `apps/text_editor/editor.c`, with the prompts for a line, a query and a file name and
the question before the editor is left.  An access outside of an array has no result.  What is only shown,
the status line and the scrolled part, is left out.

**What goes wrong.**  A prompt accepts up to 255 characters, and every change of the input builds the message
for the status line in a buffer of 64 bytes, without a check: `strcat` leaves it with the 52nd digit of a line,
the 56th character of a query and the 55th of a file name (`not_in_order_long_query`).

**What is proved.**  Every key keeps the document in order, as long as what is typed fits into the message
and the heap has memory for the new document of Ctrl+N (`editor_keys_valid`).  A line in order ends with a NUL
inside of its block (`EditorLine.Held.ended`).
-/

namespace AAAos

namespace Editor

/-! ## The document in order -/

/-- Every line is there and in its block, the array has room for the lines, and the cursor is in the
document. -/
structure InOrder (s : Editor) : Prop where
  whole : none ∉ s.lines
  held : ∀ line, some line ∈ s.lines → line.Held
  room : s.numLines ≤ s.linesCapacity
  limit : s.numLines ≤ editorMaxLines
  column : 0 ≤ s.cursorX
  cursor : ∃ line, s.lineAt s.cursorY = some line ∧ s.cursorX ≤ line.length

variable {s t : Editor} {line line' : EditorLine} {mem : Nat → Bool} {granted : Bool} {x y : Int} {c : UInt8}

lemma lineAt_of_nonneg (hy : 0 ≤ y) : s.lineAt y = (s.lines[y.toNat]?).join := by
  rw [lineAt, slot, if_neg (by omega)]

lemma lineAt_setSlot (hline : s.lineAt y = some line) : (s.setSlot y (some line')).lineAt y = some line' := by
  obtain ⟨hy, hlt⟩ := lineAt_bounds hline
  have hidx : y.toNat < s.lines.length := by
    have : y < (s.lines.length : Int) := hlt
    omega
  rw [lineAt_of_nonneg hy, setSlot, List.getElem?_set_self hidx, Option.join_some]

lemma lineAt_removeLine {i : Nat} (hy : 0 ≤ y) (hlt : y < i) : (s.removeLine i).lineAt y = s.lineAt y := by
  rw [lineAt_of_nonneg hy, lineAt_of_nonneg hy, removeLine, List.getElem?_eraseIdx_of_lt (by omega)]

namespace InOrder

lemma lineAt (h : s.InOrder) (hy : 0 ≤ y) (hlt : y < s.numLines) : ∃ line, s.lineAt y = some line := by
  have hidx : y.toNat < s.lines.length := by
    have : y < (s.lines.length : Int) := hlt
    omega
  rw [lineAt_of_nonneg hy, List.getElem?_eq_getElem hidx]
  cases hget : s.lines[y.toNat] with
  | none => exact absurd (hget ▸ List.getElem_mem hidx) h.whole
  | some line => exact ⟨line, rfl⟩

lemma row (h : s.InOrder) : 0 ≤ s.cursorY ∧ s.cursorY < s.numLines := by
  obtain ⟨line, hline, -⟩ := h.cursor
  exact lineAt_bounds hline

lemma touch (h : s.InOrder) : s.touch.InOrder := ⟨h.whole, h.held, h.room, h.limit, h.column, h.cursor⟩

lemma setCursor (h : s.InOrder) (hx : 0 ≤ x) (hline : s.lineAt y = some line) (hle : x ≤ line.length) :
    (s.setCursor x y).InOrder :=
  ⟨h.whole, h.held, h.room, h.limit, hx, line, hline, hle⟩

lemma whole_setSlot (h : s.InOrder) (y : Int) (line' : EditorLine) : none ∉ (s.setSlot y (some line')).lines := by
  intro hmem
  rcases List.mem_or_eq_of_mem_set hmem with hold | hnew
  · exact h.whole hold
  · cases hnew

lemma held_setSlot (h : s.InOrder) (y : Int) (hheld : line'.Held) :
    ∀ line, some line ∈ (s.setSlot y (some line')).lines → line.Held := by
  intro line hmem
  rcases List.mem_or_eq_of_mem_set hmem with hold | hnew
  · exact h.held line hold
  · obtain rfl := Option.some.inj hnew
    exact hheld

lemma held_lineAt (h : s.InOrder) (hline : s.lineAt y = some line) : line.Held := by
  obtain ⟨hy, -⟩ := lineAt_bounds hline
  rw [lineAt_of_nonneg hy] at hline
  exact h.held line (List.mem_of_getElem? (Option.join_eq_some_iff.mp hline))

lemma setSlot (h : s.InOrder) (hline : s.lineAt y = some line) (hheld : line'.Held) (hx : 0 ≤ x)
    (hle : x ≤ line'.length) :
    ((s.setSlot y (some line')).setCursor x y).InOrder := by
  have hcount : (s.setSlot y (some line')).numLines = s.numLines := numLines_setSlot s y _
  exact ⟨h.whole_setSlot y line', h.held_setSlot y hheld, Nat.le_trans (Nat.le_of_eq hcount) h.room,
    Nat.le_trans (Nat.le_of_eq hcount) h.limit, hx, line', lineAt_setSlot hline, hle⟩

lemma removeLine (h : s.InOrder) {i : Nat} (hi : s.cursorY < i) (hlt : i < s.numLines) :
    (s.removeLine i).InOrder := by
  obtain ⟨line, hline, hle⟩ := h.cursor
  have hcount := numLines_removeLine hlt
  refine ⟨fun hmem => h.whole (List.mem_of_mem_eraseIdx hmem),
    fun line hmem => h.held line (List.mem_of_mem_eraseIdx hmem), ?_, ?_, h.column, line, ?_, hle⟩
  · have := h.room
    rw [hcount]
    exact Nat.le_trans (Nat.sub_le _ _) this
  · have := h.limit
    rw [hcount]
    exact Nat.le_trans (Nat.sub_le _ _) this
  · exact (lineAt_removeLine h.row.1 hi).trans hline


end InOrder

lemma clampX_eq (hle : s.cursorX ≤ line.length) : s.clampX line = s := by
  rw [clampX, min_eq_left hle]

/-- The call comes back with a document in order. -/
def Stays (r : Option Editor) : Prop := ∃ t, r = some t ∧ t.InOrder

lemma InOrder.stays (h : s.InOrder) : Stays (some s) := ⟨s, rfl, h⟩

lemma asSize_nonneg (hx : 0 ≤ x) : asSize x = x.toNat := by rw [asSize, if_neg (by omega)]

/-! ## Editing -/

lemma length_lineInsertChar {pos : Nat} (h : lineInsertChar line pos c granted = some line') :
    line'.length = line.length + 1 := by
  unfold lineInsertChar at h
  split_ifs at h with hpos
  obtain ⟨l, -, rfl⟩ := Option.map_eq_some_iff.mp h
  exact List.length_insertIdx_of_le_length (Nat.not_lt.mp hpos) _

lemma length_lineDeleteChar {pos : Nat} (h : pos < line.length) :
    (lineDeleteChar line pos).length = line.length - 1 := List.length_eraseIdx_of_lt h

lemma le_lineAppend (line second : EditorLine) (granted : Bool) :
    line.length ≤ (lineAppend line second granted).length := by
  unfold lineAppend
  split_ifs
  · exact Nat.le_refl _
  · split
    · exact Nat.le_refl _
    · show line.data.length ≤ (line.data ++ second.data).length
      rw [List.length_append]
      exact Nat.le_add_right _ _

lemma InOrder.insertChar (h : s.InOrder) : Stays (s.editorInsertChar c granted) := by
  obtain ⟨line, hline, hle⟩ := h.cursor
  have hrow := h.row
  have hcolumn := h.column
  rw [editorInsertChar, if_neg (by omega), hline, Option.map_some, clampX_eq hle]
  dsimp only
  cases hins : lineInsertChar line (asSize s.cursorX) c granted with
  | none => exact h.stays
  | some line' =>
    have hlen := length_lineInsertChar hins
    exact ⟨_, rfl, (h.setSlot hline (EditorLine.held_insertChar (h.held_lineAt hline) hins) (by omega)
      (by omega)).touch⟩

lemma InOrder.insertTab (h : s.InOrder) : Stays (s.editorInsertTab mem) := by
  unfold editorInsertTab
  generalize List.range editorTabWidth = steps
  induction steps generalizing s with
  | nil => exact h.stays
  | cons i steps ih =>
    obtain ⟨t, ht, ht'⟩ : Stays (s.editorInsertChar 32 (mem i)) := h.insertChar
    rw [List.foldlM_cons, ht]
    exact ih ht'

lemma InOrder.deleteChar (h : s.InOrder) : Stays (s.editorDeleteChar granted) := by
  obtain ⟨line, hline, hle⟩ := h.cursor
  have hrow := h.row
  unfold editorDeleteChar
  split_ifs with hx hy
  · have hslot : s.slot s.cursorY = some (some line) := Option.join_eq_some_iff.mp hline
    have hpos : asSize (s.cursorX - 1) < line.length := by
      rw [asSize_nonneg (by omega)]
      omega
    have hlen := length_lineDeleteChar hpos
    rw [hslot]
    have hheld := EditorLine.held_deleteChar (h.held_lineAt hline) hpos
    exact ⟨_, rfl, (h.setSlot hline hheld (by omega) (by omega)).touch⟩
  · obtain ⟨prev, hprev⟩ := h.lineAt (y := s.cursorY - 1) (by omega) (by omega)
    have hjoin := le_lineAppend prev line granted
    have hheld : (lineAppend prev line granted).Held :=
      EditorLine.held_append (h.held_lineAt hprev) (h.held_lineAt hline)
    have hset : ((s.setSlot (s.cursorY - 1) (some (lineAppend prev line granted))).setCursor prev.length
        (s.cursorY - 1)).InOrder := h.setSlot hprev hheld (by omega) (by omega)
    have hsize : asSize s.cursorY = s.cursorY.toNat := asSize_nonneg hrow.1
    have hremoved := hset.removeLine (i := asSize s.cursorY)
      (by rw [hsize]; show s.cursorY - 1 < (s.cursorY.toNat : Int); omega)
      (by rw [hsize]; show s.cursorY.toNat < (s.setSlot _ _).numLines; simp; omega)
    rw [hline, hprev]
    exact ⟨_, rfl, hremoved.touch⟩
  · exact h.stays

lemma InOrder.deleteCharForward (h : s.InOrder) : Stays (s.editorDeleteCharForward granted) := by
  obtain ⟨line, hline, hle⟩ := h.cursor
  have hrow := h.row
  have hcolumn := h.column
  rw [editorDeleteCharForward, if_neg (by omega), hline, Option.bind_eq_bind, Option.bind_some]
  split_ifs with hin hlast
  · have hpos : asSize s.cursorX < line.length := by
      rw [asSize_nonneg hcolumn]
      omega
    have hlen := length_lineDeleteChar hpos
    have hheld := EditorLine.held_deleteChar (h.held_lineAt hline) hpos
    exact ⟨_, rfl, (h.setSlot hline hheld hcolumn (by omega)).touch⟩
  · obtain ⟨next, hnext⟩ := h.lineAt (y := s.cursorY + 1) (by omega) (by omega)
    have hjoin := le_lineAppend line next granted
    have hheld : (lineAppend line next granted).Held :=
      EditorLine.held_append (h.held_lineAt hline) (h.held_lineAt hnext)
    have hset : ((s.setSlot s.cursorY (some (lineAppend line next granted))).setCursor s.cursorX
        s.cursorY).InOrder := h.setSlot hline hheld hcolumn (by omega)
    have hsize : asSize s.cursorY = s.cursorY.toNat := asSize_nonneg hrow.1
    have hremoved := hset.removeLine (i := asSize s.cursorY + 1)
      (by rw [hsize]; show s.cursorY < ((s.cursorY.toNat + 1 : Nat) : Int); omega)
      (by rw [hsize]; show s.cursorY.toNat + 1 < (s.setSlot _ _).numLines; simp; omega)
    rw [hnext]
    exact ⟨_, rfl, hremoved.touch⟩
  · exact h.stays

lemma InOrder.insertLine_eq (h : s.InOrder) {i : Nat} {new : EditorLine}
    (ht : s.insertLine i new granted = some t) : i ≤ s.lines.length ∧ s.numLines < editorMaxLines ∧
      ∃ capacity, s.numLines < capacity ∧
        t = { s with lines := s.lines.insertIdx i (some new), linesCapacity := capacity } := by
  have hroom := h.room
  have hrow := h.row
  unfold Editor.insertLine at ht
  split_ifs at ht with hbehind hmax hfull hgranted
  · exact ⟨Nat.not_lt.mp hbehind, Nat.not_le.mp hmax, s.linesCapacity * 2, by omega, (Option.some.inj ht).symm⟩
  · exact ⟨Nat.not_lt.mp hbehind, Nat.not_le.mp hmax, s.linesCapacity, Nat.not_le.mp hfull, (Option.some.inj ht).symm⟩

lemma InOrder.insertLine (h : s.InOrder) {i : Nat} {new : EditorLine} (hheld : new.Held)
    (ht : s.insertLine i new granted = some t) : (t.setCursor 0 i).InOrder := by
  obtain ⟨hle, hmax, capacity, hcapacity, rfl⟩ := h.insertLine_eq ht
  have hcount : (s.lines.insertIdx i (some new)).length = s.numLines + 1 := List.length_insertIdx_of_le_length hle _
  refine ⟨fun hmem => ?_, fun line hmem => ?_, Nat.le_trans (Nat.le_of_eq hcount) hcapacity,
    Nat.le_trans (Nat.le_of_eq hcount) hmax, Int.le_refl 0, new, ?_, Int.natCast_nonneg _⟩
  · rcases (List.mem_insertIdx hle).mp hmem with hnew | hold
    · cases hnew
    · exact h.whole hold
  · rcases (List.mem_insertIdx hle).mp hmem with hnew | hold
    · obtain rfl := Option.some.inj hnew
      exact hheld
    · exact h.held line hold
  · show ((s.lines.insertIdx i (some new))[i]?).join = some new
    simp [List.getElem?_insertIdx_self, hle]

lemma InOrder.newline (h : s.InOrder) : Stays (s.editorNewline mem) := by
  obtain ⟨line, hline, hle⟩ := h.cursor
  have hrow := h.row
  have hcolumn := h.column
  have hsplit : asSize s.cursorX = s.cursorX.toNat := asSize_nonneg hcolumn
  have hsize : asSize s.cursorY = s.cursorY.toNat := asSize_nonneg hrow.1
  rw [editorNewline, if_neg (by omega), hline, Option.bind_eq_bind, Option.bind_some, clampX_eq hle]
  rw [if_neg (by omega)]
  cases hnew : lineCreate (line.data.drop (asSize s.cursorX)) mem 0 with
  | none => exact h.stays
  | some new =>
    have hcut : (lineTruncate line (asSize s.cursorX)).length = s.cursorX.toNat := by
      show (line.data.take (asSize s.cursorX)).length = _
      rw [List.length_take, hsplit]
      have : line.data.length = line.length := rfl
      omega
    have hset : (s.setSlot s.cursorY (some (lineTruncate line (asSize s.cursorX)))).InOrder :=
      h.setSlot hline (EditorLine.held_truncate (h.held_lineAt hline) (by omega)) hcolumn (by omega)
    have hto : ((asSize s.cursorY + 1 : Nat) : Int) = s.cursorY + 1 := by
      omega
    dsimp only
    generalize hu : s.setSlot s.cursorY (some (lineTruncate line (asSize s.cursorX))) = u at hset ⊢
    have hy : u.cursorY = s.cursorY := by
      rw [← hu]
      rfl
    rw [hy]
    cases hins : u.insertLine (asSize s.cursorY + 1) new (mem 2) with
    | none => exact hset.stays
    | some t =>
      have hdone := hset.insertLine (EditorLine.held_create hnew) hins
      rw [hto] at hdone
      exact ⟨_, rfl, hdone.touch⟩

/-! ## Moving -/

lemma InOrder.moveCursor (h : s.InOrder) (dx dy : Int) : Stays (s.editorMoveCursor dx dy) := by
  have hrow := h.row
  unfold editorMoveCursor
  generalize wrapInt (s.cursorX + dx) = x
  generalize wrapInt (s.cursorY + dy) = wanted
  dsimp only
  generalize hy : (if (s.numLines : Int) ≤ max wanted 0 then (s.numLines : Int) - 1 else max wanted 0) = y
  have hlow : 0 ≤ y := by
    rw [← hy]
    split_ifs <;> omega
  have hhigh : y < s.numLines := by
    rw [← hy]
    split_ifs <;> omega
  obtain ⟨line, hline⟩ := h.lineAt hlow hhigh
  have hslot : s.slot y = some (some line) := Option.join_eq_some_iff.mp hline
  rw [hslot, Option.bind_some]
  by_cases hneg : x < 0
  · rw [if_pos hneg]
    by_cases hup : 0 < y
    · obtain ⟨prev, hprev⟩ := h.lineAt (y := y - 1) (by omega) (by omega)
      rw [if_pos hup, hprev]
      exact ⟨_, rfl, h.setCursor (Int.natCast_nonneg _) hprev (Int.le_refl _)⟩
    · rw [if_neg hup]
      exact ⟨_, rfl, h.setCursor (Int.le_refl 0) hline (Int.natCast_nonneg _)⟩
  rw [if_neg hneg, Option.map_some]
  refine ⟨_, rfl, ?_⟩
  by_cases hlong : line.length < x
  · rw [if_pos hlong]
    by_cases hlast : y < s.numLines - 1
    · obtain ⟨next, hnext⟩ := h.lineAt (y := y + 1) (by omega) (by omega)
      rw [if_pos hlast]
      exact h.setCursor (Int.le_refl 0) hnext (Int.natCast_nonneg _)
    · rw [if_neg hlast]
      exact h.setCursor (Int.natCast_nonneg _) hline (Int.le_refl _)
  · rw [if_neg hlong]
    exact h.setCursor (Int.not_lt.mp hneg) hline (Int.not_lt.mp hlong)

lemma InOrder.home (h : s.InOrder) : s.editorHome.InOrder := by
  obtain ⟨line, hline, -⟩ := h.cursor
  exact h.setCursor (Int.le_refl 0) hline (Int.natCast_nonneg _)

lemma InOrder.toEnd (h : s.InOrder) : Stays s.editorEnd := by
  obtain ⟨line, hline, -⟩ := h.cursor
  rw [editorEnd, if_pos h.row.2, hline]
  exact ⟨_, rfl, h.setCursor (Int.natCast_nonneg _) hline (Int.le_refl _)⟩

lemma InOrder.goLine (h : s.InOrder) (hy : 0 ≤ y) (hlt : y < s.numLines) : Stays (s.goLine y) := by
  obtain ⟨line, hline⟩ := h.lineAt hy hlt
  have hcolumn := h.column
  rw [Editor.goLine, hline]
  exact ⟨_, rfl, h.setCursor (le_min hcolumn (Int.natCast_nonneg _)) hline (min_le_right _ _)⟩

lemma InOrder.gotoLine (h : s.InOrder) (lineNum : Int) : (s.editorGotoLine lineNum).InOrder := by
  have hrow := h.row
  unfold editorGotoLine
  generalize wrapInt (lineNum - 1) = wanted
  obtain ⟨line, hline⟩ := h.lineAt (y := if (s.numLines : Int) ≤ max wanted 0 then (s.numLines : Int) - 1
    else max wanted 0) (by split_ifs <;> omega) (by split_ifs <;> omega)
  exact h.setCursor (Int.le_refl 0) hline (Int.natCast_nonneg _)

lemma InOrder.gotoStart (h : s.InOrder) : s.editorGotoStart.InOrder := by
  have hrow := h.row
  obtain ⟨line, hline⟩ := h.lineAt (y := 0) (Int.le_refl 0) (by omega)
  exact h.setCursor (Int.le_refl 0) hline (Int.natCast_nonneg _)

lemma InOrder.gotoEnd (h : s.InOrder) : Stays s.editorGotoEnd := by
  have hrow := h.row
  obtain ⟨line, hline⟩ := h.lineAt (y := (s.numLines : Int) - 1) (by omega) (by omega)
  rw [editorGotoEnd, if_neg (by omega), hline]
  exact ⟨_, rfl, h.setCursor (Int.natCast_nonneg _) hline (Int.le_refl _)⟩

lemma InOrder.findNext (h : s.InOrder) (query : CString) :
    ∃ t, s.editorFindNext query = some t ∧ t.InOrder ∧ ∃ x y, t = s.setCursor x y := by
  unfold editorFindNext
  split_ifs with hempty
  · exact ⟨s, rfl, h, s.cursorX, s.cursorY, rfl⟩
  have hrow := h.row
  generalize List.range s.numLines = rounds
  induction rounds with
  | nil => exact ⟨s, rfl, h, s.cursorX, s.cursorY, rfl⟩
  | cons i rounds ih =>
    have hlow : 0 ≤ (s.cursorY + i).tmod s.numLines := Int.tmod_nonneg _ (by omega)
    have hhigh : (s.cursorY + i).tmod s.numLines < s.numLines := Int.tmod_lt_of_pos _ (by omega)
    obtain ⟨line, hline⟩ := h.lineAt hlow hhigh
    have hslot : s.slot ((s.cursorY + i).tmod s.numLines) = some (some line) :=
      Option.join_eq_some_iff.mp hline
    rw [searchLines, hslot, Option.bind_eq_bind, Option.bind_some, Option.map_some, Option.bind_eq_bind]
    cases hfind : (List.range (line.length + 1 - query.1.length)).find? fun (j : Nat) =>
        decide ((if i = 0 then s.cursorX + 1 else 0) ≤ (j : Int)) && matchesAt query line j with
    | none => exact ih
    | some j =>
      have hj := List.mem_range.mp (List.mem_of_find?_eq_some hfind)
      exact ⟨_, rfl, h.setCursor (Int.natCast_nonneg j) hline (by omega), _, _, rfl⟩

/-! ## Files -/

lemma saveLines_whole (write : Nat → Int) (n : Nat) {lines : List (Option EditorLine)} (h : none ∉ lines) (i : Nat) :
    ∃ r, saveLines write n i lines = some r := by
  induction lines generalizing i with
  | nil => exact ⟨_, rfl⟩
  | cons line lines ih =>
    cases line with
    | none => exact absurd (List.mem_cons_self) h
    | some line =>
      obtain ⟨r, hr⟩ := ih (fun hmem => h (List.mem_cons_of_mem _ hmem)) (i + 1)
      rw [saveLines]
      by_cases hfails : 0 < line.length ∧ write (2 * i) < 0
      · exact ⟨_, if_pos hfails⟩
      · rw [if_neg hfails, hr]
        exact ⟨_, rfl⟩

lemma InOrder.saveAs (h : s.InOrder) (name : CString) (opened : Bool) (write : Nat → Int) :
    ∃ saved, s.editorSaveAs name opened write = some saved ∧ saved.editor.InOrder := by
  unfold editorSaveAs
  split_ifs
  · obtain ⟨r, hr⟩ := saveLines_whole write s.numLines h.whole 0
    rw [hr]
    refine ⟨_, rfl, ?_⟩
    dsimp only
    split_ifs
    · exact ⟨h.whole, h.held, h.room, h.limit, h.column, h.cursor⟩
    · exact h
  · exact ⟨_, rfl, h⟩

lemma InOrder.new (h : s.InOrder) (hmem : mem 0 = true ∧ mem 1 = true) : (s.editorNew mem).InOrder := by
  have hrow := h.row
  have hroom := h.room
  obtain ⟨line, hline, hdata⟩ : ∃ line, lineCreate [] mem 0 = some line ∧ line.data = [] := by
    unfold lineCreate
    rw [hmem.1, hmem.2, Bool.and_self]
    exact ⟨_, rfl, rfl⟩
  rw [editorNew, hline]
  have hheld : ∀ l, some l ∈ [some line] → l.Held := by
    intro l hl
    obtain rfl := Option.some.inj (List.mem_singleton.mp hl)
    exact EditorLine.held_create hline
  refine ⟨by simp, hheld, ?_, by show 1 ≤ editorMaxLines; decide, Int.le_refl 0, line, rfl, Int.natCast_nonneg _⟩
  show 1 ≤ s.linesCapacity
  omega

lemma inOrder_init {mem : Nat → Bool} {s : Editor} (h : editorInit mem = some s) : s.InOrder := by
  unfold editorInit at h
  split_ifs at h
  obtain ⟨line, hline, rfl⟩ := Option.map_eq_some_iff.mp h
  have hheld : ∀ l, some l ∈ [some line] → l.Held := by
    intro l hl
    obtain rfl := Option.some.inj (List.mem_singleton.mp hl)
    exact EditorLine.held_create hline
  exact ⟨by simp, hheld, by show 1 ≤ 256; decide, by show 1 ≤ editorMaxLines; decide, Int.le_refl 0, line, rfl,
    Int.natCast_nonneg _⟩

end Editor

/-! ## Keys -/

namespace EditorKey

def escape : Int := 128
def backspace : Int := 129
def tab : Int := 130
def enter : Int := 131
def f3 : Int := 143
def home : Int := 153
def endKey : Int := 154
def delete : Int := 156
def pageUp : Int := 157
def pageDown : Int := 158
def up : Int := 159
def down : Int := 160
def left : Int := 161
def right : Int := 162

end EditorKey

/-- `editor_state_t`. -/
inductive EditorState
  | normal | search | goTo | saveAs | confirmQuit
deriving DecidableEq

/-- What `editor_handle_key` is called with, and what the heap and the file system answer. -/
structure EditorInput where
  key : Int
  modifiers : UInt16 := 0
  ascii : UInt8 := 0
  mem : Nat → Bool := fun _ => true
  opened : Bool := true
  write : Nat → Int := fun _ => 0

/-- What `editor_handle_key` uses of `editor_t`.  `input` is what is in `input_buffer` before the NUL at
`input_length`. -/
structure EditorSession where
  doc : Editor
  state : EditorState := .normal
  running : Bool := true
  input : List UInt8 := []
  searchQuery : CString := .empty
deriving DecidableEq

/-- The string that a buffer holds. -/
def cStringOf (buf : List UInt8) : CString :=
  ⟨buf.takeWhile (· ≠ 0), fun h => by simpa using List.mem_takeWhile_imp h⟩

/-- `sizeof(editor->input_buffer)`. -/
def inputBufferSize : Nat := 256

/-- The size of `msg`. -/
def promptSize : Nat := 64

/-- The text that the prompt of a state begins with. -/
def promptHead : EditorState → List UInt8
  | .goTo => "Go to line: ".toList.map fun c => UInt8.ofNat c.toNat
  | .search => "Search: ".toList.map fun c => UInt8.ofNat c.toNat
  | .saveAs => "Save as: ".toList.map fun c => UInt8.ofNat c.toNat
  | _ => []

/-- `msg`, with the input behind the text that it begins with. -/
def promptMessage (state : EditorState) (input : List UInt8) : Option (List UInt8) :=
  storeFrom (promptHead state ++ List.replicate (promptSize - (promptHead state).length) 0)
    (promptHead state).length ((cStringOf input).1 ++ [0])

/-- `parse_input_number`. -/
def parseInputNumber (input : List UInt8) : Int :=
  input.foldl (fun result c => if 48 ≤ c ∧ c ≤ 57 then wrapInt (result * 10 + (c.toNat - 48)) else result) 0

namespace EditorSession

/-- The input is changed, and the message is built. -/
def retype (s : EditorSession) (input : List UInt8) : Option EditorSession :=
  (promptMessage s.state input).map fun _ => { s with input := input }

/-- The keys of a prompt which neither end nor leave it. -/
def prompt (s : EditorSession) (e : EditorInput) (accepted : Bool) : Option EditorSession :=
  if e.key = EditorKey.backspace ∧ 0 < s.input.length then s.retype s.input.dropLast
  else if accepted ∧ s.input.length < inputBufferSize - 1 then s.retype (s.input ++ [e.ascii])
  else some s

def leave (s : EditorSession) : EditorSession := { s with state := .normal }

/-- A prompt is begun. -/
def ask (s : EditorSession) (state : EditorState) : EditorSession := { s with state := state, input := [] }

def withDoc (s : EditorSession) (doc : Editor) : EditorSession := { s with doc := doc }

/-- `ascii >= '0' && ascii <= '9'`. -/
def isDigit (c : UInt8) : Bool := 48 ≤ c && c ≤ 57

/-- `ascii >= 32 && ascii < 127`. -/
def isPrintable (c : UInt8) : Bool := 32 ≤ c && c < 127

/-- The keys in the state `EDITOR_STATE_GOTO`. -/
def gotoKey (s : EditorSession) (e : EditorInput) : Option EditorSession :=
  if e.key = EditorKey.enter then
    let lineNum := parseInputNumber s.input
    some (if 0 < lineNum then (s.withDoc (s.doc.editorGotoLine lineNum)).leave else s.leave)
  else if e.key = EditorKey.escape then some s.leave
  else s.prompt e (isDigit e.ascii)

/-- The keys in the state `EDITOR_STATE_SEARCH`. -/
def searchKey (s : EditorSession) (e : EditorInput) : Option EditorSession :=
  if e.key = EditorKey.enter then
    let query := (cStringOf s.input).truncate 255
    (s.doc.editorFindNext query).map fun doc => { s with doc := doc, state := .normal, searchQuery := query }
  else if e.key = EditorKey.escape then some s.leave
  else s.prompt e (isPrintable e.ascii)

/-- The keys in the state `EDITOR_STATE_SAVE_AS`. -/
def saveAsKey (s : EditorSession) (e : EditorInput) : Option EditorSession :=
  if e.key = EditorKey.enter then
    if 0 < s.input.length then
      (s.doc.editorSaveAs (cStringOf s.input) e.opened e.write).map fun saved => (s.withDoc saved.editor).leave
    else some s.leave
  else if e.key = EditorKey.escape then some s.leave
  else s.prompt e (isPrintable e.ascii)

/-- The keys in the state `EDITOR_STATE_CONFIRM_QUIT`. -/
def confirmKey (s : EditorSession) (e : EditorInput) : EditorSession :=
  if e.ascii = 121 ∨ e.ascii = 89 then { s with running := false }
  else if e.ascii = 110 ∨ e.ascii = 78 ∨ e.key = EditorKey.escape then s.leave
  else s

/-- The keys that are no shortcut. -/
def plainKey (s : EditorSession) (e : EditorInput) : Option EditorSession :=
  let toDoc (doc : Option Editor) := doc.map s.withDoc
  if e.key = EditorKey.up then toDoc (s.doc.editorMoveCursor 0 (-1))
  else if e.key = EditorKey.down then toDoc (s.doc.editorMoveCursor 0 1)
  else if e.key = EditorKey.left then toDoc (s.doc.editorMoveCursor (-1) 0)
  else if e.key = EditorKey.right then toDoc (s.doc.editorMoveCursor 1 0)
  else if e.key = EditorKey.home then some (s.withDoc s.doc.editorHome)
  else if e.key = EditorKey.endKey then toDoc s.doc.editorEnd
  else if e.key = EditorKey.pageUp then toDoc s.doc.editorPageUp
  else if e.key = EditorKey.pageDown then toDoc s.doc.editorPageDown
  else if e.key = EditorKey.backspace then toDoc (s.doc.editorDeleteChar (e.mem 0))
  else if e.key = EditorKey.delete then toDoc (s.doc.editorDeleteCharForward (e.mem 0))
  else if e.key = EditorKey.enter then toDoc (s.doc.editorNewline e.mem)
  else if e.key = EditorKey.tab then toDoc (s.doc.editorInsertTab e.mem)
  else if e.key = EditorKey.escape then some s
  else if e.key = EditorKey.f3 then toDoc (s.doc.editorFindNext s.searchQuery)
  else if isPrintable e.ascii then toDoc (s.doc.editorInsertChar e.ascii (e.mem 0))
  else some s

/-- `modifiers & MOD_CTRL`. -/
def ctrl (e : EditorInput) : Bool := e.modifiers &&& 0x0C ≠ 0

/-- The keys in the state `EDITOR_STATE_NORMAL`. -/
def normalKey (s : EditorSession) (e : EditorInput) : Option EditorSession :=
  if ctrl e then
    if e.key = 81 then
      some (if s.doc.modified then { s with state := .confirmQuit } else { s with running := false })
    else if e.key = 83 then
      if s.doc.hasFilename then (s.doc.editorSave e.opened e.write).map fun saved => s.withDoc saved.editor
      else some (s.ask .saveAs)
    else if e.key = 71 then some (s.ask .goTo)
    else if e.key = 70 then some (s.ask .search)
    else if e.key = 78 then some (if s.doc.modified then s else s.withDoc (s.doc.editorNew e.mem))
    else if e.key = EditorKey.home then some (s.withDoc s.doc.editorGotoStart)
    else if e.key = EditorKey.endKey then s.doc.editorGotoEnd.map s.withDoc
    else s.plainKey e
  else s.plainKey e

/-- `editor_handle_key`. -/
def editorHandleKey (s : EditorSession) (e : EditorInput) : Option EditorSession :=
  match s.state with
  | .goTo => s.gotoKey e
  | .search => s.searchKey e
  | .saveAs => s.saveAsKey e
  | .confirmQuit => some (s.confirmKey e)
  | .normal => s.normalKey e

/-! ## What is claimed -/

/-- The session is in order. -/
structure Valid (s : EditorSession) : Prop where
  doc : s.doc.InOrder
  input : s.input.length < inputBufferSize
  message : (promptHead s.state).length + s.input.length < promptSize ∨ s.state = .normal ∨ s.state = .confirmQuit

/-- The key adds a character to the input of a prompt. -/
def Types (s : EditorSession) (e : EditorInput) : Prop :=
  (s.state = .goTo ∧ isDigit e.ascii ∨ (s.state = .search ∨ s.state = .saveAs) ∧ isPrintable e.ascii) ∧
    e.key ≠ EditorKey.enter ∧ e.key ≠ EditorKey.escape ∧ ¬(e.key = EditorKey.backspace ∧ 0 < s.input.length)

/-- What is typed fits into the message, and a new buffer gets its memory. -/
def Harmless (s : EditorSession) (e : EditorInput) : Prop :=
  (s.Types e → (promptHead s.state).length + s.input.length + 1 < promptSize) ∧
    (s.state = .normal → ctrl e → e.key = 78 → s.doc.modified = false → e.mem 0 = true ∧ e.mem 1 = true)

/-- The key comes back with a session in order, and the document is as it was but for the cursor. -/
def Watches (s : EditorSession) (r : Option EditorSession) : Prop :=
  ∃ s', r = some s' ∧ s'.Valid ∧ ∃ x y, s'.doc = s.doc.setCursor x y

/-- The key comes back with a session in order. -/
def Works (r : Option EditorSession) : Prop := ∃ s', r = some s' ∧ s'.Valid

variable {s : EditorSession} {e : EditorInput}

lemma Watches.works {r : Option EditorSession} (h : s.Watches r) : Works r := by
  obtain ⟨s', hr, hvalid, -⟩ := h
  exact ⟨s', hr, hvalid⟩

lemma Valid.watches (h : s.Valid) : s.Watches (some s) := ⟨s, rfl, h, s.doc.cursorX, s.doc.cursorY, rfl⟩

lemma Valid.leave (h : s.Valid) : s.leave.Valid := ⟨h.doc, h.input, .inr (.inl rfl)⟩

lemma Valid.withDoc (h : s.Valid) {doc : Editor} (hdoc : doc.InOrder) : (s.withDoc doc).Valid :=
  ⟨hdoc, h.input, h.message⟩

lemma Valid.ask (h : s.Valid) {state : EditorState} (hstate : (promptHead state).length < promptSize) :
    (s.ask state).Valid :=
  ⟨h.doc, Nat.zero_lt_succ _, .inl hstate⟩

lemma ite_works {p : Prop} [Decidable p] {r r' : Option EditorSession} (hr : Works r) (hr' : Works r') :
    Works (if p then r else r') := by
  split_ifs
  · exact hr
  · exact hr'

/-! ## Prompts -/

lemma exists_message {state : EditorState} {input : List UInt8}
    (h : (promptHead state).length + input.length < promptSize) : ∃ msg, promptMessage state input = some msg := by
  have hstr : (cStringOf input).1.length ≤ input.length := (List.takeWhile_sublist _).length_le
  refine ⟨_, storeFrom_append rfl ?_⟩
  simp
  omega

lemma Valid.retype (h : s.Valid) {input : List UInt8} (hsize : input.length < inputBufferSize)
    (hfits : (promptHead s.state).length + input.length < promptSize) : s.Watches (s.retype input) := by
  obtain ⟨msg, hmsg⟩ := exists_message hfits
  refine ⟨{ s with input := input }, ?_, ⟨h.doc, hsize, .inl hfits⟩, s.doc.cursorX, s.doc.cursorY, rfl⟩
  simp [EditorSession.retype, hmsg]

lemma Valid.prompt (h : s.Valid) {accepted : Bool} (hprompt : s.state ≠ .normal ∧ s.state ≠ .confirmQuit)
    (hfits : accepted = true → ¬(e.key = EditorKey.backspace ∧ 0 < s.input.length) →
      (promptHead s.state).length + s.input.length + 1 < promptSize) : s.Watches (s.prompt e accepted) := by
  have hmessage : (promptHead s.state).length + s.input.length < promptSize :=
    h.message.resolve_right (not_or.mpr hprompt)
  have hinput := h.input
  rw [EditorSession.prompt]
  split_ifs with hback htype
  · refine h.retype ?_ ?_
    · simp
      omega
    · simp
      omega
  · have hroom := hfits htype.1 hback
    refine h.retype ?_ ?_
    · simp
      omega
    · simp
      omega
  · exact h.watches

lemma gotoKey_watches (h : s.Valid) (hstate : s.state = .goTo) (hharm : s.Harmless e) : s.Watches (s.gotoKey e) := by
  rw [gotoKey]
  split_ifs with henter hescape
  · dsimp only
    split_ifs with hpos
    · exact ⟨_, rfl, (h.withDoc (h.doc.gotoLine _)).leave, _, _, rfl⟩
    · exact ⟨_, rfl, h.leave, s.doc.cursorX, s.doc.cursorY, rfl⟩
  · exact ⟨_, rfl, h.leave, s.doc.cursorX, s.doc.cursorY, rfl⟩
  · refine h.prompt (by rw [hstate]; decide) fun haccepted hback => ?_
    exact hharm.1 ⟨.inl ⟨hstate, haccepted⟩, henter, hescape, hback⟩

lemma searchKey_watches (h : s.Valid) (hstate : s.state = .search) (hharm : s.Harmless e) :
    s.Watches (s.searchKey e) := by
  rw [searchKey]
  split_ifs with henter hescape
  · obtain ⟨doc, hfind, hdoc, x, y, hsame⟩ := h.doc.findNext ((cStringOf s.input).truncate 255)
    dsimp only
    rw [hfind]
    exact ⟨_, rfl, ⟨hdoc, h.input, .inr (.inl rfl)⟩, x, y, hsame⟩
  · exact ⟨_, rfl, h.leave, s.doc.cursorX, s.doc.cursorY, rfl⟩
  · refine h.prompt (by rw [hstate]; decide) fun haccepted hback => ?_
    exact hharm.1 ⟨.inr ⟨.inl hstate, haccepted⟩, henter, hescape, hback⟩

lemma saveAsKey_works (h : s.Valid) (hstate : s.state = .saveAs) (hharm : s.Harmless e) : Works (s.saveAsKey e) := by
  rw [saveAsKey]
  split_ifs with henter hname hescape
  · obtain ⟨saved, hsaved, hdoc⟩ := h.doc.saveAs (cStringOf s.input) e.opened e.write
    rw [hsaved]
    exact ⟨_, rfl, (h.withDoc hdoc).leave⟩
  · exact ⟨_, rfl, h.leave⟩
  · exact ⟨_, rfl, h.leave⟩
  · refine (h.prompt (by rw [hstate]; decide) fun haccepted hback => ?_).works
    exact hharm.1 ⟨.inr ⟨.inr hstate, haccepted⟩, henter, hescape, hback⟩

lemma confirmKey_watches (h : s.Valid) (hstate : s.state = .confirmQuit) : s.Watches (some (s.confirmKey e)) := by
  rw [confirmKey]
  split_ifs
  · exact ⟨_, rfl, ⟨h.doc, h.input, .inr (.inr hstate)⟩, s.doc.cursorX, s.doc.cursorY, rfl⟩
  · exact ⟨_, rfl, h.leave, s.doc.cursorX, s.doc.cursorY, rfl⟩
  · exact h.watches

/-! ## The normal state -/

lemma Valid.toDoc (h : s.Valid) {r : Option Editor} (hr : Editor.Stays r) : Works (r.map s.withDoc) := by
  obtain ⟨doc, rfl, hdoc⟩ := hr
  exact ⟨_, rfl, h.withDoc hdoc⟩

lemma plainKey_works (h : s.Valid) : Works (s.plainKey e) := by
  have hrow := h.doc.row
  have harea : textAreaHeight = 24 := rfl
  have hfound : Editor.Stays (s.doc.editorFindNext s.searchQuery) := by
    obtain ⟨doc, hfind, hdoc, -⟩ := h.doc.findNext s.searchQuery
    exact ⟨doc, hfind, hdoc⟩
  refine ite_works (h.toDoc (h.doc.moveCursor _ _)) ?_
  refine ite_works (h.toDoc (h.doc.moveCursor _ _)) ?_
  refine ite_works (h.toDoc (h.doc.moveCursor _ _)) ?_
  refine ite_works (h.toDoc (h.doc.moveCursor _ _)) ?_
  refine ite_works ⟨_, rfl, h.withDoc h.doc.home⟩ ?_
  refine ite_works (h.toDoc h.doc.toEnd) ?_
  refine ite_works (h.toDoc (h.doc.goLine (le_max_right _ _) (by omega))) ?_
  refine ite_works (h.toDoc (h.doc.goLine (by omega) (by omega))) ?_
  refine ite_works (h.toDoc h.doc.deleteChar) ?_
  refine ite_works (h.toDoc h.doc.deleteCharForward) ?_
  refine ite_works (h.toDoc h.doc.newline) ?_
  refine ite_works (h.toDoc h.doc.insertTab) ?_
  refine ite_works ⟨s, rfl, h⟩ ?_
  refine ite_works (h.toDoc hfound) ?_
  exact ite_works (h.toDoc h.doc.insertChar) ⟨s, rfl, h⟩

lemma normalKey_works (h : s.Valid) (hstate : s.state = .normal) (hharm : s.Harmless e) : Works (s.normalKey e) := by
  rw [normalKey]
  split_ifs with hctrl hquit hmodified hsave hname hgoto hfind hnew hkept hhome hend
  · exact ⟨_, rfl, h.doc, h.input, .inr (.inr rfl)⟩
  · exact ⟨_, rfl, h.doc, h.input, h.message⟩
  · obtain ⟨saved, hsaved, hdoc⟩ := h.doc.saveAs s.doc.filename e.opened e.write
    rw [Editor.editorSave, if_pos hname, hsaved]
    exact ⟨_, rfl, h.withDoc hdoc⟩
  · exact ⟨_, rfl, h.ask (by decide)⟩
  · exact ⟨_, rfl, h.ask (by decide)⟩
  · exact ⟨_, rfl, h.ask (by decide)⟩
  · exact ⟨s, rfl, h⟩
  · exact ⟨_, rfl, h.withDoc (h.doc.new (hharm.2 hstate hctrl hnew (Bool.eq_false_iff.mpr hkept)))⟩
  · exact ⟨_, rfl, h.withDoc h.doc.gotoStart⟩
  · exact h.toDoc h.doc.gotoEnd
  · exact plainKey_works h
  · exact plainKey_works h

/-- **One key.** -/
lemma editorHandleKey_works (h : s.Valid) (hharm : s.Harmless e) : ∃ s', s.editorHandleKey e = some s' ∧ s'.Valid ∧
    (s.state = .goTo ∨ s.state = .search ∨ s.state = .confirmQuit → ∃ x y, s'.doc = s.doc.setCursor x y) := by
  cases hstate : s.state with
  | goTo =>
    obtain ⟨s', hs', hvalid, hdoc⟩ := gotoKey_watches h hstate hharm
    exact ⟨s', by rwa [editorHandleKey, hstate], hvalid, fun _ => hdoc⟩
  | search =>
    obtain ⟨s', hs', hvalid, hdoc⟩ := searchKey_watches h hstate hharm
    exact ⟨s', by rwa [editorHandleKey, hstate], hvalid, fun _ => hdoc⟩
  | confirmQuit =>
    obtain ⟨s', hs', hvalid, hdoc⟩ := confirmKey_watches (e := e) h hstate
    exact ⟨s', by rwa [editorHandleKey, hstate], hvalid, fun _ => hdoc⟩
  | saveAs =>
    obtain ⟨s', hs', hvalid⟩ := saveAsKey_works h hstate hharm
    exact ⟨s', by rwa [editorHandleKey, hstate], hvalid, by simp⟩
  | normal =>
    obtain ⟨s', hs', hvalid⟩ := normalKey_works h hstate hharm
    exact ⟨s', by rwa [editorHandleKey, hstate], hvalid, by simp⟩

/-! ## Runs -/

/-- One key. -/
def Step (s : EditorSession) (e : EditorInput) (s' : EditorSession) : Prop := s.editorHandleKey e = some s'

/-- One key that is harmless. -/
def HarmlessStep (s : EditorSession) (e : EditorInput) (s' : EditorSession) : Prop := s.Harmless e ∧ s.Step e s'

lemma valid_of_steps {mem : Nat → Bool} {doc : Editor} (hinit : editorInit mem = some doc) {es : List EditorInput}
    (hrun : Steps HarmlessStep { doc := doc } es s) : s.Valid := by
  refine hrun.invariant (I := Valid) ?_ ⟨Editor.inOrder_init hinit, Nat.zero_lt_succ _, .inr (.inl rfl)⟩
  rintro s e t hvalid ⟨hharm, hstep⟩
  obtain ⟨t', hkey, hvalid', -⟩ := editorHandleKey_works hvalid hharm
  rw [Step, hkey] at hstep
  exact Option.some.inj hstep ▸ hvalid'

/-- **The editor stays in order under every key.**  In a run in which what is typed into a prompt fits into its
message, every state is in order, and every further key of this kind comes back; in the states of the prompts for
a line and a query and of the question it moves the cursor at most. -/
theorem editor_keys_valid {mem : Nat → Bool} {doc : Editor} {es : List EditorInput}
    (hinit : editorInit mem = some doc) (hrun : Steps HarmlessStep { doc := doc } es s) :
    s.Valid ∧ ∀ e, s.Harmless e → ∃ s', s.editorHandleKey e = some s' ∧ s'.Valid ∧
      (s.state = .goTo ∨ s.state = .search ∨ s.state = .confirmQuit → ∃ x y, s'.doc = s.doc.setCursor x y) :=
  ⟨valid_of_steps hinit hrun, fun _ hharm => editorHandleKey_works (valid_of_steps hinit hrun) hharm⟩

/-- Ctrl and the key of a letter. -/
def ctrlKey (key : Int) : EditorInput := { key := key, modifiers := 0x04 }

/-- The key of a character. -/
def typed (key : Int) (ascii : UInt8) : EditorInput := { key := key, ascii := ascii }

/-- Ctrl+G and a digit. -/
theorem editor_keys_valid_digit : ∃ s : EditorSession, (s.state, s.input) = (.goTo, [53]) ∧ s.Valid ∧
    ∀ e, s.Harmless e → ∃ s', s.editorHandleKey e = some s' ∧ s'.Valid ∧
      (s.state = .goTo ∨ s.state = .search ∨ s.state = .confirmQuit → ∃ x y, s'.doc = s.doc.setCursor x y) := by
  obtain ⟨doc, hinit⟩ : ∃ doc, editorInit (fun _ => true) = some doc := ⟨_, rfl⟩
  have hask : HarmlessStep { doc := doc } (ctrlKey 71) { doc := doc, state := .goTo } := by
    refine ⟨⟨?_, ?_⟩, rfl⟩
    · rintro ⟨⟨hstate, -⟩ | ⟨hstate | hstate, -⟩, -⟩ <;> cases hstate
    · intro _ _ hkey
      exact absurd hkey (by decide)
  have hdigit : HarmlessStep { doc := doc, state := .goTo } (typed 53 53)
      { doc := doc, state := .goTo, input := [53] } := by
    have hfits : (promptHead .goTo).length + 0 + 1 < promptSize := by decide
    refine ⟨⟨fun _ => hfits, ?_⟩, rfl⟩
    intro hstate
    cases hstate
  exact ⟨_, rfl, editor_keys_valid hinit (.cons hask (.cons hdigit (.nil _)))⟩

/-- Ctrl+F and 55 characters, which still fit; the next one is written behind the message. -/
theorem not_in_order_long_query : ¬ ∀ (doc : Editor) (es : List EditorInput) (s : EditorSession) (e : EditorInput),
      editorInit (fun _ => true) = some doc → (∀ e' ∈ e :: es, ∀ i, e'.mem i = true) →
        Steps Step { doc := doc } es s → ∃ s', s.editorHandleKey e = some s' := by
  intro h
  obtain ⟨doc, hinit⟩ : ∃ doc, editorInit (fun _ => true) = some doc := ⟨_, rfl⟩
  let keys := ctrlKey 70 :: List.replicate 55 (typed 65 97)
  have hcomputed : (do
      let doc ← editorInit (fun _ => true)
      let s ← keys.foldlM editorHandleKey { doc := doc }
      some (s.editorHandleKey (typed 65 97)).isSome) = some false := by
    set_option maxRecDepth 8192 in decide
  rw [hinit, Option.bind_eq_bind, Option.bind_some, Option.bind_eq_bind, Option.bind_eq_some_iff] at hcomputed
  obtain ⟨s, hrun, hnone⟩ := hcomputed
  have hmem : ∀ e' ∈ typed 65 97 :: keys, ∀ i, e'.mem i = true := by
    intro e' he' i
    rcases List.mem_cons.mp he' with rfl | he'
    · rfl
    · rcases List.mem_cons.mp he' with rfl | he'
      · rfl
      · rw [List.eq_of_mem_replicate he']
        rfl
  obtain ⟨s', hs'⟩ := h doc keys s (typed 65 97) hinit hmem (Steps.of_exec (fun _ _ _ hcall => hcall) hrun)
  rw [hs'] at hnone
  cases hnone

end EditorSession

end AAAos
