import AAAos.Apps.Editor
import AAAos.Lib.LineText
import AAAos.Lib.Trace

/-!
# Editing the flat text

The lines of the editor, joined by newlines, are a flat text, and the cursor has an offset in it.

**What goes wrong.**  `editor_newline` cuts the line before the new line has its place, and what was behind the cursor is
lost where it gets none (`newline_loses_text`).  A join removes the second line also where its text did not fit behind
the first.  Four spaces of a tab can be fewer.

**What is proved.**  In every run, a call inserts at the cursor or deletes before or at it, or leaves the text, if it comes
to no such failure (`edit_refines_text`).
-/

namespace AAAos

open LineText

/-! ## The text -/

/-- The text of a line; NULL has none. -/
def lineText (line : Option EditorLine) : List UInt8 := (line.map (·.data)).getD []

namespace Editor

/-- The flat text. -/
def text (s : Editor) : List UInt8 := [lineFeed].intercalate (s.lines.map lineText)

/-- The offset of the cursor, which may stand behind the end of its line. -/
def pos (s : Editor) : Nat :=
  (endedWith lineFeed ((s.lines.take s.cursorY.toNat).map lineText)).length +
    min s.cursorX.toNat (lineText (s.lineAt s.cursorY)).length

/-- `new` is inserted at the cursor, or nothing is. -/
def Inserts (s t : Editor) (new : List UInt8) : Prop := t.text = s.text ∨ t.text = insertAt s.text s.pos new

/-- **What an edit may do to the text.** -/
def EditsText (s t : Editor) : Edit → Prop
  | .insertChar c => s.Inserts t [c]
  | .insertTab => s.Inserts t (List.replicate editorTabWidth 32)
  | .newline => s.Inserts t [lineFeed]
  | .deleteChar => t.text = s.text ∨ 0 < s.pos ∧ t.text = s.text.eraseIdx (s.pos - 1)
  | .deleteCharForward => t.text = s.text ∨ t.text = s.text.eraseIdx s.pos

/-- The cursor stands in the line between `pre` and `post`, behind `x` of its characters. -/
structure CursorIn (s : Editor) (pre : List (Option EditorLine)) (line : EditorLine) (post : List (Option EditorLine))
    (x : Nat) : Prop where
  lines : s.lines = pre ++ some line :: post
  row : s.cursorY = pre.length
  column : min s.cursorX line.length = x

end Editor

/-! ## Lists with a place -/

section Lists

variable {α : Type*} {a b : α} {pre post : List α} {i : Nat}

lemma set_at (hi : i = pre.length) : (pre ++ a :: post).set i b = pre ++ b :: post := by
  subst hi
  simp

lemma insertIdx_behind (hi : i = pre.length) : (pre ++ a :: post).insertIdx (i + 1) b = pre ++ a :: b :: post := by
  subst hi
  induction pre with
  | nil => rfl
  | cons c pre ih => exact congrArg (c :: ·) ih

lemma eraseIdx_behind (hi : i = pre.length) : (pre ++ a :: b :: post).eraseIdx (i + 1) = pre ++ a :: post := by
  subst hi
  induction pre with
  | nil => rfl
  | cons c pre ih => exact congrArg (c :: ·) ih

end Lists

/-! ## Lines -/

section Lines

variable {line : EditorLine} {needed x : Nat} {c : UInt8} {granted : Bool}

lemma le_doubleUntil_self (needed capacity : Nat) (hpos : 0 < capacity) :
    capacity ≤ doubleUntil needed capacity hpos := by
  fun_induction doubleUntil needed capacity hpos with
  | case1 capacity hpos hlt ih | case2 capacity hpos hle => omega

lemma double_le_newCapacity (h : line.capacity < needed) :
    min (2 * line.capacity) editorMaxLineLength ≤ line.newCapacity needed := by
  have hdouble := le_doubleUntil_self needed (line.capacity * 2) (by have := line.capacity_pos; omega)
  have hstep : doubleUntil needed line.capacity line.capacity_pos =
      doubleUntil needed (line.capacity * 2) (by have := line.capacity_pos; omega) := by
    rw [doubleUntil, if_pos h]
  simp [EditorLine.newCapacity]
  omega

/-- There is room for a line of so many bytes, with its NUL, or it is granted. -/
def EditorLine.Grows (line : EditorLine) (needed : Nat) (granted : Bool) : Prop :=
  needed ≤ line.capacity ∨ needed ≤ editorMaxLineLength ∧ granted = true

lemma lineEnsureCapacity_grows (h : line.Grows needed granted) : ∃ l, lineEnsureCapacity line needed granted = some l ∧
    (needed ≤ line.capacity → l.1.capacity = line.capacity) ∧
    (line.capacity < needed → min (2 * line.capacity) editorMaxLineLength ≤ l.1.capacity) := by
  unfold lineEnsureCapacity
  by_cases hfits : needed ≤ line.capacity
  · rw [dif_pos hfits]
    exact ⟨_, rfl, fun _ => rfl, fun hlt => absurd hlt (by omega)⟩
  · obtain ⟨hshort, hgranted⟩ := h.resolve_left hfits
    rw [dif_neg hfits, dif_neg (by omega), if_pos hgranted]
    exact ⟨_, rfl, fun hle => absurd hle hfits, fun hlt => double_le_newCapacity hlt⟩

lemma lineEnsureCapacity_none (h : ¬ line.Grows needed granted) : lineEnsureCapacity line needed granted = none := by
  obtain ⟨hfits, hgrant⟩ := not_or.mp h
  unfold lineEnsureCapacity
  rw [dif_neg hfits]
  by_cases hlong : editorMaxLineLength < needed
  · rw [dif_pos hlong]
  · rw [dif_neg hlong, if_neg fun hgranted => hgrant ⟨by omega, hgranted⟩]

lemma lineInsertChar_grows (hx : x ≤ line.length) (h : line.Grows (line.length + 2) granted) :
    ∃ line', lineInsertChar line x c granted = some line' ∧ line'.data = insertAt line.data x [c] ∧
      (line.length + 2 ≤ line.capacity → line'.capacity = line.capacity) ∧
      (line.capacity < line.length + 2 → min (2 * line.capacity) editorMaxLineLength ≤ line'.capacity) := by
  obtain ⟨l, hl, hsame, hmore⟩ := lineEnsureCapacity_grows h
  unfold lineInsertChar
  rw [dif_neg (Nat.not_lt.mpr hx), hl]
  exact ⟨_, rfl, insertIdx_eq_insertAt hx c, hsame, hmore⟩

lemma lineInsertChar_none (h : ¬ line.Grows (line.length + 2) granted) : lineInsertChar line x c granted = none := by
  unfold lineInsertChar
  split_ifs with hx
  · rfl
  · rw [lineEnsureCapacity_none h]
    rfl

/-- A join keeps the text of both lines where there is room for it, or nothing to keep. -/
def EditorLine.Joins (first second : EditorLine) (granted : Bool) : Prop :=
  second.length = 0 ∨ first.Grows (first.length + second.length + 1) granted

lemma lineAppend_data {second : EditorLine} (h : line.Joins second granted) :
    (lineAppend line second granted).data = line.data ++ second.data := by
  unfold lineAppend
  by_cases hempty : second.length = 0
  · simp [hempty, List.length_eq_zero_iff.mp hempty]
  · obtain ⟨l, hl, -⟩ := lineEnsureCapacity_grows (h.resolve_left hempty)
    rw [if_neg hempty, hl]
    rfl

end Lines

namespace Editor

variable {s t : Editor} {pre post : List (Option EditorLine)} {line line' : EditorLine} {x i : Nat} {c : UInt8}
  {mem : Nat → Bool} {granted : Bool}

/-! ## The cursor in its line -/

lemma lineAt_lines {y : Int} (hy : y = pre.length) (h : s.lines = pre ++ some line :: post) :
    s.lineAt y = some line := by
  subst hy
  rw [lineAt, slot, h, Int.toNat_natCast, List.getElem?_append_right (Nat.le_refl _), Nat.sub_self]
  rfl

lemma exists_slots {y : Int} {l : Option EditorLine} (h : s.slot y = some l) :
    ∃ pre post, s.lines = pre ++ l :: post ∧ y = pre.length := by
  have hpos : ¬ y < 0 := fun hneg => by
    rw [slot, if_pos hneg] at h
    cases h
  rw [slot, if_neg hpos] at h
  obtain ⟨hlt, hline⟩ := List.getElem?_eq_some_iff.mp h
  refine ⟨s.lines.take y.toNat, s.lines.drop (y.toNat + 1), ?_, ?_⟩
  · simp [← hline]
  · simp
    omega

lemma exists_lines {y : Int} (h : s.lineAt y = some line) :
    ∃ pre post, s.lines = pre ++ some line :: post ∧ y = pre.length :=
  exists_slots (Option.join_eq_some_iff.mp h)

lemma exists_neighbours {y : Int} {first second : EditorLine} (hfirst : s.lineAt y = some first)
    (hsecond : s.lineAt (y + 1) = some second) :
    ∃ pre post, s.lines = pre ++ some first :: some second :: post ∧ y = pre.length := by
  obtain ⟨pre, post, hlines, hrow⟩ := exists_lines hfirst
  obtain ⟨pre', post', hlines', hrow'⟩ := exists_lines hsecond
  have hnext : post = (pre ++ some first :: post).drop (pre.length + 1) := by simp
  have hnext' : (pre' ++ some second :: post').drop (pre.length + 1) = some second :: post' := by
    simp [show pre.length + 1 = pre'.length by omega]
  refine ⟨pre, post', ?_, hrow⟩
  rw [← hlines, hlines', hnext'] at hnext
  rw [hlines, hnext]

lemma exists_cursorIn (h : s.lineAt s.cursorY = some line) (hx : 0 ≤ s.cursorX) :
    ∃ pre post x, s.CursorIn pre line post x := by
  obtain ⟨pre, post, hlines, hrow⟩ := exists_lines h
  exact ⟨pre, post, (min s.cursorX line.length).toNat, hlines, hrow, (Int.toNat_of_nonneg (by omega)).symm⟩

lemma text_slots {l : Option EditorLine} (h : s.lines = pre ++ l :: post) :
    s.text = [lineFeed].intercalate (pre.map lineText ++ lineText l :: post.map lineText) := by
  simp [text, h]

lemma text_lines (h : s.lines = pre ++ some line :: post) :
    s.text = [lineFeed].intercalate (pre.map lineText ++ line.data :: post.map lineText) := text_slots h

namespace CursorIn

lemma le (h : s.CursorIn pre line post x) : x ≤ line.length := by
  have hcolumn := h.column
  omega

lemma lineAt (h : s.CursorIn pre line post x) : s.lineAt s.cursorY = some line := lineAt_lines h.row h.lines

lemma row_lt (h : s.CursorIn pre line post x) : ¬ (s.numLines : Int) ≤ s.cursorY := by
  rw [h.row, numLines, h.lines, List.length_append, List.length_cons]
  omega

lemma pos (h : s.CursorIn pre line post x) : s.pos = (endedWith lineFeed (pre.map lineText)).length + x := by
  have hx : min s.cursorX.toNat line.data.length = x := by
    have hcolumn := h.column
    unfold EditorLine.length at hcolumn
    omega
  rw [Editor.pos, h.lineAt, h.row, h.lines, List.take_left']
  · rw [← hx]
    rfl
  · rfl

lemma text_insert (h : s.CursorIn pre line post x) {new : List UInt8} (ht : t.lines = pre ++ some line' :: post)
    (hdata : line'.data = insertAt line.data x new) : t.text = insertAt s.text s.pos new := by
  rw [text_lines ht, text_lines h.lines, hdata, h.pos, insert_in_line h.le]

end CursorIn

/-! ## Inserting -/

lemma editorInsertChar_grows (h : s.CursorIn pre line post x) (hg : line.Grows (line.length + 2) granted) :
    ∃ t line', s.editorInsertChar c granted = some t ∧ t.CursorIn pre line' post (x + 1) ∧
      line'.data = insertAt line.data x [c] ∧
      (line.length + 2 ≤ line.capacity → line'.capacity = line.capacity) ∧
      (line.capacity < line.length + 2 → min (2 * line.capacity) editorMaxLineLength ≤ line'.capacity) := by
  obtain ⟨line', hline', hdata, hsame, hmore⟩ := lineInsertChar_grows (c := c) h.le hg
  have hlength : line'.length = line.length + 1 := by
    rw [EditorLine.length, hdata, length_insertAt]
    rfl
  have hle := h.le
  unfold editorInsertChar
  rw [if_neg h.row_lt, h.lineAt, Option.map_some]
  dsimp only [clampX]
  rw [h.column, asSize_natCast, hline']
  refine ⟨_, line', rfl, ⟨?_, h.row, ?_⟩, hdata, hsame, hmore⟩
  · rw [h.lines]
    exact set_at (by simp [h.row])
  · show min ((x : Int) + 1) line'.length = ((x + 1 : Nat) : Int)
    omega

lemma editorInsertChar_none (h : s.CursorIn pre line post x) (hg : ¬ line.Grows (line.length + 2) granted) :
    s.editorInsertChar c granted = some (s.clampX line) ∧ (s.clampX line).CursorIn pre line post x := by
  have hle := h.le
  unfold editorInsertChar
  rw [if_neg h.row_lt, h.lineAt, Option.map_some]
  dsimp only
  rw [lineInsertChar_none hg]
  refine ⟨rfl, h.lines, h.row, ?_⟩
  show min (min s.cursorX line.length) (line.length : Int) = x
  rw [h.column]
  omega

lemma insertChar_edits (h : s.CursorIn pre line post x) (c : UInt8) (granted : Bool) :
    ∃ t, s.editorInsertChar c granted = some t ∧ s.Inserts t [c] := by
  by_cases hg : line.Grows (line.length + 2) granted
  · obtain ⟨t, line', ht, hcursor, hdata, -⟩ := editorInsertChar_grows (c := c) h hg
    exact ⟨t, ht, Or.inr (h.text_insert hcursor.lines hdata)⟩
  · exact ⟨_, (editorInsertChar_none h hg).1, Or.inl rfl⟩

/-- The four spaces of a tab all have room, or none of them has: the line grows where the first of them needs it, for
the others as well. -/
def TabFits (line : EditorLine) (mem : Nat → Bool) : Prop :=
  line.length + 5 ≤ line.capacity ∨
    line.length + 5 ≤ editorMaxLineLength ∧ mem (line.capacity - line.length - 1) = true ∨
      line.capacity < line.length + 2 ∧ (editorMaxLineLength < line.length + 2 ∨ ∀ k < editorTabWidth, mem k = false)

/-- The spaces that are left have room.  The line has its first capacity until it grows. -/
lemma insertSpaces_all {length capacity n : Nat} (h : s.CursorIn pre line post x) (hn : i + n = editorTabWidth)
    (hlength : line.length = length + i) (hcapacity : editorInitialCapacity ≤ capacity)
    (hroom : length + 5 ≤ line.capacity ∨ line.capacity = capacity ∧ i ≤ capacity - length - 1)
    (hgrant : length + 5 ≤ capacity ∨ length + 5 ≤ editorMaxLineLength ∧ mem (capacity - length - 1) = true) :
    ∃ t line', (List.range' i n).foldlM (fun s i => s.editorInsertChar 32 (mem i)) s = some t ∧
      t.CursorIn pre line' post (x + n) ∧ line'.data = insertAt line.data x (List.replicate n 32) := by
  induction n generalizing s line x i with
  | zero => exact ⟨s, line, rfl, h, by simp [insertAt]⟩
  | succ n ih =>
    have hfits := line.fits
    have hle := h.le
    have hdatalen : line.data.length = length + i := hlength
    unfold editorTabWidth at hn
    unfold editorInitialCapacity at hcapacity
    have hg : line.Grows (line.length + 2) (mem i) := by
      rcases hroom with hroom | ⟨hsame, hbefore⟩
      · exact Or.inl (by omega)
      · by_cases hin : line.length + 2 ≤ line.capacity
        · exact Or.inl hin
        · rcases hgrant with hbig | ⟨hshort, hmem⟩
          · exact Or.inl (by omega)
          · have hhere : i = capacity - length - 1 := by omega
            exact Or.inr ⟨by omega, hhere ▸ hmem⟩
    obtain ⟨u, line', hu, hcursor, hdata, hkeep, hmore⟩ := editorInsertChar_grows (c := 32) h hg
    have hlength' : line'.length = length + (i + 1) := by
      rw [EditorLine.length, hdata, length_insertAt, hdatalen]
      rfl
    have hroom' : length + 5 ≤ line'.capacity ∨ line'.capacity = capacity ∧ i + 1 ≤ capacity - length - 1 := by
      by_cases hin : line.length + 2 ≤ line.capacity
      · rw [hkeep hin]
        rw [hlength] at hin
        exact hroom.imp_right fun hsame => ⟨hsame.1, by clear hgrant; omega⟩
      · have hgrown := hmore (not_le.mp hin)
        rw [hlength, not_le] at hin
        rw [hdatalen] at hfits
        have hshort : length + 5 ≤ editorMaxLineLength := by
          rcases hgrant with hbig | hshort
          · omega
          · exact hshort.1
        exact Or.inl ((le_min (by clear hgrant hgrown hshort; omega) hshort).trans hgrown)
    obtain ⟨t, line'', ht, hcursor', hdata'⟩ := ih hcursor (by unfold editorTabWidth; omega) hlength' hroom'
    refine ⟨t, line'', ?_, ?_, ?_⟩
    · rw [List.range'_succ, List.foldlM_cons, hu]
      exact ht
    · rw [show x + (n + 1) = x + 1 + n by omega]
      exact hcursor'
    · have htwo := @insertAt_insertAt UInt8 line.data x hle [32] (List.replicate n 32)
      rw [hdata', hdata]
      exact htwo

lemma insertSpaces_none {n : Nat} (h : s.CursorIn pre line post x)
    (hg : ∀ k, i ≤ k → k < i + n → ¬ line.Grows (line.length + 2) (mem k)) :
    ∃ t, (List.range' i n).foldlM (fun s i => s.editorInsertChar 32 (mem i)) s = some t ∧ t.text = s.text := by
  induction n generalizing s i with
  | zero => exact ⟨s, rfl, rfl⟩
  | succ n ih =>
    obtain ⟨hstep, hcursor⟩ := editorInsertChar_none (c := 32) h (hg i (Nat.le_refl i) (by omega))
    obtain ⟨t, ht, htext⟩ := ih (i := i + 1) hcursor fun k hk hlt => hg k (by omega) (by omega)
    refine ⟨t, ?_, htext⟩
    rwa [List.range'_succ, List.foldlM_cons, hstep]

lemma insertTab_edits (h : s.CursorIn pre line post x) (hfits : TabFits line mem) :
    ∃ t, s.editorInsertTab mem = some t ∧ s.Inserts t (List.replicate editorTabWidth 32) := by
  have hall (hgrant : line.length + 5 ≤ line.capacity ∨
      line.length + 5 ≤ editorMaxLineLength ∧ mem (line.capacity - line.length - 1) = true) :
      ∃ t, (List.range' 0 editorTabWidth).foldlM (fun s i => s.editorInsertChar 32 (mem i)) s = some t ∧
        s.Inserts t (List.replicate editorTabWidth 32) := by
    obtain ⟨t, line', ht, hcursor, hdata⟩ := insertSpaces_all h (Nat.zero_add _) rfl line.initial
      (Or.inr ⟨rfl, Nat.zero_le _⟩) hgrant
    exact ⟨t, ht, Or.inr (h.text_insert hcursor.lines hdata)⟩
  rcases hfits with hin | hgrows | ⟨hfull, hnone⟩
  · exact hall (Or.inl hin)
  · exact hall (Or.inr hgrows)
  · have hnoroom : ∀ k, 0 ≤ k → k < 0 + editorTabWidth → ¬ line.Grows (line.length + 2) (mem k) := by
      intro k _ hk
      rintro (hin | ⟨hshort, hgranted⟩)
      · omega
      · rcases hnone with hlong | hno
        · omega
        · rw [hno k (by omega)] at hgranted
          cases hgranted
    obtain ⟨t, ht, htext⟩ := insertSpaces_none h hnoroom
    exact ⟨t, ht, Or.inl htext⟩

/-! ## A new line -/

lemma lineCreate_data {content : List UInt8} {k : Nat} (h : lineCreate content mem k = some line) :
    line.data = content := by
  unfold lineCreate at h
  split_ifs at h
  all_goals
    obtain rfl := Option.some.inj h
    rfl

/-- There is a place for one more line. -/
def Place (s : Editor) (granted : Bool) : Prop :=
  s.numLines < editorMaxLines ∧ (s.numLines < s.linesCapacity ∨ granted = true)

lemma insertLine_place {i : Nat} (hi : i ≤ s.numLines) (h : s.Place granted) :
    ∃ t, s.insertLine i line granted = some t ∧ t.lines = s.lines.insertIdx i (some line) := by
  obtain ⟨hmax, hroom⟩ := h
  unfold insertLine
  rw [if_neg (by omega), if_neg (by omega)]
  split_ifs with hfull hgranted
  · exact ⟨_, rfl, rfl⟩
  · rcases hroom with hroom | hroom
    · omega
    · exact absurd hroom hgranted
  · exact ⟨_, rfl, rfl⟩

lemma insertLine_no_place {i : Nat} (h : ¬ s.Place granted) : s.insertLine i line granted = none := by
  unfold insertLine
  split_ifs with hbehind hmax hfull hgranted
  · rfl
  · rfl
  · exact absurd ⟨by omega, Or.inr hgranted⟩ h
  · rfl
  · exact absurd ⟨by omega, Or.inl (by omega)⟩ h

/-- A new line gets its block and its place, or no block, or there is nothing behind the cursor. -/
def NewlineFits (s : Editor) (line : EditorLine) (mem : Nat → Bool) : Prop :=
  (mem 0 && mem 1) = false ∨ s.Place (mem 2) ∨ (line.length : Int) ≤ s.cursorX

lemma newline_edits (h : s.CursorIn pre line post x) (hfits : s.NewlineFits line mem) :
    ∃ t, s.editorNewline mem = some t ∧ s.Inserts t [lineFeed] := by
  have hle := h.le
  have hrow : s.cursorY.toNat = pre.length := by simp [h.row]
  have hsize : asSize s.cursorY = pre.length := by simp [h.row]
  unfold editorNewline
  rw [if_neg h.row_lt, h.lineAt]
  simp only [Option.bind_eq_bind, Option.bind_some]
  generalize hclamp : s.clampX line = w
  obtain ⟨hwx, hwy, hwlines, hwcap⟩ : w.cursorX = x ∧ w.cursorY = s.cursorY ∧ w.lines = s.lines ∧
      w.linesCapacity = s.linesCapacity := by
    rw [← hclamp]
    exact ⟨h.column, rfl, rfl, rfl⟩
  rw [hwx, asSize_natCast, if_neg (Nat.not_lt.mpr hle)]
  cases hcreate : lineCreate (line.data.drop x) mem 0 with
  | none =>
    refine ⟨w, rfl, Or.inl ?_⟩
    simp [text, hwlines]
  | some newLine =>
    have hnew := lineCreate_data hcreate
    have hmem : ¬ (mem 0 && mem 1) = false := fun hno => by
      unfold lineCreate at hcreate
      rw [hno] at hcreate
      cases hcreate
    dsimp only
    generalize hcut : w.setSlot w.cursorY (some (lineTruncate line x)) = u
    have hlines : u.lines = pre ++ some (lineTruncate line x) :: post := by
      rw [← hcut]
      show w.lines.set w.cursorY.toNat _ = _
      rw [hwlines, hwy, h.lines, set_at hrow]
    have hsame : u.numLines = s.numLines ∧ u.linesCapacity = s.linesCapacity := by
      rw [numLines, numLines, hlines, h.lines, ← hcut]
      exact ⟨by simp, hwcap⟩
    have hrow' : asSize u.cursorY = pre.length := by
      rw [← hcut, ← hsize, ← hwy]
      rfl
    rw [hrow']
    by_cases hplace : s.Place (mem 2)
    · have hplace' : u.Place (mem 2) := by
        unfold Place
        rwa [hsame.1, hsame.2]
      have hbound : pre.length + 1 ≤ u.numLines := by
        rw [numLines, hlines, List.length_append, List.length_cons]
        omega
      obtain ⟨t, ht, htlines⟩ : ∃ t, u.insertLine (pre.length + 1) newLine (mem 2) = some t ∧
          t.lines = u.lines.insertIdx (pre.length + 1) (some newLine) := insertLine_place hbound hplace'
      rw [ht]
      refine ⟨_, rfl, Or.inr ?_⟩
      have hsplit : t.lines = pre ++ some (lineTruncate line x) :: (some newLine :: post) := by
        rw [htlines, hlines, insertIdx_behind rfl]
      have hsplits := @split_line UInt8 lineFeed (pre.map lineText) (post.map lineText) line.data x hle
      show t.text = _
      rw [text_lines hsplit, text_lines h.lines, h.pos]
      exact (congrArg (fun l => [lineFeed].intercalate (pre.map lineText ++ line.data.take x :: l :: post.map lineText))
        hnew).trans hsplits
    · -- the new line is given up, but nothing went into it
      have hend : line.length ≤ x := by
        have hcolumn := h.column
        have hbehind := (hfits.resolve_left hmem).resolve_left hplace
        omega
      have hdata : (lineTruncate line x).data = line.data := List.take_of_length_le hend
      have htext : u.text = s.text := by
        rw [text_lines hlines, text_lines h.lines, hdata]
      have hplace' : ¬ u.Place (mem 2) := by
        unfold Place
        rwa [hsame.1, hsame.2]
      rw [insertLine_no_place hplace']
      exact ⟨u, rfl, Or.inl htext⟩

/-! ## Deleting -/

lemma CursorIn.text_erase (h : s.CursorIn pre line post x) (hx : x < line.length)
    (ht : t.lines = pre ++ some line' :: post) (hdata : line'.data = line.data.eraseIdx x) :
    t.text = s.text.eraseIdx s.pos := by
  rw [text_lines ht, text_lines h.lines, hdata, h.pos, erase_in_line hx]

lemma deleteInLine_edits (hx : 0 < s.cursorX) {l : Option EditorLine} (hl : s.slot s.cursorY = some l) :
    ∃ t, s.editorDeleteChar granted = some t ∧ s.EditsText t .deleteChar := by
  obtain ⟨pre, post, hlines, hrow⟩ := exists_slots hl
  have hsize : asSize (s.cursorX - 1) = s.cursorX.toNat - 1 := by
    simp [asSize]
    omega
  unfold editorDeleteChar
  rw [if_pos hx, hl, hsize]
  refine ⟨_, rfl, ?_⟩
  have hset : (s.setSlot s.cursorY (l.map (lineDeleteChar · (s.cursorX.toNat - 1)))).lines =
      pre ++ l.map (lineDeleteChar · (s.cursorX.toNat - 1)) :: post := by
    show s.lines.set s.cursorY.toNat _ = _
    rw [hlines, set_at (by simp [hrow])]
  cases l with
  | none => exact Or.inl ((text_slots hset).trans (text_slots hlines).symm)
  | some line =>
    rcases Nat.lt_or_ge (s.cursorX.toNat - 1) line.length with hin | hbehind
    · have hcursor : s.CursorIn pre line post s.cursorX.toNat := ⟨hlines, hrow, by omega⟩
      refine Or.inr ⟨by rw [hcursor.pos]; omega, ?_⟩
      rw [hcursor.pos, Nat.add_sub_assoc (by omega)]
      exact (text_lines hset).trans ((erase_in_line hin).trans
        (congrArg (fun l : List UInt8 => l.eraseIdx _) (text_lines hlines).symm))
    · refine Or.inl ((text_lines hset).trans ?_)
      have hdata : (lineDeleteChar line (s.cursorX.toNat - 1)).data = line.data := List.eraseIdx_of_length_le hbehind
      rw [hdata, text_lines hlines]

lemma text_join {first second : EditorLine} {i : Nat} (hi : i = pre.length)
    (hlines : s.lines = pre ++ some first :: some second :: post) (hjoins : first.Joins second granted)
    (ht : t.lines = (s.lines.set i (some (lineAppend first second granted))).eraseIdx (i + 1)) :
    t.text = s.text.eraseIdx ((endedWith lineFeed (pre.map lineText)).length + first.length) := by
  have hjoined : t.lines = pre ++ some (lineAppend first second granted) :: post := by
    rw [ht, hlines, set_at hi, eraseIdx_behind hi]
  have hjoin := @join_lines UInt8 lineFeed (pre.map lineText) (post.map lineText) first.data second.data
  rw [text_lines hjoined, lineAppend_data hjoins, hjoin, text_lines hlines]
  rfl

lemma joinBefore_edits (hx : s.cursorX = 0) {first second : EditorLine} (hfirst : s.lineAt (s.cursorY - 1) = some first)
    (hsecond : s.lineAt s.cursorY = some second) (hjoins : first.Joins second granted) :
    ∃ t, s.editorDeleteChar granted = some t ∧ s.EditsText t .deleteChar := by
  obtain ⟨pre, post, hlines, hrow⟩ := exists_neighbours hfirst (by rwa [Int.sub_add_cancel])
  have hpos : s.pos = (endedWith lineFeed (pre.map lineText)).length + first.length + 1 := by
    have hcursor : s.CursorIn (pre ++ [some first]) second post 0 := by
      refine ⟨by rw [hlines, List.append_assoc]; rfl, ?_, by rw [hx]; simp⟩
      simp
      omega
    rw [hcursor.pos, List.map_append, endedWith_append]
    simp [lineText, EditorLine.length, Nat.add_assoc]
  have hrow' : (s.cursorY - 1).toNat = pre.length := by omega
  have hsize : asSize s.cursorY = pre.length + 1 := by
    rw [show s.cursorY = ((pre.length + 1 : Nat) : Int) by omega, asSize_natCast]
  unfold editorDeleteChar
  rw [if_neg (by omega), if_pos (by omega), hsecond, hfirst]
  refine ⟨_, rfl, Or.inr ⟨by omega, ?_⟩⟩
  rw [hpos]
  refine text_join rfl hlines hjoins ?_
  show (s.lines.set (s.cursorY - 1).toNat _).eraseIdx (asSize s.cursorY) = _
  rw [hrow', hsize]

lemma deleteForward_edits (h : s.CursorIn pre line post x)
    (hjoins : s.cursorX < line.length ∨ (s.numLines : Int) - 1 ≤ s.cursorY ∨
      ∃ next, s.lineAt (s.cursorY + 1) = some next ∧ line.Joins next granted) :
    ∃ t, s.editorDeleteCharForward granted = some t ∧ s.EditsText t .deleteCharForward := by
  have hcolumn := h.column
  have hrow : s.cursorY.toNat = pre.length := by simp [h.row]
  unfold editorDeleteCharForward
  rw [if_neg h.row_lt, h.lineAt]
  simp only [Option.bind_eq_bind, Option.bind_some]
  by_cases hin : s.cursorX < line.length
  · have hsize : asSize s.cursorX = x := by
      simp [show s.cursorX = (x : Int) by omega]
    rw [if_pos hin]
    refine ⟨_, rfl, Or.inr ?_⟩
    refine h.text_erase (by omega) ?_
      (show (lineDeleteChar line (asSize s.cursorX)).data = _ from congrArg line.data.eraseIdx hsize)
    show s.lines.set s.cursorY.toNat _ = _
    rw [h.lines, set_at hrow]
  rw [if_neg hin]
  by_cases hlast : s.cursorY < (s.numLines : Int) - 1
  · obtain ⟨next, hnext, hjoin⟩ := (hjoins.resolve_left hin).resolve_left (by omega)
    obtain ⟨pre', post', hlines, hrow'⟩ := exists_neighbours h.lineAt hnext
    obtain rfl : pre' = pre := by
      have hlist := hlines.symm.trans h.lines
      exact (List.append_inj hlist (by omega)).1
    have hsize : asSize s.cursorY + 1 = pre'.length + 1 := by simp [h.row]
    rw [if_pos hlast, hnext]
    refine ⟨_, rfl, Or.inr ?_⟩
    rw [h.pos, show x = line.length by omega]
    refine text_join rfl hlines hjoin ?_
    show (s.lines.set s.cursorY.toNat _).eraseIdx (asSize s.cursorY + 1) = _
    rw [hrow, hsize]
  · rw [if_neg hlast]
    exact ⟨s, rfl, Or.inl rfl⟩

/-! ## Runs -/

/-- The cursor is in the buffer, or the buffer has no line. -/
def InBuffer (s : Editor) : Prop :=
  0 ≤ s.cursorX ∧ (0 ≤ s.cursorY ∧ s.cursorY < s.numLines ∨ s.numLines = 0 ∧ s.cursorX = 0)

lemma slot_bounds {y : Int} {l : Option EditorLine} (h : s.slot y = some l) : 0 ≤ y ∧ y < s.numLines := by
  obtain ⟨pre, post, hlines, hrow⟩ := exists_slots h
  simp [numLines, hlines]
  omega

lemma lineAt_bounds {y : Int} (h : s.lineAt y = some line) : 0 ≤ y ∧ y < s.numLines :=
  slot_bounds (Option.join_eq_some_iff.mp h)

@[simp] lemma numLines_setSlot (s : Editor) (y : Int) (l : Option EditorLine) :
    (s.setSlot y l).numLines = s.numLines := List.length_set

lemma numLines_removeLine {i : Nat} (hi : i < s.numLines) : (s.removeLine i).numLines = s.numLines - 1 :=
  List.length_eraseIdx_of_lt hi

lemma numLines_insertLine {i : Nat} (h : s.insertLine i line granted = some t) : t.numLines = s.numLines + 1 := by
  unfold insertLine at h
  split_ifs at h with hbehind
  all_goals
    obtain rfl := Option.some.inj h
    exact List.length_insertIdx_of_le_length (Nat.not_lt.mp hbehind) _

namespace InBuffer

lemma of_lt (hx : 0 ≤ t.cursorX) (hy : 0 ≤ t.cursorY) (hlt : t.cursorY < t.numLines) : t.InBuffer :=
  ⟨hx, Or.inl ⟨hy, hlt⟩⟩

lemma insertChar (h : s.InBuffer) (ht : s.editorInsertChar c granted = some t) : t.InBuffer := by
  unfold editorInsertChar at ht
  split_ifs at ht with hend
  · obtain rfl := Option.some.inj ht
    exact h
  · obtain ⟨line, hline, rfl⟩ := Option.map_eq_some_iff.mp ht
    obtain ⟨hy, hlt⟩ := lineAt_bounds hline
    have hx : 0 ≤ min s.cursorX (line.length : Int) := le_min h.1 (by omega)
    dsimp only
    split
    · exact of_lt (by show 0 ≤ min s.cursorX (line.length : Int) + 1; omega) hy (by
        show s.cursorY < ((s.clampX line).setSlot s.cursorY _).numLines
        rwa [numLines_setSlot])
    · exact of_lt hx hy hlt

lemma insertTab (h : s.InBuffer) (ht : s.editorInsertTab mem = some t) : t.InBuffer := by
  unfold editorInsertTab at ht
  generalize List.range editorTabWidth = steps at ht
  induction steps generalizing s with
  | nil =>
    obtain rfl := Option.some.inj ht
    exact h
  | cons i steps ih =>
    obtain ⟨u, hu, hrest⟩ := Option.bind_eq_some_iff.mp ht
    exact ih (h.insertChar hu) hrest

lemma newline (h : s.InBuffer) (ht : s.editorNewline mem = some t) : t.InBuffer := by
  unfold editorNewline at ht
  split_ifs at ht with hend
  · obtain rfl := Option.some.inj ht
    exact h
  · obtain ⟨line, hline, ht⟩ := Option.bind_eq_some_iff.mp ht
    obtain ⟨hy, hlt⟩ := lineAt_bounds hline
    have hx : 0 ≤ min s.cursorX (line.length : Int) := le_min h.1 (by omega)
    dsimp only at ht
    split_ifs at ht
    split at ht
    · obtain rfl := Option.some.inj ht
      exact of_lt hx hy hlt
    · split at ht
      · obtain rfl := Option.some.inj ht
        exact of_lt hx hy (by rwa [numLines_setSlot])
      · rename_i u hu
        obtain rfl := Option.some.inj ht
        have hcount := numLines_insertLine hu
        rw [numLines_setSlot] at hcount
        refine of_lt (le_refl 0) (by show 0 ≤ s.cursorY + 1; omega) ?_
        show s.cursorY + 1 < (u.numLines : Int)
        rw [hcount]
        show s.cursorY + 1 < ((s.numLines + 1 : Nat) : Int)
        omega

lemma deleteChar (h : s.InBuffer) (ht : s.editorDeleteChar granted = some t) : t.InBuffer := by
  unfold editorDeleteChar at ht
  split_ifs at ht with hx hy
  · obtain ⟨l, hl, rfl⟩ := Option.map_eq_some_iff.mp ht
    obtain ⟨hlow, hlt⟩ := slot_bounds hl
    exact of_lt (by show 0 ≤ s.cursorX - 1; omega) hlow (by
      show s.cursorY < (s.setSlot s.cursorY _).numLines
      rwa [numLines_setSlot])
  · obtain ⟨curr, hcurr, ht⟩ := Option.bind_eq_some_iff.mp ht
    obtain ⟨prev, hprev, ht⟩ := Option.bind_eq_some_iff.mp ht
    obtain rfl := Option.some.inj ht
    obtain ⟨hlow, hlt⟩ := lineAt_bounds hcurr
    have hsize : asSize s.cursorY < (s.setSlot (s.cursorY - 1) (some (lineAppend prev curr granted))).numLines := by
      rw [numLines_setSlot, asSize, if_neg (by omega)]
      omega
    refine of_lt (by show 0 ≤ (prev.length : Int); omega) (by show 0 ≤ s.cursorY - 1; omega) ?_
    show s.cursorY - 1 < ((removeLine _ _).numLines : Int)
    simp [numLines_removeLine hsize]
    omega
  · obtain rfl := Option.some.inj ht
    exact h

lemma deleteCharForward (h : s.InBuffer) (ht : s.editorDeleteCharForward granted = some t) : t.InBuffer := by
  unfold editorDeleteCharForward at ht
  by_cases hend : (s.numLines : Int) ≤ s.cursorY
  · rw [if_pos hend] at ht
    obtain rfl := Option.some.inj ht
    exact h
  · rw [if_neg hend] at ht
    obtain ⟨line, hline, ht⟩ := Option.bind_eq_some_iff.mp ht
    obtain ⟨hlow, hlt⟩ := lineAt_bounds hline
    split_ifs at ht with hin hlast
    · obtain rfl := Option.some.inj ht
      exact of_lt h.1 hlow (by
        show s.cursorY < (s.setSlot s.cursorY _).numLines
        rwa [numLines_setSlot])
    · obtain ⟨next, hnext, ht⟩ := Option.bind_eq_some_iff.mp ht
      obtain rfl := Option.some.inj ht
      have hsize : asSize s.cursorY + 1 < (s.setSlot s.cursorY (some (lineAppend line next granted))).numLines := by
        rw [numLines_setSlot, asSize, if_neg (by omega)]
        omega
      refine of_lt h.1 hlow ?_
      show s.cursorY < ((removeLine _ _).numLines : Int)
      simp [numLines_removeLine hsize]
      omega
    · obtain rfl := Option.some.inj ht
      exact h

lemma edit {e : Edit} (h : s.InBuffer) (ht : s.edit mem e = some t) : t.InBuffer := by
  cases e with
  | insertChar c => exact h.insertChar ht
  | insertTab => exact h.insertTab ht
  | newline => exact h.newline ht
  | deleteChar => exact h.deleteChar ht
  | deleteCharForward => exact h.deleteCharForward ht

lemma deleteLine (h : s.InBuffer) (ht : s.editorDeleteLine = some t) : t.InBuffer := by
  unfold editorDeleteLine at ht
  split_ifs at ht with hfew hone
  · obtain ⟨line, hline, rfl⟩ := Option.map_eq_some_iff.mp ht
    refine ⟨le_refl 0, ?_⟩
    show 0 ≤ s.cursorY ∧ s.cursorY < (s.setSlot 0 _).numLines ∨ _
    rw [numLines_setSlot]
    rcases h.2 with hin | hnone
    · exact Or.inl hin
    · omega
  · obtain rfl := Option.some.inj ht
    exact h
  · obtain ⟨line, hline, rfl⟩ := Option.map_eq_some_iff.mp ht
    obtain ⟨hlow, hlt⟩ := lineAt_bounds hline
    refine of_lt ?_ hlow hlt
    exact le_min h.1 (by omega)

lemma moveCursor {dx dy : Int} (ht : s.editorMoveCursor dx dy = some t) : t.InBuffer := by
  unfold editorMoveCursor at ht
  dsimp only at ht
  generalize max (wrapInt (s.cursorY + dy)) 0 = y at ht
  generalize (if (s.numLines : Int) ≤ y then (s.numLines : Int) - 1 else y) = y at ht
  obtain ⟨l, hl, ht⟩ := Option.bind_eq_some_iff.mp ht
  obtain ⟨hlow, hlt⟩ := slot_bounds hl
  by_cases hx : wrapInt (s.cursorX + dx) < 0
  · rw [if_pos hx] at ht
    by_cases hy : 0 < y
    · rw [if_pos hy] at ht
      obtain ⟨line, hline, rfl⟩ := Option.map_eq_some_iff.mp ht
      obtain ⟨hlow', hlt'⟩ := lineAt_bounds hline
      exact of_lt (by show 0 ≤ (line.length : Int); omega) hlow' hlt'
    · rw [if_neg hy] at ht
      obtain rfl := Option.some.inj ht
      exact of_lt (le_refl 0) hlow hlt
  · rw [if_neg hx] at ht
    obtain ⟨line, -, rfl⟩ := Option.map_eq_some_iff.mp ht
    split_ifs with hend hmore
    · exact of_lt (le_refl 0) (by show 0 ≤ y + 1; omega) (by show y + 1 < (s.numLines : Int); omega)
    · exact of_lt (by show 0 ≤ (line.length : Int); omega) hlow hlt
    · exact of_lt (by show 0 ≤ wrapInt (s.cursorX + dx); omega) hlow hlt

lemma goLine {y : Int} (h : s.InBuffer) (ht : s.goLine y = some t) : t.InBuffer := by
  obtain ⟨line, hline, rfl⟩ := Option.map_eq_some_iff.mp ht
  obtain ⟨hlow, hlt⟩ := lineAt_bounds hline
  exact of_lt (le_min h.1 (by omega)) hlow hlt

lemma gotoLine (lineNum : Int) : (s.editorGotoLine lineNum).InBuffer := by
  refine ⟨le_refl 0, ?_⟩
  unfold editorGotoLine
  generalize htarget : max (wrapInt (lineNum - 1)) 0 = target
  show 0 ≤ (if (s.numLines : Int) ≤ target then (s.numLines : Int) - 1 else target) ∧
    (if (s.numLines : Int) ≤ target then (s.numLines : Int) - 1 else target) < (s.numLines : Int) ∨
      s.numLines = 0 ∧ (0 : Int) = 0
  all_goals omega

lemma searchLines (h : s.InBuffer) {lineIdx : Nat → Int} {column : Nat → Option EditorLine → Option (Option Nat)}
    {is : List Nat} (ht : s.searchLines lineIdx column is = some t) : t.InBuffer := by
  induction is with
  | nil =>
    obtain rfl := Option.some.inj ht
    exact h
  | cons i is ih =>
    obtain ⟨l, hl, ht⟩ := Option.bind_eq_some_iff.mp ht
    obtain ⟨r, -, ht⟩ := Option.bind_eq_some_iff.mp ht
    obtain ⟨hlow, hlt⟩ := slot_bounds hl
    cases r with
    | none => exact ih ht
    | some j =>
      obtain rfl := Option.some.inj ht
      exact of_lt (by show 0 ≤ (j : Int); omega) hlow hlt

lemma openFile (h : s.InBuffer) (name : CString) (answer : FileAnswer) (mem : Nat → Bool) :
    (s.editorOpen name answer mem).2.InBuffer := by
  unfold editorOpen
  cases answer with
  | missing | noStat => exact h
  | contents file read =>
    dsimp only
    split_ifs
    · exact h
    · exact h
    all_goals
      refine ⟨le_refl 0, ?_⟩
      dsimp only [setCursor, setFilename]
      omega

lemma saveAs (h : s.InBuffer) {name : CString} {opened : Bool} {write : Nat → Int} {saved : Saved}
    (ht : s.editorSaveAs name opened write = some saved) : saved.editor.InBuffer := by
  unfold editorSaveAs at ht
  split_ifs at ht
  · obtain ⟨r, -, rfl⟩ := Option.map_eq_some_iff.mp ht
    split_ifs <;> exact h
  · obtain rfl := Option.some.inj ht
    exact h

end InBuffer

/-- **The cursor stays in the buffer.** -/
lemma inBuffer_exec {call : EditorCall} (h : s.InBuffer) (ht : s.exec call = some t) : t.InBuffer := by
  cases call with
  | new mem =>
    obtain rfl := Option.some.inj ht
    exact InBuffer.of_lt (le_refl 0) (le_refl 0) (by show (0 : Int) < ((1 : Nat) : Int); decide)
  | openFile name answer mem =>
    obtain rfl := Option.some.inj ht
    exact h.openFile name answer mem
  | saveAs name opened write =>
    obtain ⟨saved, hsaved, rfl⟩ := Option.map_eq_some_iff.mp ht
    exact h.saveAs hsaved
  | save opened write =>
    obtain ⟨saved, hsaved, rfl⟩ := Option.map_eq_some_iff.mp ht
    unfold editorSave at hsaved
    split_ifs at hsaved
    · exact h.saveAs hsaved
    · obtain rfl := Option.some.inj hsaved
      exact h
  | edit e mem => exact h.edit ht
  | deleteLine => exact h.deleteLine ht
  | moveCursor dx dy => exact InBuffer.moveCursor ht
  | home =>
    obtain rfl := Option.some.inj ht
    exact ⟨le_refl 0, h.2.imp id fun hnone => ⟨hnone.1, rfl⟩⟩
  | toEnd =>
    unfold exec editorEnd at ht
    split_ifs at ht
    · obtain ⟨line, hline, rfl⟩ := Option.map_eq_some_iff.mp ht
      obtain ⟨hlow, hlt⟩ := lineAt_bounds hline
      exact InBuffer.of_lt (by show 0 ≤ (line.length : Int); omega) hlow hlt
    · obtain rfl := Option.some.inj ht
      exact h
  | pageUp | pageDown => exact h.goLine ht
  | gotoLine lineNum =>
    obtain rfl := Option.some.inj ht
    exact InBuffer.gotoLine lineNum
  | gotoStart =>
    obtain rfl := Option.some.inj ht
    refine ⟨le_refl 0, ?_⟩
    dsimp only [editorGotoStart, setCursor]
    omega
  | gotoEnd =>
    unfold exec editorGotoEnd at ht
    split_ifs at ht
    · obtain rfl := Option.some.inj ht
      exact h
    · obtain ⟨line, hline, rfl⟩ := Option.map_eq_some_iff.mp ht
      obtain ⟨hlow, hlt⟩ := lineAt_bounds hline
      exact InBuffer.of_lt (by show 0 ≤ (line.length : Int); omega) hlow hlt
  | findNext query =>
    unfold exec editorFindNext at ht
    dsimp only at ht
    split_ifs at ht
    · obtain rfl := Option.some.inj ht
      exact h
    · exact h.searchLines ht
  | findPrev query =>
    unfold exec editorFindPrev at ht
    dsimp only at ht
    split_ifs at ht
    · obtain rfl := Option.some.inj ht
      exact h
    · exact h.searchLines ht

lemma inBuffer_run {init : Nat → Bool} {s₀ : Editor} {calls : List EditorCall} (hinit : editorInit init = some s₀)
    (hrun : Steps Step s₀ calls s) : s.InBuffer := by
  refine hrun.invariant (fun _ _ _ h hstep => inBuffer_exec h hstep) ?_
  unfold editorInit at hinit
  split_ifs at hinit
  obtain ⟨line, -, rfl⟩ := Option.map_eq_some_iff.mp hinit
  exact InBuffer.of_lt (le_refl 0) (le_refl 0) (by show (0 : Int) < ((1 : Nat) : Int); decide)

/-! ## The result -/

/-- **When a call keeps the text whole.**  It follows no NULL line, and nothing fails between its steps. -/
def Whole (s : Editor) (mem : Nat → Bool) : Edit → Prop
  | .insertChar _ => (s.numLines : Int) ≤ s.cursorY ∨ ∃ line, s.lineAt s.cursorY = some line
  | .insertTab => (s.numLines : Int) ≤ s.cursorY ∨ ∃ line, s.lineAt s.cursorY = some line ∧ TabFits line mem
  | .newline => (s.numLines : Int) ≤ s.cursorY ∨ ∃ line, s.lineAt s.cursorY = some line ∧ s.NewlineFits line mem
  | .deleteChar => 0 < s.cursorX ∨ s.cursorY ≤ 0 ∨ ∃ first second, s.lineAt (s.cursorY - 1) = some first ∧
      s.lineAt s.cursorY = some second ∧ first.Joins second (mem 0)
  | .deleteCharForward => (s.numLines : Int) ≤ s.cursorY ∨ ∃ line, s.lineAt s.cursorY = some line ∧
      (s.cursorX < line.length ∨ (s.numLines : Int) - 1 ≤ s.cursorY ∨
        ∃ next, s.lineAt (s.cursorY + 1) = some next ∧ line.Joins next (mem 0))

lemma insertTab_outside (h : (s.numLines : Int) ≤ s.cursorY) : s.editorInsertTab mem = some s := by
  unfold editorInsertTab
  generalize List.range editorTabWidth = steps
  induction steps with
  | nil => rfl
  | cons i steps ih =>
    rwa [List.foldlM_cons, editorInsertChar, if_pos h]

/-- **Editing the flat text.**  In every run, a call that meets the condition inserts or deletes at the cursor, or leaves
the text. -/
theorem edit_refines_text {init : Nat → Bool} {s₀ : Editor} {calls : List EditorCall}
    (hinit : editorInit init = some s₀) (hrun : Steps Step s₀ calls s) (e : Edit) (hwhole : s.Whole mem e) :
    ∃ t, s.edit mem e = some t ∧ s.EditsText t e := by
  obtain ⟨hx, hy⟩ := inBuffer_run hinit hrun
  cases e with
  | insertChar c =>
    rcases hwhole with hend | ⟨line, hline⟩
    · exact ⟨s, if_pos hend, Or.inl rfl⟩
    · obtain ⟨pre, post, x, hcursor⟩ := exists_cursorIn hline hx
      exact insertChar_edits hcursor c (mem 0)
  | insertTab =>
    rcases hwhole with hend | ⟨line, hline, hfits⟩
    · exact ⟨s, insertTab_outside hend, Or.inl rfl⟩
    · obtain ⟨pre, post, x, hcursor⟩ := exists_cursorIn hline hx
      exact insertTab_edits hcursor hfits
  | newline =>
    rcases hwhole with hend | ⟨line, hline, hfits⟩
    · exact ⟨s, if_pos hend, Or.inl rfl⟩
    · obtain ⟨pre, post, x, hcursor⟩ := exists_cursorIn hline hx
      exact newline_edits hcursor hfits
  | deleteChar =>
    by_cases hpos : 0 < s.cursorX
    · have hin : 0 ≤ s.cursorY ∧ s.cursorY < s.numLines := by omega
      have hlt : s.cursorY.toNat < s.lines.length := by
        unfold numLines at hin
        omega
      have hslot : s.slot s.cursorY = some (s.lines.get ⟨s.cursorY.toNat, hlt⟩) := by
        rw [slot, if_neg (by omega), List.getElem?_eq_getElem hlt]
        rfl
      exact deleteInLine_edits hpos hslot
    · rcases hwhole.resolve_left hpos with hstart | ⟨first, second, hfirst, hsecond, hjoins⟩
      · refine ⟨s, ?_, Or.inl rfl⟩
        show s.editorDeleteChar (mem 0) = some s
        rw [editorDeleteChar, if_neg hpos, if_neg (by omega)]
      · exact joinBefore_edits (by omega) hfirst hsecond hjoins
  | deleteCharForward =>
    rcases hwhole with hend | ⟨line, hline, hjoins⟩
    · exact ⟨s, if_pos hend, Or.inl rfl⟩
    · obtain ⟨pre, post, x, hcursor⟩ := exists_cursorIn hline hx
      exact deleteForward_edits hcursor hjoins

/-- A new line in an empty buffer. -/
theorem edit_refines_text_newline : ∃ s₀ t : Editor, editorInit (fun _ => true) = some s₀ ∧
    s₀.edit (fun _ => true) .newline = some t ∧ s₀.EditsText t .newline := by
  obtain ⟨s₀, hinit⟩ : ∃ s₀, editorInit (fun _ => true) = some s₀ := ⟨_, rfl⟩
  have hline : ∃ line, s₀.lineAt s₀.cursorY = some line ∧ s₀.NewlineFits line fun _ => true := by
    obtain rfl := Option.some.inj hinit
    exact ⟨_, rfl, Or.inr (Or.inl ⟨by decide, Or.inl (by decide)⟩)⟩
  obtain ⟨t, ht, htext⟩ := edit_refines_text hinit (.nil s₀) .newline
    (show s₀.Whole (fun _ => true) .newline from Or.inr hline)
  exact ⟨s₀, t, hinit, ht, htext⟩

/-- The array of lines is full and does not grow, and the character behind the cursor is lost. -/
theorem newline_loses_text : ∃ s₀ s t : Editor, editorInit (fun _ => true) = some s₀ ∧
    Steps Step s₀ [.openFile .empty (.contents (97 :: List.replicate 256 lineFeed) 257) fun _ => true] s ∧
      s.edit (fun k => k ≠ 2) .newline = some t ∧ ¬ s.EditsText t .newline := by
  obtain ⟨s₀, hinit⟩ : ∃ s₀, editorInit (fun _ => true) = some s₀ := ⟨_, rfl⟩
  obtain ⟨s, hopen, hrest⟩ : ∃ s, s₀.exec (.openFile .empty (.contents (97 :: List.replicate 256 lineFeed) 257)
      fun _ => true) = some s ∧ (s.edit (fun k => k ≠ 2) .newline).map (fun t => (s.text.length, t.text.length)) =
        some (256, 255) := by
    obtain rfl := Option.some.inj hinit
    exact ⟨_, rfl, by set_option maxRecDepth 8192 in decide⟩
  obtain ⟨t, ht, hlengths⟩ := Option.map_eq_some_iff.mp hrest
  obtain ⟨hbefore, hafter⟩ := Prod.mk.inj hlengths
  refine ⟨s₀, s, t, hinit, .cons hopen (.nil s), ht, ?_⟩
  rintro (hsame | hinserted)
  · rw [hsame] at hafter
    omega
  · rw [hinserted, length_insertAt] at hafter
    omega

end Editor

end AAAos
