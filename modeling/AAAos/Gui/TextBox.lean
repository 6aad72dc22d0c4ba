import AAAos.Lib.TextBuffer
import AAAos.Lib.Trace
import Mathlib.Algebra.Group.Int.Defs
import Mathlib.Algebra.Group.Nat.Defs

/-!
# The text box

`gui/widgets/textbox.c`: the text with its cursor, its selection and the part that is scrolled out of
view.  The text is in a buffer of `TEXTBOX_MAX_TEXT` bytes; an operation that leaves the buffer has no
result.  A string that is passed in is given by its bytes before the NUL.

The callbacks, which `textbox_init` leaves null, the blinking of the cursor, the colours and the drawing
are left out.

**What goes wrong.**  `textbox_set_max_length` cuts the text off and moves the cursor, but not the ends of
the selection, which may then lie behind the text: the next deletion computes the size of what it moves
as `text_length - end + 1`, which wraps.  And `textbox_mouse_handler` divides a distance that is negative
to the left of the text, so a press there may put the cursor before the part that is in view, where it
stays until something moves it.

**What is proved.**  Apart from these two, every run keeps the text box in order, and every operation does
to the text just what it says (`textbox_stays_valid`).
-/

namespace AAAos

def textboxMaxText : Nat := 256
def textboxPadding : Int32 := 4
def fontCharWidth : Int32 := 8

def keyA : UInt16 := 65
def keyBackspace : UInt16 := 129
def keyEnter : UInt16 := 131
def keyHome : UInt16 := 153
def keyEnd : UInt16 := 154
def keyDelete : UInt16 := 156
def keyLeft : UInt16 := 161
def keyRight : UInt16 := 162

/-- A `size_t` that is computed as a difference, or made of an `int32_t`. -/
def wrapSize (x : Int) : Nat := (x % 2 ^ 64).toNat

/-- `textbox_t`. -/
structure Textbox where
  width : Int32
  text : List UInt8
  textLength : Nat := 0
  cursorPos : Nat := 0
  selectionStart : Nat := 0
  selectionEnd : Nat := 0
  hasSelection : Bool := false
  scrollOffset : Nat := 0
  readOnly : Bool := false
  maxLength : Nat := 0
deriving DecidableEq

/-- A key event, with the flags of the widget at that time. -/
structure TextboxKey where
  enabled : Bool := true
  focused : Bool := true
  /-- The type is `EVENT_KEY_DOWN` or `EVENT_KEY_CHAR`. -/
  pressed : Bool := true
  keycode : UInt16
  modifiers : UInt16 := 0
  ascii : UInt8 := 0
  handled : Bool := false

/-- A mouse event, with the flag of the widget and its position at that time. -/
structure TextboxMouse where
  enabled : Bool := true
  /-- The type is `EVENT_MOUSE_DOWN`. -/
  down : Bool := true
  globalX : Int32
  absX : Int32

namespace TextboxKey

def shiftHeld (e : TextboxKey) : Bool := e.modifiers &&& 0x03 ≠ 0
def ctrlHeld (e : TextboxKey) : Bool := e.modifiers &&& 0x0C ≠ 0

end TextboxKey

/-- How many characters right of the first one in view the press is. -/
def TextboxMouse.column (e : TextboxMouse) : Int :=
  ((e.globalX - e.absX - textboxPadding) / fontCharWidth).toInt

namespace Textbox

/-- `textbox_init`, in memory with any content. -/
def init (width : Int32) (memory : { m : List UInt8 // m.length = textboxMaxText }) : Textbox :=
  { width := width, text := memory.val.set 0 0 }

/-! ## Operations -/

/-- The maximum that is in force. -/
def maxLen (tb : Textbox) : Nat := if 0 < tb.maxLength then tb.maxLength else textboxMaxText - 1

def visibleChars (tb : Textbox) : Nat :=
  let chars := (tb.width - 2 * textboxPadding) / fontCharWidth
  if chars ≤ 0 then 1 else chars.toInt.toNat

/-- `textbox_ensure_cursor_visible`. -/
def ensureCursorVisible (tb : Textbox) : Textbox :=
  if tb.cursorPos < tb.scrollOffset then { tb with scrollOffset := tb.cursorPos }
  else if tb.scrollOffset + tb.visibleChars ≤ tb.cursorPos then
    { tb with scrollOffset := tb.cursorPos - tb.visibleChars + 1 }
  else tb

/-- `textbox_delete_selection`. -/
def deleteSelection (tb : Textbox) : Option Textbox :=
  if tb.hasSelection then do
    let first := if tb.selectionStart < tb.selectionEnd then tb.selectionStart else tb.selectionEnd
    let last := if tb.selectionStart < tb.selectionEnd then tb.selectionEnd else tb.selectionStart
    let text ← moveWithin tb.text first last (wrapSize (tb.textLength - last + 1))
    return ensureCursorVisible { tb with
      text := text
      textLength := wrapSize (tb.textLength - (last - first))
      cursorPos := first
      hasSelection := false }
  else some tb

/-- `textbox_set_text`. -/
def setText (tb : Textbox) (text : Option (List UInt8)) : Option Textbox := do
  let new := (text.getD []).take tb.maxLen
  let buf ← storeFrom tb.text 0 new
  let buf ← storeAt buf new.length 0
  return ensureCursorVisible { tb with
    text := buf
    textLength := new.length
    cursorPos := new.length
    hasSelection := false
    scrollOffset := 0 }

/-- `textbox_append_text`. -/
def appendText (tb : Textbox) : Option (List UInt8) → Option Textbox
  | none => some tb
  | some text =>
    let new := text.take (wrapSize (tb.maxLen - tb.textLength))
    if 0 < new.length then do
      let buf ← storeFrom tb.text tb.textLength new
      let buf ← storeAt buf (tb.textLength + new.length) 0
      return ensureCursorVisible { tb with
        text := buf
        textLength := tb.textLength + new.length
        cursorPos := tb.textLength + new.length }
    else some tb

/-- `textbox_insert_text` after the selection is gone. -/
def insertAtCursor (tb : Textbox) (text : List UInt8) : Option Textbox :=
  let new := text.take (wrapSize (tb.maxLen - tb.textLength))
  if 0 < new.length then do
    let buf ← moveWithin tb.text (tb.cursorPos + new.length) tb.cursorPos
      (wrapSize (tb.textLength - tb.cursorPos + 1))
    let buf ← storeFrom buf tb.cursorPos new
    return ensureCursorVisible { tb with
      text := buf
      textLength := tb.textLength + new.length
      cursorPos := tb.cursorPos + new.length }
  else some tb

/-- `textbox_insert_text`. -/
def insertText (tb : Textbox) : Option (List UInt8) → Option Textbox
  | none => some tb
  | some text => if tb.readOnly then some tb else tb.deleteSelection.bind (insertAtCursor · text)

/-- `textbox_delete`. -/
def delete (tb : Textbox) (forward : Bool) : Option Textbox :=
  if tb.readOnly then some tb
  else if tb.hasSelection then tb.deleteSelection
  else if forward then
    if tb.cursorPos < tb.textLength then do
      let text ← moveWithin tb.text tb.cursorPos (tb.cursorPos + 1) (wrapSize (tb.textLength - tb.cursorPos))
      return { tb with text := text, textLength := tb.textLength - 1 }
    else some tb
  else if 0 < tb.cursorPos then do
    let text ← moveWithin tb.text (tb.cursorPos - 1) tb.cursorPos
      (wrapSize (tb.textLength - tb.cursorPos + 1))
    return ensureCursorVisible { tb with
      text := text, textLength := wrapSize (tb.textLength - 1), cursorPos := tb.cursorPos - 1 }
  else some tb

/-- `textbox_clear`. -/
def clear (tb : Textbox) : Option Textbox := do
  let text ← storeAt tb.text 0 0
  return { tb with text := text, textLength := 0, cursorPos := 0, hasSelection := false, scrollOffset := 0 }

/-- `textbox_set_cursor`. -/
def setCursor (tb : Textbox) (pos : Nat) : Textbox :=
  ensureCursorVisible { tb with
    cursorPos := if tb.textLength < pos then tb.textLength else pos
    hasSelection := false }

/-- The selection is extended up to `pos`, from the cursor if there was none. -/
def extendTo (tb : Textbox) (pos : Nat) : Textbox :=
  { tb with
    selectionStart := if tb.hasSelection then tb.selectionStart else tb.cursorPos
    hasSelection := true
    selectionEnd := pos }

/-- `textbox_move_cursor`. -/
def moveCursor (tb : Textbox) (delta : Int32) (extendSelection : Bool) : Textbox :=
  let newPos :=
    if delta < 0 then
      if tb.cursorPos < wrapSize (-delta).toInt then 0 else wrapSize (tb.cursorPos + delta.toInt)
    else if tb.textLength < tb.cursorPos + delta.toInt.toNat then tb.textLength
    else tb.cursorPos + delta.toInt.toNat
  let tb := if extendSelection then tb.extendTo newPos else { tb with hasSelection := false }
  ensureCursorVisible { tb with cursorPos := newPos }

/-- `textbox_select_all`. -/
def selectAll (tb : Textbox) : Textbox :=
  if tb.textLength = 0 then tb
  else { tb with
    selectionStart := 0, selectionEnd := tb.textLength, cursorPos := tb.textLength, hasSelection := true }

/-- `textbox_set_max_length`. -/
def setMaxLength (tb : Textbox) (maxLength : Nat) : Option Textbox :=
  if maxLength = 0 ∨ textboxMaxText ≤ maxLength then some { tb with maxLength := 0 }
  else if maxLength < tb.textLength then do
    let text ← storeAt tb.text maxLength 0
    return ensureCursorVisible { tb with
      maxLength := maxLength
      text := text
      textLength := maxLength
      cursorPos := if maxLength < tb.cursorPos then maxLength else tb.cursorPos }
  else some { tb with maxLength := maxLength }

/-- The keys `KEY_HOME` and `KEY_END`: the cursor goes to `pos`, if it is not there. -/
def jumpTo (tb : Textbox) (pos : Nat) (extend : Bool) : Textbox :=
  let tb := if extend then tb.extendTo pos else { tb with hasSelection := false }
  ensureCursorVisible { tb with cursorPos := pos }

/-- `textbox_key_handler`. -/
def keyHandler (tb : Textbox) (e : TextboxKey) : Option Textbox :=
  if !e.enabled || !e.focused || !e.pressed then some tb
  else if e.keycode = keyLeft then some (tb.moveCursor (-1) e.shiftHeld)
  else if e.keycode = keyRight then some (tb.moveCursor 1 e.shiftHeld)
  else if e.keycode = keyHome then some (tb.jumpTo 0 (e.shiftHeld && 0 < tb.cursorPos))
  else if e.keycode = keyEnd then
    some (tb.jumpTo tb.textLength (e.shiftHeld && tb.cursorPos < tb.textLength))
  else if e.keycode = keyBackspace then if tb.readOnly then some tb else tb.delete false
  else if e.keycode = keyDelete then if tb.readOnly then some tb else tb.delete true
  else if e.keycode = keyEnter then some tb
  else if e.keycode = keyA ∧ e.ctrlHeld then some tb.selectAll
  else if !e.handled && 32 ≤ e.ascii && e.ascii < 127 then
    if tb.readOnly then some tb else tb.insertText (some [e.ascii])
  else some tb

/-- `textbox_mouse_handler`. -/
def mouseHandler (tb : Textbox) (e : TextboxMouse) : Textbox :=
  if e.enabled && e.down then
    let charPos := wrapSize (tb.scrollOffset + e.column)
    { tb with cursorPos := if tb.textLength < charPos then tb.textLength else charPos, hasSelection := false }
  else tb

end Textbox

/-! ## Calls -/

/-- A call of the interface, or an event. -/
inductive TextboxCall
  | setText (text : Option (List UInt8))
  | appendText (text : Option (List UInt8))
  | insertText (text : Option (List UInt8))
  | delete (forward : Bool)
  | clear
  | setCursor (pos : Nat)
  | moveCursor (delta : Int32) (extendSelection : Bool)
  | selectAll
  | setMaxLength (maxLength : Nat)
  | key (e : TextboxKey)
  | mouse (e : TextboxMouse)

namespace Textbox

def call (tb : Textbox) : TextboxCall → Option Textbox
  | .setText text => tb.setText text
  | .appendText text => tb.appendText text
  | .insertText text => tb.insertText text
  | .delete forward => tb.delete forward
  | .clear => tb.clear
  | .setCursor pos => some (tb.setCursor pos)
  | .moveCursor delta extendSelection => some (tb.moveCursor delta extendSelection)
  | .selectAll => some tb.selectAll
  | .setMaxLength maxLength => tb.setMaxLength maxLength
  | .key e => tb.keyHandler e
  | .mouse e => some (tb.mouseHandler e)

/-! ## What the operations are for -/

/-- The text. -/
def content (tb : Textbox) : List UInt8 := tb.text.take tb.textLength

/-- The text box is in order. -/
structure Valid (tb : Textbox) : Prop where
  size : tb.text.length = textboxMaxText
  limit : tb.maxLength < textboxMaxText
  fits : tb.textLength ≤ tb.maxLen
  ended : tb.text[tb.textLength]? = some 0
  cursor : tb.cursorPos ≤ tb.textLength
  scroll : tb.scrollOffset ≤ tb.cursorPos
  selection : tb.hasSelection → tb.selectionStart ≤ tb.textLength ∧ tb.selectionEnd ≤ tb.textLength

/-- The range that is selected, or the empty one at the cursor. -/
def selected (tb : Textbox) : Nat × Nat :=
  if tb.hasSelection then
    (min tb.selectionStart tb.selectionEnd, max tb.selectionStart tb.selectionEnd)
  else (tb.cursorPos, tb.cursorPos)

/-- The text with `new` in the place of a range. -/
def replaced (tb : Textbox) (range : Nat × Nat) (new : List UInt8) : List UInt8 :=
  tb.content.take range.1 ++ (new ++ tb.content.drop range.2)

/-- What a deletion is to leave: without what is selected, or without the character at the cursor. -/
def afterDelete (tb : Textbox) (forward : Bool) : List UInt8 :=
  if tb.readOnly then tb.content
  else if tb.hasSelection then tb.replaced tb.selected []
  else if forward then tb.replaced (tb.cursorPos, tb.cursorPos + 1) []
  else tb.replaced (tb.cursorPos - 1, tb.cursorPos) []

/-- What an insertion is to leave: as much of the text as fits, in the place of what is selected. -/
def afterInsert (tb : Textbox) (text : List UInt8) : List UInt8 :=
  if tb.readOnly then tb.content
  else tb.replaced tb.selected
    (text.take (tb.maxLen - (tb.textLength - (tb.selected.2 - tb.selected.1))))

/-- What a key is to leave. -/
def afterKey (tb : Textbox) (e : TextboxKey) : List UInt8 :=
  if !e.enabled || !e.focused || !e.pressed then tb.content
  else if e.keycode = keyBackspace then tb.afterDelete false
  else if e.keycode = keyDelete then tb.afterDelete true
  else if e.keycode ∈ [keyLeft, keyRight, keyHome, keyEnd, keyEnter] ∨ (e.keycode = keyA ∧ e.ctrlHeld) then
    tb.content
  else if !e.handled && 32 ≤ e.ascii && e.ascii < 127 then tb.afterInsert [e.ascii]
  else tb.content

/-- What a call is to leave. -/
def afterCall (tb : Textbox) : TextboxCall → List UInt8
  | .setText text => (text.getD []).take tb.maxLen
  | .appendText text => tb.content ++ (text.getD []).take (tb.maxLen - tb.textLength)
  | .insertText text => text.elim tb.content tb.afterInsert
  | .delete forward => tb.afterDelete forward
  | .clear => []
  | .setMaxLength maxLength =>
    if maxLength = 0 ∨ textboxMaxText ≤ maxLength then tb.content else tb.content.take maxLength
  | .key e => tb.afterKey e
  | .setCursor _ | .moveCursor _ _ | .selectAll | .mouse _ => tb.content

/-- The call cuts no selection off, and does not put the cursor left of what is in view. -/
def Harmless (tb : Textbox) : TextboxCall → Prop
  | .setMaxLength maxLength =>
    0 < maxLength → maxLength < tb.textLength → tb.hasSelection →
      tb.selectionStart ≤ maxLength ∧ tb.selectionEnd ≤ maxLength
  | .mouse e => e.enabled → e.down → e.column < 0 → tb.scrollOffset + e.column < 0
  | _ => True

/-! ## The text in the buffer -/

/-- The buffer holds this text, with the NUL behind it. -/
structure Holds (tb : Textbox) (cs : List UInt8) : Prop where
  size : tb.text.length = textboxMaxText
  length : tb.textLength = cs.length
  text : ∃ rest, tb.text = cs ++ 0 :: rest

variable {tb : Textbox} {cs : List UInt8}

lemma Holds.terminated (h : tb.Holds cs) : Terminated 0 tb.text cs := h.text

lemma Holds.content (h : tb.Holds cs) : tb.content = cs := by
  rw [Textbox.content, h.length]
  exact h.terminated.take

lemma Holds.ended (h : tb.Holds cs) : tb.text[tb.textLength]? = some 0 := by
  rw [h.length]
  exact h.terminated.getElem?

lemma Valid.holds (h : tb.Valid) : tb.Holds tb.content := by
  have hlt : tb.textLength < tb.text.length := (List.getElem?_eq_some_iff.mp h.ended).1
  refine ⟨h.size, ?_, terminated_take h.ended⟩
  simp [Textbox.content, Nat.min_eq_left (Nat.le_of_lt hlt)]

lemma maxLen_lt (h : tb.maxLength < textboxMaxText) : tb.maxLen < textboxMaxText := by
  rw [maxLen]
  split_ifs
  · exact h
  · decide

lemma Valid.length_lt (h : tb.Valid) : tb.textLength < 256 :=
  Nat.lt_of_le_of_lt h.fits (maxLen_lt h.limit)

lemma wrapSize_natCast {n : Nat} {x : Int} (hx : x = n) (hn : n < 2 ^ 64) : wrapSize x = n := by
  rw [wrapSize]
  omega

/-! ## Scrolling -/

lemma one_le_visibleChars (tb : Textbox) : 1 ≤ tb.visibleChars := by
  rw [visibleChars]
  split_ifs with h
  · exact Nat.le_refl 1
  · have hpos : 0 < ((tb.width - 2 * textboxPadding) / fontCharWidth).toInt := by
      rwa [Int32.not_le, Int32.lt_iff_toInt_lt] at h
    omega

lemma ensureCursorVisible_spec (tb : Textbox) :
    ∃ scroll ≤ tb.cursorPos, tb.ensureCursorVisible = { tb with scrollOffset := scroll } := by
  have hvisible := tb.one_le_visibleChars
  rw [ensureCursorVisible]
  split_ifs with hleft hright
  · exact ⟨tb.cursorPos, Nat.le_refl _, rfl⟩
  · exact ⟨tb.cursorPos - tb.visibleChars + 1, by omega, rfl⟩
  · exact ⟨tb.scrollOffset, by omega, rfl⟩

lemma Holds.scrolled (h : tb.Holds cs) (hlimit : tb.maxLength < textboxMaxText) (hfits : cs.length ≤ tb.maxLen)
    (hcursor : tb.cursorPos ≤ cs.length)
    (hsel : tb.hasSelection → tb.selectionStart ≤ cs.length ∧ tb.selectionEnd ≤ cs.length) :
    tb.ensureCursorVisible.Valid ∧ tb.ensureCursorVisible.content = cs := by
  obtain ⟨scroll, hscroll, hview⟩ := tb.ensureCursorVisible_spec
  rw [hview]
  refine ⟨⟨h.size, hlimit, ?_, h.ended, ?_, hscroll, ?_⟩, h.content⟩
  · exact Nat.le_trans (Nat.le_of_eq h.length) hfits
  · exact Nat.le_trans hcursor (Nat.le_of_eq h.length.symm)
  · intro hs
    rw [h.length]
    exact hsel hs

/-! ## Cutting out and putting in -/

lemma Holds.cut (h : tb.Holds cs) {i j n : Nat} (hij : i ≤ j) (hj : j ≤ cs.length) (hn : n = cs.length - j + 1) :
    ∃ text, moveWithin tb.text i j n = some text ∧ text.length = textboxMaxText ∧
      ∃ rest, text = (cs.take i ++ cs.drop j) ++ 0 :: rest := by
  obtain ⟨text, hmove, hsize, hsame⟩ := h.terminated.cut hij hj hn
  exact ⟨text, hmove, hsize.trans h.size, hsame⟩

lemma Holds.insert (h : tb.Holds cs) {new : List UInt8} {i n : Nat} (hi : i ≤ cs.length)
    (hn : n = cs.length - i + 1) (hroom : cs.length + new.length < textboxMaxText) :
    ∃ text, ((moveWithin tb.text (i + new.length) i n).bind fun buf => storeFrom buf i new) = some text ∧
      text.length = textboxMaxText ∧ ∃ rest, text = (cs.take i ++ (new ++ cs.drop i)) ++ 0 :: rest := by
  obtain ⟨text, hput, hsize, hsame⟩ := h.terminated.insert hi hn (h.size ▸ hroom)
  exact ⟨text, hput, hsize.trans h.size, hsame⟩

lemma Holds.write (h : tb.Holds cs) {new : List UInt8} {i : Nat} (hi : i ≤ cs.length)
    (hroom : i + new.length < textboxMaxText) :
    ∃ text, ((storeFrom tb.text i new).bind fun buf => storeAt buf (i + new.length) 0) = some text ∧
      text.length = textboxMaxText ∧ ∃ rest, text = (cs.take i ++ new) ++ 0 :: rest := by
  obtain ⟨text, hput, hsize, hsame⟩ := h.terminated.write hi (h.size ▸ hroom)
  exact ⟨text, hput, hsize.trans h.size, hsame⟩

/-! ## What each operation leaves -/

/-- There is a result, which is in order and has this text. -/
def Leaves (result : Option Textbox) (cs : List UInt8) : Prop :=
  ∃ tb, result = some tb ∧ tb.Valid ∧ tb.content = cs

lemma Valid.unchanged (h : tb.Valid) : Leaves (some tb) tb.content := ⟨tb, rfl, h, rfl⟩

lemma Valid.selected_le (h : tb.Valid) : tb.selected.1 ≤ tb.selected.2 ∧ tb.selected.2 ≤ tb.textLength := by
  have hsel := h.selection
  have hcursor := h.cursor
  rw [selected]
  split_ifs with hs
  · have := hsel hs
    constructor <;> dsimp only <;> omega
  · exact ⟨Nat.le_refl _, hcursor⟩

lemma length_replaced (h : tb.Valid) (new : List UInt8) :
    (tb.replaced tb.selected new).length = tb.textLength - (tb.selected.2 - tb.selected.1) + new.length := by
  have hlen := h.holds.length
  obtain ⟨hle, hend⟩ := h.selected_le
  rw [replaced]
  simp
  omega

lemma deleteSelection_spec (h : tb.Valid) :
    ∃ tb', tb.deleteSelection = some tb' ∧ tb'.Valid ∧ tb'.content = tb.replaced tb.selected [] ∧
      tb'.cursorPos = tb.selected.1 ∧ tb'.maxLength = tb.maxLength ∧ ¬ tb'.hasSelection := by
  obtain ⟨hle, hend⟩ := h.selected_le
  have hlen := h.holds.length
  have hlt := h.length_lt
  by_cases hs : tb.hasSelection
  · have hfirst : (if tb.selectionStart < tb.selectionEnd then tb.selectionStart else tb.selectionEnd) =
        tb.selected.1 := by
      rw [selected]
      split_ifs <;> dsimp only <;> omega
    have hlast : (if tb.selectionStart < tb.selectionEnd then tb.selectionEnd else tb.selectionStart) =
        tb.selected.2 := by
      rw [selected]
      split_ifs <;> dsimp only <;> omega
    generalize hi : tb.selected.1 = i at hfirst hle ⊢
    generalize hj : tb.selected.2 = j at hlast hle hend ⊢
    have hmoved : wrapSize ((tb.textLength : Int) - j + 1) = tb.content.length - j + 1 :=
      wrapSize_natCast (by omega) (by omega)
    have hleft : wrapSize ((tb.textLength : Int) - ((j : Int) - i)) = tb.textLength - (j - i) :=
      wrapSize_natCast (by omega) (by omega)
    obtain ⟨text, hmove, hsize, htext⟩ := h.holds.cut hle (by omega) hmoved
    have hcut : (tb.replaced (i, j) []).length = tb.textLength - (j - i) := by
      simp [replaced]
      omega
    have hholds : Holds { tb with
        text := text, textLength := tb.textLength - (j - i), cursorPos := i, hasSelection := false }
        (tb.replaced (i, j) []) :=
      ⟨hsize, hcut.symm, htext⟩
    have hfits := h.fits
    obtain ⟨hvalid, hcontent⟩ := hholds.scrolled h.limit
      (show (tb.replaced (i, j) []).length ≤ tb.maxLen by omega)
      (show i ≤ (tb.replaced (i, j) []).length by omega) (fun hno => absurd hno Bool.false_ne_true)
    have hpair : tb.selected = (i, j) := Prod.ext hi hj
    obtain ⟨scroll, -, hview⟩ := ensureCursorVisible_spec { tb with
      text := text, textLength := tb.textLength - (j - i), cursorPos := i, hasSelection := false }
    refine ⟨_, ?_, hvalid, hpair ▸ hcontent, ?_, ?_, ?_⟩
    · simp only [deleteSelection, if_pos hs, hfirst, hlast, hmove, hleft]
      rfl
    · rw [hview]
    · rw [hview]
    · rw [hview]
      exact Bool.false_ne_true
  · refine ⟨tb, ?_, h, ?_, ?_, rfl, hs⟩
    · rw [deleteSelection, if_neg hs]
    · rw [replaced, selected, if_neg hs, List.nil_append, List.take_append_drop]
    · rw [selected, if_neg hs]

lemma setText_leaves (h : tb.Valid) (text : Option (List UInt8)) :
    Leaves (tb.setText text) ((text.getD []).take tb.maxLen) := by
  have hmax := maxLen_lt h.limit
  generalize hnew : (text.getD []).take tb.maxLen = new
  have hfits : new.length ≤ tb.maxLen := by
    rw [← hnew, List.length_take]
    exact Nat.min_le_left _ _
  obtain ⟨buf, hwrite, hsize, htext⟩ := h.holds.write (Nat.zero_le _)
    (show 0 + new.length < textboxMaxText by omega)
  obtain ⟨stored, hstore, hnul⟩ := Option.bind_eq_some_iff.mp hwrite
  rw [Nat.zero_add] at hnul
  have hholds : Holds { tb with
      text := buf, textLength := new.length, cursorPos := new.length, hasSelection := false
      scrollOffset := 0 } new :=
    ⟨hsize, rfl, htext⟩
  refine ⟨_, ?_, hholds.scrolled h.limit hfits (Nat.le_refl _) (fun hno => absurd hno Bool.false_ne_true)⟩
  simp only [setText, hnew, hstore, Option.bind_eq_bind, Option.bind_some, hnul]
  rfl

lemma appendText_leaves (h : tb.Valid) (text : Option (List UInt8)) :
    Leaves (tb.appendText text) (tb.content ++ (text.getD []).take (tb.maxLen - tb.textLength)) := by
  have hmax := maxLen_lt h.limit
  have hlen := h.holds.length
  have hfits := h.fits
  have hroom : wrapSize ((tb.maxLen : Int) - tb.textLength) = tb.maxLen - tb.textLength :=
    wrapSize_natCast (by omega) (by rw [textboxMaxText] at hmax; omega)
  cases text with
  | none =>
    rw [Option.getD_none, List.take_nil, List.append_nil]
    exact h.unchanged
  | some text =>
    rw [Option.getD_some]
    simp only [appendText, hroom]
    generalize hnew : text.take (tb.maxLen - tb.textLength) = new
    have hle : new.length ≤ tb.maxLen - tb.textLength := by
      rw [← hnew, List.length_take]
      exact Nat.min_le_left _ _
    split_ifs with hpos
    · obtain ⟨buf, hwrite, hsize, htext⟩ := h.holds.write (Nat.le_of_eq hlen)
        (show tb.textLength + new.length < textboxMaxText by omega)
      obtain ⟨stored, hstore, hnul⟩ := Option.bind_eq_some_iff.mp hwrite
      rw [hlen, List.take_length] at htext
      have htotal : tb.textLength + new.length = (tb.content ++ new).length := by
        simp [← hlen]
      have hholds : Holds { tb with
          text := buf, textLength := tb.textLength + new.length
          cursorPos := tb.textLength + new.length } (tb.content ++ new) :=
        ⟨hsize, htotal, htext⟩
      have hsel := h.selection
      refine ⟨_, ?_, hholds.scrolled h.limit
        (show (tb.content ++ new).length ≤ tb.maxLen by omega) (Nat.le_of_eq htotal)
        (fun hs => ⟨Nat.le_trans (hsel hs).1 (by omega), Nat.le_trans (hsel hs).2 (by omega)⟩)⟩
      simp only [hstore, Option.bind_eq_bind, Option.bind_some, hnul]
      rfl
    · obtain rfl : new = [] := List.eq_nil_of_length_eq_zero (by omega)
      rw [List.append_nil]
      exact h.unchanged

lemma insertAtCursor_leaves (h : tb.Valid) (hsel : ¬ tb.hasSelection) (text : List UInt8) :
    Leaves (tb.insertAtCursor text)
      (tb.replaced (tb.cursorPos, tb.cursorPos) (text.take (tb.maxLen - tb.textLength))) := by
  have hmax := maxLen_lt h.limit
  have hlen := h.holds.length
  have hfits := h.fits
  have hcursor := h.cursor
  rw [textboxMaxText] at hmax
  have hroom : wrapSize ((tb.maxLen : Int) - tb.textLength) = tb.maxLen - tb.textLength :=
    wrapSize_natCast (by omega) (by omega)
  have hmoved : wrapSize ((tb.textLength : Int) - tb.cursorPos + 1) = tb.content.length - tb.cursorPos + 1 :=
    wrapSize_natCast (by omega) (by omega)
  simp only [insertAtCursor, hroom]
  generalize hnew : text.take (tb.maxLen - tb.textLength) = new
  have hle : new.length ≤ tb.maxLen - tb.textLength := by
    rw [← hnew, List.length_take]
    exact Nat.min_le_left _ _
  split_ifs with hpos
  · obtain ⟨buf, hins, hsize, htext⟩ := h.holds.insert (show tb.cursorPos ≤ tb.content.length by omega)
      hmoved (show tb.content.length + new.length < textboxMaxText by rw [textboxMaxText]; omega)
    obtain ⟨moved, hmove, hstore⟩ := Option.bind_eq_some_iff.mp hins
    have htotal : tb.textLength + new.length = (tb.replaced (tb.cursorPos, tb.cursorPos) new).length := by
      simp [replaced]
      omega
    have hholds : Holds { tb with
        text := buf, textLength := tb.textLength + new.length
        cursorPos := tb.cursorPos + new.length } (tb.replaced (tb.cursorPos, tb.cursorPos) new) :=
      ⟨hsize, htotal, htext⟩
    refine ⟨_, ?_, hholds.scrolled h.limit
      (show (tb.replaced (tb.cursorPos, tb.cursorPos) new).length ≤ tb.maxLen by omega)
      (show tb.cursorPos + new.length ≤ _ by omega) (fun hs => absurd hs hsel)⟩
    simp only [hmove, Option.bind_eq_bind, Option.bind_some, hstore]
    rfl
  · obtain rfl : new = [] := List.eq_nil_of_length_eq_zero (by omega)
    rw [replaced, List.nil_append, List.take_append_drop]
    exact h.unchanged

lemma insertText_leaves (h : tb.Valid) (text : Option (List UInt8)) :
    Leaves (tb.insertText text) (text.elim tb.content tb.afterInsert) := by
  cases text with
  | none => exact h.unchanged
  | some text =>
    show Leaves (if tb.readOnly then _ else _) (tb.afterInsert text)
    rw [afterInsert]
    split_ifs with hro
    · exact h.unchanged
    obtain ⟨tb', hdel, hvalid, hcontent, hcursor, hmaximum, hsel⟩ := deleteSelection_spec h
    obtain ⟨hle, hend⟩ := h.selected_le
    have hlen := h.holds.length
    have hshort := length_replaced h []
    rw [hdel]
    have hmax : tb'.maxLen = tb.maxLen := by simp [maxLen, hmaximum]
    have hlength : tb'.textLength = tb.textLength - (tb.selected.2 - tb.selected.1) := by
      rw [hvalid.holds.length, hcontent, hshort, List.length_nil, Nat.add_zero]
    have hfront : (tb.content.take tb.selected.1).length = tb.selected.1 := by
      simp
      omega
    have hput := insertAtCursor_leaves hvalid hsel text
    rwa [replaced, hcontent, hcursor, hmax, hlength, replaced, List.take_left' hfront,
      List.drop_left' hfront] at hput

lemma delete_leaves (h : tb.Valid) (forward : Bool) : Leaves (tb.delete forward) (tb.afterDelete forward) := by
  have hlen := h.holds.length
  have hcursor := h.cursor
  have hlt := h.length_lt
  have hfits := h.fits
  have hscroll := h.scroll
  rw [delete, afterDelete]
  split_ifs with hro hs hforward hleft hback
  · exact h.unchanged
  · obtain ⟨tb', hdel, hvalid, hcontent, -⟩ := deleteSelection_spec h
    exact ⟨tb', hdel, hvalid, hcontent⟩
  · have hmoved : wrapSize ((tb.textLength : Int) - tb.cursorPos) = tb.content.length - (tb.cursorPos + 1) + 1 :=
      wrapSize_natCast (by omega) (by omega)
    obtain ⟨text, hmove, hsize, htext⟩ := h.holds.cut (Nat.le_succ tb.cursorPos) (by omega) hmoved
    have htotal : tb.textLength - 1 = (tb.replaced (tb.cursorPos, tb.cursorPos + 1) []).length := by
      simp [replaced]
      omega
    have hholds : Holds { tb with text := text, textLength := tb.textLength - 1 }
        (tb.replaced (tb.cursorPos, tb.cursorPos + 1) []) :=
      ⟨hsize, htotal, htext⟩
    refine ⟨{ tb with text := text, textLength := tb.textLength - 1 }, ?_, ?_, hholds.content⟩
    · simp only [hmove]
      rfl
    · exact ⟨hsize, h.limit, Nat.le_trans (Nat.sub_le _ _) hfits, hholds.ended, Nat.le_sub_one_of_lt hleft,
        hscroll, fun hno => absurd hno hs⟩
  · rw [replaced, List.nil_append, List.take_of_length_le (by omega),
      List.drop_eq_nil_of_le (by dsimp only; omega), List.append_nil]
    exact h.unchanged
  · have hmoved : wrapSize ((tb.textLength : Int) - tb.cursorPos + 1) = tb.content.length - tb.cursorPos + 1 :=
      wrapSize_natCast (by omega) (by omega)
    have hone : wrapSize ((tb.textLength : Int) - 1) = tb.textLength - 1 :=
      wrapSize_natCast (by omega) (by omega)
    obtain ⟨text, hmove, hsize, htext⟩ := h.holds.cut (Nat.sub_le tb.cursorPos 1) (by omega) hmoved
    have htotal : tb.textLength - 1 = (tb.replaced (tb.cursorPos - 1, tb.cursorPos) []).length := by
      simp only [replaced, List.nil_append, List.length_append, List.length_take, List.length_drop]
      omega
    have hholds : Holds { tb with
        text := text, textLength := tb.textLength - 1, cursorPos := tb.cursorPos - 1 }
        (tb.replaced (tb.cursorPos - 1, tb.cursorPos) []) :=
      ⟨hsize, htotal, htext⟩
    refine ⟨_, ?_, hholds.scrolled h.limit
      (show (tb.replaced (tb.cursorPos - 1, tb.cursorPos) []).length ≤ tb.maxLen by omega)
      (show tb.cursorPos - 1 ≤ _ by omega) (fun hno => absurd hno hs)⟩
    simp only [hmove, hone]
    rfl
  · have hzero : tb.cursorPos = 0 := by omega
    rw [replaced, hzero, List.nil_append, Nat.zero_sub, List.take_append_drop]
    exact h.unchanged

lemma clear_leaves (h : tb.Valid) : Leaves tb.clear [] := by
  obtain ⟨text, hwrite, hsize, htext⟩ := h.holds.write (Nat.zero_le _)
    (show 0 + ([] : List UInt8).length < textboxMaxText by decide)
  have hholds : Holds { tb with
      text := text, textLength := 0, cursorPos := 0, hasSelection := false, scrollOffset := 0 } [] :=
    ⟨hsize, rfl, htext⟩
  refine ⟨{ tb with
      text := text, textLength := 0, cursorPos := 0, hasSelection := false, scrollOffset := 0 }, ?_,
    ⟨hsize, h.limit, Nat.zero_le _, hholds.ended, Nat.le_refl _, Nat.le_refl _,
      fun hno => absurd hno Bool.false_ne_true⟩, hholds.content⟩
  rw [clear, show storeAt tb.text 0 0 = some text from hwrite]
  rfl

lemma setMaxLength_leaves (h : tb.Valid) (maxLength : Nat) (hharm : tb.Harmless (.setMaxLength maxLength)) :
    Leaves (tb.setMaxLength maxLength)
      (if maxLength = 0 ∨ textboxMaxText ≤ maxLength then tb.content else tb.content.take maxLength) := by
  have hlen := h.holds.length
  have hlt := h.length_lt
  rw [setMaxLength]
  by_cases hnone : maxLength = 0 ∨ textboxMaxText ≤ maxLength
  · rw [if_pos hnone, if_pos hnone]
    exact ⟨_, rfl, ⟨h.size, (by decide : 0 < textboxMaxText), Nat.le_sub_one_of_lt hlt, h.ended, h.cursor,
      h.scroll, h.selection⟩, rfl⟩
  rw [if_neg hnone, if_neg hnone]
  rw [not_or, Nat.not_le] at hnone
  by_cases hcut : maxLength < tb.textLength
  · rw [if_pos hcut]
    obtain ⟨text, hwrite, hsize, htext⟩ := h.holds.write (show maxLength ≤ tb.content.length by omega)
      (show maxLength + ([] : List UInt8).length < textboxMaxText from hnone.2)
    have hnul : storeAt tb.text maxLength 0 = some text := hwrite
    rw [List.append_nil] at htext
    have htotal : maxLength = (tb.content.take maxLength).length := by
      simp
      omega
    have hholds : Holds { tb with
        maxLength := maxLength, text := text, textLength := maxLength
        cursorPos := if maxLength < tb.cursorPos then maxLength else tb.cursorPos }
        (tb.content.take maxLength) :=
      ⟨hsize, htotal, htext⟩
    have hmaximum : maxLen { tb with
        maxLength := maxLength, text := text, textLength := maxLength
        cursorPos := if maxLength < tb.cursorPos then maxLength else tb.cursorPos } = maxLength :=
      if_pos (Nat.pos_of_ne_zero hnone.1)
    refine ⟨_, ?_, hholds.scrolled hnone.2 (Nat.le_of_eq (htotal.symm.trans hmaximum.symm)) ?_ ?_⟩
    · rw [hnul]
      rfl
    · dsimp only
      split_ifs <;> omega
    · intro hs
      rw [← htotal]
      exact hharm (Nat.pos_of_ne_zero hnone.1) hcut hs
  · have hmaximum : maxLen { tb with maxLength := maxLength } = maxLength :=
      if_pos (Nat.pos_of_ne_zero hnone.1)
    rw [if_neg hcut, List.take_of_length_le (Nat.le_trans (Nat.le_of_eq hlen.symm) (Nat.not_lt.mp hcut))]
    refine ⟨_, rfl, ⟨h.size, hnone.2, ?_, h.ended, h.cursor, h.scroll, h.selection⟩, rfl⟩
    rw [hmaximum]
    exact Nat.not_lt.mp hcut

/-! ## What only moves the cursor -/

lemma setCursor_leaves (h : tb.Valid) (pos : Nat) : Leaves (some (tb.setCursor pos)) tb.content := by
  have hlen := h.holds.length
  have hholds : Holds { tb with
      cursorPos := if tb.textLength < pos then tb.textLength else pos, hasSelection := false } tb.content :=
    ⟨h.size, hlen, h.holds.text⟩
  refine ⟨_, rfl, hholds.scrolled h.limit (Nat.le_trans (Nat.le_of_eq hlen.symm) h.fits) ?_
    (fun hno => absurd hno Bool.false_ne_true)⟩
  dsimp only
  split_ifs <;> omega

/-- Moving to `pos`, with or without the end of the selection. -/
lemma jumpTo_leaves (h : tb.Valid) {pos : Nat} (hpos : pos ≤ tb.textLength) (extend : Bool) :
    Leaves (some (tb.jumpTo pos extend)) tb.content := by
  have hlen := h.holds.length
  have hcursor := h.cursor
  have hsel := h.selection
  have hfits : tb.content.length ≤ tb.maxLen := Nat.le_trans (Nat.le_of_eq hlen.symm) h.fits
  cases extend with
  | false =>
    have hholds : Holds { tb with hasSelection := false, cursorPos := pos } tb.content :=
      ⟨h.size, hlen, h.holds.text⟩
    exact ⟨_, rfl, hholds.scrolled h.limit hfits (Nat.le_trans hpos (Nat.le_of_eq hlen))
      (fun hno => absurd hno Bool.false_ne_true)⟩
  | true =>
    have hholds : Holds { tb.extendTo pos with cursorPos := pos } tb.content :=
      ⟨h.size, hlen, h.holds.text⟩
    refine ⟨_, rfl, hholds.scrolled h.limit hfits (Nat.le_trans hpos (Nat.le_of_eq hlen)) fun _ => ⟨?_, ?_⟩⟩
    · rw [← hlen]
      show (if tb.hasSelection then tb.selectionStart else tb.cursorPos) ≤ tb.textLength
      split_ifs with hs
      · exact (hsel hs).1
      · exact hcursor
    · exact Nat.le_trans hpos (Nat.le_of_eq hlen)

/-- The cursor does not move off the text, even when the distance is the least number there is. -/
lemma moveCursor_leaves (h : tb.Valid) (delta : Int32) (extend : Bool) :
    Leaves (some (tb.moveCursor delta extend)) tb.content := by
  have hcursor := h.cursor
  have hlow := delta.le_toInt
  refine @jumpTo_leaves _ h _ ?_ extend
  split_ifs with hneg hfar hend
  · exact Nat.zero_le _
  · rw [Int32.lt_iff_toInt_lt, Int32.toInt_zero] at hneg
    rw [Int32.toInt_neg, Int.bmod_def, wrapSize] at hfar
    rw [wrapSize]
    split_ifs at hfar <;> omega
  · exact Nat.le_refl _
  · exact Nat.not_lt.mp hend

lemma selectAll_leaves (h : tb.Valid) : Leaves (some tb.selectAll) tb.content := by
  rw [selectAll]
  split_ifs with hempty
  · exact h.unchanged
  · exact ⟨_, rfl, ⟨h.size, h.limit, h.fits, h.ended, Nat.le_refl _, Nat.le_trans h.scroll h.cursor,
      fun _ => ⟨Nat.zero_le _, Nat.le_refl _⟩⟩, rfl⟩

lemma mouseHandler_leaves (h : tb.Valid) (e : TextboxMouse) (hharm : tb.Harmless (.mouse e)) :
    Leaves (some (tb.mouseHandler e)) tb.content := by
  have hlt := h.length_lt
  have hcursor := h.cursor
  have hscroll := h.scroll
  rw [mouseHandler]
  split_ifs with hpress
  · rw [Bool.and_eq_true] at hpress
    have hcolumn := hharm hpress.1 hpress.2
    have hlow : -2 ^ 31 ≤ e.column := Int32.le_toInt _
    have hhigh : e.column < 2 ^ 31 := Int32.toInt_lt _
    refine ⟨_, rfl, ⟨h.size, h.limit, h.fits, h.ended, ?_, ?_, fun hno => absurd hno Bool.false_ne_true⟩, rfl⟩
    · dsimp only
      split_ifs <;> omega
    · dsimp only
      rw [wrapSize]
      split_ifs <;> omega
  · exact h.unchanged

lemma afterKey_move {e : TextboxKey} (hmove : e.keycode ∈ [keyLeft, keyRight, keyHome, keyEnd, keyEnter]) :
    tb.afterKey e = tb.content := by
  have hback : e.keycode ≠ keyBackspace := fun hk => absurd (hk ▸ hmove) (by decide)
  have hdel : e.keycode ≠ keyDelete := fun hk => absurd (hk ▸ hmove) (by decide)
  rw [afterKey, if_neg hback, if_neg hdel, if_pos (Or.inl hmove), ite_self]

lemma keyHandler_leaves (h : tb.Valid) (e : TextboxKey) : Leaves (tb.keyHandler e) (tb.afterKey e) := by
  rw [keyHandler]
  by_cases hoff : (!e.enabled || !e.focused || !e.pressed) = true
  · rw [if_pos hoff, afterKey, if_pos hoff]
    exact h.unchanged
  rw [if_neg hoff]
  by_cases hleft : e.keycode = keyLeft
  · rw [if_pos hleft, afterKey_move (by rw [hleft]; decide)]
    exact moveCursor_leaves h _ _
  by_cases hright : e.keycode = keyRight
  · rw [if_neg hleft, if_pos hright, afterKey_move (by rw [hright]; decide)]
    exact moveCursor_leaves h _ _
  by_cases hhome : e.keycode = keyHome
  · rw [if_neg hleft, if_neg hright, if_pos hhome, afterKey_move (by rw [hhome]; decide)]
    exact jumpTo_leaves h (Nat.zero_le _) _
  by_cases hend : e.keycode = keyEnd
  · rw [if_neg hleft, if_neg hright, if_neg hhome, if_pos hend, afterKey_move (by rw [hend]; decide)]
    exact jumpTo_leaves h (Nat.le_refl _) _
  rw [if_neg hleft, if_neg hright, if_neg hhome, if_neg hend, afterKey, if_neg hoff]
  by_cases hback : e.keycode = keyBackspace
  · rw [if_pos hback, if_pos hback]
    split_ifs with hro
    · rw [afterDelete, if_pos hro]
      exact h.unchanged
    · exact delete_leaves h false
  rw [if_neg hback, if_neg hback]
  by_cases hdel : e.keycode = keyDelete
  · rw [if_pos hdel]
    split_ifs with hro
    · rw [afterDelete, if_pos hro]
      exact h.unchanged
    · exact delete_leaves h true
  rw [if_neg hdel, if_neg hdel]
  by_cases henter : e.keycode = keyEnter
  · rw [if_pos henter, if_pos (.inl (by rw [henter]; decide))]
    exact h.unchanged
  by_cases hall : e.keycode = keyA ∧ e.ctrlHeld
  · rw [if_neg henter, if_pos hall, if_pos (.inr hall)]
    exact selectAll_leaves h
  have hother : ¬(e.keycode ∈ [keyLeft, keyRight, keyHome, keyEnd, keyEnter] ∨ (e.keycode = keyA ∧ e.ctrlHeld)) := by
    simp only [List.mem_cons, List.not_mem_nil, hleft, hright, hhome, hend, henter, hall, or_self, not_false_eq_true]
  split_ifs with htyped hro
  · rw [afterInsert, if_pos hro]
    exact h.unchanged
  · exact insertText_leaves h (some [e.ascii])
  · exact h.unchanged

/-- Every call that is harmless leaves the text box in order, with the text that it is to leave. -/
lemma call_leaves (h : tb.Valid) {c : TextboxCall} (hharm : tb.Harmless c) : Leaves (tb.call c) (tb.afterCall c) := by
  cases c with
  | setText text => exact setText_leaves h text
  | appendText text => exact appendText_leaves h text
  | insertText text => exact insertText_leaves h text
  | delete forward => exact delete_leaves h forward
  | clear => exact clear_leaves h
  | setCursor pos => exact setCursor_leaves h pos
  | moveCursor delta extendSelection => exact moveCursor_leaves h delta extendSelection
  | selectAll => exact selectAll_leaves h
  | setMaxLength maxLength => exact setMaxLength_leaves h maxLength hharm
  | key e => exact keyHandler_leaves h e
  | mouse e => exact mouseHandler_leaves h e hharm

/-! ## Runs -/

/-- One call of a run. -/
def Step (tb : Textbox) (c : TextboxCall) (tb' : Textbox) : Prop := tb.call c = some tb'

/-- One call that is harmless. -/
def HarmlessStep (tb : Textbox) (c : TextboxCall) (tb' : Textbox) : Prop := tb.Harmless c ∧ tb.Step c tb'

lemma valid_init (width : Int32) (memory : { m : List UInt8 // m.length = textboxMaxText }) :
    (init width memory).Valid := by
  refine ⟨?_, (by decide : 0 < textboxMaxText), Nat.zero_le _, ?_, Nat.le_refl _, Nat.le_refl _,
    fun hno => absurd hno Bool.false_ne_true⟩
  · simp [init, memory.property]
  · show (memory.val.set 0 0)[0]? = some 0
    exact List.getElem?_set_self (by rw [memory.property]; decide)

lemma valid_of_steps {width : Int32} {memory : { m : List UInt8 // m.length = textboxMaxText }}
    {calls : List TextboxCall} (hrun : Steps HarmlessStep (init width memory) calls tb) : tb.Valid := by
  refine hrun.invariant (I := Valid) ?_ (valid_init width memory)
  rintro s c t hvalid ⟨hharm, hstep⟩
  obtain ⟨t', hcall, hvalid', -⟩ := call_leaves hvalid hharm
  rw [Step, hcall] at hstep
  exact Option.some.inj hstep ▸ hvalid'

/-- **The text box stays in order.**  In a run in which no selection is cut off and no press is to the left
of the text by what is scrolled out of view, every state is in order, and every further call that is
harmless has a result, with the text that it is to leave. -/
theorem textbox_stays_valid {width : Int32} {memory : { m : List UInt8 // m.length = textboxMaxText }}
    {calls : List TextboxCall} (hrun : Steps HarmlessStep (init width memory) calls tb) :
    tb.Valid ∧ ∀ c, tb.Harmless c → ∃ tb', tb.call c = some tb' ∧ tb'.Valid ∧ tb'.content = tb.afterCall c :=
  ⟨valid_of_steps hrun, fun _ hharm => call_leaves (valid_of_steps hrun) hharm⟩

/-- Memory that happens to be zero. -/
def zeroMemory : { m : List UInt8 // m.length = textboxMaxText } :=
  ⟨List.replicate textboxMaxText 0, List.length_replicate⟩

/-- The word `hi` is put in and selected. -/
theorem textbox_stays_valid_hi : ∃ tb : Textbox, (tb.content, tb.hasSelection) = ([104, 105], true) ∧ tb.Valid ∧
    ∀ c, tb.Harmless c → ∃ tb' : Textbox, tb.call c = some tb' ∧ tb'.Valid ∧ tb'.content = tb.afterCall c := by
  have hcomputed : ([TextboxCall.insertText (some [104, 105]), .selectAll].foldlM call
      (init 100 zeroMemory)).map (fun tb => (tb.content, tb.hasSelection)) = some ([104, 105], true) := by
    set_option maxRecDepth 8192 in decide
  obtain ⟨tb, hrun, hfacts⟩ := Option.map_eq_some_iff.mp hcomputed
  rw [List.foldlM_cons, Option.bind_eq_bind, Option.bind_eq_some_iff] at hrun
  obtain ⟨tb₁, h₁, hrest⟩ := hrun
  rw [List.foldlM_cons, Option.bind_eq_bind, Option.bind_eq_some_iff] at hrest
  obtain ⟨tb₂, h₂, hnil⟩ := hrest
  obtain rfl : tb₂ = tb := Option.some.inj hnil
  have hput : HarmlessStep (init 100 zeroMemory) (.insertText (some [104, 105])) tb₁ := ⟨trivial, h₁⟩
  have hselect : HarmlessStep tb₁ .selectAll tb₂ := ⟨trivial, h₂⟩
  exact ⟨tb₂, hfacts, textbox_stays_valid (.cons hput (.cons hselect (.nil tb₂)))⟩

/-- The text `abc` is selected, and the maximum is set to one: the end of the selection stays at three. -/
theorem not_valid_cut_selection :
    ¬ ∀ (width : Int32) (memory : { m : List UInt8 // m.length = textboxMaxText }) (calls : List TextboxCall)
      (tb : Textbox), Steps Step (init width memory) calls tb → tb.Valid := by
  intro h
  have hcomputed : ([TextboxCall.setText (some [97, 98, 99]), .selectAll, .setMaxLength 1].foldlM call
      (init 100 zeroMemory)).map (fun tb => (tb.hasSelection, tb.selectionEnd, tb.textLength)) =
        some (true, 3, 1) := by
    set_option maxRecDepth 8192 in decide
  obtain ⟨tb, hrun, hfacts⟩ := Option.map_eq_some_iff.mp hcomputed
  rw [Prod.mk.injEq, Prod.mk.injEq] at hfacts
  obtain ⟨hsel, hend, hlen⟩ := hfacts
  have hvalid := h _ _ _ tb (Steps.of_exec (fun _ _ _ hcall => hcall) hrun)
  have hle := (hvalid.selection hsel).2
  rw [hend, hlen] at hle
  exact absurd hle (by decide)

end Textbox

end AAAos
