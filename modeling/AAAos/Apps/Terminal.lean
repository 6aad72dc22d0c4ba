import Mathlib.Data.List.Basic
import Mathlib.Logic.Function.Basic
import AAAos.Kernel.Types

/-!
# The terminal

`apps/terminal/terminal.c`: a screen of cells with a cursor, the escape sequences that move it, and the lines that
were scrolled out.

A cell of the screen is read or written only through `writeCell`, `moveLine` and `readRow`, which give `none` for a
row below the screen or a column beside it, and so does the line that is marked dirty.  `int` wraps around
(`wrapInt`).  What the heap answers is a parameter: `mem` says for each block that is asked for whether it is there.

A line for the scrollback keeps the length of its first use, and a longer line that is copied over it goes beyond its
end, where nothing is modelled.  The window, the keyboard and the drawing are left out.
-/

namespace AAAos

/-! ## Constants -/

def terminalDefaultWidth : Nat := 80
def terminalDefaultHeight : Nat := 25
def terminalMaxWidth : Nat := 256
def terminalMaxHeight : Nat := 128
def terminalScrollbackLines : Nat := 1000
def terminalEscapeBufferSize : Nat := 32
def terminalTabWidth : Int := 8

def ansiColorMax : UInt8 := 16
def ansiColorBlack : UInt8 := 0
def ansiColorWhite : UInt8 := 7

def attrBold : UInt8 := 0x01
def attrUnderline : UInt8 := 0x02
def attrBlink : UInt8 := 0x04
def attrInverse : UInt8 := 0x08
def attrHidden : UInt8 := 0x10

/-! ## State -/

/-- `terminal_cell_t`. -/
structure TerminalCell where
  ch : UInt8 := 0
  fgColor : UInt8 := 0
  bgColor : UInt8 := 0
  attributes : UInt8 := 0
deriving DecidableEq

/-- `terminal_line_t`. -/
structure TerminalLine where
  cells : List TerminalCell
  dirty : Bool
deriving DecidableEq

/-- `terminal_esc_state_t`. -/
inductive EscState
  | normal
  | escape
  | csi
  | osc
deriving DecidableEq

/-- `terminal_t`. -/
structure Terminal where
  width : Nat
  height : Nat
  cursorX : Int := 0
  cursorY : Int := 0
  buffer : List TerminalLine
  scrollback : Nat → Option (List TerminalCell) := fun _ => none
  scrollbackSize : Nat := terminalScrollbackLines
  scrollbackCount : Nat := 0
  scrollbackHead : Nat := 0
  scrollOffset : Int := 0
  fgColor : UInt8 := ansiColorWhite
  bgColor : UInt8 := ansiColorBlack
  attributes : UInt8 := 0
  defaultFg : UInt8 := ansiColorWhite
  defaultBg : UInt8 := ansiColorBlack
  escState : EscState := .normal
  escBuffer : List UInt8 := List.replicate terminalEscapeBufferSize 0
  escLength : Nat := 0
  savedCursorX : Int := 0
  savedCursorY : Int := 0
  needsRedraw : Bool := true

/-- An `int` where a `uint32_t` is expected. -/
def asUnsigned (x : Int) : Nat := (x % 2 ^ 32).toNat

/-! ## Parameters of a sequence -/

def isParamDigit (c : UInt8) : Bool := 48 ≤ c && c ≤ 57

/-- The loop of `terminal_parse_int`. -/
def parseDigits : List UInt8 → Int → Int × List UInt8
  | [], value => (value, [])
  | c :: rest, value =>
    if isParamDigit c then parseDigits rest (wrapInt (wrapInt (value * 10) + (c.toNat - 48)))
    else (value, c :: rest)

/-- `terminal_parse_int`, with what is left. -/
def terminalParseInt (str : List UInt8) (default : Int) : Int × List UInt8 :=
  let (value, rest) := parseDigits str 0
  (if rest.length = str.length then default else value, rest)

lemma length_parseDigits (str : List UInt8) (value : Int) : (parseDigits str value).2.length ≤ str.length := by
  induction str generalizing value with
  | nil => simp [parseDigits]
  | cons c rest ih =>
    rw [parseDigits]
    split_ifs
    · exact (ih _).trans (Nat.le_succ _)
    · exact le_rfl

lemma length_terminalParseInt {c : UInt8} {rest : List UInt8} {default : Int} (hc : isParamDigit c = true) :
    (terminalParseInt (c :: rest) default).2.length < (c :: rest).length := by
  simp only [terminalParseInt, parseDigits, hc, if_true, List.length_cons]
  exact Nat.lt_succ_of_le (length_parseDigits ..)

/-- The first loop of `terminal_parse_csi`. -/
def parseParams (p : List UInt8) (params : List Int) : List Int × List UInt8 :=
  match p with
  | [] => (params, [])
  | c :: rest =>
    if 16 ≤ params.length then (params, c :: rest)
    else if _h : isParamDigit c = true then
      let r := terminalParseInt (c :: rest) 1
      parseParams r.2 (params ++ [r.1])
    else if c = 59 then parseParams rest (if params = [] then [1] else params)
    else (params, c :: rest)
termination_by p.length
decreasing_by
  · exact length_terminalParseInt _h
  · exact Nat.lt_succ_self _

namespace Terminal

variable (t : Terminal)

/-! ## Cells -/

/-- A cell is written. -/
def writeCell (y x : Nat) (cell : TerminalCell) : Option Terminal :=
  if y < t.height ∧ x < t.width then
    some { t with buffer := t.buffer.modify y fun line => { line with cells := line.cells.set x cell } }
  else none

/-- A line has to be drawn. -/
def markDirty (y : Nat) : Option Terminal :=
  if y < t.height then some { t with buffer := t.buffer.modify y fun line => { line with dirty := true } }
  else none

/-- The first `n` cells of a line are read. -/
def readRow (y n : Nat) : Option (List TerminalCell) :=
  if y < t.height ∧ n ≤ t.width then some (((t.buffer[y]?.map (·.cells)).getD []).take n) else none

/-- `memcpy` of one line to another. -/
def moveLine (dst src : Nat) : Option Terminal := do
  let row ← t.readRow src t.width
  if dst < t.height then
    some { t with
      buffer := t.buffer.modify dst fun line => { line with cells := row ++ line.cells.drop row.length } }
  else none

/-- The loops over rows and columns. -/
def forEach (l : List Nat) (f : Terminal → Nat → Option Terminal) : Option Terminal := l.foldlM f t

/-- `terminal_clear_cell`. -/
def terminalClearCell (y x : Nat) : Option Terminal :=
  t.writeCell y x { ch := 32, fgColor := t.fgColor, bgColor := t.bgColor, attributes := 0 }

/-- The loop that clears a whole line. -/
def clearRow (y : Nat) : Option Terminal := do
  let t ← t.forEach (List.range t.width) fun t x => t.terminalClearCell y x
  t.markDirty y

/-- `terminal_put_char_at`. -/
def terminalPutCharAt (x y : Int) (c : UInt8) : Option Terminal :=
  if x < 0 ∨ t.width ≤ x ∨ y < 0 ∨ t.height ≤ y then some t
  else do
    let cell : TerminalCell := { ch := c, fgColor := t.fgColor, bgColor := t.bgColor, attributes := t.attributes }
    let t ← t.writeCell y.toNat x.toNat cell
    t.markDirty y.toNat

/-! ## Clearing -/

/-- `terminal_clear`. -/
def terminalClear : Option Terminal := do
  let t ← t.forEach (List.range t.height) clearRow
  some { t with cursorX := 0, cursorY := 0, needsRedraw := true }

/-- `terminal_clear_to_end`. -/
def terminalClearToEnd : Option Terminal := do
  let x := asUnsigned t.cursorX
  let y := asUnsigned t.cursorY
  let t ← t.forEach (List.range' x (t.width - x)) fun t x => t.terminalClearCell y x
  let t ← t.markDirty y
  let t ← t.forEach (List.range' (y + 1) (t.height - (y + 1))) clearRow
  some { t with needsRedraw := true }

/-- `terminal_clear_to_start`. -/
def terminalClearToStart : Option Terminal := do
  let x := asUnsigned t.cursorX
  let y := asUnsigned t.cursorY
  let t ← t.forEach (List.range y) clearRow
  let t ← t.forEach (List.range (min (x + 1) t.width)) fun t x => t.terminalClearCell y x
  let t ← t.markDirty y
  some { t with needsRedraw := true }

/-- `terminal_clear_line`. -/
def terminalClearLine (mode : Int) : Option Terminal := do
  let y := asUnsigned t.cursorY
  let start := if mode = 0 then asUnsigned t.cursorX else 0
  let stop := if mode = 1 then asUnsigned t.cursorX + 1 else t.width
  let t ← t.forEach (List.range' start (min stop t.width - start)) fun t x => t.terminalClearCell y x
  let t ← t.markDirty y
  some { t with needsRedraw := true }

/-! ## The cursor -/

/-- `terminal_set_cursor`. -/
def terminalSetCursor (x y : Int) : Terminal :=
  let x := if x < 0 then 0 else x
  let y := if y < 0 then 0 else y
  let x := if t.width ≤ x then (t.width : Int) - 1 else x
  let y := if t.height ≤ y then (t.height : Int) - 1 else y
  { t with cursorX := x, cursorY := y }

/-- `terminal_move_cursor`. -/
def terminalMoveCursor (dx dy : Int) : Terminal :=
  t.terminalSetCursor (wrapInt (t.cursorX + dx)) (wrapInt (t.cursorY + dy))

/-- `terminal_save_cursor`. -/
def terminalSaveCursor : Terminal := { t with savedCursorX := t.cursorX, savedCursorY := t.cursorY }

/-- `terminal_restore_cursor`. -/
def terminalRestoreCursor : Terminal := t.terminalSetCursor t.savedCursorX t.savedCursorY

/-! ## Scrolling -/

/-- As many lines as there are, where the number is no number of lines. -/
def scrollLines (lines : Int) : Nat := if lines ≤ 0 ∨ t.height < lines then t.height else lines.toNat

/-- One line of the first loop of `terminal_scroll_up`. -/
def saveLine (mem : Nat → Bool) (y : Nat) : Option Terminal :=
  let index := (t.scrollbackHead + t.scrollbackCount) % t.scrollbackSize
  let line :=
    match t.scrollback index with
    | some cells => some cells
    | none => if mem y then some (List.replicate t.width {}) else none
  match line with
  | none => some t
  | some cells => do
    let row ← t.readRow y t.width
    let t :=
      { t with
        scrollback := Function.update t.scrollback index
          (some (row.take cells.length ++ cells.drop row.length)) }
    if t.scrollbackCount < t.scrollbackSize then some { t with scrollbackCount := t.scrollbackCount + 1 }
    else some { t with scrollbackHead := (t.scrollbackHead + 1) % t.scrollbackSize }

/-- `terminal_scroll_up`. -/
def terminalScrollUp (lines : Int) (mem : Nat → Bool) : Option Terminal := do
  let n := t.scrollLines lines
  let t ← t.forEach (List.range n) fun t y => t.saveLine mem y
  let t ← t.forEach (List.range (t.height - n)) fun t y => do
    let t ← t.moveLine y (y + n)
    t.markDirty y
  let t ← t.forEach (List.range' (t.height - n) n) clearRow
  some { t with needsRedraw := true }

/-- `terminal_scroll_down`. -/
def terminalScrollDown (lines : Int) : Option Terminal := do
  let n := t.scrollLines lines
  let t ← t.forEach (List.range' n (t.height - n)).reverse fun t y => do
    let t ← t.moveLine y (y - n)
    t.markDirty y
  let t ← t.forEach (List.range n) clearRow
  some { t with needsRedraw := true }

/-- `terminal_scroll`. -/
def terminalScroll (lines : Int) (mem : Nat → Bool) : Option Terminal :=
  if lines = 0 then some t
  else if 0 < lines then t.terminalScrollUp lines mem
  else t.terminalScrollDown (wrapInt (-lines))

/-- `terminal_scroll_view`. -/
def terminalScrollView (lines : Int) : Terminal :=
  let offset := wrapInt (t.scrollOffset + lines)
  let offset := if offset < 0 then 0 else offset
  let offset := if t.scrollbackCount < offset then (t.scrollbackCount : Int) else offset
  { t with scrollOffset := offset, needsRedraw := true }

/-! ## Escape sequences -/

/-- `terminal_reset_attributes`. -/
def terminalResetAttributes : Terminal := { t with fgColor := t.defaultFg, bgColor := t.defaultBg, attributes := 0 }

def setAttributes (attributes : UInt8) : Terminal := { t with attributes := attributes }

def setFg (color : UInt8) : Terminal := { t with fgColor := color }

def setBg (color : UInt8) : Terminal := { t with bgColor := color }

/-- One parameter of `m`. -/
def selectGraphic (code : Int) : Terminal :=
  if code = 0 then t.terminalResetAttributes
  else if code = 1 then t.setAttributes (t.attributes ||| attrBold)
  else if code = 4 then t.setAttributes (t.attributes ||| attrUnderline)
  else if code = 5 then t.setAttributes (t.attributes ||| attrBlink)
  else if code = 7 then t.setAttributes (t.attributes ||| attrInverse)
  else if code = 8 then t.setAttributes (t.attributes ||| attrHidden)
  else if code = 22 then t.setAttributes (t.attributes &&& ~~~attrBold)
  else if code = 24 then t.setAttributes (t.attributes &&& ~~~attrUnderline)
  else if code = 25 then t.setAttributes (t.attributes &&& ~~~attrBlink)
  else if code = 27 then t.setAttributes (t.attributes &&& ~~~attrInverse)
  else if code = 28 then t.setAttributes (t.attributes &&& ~~~attrHidden)
  else if 30 ≤ code ∧ code ≤ 37 then t.setFg (UInt8.ofInt (code - 30))
  else if code = 39 then t.setFg t.defaultFg
  else if 40 ≤ code ∧ code ≤ 47 then t.setBg (UInt8.ofInt (code - 40))
  else if code = 49 then t.setBg t.defaultBg
  else if 90 ≤ code ∧ code ≤ 97 then t.setFg (UInt8.ofInt (code - 90 + 8))
  else if 100 ≤ code ∧ code ≤ 107 then t.setBg (UInt8.ofInt (code - 100 + 8))
  else t

/-- The erasing of `J`. -/
def eraseDisplay (n : Int) : Option Terminal :=
  if n = 0 then t.terminalClearToEnd
  else if n = 1 then t.terminalClearToStart
  else if n = 2 ∨ n = 3 then t.terminalClear
  else some t

/-- `terminal_parse_csi`, by what it returns and what it does. -/
def terminalParseCsi (seq : List UInt8) (mem : Nat → Bool) : Option (Bool × Terminal) :=
  let (params, p) := parseParams seq []
  let n := params.head?.getD 1
  let m := params.tail.head?.getD 1
  match Char.ofNat (p.head?.getD 0).toNat with
  | 'A' => some (true, t.terminalMoveCursor 0 (wrapInt (-n)))
  | 'B' => some (true, t.terminalMoveCursor 0 n)
  | 'C' => some (true, t.terminalMoveCursor n 0)
  | 'D' => some (true, t.terminalMoveCursor (wrapInt (-n)) 0)
  | 'E' => some (true, { t with cursorX := 0 }.terminalMoveCursor 0 n)
  | 'F' => some (true, { t with cursorX := 0 }.terminalMoveCursor 0 (wrapInt (-n)))
  | 'G' => some (true, t.terminalSetCursor (wrapInt (n - 1)) t.cursorY)
  | 'H' => some (true, t.terminalSetCursor (wrapInt (m - 1)) (wrapInt (n - 1)))
  | 'f' => some (true, t.terminalSetCursor (wrapInt (m - 1)) (wrapInt (n - 1)))
  | 'J' => (t.eraseDisplay n).map (true, ·)
  | 'K' => (t.terminalClearLine (params.head?.getD 0)).map (true, ·)
  | 'S' => (t.terminalScroll n mem).map (true, ·)
  | 'T' => (t.terminalScroll (wrapInt (-n)) mem).map (true, ·)
  | 'm' => some (true, if params = [] then t.terminalResetAttributes else params.foldl selectGraphic t)
  | 's' => some (true, t.terminalSaveCursor)
  | 'u' => some (true, t.terminalRestoreCursor)
  | 'n' => some (true, t)
  | 'h' => some (true, t)
  | 'l' => some (true, t)
  | _ => some (false, t)

/-! ## Characters -/

/-- `terminal_new_line`. -/
def terminalNewLine (mem : Nat → Bool) : Option Terminal :=
  let t := { t with cursorX := 0, cursorY := wrapInt (t.cursorY + 1) }
  if (t.height : Int) ≤ t.cursorY then { t with cursorY := (t.height : Int) - 1 }.terminalScroll 1 mem else some t

/-- The loop of `terminal_tab`, for as many columns as there are to the next stop. -/
def tabLoop (nextTab : Int) : Nat → Terminal → Option Terminal
  | 0, t => some t
  | k + 1, t =>
    if t.cursorX < nextTab ∧ t.cursorX < t.width then do
      let t ← t.terminalPutCharAt t.cursorX t.cursorY 32
      tabLoop nextTab k { t with cursorX := wrapInt (t.cursorX + 1) }
    else some t

/-- `terminal_tab`. -/
def terminalTab (mem : Nat → Bool) : Option Terminal := do
  let nextTab := (t.cursorX.tdiv terminalTabWidth + 1) * terminalTabWidth
  let t ← tabLoop nextTab (nextTab - t.cursorX).toNat t
  if (t.width : Int) ≤ t.cursorX then t.terminalNewLine mem else some t

/-- `terminal_backspace`. -/
def terminalBackspace : Option Terminal :=
  if 0 < t.cursorX then do
    let t := { t with cursorX := t.cursorX - 1 }
    let t ← t.terminalPutCharAt t.cursorX t.cursorY 32
    t.markDirty (asUnsigned t.cursorY)
  else some t

/-- `terminal_process_control`. -/
def terminalProcessControl (c : UInt8) (mem : Nat → Bool) : Option Terminal :=
  if c = 10 then t.terminalNewLine mem
  else if c = 13 then some { t with cursorX := 0 }
  else if c = 9 then t.terminalTab mem
  else if c = 8 then t.terminalBackspace
  else if c = 12 then t.terminalClear
  else some t

/-- A byte of a sequence is kept, if there is room. -/
def keepEscape (c : UInt8) : Terminal :=
  if t.escLength < terminalEscapeBufferSize - 1 then
    { t with escBuffer := t.escBuffer.set t.escLength c, escLength := t.escLength + 1 }
  else t

/-- And the sequence is a string so far. -/
def keepEscapeString (c : UInt8) : Terminal :=
  if t.escLength < terminalEscapeBufferSize - 1 then
    let t := t.keepEscape c
    { t with escBuffer := t.escBuffer.set t.escLength 0 }
  else t

/-- A letter, or `@`. -/
def endsSequence (c : UInt8) : Bool := (65 ≤ c && c ≤ 90) || (97 ≤ c && c ≤ 122) || c = 64

/-- `terminal_process_char`.  A `char` is signed, so that bytes from 128 are below 32. -/
def terminalProcessChar (c : UInt8) (mem : Nat → Bool) : Option Terminal :=
  match t.escState with
  | .normal =>
    if c = 27 then some { t with escState := .escape, escLength := 0 }
    else if c < 32 ∨ 128 ≤ c then t.terminalProcessControl c mem
    else do
      let t ← t.terminalPutCharAt t.cursorX t.cursorY c
      let t := { t with cursorX := wrapInt (t.cursorX + 1) }
      if (t.width : Int) ≤ t.cursorX then t.terminalNewLine mem else some t
  | .escape =>
    if c = 91 then some { t with escState := .csi }
    else if c = 93 then some { t with escState := .osc }
    else if c = 55 then some { t.terminalSaveCursor with escState := .normal }
    else if c = 56 then some { t.terminalRestoreCursor with escState := .normal }
    else if c = 99 then do
      let t ← t.terminalClear
      some { t.terminalResetAttributes with escState := .normal }
    else some { t with escState := .normal }
  | .csi =>
    let t := t.keepEscapeString c
    if endsSequence c then do
      let (_, t) ← t.terminalParseCsi (t.escBuffer.takeWhile (· ≠ 0)) mem
      some { t with escState := .normal, escLength := 0 }
    else some t
  | .osc => some (if c = 7 then { t with escState := .normal } else t.keepEscape c)

/-- `terminal_putc`. -/
def terminalPutc (c : UInt8) (mem : Nat → Bool) : Option Terminal := t.terminalProcessChar c mem

/-! ## Size -/

/-- A line of the new buffer, which is cleared. -/
def clearedLine (width : Nat) : TerminalLine where
  cells := List.replicate width { ch := 32, fgColor := t.fgColor, bgColor := t.bgColor, attributes := 0 }
  dirty := true

/-- The lines of the new buffer, with the old content as much as fits. -/
def copiedLines (newWidth newHeight : Nat) : Option (List TerminalLine) :=
  (List.range newHeight).mapM fun y =>
    if y < min t.height newHeight then do
      let row ← t.readRow y (min t.width newWidth)
      let line := t.clearedLine newWidth
      some { line with cells := row ++ line.cells.drop row.length }
    else some (t.clearedLine newWidth)

/-- The cursor of a screen that has become smaller. -/
def adjustCursor : Terminal :=
  { t with
    cursorX := if t.width ≤ t.cursorX then (t.width : Int) - 1 else t.cursorX
    cursorY := if t.height ≤ t.cursorY then (t.height : Int) - 1 else t.cursorY }

/-- `terminal_resize`, by what it returns and what it does. -/
def terminalResize (newWidth newHeight : Nat) (mem : Nat → Bool) : Option (Int × Terminal) :=
  if newWidth = 0 ∨ newHeight = 0 then some (-1, t)
  else
    let newWidth := if terminalMaxWidth < newWidth then terminalMaxWidth else newWidth
    let newHeight := if terminalMaxHeight < newHeight then terminalMaxHeight else newHeight
    if newWidth = t.width ∧ newHeight = t.height then some (0, t)
    else if !(List.range (1 + newHeight)).all mem then some (-1, t)
    else do
      let buffer ← t.copiedLines newWidth newHeight
      let t := { t with buffer := buffer, width := newWidth, height := newHeight }
      some (0, { t.adjustCursor with needsRedraw := true })

end Terminal

/-- `terminal_create`, where the inner `none` is `NULL`. -/
def terminalCreate (widthChars heightChars : Nat) (mem : Nat → Bool) : Option (Option Terminal) :=
  let width := if widthChars = 0 ∨ terminalMaxWidth < widthChars then terminalDefaultWidth else widthChars
  let height := if heightChars = 0 ∨ terminalMaxHeight < heightChars then terminalDefaultHeight else heightChars
  if (List.range (3 + height)).all mem then
    let t : Terminal :=
      { width := width, height := height
        buffer := List.replicate height { cells := List.replicate width {}, dirty := true } }
    t.terminalClear.map some
  else some none

/-- The calls, with what the heap answers. -/
inductive TerminalCall
  | putc (c : UInt8) (mem : Nat → Bool)
  | resize (newWidth newHeight : Nat) (mem : Nat → Bool)
  | setCursor (x y : Int)
  | moveCursor (dx dy : Int)
  | saveCursor
  | restoreCursor
  | scroll (lines : Int) (mem : Nat → Bool)
  | scrollView (lines : Int)

/-- What a call does, or nothing if it leaves the screen. -/
def Terminal.call (t : Terminal) : TerminalCall → Option Terminal
  | .putc c mem => t.terminalPutc c mem
  | .resize newWidth newHeight mem => (t.terminalResize newWidth newHeight mem).map (·.2)
  | .setCursor x y => some (t.terminalSetCursor x y)
  | .moveCursor dx dy => some (t.terminalMoveCursor dx dy)
  | .saveCursor => some t.terminalSaveCursor
  | .restoreCursor => some t.terminalRestoreCursor
  | .scroll lines mem => t.terminalScroll lines mem
  | .scrollView lines => some (t.terminalScrollView lines)

end AAAos
