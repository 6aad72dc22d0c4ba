import AAAos.Fs.Vfs.Vfs
import AAAos.Kernel.Types
import AAAos.Lib.CString

/-!
# The text editor

`apps/text_editor/editor.c`: the lines of the buffer, the five calls that edit at the cursor, the calls that move
it, and opening and saving a file.

A line is its bytes and the capacity of its block, which has room for the NUL after them.  The buffer is the array
of line pointers up to `num_lines`, where `none` is NULL.  A call gives `none` where the source follows a NULL pointer
or reads the array outside of it.  What the heap answers is a parameter: `mem` says for each block that a call asks for
whether it is there, and so is what the file system answers.  A block is far shorter than 2 GiB, so the casts of
lengths to `int` keep the value.  The screen, the keys, the prompts and the scrolling are left out.
-/

namespace AAAos

/-! ## Constants -/

def editorMaxFilename : Nat := 256
def editorMaxLines : Nat := 65536
def editorMaxLineLength : Nat := 4096
def editorTabWidth : Nat := 4
def editorInitialCapacity : Nat := 1024

/-- `VGA_HEIGHT - EDITOR_STATUS_HEIGHT`, what `text_area_height` always is. -/
def textAreaHeight : Int := 24

def lineFeed : UInt8 := 10
def carriageReturn : UInt8 := 13

/-- A `size_t` made of an `int`. -/
def asSize (x : Int) : Nat := if x < 0 then (x + 2 ^ 64).toNat else x.toNat

@[simp] lemma asSize_natCast (n : Nat) : asSize n = n := by
  rw [asSize, if_neg (by omega), Int.toNat_natCast]

/-! ## Lines -/

/-- `line_t`: the text before the NUL, which fits in the block. -/
@[ext] structure EditorLine where
  data : List UInt8
  capacity : Nat
  fits : data.length < capacity
  initial : editorInitialCapacity ≤ capacity
deriving DecidableEq

namespace EditorLine

def length (line : EditorLine) : Nat := line.data.length

/-- Different text, which fits as well. -/
def withData (line : EditorLine) (data : List UInt8) (fits : data.length < line.capacity) : EditorLine :=
  { line with data := data, fits := fits }

end EditorLine

/-- `line_create`, which asks for the block `k` and the block after it. -/
def lineCreate (content : List UInt8) (mem : Nat → Bool) (k : Nat) : Option EditorLine :=
  if mem k && mem (k + 1) then
    if h : editorInitialCapacity ≤ content.length then
      some ⟨content, content.length + 1, by omega, by omega⟩
    else
      some ⟨content, editorInitialCapacity, by omega, by omega⟩
  else none

/-- The loop of `line_ensure_capacity`. -/
def doubleUntil (needed capacity : Nat) (hpos : 0 < capacity) : Nat :=
  if capacity < needed then doubleUntil needed (capacity * 2) (by omega) else capacity
termination_by needed - capacity

lemma le_doubleUntil (needed capacity : Nat) (hpos : 0 < capacity) : needed ≤ doubleUntil needed capacity hpos := by
  fun_induction doubleUntil needed capacity hpos with
  | case1 capacity hpos hlt ih => exact ih
  | case2 capacity hpos hle => omega

namespace EditorLine

lemma capacity_pos (line : EditorLine) : 0 < line.capacity := Nat.zero_lt_of_lt line.fits

/-- The capacity `line_ensure_capacity` asks for. -/
def newCapacity (line : EditorLine) (needed : Nat) : Nat :=
  min (doubleUntil needed line.capacity line.capacity_pos) editorMaxLineLength

lemma le_newCapacity (line : EditorLine) {needed : Nat} (h : needed ≤ editorMaxLineLength) :
    needed ≤ line.newCapacity needed :=
  Nat.le_min.mpr ⟨le_doubleUntil needed line.capacity line.capacity_pos, h⟩

end EditorLine

/-- `line_ensure_capacity`, which gives the line with the block it has then. -/
def lineEnsureCapacity (line : EditorLine) (needed : Nat) (granted : Bool) :
    Option { l : EditorLine // l.data = line.data ∧ needed ≤ l.capacity } :=
  if hfits : needed ≤ line.capacity then some ⟨line, rfl, hfits⟩
  else if hlong : editorMaxLineLength < needed then none
  else if granted then
    have hroom : needed ≤ line.newCapacity needed := line.le_newCapacity (by omega)
    some ⟨⟨line.data, line.newCapacity needed, by have := line.fits; omega, by have := line.initial; omega⟩,
      rfl, hroom⟩
  else none

/-- `line_insert_char`. -/
def lineInsertChar (line : EditorLine) (pos : Nat) (c : UInt8) (granted : Bool) : Option EditorLine :=
  if hpos : line.length < pos then none
  else (lineEnsureCapacity line (line.length + 2) granted).map fun l =>
    l.1.withData (line.data.insertIdx pos c) (by
      have hroom : line.data.length + 2 ≤ l.1.capacity := l.2.2
      rw [List.length_insertIdx_of_le_length (by simpa [EditorLine.length] using hpos)]
      omega)

/-- `line_delete_char`. -/
def lineDeleteChar (line : EditorLine) (pos : Nat) : EditorLine :=
  line.withData (line.data.eraseIdx pos) (Nat.lt_of_le_of_lt (List.length_eraseIdx_le ..) line.fits)

/-- The text of `second` behind that of `first`, where there is room for it: both joins of lines do this. -/
def lineAppend (first second : EditorLine) (granted : Bool) : EditorLine :=
  if second.length = 0 then first
  else match lineEnsureCapacity first (first.length + second.length + 1) granted with
    | none => first
    | some l => l.1.withData (first.data ++ second.data) (by
        have hroom : first.data.length + second.data.length + 1 ≤ l.1.capacity := l.2.2
        rw [List.length_append]
        omega)

/-- The line cut at `pos`. -/
def lineTruncate (line : EditorLine) (pos : Nat) : EditorLine :=
  line.withData (line.data.take pos)
    (Nat.lt_of_le_of_lt (by rw [List.length_take]; exact Nat.min_le_right ..) line.fits)

/-! ## The buffer -/

/-- What the modelled calls use of `editor_t`. -/
@[ext] structure Editor where
  lines : List (Option EditorLine)
  linesCapacity : Nat
  cursorX : Int
  cursorY : Int
  modified : Bool
  hasFilename : Bool
  filename : CString
deriving DecidableEq

namespace Editor

def numLines (s : Editor) : Nat := s.lines.length

/-- `editor->lines[i]`, a pointer that may be NULL. -/
def slot (s : Editor) (i : Int) : Option (Option EditorLine) := if i < 0 then none else s.lines[i.toNat]?

/-- `*editor->lines[i]`. -/
def lineAt (s : Editor) (i : Int) : Option EditorLine := (s.slot i).join

/-- Something is written through `editor->lines[i]`. -/
def setSlot (s : Editor) (i : Int) (line : Option EditorLine) : Editor :=
  { s with lines := s.lines.set i.toNat line }

def setCursor (s : Editor) (x y : Int) : Editor := { s with cursorX := x, cursorY := y }

def touch (s : Editor) : Editor := { s with modified := true }

/-- `if (cursor_x > (int)line->length) cursor_x = (int)line->length`. -/
def clampX (s : Editor) (line : EditorLine) : Editor := { s with cursorX := min s.cursorX line.length }

/-- `editor_insert_line`. -/
def insertLine (s : Editor) (pos : Nat) (line : EditorLine) (granted : Bool) : Option Editor :=
  if s.numLines < pos then none
  else if editorMaxLines ≤ s.numLines then none
  else if s.linesCapacity ≤ s.numLines then
    if granted then
      some { s with lines := s.lines.insertIdx pos (some line), linesCapacity := s.linesCapacity * 2 }
    else none
  else some { s with lines := s.lines.insertIdx pos (some line) }

/-- `editor_remove_line`. -/
def removeLine (s : Editor) (pos : Nat) : Editor := { s with lines := s.lines.eraseIdx pos }

/-- What `strncpy` leaves in `filename`. -/
def setFilename (s : Editor) (name : CString) : Editor :=
  { s with filename := name.truncate (editorMaxFilename - 1), hasFilename := true, modified := false }

end Editor

/-- `editor_init`. -/
def editorInit (mem : Nat → Bool) : Option Editor :=
  if mem 0 && mem 1 then
    (lineCreate [] mem 2).map fun line =>
      { lines := [some line], linesCapacity := 256, cursorX := 0, cursorY := 0, modified := false,
        hasFilename := false, filename := .empty }
  else none

namespace Editor

/-- `editor_new`, which does not look whether `line_create` has failed. -/
def editorNew (s : Editor) (mem : Nat → Bool) : Editor :=
  { s with
    lines := [lineCreate [] mem 0]
    filename := .empty
    hasFilename := false
    modified := false
    cursorX := 0
    cursorY := 0 }

/-! ## Editing at the cursor -/

/-- `editor_insert_char`. -/
def editorInsertChar (s : Editor) (c : UInt8) (granted : Bool) : Option Editor :=
  if (s.numLines : Int) ≤ s.cursorY then some s
  else (s.lineAt s.cursorY).map fun line =>
    let s := s.clampX line
    match lineInsertChar line (asSize s.cursorX) c granted with
    | some line' => ((s.setSlot s.cursorY (some line')).setCursor (s.cursorX + 1) s.cursorY).touch
    | none => s

/-- `editor_delete_char`. -/
def editorDeleteChar (s : Editor) (granted : Bool) : Option Editor :=
  if 0 < s.cursorX then
    -- `line_delete_char` takes a NULL line
    (s.slot s.cursorY).map fun line =>
      ((s.setSlot s.cursorY (line.map (lineDeleteChar · (asSize (s.cursorX - 1))))).setCursor
        (s.cursorX - 1) s.cursorY).touch
  else if 0 < s.cursorY then do
    let currLine ← s.lineAt s.cursorY
    let prevLine ← s.lineAt (s.cursorY - 1)
    some (((s.setSlot (s.cursorY - 1) (some (lineAppend prevLine currLine granted))).removeLine
      (asSize s.cursorY)).setCursor prevLine.length (s.cursorY - 1)).touch
  else some s

/-- `editor_delete_char_forward`. -/
def editorDeleteCharForward (s : Editor) (granted : Bool) : Option Editor :=
  if (s.numLines : Int) ≤ s.cursorY then some s
  else do
    let line ← s.lineAt s.cursorY
    if s.cursorX < line.length then
      some (s.setSlot s.cursorY (some (lineDeleteChar line (asSize s.cursorX)))).touch
    else if s.cursorY < s.numLines - 1 then
      let nextLine ← s.lineAt (s.cursorY + 1)
      some ((s.setSlot s.cursorY (some (lineAppend line nextLine granted))).removeLine
        (asSize s.cursorY + 1)).touch
    else some s

/-- `editor_newline`: the current line is cut before the new one has its place. -/
def editorNewline (s : Editor) (mem : Nat → Bool) : Option Editor :=
  if (s.numLines : Int) ≤ s.cursorY then some s
  else do
    let currLine ← s.lineAt s.cursorY
    let s := s.clampX currLine
    let splitPos := asSize s.cursorX
    -- `curr_line->data + split_pos` is outside of the line
    if currLine.length < splitPos then none
    else match lineCreate (currLine.data.drop splitPos) mem 0 with
      | none => some s
      | some newLine =>
        let s := s.setSlot s.cursorY (some (lineTruncate currLine splitPos))
        match s.insertLine (asSize s.cursorY + 1) newLine (mem 2) with
        | none => some s
        | some t => some (t.setCursor 0 (s.cursorY + 1)).touch

/-- `editor_insert_tab`. -/
def editorInsertTab (s : Editor) (mem : Nat → Bool) : Option Editor :=
  (List.range editorTabWidth).foldlM (fun s i => s.editorInsertChar 32 (mem i)) s

/-- `editor_delete_line`. -/
def editorDeleteLine (s : Editor) : Option Editor :=
  if s.numLines ≤ 1 then
    if s.numLines = 1 then
      (s.lineAt 0).map fun line =>
        ((s.setSlot 0 (some (lineTruncate line 0))).setCursor 0 s.cursorY).touch
    else some s
  else
    let s := s.removeLine (asSize s.cursorY)
    let s := s.setCursor s.cursorX (min s.cursorY (s.numLines - 1))
    (s.lineAt s.cursorY).map fun line => (s.clampX line).touch

/-! ## Moving the cursor -/

/-- `editor_move_cursor`. -/
def editorMoveCursor (s : Editor) (dx dy : Int) : Option Editor :=
  let y := max (wrapInt (s.cursorY + dy)) 0
  let y := if s.numLines ≤ y then (s.numLines : Int) - 1 else y
  let x := wrapInt (s.cursorX + dx)
  (s.slot y).bind fun line =>
    if x < 0 then
      if 0 < y then (s.lineAt (y - 1)).map fun line => s.setCursor line.length (y - 1)
      else some (s.setCursor 0 y)
    else line.map fun line =>
      if line.length < x then
        if y < s.numLines - 1 then s.setCursor 0 (y + 1) else s.setCursor line.length y
      else s.setCursor x y

/-- `editor_home`. -/
def editorHome (s : Editor) : Editor := s.setCursor 0 s.cursorY

/-- `editor_end`. -/
def editorEnd (s : Editor) : Option Editor :=
  if s.cursorY < s.numLines then
    (s.lineAt s.cursorY).map fun line => s.setCursor line.length s.cursorY
  else some s

/-- The end of both page moves: the cursor goes to the line `y` and stays within it. -/
def goLine (s : Editor) (y : Int) : Option Editor :=
  (s.lineAt y).map fun line => (s.setCursor s.cursorX y).clampX line

/-- `editor_page_up`. -/
def editorPageUp (s : Editor) : Option Editor := s.goLine (max (s.cursorY - textAreaHeight) 0)

/-- `editor_page_down`. -/
def editorPageDown (s : Editor) : Option Editor :=
  s.goLine (min (s.cursorY + textAreaHeight) (s.numLines - 1))

/-- `editor_goto_line`. -/
def editorGotoLine (s : Editor) (lineNum : Int) : Editor :=
  let target := max (wrapInt (lineNum - 1)) 0
  s.setCursor 0 (if s.numLines ≤ target then (s.numLines : Int) - 1 else target)

/-- `editor_goto_start`. -/
def editorGotoStart (s : Editor) : Editor := s.setCursor 0 0

/-- `editor_goto_end`. -/
def editorGotoEnd (s : Editor) : Option Editor :=
  if s.numLines = 0 then some s
  else (s.lineAt (s.numLines - 1)).map fun line => s.setCursor line.length (s.numLines - 1)

/-! ## Searching -/

/-- The innermost loop of both searches.  The NUL after the line ends every comparison that reaches it. -/
def matchesAt (query : CString) (line : EditorLine) (j : Nat) : Bool := query.1.isPrefixOf (line.data.drop j)

/-- The loop over the lines: the `i`-th line looked at is `lineIdx i`, and `column i` says where in it the query is. -/
def searchLines (s : Editor) (lineIdx : Nat → Int) (column : Nat → Option EditorLine → Option (Option Nat)) :
    List Nat → Option Editor
  | [] => some s
  | i :: rest => do
    let line ← s.slot (lineIdx i)
    match ← column i line with
    | some j => some (s.setCursor j (lineIdx i))
    | none => s.searchLines lineIdx column rest

/-- `editor_find_next`. -/
def editorFindNext (s : Editor) (query : CString) : Option Editor :=
  if query.1 = [] then some s
  else
    s.searchLines (fun i => (s.cursorY + i).tmod s.numLines)
      (fun i line => line.map fun line =>
        let searchStart := if i = 0 then s.cursorX + 1 else 0
        (List.range (line.length + 1 - query.1.length)).find? fun j =>
          decide (searchStart ≤ j) && matchesAt query line j)
      (List.range s.numLines)

/-- `editor_find_prev`, which does not look at the first line where the cursor is at its start. -/
def editorFindPrev (s : Editor) (query : CString) : Option Editor :=
  if query.1 = [] then some s
  else
    s.searchLines (fun i => (s.cursorY - i + s.numLines).tmod s.numLines)
      (fun i line =>
        if i = 0 ∧ s.cursorX - 1 < 0 then some none
        else line.map fun line =>
          let searchEnd := if i = 0 then s.cursorX - 1 else line.length - query.1.length
          (List.range (searchEnd + 1).toNat).reverse.find? (matchesAt query line))
      (List.range s.numLines)

/-! ## Files -/

/-- One line of the file goes into the buffer, if there is memory and room for it.  It is the `i`-th. -/
def addLine (s : Editor) (mem : Nat → Bool) (i : Nat) (content : List UInt8) : Editor :=
  match lineCreate content mem (3 * i + 1) with
  | some line => (s.insertLine s.numLines line (mem (3 * i + 3))).getD s
  | none => s

end Editor

/-- A CR at the end is left out. -/
def dropCarriageReturn (l : List UInt8) : List UInt8 :=
  if l.getLast? = some carriageReturn then l.dropLast else l

namespace Editor

/-- The loop of `editor_open` over the buffer up to its NUL, and what comes after it: `current` is what stands between
`start` and `ptr`, and `i` lines came before.  The number of lines is given back. -/
def parseLines (s : Editor) (mem : Nat → Bool) : List UInt8 → List UInt8 → Nat → Editor × Nat
  | [], current, i =>
    if current = [] then (s, i) else (s.addLine mem i (dropCarriageReturn current), i + 1)
  | c :: rest, current, i =>
    if c = lineFeed then (s.addLine mem i (dropCarriageReturn current)).parseLines mem rest [] (i + 1)
    else s.parseLines mem rest (current ++ [c]) i

end Editor

/-- What the file system answers when a file is opened and read. -/
inductive FileAnswer
  | missing
  | noStat
  /-- The file, and what `vfs_read` gives for it: an error, or how much was read. -/
  | contents (file : List UInt8) (read : Int)

namespace Editor

/-- `editor_open`.  Block 0 is the buffer for the file. -/
def editorOpen (s : Editor) (name : CString) (answer : FileAnswer) (mem : Nat → Bool) : Int × Editor :=
  match answer with
  | .missing => (errNoEnt, s)
  | .noStat => (errIo, s)
  | .contents file read =>
    if file ≠ [] ∧ mem 0 = false then (errNoMem, s)
    else if file ≠ [] ∧ read < 0 then (read, s)
    else
      let buffer := (file.take read.toNat).takeWhile (· ≠ 0)
      let (t, i) := { s with lines := [] }.parseLines mem buffer [] 0
      let t := if t.numLines = 0 then t.addLine mem i [] else t
      (vfsOk, (t.setFilename name).setCursor 0 0)

/-- What `editor_save_as` gives: its result, the buffer, and the file where it was opened. -/
structure Saved where
  code : Int
  editor : Editor
  file : Option (List UInt8)

/-- The loop of `editor_save_as`, from the `i`-th of `n` lines: its result and what reached the file.  `write` is what
`vfs_write` gives, `2 * i` for the content of the `i`-th line and `2 * i + 1` for the newline after it: an error, or how
much was written.  Only an error of the content is looked at. -/
def saveLines (write : Nat → Int) (n : Nat) : Nat → List (Option EditorLine) → Option (Int × List UInt8)
  | _, [] => some (vfsOk, [])
  | _, none :: _ => none
  | i, some line :: rest =>
    if 0 < line.length ∧ write (2 * i) < 0 then some (write (2 * i), [])
    else
      let content := line.data.take (write (2 * i)).toNat
      let newline := if i < n - 1 ∨ 0 < line.length then [lineFeed].take (write (2 * i + 1)).toNat else []
      (saveLines write n (i + 1) rest).map fun r => (r.1, content ++ newline ++ r.2)

/-- `editor_save_as`. -/
def editorSaveAs (s : Editor) (name : CString) (opened : Bool) (write : Nat → Int) : Option Saved :=
  if opened then
    (saveLines write s.numLines 0 s.lines).map fun r =>
      ⟨r.1, if r.1 = vfsOk then s.setFilename name else s, some r.2⟩
  else some ⟨errIo, s, none⟩

/-- `editor_save`. -/
def editorSave (s : Editor) (opened : Bool) (write : Nat → Int) : Option Saved :=
  if s.hasFilename then s.editorSaveAs s.filename opened write else some ⟨errInval, s, none⟩

end Editor

/-! ## Calls -/

/-- The calls that edit at the cursor. -/
inductive Edit
  | insertChar (c : UInt8)
  | insertTab
  | newline
  | deleteChar
  | deleteCharForward

/-- The calls an editor takes, with what the heap and the file system answer. -/
inductive EditorCall
  | new (mem : Nat → Bool)
  | openFile (name : CString) (answer : FileAnswer) (mem : Nat → Bool)
  | saveAs (name : CString) (opened : Bool) (write : Nat → Int)
  | save (opened : Bool) (write : Nat → Int)
  | edit (c : Edit) (mem : Nat → Bool)
  | deleteLine
  | moveCursor (dx dy : Int)
  | home
  | toEnd
  | pageUp
  | pageDown
  | gotoLine (lineNum : Int)
  | gotoStart
  | gotoEnd
  | findNext (query : CString)
  | findPrev (query : CString)

namespace Editor

/-- An edit. -/
def edit (s : Editor) (mem : Nat → Bool) : Edit → Option Editor
  | .insertChar c => s.editorInsertChar c (mem 0)
  | .insertTab => s.editorInsertTab mem
  | .newline => s.editorNewline mem
  | .deleteChar => s.editorDeleteChar (mem 0)
  | .deleteCharForward => s.editorDeleteCharForward (mem 0)

/-- The state after a call, where the call comes back. -/
def exec (s : Editor) : EditorCall → Option Editor
  | .new mem => some (s.editorNew mem)
  | .openFile name answer mem => some (s.editorOpen name answer mem).2
  | .saveAs name opened write => (s.editorSaveAs name opened write).map (·.editor)
  | .save opened write => (s.editorSave opened write).map (·.editor)
  | .edit c mem => s.edit mem c
  | .deleteLine => s.editorDeleteLine
  | .moveCursor dx dy => s.editorMoveCursor dx dy
  | .home => some s.editorHome
  | .toEnd => s.editorEnd
  | .pageUp => s.editorPageUp
  | .pageDown => s.editorPageDown
  | .gotoLine lineNum => some (s.editorGotoLine lineNum)
  | .gotoStart => some s.editorGotoStart
  | .gotoEnd => s.editorGotoEnd
  | .findNext query => s.editorFindNext query
  | .findPrev query => s.editorFindPrev query

/-- One call. -/
def Step (s : Editor) (c : EditorCall) (t : Editor) : Prop := s.exec c = some t

end Editor

end AAAos
