import AAAos.Apps.Editor
import AAAos.Lib.LineText
import AAAos.Lib.TextBuffer

/-!
# Lines in their blocks

The functions on lines of `apps/text_editor/editor.c` once more, on the block of memory that holds the line.
An access outside of the block has no result.

**What is proved.**  The blocks hold the lines: each of these functions, on a block that holds a line, gives a
block that holds what the function on lines gives.  So a line that comes from them has a NUL at the index
`length`, in a block of `capacity` bytes (`Held`).
-/

namespace AAAos

/-- `line_t`, with the block at `data`. -/
structure LineBlock where
  data : List UInt8
  length : Nat
  capacity : Nat

namespace LineBlock

/-- `line_create`.  The block has any content before. -/
def create (content : List UInt8) (memory : Nat → UInt8) : Option LineBlock :=
  let capacity := if editorInitialCapacity ≤ content.length then content.length + 1 else editorInitialCapacity
  ((storeFrom ((List.range capacity).map memory) 0 content).bind fun data => storeAt data content.length 0).map
    fun data => ⟨data, content.length, capacity⟩

/-- `line_ensure_capacity`, where it returns true. -/
def ensureCapacity (b : LineBlock) (needed : Nat) (granted : Bool) (memory : Nat → UInt8) : Option LineBlock :=
  if needed ≤ b.capacity then some b
  else if editorMaxLineLength < needed then none
  else if h : 0 < b.capacity then
    if granted then
      let capacity := min (doubleUntil needed b.capacity h) editorMaxLineLength
      some { b with data := b.data ++ (List.range (capacity - b.capacity)).map memory, capacity := capacity }
    else none
  else none

/-- `line_insert_char`, where it returns true. -/
def insertChar (b : LineBlock) (pos : Nat) (c : UInt8) (granted : Bool) (memory : Nat → UInt8) : Option LineBlock :=
  if b.length < pos then none
  else (b.ensureCapacity (b.length + 2) granted memory).bind fun b =>
    ((moveWithin b.data (pos + 1) pos (b.length - pos + 1)).bind fun data => storeAt data pos c).map
      fun data => { b with data := data, length := b.length + 1 }

/-- `line_delete_char`. -/
def deleteChar (b : LineBlock) (pos : Nat) : Option LineBlock :=
  if b.length ≤ pos then some b
  else (moveWithin b.data pos (pos + 1) (b.length - pos)).map
    fun data => { b with data := data, length := b.length - 1 }

/-- The text of another line behind that of this one, where there is room for it. -/
def append (b second : LineBlock) (granted : Bool) (memory : Nat → UInt8) : Option LineBlock :=
  if second.length = 0 then some b
  else match b.ensureCapacity (b.length + second.length + 1) granted memory with
    | none => some b
    | some b =>
      (loadFrom second.data 0 second.length).bind fun text =>
        ((storeFrom b.data b.length text).bind fun data => storeAt data (b.length + second.length) 0).map
          fun data => { b with data := data, length := b.length + second.length }

/-- The line is cut at `pos`. -/
def truncate (b : LineBlock) (pos : Nat) : Option LineBlock :=
  (storeAt b.data pos 0).map fun data => { b with data := data, length := pos }

/-- The blocks that these functions make where the heap gives blocks with this content. -/
inductive Made (memory : Nat → UInt8) : LineBlock → Prop
  | create {content : List UInt8} {b : LineBlock} : LineBlock.create content memory = some b → Made memory b
  | insertChar {b b' : LineBlock} {pos : Nat} {c : UInt8} {granted : Bool} :
      Made memory b → b.insertChar pos c granted memory = some b' → Made memory b'
  | deleteChar {b b' : LineBlock} {pos : Nat} : Made memory b → b.deleteChar pos = some b' → Made memory b'
  | append {b second b' : LineBlock} {granted : Bool} :
      Made memory b → Made memory second → b.append second granted memory = some b' → Made memory b'
  | truncate {b b' : LineBlock} {pos : Nat} : Made memory b → b.truncate pos = some b' → Made memory b'

/-- The block holds the line, with a NUL at its end. -/
structure Stores (b : LineBlock) (line : EditorLine) : Prop where
  size : b.data.length = line.capacity
  capacity : b.capacity = line.capacity
  length : b.length = line.length
  text : Terminated 0 b.data line.data

end LineBlock

/-- Whatever is in the blocks of the heap, the functions on lines have made a block that holds the line. -/
def EditorLine.Held (line : EditorLine) : Prop := ∀ memory, ∃ b : LineBlock, LineBlock.Made memory b ∧ b.Stores line

namespace EditorLine

variable {line line' second : EditorLine} {b : LineBlock} {granted : Bool} {c : UInt8} {pos needed : Nat}
  {memory : Nat → UInt8}

/-- **The block of a line**: the length is less than the capacity, and there is a NUL at its end. -/
lemma Held.ended (h : line.Held) : ∃ b : LineBlock, LineBlock.Made memory b ∧ b.length = line.length ∧
    b.length < b.capacity ∧ b.data.length = b.capacity ∧ b.data.take b.length = line.data ∧
      b.data[b.length]? = some 0 := by
  obtain ⟨b, hmade, hb⟩ := h memory
  refine ⟨b, hmade, hb.length, ?_, hb.size.trans hb.capacity.symm, ?_, ?_⟩
  · rw [hb.length, hb.capacity]
    exact line.fits
  · rw [hb.length]
    exact hb.text.take
  · rw [hb.length]
    exact hb.text.getElem?

lemma held_create {content : List UInt8} {mem : Nat → Bool} {k : Nat} (h : lineCreate content mem k = some line) :
    line.Held := by
  intro memory
  have hshape : line.data = content ∧ line.capacity =
      if editorInitialCapacity ≤ content.length then content.length + 1 else editorInitialCapacity := by
    unfold lineCreate at h
    split_ifs at h with hgranted hlong
    · obtain rfl := Option.some.inj h
      exact ⟨rfl, (if_pos hlong).symm⟩
    · obtain rfl := Option.some.inj h
      exact ⟨rfl, (if_neg hlong).symm⟩
  have hfits := line.fits
  rw [hshape.1] at hfits
  obtain ⟨data, hdata, hsize, htext⟩ := @terminated_fill _ ((List.range line.capacity).map memory) content 0 (by
    rw [List.length_map, List.length_range]
    exact hfits)
  rw [List.length_map, List.length_range] at hsize
  have hmade : LineBlock.create content memory = some ⟨data, content.length, line.capacity⟩ := by
    simp only [LineBlock.create, ← hshape.2, hdata, Option.map_some]
  exact ⟨_, .create hmade, hsize, rfl, by rw [EditorLine.length, hshape.1], hshape.1 ▸ htext⟩

lemma stores_ensureCapacity (h : b.Stores line) {l : { l : EditorLine // l.data = line.data ∧ needed ≤ l.capacity }}
    (hl : lineEnsureCapacity line needed granted = some l) :
    ∃ b', b.ensureCapacity needed granted memory = some b' ∧ b'.Stores l.1 := by
  unfold lineEnsureCapacity at hl
  unfold LineBlock.ensureCapacity
  split_ifs at hl with hfits hlong hgranted
  · obtain rfl := Option.some.inj hl
    rw [if_pos (by rw [h.capacity]; exact hfits)]
    exact ⟨b, rfl, h⟩
  · obtain rfl := Option.some.inj hl
    have hpos : 0 < b.capacity := by
      rw [h.capacity]
      exact line.capacity_pos
    rw [if_neg (by rw [h.capacity]; exact hfits), if_neg hlong, dif_pos hpos, if_pos hgranted]
    have hsame : doubleUntil needed b.capacity hpos = doubleUntil needed line.capacity line.capacity_pos := by
      simp only [h.capacity]
    have hmore : line.capacity ≤ line.newCapacity needed := by
      have hroom := line.le_newCapacity (Nat.not_lt.mp hlong)
      omega
    refine ⟨_, rfl, ?_, ?_, h.length, h.text.append _⟩
    · rw [List.length_append, List.length_map, List.length_range, h.size, hsame, h.capacity]
      exact Nat.add_sub_cancel' hmore
    · dsimp only
      rw [hsame]
      rfl

lemma storeFrom_singleton {α : Type} (buf : List α) (i : Nat) (v : α) : storeFrom buf i [v] = storeAt buf i v :=
  Option.bind_fun_some _

lemma held_insertChar (h : line.Held) (hins : lineInsertChar line pos c granted = some line') : line'.Held := by
  intro memory
  obtain ⟨b, hmade, hb⟩ := h memory
  unfold lineInsertChar at hins
  split_ifs at hins with hpos
  obtain ⟨l, hl, rfl⟩ := Option.map_eq_some_iff.mp hins
  obtain ⟨b', hgrown, hb'⟩ := stores_ensureCapacity hb hl
  have hlen : line.length = line.data.length := rfl
  have hlength : b'.length = line.length := hb'.length.trans (congrArg List.length l.2.1)
  have htext := hb'.text
  rw [l.2.1] at htext
  have hsplit : line.data.insertIdx pos c = line.data.take pos ++ ([c] ++ line.data.drop pos) := by
    rw [LineText.insertIdx_eq_insertAt (by omega), LineText.insertAt, List.append_assoc]
  obtain ⟨data, hput, hsize, hdata⟩ := @Terminated.insert _ _ _ [c] _ pos (b'.length - pos + 1) htext (by omega)
    (by omega) (by rw [hb'.size, List.length_singleton]; omega)
  rw [← hsplit] at hdata
  simp only [List.length_singleton, storeFrom_singleton] at hput
  have hinserted : b.insertChar pos c granted memory = some { b' with data := data, length := b'.length + 1 } := by
    rw [LineBlock.insertChar, if_neg (by rw [hb.length]; exact hpos), hb.length, hgrown, Option.bind_some, hput,
      Option.map_some]
  refine ⟨_, .insertChar hmade hinserted, hsize.trans hb'.size, hb'.capacity, ?_, hdata⟩
  have hgrows : (line.data.insertIdx pos c).length = line.data.length + 1 :=
    List.length_insertIdx_of_le_length (Nat.not_lt.mp hpos) _
  show b'.length + 1 = (line.data.insertIdx pos c).length
  omega

lemma held_deleteChar (h : line.Held) (hpos : pos < line.length) : (lineDeleteChar line pos).Held := by
  intro memory
  obtain ⟨b, hmade, hb⟩ := h memory
  have hlen : line.length = line.data.length := rfl
  have hlength := hb.length
  obtain ⟨data, hmove, hsize, hdata⟩ := hb.text.cut (Nat.le_succ pos) (by omega)
    (show b.length - pos = line.data.length - (pos + 1) + 1 by omega)
  have hdeleted : b.deleteChar pos = some { b with data := data, length := b.length - 1 } := by
    rw [LineBlock.deleteChar, if_neg (by omega), hmove, Option.map_some]
  refine ⟨_, .deleteChar hmade hdeleted, hsize.trans hb.size, hb.capacity, ?_, ?_⟩
  · have hshrinks := List.length_eraseIdx_of_lt hpos
    show b.length - 1 = (line.data.eraseIdx pos).length
    omega
  · show Terminated 0 data (line.data.eraseIdx pos)
    rwa [List.eraseIdx_eq_take_drop_succ]

lemma held_append (h : line.Held) (hsecond : second.Held) : (lineAppend line second granted).Held := by
  unfold lineAppend
  split_ifs with hempty
  · exact h
  intro memory
  obtain ⟨b, hmade, hb⟩ := h memory
  obtain ⟨b₂, hmade₂, hb₂⟩ := hsecond memory
  cases hl : lineEnsureCapacity line (line.length + second.length + 1) granted with
  | none => exact ⟨b, hmade, hb⟩
  | some l =>
    obtain ⟨b', hgrown, hb'⟩ := stores_ensureCapacity hb hl
    have hlen : line.length = line.data.length := rfl
    have hlen₂ : second.length = second.data.length := rfl
    have hlength : b'.length = line.length := hb'.length.trans (congrArg List.length l.2.1)
    have htext := hb'.text
    rw [l.2.1] at htext
    have hload : loadFrom b₂.data 0 b₂.length = some second.data := by
      obtain ⟨rest, hrest⟩ := hb₂.text
      rw [hrest]
      exact loadFrom_append hb₂.length
    obtain ⟨data, hput, hsize, hdata⟩ := @Terminated.write _ _ _ second.data _ line.data.length htext
      (Nat.le_refl _) (by rw [hb'.size]; omega)
    rw [List.take_length] at hdata
    have happended : b.append b₂ granted memory =
        some { b' with data := data, length := b'.length + b₂.length } := by
      have hstore : ((storeFrom b'.data b'.length second.data).bind fun data =>
          storeAt data (b'.length + b₂.length) 0) = some data := by
        rw [hlength, hb₂.length]
        exact hput
      rw [LineBlock.append, if_neg (by rw [hb₂.length]; exact hempty), hb.length, hb₂.length, hgrown]
      dsimp only
      rw [← hb₂.length, hload, Option.bind_some, hstore, Option.map_some]
    refine ⟨_, .append hmade hmade₂ happended, hsize.trans hb'.size, hb'.capacity, ?_, hdata⟩
    show b'.length + b₂.length = (line.data ++ second.data).length
    rw [List.length_append, hlength, hb₂.length, hlen, hlen₂]

lemma held_truncate (h : line.Held) (hpos : pos ≤ line.length) : (lineTruncate line pos).Held := by
  intro memory
  obtain ⟨b, hmade, hb⟩ := h memory
  have hlen : line.length = line.data.length := rfl
  obtain ⟨data, hput, hsize, hdata⟩ := @Terminated.write _ _ _ [] _ pos hb.text hpos (by
    have := hb.text.length_lt
    rw [List.length_nil]
    omega)
  rw [List.append_nil] at hdata
  have htruncated : b.truncate pos = some { b with data := data, length := pos } := by
    rw [LineBlock.truncate]
    exact congrArg (Option.map _) hput
  refine ⟨_, .truncate hmade htruncated, hsize.trans hb.size, hb.capacity, ?_, hdata⟩
  show pos = (line.data.take pos).length
  rw [List.length_take]
  omega

end EditorLine

end AAAos
