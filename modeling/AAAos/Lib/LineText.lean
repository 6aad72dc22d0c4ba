import Mathlib.Data.List.Induction

/-!
# Texts made of lines

A list of lines, joined by a separator, is a flat text.  An editor works on one line or on two neighbours, and the
lemmas say what that is in the flat text: inserting in a line inserts in the text, splitting a line inserts the
separator, and joining two lines erases it.

The offset of a position is the length of what stands before it, `endedWith sep pre` and the line up to there.
-/

namespace LineText

variable {α : Type*}

/-- The lines with the separator after each. -/
def endedWith (sep : α) (ls : List (List α)) : List α := (ls.map (· ++ [sep])).flatten

/-- The lines with the separator before each. -/
def begunWith (sep : α) (ls : List (List α)) : List α := (ls.map (sep :: ·)).flatten

/-- `new` in the middle of a text. -/
def insertAt (text : List α) (pos : Nat) (new : List α) : List α := text.take pos ++ new ++ text.drop pos

variable {sep : α} {pre post : List (List α)} {line : List α}

@[simp] lemma endedWith_nil : endedWith sep [] = [] := rfl

@[simp] lemma begunWith_nil : begunWith sep [] = [] := rfl

@[simp] lemma endedWith_cons (l : List α) (ls : List (List α)) :
    endedWith sep (l :: ls) = l ++ sep :: endedWith sep ls := by
  simp [endedWith]

@[simp] lemma begunWith_cons (l : List α) (ls : List (List α)) :
    begunWith sep (l :: ls) = sep :: (l ++ begunWith sep ls) := by
  simp [begunWith]

@[simp] lemma endedWith_append (ls ms : List (List α)) :
    endedWith sep (ls ++ ms) = endedWith sep ls ++ endedWith sep ms := by
  simp [endedWith]

lemma intercalate_cons (l : List α) (ls : List (List α)) : [sep].intercalate (l :: ls) = l ++ begunWith sep ls := by
  induction ls generalizing l with
  | nil => simp
  | cons m ls ih => rw [List.intercalate_cons_cons, ih, begunWith_cons]; simp

/-- **A line in its text.** -/
theorem intercalate_at (pre : List (List α)) (line : List α) (post : List (List α)) :
    [sep].intercalate (pre ++ line :: post) = endedWith sep pre ++ (line ++ begunWith sep post) := by
  induction pre with
  | nil => simpa using intercalate_cons line post
  | cons l pre ih =>
    have hne : pre ++ line :: post ≠ [] := by simp
    rw [List.cons_append, List.intercalate_cons_of_ne_nil hne, ih, endedWith_cons]
    simp

/-- **Every text has lines.**  Some of them have the separator after them, and the last one has none. -/
theorem exists_ended [DecidableEq α] (sep : α) (text : List α) :
    ∃ front last, text = endedWith sep front ++ last ∧ (∀ l ∈ front, sep ∉ l) ∧ sep ∉ last := by
  induction text using List.reverseRecOn with
  | nil => exact ⟨[], [], rfl, fun _ hl => absurd hl List.not_mem_nil, List.not_mem_nil⟩
  | append_singleton text c ih =>
    obtain ⟨front, last, rfl, hfront, hlast⟩ := ih
    by_cases hc : c = sep
    · refine ⟨front ++ [last], [], by simp [hc], fun l hl => ?_, List.not_mem_nil⟩
      rcases List.mem_append.mp hl with hl | hl
      · exact hfront l hl
      · exact List.mem_singleton.mp hl ▸ hlast
    · refine ⟨front, last ++ [c], List.append_assoc .., hfront, fun hmem => ?_⟩
      rcases List.mem_append.mp hmem with hmem | hmem
      · exact hlast hmem
      · exact hc (List.mem_singleton.mp hmem).symm

lemma intercalate_nil_iff {ls : List (List α)} : [sep].intercalate ls = [] ↔ ls = [] ∨ ls = [[]] := by
  rcases ls with - | ⟨l, - | ⟨m, ls⟩⟩
  · exact iff_of_true rfl (Or.inl rfl)
  · simp
  · simp [List.intercalate_cons_cons]

/-- **The text has the lines in it.** -/
theorem intercalate_inj [DecidableEq α] {ls ms : List (List α)} (hls : ∀ l ∈ ls, sep ∉ l) (hms : ∀ l ∈ ms, sep ∉ l)
    (hne : ls ≠ []) (hne' : ms ≠ []) (h : [sep].intercalate ls = [sep].intercalate ms) : ls = ms := by
  rw [← List.splitOn_intercalate sep hls hne, h, List.splitOn_intercalate sep hms hne']

/-! ## Insertions and deletions -/

@[simp] lemma length_insertAt (text : List α) (pos : Nat) (new : List α) :
    (insertAt text pos new).length = text.length + new.length := by
  unfold insertAt
  simp only [List.length_append, List.length_take, List.length_drop]
  omega

lemma insertAt_append (before text : List α) (x : Nat) (new : List α) :
    insertAt (before ++ text) (before.length + x) new = before ++ insertAt text x new := by
  have hbefore : before.length ≤ before.length + x := Nat.le_add_right ..
  unfold insertAt
  simp [List.take_append, List.drop_append, List.take_of_length_le hbefore, List.drop_of_length_le hbefore]

lemma insertAt_append_left {text : List α} {x : Nat} (hx : x ≤ text.length) (new after : List α) :
    insertAt (text ++ after) x new = insertAt text x new ++ after := by
  unfold insertAt
  simp [List.take_append_of_le_length hx, List.drop_append_of_le_length hx]

lemma insertAt_insertAt {text : List α} {x : Nat} (hx : x ≤ text.length) (new more : List α) :
    insertAt (insertAt text x new) (x + new.length) more = insertAt text x (new ++ more) := by
  have hlen : (text.take x ++ new).length = x + new.length := by simp [hx]
  rw [insertAt, insertAt, List.take_append_of_le_length (Nat.le_of_eq hlen.symm), List.take_of_length_le (Nat.le_of_eq hlen),
    List.drop_append_of_le_length (Nat.le_of_eq hlen.symm), List.drop_of_length_le (Nat.le_of_eq hlen)]
  simp [insertAt]

lemma insertIdx_eq_insertAt {text : List α} {x : Nat} (hx : x ≤ text.length) (c : α) :
    text.insertIdx x c = insertAt text x [c] := by
  induction text generalizing x with
  | nil => obtain rfl : x = 0 := by simpa using hx
           rfl
  | cons d text ih =>
    cases x with
    | zero => simp [insertAt]
    | succ x =>
      rw [List.insertIdx_succ_cons, ih (by simpa using hx)]
      simp [insertAt]

/-- Inserting in a line inserts in the text. -/
theorem insert_in_line {x : Nat} (hx : x ≤ line.length) (new : List α) :
    [sep].intercalate (pre ++ insertAt line x new :: post) =
      insertAt ([sep].intercalate (pre ++ line :: post)) ((endedWith sep pre).length + x) new := by
  rw [intercalate_at, intercalate_at, insertAt_append, insertAt_append_left hx]

/-- Deleting in a line deletes in the text. -/
theorem erase_in_line {x : Nat} (hx : x < line.length) : [sep].intercalate (pre ++ line.eraseIdx x :: post) =
      ([sep].intercalate (pre ++ line :: post)).eraseIdx ((endedWith sep pre).length + x) := by
  rw [intercalate_at, intercalate_at, List.eraseIdx_append_of_length_le (by omega), Nat.add_sub_cancel_left,
    List.eraseIdx_append_of_lt_length hx]

/-- Splitting a line inserts a separator. -/
theorem split_line {x : Nat} (hx : x ≤ line.length) : [sep].intercalate (pre ++ line.take x :: line.drop x :: post) =
      insertAt ([sep].intercalate (pre ++ line :: post)) ((endedWith sep pre).length + x) [sep] := by
  rw [intercalate_at, intercalate_at, begunWith_cons, insertAt_append, insertAt_append_left hx]
  simp [insertAt]

/-- Joining two lines deletes the separator between them. -/
theorem join_lines (first second : List α) : [sep].intercalate (pre ++ (first ++ second) :: post) =
      ([sep].intercalate (pre ++ first :: second :: post)).eraseIdx
        ((endedWith sep pre).length + first.length) := by
  rw [intercalate_at, intercalate_at, begunWith_cons, List.eraseIdx_append_of_length_le (by omega),
    Nat.add_sub_cancel_left, List.eraseIdx_append_of_length_le (Nat.le_refl _), Nat.sub_self, List.eraseIdx_cons_zero]
  simp

end LineText
