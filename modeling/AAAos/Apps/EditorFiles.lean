import AAAos.Apps.EditorText
import AAAos.Apps.FileText

/-!
# Saving and opening

A file is saved line by line, and opened by cutting it at the newlines.

**What goes wrong.**  The newline of the last line is left out if the line is empty, and a final newline makes no line:
a document that ends in two empty lines loses one of them in every cycle (`cycle_loses_line`).  Short writes are not
noticed, nor are failed newlines, and lines without memory or room are left out of the buffer without an error.

**What is proved.**  Just when a cycle of a save and an open keeps the lines and the file, just when a save that
succeeds has written all, and just when an open that succeeds shows all (`save_open_iff`).
-/

namespace AAAos

open LineText

/-! ## Saving -/

/-- An error comes for the text of a line. -/
def WriteFails (write : Nat → Int) : Nat → List (List UInt8) → Prop
  | _, [] => False
  | i, l :: rest => 0 < l.length ∧ write (2 * i) < 0 ∨ WriteFails write (i + 1) rest

/-- Every text and every newline is written to its end. -/
def WritesAll (write : Nat → Int) : Nat → List (List UInt8) → Prop
  | _, [] => True
  | i, l :: rest =>
    (l.length : Int) ≤ max (write (2 * i)) 0 ∧ (rest ≠ [] ∨ 0 < l.length → 1 ≤ write (2 * i + 1)) ∧
      WritesAll write (i + 1) rest

section Saving

lemma append_eq_append_iff_parts {a b c a' b' c' : List UInt8} (ha : a.length = a'.length → a = a')
    (hb : b.length = b'.length → b = b') (hla : a.length ≤ a'.length) (hlb : b.length ≤ b'.length)
    (hlc : c.length ≤ c'.length) :
    a ++ b ++ c = a' ++ b' ++ c' ↔ a.length = a'.length ∧ b.length = b'.length ∧ c = c' := by
  constructor
  · intro h
    have hlen := congrArg List.length h
    simp only [List.length_append] at hlen
    obtain rfl := ha (by omega)
    obtain rfl := hb (by omega)
    exact ⟨rfl, rfl, List.append_cancel_left h⟩
  · rintro ⟨hla', hlb', rfl⟩
    rw [ha hla', hb hlb']

namespace Editor

/-- **What a save writes.** -/
lemma saveLines_spec (write : Nat → Int) (n : Nat) (ls : List EditorLine) (i : Nat) (hn : n = i + ls.length) :
    ∃ r, saveLines write n i (ls.map some) = some r ∧ (r.1 = vfsOk ↔ ¬ WriteFails write i (ls.map (·.data))) ∧
      r.2.length ≤ (renderLines (ls.map (·.data))).length ∧
      (¬ WriteFails write i (ls.map (·.data)) →
        (r.2 = renderLines (ls.map (·.data)) ↔ WritesAll write i (ls.map (·.data)))) := by
  induction ls generalizing i with
  | nil => exact ⟨_, rfl, iff_of_true rfl id, Nat.le_refl _, fun _ => iff_of_true rfl trivial⟩
  | cons line ls ih =>
    rw [List.length_cons] at hn
    obtain ⟨r, hr, hcode, hle, hall⟩ := ih (i + 1) (by omega)
    rw [List.map_cons, List.map_cons]
    unfold saveLines
    by_cases hfails : 0 < line.length ∧ write (2 * i) < 0
    · rw [if_pos hfails]
      refine ⟨_, rfl, iff_of_false (fun hok => ?_) (not_not.mpr (Or.inl hfails)), Nat.zero_le _,
        fun hnot => absurd (Or.inl hfails) hnot⟩
      have hneg := hfails.2
      rw [show write (2 * i) = 0 from hok] at hneg
      cases hneg
    · rw [if_neg hfails, hr]
      have hlast : (i < n - 1 ∨ 0 < line.length) ↔ (ls.map (·.data) ≠ [] ∨ 0 < line.data.length) := by
        refine or_congr ?_ Iff.rfl
        simp [← List.length_eq_zero_iff]
        omega
      have hrest : WriteFails write i (line.data :: ls.map (·.data)) ↔ WriteFails write (i + 1) (ls.map (·.data)) :=
        or_iff_right hfails
      refine ⟨_, rfl, hcode.trans (not_congr hrest.symm), ?_, fun hnot => ?_⟩
      · rw [renderLines_cons]
        simp only [hlast, List.length_append, List.length_take]
        split_ifs
        · simp
          omega
        · omega
      · rw [hrest] at hnot
        rw [renderLines_cons, WritesAll, ← hall hnot]
        simp only [hlast]
        rw [append_eq_append_iff_parts]
        · refine and_congr ?_ (and_congr ?_ Iff.rfl)
          · rw [List.length_take]
            omega
          · split_ifs with hnewline
            · rw [List.length_take, List.length_singleton]
              constructor
              · intro _ _
                omega
              · intro h
                have hone := h hnewline
                omega
            · exact iff_of_true rfl fun h => absurd h hnewline
        · exact fun hlen => List.take_of_length_le (by rw [List.length_take] at hlen; omega)
        · split_ifs
          · exact fun hlen => List.take_of_length_le (by
              rw [List.length_take] at hlen
              omega)
          · exact fun _ => rfl
        · rw [List.length_take]
          omega
        · split_ifs
          · rw [List.length_take]
            omega
          · exact Nat.le_refl _
        · exact hle

end Editor

end Saving

/-! ## Opening -/

/-- There is memory and room for so many lines more, the first of them the `i`-th of the file, behind `n` lines. -/
def AllKept (mem : Nat → Bool) : Nat → Nat → Nat → Nat → Prop
  | _, _, _, 0 => True
  | i, n, capacity, more + 1 =>
    (mem (3 * i + 1) && mem (3 * i + 2)) = true ∧ n < editorMaxLines ∧ (n < capacity ∨ mem (3 * i + 3) = true) ∧
      AllKept mem (i + 1) (n + 1) (if capacity ≤ n then capacity * 2 else capacity) more

namespace Editor

variable {s : Editor} {mem : Nat → Bool} {i : Nat} {l : List UInt8} {ls : List (List UInt8)}

/-- The texts of the lines. -/
def texts (s : Editor) : List (List UInt8) := s.lines.map lineText

/-- Lines of the file go into the buffer one by one. -/
def addAll (s : Editor) (mem : Nat → Bool) : Nat → List (List UInt8) → Editor
  | _, [] => s
  | i, l :: ls => (s.addLine mem i l).addAll mem (i + 1) ls

/-- The loop of `editor_open` over the pieces of the buffer. -/
lemma parseLines_eq (s : Editor) (mem : Nat → Bool) (buffer current : List UInt8) (i : Nat) :
    s.parseLines mem buffer current i =
      (s.addAll mem i ((pieces buffer current).map dropCarriageReturn), i + (pieces buffer current).length) := by
  induction buffer generalizing s current i with
  | nil =>
    unfold parseLines pieces
    split_ifs <;> rfl
  | cons c rest ih =>
    unfold parseLines pieces
    split_ifs
    · rw [ih, List.map_cons, List.length_cons, addAll, Nat.add_assoc, Nat.add_comm 1]
    · exact ih s (current ++ [c]) i

lemma addLine_cases (s : Editor) (mem : Nat → Bool) (i : Nat) (l : List UInt8) :
    ((mem (3 * i + 1) && mem (3 * i + 2)) = true ∧ s.Place (mem (3 * i + 3)) ∧
        (s.addLine mem i l).texts = s.texts ++ [l] ∧ (s.addLine mem i l).numLines = s.numLines + 1 ∧
        (s.addLine mem i l).linesCapacity =
          if s.linesCapacity ≤ s.numLines then s.linesCapacity * 2 else s.linesCapacity) ∨
      ¬ ((mem (3 * i + 1) && mem (3 * i + 2)) = true ∧ s.Place (mem (3 * i + 3))) ∧ s.addLine mem i l = s := by
  unfold addLine
  cases hcreate : lineCreate l mem (3 * i + 1) with
  | none =>
    refine Or.inr ⟨fun h => ?_, rfl⟩
    unfold lineCreate at hcreate
    rw [if_pos h.1] at hcreate
    split_ifs at hcreate
  | some line =>
    have hmem : (mem (3 * i + 1) && mem (3 * i + 2)) = true := by
      by_contra hno
      unfold lineCreate at hcreate
      rw [if_neg hno] at hcreate
      cases hcreate
    by_cases hplace : s.Place (mem (3 * i + 3))
    · obtain ⟨hmax, hroom⟩ := id hplace
      refine Or.inl ⟨hmem, hplace, ?_⟩
      have hend : s.lines.insertIdx s.numLines (some line) = s.lines ++ [some line] := by
        exact List.insertIdx_length_self
      have hinsert : ∃ t, s.insertLine s.numLines line (mem (3 * i + 3)) = some t ∧ t.lines = s.lines ++ [some line] ∧
          t.linesCapacity = if s.linesCapacity ≤ s.numLines then s.linesCapacity * 2 else s.linesCapacity := by
        unfold insertLine
        rw [if_neg (Nat.lt_irrefl _), if_neg (by omega)]
        by_cases hfull : s.linesCapacity ≤ s.numLines
        · rw [if_pos hfull, if_pos (hroom.resolve_left (by omega)), if_pos hfull]
          exact ⟨_, rfl, hend, rfl⟩
        · rw [if_neg hfull, if_neg hfull]
          exact ⟨_, rfl, hend, rfl⟩
      obtain ⟨t, ht, hlines, hcapacity⟩ := hinsert
      dsimp only
      rw [ht, Option.getD_some]
      refine ⟨?_, ?_, hcapacity⟩
      · rw [texts, hlines, List.map_append]
        exact congrArg (s.texts ++ [·]) (lineCreate_data hcreate)
      · rw [numLines, hlines, List.length_append]
        rfl
    · refine Or.inr ⟨fun h => hplace h.2, ?_⟩
      dsimp only
      rw [insertLine_no_place hplace]
      rfl

lemma addAll_kept (h : AllKept mem i s.numLines s.linesCapacity ls.length) :
    (s.addAll mem i ls).texts = s.texts ++ ls := by
  induction ls generalizing s i with
  | nil => exact (List.append_nil _).symm
  | cons l ls ih =>
    obtain ⟨hmem, hmax, hroom, hrest⟩ := h
    rcases addLine_cases s mem i l with ⟨-, -, htexts, hcount, hcapacity⟩ | ⟨hnot, -⟩
    · rw [← hcount, ← hcapacity] at hrest
      rw [addAll, ih hrest, htexts, List.append_assoc]
      rfl
    · exact absurd ⟨hmem, hmax, hroom⟩ hnot

lemma addAll_sublist (s : Editor) (mem : Nat → Bool) (i : Nat) (ls : List (List UInt8)) :
    ∃ kept, kept.Sublist ls ∧ (s.addAll mem i ls).texts = s.texts ++ kept := by
  induction ls generalizing s i with
  | nil => exact ⟨[], List.Sublist.refl _, (List.append_nil _).symm⟩
  | cons l ls ih =>
    obtain ⟨kept, hsub, htexts⟩ := ih (s.addLine mem i l) (i + 1)
    rcases addLine_cases s mem i l with ⟨-, -, hadd, -⟩ | ⟨-, hsame⟩
    · refine ⟨l :: kept, hsub.cons_cons l, ?_⟩
      rw [addAll, htexts, hadd, List.append_assoc]
      rfl
    · refine ⟨kept, hsub.cons l, ?_⟩
      rw [addAll, htexts, hsame]

lemma addAll_fewer (h : ¬ AllKept mem i s.numLines s.linesCapacity ls.length) :
    ∃ kept, kept.Sublist ls ∧ kept.length < ls.length ∧ (s.addAll mem i ls).texts = s.texts ++ kept := by
  induction ls generalizing s i with
  | nil => exact absurd trivial h
  | cons l ls ih =>
    rcases addLine_cases s mem i l with ⟨hmem, hplace, hadd, hcount, hcapacity⟩ | ⟨-, hsame⟩
    · have hrest : ¬ AllKept mem (i + 1) (s.addLine mem i l).numLines (s.addLine mem i l).linesCapacity
          ls.length := by
        rw [hcount, hcapacity]
        exact fun hrest => h ⟨hmem, hplace.1, hplace.2, hrest⟩
      obtain ⟨kept, hsub, hlt, htexts⟩ := ih hrest
      refine ⟨l :: kept, hsub.cons_cons l, Nat.succ_lt_succ hlt, ?_⟩
      rw [addAll, htexts, hadd, List.append_assoc]
      rfl
    · obtain ⟨kept, hsub, htexts⟩ := addAll_sublist s mem (i + 1) ls
      refine ⟨kept, hsub.cons l, Nat.lt_succ_of_le hsub.length_le, ?_⟩
      rw [addAll, hsame, htexts]

/-- The buffer for the file is there, and the file is read. -/
def Reaches (file : List UInt8) (read : Int) (mem : Nat → Bool) : Prop :=
  file = [] ∨ mem 0 = true ∧ 0 ≤ read

/-- What the parser gets. -/
def readBuffer (file : List UInt8) (read : Int) : List UInt8 := (file.take read.toNat).takeWhile (· ≠ 0)

/-- **What an open leaves in the buffer.**  Where no line was kept, an empty one is put there. -/
lemma editorOpen_texts (s : Editor) (name : CString) {file : List UInt8} {read : Int} (h : Reaches file read mem) :
    (s.editorOpen name (.contents file read) mem).1 = vfsOk ∧
      ∃ kept, kept.Sublist (parsedLines (readBuffer file read)) ∧
        (AllKept mem 0 0 s.linesCapacity (parsedLines (readBuffer file read)).length →
          kept = parsedLines (readBuffer file read)) ∧
        (¬ AllKept mem 0 0 s.linesCapacity (parsedLines (readBuffer file read)).length →
          kept.length < (parsedLines (readBuffer file read)).length) ∧
        ((s.editorOpen name (.contents file read) mem).2.texts = kept ∨
          kept = [] ∧ (s.editorOpen name (.contents file read) mem).2.texts = [[]]) := by
  have hmem : ¬ (file ≠ [] ∧ mem 0 = false) := fun ⟨hne, hno⟩ => by
    rw [(h.resolve_left hne).1] at hno
    cases hno
  have hread : ¬ (file ≠ [] ∧ read < 0) := fun ⟨hne, hneg⟩ => absurd (h.resolve_left hne).2 (by omega)
  generalize hparsed : parsedLines (readBuffer file read) = parsed
  generalize hblank : ({ s with lines := [] } : Editor) = blank
  have hnone : blank.texts = [] ∧ blank.numLines = 0 ∧ blank.linesCapacity = s.linesCapacity := by
    rw [← hblank]
    exact ⟨rfl, rfl, rfl⟩
  have hadded : ∃ kept, kept.Sublist parsed ∧ (AllKept mem 0 0 s.linesCapacity parsed.length → kept = parsed) ∧
      (¬ AllKept mem 0 0 s.linesCapacity parsed.length → kept.length < parsed.length) ∧
      (blank.addAll mem 0 parsed).texts = kept := by
    by_cases hall : AllKept mem 0 0 s.linesCapacity parsed.length
    · refine ⟨parsed, List.Sublist.refl _, fun _ => rfl, fun hnot => absurd hall hnot, ?_⟩
      simp [addAll_kept (by rw [hnone.2.1, hnone.2.2]; exact hall), hnone.1]
    · obtain ⟨kept, hsub, hlt, htexts⟩ := @addAll_fewer blank mem 0 parsed
        (by rwa [hnone.2.1, hnone.2.2])
      exact ⟨kept, hsub, fun hyes => absurd hyes hall, fun _ => hlt, by simp [htexts, hnone.1]⟩
  obtain ⟨kept, hsub, hall, hfewer, htexts⟩ := hadded
  have hparse : blank.parseLines mem (readBuffer file read) [] 0 =
      (blank.addAll mem 0 parsed, 0 + (pieces (readBuffer file read) []).length) := by
    rw [parseLines_eq, ← hparsed]
    rfl
  generalize hadd : blank.addAll mem 0 parsed = t at htexts hparse
  have hopen : s.editorOpen name (.contents file read) mem = (vfsOk,
      ((if t.numLines = 0 then t.addLine mem (0 + (pieces (readBuffer file read) []).length) [] else t).setFilename
        name).setCursor 0 0) := by
    unfold editorOpen
    dsimp only
    rw [if_neg hmem, if_neg hread, hblank]
    exact congrArg (fun p : Editor × Nat => (vfsOk,
      ((if p.1.numLines = 0 then p.1.addLine mem p.2 [] else p.1).setFilename name).setCursor 0 0)) hparse
  rw [hopen]
  refine ⟨rfl, kept, hsub, hall, hfewer, ?_⟩
  have hset : ∀ w : Editor, ((w.setFilename name).setCursor 0 0).texts = w.texts := fun _ => rfl
  rw [hset]
  by_cases hempty : t.numLines = 0
  · have hkept : kept = [] := by
      rw [← htexts, texts, List.length_eq_zero_iff.mp hempty]
      rfl
    rw [if_pos hempty]
    rcases addLine_cases t mem (0 + (pieces (readBuffer file read) []).length) [] with ⟨-, -, hone, -⟩ | ⟨-, hsame⟩
    · exact Or.inr ⟨hkept, by rw [hone, htexts, hkept]; rfl⟩
    · exact Or.inl (by rw [hsame, htexts])
  · rw [if_neg hempty]
    exact Or.inl htexts

/-! ## A save and an open -/

/-- Every write is done to its end. -/
def fullWrite (s : Editor) (k : Nat) : Int := if k % 2 = 0 then ((s.texts.getD (k / 2) []).length : Int) else 1

/-- A save, and an open of what was saved: the file, and the buffer after it. -/
def cycle (s : Editor) (name : CString) (mem : Nat → Bool) : Option (List UInt8 × Editor) :=
  match s.editorSaveAs name true s.fullWrite with
  | some ⟨code, t, some file⟩ =>
    if code = vfsOk then some (file, (t.editorOpen name (.contents file file.length) mem).2) else none
  | _ => none

/-- No line has a NUL, CR or LF in it. -/
def Clean (s : Editor) : Prop := ∀ l ∈ s.texts, 0 ∉ l ∧ carriageReturn ∉ l ∧ lineFeed ∉ l

/-- The lines of `t` are those of `s`, but perhaps for an empty one at the end. -/
def KeepsLines (s t : Editor) : Prop := t.texts = s.texts ∨ t.texts ++ [[]] = s.texts ∨ t.texts = s.texts ++ [[]]

/-- Where a save and an open lose nothing: the open fails for its buffer, or there is memory and room for all lines, and
the last two of them are not both empty. -/
def Stable (s : Editor) (mem : Nat → Bool) : Prop :=
  none ∉ s.lines ∧ (renderLines s.texts ≠ [] ∧ mem 0 = false ∨
    AllKept mem 0 0 s.linesCapacity (trimmed s.texts).length ∧ ¬ [[], []] <:+ s.texts)

lemma lines_of_whole (h : none ∉ s.lines) : ∃ ls : List EditorLine, s.lines = ls.map some := by
  generalize s.lines = lines at h
  induction lines with
  | nil => exact ⟨[], rfl⟩
  | cons line lines ih =>
    obtain ⟨ls, rfl⟩ := ih fun hnull => h (List.mem_cons_of_mem line hnull)
    cases line with
    | none => exact absurd List.mem_cons_self h
    | some line => exact ⟨line :: ls, rfl⟩

lemma texts_of_lines {ls : List EditorLine} (h : s.lines = ls.map some) : s.texts = ls.map (·.data) := by
  rw [texts, h, List.map_map]
  rfl

lemma fullWrite_spec (s : Editor) (i : Nat) (ls : List (List UInt8)) (h : s.texts.drop i = ls) :
    ¬ WriteFails s.fullWrite i ls ∧ WritesAll s.fullWrite i ls := by
  induction ls generalizing i with
  | nil => exact ⟨id, trivial⟩
  | cons l ls ih =>
    have hrest : s.texts.drop (i + 1) = ls := by simp [← List.tail_drop, h]
    have hhere : s.texts.getD i [] = l := by
      rw [List.getD_eq_getElem?_getD, ← Nat.add_zero i, ← List.getElem?_drop, h]
      rfl
    have htext : s.fullWrite (2 * i) = l.length := by
      rw [fullWrite, if_pos (by omega), Nat.mul_div_cancel_left i (by decide), hhere]
    have hnewline : s.fullWrite (2 * i + 1) = 1 := if_neg (by omega)
    obtain ⟨hnot, hall⟩ := ih (i + 1) hrest
    refine ⟨fun hfails => hfails.elim (fun hneg => ?_) hnot, ?_, fun _ => ?_, hall⟩
    · omega
    · omega
    · rw [hnewline]

lemma saveLines_null {write : Nat → Int} {n : Nat} {lines : List (Option EditorLine)} {r : Int × List UInt8}
    (h : none ∈ lines) (hr : saveLines write n i lines = some r) : r.1 ≠ vfsOk := by
  induction lines generalizing i r with
  | nil => exact absurd h List.not_mem_nil
  | cons line lines ih =>
    cases line with
    | none => cases hr
    | some line =>
      have hrest : none ∈ lines := (List.mem_cons.mp h).resolve_left (by simp)
      unfold saveLines at hr
      by_cases hfails : 0 < line.length ∧ write (2 * i) < 0
      · rw [if_pos hfails] at hr
        cases hr
        exact fun hok => absurd hfails.2 (by rw [show write (2 * i) = 0 from hok]; decide)
      · rw [if_neg hfails] at hr
        obtain ⟨q, hq, rfl⟩ := Option.map_eq_some_iff.mp hr
        have hcode : q.1 ≠ vfsOk := ih hrest hq
        exact hcode

lemma saveAs_full (name : CString) (h : none ∉ s.lines) :
    s.editorSaveAs name true s.fullWrite = some ⟨vfsOk, s.setFilename name, some (renderLines s.texts)⟩ := by
  obtain ⟨ls, hls⟩ := lines_of_whole h
  obtain ⟨r, hr, hcode, -, hall⟩ := saveLines_spec s.fullWrite s.numLines ls 0 (by
    simp [numLines, hls])
  rw [← texts_of_lines hls] at hcode hall
  obtain ⟨hnot, hwrites⟩ := fullWrite_spec s 0 s.texts rfl
  rw [editorSaveAs, if_pos rfl, hls, hr, Option.map_some, if_pos (hcode.mpr hnot), hcode.mpr hnot,
    (hall hnot).mpr hwrites]

lemma cycle_whole (name : CString) (mem : Nat → Bool) (h : none ∉ s.lines) :
    s.cycle name mem = some (renderLines s.texts, ((s.setFilename name).editorOpen name
      (.contents (renderLines s.texts) (renderLines s.texts).length) mem).2) := by
  unfold cycle
  rw [saveAs_full name h]
  exact if_pos rfl

lemma cycle_null (name : CString) (mem : Nat → Bool) (h : none ∈ s.lines) : s.cycle name mem = none := by
  unfold cycle editorSaveAs
  cases hr : saveLines s.fullWrite s.numLines 0 s.lines with
  | none => rfl
  | some r => exact if_neg (saveLines_null h hr)

lemma addLine_whole (i : Nat) (l : List UInt8) (h : none ∉ s.lines) : none ∉ (s.addLine mem i l).lines := by
  unfold addLine
  cases lineCreate l mem (3 * i + 1) with
  | none => exact h
  | some line =>
    have hinserted : none ∉ s.lines.insertIdx s.numLines (some line) := by
      intro hnull
      rw [numLines, List.mem_insertIdx (Nat.le_refl s.lines.length)] at hnull
      exact hnull.elim (fun heq => by cases heq) h
    dsimp only
    cases hinsert : s.insertLine s.numLines line (mem (3 * i + 3)) with
    | none => exact h
    | some t =>
      unfold insertLine at hinsert
      split_ifs at hinsert
      · cases hinsert
        exact hinserted
      · cases hinsert
        exact hinserted

lemma addAll_whole (i : Nat) (ls : List (List UInt8)) (h : none ∉ s.lines) : none ∉ (s.addAll mem i ls).lines := by
  induction ls generalizing s i with
  | nil => exact h
  | cons l ls ih => exact ih (i + 1) (addLine_whole i l h)

lemma editorOpen_whole (name : CString) (file : List UInt8) (read : Int) (mem : Nat → Bool) (h : none ∉ s.lines) :
    none ∉ (s.editorOpen name (.contents file read) mem).2.lines := by
  have hparsed : none ∉ ({ s with lines := [] }.parseLines mem (readBuffer file read) [] 0).1.lines := by
    rw [parseLines_eq]
    exact addAll_whole 0 _ List.not_mem_nil
  unfold editorOpen
  dsimp only
  split_ifs
  · exact h
  · exact h
  · exact addLine_whole _ [] hparsed
  · exact hparsed

lemma editorOpen_refused (name : CString) {file : List UInt8} (read : Int) (h : file ≠ [] ∧ mem 0 = false) :
    s.editorOpen name (.contents file read) mem = (errNoMem, s) := by
  exact if_pos h

lemma reaches_full {file : List UInt8} (h : ¬ (file ≠ [] ∧ mem 0 = false)) : Reaches file file.length mem := by
  by_cases hnil : file = []
  · exact Or.inl hnil
  · refine Or.inr ⟨?_, Int.natCast_nonneg _⟩
    cases hmem : mem 0 with
    | true => rfl
    | false => exact absurd ⟨hnil, hmem⟩ h

lemma readBuffer_all {file : List UInt8} (h : 0 ∉ file) : readBuffer file file.length = file := by
  rw [readBuffer, Int.toNat_natCast, List.take_length, List.takeWhile_eq_self_iff]
  intro c hc
  exact decide_eq_true fun hzero => h (hzero ▸ hc)

lemma Clean.zero_not_mem (h : s.Clean) : 0 ∉ renderLines s.texts := by
  intro hzero
  rcases mem_renderLines hzero with hfeed | ⟨l, hl, hmem⟩
  · exact absurd hfeed (by decide)
  · exact (h l hl).1 hmem

lemma Clean.parsed (h : s.Clean) :
    parsedLines (readBuffer (renderLines s.texts) (renderLines s.texts).length) = trimmed s.texts := by
  rw [readBuffer_all h.zero_not_mem, parsedLines_renderLines h]

lemma Clean.of_keeps (h : s.Clean) (hkeeps : s.KeepsLines t) : t.Clean := by
  intro l hl
  rcases hkeeps with hsame | hfewer | hmore
  · exact h l (hsame ▸ hl)
  · exact h l (hfewer ▸ List.mem_append_left [[]] hl)
  · rw [hmore, List.mem_append] at hl
    rcases hl with hl | hempty
    · exact h l hl
    · rw [List.mem_singleton.mp hempty]
      exact ⟨List.not_mem_nil, List.not_mem_nil, List.not_mem_nil⟩

lemma suffix_pair {front : List (List UInt8)} : [[], []] <:+ front ++ [[]] ↔ front.getLast? = some [] := by
  rw [show ([[], []] : List (List UInt8)) = [[]] ++ [[]] from rfl, List.suffix_append_self_iff,
    List.getLast?_eq_some_iff]
  exact ⟨fun ⟨x, hx⟩ => ⟨x, hx.symm⟩, fun ⟨x, hx⟩ => ⟨x, hx.symm⟩⟩

/-- **The step.**  A stable cycle keeps the lines, and what they render to. -/
lemma cycle_keeps (name : CString) (hclean : s.Clean) (h : s.Stable mem) :
    ∃ t, s.cycle name mem = some (renderLines s.texts, t) ∧ s.KeepsLines t ∧
      renderLines t.texts = renderLines s.texts ∧ none ∉ t.lines := by
  obtain ⟨hwhole, hstable⟩ := h
  have hset : none ∉ (s.setFilename name).lines := hwhole
  refine ⟨_, cycle_whole name mem hwhole, ?_⟩
  rw [← and_assoc]
  refine ⟨?_, editorOpen_whole name _ _ mem hset⟩
  by_cases hrefused : renderLines s.texts ≠ [] ∧ mem 0 = false
  · rw [editorOpen_refused name _ hrefused]
    exact ⟨Or.inl rfl, rfl⟩
  · obtain ⟨hall, hpair⟩ := hstable.resolve_left hrefused
    obtain ⟨-, kept, -, hkept, -, htexts⟩ := editorOpen_texts (s.setFilename name) name (reaches_full hrefused)
    rw [hclean.parsed] at hkept
    rw [hkept hall] at htexts
    generalize ((s.setFilename name).editorOpen name _ mem).2 = t at htexts ⊢
    unfold KeepsLines
    rcases trimmed_cases s.texts with ⟨hsame, -⟩ | hfewer
    · rw [hsame] at htexts
      rcases htexts with hkeep | ⟨hnone, hone⟩
      · exact ⟨Or.inl hkeep, congrArg renderLines hkeep⟩
      · rw [hnone, hone]
        exact ⟨Or.inr (Or.inr rfl), rfl⟩
    · rcases htexts with hkeep | ⟨hnone, hone⟩
      · rw [hkeep]
        refine ⟨Or.inr (Or.inl hfewer), ?_⟩
        rw [← hfewer, suffix_pair] at hpair
        have hsame := (renderLines_concat (trimmed s.texts)).mpr hpair
        rw [hfewer] at hsame
        exact hsame.symm
      · rw [hnone] at hfewer
        rw [hone, ← hfewer]
        exact ⟨Or.inl rfl, rfl⟩

/-- **And back.**  A cycle that keeps the lines and the file is stable. -/
lemma stable_of_cycle {name : CString} {file : List UInt8} (hclean : s.Clean)
    (hcycle : s.cycle name mem = some (file, t)) (hkeeps : s.KeepsLines t) (hagain : renderLines t.texts = file) :
    s.Stable mem := by
  have hwhole : none ∉ s.lines := by
    intro hnull
    rw [cycle_null name mem hnull] at hcycle
    cases hcycle
  refine ⟨hwhole, ?_⟩
  by_cases hrefused : renderLines s.texts ≠ [] ∧ mem 0 = false
  · exact Or.inl hrefused
  · obtain ⟨-, kept, -, hkept, hfewer, htexts⟩ :=
      editorOpen_texts (s.setFilename name) name (reaches_full hrefused)
    rw [cycle_whole name mem hwhole, Option.some.injEq, Prod.mk.injEq] at hcycle
    obtain ⟨rfl, rfl⟩ := hcycle
    rw [hclean.parsed] at hkept hfewer
    generalize ((s.setFilename name).editorOpen name _ mem).2 = t at htexts hkeeps hagain
    unfold KeepsLines at hkeeps
    generalize hdocument : s.texts = document at *
    have hlength := length_trimmed_le document
    right
    have hall : AllKept mem 0 0 s.linesCapacity (trimmed document).length := by
      by_contra hnot
      have hlt := hfewer hnot
      rcases htexts with hkeep | ⟨-, hone⟩
      · rw [hkeep] at hkeeps
        rcases hkeeps with rfl | rfl | rfl
        · omega
        · rw [trimmed_concat] at hlt
          simp at hlt
        · rw [List.length_append] at hlt
          omega
      · rw [hone] at hkeeps hagain
        rcases hkeeps with rfl | rfl | hmore
        · exact absurd hlt (Nat.not_lt_zero _)
        · exact absurd hagain (by decide)
        · have hcount := congrArg List.length hmore
          rw [List.length_append] at hcount
          omega
    refine ⟨hall, ?_⟩
    rintro ⟨front, rfl⟩
    have htrim : trimmed (front ++ [[], []]) = front ++ [[]] := by
      rw [← trimmed_concat (front ++ [[]]), List.append_assoc]
      rfl
    rw [hkept hall, htrim] at htexts
    have hkeep : t.texts = front ++ [[]] := htexts.elim id fun hnone => absurd hnone.1 (List.concat_ne_nil _ _)
    rw [hkeep] at hagain
    have hlast := (renderLines_concat (front ++ [[]])).mp (by rw [hagain, List.append_assoc]; rfl)
    exact hlast List.getLast?_concat

/-- **Any number of cycles** that are stable write one file. -/
lemma cycles_keep {name : CString} {n : Nat} {docs : Nat → Editor} {files : Nat → List UInt8} {mems : Nat → Nat → Bool}
    (hclean : (docs 0).Clean) (hrun : ∀ i < n, (docs i).cycle name (mems i) = some (files i, docs (i + 1)))
    (hstable : ∀ i < n, (docs i).Stable (mems i)) : ∀ i < n, files i = renderLines (docs 0).texts := by
  have hkept : ∀ i ≤ n, (docs i).Clean ∧ renderLines (docs i).texts = renderLines (docs 0).texts := by
    intro i hi
    induction i with
    | zero => exact ⟨hclean, rfl⟩
    | succ i ih =>
      obtain ⟨hdoc, hsame⟩ := ih (by omega)
      obtain ⟨t, hcycle, hkeeps, hrender, -⟩ := cycle_keeps name hdoc (hstable i (by omega))
      rw [hrun i (by omega), Option.some.injEq, Prod.mk.injEq] at hcycle
      obtain ⟨-, rfl⟩ := hcycle
      exact ⟨hdoc.of_keeps hkeeps, hrender.trans hsame⟩
  intro i hi
  obtain ⟨hdoc, hsame⟩ := hkept i (by omega)
  obtain ⟨t, hcycle, -⟩ := cycle_keeps name hdoc (hstable i hi)
  rw [hrun i hi, Option.some.injEq, Prod.mk.injEq] at hcycle
  exact hcycle.1.trans hsame

/-! ## A save that fails -/

/-- What a save has told its user: that it was done, or that nothing is modified any more. -/
def ToldSaved (s : Editor) (saved : Saved) : Prop :=
  saved.code = vfsOk ∨ s.modified = true ∧ saved.editor.modified = false

/-- **A save that succeeds** has written the complete text just where no write was short; a failed write of a line is
noticed, and so is a NULL. -/
lemma saveAs_honest (s : Editor) (name : CString) (opened : Bool) (write : Nat → Int) :
    (∀ saved, s.editorSaveAs name opened write = some saved → s.ToldSaved saved →
        saved.file = some (renderLines s.texts)) ↔
      opened = false ∨ none ∈ s.lines ∨ WriteFails write 0 s.texts ∨ WritesAll write 0 s.texts := by
  cases opened with
  | false =>
    refine iff_of_true (fun saved hsaved htold => ?_) (Or.inl rfl)
    cases hsaved
    rcases htold with hok | ⟨hdirty, hclear⟩
    · have hcode : errIo = vfsOk := hok
      cases hcode
    · rw [hdirty] at hclear
      cases hclear
  | true =>
    have htold : ∀ r : Int × List UInt8, s.ToldSaved ⟨r.1, if r.1 = vfsOk then s.setFilename name else s, some r.2⟩ ↔
        r.1 = vfsOk := by
      intro r
      refine ⟨fun h => h.elim id fun ⟨hdirty, hclear⟩ => ?_, Or.inl⟩
      by_contra hne
      rw [if_neg hne, hdirty] at hclear
      cases hclear
    unfold editorSaveAs
    rw [or_iff_right (by decide)]
    by_cases hnull : none ∈ s.lines
    · refine iff_of_true (fun saved hsaved hsays => ?_) (Or.inl hnull)
      obtain ⟨r, hr, rfl⟩ := Option.map_eq_some_iff.mp hsaved
      exact absurd ((htold r).mp hsays) (saveLines_null hnull hr)
    · obtain ⟨ls, hls⟩ := lines_of_whole hnull
      obtain ⟨r, hr, hcode, -, hall⟩ := saveLines_spec write s.numLines ls 0 (by
        simp [numLines, hls])
      rw [← texts_of_lines hls] at hcode hall
      rw [← hls] at hr
      rw [or_iff_right hnull, hr, Option.map_some]
      constructor
      · intro h
        by_cases hfails : WriteFails write 0 s.texts
        · exact Or.inl hfails
        · exact Or.inr ((hall hfails).mp (Option.some.inj (h _ rfl ((htold r).mpr (hcode.mpr hfails)))))
      · intro h saved hsaved hsays
        cases hsaved
        have hfails := hcode.mp ((htold r).mp hsays)
        exact congrArg some ((hall hfails).mpr (h.resolve_left hfails))

/-! ## An open that leaves something out -/

/-- All of the file was read, up to its last newline, and there is memory and room for its lines. -/
def OpensWhole (s : Editor) (file : List UInt8) (read : Int) (mem : Nat → Bool) : Prop :=
  AllKept mem 0 0 s.linesCapacity (parsedLines (readBuffer file read)).length ∧
    ∃ rest, file = readBuffer file read ++ rest ∧ SeenWhole (readBuffer file read) rest

lemma exists_unread (file : List UInt8) (read : Int) : ∃ rest, file = readBuffer file read ++ rest := by
  obtain ⟨rest, hrest⟩ := (List.takeWhile_prefix (· ≠ 0)).trans (List.take_prefix read.toNat file)
  exact ⟨rest, hrest.symm⟩

lemma editorOpen_fails (s : Editor) (name : CString) {file : List UInt8} {read : Int} (h : ¬ Reaches file read mem) :
    (s.editorOpen name (.contents file read) mem).1 ≠ vfsOk := by
  obtain ⟨hne, hno⟩ := not_or.mp h
  unfold editorOpen
  dsimp only
  by_cases hmem : mem 0 = false
  · rw [if_pos ⟨hne, hmem⟩]
    exact show errNoMem ≠ vfsOk by decide
  · have hread : read < 0 := by
      by_contra hread
      exact hno ⟨(Bool.eq_false_or_eq_true _).resolve_right hmem, by omega⟩
    rw [if_neg fun hfail => hmem hfail.2, if_pos ⟨hne, hread⟩]
    exact Int.ne_of_lt hread

/-- **An open that succeeds** shows all of the file just where it is blank, or was seen whole with room for it. -/
lemma editorOpen_shows (s : Editor) (name : CString) (file : List UInt8) (read : Int) (mem : Nat → Bool) :
    ((s.editorOpen name (.contents file read) mem).1 = vfsOk →
        (s.editorOpen name (.contents file read) mem).2.text = [lineFeed].intercalate (fileLines file [])) ↔
      ¬ Reaches file read mem ∨ Blank file ∨ s.OpensWhole file read mem := by
  by_cases hreaches : Reaches file read mem
  · obtain ⟨hok, kept, hsub, hkept, hfewer, htexts⟩ := editorOpen_texts s name hreaches
    rw [or_iff_right (not_not.mpr hreaches), forall_prop_of_true hok]
    obtain ⟨rest, hfile⟩ := exists_unread file read
    have hwhole : s.OpensWhole file read mem ↔
        AllKept mem 0 0 s.linesCapacity (parsedLines (readBuffer file read)).length ∧
          parsedLines (readBuffer file read) = fileLines file [] := by
      refine and_congr_right fun _ => ?_
      constructor
      · rintro ⟨rest', hrest', hseen⟩
        have hlines := parsedLines_eq_fileLines.mpr hseen
        rwa [← hrest'] at hlines
      · intro hlines
        refine ⟨rest, hfile, parsedLines_eq_fileLines.mp ?_⟩
        rwa [← hfile]
    have hlength := length_parsedLines_le (readBuffer file read) rest
    have hblank : Blank file → parsedLines (readBuffer file read) = [] ∨ parsedLines (readBuffer file read) = [[]] :=
      fun h => Blank.seen (hfile ▸ h)
    have hfree := not_mem_parsedLines (readBuffer file read)
    rw [← hfile] at hlength
    rw [hwhole]
    generalize parsedLines (readBuffer file read) = parsed at *
    generalize (s.editorOpen name (.contents file read) mem).2 = t at htexts ⊢
    have htext : t.text = [lineFeed].intercalate kept := by
      have hself : t.text = [lineFeed].intercalate t.texts := rfl
      rw [hself]
      rcases htexts with hkeep | ⟨hnone, hone⟩
      · rw [hkeep]
      · rw [hone, hnone]
        rfl
    rw [htext]
    constructor
    · intro hsame
      by_cases hempty : [lineFeed].intercalate (fileLines file []) = []
      · exact Or.inl ((blank_iff file).mp hempty)
      · right
        have hlines : kept = fileLines file [] := by
          refine intercalate_inj (fun l hl => hfree l (hsub.subset hl)) (not_mem_fileLines file) ?_ ?_ hsame
          · rintro rfl
            exact hempty hsame.symm
          · intro hnil
            exact hempty (by rw [hnil]; rfl)
        have hall : AllKept mem 0 0 s.linesCapacity parsed.length := by
          by_contra hnot
          have hlt := hfewer hnot
          rw [hlines] at hlt
          omega
        exact ⟨hall, (hkept hall).symm.trans hlines⟩
    · rintro (hnone | ⟨hall, hlines⟩)
      · rw [(blank_iff file).mpr hnone, intercalate_nil_iff]
        rcases hblank hnone with rfl | rfl
        · exact Or.inl (List.sublist_nil.mp hsub)
        · rcases List.sublist_cons_iff.mp hsub with hnil | ⟨behind, rfl, hnil⟩
          · exact Or.inl (List.sublist_nil.mp hnil)
          · exact Or.inr (by rw [List.sublist_nil.mp hnil])
      · rw [hkept hall, hlines]
  · exact iff_of_true (fun hok => absurd hok (editorOpen_fails s name hreaches)) (Or.inl hreaches)

/-! ## The result -/

/-- **Saving and opening.**  A cycle keeps the lines and the file just where it is stable, and so do many of them; a
save that succeeds has written all where no write was short; an open that succeeds shows all where it saw all. -/
theorem save_open_iff (s : Editor) (name : CString) :
    (∀ mem, s.Clean → ((∃ file t, s.cycle name mem = some (file, t) ∧ s.KeepsLines t ∧
        ∀ mem', ∃ u, t.cycle name mem' = some (file, u)) ↔ s.Stable mem)) ∧
    (∀ (n : Nat) (docs : Nat → Editor) (files : Nat → List UInt8) (mems : Nat → Nat → Bool), docs 0 = s → s.Clean →
        (∀ i < n, (docs i).cycle name (mems i) = some (files i, docs (i + 1))) →
        (∀ i < n, (docs i).Stable (mems i)) → ∀ i < n, files i = renderLines s.texts) ∧
    (∀ opened write, (∀ saved, s.editorSaveAs name opened write = some saved → s.ToldSaved saved →
        saved.file = some (renderLines s.texts)) ↔
      opened = false ∨ none ∈ s.lines ∨ WriteFails write 0 s.texts ∨ WritesAll write 0 s.texts) ∧
    ∀ file read mem, ((s.editorOpen name (.contents file read) mem).1 = vfsOk →
        (s.editorOpen name (.contents file read) mem).2.text = [lineFeed].intercalate (fileLines file [])) ↔
      ¬ Reaches file read mem ∨ Blank file ∨ s.OpensWhole file read mem := by
  refine ⟨fun mem hclean => ⟨?_, fun hstable => ?_⟩, ?_, s.saveAs_honest name, s.editorOpen_shows name⟩
  · rintro ⟨file, t, hcycle, hkeeps, hagain⟩
    obtain ⟨u, hu⟩ := hagain mem
    refine stable_of_cycle hclean hcycle hkeeps ?_
    by_cases hnull : none ∈ t.lines
    · rw [cycle_null name mem hnull] at hu
      cases hu
    · rw [cycle_whole name mem hnull, Option.some.injEq, Prod.mk.injEq] at hu
      exact hu.1
  · obtain ⟨t, hcycle, hkeeps, hrender, hwhole⟩ := cycle_keeps name hclean hstable
    exact ⟨_, t, hcycle, hkeeps, fun mem' => ⟨_, by rw [cycle_whole name mem' hwhole, hrender]⟩⟩
  · rintro n docs files mems rfl hclean hrun hstable
    exact cycles_keep hclean hrun hstable

/-- A line with one character. -/
theorem save_open_iff_one_line : ∃ s₀ s : Editor, editorInit (fun _ => true) = some s₀ ∧
    s₀.edit (fun _ => true) (.insertChar 97) = some s ∧ s.Clean ∧ s.Stable (fun _ => true) ∧
      ∃ file t, s.cycle .empty (fun _ => true) = some (file, t) ∧ s.KeepsLines t ∧
        ∀ mem', ∃ u, t.cycle .empty mem' = some (file, u) := by
  obtain ⟨s₀, s, hinit, htyped, htexts, hwhole, hcapacity⟩ : ∃ s₀ s : Editor, editorInit (fun _ => true) = some s₀ ∧
      s₀.edit (fun _ => true) (.insertChar 97) = some s ∧ s.texts = [[97]] ∧ none ∉ s.lines ∧ s.linesCapacity = 256 :=
    ⟨_, _, rfl, rfl, rfl, by decide, rfl⟩
  have hclean : s.Clean := by
    intro l hl
    obtain rfl : l = [97] := by simpa [htexts] using hl
    decide
  have hstable : s.Stable fun _ => true := by
    refine ⟨hwhole, Or.inr ?_⟩
    rw [htexts, hcapacity]
    exact ⟨⟨rfl, by decide, Or.inl (by decide), trivial⟩, by decide⟩
  exact ⟨s₀, s, hinit, htyped, hclean, hstable, ((save_open_iff s .empty).1 _ hclean).mpr hstable⟩

/-- Two empty lines are one after a cycle, and the file changes with the next one; a short write is not noticed; and
what stands behind a NUL is not opened. -/
theorem cycle_loses_line : ∃ s₀ s t u : Editor, editorInit (fun _ => true) = some s₀ ∧
    s₀.edit (fun _ => true) .newline = some s ∧ s.Clean ∧
      s.cycle .empty (fun _ => true) = some ([lineFeed], t) ∧ t.cycle .empty (fun _ => true) = some ([], u) ∧
      (∃ typed saved, s₀.edit (fun _ => true) (.insertChar 97) = some typed ∧
        typed.editorSaveAs .empty true (fun _ => 0) = some saved ∧ saved.code = vfsOk ∧
        saved.editor.modified = false ∧ saved.file = some []) ∧
      (s₀.editorOpen .empty (.contents [97, 0, 98] 3) fun _ => true).1 = vfsOk ∧
      (s₀.editorOpen .empty (.contents [97, 0, 98] 3) fun _ => true).2.text = [97] := by
  obtain ⟨s₀, hinit, htyped, hcode, htext⟩ : ∃ s₀, editorInit (fun _ => true) = some s₀ ∧
      (∃ typed saved, s₀.edit (fun _ => true) (.insertChar 97) = some typed ∧
        typed.editorSaveAs .empty true (fun _ => 0) = some saved ∧ saved.code = vfsOk ∧
        saved.editor.modified = false ∧ saved.file = some []) ∧
      (s₀.editorOpen .empty (.contents [97, 0, 98] 3) fun _ => true).1 = vfsOk ∧
      (s₀.editorOpen .empty (.contents [97, 0, 98] 3) fun _ => true).2.text = [97] :=
    ⟨_, rfl, ⟨_, _, rfl, rfl, rfl, rfl, rfl⟩, rfl, by decide⟩
  obtain ⟨s, t, u, hnewline, htexts, hfirst, hsecond⟩ : ∃ s t u : Editor,
      s₀.edit (fun _ => true) .newline = some s ∧ s.texts = [[], []] ∧
        s.cycle .empty (fun _ => true) = some ([lineFeed], t) ∧ t.cycle .empty (fun _ => true) = some ([], u) := by
    obtain rfl := Option.some.inj hinit
    exact ⟨_, _, _, rfl, rfl, rfl, rfl⟩
  have hclean : s.Clean := by
    intro l hl
    obtain rfl : l = [] := by simpa [htexts] using hl
    exact ⟨List.not_mem_nil, List.not_mem_nil, List.not_mem_nil⟩
  exact ⟨s₀, s, t, u, hinit, hnewline, hclean, hfirst, hsecond, htyped, hcode, htext⟩

end Editor

end AAAos
