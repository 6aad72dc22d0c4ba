import AAAos.Apps.Editor
import AAAos.Lib.LineText

/-!
# Files and their lines

What the editor saves of some lines, and how it cuts a file into lines.  Lines that were saved come back, but for an
empty one at the end (`parsedLines_renderLines`), and the lines of what was read of a file are those of the file just
where no more than its last newline is missing (`parsedLines_eq_fileLines`).
-/

namespace AAAos

open LineText

/-! ## Files as texts -/

/-- What is saved of some lines. -/
def renderLines : List (List UInt8) → List UInt8
  | [] => []
  | [l] => if l = [] then [] else l ++ [lineFeed]
  | l :: m :: rest => l ++ lineFeed :: renderLines (m :: rest)

/-- The pieces of a file between its newlines; nothing behind the last newline is no piece. -/
def pieces : List UInt8 → List UInt8 → List (List UInt8)
  | [], current => if current = [] then [] else [current]
  | c :: rest, current => if c = lineFeed then current :: pieces rest [] else pieces rest (current ++ [c])

/-- The lines of a file, without the CRs before its newlines. -/
def fileLines : List UInt8 → List UInt8 → List (List UInt8)
  | [], current => if current = [] then [] else [current]
  | c :: rest, current =>
    if c = lineFeed then dropCarriageReturn current :: fileLines rest [] else fileLines rest (current ++ [c])

/-- The lines that `editor_open` makes of a buffer. -/
def parsedLines (buffer : List UInt8) : List (List UInt8) := (pieces buffer []).map dropCarriageReturn

/-- Some lines without a last one that is empty. -/
def trimmed (ls : List (List UInt8)) : List (List UInt8) := if ls.getLast? = some [] then ls.dropLast else ls

section Texts

variable {l m current : List UInt8} {ls : List (List UInt8)}

lemma renderLines_cons (l : List UInt8) (rest : List (List UInt8)) :
    renderLines (l :: rest) = l ++ (if rest ≠ [] ∨ 0 < l.length then [lineFeed] else []) ++ renderLines rest := by
  cases rest with
  | nil =>
    by_cases hl : l = []
    · subst hl
      rfl
    · have hpos := List.length_pos_of_ne_nil hl
      rw [if_pos (Or.inr hpos)]
      exact (if_neg hl).trans (List.append_nil _).symm
  | cons m rest =>
    rw [renderLines, if_pos (Or.inl (List.cons_ne_nil m rest)), List.append_assoc]
    rfl

lemma pieces_line (hl : lineFeed ∉ l) (rest current : List UInt8) :
    pieces (l ++ lineFeed :: rest) current = (current ++ l) :: pieces rest [] := by
  induction l generalizing current with
  | nil => rw [List.nil_append, pieces, if_pos rfl, List.append_nil]
  | cons c l ih =>
    have hc : c ≠ lineFeed := fun h => hl (h ▸ List.mem_cons_self)
    rw [List.cons_append, pieces, if_neg hc, ih (fun h => hl (List.mem_cons_of_mem c h)), List.append_assoc]
    rfl

lemma trimmed_cons_cons (l m : List UInt8) (ls : List (List UInt8)) :
    trimmed (l :: m :: ls) = l :: trimmed (m :: ls) := by
  unfold trimmed
  rw [List.getLast?_cons_cons, List.dropLast_cons_cons]
  split_ifs
  · rfl
  · rfl

/-- **What was saved is cut into the lines again.** -/
lemma pieces_renderLines (h : ∀ l ∈ ls, lineFeed ∉ l) : pieces (renderLines ls) [] = trimmed ls := by
  induction ls with
  | nil => rfl
  | cons l ls ih =>
    have hl := h l List.mem_cons_self
    cases ls with
    | nil =>
      by_cases hnil : l = []
      · subst hnil
        rfl
      · change pieces (ite (l = []) _ _) [] = _
        rw [if_neg hnil, pieces_line hl, List.nil_append, trimmed, List.getLast?_singleton,
          if_neg fun hsome => hnil (Option.some.inj hsome)]
        rfl
    | cons m ls =>
      change pieces (l ++ lineFeed :: renderLines (m :: ls)) [] = _
      rw [pieces_line hl, List.nil_append, ih fun x hx => h x (List.mem_cons_of_mem l hx),
        trimmed_cons_cons]

lemma trimmed_cases (ls : List (List UInt8)) : trimmed ls = ls ∧ ls.getLast? ≠ some [] ∨ trimmed ls ++ [[]] = ls := by
  unfold trimmed
  split_ifs with hlast
  · obtain ⟨front, rfl⟩ := List.getLast?_eq_some_iff.mp hlast
    exact Or.inr (by rw [List.dropLast_concat])
  · exact Or.inl ⟨rfl, hlast⟩

lemma trimmed_concat (ls : List (List UInt8)) : trimmed (ls ++ [[]]) = ls := by
  unfold trimmed
  rw [if_pos List.getLast?_concat, List.dropLast_concat]

lemma length_trimmed_le (ls : List (List UInt8)) : (trimmed ls).length ≤ ls.length := by
  unfold trimmed
  split_ifs
  · rw [List.length_dropLast]
    omega
  · exact Nat.le_refl _

lemma renderLines_concat (ls : List (List UInt8)) :
    renderLines (ls ++ [[]]) = renderLines ls ↔ ls.getLast? ≠ some [] := by
  induction ls with
  | nil => exact iff_of_true rfl (by simp)
  | cons l ls ih =>
    cases ls with
    | nil =>
      by_cases hnil : l = []
      · subst hnil
        exact iff_of_false (by decide) (by simp)
      · refine iff_of_true ?_ fun hsome => hnil (by simpa using hsome)
        exact (if_neg hnil).symm
    | cons m ls =>
      rw [List.cons_append, List.cons_append, renderLines, renderLines, List.append_right_inj, List.cons.injEq,
        List.getLast?_cons_cons]
      exact (and_iff_right rfl).trans ih

lemma mem_renderLines {c : UInt8} (h : c ∈ renderLines ls) : c = lineFeed ∨ ∃ l ∈ ls, c ∈ l := by
  induction ls with
  | nil => exact absurd h List.not_mem_nil
  | cons l ls ih =>
    rw [renderLines_cons, List.mem_append, List.mem_append] at h
    rcases h with (hl | hfeed) | hrest
    · exact Or.inr ⟨l, List.mem_cons_self, hl⟩
    · split_ifs at hfeed
      · exact Or.inl (List.mem_singleton.mp hfeed)
      · exact absurd hfeed List.not_mem_nil
    · exact (ih hrest).imp id fun ⟨m, hm, hc⟩ => ⟨m, List.mem_cons_of_mem l hm, hc⟩

lemma dropCarriageReturn_eq (h : carriageReturn ∉ l) : dropCarriageReturn l = l :=
  if_neg fun hlast => h (List.mem_of_getLast? hlast)

lemma parsedLines_renderLines (h : ∀ l ∈ ls, 0 ∉ l ∧ carriageReturn ∉ l ∧ lineFeed ∉ l) :
    parsedLines (renderLines ls) = trimmed ls := by
  have htrim : ∀ l ∈ trimmed ls, l ∈ ls := by
    unfold trimmed
    split_ifs
    · exact fun l hl => List.mem_of_mem_dropLast hl
    · exact fun l hl => hl
  rw [parsedLines, pieces_renderLines fun l hl => (h l hl).2.2]
  refine (List.map_congr_left fun l hl => ?_).trans (List.map_id _)
  exact dropCarriageReturn_eq (h l (htrim l hl)).2.1

end Texts

/-! ## All of a file -/

/-- What was seen of a file, and what was not: nothing, or the newline at the end; and no CR was taken from the end. -/
def SeenWhole (seen rest : List UInt8) : Prop :=
  rest = [] ∧ seen.getLast? ≠ some carriageReturn ∨ rest = [lineFeed] ∧ (∃ c, seen.getLast? = some c ∧ c ≠ lineFeed) ∨
      rest = [carriageReturn, lineFeed] ∧ ∃ c, seen.getLast? = some c ∧ c ≠ lineFeed ∧ c ≠ carriageReturn

section Seen

variable {l m current : List UInt8} {ls : List (List UInt8)}

lemma fileLines_cons (c : UInt8) (rest current : List UInt8) : fileLines (c :: rest) current =
    if c = lineFeed then dropCarriageReturn current :: fileLines rest [] else fileLines rest (current ++ [c]) := rfl

lemma fileLines_line (hl : lineFeed ∉ l) (rest current : List UInt8) :
    fileLines (l ++ lineFeed :: rest) current = dropCarriageReturn (current ++ l) :: fileLines rest [] := by
  induction l generalizing current with
  | nil => rw [List.nil_append, fileLines_cons, if_pos rfl, List.append_nil]
  | cons c l ih =>
    have hc : c ≠ lineFeed := fun h => hl (h ▸ List.mem_cons_self)
    rw [List.cons_append, fileLines_cons, if_neg hc, ih (fun h => hl (List.mem_cons_of_mem c h)), List.append_assoc]
    rfl

lemma fileLines_behind (hl : lineFeed ∉ l) (rest current : List UInt8) :
    fileLines (l ++ rest) current = fileLines rest (current ++ l) := by
  induction l generalizing current with
  | nil => rw [List.nil_append, List.append_nil]
  | cons c l ih =>
    have hc : c ≠ lineFeed := fun h => hl (h ▸ List.mem_cons_self)
    rw [List.cons_append, fileLines_cons, if_neg hc, ih (fun h => hl (List.mem_cons_of_mem c h)), List.append_assoc]
    rfl

lemma fileLines_last (hl : lineFeed ∉ l) (current : List UInt8) :
    fileLines l current = if current ++ l = [] then [] else [current ++ l] := by
  have hbehind := fileLines_behind hl [] current
  rw [List.append_nil] at hbehind
  exact hbehind

lemma fileLines_ended (h : ∀ l ∈ ls, lineFeed ∉ l) (rest : List UInt8) :
    fileLines (endedWith lineFeed ls ++ rest) [] = ls.map dropCarriageReturn ++ fileLines rest [] := by
  induction ls with
  | nil => rfl
  | cons l ls ih =>
    rw [endedWith_cons, List.append_assoc, List.cons_append, fileLines_line (h l List.mem_cons_self),
      ih fun m hm => h m (List.mem_cons_of_mem l hm)]
    rfl

lemma pieces_ended (h : ∀ l ∈ ls, lineFeed ∉ l) (rest : List UInt8) :
    pieces (endedWith lineFeed ls ++ rest) [] = ls ++ pieces rest [] := by
  induction ls with
  | nil => rfl
  | cons l ls ih =>
    rw [endedWith_cons, List.append_assoc, List.cons_append, pieces_line (h l List.mem_cons_self),
      ih fun m hm => h m (List.mem_cons_of_mem l hm)]
    rfl

lemma pieces_last (hl : lineFeed ∉ l) (current : List UInt8) :
    pieces l current = if current ++ l = [] then [] else [current ++ l] := by
  induction l generalizing current with
  | nil => rw [List.append_nil, pieces]
  | cons c l ih =>
    have hc : c ≠ lineFeed := fun h => hl (h ▸ List.mem_cons_self)
    rw [pieces, if_neg hc, ih (fun h => hl (List.mem_cons_of_mem c h)), List.append_assoc]
    rfl

lemma fileLines_eq_nil {text : List UInt8} : fileLines text current = [] ↔ text = [] ∧ current = [] := by
  induction text generalizing current with
  | nil =>
    change (if _ then _ else _) = _ ↔ _
    split_ifs with hnil
    · exact iff_of_true rfl ⟨rfl, hnil⟩
    · exact iff_of_false id fun h => hnil h.2
  | cons c rest ih =>
    refine iff_of_false (fun h => ?_) fun h => List.cons_ne_nil c rest h.1
    rw [fileLines_cons] at h
    split_ifs at h
    exact List.concat_ne_nil c current (ih.mp h).2

lemma length_dropCarriageReturn_le (l : List UInt8) : (dropCarriageReturn l).length ≤ l.length := by
  unfold dropCarriageReturn
  split_ifs
  · rw [List.length_dropLast]
    omega
  · exact Nat.le_refl _

lemma dropCarriageReturn_concat (l : List UInt8) (c : UInt8) :
    dropCarriageReturn (l ++ [c]) = if c = carriageReturn then l else l ++ [c] := by
  rw [dropCarriageReturn, List.getLast?_concat, List.dropLast_concat]
  exact if_congr (Option.some_inj) rfl rfl

lemma dropCarriageReturn_eq_self : dropCarriageReturn l = l ↔ l.getLast? ≠ some carriageReturn := by
  rcases List.eq_nil_or_concat' l with rfl | ⟨front, c, rfl⟩
  · exact iff_of_true rfl (by simp)
  · rw [dropCarriageReturn_concat, List.getLast?_concat, ne_eq, Option.some.injEq]
    split_ifs with hc
    · exact iff_of_false (fun h => by simpa using congrArg List.length h) (not_not.mpr hc)
    · exact iff_of_true rfl hc

lemma dropCarriageReturn_append (l m : List UInt8) : dropCarriageReturn (l ++ m) = dropCarriageReturn l ↔
    m = [] ∨ m = [carriageReturn] ∧ l.getLast? ≠ some carriageReturn := by
  rcases List.eq_nil_or_concat' m with rfl | ⟨front, c, rfl⟩
  · exact iff_of_true (by rw [List.append_nil]) (Or.inl rfl)
  · have hle := length_dropCarriageReturn_le l
    rw [← List.append_assoc, dropCarriageReturn_concat, or_iff_right (List.concat_ne_nil _ _),
      ← dropCarriageReturn_eq_self]
    split_ifs with hc
    · subst hc
      constructor
      · intro h
        have hlen := congrArg List.length h
        rw [List.length_append] at hlen
        obtain rfl : front = [] := List.length_eq_zero_iff.mp (by omega)
        rw [List.append_nil] at h
        exact ⟨rfl, h.symm⟩
      · rintro ⟨hone, hsame⟩
        have hfront : front = [] := by simpa using hone
        rw [hfront, List.append_nil, hsame]
    · refine iff_of_false (fun h => ?_) fun h => hc ?_
      · have hlen := congrArg List.length h
        simp only [List.length_append, List.length_singleton] at hlen
        omega
      · simpa using congrArg List.getLast? h.1

lemma fileLines_eq_dropped {last rest : List UInt8} (hlast : last ≠ []) :
    fileLines rest last = [dropCarriageReturn last] ↔ rest = [] ∧ last.getLast? ≠ some carriageReturn ∨
      rest = [lineFeed] ∨ rest = [carriageReturn, lineFeed] ∧ last.getLast? ≠ some carriageReturn := by
  obtain ⟨front, tail, rfl, hfront, htail⟩ := exists_ended lineFeed rest
  cases front with
  | nil =>
    have hne : last ++ tail ≠ [] := fun h => hlast (List.append_eq_nil_iff.mp h).1
    have hnofeed : tail ≠ [lineFeed] ∧ tail ≠ [carriageReturn, lineFeed] :=
      ⟨fun h => htail (by simp [h]), fun h => htail (by simp [h])⟩
    rw [endedWith_nil, List.nil_append, fileLines_last htail, if_neg hne, List.cons.injEq, and_iff_left rfl, or_iff_left (by tauto),
      ← dropCarriageReturn_eq_self]
    constructor
    · intro h
      have hle := length_dropCarriageReturn_le last
      have hlen := congrArg List.length h
      rw [List.length_append] at hlen
      obtain rfl : tail = [] := List.length_eq_zero_iff.mp (by omega)
      rw [List.append_nil] at h
      exact ⟨rfl, h.symm⟩
    · rintro ⟨rfl, hsame⟩
      rw [List.append_nil, hsame]
  | cons first front =>
    have hfirst := hfront first List.mem_cons_self
    rw [endedWith_cons, List.append_assoc, List.cons_append, fileLines_line hfirst, List.cons.injEq,
      dropCarriageReturn_append, fileLines_eq_nil, and_iff_left rfl]
    generalize endedWith lineFeed front ++ tail = behind
    have hne : first ++ lineFeed :: behind ≠ [] := List.append_ne_nil_of_right_ne_nil _ (List.cons_ne_nil _ _)
    have hsplit : ∀ m, lineFeed ∉ m → (first ++ lineFeed :: behind = m ++ [lineFeed] ↔ first = m ∧ behind = []) := by
      intro m hm
      rw [eq_comm, List.append_cons_inj_of_notMem hm List.not_mem_nil, and_iff_right rfl]
      exact and_congr eq_comm eq_comm
    have hone := hsplit [] List.not_mem_nil
    have htwo := hsplit [carriageReturn] (by decide)
    rw [List.nil_append] at hone
    rw [List.singleton_append] at htwo
    rw [hone, htwo]
    tauto

/-- **All lines were seen** just where the whole file was, or all but its last newline. -/
lemma parsedLines_eq_fileLines {seen rest : List UInt8} :
    parsedLines seen = fileLines (seen ++ rest) [] ↔ SeenWhole seen rest := by
  obtain ⟨front, last, rfl, hfront, hlast⟩ := exists_ended lineFeed seen
  rw [parsedLines, pieces_ended hfront, pieces_last hlast, List.nil_append, List.map_append, List.append_assoc,
    fileLines_ended hfront, List.append_right_inj, fileLines_behind hlast, List.nil_append]
  by_cases hnil : last = []
  · subst hnil
    have hend : (endedWith lineFeed front ++ []).getLast? = none ∨
        (endedWith lineFeed front ++ []).getLast? = some lineFeed := by
      rcases List.eq_nil_or_concat' front with rfl | ⟨front, line, rfl⟩
      · exact Or.inl rfl
      · exact Or.inr (by simp)
    rw [if_pos rfl, List.map_nil, eq_comm, fileLines_eq_nil, and_iff_left rfl]
    unfold SeenWhole
    rcases hend with hend | hend
    · rw [hend]
      simp
    · rw [hend]
      simp [show lineFeed ≠ carriageReturn by decide]
  · obtain ⟨line, c, rfl⟩ := (List.eq_nil_or_concat' last).resolve_left hnil
    have hc : c ≠ lineFeed := fun h => hlast (by simp [h])
    rw [if_neg hnil, List.map_singleton, eq_comm, fileLines_eq_dropped hnil]
    unfold SeenWhole
    rw [← List.append_assoc, List.getLast?_concat, List.getLast?_concat]
    simp [hc]

lemma length_parsedLines_le (seen rest : List UInt8) :
    (parsedLines seen).length ≤ (fileLines (seen ++ rest) []).length := by
  obtain ⟨front, last, rfl, hfront, hlast⟩ := exists_ended lineFeed seen
  rw [parsedLines, pieces_ended hfront, pieces_last hlast, List.nil_append, List.map_append, List.append_assoc,
    fileLines_ended hfront, fileLines_behind hlast, List.nil_append, List.length_append, List.length_append]
  refine Nat.add_le_add_left ?_ _
  split_ifs with hnil
  · exact Nat.zero_le _
  · exact List.length_pos_of_ne_nil fun h => hnil (fileLines_eq_nil.mp h).2

lemma not_mem_dropCarriageReturn {c : UInt8} (h : c ∉ l) : c ∉ dropCarriageReturn l := by
  unfold dropCarriageReturn
  split_ifs
  · exact fun hmem => h (List.mem_of_mem_dropLast hmem)
  · exact h

lemma not_mem_fileLines (text : List UInt8) : ∀ l ∈ fileLines text [], lineFeed ∉ l := by
  obtain ⟨front, last, rfl, hfront, hlast⟩ := exists_ended lineFeed text
  rw [fileLines_ended hfront, fileLines_last hlast, List.nil_append]
  intro l hl
  rcases List.mem_append.mp hl with hl | hl
  · obtain ⟨m, hm, rfl⟩ := List.mem_map.mp hl
    exact not_mem_dropCarriageReturn (hfront m hm)
  · split_ifs at hl
    · exact absurd hl List.not_mem_nil
    · exact List.mem_singleton.mp hl ▸ hlast

lemma not_mem_parsedLines (text : List UInt8) : ∀ l ∈ parsedLines text, lineFeed ∉ l := by
  obtain ⟨front, last, rfl, hfront, hlast⟩ := exists_ended lineFeed text
  rw [parsedLines, pieces_ended hfront, pieces_last hlast, List.nil_append]
  intro l hl
  obtain ⟨m, hm, rfl⟩ := List.mem_map.mp hl
  refine not_mem_dropCarriageReturn ?_
  rcases List.mem_append.mp hm with hm | hm
  · exact hfront m hm
  · split_ifs at hm
    · exact absurd hm List.not_mem_nil
    · exact List.mem_singleton.mp hm ▸ hlast

end Seen

/-! ## Nothing to see -/

/-- A file that shows as nothing. -/
def Blank (file : List UInt8) : Prop := file = [] ∨ file = [lineFeed] ∨ file = [carriageReturn, lineFeed]

lemma blank_iff (file : List UInt8) : [lineFeed].intercalate (fileLines file []) = [] ↔ Blank file := by
  constructor
  · intro h
    rcases intercalate_nil_iff.mp h with hnone | hone
    · exact Or.inl (fileLines_eq_nil.mp hnone).1
    · obtain ⟨front, last, rfl, hfront, hlast⟩ := exists_ended lineFeed file
      cases front with
      | nil =>
        rw [endedWith_nil, List.nil_append, fileLines_last hlast, List.nil_append] at hone
        split_ifs at hone with hnil
        exact absurd (List.cons.inj hone).1 hnil
      | cons first front =>
        rw [endedWith_cons, List.append_assoc, List.cons_append, fileLines_line (hfront first List.mem_cons_self),
          List.cons.injEq, fileLines_eq_nil, List.nil_append] at hone
        rw [endedWith_cons, List.append_assoc, List.cons_append, hone.2.1]
        have hdrop := (dropCarriageReturn_append [] first).mp hone.1
        rcases hdrop with rfl | ⟨rfl, -⟩
        · exact Or.inr (Or.inl rfl)
        · exact Or.inr (Or.inr rfl)
  · rintro (rfl | rfl | rfl)
    · rfl
    · rfl
    · rfl

lemma Blank.seen {seen rest : List UInt8} (h : Blank (seen ++ rest)) :
    parsedLines seen = [] ∨ parsedLines seen = [[]] := by
  rcases h with hnone | hone | htwo
  · rw [(List.append_eq_nil_iff.mp hnone).1]
    exact Or.inl rfl
  · rcases List.append_eq_singleton_iff.mp hone with ⟨rfl, -⟩ | ⟨rfl, -⟩
    · exact Or.inl rfl
    · exact Or.inr rfl
  · rcases List.append_eq_cons_iff.mp htwo with ⟨rfl, -⟩ | ⟨front, rfl, hfront⟩
    · exact Or.inl rfl
    · rcases List.append_eq_singleton_iff.mp hfront.symm with ⟨rfl, -⟩ | ⟨rfl, -⟩
      · exact Or.inr rfl
      · exact Or.inr rfl

end AAAos
