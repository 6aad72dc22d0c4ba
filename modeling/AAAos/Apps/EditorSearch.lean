import AAAos.Apps.Editor
import AAAos.Lib.FirstHit

/-!
# Searching in the editor

`editor_find_next` and `editor_find_prev` of `apps/text_editor/editor.c`, with their results and with the characters
that they compare.

**What goes wrong.**  Both go through the lines once, and leave the cursor's line after the part on one side of the
cursor.  They never come back to the part on the other side: where the query is only there, it is not found.  And
`editor_find_prev` starts next to the cursor, also where the query would not fit into the rest of the line, and
compares with the NUL at the end of the line.

**What is proved.**  For every document, cursor and query, exactly when both searches are cyclic, complete, and stay
inside of the lines (`searchesRight_iff`).
-/

namespace AAAos

open Editor (matchesAt)

/-! ## The two searches -/

/-- The innermost loop: how many characters are compared, until one differs.  The NUL differs from all. -/
def comparisons : List UInt8 → List UInt8 → Nat
  | [], _ => 0
  | _ :: _, [] => 1
  | q :: qs, d :: ds => if d = q then comparisons qs ds + 1 else 1

/-- The comparison at a column looks at characters of the line only. -/
def comparesInside (query : CString) (line : EditorLine) (j : Nat) : Bool :=
  decide (j + comparisons query.1 (line.data.drop j) ≤ line.length)

/-- The result of a search, whether it has compared characters of the lines only, and the editor after it. -/
structure Search where
  found : Bool
  inside : Bool
  editor : Editor

namespace Editor

/-- The loop over the lines: the `i`-th line is `lineIdx i`, and `columns i` are the columns looked at in it. -/
def searchFor (s : Editor) (query : CString) (lineIdx : Nat → Int) (columns : Nat → EditorLine → List Nat) :
    List Nat → Option Search
  | [] => some ⟨false, true, s⟩
  | i :: rest => do
    let line ← s.lineAt (lineIdx i)
    match firstHit (matchesAt query line) (comparesInside query line) (columns i line) with
    | (inside, some j) => some ⟨true, inside, s.setCursor j (lineIdx i)⟩
    | (inside, none) =>
      let r ← s.searchFor query lineIdx columns rest
      some { r with inside := inside && r.inside }

/-- The loop over the columns in `editor_find_next`. -/
def nextColumns (s : Editor) (query : CString) (i : Nat) (line : EditorLine) : List Nat :=
  let searchStart := if i = 0 then s.cursorX + 1 else 0
  (List.range (line.length + 1 - query.1.length)).filter fun j => decide (searchStart ≤ j)

/-- The loop over the columns in `editor_find_prev`. -/
def prevColumns (s : Editor) (query : CString) (i : Nat) (line : EditorLine) : List Nat :=
  let searchEnd : Int := if i = 0 then s.cursorX - 1 else line.length - query.1.length
  (List.range (searchEnd + 1).toNat).reverse

/-- `editor_find_next`. -/
def findNext (s : Editor) (query : CString) : Option Search :=
  if query.1 = [] then some ⟨false, true, s⟩
  else
    s.searchFor query (fun i => (s.cursorY + i).tmod s.numLines) (s.nextColumns query) (List.range s.numLines)

/-- `editor_find_prev`. -/
def findPrev (s : Editor) (query : CString) : Option Search :=
  if query.1 = [] then some ⟨false, true, s⟩
  else
    s.searchFor query (fun i => (s.cursorY - i + s.numLines).tmod s.numLines) (s.prevColumns query)
      (List.range s.numLines)

/-- The editor holds a document, and the cursor is in it. -/
structure At (s : Editor) (ls : List EditorLine) (c : Nat × Nat) : Prop where
  lines : s.lines = ls.map some
  row : s.cursorY = c.1
  column : s.cursorX = c.2
  row_lt : c.1 < ls.length
  column_le : ∀ line, ls[c.1]? = some line → c.2 ≤ line.length

variable {s : Editor} {ls : List EditorLine} {c p q : Nat × Nat} {query : CString}

lemma At.lineAt (h : s.At ls c) (y : Nat) : s.lineAt y = ls[y]? := by
  rw [Editor.lineAt, slot, if_neg (by omega), Int.toNat_natCast, h.lines, List.getElem?_map]
  cases ls[y]? with
  | none => rfl
  | some line => rfl

lemma At.slot (h : s.At ls c) (y : Nat) : s.slot y = (ls[y]?).map some := by
  rw [Editor.slot, if_neg (by omega), Int.toNat_natCast, h.lines, List.getElem?_map]

lemma At.numLines (h : s.At ls c) : s.numLines = ls.length := by rw [Editor.numLines, h.lines, List.length_map]

end Editor

/-! ## Occurrences and their order -/

/-- The query stands at a place: line and column. -/
def Occurs (ls : List EditorLine) (query : CString) (p : Nat × Nat) : Prop :=
  ∃ line, ls[p.1]? = some line ∧ query.1 <+: line.data.drop p.2

/-- Document order. -/
def Before (p q : Nat × Nat) : Prop := p.1 < q.1 ∨ p.1 = q.1 ∧ p.2 < q.2

/-- Going on from `a` through the document, and from its end to its start, `b` comes before `c`. -/
def Cyclic (a b c : Nat × Nat) : Prop :=
  Before a b ∧ Before b c ∨ Before b c ∧ Before c a ∨ Before c a ∧ Before a b

/-- The search has found something exactly where the query occurs elsewhere than at the cursor, then the first of
the occurrences in the order `ahead`, and it has compared characters of the lines only. -/
structure SearchRight (s : Editor) (ls : List EditorLine) (query : CString) (c : Nat × Nat)
    (ahead : Nat × Nat → Nat × Nat → Prop) (r : Search) : Prop where
  inside : r.inside = true
  found : r.found = true ↔ ∃ p, Occurs ls query p ∧ p ≠ c
  first : r.found = true → ∃ p, Occurs ls query p ∧ p ≠ c ∧ r.editor = s.setCursor p.2 p.1 ∧
    ∀ q, Occurs ls query q → q ≠ c → q ≠ p → ahead p q
  kept : r.found = false → r.editor = s

/-- Both searches are right: the one goes on from the cursor, the other back. -/
def SearchesRight (s : Editor) (ls : List EditorLine) (query : CString) (c : Nat × Nat) : Prop :=
  (∃ r, s.findNext query = some r ∧ SearchRight s ls query c (Cyclic c) r) ∧
    ∃ r, s.findPrev query = some r ∧ SearchRight s ls query c (fun p q => Cyclic c q p) r

/-- The query occurs in the cursor's line before the cursor, and nowhere else but there and at the cursor. -/
def OnlyBehind (ls : List EditorLine) (query : CString) (c : Nat × Nat) : Prop :=
  (∃ p, Occurs ls query p ∧ p.1 = c.1 ∧ p.2 < c.2) ∧ ∀ p, Occurs ls query p → p ≠ c → p.1 = c.1 ∧ p.2 < c.2

/-- The query occurs in the cursor's line after the cursor, and nowhere else but there and at the cursor. -/
def OnlyAhead (ls : List EditorLine) (query : CString) (c : Nat × Nat) : Prop :=
  (∃ p, Occurs ls query p ∧ p.1 = c.1 ∧ c.2 < p.2) ∧ ∀ p, Occurs ls query p → p ≠ c → p.1 = c.1 ∧ c.2 < p.2

/-- From some column before the cursor to its end, the cursor's line is the beginning of the query, without its
end. -/
def ReachesEnd (ls : List EditorLine) (query : CString) (c : Nat × Nat) : Prop :=
  ∃ line, ls[c.1]? = some line ∧ ∃ j < c.2, line.data.drop j <+: query.1 ∧ line.length - j < query.1.length

/-! ## Comparing -/

variable {s : Editor} {ls : List EditorLine} {c p q : Nat × Nat} {query : CString}

lemma comparisons_le (q d : List UInt8) : comparisons q d ≤ q.length := by
  induction q generalizing d with
  | nil => exact Nat.zero_le _
  | cons a q ih =>
    cases d with
    | nil => exact Nat.succ_pos _
    | cons b d =>
      rw [comparisons, List.length_cons]
      split_ifs
      · exact Nat.succ_le_succ (ih d)
      · exact Nat.succ_pos _

lemma lt_comparisons_iff (q d : List UInt8) : d.length < comparisons q d ↔ d <+: q ∧ d.length < q.length := by
  induction q generalizing d with
  | nil => exact iff_of_false (Nat.not_lt_zero _) fun h => Nat.not_lt_zero _ h.2
  | cons a q ih =>
    cases d with
    | nil => exact iff_of_true Nat.one_pos ⟨List.nil_prefix, Nat.succ_pos _⟩
    | cons b d =>
      rw [comparisons, List.length_cons, List.length_cons, List.cons_prefix_cons, Nat.succ_lt_succ_iff]
      split_ifs with hb
      · rw [Nat.succ_lt_succ_iff, ih d]
        exact ⟨fun h => ⟨⟨hb, h.1⟩, h.2⟩, fun h => ⟨h.1.2, h.2⟩⟩
      · exact iff_of_false (by omega) fun h => hb h.1.1

lemma matchesAt_iff (line : EditorLine) (j : Nat) : matchesAt query line j = true ↔ query.1 <+: line.data.drop j :=
  List.isPrefixOf_iff_prefix

lemma comparesInside_of_fits {line : EditorLine} {j : Nat} (h : j + query.1.length ≤ line.length) :
    comparesInside query line j = true :=
  decide_eq_true ((Nat.add_le_add_left (comparisons_le _ _) j).trans h)

lemma comparesInside_iff {line : EditorLine} {j : Nat} (hj : j ≤ line.length) :
    comparesInside query line j = false ↔ line.data.drop j <+: query.1 ∧ line.length - j < query.1.length := by
  have hlen : (line.data.drop j).length = line.length - j := List.length_drop
  have hcompare := lt_comparisons_iff query.1 (line.data.drop j)
  rw [hlen] at hcompare
  rw [← hcompare, comparesInside, decide_eq_false_iff_not]
  omega

lemma fits_of_prefix {line : EditorLine} {j : Nat} (hq : query.1 ≠ []) (h : query.1 <+: line.data.drop j) :
    j + query.1.length ≤ line.length := by
  have hle := h.length_le
  have hpos := List.length_pos_of_ne_nil hq
  rw [List.length_drop] at hle
  unfold EditorLine.length
  omega

/-! ## A search as a list of places -/

section Places

variable {lineIdx : Nat → Int} {lineNo : Nat → Nat} {columns : Nat → EditorLine → List Nat} {is : List Nat}
  {ahead : Nat × Nat → Nat × Nat → Prop}

/-- The query is found at a place. -/
def hitAt (ls : List EditorLine) (query : CString) (p : Nat × Nat) : Bool := ls[p.1]?.any (matchesAt query · p.2)

/-- The comparison at a place stays inside of its line. -/
def insideAt (ls : List EditorLine) (query : CString) (p : Nat × Nat) : Bool :=
  ls[p.1]?.all (comparesInside query · p.2)

/-- The places that a search looks at, one after the other. -/
def places (ls : List EditorLine) (lineNo : Nat → Nat) (columns : Nat → EditorLine → List Nat) (is : List Nat) :
    List (Nat × Nat) :=
  is.flatMap fun i => ls[lineNo i]?.toList.flatMap fun line => (columns i line).map fun j => (lineNo i, j)

lemma hitAt_iff : hitAt ls query p = true ↔ Occurs ls query p := by
  unfold hitAt Occurs
  cases ls[p.1]? with
  | none => simp
  | some line => simp [matchesAt_iff]

lemma mem_places : p ∈ places ls lineNo columns is ↔
    ∃ i ∈ is, p.1 = lineNo i ∧ ∃ line, ls[p.1]? = some line ∧ p.2 ∈ columns i line := by
  simp only [places, List.mem_flatMap, List.mem_map, Option.mem_toList]
  constructor
  · rintro ⟨i, hi, line, hline, j, hj, rfl⟩
    exact ⟨i, hi, rfl, line, hline, hj⟩
  · rintro ⟨i, hi, hrow, line, hline, hj⟩
    exact ⟨i, hi, line, hrow ▸ hline, p.2, hj, by rw [← hrow]⟩

/-- The result of a search that has found a place, or none. -/
def searchResult (s : Editor) (r : Bool × Option (Nat × Nat)) : Search :=
  match r with
  | (inside, some p) => ⟨true, inside, s.setCursor p.2 p.1⟩
  | (inside, none) => ⟨false, inside, s⟩

/-- **The loops** look at the places in order. -/
lemma searchFor_eq (hs : s.At ls c) (hidx : ∀ i ∈ is, lineIdx i = lineNo i ∧ lineNo i < ls.length) :
    s.searchFor query lineIdx columns is =
      some (searchResult s (firstHit (hitAt ls query) (insideAt ls query) (places ls lineNo columns is))) := by
  induction is with
  | nil => rfl
  | cons i is ih =>
    obtain ⟨hi, hlt⟩ := hidx i List.mem_cons_self
    obtain ⟨line, hline⟩ : ∃ line, ls[lineNo i]? = some line := ⟨_, List.getElem?_eq_getElem hlt⟩
    have hrest := ih fun k hk => hidx k (List.mem_cons_of_mem i hk)
    have hplaces : places ls lineNo columns (i :: is) =
        (columns i line).map (fun j => (lineNo i, j)) ++ places ls lineNo columns is := by
      simp [places, hline]
    have hmap := @firstHit_map _ _ (hitAt ls query) (insideAt ls query)
      (matchesAt query line) (comparesInside query line) (fun j => (lineNo i, j)) (columns i line)
      (fun j _ => by simp [hitAt, hline]) (fun j _ => by simp [insideAt, hline])
    rw [hplaces, firstHit_append, hmap, Editor.searchFor, hi, hs.lineAt, hline, Option.bind_eq_bind, Option.bind_some]
    rcases firstHit (matchesAt query line) (comparesInside query line) (columns i line) with ⟨inside, _ | j⟩
    · dsimp only
      rw [hrest]
      rcases firstHit (hitAt ls query) (insideAt ls query) (places ls lineNo columns is) with ⟨inside', _ | p⟩
      · rfl
      · rfl
    · rfl

/-- **When a search is right**: the places are in the right order, and the occurrences it does not look at, those
that are `missed`, come last. -/
lemma searchRight_iff {missed : Nat × Nat → Prop} (horder : (places ls lineNo columns is).Pairwise ahead)
    (hall : ∀ q, Occurs ls query q → q ≠ c → q ∈ places ls lineNo columns is ∨ missed q)
    (hnot : ∀ p ∈ places ls lineNo columns is, p ≠ c ∧ ¬ missed p) (hmissed : ∀ q, missed q → q ≠ c)
    (hlast : ∀ p ∈ places ls lineNo columns is, ∀ q, missed q → ahead p q) :
    SearchRight s ls query c ahead
        (searchResult s (firstHit (hitAt ls query) (insideAt ls query) (places ls lineNo columns is))) ↔
      ¬ ((∃ q, Occurs ls query q ∧ missed q) ∧ ∀ q, Occurs ls query q → q ≠ c → missed q) ∧
        (firstHit (hitAt ls query) (insideAt ls query) (places ls lineNo columns is)).1 = true := by
  have hfind := @firstHit_snd _ (hitAt ls query) (insideAt ls query) (places ls lineNo columns is)
  generalize firstHit (hitAt ls query) (insideAt ls query) (places ls lineNo columns is) = r at hfind ⊢
  obtain ⟨inside, _ | p⟩ := r
  · -- nothing was found, so that everything is missed
    have hnone : ∀ q, Occurs ls query q → q ≠ c → missed q := fun q hq hne =>
      (hall q hq hne).resolve_left fun hmem => List.find?_eq_none.mp hfind.symm q hmem (hitAt_iff.mpr hq)
    constructor
    · intro h
      refine ⟨?_, h.inside⟩
      rintro ⟨⟨q, hq, hmiss⟩, -⟩
      exact absurd (h.found.mpr ⟨q, hq, hmissed q hmiss⟩) Bool.false_ne_true
    · rintro ⟨hsome, hinside⟩
      refine ⟨hinside, iff_of_false Bool.false_ne_true ?_, fun hf => absurd hf Bool.false_ne_true, fun _ => rfl⟩
      rintro ⟨q, hq, hne⟩
      exact hsome ⟨⟨q, hq, hnone q hq hne⟩, hnone⟩
  · obtain ⟨hmem, hhit, hfirst⟩ := find?_first horder hfind.symm
    have hp := hitAt_iff.mp hhit
    have hne := (hnot p hmem).1
    constructor
    · exact fun h => ⟨fun hbad => (hnot p hmem).2 (hbad.2 p hp hne), h.inside⟩
    · rintro ⟨-, hinside⟩
      refine ⟨hinside, iff_of_true rfl ⟨p, hp, hne⟩, fun _ => ⟨p, hp, hne, rfl, fun q hq hqc hqp => ?_⟩,
        fun hf => absurd hf.symm Bool.false_ne_true⟩
      rcases hall q hq hqc with hin | hmiss
      · exact hfirst q hin (hitAt_iff.mpr hq) hqp
      · exact hlast p hmem q hmiss

/-! ## Going on -/

/-- The lines that `editor_find_next` looks at. -/
def nextLine (n y i : Nat) : Nat := if y + i < n then y + i else y + i - n

lemma nextLine_idx (hs : s.At ls c) {i : Nat} (hi : i < ls.length) :
    (s.cursorY + i).tmod s.numLines = nextLine ls.length c.1 i ∧ nextLine ls.length c.1 i < ls.length := by
  have hrow := hs.row_lt
  have hmod : (c.1 + i) % ls.length = nextLine ls.length c.1 i := by
    unfold nextLine
    split_ifs with hlt
    · exact Nat.mod_eq_of_lt hlt
    · rw [Nat.mod_eq_sub_mod (by omega), Nat.mod_eq_of_lt (by omega)]
  refine ⟨?_, ?_⟩
  · rw [hs.row, hs.numLines, ← hmod]
    rfl
  · unfold nextLine
    split_ifs
    · assumption
    · omega

lemma mem_nextColumns (hs : s.At ls c) {i j : Nat} {line : EditorLine} :
    j ∈ s.nextColumns query i line ↔ j < line.length + 1 - query.1.length ∧ (i = 0 → c.2 < j) := by
  unfold Editor.nextColumns
  rw [List.mem_filter, List.mem_range, decide_eq_true_eq, hs.column]
  split_ifs with hi
  · exact and_congr_right fun _ => ⟨fun h _ => by omega, fun h => by have := h hi; omega⟩
  · exact and_congr_right fun _ => iff_of_true (by omega) fun h => absurd h hi

lemma pairwise_next (hs : s.At ls c) :
    (places ls (nextLine ls.length c.1) (s.nextColumns query) (List.range ls.length)).Pairwise (Cyclic c) := by
  unfold places
  rw [List.pairwise_flatMap]
  constructor
  · -- in one line
    intro i hi
    have hlt := List.mem_range.mp hi
    cases hline : ls[nextLine ls.length c.1 i]? with
    | none => exact List.Pairwise.nil
    | some line =>
      rw [Option.toList_some, List.flatMap_singleton, List.pairwise_map]
      refine List.Pairwise.imp_of_mem (R := (· < ·)) ?_ (List.pairwise_lt_range.filter _)
      intro j k hj hk hjk
      have hj' := (mem_nextColumns hs).mp hj
      unfold Cyclic Before nextLine
      by_cases hzero : i = 0
      · have := hj'.2 hzero
        split_ifs <;> dsimp only <;> omega
      · split_ifs <;> dsimp only <;> omega
  · -- in two lines
    refine List.Pairwise.imp_of_mem (R := (· < ·)) ?_ List.pairwise_lt_range
    intro i k hi hk hik p hp q hq
    have hi' := List.mem_range.mp hi
    have hk' := List.mem_range.mp hk
    simp only [List.mem_flatMap, List.mem_map, Option.mem_toList] at hp hq
    obtain ⟨line, -, j, hj, rfl⟩ := hp
    obtain ⟨line', -, j', -, rfl⟩ := hq
    have hj' := (mem_nextColumns hs).mp hj
    unfold Cyclic Before nextLine
    by_cases hzero : i = 0
    · have := hj'.2 hzero
      split_ifs <;> dsimp only <;> omega
    · split_ifs <;> dsimp only <;> omega

lemma searchRight_next (hs : s.At ls c) (hq : query.1 ≠ []) :
    ∃ r, s.findNext query = some r ∧ (SearchRight s ls query c (Cyclic c) r ↔ ¬ OnlyBehind ls query c) := by
  have hrow := hs.row_lt
  have hsearch := @searchFor_eq _ _ _ query _ _ (s.nextColumns query) (List.range ls.length) hs
    fun i hi => nextLine_idx hs (List.mem_range.mp hi)
  have hmem : ∀ p, p ∈ places ls (nextLine ls.length c.1) (s.nextColumns query) (List.range ls.length) →
      ∃ line, ls[p.1]? = some line ∧ p.2 < line.length + 1 - query.1.length ∧ (p.1 = c.1 → c.2 < p.2) := by
    intro p hp
    obtain ⟨i, hi, hrowp, line, hline, hj⟩ := mem_places.mp hp
    have hi' := List.mem_range.mp hi
    have hj' := (mem_nextColumns hs).mp hj
    refine ⟨line, hline, hj'.1, fun heq => hj'.2 ?_⟩
    unfold nextLine at hrowp
    split_ifs at hrowp
    · omega
    · omega
  have hinside : (firstHit (hitAt ls query) (insideAt ls query)
      (places ls (nextLine ls.length c.1) (s.nextColumns query) (List.range ls.length))).1 = true := by
    refine (firstHit_fst_iff _).mpr fun as p bs heq _ => ?_
    obtain ⟨line, hline, hfits, -⟩ := hmem p (by rw [heq]; simp)
    unfold insideAt
    rw [hline]
    exact comparesInside_of_fits (by omega)
  have hright := @searchRight_iff s _ c query _ _ _ _ (fun q => q.1 = c.1 ∧ q.2 < c.2)
    (@pairwise_next _ _ _ query hs) (fun q hocc hne => ?_) (fun p hp => ?_) (fun q hmiss heq => ?_) fun p hp q hmiss => ?_
  · refine ⟨_, ?_, hright.trans (and_iff_left hinside)⟩
    unfold Editor.findNext
    rw [if_neg hq, hs.numLines]
    rw [hs.numLines] at hsearch
    exact hsearch
  · obtain ⟨line, hline, hpre⟩ := hocc
    have hfits := fits_of_prefix hq hpre
    have hlt : q.1 < ls.length := (List.getElem?_eq_some_iff.mp hline).1
    by_cases hmiss : q.1 = c.1 ∧ q.2 < c.2
    · exact Or.inr hmiss
    · refine Or.inl (mem_places.mpr ⟨if c.1 ≤ q.1 then q.1 - c.1 else q.1 + ls.length - c.1, ?_, ?_, line, hline, ?_⟩)
      · rw [List.mem_range]
        split_ifs <;> omega
      · unfold nextLine
        split_ifs <;> omega
      · refine (mem_nextColumns hs).mpr ⟨by omega, fun hzero => ?_⟩
        have hsame : q.1 = c.1 := by
          split_ifs at hzero <;> omega
        have hcol : q.2 ≠ c.2 := fun heq => hne (Prod.ext hsame heq)
        omega
  · obtain ⟨line, -, -, hafter⟩ := hmem p hp
    refine ⟨fun heq => ?_, fun hmiss => ?_⟩
    · have := hafter (congrArg Prod.fst heq)
      rw [heq] at this
      exact Nat.lt_irrefl _ this
    · have := hafter hmiss.1
      omega
  · rw [heq] at hmiss
    exact Nat.lt_irrefl _ hmiss.2
  · obtain ⟨line, -, -, hafter⟩ := hmem p hp
    unfold Cyclic Before
    by_cases hsame : p.1 = c.1
    · have := hafter hsame
      omega
    · omega

/-! ## Going back -/

/-- The lines that `editor_find_prev` looks at. -/
def prevLine (n y i : Nat) : Nat := if i ≤ y then y - i else y + n - i

lemma prevLine_idx (hs : s.At ls c) {i : Nat} (hi : i < ls.length) :
    (s.cursorY - i + s.numLines).tmod s.numLines = prevLine ls.length c.1 i ∧ prevLine ls.length c.1 i < ls.length := by
  have hrow := hs.row_lt
  have hmod : (c.1 + ls.length - i) % ls.length = prevLine ls.length c.1 i := by
    unfold prevLine
    split_ifs with hle
    · rw [Nat.mod_eq_sub_mod (by omega), Nat.mod_eq_of_lt (by omega)]
      omega
    · exact Nat.mod_eq_of_lt (by omega)
  refine ⟨?_, ?_⟩
  · rw [hs.row, hs.numLines, ← hmod, show ((c.1 : Int) - i + ls.length) = ((c.1 + ls.length - i : Nat) : Int) by omega]
    rfl
  · unfold prevLine
    split_ifs <;> omega

lemma mem_prevColumns (hs : s.At ls c) {i j : Nat} {line : EditorLine} :
    j ∈ s.prevColumns query i line ↔ if i = 0 then j < c.2 else j + query.1.length ≤ line.length := by
  unfold Editor.prevColumns
  dsimp only
  rw [List.mem_reverse, List.mem_range, hs.column]
  split_ifs with hi <;> omega

lemma pairwise_prev (hs : s.At ls c) :
    (places ls (prevLine ls.length c.1) (s.prevColumns query) (List.range ls.length)).Pairwise
      fun p q => Cyclic c q p := by
  unfold places
  rw [List.pairwise_flatMap]
  constructor
  · intro i hi
    have hlt := List.mem_range.mp hi
    cases hline : ls[prevLine ls.length c.1 i]? with
    | none => exact List.Pairwise.nil
    | some line =>
      rw [Option.toList_some, List.flatMap_singleton, List.pairwise_map]
      refine List.Pairwise.imp_of_mem (R := fun j k => k < j) ?_ (List.pairwise_reverse.mpr List.pairwise_lt_range)
      intro j k hj hk hjk
      have hj' := (mem_prevColumns hs).mp hj
      unfold Cyclic Before prevLine
      by_cases hzero : i = 0
      · rw [if_pos hzero] at hj'
        split_ifs <;> dsimp only <;> omega
      · split_ifs <;> dsimp only <;> omega
  · refine List.Pairwise.imp_of_mem (R := (· < ·)) ?_ List.pairwise_lt_range
    intro i k hi hk hik p hp q hq
    have hi' := List.mem_range.mp hi
    have hk' := List.mem_range.mp hk
    simp only [List.mem_flatMap, List.mem_map, Option.mem_toList] at hp hq
    obtain ⟨line, -, j, hj, rfl⟩ := hp
    obtain ⟨line', -, j', -, rfl⟩ := hq
    have hj' := (mem_prevColumns hs).mp hj
    unfold Cyclic Before prevLine
    by_cases hzero : i = 0
    · rw [if_pos hzero] at hj'
      split_ifs <;> dsimp only <;> omega
    · split_ifs <;> dsimp only <;> omega

lemma mem_prevPlaces (hs : s.At ls c)
    (hp : p ∈ places ls (prevLine ls.length c.1) (s.prevColumns query) (List.range ls.length)) :
    ∃ line, ls[p.1]? = some line ∧ if p.1 = c.1 then p.2 < c.2 else p.2 + query.1.length ≤ line.length := by
  obtain ⟨i, hi, hrowp, line, hline, hj⟩ := mem_places.mp hp
  have hi' := List.mem_range.mp hi
  have hj' := (mem_prevColumns hs).mp hj
  refine ⟨line, hline, ?_⟩
  have hfirst : p.1 = c.1 ↔ i = 0 := by
    unfold prevLine at hrowp
    split_ifs at hrowp <;> omega
  rw [if_congr hfirst rfl rfl]
  exact hj'

lemma prevPlaces_of (hs : s.At ls c) {line : EditorLine} (hline : ls[p.1]? = some line)
    (hcol : if p.1 = c.1 then p.2 < c.2 else p.2 + query.1.length ≤ line.length) :
    p ∈ places ls (prevLine ls.length c.1) (s.prevColumns query) (List.range ls.length) := by
  have hrow := hs.row_lt
  have hlt : p.1 < ls.length := (List.getElem?_eq_some_iff.mp hline).1
  refine mem_places.mpr ⟨if p.1 ≤ c.1 then c.1 - p.1 else c.1 + ls.length - p.1, ?_, ?_, line, hline, ?_⟩
  · rw [List.mem_range]
    split_ifs <;> omega
  · unfold prevLine
    split_ifs <;> omega
  · refine (mem_prevColumns hs).mpr ?_
    have hfirst : (if p.1 ≤ c.1 then c.1 - p.1 else c.1 + ls.length - p.1) = 0 ↔ p.1 = c.1 := by
      split_ifs <;> omega
    rw [if_congr hfirst rfl rfl]
    exact hcol

/-- The comparison leaves a line where the rest of the cursor's line begins the query. -/
lemma prev_inside_iff (hs : s.At ls c) (hq : query.1 ≠ []) : (firstHit (hitAt ls query) (insideAt ls query)
    (places ls (prevLine ls.length c.1) (s.prevColumns query) (List.range ls.length))).1 = true ↔
      ¬ ReachesEnd ls query c := by
  rw [firstHit_fst_iff]
  constructor
  · rintro h ⟨line, hline, j, hj, hpre, hshort⟩
    have hle := hs.column_le line hline
    have hmem := @prevPlaces_of _ _ _ (c.1, j) query hs _ hline (by rw [if_pos rfl]; exact hj)
    obtain ⟨as, bs, heq⟩ := List.append_of_mem hmem
    have hpair := @pairwise_prev _ _ _ query hs
    rw [heq] at hpair
    have hgood := h as (c.1, j) bs heq fun x hx => ?_
    · unfold insideAt at hgood
      rw [show ls[(c.1, j).1]? = some line from hline, Option.all_some,
        (comparesInside_iff (by omega)).mpr ⟨hpre, hshort⟩] at hgood
      exact Bool.false_ne_true hgood
    · -- what comes before in the search stands between, and does not fit either
      refine Bool.eq_false_iff.mpr fun hhit => ?_
      obtain ⟨line', hline', hfound⟩ := hitAt_iff.mp hhit
      have hfits := fits_of_prefix hq hfound
      obtain ⟨line'', hline'', hcol⟩ := mem_prevPlaces hs (show x ∈ places ls (prevLine ls.length c.1)
        (s.prevColumns query) (List.range ls.length) by rw [heq]; exact List.mem_append_left _ hx)
      have hbefore := (List.pairwise_append.mp hpair).2.2 x hx (c.1, j) List.mem_cons_self
      have hrowx : x.1 = c.1 := by
        by_contra hne
        unfold Cyclic Before at hbefore
        dsimp only at hbefore
        omega
      rw [hrowx, hline] at hline'
      obtain rfl := Option.some.inj hline'
      rw [if_pos hrowx] at hcol
      unfold Cyclic Before at hbefore
      dsimp only at hbefore
      omega
  · intro hnot as p bs heq hnone
    obtain ⟨line, hline, hcol⟩ := mem_prevPlaces hs (show p ∈ places ls (prevLine ls.length c.1)
      (s.prevColumns query) (List.range ls.length) by rw [heq]; simp)
    unfold insideAt
    rw [hline, Option.all_some]
    by_cases hrowp : p.1 = c.1
    · rw [if_pos hrowp] at hcol
      rw [hrowp] at hline
      have hle := hs.column_le line hline
      by_contra hout
      obtain ⟨hpre, hshort⟩ := (comparesInside_iff (show p.2 ≤ line.length by omega)).mp (Bool.eq_false_iff.mpr hout)
      exact hnot ⟨line, hline, p.2, hcol, hpre, hshort⟩
    · rw [if_neg hrowp] at hcol
      exact comparesInside_of_fits hcol

lemma searchRight_prev (hs : s.At ls c) (hq : query.1 ≠ []) :
    ∃ r, s.findPrev query = some r ∧ (SearchRight s ls query c (fun p q => Cyclic c q p) r ↔
      ¬ OnlyAhead ls query c ∧ ¬ ReachesEnd ls query c) := by
  have hsearch := @searchFor_eq _ _ _ query _ _ (s.prevColumns query) (List.range ls.length) hs
    fun i hi => prevLine_idx hs (List.mem_range.mp hi)
  have hright := @searchRight_iff s _ c query _ _ _ _ (fun q => q.1 = c.1 ∧ c.2 < q.2)
    (@pairwise_prev _ _ _ query hs) (fun q hocc hne => ?_) (fun p hp => ?_) (fun q hmiss heq => ?_) fun p hp q hmiss => ?_
  · refine ⟨_, ?_, hright.trans (and_congr_right fun _ => prev_inside_iff hs hq)⟩
    unfold Editor.findPrev
    rw [if_neg hq, hs.numLines]
    rw [hs.numLines] at hsearch
    exact hsearch
  · obtain ⟨line, hline, hpre⟩ := hocc
    have hfits := fits_of_prefix hq hpre
    by_cases hmiss : q.1 = c.1 ∧ c.2 < q.2
    · exact Or.inr hmiss
    · refine Or.inl (prevPlaces_of hs hline ?_)
      split_ifs with hsame
      · have hcol : q.2 ≠ c.2 := fun heq => hne (Prod.ext hsame heq)
        omega
      · exact hfits
  · obtain ⟨line, -, hcol⟩ := mem_prevPlaces hs hp
    refine ⟨fun heq => ?_, fun hmiss => ?_⟩
    · rw [if_pos (congrArg Prod.fst heq), heq] at hcol
      exact Nat.lt_irrefl _ hcol
    · rw [if_pos hmiss.1] at hcol
      omega
  · rw [heq] at hmiss
    exact Nat.lt_irrefl _ hmiss.2
  · obtain ⟨line, -, hcol⟩ := mem_prevPlaces hs hp
    unfold Cyclic Before
    by_cases hsame : p.1 = c.1
    · rw [if_pos hsame] at hcol
      omega
    · omega

end Places

/-! ## Both searches -/

/-- **When searching is right.** -/
theorem searchesRight_iff (hs : s.At ls c) (hq : query.1 ≠ []) : SearchesRight s ls query c ↔
    ¬ OnlyBehind ls query c ∧ ¬ OnlyAhead ls query c ∧ ¬ ReachesEnd ls query c := by
  obtain ⟨r, hr, hnext⟩ := searchRight_next hs hq
  obtain ⟨r', hr', hprev⟩ := searchRight_prev hs hq
  unfold SearchesRight
  rw [hr, hr']
  constructor
  · rintro ⟨⟨t, ht, hright⟩, ⟨t', ht', hright'⟩⟩
    obtain rfl := Option.some.inj ht
    obtain rfl := Option.some.inj ht'
    exact ⟨hnext.mp hright, hprev.mp hright'⟩
  · rintro ⟨hbehind, hahead⟩
    exact ⟨⟨r, rfl, hnext.mpr hbehind⟩, ⟨r', rfl, hprev.mpr hahead⟩⟩

/-- Two lines with the query in both of them, and the cursor at the first occurrence. -/
def twoLines : Editor where
  lines := [some ⟨[0x61, 0x62], 1024, by decide, by decide⟩, some ⟨[0x61, 0x62], 1024, by decide, by decide⟩]
  linesCapacity := 256
  cursorX := 0
  cursorY := 0
  modified := false
  hasFilename := false
  filename := .empty

/-- The query `ab`. -/
def queryAb : CString := ⟨[0x61, 0x62], by decide⟩

theorem searchesRight_twoLines : SearchesRight twoLines
    [⟨[0x61, 0x62], 1024, by decide, by decide⟩, ⟨[0x61, 0x62], 1024, by decide, by decide⟩] queryAb (0, 0) := by
  refine (searchesRight_iff ⟨rfl, rfl, rfl, by decide, fun line hline => Nat.zero_le _⟩ (by decide)).mpr ⟨?_, ?_, ?_⟩
  · rintro ⟨⟨p, -, -, hlt⟩, -⟩
    exact Nat.not_lt_zero _ hlt
  · rintro ⟨⟨p, ⟨line, hline, hpre⟩, hrow, hlt⟩, -⟩
    have hfits := fits_of_prefix (by decide) hpre
    rw [hrow] at hline
    obtain rfl := Option.some.inj hline
    change p.2 + 2 ≤ 2 at hfits
    change 0 < p.2 at hlt
    omega
  · rintro ⟨line, -, j, hj, -⟩
    exact Nat.not_lt_zero _ hj

/-- In the line `ab` with the cursor at its second character, `editor_find_next` does not find `a`. -/
theorem not_searchesRight_behind :
    ¬ ∀ (s : Editor) (ls : List EditorLine) (query : CString) (c : Nat × Nat), s.At ls c → query.1 ≠ [] →
      SearchesRight s ls query c := by
  intro h
  have hs : Editor.At ⟨[some ⟨[0x61, 0x62], 1024, by decide, by decide⟩], 256, 1, 0, false, false, .empty⟩
      [⟨[0x61, 0x62], 1024, by decide, by decide⟩] (0, 1) :=
    ⟨rfl, rfl, rfl, by decide, fun line hline => by
      obtain rfl := Option.some.inj hline
      decide⟩
  have hq : (⟨[0x61], by decide⟩ : CString).1 ≠ [] := by decide
  obtain ⟨⟨r, hr, hright⟩, -⟩ := h _ _ ⟨[0x61], by decide⟩ _ hs hq
  obtain ⟨r', hr', hiff⟩ := searchRight_next hs hq
  obtain rfl := Option.some.inj (hr.symm.trans hr')
  refine hiff.mp hright ⟨⟨(0, 0), ⟨_, rfl, by decide⟩, rfl, by decide⟩, fun p hp hne => ?_⟩
  obtain ⟨line, hline, hpre⟩ := hp
  have hfits := fits_of_prefix hq hpre
  have hrow : p.1 = 0 := by
    have hlt := (List.getElem?_eq_some_iff.mp hline).1
    rw [List.length_singleton] at hlt
    omega
  rw [hrow] at hline
  obtain rfl := Option.some.inj hline
  change p.2 + 1 ≤ 2 at hfits
  have hcol : p.2 ≠ 1 := fun heq => hne (Prod.ext hrow heq)
  exact ⟨hrow, show p.2 < 1 by omega⟩

/-! ## The calls of the editor -/

lemma searchFor_editor (hs : s.At ls c) {lineIdx : Nat → Int} {lineNo : Nat → Nat}
    {columns : Nat → EditorLine → List Nat} {column : Nat → Option EditorLine → Option (Option Nat)} {is : List Nat}
    (hidx : ∀ i ∈ is, lineIdx i = lineNo i ∧ lineNo i < ls.length)
    (hcolumn : ∀ i line, column i (some line) = some ((columns i line).find? (matchesAt query line))) :
    (s.searchFor query lineIdx columns is).map (·.editor) = s.searchLines lineIdx column is := by
  induction is with
  | nil => rfl
  | cons i is ih =>
    obtain ⟨hi, hlt⟩ := hidx i List.mem_cons_self
    obtain ⟨line, hline⟩ : ∃ line, ls[lineNo i]? = some line := ⟨_, List.getElem?_eq_getElem hlt⟩
    have hfind := @firstHit_snd _ (matchesAt query line) (comparesInside query line) (columns i line)
    simp only [Editor.searchFor, Editor.searchLines, hi, hs.lineAt, hs.slot, hline, Option.map_some,
      Option.bind_eq_bind, Option.bind_some, hcolumn, ← hfind]
    rcases firstHit (matchesAt query line) (comparesInside query line) (columns i line) with ⟨inside, _ | j⟩
    · rw [← ih fun k hk => hidx k (List.mem_cons_of_mem i hk)]
      cases s.searchFor query lineIdx columns is with
      | none => rfl
      | some r => rfl
    · rfl

lemma findNext_editor (hs : s.At ls c) (query : CString) :
    (s.findNext query).map (·.editor) = s.editorFindNext query := by
  unfold Editor.findNext Editor.editorFindNext
  split_ifs
  · rfl
  · refine searchFor_editor hs (fun i hi => nextLine_idx hs (hs.numLines ▸ List.mem_range.mp hi)) fun i line => ?_
    simp only [Editor.nextColumns, List.find?_filter, Bool.decide_and, Bool.decide_eq_true]
    rfl

lemma findPrev_editor (hs : s.At ls c) (query : CString) :
    (s.findPrev query).map (·.editor) = s.editorFindPrev query := by
  unfold Editor.findPrev Editor.editorFindPrev
  split_ifs
  · rfl
  · refine searchFor_editor hs (fun i hi => prevLine_idx hs (hs.numLines ▸ List.mem_range.mp hi)) fun i line => ?_
    unfold Editor.prevColumns
    split_ifs with hfirst hzero
    · dsimp only
      rw [Int.toNat_of_nonpos (by omega)]
      rfl
    · exact absurd hfirst.1 hzero
    · rfl
    · rfl

end AAAos
