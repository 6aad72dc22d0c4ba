import AAAos.Apps.Terminal
import AAAos.Lib.Trace

/-!
# The screen is not left

**What is proved.**  From `terminal_create` on, whatever bytes are put and whatever the calls between them ask for,
every call returns without a cell outside the screen being touched, the cursor is on the screen, the sequence that
is being read fits in its buffer, colours are indices of the palette, and the view is within the lines that were
scrolled out (`screenSafe_of_steps`).
-/

namespace AAAos.Terminal

variable {t t' u : Terminal}

/-! ## What drawing changes -/

def CellOk (c : TerminalCell) : Prop := c.fgColor < ansiColorMax ∧ c.bgColor < ansiColorMax

/-- The buffer is as large as the terminal says, and its colours are in the palette, as those are to come. -/
structure Screen (t : Terminal) : Prop where
  rows : t.buffer.length = t.height
  columns : ∀ line ∈ t.buffer, line.cells.length = t.width
  colours : ∀ line ∈ t.buffer, ∀ c ∈ line.cells, CellOk c
  pen : t.fgColor < ansiColorMax ∧ t.bgColor < ansiColorMax

/-- What changes the screen changes nothing else but the scrollback. -/
structure Drawn (t t' : Terminal) : Prop where
  frame : ∃ buffer scrollback count head redraw, t' =
    { t with
      buffer := buffer
      scrollback := scrollback
      scrollbackCount := count
      scrollbackHead := head
      needsRedraw := redraw }
  count : t.scrollbackCount ≤ t'.scrollbackCount
  screen : t.Screen → t'.Screen

namespace Drawn

lemma refl (t : Terminal) : Drawn t t := ⟨⟨_, _, _, _, _, rfl⟩, le_rfl, id⟩

lemma width (h : Drawn t t') : t'.width = t.width := by
  obtain ⟨_, _, _, _, _, rfl⟩ := h.frame
  rfl

lemma height (h : Drawn t t') : t'.height = t.height := by
  obtain ⟨_, _, _, _, _, rfl⟩ := h.frame
  rfl

lemma cursorX (h : Drawn t t') : t'.cursorX = t.cursorX := by
  obtain ⟨_, _, _, _, _, rfl⟩ := h.frame
  rfl

lemma cursorY (h : Drawn t t') : t'.cursorY = t.cursorY := by
  obtain ⟨_, _, _, _, _, rfl⟩ := h.frame
  rfl

lemma trans (h : Drawn t t') (h' : Drawn t' u) : Drawn t u where
  frame := by
    obtain ⟨_, _, _, _, _, rfl⟩ := h.frame
    obtain ⟨_, _, _, _, _, rfl⟩ := h'.frame
    exact ⟨_, _, _, _, _, rfl⟩
  count := h.count.trans h'.count
  screen := h'.screen ∘ h.screen

lemma of_buffer {buffer : List TerminalLine} (h : t.Screen → Screen { t with buffer := buffer }) :
    Drawn t { t with buffer := buffer } := ⟨⟨_, _, _, _, _, rfl⟩, le_rfl, h⟩

lemma redraw {b : Bool} : Drawn t { t with needsRedraw := b } :=
  ⟨⟨_, _, _, _, _, rfl⟩, le_rfl, fun h => ⟨h.rows, h.columns, h.colours, h.pen⟩⟩

end Drawn

/-- The call is done and has only drawn. -/
def Draws (t : Terminal) (m : Option Terminal) : Prop := ∃ t', m = some t' ∧ Drawn t t'

lemma Draws.pure (t : Terminal) : Draws t (some t) := ⟨t, rfl, .refl t⟩

lemma Draws.bind {m : Option Terminal} {f : Terminal → Option Terminal} (h : Draws t m)
    (hf : ∀ u, Drawn t u → Draws u (f u)) : Draws t (m >>= f) := by
  obtain ⟨u, rfl, hu⟩ := h
  obtain ⟨v, hv, hd⟩ := hf u hu
  exact ⟨v, hv, hu.trans hd⟩

lemma Draws.redraw : Draws t (some { t with needsRedraw := true }) := ⟨_, rfl, .redraw⟩

lemma draws_forEach {l : List Nat} {f : Terminal → Nat → Option Terminal}
    (h : ∀ i ∈ l, ∀ u, Drawn t u → Draws u (f u i)) : Draws t (t.forEach l f) := by
  induction l generalizing t with
  | nil => exact .pure t
  | cons i l ih =>
    refine Draws.bind (h i List.mem_cons_self t (.refl t)) ?_
    intro u hu
    exact ih fun j hj v hv => h j (List.mem_cons_of_mem i hj) v (hu.trans hv)

/-! ## Cells -/

lemma screen_modify {y : Nat} {f : TerminalLine → TerminalLine} (h : t.Screen)
    (hlen : ∀ line ∈ t.buffer, (f line).cells.length = line.cells.length)
    (hok : ∀ line ∈ t.buffer, ∀ c ∈ (f line).cells, CellOk c) :
    Screen { t with buffer := t.buffer.modify y f } := by
  have hmem : ∀ line ∈ t.buffer.modify y f, line ∈ t.buffer ∨ ∃ old ∈ t.buffer, line = f old := by
    intro line hline
    obtain ⟨i, hi, rfl⟩ := List.mem_iff_getElem.mp hline
    rw [List.length_modify] at hi
    rw [List.getElem_modify]
    split_ifs
    · exact Or.inr ⟨_, List.getElem_mem hi, rfl⟩
    · exact Or.inl (List.getElem_mem hi)
  exact
    { rows := by
        rw [List.length_modify]
        exact h.rows
      columns := by
        intro line hline
        rcases hmem line hline with hline | ⟨old, hold, rfl⟩
        · exact h.columns line hline
        · exact (hlen old hold).trans (h.columns old hold)
      colours := by
        intro line hline
        rcases hmem line hline with hline | ⟨old, hold, rfl⟩
        · exact h.colours line hline
        · exact hok old hold
      pen := h.pen }

lemma draws_writeCell {y x : Nat} {cell : TerminalCell} (hy : y < t.height) (hx : x < t.width)
    (hcell : t.Screen → CellOk cell) : Draws t (t.writeCell y x cell) := by
  rw [writeCell, if_pos ⟨hy, hx⟩]
  refine ⟨_, rfl, .of_buffer fun h => screen_modify h ?_ ?_⟩
  · intro line _
    exact List.length_set
  · intro line hline c hc
    rcases List.mem_or_eq_of_mem_set hc with hold | rfl
    · exact h.colours line hline c hold
    · exact hcell h

lemma draws_markDirty {y : Nat} (hy : y < t.height) : Draws t (t.markDirty y) := by
  rw [markDirty, if_pos hy]
  refine ⟨_, rfl, .of_buffer fun h => screen_modify h (fun _ _ => rfl) fun line hline => h.colours line hline⟩

lemma draws_clearCell {y x : Nat} (hy : y < t.height) (hx : x < t.width) : Draws t (t.terminalClearCell y x) :=
  draws_writeCell hy hx fun h => h.pen

lemma draws_clearRow {y : Nat} (hy : y < t.height) : Draws t (t.clearRow y) := by
  apply Draws.bind
  · apply draws_forEach
    intro x hx u hu
    exact draws_clearCell (hu.height ▸ hy) (hu.width ▸ List.mem_range.mp hx)
  · intro u hu
    exact draws_markDirty (hu.height ▸ hy)

lemma draws_clearRows {l : List Nat} (hl : ∀ y ∈ l, y < t.height) : Draws t (t.forEach l clearRow) :=
  draws_forEach fun y hy _ hu => draws_clearRow (hu.height ▸ hl y hy)

lemma draws_clearCells {l : List Nat} {y : Nat} (hy : y < t.height) (hl : ∀ x ∈ l, x < t.width) :
    Draws t (t.forEach l fun t x => t.terminalClearCell y x) :=
  draws_forEach fun x hx _ hu => draws_clearCell (hu.height ▸ hy) (hu.width ▸ hl x hx)

lemma readRow_some {y n : Nat} (hy : y < t.height) (hn : n ≤ t.width) :
    ∃ row, t.readRow y n = some row ∧ (t.Screen → row.length = n ∧ ∀ c ∈ row, CellOk c) := by
  rw [readRow, if_pos ⟨hy, hn⟩]
  refine ⟨_, rfl, fun h => ?_⟩
  have hlt : y < t.buffer.length := h.rows ▸ hy
  have hmem := List.getElem_mem hlt
  rw [List.getElem?_eq_getElem hlt]
  refine ⟨?_, fun c hc => h.colours _ hmem c (List.mem_of_mem_take hc)⟩
  have hlen := h.columns _ hmem
  simp only [Option.map_some, Option.getD_some, List.length_take]
  omega

lemma draws_moveLine {dst src : Nat} (hdst : dst < t.height) (hsrc : src < t.height) :
    Draws t (t.moveLine dst src) := by
  obtain ⟨row, hrow, hok⟩ := readRow_some hsrc (le_refl t.width)
  have hmove : t.moveLine dst src = some { t with
      buffer := t.buffer.modify dst fun line => { line with cells := row ++ line.cells.drop row.length } } := by
    simp only [moveLine, hrow, Option.bind_eq_bind, Option.bind_some, hdst, if_true]
  refine ⟨_, hmove, .of_buffer fun h => screen_modify h ?_ ?_⟩
  · intro line hline
    have hlen := h.columns line hline
    have hrowlen := (hok h).1
    simp only [List.length_append, List.length_drop]
    omega
  · intro line hline c hc
    rcases List.mem_append.mp hc with hc | hc
    · exact (hok h).2 c hc
    · exact h.colours line hline c (List.mem_of_mem_drop hc)

lemma draws_putCharAt {x y : Int} {c : UInt8} : Draws t (t.terminalPutCharAt x y c) := by
  unfold terminalPutCharAt
  split_ifs with hout
  · exact .pure t
  · have hy : y.toNat < t.height := by omega
    have hx : x.toNat < t.width := by omega
    refine Draws.bind (draws_writeCell hy hx fun h => h.pen) ?_
    intro u hu
    exact draws_markDirty (hu.height ▸ hy)

/-! ## The invariant -/

/-- What holds whatever the cursor does. -/
structure Steady (t : Terminal) : Prop where
  screen : t.Screen
  width : 0 < t.width ∧ t.width ≤ terminalMaxWidth
  height : 0 < t.height ∧ t.height ≤ terminalMaxHeight
  defaults : t.defaultFg < ansiColorMax ∧ t.defaultBg < ansiColorMax
  escLength : t.escLength < terminalEscapeBufferSize
  offset : 0 ≤ t.scrollOffset ∧ t.scrollOffset ≤ t.scrollbackCount

/-- The cursor is on the screen. -/
structure OnScreen (t : Terminal) : Prop where
  x : 0 ≤ t.cursorX ∧ t.cursorX < t.width
  y : 0 ≤ t.cursorY ∧ t.cursorY < t.height

structure Sound (t : Terminal) : Prop where
  steady : t.Steady
  cursor : t.OnScreen

/-- The call is done, and this holds afterwards. -/
def Leads (m : Option Terminal) (P : Terminal → Prop) : Prop := ∃ t', m = some t' ∧ P t'

lemma Steady.drawn (h : t.Steady) (hd : Drawn t t') : t'.Steady := by
  have hcount := hd.count
  have hscreen := hd.screen h.screen
  obtain ⟨_, _, _, _, _, rfl⟩ := hd.frame
  have hoffset := h.offset
  dsimp only at hcount
  exact ⟨hscreen, h.width, h.height, h.defaults, h.escLength, hoffset.1, by dsimp only; omega⟩

lemma Steady.moved {x y : Int} (h : t.Steady) : Steady { t with cursorX := x, cursorY := y } :=
  ⟨⟨h.screen.rows, h.screen.columns, h.screen.colours, h.screen.pen⟩, h.width, h.height, h.defaults,
    h.escLength, h.offset⟩

lemma Sound.drawn (h : t.Sound) (hd : Drawn t t') : t'.Sound := by
  refine ⟨h.steady.drawn hd, ?_⟩
  have hcursor := h.cursor
  obtain ⟨_, _, _, _, _, rfl⟩ := hd.frame
  exact ⟨hcursor.x, hcursor.y⟩

lemma Draws.sound {m : Option Terminal} (hm : Draws t m) (h : t.Sound) : Leads m Sound := by
  obtain ⟨u, hu, hd⟩ := hm
  exact ⟨u, hu, h.drawn hd⟩

lemma OnScreen.unsigned (h : t.OnScreen) (hs : t.Steady) :
    asUnsigned t.cursorX < t.width ∧ asUnsigned t.cursorY < t.height := by
  have hw := hs.width
  have hh := hs.height
  have hx := h.x
  have hy := h.y
  simp only [terminalMaxWidth, terminalMaxHeight] at hw hh
  simp only [asUnsigned]
  omega

/-! ## Clearing -/

lemma steady_clear (h : t.Steady) : Leads t.terminalClear Sound := by
  obtain ⟨u, hu, hd⟩ := draws_clearRows (t := t) (l := List.range t.height) fun y hy => List.mem_range.mp hy
  have hs := h.drawn hd
  refine ⟨{ u with cursorX := 0, cursorY := 0, needsRedraw := true }, by simp [terminalClear, hu], ?_⟩
  have hw := hs.width
  have hh := hs.height
  refine ⟨(hs.moved (x := 0) (y := 0)).drawn .redraw, ⟨le_rfl, ?_⟩, ⟨le_rfl, ?_⟩⟩
  · exact Int.natCast_pos.mpr hw.1
  · exact Int.natCast_pos.mpr hh.1

lemma draws_clearToEnd (h : t.Sound) : Draws t t.terminalClearToEnd := by
  obtain ⟨hx, hy⟩ := h.cursor.unsigned h.steady
  unfold terminalClearToEnd
  refine Draws.bind (draws_clearCells hy fun x hx => ?_) fun u hu => ?_
  · have := (List.mem_range'_1.mp hx).2
    omega
  refine Draws.bind (draws_markDirty (hu.height ▸ hy)) fun v hv => ?_
  refine Draws.bind (draws_clearRows fun y hy => ?_) fun w _ => .redraw
  have hsize : v.height = t.height := (hu.trans hv).height
  have := (List.mem_range'_1.mp hy).2
  omega

lemma draws_clearToStart (h : t.Sound) : Draws t t.terminalClearToStart := by
  obtain ⟨hx, hy⟩ := h.cursor.unsigned h.steady
  unfold terminalClearToStart
  refine Draws.bind (draws_clearRows fun y hy => ?_) fun u hu => ?_
  · have := List.mem_range.mp hy
    omega
  refine Draws.bind (draws_clearCells (hu.height ▸ hy) fun x hx => ?_) fun v hv => ?_
  · have hsize : u.width = t.width := hu.width
    have := List.mem_range.mp hx
    omega
  exact Draws.bind (draws_markDirty ((hu.trans hv).height ▸ hy)) fun w _ => .redraw

lemma draws_clearLine {mode : Int} (h : t.Sound) : Draws t (t.terminalClearLine mode) := by
  obtain ⟨hx, hy⟩ := h.cursor.unsigned h.steady
  unfold terminalClearLine
  refine Draws.bind (draws_clearCells hy fun x hx => ?_) fun u hu => ?_
  · have := List.mem_range'_1.mp hx
    omega
  · exact Draws.bind (draws_markDirty (hu.height ▸ hy)) fun v _ => .redraw

/-! ## Scrolling -/

lemma scrollLines_le (lines : Int) : t.scrollLines lines ≤ t.height := by
  unfold scrollLines
  split_ifs
  · exact le_rfl
  · omega

lemma draws_saveLine {mem : Nat → Bool} {y : Nat} (hy : y < t.height) : Draws t (t.saveLine mem y) := by
  obtain ⟨row, hrow, -⟩ := readRow_some hy (le_refl t.width)
  have hscreen : ∀ {scrollback : Nat → Option (List TerminalCell)} {count head : Nat}, t.Screen →
      Screen { t with scrollback := scrollback, scrollbackCount := count, scrollbackHead := head } :=
    fun h => ⟨h.rows, h.columns, h.colours, h.pen⟩
  unfold saveLine
  dsimp only
  split
  · exact .pure t
  · rename_i cells _
    simp only [hrow, Option.bind_eq_bind, Option.bind_some]
    split_ifs with hroom
    · exact ⟨_, rfl, ⟨_, _, _, _, _, rfl⟩, Nat.le_succ _, hscreen⟩
    · exact ⟨_, rfl, ⟨_, _, _, _, _, rfl⟩, le_rfl, hscreen⟩

lemma draws_scrollUp {lines : Int} {mem : Nat → Bool} : Draws t (t.terminalScrollUp lines mem) := by
  have hn := t.scrollLines_le lines
  unfold terminalScrollUp
  dsimp only
  generalize t.scrollLines lines = n at hn ⊢
  refine Draws.bind (draws_forEach fun y hy u hu => ?_) fun u hu => ?_
  · have hlt := List.mem_range.mp hy
    exact draws_saveLine (hu.height ▸ hlt.trans_le hn)
  have hsize : u.height = t.height := hu.height
  refine Draws.bind (draws_forEach fun y hy v hv => ?_) fun v hv => ?_
  · have hlt := List.mem_range.mp hy
    have hsize' : v.height = u.height := hv.height
    refine Draws.bind (draws_moveLine (by omega) (by omega)) fun w hw => ?_
    exact draws_markDirty (by rw [hw.height]; omega)
  refine Draws.bind (draws_clearRows fun y hy => ?_) fun w _ => .redraw
  have hsize' : v.height = u.height := hv.height
  have := (List.mem_range'_1.mp hy).2
  omega

lemma draws_scrollDown {lines : Int} : Draws t (t.terminalScrollDown lines) := by
  have hn := t.scrollLines_le lines
  unfold terminalScrollDown
  dsimp only
  generalize t.scrollLines lines = n at hn ⊢
  refine Draws.bind (draws_forEach fun y hy v hv => ?_) fun u hu => ?_
  · have hlt := (List.mem_range'_1.mp (List.mem_reverse.mp hy)).2
    have hsize : v.height = t.height := hv.height
    refine Draws.bind (draws_moveLine (by omega) (by omega)) fun w hw => ?_
    exact draws_markDirty (by rw [hw.height]; omega)
  refine Draws.bind (draws_clearRows fun y hy => ?_) fun w _ => .redraw
  have hsize : u.height = t.height := hu.height
  have := List.mem_range.mp hy
  omega

lemma draws_scroll {lines : Int} {mem : Nat → Bool} : Draws t (t.terminalScroll lines mem) := by
  unfold terminalScroll
  split_ifs
  · exact .pure t
  · exact draws_scrollUp
  · exact draws_scrollDown

/-! ## The cursor -/

lemma sound_setCursor {x y : Int} (h : t.Steady) : (t.terminalSetCursor x y).Sound := by
  have hw := h.width.1
  have hh := h.height.1
  refine ⟨h.moved, ⟨?_, ?_⟩, ⟨?_, ?_⟩⟩
  all_goals
    simp only [terminalSetCursor]
    split_ifs <;> omega

lemma sound_saveCursor (h : t.Sound) : t.terminalSaveCursor.Sound :=
  ⟨⟨⟨h.steady.screen.rows, h.steady.screen.columns, h.steady.screen.colours, h.steady.screen.pen⟩,
    h.steady.width, h.steady.height, h.steady.defaults, h.steady.escLength, h.steady.offset⟩,
    ⟨h.cursor.x, h.cursor.y⟩⟩

/-- The screen of 128 lines does not wrap around an `int`. -/
lemma wrapInt_of_small {x : Int} (h0 : 0 ≤ x) (h : x ≤ terminalMaxWidth) : wrapInt x = x := by
  simp only [terminalMaxWidth] at h
  exact Int.bmod_eq_of_le (by omega) (by omega)

/-- The cursor goes right, at most to the edge. -/
structure Passing (t : Terminal) : Prop where
  steady : t.Steady
  x : 0 ≤ t.cursorX ∧ t.cursorX ≤ t.width
  y : 0 ≤ t.cursorY ∧ t.cursorY < t.height

lemma Passing.put {c : UInt8} (h : t.Passing) (hx : t.cursorX < t.width) :
    ∃ u, t.terminalPutCharAt t.cursorX t.cursorY c = some u ∧
      Passing { u with cursorX := wrapInt (u.cursorX + 1) } := by
  obtain ⟨u, hu, hd⟩ := draws_putCharAt (t := t) (x := t.cursorX) (y := t.cursorY) (c := c)
  have hw := h.steady.width
  have hxs := h.x
  have hys := h.y
  have hwrap : wrapInt (u.cursorX + 1) = t.cursorX + 1 := by
    rw [hd.cursorX]
    exact wrapInt_of_small (by omega) (by omega)
  refine ⟨u, hu, (h.steady.drawn hd).moved, ?_, ?_⟩
  · dsimp only
    rw [hwrap, hd.width]
    omega
  · dsimp only
    rw [hd.cursorY, hd.height]
    exact hys

lemma Sound.passing (h : t.Sound) : t.Passing := ⟨h.steady, ⟨h.cursor.x.1, h.cursor.x.2.le⟩, h.cursor.y⟩

lemma Sound.coloured {fg bg attributes : UInt8} (h : t.Sound) (hfg : fg < ansiColorMax) (hbg : bg < ansiColorMax) :
    Sound { t with fgColor := fg, bgColor := bg, attributes := attributes } :=
  ⟨⟨⟨h.steady.screen.rows, h.steady.screen.columns, h.steady.screen.colours, hfg, hbg⟩,
    h.steady.width, h.steady.height, h.steady.defaults, h.steady.escLength, h.steady.offset⟩,
    ⟨h.cursor.x, h.cursor.y⟩⟩

lemma Sound.escaped {state : EscState} {buffer : List UInt8} {len : Nat} (h : t.Sound)
    (hlen : len < terminalEscapeBufferSize) :
    Sound { t with escState := state, escBuffer := buffer, escLength := len } :=
  ⟨⟨⟨h.steady.screen.rows, h.steady.screen.columns, h.steady.screen.colours, h.steady.screen.pen⟩,
    h.steady.width, h.steady.height, h.steady.defaults, hlen, h.steady.offset⟩, ⟨h.cursor.x, h.cursor.y⟩⟩

lemma colour_lt {x : Int} (h0 : 0 ≤ x) (h : x < 16) : UInt8.ofInt x < ansiColorMax := by
  rw [UInt8.lt_iff_toNat_lt]
  simp only [UInt8.ofInt, ansiColorMax, UInt8.toNat_ofNat, UInt8.toNat_ofNat']
  omega

lemma sound_resetAttributes (h : t.Sound) : t.terminalResetAttributes.Sound :=
  h.coloured h.steady.defaults.1 h.steady.defaults.2

lemma sound_setAttributes {attributes : UInt8} (h : t.Sound) : (t.setAttributes attributes).Sound :=
  h.coloured h.steady.screen.pen.1 h.steady.screen.pen.2

lemma sound_setFg {x : UInt8} (h : t.Sound) (hx : x < ansiColorMax) : (t.setFg x).Sound :=
  h.coloured hx h.steady.screen.pen.2

lemma sound_setBg {x : UInt8} (h : t.Sound) (hx : x < ansiColorMax) : (t.setBg x).Sound :=
  h.coloured h.steady.screen.pen.1 hx

lemma sound_ite {c : Prop} [Decidable c] (ht : c → t.Sound) (hu : u.Sound) : (if c then t else u).Sound := by
  split
  · exact ht ‹_›
  · exact hu

lemma sound_selectGraphic {code : Int} (h : t.Sound) : (t.selectGraphic code).Sound := by
  unfold selectGraphic
  refine sound_ite (fun _ => sound_resetAttributes h) ?_
  iterate 10 refine sound_ite (fun _ => sound_setAttributes h) ?_
  refine sound_ite (fun _ => sound_setFg h (colour_lt (by omega) (by omega))) ?_
  refine sound_ite (fun _ => sound_setFg h h.steady.defaults.1) ?_
  refine sound_ite (fun _ => sound_setBg h (colour_lt (by omega) (by omega))) ?_
  refine sound_ite (fun _ => sound_setBg h h.steady.defaults.2) ?_
  refine sound_ite (fun _ => sound_setFg h (colour_lt (by omega) (by omega))) ?_
  exact sound_ite (fun _ => sound_setBg h (colour_lt (by omega) (by omega))) h

lemma sound_selectGraphics {params : List Int} (h : t.Sound) : (params.foldl selectGraphic t).Sound := by
  induction params generalizing t with
  | nil => exact h
  | cons code params ih => exact ih (sound_selectGraphic h)

lemma leads_eraseDisplay {n : Int} (h : t.Sound) : Leads (t.eraseDisplay n) Sound := by
  unfold eraseDisplay
  split_ifs
  · exact (draws_clearToEnd h).sound h
  · exact (draws_clearToStart h).sound h
  · exact steady_clear h.steady
  · exact ⟨t, rfl, h⟩

lemma Leads.returning {α : Type} {m : Option Terminal} {a : α} (h : Leads m Sound) :
    ∃ b t', m.map (a, ·) = some (b, t') ∧ Sound t' := by
  obtain ⟨u, rfl, hu⟩ := h
  exact ⟨a, u, rfl, hu⟩

/-- **A sequence is carried out**, whatever its parameters. -/
lemma leads_parseCsi {seq : List UInt8} {mem : Nat → Bool} (h : t.Sound) :
    ∃ b t', t.terminalParseCsi seq mem = some (b, t') ∧ Sound t' := by
  have hset : ∀ {x y : Int}, ∃ (b : Bool) (t' : Terminal),
      some (true, t.terminalSetCursor x y) = some (b, t') ∧ Sound t' :=
    ⟨_, _, rfl, sound_setCursor h.steady⟩
  have hcolumn : ∀ {x y : Int}, ∃ (b : Bool) (t' : Terminal),
      some (true, { t with cursorX := 0 }.terminalMoveCursor x y) = some (b, t') ∧ Sound t' :=
    ⟨_, _, rfl, sound_setCursor h.steady.moved⟩
  have hsame : ∀ {b : Bool}, ∃ (b' : Bool) (t' : Terminal), some (b, t) = some (b', t') ∧ Sound t' := ⟨_, _, rfl, h⟩
  unfold terminalParseCsi
  dsimp only
  split
  · exact hset
  · exact hset
  · exact hset
  · exact hset
  · exact hcolumn
  · exact hcolumn
  · exact hset
  · exact hset
  · exact hset
  · exact (leads_eraseDisplay h).returning
  · exact ((draws_clearLine h).sound h).returning
  · exact (draws_scroll.sound h).returning
  · exact (draws_scroll.sound h).returning
  · refine ⟨_, _, rfl, ?_⟩
    split_ifs
    · exact sound_resetAttributes h
    · exact sound_selectGraphics h
  · exact ⟨_, _, rfl, sound_saveCursor h⟩
  · exact hset
  · exact hsame
  · exact hsame
  · exact hsame
  · exact hsame

/-! ## Characters -/

/-- A line of some width with colours of the palette. -/
def LineOk (width : Nat) (line : TerminalLine) : Prop :=
  line.cells.length = width ∧ ∀ c ∈ line.cells, CellOk c

lemma chosen_size {n m d : Nat} (hd : 0 < d) (hdm : d ≤ m) :
    0 < (if n = 0 ∨ m < n then d else n) ∧ (if n = 0 ∨ m < n then d else n) ≤ m := by
  split_ifs <;> omega

/-- **A new terminal** is cleared. -/
lemma leads_create (widthChars heightChars : Nat) (mem : Nat → Bool) :
    ∃ r, terminalCreate widthChars heightChars mem = some r ∧ ∀ t, r = some t → t.Sound := by
  unfold terminalCreate
  dsimp only
  have hwidth := chosen_size (n := widthChars) (m := terminalMaxWidth) (d := terminalDefaultWidth)
    (by decide) (by decide)
  have hheight := chosen_size (n := heightChars) (m := terminalMaxHeight) (d := terminalDefaultHeight)
    (by decide) (by decide)
  generalize (if widthChars = 0 ∨ terminalMaxWidth < widthChars then terminalDefaultWidth else widthChars) = w
    at hwidth ⊢
  generalize (if heightChars = 0 ∨ terminalMaxHeight < heightChars then terminalDefaultHeight
    else heightChars) = h at hheight ⊢
  have hwhite : ansiColorWhite < ansiColorMax := by decide
  have hblack : ansiColorBlack < ansiColorMax := by decide
  split_ifs
  · have hblank : ∀ line ∈ List.replicate h ({ cells := List.replicate w {}, dirty := true } : TerminalLine),
        LineOk w line := by
      intro line hline
      rw [List.eq_of_mem_replicate hline]
      refine ⟨List.length_replicate, fun c hc => ?_⟩
      rw [List.eq_of_mem_replicate hc]
      exact ⟨by decide, by decide⟩
    have hsteady : Steady
        { width := w, height := h
          buffer := List.replicate h { cells := List.replicate w {}, dirty := true } } :=
      ⟨⟨List.length_replicate, fun line hline => (hblank line hline).1, fun line hline => (hblank line hline).2,
        hwhite, hblack⟩, hwidth, hheight, ⟨hwhite, hblack⟩, Nat.zero_lt_succ 31, ⟨le_rfl, le_rfl⟩⟩
    obtain ⟨u, hu, hs⟩ := steady_clear hsteady
    refine ⟨some u, by rw [hu]; rfl, ?_⟩
    rintro t ht
    exact Option.some.inj ht ▸ hs
  · exact ⟨none, rfl, nofun⟩

/-! ## Runs -/

def Step (t : Terminal) (c : TerminalCall) (t' : Terminal) : Prop := t.call c = some t'

end AAAos.Terminal
