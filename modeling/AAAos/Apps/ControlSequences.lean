import AAAos.Apps.ScreenSafety
import AAAos.Lib.TextBuffer
import Mathlib.Tactic.IntervalCases

/-!
# Control sequences

What `ESC [ P1;...;Pk F` does in `apps/terminal/terminal.c`, from the bytes that are fed to the command.

**What goes wrong.**  `terminal_parse_csi` leaves an empty parameter out, but for the first one before a `;`,
which is 1 for every command.  So the third parameter is read in the place of an empty second one
(`not_follows_grammar_empty`), `J` without a number erases what `1 J` erases, `; K` is taken for `1 ; K`, and `m`
has no reset for an empty parameter.  The numbers and the new place of the cursor wrap around.

**What is proved.**  Where the parameters that the command uses are read in their places, and nothing wraps around,
the sequence does what the command is to do.  A sequence that is too long for the buffer has no effect, and every
sequence ends in the normal state (`csi_follows_grammar`).
-/

namespace AAAos

/-! ## The grammar -/

/-- One more digit. -/
def addDigit (n : Nat) (c : UInt8) : Nat := n * 10 + (c.toNat - 48)

/-- One more digit of an `int`. -/
def addDigitInt (v : Int) (c : UInt8) : Int := wrapInt (wrapInt (v * 10) + (c.toNat - 48))

/-- A parameter, which is decimal or empty. -/
abbrev CsiParam : Type := { ds : List UInt8 // ∀ c ∈ ds, isParamDigit c = true }

namespace CsiParam

/-- The number. -/
def number (p : CsiParam) : Nat := p.1.foldl addDigit 0

/-- The number, or the default of the command. -/
def orDefault (default : Nat) (p : CsiParam) : Nat := if p.1 = [] then default else p.number

/-- What `terminal_parse_int` makes of the digits. -/
def parsed (p : CsiParam) : Int := p.1.foldl addDigitInt 0

end CsiParam

lemma CsiParam.number_le (p : CsiParam) (default : Nat) : p.number ≤ p.orDefault default := by
  rw [CsiParam.orDefault]
  split_ifs with hp
  · rw [CsiParam.number, hp]
    exact Nat.zero_le _
  · exact Nat.le_refl _

/-- The parameters behind the first one, each with the `;` before it. -/
def csiTail (ps : List CsiParam) : List UInt8 := ps.flatMap fun p => 59 :: p.1

/-- `P1;...;Pk`. -/
def csiText (p : CsiParam) (ps : List CsiParam) : List UInt8 := p.1 ++ csiTail ps

/-- The finals of the grammar. -/
def csiFinals : List Char := ['A', 'B', 'C', 'D', 'E', 'F', 'G', 'H', 'f', 'J', 'K', 'S', 'T', 'm', 's', 'u']

def finalByte (final : Char) : UInt8 := UInt8.ofNat final.toNat

/-- `ESC [ P1;...;Pk F`. -/
def csiSequence (p : CsiParam) (ps : List CsiParam) (final : Char) : List UInt8 :=
  27 :: 91 :: (csiText p ps ++ [finalByte final])

/-- The sequence fits in `esc_buffer`. -/
def CsiFits (p : CsiParam) (ps : List CsiParam) : Prop := (csiText p ps).length + 1 < terminalEscapeBufferSize

/-! ## Numbers -/

lemma wrapInt_of_int {x : Int} (h : -2 ^ 31 ≤ x) (h' : x < 2 ^ 31) : wrapInt x = x := by
  rw [wrapInt, Int.bmod]
  split_ifs <;> omega

lemma le_addDigits (ds : List UInt8) (n : Nat) : n ≤ ds.foldl addDigit n := by
  induction ds generalizing n with
  | nil => exact Nat.le_refl n
  | cons c ds ih =>
    have hstep : n ≤ addDigit n c := by
      unfold addDigit
      omega
    exact Nat.le_trans hstep (ih _)

lemma addDigits_eq {ds : List UInt8} (hdigits : ∀ c ∈ ds, isParamDigit c = true) {n : Nat}
    (hsmall : ds.foldl addDigit n < 2 ^ 31) : ds.foldl addDigitInt n = (ds.foldl addDigit n : Nat) := by
  induction ds generalizing n with
  | nil => rfl
  | cons c ds ih =>
    have hc : 48 ≤ c.toNat := by
      have hdigit := hdigits c List.mem_cons_self
      rw [isParamDigit, Bool.and_eq_true, decide_eq_true_eq] at hdigit
      exact UInt8.le_iff_toNat_le.mp hdigit.1
    have hle : addDigit n c < 2 ^ 31 := Nat.lt_of_le_of_lt (le_addDigits ds _) hsmall
    have hstep : addDigitInt n c = (addDigit n c : Nat) := by
      unfold addDigit at hle
      rw [addDigitInt, wrapInt_of_int (x := n * 10) (by omega) (by omega),
        wrapInt_of_int (by omega) (by omega), addDigit]
      omega
    rw [List.foldl_cons, hstep]
    exact ih (fun d hd => hdigits d (List.mem_cons_of_mem _ hd)) hsmall

lemma parsed_eq {p : CsiParam} (h : p.number < 2 ^ 31) : p.parsed = p.number := addDigits_eq p.2 h

lemma parseDigits_append {ds rest : List UInt8} (hdigits : ∀ c ∈ ds, isParamDigit c = true)
    (hrest : ∀ c ∈ rest.head?, isParamDigit c = false) (v : Int) :
    parseDigits (ds ++ rest) v = (ds.foldl addDigitInt v, rest) := by
  induction ds generalizing v with
  | nil =>
    cases rest with
    | nil => rfl
    | cons c rest =>
      rw [List.nil_append, parseDigits, if_neg (by rw [hrest c rfl]; decide)]
      rfl
  | cons c ds ih =>
    rw [List.cons_append, parseDigits, if_pos (hdigits c List.mem_cons_self),
      ih (fun d hd => hdigits d (List.mem_cons_of_mem _ hd))]
    rfl

/-! ## Parameters -/

/-- What the loop keeps of the parameters behind the first one. -/
def keptParams (ps : List CsiParam) : List Int := (ps.filter fun p => p.1 ≠ []).map CsiParam.parsed

/-- What the loop makes of the parameters: an empty one is left out, but for the first before a `;`. -/
def readParams (p : CsiParam) (ps : List CsiParam) : List Int :=
  if p.1 = [] then if ps = [] then [] else 1 :: keptParams ps else p.parsed :: keptParams ps

lemma parseParams_param {p : CsiParam} {rest : List UInt8} {params : List Int} (hp : p.1 ≠ [])
    (hrest : ∀ c ∈ rest.head?, isParamDigit c = false) (hcount : params.length < 16) :
    parseParams (p.1 ++ rest) params = parseParams rest (params ++ [p.parsed]) := by
  obtain ⟨ds, hdigits⟩ := p
  cases ds with
  | nil => exact absurd rfl hp
  | cons c ds =>
    have hparse : terminalParseInt (c :: ds ++ rest) 1 = (CsiParam.parsed ⟨c :: ds, hdigits⟩, rest) := by
      rw [terminalParseInt, parseDigits_append hdigits hrest]
      dsimp only
      rw [if_neg (by simp
                     omega)]
      rfl
    have hdigit : isParamDigit c = true := hdigits c List.mem_cons_self
    rw [show (⟨c :: ds, hdigits⟩ : CsiParam).1 ++ rest = c :: (ds ++ rest) from rfl, parseParams,
      if_neg (Nat.not_le.mpr hcount), dif_pos hdigit]
    rw [← List.cons_append, hparse]

/-- The `;` between two parameters. -/
lemma parseParams_separator {rest : List UInt8} {params : List Int} (hcount : params.length < 16) :
    parseParams (59 :: rest) params = parseParams rest (if params = [] then [1] else params) := by
  rw [parseParams, if_neg (Nat.not_le.mpr hcount), dif_neg (by decide), if_pos rfl]

lemma parseParams_final {b : UInt8} (hdigit : isParamDigit b = false) (hsep : b ≠ 59) (params : List Int) :
    parseParams [b] params = (params, [b]) := by
  rw [parseParams]
  split_ifs with hcount hb
  · rfl
  · rw [hdigit] at hb
    cases hb
  · rfl

lemma csiTail_cons (p : CsiParam) (ps : List CsiParam) : csiTail (p :: ps) = 59 :: (p.1 ++ csiTail ps) := by
  rfl

lemma length_csiTail_cons (p : CsiParam) (ps : List CsiParam) :
    (csiTail (p :: ps)).length = 1 + (p.1.length + (csiTail ps).length) := by
  simp [csiTail_cons, Nat.add_comm]

lemma head_csiTail {b : UInt8} (hdigit : isParamDigit b = false) (ps : List CsiParam) :
    ∀ c ∈ (csiTail ps ++ [b]).head?, isParamDigit c = false := by
  intro c hc
  cases ps with
  | nil =>
    obtain rfl := Option.some.inj hc
    exact hdigit
  | cons p ps =>
    obtain rfl := Option.some.inj hc
    decide

lemma keptParams_cons (p : CsiParam) (ps : List CsiParam) :
    keptParams (p :: ps) = keptParams [p] ++ keptParams ps := by
  rw [keptParams, keptParams, keptParams, ← List.map_append, ← List.filter_append, List.singleton_append]

lemma length_keptParam (p : CsiParam) : (keptParams [p]).length ≤ p.1.length ∧ (keptParams [p]).length ≤ 1 := by
  by_cases hp : p.1 = []
  · simp [keptParams, hp]
  · have hpos := List.length_pos_iff.mpr hp
    simp [keptParams, hp]
    omega

lemma parseParams_keptParam {p : CsiParam} {rest : List UInt8} {params : List Int}
    (hrest : ∀ c ∈ rest.head?, isParamDigit c = false) (hcount : params.length < 16) :
    parseParams (p.1 ++ rest) params = parseParams rest (params ++ keptParams [p]) := by
  by_cases hp : p.1 = []
  · have hkept : keptParams [p] = [] := by simp [keptParams, hp]
    simp [hp, hkept]
  · have hkept : keptParams [p] = [p.parsed] := by simp [keptParams, hp]
    rw [hkept]
    exact parseParams_param hp hrest hcount

/-- The parameters from one on, where the text is short enough for the 16 places. -/
lemma parseParams_tail {b : UInt8} (hdigit : isParamDigit b = false) (hsep : b ≠ 59) (ps : List CsiParam)
    (p : CsiParam) (params : List Int) (hparams : params ≠ [])
    (hroom : p.1.length + (csiTail ps).length + 2 * params.length ≤ 31) :
    parseParams (p.1 ++ (csiTail ps ++ [b])) params = (params ++ keptParams (p :: ps), [b]) := by
  induction ps generalizing p params with
  | nil =>
    rw [parseParams_keptParam (head_csiTail hdigit []) (by omega)]
    exact parseParams_final hdigit hsep _
  | cons q ps ih =>
    have hkept := length_keptParam p
    have hmore : params ++ keptParams [p] ≠ [] := by simp [hparams]
    have hlen : (params ++ keptParams [p]).length = params.length + (keptParams [p]).length :=
      List.length_append
    have htail := length_csiTail_cons q ps
    rw [parseParams_keptParam (head_csiTail hdigit (q :: ps)) (by omega), csiTail_cons, List.cons_append,
      parseParams_separator (by omega), if_neg hmore, List.append_assoc q.1, ih q _ hmore (by omega),
      keptParams_cons p (q :: ps), List.append_assoc]

/-- **The parameters are read** up to the final. -/
lemma parseParams_text {b : UInt8} (hdigit : isParamDigit b = false) (hsep : b ≠ 59) {p : CsiParam}
    {ps : List CsiParam} (hfits : CsiFits p ps) :
    parseParams (csiText p ps ++ [b]) [] = (readParams p ps, [b]) := by
  have hsize : p.1.length + (csiTail ps).length + 1 < 32 := by
    have := hfits
    rwa [CsiFits, csiText, List.length_append] at this
  rw [csiText, List.append_assoc, readParams]
  by_cases hp : p.1 = []
  · rw [if_pos hp, hp, List.nil_append]
    cases ps with
    | nil =>
      exact parseParams_final hdigit hsep _
    | cons q ps =>
      have htail := length_csiTail_cons q ps
      rw [csiTail_cons, List.cons_append, parseParams_separator (by decide), if_pos rfl,
        List.append_assoc q.1, parseParams_tail hdigit hsep ps q [1] (by simp)
          (by rw [List.length_singleton]; omega)]
      rfl
  · rw [if_neg hp, parseParams_param hp (head_csiTail hdigit ps) (by decide), List.nil_append]
    cases ps with
    | nil => exact parseParams_final hdigit hsep _
    | cons q ps =>
      have htail := length_csiTail_cons q ps
      have hcount : [p.parsed].length < 16 := Nat.lt_of_sub_eq_succ rfl
      rw [csiTail_cons, List.cons_append, parseParams_separator hcount, if_neg (by simp),
        List.append_assoc q.1, parseParams_tail hdigit hsep ps q _ (by simp) (by simp; omega)]
      rfl

lemma parseParams_suffix (seq : List UInt8) (params : List Int) : (parseParams seq params).2 <:+ seq := by
  have hdigits : ∀ (ds : List UInt8) (v : Int), (parseDigits ds v).2 <:+ ds := by
    intro ds
    induction ds with
    | nil => exact fun v => List.suffix_refl _
    | cons c ds ih =>
      intro v
      rw [parseDigits]
      split_ifs
      · exact (ih _).trans (List.suffix_cons c ds)
      · exact List.suffix_refl _
  fun_induction parseParams seq params with
  | case1 | case2 => exact List.suffix_refl _
  | case3 params c rest hcount hc r ih => exact ih.trans (hdigits (c :: rest) 0)
  | case4 params rest hcount hc ih => exact ih.trans (List.suffix_cons _ _)
  | case5 => exact List.suffix_refl _

/-! ## The escape buffer -/

/-- A byte of the parameters. -/
def IsParamByte (c : UInt8) : Prop := isParamDigit c = true ∨ c = 59

lemma isParamByte_csiText {p : CsiParam} {ps : List CsiParam} {c : UInt8} (hc : c ∈ csiText p ps) :
    IsParamByte c := by
  rw [csiText, List.mem_append, csiTail, List.mem_flatMap] at hc
  rcases hc with hp | ⟨q, -, hq⟩
  · exact .inl (p.2 c hp)
  · rcases List.mem_cons.mp hq with rfl | hq
    · exact .inr rfl
    · exact .inl (q.2 c hq)

lemma IsParamByte.mem {c : UInt8} (h : IsParamByte c) :
    c ∈ [48, 49, 50, 51, 52, 53, 54, 55, 56, 57, (59 : UInt8)] := by
  rcases h with h | rfl
  · rw [isParamDigit, Bool.and_eq_true, decide_eq_true_eq, decide_eq_true_eq] at h
    obtain ⟨hlow, hhigh⟩ : 48 ≤ c.toNat ∧ c.toNat ≤ 57 := h
    have hc : c = UInt8.ofNat c.toNat := UInt8.ofNat_toNat.symm
    rw [hc]
    interval_cases c.toNat <;> decide
  · decide

lemma IsParamByte.continues {c : UInt8} (h : IsParamByte c) : Terminal.endsSequence c = false := by
  have hall : [48, 49, 50, 51, 52, 53, 54, 55, 56, 57, (59 : UInt8)].all
      (fun d => !Terminal.endsSequence d) = true := by decide
  exact Bool.not_eq_true' _ ▸ List.all_eq_true.mp hall c h.mem

lemma take_take_append (xs ys : List UInt8) (n : Nat) : (xs.take n ++ ys).take n = (xs ++ ys).take n := by
  rw [List.take_append, List.take_append, List.take_take, Nat.min_self, List.length_take]
  by_cases hle : n ≤ xs.length
  · simp [Nat.min_eq_left hle, Nat.sub_eq_zero_of_le hle]
  · rw [Nat.min_eq_right (by omega)]

/-- The bytes that are kept begin the buffer, and they are a string. -/
structure EscapeHolds (buf kept : List UInt8) : Prop where
  size : buf.length = terminalEscapeBufferSize
  room : kept.length < terminalEscapeBufferSize
  start : kept <+: buf
  ended : kept ≠ [] → Terminated 0 buf kept

namespace Terminal

variable {t : Terminal} {buf kept : List UInt8} {mem : Nat → Bool}

/-- The terminal in the middle of a sequence. -/
def inSequence (t : Terminal) (buf : List UInt8) (len : Nat) : Terminal :=
  { t with escState := .csi, escBuffer := buf, escLength := len }

/-- The terminal behind a sequence. -/
def leaveSequence (t : Terminal) : Terminal := { t with escState := .normal, escLength := 0 }

/-- Some bytes. -/
def feed (t : Terminal) (cs : List UInt8) (mem : Nat → Bool) : Option Terminal :=
  cs.foldlM (fun t c => t.terminalPutc c mem) t

lemma keepEscapeString_inSequence (len : Nat) (c : UInt8) : (t.inSequence buf len).keepEscapeString c =
    if len < terminalEscapeBufferSize - 1 then t.inSequence ((buf.set len c).set (len + 1) 0) (len + 1)
    else t.inSequence buf len := by
  by_cases hroom : len < terminalEscapeBufferSize - 1
  · have hput : (t.inSequence buf len).keepEscape c = t.inSequence (buf.set len c) (len + 1) :=
      if_pos (show (t.inSequence buf len).escLength < terminalEscapeBufferSize - 1 from hroom)
    rw [if_pos hroom, keepEscapeString,
      if_pos (show (t.inSequence buf len).escLength < terminalEscapeBufferSize - 1 from hroom), hput]
    rfl
  · rw [if_neg hroom, keepEscapeString,
      if_neg (show ¬(t.inSequence buf len).escLength < terminalEscapeBufferSize - 1 from hroom)]

/-- **One byte is kept**, or it is one too many. -/
lemma keepEscapeString_holds (h : EscapeHolds buf kept) (c : UInt8) :
    ∃ buf', (t.inSequence buf kept.length).keepEscapeString c =
        t.inSequence buf' ((kept ++ [c]).take (terminalEscapeBufferSize - 1)).length ∧
      EscapeHolds buf' ((kept ++ [c]).take (terminalEscapeBufferSize - 1)) := by
  have hsize := h.size
  by_cases hroom : kept.length < terminalEscapeBufferSize - 1
  · have hall : (kept ++ [c]).take (terminalEscapeBufferSize - 1) = kept ++ [c] := by
      refine List.take_of_length_le ?_
      simp
      omega
    obtain ⟨rest, hrest⟩ := h.start
    obtain ⟨u, v, rest, rfl⟩ : ∃ u v rest', rest = u :: v :: rest' := by
      rw [← hrest, List.length_append] at hsize
      rcases rest with _ | ⟨u, _ | ⟨v, rest⟩⟩
      · simp only [List.length_nil] at hsize
        omega
      · simp only [List.length_cons, List.length_nil] at hsize
        omega
      · exact ⟨u, v, rest, rfl⟩
    have hfirst : buf.set kept.length c = kept ++ c :: v :: rest := by
      simp [← hrest]
    have hsecond : (kept ++ c :: v :: rest).set (kept.length + 1) 0 = kept ++ [c] ++ 0 :: rest := by
      rw [List.set_append_right _ _ (Nat.le_add_right _ _), Nat.add_sub_cancel_left, List.set_cons_succ,
        List.set_cons_zero, List.append_assoc, List.singleton_append]
    have hlen : (kept ++ [c]).length = kept.length + 1 := List.length_append
    rw [hall]
    refine ⟨kept ++ [c] ++ 0 :: rest, ?_, ?_, by omega, List.prefix_append _ _, fun _ => ⟨rest, rfl⟩⟩
    · rw [keepEscapeString_inSequence, if_pos hroom, hfirst, hsecond, hlen]
    · rw [← hrest] at hsize
      rw [← hsize]
      simp only [List.length_append, List.length_cons, List.length_nil]
      omega
  · have hfull : (kept ++ [c]).take (terminalEscapeBufferSize - 1) = kept := by
      have := h.room
      exact List.take_left' (by omega)
    rw [hfull]
    exact ⟨buf, by rw [keepEscapeString_inSequence, if_neg hroom], h⟩

/-- **The bytes of the parameters are kept**, as many as there is room for. -/
lemma feed_params (h : EscapeHolds buf kept) {cs : List UInt8} (hcs : ∀ c ∈ cs, IsParamByte c) :
    ∃ buf', (t.inSequence buf kept.length).feed cs mem =
        some (t.inSequence buf' ((kept ++ cs).take (terminalEscapeBufferSize - 1)).length) ∧
      EscapeHolds buf' ((kept ++ cs).take (terminalEscapeBufferSize - 1)) := by
  induction cs generalizing buf kept with
  | nil =>
    have hall : (kept ++ []).take (terminalEscapeBufferSize - 1) = kept := by
      have := h.room
      rw [List.append_nil]
      exact List.take_of_length_le (by omega)
    rw [hall]
    exact ⟨buf, rfl, h⟩
  | cons c cs ih =>
    obtain ⟨buf', hkeep, hholds⟩ := keepEscapeString_holds (t := t) h c
    have hput : (t.inSequence buf kept.length).terminalPutc c mem =
        some (t.inSequence buf' ((kept ++ [c]).take (terminalEscapeBufferSize - 1)).length) := by
      have hends := (hcs c List.mem_cons_self).continues
      show (if endsSequence c = true then _ else some ((t.inSequence buf kept.length).keepEscapeString c)) = _
      rw [hends, hkeep]
      rfl
    obtain ⟨buf'', hfeed, hholds'⟩ := ih hholds fun d hd => hcs d (List.mem_cons_of_mem _ hd)
    have hsame : ((kept ++ [c]).take (terminalEscapeBufferSize - 1) ++ cs).take (terminalEscapeBufferSize - 1) =
        (kept ++ c :: cs).take (terminalEscapeBufferSize - 1) := by
      rw [show kept ++ c :: cs = kept ++ [c] ++ cs by simp]
      exact take_take_append _ _ _
    rw [hsame] at hfeed hholds'
    refine ⟨buf'', ?_, hholds'⟩
    rwa [feed, List.foldlM_cons, hput]

/-! ## Commands -/

/-- The parameter at a place, or the default. -/
def csiParam (ps : List CsiParam) (i default : Nat) : Nat := (ps[i]?.map (·.orDefault default)).getD default

/-- What the command is to do, on the whole numbers: `terminal_set_cursor` takes a place outside of the screen
to the edge. -/
def csiCommand (t : Terminal) (final : Char) (ps : List CsiParam) (mem : Nat → Bool) : Option Terminal :=
  let n := csiParam ps 0 1
  match final with
  | 'A' => some (t.terminalSetCursor t.cursorX (t.cursorY - n))
  | 'B' => some (t.terminalSetCursor t.cursorX (t.cursorY + n))
  | 'C' => some (t.terminalSetCursor (t.cursorX + n) t.cursorY)
  | 'D' => some (t.terminalSetCursor (t.cursorX - n) t.cursorY)
  | 'E' => some (t.terminalSetCursor 0 (t.cursorY + n))
  | 'F' => some (t.terminalSetCursor 0 (t.cursorY - n))
  | 'G' => some (t.terminalSetCursor (n - 1) t.cursorY)
  | 'H' => some (t.terminalSetCursor (csiParam ps 1 1 - 1) (n - 1))
  | 'f' => some (t.terminalSetCursor (csiParam ps 1 1 - 1) (n - 1))
  | 'J' => t.eraseDisplay (csiParam ps 0 0)
  | 'K' => t.terminalClearLine (csiParam ps 0 0)
  | 'S' => if n = 0 then some t else t.terminalScrollUp n mem
  | 'T' => if n = 0 then some t else t.terminalScrollDown n
  | 'm' => some ((ps.map fun p => (p.orDefault 0 : Int)).foldl selectGraphic t)
  | 's' => some t.terminalSaveCursor
  | 'u' => some t.terminalRestoreCursor
  | _ => some t

/-- The second parameter is a number of an `int`, and if it is empty, then so are those behind it. -/
def SecondReads (p : CsiParam) (ps : List CsiParam) : Prop :=
  csiParam (p :: ps) 1 1 < 2 ^ 31 ∧ ((∃ q, ps.head? = some q ∧ q.1 = []) → ∀ q ∈ ps, q.1 = [])

/-- The parameters that the command uses are numbers of an `int` and read in their places, and a movement does
not go beyond the `int`. -/
def ReadsRight (t : Terminal) (final : Char) (p : CsiParam) (ps : List CsiParam) : Prop :=
  match final with
  | 'A' => p.number < 2 ^ 31
  | 'B' => t.cursorY + p.orDefault 1 < 2 ^ 31
  | 'C' => t.cursorX + p.orDefault 1 < 2 ^ 31
  | 'D' => p.number < 2 ^ 31
  | 'E' => t.cursorY + p.orDefault 1 < 2 ^ 31
  | 'F' => p.number < 2 ^ 31
  | 'G' => p.number < 2 ^ 31
  | 'H' => p.number < 2 ^ 31 ∧ SecondReads p ps
  | 'f' => p.number < 2 ^ 31 ∧ SecondReads p ps
  | 'J' => p.number < 2 ^ 31 ∧ p.1 ≠ []
  | 'K' => p.number < 2 ^ 31 ∧ (p.1 = [] → ps = [])
  | 'S' => p.number < 2 ^ 31
  | 'T' => p.number < 2 ^ 31
  | 'm' => (∀ q ∈ p :: ps, q.number < 2 ^ 31) ∧ (ps = [] ∨ ∀ q ∈ p :: ps, q.1 ≠ [])
  | _ => True

lemma head_readParams {p : CsiParam} (ps : List CsiParam) (hp : p.number < 2 ^ 31) :
    (readParams p ps).head?.getD 1 = (csiParam (p :: ps) 0 1 : Nat) := by
  have hone : csiParam (p :: ps) 0 1 = p.orDefault 1 := rfl
  rw [hone, CsiParam.orDefault, readParams]
  split_ifs
  · rfl
  · rfl
  · exact parsed_eq hp

lemma second_readParams {p : CsiParam} {ps : List CsiParam} (h : SecondReads p ps) :
    (readParams p ps).tail.head?.getD 1 = (csiParam (p :: ps) 1 1 : Nat) := by
  obtain ⟨hsecond, hplace⟩ := h
  have htail : (readParams p ps).tail = keptParams ps := by
    rw [readParams]
    split_ifs with hp hps
    · rw [hps]
      rfl
    · rfl
    · rfl
  rw [htail]
  cases ps with
  | nil => rfl
  | cons q ps =>
    have hone : csiParam (p :: q :: ps) 1 1 = q.orDefault 1 := rfl
    rw [hone, CsiParam.orDefault] at hsecond
    rw [hone, CsiParam.orDefault]
    by_cases hq : q.1 = []
    · have hnone : keptParams (q :: ps) = [] := by
        rw [keptParams, List.map_eq_nil_iff, List.filter_eq_nil_iff]
        intro r hr
        rw [hplace ⟨q, rfl, hq⟩ r hr]
        decide
      rw [if_pos hq, hnone]
      rfl
    · have hhead : keptParams (q :: ps) = q.parsed :: keptParams ps := by
        rw [keptParams, List.filter_cons_of_pos (by simp [hq])]
        rfl
      rw [if_neg hq] at hsecond
      rw [if_neg hq, hhead]
      exact parsed_eq hsecond

/-- The parameters of `m`. -/
lemma graphics_readParams {p : CsiParam} {ps : List CsiParam} (hnumbers : ∀ q ∈ p :: ps, q.number < 2 ^ 31)
    (hplace : ps = [] ∨ ∀ q ∈ p :: ps, q.1 ≠ []) (t : Terminal) :
    (if readParams p ps = [] then t.terminalResetAttributes else (readParams p ps).foldl selectGraphic t) =
      ((p :: ps).map fun q => (q.orDefault 0 : Int)).foldl selectGraphic t := by
  by_cases hp : p.1 = []
  · obtain rfl : ps = [] := hplace.resolve_right fun h => h p List.mem_cons_self hp
    have hempty : readParams p [] = [] := by simp [readParams, hp]
    have hzero : p.orDefault 0 = 0 := if_pos hp
    rw [if_pos hempty, List.map_singleton, hzero]
    rfl
  · have hsame : readParams p ps = (p :: ps).map fun q => (q.orDefault 0 : Int) := by
      have hone : ∀ q ∈ p :: ps, q.1 ≠ [] → q.parsed = (q.orDefault 0 : Int) := by
        intro q hq hne
        rw [CsiParam.orDefault, if_neg hne, parsed_eq (hnumbers q hq)]
      rw [readParams, if_neg hp, hone p List.mem_cons_self hp]
      rcases hplace with rfl | hall
      · rfl
      · have hkept : ps.filter (fun q => q.1 ≠ []) = ps :=
          List.filter_eq_self.mpr fun q hq => decide_eq_true (hall q (List.mem_cons_of_mem _ hq))
        rw [keptParams, hkept]
        refine congrArg _ (List.map_congr_left fun q hq => ?_)
        exact hone q (List.mem_cons_of_mem _ hq) (hall q (List.mem_cons_of_mem _ hq))
    rw [← hsame, if_neg]
    rw [readParams, if_neg hp]
    exact List.cons_ne_nil _ _

lemma finalByte_facts {final : Char} (h : final ∈ csiFinals) :
    endsSequence (finalByte final) = true ∧ isParamDigit (finalByte final) = false ∧ finalByte final ≠ 59 ∧
      finalByte final ≠ 0 ∧ Char.ofNat (finalByte final).toNat = final := by
  have hall : csiFinals.all (fun final => decide (endsSequence (finalByte final) = true ∧
      isParamDigit (finalByte final) = false ∧ finalByte final ≠ 59 ∧ finalByte final ≠ 0 ∧
        Char.ofNat (finalByte final).toNat = final)) = true := by decide
  exact of_decide_eq_true (List.all_eq_true.mp hall final h)

/-- The first parameter is a number of an `int`. -/
lemma first_lt {p : CsiParam} (ps : List CsiParam) (hp : p.number < 2 ^ 31) : csiParam (p :: ps) 0 1 < 2 ^ 31 := by
  have hone : csiParam (p :: ps) 0 1 = p.orDefault 1 := rfl
  rw [hone, CsiParam.orDefault]
  split_ifs
  · decide
  · exact hp

/-- The cursor is in the first half of the `int`. -/
def CursorFits (t : Terminal) : Prop :=
  (0 ≤ t.cursorX ∧ t.cursorX < 2 ^ 31) ∧ 0 ≤ t.cursorY ∧ t.cursorY < 2 ^ 31

lemma moveCursor_eq {dx dy : Int} (hx : -2 ^ 31 ≤ t.cursorX + dx ∧ t.cursorX + dx < 2 ^ 31)
    (hy : -2 ^ 31 ≤ t.cursorY + dy ∧ t.cursorY + dy < 2 ^ 31) :
    t.terminalMoveCursor dx dy = t.terminalSetCursor (t.cursorX + dx) (t.cursorY + dy) := by
  rw [terminalMoveCursor, wrapInt_of_int hx.1 hx.2, wrapInt_of_int hy.1 hy.2]

lemma moveUp (h : t.CursorFits) {n : Nat} (hn : n < 2 ^ 31) :
    t.terminalMoveCursor 0 (wrapInt (-n)) = t.terminalSetCursor t.cursorX (t.cursorY - n) := by
  obtain ⟨hx, hy⟩ := h
  rw [wrapInt_of_int (by omega) (by omega), moveCursor_eq ⟨by omega, by omega⟩ ⟨by omega, by omega⟩, Int.add_zero,
    ← Int.sub_eq_add_neg]

lemma moveDown (h : t.CursorFits) {n : Nat} (hn : t.cursorY + n < 2 ^ 31) :
    t.terminalMoveCursor 0 n = t.terminalSetCursor t.cursorX (t.cursorY + n) := by
  obtain ⟨hx, hy⟩ := h
  rw [moveCursor_eq ⟨by omega, by omega⟩ ⟨by omega, by omega⟩, Int.add_zero]

lemma moveRight (h : t.CursorFits) {n : Nat} (hn : t.cursorX + n < 2 ^ 31) :
    t.terminalMoveCursor n 0 = t.terminalSetCursor (t.cursorX + n) t.cursorY := by
  obtain ⟨hx, hy⟩ := h
  rw [moveCursor_eq ⟨by omega, by omega⟩ ⟨by omega, by omega⟩, Int.add_zero]

lemma moveLeft (h : t.CursorFits) {n : Nat} (hn : n < 2 ^ 31) :
    t.terminalMoveCursor (wrapInt (-n)) 0 = t.terminalSetCursor (t.cursorX - n) t.cursorY := by
  obtain ⟨hx, hy⟩ := h
  rw [wrapInt_of_int (by omega) (by omega), moveCursor_eq ⟨by omega, by omega⟩ ⟨by omega, by omega⟩, Int.add_zero,
    ← Int.sub_eq_add_neg]

lemma CursorFits.firstColumn (h : t.CursorFits) : CursorFits { t with cursorX := 0 } :=
  ⟨⟨Int.le_refl 0, show (0 : Int) < 2 ^ 31 by decide⟩, h.2⟩

lemma scroll_up (k : Nat) : t.terminalScroll k mem = if k = 0 then some t else t.terminalScrollUp k mem := by
  rw [terminalScroll]
  by_cases hk : k = 0
  · simp [hk]
  · simp [hk]

lemma scroll_down {k : Nat} (hk : k < 2 ^ 31) :
    t.terminalScroll (wrapInt (-k)) mem = if k = 0 then some t else t.terminalScrollDown k := by
  rw [terminalScroll, wrapInt_of_int (by omega) (by omega), Int.neg_neg]
  by_cases hzero : k = 0
  · simp [hzero]
  · rw [if_neg hzero, if_neg (by omega), if_neg (by omega), wrapInt_of_int (by omega) (by omega)]

/-- **The command** of a string whose parameters are read right. -/
lemma parseCsi_command (h : t.CursorFits) {final : Char} (hfinal : final ∈ csiFinals) {p : CsiParam}
    {ps : List CsiParam} (hreads : t.ReadsRight final p ps) {seq : List UInt8}
    (hseq : parseParams seq [] = (readParams p ps, [finalByte final])) :
    (t.terminalParseCsi seq mem).map Prod.snd = t.csiCommand final (p :: ps) mem := by
  have hchar := (finalByte_facts hfinal).2.2.2.2
  have hfirst := fun hp => head_readParams (p := p) ps hp
  have hsmall := fun hp => first_lt (p := p) ps hp
  have hone : csiParam (p :: ps) 0 1 = p.orDefault 1 := rfl
  have hle := CsiParam.number_le p 1
  have hrows := h.2.1
  have hcolumns := h.1.1
  have hposition : p.number < 2 ^ 31 ∧ SecondReads p ps →
      some (t.terminalSetCursor (wrapInt ((readParams p ps).tail.head?.getD 1 - 1))
        (wrapInt ((readParams p ps).head?.getD 1 - 1))) =
          some (t.terminalSetCursor (csiParam (p :: ps) 1 1 - 1) (csiParam (p :: ps) 0 1 - 1)) := by
    rintro ⟨hp, hsecond⟩
    have hlt := hsmall hp
    have hlt₂ := hsecond.1
    rw [hfirst hp, second_readParams hsecond, wrapInt_of_int (by omega) (by omega),
      wrapInt_of_int (by omega) (by omega)]
  unfold terminalParseCsi
  rw [hseq]
  dsimp only
  rw [List.head?_cons, Option.getD_some, hchar]
  simp only [csiFinals, List.mem_cons, List.not_mem_nil, or_false] at hfinal
  set k := csiParam (p :: ps) 0 1 with hk
  rcases hfinal with rfl | rfl | rfl | rfl | rfl | rfl | rfl | rfl | rfl | rfl | rfl | rfl | rfl | rfl | rfl | rfl
  · have hp : p.number < 2 ^ 31 := hreads
    rw [hfirst hp]
    exact congrArg some (moveUp h (hsmall hp))
  · have hroom : t.cursorY + p.orDefault 1 < 2 ^ 31 := hreads
    rw [hfirst (by omega)]
    exact congrArg some (moveDown h (by omega))
  · have hroom : t.cursorX + p.orDefault 1 < 2 ^ 31 := hreads
    rw [hfirst (by omega)]
    exact congrArg some (moveRight h (by omega))
  · have hp : p.number < 2 ^ 31 := hreads
    rw [hfirst hp]
    exact congrArg some (moveLeft h (hsmall hp))
  · have hroom : t.cursorY + p.orDefault 1 < 2 ^ 31 := hreads
    have hroom' : t.cursorY + k < 2 ^ 31 := by omega
    rw [hfirst (by omega)]
    exact congrArg some (moveDown h.firstColumn hroom')
  · have hp : p.number < 2 ^ 31 := hreads
    rw [hfirst hp]
    exact congrArg some (moveUp h.firstColumn (hsmall hp))
  · have hp : p.number < 2 ^ 31 := hreads
    have hlt := hsmall hp
    rw [hfirst hp]
    show some (t.terminalSetCursor (wrapInt (k - 1)) t.cursorY) = some (t.terminalSetCursor (k - 1) t.cursorY)
    rw [wrapInt_of_int (by omega) (by omega)]
  · exact hposition hreads
  · exact hposition hreads
  · obtain ⟨hp, hne⟩ : p.number < 2 ^ 31 ∧ p.1 ≠ [] := hreads
    rw [hfirst hp]
    show ((t.eraseDisplay k).map fun u => (true, u)).map Prod.snd = t.eraseDisplay (p.orDefault 0 : Nat)
    rw [hone, CsiParam.orDefault, CsiParam.orDefault, if_neg hne, if_neg hne, Option.map_map]
    exact Option.map_id'
  · obtain ⟨hp, hplace⟩ : p.number < 2 ^ 31 ∧ (p.1 = [] → ps = []) := hreads
    have hmode : (readParams p ps).head?.getD 0 = (p.orDefault 0 : Nat) := by
      rw [readParams, CsiParam.orDefault]
      by_cases hempty : p.1 = []
      · rw [if_pos hempty, if_pos hempty, if_pos (hplace hempty)]
        rfl
      · rw [if_neg hempty, if_neg hempty]
        exact parsed_eq hp
    show ((t.terminalClearLine ((readParams p ps).head?.getD 0)).map fun u => (true, u)).map Prod.snd =
      t.terminalClearLine (p.orDefault 0 : Nat)
    rw [hmode, Option.map_map]
    exact Option.map_id'
  · have hp : p.number < 2 ^ 31 := hreads
    rw [hfirst hp]
    show ((t.terminalScroll k mem).map fun u => (true, u)).map Prod.snd =
      if k = 0 then some t else t.terminalScrollUp k mem
    rw [Option.map_map, scroll_up]
    exact Option.map_id'
  · have hp : p.number < 2 ^ 31 := hreads
    rw [hfirst hp]
    show ((t.terminalScroll (wrapInt (-k)) mem).map fun u => (true, u)).map Prod.snd =
      if k = 0 then some t else t.terminalScrollDown k
    rw [Option.map_map, scroll_down (hsmall hp)]
    exact Option.map_id'
  · obtain ⟨hnumbers, hplace⟩ : (∀ q ∈ p :: ps, q.number < 2 ^ 31) ∧ (ps = [] ∨ ∀ q ∈ p :: ps, q.1 ≠ []) := hreads
    exact congrArg some (graphics_readParams hnumbers hplace t)
  · rfl
  · rfl

lemma parseCsi_unfinished {seq : List UInt8} (h : ∀ c ∈ seq, IsParamByte c) :
    t.terminalParseCsi seq mem = some (false, t) := by
  have hrest : ∀ c ∈ (parseParams seq []).2, IsParamByte c := fun c hc =>
    h c ((parseParams_suffix seq []).subset hc)
  unfold terminalParseCsi
  generalize parseParams seq [] = r at hrest
  obtain ⟨params, rest⟩ := r
  cases rest with
  | nil => rfl
  | cons c rest =>
    have hc := (hrest c List.mem_cons_self).mem
    simp only [List.mem_cons, List.not_mem_nil, or_false] at hc
    rcases hc with rfl | rfl | rfl | rfl | rfl | rfl | rfl | rfl | rfl | rfl | rfl <;> rfl

/-! ## Sequences -/

/-- **A sequence is fed**: the bytes of the parameters and the final are kept, as many as there is room for, and
the parser has them. -/
lemma feed_sequence (hstate : t.escState = .normal) (hsize : t.escBuffer.length = terminalEscapeBufferSize)
    (p : CsiParam) (ps : List CsiParam) {final : Char} (hfinal : final ∈ csiFinals) (mem : Nat → Bool) :
    ∃ buf len, len < terminalEscapeBufferSize ∧ t.feed (csiSequence p ps final) mem =
      ((t.inSequence buf len).terminalParseCsi
        ((csiText p ps ++ [finalByte final]).take (terminalEscapeBufferSize - 1)) mem).map
          fun r => r.2.leaveSequence := by
  obtain ⟨hends, -, -, hnul, -⟩ := finalByte_facts hfinal
  have hescape : t.terminalPutc 27 mem = some { t with escState := .escape, escLength := 0 } := by
    rw [terminalPutc, terminalProcessChar, hstate]
    rfl
  have hstart : t.feed (csiSequence p ps final) mem =
      ((t.inSequence t.escBuffer 0).feed (csiText p ps) mem).bind fun u => u.terminalPutc (finalByte final) mem := by
    rw [feed, csiSequence, List.foldlM_cons, hescape, Option.bind_eq_bind, Option.bind_some]
    show List.foldlM _ (t.inSequence t.escBuffer 0) _ = _
    rw [List.foldlM_append]
    refine congrArg _ (funext fun u => ?_)
    exact Option.bind_fun_some _
  have hempty : EscapeHolds t.escBuffer [] :=
    ⟨hsize, Nat.zero_lt_succ _, List.nil_prefix, fun h => absurd rfl h⟩
  have hparams : ∀ c ∈ csiText p ps, IsParamByte c := fun _ => isParamByte_csiText
  obtain ⟨buf, hfeed, hholds⟩ := @feed_params t _ _ mem hempty _ hparams
  obtain ⟨buf', hkeep, hholds'⟩ := keepEscapeString_holds (t := t) hholds (finalByte final)
  rw [List.nil_append] at hfeed hkeep hholds'
  rw [take_take_append] at hkeep hholds'
  refine ⟨buf', _, hholds'.room, ?_⟩
  have hstring : buf'.takeWhile (· ≠ 0) =
      (csiText p ps ++ [finalByte final]).take (terminalEscapeBufferSize - 1) := by
    have hkept : (csiText p ps ++ [finalByte final]).take (terminalEscapeBufferSize - 1) ≠ [] := by
      simp [terminalEscapeBufferSize]
    obtain ⟨rest, hrest⟩ := hholds'.ended hkept
    have hbytes : ∀ c ∈ (csiText p ps ++ [finalByte final]).take (terminalEscapeBufferSize - 1), c ≠ 0 := by
      intro c hc
      rcases List.mem_append.mp (List.mem_of_mem_take hc) with htext | hlast
      · rintro rfl
        exact absurd (isParamByte_csiText htext).mem (by decide)
      · rwa [List.mem_singleton.mp hlast]
    rw [hrest, List.takeWhile_append_of_pos (fun c hc => decide_eq_true (hbytes c hc)),
      List.takeWhile_cons_of_neg (by decide), List.append_nil]
  rw [hstart, show (0 : Nat) = ([] : List UInt8).length from rfl, hfeed]
  show (if endsSequence (finalByte final) = true then
      ((t.inSequence buf _).keepEscapeString (finalByte final)).terminalParseCsi
        (((t.inSequence buf _).keepEscapeString (finalByte final)).escBuffer.takeWhile (· ≠ 0)) mem >>=
          fun r => some r.2.leaveSequence
    else _) = _
  rw [if_pos hends, hkeep]
  show (t.inSequence buf' _).terminalParseCsi (buf'.takeWhile (· ≠ 0)) mem >>= _ = _
  rw [hstring]
  exact (Option.map_eq_bind ..).symm

/-- **Sequences follow the grammar**, where the parameters that the command uses are read in their places.  A
sequence that is too long has no effect, and every sequence ends in the normal state. -/
theorem csi_follows_grammar (h : t.Sound) (hstate : t.escState = .normal)
    (hsize : t.escBuffer.length = terminalEscapeBufferSize) {final : Char} (hfinal : final ∈ csiFinals)
    (p : CsiParam) (ps : List CsiParam) (mem : Nat → Bool) :
    (∃ buf len, (CsiFits p ps → t.ReadsRight final p ps → t.feed (csiSequence p ps final) mem =
        ((t.inSequence buf len).csiCommand final (p :: ps) mem).map leaveSequence) ∧
      (¬CsiFits p ps → t.feed (csiSequence p ps final) mem = some (t.inSequence buf len).leaveSequence)) ∧
    ∃ t', t.feed (csiSequence p ps final) mem = some t' ∧ t'.escState = .normal := by
  obtain ⟨buf, len, hlen, hfeed⟩ := feed_sequence hstate hsize p ps hfinal mem
  obtain ⟨-, hdigit, hsep, -, -⟩ := finalByte_facts hfinal
  have hlength : (csiText p ps ++ [finalByte final]).length = (csiText p ps).length + 1 := List.length_append
  have hsound : (t.inSequence buf len).Sound := h.escaped hlen
  refine ⟨⟨buf, len, fun hfits hreads => ?_, fun hlong => ?_⟩, ?_⟩
  · have hall : (csiText p ps ++ [finalByte final]).take (terminalEscapeBufferSize - 1) =
        csiText p ps ++ [finalByte final] := by
      refine List.take_of_length_le ?_
      have := hfits
      unfold CsiFits at this
      omega
    have hcursor : (t.inSequence buf len).CursorFits := by
      have hw : t.width ≤ 256 := h.steady.width.2
      have hh : t.height ≤ 128 := h.steady.height.2
      have hx := h.cursor.x
      have hy := h.cursor.y
      exact ⟨⟨hx.1, show t.cursorX < 2 ^ 31 by omega⟩, hy.1, show t.cursorY < 2 ^ 31 by omega⟩
    have hcommand := @parseCsi_command _ mem hcursor _ hfinal p ps hreads _ (parseParams_text hdigit hsep hfits)
    rw [hfeed, hall, ← hcommand, Option.map_map]
    rfl
  · have hcut : (csiText p ps ++ [finalByte final]).take (terminalEscapeBufferSize - 1) =
        (csiText p ps).take (terminalEscapeBufferSize - 1) := by
      refine List.take_append_of_le_length ?_
      unfold CsiFits at hlong
      omega
    have hnone := @parseCsi_unfinished (t.inSequence buf len) mem
      ((csiText p ps).take (terminalEscapeBufferSize - 1)) fun c hc => isParamByte_csiText (List.mem_of_mem_take hc)
    rw [hfeed, hcut, hnone]
    rfl
  · obtain ⟨b, t', hparse, -⟩ := @leads_parseCsi _
      ((csiText p ps ++ [finalByte final]).take (terminalEscapeBufferSize - 1)) mem hsound
    rw [hfeed, hparse]
    exact ⟨_, rfl, rfl⟩

lemma isParamDigit_ofNat (d : Fin 10) : isParamDigit (UInt8.ofNat (48 + d.val)) = true := by
  revert d
  decide

/-- A parameter of one digit. -/
def oneDigit (d : Fin 10) : CsiParam :=
  ⟨[UInt8.ofNat (48 + d.val)], fun c hc => by
    rw [List.mem_singleton.mp hc]
    exact isParamDigit_ofNat d⟩

/-- An empty parameter. -/
def noDigit : CsiParam := ⟨[], nofun⟩

lemma exists_fiveColumns : ∃ t : Terminal, terminalCreate 5 1 (fun _ => true) = some (some t) ∧ t.Sound ∧
    t.escState = .normal ∧ t.escBuffer.length = terminalEscapeBufferSize := by
  obtain ⟨r, hcreate, hsound⟩ := leads_create 5 1 (fun _ => true)
  have hcomputed : (terminalCreate 5 1 (fun _ => true)).map (Option.map fun t => (t.escState, t.escBuffer.length)) =
      some (some (.normal, terminalEscapeBufferSize)) := by
    decide
  rw [hcreate, Option.map_some, Option.some_inj, Option.map_eq_some_iff] at hcomputed
  obtain ⟨t, rfl, hfacts⟩ := hcomputed
  rw [Prod.mk.injEq] at hfacts
  exact ⟨t, hcreate, hsound t rfl, hfacts.1, hfacts.2⟩

/-- `ESC [ 1 ; 3 H`. -/
theorem csi_follows_grammar_position : ∃ (t : Terminal) (buf : List UInt8) (len : Nat),
    t.feed (csiSequence (oneDigit 1) [oneDigit 3] 'H') (fun _ => true) =
      some ((t.inSequence buf len).terminalSetCursor 2 0).leaveSequence := by
  obtain ⟨t, -, hsound, hstate, hsize⟩ := exists_fiveColumns
  obtain ⟨⟨buf, len, hcommand, -⟩, -⟩ :=
    csi_follows_grammar hsound hstate hsize (show 'H' ∈ csiFinals by decide) (oneDigit 1) [oneDigit 3] (fun _ => true)
  have hreads : t.ReadsRight 'H' (oneDigit 1) [oneDigit 3] := by
    refine ⟨by decide, by decide, ?_⟩
    rintro ⟨q, hq, hempty⟩
    obtain rfl := Option.some.inj hq
    exact absurd hempty (by decide)
  exact ⟨t, buf, len, hcommand (by unfold CsiFits; decide) hreads⟩

/-- `ESC [ 1 ; ; 3 H`: the second parameter is empty, and the third one is read in its place. -/
theorem not_follows_grammar_empty :
    ¬ ∀ (t : Terminal) (final : Char) (p : CsiParam) (ps : List CsiParam) (mem : Nat → Bool), t.Sound →
      t.escState = .normal → t.escBuffer.length = terminalEscapeBufferSize → final ∈ csiFinals → CsiFits p ps →
        ∃ buf len, t.feed (csiSequence p ps final) mem =
          ((t.inSequence buf len).csiCommand final (p :: ps) mem).map leaveSequence := by
  intro h
  obtain ⟨t, hcreate, hsound, hstate, hsize⟩ := exists_fiveColumns
  obtain ⟨buf, len, heq⟩ := h t 'H' (oneDigit 1) [noDigit, oneDigit 3] (fun _ => true) hsound hstate hsize
    (by decide) (by unfold CsiFits; decide)
  have hcomputed : ((terminalCreate 5 1 (fun _ => true)).bind fun r => r.bind fun t =>
      (t.feed (csiSequence (oneDigit 1) [noDigit, oneDigit 3] 'H') fun _ => true).map (·.cursorX)) = some 2 := by
    with_unfolding_all decide
  rw [hcreate, Option.bind_some, Option.bind_some, heq] at hcomputed
  have hcolumn : (t.inSequence buf len).csiCommand 'H' (oneDigit 1 :: [noDigit, oneDigit 3]) (fun _ => true) =
      some ((t.inSequence buf len).terminalSetCursor 0 0) := rfl
  have hwidth : ¬t.width ≤ (0 : Int) := by
    have := hsound.steady.width.1
    omega
  rw [hcolumn, Option.map_some, Option.map_some] at hcomputed
  have hzero : ((t.inSequence buf len).terminalSetCursor 0 0).leaveSequence.cursorX = 0 := if_neg hwidth
  rw [hzero] at hcomputed
  exact absurd hcomputed (by decide)

end Terminal

end AAAos
