import AAAos.Drivers.Input.Keyboard
import AAAos.Lib.Bytes
import AAAos.Lib.Trace

/-!
# From keys to events

The keys are pressed and released, each of these sends its bytes of set 1 one after another, and the events are
polled whenever somebody asks.

**What goes wrong.**  `extended` is set where the byte is the prefix itself, which never comes so far: a key
behind `0xE0` is reported like one without, with the character of the keypad (`home_is_seven`).  And the six
bytes of Pause are four events, one of which switches the Num Lock (`pause_is_four_events`).

**What is proved.**  As long as neither Pause nor a navigation key is used, every press and release is one
event with its keycode, in order, where there is room for it, and the modifiers are those of the keys that are
down and of the locks that were pressed (`KeyRun.decodes_of_steps`).
-/

namespace AAAos

/-! ## Keys -/

/-- A scancode of set 1 of which neither the make code nor the break code is a prefix. -/
def ScanCode := { c : UInt8 // c < 0x80 ∧ c ≠ 0x60 ∧ c ≠ 0x61 }
deriving DecidableEq

/-- A key, and whether its code has the prefix `0xE0`. -/
structure Key where
  extended : Bool
  code : ScanCode
deriving DecidableEq

namespace Key

variable (k : Key)

def keycode : Keycode :=
  if k.extended then extendedScancodeToKeycode.getD k.code.1.toNat .none
  else scancodeToKeycode.getD k.code.1.toNat .none

/-- The byte for the key, behind the prefix. -/
def byte (pressed : Bool) : UInt8 := if pressed then k.code.1 else k.code.1 ||| 0x80

/-- Home, the arrows and their neighbours. -/
def isNavigation : Bool :=
  match k.keycode with
  | .home | .up | .pageup | .left | .right | .endKey | .down | .pagedown | .insert | .delete => true
  | _ => false

end Key

/-- What is done with a key.  Pause sends its bytes when it is pressed, and has no release. -/
inductive KeyAction
  | stroke (key : Key) (pressed : Bool)
  | pause
deriving DecidableEq

namespace KeyAction

/-- The bytes that are sent. -/
def bytes : KeyAction → List UInt8
  | stroke k pressed => (if k.extended then [0xE0] else []) ++ [k.byte pressed]
  | pause => [0xE1, 0x1D, 0x45, 0xE1, 0x9D, 0xC5]

def keycode : KeyAction → Keycode
  | stroke k _ => k.keycode
  | pause => .pause

def pressed : KeyAction → Bool
  | stroke _ pressed => pressed
  | pause => true

def isNavigation : KeyAction → Bool
  | stroke k _ => k.isNavigation
  | pause => false

end KeyAction

def plainKey (code : UInt8) (h : code < 0x80 ∧ code ≠ 0x60 ∧ code ≠ 0x61) : Key := ⟨false, code, h⟩

def extendedKey (code : UInt8) (h : code < 0x80 ∧ code ≠ 0x60 ∧ code ≠ 0x61) : Key := ⟨true, code, h⟩

/-- The keys whose bits say that they are down. -/
def holdKeys : List (Key × UInt16) :=
  [(plainKey 0x2A (by decide), modLshift), (plainKey 0x36 (by decide), modRshift),
    (plainKey 0x1D (by decide), modLctrl), (extendedKey 0x1D (by decide), modRctrl),
    (plainKey 0x38 (by decide), modLalt), (extendedKey 0x38 (by decide), modRalt)]

/-- The keys that switch a bit, and how it is in the beginning. -/
def lockKeys : List (Key × UInt16 × Bool) :=
  [(plainKey 0x3A (by decide), modCapslock, false), (plainKey 0x45 (by decide), modNumlock, true),
    (plainKey 0x46 (by decide), modScrolllock, false)]

/-- The key was pressed last, and not released. -/
def isDown (k : Key) (history : List KeyAction) : Bool :=
  history.foldl (fun down a => if a = .stroke k true then true else if a = .stroke k false then false
    else down) false

/-- The lock after all presses of its key. -/
def lockOn (k : Key) (initial : Bool) (history : List KeyAction) : Bool :=
  history.foldl (fun on a => if a = .stroke k true then !on else on) initial

/-! ## Runs -/

/-- What happens: a key is used, its next byte arrives, or an event is polled. -/
inductive KeyCall
  | action (a : KeyAction)
  | byte
  | poll

/-- The driver, the action whose bytes are on their way, the actions so far, those of them for which there was
room, how many of these were polled, and the events that were delivered. -/
structure KeyRun where
  driver : Keyboard
  sending : Option (KeyAction × List UInt8) := none
  history : List KeyAction := []
  accepted : List KeyAction := []
  taken : Nat := 0
  delivered : List KeyEvent := []

namespace KeyRun

/-- The action is over, and has its event if fewer than 255 are pending. -/
def complete (r : KeyRun) (a : KeyAction) : KeyRun :=
  { r with
    sending := none
    history := r.history ++ [a]
    accepted := if r.accepted.length - r.taken < 255 then r.accepted ++ [a] else r.accepted }

/-- A byte arrives, and those after it are still to come. -/
def byte (r : KeyRun) (a : KeyAction) (b : UInt8) (rest : List UInt8) : KeyRun :=
  let r := { r with driver := r.driver.processScancode b }
  if rest = [] then r.complete a else { r with sending := some (a, rest) }

def poll (r : KeyRun) : KeyRun :=
  { r with
    driver := r.driver.keyboardPollEvent.2
    taken := if r.taken < r.accepted.length then r.taken + 1 else r.taken
    delivered := r.delivered ++ r.driver.keyboardPollEvent.1.toList }

inductive Step : KeyRun → KeyCall → KeyRun → Prop
  | action {r : KeyRun} (a : KeyAction) (hidle : r.sending = none) :
      Step r (.action a) { r with sending := some (a, a.bytes) }
  | byte {r : KeyRun} {a : KeyAction} {b : UInt8} {rest : List UInt8}
      (hsending : r.sending = some (a, b :: rest)) : Step r .byte (r.byte a b rest)
  | poll (r : KeyRun) : Step r .poll r.poll

/-- After `keyboard_init`. -/
def init (s : Keyboard) : KeyRun where
  driver := s.keyboardInit

/-- **The keyboard is decoded.** -/
structure Decodes (r : KeyRun) : Prop where
  events : r.delivered.map (fun e => (e.keycode, e.pressed)) =
    (r.accepted.take r.taken).map fun a => (a.keycode, a.pressed)
  held : ∀ p ∈ holdKeys, (r.driver.currentModifiers &&& p.2 ≠ 0) ↔ isDown p.1 r.history = true
  locks : ∀ p ∈ lockKeys,
    (r.driver.currentModifiers &&& p.2.1 ≠ 0) ↔ lockOn p.1 p.2.2 r.history = true
  navigation : ∀ (i : Nat) (a : KeyAction) (e : KeyEvent), r.accepted[i]? = some a →
    r.delivered[i]? = some e → a.isNavigation = true → e.extended = true ∧ e.ascii = 0

/-- **The condition**: neither Pause nor a navigation key is used. -/
def Keeps : KeyCall → Prop
  | .action a => a ≠ .pause ∧ a.isNavigation = false
  | _ => True

def KeepingStep (r : KeyRun) (c : KeyCall) (r' : KeyRun) : Prop := Step r c r' ∧ Keeps c

end KeyRun

/-! ## One key -/

lemma Key.byte_spec (k : Key) (pressed : Bool) :
    k.byte pressed ≠ scancodeExtended ∧ k.byte pressed ≠ scancodeExtended2 ∧
      k.byte pressed &&& 0x7F = k.code.1 ∧ (k.byte pressed &&& scancodeRelease ≠ 0 ↔ pressed = false) := by
  have hall := forall_octet (p := fun c => !(decide (c < 0x80 ∧ c ≠ 0x60 ∧ c ≠ 0x61)) ||
    ((decide (c ≠ 0xE0 ∧ c ≠ 0xE1 ∧ c &&& 0x7F = c ∧ c &&& 0x80 = 0)) &&
      decide (c ||| 0x80 ≠ 0xE0 ∧ c ||| 0x80 ≠ 0xE1 ∧ (c ||| 0x80) &&& 0x7F = c ∧
        (c ||| 0x80) &&& 0x80 ≠ 0))) (by set_option maxRecDepth 8192 in decide) k.code.1
  have hvalid : decide (k.code.1 < 0x80 ∧ k.code.1 ≠ 0x60 ∧ k.code.1 ≠ 0x61) = true :=
    decide_eq_true k.code.2
  rw [hvalid, Bool.not_true, Bool.false_or, Bool.and_eq_true, decide_eq_true_eq, decide_eq_true_eq]
    at hall
  obtain ⟨⟨h1, h2, h3, h4⟩, h5, h6, h7, h8⟩ := hall
  cases pressed with
  | true => exact ⟨h1, h2, h3, iff_of_false (fun h => h h4) (fun h => nomatch h)⟩
  | false => exact ⟨h5, h6, h7, iff_of_true h8 rfl⟩

/-- What one code leaves behind. -/
structure KeyDone (s s' : Keyboard) (keycode : Keycode) (pressed : Bool) : Prop where
  ring : s'.InRing
  pending : ∃ e : KeyEvent, e.keycode = keycode ∧ e.pressed = pressed ∧ e.extended = false ∧
    s'.pending = if s.pending.length < 255 then s.pending ++ [e] else s.pending
  modifiers : s'.currentModifiers = updateModifiers s.currentModifiers keycode (!pressed)
  extended : s'.expectingExtended = false
  extended2 : s'.expectingExtended2 = false

/-- **A code that is not a prefix** is one event, and never an extended one. -/
lemma Keyboard.processScancode_code {s t : Keyboard} {scancode : UInt8} {keycode : Keycode} {pressed : Bool}
    (h : s.InRing) (hext : scancode ≠ scancodeExtended) (hext2 : scancode ≠ scancodeExtended2)
    (hrelease : scancode &&& scancodeRelease ≠ 0 ↔ pressed = false)
    (htake : s.takeKeycode (scancode &&& 0x7F) = (keycode, t))
    (ht : t = { s with expectingExtended := false, expectingExtended2 := false }) :
    KeyDone s (s.processScancode scancode) keycode pressed := by
  subst ht
  have hisRelease : decide (scancode &&& scancodeRelease ≠ 0) = !pressed := by
    cases pressed with
    | true => exact decide_eq_false (mt hrelease.mp (fun h => nomatch h))
    | false => exact decide_eq_true (hrelease.mpr rfl)
  unfold Keyboard.processScancode
  rw [if_neg hext, if_neg hext2, htake]
  dsimp only
  rw [hisRelease]
  generalize ht : ({ s with expectingExtended := false, expectingExtended2 := false } : Keyboard) = t
  have hring : (t.trackKey keycode (!pressed)).InRing := by
    subst ht
    exact ⟨h.head, h.tail⟩
  obtain ⟨hring', hpending⟩ := Keyboard.pending_bufferAddEvent hring
    ((t.trackKey keycode (!pressed)).buildEvent keycode scancode (!pressed))
  have hplain : ((t.trackKey keycode (!pressed)).buildEvent keycode scancode (!pressed)).extended = false :=
    beq_eq_false_iff_ne.mpr hext
  refine ⟨hring', ⟨_, rfl, Bool.not_not pressed, hplain, ?_⟩, ?_, ?_, ?_⟩
  · subst ht
    exact hpending
  · rw [Keyboard.bufferAddEvent_modifiers]
    subst ht
    rfl
  · rw [Keyboard.bufferAddEvent_extended]
    subst ht
    rfl
  · rw [Keyboard.bufferAddEvent_extended2]
    subst ht
    rfl

/-- **The last byte of a key** is one event. -/
lemma Keyboard.processScancode_key {s : Keyboard} {k : Key} (pressed : Bool) (h : s.InRing)
    (hextended : s.expectingExtended = k.extended) (hextended2 : s.expectingExtended2 = false) :
    KeyDone s (s.processScancode (k.byte pressed)) k.keycode pressed := by
  obtain ⟨hext, hext2, hcode, hrelease⟩ := k.byte_spec pressed
  refine Keyboard.processScancode_code (t := { s with expectingExtended := false }) h hext hext2 hrelease
    ?_ ?_
  · rw [hcode]
    unfold Keyboard.takeKeycode Key.keycode
    cases hk : k.extended with
    | true => rw [if_pos (hextended.trans hk), if_pos rfl]
    | false =>
      have hsame : { s with expectingExtended := false } = s := by rw [← hk, ← hextended]
      rw [if_neg (by simp [hextended, hk]), if_neg (by simp [hextended2]), if_neg Bool.false_ne_true,
        hsame]
  · rw [hextended2]

lemma Keyboard.processScancode_pause {s : Keyboard} {scancode : UInt8} {pressed : Bool} (h : s.InRing)
    (hextended : s.expectingExtended = false) (hext : scancode ≠ scancodeExtended)
    (hext2 : scancode ≠ scancodeExtended2) (hrelease : scancode &&& scancodeRelease ≠ 0 ↔ pressed = false) :
    KeyDone s ((s.processScancode scancodeExtended2).processScancode scancode) .pause pressed := by
  have hfirst : s.processScancode scancodeExtended2 = { s with expectingExtended2 := true } := by
    unfold Keyboard.processScancode
    rw [if_neg (by decide), if_pos rfl]
  have hring : ({ s with expectingExtended2 := true } : Keyboard).InRing := ⟨h.head, h.tail⟩
  have htake : Keyboard.takeKeycode { s with expectingExtended2 := true } (scancode &&& 0x7F) =
      (.pause, { s with expectingExtended2 := false }) := by
    unfold Keyboard.takeKeycode
    rw [if_neg (by simp [hextended]), if_pos rfl]
  have hdone := Keyboard.processScancode_code hring hext hext2 hrelease htake (by rw [hextended])
  rw [hfirst]
  exact ⟨hdone.ring, hdone.pending, hdone.modifiers, hdone.extended, hdone.extended2⟩

/-- **Pause is four events**, and one of them switches the Num Lock. -/
theorem pause_is_four_events {s : Keyboard} (h : s.InRing) (hextended : s.expectingExtended = false)
    (hroom : s.pending.length ≤ 251) :
    ∃ es : List KeyEvent, (KeyAction.pause.bytes.foldl Keyboard.processScancode s).pending = s.pending ++ es ∧
      es.map (fun e => (e.keycode, e.pressed)) =
        [(.pause, true), (.numlock, true), (.pause, false), (.numlock, false)] ∧
      modifierOn (KeyAction.pause.bytes.foldl Keyboard.processScancode s).currentModifiers 7 =
        !modifierOn s.currentModifiers 7 := by
  have hbytes : KeyAction.pause.bytes.foldl Keyboard.processScancode s =
      (((((s.processScancode scancodeExtended2).processScancode 0x1D).processScancode
        0x45).processScancode scancodeExtended2).processScancode 0x9D).processScancode 0xC5 := rfl
  rw [hbytes]
  have h1 := @Keyboard.processScancode_pause s 0x1D true h hextended (by decide) (by decide) (by decide)
  generalize (s.processScancode scancodeExtended2).processScancode 0x1D = s1 at h1 ⊢
  have h2 := Keyboard.processScancode_key (k := plainKey 0x45 (by decide)) true h1.ring h1.extended
    h1.extended2
  have hmake : (plainKey 0x45 (by decide)).byte true = 0x45 := rfl
  rw [hmake] at h2
  generalize s1.processScancode 0x45 = s2 at h2 ⊢
  have h3 := @Keyboard.processScancode_pause s2 0x9D false h2.ring h2.extended (by decide) (by decide)
    (by decide)
  generalize (s2.processScancode scancodeExtended2).processScancode 0x9D = s3 at h3 ⊢
  have h4 := Keyboard.processScancode_key (k := plainKey 0x45 (by decide)) false h3.ring h3.extended
    h3.extended2
  have hbreak : (plainKey 0x45 (by decide)).byte false = 0xC5 := rfl
  rw [hbreak] at h4
  generalize s3.processScancode 0xC5 = s4 at h4 ⊢
  obtain ⟨e1, hk1, hp1, -, hq1⟩ := h1.pending
  obtain ⟨e2, hk2, hp2, -, hq2⟩ := h2.pending
  obtain ⟨e3, hk3, hp3, -, hq3⟩ := h3.pending
  obtain ⟨e4, hk4, hp4, -, hq4⟩ := h4.pending
  rw [if_pos (by omega)] at hq1
  have hl1 : s1.pending.length = s.pending.length + 1 := by rw [hq1]; simp
  rw [if_pos (by omega)] at hq2
  have hl2 : s2.pending.length = s1.pending.length + 1 := by rw [hq2]; simp
  rw [if_pos (by omega)] at hq3
  have hl3 : s3.pending.length = s2.pending.length + 1 := by rw [hq3]; simp
  rw [if_pos (by omega)] at hq4
  have hnumlock : (plainKey 0x45 (by decide)).keycode = .numlock := by decide
  refine ⟨[e1, e2, e3, e4], ?_, ?_, ?_⟩
  · rw [hq4, hq3, hq2, hq1]
    simp only [List.append_assoc, List.cons_append, List.nil_append]
  · simp only [List.map_cons, List.map_nil, hk1, hp1, hk2, hp2, hk3, hp3, hk4, hp4, hnumlock]
  · have hbit : Keycode.bit .numlock = some 7 := rfl
    have hlock : Keycode.isLock .numlock = true := rfl
    have hnone : Keycode.bit .pause ≠ some 7 := fun h => nomatch h
    rw [h4.modifiers, hnumlock, modifierOn_update _ _ _ (by decide), if_pos hbit, if_pos hlock,
      h3.modifiers, modifierOn_update _ _ _ (by decide), if_neg hnone,
      h2.modifiers, hnumlock, modifierOn_update _ _ _ (by decide), if_pos hbit, if_pos hlock,
      h1.modifiers, modifierOn_update _ _ _ (by decide), if_neg hnone]
    cases modifierOn s.currentModifiers 7 <;> rfl

/-! ## Which key has which bit -/

/-- The keys with a bit in the modifiers, in the order of the bits. -/
def modifierKeys : List Key := holdKeys.map Prod.fst ++ lockKeys.map Prod.fst

lemma Key.bit_iff (k : Key) {j : Nat} (hj : j < 9) : k.keycode.bit = some j ↔ modifierKeys[j]? = some k := by
  -- a code with a bit is the one in the list, and the list has the bits in order
  have hall := fun extended => forall_octet
    (p := fun c => if h : c < 0x80 ∧ c ≠ 0x60 ∧ c ≠ 0x61 then
        (Key.keycode ⟨extended, c, h⟩).bit.all fun i => decide (modifierKeys[i]? = some ⟨extended, c, h⟩)
      else true)
    (by cases extended <;> set_option maxRecDepth 8192 in decide) k.code.1
  have hlist : ∀ i < 9, (modifierKeys[i]?.map fun k => k.keycode.bit) = some (some i) := by decide
  constructor
  · intro hbit
    have hk := hall k.extended
    rw [dif_pos k.code.2] at hk
    change (k.keycode.bit.all fun i => decide (modifierKeys[i]? = some k)) = true at hk
    rw [hbit] at hk
    exact of_decide_eq_true hk
  · intro hk
    have hbit := hlist j hj
    rw [hk] at hbit
    exact Option.some.inj hbit

lemma Keycode.isLock_of_bit {keycode : Keycode} {j : Nat} (h : keycode.bit = some j) :
    keycode.isLock = decide (6 ≤ j) := by
  cases keycode <;> cases h <;> rfl

lemma isDown_concat (k : Key) (history : List KeyAction) (k' : Key) (pressed : Bool) :
    isDown k (history ++ [.stroke k' pressed]) = if k' = k then pressed else isDown k history := by
  unfold isDown
  rw [List.foldl_append]
  simp only [List.foldl_cons, List.foldl_nil, KeyAction.stroke.injEq]
  cases pressed <;> by_cases hk : k' = k <;> simp [hk]

lemma lockOn_concat (k : Key) (initial : Bool) (history : List KeyAction) (k' : Key) (pressed : Bool) :
    lockOn k initial (history ++ [.stroke k' pressed]) =
      if k' = k then lockOn k initial history ^^ pressed else lockOn k initial history := by
  unfold lockOn
  rw [List.foldl_append]
  simp only [List.foldl_cons, List.foldl_nil, KeyAction.stroke.injEq]
  cases pressed <;> by_cases hk : k' = k <;> simp [hk]

namespace KeyRun

/-! ## The invariant -/

variable {r r' : KeyRun}

/-- **The invariant** of a run without Pause and navigation keys. -/
structure Sound (r : KeyRun) : Prop where
  ring : r.driver.InRing
  events : (r.delivered ++ r.driver.pending).map (fun e => (e.keycode, e.pressed)) =
    r.accepted.map fun a => (a.keycode, a.pressed)
  taken : r.delivered.length = r.taken
  bits : ∀ j k, j < 9 → modifierKeys[j]? = some k → modifierOn r.driver.currentModifiers j =
    if 6 ≤ j then lockOn k (j == 7) r.history else isDown k r.history
  extended2 : r.driver.expectingExtended2 = false
  idle : r.sending = none → r.driver.expectingExtended = false
  sending : ∀ a bytes, r.sending = some (a, bytes) → ∃ k pressed, a = .stroke k pressed ∧ k.isNavigation = false ∧
    (bytes = a.bytes ∧ r.driver.expectingExtended = false ∨
      k.extended = true ∧ bytes = [k.byte pressed] ∧ r.driver.expectingExtended = true)
  calm : ∀ a ∈ r.accepted, a.isNavigation = false

lemma Sound.pending_length (h : Sound r) : r.accepted.length = r.taken + r.driver.pending.length := by
  have hlength := congrArg List.length h.events
  rw [List.length_map, List.length_map, List.length_append, h.taken] at hlength
  exact hlength.symm

lemma Sound.complete {k : Key} {pressed : Bool} (h : Sound r) (hcalm : k.isNavigation = false)
    (hextended : r.driver.expectingExtended = k.extended) :
    Sound (r.byte (.stroke k pressed) (k.byte pressed) []) := by
  have hdone := Keyboard.processScancode_key pressed h.ring hextended h.extended2
  obtain ⟨e, hkeycode, hpressed, -, hpending⟩ := hdone.pending
  have hlength := h.pending_length
  have hroom : r.accepted.length - r.taken < 255 ↔ r.driver.pending.length < 255 := by omega
  unfold byte
  rw [if_pos rfl]
  refine ⟨hdone.ring, ?_, h.taken, fun j k' hj hk' => ?_, hdone.extended2, fun _ => hdone.extended,
    (fun a bytes hsending => nomatch hsending), fun a ha => ?_⟩
  · have hevents := h.events
    simp only [KeyRun.complete]
    rw [hpending]
    by_cases hfits : r.driver.pending.length < 255
    · rw [if_pos hfits, if_pos (hroom.mpr hfits), ← List.append_assoc, List.map_append, hevents, List.map_append]
      simp only [List.map_cons, List.map_nil, hkeycode, hpressed]
      rfl
    · rw [if_neg hfits, if_neg (mt hroom.mp hfits)]
      exact hevents
  · simp only [KeyRun.complete]
    rw [hdone.modifiers, modifierOn_update _ _ _ (by omega), isDown_concat, lockOn_concat,
      h.bits j k' hj hk', Bool.not_not]
    have hkey : k.keycode.bit = some j ↔ k = k' := by
      rw [k.bit_iff hj, hk', Option.some_inj, eq_comm]
    by_cases hsame : k = k'
    · rw [if_pos (hkey.mpr hsame), if_pos hsame, if_pos hsame, Keycode.isLock_of_bit (hkey.mpr hsame)]
      by_cases hlock : 6 ≤ j
      · rw [if_pos (decide_eq_true hlock), if_pos hlock, if_pos hlock]
      · rw [if_neg (by simpa using hlock), if_neg hlock]
    · rw [if_neg (mt hkey.mp hsame), if_neg hsame, if_neg hsame]
  · simp only [KeyRun.complete] at ha
    split_ifs at ha
    · rcases List.mem_append.mp ha with ha | ha
      · exact h.calm a ha
      · rw [List.mem_singleton.mp ha]
        exact hcalm
    · exact h.calm a ha

lemma sound_step (c : KeyCall) (h : Sound r) (hstep : KeepingStep r c r') : Sound r' := by
  obtain ⟨hstep, hkeeps⟩ := hstep
  cases hstep with
  | action a hidle =>
    obtain ⟨hpause, hcalm⟩ := hkeeps
    refine ⟨h.ring, h.events, h.taken, h.bits, h.extended2, (fun hnone => nomatch hnone), ?_, h.calm⟩
    intro a' bytes hsending
    obtain ⟨rfl, rfl⟩ := Prod.mk.inj (Option.some.inj hsending)
    cases a with
    | stroke k pressed => exact ⟨k, pressed, rfl, hcalm, .inl ⟨rfl, h.idle hidle⟩⟩
    | pause => exact absurd rfl hpause
  | @byte a b rest hsending =>
    obtain ⟨k, pressed, rfl, hcalm, hbytes⟩ := h.sending a (b :: rest) hsending
    rcases hbytes with ⟨hbytes, hflag⟩ | ⟨hext, hbytes, hflag⟩
    · cases hext : k.extended with
      | false =>
        obtain ⟨rfl, rfl⟩ : b = k.byte pressed ∧ rest = [] := by
          simpa [KeyAction.bytes, hext] using hbytes
        exact h.complete hcalm (hflag.trans hext.symm)
      | true =>
        obtain ⟨rfl, rfl⟩ : b = 0xE0 ∧ rest = [k.byte pressed] := by
          simpa [KeyAction.bytes, hext] using hbytes
        unfold byte
        rw [if_neg (List.cons_ne_nil _ _)]
        refine ⟨⟨h.ring.head, h.ring.tail⟩, h.events, h.taken, h.bits, h.extended2,
          (fun hnone => nomatch hnone), fun a bytes hsending' => ?_, h.calm⟩
        obtain ⟨rfl, rfl⟩ := Prod.mk.inj (Option.some.inj hsending')
        exact ⟨k, pressed, rfl, hcalm, .inr ⟨hext, rfl, rfl⟩⟩
    · obtain ⟨rfl, rfl⟩ := List.cons.inj hbytes
      exact h.complete hcalm (hflag.trans hext.symm)
  | poll =>
    obtain ⟨hring, hpending, hempty⟩ := Keyboard.pending_pollEvent h.ring
    have hlength := h.pending_length
    have hframe : r.driver.keyboardPollEvent.2.currentModifiers = r.driver.currentModifiers ∧
        r.driver.keyboardPollEvent.2.expectingExtended = r.driver.expectingExtended ∧
        r.driver.keyboardPollEvent.2.expectingExtended2 = r.driver.expectingExtended2 := by
      unfold Keyboard.keyboardPollEvent
      split_ifs <;> exact ⟨rfl, rfl, rfl⟩
    obtain ⟨hmodifiers, hextended, hextended2⟩ := hframe
    refine ⟨hring, ?_, ?_, ?_, hextended2.trans h.extended2, fun hnone => hextended.trans (h.idle hnone),
      fun a bytes hsending => ?_, h.calm⟩
    · simp only [KeyRun.poll]
      rw [List.append_assoc, ← hpending]
      exact h.events
    · simp only [KeyRun.poll]
      rw [List.length_append, h.taken]
      cases hevent : r.driver.keyboardPollEvent.1 with
      | none =>
        rw [hempty hevent, List.length_nil] at hlength
        rw [if_neg (by omega)]
        rfl
      | some e =>
        rw [hpending, hevent, List.length_append] at hlength
        have hone : (some e).toList.length = 1 := rfl
        rw [if_pos (by omega), hone]
    · intro j k hj hk
      simp only [KeyRun.poll]
      rw [hmodifiers]
      exact h.bits j k hj hk
    · obtain ⟨k, pressed, ha, hcalm, hbytes⟩ := h.sending a bytes hsending
      refine ⟨k, pressed, ha, hcalm, ?_⟩
      simp only [KeyRun.poll]
      rw [hextended]
      exact hbytes

lemma pending_init (s : Keyboard) : (init s).driver.pending = [] :=
  (Keyboard.pending_eq (n := 0) rfl (by decide) (Nat.succ_pos 255) rfl).trans (ringContents_zero _ _)

lemma sound_init (s : Keyboard) : Sound (init s) := by
  refine ⟨⟨Nat.succ_pos 255, Nat.succ_pos 255⟩, by rw [pending_init]; rfl, rfl, fun j k hj hk => ?_, rfl, fun _ => rfl,
    (fun a bytes hsending => nomatch hsending), (fun a ha => nomatch ha)⟩
  have hbits : ∀ j < 9, modifierOn modNumlock j = if 6 ≤ j then j == 7 else false := by decide
  exact hbits j hj

/-! ## The result -/

lemma Sound.decodes (h : Sound r) : Decodes r := by
  have hbits : ∀ j k mask, j < 9 → modifierKeys[j]? = some k → IsMask mask j →
      (r.driver.currentModifiers &&& mask ≠ 0 ↔
        (if 6 ≤ j then lockOn k (j == 7) r.history else isDown k r.history) = true) := by
    intro j k mask hj hk hmask
    rw [and_mask_ne_zero hmask, h.bits j k hj hk]
  refine ⟨?_, fun p hp => ?_, fun p hp => ?_, fun i a e ha _ hnavigation => ?_⟩
  · have htake := congrArg (List.take r.taken) h.events
    rwa [← List.map_take, ← List.map_take, ← h.taken, List.take_left, h.taken] at htake
  · unfold holdKeys at hp
    simp only [List.mem_cons, List.not_mem_nil, or_false] at hp
    rcases hp with rfl | rfl | rfl | rfl | rfl | rfl
    · exact hbits 0 _ _ (by decide) rfl ⟨by decide, by decide⟩
    · exact hbits 1 _ _ (by decide) rfl ⟨by decide, by decide⟩
    · exact hbits 2 _ _ (by decide) rfl ⟨by decide, by decide⟩
    · exact hbits 3 _ _ (by decide) rfl ⟨by decide, by decide⟩
    · exact hbits 4 _ _ (by decide) rfl ⟨by decide, by decide⟩
    · exact hbits 5 _ _ (by decide) rfl ⟨by decide, by decide⟩
  · unfold lockKeys at hp
    simp only [List.mem_cons, List.not_mem_nil, or_false] at hp
    rcases hp with rfl | rfl | rfl
    · exact hbits 6 _ _ (by decide) rfl ⟨by decide, by decide⟩
    · exact hbits 7 _ _ (by decide) rfl ⟨by decide, by decide⟩
    · exact hbits 8 _ _ (by decide) rfl ⟨by decide, by decide⟩
  · have hcalm := h.calm a (List.mem_of_getElem? ha)
    rw [hnavigation] at hcalm
    exact Bool.noConfusion hcalm

/-- **Keys become events**, as long as neither Pause nor a navigation key is used. -/
theorem decodes_of_steps {s : Keyboard} {cs : List KeyCall} (hrun : Steps KeepingStep (init s) cs r) : Decodes r :=
  (hrun.invariant (I := Sound) (fun _ c _ => sound_step c) (sound_init s)).decodes

/-- A driver before it is started. -/
def idleDriver : Keyboard where
  eventBuffer := fun _ => ⟨.none, 0, 0, false, false, 0⟩
  bufferHead := 0
  bufferTail := 0
  currentModifiers := 0
  keyPressedState := fun _ => false
  expectingExtended := false
  expectingExtended2 := false
  ledState := 0

/-- An action that is about to be sent. -/
def start (r : KeyRun) (a : KeyAction) : KeyRun := { r with sending := some (a, a.bytes) }

/-- The left shift and the right control are pressed, and an event is polled. -/
def shiftRun : KeyRun :=
  let shift := plainKey 0x2A (by decide)
  let control := extendedKey 0x1D (by decide)
  (((((init idleDriver).start (.stroke shift true)).byte (.stroke shift true) 0x2A []).start
    (.stroke control true)).byte (.stroke control true) 0xE0 [0x1D]).byte (.stroke control true) 0x1D []
  |>.poll

theorem decodes_shift : Decodes shiftRun ∧ shiftRun.driver.currentModifiers = 0x89 :=
  ⟨decodes_of_steps (s := idleDriver)
    (.cons ⟨.action (.stroke (plainKey 0x2A (by decide)) true) rfl, by decide, by decide⟩
      (.cons ⟨.byte rfl, trivial⟩
        (.cons ⟨.action (.stroke (extendedKey 0x1D (by decide)) true) rfl, by decide, by decide⟩
          (.cons ⟨.byte rfl, trivial⟩ (.cons ⟨.byte rfl, trivial⟩
            (.cons ⟨.poll _, trivial⟩ (.nil _))))))), by decide⟩

/-- Home is pressed, and the event is polled. -/
def homeRun : KeyRun :=
  let home := extendedKey 0x47 (by decide)
  (((init idleDriver).start (.stroke home true)).byte (.stroke home true) 0xE0 [0x47]).byte
    (.stroke home true) 0x47 [] |>.poll

/-- **Home is a seven**: its event is not extended, and has the character of the keypad. -/
theorem home_is_seven : ¬∀ (s : Keyboard) (cs : List KeyCall) (r : KeyRun),
    Steps Step (init s) cs r → Decodes r := by
  intro h
  have hrun : Steps Step (init idleDriver)
      [.action (.stroke (extendedKey 0x47 (by decide)) true), .byte, .byte, .poll] homeRun :=
    .cons (.action _ rfl) (.cons (.byte rfl) (.cons (.byte rfl) (.cons (.poll _) (.nil _))))
  have hplain : homeRun.delivered[0]?.map (fun e : KeyEvent => (e.extended, e.ascii)) = some (false, 55) := by
    decide
  obtain ⟨e, hdelivered, hevent⟩ := Option.map_eq_some_iff.mp hplain
  have hnavigation := (h idleDriver _ _ hrun).navigation 0 _ e rfl hdelivered (by decide)
  rw [(Prod.mk.inj hevent).1] at hnavigation
  exact Bool.noConfusion hnavigation.1

end KeyRun

end AAAos
