import AAAos.Lib.RingBuffer
import Mathlib.Data.UInt
import Mathlib.Data.Nat.Bitwise

/-!
# The keyboard

`drivers/input/keyboard.c`: the scancodes of set 1, the modifiers and the ring of events.

A byte of the keyboard is given to `process_scancode` by the interrupt handler.  The commands that
`update_leds` sends are left out with the answers to them, and of the keycodes those that no table has.
-/

namespace AAAos

/-- `keycode_t`. -/
inductive Keycode
  | none | escape | k1 | k2 | k3 | k4 | k5 | k6 | k7 | k8
  | k9 | k0 | minus | equals | backspace | tab | q | w | e | r
  | t | y | u | i | o | p | lbracket | rbracket | enter | lctrl
  | a | s | d | f | g | h | j | k | l | semicolon
  | quote | backtick | lshift | backslash | z | x | c | v | b | n
  | m | comma | period | slash | rshift | kpAsterisk | lalt | space | capslock | f1
  | f2 | f3 | f4 | f5 | f6 | f7 | f8 | f9 | f10 | numlock
  | scrolllock | kp7 | kp8 | kp9 | kpMinus | kp4 | kp5 | kp6 | kpPlus | kp1
  | kp2 | kp3 | kp0 | kpPeriod | f11 | f12 | kpEnter | rctrl | kpSlash | printscreen
  | ralt | home | up | pageup | left | right | endKey | down | pagedown | insert
  | delete | pause
deriving DecidableEq

/-! ## Tables -/

/-- `scancode_to_keycode`. -/
def scancodeToKeycode : List Keycode :=
  ([.none, .escape, .k1, .k2, .k3, .k4, .k5, .k6, .k7, .k8, .k9, .k0, .minus, .equals, .backspace, .tab,
    .q, .w, .e, .r, .t, .y, .u, .i,
    .o, .p, .lbracket, .rbracket, .enter, .lctrl, .a, .s,
    .d, .f, .g, .h, .j, .k, .l, .semicolon,
    .quote, .backtick, .lshift, .backslash, .z, .x, .c, .v,
    .b, .n, .m, .comma, .period, .slash, .rshift, .kpAsterisk,
    .lalt, .space, .capslock, .f1, .f2, .f3, .f4, .f5,
    .f6, .f7, .f8, .f9, .f10, .numlock, .scrolllock, .kp7,
    .kp8, .kp9, .kpMinus, .kp4, .kp5, .kp6, .kpPlus, .kp1,
    .kp2, .kp3, .kp0, .kpPeriod, .none, .none, .none, .f11,
    .f12, .none, .none, .none, .none, .none, .none, .none] : List Keycode) ++
  List.replicate 36 .none

/-- `extended_scancode_to_keycode`. -/
def extendedScancodeToKeycode : List Keycode :=
  List.replicate 24 .none ++
  ([.none, .none, .none, .none, .kpEnter, .rctrl, .none, .none,
    .none, .none, .none, .none, .none, .none, .none, .none,
    .none, .none, .none, .none, .none, .none, .none, .none,
    .none, .none, .none, .none, .none, .kpSlash, .none, .printscreen,
    .ralt, .none, .none, .none, .none, .none, .none, .none,
    .none, .none, .none, .none, .none, .none, .none, .home,
    .up, .pageup, .none, .left, .none, .right, .none, .endKey,
    .down, .pagedown, .insert, .delete, .none, .none, .none, .none] : List Keycode) ++
  List.replicate 40 .none

/-- `scancode_ascii_normal`. -/
def scancodeAsciiNormal : List UInt8 :=
  ([0, 0, 49, 50, 51, 52, 53, 54, 55, 56, 57, 48, 45, 61, 8, 9, 113, 119, 101, 114, 116, 121, 117, 105,
    111, 112, 91, 93, 10, 0, 97, 115,
    100, 102, 103, 104, 106, 107, 108, 59,
    39, 96, 0, 92, 122, 120, 99, 118,
    98, 110, 109, 44, 46, 47, 0, 42,
    0, 32, 0, 0, 0, 0, 0, 0,
    0, 0, 0, 0, 0, 0, 0, 55,
    56, 57, 45, 52, 53, 54, 43, 49,
    50, 51, 48, 46, 0, 0, 0, 0] : List UInt8) ++
  List.replicate 40 0

/-- `scancode_ascii_shift`. -/
def scancodeAsciiShift : List UInt8 :=
  ([0, 0, 33, 64, 35, 36, 37, 94, 38, 42, 40, 41, 95, 43, 8, 9, 81, 87, 69, 82, 84, 89, 85, 73,
    79, 80, 123, 125, 10, 0, 65, 83,
    68, 70, 71, 72, 74, 75, 76, 58,
    34, 126, 0, 124, 90, 88, 67, 86,
    66, 78, 77, 60, 62, 63, 0, 42,
    0, 32, 0, 0, 0, 0, 0, 0,
    0, 0, 0, 0, 0, 0, 0, 55,
    56, 57, 45, 52, 53, 54, 43, 49,
    50, 51, 48, 46, 0, 0, 0, 0] : List UInt8) ++
  List.replicate 40 0

/-! ## Constants -/

def modLshift : UInt16 := 0x01
def modRshift : UInt16 := 0x02
def modShift : UInt16 := modLshift ||| modRshift
def modLctrl : UInt16 := 0x04
def modRctrl : UInt16 := 0x08
def modLalt : UInt16 := 0x10
def modRalt : UInt16 := 0x20
def modCapslock : UInt16 := 0x40
def modNumlock : UInt16 := 0x80
def modScrolllock : UInt16 := 0x100

/-- `KEYBOARD_BUFFER_SIZE`. -/
def keyboardBufferSize : Nat := 256

def scancodeRelease : UInt8 := 0x80
def scancodeExtended : UInt8 := 0xE0
def scancodeExtended2 : UInt8 := 0xE1

/-! ## State -/

/-- `key_event_t`. -/
structure KeyEvent where
  keycode : Keycode
  scancode : UInt8
  modifiers : UInt16
  pressed : Bool
  extended : Bool
  ascii : UInt8
deriving DecidableEq

/-- The variables of the driver. -/
structure Keyboard where
  eventBuffer : Nat → KeyEvent
  bufferHead : Nat
  bufferTail : Nat
  currentModifiers : UInt16
  keyPressedState : Keycode → Bool
  expectingExtended : Bool
  expectingExtended2 : Bool
  ledState : UInt8

/-! ## Modifiers -/

/-- A key that is held. -/
def holdModifier (modifiers mask : UInt16) (isRelease : Bool) : UInt16 :=
  if isRelease then modifiers &&& ~~~mask else modifiers ||| mask

/-- A key that is switched. -/
def switchModifier (modifiers mask : UInt16) (isRelease : Bool) : UInt16 :=
  if isRelease then modifiers else modifiers ^^^ mask

/-- The modifiers after a key. -/
def updateModifiers (modifiers : UInt16) (keycode : Keycode) (isRelease : Bool) : UInt16 :=
  match keycode with
  | .lshift => holdModifier modifiers modLshift isRelease
  | .rshift => holdModifier modifiers modRshift isRelease
  | .lctrl => holdModifier modifiers modLctrl isRelease
  | .rctrl => holdModifier modifiers modRctrl isRelease
  | .lalt => holdModifier modifiers modLalt isRelease
  | .ralt => holdModifier modifiers modRalt isRelease
  | .capslock => switchModifier modifiers modCapslock isRelease
  | .numlock => switchModifier modifiers modNumlock isRelease
  | .scrolllock => switchModifier modifiers modScrolllock isRelease
  | _ => modifiers

/-- `update_leds`: the new `led_state`. -/
def ledsOf (modifiers : UInt16) : UInt8 :=
  (if modifiers &&& modScrolllock = 0 then 0 else 1) |||
    (if modifiers &&& modNumlock = 0 then 0 else 2) |||
    (if modifiers &&& modCapslock = 0 then 0 else 4)

/-- The keys for which `update_leds` is called. -/
def Keycode.isLock : Keycode → Bool
  | .capslock | .numlock | .scrolllock => true
  | _ => false

/-- `scancode_to_ascii`. -/
def scancodeToAscii (scancode : UInt8) (modifiers : UInt16) : UInt8 :=
  if 128 ≤ scancode then 0
  else
    let c :=
      if modifiers &&& modShift = 0 then scancodeAsciiNormal.getD scancode.toNat 0
      else scancodeAsciiShift.getD scancode.toNat 0
    let capslock := modifiers &&& modCapslock ≠ 0
    if capslock ∧ 97 ≤ c ∧ c ≤ 122 then c - 97 + 65
    else if capslock ∧ 65 ≤ c ∧ c ≤ 90 then c - 65 + 97
    else c

namespace Keyboard

variable (s : Keyboard)

/-! ## The ring of events -/

/-- `buffer_add_event`. -/
def bufferAddEvent (event : KeyEvent) : Keyboard :=
  let nextHead := (s.bufferHead + 1) &&& (keyboardBufferSize - 1)
  if nextHead = s.bufferTail then s
  else
    { s with
      eventBuffer := Function.update s.eventBuffer s.bufferHead event
      bufferHead := nextHead }

/-- `buffer_get_event`, and so `keyboard_poll_event`. -/
def keyboardPollEvent : Option KeyEvent × Keyboard :=
  if s.bufferHead = s.bufferTail then (none, s)
  else
    (some (s.eventBuffer s.bufferTail), { s with bufferTail := (s.bufferTail + 1) &&& (keyboardBufferSize - 1) })

/-! ## Scancodes -/

/-- The keycode of a code, and the prefix flags after it. -/
def takeKeycode (keyScancode : UInt8) : Keycode × Keyboard :=
  if s.expectingExtended then
    (extendedScancodeToKeycode.getD keyScancode.toNat .none, { s with expectingExtended := false })
  else if s.expectingExtended2 then (.pause, { s with expectingExtended2 := false })
  else (scancodeToKeycode.getD keyScancode.toNat .none, s)

/-- The modifiers, the leds and the state of a key. -/
def trackKey (keycode : Keycode) (isRelease : Bool) : Keyboard :=
  let modifiers := updateModifiers s.currentModifiers keycode isRelease
  { s with
    currentModifiers := modifiers
    ledState := if keycode.isLock && !isRelease then ledsOf modifiers else s.ledState
    keyPressedState := Function.update s.keyPressedState keycode (!isRelease) }

/-- The event of a scancode. -/
def buildEvent (keycode : Keycode) (scancode : UInt8) (isRelease : Bool) : KeyEvent where
  keycode := keycode
  scancode := scancode
  modifiers := s.currentModifiers
  pressed := !isRelease
  extended := scancode == scancodeExtended
  ascii :=
    if scancode ≠ scancodeExtended ∧ isRelease = false then
      scancodeToAscii (scancode &&& 0x7F) s.currentModifiers
    else 0

/-- `process_scancode`. -/
def processScancode (scancode : UInt8) : Keyboard :=
  let isRelease := scancode &&& scancodeRelease ≠ 0
  if scancode = scancodeExtended then { s with expectingExtended := true }
  else if scancode = scancodeExtended2 then { s with expectingExtended2 := true }
  else
    let (keycode, s) := s.takeKeycode (scancode &&& 0x7F)
    let s := s.trackKey keycode isRelease
    s.bufferAddEvent (s.buildEvent keycode scancode isRelease)

/-- What `keyboard_init` sets. -/
def keyboardInit : Keyboard where
  eventBuffer := s.eventBuffer
  bufferHead := 0
  bufferTail := 0
  currentModifiers := modNumlock
  keyPressedState := fun _ => false
  expectingExtended := false
  expectingExtended2 := false
  ledState := ledsOf modNumlock

/-! ## What is pending -/

/-- The events in the ring, oldest first. -/
def pending (s : Keyboard) : List KeyEvent :=
  ringContents keyboardBufferSize s.eventBuffer s.bufferTail
    ((s.bufferHead + keyboardBufferSize - s.bufferTail) % keyboardBufferSize)

/-- Positions of the ring. -/
structure InRing (s : Keyboard) : Prop where
  head : s.bufferHead < keyboardBufferSize
  tail : s.bufferTail < keyboardBufferSize

section Ring

variable {s : Keyboard}

lemma nextPosition (i : Nat) : (i + 1) &&& (keyboardBufferSize - 1) = (i + 1) % keyboardBufferSize :=
  Nat.and_two_pow_sub_one_eq_mod (i + 1) 8

lemma length_pending (s : Keyboard) :
    s.pending.length = (s.bufferHead + keyboardBufferSize - s.bufferTail) % keyboardBufferSize :=
  length_ringContents _ _ _

lemma InRing.head_eq (h : s.InRing) : s.bufferHead = (s.bufferTail + s.pending.length) % keyboardBufferSize := by
  have hhead := h.head
  have htail := h.tail
  rw [length_pending]
  unfold keyboardBufferSize at hhead htail ⊢
  omega

lemma length_pending_lt (s : Keyboard) : s.pending.length < 256 := by
  rw [length_pending]
  exact Nat.mod_lt _ (by decide)

lemma pending_eq {buf : Nat → KeyEvent} {n : Nat} (hbuf : s.eventBuffer = buf) (hn : n < 256)
    (htail : s.bufferTail < 256) (hhead : s.bufferHead = (s.bufferTail + n) % 256) :
    s.pending = ringContents keyboardBufferSize buf s.bufferTail n := by
  unfold pending keyboardBufferSize
  rw [hbuf, show (s.bufferHead + 256 - s.bufferTail) % 256 = n by omega]

/-- **An event is added** at the end, unless 255 are pending. -/
lemma pending_bufferAddEvent (h : s.InRing) (event : KeyEvent) :
    (s.bufferAddEvent event).InRing ∧ (s.bufferAddEvent event).pending =
      if s.pending.length < 255 then s.pending ++ [event] else s.pending := by
  have hhead := h.head_eq
  have hlt := length_pending_lt s
  have htail : s.bufferTail < 256 := h.tail
  have hhead' : s.bufferHead < 256 := h.head
  unfold bufferAddEvent
  rw [nextPosition]
  unfold keyboardBufferSize at hhead ⊢
  dsimp only
  by_cases hfull : s.pending.length < 255
  · rw [if_neg (by omega), if_pos hfull]
    refine ⟨⟨Nat.mod_lt _ (by decide), htail⟩, ?_⟩
    have hnext : (s.bufferHead + 1) % 256 = (s.bufferTail + (s.pending.length + 1)) % 256 := by omega
    have hpending := pending_eq (s := { s with
      eventBuffer := Function.update s.eventBuffer s.bufferHead event
      bufferHead := (s.bufferHead + 1) % 256 }) rfl (by omega) htail hnext
    rw [hpending, ringContents_succ]
    unfold keyboardBufferSize
    dsimp only
    rw [hhead, ringContents_update (by omega), Function.update_self]
    refine congrArg (· ++ [event]) ?_
    exact (pending_eq rfl (by omega) htail hhead).symm
  · rw [if_pos (by omega), if_neg hfull]
    exact ⟨h, rfl⟩

/-- **The oldest event is taken**, if there is one. -/
lemma pending_pollEvent (h : s.InRing) : s.keyboardPollEvent.2.InRing ∧
      s.pending = s.keyboardPollEvent.1.toList ++ s.keyboardPollEvent.2.pending ∧
      (s.keyboardPollEvent.1 = none → s.pending = []) := by
  have hhead := h.head_eq
  have hlt := length_pending_lt s
  have htail : s.bufferTail < 256 := h.tail
  have hhead' : s.bufferHead < 256 := h.head
  unfold keyboardPollEvent
  rw [nextPosition]
  unfold keyboardBufferSize at hhead ⊢
  by_cases hempty : s.bufferHead = s.bufferTail
  · rw [if_pos hempty]
    refine ⟨h, rfl, fun _ => List.length_eq_zero_iff.mp ?_⟩
    rw [length_pending]
    unfold keyboardBufferSize
    omega
  · rw [if_neg hempty]
    dsimp only
    refine ⟨⟨h.head, Nat.mod_lt _ (by decide)⟩, ?_, (fun h => nomatch h)⟩
    obtain ⟨n, hn⟩ : ∃ n, s.pending.length = 1 + n := ⟨s.pending.length - 1, by omega⟩
    rw [pending_eq (n := 1 + n) rfl (by omega) htail (by omega), ringContents_add,
      pending_eq (n := n) rfl (by omega) (Nat.mod_lt _ (by decide)) (by dsimp only; omega)]
    unfold keyboardBufferSize
    have hone : ringContents 256 s.eventBuffer s.bufferTail 1 = [s.eventBuffer s.bufferTail] := by
      simp [ringContents, Nat.mod_eq_of_lt htail]
    rw [hone]
    rfl

end Ring

/-! ## What a key does -/

@[simp] lemma bufferAddEvent_modifiers (s : Keyboard) (event : KeyEvent) :
    (s.bufferAddEvent event).currentModifiers = s.currentModifiers := by
  unfold bufferAddEvent
  dsimp only
  split_ifs <;> rfl

@[simp] lemma bufferAddEvent_extended (s : Keyboard) (event : KeyEvent) :
    (s.bufferAddEvent event).expectingExtended = s.expectingExtended := by
  unfold bufferAddEvent
  dsimp only
  split_ifs <;> rfl

@[simp] lemma bufferAddEvent_extended2 (s : Keyboard) (event : KeyEvent) :
    (s.bufferAddEvent event).expectingExtended2 = s.expectingExtended2 := by
  unfold bufferAddEvent
  dsimp only
  split_ifs <;> rfl

end Keyboard

/-! ### Bits -/

/-- A bit of the modifiers. -/
def modifierOn (modifiers : UInt16) (i : Nat) : Bool := modifiers.toBitVec.getLsbD i

/-- The bit of a key. -/
def Keycode.bit : Keycode → Option Nat
  | .lshift => some 0
  | .rshift => some 1
  | .lctrl => some 2
  | .rctrl => some 3
  | .lalt => some 4
  | .ralt => some 5
  | .capslock => some 6
  | .numlock => some 7
  | .scrolllock => some 8
  | _ => Option.none

/-- A mask with one bit. -/
def IsMask (mask : UInt16) (i : Nat) : Prop := i < 16 ∧ mask.toBitVec = BitVec.twoPow 16 i

section Bits

variable {mask : UInt16} {i : Nat}

lemma and_mask_ne_zero (h : IsMask mask i) (modifiers : UInt16) :
    modifiers &&& mask ≠ 0 ↔ modifierOn modifiers i = true := by
  obtain ⟨hi, hmask⟩ := h
  have htwo : BitVec.twoPow 16 i ≠ 0#16 := fun heq => by
    have hbit := congrArg (fun v => v.getLsbD i) heq
    simp [hi] at hbit
  rw [Ne, ← UInt16.toBitVec_inj, UInt16.toBitVec_and, hmask, BitVec.and_twoPow]
  unfold modifierOn
  split_ifs with hon
  · exact iff_of_true htwo hon
  · exact iff_of_false (fun h => h rfl) hon

lemma modifierOn_hold (h : IsMask mask i) (modifiers : UInt16) (isRelease : Bool) (j : Nat) (hj : j < 16) :
    modifierOn (holdModifier modifiers mask isRelease) j =
      if i = j then !isRelease else modifierOn modifiers j := by
  obtain ⟨hi, hmask⟩ := h
  unfold holdModifier modifierOn
  cases isRelease with
  | false =>
    rw [if_neg Bool.false_ne_true, UInt16.toBitVec_or, hmask, BitVec.getLsbD_or, BitVec.getLsbD_twoPow]
    by_cases hij : i = j <;> simp [hij, hj]
  | true =>
    rw [if_pos rfl, UInt16.toBitVec_and, UInt16.toBitVec_not, hmask, BitVec.getLsbD_and,
      BitVec.getLsbD_not, BitVec.getLsbD_twoPow]
    by_cases hij : i = j <;> simp [hij, hj]

lemma modifierOn_switch (h : IsMask mask i) (modifiers : UInt16) (isRelease : Bool) (j : Nat) (hj : j < 16) :
    modifierOn (switchModifier modifiers mask isRelease) j =
      if i = j then modifierOn modifiers j ^^ !isRelease else modifierOn modifiers j := by
  obtain ⟨hi, hmask⟩ := h
  unfold switchModifier modifierOn
  cases isRelease with
  | true => simp
  | false =>
    rw [if_neg Bool.false_ne_true, UInt16.toBitVec_xor, hmask, BitVec.getLsbD_xor, BitVec.getLsbD_twoPow]
    by_cases hij : i = j <;> simp [hij, hj]

lemma modifierOn_holdKey (h : IsMask mask i) {keycode : Keycode} (hbit : keycode.bit = some i)
    (hlock : keycode.isLock = false) (modifiers : UInt16) (isRelease : Bool) {j : Nat} (hj : j < 16) :
    modifierOn (holdModifier modifiers mask isRelease) j =
      if keycode.bit = some j then
        if keycode.isLock then modifierOn modifiers j ^^ !isRelease else !isRelease
      else modifierOn modifiers j := by
  rw [modifierOn_hold h modifiers isRelease j hj, hbit, hlock, if_neg Bool.false_ne_true]
  exact if_congr Option.some_inj.symm rfl rfl

lemma modifierOn_lockKey (h : IsMask mask i) {keycode : Keycode} (hbit : keycode.bit = some i)
    (hlock : keycode.isLock = true) (modifiers : UInt16) (isRelease : Bool) {j : Nat} (hj : j < 16) :
    modifierOn (switchModifier modifiers mask isRelease) j =
      if keycode.bit = some j then
        if keycode.isLock then modifierOn modifiers j ^^ !isRelease else !isRelease
      else modifierOn modifiers j := by
  rw [modifierOn_switch h modifiers isRelease j hj, hbit, hlock, if_pos rfl]
  exact if_congr Option.some_inj.symm rfl rfl

/-- **What a key does to the modifiers**, bit by bit. -/
lemma modifierOn_update (modifiers : UInt16) (keycode : Keycode) (isRelease : Bool) {j : Nat} (hj : j < 16) :
    modifierOn (updateModifiers modifiers keycode isRelease) j =
      if keycode.bit = some j then
        if keycode.isLock then modifierOn modifiers j ^^ !isRelease else !isRelease
      else modifierOn modifiers j := by
  cases keycode
  case lshift => exact modifierOn_holdKey ⟨by decide, by decide⟩ rfl rfl _ _ hj
  case rshift => exact modifierOn_holdKey ⟨by decide, by decide⟩ rfl rfl _ _ hj
  case lctrl => exact modifierOn_holdKey ⟨by decide, by decide⟩ rfl rfl _ _ hj
  case rctrl => exact modifierOn_holdKey ⟨by decide, by decide⟩ rfl rfl _ _ hj
  case lalt => exact modifierOn_holdKey ⟨by decide, by decide⟩ rfl rfl _ _ hj
  case ralt => exact modifierOn_holdKey ⟨by decide, by decide⟩ rfl rfl _ _ hj
  case capslock => exact modifierOn_lockKey ⟨by decide, by decide⟩ rfl rfl _ _ hj
  case numlock => exact modifierOn_lockKey ⟨by decide, by decide⟩ rfl rfl _ _ hj
  case scrolllock => exact modifierOn_lockKey ⟨by decide, by decide⟩ rfl rfl _ _ hj
  all_goals exact (if_neg (fun h => nomatch h)).symm

end Bits

end AAAos
