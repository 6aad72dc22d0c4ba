import AAAos.Lib.CString
import Mathlib.Data.UInt
import Mathlib.Logic.Function.Basic

/-!
# The window compositor

`gui/compositor/compositor.c`: windows in a doubly linked list from back to front, each with a number for its
place, a buffer of pixels and flags, and one window that is active.

Windows are addresses, and 0 is `NULL`.  What the heap answers is a parameter of the calls that ask it.  The
drawing, and the region that has to be drawn again, are left out.
-/

namespace AAAos

/-! ## Constants -/

def compositorMaxWindows : Nat := 64
def windowTitleMaxLen : Nat := 128
def windowTitleBarHeight : Int32 := 24
def windowBorderWidth : Int32 := 2

def windowFlagVisible : UInt32 := (1 : UInt32) <<< 0
def windowFlagActive : UInt32 := (1 : UInt32) <<< 1
def windowFlagMovable : UInt32 := (1 : UInt32) <<< 2
def windowFlagResizable : UInt32 := (1 : UInt32) <<< 3
def windowFlagDecorated : UInt32 := (1 : UInt32) <<< 4
def windowFlagMinimized : UInt32 := (1 : UInt32) <<< 6
def windowFlagMaximized : UInt32 := (1 : UInt32) <<< 7

def windowFlagsDefault : UInt32 :=
  windowFlagVisible ||| windowFlagMovable ||| windowFlagResizable ||| windowFlagDecorated

/-! ## State -/

abbrev WindowPtr := Nat

/-- What a window holds besides its links. -/
structure WindowData where
  x : Int32 := 0
  y : Int32 := 0
  width : Int32 := 0
  height : Int32 := 0
  buffer : List UInt32 := []
  zOrder : Int32 := 0
  flags : UInt32 := 0
  title : CString := CString.empty
  id : UInt32 := 0
  savedX : Int32 := 0
  savedY : Int32 := 0
  savedWidth : Int32 := 0
  savedHeight : Int32 := 0

namespace WindowData

variable (d : WindowData) (flag : UInt32)

def has : Bool := d.flags &&& flag != 0

def set : WindowData := { d with flags := d.flags ||| flag }

def clear : WindowData := { d with flags := d.flags &&& ~~~flag }

def moveTo (x y : Int32) : WindowData := { d with x := x, y := y }

/-- The place that `compositor_restore_window` goes back to. -/
def savePlace : WindowData :=
  { d with savedX := d.x, savedY := d.y, savedWidth := d.width, savedHeight := d.height }

end WindowData

/-- `window_t`. -/
structure Window extends WindowData where
  next : WindowPtr := 0
  prev : WindowPtr := 0

/-- `compositor_t`, with the windows in memory and which of them are live. -/
structure Compositor where
  screenWidth : UInt32 := 0
  screenHeight : UInt32 := 0
  windowList : WindowPtr := 0
  windowTail : WindowPtr := 0
  activeWindow : WindowPtr := 0
  windowCount : UInt32 := 0
  nextWindowId : UInt32 := 0
  nextZOrder : Int32 := 0
  initialized : Bool := false
  windowsCreated : UInt64 := 0
  windowsDestroyed : UInt64 := 0
  win : WindowPtr → Window := fun _ => {}
  live : WindowPtr → Bool := fun _ => false

/-- `compositor_init`, by whether there is memory for the back buffer and a framebuffer. -/
def compositorInit (width height : UInt32) (backBuffer framebuffer : Bool) : Int × Compositor :=
  let s : Compositor := { screenWidth := width, screenHeight := height }
  if !backBuffer then (-1, s)
  else if !framebuffer then (-2, s)
  else (0, { s with nextWindowId := 1, initialized := true })

/-! ## Pixels -/

/-- The bytes that are asked for, in `size_t`. -/
def bufferSize (w h : Int32) : UInt64 := w.toInt64.toUInt64 * h.toInt64.toUInt64 * 4

/-- A buffer that was cleared to white. -/
def whiteBuffer (w h : Int32) : List UInt32 := List.replicate ((bufferSize w h).toNat / 4) 0xFFFFFFFF

/-- One row is copied. -/
def copyRow (old : List UInt32) (oldWidth width copyW : Nat) (new : List UInt32) (row : Nat) : List UInt32 :=
  new.take (row * width) ++ (old.drop (row * oldWidth)).take copyW ++ new.drop (row * width + copyW)

/-- The old content, as much as fits. -/
def copyRows (d : WindowData) (w h : Int32) : List UInt32 :=
  let copyW := min d.width.toInt.toNat w.toInt.toNat
  let copyH := min d.height.toInt.toNat h.toInt.toNat
  (List.range copyH).foldl (copyRow d.buffer d.width.toInt.toNat w.toInt.toNat copyW) (whiteBuffer w h)

def WindowData.resizeTo (d : WindowData) (w h : Int32) : WindowData :=
  { d with buffer := copyRows d w h, width := w, height := h }

/-- What the heap answers to `compositor_create_window`. -/
structure CreateAnswer where
  window : Option WindowPtr
  buffer : Bool

namespace Compositor

variable (s : Compositor)

/-! ## Links -/

def modify (w : WindowPtr) (f : WindowData → WindowData) : Compositor :=
  { s with win := Function.update s.win w { s.win w with toWindowData := f (s.win w).toWindowData } }

def setZOrder (w : WindowPtr) (z : Int32) : Compositor := s.modify w fun d => { d with zOrder := z }

def setNext (w next : WindowPtr) : Compositor :=
  { s with win := Function.update s.win w { s.win w with next := next } }

def setPrev (w prev : WindowPtr) : Compositor :=
  { s with win := Function.update s.win w { s.win w with prev := prev } }

/-- What comes after a window, or is the first if there is none. -/
def setAfter (w next : WindowPtr) : Compositor :=
  if w ≠ 0 then s.setNext w next else { s with windowList := next }

/-- What comes before a window, or is the last if there is none. -/
def setBefore (w prev : WindowPtr) : Compositor :=
  if w ≠ 0 then s.setPrev w prev else { s with windowTail := prev }

/-- `compositor_unlink_window`. -/
def compositorUnlinkWindow (w : WindowPtr) : Compositor :=
  if w = 0 then s
  else
    let s := s.setAfter (s.win w).prev (s.win w).next
    let s := s.setBefore (s.win w).next (s.win w).prev
    (s.setPrev w 0).setNext w 0

/-- `compositor_link_window`. -/
def compositorLinkWindow (w : WindowPtr) : Compositor :=
  if w = 0 then s
  else
    let s := (s.setPrev w s.windowTail).setNext w 0
    let s := s.setAfter s.windowTail w
    { s with windowTail := w }

/-! ## Calls -/

/-- The window that is active is not marked any more. -/
def deactivate : Compositor :=
  if s.activeWindow ≠ 0 then s.modify s.activeWindow (·.clear windowFlagActive) else s

/-- `compositor_set_active_window`. -/
def compositorSetActiveWindow (w : WindowPtr) : Compositor :=
  let s := { s.deactivate with activeWindow := w }
  if w ≠ 0 then s.modify w (·.set windowFlagActive) else s

/-- What a new window holds. -/
def newWindow (x y w h : Int32) (title : Option CString) : WindowData where
  x := x
  y := y
  width := w
  height := h
  buffer := whiteBuffer w h
  zOrder := s.nextZOrder
  flags := windowFlagsDefault
  title := (title.getD CString.empty).truncate (windowTitleMaxLen - 1)
  id := s.nextWindowId
  savedX := x
  savedY := y
  savedWidth := w
  savedHeight := h

/-- A new window that is in no list yet. -/
def placeWindow (p : WindowPtr) (d : WindowData) : Compositor :=
  { s with
    win := Function.update s.win p { toWindowData := d }
    live := Function.update s.live p true
    nextZOrder := s.nextZOrder + 1
    nextWindowId := s.nextWindowId + 1 }

/-- `compositor_create_window`. -/
def compositorCreateWindow (x y w h : Int32) (title : Option CString) (answer : CreateAnswer) :
    WindowPtr × Compositor :=
  if !s.initialized then (0, s)
  else if compositorMaxWindows ≤ s.windowCount.toNat then (0, s)
  else if w ≤ 0 ∨ h ≤ 0 then (0, s)
  else
    match answer.window with
    | none => (0, s)
    | some p =>
      if !answer.buffer then (0, s)
      else
        let s := s.placeWindow p (s.newWindow x y w h title)
        let s := (s.compositorLinkWindow p).compositorSetActiveWindow p
        (p, { s with windowCount := s.windowCount + 1, windowsCreated := s.windowsCreated + 1 })

/-- The window in front is active. -/
def activateTail : Compositor :=
  let s := { s with activeWindow := s.windowTail }
  if s.activeWindow ≠ 0 then s.modify s.activeWindow (·.set windowFlagActive) else s

/-- `compositor_destroy_window`. -/
def compositorDestroyWindow (w : WindowPtr) : Compositor :=
  if w = 0 then s
  else
    let s := s.compositorUnlinkWindow w
    let s := if s.activeWindow = w then s.activateTail else s
    { s with
      live := Function.update s.live w false
      windowCount := s.windowCount - 1
      windowsDestroyed := s.windowsDestroyed + 1 }

/-- `compositor_move_window`. -/
def compositorMoveWindow (w : WindowPtr) (x y : Int32) : Compositor :=
  if w = 0 then s
  else if !(s.win w).has windowFlagMovable then s
  else s.modify w (·.moveTo x y)

/-- `compositor_resize_window`, by whether there is memory. -/
def compositorResizeWindow (p : WindowPtr) (w h : Int32) (buffer : Bool) : Int × Compositor :=
  if p = 0 then (-1, s)
  else if !(s.win p).has windowFlagResizable then (-2, s)
  else if w ≤ 0 ∨ h ≤ 0 then (-3, s)
  else if !buffer then (-4, s)
  else (0, s.modify p (·.resizeTo w h))

/-- `compositor_raise_window`. -/
def compositorRaiseWindow (w : WindowPtr) : Compositor :=
  if w = 0 then s
  else if w = s.windowTail then s
  else
    let s := s.compositorUnlinkWindow w
    let s := { s.setZOrder w s.nextZOrder with nextZOrder := s.nextZOrder + 1 }
    (s.compositorLinkWindow w).compositorSetActiveWindow w

/-- The end of `compositor_lower_window`. -/
def linkAtFront (w : WindowPtr) : Compositor :=
  let s := (s.setPrev w 0).setNext w s.windowList
  let s := if s.windowList ≠ 0 then s.setPrev s.windowList w else s
  { s with windowList := w, windowTail := if s.windowTail = 0 then w else s.windowTail }

/-- `compositor_lower_window`. -/
def compositorLowerWindow (w : WindowPtr) : Compositor :=
  if w = 0 then s
  else if w = s.windowList then s
  else
    let s := s.compositorUnlinkWindow w
    let zOrder := if s.windowList ≠ 0 then (s.win s.windowList).zOrder - 1 else 0
    (s.setZOrder w zOrder).linkAtFront w

/-- `compositor_set_window_visible`. -/
def compositorSetWindowVisible (w : WindowPtr) (visible : Bool) : Compositor :=
  if w = 0 then s
  else if visible = (s.win w).has windowFlagVisible then s
  else if visible then s.modify w (·.set windowFlagVisible)
  else s.modify w (·.clear windowFlagVisible)

/-- The loop of `compositor_minimize_window`, where `none` means that it goes on. -/
def nextVisible : Nat → WindowPtr → Option WindowPtr
  | 0, _ => none
  | fuel + 1, next =>
    if next ≠ 0 ∧ ((s.win next).has windowFlagMinimized = true ∨ (s.win next).has windowFlagVisible = false) then
      nextVisible fuel (s.win next).prev
    else some next

/-- `compositor_minimize_window`. -/
def compositorMinimizeWindow (w : WindowPtr) : Option Compositor :=
  if w = 0 then some s
  else if (s.win w).has windowFlagMinimized then some s
  else
    let s := s.modify w (·.set windowFlagMinimized)
    if s.activeWindow = w then
      (s.nextVisible (s.windowCount.toNat + 1) (s.win w).prev).map s.compositorSetActiveWindow
    else some s

/-- `compositor_maximize_window`. -/
def compositorMaximizeWindow (w : WindowPtr) (buffer : Bool) : Compositor :=
  if w = 0 then s
  else if (s.win w).has windowFlagMaximized then s
  else
    let s := s.modify w (·.savePlace)
    let s := s.modify w (·.set windowFlagMaximized)
    let s := s.modify w (·.clear windowFlagMinimized)
    let decorated := (s.win w).has windowFlagDecorated
    let newHeight :=
      if decorated then s.screenHeight.toInt32 - (windowTitleBarHeight + windowBorderWidth)
      else s.screenHeight.toInt32
    let s := s.modify w (·.moveTo 0 (if decorated then windowTitleBarHeight else 0))
    (s.compositorResizeWindow w (s.screenWidth.toInt32 - 2 * windowBorderWidth) newHeight buffer).2

/-- `compositor_restore_window`. -/
def compositorRestoreWindow (w : WindowPtr) (buffer : Bool) : Compositor :=
  if w = 0 then s
  else
    let s :=
      if (s.win w).has windowFlagMinimized then
        (s.modify w (·.clear windowFlagMinimized)).compositorRaiseWindow w
      else s
    if (s.win w).has windowFlagMaximized then
      let s := s.modify w (·.clear windowFlagMaximized)
      let s := s.modify w fun d => d.moveTo d.savedX d.savedY
      (s.compositorResizeWindow w (s.win w).savedWidth (s.win w).savedHeight buffer).2
    else s

end Compositor

/-- The calls, with the window they are about and what the heap answers. -/
inductive WindowCall
  | create (x y w h : Int32) (title : Option CString) (answer : CreateAnswer)
  | destroy (w : WindowPtr)
  | move (w : WindowPtr) (x y : Int32)
  | resize (p : WindowPtr) (w h : Int32) (buffer : Bool)
  | raise (w : WindowPtr)
  | lower (w : WindowPtr)
  | setActive (w : WindowPtr)
  | minimize (w : WindowPtr)
  | maximize (w : WindowPtr) (buffer : Bool)
  | restore (w : WindowPtr) (buffer : Bool)
  | setVisible (w : WindowPtr) (visible : Bool)

namespace Compositor

/-- What a call does, or nothing if it does not return. -/
def call (s : Compositor) : WindowCall → Option Compositor
  | .create x y w h title answer => some (s.compositorCreateWindow x y w h title answer).2
  | .destroy w => some (s.compositorDestroyWindow w)
  | .move w x y => some (s.compositorMoveWindow w x y)
  | .resize p w h buffer => some (s.compositorResizeWindow p w h buffer).2
  | .raise w => some (s.compositorRaiseWindow w)
  | .lower w => some (s.compositorLowerWindow w)
  | .setActive w => some (s.compositorSetActiveWindow w)
  | .minimize w => s.compositorMinimizeWindow w
  | .maximize w buffer => some (s.compositorMaximizeWindow w buffer)
  | .restore w buffer => some (s.compositorRestoreWindow w buffer)
  | .setVisible w visible => some (s.compositorSetWindowVisible w visible)

/-- `NULL` or a live window. -/
def Passable (s : Compositor) (w : WindowPtr) : Prop := w = 0 ∨ s.live w = true

/-- Windows that are passed are live, and memory that the heap gives away is free. -/
def Guard (s : Compositor) : WindowCall → Prop
  | .create _ _ _ _ _ answer => ∀ p, answer.window = some p → p ≠ 0 ∧ s.live p = false
  | .destroy w => s.Passable w
  | .move w _ _ => s.Passable w
  | .resize p _ _ _ => s.Passable p
  | .raise w => s.Passable w
  | .lower w => s.Passable w
  | .setActive w => s.Passable w
  | .minimize w => s.Passable w
  | .maximize w _ => s.Passable w
  | .restore w _ => s.Passable w
  | .setVisible w _ => s.Passable w

def WindowStep (s : Compositor) (c : WindowCall) (t : Compositor) : Prop := s.Guard c ∧ s.call c = some t

end Compositor

end AAAos
