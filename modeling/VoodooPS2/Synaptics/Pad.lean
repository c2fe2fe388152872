import VoodooPS2.MiddleButton
import VoodooPS2.Synaptics.Config

/-! # State of the Synaptics driver

What `ApplePS2SynapticsTouchPad` remembers between packets, grouped by what it is for, and the
small operations that the handling of packets, timers and messages is made of.  Whatever goes out
of the driver, and every division that is evaluated, is appended to `log`. -/

namespace VoodooPS2.Synaptics

/-- Conversion to `int`. -/
def toInt (n : ℤ) : ℤ := Int.bmod n (2 ^ 32)

/-- Conversion to `int64_t`. -/
def toInt64 (n : ℤ) : ℤ := Int.bmod n (2 ^ 64)

/-- Conversion to `short`. -/
def toShort (n : ℤ) : ℤ := Int.bmod n (2 ^ 16)

/-- `n` is an `int`. -/
def FitsInt (n : ℤ) : Prop := -2 ^ 31 ≤ n ∧ n < 2 ^ 31

instance (n : ℤ) : Decidable (FitsInt n) := inferInstanceAs (Decidable (_ ∧ _))

/-- `n` is an `int64_t`. -/
def FitsInt64 (n : ℤ) : Prop := -2 ^ 63 ≤ n ∧ n < 2 ^ 63

instance (n : ℤ) : Decidable (FitsInt64 n) := inferInstanceAs (Decidable (_ ∧ _))

theorem FitsInt.toInt {n : ℤ} (h : FitsInt n) : toInt n = n := by
  obtain ⟨hle, hlt⟩ := h
  exact Int.bmod_eq_of_le (by omega) (by omega)

theorem FitsInt64.toInt64 {n : ℤ} (h : FitsInt64 n) : toInt64 n = n := by
  obtain ⟨hle, hlt⟩ := h
  exact Int.bmod_eq_of_le (by omega) (by omega)

/-- `n & ~(1 << k)` in two's complement. -/
def clearBit (k : ℕ) (n : ℤ) : ℤ := n - 2 ^ k * (n / 2 ^ k % 2)

/-! ### Averages -/

/-- `SimpleAverage<T, N>`: the last `N` items, oldest first, and their sum as an `int`. -/
structure SimpleAverage (α : Type) (N : ℕ) where
  items : List α
  sum : ℤ
deriving DecidableEq, Repr

namespace SimpleAverage

variable {α : Type} {N : ℕ}

def reset : SimpleAverage α N := ⟨[], 0⟩

def count (a : SimpleAverage α N) : ℕ := a.items.length

/-- `filter`, less the average it returns; `val` is the item as it is added to the sum. -/
def filter (val : α → ℤ) (a : SimpleAverage α N) (data : α) : SimpleAverage α N :=
  match a.items with
  | [] => ⟨[data], toInt (val data)⟩
  | old :: rest =>
      if a.count = N then ⟨rest ++ [data], toInt (a.sum + val data - val old)⟩
      else ⟨a.items ++ [data], toInt (a.sum + val data)⟩

/-- `m_sum / m_count`. -/
def average (a : SimpleAverage α N) : ℤ := a.sum.tdiv a.count

def oldest (zero : α) (a : SimpleAverage α N) : α := a.items.head?.getD zero

def newest (zero : α) (a : SimpleAverage α N) : α := a.items.getLast?.getD zero

theorem count_filter (val : α → ℤ) (a : SimpleAverage α N) (data : α) :
    (a.filter val data).count ≠ 0 := by
  rw [filter]
  split
  · exact Nat.one_ne_zero
  · split <;> simp [count]

end SimpleAverage

/-- `UndecayAverage<int, int64_t, 1, 1, 2>`: the last item, if it is valid. -/
abbrev UndecayAverage := Option ℤ

/-- What `filter` returns; the item becomes the last one. -/
def UndecayAverage.filter (last : UndecayAverage) (data : ℤ) : ℤ :=
  match last with
  | none => data
  | some last => toInt (data * 2 - last)

/-! ### Touch modes -/

inductive TouchMode where
  | notouch | predrag | dragnotouch
  | move | vscroll | hscroll | cscroll | mtouch | drag | draglock
  /-- special modes for double click in LED area to enable/disable -/
  | wait1release | wait2tap | wait2release
deriving DecidableEq, Repr

def TouchMode.code : TouchMode → ℕ
  | notouch => 0
  | predrag => 2
  | dragnotouch => 4
  | move => 1
  | vscroll => 3
  | hscroll => 5
  | cscroll => 7
  | mtouch => 9
  | drag => 11
  | draglock => 13
  | wait1release => 101
  | wait2tap => 102
  | wait2release => 103

/-- "touch" modes are odd, "no touch" modes even. -/
def TouchMode.isTouchMode (m : TouchMode) : Bool := m.code % 2 = 1

/-! ### The driver -/

inductive SwipeMessage where
  | swipeUp | swipeDown | swipeLeft | swipeRight
deriving DecidableEq, Repr

inductive Effect where
  /-- `dispatchRelativePointerEventX(dx, dy, buttons, now)` -/
  | relative (dx dy : ℤ) (buttons : UInt32)
  /-- `dispatchScrollWheelEventX(axis1, axis2, 0, now)` -/
  | scrollWheel (axis1 axis2 : ℤ)
  /-- `_device->dispatchMessage(…)` -/
  | swipe (message : SwipeMessage)
  /-- `setTouchpadLED(touchLED)` -/
  | led (touchLED : UInt8)
  /-- the mode byte is sent to the touchpad -/
  | modeByte (value : UInt8)
  /-- a quotient or remainder by `divisor` is evaluated -/
  | divide (divisor : ℤ)
deriving DecidableEq, Repr

/-- The button masks among the effects. -/
def pointerMasks (log : List Effect) : List UInt32 :=
  log.filterMap (fun | .relative _ _ b => some b | _ => none)

/-- The divisors among the effects. -/
def divisorsOf (log : List Effect) : List ℤ :=
  log.filterMap (fun | .divide d => some d | _ => none)

/-- What `queryCapabilities` and `start` find out, once. -/
structure Capabilities where
  passthru : Bool
  ledpresent : Bool
  reportsv : Bool
  clickpadtype : ℕ
  extendedwmodeSupported : Bool
  /-- `dragTimer` has been created -/
  hasDragTimer : Bool
deriving DecidableEq, Repr

/-- Movement of the primary finger. -/
structure Motion where
  lastx : ℤ
  lasty : ℤ
  lastf : ℤ
  xrest : ℤ
  yrest : ℤ
  scrollrest : ℤ
  ignoredeltas : ℤ
  xUndo : UndecayAverage
  yUndo : UndecayAverage
  xAvg : SimpleAverage ℤ 5
  yAvg : SimpleAverage ℤ 5
deriving DecidableEq, Repr

/-- Three finger state. -/
structure Swipe where
  inSwipeLeft : Bool
  inSwipeRight : Bool
  inSwipeUp : Bool
  inSwipeDown : Bool
  xmoved : ℤ
  ymoved : ℤ
deriving DecidableEq, Repr

/-- State related to secondary packets. -/
structure Secondary where
  lastx2 : ℤ
  lasty2 : ℤ
  xrest2 : ℤ
  yrest2 : ℤ
  tracksecondary : Bool
  clickedprimary : Bool
  x2Undo : UndecayAverage
  y2Undo : UndecayAverage
  x2Avg : SimpleAverage ℤ 5
  y2Avg : SimpleAverage ℤ 5
deriving DecidableEq, Repr

/-- Momentum scroll state. -/
structure Momentum where
  dyHistory : SimpleAverage ℤ 32
  timeHistory : SimpleAverage UInt64 32
  interval : UInt64
  sum : ℤ
  current : ℤ
  rest1 : ℤ
  rest2 : ℤ
deriving DecidableEq, Repr

structure Thinkpad where
  buttonState : UInt32
  middleScrolled : Bool
  middleButtonPressed : Bool
deriving DecidableEq, Repr

structure Pad where
  cfg : Config
  caps : Capabilities
  machine : MiddleButton
  lastbuttons : UInt32
  passbuttons : UInt32
  clickbuttons : UInt32
  thinkpad : Thinkpad
  ignoreall : Bool
  keytime : UInt64
  modifierdown : UInt32
  /-- `attachedHIDPointerDevices` -/
  attached : List ℕ
  extendedwmode : Bool
  touchPadModeByte : UInt8
  touchmode : TouchMode
  touchtime : UInt64
  untouchtime : UInt64
  touchx : ℤ
  touchy : ℤ
  wasdouble : Bool
  wastriple : Bool
  draglocktemp : UInt32
  /-- `dragTimer` is running -/
  dragArmed : Bool
  motion : Motion
  swipe : Swipe
  second : Secondary
  momentum : Momentum
  log : List Effect

namespace Motion

def initial : Motion := ⟨0, 0, 0, 0, 0, 0, 0, none, none, .reset, .reset⟩

/-- The averages start anew. -/
def resetAverages (m : Motion) : Motion :=
  { m with xUndo := none, yUndo := none, xAvg := .reset, yAvg := .reset }

end Motion

def Swipe.initial : Swipe := ⟨false, false, false, false, 0, 0⟩

namespace Secondary

def initial : Secondary := ⟨0, 0, 0, 0, false, false, none, none, .reset, .reset⟩

end Secondary

def Momentum.initial : Momentum := ⟨.reset, .reset, 0, 0, 0, 0, 0⟩

namespace Pad

/-- The driver after `init` and `start`, with any configuration and capabilities. -/
def initial (cfg : Config) (caps : Capabilities) : Pad where
  cfg := cfg
  caps := caps
  machine := .initial
  lastbuttons := 0
  passbuttons := 0
  clickbuttons := 0
  thinkpad := ⟨0, false, false⟩
  ignoreall := false
  keytime := 0
  modifierdown := 0
  attached := []
  extendedwmode := caps.extendedwmodeSupported && !cfg.bool .dynamicEW
  touchPadModeByte := if caps.extendedwmodeSupported && !cfg.bool .dynamicEW then 0x85 else 0x81
  touchmode := .notouch
  touchtime := 0
  untouchtime := 0
  touchx := 0
  touchy := 0
  wasdouble := false
  wastriple := false
  draglocktemp := 0
  dragArmed := false
  motion := .initial
  swipe := .initial
  second := .initial
  momentum := .initial
  log := []

def isFingerTouch (s : Pad) (z : ℤ) : Prop := z > s.cfg.int .zFinger ∧ z < s.cfg.int .zlimit

instance (s : Pad) (z : ℤ) : Decidable (s.isFingerTouch z) := inferInstanceAs (Decidable (_ ∧ _))

def isInDisableZone (s : Pad) (x y : ℤ) : Prop :=
  x > s.cfg.int .diszl ∧ x < s.cfg.int .diszr ∧ y > s.cfg.int .diszb ∧ y < s.cfg.int .diszt

instance (s : Pad) (x y : ℤ) : Decidable (s.isInDisableZone x y) :=
  inferInstanceAs (Decidable (_ ∧ _))

def isInRightClickZone (s : Pad) (x y : ℤ) : Prop :=
  x > s.cfg.int .rczl ∧ x < s.cfg.int .rczr ∧ y > s.cfg.int .rczb ∧ y < s.cfg.int .rczt

instance (s : Pad) (x y : ℤ) : Decidable (s.isInRightClickZone x y) :=
  inferInstanceAs (Decidable (_ ∧ _))

def isInLeftClickZone (s : Pad) (x y : ℤ) : Prop :=
  x ≤ s.cfg.int .rczl ∧ x ≤ s.cfg.int .rczr ∧ y > s.cfg.int .rczb ∧ y < s.cfg.int .rczt

instance (s : Pad) (x y : ℤ) : Decidable (s.isInLeftClickZone x y) :=
  inferInstanceAs (Decidable (_ ∧ _))

/-- It is not long since a key was pressed. -/
def afterTyping (s : Pad) (now : UInt64) : Prop := now - s.keytime < s.cfg.time .maxaftertyping

instance (s : Pad) (now : UInt64) : Decidable (s.afterTyping now) :=
  inferInstanceAs (Decidable (_ < _))

/-! ### Effects -/

def emit (s : Pad) (effects : List Effect) : Pad := { s with log := s.log ++ effects }

/-- Quotients or remainders by these are evaluated. -/
def dividing (s : Pad) (divisors : List ℤ) : Pad := s.emit (divisors.map .divide)

def dispatchRelative (s : Pad) (dx dy : ℤ) (buttons : UInt32) : Pad :=
  s.emit [.relative dx dy buttons]

def dispatchScroll (s : Pad) (axis1 axis2 : ℤ) : Pad :=
  s.emit [.scrollWheel (toShort axis1) (toShort axis2)]

/-- `updateTouchpadLED`, less the notice to ACPI. -/
def updateTouchpadLED (s : Pad) : Pad :=
  if s.caps.ledpresent = true ∧ s.cfg.bool .noled = false then
    s.emit [.led (if s.ignoreall then 0x88 else 0x10)]
  else s

/-- `setTouchpadModeByte()`. -/
def setTouchpadModeByte (s : Pad) : Pad :=
  if s.cfg.bool .dynamicEW then s.emit [.modeByte s.touchPadModeByte]
  else
    let value :=
      if s.caps.extendedwmodeSupported then s.touchPadModeByte ||| 0x4
      else s.touchPadModeByte &&& ~~~0x4
    { s with
      touchPadModeByte := value
      extendedwmode := s.caps.extendedwmodeSupported
      log := s.log ++ [.modeByte value] }

/-- `setModeByte()`: switches between normal mode and extended W mode. -/
def setModeByte (s : Pad) : Pad :=
  if s.cfg.bool .dynamicEW = false ∨ s.caps.extendedwmodeSupported = false then s
  else
    let value :=
      if s.clickbuttons ≠ 0 then s.touchPadModeByte ||| 0x4 else s.touchPadModeByte &&& ~~~0x4
    { s with
      touchPadModeByte := value
      extendedwmode := decide (s.clickbuttons ≠ 0)
      log := s.log ++ [.modeByte value] }

def setClickButtons (s : Pad) (clickButtons : UInt32) : Pad :=
  if decide (s.clickbuttons ≠ 0) ≠ decide (clickButtons ≠ 0) then
    setModeByte { s with clickbuttons := clickButtons }
  else { s with clickbuttons := clickButtons }

/-! ### Middle button -/

/-- `middleButton` does not leave the buttons as they are. -/
def emulates (s : Pad) (origin : MBComingFrom) : Prop :=
  s.cfg.bool .fakemiddlebutton = true ∧ 2 < s.cfg.int .buttonCount ∧
    ¬ (s.ignoreall = true ∧ origin = .device)

instance (s : Pad) (origin : MBComingFrom) : Decidable (s.emulates origin) :=
  inferInstanceAs (Decidable (_ ∧ _))

/-- The call of the emulation. -/
def called (s : Pad) (buttons : UInt32) (now : UInt64) (origin : MBComingFrom) :
    MiddleButton.Called :=
  if s.emulates origin then
    s.machine.call (s.cfg.time .maxmiddleclicktime) buttons now origin
  else ⟨s.machine, [], buttons⟩

/-- `middleButton(buttons, now_abs, from)`. -/
def middleButton (s : Pad) (buttons : UInt32) (now : UInt64) (origin : MBComingFrom) :
    Pad × UInt32 :=
  ({ s with
      machine := (s.called buttons now origin).machine
      log := s.log ++
        (dispatchedMasks (s.called buttons now origin).effects).map (.relative 0 0) },
    (s.called buttons now origin).buttons)

end Pad

end VoodooPS2.Synaptics
