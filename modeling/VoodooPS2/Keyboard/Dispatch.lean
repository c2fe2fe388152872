import VoodooPS2.Keyboard.Decoder

/-! # Dispatching key events (`ApplePS2Keyboard::dispatchKeyboardEventWithPacket`)

A key packet becomes events of the HID system.  The scan code goes through the PS2 map, the
modifier state is updated, and then two switches may divert the event: one on the key code
(keyboard backlight, brightness hack, Ctrl+Alt+Delete, sleep and the toggles) and one on the
ADB code (screen brightness, eject).  A code diverted by the first switch goes on as key code
zero.  What is left is sent to the HID system.

`branch` is the choice the first switch makes; it depends on the modifiers held at that
moment.  The brightness hack looks at the key bit vector twice, and interrupts may change it
in between, so the function is given both snapshots.  Messages to the touchpad driver and ACPI
methods are left out: they have no effect on what is dispatched. -/

namespace VoodooPS2.Keyboard

def kMaskLeftControl : UInt16 := 0x0001
def kMaskLeftShift : UInt16 := 0x0004
def kMaskLeftAlt : UInt16 := 0x0010
def kMaskLeftWindows : UInt16 := 0x0040

/-- The tables and options of the driver. -/
structure Options where
  ps2ToPS2Map : ℕ → ℕ
  ps2ToADBMap : ℕ → UInt8
  flags : ℕ → UInt16
  /-- `_backlightLevels` is not null -/
  backlightLevels : Bool
  brightnessHack : Bool
  /-- `_brightnessLevels` is not null -/
  brightnessLevels : Bool
  f12ejectdelay : ℕ
  maxsleeppresstime : ℕ
  fkeymode : Bool
  versionMajor : ℕ

inductive TimerFunc where
  | sleep
  | eject
deriving DecidableEq, Repr

/-- The state the function reads and writes.  `down code` is the last event dispatched to the
HID system for an ADB code. -/
structure Dispatcher where
  modifierState : UInt16
  timerFunc : TimerFunc
  timerArmed : Bool
  firsttime : Bool
  down : UInt8 → Bool

/-- `checkModifierState(mask)`. -/
def checkModifierState (modifiers mask : UInt16) : Bool := mask == modifiers &&& mask

/-- The modifier state after an event of a key. -/
def trackModifier (o : Options) (modifiers : UInt16) (keyCodeRaw : ℕ) (goingDown : Bool) : UInt16 :=
  let bit := (o.flags keyCodeRaw >>> 8).toNat
  if bit = 0 then modifiers
  else if goingDown then modifiers ||| UInt16.ofNat (2 ^ (bit - 1))
  else modifiers &&& ~~~UInt16.ofNat (2 ^ (bit - 1))

/-- The arms of the switch on the key code. -/
inductive Branch where
  | backlight
  | brightness
  | salute
  | sleep
  | toggle
  | ordinary
deriving DecidableEq, Repr

/-- Which arm an event takes. -/
def branch (o : Options) (modifiers : UInt16) (keyCode : ℕ) : Branch :=
  if keyCode = 0x4e ∨ keyCode = 0x4a then
    if o.backlightLevels && checkModifierState modifiers (kMaskLeftControl ||| kMaskLeftAlt) then
      .backlight
    else if o.brightnessHack &&
        checkModifierState modifiers (kMaskLeftControl ||| kMaskLeftShift) then .brightness
    else .ordinary
  else if keyCode = 0x153 then
    if checkModifierState modifiers (kMaskLeftControl ||| kMaskLeftAlt) then .salute else .ordinary
  else if keyCode = 0x15f then .sleep
  else if keyCode = 0x128 ∨ keyCode = 0x137 ∨ keyCode = 0x127 then .toggle
  else .ordinary

/-- The key code after the switch. -/
def effectiveCode (o : Options) (modifiers : UInt16) (keyCode : ℕ) : ℕ :=
  match branch o modifiers keyCode with
  | .ordinary => keyCode
  | _ => 0

/-- The ADB code the brightness hack sends. -/
def hackCode (keyCode : ℕ) : UInt8 := if keyCode = 0x4e then 0x90 else 0x91

/-- Left Shift and Left Control; with the Option key down only the latter. -/
def hackKeys (modifiers : UInt16) : List ℕ :=
  if checkModifierState modifiers kMaskLeftWindows then [0x1d] else [0x2a, 0x1d]

namespace Dispatcher

/-- `dispatchKeyboardEventX(code, goingDown, …)`. -/
def send (s : Dispatcher) (code : UInt8) (goingDown : Bool) : Dispatcher :=
  { s with down := Function.update s.down code goingDown }

/-- One event for each of a list of keys. -/
def sendAll (o : Options) (s : Dispatcher) (keys : List ℕ) (goingDown : Bool) : Dispatcher :=
  keys.foldl (fun s key => s.send (o.ps2ToADBMap key) goingDown) s

/-- `onSleepEjectTimer`. -/
def onSleepEjectTimer (s : Dispatcher) : Dispatcher :=
  match s.timerFunc with
  | .sleep => s
  | .eject => s.send 0x92 true

/-- The switch on the key code.  Control and Alt must be up when the power key is sent. -/
def specialCases (o : Options) (s : Dispatcher) (before after : KeyBitVector) (keyCode : ℕ)
    (goingDown : Bool) : Dispatcher :=
  match branch o s.modifierState keyCode with
  | .backlight => s
  | .brightness =>
      let keys := hackKeys s.modifierState
      let s := s.sendAll o (keys.filter before.isKeyDown) false
      let s := s.send (hackCode keyCode) goingDown
      s.sendAll o (keys.filter after.isKeyDown) true
  | .salute =>
      if goingDown then s
      else (((s.send 0x37 false).send 0x3b false).send 0x7f true).send 0x7f false
  | .sleep =>
      if goingDown then
        if o.fkeymode ∨ o.maxsleeppresstime = 0 then
          onSleepEjectTimer { s with timerFunc := .sleep }
        else { s with timerFunc := .sleep, timerArmed := true }
      else { s with timerArmed := false }
  | .toggle => s
  | .ordinary => s

/-- The switch on the ADB code: the state, the code that is left and `eatKey`. -/
def adbCases (o : Options) (s : Dispatcher) (adbKeyCode : UInt8) (goingDown : Bool) :
    Dispatcher × UInt8 × Bool :=
  if adbKeyCode = 0x90 ∨ adbKeyCode = 0x91 then
    if o.brightnessLevels then (s, DEADKEY, false) else (s, adbKeyCode, false)
  else if adbKeyCode = 0x92 ∧ s.modifierState = 0 then
    if goingDown then
      if o.f12ejectdelay = 0 then (onSleepEjectTimer { s with timerFunc := .eject }, adbKeyCode, true)
      else ({ s with timerFunc := .eject, timerArmed := true }, adbKeyCode, true)
    else ({ s with timerArmed := false }, adbKeyCode, false)
  else (s, adbKeyCode, false)

/-- The work-around for Caps Lock: every press is a press and a release, twice after the first
time. -/
def capsLock (s : Dispatcher) (goingDown : Bool) : Dispatcher :=
  if goingDown then
    let s' := (s.send 0x39 true).send 0x39 false
    { (if s.firsttime then s' else (s'.send 0x39 true).send 0x39 false) with firsttime := false }
  else s

/-- An event goes to the HID system.  A breakless key is released at once, and its break is not
sent. -/
def dispatchToHID (o : Options) (s : Dispatcher) (keyCodeRaw : ℕ) (adbKeyCode : UInt8)
    (goingDown : Bool) : Dispatcher :=
  let breakless := isBreakless o.flags keyCodeRaw
  let s := if goingDown ∨ breakless = false then s.send adbKeyCode goingDown else s
  if goingDown ∧ breakless = true then s.send adbKeyCode false else s

/-- The end of the function: the switch on the ADB code, and the event unless the key was
diverted or eaten. -/
def finish (o : Options) (s : Dispatcher) (keyCodeRaw keyCode : ℕ) (goingDown : Bool) : Dispatcher :=
  match s.adbCases o (o.ps2ToADBMap keyCode) goingDown with
  | (s, adbKeyCode, eatKey) =>
      if adbKeyCode = 0x39 ∧ 16 ≤ o.versionMajor then s.capsLock goingDown
      else if keyCode ≠ 0 ∧ eatKey = false then s.dispatchToHID o keyCodeRaw adbKeyCode goingDown
      else s

end Dispatcher

/-- LANG1 (Hangul) and LANG2 (Hanja), which are sent when the key is pressed. -/
def isLang (extended : Bool) (scanCode : UInt8) : Bool :=
  !extended && (scanCode == 0xf2 || scanCode == 0xf1)

/-- Header or trailer for PrintScreen. -/
def isPrintScreenHeader (keyCodeRaw : ℕ) : Bool := keyCodeRaw == 0x12a

/-- `dispatchKeyboardEventWithPacket`: the state, and whether an event was dispatched. -/
def dispatchKeyboardEventWithPacket (o : Options) (s : Dispatcher) (packet : UInt8 × UInt8)
    (before after : KeyBitVector) : Dispatcher × Bool :=
  let extended := packet.1 - 1 != 0
  let scanCode := packet.2
  let goingDown := scanCode &&& kSCUpBit == 0
  if isLang extended scanCode then
    ((s.send (o.ps2ToADBMap scanCode.toNat) true).send (o.ps2ToADBMap scanCode.toNat) false, true)
  else
    let keyCodeRaw := keyIndex extended (scanCode &&& ~~~kSCUpBit)
    if isPrintScreenHeader keyCodeRaw then (s, false)
    else
      let s := { s with modifierState := trackModifier o s.modifierState keyCodeRaw goingDown }
      let keyCode := o.ps2ToPS2Map keyCodeRaw
      let s' := s.specialCases o before after keyCode goingDown
      (s'.finish o keyCodeRaw (effectiveCode o s.modifierState keyCode) goingDown, true)

end VoodooPS2.Keyboard
