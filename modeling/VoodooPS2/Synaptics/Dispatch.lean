import VoodooPS2.Synaptics.Touching

/-! # Events of the Synaptics driver

Packets of a secondary finger (`dispatchEventsWithPacketEW`), the three timers, the messages of the
keyboard driver, notices of attached pointer devices, `setParamPropertiesGated` and the wake from
sleep.  `Pad.handle` is the driver's reaction to one event, with what it puts out in `log`;
`Pad.run` handles one event after the other. -/

namespace VoodooPS2.Synaptics

/-! ### Secondary finger -/

namespace PadPacket

/-- bits 7-4 define packet code -/
def packetCode (p : PadPacket) : UInt8 := p.byte5 >>> 4

def x2 (p : PadPacket) : ℤ := ((p.byte1.toNat <<< 1) ||| ((p.byte4 &&& 0x0F).toNat <<< 9) : ℕ)

def y2 (p : PadPacket) : ℤ := ((p.byte2.toNat <<< 1) ||| ((p.byte4 &&& 0xF0).toNat <<< 5) : ℕ)

def z2 (p : PadPacket) : ℤ :=
  (((p.byte5 &&& 0x0F).toNat <<< 1) ||| ((p.byte3 &&& 0x30).toNat <<< 1) : ℕ)

end PadPacket

namespace Secondary

/-- first secondary packet, clear some state -/
def start (m : Secondary) : Secondary :=
  if m.tracksecondary then m
  else
    { m with
      x2Undo := none, y2Undo := none, x2Avg := .reset, y2Avg := .reset, xrest2 := 0, yrest2 := 0 }

def unsmooth (c : Config) (m : Secondary) (t : Touch) : Secondary × Touch :=
  if c.bool .unsmoothinput then
    ({ m with x2Undo := some t.x, y2Undo := some t.y },
      { t with x := m.x2Undo.filter t.x, y := m.y2Undo.filter t.y })
  else (m, t)

def average (c : Config) (m : Secondary) (t : Touch) : Secondary × Touch :=
  if c.bool .smoothinput then
    ({ m with x2Avg := m.x2Avg.filter id t.x, y2Avg := m.y2Avg.filter id t.y },
      { t with x := (m.x2Avg.filter id t.x).average, y := (m.y2Avg.filter id t.y).average })
  else (m, t)

def averageDivisors (c : Config) (m : Secondary) : List ℤ :=
  if c.bool .smoothinput then [m.x2Avg.count, m.y2Avg.count] else []

/-- The position is saved for the next delta. -/
def save (m : Secondary) (t : Touch) : Secondary :=
  { m with lastx2 := t.x, lasty2 := t.y, tracksecondary := true }

end Secondary

namespace Pad

/-- Position and pressure of the secondary finger; the number of fingers is not in the packet. -/
def readSecond (s : Pad) (p : PadPacket) (now : UInt64) : Touch :=
  let xraw := if s.caps.reportsv then clearBit 1 (s.cfg.scaleX p.x2) else s.cfg.scaleX p.x2
  let yraw := if s.caps.reportsv then clearBit 1 (s.cfg.scaleY p.y2) else s.cfg.scaleY p.y2
  ⟨p.w, if s.caps.reportsv then clearBit 1 p.z2 else p.z2, 0, xraw, yraw, xraw, yraw, now⟩

/-- The filters on the position of the secondary finger. -/
def smoothSecond (s : Pad) (t : Touch) : Pad × Touch :=
  let (m, t) := s.second.start.unsmooth s.cfg t
  let (m, t) := m.average s.cfg t
  ({ s with second := m, log := s.log ++ (m.averageDivisors s.cfg).map .divide }, t)

/-- A thinkpad scrolls with its middle button. -/
def middleScrolls (s : Pad) (buttons : UInt32) : Prop :=
  s.cfg.bool .isthinkpad = true ∧ s.cfg.bool .mousemiddlescroll = true ∧ buttons = 4

instance (s : Pad) (buttons : UInt32) : Decidable (s.middleScrolls buttons) :=
  inferInstanceAs (Decidable (_ ∧ _))

/-- The secondary finger moves while the primary finger holds the ClickPad. -/
def moveSecond (s : Pad) (t : Touch) (buttons : UInt32) : Pad :=
  let dx := t.x - s.second.lastx2 + s.second.xrest2
  let dy := s.second.lasty2 - t.y + s.second.yrest2
  let bogus : Bool := |dx| > s.cfg.int .bogusdxthresh ∨ |dy| > s.cfg.int .bogusdythresh
  let s :=
    { s.dividing [s.cfg.int .divisorx, s.cfg.int .divisory] with
      second :=
        { s.second with
          xrest2 := dx.tmod (s.cfg.int .divisorx)
          yrest2 := dy.tmod (s.cfg.int .divisory) }
      motion :=
        { s.motion with
          xrest := if bogus then 0 else s.motion.xrest
          yrest := if bogus then 0 else s.motion.yrest } }
  if s.middleScrolls (buttons ||| s.clickbuttons) then s
  else
    s.dispatchMove (if bogus then 0 else dx) (if bogus then 0 else dy) (buttons ||| s.clickbuttons)

/-- The secondary finger is watched in case the ClickPad goes down. -/
def clickSecond (s : Pad) (p : PadPacket) (t : Touch) (buttons : UInt32) : Pad × UInt32 :=
  let (s, clickbuttons, buttons) := s.readClickButtons p buttons
  let s :=
    if s.clickbuttons = 0 ∧ clickbuttons ≠ 0 then
      let right : Bool :=
        s.isInRightClickZone t.x t.y ∨ t.now - s.touchtime < s.cfg.time .clickpadclicktime ∨
          s.touchmode = .notouch
      let s := s.setClickButtons (if right then 0x2 else clickbuttons)
      { s with second := { s.second with clickedprimary := false } }
    else s
  let s := if clickbuttons = 0 then s.setClickButtons 0 else s
  let s := s.keepThinkpadButtons
  (s, buttons ||| s.clickbuttons)

/-- The buttons alone are dispatched. -/
def dispatchButtons (s : Pad) (buttons : UInt32) : Pad :=
  if s.middleScrolls buttons then s else s.dispatchRelative 0 0 buttons

/-- What a packet of the secondary finger is for. -/
def trackSecond (s : Pad) (p : PadPacket) (t : Touch) (buttons : UInt32) : Pad :=
  if (s.cfg.bool .clickpadtrackboth = true ∨ s.second.clickedprimary = true) ∧
      s.clickbuttons ≠ 0 then
    if s.second.tracksecondary then s.moveSecond t buttons else s
  else if s.caps.clickpadtype ≠ 0 then
    (s.clickSecond p t buttons).1.dispatchButtons (s.clickSecond p t buttons).2
  else s.dispatchButtons buttons

def dispatchEventsWithPacketEW (s : Pad) (p : PadPacket) (now : UInt64) : Pad :=
  if s.ignoreall then s
  else if p.packetCode ≠ 1 then s
  else
    let t := s.readSecond p now
    let s := s.dividing s.cfg.scaleDivisors
    if ¬ s.isFingerTouch p.z2 then s
    else
      let (s, t) := s.smoothSecond t
      if s.isOutsideZone t then s
      else
        let s := s.trackSecond p t (p.buttonsraw ||| s.passbuttons)
        { s with second := s.second.save t }

/-! ### Packets -/

/-- `_extendedwmode && 2 == w` -/
def isExtended (s : Pad) (p : PadPacket) : Prop := s.extendedwmode = true ∧ p.w = 2

instance (s : Pad) (p : PadPacket) : Decidable (s.isExtended p) := inferInstanceAs (Decidable (_ ∧ _))

/-- `passthru && 3 == w` -/
def isPassThrough (s : Pad) (p : PadPacket) : Prop := s.caps.passthru = true ∧ p.w = 3

instance (s : Pad) (p : PadPacket) : Decidable (s.isPassThrough p) :=
  inferInstanceAs (Decidable (_ ∧ _))

/-- A normal packet up to its first early return. -/
def prepared (s : Pad) (p : PadPacket) (now : UInt64) : Prepared :=
  (s.readButtons p now).1.prepare p now (s.readButtons p now).2

def dispatchEventsWithPacket (s : Pad) (p : PadPacket) (now : UInt64) : Pad :=
  if s.isExtended p then s.dispatchEventsWithPacketEW p now
  else if s.isPassThrough p then
    (s.readButtons p now).1.passThrough p (s.readButtons p now).2
  else (s.prepared p now).pad.dispatchTouch (s.prepared p now).touch (s.prepared p now).buttons

/-! ### Timers -/

/-- `onButtonTimer`, when the timer fires. -/
def onButtonTimer (s : Pad) (now : UInt64) : Pad :=
  (middleButton { s with machine := { s.machine with timerArmed := false } } s.lastbuttons now
    .timer).1

/-- `onDragTimer`, when the timer fires. -/
def onDragTimer (s : Pad) (now : UInt64) : Pad :=
  let r :=
    middleButton { s with touchmode := .notouch, dragArmed := false } s.lastbuttons now .passthru
  r.1.dispatchButtons r.2

/-- One tick of momentum scroll that moves by `dy`. -/
def scrollMomentum (s : Pad) (dy : ℤ) : Pad :=
  let wv := s.cfg.int .wvdivisor
  let divisor := s.cfg.int .momentumscrolldivisor
  let current :=
    toInt64 (s.momentum.current * s.cfg.int .momentumscrollmultiplier + s.momentum.rest1)
  { (s.dividing ([wv, wv].filter (· ≠ 0) ++ [divisor, divisor])).dispatchScroll
      (if wv ≠ 0 then dy.tdiv wv else 0) 0 with
    momentum :=
      { s.momentum with
        rest2 := if wv ≠ 0 then dy.tmod wv else 0
        rest1 := current.tmod divisor
        current := current.tdiv divisor } }

/-- `onScrollTimer`; it may be called at any time. -/
def onScrollTimer (s : Pad) : Pad :=
  if s.momentum.current = 0 then s
  else
    let interval := toInt64 s.momentum.interval.toNat
    let dy := toInt (s.momentum.current.tdiv interval + s.momentum.rest2)
    let s := s.dividing [interval]
    if |dy| > s.cfg.int .momentumscrollthreshy then s.scrollMomentum dy
    else { s with momentum := { s.momentum with current := 0 } }

/-! ### Messages, notices and properties -/

/-- `kPS2M_setDisableTouchpad`. -/
def setDisableTouchpad (s : Pad) (enable : Bool) : Pad :=
  if enable = s.ignoreall then updateTouchpadLED { s with ignoreall := !enable } else s

/-- The mask of a modifier key. -/
def modifierMask : UInt8 → Option UInt32
  | 0x36 => some 0x10
  | 0x37 => some 0x100000
  | 0x38 => some 0
  | 0x3a => some 0x080000
  | 0x3b => some 0x040000
  | 0x3c => some 0
  | 0x3d => some 0x08
  | 0x3e => some 0x04
  | 0x3f => some 0x200000
  | _ => none

/-- `kPS2M_notifyKeyPressed`: the time of the last key, less modifier keys going down. -/
def notifyKeyPressed (s : Pad) (adbKeyCode : UInt8) (goingDown : Bool) (time : UInt64) : Pad :=
  match modifierMask adbKeyCode with
  | some mask =>
      if goingDown then { s with modifierdown := s.modifierdown ||| mask }
      else { s with modifierdown := s.modifierdown &&& ~~~mask, keytime := time }
  | none => { s with momentum := { s.momentum with current := 0 }, keytime := time }

end Pad

/-- The notifier that brings a notice; for a Bluetooth device, whether its class is that of a
pointer. -/
inductive HIDNotice where
  | usbPublish
  | usbTerminate
  | bluetoothPublish (pointer : Bool)
  | bluetoothTerminate
deriving DecidableEq, Repr

namespace Pad

/-- The attached devices after a notice. -/
def attachedAfter (s : Pad) (device : ℕ) : HIDNotice → List ℕ
  | .usbPublish => s.attached.insert device
  | .usbTerminate => s.attached.erase device
  | .bluetoothPublish pointer => if pointer then s.attached.insert device else s.attached
  | .bluetoothTerminate => s.attached.erase device

/-- `notificationHIDAttachedHandlerGated`. -/
def notificationHIDAttachedHandlerGated (s : Pad) (device : ℕ) (notice : HIDNotice) : Pad :=
  let s := { s with attached := s.attachedAfter device notice }
  match notice with
  | .usbPublish | .bluetoothPublish _ =>
      if s.cfg.flag .usbMouseStopsTrackpad = true ∧ s.attached.length > 0 then
        updateTouchpadLED { s with ignoreall := true }
      else s
  | .usbTerminate | .bluetoothTerminate =>
      if s.cfg.flag .usbMouseStopsTrackpad = true ∧ s.attached.length = 0 then
        updateTouchpadLED { s with ignoreall := false }
      else s

/-- The mode byte after a dictionary has been read. -/
def modeByteAfter (s : Pad) (cfg : Config) (d : Dictionary) : UInt8 :=
  let value :=
    match d "UseHighRate" with
    | some (.boolean b) => if b then s.touchPadModeByte ||| 0x40 else s.touchPadModeByte &&& ~~~0x40
    | _ => s.touchPadModeByte
  let value := value ||| 0x1
  if cfg.bool .dynamicEW then value
  else if s.caps.extendedwmodeSupported then value ||| 0x4
  else value &&& ~~~0x4

def setParamPropertiesGated (s : Pad) (d : Dictionary) : Pad :=
  let cfg := s.cfg.read d
  let value := s.modeByteAfter cfg d
  let s' := { s with cfg := cfg, touchPadModeByte := value }
  let s' := if value ≠ s.touchPadModeByte then s'.setTouchpadModeByte else s'
  let s' := { s' with touchmode := .notouch }
  if s'.attached.length > 0 then
    updateTouchpadLED { s' with ignoreall := s'.cfg.flag .usbMouseStopsTrackpad }
  else s'

/-- `initTouchPad`, when the device is powered again. -/
def initTouchPad (s : Pad) : Pad :=
  (setTouchpadModeByte
    { s with
      passbuttons := 0
      clickbuttons := 0
      second := { s.second with tracksecondary := false }
      modifierdown := 0 }).updateTouchpadLED

end Pad

/-! ### Events -/

inductive PadEvent where
  | packet (p : PadPacket) (now : UInt64)
  | buttonTimer (now : UInt64)
  | dragTimer (now : UInt64)
  | scrollTimer
  | setDisableTouchpad (enable : Bool)
  | notifyKeyPressed (adbKeyCode : UInt8) (goingDown : Bool) (time : UInt64)
  | notification (device : ℕ) (notice : HIDNotice)
  | setParamProperties (d : Dictionary)
  | wake

namespace Pad

/-- The driver's reaction to an event. -/
def react (s : Pad) : PadEvent → Pad
  | .packet p now => s.dispatchEventsWithPacket p now
  | .buttonTimer now => s.onButtonTimer now
  | .dragTimer now => s.onDragTimer now
  | .scrollTimer => s.onScrollTimer
  | .setDisableTouchpad enable => s.setDisableTouchpad enable
  | .notifyKeyPressed adbKeyCode goingDown time => s.notifyKeyPressed adbKeyCode goingDown time
  | .notification device notice => s.notificationHIDAttachedHandlerGated device notice
  | .setParamProperties d => s.setParamPropertiesGated d
  | .wake => s.initTouchPad

/-- One event; `log` holds what it puts out. -/
def handle (s : Pad) (e : PadEvent) : Pad := react { s with log := [] } e

def run (s : Pad) (es : List PadEvent) : Pad := es.foldl handle s

end Pad

end VoodooPS2.Synaptics
