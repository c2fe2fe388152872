import VoodooPS2.Synaptics.Pad

/-! # Packets (`ApplePS2SynapticsTouchPad::dispatchEventsWithPacket`)

The first half of the handling of a packet, as the source has it: the buttons (`readButtons`),
packets of a pass-through device (`passThrough`), position and pressure (`readTouch`, `smooth`) and
the buttons of a ClickPad (`clickPad`).  `prepare` is all that happens between the reading of the
buttons of a normal packet and its first early return. -/

namespace VoodooPS2.Synaptics

/-- The six bytes of a packet. -/
structure PadPacket where
  byte0 : UInt8
  byte1 : UInt8
  byte2 : UInt8
  byte3 : UInt8
  byte4 : UInt8
  byte5 : UInt8
deriving DecidableEq, Repr

namespace PadPacket

def w (p : PadPacket) : ℤ :=
  (((p.byte3 &&& 0x4) >>> 2) ||| ((p.byte0 &&& 0x4) >>> 1) ||| ((p.byte0 &&& 0x30) >>> 2)).toNat

/-- mask for just R L -/
def buttonsraw (p : PadPacket) : UInt32 := (p.byte0 &&& 0x03).toUInt32

/-- Where a ClickPad puts its buttons. -/
def clickbuttons (p : PadPacket) : UInt32 := (p.byte3 &&& 0x3).toUInt32

def x (p : PadPacket) : ℤ :=
  (p.byte4.toNat ||| ((p.byte1 &&& 0x0f).toNat <<< 8) ||| ((p.byte3 &&& 0x10).toNat <<< 8) : ℕ)

def y (p : PadPacket) : ℤ :=
  (p.byte5.toNat ||| ((p.byte1 &&& 0xf0).toNat <<< 4) ||| ((p.byte3 &&& 0x20).toNat <<< 7) : ℕ)

def z (p : PadPacket) : ℤ := p.byte2.toNat

/-- The trackpoint buttons of a Thinkpad, for which byte 3 says 2. -/
def thinkpadButtons (p : PadPacket) : UInt32 :=
  if p.byte4 &&& 0x3 = 1 then 0x1
  else if p.byte5 &&& 0x3 = 1 then 0x2
  else if p.byte4 &&& 0x3 = 2 then 0x4
  else 0x0

end PadPacket

/-- A normal packet as it has been read. -/
structure Touch where
  w : ℤ
  z : ℤ
  /-- number of fingers -/
  f : ℤ
  xraw : ℤ
  yraw : ℤ
  x : ℤ
  y : ℤ
  now : UInt64
deriving DecidableEq, Repr

namespace Config

/-- x and y are scaled to the axis which has the most resolution. -/
def scaleX (c : Config) (xraw : ℤ) : ℤ :=
  if c.int .xupmm < c.int .yupmm then (xraw * c.int .yupmm).tdiv (c.int .xupmm) else xraw

def scaleY (c : Config) (yraw : ℤ) : ℤ :=
  if c.int .xupmm > c.int .yupmm then (yraw * c.int .xupmm).tdiv (c.int .yupmm) else yraw

def scaleDivisors (c : Config) : List ℤ :=
  if c.int .xupmm < c.int .yupmm then [c.int .xupmm]
  else if c.int .xupmm > c.int .yupmm then [c.int .yupmm]
  else []

end Config

namespace Motion

/-- The averages start anew when the number of fingers changes, and deltas are ignored for a
while. -/
def fingersChange (c : Config) (m : Motion) (f : ℤ) : Motion :=
  let m :=
    if m.lastf > 0 ∧ f > 0 ∧ m.lastf ≠ f then { m with ignoredeltas := c.int .ignoredeltasstart }
    else m
  if m.lastf ≠ f then m.resetAverages else m

/-- unsmooth input -/
def unsmooth (c : Config) (m : Motion) (t : Touch) : Motion × Touch :=
  if c.bool .unsmoothinput then
    ({ m with xUndo := some t.x, yUndo := some t.y },
      { t with x := m.xUndo.filter t.x, y := m.yUndo.filter t.y })
  else (m, t)

/-- smooth input by unweighted average -/
def average (c : Config) (m : Motion) (t : Touch) : Motion × Touch :=
  if c.bool .smoothinput then
    ({ m with xAvg := m.xAvg.filter id t.x, yAvg := m.yAvg.filter id t.y },
      { t with x := (m.xAvg.filter id t.x).average, y := (m.yAvg.filter id t.y).average })
  else (m, t)

def averageDivisors (c : Config) (m : Motion) : List ℤ :=
  if c.bool .smoothinput then [m.xAvg.count, m.yAvg.count] else []

/-- While deltas are ignored, the last position is the current one. -/
def ignoreDeltas (m : Motion) (t : Touch) : Motion :=
  if m.ignoredeltas ≠ 0 then
    let m' := { m with lastx := t.x, lasty := t.y, ignoredeltas := m.ignoredeltas - 1 }
    if m.ignoredeltas - 1 = 0 then m'.resetAverages else m'
  else m

end Motion

namespace Pad

/-! ### Buttons -/

/-- The buttons of the last pass-through packet. -/
def passButtons (s : Pad) (p : PadPacket) : UInt32 :=
  if s.caps.passthru = true ∧ p.w = 3 then (p.byte1 &&& 0x7).toUInt32 else s.passbuttons

/-- The physical buttons; those of the last pass-through packet are set in any trackpad dispatch. -/
def physicalButtons (s : Pad) (p : PadPacket) : UInt32 := p.buttonsraw ||| s.passButtons p

/-- The buttons are remembered for the timers. -/
def storeButtons (s : Pad) (p : PadPacket) : Pad :=
  { s with passbuttons := s.passButtons p, lastbuttons := s.physicalButtons p }

/-- The buttons of a packet.  Those of a ClickPad do not go through the emulation. -/
def readButtons (s : Pad) (p : PadPacket) (now : UInt64) : Pad × UInt32 :=
  if s.caps.clickpadtype = 0 ∨ p.w = 3 then
    (s.storeButtons p).middleButton (s.physicalButtons p) now
      (if p.w = 3 then .passthru else .device)
  else (s.storeButtons p, s.physicalButtons p)

/-- A delta of a pass-through packet. -/
def passDelta (sign : UInt8) (byte : UInt8) : ℤ :=
  (if sign ≠ 0 then -0x100 else 0) + byte.toNat

def passDx (p : PadPacket) : ℤ := passDelta (p.byte1 &&& 0x10) p.byte4

def passDy (p : PadPacket) : ℤ := passDelta (p.byte1 &&& 0x20) p.byte5

/-- The middle button treats deltas for scrolling, only for physical middle button. -/
def passScrolls (s : Pad) (p : PadPacket) : Prop :=
  s.cfg.bool .mousemiddlescroll = true ∧ (p.byte1 &&& 0x4 ≠ 0 ∨ s.thinkpad.buttonState = 4)

instance (s : Pad) (p : PadPacket) : Decidable (s.passScrolls p) :=
  inferInstanceAs (Decidable (_ ∧ _))

/-- The factor of the nub of a Thinkpad. -/
def nubMultiplier (s : Pad) (v : IntVar) : ℤ :=
  if s.cfg.bool .isthinkpad = true ∧ s.thinkpad.middleButtonPressed = true then s.cfg.int v else 1

/-- pass through packet scrolling -/
def passScroll (s : Pad) (p : PadPacket) : Pad :=
  let across : Bool := |passDx p| > |passDy p|
  let scrollx := if across then passDx p * s.cfg.int .mousescrollmultiplierx else 0
  let scrolly := if across then 0 else passDy p * s.cfg.int .mousescrollmultipliery
  { s.dispatchScroll (scrolly * s.nubMultiplier .thinkpadNubScrollYMultiplier)
      (-(scrollx * s.nubMultiplier .thinkpadNubScrollXMultiplier)) with
    thinkpad :=
      { s.thinkpad with
        middleScrolled := s.thinkpad.middleScrolled || decide (passDx p ≠ 0 ∨ passDy p ≠ 0) } }

/-- The dispatch of a pass-through packet, with the middle click of a Thinkpad. -/
def passMove (s : Pad) (dx dy : ℤ) (combinedButtons : UInt32) : Pad :=
  if s.cfg.bool .isthinkpad = false then s.dispatchRelative dx (-dy) combinedButtons
  else if s.cfg.bool .mousemiddlescroll = true ∧ combinedButtons = 4 then
    { s with thinkpad := { s.thinkpad with middleButtonPressed := true } }
  else
    let clicks : Bool :=
      s.thinkpad.middleButtonPressed = true ∧ s.thinkpad.middleScrolled = false
    { (s.emit (if clicks then [.relative dx (-dy) 4] else [])).dispatchRelative dx (-dy)
        combinedButtons with
      thinkpad := { s.thinkpad with middleButtonPressed := false, middleScrolled := false } }

/-- pass through packet moving/scrolling -/
def passThrough (s : Pad) (p : PadPacket) (buttons : UInt32) : Pad :=
  let combinedButtons :=
    buttons ||| ((p.byte0 &&& 0x3) ||| (p.byte3 &&& 0x3)).toUInt32 ||| s.clickbuttons |||
      s.thinkpad.buttonState
  if s.passScrolls p then (s.passScroll p).passMove 0 0 combinedButtons
  else
    s.passMove (passDx p * s.cfg.int .mousemultiplierx) (passDy p * s.cfg.int .mousemultipliery)
      combinedButtons

/-! ### Position and pressure -/

/-- Position, pressure and number of fingers of a normal packet.  In extended W mode the width is
encoded in them when there is more than one finger. -/
def readTouch (s : Pad) (p : PadPacket) (now : UInt64) : Touch :=
  let f := if p.z > s.cfg.int .zFinger then if p.w ≥ 4 then 1 else p.w + 2 else 0
  let v : Bool := s.extendedwmode = true ∧ s.caps.reportsv = true ∧ f > 1
  let xraw := if v then clearBit 1 (s.cfg.scaleX p.x) else s.cfg.scaleX p.x
  let yraw := if v then clearBit 1 (s.cfg.scaleY p.y) else s.cfg.scaleY p.y
  ⟨p.w, if v then clearBit 0 p.z else p.z, f, xraw, yraw, xraw, yraw, now⟩

/-- recalc middle buttons if finger is going down -/
def fingerDown (s : Pad) (p : PadPacket) (t : Touch) (buttons : UInt32) : Pad × UInt32 :=
  if s.motion.lastf = 0 ∧ t.f > 0 then
    s.middleButton (p.buttonsraw ||| s.passbuttons) t.now .cancel
  else (s, buttons)

/-- The filters on the position. -/
def smooth (s : Pad) (t : Touch) : Pad × Touch :=
  let m := s.motion.fingersChange s.cfg t.f
  let (m, t) := m.unsmooth s.cfg t
  let (m, t) := m.average s.cfg t
  ({ s with
      motion := m.ignoreDeltas t
      log := s.log ++ (m.averageDivisors s.cfg).map .divide }, t)

/-! ### ClickPads -/

/-- The buttons of a ClickPad, or the trackpoint buttons of a Thinkpad. -/
def readClickButtons (s : Pad) (p : PadPacket) (buttons : UInt32) : Pad × UInt32 × UInt32 :=
  if s.cfg.bool .isthinkpad = true ∧ p.clickbuttons = 2 then
    (setClickButtons { s with thinkpad := { s.thinkpad with buttonState := p.thinkpadButtons } }
      p.thinkpadButtons, p.thinkpadButtons, p.thinkpadButtons)
  else (s, p.clickbuttons, buttons)

/-- Remember the button state on thinkpads. -/
def keepThinkpadButtons (s : Pad) : Pad :=
  if s.cfg.bool .isthinkpad = true ∧ s.thinkpad.buttonState ≠ 0 then
    { s with clickbuttons := s.thinkpad.buttonState }
  else s

/-- Where the click is: the secondary finger's position, if it is the one that clicked. -/
def clickPoint (s : Pad) (t : Touch) (clickedprimary : Bool) : ℤ × ℤ :=
  if s.extendedwmode = true ∧ clickedprimary = false ∧ s.second.tracksecondary = true then
    (s.second.lastx2, s.second.lasty2)
  else (t.x, t.y)

/-- The click is a right click: it is in the right click zone, or was two finger "click". -/
def isRightClick (s : Pad) (t : Touch) (point : ℤ × ℤ) : Prop :=
  s.isFingerTouch t.z ∧
    ((s.cfg.int .rightclickCorner = 2 ∧ s.isInRightClickZone point.1 point.2) ∨
      (s.cfg.int .rightclickCorner = 1 ∧ s.isInLeftClickZone point.1 point.2) ∨
      (t.w = 0 ∧ (t.now - s.touchtime < s.cfg.time .clickpadclicktime ∨ s.touchmode = .notouch)))

instance (s : Pad) (t : Touch) (point : ℤ × ℤ) : Decidable (s.isRightClick t point) :=
  inferInstanceAs (Decidable (_ ∧ _))

/-- ClickPad touchpad packet -/
def clickPad (s : Pad) (p : PadPacket) (t : Touch) (buttons : UInt32) : Pad × UInt32 :=
  let (s, clickbuttons, buttons) := s.readClickButtons p buttons
  let s :=
    if s.clickbuttons = 0 ∧ clickbuttons ≠ 0 then
      let clickedprimary := decide (s.touchmode ≠ .mtouch)
      setClickButtons { s with second := { s.second with clickedprimary := clickedprimary } }
        (if s.isRightClick t (s.clickPoint t clickedprimary) then 0x2 else clickbuttons)
    else s
  let s := if clickbuttons = 0 then s.setClickButtons 0 else s
  let s := s.keepThinkpadButtons
  ({ s with lastbuttons := buttons ||| s.clickbuttons }, buttons ||| s.clickbuttons)

end Pad

/-- The driver, the packet and the buttons before the first early return of a normal packet. -/
structure Prepared where
  pad : Pad
  touch : Touch
  buttons : UInt32

namespace Pad

/-- Position and pressure of a normal packet, after its buttons have been read. -/
def position (s : Pad) (p : PadPacket) (now : UInt64) (buttons : UInt32) : Prepared :=
  let t := s.readTouch p now
  let r := (s.dividing s.cfg.scaleDivisors).fingerDown p t buttons
  ⟨(r.1.smooth t).1, (r.1.smooth t).2, r.2⟩

/-- A normal packet, after its buttons have been read. -/
def prepare (s : Pad) (p : PadPacket) (now : UInt64) (buttons : UInt32) : Prepared :=
  let q := s.position p now buttons
  if s.caps.clickpadtype ≠ 0 then
    ⟨(q.pad.clickPad p q.touch q.buttons).1, q.touch, (q.pad.clickPad p q.touch q.buttons).2⟩
  else q

end Pad

end VoodooPS2.Synaptics
