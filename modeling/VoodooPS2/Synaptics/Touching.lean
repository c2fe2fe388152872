import VoodooPS2.Synaptics.Packet

/-! # Touches (`ApplePS2SynapticsTouchPad::dispatchEventsWithPacket`)

The second half of the handling of a normal packet: the disable zone (`disableZone`), the release
of the finger (`release`), movement and scrolling (`track`), the time of a touch (`captureTouch`),
the next mode (`switchModes`) and what is dispatched (`deliver`).  `handleTouch` is all that happens
after the last early return, `dispatchTouch` all that happens after the first. -/

namespace VoodooPS2.Synaptics

namespace Pad

/-! ### The disable zone -/

/-- "OutsidezoneNoAction When Typing" -/
def isOutsideZone (s : Pad) (t : Touch) : Prop :=
  s.cfg.flag .outzoneWt = true ∧ t.z > s.cfg.int .zFinger ∧ s.afterTyping t.now ∧
    (t.x < s.cfg.int .zonel ∨ t.x > s.cfg.int .zoner ∨ t.y < s.cfg.int .zoneb ∨
      t.y > s.cfg.int .zonet)

instance (s : Pad) (t : Touch) : Decidable (s.isOutsideZone t) := inferInstanceAs (Decidable (_ ∧ _))

/-- Double taps in the disable zone are looked for: always, or if the trackpad has a LED. -/
def zoneEnabled (s : Pad) : Prop :=
  (s.cfg.int .diszctrl = 0 ∧ s.caps.ledpresent = true) ∨ s.cfg.int .diszctrl = 1

instance (s : Pad) : Decidable s.zoneEnabled := inferInstanceAs (Decidable (_ ∨ _))

/-- A touch of one finger in the disable zone. -/
def zoneTouch (s : Pad) (t : Touch) : Prop :=
  (4 ≤ t.w ∧ t.w ≤ 5) ∧ s.isInDisableZone t.x t.y

instance (s : Pad) (t : Touch) : Decidable (s.zoneTouch t) := inferInstanceAs (Decidable (_ ∧ _))

/-- look for a double tap inside the disable zone to enable/disable touchpad -/
def disableZone (s : Pad) (t : Touch) : Pad :=
  match s.touchmode with
  | .notouch =>
      if s.isFingerTouch t.z ∧ s.zoneTouch t then
        { s with touchtime := t.now, touchmode := .wait1release }
      else s
  | .wait1release =>
      if t.z < s.cfg.int .zFinger then
        if t.now - s.touchtime < s.cfg.time .maxtaptime then
          { s with untouchtime := t.now, touchmode := .wait2tap }
        else { s with touchmode := .notouch }
      else if ¬ s.isInDisableZone t.x t.y then { s with touchmode := .notouch }
      else s
  | .wait2tap =>
      if s.isFingerTouch t.z then
        if s.zoneTouch t then
          if t.now - s.untouchtime < s.cfg.time .maxdragtime then
            { s with touchtime := t.now, touchmode := .wait2release }
          else { s with touchmode := .notouch }
        else { s with touchmode := .notouch }
      else s
  | .wait2release =>
      if t.z < s.cfg.int .zFinger then
        if t.now - s.touchtime < s.cfg.time .maxtaptime then
          { updateTouchpadLED { s with ignoreall := !s.ignoreall } with touchmode := .notouch }
        else { s with touchmode := .notouch }
      else if ¬ s.isInDisableZone t.x t.y then { s with touchmode := .notouch }
      else s
  | _ => s

/-! ### Release -/

/-- Momentum scroll starts if the fingers were moving when they were lifted. -/
def startMomentum (s : Pad) : Momentum :=
  let m := s.momentum
  if s.touchmode = .mtouch ∧ s.cfg.flag .momentumscroll = true ∧
      s.cfg.time .momentumscrolltimer ≠ 0 ∧
      (m.dyHistory.count : ℤ) > s.cfg.int .momentumscrollsamplesmin then
    let interval := m.timeHistory.newest 0 - m.timeHistory.oldest 0
    if interval ≠ 0 then
      { m with
        interval := interval
        sum := m.dyHistory.sum
        current := toInt64 ((s.cfg.time .momentumscrolltimer).toNat * m.dyHistory.sum)
        rest1 := 0
        rest2 := 0 }
    else { m with interval := interval }
  else m

/-- What is cleared when the finger is lifted. -/
def liftFinger (s : Pad) (t : Touch) : Pad :=
  { s with
    motion := { s.motion with xrest := 0, yrest := 0, scrollrest := 0 }
    swipe := .initial
    untouchtime := t.now
    second := { s.second with tracksecondary := false }
    momentum := { s.startMomentum with timeHistory := .reset, dyHistory := .reset } }

/-- The button of a tap. -/
def tapButton (s : Pad) : UInt32 :=
  if s.wastriple = true ∧ s.cfg.flag .rtap = true then
    if s.cfg.bool .swapdoubletriple then 0x02 else 0x4
  else if s.wasdouble = true ∧ s.cfg.flag .rtap = true then
    if s.cfg.bool .swapdoubletriple then 0x04 else 0x2
  else 0x1

/-- The tap of a drag is reported as a click of its own unless clicks are immediate. -/
def dragClick (s : Pad) (buttons : UInt32) : Pad × UInt32 :=
  if s.cfg.bool .immediateclick then (s, buttons)
  else
    let buttons := buttons &&& ~~~0x7
    if s.cfg.bool .isthinkpad = true ∧ s.cfg.bool .mousemiddlescroll = true ∧ buttons = 4 then
      (s, buttons)
    else ((s.dispatchRelative 0 0 (buttons ||| 0x1)).dispatchRelative 0 0 buttons, buttons)

/-- The finger was down only for a short time. -/
def tap (s : Pad) (buttons : UInt32) : Pad × UInt32 :=
  match s.touchmode with
  | .drag =>
      let (s, buttons) := s.dragClick buttons
      ({ s with touchmode := .notouch }, buttons ||| s.tapButton)
  | .draglock => ({ s with touchmode := .notouch }, buttons)
  | _ =>
      let alone : Bool := s.cfg.flag .rtap = false ∨ (s.wastriple = false ∧ s.wasdouble = false)
      ({ s with
          touchmode := if alone = true ∧ s.cfg.flag .dragging = true then .predrag else .notouch },
        buttons ||| s.tapButton)

/-- The finger was down for long; a drag may go on without it. -/
def endTouch (s : Pad) : Pad :=
  if (s.touchmode = .drag ∨ s.touchmode = .draglock) ∧
      (s.cfg.flag .draglock = true ∨ s.draglocktemp ≠ 0 ∨
        (s.caps.hasDragTimer = true ∧ s.cfg.time .dragexitdelay ≠ 0)) then
    { s with
      touchmode := .dragnotouch
      dragArmed := s.dragArmed || decide (s.cfg.flag .draglock = false ∧ s.draglocktemp = 0) }
  else { s with touchmode := .notouch, draglocktemp := 0 }

/-- A release takes the tap arm. -/
def isTap (s : Pad) (t : Touch) : Prop :=
  t.now - s.touchtime < s.cfg.time .maxtaptime ∧ s.cfg.flag .clicking = true

instance (s : Pad) (t : Touch) : Decidable (s.isTap t) := inferInstanceAs (Decidable (_ ∧ _))

/-- The packet lifts the finger. -/
def isRelease (s : Pad) (t : Touch) : Prop :=
  t.z < s.cfg.int .zFinger ∧ s.touchmode.isTouchMode = true

instance (s : Pad) (t : Touch) : Decidable (s.isRelease t) := inferInstanceAs (Decidable (_ ∧ _))

def release (s : Pad) (t : Touch) (buttons : UInt32) : Pad × UInt32 :=
  if s.isRelease t then
    let s := s.liftFinger t
    let r := if s.isTap t then s.tap buttons else (s.endTouch, buttons)
    ({ r.1 with wasdouble := false, wastriple := false }, r.2)
  else (s, buttons)

/-- cancel pre-drag mode if second tap takes too long -/
def cancelPredrag (s : Pad) (t : Touch) : Pad :=
  { s with
    touchmode :=
      if s.touchmode = .predrag ∧ t.now - s.untouchtime ≥ s.cfg.time .maxdragtime then .notouch
      else s.touchmode }

/-- The touch point has moved too far for a tap. -/
def movedTooFar (s : Pad) (t : Touch) : Prop :=
  let dx := |t.xraw - s.touchx|
  let dy := |t.yraw - s.touchy|
  (s.wasdouble = false ∧ s.wastriple = false ∧
      (dx > s.cfg.int .tapthreshx ∨ dy > s.cfg.int .tapthreshy)) ∨
    dx > s.cfg.int .dblthreshx ∨ dy > s.cfg.int .dblthreshy

instance (s : Pad) (t : Touch) : Decidable (s.movedTooFar t) := inferInstanceAs (Decidable (_ ∨ _))

/-- cancel tap if touch point moves too far -/
def cancelTap (s : Pad) (t : Touch) : Pad :=
  { s with
    touchtime :=
      if s.touchmode.isTouchMode = true ∧ s.isFingerTouch t.z ∧ s.movedTooFar t then 0
      else s.touchtime }

end Pad

/-! ### Movement and scrolling -/

namespace Momentum

/-- The history is cleared when the movement stops or changes its direction. -/
def turned (m : Momentum) (dy : ℤ) : Momentum :=
  if decide (dy < 0) ≠ decide (m.dyHistory.newest 0 < 0) ∨ dy = 0 then
    { m with dyHistory := .reset, timeHistory := .reset }
  else m

/-- put movement and time in history for later -/
def record (m : Momentum) (dy : ℤ) (now : UInt64) : Momentum :=
  { m with
    dyHistory := m.dyHistory.filter id dy
    timeHistory := m.timeHistory.filter (fun time => time.toNat) now }

def recordDivisors (m : Momentum) : List ℤ := [m.dyHistory.count, m.timeHistory.count]

end Momentum

/-- The driver, the movement and the buttons on the way through the modes. -/
structure Progress where
  pad : Pad
  dx : ℤ
  dy : ℤ
  buttons : UInt32

namespace Pad

/-- Nothing moves. -/
def still (s : Pad) (buttons : UInt32) : Progress := ⟨s, 0, 0, buttons⟩

/-- The delta of the primary finger, less the bogus ones. -/
def moveDelta (s : Pad) (t : Touch) (buttons : UInt32) : Progress :=
  let dx := t.x - s.motion.lastx + s.motion.xrest
  let dy := s.motion.lasty - t.y + s.motion.yrest
  let divisors := [s.cfg.int .divisorx, s.cfg.int .divisory]
  if |dx| > s.cfg.int .bogusdxthresh ∨ |dy| > s.cfg.int .bogusdythresh then
    ⟨{ s.dividing divisors with motion := { s.motion with xrest := 0, yrest := 0 } }, 0, 0, buttons⟩
  else
    ⟨{ s.dividing divisors with
        motion :=
          { s.motion with
            xrest := dx.tmod (s.cfg.int .divisorx)
            yrest := dy.tmod (s.cfg.int .divisory) } }, dx, dy, buttons⟩

/-- The finger is a finger, not a palm, and there are as many of them as before. -/
def moves (s : Pad) (t : Touch) : Prop :=
  s.motion.lastf = t.f ∧
    (s.cfg.flag .palm = false ∨ (t.w ≤ s.cfg.int .wlimit ∧ t.z ≤ s.cfg.int .zlimit))

instance (s : Pad) (t : Touch) : Decidable (s.moves t) := inferInstanceAs (Decidable (_ ∧ _))

/-- `MODE_DRAG`, `MODE_DRAGLOCK` and `MODE_MOVE`; moves are ignored while waiting for taps. -/
def trackMove (s : Pad) (t : Touch) (buttons : UInt32) : Progress :=
  if s.moves t ∧
      (s.touchmode ≠ .move ∨ s.cfg.flag .clicking = false ∨
        t.now - s.touchtime ≥ s.cfg.time .maxtaptime) then
    s.moveDelta t buttons
  else s.still buttons

/-- The button of a drag. -/
def dragButton (s : Pad) (t : Touch) : UInt32 :=
  if s.touchmode = .draglock ∨ s.cfg.bool .immediateclick = false ∨
      t.now - s.touchtime > s.cfg.time .maxdbltaptime then 0x1
  else 0

/-- `whdivisor && hscroll` -/
def whdivisor (s : Pad) : ℤ := if s.cfg.flag .hscroll then s.cfg.int .whdivisor else 0

/-- The divisors for scrolling with two fingers that are in use. -/
def scrollDivisors (s : Pad) : List ℤ := [s.cfg.int .wvdivisor, s.whdivisor].filter (· ≠ 0)

/-- Small movements are not scrolled. -/
def smallX (s : Pad) (dx : ℤ) : Prop := |dx| < s.cfg.int .scrolldxthresh

instance (s : Pad) (dx : ℤ) : Decidable (s.smallX dx) := inferInstanceAs (Decidable (_ < _))

def smallY (s : Pad) (dy : ℤ) : Prop := |dy| < s.cfg.int .scrolldythresh

instance (s : Pad) (dy : ℤ) : Decidable (s.smallY dy) := inferInstanceAs (Decidable (_ < _))

/-- The history of a movement with two fingers, and what is left of it for later. -/
def recordTwo (s : Pad) (t : Touch) (dy dx : ℤ) : Pad :=
  let momentum := (s.momentum.turned dy).record dy t.now
  let wv := s.cfg.int .wvdivisor
  let wh := s.whdivisor
  { s.dividing (s.scrollDivisors ++ momentum.recordDivisors) with
    momentum := momentum
    motion :=
      { s.motion with
        xrest := if s.smallX dx then dx else if wh ≠ 0 then dx.tmod wh else 0
        yrest := if s.smallY dy then dy else if wv ≠ 0 then dy.tmod wv else 0 } }

/-- The wheel event of a movement with two fingers. -/
def wheelTwo (s : Pad) (dy dx : ℤ) : Pad :=
  let wv := s.cfg.int .wvdivisor
  let wh := s.whdivisor
  if dy ≠ 0 ∨ dx ≠ 0 then
    (s.dividing s.scrollDivisors).dispatchScroll (if wv ≠ 0 then dy.tdiv wv else 0)
      (if wh ≠ 0 then dx.tdiv wh else 0)
  else s

/-- Scrolling with two fingers, `dy` and `dx` as measured. -/
def scrollTwo (s : Pad) (t : Touch) (dy dx : ℤ) : Pad :=
  (s.recordTwo t dy dx).wheelTwo (if s.smallY dy then 0 else dy) (if s.smallX dx then 0 else dx)

/-- `MODE_MTOUCH`, two fingers. -/
def trackTwo (s : Pad) (t : Touch) (buttons : UInt32) : Progress :=
  if s.extendedwmode = true ∧ t.w = 0 ∧ s.clickbuttons ≠ 0 then
    if (s.cfg.bool .clickpadtrackboth = true ∨ s.second.clickedprimary = false) ∧ s.moves t then
      s.moveDelta t buttons
    else s.still buttons
  else if s.motion.lastf ≠ t.f then s.still buttons
  else if s.cfg.flag .palm = true ∧ t.z > s.cfg.int .zlimit then s.still buttons
  else if s.cfg.bool .wsticky = false ∧ t.w ≤ s.cfg.int .wlimit ∧ t.w > 3 then
    still
      { s with
        momentum := { s.momentum with dyHistory := .reset, timeHistory := .reset }
        second :=
          { s.second with clickedprimary := decide (s.clickbuttons ≠ 0), tracksecondary := false }
        touchmode := .move } buttons
  else if s.cfg.flag .palmWt = true ∧ s.afterTyping t.now then s.still buttons
  else
    let dy := if s.cfg.int .wvdivisor ≠ 0 then t.y - s.motion.lasty + s.motion.yrest else 0
    let dx :=
      if s.cfg.int .whdivisor ≠ 0 ∧ s.cfg.flag .hscroll = true then
        s.motion.lastx - t.x + s.motion.xrest
      else 0
    (s.scrollTwo t dy dx).still buttons

/-- `MODE_MTOUCH`, three fingers. -/
def trackThree (s : Pad) (t : Touch) : Pad :=
  let p :=
    { s.swipe with
      xmoved := s.swipe.xmoved + (s.motion.lastx - t.x)
      ymoved := s.swipe.ymoved + (t.y - s.motion.lasty) }
  if p.ymoved > s.cfg.int .swipedy ∧ p.inSwipeUp = false then
    { s.emit [.swipe .swipeUp] with
      swipe := { p with inSwipeUp := true, inSwipeDown := false, ymoved := 0 } }
  else if p.ymoved < -s.cfg.int .swipedy ∧ p.inSwipeDown = false then
    { s.emit [.swipe .swipeDown] with
      swipe := { p with inSwipeDown := true, inSwipeUp := false, ymoved := 0 } }
  else if p.xmoved < -s.cfg.int .swipedx ∧ p.inSwipeRight = false then
    { s.emit [.swipe .swipeRight] with
      swipe := { p with inSwipeRight := true, inSwipeLeft := false, xmoved := 0 } }
  else if p.xmoved > s.cfg.int .swipedx ∧ p.inSwipeLeft = false then
    { s.emit [.swipe .swipeLeft] with
      swipe := { p with inSwipeLeft := true, inSwipeRight := false, xmoved := 0 } }
  else { s with swipe := p }

/-- What is left of a movement with one finger; small movements are kept for later. -/
def recordOne (s : Pad) (delta divisor thresh : ℤ) : Pad :=
  { s.dividing [divisor] with
    motion :=
      { s.motion with scrollrest := if |delta| < thresh then delta else delta.tmod divisor } }

/-- Scrolling with one finger by `delta`. -/
def scrollBy (s : Pad) (delta divisor thresh : ℤ) (dispatch : Pad → ℤ → Pad) : Pad :=
  let s := s.recordOne delta divisor thresh
  if ¬ |delta| < thresh ∧ delta ≠ 0 then dispatch (s.dividing [divisor]) (delta.tdiv divisor) else s

/-- The finger leaves the right edge. -/
def leavesVScroll (s : Pad) (t : Touch) : Prop :=
  s.cfg.bool .vsticky = false ∧
    (t.x < s.cfg.int .redge ∨ t.w > s.cfg.int .wlimit ∨ t.z > s.cfg.int .zlimit)

instance (s : Pad) (t : Touch) : Decidable (s.leavesVScroll t) := inferInstanceAs (Decidable (_ ∧ _))

def trackVScroll (s : Pad) (t : Touch) : Pad :=
  if s.leavesVScroll t then { s with touchmode := .notouch }
  else if s.cfg.flag .palmWt = true ∧ s.afterTyping t.now then s
  else
    s.scrollBy (t.y - s.motion.lasty + s.motion.scrollrest) (s.cfg.int .vscrolldivisor)
      (s.cfg.int .scrolldythresh) (fun s n => s.dispatchScroll n 0)

/-- The finger leaves the bottom edge. -/
def leavesHScroll (s : Pad) (t : Touch) : Prop :=
  s.cfg.bool .hsticky = false ∧
    (t.y > s.cfg.int .bedge ∨ t.w > s.cfg.int .wlimit ∨ t.z > s.cfg.int .zlimit)

instance (s : Pad) (t : Touch) : Decidable (s.leavesHScroll t) := inferInstanceAs (Decidable (_ ∧ _))

def trackHScroll (s : Pad) (t : Touch) : Pad :=
  if s.leavesHScroll t then { s with touchmode := .notouch }
  else if s.cfg.flag .palmWt = true ∧ s.afterTyping t.now then s
  else
    s.scrollBy (s.motion.lastx - t.x + s.motion.scrollrest) (s.cfg.int .hscrolldivisor)
      (s.cfg.int .scrolldxthresh) (fun s n => s.dispatchScroll 0 n)

/-- Movement around the centre. -/
def circularDelta (s : Pad) (t : Touch) : ℤ :=
  (if t.y < s.cfg.int .centery then t.x - s.motion.lastx else s.motion.lastx - t.x) +
    (if t.x < s.cfg.int .centerx then s.motion.lasty - t.y else t.y - s.motion.lasty) +
    s.motion.scrollrest

def trackCScroll (s : Pad) (t : Touch) : Pad :=
  if s.cfg.flag .palmWt = true ∧ s.afterTyping t.now then s
  else
    s.scrollBy (s.circularDelta t) (s.cfg.int .cscrolldivisor) (s.cfg.int .scrolldxthresh)
      (fun s n => s.dispatchScroll n 0)

/-- Button 1 is held down while waiting for a drag, if clicks are not immediate. -/
def predragButton (s : Pad) (t : Touch) : UInt32 :=
  if s.cfg.bool .immediateclick = false ∧
      (s.cfg.flag .palmWt = false ∨ ¬ s.afterTyping t.now) then 0x1
  else 0

/-- The switch over the modes. -/
def track (s : Pad) (t : Touch) (buttons : UInt32) : Progress :=
  match s.touchmode with
  | .drag => s.trackMove t (buttons ||| s.dragButton t)
  | .draglock => s.trackMove t (buttons ||| s.dragButton t)
  | .move => s.trackMove t buttons
  | .mtouch => if t.w = 1 then (s.trackThree t).still buttons else s.trackTwo t buttons
  | .vscroll => (s.trackVScroll t).still buttons
  | .hscroll => (s.trackHScroll t).still buttons
  | .cscroll => (s.trackCScroll t).still buttons
  | .dragnotouch => s.still (buttons ||| 0x1 ||| s.predragButton t)
  | .predrag => s.still (buttons ||| s.predragButton t)
  | .notouch => s.still buttons
  | .wait1release => s.still buttons
  | .wait2tap => s.still buttons
  | .wait2release => s.still buttons

/-! ### The time of a touch and the next mode -/

/-- taps don't count if too close to typing or if currently in momentum scroll -/
def tapsCount (s : Pad) (t : Touch) : Prop :=
  (s.cfg.flag .palmWt = false ∨ ¬ s.afterTyping t.now) ∧ s.momentum.current = 0

instance (s : Pad) (t : Touch) : Decidable (s.tapsCount t) := inferInstanceAs (Decidable (_ ∧ _))

/-- capture time of tap, and watch for double tap; any touch cancels momentum scroll -/
def captureTouch (s : Pad) (t : Touch) : Pad :=
  if s.isFingerTouch t.z then
    let first : Bool := s.tapsCount t ∧ s.touchmode.isTouchMode = false
    { s with
      touchtime := if first then t.now else s.touchtime
      touchx := if first then t.x else s.touchx
      touchy := if first then t.y else s.touchy
      wasdouble := s.wasdouble || decide (s.tapsCount t ∧ t.w = 0)
      wastriple :=
        s.wastriple || decide (s.tapsCount t ∧ t.w = 1 ∧ s.cfg.int .buttonCount ≥ 3)
      momentum := { s.momentum with current := 0 } }
  else s

/-- Several fingers are down. -/
def entersMTouch (s : Pad) (t : Touch) : Prop :=
  s.touchmode ≠ .mtouch ∧ (t.w > s.cfg.int .wlimit ∨ t.w < 2) ∧ s.isFingerTouch t.z

instance (s : Pad) (t : Touch) : Decidable (s.entersMTouch t) := inferInstanceAs (Decidable (_ ∧ _))

/-- The mode once a finger is down. -/
def fingerMode (s : Pad) (t : Touch) : TouchMode :=
  if s.entersMTouch t then .mtouch
  else if s.touchmode = .predrag ∧ s.isFingerTouch t.z then .drag
  else if s.touchmode = .dragnotouch ∧ s.isFingerTouch t.z then .draglock
  else s.touchmode

end Pad

namespace Config

/-- Where circular scrolling is triggered. -/
def circularTrigger (c : Config) (t : Touch) : Prop :=
  (t.y > c.int .tedge ∧ (c.int .ctrigger = 1 ∨ c.int .ctrigger = 9)) ∨
    (t.y > c.int .tedge ∧ t.x > c.int .redge ∧ c.int .ctrigger = 2) ∨
    (t.x > c.int .redge ∧ (c.int .ctrigger = 3 ∨ c.int .ctrigger = 9)) ∨
    (t.x > c.int .redge ∧ t.y < c.int .bedge ∧ c.int .ctrigger = 4) ∨
    (t.y < c.int .bedge ∧ (c.int .ctrigger = 5 ∨ c.int .ctrigger = 9)) ∨
    (t.y < c.int .bedge ∧ t.x < c.int .ledge ∧ c.int .ctrigger = 6) ∨
    (t.x < c.int .ledge ∧ (c.int .ctrigger = 7 ∨ c.int .ctrigger = 9)) ∨
    (t.x < c.int .ledge ∧ t.y > c.int .tedge ∧ c.int .ctrigger = 8)

instance (c : Config) (t : Touch) : Decidable (c.circularTrigger t) :=
  inferInstanceAs (Decidable (_ ∨ _))

def entersCScroll (c : Config) (t : Touch) (m : TouchMode) : Prop :=
  c.flag .scroll = true ∧ c.int .cscrolldivisor ≠ 0 ∧ m = .notouch ∧ t.z > c.int .zFinger ∧
    c.circularTrigger t

instance (c : Config) (t : Touch) (m : TouchMode) : Decidable (c.entersCScroll t m) :=
  inferInstanceAs (Decidable (_ ∧ _))

def entersVScroll (c : Config) (t : Touch) (m : TouchMode) : Prop :=
  (m = .notouch ∨ (m = .hscroll ∧ t.y ≥ c.int .bedge)) ∧ t.z > c.int .zFinger ∧
    t.x > c.int .redge ∧ c.int .vscrolldivisor ≠ 0 ∧ c.flag .scroll = true

instance (c : Config) (t : Touch) (m : TouchMode) : Decidable (c.entersVScroll t m) :=
  inferInstanceAs (Decidable (_ ∧ _))

def entersHScroll (c : Config) (t : Touch) (m : TouchMode) : Prop :=
  (m = .notouch ∨ (m = .vscroll ∧ t.x ≤ c.int .redge)) ∧ t.z > c.int .zFinger ∧
    t.y < c.int .bedge ∧ c.int .hscrolldivisor ≠ 0 ∧ c.flag .hscroll = true ∧ c.flag .scroll = true

instance (c : Config) (t : Touch) (m : TouchMode) : Decidable (c.entersHScroll t m) :=
  inferInstanceAs (Decidable (_ ∧ _))

/-- The mode after the trigger of circular scrolling. -/
def circularMode (c : Config) (t : Touch) (m : TouchMode) : TouchMode :=
  if c.entersCScroll t m then .cscroll else m

/-- The mode after the right edge. -/
def verticalMode (c : Config) (t : Touch) (m : TouchMode) : TouchMode :=
  if c.entersVScroll t m then .vscroll else m

/-- The mode after the bottom edge. -/
def horizontalMode (c : Config) (t : Touch) (m : TouchMode) : TouchMode :=
  if c.entersHScroll t m then .hscroll else m

/-- A touch that is nothing else is a move. -/
def moveMode (c : Config) (t : Touch) (m : TouchMode) : TouchMode :=
  if m = .notouch ∧ t.z > c.int .zFinger then .move else m

end Config

namespace Pad

/-- switch modes, depending on input -/
def switchModes (s : Pad) (t : Touch) : Pad :=
  let circular := s.cfg.circularMode t (s.fingerMode t)
  let vertical := s.cfg.verticalMode t circular
  { s with
    touchmode := s.cfg.moveMode t (s.cfg.horizontalMode t vertical)
    draglocktemp :=
      if s.touchmode = .predrag ∧ s.isFingerTouch t.z then
        s.modifierdown &&& UInt32.ofInt (s.cfg.int .draglocktempmask)
      else s.draglocktemp
    dragArmed := s.dragArmed && !decide (s.touchmode = .dragnotouch ∧ s.isFingerTouch t.z)
    second :=
      { s.second with tracksecondary := s.second.tracksecondary && !decide (s.entersMTouch t) }
    motion :=
      { s.motion with
        scrollrest :=
          if s.cfg.entersVScroll t circular ∨ s.cfg.entersHScroll t vertical then 0
          else s.motion.scrollrest } }

/-! ### What is dispatched -/

/-- dispatch dx/dy and button status -/
def dispatchMove (s : Pad) (dx dy : ℤ) (buttons : UInt32) : Pad :=
  (s.dividing [s.cfg.int .divisorx, s.cfg.int .divisory]).dispatchRelative
    (dx.tdiv (s.cfg.int .divisorx)) (dy.tdiv (s.cfg.int .divisory)) buttons

/-- On thinkpads the middle mouse click is filtered out if scrolling, and issued on release. -/
def deliver (s : Pad) (dx dy : ℤ) (buttons : UInt32) : Pad :=
  if s.cfg.bool .isthinkpad = false then s.dispatchMove dx dy buttons
  else if s.cfg.bool .mousemiddlescroll = true ∧ buttons = 4 then
    { s with thinkpad := { s.thinkpad with middleButtonPressed := true } }
  else
    let thinkpad := { s.thinkpad with middleButtonPressed := false, middleScrolled := false }
    if s.thinkpad.middleButtonPressed then
      if s.thinkpad.middleScrolled then { s with thinkpad := thinkpad }
      else { s.dispatchMove dx dy 4 with thinkpad := thinkpad }
    else { s.dispatchMove dx dy buttons with thinkpad := thinkpad }

/-- always save last seen position for calculating deltas later -/
def saveLast (s : Pad) (t : Touch) : Pad :=
  { s with motion := { s.motion with lastx := t.x, lasty := t.y, lastf := t.f } }

/-- The rest of a normal packet, once no early return is left. -/
def handleTouch (s : Pad) (t : Touch) (buttons : UInt32) : Pad :=
  let (s, buttons) := s.release t buttons
  let g := ((s.cancelPredrag t).cancelTap t).track t buttons
  (((g.pad.captureTouch t).switchModes t).deliver g.dx g.dy g.buttons).saveLast t

/-- The disable zone, if it is enabled. -/
def watchZone (s : Pad) (t : Touch) : Pad := if s.zoneEnabled then s.disableZone t else s

/-- The rest of a normal packet. -/
def dispatchTouch (s : Pad) (t : Touch) (buttons : UInt32) : Pad :=
  if s.isOutsideZone t then s
  else if s.zoneEnabled ∧ TouchMode.wait1release.code ≤ (s.watchZone t).touchmode.code then
    s.watchZone t
  else if (s.watchZone t).ignoreall then s.watchZone t
  else (s.watchZone t).handleTouch t buttons

end Pad

end VoodooPS2.Synaptics
