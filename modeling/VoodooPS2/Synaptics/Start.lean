import VoodooPS2.Synaptics.ExtendedW

/-! # The start of the Synaptics driver (`init`, `queryCapabilities`, `start`)

`Pad.created` is the driver after `init`, `Pad.start` what `start` makes of it: the timers are set
up, the touchpad is asked what it can do, and the mode byte and the LED are sent.  `Pad.runActions`
runs a driver from there, through starts and events in any order. -/

namespace VoodooPS2.Synaptics

/-- What `queryCapabilities` has to go by: the replies of the touchpad to `getTouchPadData`, by data
selector, its type, and two options. -/
structure Query where
  data : UInt8 → Option (UInt8 × UInt8 × UInt8)
  touchPadType : UInt8
  skippassthru : Bool
  forcepassthru : Bool

namespace Query

/-- General capabilities, if they are valid: the first and the third byte. -/
def general (q : Query) : UInt8 × UInt8 :=
  match q.data 0x2 with
  | some (b0, _, b2) => if b0 &&& 0x80 ≠ 0 then (b0, b2) else (0, 0)
  | none => (0, 0)

def nExtendedQueries (q : Query) : UInt8 := (q.general.1 &&& 0x70) >>> 4

def supportsEW (q : Query) : Bool := q.general.2 &&& 0x20 ≠ 0

/-- first byte, bit 0 indicates guest present -/
def guestPresent (q : Query) : Bool :=
  match q.data 0x1 with
  | some (b0, _, _) => b0 &&& 0x01 ≠ 0
  | none => false

/-- trackpad must have both guest present and pass through capability -/
def passthru (q : Query) (old : Bool) : Bool :=
  q.forcepassthru || if q.skippassthru then old else q.guestPresent && q.general.2 >>> 7 ≠ 0

def ledpresent (q : Query) (old : Bool) : Bool :=
  if q.touchPadType = 0x46 then true
  else if q.nExtendedQueries ≥ 1 then
    match q.data 0x9 with
    | some (b0, _, _) => (b0 >>> 6) &&& 1 ≠ 0
    | none => old
  else old

/-- Continued capabilities: the first two bytes. -/
def continued (q : Query) : Option (UInt8 × UInt8) :=
  if q.nExtendedQueries ≥ 4 then (q.data 0xC).map (fun b => (b.1, b.2.1)) else none

def clickpadtype (b0 b1 : UInt8) : ℕ := (((b0 &&& 0x10) >>> 4) ||| ((b1 &&& 0x01) <<< 1)).toNat

/-- Resolution data, if they are valid: the units for x and for y. -/
def resolution (q : Query) : Option (UInt8 × UInt8) :=
  match q.data 0x8 with
  | some (b0, b1, b2) => if b1 &&& 0x80 ≠ 0 ∧ b0 ≠ 0 ∧ b2 ≠ 0 then some (b0, b2) else none
  | none => none

/-- Extended W mode is set automatically for ClickPads, if supported. -/
def capabilities (q : Query) (old : Capabilities) : Capabilities :=
  let base :=
    { old with passthru := q.passthru old.passthru, ledpresent := q.ledpresent old.ledpresent }
  match q.continued with
  | some (b0, b1) =>
      { base with
        clickpadtype := clickpadtype b0 b1
        reportsv := (b1 >>> 3) &&& 0x01 ≠ 0
        extendedwmodeSupported :=
          old.extendedwmodeSupported || (q.supportsEW && decide (clickpadtype b0 b1 ≠ 0)) }
  | none => base

/-- The resolution is taken from the touchpad where the configuration has none. -/
def config (q : Query) (old : Config) : Config :=
  match q.resolution with
  | some (unitsx, unitsy) =>
      { old with
        int := fun
          | .xupmm => if old.int .xupmm < 0 then unitsx.toNat else old.int .xupmm
          | .yupmm => if old.int .yupmm < 0 then unitsy.toNat else old.int .yupmm
          | v => old.int v }
  | none => old

end Query

namespace Pad

/-- The driver after `init`: absolute, low-rate, no w-mode. -/
def created : Pad :=
  { initial Config.init ⟨false, false, false, 0, false, false⟩ with touchPadModeByte := 0x80 }

def queryCapabilities (s : Pad) (q : Query) : Pad :=
  { s with cfg := q.config s.cfg, caps := q.capabilities s.caps }

/-- `start`: `dragTimer` is created if there is a delay for it. -/
def start (s : Pad) (q : Query) : Pad :=
  let s :=
    { s with caps := { s.caps with hasDragTimer := s.cfg.time .dragexitdelay ≠ 0 } }
  (s.queryCapabilities q).setTouchpadModeByte.updateTouchpadLED

end Pad

/-- What happens to a driver: it is started, or handles an event.  `probe` reads the configuration
before the start, by `setParamPropertiesGated`. -/
inductive PadAction where
  | start (q : Query)
  | event (e : PadEvent)

namespace Pad

def act (s : Pad) : PadAction → Pad
  | .start q => s.start q
  | .event e => s.handle e

def runActions (s : Pad) (actions : List PadAction) : Pad := actions.foldl act s

end Pad

end VoodooPS2.Synaptics
