import Mathlib.Tactic

/-! # Configuration of the Synaptics driver (`setParamPropertiesGated`)

The driver keeps its configuration in variables of four kinds, each with a table of the property
names it is read from: numbers of 32 bits, booleans, flags that are read from the low bit of a
number or from a boolean, and times of 64 bits.  Here the four tables are four types of variables
with their names, and one definition per kind says how a dictionary changes them.

`Config.read_divisorx` and `Config.read_divisory`: whatever a dictionary holds, `DivisorX` and
`DivisorY` are not zero after it has been read. -/

namespace VoodooPS2.Synaptics

/-- `int32vars`, those that the handling of packets and timers reads. -/
inductive IntVar where
  | zFinger | divisorx | divisory | redge | ledge | tedge | bedge
  | vscrolldivisor | hscrolldivisor | cscrolldivisor | centerx | centery | ctrigger
  | wlimit | wvdivisor | whdivisor | zlimit
  | mousemultiplierx | mousemultipliery | mousescrollmultiplierx | mousescrollmultipliery
  | tapthreshx | tapthreshy | dblthreshx | dblthreshy
  | zonel | zoner | zonet | zoneb | diszl | diszr | diszt | diszb | diszctrl
  | swipedx | swipedy | rczl | rczr | rczt | rczb
  | buttonCount | draglocktempmask
  | momentumscrollthreshy | momentumscrollmultiplier | momentumscrolldivisor
  | momentumscrollsamplesmin | ignoredeltasstart | bogusdxthresh | bogusdythresh
  | xupmm | yupmm | scrolldxthresh | scrolldythresh | rightclickCorner
  | thinkpadNubScrollXMultiplier | thinkpadNubScrollYMultiplier
deriving DecidableEq, Repr

/-- `boolvars`. -/
inductive BoolVar where
  | hsticky | vsticky | wsticky | noled | smoothinput | unsmoothinput | isthinkpad
  | swapdoubletriple | clickpadtrackboth | immediateclick | mousemiddlescroll
  | fakemiddlebutton | dynamicEW
deriving DecidableEq, Repr

/-- `lowbitvars`. -/
inductive FlagVar where
  | rtap | clicking | dragging | draglock | hscroll | scroll | outzoneWt | palm | palmWt
  | usbMouseStopsTrackpad | momentumscroll
deriving DecidableEq, Repr

/-- `int64vars`. -/
inductive TimeVar where
  | maxdragtime | maxtaptime | maxdbltaptime | maxaftertyping | momentumscrolltimer
  | clickpadclicktime | maxmiddleclicktime | dragexitdelay
deriving DecidableEq, Repr

def IntVar.name : IntVar → String
  | zFinger => "FingerZ"
  | divisorx => "DivisorX"
  | divisory => "DivisorY"
  | redge => "EdgeRight"
  | ledge => "EdgeLeft"
  | tedge => "EdgeTop"
  | bedge => "EdgeBottom"
  | vscrolldivisor => "VerticalScrollDivisor"
  | hscrolldivisor => "HorizontalScrollDivisor"
  | cscrolldivisor => "CircularScrollDivisor"
  | centerx => "CenterX"
  | centery => "CenterY"
  | ctrigger => "CircularScrollTrigger"
  | wlimit => "MultiFingerWLimit"
  | wvdivisor => "MultiFingerVerticalDivisor"
  | whdivisor => "MultiFingerHorizontalDivisor"
  | zlimit => "ZLimit"
  | mousemultiplierx => "MouseMultiplierX"
  | mousemultipliery => "MouseMultiplierY"
  | mousescrollmultiplierx => "MouseScrollMultiplierX"
  | mousescrollmultipliery => "MouseScrollMultiplierY"
  | tapthreshx => "TapThresholdX"
  | tapthreshy => "TapThresholdY"
  | dblthreshx => "DoubleTapThresholdX"
  | dblthreshy => "DoubleTapThresholdY"
  | zonel => "ZoneLeft"
  | zoner => "ZoneRight"
  | zonet => "ZoneTop"
  | zoneb => "ZoneBottom"
  | diszl => "DisableZoneLeft"
  | diszr => "DisableZoneRight"
  | diszt => "DisableZoneTop"
  | diszb => "DisableZoneBottom"
  | diszctrl => "DisableZoneControl"
  | swipedx => "SwipeDeltaX"
  | swipedy => "SwipeDeltaY"
  | rczl => "RightClickZoneLeft"
  | rczr => "RightClickZoneRight"
  | rczt => "RightClickZoneTop"
  | rczb => "RightClickZoneBottom"
  | buttonCount => "ButtonCount"
  | draglocktempmask => "DragLockTempMask"
  | momentumscrollthreshy => "MomentumScrollThreshY"
  | momentumscrollmultiplier => "MomentumScrollMultiplier"
  | momentumscrolldivisor => "MomentumScrollDivisor"
  | momentumscrollsamplesmin => "MomentumScrollSamplesMin"
  | ignoredeltasstart => "FingerChangeIgnoreDeltas"
  | bogusdxthresh => "BogusDeltaThreshX"
  | bogusdythresh => "BogusDeltaThreshY"
  | xupmm => "UnitsPerMMX"
  | yupmm => "UnitsPerMMY"
  | scrolldxthresh => "ScrollDeltaThreshX"
  | scrolldythresh => "ScrollDeltaThreshY"
  | rightclickCorner => "TrackpadCornerSecondaryClick"
  | thinkpadNubScrollXMultiplier => "TrackpointScrollXMultiplier"
  | thinkpadNubScrollYMultiplier => "TrackpointScrollYMultiplier"

def BoolVar.name : BoolVar → String
  | hsticky => "StickyHorizontalScrolling"
  | vsticky => "StickyVerticalScrolling"
  | wsticky => "StickyMultiFingerScrolling"
  | noled => "DisableLEDUpdate"
  | smoothinput => "SmoothInput"
  | unsmoothinput => "UnsmoothInput"
  | isthinkpad => "Thinkpad"
  | swapdoubletriple => "SwapDoubleTriple"
  | clickpadtrackboth => "ClickPadTrackBoth"
  | immediateclick => "ImmediateClick"
  | mousemiddlescroll => "MouseMiddleScroll"
  | fakemiddlebutton => "FakeMiddleButton"
  | dynamicEW => "DynamicEWMode"

def FlagVar.name : FlagVar → String
  | rtap => "TrackpadRightClick"
  | clicking => "Clicking"
  | dragging => "Dragging"
  | draglock => "DragLock"
  | hscroll => "TrackpadHorizScroll"
  | scroll => "TrackpadScroll"
  | outzoneWt => "OutsidezoneNoAction When Typing"
  | palm => "PalmNoAction Permanent"
  | palmWt => "PalmNoAction When Typing"
  | usbMouseStopsTrackpad => "USBMouseStopsTrackpad"
  | momentumscroll => "TrackpadMomentumScroll"

def TimeVar.name : TimeVar → String
  | maxdragtime => "MaxDragTime"
  | maxtaptime => "MaxTapTime"
  | maxdbltaptime => "HIDClickTime"
  | maxaftertyping => "QuietTimeAfterTyping"
  | momentumscrolltimer => "MomentumScrollTimer"
  | clickpadclicktime => "ClickPadClickTime"
  | maxmiddleclicktime => "MiddleClickTime"
  | dragexitdelay => "DragExitDelayTime"

/-- An object of a dictionary that the driver can use: an `OSNumber` or an `OSBoolean`. -/
inductive Property where
  | number (n : UInt64)
  | boolean (b : Bool)
deriving DecidableEq, Repr

/-- `OSDictionary`: the object of each name, if it has one. -/
abbrev Dictionary := String → Option Property

structure Config where
  int : IntVar → ℤ
  bool : BoolVar → Bool
  flag : FlagVar → Bool
  time : TimeVar → UInt64

namespace Config

/-- The values that `init` sets; memory of a new object is zero. -/
def initInt : IntVar → ℤ
  | .zFinger => 45
  | .divisorx => 1
  | .divisory => 1
  | .redge => 5200
  | .ledge => 1700
  | .tedge => 4200
  | .bedge => 1700
  | .vscrolldivisor => 30
  | .hscrolldivisor => 30
  | .cscrolldivisor => 0
  | .centerx => 3000
  | .centery => 3000
  | .ctrigger => 0
  | .wlimit => 9
  | .wvdivisor => 30
  | .whdivisor => 30
  | .zlimit => 100
  | .mousemultiplierx => 20
  | .mousemultipliery => 20
  | .mousescrollmultiplierx => 20
  | .mousescrollmultipliery => 20
  | .tapthreshx => 50
  | .tapthreshy => 50
  | .dblthreshx => 100
  | .dblthreshy => 100
  | .zonel => 1700
  | .zoner => 5200
  | .zonet => 99999
  | .zoneb => 0
  | .diszl => 0
  | .diszr => 1700
  | .diszt => 99999
  | .diszb => 4200
  | .diszctrl => 0
  | .swipedx => 800
  | .swipedy => 800
  | .rczl => 3800
  | .rczr => 99999
  | .rczt => 2000
  | .rczb => 0
  | .buttonCount => 2
  | .draglocktempmask => 0x0100010
  | .momentumscrollthreshy => 7
  | .momentumscrollmultiplier => 98
  | .momentumscrolldivisor => 100
  | .momentumscrollsamplesmin => 3
  | .ignoredeltasstart => 0
  | .bogusdxthresh => 400
  | .bogusdythresh => 350
  | .xupmm => 50
  | .yupmm => 50
  | .scrolldxthresh => 10
  | .scrolldythresh => 10
  | .rightclickCorner => 2
  | .thinkpadNubScrollXMultiplier => 1
  | .thinkpadNubScrollYMultiplier => 1

def initBool : BoolVar → Bool
  | .clickpadtrackboth => true
  | .immediateclick => true
  | .mousemiddlescroll => true
  | .fakemiddlebutton => true
  | _ => false

def initFlag : FlagVar → Bool
  | .clicking => true
  | .dragging => true
  | .scroll => true
  | .usbMouseStopsTrackpad => true
  | .momentumscroll => true
  | _ => false

def initTime : TimeVar → UInt64
  | .maxdragtime => 230000000
  | .maxtaptime => 130000000
  | .maxdbltaptime => 0
  | .maxaftertyping => 500000000
  | .momentumscrolltimer => 10000000
  | .clickpadclicktime => 300000000
  | .maxmiddleclicktime => 100000000
  | .dragexitdelay => 100000000

/-- The configuration that `init` sets. -/
def init : Config := ⟨initInt, initBool, initFlag, initTime⟩

/-- `*int32vars[i].var = num->unsigned32BitValue()`. -/
def readInt (d : Dictionary) (old : IntVar → ℤ) (v : IntVar) : ℤ :=
  match d v.name with
  | some (.number n) => Int.bmod n.toNat (2 ^ 32)
  | _ => old v

/-- `*boolvars[i].var = bl->isTrue()`. -/
def readBool (d : Dictionary) (old : BoolVar → Bool) (v : BoolVar) : Bool :=
  match d v.name with
  | some (.boolean b) => b
  | _ => old v

/-- A flag is carried in the low bit of a number or in a boolean. -/
def readFlag (d : Dictionary) (old : FlagVar → Bool) (v : FlagVar) : Bool :=
  match d v.name with
  | some (.number n) => decide (n &&& 0x1 ≠ 0)
  | some (.boolean b) => b
  | none => old v

/-- `*int64vars[i].var = num->unsigned64BitValue()`. -/
def readTime (d : Dictionary) (old : TimeVar → UInt64) (v : TimeVar) : UInt64 :=
  match d v.name with
  | some (.number n) => n
  | _ => old v

/-- `DivisorX` and `DivisorY` cannot be zero, and a zero threshold for bogus deltas is the
largest number. -/
def repair (int : IntVar → ℤ) : IntVar → ℤ
  | .divisorx => if int .divisorx = 0 then 1 else int .divisorx
  | .divisory => if int .divisory = 0 then 1 else int .divisory
  | .bogusdxthresh => if int .bogusdxthresh = 0 then 0x7FFFFFFF else int .bogusdxthresh
  | .bogusdythresh => if int .bogusdythresh = 0 then 0x7FFFFFFF else int .bogusdythresh
  | v => int v

/-- The configuration after a dictionary has been read. -/
def read (c : Config) (d : Dictionary) : Config where
  int := repair (readInt d c.int)
  bool := readBool d c.bool
  flag := readFlag d c.flag
  time := readTime d c.time

theorem read_divisorx (c : Config) (d : Dictionary) : (c.read d).int .divisorx ≠ 0 := by
  change (if _ = 0 then 1 else _) ≠ (0 : ℤ)
  split
  · exact one_ne_zero
  · assumption

theorem read_divisory (c : Config) (d : Dictionary) : (c.read d).int .divisory ≠ 0 := by
  change (if _ = 0 then 1 else _) ≠ (0 : ℤ)
  split
  · exact one_ne_zero
  · assumption

end Config

end VoodooPS2.Synaptics
