import VoodooPS2.Mouse.Commands
import VoodooPS2.Sentelic.Live
import VoodooPS2.Synaptics.Programmed

/-! # Probing the mouse port

Every driver of a pointing device is asked whether the device at the mouse port is one of its own, and
each of them finds out in its own way: a mouse only has to answer a request for information, a Synaptics
touchpad is asked for its identity, an ALPS touchpad for a report after three changes of the scaling, and a
Sentelic pad for a register.  The sequences that are meant for one device are sent to all of them.  The Synaptics
driver reads its configuration before it asks, and sends the mode byte that it makes of it.

`verdicts`: on a mouse and on a Synaptics touchpad the drivers come to the same verdicts in whatever order
and however often they probe, and none of them is left with the rest of a conversation of another. -/

namespace VoodooPS2

open Controller Dialogue PointingModel

open Synaptics (Dictionary)

/-! ### The commands of the probes -/

namespace Mouse

/-- The probe of `ApplePS2Mouse`: are acknowledges received for commands to the mouse? -/
def probe (hardwareOffline : Bool) : Prog Bool := do
  let request ← processRequest hardwareOffline (.ofCommands
    (transmitAck kDPGetMouseInformation ++ [readData, readData, readData]))
  return decide (6 = request.commandsCount.toNat)

end Mouse

namespace Touchpad

/-- `_touchPadVersion`. -/
def touchPadVersion (buf3 : UInt8 × UInt8 × UInt8) : UInt16 :=
  (buf3.2.2 &&& 0x0f).toUInt16 <<< 8 ||| buf3.1.toUInt16

/-- Touchpads that identify themselves with 0x47 from version 4.0 on, those with 0x46 from 2.0 on. -/
def isSupported (forceSynaptics : Bool) (buf3 : UInt8 × UInt8 × UInt8) : Bool :=
  forceSynaptics || (buf3.2.1 == 0x47 && decide (touchPadVersion buf3 ≥ 0x400)) ||
    (buf3.2.1 == 0x46 && decide (touchPadVersion buf3 ≥ 0x200))

/-- `ForceSynapticsDetect`. -/
def forceSynaptics (config : Option Dictionary) : Bool :=
  match config.bind (· "ForceSynapticsDetect") with
  | some (.boolean b) => b
  | _ => false

/-- `setParamPropertiesGated(config)` of a driver that has just been created. -/
def configured : Option Dictionary → Synaptics.Pad
  | none => .created
  | some config => Synaptics.Pad.created.handle (.setParamProperties config)

/-- The probe of `ApplePS2SynapticsTouchPad`, with the configuration for its platform profile. -/
def probe (hardwareOffline : Bool) (config : Option Dictionary) : Prog Bool := do
  let _ ← runOperations hardwareOffline (Synaptics.sent false (configured config).log)
  let data ← getTouchPadData hardwareOffline 0x0
  return data.any (isSupported (forceSynaptics config))

end Touchpad

namespace Alps

/-- `singles` and `duals`. -/
def models : List (UInt8 × UInt8 × UInt8) :=
  [(0x33, 0x2, 0x0a), (0x53, 0x2, 0x0a), (0x53, 0x2, 0x14), (0x63, 0x2, 0xa), (0x63, 0x2, 0x14),
    (0x73, 0x2, 0x0a), (0x63, 0x2, 0x28), (0x63, 0x2, 0x3c), (0x63, 0x2, 0x50), (0x63, 0x2, 0x64),
    (0x20, 0x2, 0xe), (0x22, 0x2, 0xa), (0x22, 0x2, 0x14)]

/-- `IsItALPS`, which only looks at the second report. -/
def isItALPS (e7 : UInt8 × UInt8 × UInt8) : Bool := decide (e7 ∈ models)

def reportBytes (scaling : UInt8) : List UInt8 := [kDPSetMouseResolution, 0, scaling, scaling, scaling]

/-- The information after three times the same scaling, whatever becomes of the request. -/
def report (hardwareOffline : Bool) (scaling : UInt8) : Prog (UInt8 × UInt8 × UInt8) := do
  let request ← processRequest hardwareOffline (.ofCommands
    ((reportBytes scaling).map sendMouse ++
      [sendMouse kDPGetMouseInformation, readData, readData, readData]))
  return (Touchpad.result request 6, Touchpad.result request 7, Touchpad.result request 8)

/-- `getModel`: the "E6 report" and the "E7 report". -/
def getModel (hardwareOffline : Bool) : Prog ((UInt8 × UInt8 × UInt8) × (UInt8 × UInt8 × UInt8)) := do
  let e6 ← report hardwareOffline kDPSetMouseScaling1To1
  let e7 ← report hardwareOffline kDPSetMouseScaling2To1
  return (e6, e7)

/-- The probe of `ApplePS2ALPSGlidePoint`. -/
def probe (hardwareOffline : Bool) : Prog Bool := do
  let model ← getModel hardwareOffline
  return isItALPS model.2

end Alps

/-! ### The drivers that probe -/

inductive Driver where
  | applePS2Mouse
  | applePS2SynapticsTouchPad
  | applePS2ALPSGlidePoint
  | applePS2SentelicFSP
deriving DecidableEq, Repr

/-- A driver that has just been created, with the configuration for its platform profile, if there is
one. -/
structure Candidate where
  driver : Driver
  config : Option Dictionary

namespace Candidate

/-- `DisableDevice` is Yes: do not load at all. -/
def disableDevice (c : Candidate) : Bool :=
  match c.config.bind (· "DisableDevice") with
  | some (.boolean b) => b
  | _ => false

/-- Other configurations than that of the Synaptics driver send nothing. -/
def probe (hardwareOffline : Bool) (c : Candidate) : Prog Bool :=
  if c.disableDevice then return false
  else
    match c.driver with
    | .applePS2Mouse => Mouse.probe hardwareOffline
    | .applePS2SynapticsTouchPad => Touchpad.probe hardwareOffline c.config
    | .applePS2ALPSGlidePoint => Alps.probe hardwareOffline
    | .applePS2SentelicFSP => do
        let version ← Sentelic.probe hardwareOffline
        return version.isSome

end Candidate

/-- The candidates probe one after the other. -/
def probes (hardwareOffline : Bool) : List Candidate → Prog (List Bool)
  | [] => return []
  | c :: cs => do
      let success ← c.probe hardwareOffline
      let successes ← probes hardwareOffline cs
      return success :: successes

/-! ### What they are to find -/

/-- A mouse has no identity that a touchpad has. -/
def PointingModel.touchpadIdentity (k : PointingModel) : Option (UInt8 × UInt8 × UInt8) :=
  (k.special (Touchpad.arguments 0x0)).map k.data

def Candidate.accepts (k : PointingModel) (c : Candidate) : Bool :=
  !c.disableDevice &&
    match c.driver with
    | .applePS2Mouse => true
    | .applePS2SynapticsTouchPad =>
        Touchpad.forceSynaptics c.config || k.touchpadIdentity.any (Touchpad.isSupported false)
    | .applePS2ALPSGlidePoint => false
    | .applePS2SentelicFSP => false

/-- The mode byte after a probe: a touchpad takes that of a Synaptics driver that has a configuration. -/
def Candidate.modeByteAfter (k : PointingModel) (modeByte : UInt8) (c : Candidate) : UInt8 :=
  if c.disableDevice = false ∧ c.driver = .applePS2SynapticsTouchPad ∧ c.config.isSome then
    (k.special (Touchpad.arguments (Touchpad.configured c.config).touchPadModeByte)).getD modeByte
  else modeByte

/-! ### The device under a probe -/

section

variable {k : PointingModel} {d : PointingDevice} {α β : Type}

/-- The program has the result, and leaves the device without a command begun, with the mode byte, the same
LED, and not reporting if it was not. -/
def Finds (k : PointingModel) (d : PointingDevice) (p : Prog α) (a : α) (modeByte : UInt8) : Prop :=
  ∃ d', Leaves .mouse k.device d p a d' ∧ d'.awaiting = none ∧ d'.modeByte = modeByte ∧
    d'.led = d.led ∧ (d.streaming = false → d'.streaming = false)

theorem Finds.bind {p : Prog α} {a : α} {f : α → Prog β} {b : β} {m m' : UInt8} (h : Finds k d p a m)
    (hf : ∀ d', d'.awaiting = none → d'.modeByte = m → Finds k d' (f a) b m') :
    Finds k d (p.bind f) b m' := by
  obtain ⟨d1, h1, hready, hmode, hled, hstill⟩ := h
  obtain ⟨d2, h2, hready', hmode', hled', hstill'⟩ := hf d1 hready hmode
  exact ⟨d2, h1.bind h2, hready', hmode', hled'.trans hled, fun hs => hstill' (hstill hs)⟩

theorem finds_pure (h : d.awaiting = none) (a : α) : Finds k d (pure a) a d.modeByte :=
  ⟨d, leaves_pure a d, h, rfl, rfl, id⟩

theorem finds_mouse (h : d.awaiting = none) : Finds k d (Mouse.probe false) true d.modeByte := by
  have hquery := Mouse.converse_transmitQuery (answer_information (k := k) h)
  rw [step_command h, command_information] at hquery
  have hloop : converse .mouse k.device (processCommands .start 0
      (Mouse.transmitAck kDPGetMouseInformation ++ [readData, readData, readData])) (.idle d) = _ := hquery
  have hlen : (Mouse.transmitAck kDPGetMouseInformation ++ [readData, readData, readData]).length ≤ 255 :=
    Nat.le_of_ble_eq_true rfl
  refine ⟨{ d with resolutions := [] }, ?_, h, rfl, rfl, id⟩
  rw [Leaves, Mouse.probe, Prog.bind_eq, converse_bind,
    converse_processRequest k.device .mouse hlen, hloop]
  rfl

theorem isSupported_eq (forceSynaptics : Bool) (i : UInt8 × UInt8 × UInt8) :
    Touchpad.isSupported forceSynaptics i = (forceSynaptics || Touchpad.isSupported false i) := by
  unfold Touchpad.isSupported
  cases forceSynaptics
  · rfl
  · rfl

/-- What the request for the identity gives: the item of data, or the resolution that has been set. -/
theorem supported_information (hargs : d.resolutions = Touchpad.arguments 0x0) (hresolution : d.resolution = 0)
    (forceSynaptics : Bool) :
    Touchpad.isSupported forceSynaptics (k.information d) =
      (forceSynaptics || k.touchpadIdentity.any (Touchpad.isSupported false)) := by
  rw [isSupported_eq, touchpadIdentity, PointingModel.information, hargs]
  cases k.special (Touchpad.arguments 0x0) with
  | none => simp [Touchpad.isSupported, hresolution]
  | some v => rfl

/-- A configuration always changes the mode byte that the driver has been created with, and that is all it
sends. -/
theorem sent_configured (config : Dictionary) : Synaptics.sent false (Touchpad.configured config).log =
    [.modeByte false (Touchpad.configured config).touchPadModeByte] :=
  Synaptics.Pad.sent_setParamPropertiesGated rfl (Synaptics.Pad.modeByteAfter_created _ config)

/-- The mode byte is sent to any device, and the device reports then. -/
theorem leaves_modeByte (k : PointingModel) (d : PointingDevice) (v : UInt8) :
    ∃ replies d', Leaves .mouse k.device d (Touchpad.runOperations false [.modeByte false v]) replies d' ∧
      d'.awaiting = none ∧ d'.modeByte = (k.special (Touchpad.arguments v)).getD d.modeByte ∧
      d'.led = d.led := by
  obtain ⟨d1, h1⟩ := Touchpad.shows_modeByteSequence_special k d v
  obtain ⟨d2, h2⟩ := Touchpad.shows_undocumentedSequence (k := k) h1.2.1
  obtain ⟨d3, h3⟩ := Touchpad.shows_enable (k := k) h2.2.1
  rw [h2.2.2.2, h1.2.2.2] at h3
  have hlen : (Touchpad.modeByteSequence v ++ Touchpad.undocumentedSequence ++ [kDPEnable]).length ≤ 255 :=
    Nat.le_of_ble_eq_true rfl
  have hsend : Leaves .mouse k.device d (Touchpad.setTouchPadModeByte false v) true d3 :=
    Touchpad.converse_sendAll_shows hlen ((h1.append h2).append h3)
  have hprogram : Leaves .mouse k.device d ((Touchpad.Operation.modeByte false v).program false)
      (.acknowledged true) d3 := hsend.bind (leaves_pure _ _)
  refine ⟨[.acknowledged true], d3, ?_, h3.2.1, congrArg Touchpad.View.modeByte h3.2.2.2,
    congrArg Touchpad.View.led h3.2.2.2⟩
  rw [Touchpad.runOperations, Prog.bind_eq]
  exact hprogram.bind (leaves_pure _ _)

/-- What the configuration sends leaves the mode byte that it asks for, and no command begun. -/
theorem leaves_configured (k : PointingModel) {d : PointingDevice} (h : d.awaiting = none)
    (config : Option Dictionary) :
    ∃ replies d', Leaves .mouse k.device d
        (Touchpad.runOperations false (Synaptics.sent false (Touchpad.configured config).log)) replies d' ∧
      d'.awaiting = none ∧
      d'.modeByte =
        (if config.isSome then
          (k.special (Touchpad.arguments (Touchpad.configured config).touchPadModeByte)).getD d.modeByte
        else d.modeByte) ∧
      d'.led = d.led := by
  cases config with
  | none => exact ⟨[], d, leaves_pure _ _, h, rfl, rfl⟩
  | some config =>
      rw [sent_configured]
      exact leaves_modeByte k d (Touchpad.configured config).touchPadModeByte

theorem finds_synaptics (h : d.awaiting = none) (config : Option Dictionary) :
    Finds k d (Touchpad.probe false config)
      (Touchpad.forceSynaptics config || k.touchpadIdentity.any (Touchpad.isSupported false))
      (if config.isSome then
        (k.special (Touchpad.arguments (Touchpad.configured config).touchPadModeByte)).getD d.modeByte
      else d.modeByte) := by
  obtain ⟨replies, d0, hsent, hready0, hmode, hled⟩ := leaves_configured k h config
  obtain ⟨d1, d2, h1, hready, hview, -, hc⟩ := Touchpad.converse_getTouchPadData (k := k) hready0 0x0
  have hresolution : d1.resolution = 0 := by
    obtain ⟨d', hd⟩ := Touchpad.shows_disable (k := k) hready0
    have hencode := Touchpad.takes_encode (k := k) hd.2.1 0x0
    rw [← h1.1.2, Device.after_append, hd.1.2, hencode.2]
    rfl
  have hdata : Leaves .mouse k.device d0 (Touchpad.getTouchPadData false 0x0) (some (k.information d1)) d2 :=
    hc
  refine ⟨d2, ?_, hready, ?_, ?_, fun _ => congrArg Touchpad.View.streaming hview⟩
  · rw [← supported_information h1.2.2.1 hresolution]
    exact hsent.bind (hdata.bind (leaves_pure _ _))
  · exact (congrArg Touchpad.View.modeByte hview).trans hmode
  · exact (congrArg Touchpad.View.led hview).trans hled

/-- A report of a device that is no ALPS touchpad: its state, the resolution and the sample rate. -/
theorem finds_report (hspecial : k.special [] = none) (h : d.awaiting = none) {scaling : UInt8}
    (hs : scaling = kDPSetMouseScaling1To1 ∨ scaling = kDPSetMouseScaling2To1) :
    ∃ i, i.2.1 = 0 ∧ Finds k d (Alps.report false scaling) i d.modeByte := by
  let d1 : PointingDevice := { d with resolution := 0, resolutions := d.resolutions ++ [0] }
  let d2 : PointingDevice := { d1 with
    resolutions := [], scaling2To1 := decide (scaling = kDPSetMouseScaling2To1) }
  have hone (e : PointingDevice) (he : e.awaiting = none) : k.Takes e [scaling]
      { e with resolutions := [], scaling2To1 := decide (scaling = kDPSetMouseScaling2To1) } := by
    rcases hs with rfl | rfl
    · exact takes_command he alone_scaling1To1
    · exact takes_command he alone_scaling2To1
  have htakes : k.Takes d (Alps.reportBytes scaling) d2 :=
    (takes_resolution h 0).append ((hone d1 h).append ((hone d2 h).append (hone d2 h)))
  have hinformation : k.information d2 = (status d2, 0, d2.rate) := by
    rw [PointingModel.information, show d2.resolutions = [] from rfl, hspecial]
  have hanswer : k.device.answer (k.device.after d (Alps.reportBytes scaling)) kDPGetMouseInformation =
      kSCAcknowledge :: bytes (k.information d2) := by
    rw [htakes.2]
    exact answer_information h
  have hquery := converse_query k.device _ _ htakes.1 hanswer .start 0 []
  have hafter : k.device.after d [kDPSetMouseResolution, 0, scaling, scaling, scaling] = d2 := htakes.2
  rw [hafter, step_command (show d2.awaiting = none from h), command_information, List.append_nil] at hquery
  refine ⟨k.information d2, by rw [hinformation], { d2 with resolutions := [] }, ?_, h, rfl, rfl, id⟩
  have hloop : converse .mouse k.device (processCommands .start 0
      ((Alps.reportBytes scaling).map sendMouse ++
        [sendMouse kDPGetMouseInformation, readData, readData, readData])) (.idle d) = _ := hquery
  rw [Leaves, Alps.report, Prog.bind_eq, converse_bind,
    converse_processRequest k.device .mouse (Nat.le_of_ble_eq_true rfl), hloop]
  rfl

theorem isItALPS_of_zero {e7 : UInt8 × UInt8 × UInt8} (h : e7.2.1 = 0) : Alps.isItALPS e7 = false := by
  have hmodels : ∀ i ∈ Alps.models, i.2.1 = 2 := by
    simp [Alps.models]
  unfold Alps.isItALPS
  rw [decide_eq_false_iff_not]
  intro hmem
  have htwo := hmodels e7 hmem
  rw [h] at htwo
  exact absurd htwo (by decide)

theorem finds_alps (hspecial : k.special [] = none) (h : d.awaiting = none) :
    Finds k d (Alps.probe false) false d.modeByte := by
  obtain ⟨e6, -, d1, h1, hready1, hmode1, hled1, hstill1⟩ := finds_report hspecial h (.inl rfl)
  obtain ⟨e7, hzero, d2, h2, hready2, hmode2, hled2, hstill2⟩ :=
    finds_report hspecial hready1 (.inr rfl)
  have hmodel : Leaves .mouse k.device d (Alps.getModel false) (e6, e7) d2 :=
    h1.bind (h2.bind (leaves_pure _ _))
  have hprobe : Leaves .mouse k.device d (Alps.probe false) (Alps.isItALPS e7) d2 :=
    hmodel.bind (leaves_pure _ _)
  rw [isItALPS_of_zero hzero] at hprobe
  exact ⟨d2, hprobe, hready2, hmode2.trans hmode1, hled2.trans hled1, fun hs => hstill2 (hstill1 hs)⟩

/-- A sample rate of 0x66 is one, and nothing else. -/
theorem sampleRate_knock (d : PointingDevice) :
    ∃ rates identity, k.sampleRate d 0x66 =
      { d with awaiting := none, resolutions := [], rate := 0x66, rates := rates, identity := identity } := by
  unfold PointingModel.sampleRate
  cases k.special d.resolutions with
  | none => exact ⟨_, _, rfl⟩
  | some v =>
      dsimp only
      rw [if_neg (by decide), if_neg (by decide)]
      exact ⟨d.rates, d.identity, rfl⟩

/-- The bytes that select register 0 of a Sentelic pad set the sample rate of another device, twice; the
bytes that are no commands are not understood. -/
theorem leads_select (h : d.awaiting = none) :
    ∃ rates identity, Sentelic.Single k.device d [0xf3, 0x66, 0x88, 0xf3, 0x66, 0x00] ∧
      k.device.after d [0xf3, 0x66, 0x88, 0xf3, 0x66, 0x00] =
        { d with resolutions := [], rate := 0x66, rates := rates, identity := identity } := by
  have hset (e : PointingDevice) (he : e.awaiting = none) :
      k.device.answer e 0xf3 = [kSCAcknowledge] ∧
        k.device.step e 0xf3 = { e with awaiting := some kDPSetMouseSampleRate } :=
    ⟨answer_command he (by decide) (by decide) (by decide) (by decide), step_command he _⟩
  have hrate (e : PointingDevice) :
      k.device.answer { e with awaiting := some kDPSetMouseSampleRate } 0x66 = [kSCAcknowledge] ∧
        k.device.step { e with awaiting := some kDPSetMouseSampleRate } 0x66 =
          k.sampleRate { e with awaiting := some kDPSetMouseSampleRate } 0x66 := by
    refine ⟨answer_argument rfl _, ?_⟩
    rw [step_argument rfl, if_neg (by decide)]
  have hother (e : PointingDevice) (he : e.awaiting = none) (b : UInt8) (hb : b = 0x88 ∨ b = 0x00) :
      k.device.answer e b = [kSCResend] ∧ k.device.step e b = { e with resolutions := [] } := by
    constructor
    · change k.answer e b = _
      unfold PointingModel.answer
      rw [he]
      rcases hb with rfl | rfl <;> rfl
    · rw [step_command he]
      rcases hb with rfl | rfl <;> rfl
  obtain ⟨r1, i1, hrate1⟩ := sampleRate_knock (k := k) { d with awaiting := some kDPSetMouseSampleRate }
  let d1 : PointingDevice := { d with
    awaiting := none, resolutions := [], rate := 0x66, rates := r1, identity := i1 }
  obtain ⟨r2, i2, hrate2⟩ := sampleRate_knock (k := k) { d1 with awaiting := some kDPSetMouseSampleRate }
  have hfirst : k.device.step { d with awaiting := some kDPSetMouseSampleRate } 0x66 = d1 :=
    (hrate d).2.trans hrate1
  let d2 : PointingDevice := { d1 with rates := r2, identity := i2 }
  have hsecond : k.device.step { d1 with awaiting := some kDPSetMouseSampleRate } 0x66 = d2 :=
    (hrate d1).2.trans hrate2
  have hthird : k.device.step d1 0x88 = d1 := (hother d1 rfl 0x88 (.inl rfl)).2
  have hlast : k.device.step d2 0x00 = d2 := (hother d2 rfl 0x00 (.inr rfl)).2
  refine ⟨r2, i2, ⟨⟨_, (hset d h).1⟩, ?_⟩, ?_⟩
  · rw [(hset d h).2]
    refine ⟨⟨_, (hrate d).1⟩, ?_⟩
    rw [hfirst]
    refine ⟨⟨_, (hother d1 rfl 0x88 (.inl rfl)).1⟩, ?_⟩
    rw [hthird]
    refine ⟨⟨_, (hset d1 rfl).1⟩, ?_⟩
    rw [(hset d1 rfl).2]
    refine ⟨⟨_, (hrate d1).1⟩, ?_⟩
    rw [hsecond]
    exact ⟨⟨_, (hother d2 rfl 0x00 (.inr rfl)).1⟩, trivial⟩
  · simp only [Device.after_cons, Device.after_nil]
    rw [(hset d h).2, hfirst, hthird, (hset d1 rfl).2, hsecond, hlast]
    simp [d2, d1, h]

theorem finds_sentelic (hspecial : k.special [] = none) (h : d.awaiting = none) :
    Finds k d (do let version ← Sentelic.probe false; return version.isSome) false d.modeByte := by
  obtain ⟨rates, identity, hsingle, hafter⟩ := leads_select (k := k) h
  let d1 : PointingDevice := { d with
    resolutions := [], rate := 0x66, rates := rates, identity := identity }
  have hselect := Sentelic.leaves_fspPs2Commands
    ([0xf3, 0x66, 0x88, 0xf3] ++ Sentelic.readSelectors.mangle (Sentelic.intOf Sentelic.FSP_REG_DEVICE_ID))
    hsingle
  have hd1 : k.device.after d (([0xf3, 0x66, 0x88, 0xf3] ++ Sentelic.readSelectors.mangle
      (Sentelic.intOf Sentelic.FSP_REG_DEVICE_ID)).map Sentelic.lowByte) = d1 := hafter
  rw [hd1] at hselect
  have hinformation : k.information d1 = (status d1, d1.resolution, 0x66) := by
    rw [PointingModel.information, show d1.resolutions = [] from rfl, hspecial]
  have hanswer := answer_information (k := k) (d := d1) h
  rw [hinformation] at hanswer
  have hread : Leaves .mouse k.device d (Sentelic.fspRegRead false Sentelic.FSP_REG_DEVICE_ID)
      (Sentelic.intOf 0x66) (k.device.step d1 kDPGetMouseInformation) :=
    hselect.bind (Sentelic.leaves_outcome hanswer)
  rw [step_command (show d1.awaiting = none from h), command_information] at hread
  have hprobe : Leaves .mouse k.device d (Sentelic.probe false) none { d1 with resolutions := [] } := by
    refine hread.bind ?_
    rw [if_neg (by decide)]
    exact leaves_pure _ _
  exact ⟨{ d1 with resolutions := [] }, hprobe.bind (leaves_pure _ _), h, rfl, rfl, id⟩

theorem finds_candidate (hspecial : k.special [] = none) (h : d.awaiting = none) (c : Candidate) :
    Finds k d (c.probe false) (c.accepts k) (c.modeByteAfter k d.modeByte) := by
  unfold Candidate.probe Candidate.accepts Candidate.modeByteAfter
  cases c.disableDevice with
  | true => exact finds_pure h false
  | false =>
      cases c.driver with
      | applePS2Mouse => exact finds_mouse h
      | applePS2SynapticsTouchPad =>
          have h := finds_synaptics (k := k) h c.config
          simpa using h
      | applePS2ALPSGlidePoint => exact finds_alps hspecial h
      | applePS2SentelicFSP => exact finds_sentelic hspecial h

theorem finds_probes (hspecial : k.special [] = none) (h : d.awaiting = none) (cs : List Candidate) :
    Finds k d (probes false cs) (cs.map (Candidate.accepts k))
      (cs.foldl (Candidate.modeByteAfter k) d.modeByte) := by
  induction cs generalizing d with
  | nil => exact finds_pure h []
  | cons c cs ih =>
      apply (finds_candidate hspecial h c).bind
      intro d1 h1 hmode
      have hrest := ih h1
      rw [hmode] at hrest
      refine hrest.bind fun d2 h2 hmode2 => ?_
      have hdone := finds_pure (k := k) h2 (c.accepts k :: cs.map (Candidate.accepts k))
      rw [hmode2] at hdone
      exact hdone

end

/-! ### The stream of the probes -/

theorem onStream_candidate (offline : Bool) (c : Candidate) : (c.probe offline).OnStream .mouse := by
  unfold Candidate.probe
  split
  · exact trivial
  cases c.driver with
  | applePS2Mouse =>
      have hreads : ReadsOnly .mouse .start (Mouse.transmitAck kDPGetMouseInformation ++
          [readData, readData, readData]) :=
        And.intro trivial ⟨trivial, rfl, rfl, rfl, rfl, trivial⟩
      exact onStream_bind (onStream_processRequest (Nat.le_of_ble_eq_true rfl) hreads offline)
        fun _ => trivial
  | applePS2SynapticsTouchPad =>
      apply onStream_bind (Touchpad.onStream_runOperations offline _)
      intro _
      exact onStream_bind (Touchpad.onStream_getTouchPadData offline 0x0) fun _ => trivial
  | applePS2ALPSGlidePoint =>
      have hreport (scaling : UInt8) : (Alps.report offline scaling).OnStream .mouse := by
        have hreads : ReadsOnly .mouse .start ((Alps.reportBytes scaling).map sendMouse ++
            [sendMouse kDPGetMouseInformation, readData, readData, readData]) := by
          simp [Alps.reportBytes, sendMouse, readData, ReadsOnly, modeAfter]
        exact onStream_bind (onStream_processRequest (Nat.le_of_ble_eq_true rfl) hreads offline)
          fun _ => trivial
      have hmodel : (Alps.getModel offline).OnStream .mouse :=
        onStream_bind (hreport _) fun _ => onStream_bind (hreport _) fun _ => trivial
      exact onStream_bind hmodel fun _ => trivial
  | applePS2SentelicFSP => exact onStream_bind (Sentelic.onStream_probe offline) fun _ => trivial

theorem onStream_probes (offline : Bool) (cs : List Candidate) : (probes offline cs).OnStream .mouse := by
  induction cs with
  | nil => exact trivial
  | cons c cs ih =>
      apply onStream_bind (onStream_candidate offline c)
      intro _
      exact onStream_bind ih fun _ => trivial

/-- The configuration with one entry. -/
def entry (key : String) : Option Dictionary :=
  some fun name => if name = key then some (.boolean true) else none

/-- All four drivers, and the Synaptics driver with a high rate and once more, on a touchpad of version 7.2. -/
def candidates : List Candidate :=
  [⟨.applePS2SentelicFSP, none⟩, ⟨.applePS2SynapticsTouchPad, entry "UseHighRate"⟩,
    ⟨.applePS2ALPSGlidePoint, none⟩, ⟨.applePS2Mouse, entry "DisableDevice"⟩,
    ⟨.applePS2SynapticsTouchPad, none⟩]

end VoodooPS2
