import VoodooPS2.Device
import VoodooPS2.Lib.Dialogue

/-! # What is at the other end of the mouse port

The drivers rely on what a mouse, an Intellimouse or a Synaptics touchpad does with the bytes that are
sent to it.  `PointingModel.device` is such a device as the drivers know it: it acknowledges a command and its
argument, it has a resolution, a sample rate and an identity, and it reports packets or it does not.  A
touchpad takes four set-resolution commands in a row for the bits of a value, which goes with the next
command: a request for information asks for that item of data, sample rate 20 makes it the mode byte, and
sample rate 10 is the command for the LED.

A `PointingModel` is what one device has different from another.  Everything it leaves open, the drivers have
to get along with. -/

namespace VoodooPS2

open Dialogue

/-- What one device does that another does not. -/
structure PointingModel where
  /-- the value that the arguments of set-resolution commands stand for -/
  special : List UInt8 → Option UInt8
  /-- the items of data -/
  data : UInt8 → UInt8 × UInt8 × UInt8
  /-- the identity after a sample rate, by the one before and the two sample rates before -/
  identify : UInt8 → UInt8 × UInt8 → UInt8 → UInt8
  defaultResolution : UInt8
  defaultRate : UInt8
  /-- `kDP_SetDefaultsAndDisable` sets the defaults, too -/
  disableSetsDefaults : Bool

/-- A device at the mouse port. -/
structure PointingDevice where
  /-- a command that waits for its argument -/
  awaiting : Option UInt8
  /-- the arguments of the set-resolution commands that come last -/
  resolutions : List UInt8
  /-- the last two sample rates -/
  rates : UInt8 × UInt8
  identity : UInt8
  resolution : UInt8
  rate : UInt8
  scaling2To1 : Bool
  streaming : Bool
  modeByte : UInt8
  led : UInt8
deriving DecidableEq, Repr

namespace PointingModel

variable (k : PointingModel)

def setDefaults (d : PointingDevice) : PointingDevice :=
  { d with
    resolution := k.defaultResolution
    rate := k.defaultRate
    scaling2To1 := false }

/-- A device that has just got power. -/
def poweredOn (identity : UInt8) : PointingDevice where
  awaiting := none
  resolutions := []
  rates := (0, 0)
  identity := identity
  resolution := 2
  rate := 100
  scaling2To1 := false
  streaming := false
  modeByte := 0
  led := 0

/-- `kDP_Reset`: all that the device has been told is forgotten. -/
def reset : PointingDevice := k.setDefaults (poweredOn 0)

/-- The argument of `kDP_SetMouseSampleRate`. -/
def sampleRate (d : PointingDevice) (b : UInt8) : PointingDevice :=
  let d' := { d with awaiting := none, resolutions := [] }
  match k.special d.resolutions with
  | some v =>
      if b = 20 then { d' with modeByte := v }
      else if b = 10 then { d' with led := v }
      else { d' with rate := b }
  | none =>
      { d' with
        rate := b
        rates := (d.rates.2, b)
        identity := k.identify d.identity d.rates b }

/-- A command.  `kDP_SetDefaults` sets relative mode, `kDP_SetDefaultsAndDisable` does not. -/
def command (d : PointingDevice) (b : UInt8) : PointingDevice :=
  if b = kDPSetMouseResolution ∨ b = kDPSetMouseSampleRate then { d with awaiting := some b }
  else
    let d := { d with resolutions := [] }
    if b = kDPEnable then { d with streaming := true }
    else if b = kDPSetDefaultsAndDisable then
      { (if k.disableSetsDefaults then k.setDefaults d else d) with streaming := false }
    else if b = kDPSetDefaults then { k.setDefaults d with streaming := false, modeByte := 0 }
    else if b = kDPSetMouseScaling1To1 then { d with scaling2To1 := false }
    else if b = kDPSetMouseScaling2To1 then { d with scaling2To1 := true }
    else if b = kDPReset then k.reset
    else d

def step (d : PointingDevice) (b : UInt8) : PointingDevice :=
  match d.awaiting with
  | none => k.command d b
  | some c =>
      if c = kDPSetMouseResolution then
        { d with awaiting := none, resolution := b, resolutions := d.resolutions ++ [b] }
      else k.sampleRate d b

/-- The first byte of the information: the bits of the state. -/
def status (d : PointingDevice) : UInt8 :=
  (if d.streaming then 0x20 else 0) ||| (if d.scaling2To1 then 0x10 else 0)

/-- The information: an item of data, or the state, the resolution and the sample rate. -/
def information (d : PointingDevice) : UInt8 × UInt8 × UInt8 :=
  match k.special d.resolutions with
  | some v => k.data v
  | none => (status d, d.resolution, d.rate)

def bytes (i : UInt8 × UInt8 × UInt8) : List UInt8 := [i.1, i.2.1, i.2.2]

/-- A command that is not known is answered by a request to resend it, a reset by the result of the self-test
and an identity, too. -/
def answer (d : PointingDevice) (b : UInt8) : List UInt8 :=
  if d.awaiting.isSome then [kSCAcknowledge]
  else if b = kDPGetMouseInformation then kSCAcknowledge :: bytes (k.information d)
  else if b = kDPGetId then [kSCAcknowledge, d.identity]
  else if b = kDPReset then [kSCAcknowledge, kSCReset, 0]
  else if b ≥ kDPSetMouseScaling1To1 then [kSCAcknowledge]
  else [kSCResend]

def device : Device PointingDevice UInt8 := ⟨k.step, k.answer⟩

/-- It has no special commands: a mouse. -/
structure IsMouse : Prop where
  special : ∀ args, k.special args = none

/-- Four arguments are the bits of a value, two by two: a touchpad. -/
structure IsTouchpad : Prop where
  special : ∀ a b c d : UInt8, a < 4 → b < 4 → c < 4 → d < 4 →
    k.special [a, b, c, d] = some (a <<< 6 ||| b <<< 4 ||| c <<< 2 ||| d)
  none : k.special [] = none

/-- A touchpad as it is usually built. -/
def touchpad (data : UInt8 → UInt8 × UInt8 × UInt8) : PointingModel where
  special
    | [a, b, c, d] => some (a <<< 6 ||| b <<< 4 ||| c <<< 2 ||| d)
    | _ => none
  data := data
  identify := fun identity _ _ => identity
  defaultResolution := 2
  defaultRate := 100
  disableSetsDefaults := true

theorem isTouchpad_touchpad (data : UInt8 → UInt8 × UInt8 × UInt8) : (touchpad data).IsTouchpad :=
  ⟨fun _ _ _ _ _ _ _ _ => rfl, rfl⟩

/-! ### The device under single commands -/

variable {k} {d : PointingDevice}

theorem step_argument {c : UInt8} (h : d.awaiting = some c) (b : UInt8) :
    k.device.step d b =
      if c = kDPSetMouseResolution then
        { d with awaiting := none, resolution := b, resolutions := d.resolutions ++ [b] }
      else k.sampleRate d b := by
  change k.step d b = _
  rw [step, h]

theorem step_command (h : d.awaiting = none) (b : UInt8) :
    k.device.step d b = k.command d b := by
  change k.step d b = _
  rw [step, h]

theorem answer_argument {c : UInt8} (h : d.awaiting = some c) (b : UInt8) :
    k.device.answer d b = [kSCAcknowledge] := by
  change k.answer d b = _
  rw [answer, h]
  rfl

/-- A command without an answer of its own is acknowledged. -/
theorem answer_command (h : d.awaiting = none) {b : UInt8} (hlow : kDPSetMouseScaling1To1 ≤ b)
    (hinfo : b ≠ kDPGetMouseInformation) (hid : b ≠ kDPGetId) (hreset : b ≠ kDPReset) :
    k.device.answer d b = [kSCAcknowledge] := by
  change k.answer d b = _
  rw [answer, h, if_neg (by simp), if_neg hinfo, if_neg hid, if_neg hreset, if_pos hlow]

theorem answer_information (h : d.awaiting = none) :
    k.device.answer d kDPGetMouseInformation = kSCAcknowledge :: bytes (k.information d) := by
  change k.answer d _ = _
  rw [answer, h, if_neg (by simp), if_pos rfl]

theorem answer_identity (h : d.awaiting = none) :
    k.device.answer d kDPGetId = [kSCAcknowledge, d.identity] := by
  change k.answer d _ = _
  rw [answer, h, if_neg (by simp), if_neg (by decide), if_pos rfl]

/-- After a reset the device waits for commands, with its defaults. -/
theorem answer_reset (h : d.awaiting = none) :
    k.device.answer d kDPReset = [kSCAcknowledge, kSCReset, 0] ∧ k.device.step d kDPReset = k.reset := by
  constructor
  · change k.answer d _ = _
    rw [answer, h, if_neg (by simp), if_neg (by decide), if_neg (by decide), if_pos rfl]
  · rw [step_command h]
    rfl

/-! ### Sequences of commands -/

variable (k) in
/-- The device acknowledges the bytes and is in the state `d'` then. -/
def Takes (d : PointingDevice) (bytes : List UInt8) (d' : PointingDevice) : Prop :=
  k.device.Acks kSCAcknowledge d bytes ∧ k.device.after d bytes = d'

theorem Takes.append {d' d'' : PointingDevice} {bs cs : List UInt8} (h : k.Takes d bs d')
    (h' : k.Takes d' cs d'') : k.Takes d (bs ++ cs) d'' := by
  obtain ⟨hacks, rfl⟩ := h
  refine ⟨(k.device.acks_append _ _ _ _).mpr ⟨hacks, h'.1⟩, ?_⟩
  rw [Device.after_append]
  exact h'.2

/-- A command with an argument. -/
theorem takes_two {c b : UInt8} (h : d.awaiting = none)
    (hc : c = kDPSetMouseResolution ∨ c = kDPSetMouseSampleRate) :
    k.Takes d [c, b] (k.device.step { d with awaiting := some c } b) := by
  have hstep : k.device.step d c = { d with awaiting := some c } := by
    rw [step_command h, command, if_pos hc]
  have hack : k.device.answer d c = [kSCAcknowledge] := by
    apply answer_command h <;> rcases hc with rfl | rfl <;> decide
  refine ⟨⟨hack, ?_, trivial⟩, ?_⟩
  · rw [hstep]
    exact answer_argument rfl b
  · rw [Device.after_cons, hstep]
    rfl

theorem takes_resolution (h : d.awaiting = none) (a : UInt8) :
    k.Takes d [kDPSetMouseResolution, a]
      { d with resolution := a, resolutions := d.resolutions ++ [a] } := by
  have htwo := takes_two (k := k) (b := a) h (.inl rfl)
  rw [step_argument rfl, if_pos rfl] at htwo
  rw [show d = { d with awaiting := none } by rw [← h]] at htwo ⊢
  exact htwo

theorem takes_sampleRate (h : d.awaiting = none) (b : UInt8) :
    k.Takes d [kDPSetMouseSampleRate, b] (k.sampleRate d b) := by
  have htwo := takes_two (k := k) (b := b) h (.inr rfl)
  rw [step_argument rfl, if_neg (by decide)] at htwo
  exact htwo

/-- A command that stands alone and has no answer of its own. -/
structure Alone (b : UInt8) : Prop where
  low : kDPSetMouseScaling1To1 ≤ b
  resolution : b ≠ kDPSetMouseResolution
  sampleRate : b ≠ kDPSetMouseSampleRate
  information : b ≠ kDPGetMouseInformation
  identity : b ≠ kDPGetId
  reset : b ≠ kDPReset

theorem takes_command (h : d.awaiting = none) {b : UInt8} (hb : Alone b) :
    k.Takes d [b] (k.command d b) :=
  ⟨⟨answer_command h hb.low hb.information hb.identity hb.reset, trivial⟩, step_command h b⟩

theorem alone_scaling1To1 : Alone kDPSetMouseScaling1To1 := by constructor <;> decide

theorem alone_scaling2To1 : Alone kDPSetMouseScaling2To1 := by constructor <;> decide

theorem alone_enable : Alone kDPEnable := by constructor <;> decide

theorem alone_disable : Alone kDPSetDefaultsAndDisable := by constructor <;> decide

@[simp] theorem command_scaling1To1 (d : PointingDevice) :
    k.command d kDPSetMouseScaling1To1 = { d with resolutions := [], scaling2To1 := false } := rfl

@[simp] theorem command_scaling2To1 (d : PointingDevice) :
    k.command d kDPSetMouseScaling2To1 = { d with resolutions := [], scaling2To1 := true } := rfl

@[simp] theorem command_enable (d : PointingDevice) :
    k.command d kDPEnable = { d with resolutions := [], streaming := true } := rfl

@[simp] theorem command_information (d : PointingDevice) :
    k.command d kDPGetMouseInformation = { d with resolutions := [] } := rfl

@[simp] theorem command_identity (d : PointingDevice) :
    k.command d kDPGetId = { d with resolutions := [] } := rfl

/-- `kDP_SetDefaultsAndDisable` leaves alone what is no default. -/
theorem command_disable (d : PointingDevice) :
    ∃ resolution rate scaling, k.command d kDPSetDefaultsAndDisable =
      { d with
        resolutions := []
        resolution := resolution
        rate := rate
        scaling2To1 := scaling
        streaming := false } := by
  rw [command, if_neg (by decide), if_neg (by decide), if_pos rfl]
  split
  · exact ⟨k.defaultResolution, k.defaultRate, false, rfl⟩
  · exact ⟨d.resolution, d.rate, d.scaling2To1, rfl⟩

end PointingModel

end VoodooPS2
