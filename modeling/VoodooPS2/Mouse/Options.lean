import VoodooPS2.Mouse.Led

/-! # Options of the mouse driver (`setParamPropertiesGated`)

The driver reads its options from a dictionary with one table for each kind of variable, and then
shifts `defres` by 16 bits, to a fixed-point number, whether or not it has just been read.

`updated_iff`: an update changes only the variables of the options that the dictionary has, and
nothing when it is repeated, if and only if the dictionary has `DefaultResolution` or `defres` is
zero. -/

namespace VoodooPS2.Mouse

open Synaptics (Dictionary)

/-- `int32vars`. -/
inductive IntVar where
  | defres | resmode | scrollres | mouseyinverter | scrollyinverter | wakedelay | buttonCount
deriving DecidableEq, Repr

/-- `boolvars`. -/
inductive BoolVar where
  | forceres | forcesetres | actliketrackpad | noled | fakemiddlebutton | processusbmouse
  | processbluetoothmouse
deriving DecidableEq, Repr

/-- `lowbitvars`. -/
inductive FlagVar where
  | scroll | outzoneWt | palm | palmWt | usbMouseStopsTrackpad
deriving DecidableEq, Repr

/-- `int64vars`. -/
inductive TimeVar where
  | maxmiddleclicktime | maxaftertyping
deriving DecidableEq, Repr

def IntVar.name : IntVar → String
  | defres => "DefaultResolution"
  | resmode => "ResolutionMode"
  | scrollres => "ScrollResolution"
  | mouseyinverter => "MouseYInverter"
  | scrollyinverter => "ScrollYInverter"
  | wakedelay => "WakeDelay"
  | buttonCount => "ButtonCount"

def BoolVar.name : BoolVar → String
  | forceres => "ForceDefaultResolution"
  | forcesetres => "ForceSetResolution"
  | actliketrackpad => "ActLikeTrackpad"
  | noled => "DisableLEDUpdating"
  | fakemiddlebutton => "FakeMiddleButton"
  | processusbmouse => "ProcessUSBMouseStopsTrackpad"
  | processbluetoothmouse => "ProcessBluetoothMouseStopsTrackpad"

def FlagVar.name : FlagVar → String
  | scroll => "TrackpadScroll"
  | outzoneWt => "OutsidezoneNoAction When Typing"
  | palm => "PalmNoAction Permanent"
  | palmWt => "PalmNoAction When Typing"
  | usbMouseStopsTrackpad => "USBMouseStopsTrackpad"

def TimeVar.name : TimeVar → String
  | maxmiddleclicktime => "MiddleClickTime"
  | maxaftertyping => "QuietTimeAfterTyping"

@[ext]
structure Options where
  int : IntVar → Int32
  bool : BoolVar → Bool
  flag : FlagVar → Bool
  time : TimeVar → UInt64

namespace Options

/-- The values that `init` sets; memory of a new object is zero. -/
def init : Options where
  int
    | .defres => (150 : Int32) <<< 16
    | .resmode => -1
    | .scrollres => 10
    | .mouseyinverter => 1
    | .scrollyinverter => 1
    | .wakedelay => 1000
    | .buttonCount => 3
  bool
    | .processusbmouse => true
    | .processbluetoothmouse => true
    | _ => false
  flag
    | .scroll => true
    | .usbMouseStopsTrackpad => true
    | _ => false
  time
    | .maxmiddleclicktime => 100000000
    | .maxaftertyping => 500000000

/-- `OSDynamicCast(OSNumber, config->getObject(name))`. -/
def number (d : Dictionary) (name : String) : Option UInt64 :=
  match d name with
  | some (.number n) => some n
  | _ => none

/-- `OSDynamicCast(OSBoolean, config->getObject(name))`. -/
def boolean (d : Dictionary) (name : String) : Option Bool :=
  match d name with
  | some (.boolean b) => some b
  | _ => none

/-- `num->unsigned32BitValue()`, as an `int`. -/
def intOf (n : UInt64) : Int32 := n.toUInt32.toInt32

/-- `(num->unsigned32BitValue()&0x1)?true:false`. -/
def lowBit (n : UInt64) : Bool := decide (n &&& 0x1 ≠ 0)

/-- The four tables: a variable whose option is not there keeps its value. -/
def read (o : Options) (d : Dictionary) : Options where
  int v := ((number d v.name).map intOf).getD (o.int v)
  bool v := (boolean d v.name).getD (o.bool v)
  flag v := ((number d v.name).map lowBit).getD (o.flag v)
  time v := (number d v.name).getD (o.time v)

/-- A number of dots per inch as an `IOFixed`. -/
def toFixed (n : Int32) : Int32 := n <<< 16

/-- `defres <<= 16`. -/
def convert (o : Options) : Options :=
  { o with int := fun v => if v = .defres then toFixed (o.int .defres) else o.int v }

end Options

/-- The driver as far as its options go. -/
@[ext]
structure Configured where
  options : Options
  ignoreall : Bool
  ledpresent : Bool
  /-- `attachedHIDPointerDevices` -/
  attached : List ℕ
  /-- what `setTouchpadLED` has sent last -/
  sent : Option UInt8

namespace Configured

def updateTouchpadLED (s : Configured) : Configured :=
  if s.ledpresent = true ∧ s.options.bool .noled = false then
    { s with sent := some (LED.value s.ignoreall) }
  else s

/-- disable trackpad when USB mouse is plugged in and this functionality is requested -/
def followAttached (s : Configured) : Configured :=
  if s.attached.length > 0 then
    updateTouchpadLED { s with ignoreall := s.options.flag .usbMouseStopsTrackpad }
  else s

def setParamPropertiesGated (s : Configured) (d : Dictionary) : Configured :=
  let s := followAttached { s with options := s.options.read d }
  { s with options := s.options.convert }

/-- What the LED depends on. -/
def led (s : Configured) : LED where
  ignoreall := s.ignoreall
  ledpresent := s.ledpresent
  noled := s.options.bool .noled
  actliketrackpad := s.options.bool .actliketrackpad
  usbMouseStopsTrackpad := s.options.flag .usbMouseStopsTrackpad
  attached := s.attached
  sent := s.sent

theorem readBool_eq (d : Dictionary) (name : String) (old : Bool) :
    LED.readBool d name old = (Options.boolean d name).getD old := by
  unfold LED.readBool Options.boolean
  rcases d name with _ | n | b <;> rfl

theorem readLowBit_eq (d : Dictionary) (name : String) (old : Bool) :
    LED.readLowBit d name old = ((Options.number d name).map Options.lowBit).getD old := by
  unfold LED.readLowBit Options.number
  rcases d name with _ | n | b <;> rfl

/-- An update does to the LED what it does where nothing but the LED is looked at. -/
theorem led_setParamPropertiesGated (s : Configured) (d : Dictionary) :
    (s.setParamPropertiesGated d).led = s.led.setParamPropertiesGated d := by
  have hled : ∀ s : Configured, s.updateTouchpadLED.led = s.led.updateTouchpadLED := by
    intro s
    rw [updateTouchpadLED, LED.updateTouchpadLED]
    exact (apply_ite led _ _ _).trans rfl
  rw [LED.setParamPropertiesGated, readBool_eq, readBool_eq, readLowBit_eq]
  change (followAttached { s with options := s.options.read d }).led = _
  rw [followAttached]
  refine (apply_ite led _ _ _).trans ?_
  rw [hled]
  rfl

/-! ### What an update is to do -/

end Configured

/-- The variables of the four tables. -/
inductive Variable where
  | int (v : IntVar)
  | bool (v : BoolVar)
  | flag (v : FlagVar)
  | time (v : TimeVar)

inductive OptionValue where
  | int (n : Int32)
  | bool (b : Bool)
  | time (n : UInt64)

def Options.value (o : Options) : Variable → OptionValue
  | .int v => .int (o.int v)
  | .bool v => .bool (o.bool v)
  | .flag v => .bool (o.flag v)
  | .time v => .time (o.time v)

open Options in
/-- The value that a dictionary gives to a variable, if it has the option with the right type. -/
def given (d : Dictionary) : Variable → Option OptionValue
  | .int .defres => (number d IntVar.defres.name).map fun n => .int (toFixed (intOf n))
  | .int v => (number d v.name).map fun n => .int (intOf n)
  | .bool v => (boolean d v.name).map .bool
  | .flag v => (number d v.name).map fun n => .bool (lowBit n)
  | .time v => (number d v.name).map .time

namespace Configured

/-- An update gives the variables of the options that are there their values, leaves the others
alone, has the attached devices switch the driver off or on and the LED show it, and does nothing
more when it is repeated. -/
structure Updated (s s' : Configured) (d : Dictionary) : Prop where
  values : ∀ x, s'.options.value x = (given d x).getD (s.options.value x)
  ignoreall : s'.ignoreall =
    if s.attached.length > 0 then s'.options.flag .usbMouseStopsTrackpad else s.ignoreall
  sent : s'.sent =
    if s.attached.length > 0 ∧ s.ledpresent = true ∧ s'.options.bool .noled = false then
      some (LED.value s'.ignoreall)
    else s.sent
  ledpresent : s'.ledpresent = s.ledpresent
  attached : s'.attached = s.attached
  repeated : s'.setParamPropertiesGated d = s'

section

variable (s : Configured) (d : Dictionary)

theorem options_setParamPropertiesGated :
    (s.setParamPropertiesGated d).options = (s.options.read d).convert := by
  change (followAttached { s with options := s.options.read d }).options.convert = _
  unfold followAttached updateTouchpadLED
  split_ifs <;> rfl

theorem ignoreall_setParamPropertiesGated :
    (s.setParamPropertiesGated d).ignoreall =
      if s.attached.length > 0 then (s.setParamPropertiesGated d).options.flag .usbMouseStopsTrackpad
      else s.ignoreall := by
  rw [options_setParamPropertiesGated]
  change (followAttached { s with options := s.options.read d }).ignoreall = _
  unfold followAttached updateTouchpadLED
  split_ifs <;> rfl

theorem sent_setParamPropertiesGated :
    (s.setParamPropertiesGated d).sent =
      if s.attached.length > 0 ∧ s.ledpresent = true ∧
          (s.setParamPropertiesGated d).options.bool .noled = false then
        some (LED.value (s.setParamPropertiesGated d).ignoreall)
      else s.sent := by
  rw [ignoreall_setParamPropertiesGated, options_setParamPropertiesGated]
  change (followAttached { s with options := s.options.read d }).sent =
    if s.attached.length > 0 ∧ s.ledpresent = true ∧ (s.options.read d).bool .noled = false then
      some (LED.value (if s.attached.length > 0 then (s.options.read d).flag .usbMouseStopsTrackpad
        else s.ignoreall))
    else s.sent
  unfold followAttached updateTouchpadLED
  by_cases ha : s.attached.length > 0
  · by_cases hl : s.ledpresent = true ∧ (s.options.read d).bool .noled = false
    · simp [ha, hl.1, hl.2]
    · simp [ha, hl]
  · simp [ha]

theorem ledpresent_setParamPropertiesGated :
    (s.setParamPropertiesGated d).ledpresent = s.ledpresent := by
  change (followAttached { s with options := s.options.read d }).ledpresent = _
  unfold followAttached updateTouchpadLED
  split_ifs <;> rfl

theorem attached_setParamPropertiesGated :
    (s.setParamPropertiesGated d).attached = s.attached := by
  change (followAttached { s with options := s.options.read d }).attached = _
  unfold followAttached updateTouchpadLED
  split_ifs <;> rfl

end

end Configured

/-! ### The options -/

namespace Options

/-- The dictionary has `DefaultResolution`. -/
def HasResolution (d : Dictionary) : Prop := (number d IntVar.defres.name).isSome = true

theorem toBitVec_toFixed (n : Int32) : (toFixed n).toBitVec = n.toBitVec <<< 16#32 := by
  have hshift : (toFixed n).toBitVec = n.toBitVec <<< (16 : Int32).toBitVec.smod 32 :=
    Int32.toBitVec_shiftLeft n 16
  have hwidth : (16 : Int32).toBitVec.smod 32 = 16#32 := by decide
  rw [hshift, hwidth]

/-- A shift by half of the width keeps no number but zero. -/
theorem mul_mod_square_eq_self_iff (k m : Nat) : k * m % (m * m) = k ↔ k = 0 := by
  rw [Nat.mul_mod_mul_right]
  constructor
  · intro hk
    have hmod : k % m = 0 := by
      rw [← hk, Nat.mul_mod_left]
    rw [← hk, hmod, Nat.zero_mul]
  · rintro rfl
    rw [Nat.zero_mod, Nat.zero_mul]

/-- Shifting a number to the left changes it unless it is zero. -/
theorem toFixed_eq_self_iff (n : Int32) : toFixed n = n ↔ n = 0 := by
  have hcount : (16#32).toNat = 16 := by decide
  have hzero : (0 : Int32).toBitVec.toNat = 0 := by decide
  have hshift : (toFixed n).toBitVec.toNat = n.toBitVec.toNat * 2 ^ 16 % 2 ^ 32 := by
    rw [toBitVec_toFixed, BitVec.shiftLeft_eq', hcount, BitVec.toNat_shiftLeft, Nat.shiftLeft_eq]
  rw [← Int32.toBitVec_inj, ← Int32.toBitVec_inj, ← BitVec.toNat_inj, ← BitVec.toNat_inj, hshift,
    hzero]
  exact mul_mod_square_eq_self_iff n.toBitVec.toNat (2 ^ 16)

theorem getD_map {α β γ : Type} (g : β → γ) (f : α → β) (o : Option α) (b : β) :
    g ((o.map f).getD b) = (o.map fun a => g (f a)).getD (g b) := by
  cases o <;> rfl

theorem getD_getD {α : Type} (o : Option α) (a : α) : o.getD (o.getD a) = o.getD a := by
  cases o <;> rfl

theorem convert_defres (o : Options) : o.convert.int .defres = toFixed (o.int .defres) := by
  simp [convert]

theorem convert_int (o : Options) {v : IntVar} (hv : v ≠ .defres) : o.convert.int v = o.int v := by
  simp [convert, hv]

theorem given_int (d : Dictionary) {v : IntVar} (hv : v ≠ .defres) :
    given d (.int v) = (number d v.name).map fun n => .int (intOf n) := by
  cases v with
  | defres => exact absurd rfl hv
  | _ => rfl

/-- After an update the options that are there have their values, and the others, `defres` apart,
those they had. -/
theorem value_update (o : Options) (d : Dictionary) (x : Variable) (hx : x ≠ .int .defres) :
    (o.read d).convert.value x = (given d x).getD (o.value x) := by
  cases x with
  | int v =>
      have hv : v ≠ .defres := fun h => hx (congrArg Variable.int h)
      rw [value, convert_int _ hv, given_int d hv]
      exact getD_map OptionValue.int _ _ _
  | bool v => exact (Option.getD_map OptionValue.bool _ _).symm
  | flag v => exact getD_map OptionValue.bool _ _ _
  | time v => exact (Option.getD_map OptionValue.time _ _).symm

/-- `defres` is shifted, whether it has been read or not. -/
theorem value_defres (o : Options) (d : Dictionary) :
    (o.read d).convert.value (.int .defres) =
      (given d (.int .defres)).getD (.int (toFixed (o.int .defres))) := by
  rw [value, convert_defres, given]
  exact getD_map (fun n => OptionValue.int (toFixed n)) intOf _ _

/-- `defres` keeps its value where the dictionary does not have it if and only if it is zero. -/
theorem value_defres_iff (o : Options) (d : Dictionary) :
    (o.read d).convert.value (.int .defres) =
        (given d (.int .defres)).getD (o.value (.int .defres)) ↔
      HasResolution d ∨ o.int .defres = 0 := by
  rw [value_defres, given, HasResolution]
  cases number d IntVar.defres.name with
  | none => simp [value, toFixed_eq_self_iff]
  | some n => simp

/-- Reading the same dictionary twice does what reading it once does, for `defres` if it is in the
dictionary or zero. -/
theorem update_update (o : Options) (d : Dictionary)
    (h : HasResolution d ∨ o.int .defres = 0) :
    (((o.read d).convert).read d).convert = (o.read d).convert := by
  refine Options.ext (funext fun v => ?_) (funext fun v => getD_getD _ _)
    (funext fun v => getD_getD _ _) (funext fun v => getD_getD _ _)
  by_cases hv : v = .defres
  · subst hv
    have hread : ∀ o : Options, (o.read d).int .defres =
        ((number d IntVar.defres.name).map intOf).getD (o.int .defres) := fun o => rfl
    rw [convert_defres, hread, convert_defres, hread]
    rcases h with h | h
    · obtain ⟨n, hn⟩ := Option.isSome_iff_exists.mp h
      rw [hn, Option.map_some, Option.getD_some, Option.getD_some]
    · cases number d IntVar.defres.name with
      | none => simp only [Option.map_none, Option.getD_none, h, (toFixed_eq_self_iff 0).mpr rfl]
      | some n => rw [Option.map_some, Option.getD_some, Option.getD_some]
  · have hread : ∀ o : Options, (o.read d).int v =
        ((number d v.name).map intOf).getD (o.int v) := fun o => rfl
    rw [convert_int _ hv, hread, convert_int _ hv, hread]
    exact getD_getD _ _

end Options

namespace Configured

open Options

/-- An update that does not change the options further does nothing more. -/
theorem repeated_of_options (s : Configured) (d : Dictionary)
    (h : (((s.options.read d).convert).read d).convert = (s.options.read d).convert) :
    (s.setParamPropertiesGated d).setParamPropertiesGated d = s.setParamPropertiesGated d := by
  have ho : ((s.setParamPropertiesGated d).setParamPropertiesGated d).options =
      (s.setParamPropertiesGated d).options := by
    rw [options_setParamPropertiesGated, options_setParamPropertiesGated, h]
  have hi : ((s.setParamPropertiesGated d).setParamPropertiesGated d).ignoreall =
      (s.setParamPropertiesGated d).ignoreall := by
    rw [ignoreall_setParamPropertiesGated, ho, attached_setParamPropertiesGated]
    split
    · rename_i ha
      rw [ignoreall_setParamPropertiesGated s, if_pos ha]
    · rfl
  refine Configured.ext ho hi (ledpresent_setParamPropertiesGated _ _)
    (attached_setParamPropertiesGated _ _) ?_
  rw [sent_setParamPropertiesGated, hi, ho, attached_setParamPropertiesGated,
    ledpresent_setParamPropertiesGated]
  split
  · rename_i hled
    rw [sent_setParamPropertiesGated s, if_pos hled]
  · rfl

/-- **Updates are framed and can be repeated exactly if `DefaultResolution` is in the dictionary or
`defres` is zero.** -/
theorem updated_iff (s : Configured) (d : Dictionary) :
    Updated s (s.setParamPropertiesGated d) d ↔
      HasResolution d ∨ s.options.int .defres = 0 := by
  constructor
  · intro h
    have hdefres := h.values (.int .defres)
    rw [options_setParamPropertiesGated] at hdefres
    exact (value_defres_iff s.options d).mp hdefres
  · intro h
    refine ⟨fun x => ?_, s.ignoreall_setParamPropertiesGated d, s.sent_setParamPropertiesGated d,
      s.ledpresent_setParamPropertiesGated d, s.attached_setParamPropertiesGated d,
      s.repeated_of_options d (update_update s.options d h)⟩
    rw [options_setParamPropertiesGated]
    by_cases hx : x = .int .defres
    · rw [hx]
      exact (value_defres_iff s.options d).mpr h
    · exact value_update s.options d x hx

/-- A driver as it is initialised. -/
def initial : Configured := ⟨.init, false, false, [], none⟩

/-- A dictionary without any option clears `defres`, which was 150 dots per inch. -/
theorem emptyUpdate_clears :
    (initial.setParamPropertiesGated fun _ => none).options.int .defres = 0 ∧
      initial.options.int .defres = toFixed 150 ∧
      ¬ ∀ (s : Configured) (d : Dictionary), Updated s (s.setParamPropertiesGated d) d := by
  refine ⟨by decide +kernel, by decide +kernel, fun h => ?_⟩
  have hdefres := (h initial fun _ => none).values (.int .defres)
  rw [options_setParamPropertiesGated, value_defres_iff] at hdefres
  rcases hdefres with hd | hd
  · cases hd
  · exact absurd hd (by decide +kernel)

end Configured

end VoodooPS2.Mouse
