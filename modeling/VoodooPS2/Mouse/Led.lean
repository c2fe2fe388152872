import VoodooPS2.Lib.Transition
import VoodooPS2.Synaptics.Dispatch

/-! # The LED of a mouse that acts like a trackpad (`updateTouchpadLED`)

A Synaptics touchpad with an LED may be driven by `ApplePS2Mouse`.  The LED is to show whether the
device is disabled, and every operation that writes `ignoreall` has to send it anew.  The handler of
attached pointer devices does not: the one of the touchpad driver, of which it is a copy, does.

`LED.shown_iff`: along a run the LED shows the state just when no notice changes `ignoreall` after
the LED has first been sent. -/

namespace VoodooPS2.Mouse

open Synaptics (Dictionary HIDNotice)

/-- What `ignoreall` and the LED depend on, and the LED. -/
structure LED where
  ignoreall : Bool
  ledpresent : Bool
  noled : Bool
  actliketrackpad : Bool
  usbMouseStopsTrackpad : Bool
  /-- `attachedHIDPointerDevices` -/
  attached : List ℕ
  /-- what `setTouchpadLED` has sent last -/
  sent : Option UInt8
deriving DecidableEq, Repr

/-- The replies of the device to `getTouchPadData`, by data selector. -/
abbrev Replies := UInt8 → Option (UInt8 × UInt8 × UInt8)

/-- The complete operations that concern `ignoreall` or the LED. -/
inductive LEDOperation where
  /-- `kPS2M_setDisableTouchpad` -/
  | setDisableTouchpad (enable : Bool)
  | notification (device : ℕ) (notice : HIDNotice)
  | setParamProperties (d : Dictionary)
  /-- `setDevicePowerState(kPS2C_EnableDevice)` -/
  | wake (data : Replies)

/-- It is a Synaptics touchpad that can be asked for its LED, and has one. -/
def Replies.led (data : Replies) : Bool :=
  match data 0x0, data 0x2, data 0x9 with
  | some (_, t1, _), some (c0, _, _), some (l0, _, _) =>
      decide (t1 = 0x46 ∨ t1 = 0x47) && decide (c0 &&& 0x80 ≠ 0) &&
        decide ((c0 &&& 0x70) >>> 4 ≥ 1) && decide ((l0 >>> 6) &&& 1 ≠ 0)
  | _, _, _ => false

namespace LED

def created : LED := ⟨false, false, false, false, true, [], none⟩

/-- The value for the LED. -/
def value (ignoreall : Bool) : UInt8 := if ignoreall then 0x88 else 0x10

def setTouchpadLED (s : LED) (touchLED : UInt8) : LED := { s with sent := some touchLED }

def updateTouchpadLED (s : LED) : LED :=
  if s.ledpresent = true ∧ s.noled = false then s.setTouchpadLED (value s.ignoreall) else s

/-- `message`, for `kPS2M_setDisableTouchpad`. -/
def setDisableTouchpad (s : LED) (enable : Bool) : LED :=
  if enable = s.ignoreall then updateTouchpadLED { s with ignoreall := !enable } else s

/-- The attached devices after a notice. -/
def attachedAfter (s : LED) (device : ℕ) : HIDNotice → List ℕ
  | .usbPublish => s.attached.insert device
  | .usbTerminate => s.attached.erase device
  | .bluetoothPublish pointer => if pointer then s.attached.insert device else s.attached
  | .bluetoothTerminate => s.attached.erase device

/-- The handler of attached devices; it leaves the LED alone. -/
def notificationHIDAttachedHandlerGated (s : LED) (device : ℕ) (notice : HIDNotice) : LED :=
  let s := { s with attached := s.attachedAfter device notice }
  match notice with
  | .usbPublish | .bluetoothPublish _ =>
      if s.usbMouseStopsTrackpad = true ∧ s.attached.length > 0 then { s with ignoreall := true }
      else s
  | .usbTerminate | .bluetoothTerminate =>
      if s.usbMouseStopsTrackpad = true ∧ s.attached.length = 0 then { s with ignoreall := false }
      else s

/-- `*boolvars[i].var = bl->isTrue()`. -/
def readBool (d : Dictionary) (name : String) (old : Bool) : Bool :=
  match d name with
  | some (.boolean b) => b
  | _ => old

/-- `*lowbitvars[i].var = (num->unsigned32BitValue()&0x1)?true:false`. -/
def readLowBit (d : Dictionary) (name : String) (old : Bool) : Bool :=
  match d name with
  | some (.number n) => decide (n &&& 0x1 ≠ 0)
  | _ => old

def setParamPropertiesGated (s : LED) (d : Dictionary) : LED :=
  let s :=
    { s with
      actliketrackpad := readBool d "ActLikeTrackpad" s.actliketrackpad
      noled := readBool d "DisableLEDUpdating" s.noled
      usbMouseStopsTrackpad := readLowBit d "USBMouseStopsTrackpad" s.usbMouseStopsTrackpad }
  if s.attached.length > 0 then
    updateTouchpadLED { s with ignoreall := s.usbMouseStopsTrackpad }
  else s

/-- `resetMouse`: the LED is looked for again. -/
def resetMouse (s : LED) (data : Replies) : LED :=
  { s with ledpresent := s.actliketrackpad && !s.noled && data.led }

def handle (s : LED) : LEDOperation → LED
  | .setDisableTouchpad enable => s.setDisableTouchpad enable
  | .notification device notice => s.notificationHIDAttachedHandlerGated device notice
  | .setParamProperties d => s.setParamPropertiesGated d
  | .wake data => (s.resetMouse data).updateTouchpadLED

/-! ### The law -/

/-- There is an LED, and it may be updated. -/
def InUse (s : LED) : Prop := s.ledpresent = true ∧ s.noled = false

instance (s : LED) : Decidable s.InUse := inferInstanceAs (Decidable (_ ∧ _))

/-- The LED shows the state, once it has been sent. -/
def Shown (s : LED) : Prop := s.sent = none ∨ s.sent = some (value s.ignoreall)

instance (s : LED) : Decidable s.Shown := inferInstanceAs (Decidable (_ ∨ _))

/-- The notice changes `ignoreall`. -/
def Flips (s : LED) (device : ℕ) (notice : HIDNotice) : Prop :=
  s.usbMouseStopsTrackpad = true ∧
    match notice with
    | .usbPublish | .bluetoothPublish _ =>
        (s.attachedAfter device notice).length > 0 ∧ s.ignoreall = false
    | .usbTerminate | .bluetoothTerminate =>
        (s.attachedAfter device notice).length = 0 ∧ s.ignoreall = true

instance (s : LED) (device : ℕ) (notice : HIDNotice) : Decidable (s.Flips device notice) :=
  match notice with
  | .usbPublish => inferInstanceAs (Decidable (_ ∧ _ ∧ _))
  | .bluetoothPublish _ => inferInstanceAs (Decidable (_ ∧ _ ∧ _))
  | .usbTerminate => inferInstanceAs (Decidable (_ ∧ _ ∧ _))
  | .bluetoothTerminate => inferInstanceAs (Decidable (_ ∧ _ ∧ _))

/-- A notice does not change `ignoreall` once the LED has been sent. -/
def Quiet (s : LED) : LEDOperation → Prop
  | .notification device notice => s.sent = none ∨ ¬ s.Flips device notice
  | _ => True

instance (s : LED) (op : LEDOperation) : Decidable (s.Quiet op) :=
  match op with
  | .notification _ _ => inferInstanceAs (Decidable (_ ∨ _))
  | .setDisableTouchpad _ => inferInstanceAs (Decidable True)
  | .setParamProperties _ => inferInstanceAs (Decidable True)
  | .wake _ => inferInstanceAs (Decidable True)

theorem value_injective {a b : Bool} (h : value a = value b) : a = b := by
  revert a b
  decide

theorem written_iff (b i : Bool) : b = i ↔ ¬ (i = !b) := by
  revert b i
  decide

theorem shown_updateTouchpadLED {s : LED} (h : s.InUse) : s.updateTouchpadLED.Shown := by
  rw [updateTouchpadLED, if_pos (show s.ledpresent = true ∧ s.noled = false from h)]
  exact .inr rfl

theorem inUse_updateTouchpadLED (s : LED) : s.updateTouchpadLED.InUse ↔ s.InUse := by
  rw [updateTouchpadLED]
  split <;> exact Iff.rfl

/-- Where the LED shows the state and only `ignoreall` is written, it still does just when the LED
has not been sent yet or nothing changes. -/
theorem shown_write {s s' : LED} (h : s.Shown) (hsent : s'.sent = s.sent) :
    s'.Shown ↔ s.sent = none ∨ s'.ignoreall = s.ignoreall := by
  rw [Shown, hsent]
  rcases h with h | h
  · exact iff_of_true (.inl h) (.inl h)
  · rw [h]
    refine or_congr_right ⟨fun hv => (value_injective (Option.some.inj hv)).symm, fun hi => ?_⟩
    rw [hi]

theorem ignoreall_notification (s : LED) (device : ℕ) (notice : HIDNotice) :
    (s.notificationHIDAttachedHandlerGated device notice).ignoreall = s.ignoreall ↔
      ¬ s.Flips device notice := by
  have hset (c : Prop) [Decidable c] (l : List ℕ) (b : Bool) :
      (if c then { s with attached := l, ignoreall := b } else { s with attached := l }).ignoreall =
          s.ignoreall ↔ ¬ (c ∧ s.ignoreall = !b) := by
    split
    · rename_i hc
      rw [not_and_or, or_iff_right (not_not_intro hc)]
      exact written_iff b s.ignoreall
    · rename_i hc
      exact iff_of_true rfl fun h => hc h.1
  cases notice with
  | usbPublish => exact (hset _ _ true).trans (not_congr and_assoc)
  | usbTerminate => exact (hset _ _ false).trans (not_congr and_assoc)
  | bluetoothPublish pointer => exact (hset _ _ true).trans (not_congr and_assoc)
  | bluetoothTerminate => exact (hset _ _ false).trans (not_congr and_assoc)

theorem sent_notification (s : LED) (device : ℕ) (notice : HIDNotice) :
    (s.notificationHIDAttachedHandlerGated device notice).sent = s.sent := by
  have hset (c : Prop) [Decidable c] (l : List ℕ) (b : Bool) :
      (if c then { s with attached := l, ignoreall := b } else { s with attached := l }).sent =
        s.sent := by
    split <;> rfl
  cases notice <;> exact hset _ _ _

/-- Every operation but a notice sends the LED along with `ignoreall`. -/
theorem shown_handle {s : LED} (h : s.Shown) (op : LEDOperation) (huse : (s.handle op).InUse) :
    (s.handle op).Shown ↔ s.Quiet op := by
  cases op with
  | setDisableTouchpad enable =>
      refine iff_of_true ?_ trivial
      change (if enable = s.ignoreall then _ else _ : LED).InUse at huse
      change (if enable = s.ignoreall then _ else _ : LED).Shown
      split at huse
      · rename_i hc
        rw [if_pos hc]
        exact shown_updateTouchpadLED ((inUse_updateTouchpadLED _).mp huse)
      · rename_i hc
        rw [if_neg hc]
        exact h
  | notification device notice =>
      refine (shown_write h (s.sent_notification device notice)).trans (or_congr_right ?_)
      exact s.ignoreall_notification device notice
  | setParamProperties d =>
      refine iff_of_true ?_ trivial
      change (if s.attached.length > 0 then _ else _ : LED).InUse at huse
      change (if s.attached.length > 0 then _ else _ : LED).Shown
      split at huse
      · rename_i hc
        rw [if_pos hc]
        exact shown_updateTouchpadLED ((inUse_updateTouchpadLED _).mp huse)
      · rename_i hc
        rw [if_neg hc]
        exact h
  | wake data =>
      exact iff_of_true (shown_updateTouchpadLED ((inUse_updateTouchpadLED _).mp huse)) trivial

/-! ### Runs -/

/-- Operations that leave an LED in use. -/
def stepInUse (s : LED) (op : LEDOperation) : Option LED :=
  if (s.handle op).InUse then some (s.handle op) else none

/-- After the operation the LED shows the state, once it has been sent. -/
def ShownAfter (s : LED) (op : LEDOperation) : Prop := (s.handle op).Shown

instance (s : LED) (op : LEDOperation) : Decidable (s.ShownAfter op) :=
  inferInstanceAs (Decidable (Shown _))

/-- **The LED shows the state** throughout a run just when no notice changes `ignoreall` after the
LED has first been sent. -/
theorem shown_iff (s : LED) (hsent : s.sent = none) (ops : List LEDOperation) (s' : LED)
    (hr : Transition.run stepInUse s ops = some s') :
    Transition.Guarded stepInUse ShownAfter s ops ↔ Transition.Guarded stepInUse Quiet s ops := by
  refine Transition.guarded_iff (I := Shown) ?_ ?_ ops (.inl hsent) hr
  · rintro s op s' h hg hs
    obtain ⟨huse, hs⟩ := Option.ite_none_right_eq_some.mp hs
    cases hs
    exact hg
  · rintro s op s' h hs
    exact shown_handle h op (Option.ite_none_right_eq_some.mp hs).1

/-- A touchpad with an LED, driven with `ActLikeTrackpad`, that has just been started. -/
def started : LED :=
  resetMouse { created with actliketrackpad := true } fun _ => some (0xD0, 0x47, 0x00)

/-- The keyboard disables the touchpad and enables it again. -/
def keyboardToggles : List LEDOperation := [.setDisableTouchpad false, .setDisableTouchpad true]

theorem shown_iff_keyboard :
    Transition.Guarded stepInUse ShownAfter started keyboardToggles :=
  (shown_iff started rfl keyboardToggles (keyboardToggles.foldl handle started)
    (by decide +kernel)).mpr (by decide +kernel)

/-- A USB mouse is attached after the wake. -/
def mouseAttached : List LEDOperation :=
  [.wake fun _ => some (0xD0, 0x47, 0x00), .notification 1 .usbPublish]

theorem led_left_on :
    (Transition.run stepInUse started mouseAttached).isSome = true ∧
      ¬ Transition.Guarded stepInUse ShownAfter started mouseAttached := by
  decide +kernel

end LED

end VoodooPS2.Mouse
