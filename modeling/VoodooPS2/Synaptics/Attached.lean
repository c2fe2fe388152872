import VoodooPS2.Synaptics.Events

/-! # The trackpad and the attached pointer devices

`registerHIDPointerNotifications` and the handler that tells the notices apart by comparing their
notifier with four members.  The members are assigned when the registrations return, but the
devices that are already there are announced before that: `register_spec` says that all of these
announcements are lost.  Afterwards `handler_notifier` reduces the handler to the notices of
`Pad.notificationHIDAttachedHandlerGated`, and `Tracks` says what the driver knows: the devices
that have been announced since.  `stopsTrackpad_iff` is the exact law for `ignoreall`. -/

namespace VoodooPS2.Synaptics

/-- A service that matches one of the two dictionaries; `classOfDevice` is the property of a
Bluetooth device, if it is a number. -/
inductive HIDService where
  | usbMouse
  | bluetooth (classOfDevice : Option UInt32)
deriving DecidableEq, Repr

/-- The constants `kBluetoothDeviceClassMajorPeripheral`, `kBluetoothDeviceClassMinorPeripheral1…`
and `kBluetoothDeviceClassMinorPeripheral2…`. -/
structure BluetoothClasses where
  majorPeripheral : UInt32
  pointing : UInt32
  combo : UInt32
  unclassified : UInt32
  digitizerTablet : UInt32
  digitalPen : UInt32

/-- Filter on specific CoD (Class of Device) bluetooth devices only. -/
def BluetoothClasses.isPointer (b : BluetoothClasses) (classOfDevice : UInt32) : Bool :=
  let deviceClassMajor := (classOfDevice &&& 0x1F00) >>> 8
  let deviceClassMinor := (classOfDevice &&& 0xFF) >>> 2
  let deviceClassMinor1 := deviceClassMinor &&& 0x30
  let deviceClassMinor2 := deviceClassMinor &&& 0x0F
  deviceClassMajor = b.majorPeripheral ∧
    (deviceClassMinor1 = b.pointing ∨ deviceClassMinor1 = b.combo) ∧
    (deviceClassMinor2 = b.unclassified ∨ deviceClassMinor2 = b.digitizerTablet ∨
      deviceClassMinor2 = b.digitalPen)

/-- The members `usb_hid_publish_notify` and so on. -/
inductive NotifyVar where
  | usbHidPublish | usbHidTerminate | bluetoothHidPublish | bluetoothHidTerminate
deriving DecidableEq, Repr

/-- What the members hold; `none` is `NULL`. -/
abbrev Notifiers := NotifyVar → Option ℕ

/-- The devices that there are, and the notifiers that the four registrations return. -/
structure IOKit where
  classes : BluetoothClasses
  service : ℕ → HIDService
  notifier : NotifyVar → ℕ
  distinct : Function.Injective notifier

namespace IOKit

/-- The device is a mouse, or a Bluetooth device that passes the filter. -/
def isPointer (k : IOKit) (device : ℕ) : Bool :=
  match k.service device with
  | .usbMouse => true
  | .bluetooth none => false
  | .bluetooth (some classOfDevice) => k.classes.isPointer classOfDevice

def isUsb (k : IOKit) (device : ℕ) : Bool :=
  match k.service device with
  | .usbMouse => true
  | .bluetooth _ => false

/-- The registration that announces the device. -/
def publisher (k : IOKit) (device : ℕ) : NotifyVar :=
  if k.isUsb device then .usbHidPublish else .bluetoothHidPublish

/-- The registration that reports that the device is gone. -/
def terminator (k : IOKit) (device : ℕ) : NotifyVar :=
  if k.isUsb device then .usbHidTerminate else .bluetoothHidTerminate

/-- What a call with the notifier of a registration is about. -/
def notice (k : IOKit) (device : ℕ) : NotifyVar → HIDNotice
  | .usbHidPublish => .usbPublish
  | .usbHidTerminate => .usbTerminate
  | .bluetoothHidPublish => .bluetoothPublish (k.isPointer device)
  | .bluetoothHidTerminate => .bluetoothTerminate

end IOKit

/-! ### The handler and the registrations -/

/-- The driver with its members. -/
structure Following where
  pad : Pad
  members : Notifiers

namespace Following

variable (k : IOKit)

/-- The set of attached devices after the four comparisons. -/
def attachedHIDPointerDevices (r : Following) (newService notifier : ℕ) : List ℕ :=
  let l := r.pad.attached
  let l := if some notifier = r.members .usbHidPublish then l.insert newService else l
  let l := if some notifier = r.members .usbHidTerminate then l.erase newService else l
  let l :=
    if some notifier = r.members .bluetoothHidPublish then
      if k.isPointer newService then l.insert newService else l
    else l
  if some notifier = r.members .bluetoothHidTerminate then l.erase newService else l

/-- `notificationHIDAttachedHandlerGated`, as it compares the notifier with the members. -/
def notificationHIDAttachedHandler (r : Following) (newService notifier : ℕ) : Pad :=
  let s := { r.pad with attached := r.attachedHIDPointerDevices k newService notifier }
  let s :=
    if some notifier = r.members .usbHidPublish ∨
        some notifier = r.members .bluetoothHidPublish then
      if s.cfg.flag .usbMouseStopsTrackpad = true ∧ s.attached.length > 0 then
        Pad.updateTouchpadLED { s with ignoreall := true }
      else s
    else s
  if some notifier = r.members .usbHidTerminate ∨
      some notifier = r.members .bluetoothHidTerminate then
    if s.cfg.flag .usbMouseStopsTrackpad = true ∧ s.attached.length = 0 then
      Pad.updateTouchpadLED { s with ignoreall := false }
    else s
  else s

/-- `addMatchingNotification`: the handler is called for the services that are already there, then
the notifier is returned and assigned. -/
def addMatchingNotification (v : NotifyVar) (services : List ℕ) (r : Following) : Following where
  pad :=
    services.foldl
      (fun s d => notificationHIDAttachedHandler k { r with pad := s } d (k.notifier v)) r.pad
  members := Function.update r.members v (some (k.notifier v))

/-- `registerHIDPointerNotifications`; none of the services that are there has terminated. -/
def registerHIDPointerNotifications (processusbmouse processbluetoothmouse : Bool)
    (present : List ℕ) (r : Following) : Following :=
  let r :=
    if processusbmouse then
      (r.addMatchingNotification k .usbHidPublish (present.filter k.isUsb)).addMatchingNotification
        k .usbHidTerminate []
    else r
  if processbluetoothmouse then
    (r.addMatchingNotification k .bluetoothHidPublish
      (present.filter (fun d => !k.isUsb d))).addMatchingNotification k .bluetoothHidTerminate []
  else r

/-- The handler is called if there is a registration. -/
def deliver (r : Following) (v : NotifyVar) (device : ℕ) : Pad :=
  match r.members v with
  | none => r.pad
  | some notifier => r.notificationHIDAttachedHandler k device notifier

end Following

inductive HIDEvent where
  | publish (device : ℕ)
  | terminate (device : ℕ)
  | setParamProperties (d : Dictionary)

namespace Following

variable (k : IOKit)

def step (r : Following) : HIDEvent → Following
  | .publish device => { r with pad := r.deliver k (k.publisher device) device }
  | .terminate device => { r with pad := r.deliver k (k.terminator device) device }
  | .setParamProperties d => { r with pad := r.pad.setParamPropertiesGated d }

def run (r : Following) (es : List HIDEvent) : Following := es.foldl (step k) r

/-- The driver is started while the devices of the list are present. -/
def start (processusbmouse processbluetoothmouse : Bool) (present : List ℕ) (cfg : Config)
    (caps : Capabilities) : Following :=
  registerHIDPointerNotifications k processusbmouse processbluetoothmouse present
    ⟨.initial cfg caps, fun _ => none⟩

end Following

/-! ### What there is to know -/

namespace HIDEvent

/-- The devices after an event, if only some count. -/
def devicesAfter (counts : ℕ → Bool) (ds : Finset ℕ) : HIDEvent → Finset ℕ
  | publish device => if counts device then insert device ds else ds
  | terminate device => ds.erase device
  | setParamProperties _ => ds

/-- The configuration after an event. -/
def configAfter (c : Config) : HIDEvent → Config
  | publish _ => c
  | terminate _ => c
  | setParamProperties d => c.read d

end HIDEvent

namespace IOKit

/-- The driver has registered for devices of this kind. -/
def follows (k : IOKit) (processusbmouse processbluetoothmouse : Bool) (device : ℕ) : Bool :=
  if k.isUsb device then processusbmouse else processbluetoothmouse

/-- The handler learns of the device when it is published. -/
def announces (k : IOKit) (processusbmouse processbluetoothmouse : Bool) (device : ℕ) : Bool :=
  k.isPointer device && k.follows processusbmouse processbluetoothmouse device

/-- The pointer devices that are attached, of those present at first and after some events. -/
def attachedPointers (k : IOKit) (present : List ℕ) (es : List HIDEvent) : Finset ℕ :=
  es.foldl (HIDEvent.devicesAfter k.isPointer) (present.filter k.isPointer).toFinset

/-- The pointer devices that have been announced since the driver registered for them, and are
attached. -/
def announced (k : IOKit) (processusbmouse processbluetoothmouse : Bool) (es : List HIDEvent) :
    Finset ℕ :=
  es.foldl (HIDEvent.devicesAfter (k.announces processusbmouse processbluetoothmouse)) ∅

/-- The members after the registrations. -/
def assigned (k : IOKit) (processusbmouse processbluetoothmouse : Bool) : Notifiers
  | .usbHidPublish => if processusbmouse then some (k.notifier .usbHidPublish) else none
  | .usbHidTerminate => if processusbmouse then some (k.notifier .usbHidTerminate) else none
  | .bluetoothHidPublish =>
      if processbluetoothmouse then some (k.notifier .bluetoothHidPublish) else none
  | .bluetoothHidTerminate =>
      if processbluetoothmouse then some (k.notifier .bluetoothHidTerminate) else none

end IOKit

namespace Following

variable {k : IOKit}

/-- A notifier that no member holds is of no consequence. -/
theorem handler_of_ne {r : Following} {notifier : ℕ} (h : ∀ v, some notifier ≠ r.members v)
    (device : ℕ) : r.notificationHIDAttachedHandler k device notifier = r.pad := by
  have hattached : r.attachedHIDPointerDevices k device notifier = r.pad.attached := by
    simp only [attachedHIDPointerDevices, h, if_false]
  simp only [notificationHIDAttachedHandler, hattached, h, or_false, if_false]

/-- Each member that has been assigned holds the notifier of its registration. -/
def Owned (k : IOKit) (n : Notifiers) : Prop := ∀ v w, n v = some w → w = k.notifier v

theorem owned_none : Owned k (fun _ => none) := fun _ _ h => absurd h (Option.some_ne_none _).symm

theorem Owned.update {n : Notifiers} (h : Owned k n) (v : NotifyVar) :
    Owned k (Function.update n v (some (k.notifier v))) := by
  intro u w hu
  by_cases huv : u = v
  · subst huv
    rw [Function.update_self] at hu
    exact (Option.some.inj hu).symm
  · rw [Function.update_of_ne huv] at hu
    exact h u w hu

theorem owned_assigned (usb bluetooth : Bool) : Owned k (k.assigned usb bluetooth) := by
  intro v w h
  cases v <;> exact (Option.ite_none_right_eq_some.mp h).2 |> Option.some.inj |> Eq.symm

/-- The handler takes the notifier in a member for the notice of that registration. -/
theorem handler_notifier {r : Following} (h : Owned k r.members) {v : NotifyVar}
    (hv : r.members v = some (k.notifier v)) (device : ℕ) :
    r.notificationHIDAttachedHandler k device (k.notifier v) =
      r.pad.notificationHIDAttachedHandlerGated device (k.notice device v) := by
  have hother {u : NotifyVar} (hu : v ≠ u) : some (k.notifier v) ≠ r.members u :=
    fun heq => hu (k.distinct (h u _ heq.symm))
  cases v with
  | usbHidPublish =>
      simp only [notificationHIDAttachedHandler, attachedHIDPointerDevices, hv,
        hother (u := .usbHidTerminate) (by decide), hother (u := .bluetoothHidPublish) (by decide),
        hother (u := .bluetoothHidTerminate) (by decide), if_true, if_false, true_or, or_self]
      rfl
  | usbHidTerminate =>
      simp only [notificationHIDAttachedHandler, attachedHIDPointerDevices, hv,
        hother (u := .usbHidPublish) (by decide), hother (u := .bluetoothHidPublish) (by decide),
        hother (u := .bluetoothHidTerminate) (by decide), if_true, if_false, true_or, or_self]
      rfl
  | bluetoothHidPublish =>
      simp only [notificationHIDAttachedHandler, attachedHIDPointerDevices, hv,
        hother (u := .usbHidPublish) (by decide), hother (u := .usbHidTerminate) (by decide),
        hother (u := .bluetoothHidTerminate) (by decide), if_true, if_false, or_true, or_self]
      rfl
  | bluetoothHidTerminate =>
      simp only [notificationHIDAttachedHandler, attachedHIDPointerDevices, hv,
        hother (u := .usbHidPublish) (by decide), hother (u := .usbHidTerminate) (by decide),
        hother (u := .bluetoothHidPublish) (by decide), if_true, if_false, or_true, or_self]
      rfl

/-- The services that are there are announced with a notifier that no member holds yet. -/
theorem addMatchingNotification_spec {r : Following} (h : Owned k r.members) {v : NotifyVar}
    (hv : r.members v = none) (services : List ℕ) :
    r.addMatchingNotification k v services =
      ⟨r.pad, Function.update r.members v (some (k.notifier v))⟩ := by
  have hne (u : NotifyVar) : some (k.notifier v) ≠ r.members u := by
    intro hu
    obtain rfl : v = u := k.distinct (h u _ hu.symm)
    exact Option.some_ne_none _ (hu.trans hv)
  have hlost : services.foldl
      (fun s d => notificationHIDAttachedHandler k { r with pad := s } d (k.notifier v)) r.pad =
        r.pad := by
    induction services with
    | nil => rfl
    | cons d ds ih =>
        rw [List.foldl_cons, handler_of_ne hne]
        exact ih
  rw [addMatchingNotification, hlost]

/-- Both registrations for a kind of device. -/
theorem addBoth_spec {r : Following} (h : Owned k r.members) {v w : NotifyVar} (hvw : w ≠ v)
    (hv : r.members v = none) (hw : r.members w = none) (services : List ℕ) :
    (r.addMatchingNotification k v services).addMatchingNotification k w [] =
      ⟨r.pad, Function.update (Function.update r.members v (some (k.notifier v))) w
        (some (k.notifier w))⟩ := by
  rw [addMatchingNotification_spec h hv services]
  exact addMatchingNotification_spec (h.update v) ((Function.update_of_ne hvw _ _).trans hw) []

/-- Nothing becomes known of the devices that are present. -/
theorem register_spec (usb bluetooth : Bool) (present : List ℕ) (s : Pad) :
    registerHIDPointerNotifications k usb bluetooth present ⟨s, fun _ => none⟩ =
      ⟨s, k.assigned usb bluetooth⟩ := by
  have husb := addBoth_spec (k := k) (r := ⟨s, fun _ => none⟩) owned_none
    (v := .usbHidPublish) (w := .usbHidTerminate) (by decide) rfl rfl (present.filter k.isUsb)
  have hmembers (n : Notifiers) (h : n = k.assigned usb bluetooth) :
      (⟨s, n⟩ : Following) = ⟨s, k.assigned usb bluetooth⟩ := by rw [h]
  cases usb with
  | false =>
      cases bluetooth with
      | false =>
          refine hmembers _ (funext fun v => ?_)
          cases v <;> rfl
      | true =>
          refine (addBoth_spec owned_none (by decide) rfl rfl _).trans (hmembers _ (funext ?_))
          intro v
          cases v <;> rfl
  | true =>
      have howned : Owned k (Function.update (Function.update (fun _ => none) .usbHidPublish
          (some (k.notifier .usbHidPublish))) .usbHidTerminate
          (some (k.notifier .usbHidTerminate))) := (owned_none.update _).update _
      simp only [registerHIDPointerNotifications, husb, if_true]
      cases bluetooth with
      | false =>
          refine hmembers _ (funext fun v => ?_)
          cases v <;> rfl
      | true =>
          refine (addBoth_spec howned (by decide) rfl rfl _).trans (hmembers _ (funext ?_))
          intro v
          cases v <;> rfl

end Following

/-! ### The flag and the set -/

namespace Pad

/-- The trackpad is disabled just when the option is on and a device is in the set. -/
def Agrees (s : Pad) : Prop :=
  s.ignoreall = true ↔ s.cfg.flag .usbMouseStopsTrackpad = true ∧ s.attached ≠ []

theorem attached_setIgnoreall (s : Pad) (b : Bool) :
    (updateTouchpadLED { s with ignoreall := b }).attached = s.attached := by
  rw [updateTouchpadLED]
  split <;> rfl

theorem attached_notification (s : Pad) (device : ℕ) (notice : HIDNotice) :
    (s.notificationHIDAttachedHandlerGated device notice).attached =
      s.attachedAfter device notice := by
  have hset (c : Prop) [Decidable c] (b : Bool) :
      Pad.attached (if c then updateTouchpadLED
        { s with attached := s.attachedAfter device notice, ignoreall := b }
        else { s with attached := s.attachedAfter device notice }) =
          s.attachedAfter device notice := by
    split
    · exact attached_setIgnoreall { s with attached := s.attachedAfter device notice } b
    · rfl
  cases notice with
  | usbPublish => exact hset _ true
  | usbTerminate => exact hset _ false
  | bluetoothPublish pointer => exact hset _ true
  | bluetoothTerminate => exact hset _ false

theorem agrees_setIgnoreall (s : Pad) (b : Bool) :
    (updateTouchpadLED { s with ignoreall := b }).Agrees ↔
      (b = true ↔ s.cfg.flag .usbMouseStopsTrackpad = true ∧ s.attached ≠ []) := by
  obtain ⟨hsame, hset⟩ := s.setIgnoreall_spec b
  rw [Agrees, hset, hsame.cfg, attached_setIgnoreall]

/-- A device that is published does not empty the set. -/
theorem agrees_publish {s : Pad} (h : s.Agrees) {l : List ℕ} (hl : l = [] → s.attached = []) :
    Agrees (if s.cfg.flag .usbMouseStopsTrackpad = true ∧ l.length > 0 then
      updateTouchpadLED { s with attached := l, ignoreall := true }
      else { s with attached := l }) := by
  split
  · rename_i hc
    refine (agrees_setIgnoreall { s with attached := l } true).mpr ?_
    exact iff_of_true rfl ⟨hc.1, List.ne_nil_of_length_pos hc.2⟩
  · rename_i hc
    refine (h.trans (and_congr_right fun hflag => ?_))
    have hnil : l = [] :=
      List.length_eq_zero_iff.mp (Nat.eq_zero_of_not_pos fun hp => hc ⟨hflag, hp⟩)
    exact iff_of_false (not_not_intro (hl hnil)) (not_not_intro hnil)

/-- A device that is terminated does not fill the set. -/
theorem agrees_terminate {s : Pad} (h : s.Agrees) {l : List ℕ} (hl : s.attached = [] → l = []) :
    Agrees (if s.cfg.flag .usbMouseStopsTrackpad = true ∧ l.length = 0 then
      updateTouchpadLED { s with attached := l, ignoreall := false }
      else { s with attached := l }) := by
  split
  · rename_i hc
    refine (agrees_setIgnoreall { s with attached := l } false).mpr ?_
    exact iff_of_false Bool.false_ne_true fun hn => hn.2 (List.length_eq_zero_iff.mp hc.2)
  · rename_i hc
    refine (h.trans (and_congr_right fun hflag => ?_))
    have hne : l ≠ [] := fun hnil => hc ⟨hflag, List.length_eq_zero_iff.mpr hnil⟩
    exact iff_of_true (fun hnil => hne (hl hnil)) hne

theorem agrees_notification {s : Pad} (h : s.Agrees) (device : ℕ) (notice : HIDNotice) :
    (s.notificationHIDAttachedHandlerGated device notice).Agrees := by
  have hinsert : s.attached.insert device = [] → s.attached = [] :=
    fun hnil => absurd (hnil ▸ List.mem_insert_self) List.not_mem_nil
  have herase : s.attached = [] → s.attached.erase device = [] := fun hnil => by rw [hnil]; rfl
  cases notice with
  | usbPublish => exact agrees_publish h hinsert
  | usbTerminate => exact agrees_terminate h herase
  | bluetoothPublish pointer =>
      cases pointer with
      | false => exact agrees_publish h id
      | true => exact agrees_publish h hinsert
  | bluetoothTerminate => exact agrees_terminate h herase

theorem attached_setTouchpadModeByte (s : Pad) : s.setTouchpadModeByte.attached = s.attached := by
  rw [setTouchpadModeByte]
  split <;> rfl

theorem ignoreall_setTouchpadModeByte (s : Pad) :
    s.setTouchpadModeByte.ignoreall = s.ignoreall := by
  rw [setTouchpadModeByte]
  split <;> rfl

/-- New properties leave the set alone, and the flag follows if there is a device in it. -/
theorem agrees_setParamPropertiesGated {s : Pad} (h : s.Agrees) (d : Dictionary) :
    (s.setParamPropertiesGated d).attached = s.attached ∧
      (s.setParamPropertiesGated d).Agrees := by
  let read : Pad :=
    { s with cfg := s.cfg.read d, touchPadModeByte := s.modeByteAfter (s.cfg.read d) d }
  let sent : Pad :=
    if read.touchPadModeByte ≠ s.touchPadModeByte then read.setTouchpadModeByte else read
  have hattached : sent.attached = s.attached := by
    dsimp only [sent]
    split
    · exact attached_setTouchpadModeByte read
    · rfl
  have hignoreall : sent.ignoreall = s.ignoreall := by
    dsimp only [sent]
    split
    · exact ignoreall_setTouchpadModeByte read
    · rfl
  let quiet : Pad := { sent with touchmode := .notouch }
  have hspec : s.setParamPropertiesGated d =
      if quiet.attached.length > 0 then
        updateTouchpadLED { quiet with ignoreall := quiet.cfg.flag .usbMouseStopsTrackpad }
      else quiet := rfl
  rw [hspec]
  split
  · rename_i hpos
    refine ⟨(attached_setIgnoreall quiet _).trans hattached, ?_⟩
    refine (agrees_setIgnoreall quiet (quiet.cfg.flag .usbMouseStopsTrackpad)).mpr ?_
    exact (and_iff_left (List.ne_nil_of_length_pos hpos)).symm
  · rename_i hpos
    have hnil : quiet.attached = [] := List.length_eq_zero_iff.mp (Nat.eq_zero_of_not_pos hpos)
    refine ⟨hattached, iff_of_false (fun hi => ?_) (fun hn => hn.2 hnil)⟩
    exact (h.mp (hignoreall.symm.trans hi)).2 (hattached.symm.trans hnil)

end Pad

/-! ### What the driver knows -/

namespace Following

/-- The set holds the devices `ds` that have been announced, and the flag agrees. -/
structure Tracks (k : IOKit) (usb bluetooth : Bool) (ds : Finset ℕ) (r : Following) : Prop where
  members : r.members = k.assigned usb bluetooth
  nodup : r.pad.attached.Nodup
  mem : ∀ d, d ∈ r.pad.attached ↔ d ∈ ds
  follows : ∀ d ∈ ds, k.follows usb bluetooth d = true
  agrees : r.pad.Agrees

variable {k : IOKit} {usb bluetooth : Bool} {ds : Finset ℕ} {r : Following}

/-- The handler is called with the notice, if the driver follows devices of this kind. -/
theorem deliver_spec (h : r.members = k.assigned usb bluetooth) {v : NotifyVar} {device : ℕ}
    (hv : k.assigned usb bluetooth v =
      if k.follows usb bluetooth device = true then some (k.notifier v) else none) :
    r.deliver k v device =
      if k.follows usb bluetooth device = true then
        r.pad.notificationHIDAttachedHandlerGated device (k.notice device v)
      else r.pad := by
  have howned : Owned k r.members := h ▸ owned_assigned usb bluetooth
  rw [← h] at hv
  by_cases hf : k.follows usb bluetooth device = true
  · rw [if_pos hf] at hv ⊢
    rw [deliver, hv]
    exact handler_notifier howned hv device
  · rw [if_neg hf] at hv ⊢
    rw [deliver, hv]

theorem assigned_publisher (device : ℕ) : k.assigned usb bluetooth (k.publisher device) =
    if k.follows usb bluetooth device = true then some (k.notifier (k.publisher device))
    else none := by
  rw [IOKit.publisher, IOKit.follows]
  cases k.isUsb device <;> rfl

theorem assigned_terminator (device : ℕ) : k.assigned usb bluetooth (k.terminator device) =
    if k.follows usb bluetooth device = true then some (k.notifier (k.terminator device))
    else none := by
  rw [IOKit.terminator, IOKit.follows]
  cases k.isUsb device <;> rfl

/-- A device is added to the set when it is published, if it is a pointer. -/
theorem attachedAfter_publisher (s : Pad) (device : ℕ) :
    s.attachedAfter device (k.notice device (k.publisher device)) =
      if k.isPointer device = true then s.attached.insert device else s.attached := by
  have husb : k.isUsb device = true → k.isPointer device = true := by
    rw [IOKit.isUsb, IOKit.isPointer]
    cases k.service device with
    | usbMouse => exact id
    | bluetooth classOfDevice => exact fun h => absurd h Bool.false_ne_true
  rw [IOKit.publisher]
  cases hu : k.isUsb device with
  | true =>
      rw [husb hu]
      rfl
  | false => rfl

/-- It is removed when it is terminated, whatever it is. -/
theorem attachedAfter_terminator (s : Pad) (device : ℕ) :
    s.attachedAfter device (k.notice device (k.terminator device)) = s.attached.erase device := by
  rw [IOKit.terminator]
  cases k.isUsb device <;> rfl

/-- After a notice the handler knows the devices `ds'`. -/
theorem Tracks.notification (h : Tracks k usb bluetooth ds r) {device : ℕ} {notice : HIDNotice}
    {ds' : Finset ℕ} (hnodup : (r.pad.attachedAfter device notice).Nodup)
    (hmem : ∀ d, d ∈ r.pad.attachedAfter device notice ↔ d ∈ ds')
    (hfollows : ∀ d ∈ ds', k.follows usb bluetooth d = true) :
    Tracks k usb bluetooth ds'
      { r with pad := r.pad.notificationHIDAttachedHandlerGated device notice } where
  members := h.members
  nodup := (r.pad.attached_notification device notice).symm ▸ hnodup
  mem := fun d => by
    rw [r.pad.attached_notification device notice]
    exact hmem d
  follows := hfollows
  agrees := Pad.agrees_notification h.agrees device notice

theorem Tracks.publish (h : Tracks k usb bluetooth ds r) (device : ℕ) :
    Tracks k usb bluetooth (HIDEvent.devicesAfter (k.announces usb bluetooth) ds (.publish device))
      (r.step k (.publish device)) := by
  rw [step, deliver_spec h.members (assigned_publisher device), HIDEvent.devicesAfter,
    IOKit.announces]
  by_cases hf : k.follows usb bluetooth device = true
  · have hafter := attachedAfter_publisher (k := k) r.pad device
    rw [if_pos hf, hf, Bool.and_true]
    by_cases hp : k.isPointer device = true
    · rw [if_pos hp] at hafter ⊢
      refine h.notification ?_ ?_ ?_
      · rw [hafter]
        exact h.nodup.insert
      · intro d
        rw [hafter, List.mem_insert_iff, Finset.mem_insert, h.mem]
      · intro d hd
        rcases Finset.mem_insert.mp hd with rfl | hd
        · exact hf
        · exact h.follows d hd
    · rw [if_neg hp] at hafter ⊢
      exact h.notification (hafter.symm ▸ h.nodup) (hafter.symm ▸ h.mem) h.follows
  · rw [if_neg hf, Bool.eq_false_of_not_eq_true hf, Bool.and_false]
    exact h

theorem Tracks.terminate (h : Tracks k usb bluetooth ds r) (device : ℕ) :
    Tracks k usb bluetooth (ds.erase device) (r.step k (.terminate device)) := by
  rw [step, deliver_spec h.members (assigned_terminator device)]
  by_cases hf : k.follows usb bluetooth device = true
  · rw [if_pos hf]
    have hafter := attachedAfter_terminator (k := k) r.pad device
    refine h.notification ?_ ?_ ?_
    · rw [hafter]
      exact h.nodup.erase device
    · intro d
      rw [hafter, h.nodup.mem_erase_iff, Finset.mem_erase, h.mem]
    · exact fun d hd => h.follows d (Finset.mem_of_mem_erase hd)
  · have hout : device ∉ ds := fun hd => hf (h.follows device hd)
    rw [if_neg hf, Finset.erase_eq_of_notMem hout]
    exact h

/-- Every event keeps the driver's knowledge of what has been announced. -/
theorem Tracks.step (h : Tracks k usb bluetooth ds r) (e : HIDEvent) :
    Tracks k usb bluetooth (e.devicesAfter (k.announces usb bluetooth) ds) (r.step k e) := by
  cases e with
  | publish device => exact h.publish device
  | terminate device => exact h.terminate device
  | setParamProperties d =>
      obtain ⟨hattached, hagrees⟩ := Pad.agrees_setParamPropertiesGated h.agrees d
      exact
        { members := h.members
          nodup := hattached.symm ▸ h.nodup
          mem := fun x => (iff_of_eq (congrArg (x ∈ ·) hattached)).trans (h.mem x)
          follows := h.follows
          agrees := hagrees }

theorem Tracks.run (h : Tracks k usb bluetooth ds r) (es : List HIDEvent) :
    Tracks k usb bluetooth (es.foldl (HIDEvent.devicesAfter (k.announces usb bluetooth)) ds)
      (r.run k es) := by
  induction es generalizing ds r with
  | nil => exact h
  | cons e es ih => exact ih (h.step e)

theorem tracks_start (present : List ℕ) (cfg : Config) (caps : Capabilities) :
    Tracks k usb bluetooth ∅ (start k usb bluetooth present cfg caps) := by
  rw [start, register_spec]
  exact
    { members := rfl
      nodup := List.nodup_nil
      mem := fun d => iff_of_false List.not_mem_nil (Finset.notMem_empty d)
      follows := fun d hd => absurd hd (Finset.notMem_empty d)
      agrees := iff_of_false Bool.false_ne_true fun h => h.2 rfl }

/-- Only new properties change the configuration. -/
theorem cfg_step (h : r.members = k.assigned usb bluetooth) (e : HIDEvent) :
    (r.step k e).pad.cfg = e.configAfter r.pad.cfg := by
  have hite (c : Prop) [Decidable c] (device : ℕ) (notice : HIDNotice) :
      Pad.cfg (if c then r.pad.notificationHIDAttachedHandlerGated device notice else r.pad) =
        r.pad.cfg := by
    split
    · exact (r.pad.notification_spec device notice).1.cfg
    · rfl
  cases e with
  | publish device =>
      rw [step, deliver_spec h (assigned_publisher device)]
      exact hite _ _ _
  | terminate device =>
      rw [step, deliver_spec h (assigned_terminator device)]
      exact hite _ _ _
  | setParamProperties d => exact (r.pad.setParamPropertiesGated_spec d).cfg

theorem cfg_run (h : Tracks k usb bluetooth ds r) (es : List HIDEvent) :
    (r.run k es).pad.cfg = es.foldl HIDEvent.configAfter r.pad.cfg := by
  induction es generalizing ds r with
  | nil => rfl
  | cons e es ih =>
      rw [List.foldl_cons, ← cfg_step h.members e]
      exact ih (h.step e)

/-! ### The law -/

/-- The trackpad is disabled just when the option is on and one of the devices is attached. -/
def StopsTrackpad (r : Following) (attached : Finset ℕ) : Prop :=
  r.pad.ignoreall = true ↔
    r.pad.cfg.flag .usbMouseStopsTrackpad = true ∧ attached.Nonempty

theorem devicesAfter_mono {p q : ℕ → Bool} (hpq : ∀ d, p d = true → q d = true)
    {ds ds' : Finset ℕ} (h : ds ⊆ ds') (es : List HIDEvent) :
    es.foldl (HIDEvent.devicesAfter p) ds ⊆ es.foldl (HIDEvent.devicesAfter q) ds' := by
  induction es generalizing ds ds' with
  | nil => exact h
  | cons e es ih =>
      refine ih ?_
      cases e with
      | publish device =>
          rw [HIDEvent.devicesAfter, HIDEvent.devicesAfter]
          split
          · rename_i hp
            rw [if_pos (hpq device hp)]
            exact Finset.insert_subset_insert device h
          · split
            · exact h.trans (Finset.subset_insert _ _)
            · exact h
      | terminate device => exact Finset.erase_subset_erase device h
      | setParamProperties d => exact h

theorem announced_subset (present : List ℕ) (es : List HIDEvent) :
    k.announced usb bluetooth es ⊆ k.attachedPointers present es :=
  devicesAfter_mono (fun _ h => (Bool.and_eq_true_iff.mp h).1) (Finset.empty_subset _) es

theorem Tracks.attached_ne_nil (h : Tracks k usb bluetooth ds r) :
    r.pad.attached ≠ [] ↔ ds.Nonempty := by
  constructor
  · intro hne
    obtain ⟨d, hd⟩ := List.exists_mem_of_ne_nil _ hne
    exact ⟨d, (h.mem d).mp hd⟩
  · rintro ⟨d, hd⟩
    exact List.ne_nil_of_mem ((h.mem d).mpr hd)

section law
variable (k usb bluetooth) (present : List ℕ) (cfg : Config) (caps : Capabilities)
  (es : List HIDEvent)

/-- The flag follows the devices that have been announced since the driver registered. -/
theorem ignoreall_iff :
    ((start k usb bluetooth present cfg caps).run k es).pad.ignoreall = true ↔
      ((start k usb bluetooth present cfg caps).run k es).pad.cfg.flag .usbMouseStopsTrackpad = true
        ∧ (k.announced usb bluetooth es).Nonempty := by
  have hstart : Tracks k usb bluetooth ∅ (start k usb bluetooth present cfg caps) :=
    tracks_start present cfg caps
  have htracks : Tracks k usb bluetooth (k.announced usb bluetooth es) _ := hstart.run es
  have hagrees := htracks.agrees
  rwa [Pad.Agrees, htracks.attached_ne_nil] at hagrees

/-- The option is as the dictionaries have set it. -/
theorem cfg_started :
    ((start k usb bluetooth present cfg caps).run k es).pad.cfg =
      es.foldl HIDEvent.configAfter cfg := by
  have hstart : Tracks k usb bluetooth ∅ (start k usb bluetooth present cfg caps) :=
    tracks_start present cfg caps
  rw [cfg_run hstart es, start, register_spec]
  rfl

end law

/-- The flag is right just when one of the attached devices has been announced since the driver
registered, if there is one and the option is on. -/
theorem stopsTrackpad_iff (present : List ℕ) (cfg : Config) (caps : Capabilities)
    (es : List HIDEvent) :
    StopsTrackpad ((start k usb bluetooth present cfg caps).run k es)
        (k.attachedPointers present es) ↔
      ((es.foldl HIDEvent.configAfter cfg).flag .usbMouseStopsTrackpad = true →
        (k.attachedPointers present es).Nonempty → (k.announced usb bluetooth es).Nonempty) := by
  have hsub : k.announced usb bluetooth es ⊆ k.attachedPointers present es :=
    announced_subset present es
  rw [StopsTrackpad, ignoreall_iff, cfg_started]
  constructor
  · exact fun h hflag hattached => (h.mpr ⟨hflag, hattached⟩).2
  · intro h
    exact and_congr_right fun hflag => ⟨fun ha => ha.mono hsub, fun ha => h hflag ha⟩

/-- If no device is there when the driver is started, the flag is always right. -/
theorem stopsTrackpad_of_none_present (cfg : Config) (caps : Capabilities) (es : List HIDEvent) :
    StopsTrackpad ((start k true true [] cfg caps).run k es) (k.attachedPointers [] es) := by
  have hfollows (d : ℕ) : k.follows true true d = true := by
    rw [IOKit.follows]
    exact ite_self true
  have hannounces : k.announces true true = k.isPointer :=
    funext fun d => by rw [IOKit.announces, hfollows, Bool.and_true]
  have hsame : k.announced true true es = k.attachedPointers [] es := by
    rw [IOKit.announced, hannounces]
    rfl
  rw [StopsTrackpad, ignoreall_iff, hsame]

/-- A mouse on every port, and the numbers of Bluetooth. -/
def miceOnly : IOKit where
  classes := ⟨0x05, 0x20, 0x30, 0x00, 0x05, 0x07⟩
  service := fun _ => .usbMouse
  notifier
    | .usbHidPublish => 1
    | .usbHidTerminate => 2
    | .bluetoothHidPublish => 3
    | .bluetoothHidTerminate => 4
  distinct := by
    intro v w h
    cases v <;> cases w <;> first | rfl | exact absurd h (by decide)

/-- A mouse is plugged in while the driver starts, and the trackpad stays enabled. -/
theorem present_mouse_missed :
    ¬ StopsTrackpad ((start miceOnly true true [7] .init ⟨false, false, false, 0, false, false⟩).run
      miceOnly []) (miceOnly.attachedPointers [7] []) := by
  intro h
  have hoff : ((start miceOnly true true [7] .init ⟨false, false, false, 0, false, false⟩).run
      miceOnly []).pad.ignoreall = false := rfl
  exact Bool.false_ne_true (hoff.symm.trans (h.mpr ⟨rfl, 7, by decide⟩))

end Following

end VoodooPS2.Synaptics
