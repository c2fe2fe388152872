import VoodooPS2.Lib.Transition
import VoodooPS2.MiddleButton

/-! # Mouse buttons (`ApplePS2Mouse::dispatchRelativePointerEventWithPacket`, `onButtonTimer`)

A packet's buttons go through the middle-button emulation and the filters for typing, and what
is left of them is dispatched.  `lastbuttons`, which the timer passes to the emulation, is what
the emulation returned, not what the packet held: while a single button is held back it is 0, so
that a timer that ends the wait leaves the emulation as if no button were down.

`faithful_iff`: with the emulation on and no filter, the masks dispatched in a run take nothing
back and miss no press if and only if no packet repeats, after the timer has fired, the buttons
of the packet before it.  `invented_release` is the shortest run that does. -/

namespace VoodooPS2.Mouse

open MiddleButton

/-- What the driver reads when it handles a packet. -/
structure Settings where
  fakemiddlebutton : Bool
  buttonCount : ℤ
  maxmiddleclicktime : UInt64
  ignoreall : Bool
  /-- `_type == kMouseTypeIntellimouseExplorer` -/
  explorer : Bool
  actliketrackpad : Bool
  scroll : Bool
  palmWt : Bool
  outzoneWt : Bool
  keytime : UInt64
  maxaftertyping : UInt64
  mouseyinverter : ℤ
  scrollyinverter : ℤ

/-- What the driver changes when it handles a packet. -/
structure Pointer where
  machine : MiddleButton
  lastbuttons : UInt32
  buttonmask : UInt32
deriving DecidableEq, Repr

/-- What is passed on to the system. -/
inductive PointerEvent where
  /-- `dispatchRelativePointerEventX(dx, dy, buttons, now)` -/
  | relative (dx dy : ℤ) (buttons : UInt32)
  /-- `dispatchScrollWheelEventX(dz, 0, 0, now)` -/
  | scrollWheel (dz : ℤ)
deriving DecidableEq, Repr

/-- A packet of three bytes, or of four for an Intellimouse. -/
structure PointerPacket where
  flags : UInt8
  x : UInt8
  y : UInt8
  z : Option UInt8
deriving DecidableEq, Repr

namespace PointerPacket

def dx (p : PointerPacket) : ℤ := (if p.flags &&& 0x10 ≠ 0 then -0x100 else 0) + p.x.toNat

def dy (p : PointerPacket) : ℤ := -((if p.flags &&& 0x20 ≠ 0 then -0x100 else 0) + p.y.toNat)

/-- Sign extension of the lower four bits of the fourth byte. -/
def dz (o : Settings) (p : PointerPacket) : ℤ :=
  match p.z with
  | none => 0
  | some z => if o.actliketrackpad = false ∨ o.scroll = true then Int.bmod z.toNat 16 else 0

/-- The buttons of a packet, the fourth and fifth from the fourth byte. -/
def buttons (o : Settings) (p : PointerPacket) : UInt32 :=
  match p.z with
  | none => (p.flags &&& 0x7).toUInt32
  | some z =>
      (p.flags &&& 0x7).toUInt32 ||| (if o.explorer then (z &&& 0x30).toUInt32 >>> 1 else 0)

end PointerPacket

namespace Pointer

def initial : Pointer := ⟨.initial, 0, ~~~0⟩

/-- `middleButton`: the emulation, unless it is off or packets are ignored. -/
def middleButton (o : Settings) (m : MiddleButton) (buttons : UInt32) (now : UInt64)
    (origin : MBComingFrom) : Called :=
  if o.fakemiddlebutton = false ∨ o.buttonCount ≤ 2 ∨ (o.ignoreall = true ∧ origin = .device) then
    ⟨m, [], buttons⟩
  else call o.maxmiddleclicktime m buttons now origin

/-- The events of the emulation itself. -/
def eventsOf (effects : List ButtonEffect) : List PointerEvent :=
  (dispatchedMasks effects).map (.relative 0 0)

/-- ignore button 1 and 2 (could be simulated by trackpad) if just after typing -/
def typingFilter (o : Settings) (d : Pointer) (buttons : UInt32) (now : UInt64) : UInt32 × UInt32 :=
  if o.palmWt = true ∨ o.outzoneWt = true then
    let buttonmask := if now - o.keytime ≤ o.maxaftertyping then ~~~(buttons &&& 0x3) else ~~~0
    (buttonmask, buttons &&& buttonmask)
  else (d.buttonmask, buttons)

def dispatchRelativePointerEventWithPacket (o : Settings) (d : Pointer) (p : PointerPacket)
    (now : UInt64) : Pointer × List PointerEvent :=
  let r := middleButton o d.machine (p.buttons o) now .device
  let (buttonmask, buttons) := typingFilter o d r.buttons now
  let move : List PointerEvent :=
    if o.ignoreall then [] else [.relative p.dx (Int.bmod (o.mouseyinverter * p.dy) (2 ^ 32)) buttons]
  let wheel : List PointerEvent :=
    if p.dz o ≠ 0 ∧ (¬ (o.palmWt = true ∨ o.outzoneWt = true) ∨ now - o.keytime > o.maxaftertyping) ∧
        o.ignoreall = false then
      [.scrollWheel (Int.bmod (-o.scrollyinverter * p.dz o) (2 ^ 16))]
    else []
  (⟨r.machine, r.buttons, buttonmask⟩, eventsOf r.effects ++ move ++ wheel)

/-- `onButtonTimer`, when the armed timer fires. -/
def onButtonTimer (o : Settings) (d : Pointer) (now : UInt64) : Pointer × List PointerEvent :=
  let r := middleButton o { d.machine with timerArmed := false } d.lastbuttons now .timer
  ({ d with machine := r.machine }, eventsOf r.effects)

end Pointer

/-- The button masks among the events. -/
def masksOf (events : List PointerEvent) : List UInt32 :=
  events.filterMap (fun | .relative _ _ b => some b | .scrollWheel _ => none)

theorem masksOf_eventsOf (effects : List ButtonEffect) :
    masksOf (Pointer.eventsOf effects) = dispatchedMasks effects := by
  simp [masksOf, Pointer.eventsOf, List.filterMap_map]

/-- The emulation is on and nothing else touches the buttons. -/
structure EmulationOnly (o : Settings) : Prop where
  fakemiddlebutton : o.fakemiddlebutton = true
  buttonCount : 3 ≤ o.buttonCount
  ignoreall : o.ignoreall = false
  palmWt : o.palmWt = false
  outzoneWt : o.outzoneWt = false

namespace EmulationOnly

variable {o : Settings} (ho : EmulationOnly o)
include ho

theorem middleButton_eq (m : MiddleButton) (b : UInt32) (now : UInt64) (origin : MBComingFrom) :
    Pointer.middleButton o m b now origin = call o.maxmiddleclicktime m b now origin := by
  have hc := ho.buttonCount
  rw [Pointer.middleButton, if_neg]
  rw [ho.fakemiddlebutton, ho.ignoreall]
  simp only [Bool.true_eq_false, Bool.false_eq_true, false_and, or_false, false_or]
  omega

/-- A packet: the masks are those of the emulation, then the value it returns. -/
theorem dispatch_packet (d : Pointer) (p : PointerPacket) (now : UInt64) :
    (d.dispatchRelativePointerEventWithPacket o p now).1.machine =
        (call o.maxmiddleclicktime d.machine (p.buttons o) now .device).machine ∧
      (d.dispatchRelativePointerEventWithPacket o p now).1.lastbuttons =
        (call o.maxmiddleclicktime d.machine (p.buttons o) now .device).buttons ∧
      masksOf (d.dispatchRelativePointerEventWithPacket o p now).2 =
        dispatchedMasks (call o.maxmiddleclicktime d.machine (p.buttons o) now .device).effects ++
          [(call o.maxmiddleclicktime d.machine (p.buttons o) now .device).buttons] := by
  rw [Pointer.dispatchRelativePointerEventWithPacket, ho.middleButton_eq]
  refine ⟨rfl, rfl, ?_⟩
  have hf : ¬ (o.palmWt = true ∨ o.outzoneWt = true) := by
    rw [ho.palmWt, ho.outzoneWt]
    simp
  simp only [Pointer.typingFilter, if_neg hf, ho.ignoreall, Bool.false_eq_true, if_false]
  rw [masksOf, List.filterMap_append, List.filterMap_append, ← masksOf, masksOf_eventsOf]
  split
  · rw [List.append_assoc]
    rfl
  · rw [List.filterMap_nil, List.append_nil]
    rfl

end EmulationOnly

/-! ### Runs -/

/-- The driver with what was reported for the buttons that are down, and whether the timer has
fired since the last packet. -/
structure Session where
  pointer : Pointer
  hold : Hold
  fired : Bool
deriving DecidableEq, Repr

inductive Action where
  | packet (p : PointerPacket) (now : UInt64)
  | timer (now : UInt64)
deriving DecidableEq, Repr

namespace Session

def initial : Session := ⟨.initial, .initial, false⟩

/-- The physical buttons after an action. -/
def buttons (o : Settings) (k : Session) : Action → UInt32
  | .packet p _ => p.buttons o
  | .timer _ => k.hold.held

/-- The driver's reaction to an action. -/
def react (o : Settings) (k : Session) : Action → Pointer × List PointerEvent
  | .packet p now => k.pointer.dispatchRelativePointerEventWithPacket o p now
  | .timer now => k.pointer.onButtonTimer o now

/-- A packet with none, one or both of left and right, or the timer if it is armed. -/
def Enabled (o : Settings) (k : Session) : Action → Prop
  | .packet p _ => LeftRight (p.buttons o)
  | .timer _ => k.pointer.machine.timerArmed = true

instance (o : Settings) (k : Session) : (a : Action) → Decidable (k.Enabled o a)
  | .packet _ _ => inferInstanceAs (Decidable (LeftRight _))
  | .timer _ => inferInstanceAs (Decidable (_ = _))

def step (o : Settings) (k : Session) (a : Action) : Option Session :=
  if k.Enabled o a then
    some ⟨(k.react o a).1, k.hold.after (k.buttons o a) (masksOf (k.react o a).2),
      match a with | .packet _ _ => false | .timer _ => true⟩
  else none

/-- The masks dispatched for an action are faithful to the buttons. -/
def Faithful (o : Settings) (k : Session) (a : Action) : Prop :=
  k.hold.Faithful (k.buttons o a) (masksOf (k.react o a).2)

instance (o : Settings) (k : Session) (a : Action) : Decidable (k.Faithful o a) :=
  inferInstanceAs (Decidable (Hold.Faithful _ _ _))

/-- The packet does not repeat the buttons of the packet before it after the timer has fired. -/
def Meets (o : Settings) (k : Session) : Action → Prop
  | .packet p _ => k.fired = true → p.buttons o ≠ k.hold.held
  | .timer _ => True

instance (o : Settings) (k : Session) : (a : Action) → Decidable (k.Meets o a)
  | .packet _ _ => inferInstanceAs (Decidable (_ → _))
  | .timer _ => inferInstanceAs (Decidable True)

/-- The emulation follows the buttons; once the timer has fired it follows none, and the button
that it had held back has been reported. -/
inductive Inv : Session → Prop
  | tracking {d : Pointer} {h : Hold} (hf : Follows d.machine h.held)
      (hi : h.Inv d.machine.mbuttonstate)
      (hl : d.machine.timerArmed = true → d.lastbuttons = 0) : Inv ⟨d, h, false⟩
  | fired {d : Pointer} {h : Hold} (hf : Follows d.machine 0) (hs : Single h.held)
      (hr : h.reported = h.held) (hseen : h.seen = true) : Inv ⟨d, h, true⟩

theorem inv_initial : Inv initial :=
  .tracking follows_initial Hold.inv_initial (fun h => absurd h Bool.false_ne_true)

variable {o : Settings} (ho : EmulationOnly o)

section
include ho

/-- A packet while the emulation follows the buttons. -/
theorem packet_tracking {d : Pointer} {h : Hold} (p : PointerPacket) (now : UInt64)
    (hb : LeftRight (p.buttons o)) (hf : Follows d.machine h.held)
    (hi : h.Inv d.machine.mbuttonstate) :
    h.Faithful (p.buttons o) (masksOf (d.dispatchRelativePointerEventWithPacket o p now).2) ∧
      Inv ⟨(d.dispatchRelativePointerEventWithPacket o p now).1,
        h.after (p.buttons o) (masksOf (d.dispatchRelativePointerEventWithPacket o p now).2),
        false⟩ := by
  obtain ⟨hm, hl, hmasks⟩ := ho.dispatch_packet d p now
  have hc : MBComingFrom.device ≠ .cancel := nofun
  have ht : MBComingFrom.device ≠ .timer := nofun
  obtain ⟨hf', hmoves⟩ := advance_reacts hf hb hc ht now
    (d.machine.timedOut o.maxmiddleclicktime now .device)
  obtain ⟨hfaith, hinv⟩ := Hold.faithful_of_moves hf hi hb hf' hmoves
  rw [hmasks]
  refine ⟨hfaith, .tracking ?_ ?_ ?_⟩
  · rw [hm]
    exact hf'
  · rw [hm]
    exact hinv
  · rw [hm, hl]
    exact hf'.modifyButtons_of_armed

/-- The timer ends the wait with no button in its hand. -/
theorem timer_tracking {d : Pointer} {h : Hold} (now : UInt64) (hf : Follows d.machine h.held)
    (hi : h.Inv d.machine.mbuttonstate) (ha : d.machine.timerArmed = true)
    (hl : d.lastbuttons = 0) :
    h.Faithful h.held (masksOf (d.onButtonTimer o now).2) ∧
      Inv ⟨(d.onButtonTimer o now).1, h.after h.held (masksOf (d.onButtonTimer o now).2), true⟩ := by
  obtain ⟨hs, -, hcall⟩ := call_timer hf ha 0 o.maxmiddleclicktime now
  have hr : d.onButtonTimer o now =
      ({ d with machine := ⟨.noButtons, 0, d.machine.buttontime, false⟩ },
        [.relative 0 0 h.held]) := by
    rw [Pointer.onButtonTimer, ho.middleButton_eq, hl, hcall, UInt32.zero_or]
    rfl
  rw [hr]
  obtain ⟨hfaith, hinv⟩ := Hold.faithful_noop hi hs.ne_zero
  refine ⟨hfaith, .fired (.noButtons _ _) hs ?_ (hinv.seen (.inr (.inr rfl)))⟩
  have hk := hi.kept_within h.held
  change h.kept h.held ||| (h.held &&& h.held) = h.held
  rw [UInt32.and_self, Hold.or_eq_of_and_eq hk]

end

/-- A packet with other buttons, after the timer has fired. -/
theorem faithful_fresh {h : Hold} {b : UInt32} {masks : List UInt32} (hne : b ≠ h.held)
    (hseen : h.seen = true) (hf : Hold.Faithful ⟨0, 0, true⟩ b masks) :
    h.Faithful b masks ∧ h.after b masks = Hold.after ⟨0, 0, true⟩ b masks := by
  have hk : h.kept b = 0 := if_neg hne
  have hk0 : Hold.kept ⟨0, 0, true⟩ b = 0 := ite_self 0
  refine ⟨⟨?_, hf.released, fun _ _ => .inl hseen⟩, ?_⟩
  · rw [hk, ← hk0]
    exact hf.keeps
  · rw [Hold.after, Hold.after, hk, hk0, hseen]

/-- A packet with the same buttons, after the timer has fired, takes them back. -/
theorem not_faithful_repeat (ho : EmulationOnly o) {d : Pointer} {h : Hold} (p : PointerPacket)
    (now : UInt64) (hb : p.buttons o = h.held) (hf : Follows d.machine 0) (hs : Single h.held)
    (hr : h.reported = h.held) :
    ¬ h.Faithful (p.buttons o) (masksOf (d.dispatchRelativePointerEventWithPacket o p now).2) := by
  obtain ⟨-, -, hmasks⟩ := ho.dispatch_packet d p now
  rw [hmasks, hb, call_press hf hs]
  intro hfaith
  have hkeep : h.kept h.held &&& 0 = h.kept h.held := hfaith.keeps.1
  rw [Hold.kept, if_pos rfl, hr, UInt32.and_zero] at hkeep
  exact hs.ne_zero hkeep.symm

/-- What one action does: it is faithful exactly when it meets the condition, and then the
invariant is kept. -/
theorem step_spec (ho : EmulationOnly o) {k k' : Session} {a : Action} (hk : Inv k)
    (hs : k.step o a = some k') : (k.Meets o a ↔ k.Faithful o a) ∧ (k.Meets o a → Inv k') := by
  obtain ⟨hen, hs⟩ := Option.ite_none_right_eq_some.mp hs
  cases hs
  cases hk with
  | tracking hf hi hl =>
      cases a with
      | packet p now =>
          obtain ⟨hfaith, hinv⟩ := packet_tracking ho p now hen hf hi
          exact ⟨⟨fun _ => hfaith, fun _ => nofun⟩, fun _ => hinv⟩
      | timer now =>
          obtain ⟨hfaith, hinv⟩ := timer_tracking ho now hf hi hen (hl hen)
          exact ⟨⟨fun _ => hfaith, fun _ => trivial⟩, fun _ => hinv⟩
  | fired hf hsingle hr hseen =>
      cases a with
      | packet p now =>
          obtain ⟨hfaith, hinv⟩ := packet_tracking ho p now hen hf (Hold.inv_up _)
          refine ⟨⟨fun hm => ?_, fun hbad _ hb => ?_⟩, fun hm => ?_⟩
          · exact (faithful_fresh (hm rfl) hseen hfaith).1
          · exact not_faithful_repeat ho p now hb hf hsingle hr hbad
          · rw [← (faithful_fresh (hm rfl) hseen hfaith).2] at hinv
            exact hinv
      | timer now => exact absurd hen (Bool.eq_false_iff.mp hf.not_armed)

/-- In every run, the masks dispatched are faithful to the buttons if and only if no packet
repeats, after the timer has fired, the buttons of the packet before it. -/
theorem faithful_iff (o : Settings) (ho : EmulationOnly o) (actions : List Action) (k : Session)
    (hr : Transition.run (step o) initial actions = some k) :
    Transition.Guarded (step o) (Faithful o) initial actions ↔
      Transition.Guarded (step o) (Meets o) initial actions := by
  symm
  refine Transition.guarded_iff ?_ ?_ actions inv_initial hr
  · intro s a s' hi hm hs
    exact (step_spec ho hi hs).2 hm
  · intro s a s' hi hs
    exact (step_spec ho hi hs).1

/-- A three-button mouse with the emulation on, as the driver starts it. -/
def threeButtons : Settings where
  fakemiddlebutton := true
  buttonCount := 3
  maxmiddleclicktime := 100000000
  ignoreall := false
  explorer := false
  actliketrackpad := false
  scroll := true
  palmWt := false
  outzoneWt := false
  keytime := 0
  maxaftertyping := 500000000
  mouseyinverter := 1
  scrollyinverter := 1

theorem emulationOnly_threeButtons : EmulationOnly threeButtons :=
  ⟨rfl, by decide, rfl, rfl, rfl⟩

/-- A packet of three bytes that only says which buttons are down. -/
def buttonPacket (b : UInt8) (now : UInt64) : Action := .packet ⟨0x08 ||| b, 0, 0, none⟩ now

/-- Left is pressed, kept down after the timer has fired, and released. -/
def clickRun : List Action :=
  [buttonPacket 1 0, .timer 100000000, buttonPacket 0 200000000]

theorem faithful_iff_click :
    ∃ k, Transition.run (step threeButtons) initial clickRun = some k ∧
      Transition.Guarded (step threeButtons) (Faithful threeButtons) initial clickRun := by
  have hex : (Transition.run (step threeButtons) initial clickRun).isSome = true := by
    decide +kernel
  obtain ⟨k, hk⟩ := Option.isSome_iff_exists.mp hex
  exact ⟨k, hk, (faithful_iff threeButtons emulationOnly_threeButtons clickRun k hk).mpr
    (by decide +kernel)⟩

/-- The mouse moves with left down, after the timer has fired. -/
def dragRun : List Action :=
  [buttonPacket 1 0, .timer 100000000, buttonPacket 1 200000000]

/-- The press is reported by the timer and taken back by the next packet. -/
theorem invented_release :
    ¬ ∀ (o : Settings), EmulationOnly o → ∀ (actions : List Action) (k : Session),
      Transition.run (step o) initial actions = some k →
        Transition.Guarded (step o) (Faithful o) initial actions := by
  intro h
  have hex : (Transition.run (step threeButtons) initial dragRun).isSome = true := by
    decide +kernel
  obtain ⟨k, hk⟩ := Option.isSome_iff_exists.mp hex
  have hbad : ¬ Transition.Guarded (step threeButtons) (Faithful threeButtons) initial dragRun := by
    decide +kernel
  exact hbad (h threeButtons emulationOnly_threeButtons dragRun k hk)

end Session

end VoodooPS2.Mouse
