import VoodooPS2.Lib.Transition
import VoodooPS2.Synaptics.TouchModes

/-! # Buttons of the touchpad (`middleButton`, `onButtonTimer`)

The raw buttons of a packet go through the middle-button emulation, a second time when a finger
goes down with the packet, to end a wait.  `lastbuttons`, which the timer passes to the emulation,
is what the packet held; so the timer leaves the emulation following the buttons, which it does not
in the mouse driver.

`prepared_reacts`: the two calls of a packet act like one.  `middle_button_faithful`: what is
reported in a run takes nothing back while the buttons are the same, misses no press, and has the
middle button only while both buttons are down. -/

namespace VoodooPS2.Synaptics

open MiddleButton

namespace Pad

/-- No ClickPad, no pass-through, and the emulation on. -/
structure EmulationOn (s : Pad) : Prop where
  clickpadtype : s.caps.clickpadtype = 0
  passthru : s.caps.passthru = false
  fakemiddlebutton : s.cfg.bool .fakemiddlebutton = true
  buttonCount : 3 ≤ s.cfg.int .buttonCount
  passbuttons : s.passbuttons = 0

namespace EmulationOn

variable {s : Pad} (hs : s.EmulationOn)
include hs

theorem passButtons_eq (p : PadPacket) : s.passButtons p = 0 := by
  rw [passButtons, if_neg (fun h => Bool.false_ne_true (hs.passthru.symm.trans h.1)), hs.passbuttons]

theorem physicalButtons_eq (p : PadPacket) : s.physicalButtons p = p.buttonsraw := by
  rw [physicalButtons, hs.passButtons_eq, UInt32.or_zero]

theorem called_eq {origin : MBComingFrom} (hi : s.ignoreall = false ∨ origin ≠ .device)
    (b : UInt32) (now : UInt64) :
    s.called b now origin = s.machine.call (s.cfg.time .maxmiddleclicktime) b now origin := by
  have hc := hs.buttonCount
  refine if_pos ⟨hs.fakemiddlebutton, by omega, fun h => ?_⟩
  rcases hi with hi | hi
  · exact Bool.false_ne_true (hi.symm.trans h.1)
  · exact hi h.2

end EmulationOn

end Pad

theorem leftRight_buttonsraw (p : PadPacket) : LeftRight p.buttonsraw := by
  have hlt : (p.byte0 &&& 0x03).toNat < 4 := by
    rw [UInt8.toNat_and]
    exact Nat.lt_of_le_of_lt Nat.and_le_right (by decide)
  rw [PadPacket.buttonsraw]
  generalize p.byte0 &&& 0x03 = b at hlt
  have hb : b = 0 ∨ b = 1 ∨ b = 2 ∨ b = 3 := by
    rw [← UInt8.toNat_inj, ← UInt8.toNat_inj, ← UInt8.toNat_inj, ← UInt8.toNat_inj]
    change b.toNat = 0 ∨ b.toNat = 1 ∨ b.toNat = 2 ∨ b.toNat = 3
    omega
  rcases hb with rfl | rfl | rfl | rfl <;> decide

namespace Pad

/-! ### The calls of a packet -/

/-- Starting with `log`, a part of the handling has acted on the emulation as `r` says, and leaves
`buttons`. -/
structure Acts (log : List Effect) (s : Pad) (b buttons : UInt32)
    (r : MiddleButton × List ButtonEffect) : Prop where
  machine : s.machine = r.1
  masks : pointerMasks s.log = pointerMasks log ++ dispatchedMasks r.2
  buttons : buttons = modifyButtons r.1.mbuttonstate b

/-- A call of the emulation. -/
theorem acts_middleButton {s : Pad} (hs : s.EmulationOn) (origin : MBComingFrom)
    (hi : s.ignoreall = false ∨ origin ≠ .device) (b : UInt32) (now : UInt64) :
    Acts s.log (s.middleButton b now origin).1 b (s.middleButton b now origin).2
      (s.machine.advance b now (s.machine.timedOut (s.cfg.time .maxmiddleclicktime) now origin)
        origin) := by
  rw [middleButton, hs.called_eq hi]
  refine ⟨rfl, ?_, rfl⟩
  rw [pointerMasks_append, pointerMasks_relative]
  rfl

theorem EmulationOn.storeButtons {s : Pad} (hs : s.EmulationOn) (p : PadPacket) :
    (s.storeButtons p).EmulationOn :=
  ⟨hs.clickpadtype, hs.passthru, hs.fakemiddlebutton, hs.buttonCount, hs.passButtons_eq p⟩

/-- The call for the packet itself. -/
theorem acts_readButtons {s : Pad} (hs : s.EmulationOn) (hi : s.ignoreall = false) {held : UInt32}
    (hf : Follows s.machine held) (p : PadPacket) (now : UInt64) :
    ∃ r, Reacts s.machine held p.buttonsraw r ∧
      Acts s.log (s.readButtons p now).1 p.buttonsraw (s.readButtons p now).2 r := by
  have hcall := acts_middleButton (hs.storeButtons p) (if p.w = 3 then .passthru else .device)
    (.inl hi) p.buttonsraw now
  rw [readButtons, if_pos (.inl hs.clickpadtype), hs.physicalButtons_eq]
  refine ⟨_, ?_, hcall⟩
  refine advance_reacts hf (leftRight_buttonsraw p) ?_ ?_ now _
  · split <;> decide
  · split <;> decide

theorem EmulationOn.readButtons {s : Pad} (hs : s.EmulationOn) (p : PadPacket) (now : UInt64) :
    (s.readButtons p now).1.EmulationOn := by
  rw [Pad.readButtons, if_pos (.inl hs.clickpadtype)]
  have h := hs.storeButtons p
  exact ⟨h.clickpadtype, h.passthru, h.fakemiddlebutton, h.buttonCount, h.passbuttons⟩

/-- The second call, if a finger goes down. -/
theorem acts_fingerDown {s : Pad} (hs : s.EmulationOn) {log : List Effect} {m : MiddleButton}
    {held b : UInt32} {r : MiddleButton × List ButtonEffect} (hr : Reacts m held b r)
    (p : PadPacket) (hb : p.buttonsraw = b) (t : Touch) {buttons : UInt32}
    (ha : Acts log s b buttons r) :
    ∃ r', Reacts m held b r' ∧ Acts log (s.fingerDown p t buttons).1 b (s.fingerDown p t buttons).2 r' := by
  rw [fingerDown, hs.passbuttons, UInt32.or_zero, hb]
  split
  · have hcall := acts_middleButton hs .cancel (.inr (by decide)) b t.now
    refine ⟨_, hr.cancel t.now, ?_, ?_, ?_⟩
    · rw [hcall.machine, ha.machine]
      rfl
    · rw [hcall.masks, ha.masks, ha.machine, List.append_assoc, dispatchedMasks, dispatchedMasks,
        ← List.filterMap_append]
      rfl
    · rw [hcall.buttons, ha.machine]
      rfl
  · exact ⟨r, hr, ha⟩

/-- Divisions do not matter to the emulation. -/
theorem Acts.of_same {log : List Effect} {s s' : Pad} {b buttons : UInt32}
    {r : MiddleButton × List ButtonEffect} (ha : Acts log s b buttons r)
    (hm : s'.machine = s.machine) (hl : pointerMasks s'.log = pointerMasks s.log) :
    Acts log s' b buttons r :=
  ⟨hm.trans ha.machine, hl.trans ha.masks, ha.buttons⟩

/-- The calls of a packet act like one. -/
theorem prepared_reacts {s : Pad} (hs : s.EmulationOn) (hi : s.ignoreall = false) {held : UInt32}
    (hf : Follows s.machine held) (p : PadPacket) (now : UInt64) :
    ∃ r, Reacts s.machine held p.buttonsraw r ∧
      Acts s.log (s.prepared p now).pad p.buttonsraw (s.prepared p now).buttons r := by
  obtain ⟨r, hr, ha⟩ := acts_readButtons hs hi hf p now
  have hread := hs.readButtons p now
  rw [prepared]
  generalize s.readButtons p now = q at ha hread
  have hdiv : (q.1.dividing q.1.cfg.scaleDivisors).EmulationOn :=
    ⟨hread.clickpadtype, hread.passthru, hread.fakemiddlebutton, hread.buttonCount,
      hread.passbuttons⟩
  obtain ⟨r', hr', ha'⟩ := acts_fingerDown hdiv hr p rfl (q.1.readTouch p now)
    (ha.of_same rfl (q.1.pointerMasks_dividing _))
  rw [prepare, if_neg (not_not.mpr hread.clickpadtype)]
  exact ⟨r', hr', ha'.of_same rfl (pointerMasks_smooth _ _)⟩

theorem lastbuttons_readButtons (s : Pad) (p : PadPacket) (now : UInt64) :
    (s.readButtons p now).1.lastbuttons = s.physicalButtons p ∧
      (s.readButtons p now).1.passbuttons = s.passButtons p := by
  rw [readButtons]
  split <;> exact ⟨rfl, rfl⟩

theorem lastbuttons_fingerDown (s : Pad) (p : PadPacket) (t : Touch) (b : UInt32) :
    (s.fingerDown p t b).1.lastbuttons = s.lastbuttons ∧
      (s.fingerDown p t b).1.passbuttons = s.passbuttons := by
  rw [fingerDown]
  split <;> exact ⟨rfl, rfl⟩

/-- The timer will be called with the raw buttons of the packet. -/
theorem lastbuttons_prepared {s : Pad} (hs : s.EmulationOn) (p : PadPacket) (now : UInt64) :
    (s.prepared p now).pad.lastbuttons = p.buttonsraw ∧
      (s.prepared p now).pad.passbuttons = 0 := by
  obtain ⟨hl, hp⟩ := s.lastbuttons_readButtons p now
  have hread := (hs.readButtons p now).clickpadtype
  rw [hs.physicalButtons_eq] at hl
  rw [hs.passButtons_eq] at hp
  rw [prepared, prepare, if_neg (not_not.mpr hread)]
  obtain ⟨hl', hp'⟩ := lastbuttons_fingerDown
    ((s.readButtons p now).1.dividing (s.readButtons p now).1.cfg.scaleDivisors) p
    ((s.readButtons p now).1.readTouch p now) (s.readButtons p now).2
  exact ⟨hl'.trans hl, hp'.trans hp⟩

/-- The rest of a packet leaves the emulation and the buttons alone. -/
theorem machine_dispatchTouch (s : Pad) (t : Touch) (b : UInt32) :
    (s.dispatchTouch t b).cfg = s.cfg ∧ (s.dispatchTouch t b).caps = s.caps ∧
      (s.dispatchTouch t b).machine = s.machine ∧
      (s.dispatchTouch t b).lastbuttons = s.lastbuttons ∧
      (s.dispatchTouch t b).passbuttons = s.passbuttons := by
  have hz := s.sameElse_watchZone t
  have hh := (s.watchZone t).sameButtons_handleTouch t b
  rw [dispatchTouch]
  split
  · exact ⟨rfl, rfl, rfl, rfl, rfl⟩
  split
  · exact ⟨hz.cfg, hz.caps, hz.machine, hz.lastbuttons, hz.passbuttons⟩
  split
  · exact ⟨hz.cfg, hz.caps, hz.machine, hz.lastbuttons, hz.passbuttons⟩
  · exact ⟨hh.cfg.trans hz.cfg, hh.caps.trans hz.caps, hh.machine.trans hz.machine,
      hh.lastbuttons.trans hz.lastbuttons, hh.passbuttons.trans hz.passbuttons⟩

/-- What is reported of the buttons for a packet: what the emulation dispatches, and the value that
its last call returns. -/
def packetReports (s : Pad) (p : PadPacket) (now : UInt64) : List UInt32 :=
  pointerMasks (prepared { s with log := [] } p now).pad.log ++
    [(prepared { s with log := [] } p now).buttons]

/-- A packet with the emulation on. -/
theorem packet_reacts {s : Pad} (hs : s.EmulationOn) (hi : s.ignoreall = false) {held : UInt32}
    (hf : Follows s.machine held) {p : PadPacket} (hn : s.isNormal p) (now : UInt64) :
    ∃ r, Reacts s.machine held p.buttonsraw r ∧
      (s.handle (.packet p now)).EmulationOn ∧
      (s.handle (.packet p now)).machine = r.1 ∧
      (s.handle (.packet p now)).lastbuttons = p.buttonsraw ∧
      s.packetReports p now =
        dispatchedMasks r.2 ++ [modifyButtons r.1.mbuttonstate p.buttonsraw] := by
  have hs0 : EmulationOn { s with log := [] } :=
    ⟨hs.clickpadtype, hs.passthru, hs.fakemiddlebutton, hs.buttonCount, hs.passbuttons⟩
  obtain ⟨r, hr, ha⟩ := prepared_reacts hs0 hi hf p now
  obtain ⟨hl, hp⟩ := lastbuttons_prepared hs0 p now
  have hcore := touchCore_prepared { s with log := [] } p now
  have hhandle : s.handle (.packet p now) = _ :=
    dispatch_of_isNormal (s := { s with log := [] }) hn now
  obtain ⟨hcfg, hcaps, hm, hl', hp'⟩ := machine_dispatchTouch
    (prepared { s with log := [] } p now).pad (prepared { s with log := [] } p now).touch
    (prepared { s with log := [] } p now).buttons
  have hcfg' := hcfg.trans (congrArg TouchCore.cfg hcore)
  have hcaps' := hcaps.trans (congrArg TouchCore.caps hcore)
  rw [hhandle]
  refine ⟨r, hr, ⟨?_, ?_, ?_, ?_, hp'.trans hp⟩, hm.trans ha.machine, hl'.trans hl, ?_⟩
  · rw [hcaps']
    exact hs.clickpadtype
  · rw [hcaps']
    exact hs.passthru
  · rw [hcfg']
    exact hs.fakemiddlebutton
  · rw [hcfg']
    exact hs.buttonCount
  · rw [packetReports, ha.masks, ha.buttons]
    rfl

end Pad

/-! ### Runs -/

/-- The driver, with what was reported for the buttons that are down. -/
structure ButtonSession where
  pad : Pad
  hold : Hold

inductive ButtonAction where
  | packet (p : PadPacket) (now : UInt64)
  | timer (now : UInt64)

namespace ButtonSession

open Pad

/-- The physical buttons after an action. -/
def buttons (k : ButtonSession) : ButtonAction → UInt32
  | .packet p _ => p.buttonsraw
  | .timer _ => k.hold.held

/-- What is reported for an action. -/
def reports (k : ButtonSession) : ButtonAction → List UInt32
  | .packet p now => k.pad.packetReports p now
  | .timer now => pointerMasks (k.pad.handle (.buttonTimer now)).log

/-- The driver after an action. -/
def padAfter (k : ButtonSession) : ButtonAction → Pad
  | .packet p now => k.pad.handle (.packet p now)
  | .timer now => k.pad.handle (.buttonTimer now)

/-- Input is not ignored; a normal packet, or the timer if it is armed. -/
def Enabled (k : ButtonSession) : ButtonAction → Prop
  | .packet p _ => k.pad.ignoreall = false ∧ k.pad.isNormal p
  | .timer _ => k.pad.ignoreall = false ∧ k.pad.machine.timerArmed = true

instance (k : ButtonSession) : (a : ButtonAction) → Decidable (k.Enabled a)
  | .packet _ _ => inferInstanceAs (Decidable (_ ∧ _))
  | .timer _ => inferInstanceAs (Decidable (_ ∧ _))

def step (k : ButtonSession) (a : ButtonAction) : Option ButtonSession :=
  if k.Enabled a then some ⟨k.padAfter a, k.hold.after (k.buttons a) (k.reports a)⟩ else none

/-- The reports of an action are faithful to the buttons, and the middle button is reported only
while both buttons are down. -/
structure Faithful (k : ButtonSession) (a : ButtonAction) : Prop where
  hold : k.hold.Faithful (k.buttons a) (k.reports a)
  middle : ∀ mask ∈ k.reports a, mask &&& 0x4 ≠ 0 → k.buttons a = 3

/-- The emulation follows the buttons, and the timer will too. -/
structure Inv (k : ButtonSession) : Prop where
  emulation : k.pad.EmulationOn
  leftRight : LeftRight k.hold.held
  follows : Follows k.pad.machine k.hold.held
  hold : k.hold.Inv k.pad.machine.mbuttonstate
  lastbuttons : k.pad.lastbuttons = k.hold.held

theorem and_four_of_leftRight {b : UInt32} (hb : LeftRight b) : b &&& 0x4 = 0 := by
  rcases hb with rfl | rfl | rfl | rfl <;> decide

/-- A call returns the middle button only if both buttons are down. -/
theorem middle_of_follows {m : MiddleButton} {b : UInt32} (hb : LeftRight b) (hf : Follows m b)
    (h4 : modifyButtons m.mbuttonstate b &&& 0x4 ≠ 0) : b = 3 := by
  cases hf with
  | noButtons p t => exact absurd (and_four_of_leftRight hb) h4
  | wait4Two hs t =>
      rw [modifyButtons, modifyButtons_wait hb] at h4
      exact absurd UInt32.zero_and h4
  | middle p t => rfl
  | wait4None hs t =>
      rw [modifyButtons, modifyButtons_wait hb] at h4
      exact absurd UInt32.zero_and h4
  | noop h0 p t => exact absurd (and_four_of_leftRight hb) h4

/-- A call dispatches only left and right. -/
theorem leftRight_of_moves {held b : UInt32} {st st' : MButtonState} {masks : List UInt32}
    (hheld : LeftRight held) (hm : Moves held b st st' masks) : ∀ mask ∈ masks, LeftRight mask := by
  cases hm with
  | click _ hmasks =>
      subst hmasks
      exact List.forall_mem_singleton.mpr hheld
  | change _ _ hmasks =>
      subst hmasks
      exact List.forall_mem_singleton.mpr (.inr (.inr (.inr rfl)))
  | _ => exact List.forall_mem_nil _

theorem packet_spec {k : ButtonSession} (hk : k.Inv) {p : PadPacket} {now : UInt64}
    (hen : k.Enabled (.packet p now)) :
    k.Faithful (.packet p now) ∧
      Inv ⟨k.padAfter (.packet p now),
        k.hold.after (k.buttons (.packet p now)) (k.reports (.packet p now))⟩ := by
  obtain ⟨r, ⟨hf, hmoves⟩, hem, hm, hl, hrep⟩ :=
    packet_reacts hk.emulation hen.1 hk.follows hen.2 now
  have hb := leftRight_buttonsraw p
  obtain ⟨hfaith, hinv⟩ := Hold.faithful_of_moves hk.follows hk.hold hb hf hmoves
  have hrep' : k.reports (.packet p now) = _ := hrep
  refine ⟨⟨?_, ?_⟩, hem, hb, ?_, ?_, hl⟩
  · rw [hrep']
    exact hfaith
  · intro mask hmem h4
    rw [hrep', List.mem_append, List.mem_singleton] at hmem
    rcases hmem with hmem | rfl
    · exact absurd (and_four_of_leftRight (leftRight_of_moves hk.leftRight hmoves mask hmem)) h4
    · exact middle_of_follows hb hf h4
  · change Follows (k.pad.handle (.packet p now)).machine _
    rw [hm]
    exact hf
  · change Hold.Inv _ (k.pad.handle (.packet p now)).machine.mbuttonstate
    rw [hm, hrep']
    exact hinv

end ButtonSession

/-- The armed timer ends the wait and reports the button that is held. -/
theorem Pad.handle_buttonTimer {s : Pad} (hs : s.EmulationOn) {held : UInt32}
    (hf : Follows s.machine held) (hl : s.lastbuttons = held) (ha : s.machine.timerArmed = true)
    (now : UInt64) :
    Single held ∧
      (s.handle (.buttonTimer now)).machine = ⟨.noop, 0, s.machine.buttontime, false⟩ ∧
      pointerMasks (s.handle (.buttonTimer now)).log = [held] := by
  subst hl
  obtain ⟨hsingle, -, hcall⟩ := call_timer hf ha s.lastbuttons (s.cfg.time .maxmiddleclicktime) now
  have hem : EmulationOn { s with log := [], machine := { s.machine with timerArmed := false } } :=
    ⟨hs.clickpadtype, hs.passthru, hs.fakemiddlebutton, hs.buttonCount, hs.passbuttons⟩
  have hcalled := hem.called_eq (.inr (by decide : MBComingFrom.timer ≠ .device)) s.lastbuttons now
  rw [hcall, UInt32.or_self, settled, if_neg hsingle.ne_zero] at hcalled
  refine ⟨hsingle, congrArg Called.machine hcalled, ?_⟩
  exact (pointerMasks_relative _).trans (congrArg dispatchedMasks (congrArg Called.effects hcalled))

namespace ButtonSession

open Pad

theorem timer_spec {k : ButtonSession} (hk : k.Inv) {now : UInt64} (hen : k.Enabled (.timer now)) :
    k.Faithful (.timer now) ∧
      Inv ⟨k.padAfter (.timer now),
        k.hold.after (k.buttons (.timer now)) (k.reports (.timer now))⟩ := by
  obtain ⟨hs, hm, hlog⟩ :=
    handle_buttonTimer hk.emulation hk.follows hk.lastbuttons hen.2 now
  have hrep : k.reports (.timer now) = [k.hold.held] := hlog
  have h0 := hs.ne_zero
  obtain ⟨hfaith, hinv⟩ := Hold.faithful_noop hk.hold h0
  refine ⟨⟨?_, ?_⟩, ?_, hk.leftRight, ?_, ?_, hk.lastbuttons⟩
  · rw [hrep]
    exact hfaith
  · intro mask hmem h4
    rw [hrep, List.mem_singleton] at hmem
    rw [hmem] at h4
    exact absurd (and_four_of_leftRight hk.leftRight) h4
  · exact ⟨hk.emulation.clickpadtype, hk.emulation.passthru, hk.emulation.fakemiddlebutton,
      hk.emulation.buttonCount, hk.emulation.passbuttons⟩
  · change Follows (k.pad.handle (.buttonTimer now)).machine k.hold.held
    rw [hm]
    exact .noop h0 _ _
  · change Hold.Inv _ (k.pad.handle (.buttonTimer now)).machine.mbuttonstate
    rw [hm, hrep]
    exact hinv

theorem step_spec {k k' : ButtonSession} {a : ButtonAction} (hk : k.Inv)
    (hs : k.step a = some k') : k.Faithful a ∧ k'.Inv := by
  obtain ⟨hen, hs⟩ := Option.ite_none_right_eq_some.mp hs
  cases hs
  cases a with
  | packet p now => exact packet_spec hk hen
  | timer now => exact timer_spec hk hen

/-- The driver as it is started, with no button down. -/
def started (cfg : Config) (caps : Capabilities) : ButtonSession := ⟨.initial cfg caps, .initial⟩

/-- **Middle-button emulation is faithful**: in every run, what is reported takes nothing back
while the buttons are the same, misses no press, and has the middle button only while both buttons
are down. -/
theorem middle_button_faithful (cfg : Config) (caps : Capabilities)
    (hs : (Pad.initial cfg caps).EmulationOn) (actions : List ButtonAction) (k : ButtonSession)
    (hr : Transition.run step (started cfg caps) actions = some k) :
    Transition.Guarded step Faithful (started cfg caps) actions := by
  refine Transition.guarded_of_invariant (fun s a s' hi hs => step_spec hi hs) actions ?_ hr
  exact ⟨hs, .inl rfl, follows_initial, Hold.inv_initial, rfl⟩

/-- A three-button configuration. -/
def threeButtons : Config := Config.init.read (fun name =>
  if name = "ButtonCount" then some (.number 3) else none)

theorem emulationOn_threeButtons : (Pad.initial threeButtons plainCaps).EmulationOn :=
  ⟨rfl, rfl, by decide +kernel, by decide +kernel, rfl⟩

/-- Left is pressed and kept down until the timer has fired, right is pressed too, a finger goes
down, and both are released. -/
def bothRun : List ButtonAction :=
  [.packet (padPacket 1 0 0 0) 0, .timer 100000000, .packet (padPacket 3 0 0 0) 200000000,
    .packet (padPacket 3 60 3000 3000) 300000000, .packet (padPacket 0 0 0 0) 400000000]

theorem middle_button_faithful_both :
    ∃ k, Transition.run step (started threeButtons plainCaps) bothRun = some k ∧
      Transition.Guarded step Faithful (started threeButtons plainCaps) bothRun := by
  have hex : (Transition.run step (started threeButtons plainCaps) bothRun).isSome = true := by
    decide +kernel
  obtain ⟨k, hk⟩ := Option.isSome_iff_exists.mp hex
  exact ⟨k, hk, middle_button_faithful threeButtons plainCaps emulationOn_threeButtons bothRun k hk⟩

end ButtonSession

end VoodooPS2.Synaptics
