import VoodooPS2.Synaptics.Buttons
import VoodooPS2.Synaptics.Disabling
import VoodooPS2.Synaptics.Start

/-! # The timers of the Synaptics driver

`start` creates the timer of the middle-button emulation only if there are three buttons, and the
timer that ends a drag only if there is a delay for it; new properties may change both afterwards.
The drag timer is looked at before it is used.  The button timer is not: `middleButton` is called
whenever there are three buttons by then.

`Pad.eventTimers` is which timers are set or cancelled for an event.  `TimedPad.timers_iff`: along a
run only timers that exist are used just when, without a button timer, no call of the emulation
begins to wait. -/

namespace VoodooPS2

namespace MiddleButton

/-- The machine waits for the timer. -/
def Waiting (m : MiddleButton) : Prop := m.mbuttonstate = .wait4Two ∨ m.mbuttonstate = .wait4None

instance (m : MiddleButton) : Decidable m.Waiting := inferInstanceAs (Decidable (_ ∨ _))

/-- A call with `b` finds a single button and begins to wait. -/
def StartsWait (m : MiddleButton) (b : UInt32) (origin : MBComingFrom) : Prop :=
  (m.mbuttonstate = .noButtons ∧ origin ≠ .cancel ∧ b &&& 0x4 = 0 ∧ b ≠ 0x3 ∧ b ≠ 0x0) ∨
    (m.mbuttonstate = .middle ∧ b ≠ 0x0 ∧ b &&& 0x3 ≠ 0x3)

instance (m : MiddleButton) (b : UInt32) (origin : MBComingFrom) :
    Decidable (m.StartsWait b origin) := inferInstanceAs (Decidable (_ ∨ _))

/-- What a call does to a machine that is not waiting: it either begins to wait, or uses no timer
and will not begin to wait when it is called again for a finger. -/
inductive Idles (m : MiddleButton) (b : UInt32) (origin : MBComingFrom) :
    MiddleButton × List ButtonEffect → Prop
  | waits (hs : m.StartsWait b origin) (m' : MiddleButton) (hw : m'.Waiting) :
      Idles m b origin (m', [.setTimer])
  | rests (hs : ¬ m.StartsWait b origin) (m' : MiddleButton) (hw : ¬ m'.Waiting)
      (hc : ¬ m'.StartsWait b .cancel) : Idles m b origin (m', [])

theorem not_startsWait_of_noButtons {m : MiddleButton} (h : m.mbuttonstate = .noButtons)
    (b : UInt32) : ¬ m.StartsWait b .cancel := by
  rintro (hs | hs)
  · exact hs.2.1 rfl
  · exact absurd (h.symm.trans hs.1) (by decide)

theorem not_startsWait_of_noop {m : MiddleButton} (h : m.mbuttonstate = .noop) (b : UInt32)
    (origin : MBComingFrom) : ¬ m.StartsWait b origin := by
  rintro (hs | hs)
  · exact absurd (h.symm.trans hs.1) (by decide)
  · exact absurd (h.symm.trans hs.1) (by decide)

/-- Both buttons are down. -/
theorem not_startsWait_of_both {m : MiddleButton} (h : m.mbuttonstate = .middle) {b : UInt32}
    (hb : b &&& 0x3 = 0x3) (origin : MBComingFrom) : ¬ m.StartsWait b origin := by
  rintro (hs | hs)
  · exact absurd (h.symm.trans hs.1) (by decide)
  · exact hs.2.2 hb

theorem not_waiting {m : MiddleButton} (st : MButtonState) (h : m.mbuttonstate = st)
    (h2 : st ≠ .wait4Two) (h0 : st ≠ .wait4None) : ¬ m.Waiting := by
  rw [Waiting, h]
  exact not_or.mpr ⟨h2, h0⟩

theorem idles_noButtons {m : MiddleButton} (h : m.mbuttonstate = .noButtons) (b : UInt32)
    (origin : MBComingFrom) (now : UInt64) (timeout : Bool) :
    Idles m b origin (m.advance b now timeout origin) := by
  simp only [advance, h]
  by_cases hc : origin = .cancel
  · rw [if_pos hc, hc]
    exact .rests (not_startsWait_of_noButtons h b) m (not_waiting .noButtons h (by decide) (by decide))
      (not_startsWait_of_noButtons h b)
  rw [if_neg hc]
  split
  · rename_i h4
    have hs : ¬ m.StartsWait b origin := by
      rintro (hs | hs)
      · exact h4 hs.2.2.1
      · exact absurd (h.symm.trans hs.1) (by decide)
    exact .rests hs _ (not_waiting .noop rfl (by decide) (by decide))
      (not_startsWait_of_noop rfl b _)
  rename_i h4
  split
  · rename_i h3
    have hs : ¬ m.StartsWait b origin := by
      rintro (hs | hs)
      · exact hs.2.2.2.1 h3
      · exact absurd (h.symm.trans hs.1) (by decide)
    exact .rests hs _ (not_waiting .middle rfl (by decide) (by decide))
      (not_startsWait_of_both rfl (by rw [h3]; rfl) _)
  rename_i h3
  split
  · rename_i h0
    exact .waits (.inl ⟨h, hc, not_not.mp h4, h3, h0⟩) _ (.inl rfl)
  · rename_i h0
    have hs : ¬ m.StartsWait b origin := by
      rintro (hs | hs)
      · exact h0 hs.2.2.2.2
      · exact absurd (h.symm.trans hs.1) (by decide)
    exact .rests hs m (not_waiting .noButtons h (by decide) (by decide))
      (not_startsWait_of_noButtons h b)

theorem idles_middle {m : MiddleButton} (h : m.mbuttonstate = .middle) (b : UInt32)
    (origin : MBComingFrom) (now : UInt64) (timeout : Bool) :
    Idles m b origin (m.advance b now timeout origin) := by
  simp only [advance, h]
  split
  · rename_i h0
    have hs : ¬ m.StartsWait b origin := by
      rintro (hs | hs)
      · exact hs.2.2.2.2 h0
      · exact hs.2.1 h0
    exact .rests hs _ (not_waiting .noButtons rfl (by decide) (by decide))
      (not_startsWait_of_noButtons rfl b)
  rename_i h0
  split
  · rename_i h3
    exact .waits (.inr ⟨h, h0, h3⟩) _ (.inr rfl)
  · rename_i h3
    exact .rests (not_startsWait_of_both h (not_not.mp h3) _) m
      (not_waiting .middle h (by decide) (by decide)) (not_startsWait_of_both h (not_not.mp h3) _)

theorem idles_noop {m : MiddleButton} (h : m.mbuttonstate = .noop) (b : UInt32)
    (origin : MBComingFrom) (now : UInt64) (timeout : Bool) :
    Idles m b origin (m.advance b now timeout origin) := by
  simp only [advance, h]
  split
  · exact .rests (not_startsWait_of_noop h b _) _ (not_waiting .noButtons rfl (by decide) (by decide))
      (not_startsWait_of_noButtons rfl b)
  · exact .rests (not_startsWait_of_noop h b _) m (not_waiting .noop h (by decide) (by decide))
      (not_startsWait_of_noop h b _)

theorem idles_advance {m : MiddleButton} (h : ¬ m.Waiting) (b : UInt32) (origin : MBComingFrom)
    (now : UInt64) (timeout : Bool) : Idles m b origin (m.advance b now timeout origin) := by
  cases hst : m.mbuttonstate with
  | noButtons => exact idles_noButtons hst b origin now timeout
  | middle => exact idles_middle hst b origin now timeout
  | wait4Two => exact absurd (.inl hst) h
  | wait4None => exact absurd (.inr hst) h
  | noop => exact idles_noop hst b origin now timeout

end MiddleButton

namespace Synaptics

open MiddleButton

/-- `_buttonTimer`, `dragTimer` and `scrollTimer`. -/
inductive PadTimer where
  | button | drag | scroll
deriving DecidableEq, Repr

/-- The timer that is set or cancelled by an effect of `middleButton`. -/
def timerOf : ButtonEffect → Option PadTimer
  | .dispatch _ => none
  | .setTimer => some .button
  | .cancelTimer => some .button

namespace Pad

/-! ### Which timers are set or cancelled -/

def middleTimers (s : Pad) (buttons : UInt32) (now : UInt64) (origin : MBComingFrom) :
    List PadTimer := (s.called buttons now origin).effects.filterMap timerOf

/-- In `readButtons`. -/
def readTimers (s : Pad) (p : PadPacket) (now : UInt64) : List PadTimer :=
  if s.caps.clickpadtype = 0 ∨ p.w = 3 then
    (s.storeButtons p).middleTimers (s.physicalButtons p) now
      (if p.w = 3 then .passthru else .device)
  else []

/-- In `fingerDown`. -/
def fingerTimers (s : Pad) (p : PadPacket) (t : Touch) : List PadTimer :=
  if s.motion.lastf = 0 ∧ t.f > 0 then
    s.middleTimers (p.buttonsraw ||| s.passbuttons) t.now .cancel
  else []

/-- In `startMomentum`. -/
def momentumTimers (s : Pad) : List PadTimer :=
  if s.touchmode = .mtouch ∧ s.cfg.flag .momentumscroll = true ∧
      s.cfg.time .momentumscrolltimer ≠ 0 ∧
      (s.momentum.dyHistory.count : ℤ) > s.cfg.int .momentumscrollsamplesmin ∧
      s.momentum.timeHistory.newest 0 - s.momentum.timeHistory.oldest 0 ≠ 0 then
    [.scroll]
  else []

/-- In `endTouch`. -/
def endTouchTimers (s : Pad) : List PadTimer :=
  if (s.touchmode = .drag ∨ s.touchmode = .draglock) ∧
      (s.cfg.flag .draglock = true ∨ s.draglocktemp ≠ 0 ∨
        (s.caps.hasDragTimer = true ∧ s.cfg.time .dragexitdelay ≠ 0)) then
    if s.cfg.flag .draglock = false ∧ s.draglocktemp = 0 then [.drag] else []
  else []

/-- In `release`. -/
def releaseTimers (s : Pad) (t : Touch) : List PadTimer :=
  if s.isRelease t then
    s.momentumTimers ++ if (s.liftFinger t).isTap t then [] else (s.liftFinger t).endTouchTimers
  else []

/-- In `switchModes`. -/
def switchTimers (s : Pad) (t : Touch) : List PadTimer :=
  if s.touchmode = .dragnotouch ∧ s.isFingerTouch t.z then
    if s.caps.hasDragTimer then [.drag] else []
  else []

/-- In `handleTouch`. -/
def handleTimers (s : Pad) (t : Touch) (buttons : UInt32) : List PadTimer :=
  s.releaseTimers t ++ ((s.tracked t buttons).captureTouch t).switchTimers t

/-- In `dispatchTouch`. -/
def touchTimers (s : Pad) (t : Touch) (buttons : UInt32) : List PadTimer :=
  if s.isOutsideZone t then []
  else if s.zoneEnabled ∧ TouchMode.wait1release.code ≤ (s.watchZone t).touchmode.code then []
  else if (s.watchZone t).ignoreall then []
  else (s.watchZone t).handleTimers t buttons

/-- In `dispatchEventsWithPacket`. -/
def packetTimers (s : Pad) (p : PadPacket) (now : UInt64) : List PadTimer :=
  if s.isExtended p then []
  else if s.isPassThrough p then s.readTimers p now
  else
    s.readTimers p now ++
      (s.readButtons p now).1.fingerTimers p ((s.readButtons p now).1.readTouch p now) ++
      (s.prepared p now).pad.touchTimers (s.prepared p now).touch (s.prepared p now).buttons

/-- In `middleButton` and `dispatchEventsWithPacket`, for an event. -/
def eventTimers (s : Pad) : PadEvent → List PadTimer
  | .packet p now => s.packetTimers p now
  | .buttonTimer now =>
      middleTimers { s with machine := { s.machine with timerArmed := false } } s.lastbuttons now
        .timer
  | .dragTimer now =>
      middleTimers { s with touchmode := .notouch, dragArmed := false } s.lastbuttons now .passthru
  | _ => []

/-! ### The button timer -/

/-- A call of the emulation begins to wait. -/
def Waits (s : Pad) (buttons : UInt32) (origin : MBComingFrom) : Prop :=
  s.emulates origin ∧ s.machine.StartsWait buttons origin

instance (s : Pad) (buttons : UInt32) (origin : MBComingFrom) : Decidable (s.Waits buttons origin) :=
  inferInstanceAs (Decidable (_ ∧ _))

/-- What a call does to an emulation that is not waiting. -/
structure CallIdles (s : Pad) (b : UInt32) (now : UInt64) (origin : MBComingFrom) : Prop where
  button : .button ∈ s.middleTimers b now origin ↔ s.Waits b origin
  waiting : (s.middleButton b now origin).1.machine.Waiting ↔ s.Waits b origin
  again : s.emulates origin → ¬ s.Waits b origin →
    ¬ (s.middleButton b now origin).1.machine.StartsWait b .cancel

theorem callIdles {s : Pad} (h : ¬ s.machine.Waiting) (b : UInt32) (now : UInt64)
    (origin : MBComingFrom) : CallIdles s b now origin := by
  by_cases hem : s.emulates origin
  swap
  · have hcalled : s.called b now origin = ⟨s.machine, [], b⟩ := if_neg hem
    refine ⟨?_, ?_, fun he => absurd he hem⟩
    · rw [middleTimers, hcalled]
      exact iff_of_false List.not_mem_nil fun hw => hem hw.1
    · rw [middleButton, hcalled]
      exact iff_of_false h fun hw => hem hw.1
  have hidle := idles_advance h b origin now
    (s.machine.timedOut (s.cfg.time .maxmiddleclicktime) now origin)
  have hcalled : s.called b now origin =
      s.machine.call (s.cfg.time .maxmiddleclicktime) b now origin := if_pos hem
  have htimers : s.middleTimers b now origin = (s.machine.advance b now
      (s.machine.timedOut (s.cfg.time .maxmiddleclicktime) now origin) origin).2.filterMap
        timerOf := by
    rw [middleTimers, hcalled]
    rfl
  have hmachine : (s.middleButton b now origin).1.machine = (s.machine.advance b now
      (s.machine.timedOut (s.cfg.time .maxmiddleclicktime) now origin) origin).1 := by
    rw [middleButton, hcalled]
    rfl
  generalize s.machine.advance b now
    (s.machine.timedOut (s.cfg.time .maxmiddleclicktime) now origin) origin = r
    at hidle htimers hmachine
  cases hidle with
  | waits hs m' hw =>
      refine ⟨?_, ?_, fun _ hn => absurd ⟨hem, hs⟩ hn⟩
      · rw [htimers]
        exact iff_of_true (List.mem_singleton_self _) ⟨hem, hs⟩
      · rw [hmachine]
        exact iff_of_true hw ⟨hem, hs⟩
  | rests hs m' hw hc =>
      refine ⟨?_, ?_, fun _ _ => ?_⟩
      · rw [htimers]
        exact iff_of_false List.not_mem_nil fun hs' => hs hs'.2
      · rw [hmachine]
        exact iff_of_false hw fun hs' => hs hs'.2
      · rw [hmachine]
        exact hc

theorem middleTimers_button {s : Pad} {b : UInt32} {now : UInt64} {origin : MBComingFrom}
    {timer : PadTimer} (h : timer ∈ s.middleTimers b now origin) : timer = .button := by
  obtain ⟨effect, -, he⟩ := List.mem_filterMap.mp h
  cases effect with
  | dispatch b => exact nomatch he
  | setTimer => exact (Option.some.inj he).symm
  | cancelTimer => exact (Option.some.inj he).symm

/-- A finger goes down in a normal packet. -/
def FingerCalls (s : Pad) (p : PadPacket) (now : UInt64) : Prop :=
  s.isNormal p ∧ s.motion.lastf = 0 ∧ (s.readTouch p now).f > 0

instance (s : Pad) (p : PadPacket) (now : UInt64) : Decidable (s.FingerCalls p now) :=
  inferInstanceAs (Decidable (_ ∧ _))

/-- A call of the emulation for the packet begins to wait: the one for the packet itself, or, if
there is none, the one for a finger. -/
def PacketWaits (s : Pad) (p : PadPacket) (now : UInt64) : Prop :=
  (¬ s.isExtended p ∧ s.callsEmulation p ∧
      s.machine.StartsWait (s.physicalButtons p) (if p.w = 3 then .passthru else .device)) ∨
    (¬ s.callsEmulation p ∧ s.FingerCalls p now ∧ s.Waits (s.physicalButtons p) .cancel)

instance (s : Pad) (p : PadPacket) (now : UInt64) : Decidable (s.PacketWaits p now) :=
  inferInstanceAs (Decidable (_ ∨ _))

/-- The call for the packet itself. -/
structure ReadIdles (s : Pad) (p : PadPacket) (now : UInt64) : Prop where
  button : .button ∈ s.readTimers p now ↔ s.callsEmulation p ∧
    s.machine.StartsWait (s.physicalButtons p) (if p.w = 3 then .passthru else .device)
  waiting : (s.readButtons p now).1.machine.Waiting ↔ s.callsEmulation p ∧
    s.machine.StartsWait (s.physicalButtons p) (if p.w = 3 then .passthru else .device)
  again : s.callsEmulation p →
    ¬ s.machine.StartsWait (s.physicalButtons p) (if p.w = 3 then .passthru else .device) →
    ¬ (s.readButtons p now).1.machine.StartsWait (s.physicalButtons p) .cancel
  unread : ¬ s.callsEmulation p → (s.readButtons p now).1.machine = s.machine

theorem readIdles {s : Pad} (h : ¬ s.machine.Waiting) (p : PadPacket) (now : UInt64) :
    ReadIdles s p now := by
  by_cases hc : s.caps.clickpadtype = 0 ∨ p.w = 3
  · have hcall := callIdles (s := s.storeButtons p) h (s.physicalButtons p) now
      (if p.w = 3 then .passthru else .device)
    have hwaits : (s.storeButtons p).Waits (s.physicalButtons p)
        (if p.w = 3 then .passthru else .device) ↔ s.callsEmulation p ∧
          s.machine.StartsWait (s.physicalButtons p) (if p.w = 3 then .passthru else .device) :=
      and_congr_left fun _ => (and_iff_right hc).symm
    have hread : s.readButtons p now = (s.storeButtons p).middleButton (s.physicalButtons p) now
        (if p.w = 3 then .passthru else .device) := if_pos hc
    refine ⟨?_, ?_, fun he hn => ?_, fun hn => ?_⟩
    · rw [readTimers, if_pos hc]
      exact hcall.button.trans hwaits
    · rw [hread]
      exact hcall.waiting.trans hwaits
    · rw [hread]
      exact hcall.again he.2 fun hw => hn hw.2
    · have hcalled : (s.storeButtons p).called (s.physicalButtons p) now
          (if p.w = 3 then .passthru else .device) = ⟨s.machine, [], s.physicalButtons p⟩ :=
        if_neg fun he => hn ⟨hc, he⟩
      rw [hread, middleButton, hcalled]
  · have hno : ¬ s.callsEmulation p := fun he => hc he.1
    have hread : s.readButtons p now = (s.storeButtons p, s.physicalButtons p) := if_neg hc
    refine ⟨?_, ?_, fun he => absurd he hno, fun _ => ?_⟩
    · rw [readTimers, if_neg hc]
      exact iff_of_false List.not_mem_nil fun he => hno he.1
    · rw [hread]
      exact iff_of_false h fun he => hno he.1
    · rw [hread]
      rfl

theorem motion_readButtons (s : Pad) (p : PadPacket) (now : UInt64) :
    (s.readButtons p now).1.motion = s.motion ∧
      p.buttonsraw ||| (s.readButtons p now).1.passbuttons = s.physicalButtons p := by
  rw [readButtons]
  split <;> exact ⟨rfl, rfl⟩

/-- The call for a finger, once the buttons have been read. -/
structure FingerIdles (s : Pad) (p : PadPacket) (t : Touch) (b : UInt32) : Prop where
  button : .button ∈ s.fingerTimers p t ↔
    (s.motion.lastf = 0 ∧ t.f > 0) ∧ s.Waits (p.buttonsraw ||| s.passbuttons) .cancel
  waiting : (s.fingerDown p t b).1.machine.Waiting ↔
    (s.motion.lastf = 0 ∧ t.f > 0) ∧ s.Waits (p.buttonsraw ||| s.passbuttons) .cancel

theorem fingerIdles {s : Pad} (h : ¬ s.machine.Waiting) (p : PadPacket) (t : Touch) (b : UInt32) :
    FingerIdles s p t b := by
  have hcall := callIdles h (p.buttonsraw ||| s.passbuttons) t.now .cancel
  by_cases hf : s.motion.lastf = 0 ∧ t.f > 0
  · refine ⟨?_, ?_⟩
    · rw [fingerTimers, if_pos hf, and_iff_right hf]
      exact hcall.button
    · rw [fingerDown, if_pos hf, and_iff_right hf]
      exact hcall.waiting
  · refine ⟨?_, ?_⟩
    · rw [fingerTimers, if_neg hf]
      exact iff_of_false List.not_mem_nil fun hw => hf hw.1
    · rw [fingerDown, if_neg hf]
      exact iff_of_false h fun hw => hf hw.1

/-- No button timer is used after the first early return. -/
theorem touchTimers_ne_button (s : Pad) (t : Touch) (b : UInt32) : .button ∉ s.touchTimers t b := by
  have hmomentum (r : Pad) : .button ∉ r.momentumTimers := by
    rw [momentumTimers]
    split <;> decide
  have hend (r : Pad) : .button ∉ r.endTouchTimers := by
    rw [endTouchTimers]
    split
    · split <;> decide
    · decide
  have hrelease (r : Pad) : .button ∉ r.releaseTimers t := by
    rw [releaseTimers]
    split
    · refine fun h => (List.mem_append.mp h).elim (hmomentum r) fun h => ?_
      split at h
      · exact absurd h List.not_mem_nil
      · exact hend _ h
    · decide
  have hswitch (r : Pad) : .button ∉ r.switchTimers t := by
    rw [switchTimers]
    split
    · split <;> decide
    · decide
  rw [touchTimers]
  split
  · decide
  split
  · decide
  split
  · decide
  · exact fun h => (List.mem_append.mp h).elim (hrelease _) (hswitch _)

/-- What a packet does to an emulation that is not waiting. -/
structure PacketIdles (s : Pad) (p : PadPacket) (now : UInt64) : Prop where
  button : .button ∈ s.packetTimers p now ↔ s.PacketWaits p now
  waiting : ¬ s.PacketWaits p now → ¬ (s.dispatchEventsWithPacket p now).machine.Waiting

/-- The machine is the one after the two calls. -/
theorem machine_dispatch_of_isNormal {s : Pad} {p : PadPacket} (hn : s.isNormal p) (now : UInt64) :
    (s.dispatchEventsWithPacket p now).machine =
      ((s.readButtons p now).1.fingerDown p ((s.readButtons p now).1.readTouch p now)
        (s.readButtons p now).2).1.machine := by
  have hposition (r : Pad) (b : UInt32) :
      (r.position p now b).pad.machine = (r.fingerDown p (r.readTouch p now) b).1.machine := by
    have hdown (q : Pad) (ds : List ℤ) (t : Touch) :
        ((q.dividing ds).fingerDown p t b).1.machine = (q.fingerDown p t b).1.machine := by
      rw [fingerDown, fingerDown]
      split
      · rename_i hf
        rw [if_pos (show q.motion.lastf = 0 ∧ t.f > 0 from hf)]
        rfl
      · rename_i hf
        rw [if_neg (show ¬ (q.motion.lastf = 0 ∧ t.f > 0) from hf)]
        rfl
    exact hdown _ _ _
  have hprepared : (s.prepared p now).pad.machine =
      ((s.readButtons p now).1.position p now (s.readButtons p now).2).pad.machine := by
    rw [prepared, prepare]
    split
    · exact (aside_clickPad _ p _ _).machine
    · rfl
  obtain ⟨-, -, htouch, -, -⟩ := machine_dispatchTouch (s.prepared p now).pad
    (s.prepared p now).touch (s.prepared p now).buttons
  rw [dispatch_of_isNormal hn, htouch, hprepared, hposition]

/-- The two calls of a normal packet. -/
theorem packetIdles_normal {s : Pad} (h : ¬ s.machine.Waiting) {p : PadPacket}
    (hn : s.isNormal p) (now : UInt64) : PacketIdles s p now := by
  have hread := readIdles h p now
  obtain ⟨hmotion, hphysical⟩ := s.motion_readButtons p now
  have hcore := s.touchCore_readButtons p now
  have hemulates : (s.readButtons p now).1.emulates .cancel ↔ s.emulates .cancel := by
    rw [emulates, emulates, show (s.readButtons p now).1.cfg = s.cfg from
      congrArg TouchCore.cfg hcore, show (s.readButtons p now).1.ignoreall = s.ignoreall from
      congrArg TouchCore.ignoreall hcore]
  have hmem : .button ∈ s.packetTimers p now ↔ .button ∈ s.readTimers p now ∨
      .button ∈ (s.readButtons p now).1.fingerTimers p
        ((s.readButtons p now).1.readTouch p now) := by
    rw [packetTimers, if_neg hn.1, if_neg hn.2, List.mem_append, List.mem_append,
      or_iff_left (touchTimers_ne_button _ _ _)]
  -- the call for the packet itself comes first
  by_cases hfirst : s.callsEmulation p ∧
      s.machine.StartsWait (s.physicalButtons p) (if p.w = 3 then .passthru else .device)
  · have hwaits : s.PacketWaits p now := .inl ⟨hn.1, hfirst⟩
    exact ⟨iff_of_true (hmem.mpr (.inl (hread.button.mpr hfirst))) hwaits,
      fun hno => absurd hwaits hno⟩
  have hfinger := fingerIdles (fun hw => hfirst (hread.waiting.mp hw)) p
    ((s.readButtons p now).1.readTouch p now) (s.readButtons p now).2
  have hsecond : (((s.readButtons p now).1.motion.lastf = 0 ∧
        ((s.readButtons p now).1.readTouch p now).f > 0) ∧
      (s.readButtons p now).1.Waits (p.buttonsraw ||| (s.readButtons p now).1.passbuttons)
        .cancel) ↔ s.PacketWaits p now := by
    rw [hmotion, readTouch_readButtons, hphysical, Waits, hemulates]
    by_cases hc : s.callsEmulation p
    · have hno := hread.again hc fun hs => hfirst ⟨hc, hs⟩
      refine iff_of_false (fun hw => hno hw.2.2) ?_
      rintro (hw | hw)
      · exact hfirst hw.2
      · exact hw.1 hc
    · rw [hread.unread hc]
      constructor
      · exact fun hw => .inr ⟨hc, ⟨hn, hw.1⟩, hw.2⟩
      · rintro (hw | hw)
        · exact absurd hw.2.1 hc
        · exact ⟨hw.2.1.2, hw.2.2⟩
  refine ⟨?_, fun hno => ?_⟩
  · rw [hmem, or_iff_right fun hb => hfirst (hread.button.mp hb), hfinger.button]
    exact hsecond
  · rw [machine_dispatch_of_isNormal hn]
    exact fun hw => hno (hsecond.mp (hfinger.waiting.mp hw))

theorem machine_ite {s a b : Pad} {c : Prop} [Decidable c] (ha : a.machine = s.machine)
    (hb : b.machine = s.machine) : (if c then a else b).machine = s.machine := by
  split
  · exact ha
  · exact hb

theorem machine_dispatchButtons (s : Pad) (b : UInt32) :
    (s.dispatchButtons b).machine = s.machine := machine_ite rfl rfl

theorem machine_dispatchEventsWithPacketEW (s : Pad) (p : PadPacket) (now : UInt64) :
    (s.dispatchEventsWithPacketEW p now).machine = s.machine := by
  have hmove (r : Pad) (t : Touch) (b : UInt32) : (r.moveSecond t b).machine = r.machine :=
    machine_ite rfl rfl
  have htrack (r : Pad) (t : Touch) (b : UInt32) : (r.trackSecond p t b).machine = r.machine := by
    rw [trackSecond]
    refine machine_ite (machine_ite (hmove r t b) rfl) (machine_ite ?_ ?_)
    · exact (machine_dispatchButtons _ _).trans (r.aside_clickSecond p t b).machine
    · exact r.machine_dispatchButtons b
  exact machine_ite rfl (machine_ite rfl (machine_ite rfl (machine_ite rfl (htrack _ _ _))))

theorem machine_passThrough (s : Pad) (p : PadPacket) (b : UInt32) :
    (s.passThrough p b).machine = s.machine := by
  have hpass (r : Pad) (dx dy : ℤ) (b : UInt32) : (r.passMove dx dy b).machine = r.machine :=
    machine_ite rfl (machine_ite rfl rfl)
  exact machine_ite (hpass _ _ _ _) (hpass s _ _ _)

theorem packetIdles {s : Pad} (h : ¬ s.machine.Waiting) (p : PadPacket) (now : UInt64) :
    PacketIdles s p now := by
  by_cases hex : s.isExtended p
  · have hno : ¬ s.PacketWaits p now := by
      rintro (hw | hw)
      · exact hw.1 hex
      · exact hw.2.1.1.1 hex
    refine ⟨?_, fun _ => ?_⟩
    · rw [packetTimers, if_pos hex]
      exact iff_of_false List.not_mem_nil hno
    · rw [dispatchEventsWithPacket, if_pos hex, machine_dispatchEventsWithPacketEW]
      exact h
  by_cases hpass : s.isPassThrough p
  · have hread := readIdles h p now
    have hwaits : (s.callsEmulation p ∧ s.machine.StartsWait (s.physicalButtons p)
        (if p.w = 3 then .passthru else .device)) ↔ s.PacketWaits p now := by
      constructor
      · exact fun hw => .inl ⟨hex, hw⟩
      · rintro (hw | hw)
        · exact hw.2
        · exact absurd hpass hw.2.1.1.2
    refine ⟨?_, fun hno => ?_⟩
    · rw [packetTimers, if_neg hex, if_pos hpass]
      exact hread.button.trans hwaits
    · rw [dispatchEventsWithPacket, if_neg hex, if_pos hpass, machine_passThrough]
      exact fun hw => hno (hwaits.mp (hread.waiting.mp hw))
  · exact packetIdles_normal h ⟨hex, hpass⟩ now

/-! ### Other events leave the emulation alone -/

theorem machine_onScrollTimer (s : Pad) : s.onScrollTimer.machine = s.machine := by
  have hgo (r : Pad) (dy : ℤ) : (r.scrollMomentum dy).machine = r.machine := by
    rw [scrollMomentum, dispatchScroll]
    rfl
  rw [onScrollTimer]
  refine machine_ite rfl (machine_ite ?_ rfl)
  exact hgo _ _

theorem machine_notifyKeyPressed (s : Pad) (adbKeyCode : UInt8) (goingDown : Bool)
    (time : UInt64) : (s.notifyKeyPressed adbKeyCode goingDown time).machine = s.machine := by
  rw [notifyKeyPressed]
  split
  · split <;> rfl
  · rfl

theorem machine_setTouchpadModeByte (s : Pad) : s.setTouchpadModeByte.machine = s.machine :=
  machine_ite rfl rfl

theorem machine_setParamPropertiesGated (s : Pad) (d : Dictionary) :
    (s.setParamPropertiesGated d).machine = s.machine := by
  let read : Pad :=
    { s with cfg := s.cfg.read d, touchPadModeByte := s.modeByteAfter (s.cfg.read d) d }
  let sent : Pad :=
    if read.touchPadModeByte ≠ s.touchPadModeByte then read.setTouchpadModeByte else read
  have hsent : sent.machine = s.machine := machine_ite (machine_setTouchpadModeByte read) rfl
  have hlast : (s.setParamPropertiesGated d).machine = sent.machine :=
    machine_ite (sameElse_updateTouchpadLED _).machine rfl
  exact hlast.trans hsent

theorem machine_initTouchPad (s : Pad) : s.initTouchPad.machine = s.machine :=
  (sameElse_updateTouchpadLED _).machine.trans (machine_setTouchpadModeByte _)

theorem machine_start (s : Pad) (q : Query) : (s.start q).machine = s.machine :=
  (sameElse_updateTouchpadLED _).machine.trans (machine_setTouchpadModeByte _)

/-! ### The drag timer -/

theorem hasDragTimer_of_endTouch {s : Pad} (h : .drag ∈ s.endTouchTimers) :
    s.caps.hasDragTimer = true := by
  rw [endTouchTimers] at h
  split at h
  · rename_i hgo
    split at h
    · rename_i hlock
      rcases hgo.2 with hl | ht | hd
      · exact absurd (hlock.1.symm.trans hl) Bool.false_ne_true
      · exact absurd hlock.2 ht
      · exact hd.1
    · exact absurd h List.not_mem_nil
  · exact absurd h List.not_mem_nil

theorem hasDragTimer_of_release {s : Pad} {t : Touch} (h : .drag ∈ s.releaseTimers t) :
    s.caps.hasDragTimer = true := by
  have hmomentum : .drag ∉ s.momentumTimers := by
    rw [momentumTimers]
    split <;> decide
  rw [releaseTimers] at h
  split at h
  · replace h := (List.mem_append.mp h).resolve_left hmomentum
    split at h
    · exact absurd h List.not_mem_nil
    · exact hasDragTimer_of_endTouch (s := s.liftFinger t) h
  · exact absurd h List.not_mem_nil

theorem hasDragTimer_of_switch {s : Pad} {t : Touch} (h : .drag ∈ s.switchTimers t) :
    s.caps.hasDragTimer = true := by
  rw [switchTimers] at h
  split at h
  · split at h
    · assumption
    · exact absurd h List.not_mem_nil
  · exact absurd h List.not_mem_nil

theorem hasDragTimer_of_touch {s : Pad} {t : Touch} {b : UInt32} (h : .drag ∈ s.touchTimers t b) :
    s.caps.hasDragTimer = true := by
  have hzone : (s.watchZone t).caps = s.caps := (s.sameElse_watchZone t).caps
  have hcaptured (r : Pad) : ((r.tracked t b).captureTouch t).caps = r.caps :=
    (sameButtons_captureTouch _ t).caps.trans
      ((sameButtons_track _ t _).caps.trans (r.sameButtons_release t b).caps)
  rw [touchTimers] at h
  split at h
  · exact absurd h List.not_mem_nil
  split at h
  · exact absurd h List.not_mem_nil
  split at h
  · exact absurd h List.not_mem_nil
  · rw [← hzone]
    rcases List.mem_append.mp h with h | h
    · exact hasDragTimer_of_release h
    · exact (congrArg Capabilities.hasDragTimer (hcaptured _)).symm.trans
        (hasDragTimer_of_switch h)

/-- The drag timer is only used if it exists. -/
theorem hasDragTimer_of_packet {s : Pad} {p : PadPacket} {now : UInt64}
    (h : .drag ∈ s.packetTimers p now) : s.caps.hasDragTimer = true := by
  have hread : .drag ∉ s.readTimers p now := by
    rw [readTimers]
    split
    · exact fun hm => nomatch middleTimers_button hm
    · exact List.not_mem_nil
  have hfinger (r : Pad) (t : Touch) : .drag ∉ r.fingerTimers p t := by
    rw [fingerTimers]
    split
    · exact fun hm => nomatch middleTimers_button hm
    · exact List.not_mem_nil
  have hcaps : (s.prepared p now).pad.caps = s.caps :=
    congrArg TouchCore.caps (s.touchCore_prepared p now)
  rw [packetTimers] at h
  split at h
  · exact absurd h List.not_mem_nil
  split at h
  · exact absurd h hread
  · rcases List.mem_append.mp h with h | h
    · exact absurd h fun hm => (List.mem_append.mp hm).elim hread (hfinger _ _)
    · exact (congrArg Capabilities.hasDragTimer hcaps).symm.trans (hasDragTimer_of_touch h)

end Pad

/-! ### Runs -/

/-- The driver, and whether `start` has created its button timer. -/
structure TimedPad where
  pad : Pad
  hasButtonTimer : Bool

namespace TimedPad

open Pad

/-- The driver after `start`, with the configuration in force. -/
def started (s : Pad) (q : Query) : TimedPad := ⟨s.start q, s.cfg.int .buttonCount ≥ 3⟩

/-- `start` creates the scroll timer in any case. -/
def Created (k : TimedPad) : PadTimer → Prop
  | .button => k.hasButtonTimer = true
  | .drag => k.pad.caps.hasDragTimer = true
  | .scroll => True

instance (k : TimedPad) (timer : PadTimer) : Decidable (k.Created timer) :=
  match timer with
  | .button => inferInstanceAs (Decidable (_ = _))
  | .drag => inferInstanceAs (Decidable (_ = _))
  | .scroll => inferInstanceAs (Decidable True)

/-- A timer fires only if it exists and is running. -/
def Enabled (k : TimedPad) : PadEvent → Prop
  | .buttonTimer _ => k.hasButtonTimer = true ∧ k.pad.machine.timerArmed = true
  | .dragTimer _ => k.pad.dragArmed = true
  | _ => True

instance (k : TimedPad) (e : PadEvent) : Decidable (k.Enabled e) :=
  match e with
  | .buttonTimer _ => inferInstanceAs (Decidable (_ ∧ _))
  | .dragTimer _ => inferInstanceAs (Decidable (_ = _))
  | .packet _ _ => inferInstanceAs (Decidable True)
  | .scrollTimer => inferInstanceAs (Decidable True)
  | .setDisableTouchpad _ => inferInstanceAs (Decidable True)
  | .notifyKeyPressed _ _ _ => inferInstanceAs (Decidable True)
  | .notification _ _ => inferInstanceAs (Decidable True)
  | .setParamProperties _ => inferInstanceAs (Decidable True)
  | .wake => inferInstanceAs (Decidable True)

def step (k : TimedPad) (e : PadEvent) : Option TimedPad :=
  if k.Enabled e then some ⟨k.pad.handle e, k.hasButtonTimer⟩ else none

/-- Only timers that exist are used. -/
def UsesCreated (k : TimedPad) (e : PadEvent) : Prop :=
  ∀ timer ∈ k.pad.eventTimers e, k.Created timer

instance (k : TimedPad) (e : PadEvent) : Decidable (k.UsesCreated e) :=
  inferInstanceAs (Decidable (∀ _ ∈ _, _))

/-- The event makes the emulation wait. -/
def Waits (k : TimedPad) : PadEvent → Prop
  | .packet p now => k.pad.PacketWaits p now
  | .dragTimer _ => k.pad.Waits k.pad.lastbuttons .passthru
  | _ => False

instance (k : TimedPad) (e : PadEvent) : Decidable (k.Waits e) :=
  match e with
  | .packet _ _ => inferInstanceAs (Decidable (PacketWaits _ _ _))
  | .dragTimer _ => inferInstanceAs (Decidable (Pad.Waits _ _ _))
  | .buttonTimer _ => inferInstanceAs (Decidable False)
  | .scrollTimer => inferInstanceAs (Decidable False)
  | .setDisableTouchpad _ => inferInstanceAs (Decidable False)
  | .notifyKeyPressed _ _ _ => inferInstanceAs (Decidable False)
  | .notification _ _ => inferInstanceAs (Decidable False)
  | .setParamProperties _ => inferInstanceAs (Decidable False)
  | .wake => inferInstanceAs (Decidable False)

/-- There is a button timer to wait for. -/
def WaitsForTimer (k : TimedPad) (e : PadEvent) : Prop := k.Waits e → k.hasButtonTimer = true

instance (k : TimedPad) (e : PadEvent) : Decidable (k.WaitsForTimer e) :=
  inferInstanceAs (Decidable (_ → _))

/-- Without a button timer the emulation does not wait. -/
def Inv (k : TimedPad) : Prop := k.hasButtonTimer = false → ¬ k.pad.machine.Waiting

/-- The button timer is used just when the emulation begins to wait. -/
theorem button_mem_eventTimers {k : TimedPad} (h : ¬ k.pad.machine.Waiting) {e : PadEvent}
    (he : ∀ now, e ≠ .buttonTimer now) : .button ∈ k.pad.eventTimers e ↔ k.Waits e := by
  cases e with
  | packet p now => exact (packetIdles h p now).button
  | buttonTimer now => exact absurd rfl (he now)
  | dragTimer now =>
      exact (callIdles (s := { k.pad with touchmode := .notouch, dragArmed := false }) h
        k.pad.lastbuttons now .passthru).button
  | scrollTimer => exact iff_of_false List.not_mem_nil id
  | setDisableTouchpad enable => exact iff_of_false List.not_mem_nil id
  | notifyKeyPressed adbKeyCode goingDown time => exact iff_of_false List.not_mem_nil id
  | notification device notice => exact iff_of_false List.not_mem_nil id
  | setParamProperties d => exact iff_of_false List.not_mem_nil id
  | wake => exact iff_of_false List.not_mem_nil id

theorem drag_mem_eventTimers {s : Pad} {e : PadEvent} (h : .drag ∈ s.eventTimers e) :
    s.caps.hasDragTimer = true := by
  cases e with
  | packet p now => exact hasDragTimer_of_packet h
  | buttonTimer now => exact nomatch middleTimers_button h
  | dragTimer now => exact nomatch middleTimers_button h
  | scrollTimer => exact absurd h List.not_mem_nil
  | setDisableTouchpad enable => exact absurd h List.not_mem_nil
  | notifyKeyPressed adbKeyCode goingDown time => exact absurd h List.not_mem_nil
  | notification device notice => exact absurd h List.not_mem_nil
  | setParamProperties d => exact absurd h List.not_mem_nil
  | wake => exact absurd h List.not_mem_nil

theorem ne_buttonTimer {k : TimedPad} {e : PadEvent} (hen : k.Enabled e)
    (hno : k.hasButtonTimer = false) (now : UInt64) : e ≠ .buttonTimer now := by
  rintro rfl
  exact absurd (hno.symm.trans hen.1) Bool.false_ne_true

theorem usesCreated_iff {k : TimedPad} (hk : k.Inv) {e : PadEvent} (hen : k.Enabled e) :
    k.UsesCreated e ↔ k.WaitsForTimer e := by
  cases hno : k.hasButtonTimer with
  | true =>
      refine iff_of_true (fun timer ht => ?_) fun _ => hno
      cases timer with
      | button => exact hno
      | drag => exact drag_mem_eventTimers ht
      | scroll => trivial
  | false =>
      have hbutton := button_mem_eventTimers (hk hno) (ne_buttonTimer hen hno)
      constructor
      · exact fun hu hw => hu .button (hbutton.mpr hw)
      · intro hw timer ht
        cases timer with
        | button => exact hw (hbutton.mp ht)
        | drag => exact drag_mem_eventTimers ht
        | scroll => trivial

theorem inv_step {k k' : TimedPad} {e : PadEvent} (hk : k.Inv) (hg : k.WaitsForTimer e)
    (hs : k.step e = some k') : k'.Inv := by
  obtain ⟨hen, hs⟩ := Option.ite_none_right_eq_some.mp hs
  cases hs
  intro hno
  have hwait : ¬ k.Waits e := fun hw => absurd (hno.symm.trans (hg hw)) Bool.false_ne_true
  have hne := ne_buttonTimer hen hno
  have hstays {r : Pad} (hr : r.machine = k.pad.machine) : ¬ r.machine.Waiting := by
    rw [hr]
    exact hk hno
  cases e with
  | packet p now => exact (packetIdles (s := { k.pad with log := [] }) (hk hno) p now).waiting hwait
  | buttonTimer now => exact absurd rfl (hne now)
  | dragTimer now =>
      have hcall := callIdles
        (s := { k.pad with log := [], touchmode := .notouch, dragArmed := false }) (hk hno)
        k.pad.lastbuttons now .passthru
      change ¬ (onDragTimer { k.pad with log := [] } now).machine.Waiting
      rw [onDragTimer, machine_dispatchButtons]
      exact fun hw => hwait (hcall.waiting.mp hw)
  | scrollTimer => exact hstays (machine_onScrollTimer _)
  | setDisableTouchpad enable => exact hstays (setDisableTouchpad_spec _ enable).1.machine
  | notifyKeyPressed adbKeyCode goingDown time =>
      exact hstays (machine_notifyKeyPressed _ adbKeyCode goingDown time)
  | notification device notice => exact hstays (notification_spec _ device notice).1.machine
  | setParamProperties d => exact hstays (machine_setParamPropertiesGated _ d)
  | wake => exact hstays (machine_initTouchPad _)

/-- The emulation has not begun before the start. -/
theorem inv_started {s : Pad} (h : s.machine = .initial) (q : Query) : (started s q).Inv := by
  intro _
  change ¬ (s.start q).machine.Waiting
  rw [machine_start, h]
  decide

/-- **No timer is used that was not created** just when, without a button timer, no event makes the
emulation wait. -/
theorem timers_iff (s : Pad) (h : s.machine = .initial) (q : Query) (es : List PadEvent)
    (k : TimedPad) (hr : Transition.run step (started s q) es = some k) :
    Transition.Guarded step UsesCreated (started s q) es ↔
      Transition.Guarded step WaitsForTimer (started s q) es := by
  refine (Transition.guarded_iff (I := Inv) (fun k e k' hk hg hs => inv_step hk hg hs) ?_ es
    (inv_started h q) hr).symm
  rintro k e k' hk hs
  exact (usesCreated_iff hk (Option.ite_none_right_eq_some.mp hs).1).symm

/-- `ButtonCount` is three. -/
def threeButtons : Dictionary := fun name =>
  if name = "ButtonCount" then some (.number 3) else none

/-- The touchpad does not reply. -/
def noReplies : Query := ⟨fun _ => none, 0x47, false, false⟩

/-- The left button is pressed. -/
def press : PadEvent := .packet (padPacket 1 0 0 0) 1000

theorem timers_iff_press :
    Transition.Guarded step UsesCreated (started (created.setParamPropertiesGated threeButtons) noReplies)
      [press] :=
  (timers_iff (created.setParamPropertiesGated threeButtons) rfl noReplies [press]
    ⟨((created.setParamPropertiesGated threeButtons).start noReplies).handle press, true⟩
    rfl).mpr (by decide +kernel)

/-- `ButtonCount` becomes three after the start. -/
def pressLater : List PadEvent := [.setParamProperties threeButtons, press]

theorem null_button_timer :
    (Transition.run step (started created noReplies) pressLater).isSome = true ∧
      ¬ Transition.Guarded step UsesCreated (started created noReplies) pressLater := by
  decide +kernel

end TimedPad

end Synaptics

end VoodooPS2
