import VoodooPS2.Synaptics.Conservation
import VoodooPS2.Synaptics.Reenabling

/-! # Where a movement is measured from

The last position is saved at the very end of the handling of a packet, and "always": but the early
returns for typing and for `ignoreall` do not come there.  If one of them is taken while a finger is
being followed, the next packet is measured from the position before.  Deltas that are ignored are
measured from the packet itself, and a remainder that is larger than the divisor is reported then.

`TracedPad` is a run with the last normal packet as it was read.  `measured_from_previous`: where
neither happens, a movement that is dispatched is measured from the packet before. -/

namespace VoodooPS2.Synaptics

/-- Smoothing and unsmoothing are off. -/
def Config.Plain (c : Config) : Prop := c.bool .smoothinput = false ∧ c.bool .unsmoothinput = false

instance (c : Config) : Decidable c.Plain := inferInstanceAs (Decidable (_ ∧ _))

namespace Pad

/-! ### Without filters -/

theorem touch_of_plain {s : Pad} (h : s.cfg.Plain) (p : PadPacket) (now : UInt64) :
    (s.prepared p now).touch = s.readTouch p now := by
  have hcfg := s.cfg_unfiltered p now
  obtain ⟨hsmooth, hunsmooth⟩ : (s.unfiltered p now).cfg.Plain := hcfg ▸ h
  have hu (m : Motion) (t : Touch) : m.unsmooth (s.unfiltered p now).cfg t = (m, t) :=
    if_neg (Bool.eq_false_iff.mp hunsmooth)
  have ha (m : Motion) (t : Touch) : m.average (s.unfiltered p now).cfg t = (m, t) :=
    if_neg (Bool.eq_false_iff.mp hsmooth)
  rw [(s.still_prepared p now).2, smooth, hu]
  dsimp only
  rw [ha]

/-! ### Motion -/

/-- Unless the arm accumulates, nothing moves in the modes of pointer motion. -/
theorem track_of_not_takesMove {s : Pad} {t : Touch} (hm : s.touchmode.IsMove)
    (h : ¬ s.TakesMove t) (b : UInt32) :
    (s.track t b).dx = 0 ∧ (s.track t b).dy = 0 ∧
      motionsOf (s.track t b).pad.log = motionsOf s.log := by
  have hgo (b : UInt32) : (s.trackMove t b).dx = 0 ∧ (s.trackMove t b).dy = 0 ∧
      motionsOf (s.trackMove t b).pad.log = motionsOf s.log := by
    rw [trackMove]
    split
    · rename_i harm
      have hbogus : s.isBogus t := not_not.mp fun hb => h ⟨hm, harm.1, harm.2, hb⟩
      have hdelta : s.moveDelta t b = _ := if_pos hbogus
      rw [hdelta]
      exact ⟨rfl, rfl, (still_dividing s _).motions⟩
    · exact ⟨rfl, rfl, rfl⟩
  rcases hm with hm | hm | hm <;> rw [track, hm] <;> exact hgo _

/-- Quotients that are zero are not movements. -/
theorem motions_handleTouch {s : Pad} {t : Touch} {b : UInt32}
    (hx : (s.progress t b).dx.tdiv (s.cfg.int .divisorx) = 0)
    (hy : (s.progress t b).dy.tdiv (s.cfg.int .divisory) = 0) :
    motionsOf (s.handleTouch t b).log = motionsOf (s.progress t b).pad.log := by
  have hcfg : (s.switched t b).cfg = s.cfg := s.cfg_captured t b
  have hcaptured := (still_captureTouch (s.progress t b).pad t).motions
  have hdeliver := (still_deliver_of_small (s := s.switched t b) (hcfg ▸ hx) (hcfg ▸ hy)
    (s.progress t b).buttons).motions
  rw [log_switched] at hdeliver
  exact hdeliver.trans hcaptured

/-- The disable zone is not looked at while a finger is being followed. -/
theorem watchZone_of_isMove {s : Pad} (h : s.touchmode.IsMove) (t : Touch) : s.watchZone t = s := by
  have hzone : s.disableZone t = s := by
    rcases h with hm | hm | hm <;> rw [disableZone, hm]
  rw [watchZone, hzone, ite_self]

/-- It does not lead to a mode of pointer motion. -/
theorem isMove_of_watchZone {s : Pad} {t : Touch} (h : (s.watchZone t).touchmode.IsMove) :
    s.touchmode.IsMove := by
  rw [watchZone] at h
  split at h
  · rcases s.touchmode_disableZone t with hm | hm | hm
    · exact hm ▸ h
    · exact absurd h (by rw [hm]; decide)
    · refine absurd ?_ hm
      rcases h with h | h | h <;> rw [h] <;> decide
  · exact h

theorem touchmode_prepared (s : Pad) (p : PadPacket) (now : UInt64) :
    (s.prepared p now).pad.touchmode = s.touchmode :=
  congrArg TouchCore.touchmode (s.touchCore_prepared p now)

/-- A finger that is being followed at the switch over the modes has been followed before. -/
theorem isMove_of_atSwitch {s : Pad} {p : PadPacket} {now : UInt64}
    (h : (s.atSwitch p now).touchmode.IsMove) : s.touchmode.IsMove := by
  have htouch : (s.atSwitch p now).touchmode.isTouchMode = true := by
    rcases h with h | h | h <;> rw [h] <;> rfl
  have hrelease := not_isRelease_of_beforeTrack htouch
  have hzoned : (s.zoned p now).touchmode.IsMove := by
    rcases (s.zoned p now).touchmode_beforeTrack (s.prepared p now).touch
      (s.prepared p now).buttons with hm | ⟨-, hm⟩
    · rw [release_of_not hrelease] at hm
      exact hm ▸ h
    · exact absurd (show TouchMode.IsMove .notouch from hm ▸ h) (by decide)
  exact s.touchmode_prepared p now ▸ isMove_of_watchZone hzoned

/-- The packet is skipped while a finger is being followed. -/
def Skips (s : Pad) (p : PadPacket) (now : UInt64) : Prop :=
  s.touchmode.IsMove ∧ (s.isRejected p now ∨ s.ignoreall = true)

instance (s : Pad) (p : PadPacket) (now : UInt64) : Decidable (s.Skips p now) :=
  inferInstanceAs (Decidable (_ ∧ _))

/-- A packet that is not handled, and after which a finger is followed, is skipped. -/
theorem skips_of_not_handled {s : Pad} {p : PadPacket} {now : UInt64} (hn : s.isNormal p)
    (h : ¬ s.isHandled p now) (hm : (s.dispatchEventsWithPacket p now).touchmode.IsMove) :
    s.Skips p now := by
  have hmode := s.touchmode_prepared p now
  rw [dispatch_of_isNormal hn, dispatchTouch] at hm
  split at hm
  · rename_i hrejected
    exact ⟨hmode ▸ hm, .inl hrejected⟩
  rename_i hrejected
  split at hm
  · rename_i hzone
    refine absurd hzone.2 (not_le.mpr ?_)
    rcases hm with hm | hm | hm <;> rw [hm] <;> decide
  rename_i hzone
  split at hm
  · rename_i hignore
    have hmove := isMove_of_watchZone hm
    rw [watchZone_of_isMove hmove] at hignore
    refine ⟨hmode ▸ hmove, .inr ?_⟩
    rw [← hignore]
    exact (congrArg TouchCore.ignoreall (s.touchCore_prepared p now)).symm
  · rename_i hignore
    exact absurd ⟨hn, hrejected, hzone, Bool.eq_false_of_not_eq_true hignore⟩ h

/-- The packet moves the pointer, in one of the modes of pointer motion. -/
def MovesPointer (s : Pad) (p : PadPacket) (now : UInt64) : Prop :=
  s.isHandled p now ∧ (s.atSwitch p now).touchmode.IsMove ∧
    motionsOf (s.dispatchEventsWithPacket p now).log ≠ motionsOf s.log

instance (s : Pad) (p : PadPacket) (now : UInt64) : Decidable (s.MovesPointer p now) :=
  inferInstanceAs (Decidable (_ ∧ _))

/-- The packet moves the pointer by what is left of a movement, while its delta is ignored. -/
def MovesByRest (s : Pad) : Prop :=
  s.motion.ignoredeltas ≠ 0 ∧
    ¬ (s.motion.xrest.tdiv (s.cfg.int .divisorx) = 0 ∧
      s.motion.yrest.tdiv (s.cfg.int .divisory) = 0)

instance (s : Pad) : Decidable s.MovesByRest := inferInstanceAs (Decidable (_ ∧ _))

end Pad

/-- A run, with the last normal packet as it was read. -/
structure TracedPad where
  pad : Pad
  previous : Option Touch
  /-- the last packet was skipped while a finger was being followed -/
  stale : Bool

namespace TracedPad

open Pad

/-- Normal packets, key notifications and messages that enable or disable. -/
def Enabled (k : TracedPad) : PadEvent → Prop
  | .packet p _ => k.pad.isNormal p
  | .setDisableTouchpad _ => True
  | .notifyKeyPressed _ _ _ => True
  | _ => False

instance (k : TracedPad) : (e : PadEvent) → Decidable (k.Enabled e)
  | .packet p _ => inferInstanceAs (Decidable (k.pad.isNormal p))
  | .setDisableTouchpad _ => .isTrue trivial
  | .notifyKeyPressed _ _ _ => .isTrue trivial
  | .buttonTimer _ => .isFalse id
  | .dragTimer _ => .isFalse id
  | .scrollTimer => .isFalse id
  | .notification _ _ => .isFalse id
  | .setParamProperties _ => .isFalse id
  | .wake => .isFalse id

/-- What is known of the last packet after an event. -/
def next (k : TracedPad) (e : PadEvent) : TracedPad :=
  match e with
  | .packet p now =>
      { pad := k.pad.react e
        previous := some (k.pad.readTouch p now)
        stale := if k.pad.isHandled p now then false else k.stale || decide (k.pad.Skips p now) }
  | _ => { k with pad := k.pad.react e }

def step (k : TracedPad) (e : PadEvent) : Option TracedPad :=
  if k.Enabled e then some (k.next e) else none

def started (cfg : Config) (caps : Capabilities) : TracedPad := ⟨.initial cfg caps, none, false⟩

/-- What the packet is measured from is the packet before, of as many fingers. -/
def MeasuredFrom (s : Pad) (p : PadPacket) (now : UInt64) (q : Touch) : Prop :=
  (s.atSwitch p now).motion.lastx = q.x ∧ (s.atSwitch p now).motion.lasty = q.y ∧
    (s.readTouch p now).f = q.f

instance (s : Pad) (p : PadPacket) (now : UInt64) (q : Touch) :
    Decidable (MeasuredFrom s p now q) := inferInstanceAs (Decidable (_ ∧ _))

/-- A packet that moves the pointer is measured from the packet before. -/
def FromPrevious (k : TracedPad) : PadEvent → Prop
  | .packet p now => k.pad.MovesPointer p now → ∃ q ∈ k.previous, MeasuredFrom k.pad p now q
  | _ => True

/-- A packet of a finger that is being followed comes neither right after one that has been skipped,
nor with a remainder that is reported while deltas are ignored. -/
def Continues (k : TracedPad) : PadEvent → Prop
  | .packet p now =>
      k.pad.isHandled p now → (k.pad.atSwitch p now).TakesMove (k.pad.prepared p now).touch →
        k.stale = false ∧ ¬ k.pad.MovesByRest
  | _ => True

/-- While a finger is being followed, the last position is that of the last packet, unless it has
been skipped. -/
structure Inv (k : TracedPad) : Prop where
  plain : k.pad.cfg.Plain
  last : k.pad.touchmode.IsMove → k.stale = false →
    ∃ q ∈ k.previous, k.pad.motion.lastx = q.x ∧ k.pad.motion.lasty = q.y ∧ k.pad.motion.lastf = q.f

/-- The rest of the driver's events keep the position and the mode. -/
theorem Inv.of_sameMode {k : TracedPad} (h : k.Inv) {s : Pad} (hs : SameMode k.pad s)
    (hm : s.motion = k.pad.motion) : Inv { k with pad := s } := by
  refine ⟨?_, ?_⟩
  · exact hs.cfg.symm ▸ h.plain
  · change s.touchmode.IsMove → _
    rw [hs.touchmode, hm]
    exact h.last

theorem inv_packet {k : TracedPad} (h : k.Inv) {p : PadPacket} (hn : k.pad.isNormal p)
    (now : UInt64) : (k.next (.packet p now)).Inv := by
  have htouch := touch_of_plain h.plain p now
  refine ⟨?_, fun hm hstale => ?_⟩
  · have hcfg : (k.pad.dispatchEventsWithPacket p now).cfg = k.pad.cfg := by
      rw [dispatch_of_isNormal hn]
      exact (cfg_dispatchTouch _ _ _).1.trans
        (congrArg TouchCore.cfg (k.pad.touchCore_prepared p now))
    exact hcfg.symm ▸ h.plain
  · change (if k.pad.isHandled p now then _ else _) = false at hstale
    split at hstale
    · rename_i hhandled
      refine ⟨_, rfl, ?_⟩
      have hplace := (k.pad.zoned p now).place_handleTouch (k.pad.prepared p now).touch
        (k.pad.prepared p now).buttons
      rw [← dispatch_of_isHandled hhandled, htouch] at hplace
      exact ⟨congrArg Place.lastx hplace, congrArg Place.lasty hplace, congrArg Place.lastf hplace⟩
    · rename_i hhandled
      have hskips := skips_of_not_handled hn hhandled hm
      rw [decide_eq_true hskips, Bool.or_true] at hstale
      exact absurd hstale Bool.true_eq_false.mp

theorem inv_step {k k' : TracedPad} {e : PadEvent} (h : k.Inv) (hs : step k e = some k') :
    k'.Inv := by
  obtain ⟨hen, hs⟩ := Option.ite_none_right_eq_some.mp hs
  cases hs
  cases e with
  | packet p now => exact inv_packet h hen now
  | setDisableTouchpad enable =>
      refine h.of_sameMode (sameMode_setDisableTouchpad _ enable) ?_
      change (k.pad.setDisableTouchpad enable).motion = _
      rw [setDisableTouchpad, updateTouchpadLED]
      repeat' split
      all_goals rfl
  | notifyKeyPressed adbKeyCode goingDown time =>
      refine h.of_sameMode (sameMode_notifyKeyPressed _ adbKeyCode goingDown time) ?_
      change (k.pad.notifyKeyPressed adbKeyCode goingDown time).motion = _
      rw [notifyKeyPressed]
      split
      · split <;> rfl
      · rfl
  | _ => exact hen.elim

/-- What the arm for pointer motion measures, where deltas are not ignored. -/
theorem atSwitch_of_takesMove {s : Pad} (h : s.cfg.Plain) {p : PadPacket} {now : UInt64}
    (ht : (s.atSwitch p now).TakesMove (s.prepared p now).touch) :
    s.motion.lastf = (s.readTouch p now).f ∧
      (s.atSwitch p now).place = s.place.ignoreDeltas (s.readTouch p now) := by
  have htouch := touch_of_plain h p now
  have hodd : (s.atSwitch p now).touchmode.isTouchMode = true :=
    @isTouchMode_of_takes .moveX _ _ ht
  have hplace : (s.atSwitch p now).place =
      (s.place.fingersChange s.cfg (s.readTouch p now).f).ignoreDeltas (s.readTouch p now) := by
    have hprepared := s.place_prepared p now
    rw [htouch] at hprepared
    rw [← hprepared]
    exact ((still_watchZone _ _).trans
      (still_beforeTrack (not_isRelease_of_beforeTrack hodd) _)).place
  have hfingers : s.motion.lastf = (s.readTouch p now).f := by
    have hlast : (s.atSwitch p now).place.lastf = s.motion.lastf := by
      rw [hplace, Place.ignoreDeltas, Place.fingersChange]
      repeat' split
      all_goals rfl
    rw [← hlast, ← htouch]
    exact ht.moves.1
  rw [Place.fingersChange_of_eq hfingers] at hplace
  exact ⟨hfingers, hplace⟩

/-- A pointer that moves does so in the arm for pointer motion, by more than nothing. -/
theorem takesMove_of_movesPointer {s : Pad} {p : PadPacket} {now : UInt64}
    (h : s.MovesPointer p now) :
    (s.atSwitch p now).TakesMove (s.prepared p now).touch ∧
      ¬ ((Channel.moveX.delta (s.atSwitch p now) (s.prepared p now).touch).tdiv
            (s.cfg.int .divisorx) = 0 ∧
          (Channel.moveY.delta (s.atSwitch p now) (s.prepared p now).touch).tdiv
            (s.cfg.int .divisory) = 0) := by
  obtain ⟨hhandled, hmode, hmotions⟩ := h
  have hbefore : motionsOf (s.atSwitch p now).log = motionsOf s.log := by
    have hodd : (s.atSwitch p now).touchmode.isTouchMode = true := by
      rcases hmode with h | h | h <;> rw [h] <;> rfl
    rw [← s.motions_prepared p now]
    exact ((still_watchZone _ _).trans
      (still_beforeTrack (not_isRelease_of_beforeTrack hodd) _)).motions
  rw [dispatch_of_isHandled hhandled] at hmotions
  let t := (s.prepared p now).touch
  let g := (s.zoned p now).progress t (s.prepared p now).buttons
  -- a quotient that is zero is not a movement
  have hmoves (hlog : motionsOf g.pad.log = motionsOf (s.atSwitch p now).log) :
      ¬ (g.dx.tdiv (s.cfg.int .divisorx) = 0 ∧ g.dy.tdiv (s.cfg.int .divisory) = 0) := by
    rintro ⟨hx, hy⟩
    rw [← s.cfg_zoned p now] at hx hy
    exact hmotions ((motions_handleTouch hx hy).trans (hlog.trans hbefore))
  by_cases ht : (s.atSwitch p now).TakesMove t
  · obtain ⟨b, hb⟩ := takesMove_track ht
      ((s.zoned p now).release t (s.prepared p now).buttons).2
    have hg : g = _ := hb.trans (moveDelta_of_notBogus ht.notBogus b)
    refine ⟨ht, ?_⟩
    rw [hg] at hmoves
    exact hmoves (still_dividing _ _).motions
  · obtain ⟨hdx, hdy, hlog⟩ := track_of_not_takesMove hmode ht
      ((s.zoned p now).release t (s.prepared p now).buttons).2
    refine absurd ⟨?_, ?_⟩ (hmoves hlog)
    · exact (congrArg (Int.tdiv · _) hdx).trans (Int.zero_tdiv _)
    · exact (congrArg (Int.tdiv · _) hdy).trans (Int.zero_tdiv _)

/-- Where the condition holds, a movement is measured from the packet before. -/
theorem fromPrevious {k : TracedPad} (h : k.Inv) {e : PadEvent} (hg : k.Continues e) :
    k.FromPrevious e := by
  cases e with
  | packet p now =>
      intro hmoves
      obtain ⟨ht, hnonzero⟩ := takesMove_of_movesPointer hmoves
      obtain ⟨hfresh, hrest⟩ := hg hmoves.1 ht
      obtain ⟨hfingers, hplace⟩ := atSwitch_of_takesMove h.plain ht
      obtain ⟨q, hq, hx, hy, hf⟩ := h.last (isMove_of_atSwitch ht.mode) hfresh
      have htouch := touch_of_plain h.plain p now
      -- a delta that is ignored leaves what was left before
      have hheeded : k.pad.motion.ignoredeltas = 0 := by
        by_contra hi
        refine hnonzero ?_
        have hignored : (k.pad.atSwitch p now).place =
            { k.pad.place with
              lastx := (k.pad.readTouch p now).x
              lasty := (k.pad.readTouch p now).y
              ignoredeltas := k.pad.motion.ignoredeltas - 1 } := hplace.trans (if_pos hi)
        have hdx : Channel.moveX.delta (k.pad.atSwitch p now) (k.pad.prepared p now).touch =
            k.pad.motion.xrest := by
          rw [Channel.delta, hignored, htouch]
          exact (congrArg (· + k.pad.motion.xrest) (sub_self _)).trans (zero_add _)
        have hdy : Channel.moveY.delta (k.pad.atSwitch p now) (k.pad.prepared p now).touch =
            k.pad.motion.yrest := by
          rw [Channel.delta, hignored, htouch]
          exact (congrArg (· + k.pad.motion.yrest) (sub_self _)).trans (zero_add _)
        rw [hdx, hdy]
        exact not_not.mp fun h0 => hrest ⟨hi, h0⟩
      rw [Place.ignoreDeltas_of_zero hheeded] at hplace
      refine ⟨q, hq, ?_, ?_, ?_⟩
      · exact (congrArg Place.lastx hplace).trans hx
      · exact (congrArg Place.lasty hplace).trans hy
      · exact hfingers.symm.trans hf
  | _ => trivial

/-- **Pointer motion does not span skipped packets** in a run in which no packet of a finger that is
being followed comes right after one that has been skipped, or moves the pointer by a remainder
while deltas are ignored. -/
theorem measured_from_previous (cfg : Config) (caps : Capabilities) (hc : cfg.Plain)
    (es : List PadEvent) (k : TracedPad)
    (hg : Transition.Guarded step Continues (started cfg caps) es)
    (hr : Transition.run step (started cfg caps) es = some k) :
    Transition.Guarded step FromPrevious (started cfg caps) es := by
  refine Transition.guarded_of_guarded (fun k e k' hk _ hs => inv_step hk hs)
    (fun k e k' hk hg _ => fromPrevious hk hg) es ⟨hc, fun hm => ?_⟩ hg hr
  exact absurd hm (show ¬ TouchMode.IsMove .notouch by decide)

instance (k : TracedPad) : (e : PadEvent) → Decidable (k.FromPrevious e)
  | .packet p now =>
      inferInstanceAs (Decidable (k.pad.MovesPointer p now →
        ∃ q ∈ k.previous, MeasuredFrom k.pad p now q))
  | .buttonTimer _ => .isTrue trivial
  | .dragTimer _ => .isTrue trivial
  | .scrollTimer => .isTrue trivial
  | .setDisableTouchpad _ => .isTrue trivial
  | .notifyKeyPressed _ _ _ => .isTrue trivial
  | .notification _ _ => .isTrue trivial
  | .setParamProperties _ => .isTrue trivial
  | .wake => .isTrue trivial

instance (k : TracedPad) : (e : PadEvent) → Decidable (k.Continues e)
  | .packet p now =>
      inferInstanceAs (Decidable (k.pad.isHandled p now →
        (k.pad.atSwitch p now).TakesMove (k.pad.prepared p now).touch →
          k.stale = false ∧ ¬ k.pad.MovesByRest))
  | .buttonTimer _ => .isTrue trivial
  | .dragTimer _ => .isTrue trivial
  | .scrollTimer => .isTrue trivial
  | .setDisableTouchpad _ => .isTrue trivial
  | .notifyKeyPressed _ _ _ => .isTrue trivial
  | .notification _ _ => .isTrue trivial
  | .setParamProperties _ => .isTrue trivial
  | .wake => .isTrue trivial

/-- A finger at `x`. -/
def fingerPacket (x : ℕ) (now : UInt64) : PadEvent := .packet (padPacket 0 60 x 3000) now

/-- A finger is put down and moves. -/
def moveRun : List PadEvent := [fingerPacket 3000 1000000000, fingerPacket 3050 1200000000]

theorem measured_from_previous_move :
    ∃ k, Transition.run step (started .init plainCaps) moveRun = some k ∧
      Transition.Guarded step FromPrevious (started .init plainCaps) moveRun := by
  have hex : (Transition.run step (started .init plainCaps) moveRun).isSome = true := by
    decide +kernel
  obtain ⟨k, hk⟩ := Option.isSome_iff_exists.mp hex
  exact ⟨k, hk, measured_from_previous .init plainCaps (by decide) moveRun k (by decide +kernel) hk⟩

/-- The trackpad is disabled and enabled while the finger moves on. -/
def reenabledRun : List PadEvent :=
  [fingerPacket 3000 1000000000, .setDisableTouchpad false, fingerPacket 3050 1200000000,
    .setDisableTouchpad true, fingerPacket 3100 1212000000]

theorem measured_from_stale :
    (Transition.run step (started .init plainCaps) reenabledRun).isSome = true ∧
      ¬ Transition.Guarded step FromPrevious (started .init plainCaps) reenabledRun := by
  decide +kernel

end TracedPad

end VoodooPS2.Synaptics
