import VoodooPS2.Synaptics.Disabling

/-! # Double taps in the disable zone

The recogniser of double taps keeps its state in `touchmode`, `touchtime` and `untouchtime`, which
taps, drags and scrolling use as well.  `Pad.zone` is what it reads and writes, and everything but a
normal packet, the drag timer and new properties leaves that alone (`zone_react`).

`Recognised` says what the mode stands for: which of the touches since the last properties are the
first tap, what came after it, and the second tap.  `doubleTap_of_ignoreall` is the law: a packet
that changes `ignoreall` ends a double tap. -/

namespace VoodooPS2.Synaptics

/-- What the recogniser of double taps reads and writes. -/
structure Zone where
  cfg : Config
  caps : Capabilities
  touchmode : TouchMode
  touchtime : UInt64
  untouchtime : UInt64

namespace Pad

def zone (s : Pad) : Zone := ⟨s.cfg, s.caps, s.touchmode, s.touchtime, s.untouchtime⟩

/-! ### What leaves it alone -/

theorem zone_ite {s a b : Pad} {c : Prop} [Decidable c] (ha : a.zone = s.zone)
    (hb : b.zone = s.zone) : (if c then a else b).zone = s.zone := by
  split
  · exact ha
  · exact hb

theorem zone_setModeByte (s : Pad) : s.setModeByte.zone = s.zone := zone_ite rfl rfl

theorem zone_setClickButtons (s : Pad) (b : UInt32) : (s.setClickButtons b).zone = s.zone :=
  zone_ite (zone_setModeByte _) rfl

theorem zone_readClickButtons (s : Pad) (p : PadPacket) (b : UInt32) :
    (s.readClickButtons p b).1.zone = s.zone := by
  rw [readClickButtons]
  split
  · exact zone_setClickButtons _ _
  · rfl

theorem zone_keepThinkpadButtons (s : Pad) : s.keepThinkpadButtons.zone = s.zone := zone_ite rfl rfl

theorem zone_clickPad (s : Pad) (p : PadPacket) (t : Touch) (b : UInt32) :
    (s.clickPad p t b).1.zone = s.zone := by
  rw [clickPad]
  have hread := s.zone_readClickButtons p b
  generalize s.readClickButtons p b = r at hread
  obtain ⟨r, clickbuttons, buttons⟩ := r
  have hset (a : Pad) (ha : a.zone = s.zone) (b : UInt32) : (a.setClickButtons b).zone = s.zone :=
    (zone_setClickButtons a b).trans ha
  have hclick :
      zone { r with second := { r.second with clickedprimary := decide (r.touchmode ≠ .mtouch) } } =
        s.zone := hread
  refine (zone_keepThinkpadButtons _).trans (zone_ite (hset _ ?_ _) ?_)
  · exact zone_ite (hset _ hclick _) hread
  · exact zone_ite (hset _ hclick _) hread

theorem zone_clickSecond (s : Pad) (p : PadPacket) (t : Touch) (b : UInt32) :
    (s.clickSecond p t b).1.zone = s.zone := by
  rw [clickSecond]
  have hread := s.zone_readClickButtons p b
  generalize s.readClickButtons p b = r at hread
  obtain ⟨r, clickbuttons, buttons⟩ := r
  have hset (a : Pad) (ha : a.zone = s.zone) (b : UInt32) : (a.setClickButtons b).zone = s.zone :=
    (zone_setClickButtons a b).trans ha
  refine (zone_keepThinkpadButtons _).trans (zone_ite (hset _ ?_ _) ?_)
  · exact zone_ite (hset r hread _) hread
  · exact zone_ite (hset r hread _) hread

theorem zone_readButtons (s : Pad) (p : PadPacket) (now : UInt64) :
    (s.readButtons p now).1.zone = s.zone := by
  rw [readButtons]
  split <;> rfl

theorem zone_position (s : Pad) (p : PadPacket) (now : UInt64) (b : UInt32) :
    (s.position p now b).pad.zone = s.zone := by
  have hdown (t : Touch) : ((s.dividing s.cfg.scaleDivisors).fingerDown p t b).1.zone = s.zone := by
    rw [fingerDown]
    split <;> rfl
  exact hdown _

theorem zone_prepared (s : Pad) (p : PadPacket) (now : UInt64) :
    (s.prepared p now).pad.zone = s.zone := by
  have hread := s.zone_readButtons p now
  rw [prepared, prepare]
  split
  · exact ((zone_clickPad _ _ _ _).trans (zone_position _ _ _ _)).trans hread
  · exact (zone_position _ _ _ _).trans hread

theorem zone_passThrough (s : Pad) (p : PadPacket) (b : UInt32) :
    (s.passThrough p b).zone = s.zone := by
  have hmove (r : Pad) (dx dy : ℤ) (b : UInt32) : (r.passMove dx dy b).zone = r.zone :=
    zone_ite rfl (zone_ite rfl rfl)
  exact zone_ite (hmove _ _ _ _) (hmove s _ _ _)

theorem zone_dispatchButtons (s : Pad) (b : UInt32) : (s.dispatchButtons b).zone = s.zone :=
  zone_ite rfl rfl

theorem zone_trackSecond (s : Pad) (p : PadPacket) (t : Touch) (b : UInt32) :
    (s.trackSecond p t b).zone = s.zone := by
  have hmove : (s.moveSecond t b).zone = s.zone := zone_ite rfl rfl
  rw [trackSecond]
  refine zone_ite (zone_ite hmove rfl) (zone_ite ?_ ?_)
  · exact (zone_dispatchButtons _ _).trans (s.zone_clickSecond p t b)
  · exact s.zone_dispatchButtons b

theorem zone_dispatchEventsWithPacketEW (s : Pad) (p : PadPacket) (now : UInt64) :
    (s.dispatchEventsWithPacketEW p now).zone = s.zone := by
  rw [dispatchEventsWithPacketEW]
  refine zone_ite rfl (zone_ite rfl ?_)
  exact zone_ite rfl (zone_ite rfl (zone_trackSecond _ _ _ _))

theorem zone_updateTouchpadLED (s : Pad) : s.updateTouchpadLED.zone = s.zone := zone_ite rfl rfl

theorem zone_onScrollTimer (s : Pad) : s.onScrollTimer.zone = s.zone := by
  have hgo (r : Pad) (dy : ℤ) : (r.scrollMomentum dy).zone = r.zone := rfl
  rw [onScrollTimer]
  refine zone_ite rfl (zone_ite ?_ rfl)
  exact hgo _ _

/-- A packet that is not normal. -/
theorem zone_dispatch {s : Pad} {p : PadPacket} (h : ¬ s.isNormal p) (now : UInt64) :
    (s.dispatchEventsWithPacket p now).zone = s.zone := by
  rw [dispatchEventsWithPacket]
  split
  · exact s.zone_dispatchEventsWithPacketEW p now
  split
  · exact (zone_passThrough _ _ _).trans (s.zone_readButtons p now)
  · rename_i hex hpass
    exact absurd ⟨hex, hpass⟩ h

/-- A packet that is not normal does not change `ignoreall`. -/
theorem ignoreall_dispatch {s : Pad} {p : PadPacket} (h : ¬ s.isNormal p) (now : UInt64) :
    (s.dispatchEventsWithPacket p now).ignoreall = s.ignoreall := by
  rw [dispatchEventsWithPacket]
  split
  · exact congrArg TouchCore.ignoreall (s.touchCore_dispatchEventsWithPacketEW p now)
  split
  · exact congrArg TouchCore.ignoreall
      ((touchCore_passThrough _ _ _).trans (s.touchCore_readButtons p now))
  · rename_i hex hpass
    exact absurd ⟨hex, hpass⟩ h

end Pad

/-- Neither a packet, nor the drag timer, nor new properties. -/
def PadEvent.Passing : PadEvent → Prop
  | .packet _ _ => False
  | .dragTimer _ => False
  | .setParamProperties _ => False
  | _ => True

namespace Pad

theorem zone_react {s : Pad} {e : PadEvent} (h : e.Passing) : (s.react e).zone = s.zone := by
  cases e with
  | packet p now => exact h.elim
  | buttonTimer now => rfl
  | dragTimer now => exact h.elim
  | scrollTimer => exact s.zone_onScrollTimer
  | setDisableTouchpad enable => exact zone_ite (zone_updateTouchpadLED _) rfl
  | notifyKeyPressed adbKeyCode goingDown time =>
      rw [react, notifyKeyPressed]
      split
      · split <;> rfl
      · rfl
  | notification device notice =>
      cases notice <;> exact zone_ite (zone_updateTouchpadLED _) rfl
  | setParamProperties d => exact h.elim
  | wake =>
      have hsend (r : Pad) : r.setTouchpadModeByte.zone = r.zone := zone_ite rfl rfl
      exact (zone_updateTouchpadLED _).trans (hsend _)

end Pad

/-! ### Taps -/

namespace Config

/-- `isFingerTouch(z)` -/
def isFingerTouch (c : Config) (t : Touch) : Prop := t.z > c.int .zFinger ∧ t.z < c.int .zlimit

/-- `isInDisableZone(x, y)` -/
def isInDisableZone (c : Config) (t : Touch) : Prop :=
  t.x > c.int .diszl ∧ t.x < c.int .diszr ∧ t.y > c.int .diszb ∧ t.y < c.int .diszt

instance (c : Config) (t : Touch) : Decidable (c.isFingerTouch t) :=
  inferInstanceAs (Decidable (_ ∧ _))

instance (c : Config) (t : Touch) : Decidable (c.isInDisableZone t) :=
  inferInstanceAs (Decidable (_ ∧ _))

/-- A single finger goes down in the zone, and stays there. -/
structure ZonePress (c : Config) (first : Touch) (held : List Touch) : Prop where
  finger : c.isFingerTouch first
  single : 4 ≤ first.w ∧ first.w ≤ 5
  inZone : c.isInDisableZone first
  stays : ∀ t ∈ held, c.int .zFinger ≤ t.z ∧ c.isInDisableZone t

/-- It is lifted in time. -/
structure ZoneTap (c : Config) (first : Touch) (held : List Touch) (release : Touch) : Prop
    extends ZonePress c first held where
  released : release.z < c.int .zFinger
  inTime : release.now - first.now < c.time .maxtaptime

/-- The touches end with a tap that was released with `release`, and what came after it. -/
def TappedOnce (c : Config) (touches : List Touch) (release : Touch) (gap : List Touch) : Prop :=
  ∃ before first held, touches = before ++ first :: held ++ release :: gap ∧
    c.ZoneTap first held release ∧ ∀ t ∈ gap, ¬ c.isFingerTouch t

/-- The touches end with a tap, and a second finger that went down in time and is held. -/
def TouchedTwice (c : Config) (touches : List Touch) (first : Touch) (held : List Touch) : Prop :=
  ∃ before release gap, touches = before ++ first :: held ∧ c.TappedOnce before release gap ∧
    first.now - release.now < c.time .maxdragtime

/-- With the release that follows, the touches end with a double tap. -/
def DoubleTap (c : Config) (touches : List Touch) (release : Touch) : Prop :=
  ∃ first held, c.TouchedTwice touches first held ∧ c.ZoneTap first held release

theorem ZonePress.append {c : Config} {first t : Touch} {held : List Touch}
    (h : c.ZonePress first held) (hz : c.int .zFinger ≤ t.z) (hin : c.isInDisableZone t) :
    c.ZonePress first (held ++ [t]) where
  finger := h.finger
  single := h.single
  inZone := h.inZone
  stays := fun u hu => by
    rcases List.mem_append.mp hu with hu | hu
    · exact h.stays u hu
    · rw [List.mem_singleton.mp hu]
      exact ⟨hz, hin⟩

theorem TappedOnce.append {c : Config} {touches gap : List Touch} {release t : Touch}
    (h : c.TappedOnce touches release gap) (ht : ¬ c.isFingerTouch t) :
    c.TappedOnce (touches ++ [t]) release (gap ++ [t]) := by
  obtain ⟨before, first, held, rfl, htap, hgap⟩ := h
  refine ⟨before, first, held, by simp, htap, fun u hu => ?_⟩
  rcases List.mem_append.mp hu with hu | hu
  · exact hgap u hu
  · rw [List.mem_singleton.mp hu]
    exact ht

/-- What the mode stands for. -/
def Recognised (c : Config) (touchtime untouchtime : UInt64) (touches : List Touch) :
    TouchMode → Prop
  | .wait1release =>
      ∃ before first held, touches = before ++ first :: held ∧ c.ZonePress first held ∧
        touchtime = first.now
  | .wait2tap => ∃ release gap, c.TappedOnce touches release gap ∧ untouchtime = release.now
  | .wait2release =>
      ∃ first held, c.TouchedTwice touches first held ∧ c.ZonePress first held ∧
        touchtime = first.now
  | _ => True

theorem recognised_of_plain (c : Config) (touchtime untouchtime : UInt64) (touches : List Touch)
    {m : TouchMode} (h : m.Plain) : c.Recognised touchtime untouchtime touches m := by
  revert h
  cases m
  case wait1release => exact fun h => absurd h (by decide)
  case wait2tap => exact fun h => absurd h (by decide)
  case wait2release => exact fun h => absurd h (by decide)
  all_goals exact fun _ => trivial

end Config

/-- The mode of the recogniser stands for what has been touched. -/
def Zone.Knows (z : Zone) (touches : List Touch) : Prop :=
  z.cfg.Recognised z.touchtime z.untouchtime touches z.touchmode

theorem Zone.knows_of_plain {z : Zone} (h : z.touchmode.Plain) (touches : List Touch) :
    z.Knows touches := z.cfg.recognised_of_plain _ _ _ h

namespace Pad

theorem knows_notouch {s : Pad} (h : s.touchmode = .notouch) (touches : List Touch) :
    s.zone.Knows touches := by
  refine Zone.knows_of_plain ?_ touches
  change s.touchmode.Plain
  rw [h]
  decide

theorem knows_iff {s : Pad} {m : TouchMode} (h : s.touchmode = m) {touches : List Touch} :
    s.zone.Knows touches ↔ s.cfg.Recognised s.touchtime s.untouchtime touches m := by
  rw [← h]
  exact Iff.rfl

/-- The finger of the first tap is down. -/
theorem knows_wait1release {s : Pad} {touches : List Touch} (h : s.zone.Knows touches)
    (hm : s.touchmode = .wait1release) (t : Touch) :
    (s.disableZone t).zone.Knows (touches ++ [t]) := by
  obtain ⟨before, first, held, rfl, hpress, htime⟩ := (knows_iff hm).mp h
  simp only [disableZone, hm]
  split
  · rename_i hz
    split
    · rename_i hin
      rw [htime] at hin
      refine ⟨t, [], ⟨before, first, held, rfl, ⟨hpress, hz, hin⟩, ?_⟩, rfl⟩
      exact fun _ hu => absurd hu List.not_mem_nil
    · exact knows_notouch rfl _
  · rename_i hz
    split
    · exact knows_notouch rfl _
    · rename_i hin
      refine (knows_iff hm).mpr ⟨before, first, held ++ [t], by simp, ?_, htime⟩
      exact hpress.append (not_lt.mp hz) (not_not.mp hin)

/-- The second tap is waited for. -/
theorem knows_wait2tap {s : Pad} {touches : List Touch} (h : s.zone.Knows touches)
    (hm : s.touchmode = .wait2tap) (t : Touch) :
    (s.disableZone t).zone.Knows (touches ++ [t]) := by
  obtain ⟨release, gap, htap, htime⟩ := (knows_iff hm).mp h
  simp only [disableZone, hm]
  split
  · rename_i hf
    split
    · rename_i hzone
      split
      · rename_i hin
        rw [htime] at hin
        refine ⟨t, [], ⟨touches, release, gap, rfl, htap, hin⟩, ⟨hf, hzone.1, hzone.2, ?_⟩, rfl⟩
        exact fun _ hu => absurd hu List.not_mem_nil
      · exact knows_notouch rfl _
    · exact knows_notouch rfl _
  · rename_i hf
    exact (knows_iff hm).mpr ⟨release, gap ++ [t], htap.append hf, htime⟩

/-- The finger of the second tap is down. -/
theorem knows_wait2release {s : Pad} {touches : List Touch} (h : s.zone.Knows touches)
    (hm : s.touchmode = .wait2release) (t : Touch) :
    (s.disableZone t).zone.Knows (touches ++ [t]) := by
  obtain ⟨first, held, ⟨before, release, gap, rfl, htap, hdrag⟩, hpress, htime⟩ :=
    (knows_iff hm).mp h
  simp only [disableZone, hm]
  split
  · split <;> exact knows_notouch rfl _
  · rename_i hz
    split
    · exact knows_notouch rfl _
    · rename_i hin
      refine (knows_iff hm).mpr ⟨first, held ++ [t], ⟨before, release, gap, ?_, htap, hdrag⟩, ?_,
        htime⟩
      · rw [List.append_assoc, List.cons_append]
      · exact hpress.append (not_lt.mp hz) (not_not.mp hin)

/-- One packet in the disable zone machine. -/
theorem knows_disableZone {s : Pad} {touches : List Touch} (h : s.zone.Knows touches)
    (t : Touch) : (s.disableZone t).zone.Knows (touches ++ [t]) := by
  cases hm : s.touchmode
  case notouch =>
    simp only [disableZone, hm]
    split
    · rename_i hc
      refine ⟨touches, t, [], rfl, ⟨hc.1, hc.2.1, hc.2.2, ?_⟩, rfl⟩
      exact fun _ hu => absurd hu List.not_mem_nil
    · exact knows_notouch hm _
  case wait1release => exact knows_wait1release h hm t
  case wait2tap => exact knows_wait2tap h hm t
  case wait2release => exact knows_wait2release h hm t
  all_goals
    simp only [disableZone, hm]
    exact (knows_iff hm).mpr trivial

/-! ### Runs -/

/-- The packet reaches the switch of the disable zone. -/
def reachesZone (s : Pad) (p : PadPacket) (now : UInt64) : Prop :=
  s.isNormal p ∧ ¬ s.isRejected p now ∧ s.zoneEnabled

instance (s : Pad) (p : PadPacket) (now : UInt64) : Decidable (s.reachesZone p now) :=
  inferInstanceAs (Decidable (_ ∧ _))

end Pad

/-- The driver, and the touches that reached the switch of the disable zone since the last
properties. -/
structure ZoneSession where
  pad : Pad
  touches : List Touch

namespace ZoneSession

open Pad

/-- The touches after an event. -/
def touchesAfter (k : ZoneSession) : PadEvent → List Touch
  | .packet p now =>
      if k.pad.reachesZone p now then k.touches ++ [(k.pad.prepared p now).touch] else k.touches
  | .setParamProperties _ => []
  | _ => k.touches

def step (k : ZoneSession) (e : PadEvent) : ZoneSession := ⟨k.pad.handle e, k.touchesAfter e⟩

def run (k : ZoneSession) (es : List PadEvent) : ZoneSession := es.foldl step k

/-- The driver as it is started. -/
def started (cfg : Config) (caps : Capabilities) : ZoneSession := ⟨.initial cfg caps, []⟩

end ZoneSession

namespace Pad

/-- What a packet that is not rejected leaves to the recogniser. -/
theorem knows_dispatchTouch {s : Pad} {touches : List Touch} (hz : s.ZoneModes)
    (h : s.zone.Knows touches) {t : Touch} (hout : ¬ s.isOutsideZone t) (b : UInt32) :
    (s.dispatchTouch t b).zone.Knows (if s.zoneEnabled then touches ++ [t] else touches) := by
  rw [dispatchTouch, if_neg hout]
  by_cases hen : s.zoneEnabled
  · have hwatch : s.watchZone t = s.disableZone t := if_pos hen
    have hknows := knows_disableZone h t
    rw [if_pos hen, hwatch]
    split
    · exact hknows
    · rename_i hmode
      have hplain : (s.disableZone t).touchmode.Plain := not_le.mp fun hle => hmode ⟨hen, hle⟩
      split
      · exact hknows
      · exact Zone.knows_of_plain (plain_handleTouch t b hplain) _
  · have hwatch : s.watchZone t = s := if_neg hen
    have hplain : s.touchmode.Plain := hz.resolve_right hen
    rw [if_neg hen, hwatch, if_neg fun hc => hen hc.1]
    split
    · exact h
    · exact Zone.knows_of_plain (plain_handleTouch t b hplain) _

/-! ### The touch of a packet -/

/-- The buttons of a packet have nothing to do with its position. -/
theorem touch_prepared (s : Pad) (p : PadPacket) (now : UInt64) :
    (s.prepared p now).touch = (s.smooth (s.readTouch p now)).2 := by
  have hposition (r : Pad) (b : UInt32) :
      (r.position p now b).touch = (r.smooth (r.readTouch p now)).2 := by
    rw [position, fingerDown]
    split <;> rfl
  have hprepare (r : Pad) (b : UInt32) :
      (r.prepare p now b).touch = (r.smooth (r.readTouch p now)).2 := by
    rw [prepare]
    split <;> exact hposition r b
  rw [prepared, hprepare, readButtons]
  split <;> rfl

theorem touch_prepared_log (s : Pad) (l : List Effect) (p : PadPacket) (now : UInt64) :
    (prepared { s with log := l } p now).touch = (s.prepared p now).touch := by
  rw [touch_prepared, touch_prepared]
  rfl

theorem isRejected_iff (s : Pad) (p : PadPacket) (now : UInt64) :
    s.isRejected p now ↔ s.isOutsideZone (s.prepared p now).touch := by
  have hcore := s.touchCore_prepared p now
  have hcfg : (s.prepared p now).pad.cfg = s.cfg := congrArg TouchCore.cfg hcore
  have hkey : (s.prepared p now).pad.keytime = s.keytime := congrArg TouchCore.keytime hcore
  rw [isRejected, isOutsideZone, isOutsideZone, afterTyping, afterTyping, hcfg, hkey]

theorem reachesZone_log (s : Pad) (l : List Effect) (p : PadPacket) (now : UInt64) :
    reachesZone { s with log := l } p now ↔ s.reachesZone p now := by
  rw [reachesZone, reachesZone, isRejected_iff, isRejected_iff, touch_prepared_log]
  exact Iff.rfl

theorem knows_dispatch {s : Pad} {touches : List Touch} (hz : s.ZoneModes)
    (h : s.zone.Knows touches) (p : PadPacket) (now : UInt64) :
    (s.dispatchEventsWithPacket p now).zone.Knows
      (if s.reachesZone p now then touches ++ [(s.prepared p now).touch] else touches) := by
  by_cases hn : s.isNormal p
  · have hzone := s.zone_prepared p now
    have hen : (s.prepared p now).pad.zoneEnabled ↔ s.zoneEnabled := by
      rw [zoneEnabled, zoneEnabled, show (s.prepared p now).pad.cfg = s.cfg from
        congrArg Zone.cfg hzone, show (s.prepared p now).pad.caps = s.caps from
        congrArg Zone.caps hzone]
    have hknows : (s.prepared p now).pad.zone.Knows touches := hzone ▸ h
    rw [dispatch_of_isNormal hn]
    by_cases hout : s.isRejected p now
    · have hearly : (s.prepared p now).pad.dispatchTouch (s.prepared p now).touch
          (s.prepared p now).buttons = (s.prepared p now).pad := if_pos hout
      rw [hearly, if_neg fun hr => hr.2.1 hout]
      exact hknows
    · have hmodes := zoneModes_of_touchCore hz (s.touchCore_prepared p now)
      have hdispatch := knows_dispatchTouch hmodes hknows hout (s.prepared p now).buttons
      by_cases he : s.zoneEnabled
      · rw [if_pos (hen.mpr he)] at hdispatch
        rw [if_pos ⟨hn, hout, he⟩]
        exact hdispatch
      · rw [if_neg fun hc => he (hen.mp hc)] at hdispatch
        rw [if_neg fun hr => he hr.2.2]
        exact hdispatch
  · rw [if_neg fun hr => hn hr.1, zone_dispatch hn]
    exact h

end Pad

namespace ZoneSession

open Pad

/-- The recogniser knows the touches since the last properties. -/
def Inv (k : ZoneSession) : Prop := k.pad.ZoneModes ∧ k.pad.zone.Knows k.touches

theorem inv_step {k : ZoneSession} (h : k.Inv) (e : PadEvent) : (k.step e).Inv := by
  obtain ⟨hz, hk⟩ := h
  refine ⟨zoneModes_handle e hz, ?_⟩
  have hk' : (zone { k.pad with log := [] }).Knows k.touches := hk
  have hpassing (hp : e.Passing) : (k.pad.handle e).zone.Knows k.touches := by
    rw [handle, zone_react hp]
    exact hk'
  cases e with
  | packet p now =>
      have hd := knows_dispatch (s := { k.pad with log := [] }) hz hk' p now
      simp only [reachesZone_log, touch_prepared_log] at hd
      exact hd
  | dragTimer now => exact knows_notouch (sameMode_onDragTimer _ now).touchmode _
  | setParamProperties d => exact knows_notouch (setParamPropertiesGated_spec _ d).touchmode _
  | buttonTimer now => exact hpassing trivial
  | scrollTimer => exact hpassing trivial
  | setDisableTouchpad enable => exact hpassing trivial
  | notifyKeyPressed adbKeyCode goingDown time => exact hpassing trivial
  | notification device notice => exact hpassing trivial
  | wake => exact hpassing trivial

theorem inv_run (es : List PadEvent) {k : ZoneSession} (h : k.Inv) : (k.run es).Inv := by
  induction es generalizing k with
  | nil => exact h
  | cons e es ih => exact ih (inv_step h e)

theorem inv_started (cfg : Config) (caps : Capabilities) : (started cfg caps).Inv :=
  ⟨zoneModes_notouch rfl, knows_notouch rfl _⟩

/-- **Double taps only.**  A packet that changes `ignoreall` ends a double tap in the disable
zone. -/
theorem doubleTap_of_ignoreall (cfg : Config) (caps : Capabilities) (es : List PadEvent)
    (p : PadPacket) (now : UInt64)
    (h : (((started cfg caps).run es).pad.handle (.packet p now)).ignoreall ≠
      ((started cfg caps).run es).pad.ignoreall) :
    ((started cfg caps).run es).pad.cfg.DoubleTap ((started cfg caps).run es).touches
      (((started cfg caps).run es).pad.prepared p now).touch := by
  obtain ⟨-, hknows⟩ := inv_run es (inv_started cfg caps)
  generalize (started cfg caps).run es = k at h hknows ⊢
  have hn : isNormal { k.pad with log := [] } p := by
    by_contra hn
    exact h (ignoreall_dispatch hn now)
  obtain ⟨-, hmode, hz, htime⟩ := toggles_of_dispatch hn h
  obtain ⟨first, held, htwice, hpress, hfirst⟩ := (knows_iff hmode).mp hknows
  have hsame := k.pad.same_prepared p now
  refine ⟨first, held, htwice, hpress, ?_, ?_⟩
  · rw [hsame.z]
    exact hz
  · rw [hsame.now, ← hfirst]
    exact htime

/-- A tap in the disable zone, and a second touch. -/
def twoTaps : List PadEvent :=
  [.packet (padPacket 0 60 1000 4300) 1000, .packet (padPacket 0 0 0 0) 2000,
    .packet (padPacket 0 60 1000 4300) 3000]

theorem doubleTap_of_ignoreall_twoTaps :
    ((started .init { plainCaps with ledpresent := true }).run twoTaps).pad.cfg.DoubleTap
      ((started .init { plainCaps with ledpresent := true }).run twoTaps).touches
      (((started .init { plainCaps with ledpresent := true }).run twoTaps).pad.prepared
        (padPacket 0 0 0 0) 4000).touch :=
  doubleTap_of_ignoreall .init { plainCaps with ledpresent := true } twoTaps (padPacket 0 0 0 0)
    4000 (by decide +kernel)

end ZoneSession

end VoodooPS2.Synaptics
