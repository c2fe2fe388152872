import VoodooPS2.Synaptics.TouchModes

/-! # What scrolling relies on

A scroll mode is entered only while its divisor is not zero, and every change of the properties
leaves all modes.  Momentum scroll starts only when several fingers are lifted, with an interval
that is not zero; while they are down there is none.  `Sound` is this invariant, with the repaired
`DivisorX` and `DivisorY`, and `Sound.handle` says that every event keeps it. -/

namespace VoodooPS2.Synaptics

/-- The divisor of a scroll mode is not zero. -/
def Config.Divides (c : Config) : TouchMode → Prop
  | .vscroll => c.int .vscrolldivisor ≠ 0
  | .hscroll => c.int .hscrolldivisor ≠ 0
  | .cscroll => c.int .cscrolldivisor ≠ 0
  | _ => True

/-- `DivisorX` and `DivisorY` are not zero. -/
structure Config.Repaired (c : Config) : Prop where
  divisorx : c.int .divisorx ≠ 0
  divisory : c.int .divisory ≠ 0

theorem Config.repaired_read (c : Config) (d : Dictionary) : (c.read d).Repaired :=
  ⟨c.read_divisorx d, c.read_divisory d⟩

namespace Pad

/-- What the driver relies on when it divides. -/
structure Sound (s : Pad) : Prop where
  repaired : s.cfg.Repaired
  modes : s.cfg.Divides s.touchmode
  still : s.touchmode = .mtouch → s.momentum.current = 0
  moving : s.momentum.current ≠ 0 → s.momentum.interval ≠ 0

/-! ### The invariant -/

theorem divides_of_released {c : Config} {m : TouchMode} (h : m.Released) : c.Divides m := by
  rcases h with rfl | rfl | rfl <;> trivial

theorem divides_of_not_plain {c : Config} {m : TouchMode} (h : ¬ m.Plain) : c.Divides m := by
  cases m with
  | vscroll => exact absurd (by decide) h
  | hscroll => exact absurd (by decide) h
  | cscroll => exact absurd (by decide) h
  | _ => trivial

/-- An event that keeps the mode and starts no momentum scroll. -/
theorem Sound.of_sameMode {s s' : Pad} (h : s.Sound) (hs : SameMode s s') : s'.Sound := by
  constructor
  · rw [hs.cfg]
    exact h.repaired
  · rw [hs.cfg, hs.touchmode]
    exact h.modes
  · rw [hs.touchmode]
    exact fun hm => hs.current (h.still hm)
  · rw [hs.interval]
    exact fun hcur => h.moving (fun h0 => hcur (hs.current h0))

theorem touchmode_disableZone (s : Pad) (t : Touch) :
    (s.disableZone t).touchmode = s.touchmode ∨ (s.disableZone t).touchmode = .notouch ∨
      ¬ (s.disableZone t).touchmode.Plain := by
  have h1 : ¬ TouchMode.wait1release.Plain := by decide
  have h2 : ¬ TouchMode.wait2tap.Plain := by decide
  have h3 : ¬ TouchMode.wait2release.Plain := by decide
  rw [disableZone]
  repeat' split
  all_goals first
    | exact .inl rfl
    | exact .inr (.inl rfl)
    | exact .inr (.inr h1)
    | exact .inr (.inr h2)
    | exact .inr (.inr h3)

theorem Sound.watchZone {s : Pad} (h : s.Sound) (t : Touch) : (s.watchZone t).Sound := by
  have hs := s.sameElse_watchZone t
  have hm : (s.watchZone t).touchmode = s.touchmode ∨ (s.watchZone t).touchmode = .notouch ∨
      ¬ (s.watchZone t).touchmode.Plain := by
    rw [Pad.watchZone]
    split
    · exact s.touchmode_disableZone t
    · exact .inl rfl
  constructor
  · rw [hs.cfg]
    exact h.repaired
  · rw [hs.cfg]
    rcases hm with hm | hm | hm
    · rw [hm]
      exact h.modes
    · rw [hm]
      trivial
    · exact divides_of_not_plain hm
  · intro hmt
    rw [hs.momentum]
    rw [hmt] at hm
    rcases hm with hm | hm | hm
    · exact h.still hm.symm
    · cases hm
    · exact absurd (by decide) hm
  · rw [hs.momentum]
    exact h.moving

/-- Momentum scroll only starts with an interval. -/
theorem startMomentum_moving {s : Pad} (h : s.Sound) (hc : s.startMomentum.current ≠ 0) :
    s.startMomentum.interval ≠ 0 := by
  rw [startMomentum] at hc ⊢
  dsimp only at hc ⊢
  split at hc
  · rename_i hm
    rw [if_pos hm]
    split at hc
    · rename_i hi
      rw [if_pos hi]
      exact hi
    · exact absurd (h.still hm.1) hc
  · rename_i hm
    rw [if_neg hm]
    exact h.moving hc

/-- How far and in what time momentum scroll moves. -/
def pace (s : Pad) : ℤ × UInt64 := (s.momentum.current, s.momentum.interval)

theorem pace_of_touchCore {s s' : Pad} (h : s'.touchCore = s.touchCore) : s'.pace = s.pace :=
  congrArg (fun c => (c.current, c.interval)) h

theorem pace_tap (s : Pad) (b : UInt32) : (s.tap b).1.pace = s.pace := by
  have hclick : (s.dragClick b).1.pace = s.pace :=
    pace_of_touchCore (s.sameTouch_dragClick b).touchCore
  rw [tap]
  split
  · exact hclick
  · rfl
  · rfl

theorem pace_endTouch (s : Pad) : s.endTouch.pace = s.pace := by
  rw [endTouch]
  split <;> rfl

theorem pace_release {s : Pad} {t : Touch} (b : UInt32) (h : s.isRelease t) :
    (s.release t b).1.pace = (s.startMomentum.current, s.startMomentum.interval) := by
  rw [release, if_pos h]
  dsimp only
  split
  · exact (pace_tap (s.liftFinger t) b).trans rfl
  · exact (pace_endTouch (s.liftFinger t)).trans rfl

theorem pace_tracked (s : Pad) (t : Touch) (b : UInt32) :
    (s.tracked t b).pace = (s.release t b).1.pace := by
  obtain ⟨m, -, h⟩ := tracksTo_track (s.beforeTrack t b) t (s.release t b).2
  exact (pace_of_touchCore h.touchCore).trans rfl

theorem moving_tracked {s : Pad} (h : s.Sound) (t : Touch) (b : UInt32) :
    (s.tracked t b).pace.1 ≠ 0 → (s.tracked t b).pace.2 ≠ 0 := by
  rw [pace_tracked]
  by_cases hr : s.isRelease t
  · rw [pace_release b hr]
    exact startMomentum_moving h
  · rw [release_of_not hr]
    exact h.moving

/-! ### The next mode -/

theorem divides_release {s : Pad} (h : s.cfg.Divides s.touchmode) (t : Touch) (b : UInt32) :
    s.cfg.Divides (s.release t b).1.touchmode := by
  by_cases hr : s.isRelease t
  · exact divides_of_released (released_release b hr)
  · rw [release_of_not hr]
    exact h

theorem divides_beforeTrack {s : Pad} (h : s.cfg.Divides s.touchmode) (t : Touch) (b : UInt32) :
    s.cfg.Divides (s.beforeTrack t b).touchmode := by
  rcases s.touchmode_beforeTrack t b with hm | ⟨-, hm⟩
  · rw [hm]
    exact divides_release h t b
  · rw [hm]
    trivial

theorem Tracks.divides {s : Pad} {t : Touch} {m : TouchMode} (ht : Tracks s t m) {c : Config}
    (h : c.Divides s.touchmode) : c.Divides m := by
  cases ht with
  | stay => exact h
  | oneFinger _ => trivial
  | leaveRight _ _ => trivial
  | leaveBottom _ _ => trivial

/-- A scroll mode is entered only if its divisor is not zero. -/
theorem divides_switchModes {s : Pad} (h : s.cfg.Divides s.touchmode) (t : Touch) :
    s.cfg.Divides (s.switchModes t).touchmode := by
  have hfinger : s.cfg.Divides (s.fingerMode t) := by
    rw [fingerMode]
    split
    · trivial
    split
    · trivial
    split
    · trivial
    · exact h
  have hcircular : s.cfg.Divides (s.cfg.circularMode t (s.fingerMode t)) := by
    rw [Config.circularMode]
    split
    · rename_i hc
      exact hc.2.1
    · exact hfinger
  have hvertical : s.cfg.Divides
      (s.cfg.verticalMode t (s.cfg.circularMode t (s.fingerMode t))) := by
    rw [Config.verticalMode]
    split
    · rename_i hc
      exact hc.2.2.2.1
    · exact hcircular
  have hhorizontal : s.cfg.Divides (s.cfg.horizontalMode t
      (s.cfg.verticalMode t (s.cfg.circularMode t (s.fingerMode t)))) := by
    rw [Config.horizontalMode]
    split
    · rename_i hc
      exact hc.2.2.2.1
    · exact hvertical
  change s.cfg.Divides (Config.moveMode _ _ _)
  rw [Config.moveMode]
  split
  · trivial
  · exact hhorizontal

/-- Only a touch of several fingers leads to their mode. -/
theorem mtouch_switchModes {s : Pad} {t : Touch} (h : (s.switchModes t).touchmode = .mtouch) :
    s.isFingerTouch t.z ∨ s.touchmode = .mtouch := by
  have hite {c : Prop} [Decidable c] {m m' : TouchMode} (hm : m ≠ .mtouch)
      (he : (if c then m else m') = .mtouch) : m' = .mtouch := by
    split at he
    · exact absurd he hm
    · exact he
  have hhorizontal := hite (m := .move) (by decide) h
  have hvertical := hite (m := .hscroll) (by decide) hhorizontal
  have hcircular := hite (m := .vscroll) (by decide) hvertical
  have hfinger : s.fingerMode t = .mtouch := hite (m := .cscroll) (by decide) hcircular
  rw [fingerMode] at hfinger
  split at hfinger
  · rename_i hc
    exact .inl hc.2.2
  · have hdrag := hite (m := .drag) (by decide) hfinger
    exact .inr (hite (m := .draglock) (by decide) hdrag)

theorem pace_captureTouch (s : Pad) (t : Touch) :
    (s.captureTouch t).pace =
      if s.isFingerTouch t.z then (0, s.momentum.interval) else s.pace := by
  by_cases h : s.isFingerTouch t.z
  · rw [captureTouch, if_pos h, if_pos h]
    rfl
  · rw [captureTouch, if_neg h, if_neg h]

/-- If several fingers are still down after the switch over the modes, nothing was released. -/
theorem mtouch_tracked {s : Pad} {t : Touch} {b : UInt32}
    (h : (s.tracked t b).touchmode = .mtouch) :
    s.touchmode = .mtouch ∧ (s.tracked t b).pace = s.pace := by
  have htracks := s.touchmode_tracked t b
  rw [h] at htracks
  have hbefore : (s.beforeTrack t b).touchmode = .mtouch := by
    generalize hm : TouchMode.mtouch = m at htracks
    cases htracks with
    | stay => rfl
    | oneFinger _ => cases hm
    | leaveRight _ _ => cases hm
    | leaveBottom _ _ => cases hm
  have hrel : (s.release t b).1.touchmode = .mtouch := by
    rcases s.touchmode_beforeTrack t b with hm | ⟨-, hm⟩
    · rw [← hm]
      exact hbefore
    · rw [hbefore] at hm
      cases hm
  have hnot : ¬ s.isRelease t := by
    intro hr
    have heven := (released_release b hr).even
    rw [hrel] at heven
    cases heven
  rw [pace_tracked]
  rw [release_of_not hnot] at hrel ⊢
  exact ⟨hrel, rfl⟩

theorem Sound.handleTouch {s : Pad} (h : s.Sound) (t : Touch) (b : UInt32) :
    (s.handleTouch t b).Sound := by
  have hcfg : (s.handleTouch t b).cfg = s.cfg := (s.sameButtons_handleTouch t b).cfg
  have hcap := s.cfg_captured t b
  have hmode := s.touchmode_handleTouch t b
  have hpace : (s.handleTouch t b).pace = ((s.tracked t b).captureTouch t).pace :=
    (pace_of_touchCore (s.touchCore_handleTouch t b)).trans rfl
  have htracked := (s.touchmode_tracked t b).divides (divides_beforeTrack h.modes t b)
  rw [pace_captureTouch] at hpace
  have hcurrent : (s.handleTouch t b).momentum.current = _ := congrArg Prod.fst hpace
  have hinterval : (s.handleTouch t b).momentum.interval = _ := congrArg Prod.snd hpace
  constructor
  · rw [hcfg]
    exact h.repaired
  · rw [hcfg, hmode, ← hcap]
    refine divides_switchModes ?_ t
    rw [hcap, touchmode_captureTouch]
    exact htracked
  · intro hm
    by_cases hf : (s.tracked t b).isFingerTouch t.z
    · rw [hcurrent, if_pos hf]
    · have hf' : ¬ ((s.tracked t b).captureTouch t).isFingerTouch t.z := by
        rw [isFingerTouch, hcap, ← s.cfg_tracked t b]
        exact hf
      rw [hmode] at hm
      have hmt := (mtouch_switchModes hm).resolve_left hf'
      rw [touchmode_captureTouch] at hmt
      obtain ⟨hs, hpace'⟩ := mtouch_tracked hmt
      rw [hcurrent, if_neg hf, hpace']
      exact h.still hs
  · by_cases hf : (s.tracked t b).isFingerTouch t.z
    · rw [hcurrent, if_pos hf]
      exact fun h0 => absurd rfl h0
    · rw [hcurrent, hinterval, if_neg hf]
      exact moving_tracked h t b

theorem Sound.dispatchTouch {s : Pad} (h : s.Sound) (t : Touch) (b : UInt32) :
    (s.dispatchTouch t b).Sound := by
  rw [Pad.dispatchTouch]
  split
  · exact h
  split
  · exact h.watchZone t
  split
  · exact h.watchZone t
  · exact (h.watchZone t).handleTouch t b

theorem Sound.dispatchEventsWithPacket {s : Pad} (h : s.Sound) (p : PadPacket) (now : UInt64) :
    (s.dispatchEventsWithPacket p now).Sound := by
  rw [Pad.dispatchEventsWithPacket]
  split
  · exact h.of_sameMode (sameMode_of_touchCore (s.touchCore_dispatchEventsWithPacketEW p now))
  split
  · exact h.of_sameMode (sameMode_of_touchCore
      ((touchCore_passThrough _ _ _).trans (s.touchCore_readButtons p now)))
  · exact (h.of_sameMode (sameMode_of_touchCore (s.touchCore_prepared p now))).dispatchTouch _ _

/-- The touch is forgotten, and the configuration is the old one or has been read. -/
theorem Sound.notouch {s : Pad} (h : s.Sound) {c : Config} (hc : c.Repaired) :
    Sound { s with cfg := c, touchmode := .notouch } := ⟨hc, trivial, nofun, h.moving⟩

theorem Sound.react {s : Pad} (h : s.Sound) (e : PadEvent) : (s.react e).Sound := by
  cases e with
  | packet p now => exact h.dispatchEventsWithPacket p now
  | buttonTimer now => exact h.of_sameMode ⟨rfl, rfl, rfl, rfl, id⟩
  | dragTimer now =>
      have hs := s.sameMode_onDragTimer now
      exact (h.notouch h.repaired).of_sameMode hs
  | scrollTimer => exact h.of_sameMode s.sameMode_onScrollTimer
  | setDisableTouchpad enable => exact h.of_sameMode (s.sameMode_setDisableTouchpad enable)
  | notifyKeyPressed adbKeyCode goingDown time =>
      exact h.of_sameMode (s.sameMode_notifyKeyPressed adbKeyCode goingDown time)
  | notification device notice => exact h.of_sameMode (s.sameMode_notification device notice)
  | setParamProperties d =>
      have hs := s.setParamPropertiesGated_spec d
      exact (h.notouch (s.cfg.repaired_read d)).of_sameMode hs
  | wake => exact h.of_sameMode s.sameMode_initTouchPad

theorem Sound.clearLog {s : Pad} (h : s.Sound) : Sound { s with log := [] } :=
  ⟨h.repaired, h.modes, h.still, h.moving⟩

theorem Sound.handle {s : Pad} (h : s.Sound) (e : PadEvent) : (s.handle e).Sound :=
  h.clearLog.react e

end Pad

end VoodooPS2.Synaptics
