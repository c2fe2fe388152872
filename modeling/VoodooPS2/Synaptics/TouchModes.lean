import VoodooPS2.Synaptics.Events

/-! # Touch modes

The mode of the driver changes in three passes over a packet: in the disable zone, when the finger
is released, and at the end, when the next mode is chosen.  `touchmode_tracked` and the lemmas about
`switchModes` say what the last two do, `even_handleTouch` and `odd_handleTouch` what follows for
the parity of the mode.

`touch_mode_parity`: in every run, after a normal packet that was handled, the mode is even if the
pressure is below the limit and odd if a finger touches.  The invariant, `ZoneModes`, is that the
modes of the disable zone are in use only while it is enabled. -/

namespace VoodooPS2.Synaptics

namespace TouchMode

/-- Not one of the modes of the disable zone. -/
def Plain (m : TouchMode) : Prop := m.code < wait1release.code

instance (m : TouchMode) : Decidable m.Plain := inferInstanceAs (Decidable (_ < _))

theorem plain_of_ne {m : TouchMode} (h1 : m ≠ .wait1release) (h2 : m ≠ .wait2tap)
    (h3 : m ≠ .wait2release) : m.Plain := by
  cases m with
  | wait1release => exact absurd rfl h1
  | wait2tap => exact absurd rfl h2
  | wait2release => exact absurd rfl h3
  | _ => decide

/-- The modes that a release leads to. -/
def Released (m : TouchMode) : Prop := m = .notouch ∨ m = .predrag ∨ m = .dragnotouch

theorem Released.even {m : TouchMode} (h : m.Released) : m.isTouchMode = false := by
  rcases h with rfl | rfl | rfl <;> rfl

theorem Released.plain {m : TouchMode} (h : m.Released) : m.Plain := by
  rcases h with rfl | rfl | rfl <;> decide

/-- A touch, or no touch without a drag. -/
def Settles (m : TouchMode) : Prop := m.isTouchMode = true ∨ m = .notouch

end TouchMode

namespace Config

variable (c : Config) (t : Touch)

theorem settles_circularMode {m : TouchMode} (h : m.Settles) : (c.circularMode t m).Settles := by
  rw [circularMode]
  split
  · exact .inl rfl
  · exact h

theorem settles_verticalMode {m : TouchMode} (h : m.Settles) : (c.verticalMode t m).Settles := by
  rw [verticalMode]
  split
  · exact .inl rfl
  · exact h

theorem settles_horizontalMode {m : TouchMode} (h : m.Settles) :
    (c.horizontalMode t m).Settles := by
  rw [horizontalMode]
  split
  · exact .inl rfl
  · exact h

variable {c t}

/-- A touch always ends in a touch mode. -/
theorem isTouchMode_moveMode {m : TouchMode} (h : m.Settles) (hz : t.z > c.int .zFinger) :
    (c.moveMode t m).isTouchMode = true := by
  rw [moveMode]
  rcases h with h | h
  · split
    · rfl
    · exact h
  · rw [if_pos ⟨h, hz⟩]
    rfl

end Config

namespace Pad

/-! ### The next mode -/

theorem not_isFingerTouch {s : Pad} {z : ℤ} (h : z ≤ s.cfg.int .zFinger) : ¬ s.isFingerTouch z :=
  fun hf => absurd hf.1 (not_lt.mpr h)

theorem settles_fingerMode {s : Pad} {t : Touch} (hf : s.isFingerTouch t.z)
    (hm : s.touchmode ≠ .wait2tap) : (s.fingerMode t).Settles := by
  rw [fingerMode]
  split
  · exact .inl rfl
  · cases h : s.touchmode with
    | notouch => exact .inr (by simp)
    | predrag => exact .inl (by simp [hf, TouchMode.isTouchMode, TouchMode.code])
    | dragnotouch => exact .inl (by simp [hf, TouchMode.isTouchMode, TouchMode.code])
    | wait2tap => exact absurd h hm
    | _ => exact .inl (by simp [TouchMode.isTouchMode, TouchMode.code])

/-- A finger leads to a touch mode. -/
theorem odd_switchModes {s : Pad} {t : Touch} (hf : s.isFingerTouch t.z)
    (hm : s.touchmode ≠ .wait2tap) : (s.switchModes t).touchmode.isTouchMode = true :=
  Config.isTouchMode_moveMode
    (Config.settles_horizontalMode _ _ (Config.settles_verticalMode _ _
      (Config.settles_circularMode _ _ (settles_fingerMode hf hm)))) hf.1

/-- Without pressure the mode stays. -/
theorem touchmode_switchModes {s : Pad} {t : Touch} (hz : t.z ≤ s.cfg.int .zFinger) :
    (s.switchModes t).touchmode = s.touchmode := by
  have hf := not_isFingerTouch hz
  have hz' : ¬ t.z > s.cfg.int .zFinger := not_lt.mpr hz
  have h1 : s.fingerMode t = s.touchmode := by simp [fingerMode, entersMTouch, hf]
  have h2 : s.cfg.circularMode t s.touchmode = s.touchmode := by
    simp [Config.circularMode, Config.entersCScroll, hz']
  have h3 : s.cfg.verticalMode t s.touchmode = s.touchmode := by
    simp [Config.verticalMode, Config.entersVScroll, hz']
  have h4 : s.cfg.horizontalMode t s.touchmode = s.touchmode := by
    simp [Config.horizontalMode, Config.entersHScroll, hz']
  simp only [switchModes, h1, h2, h3, h4]
  simp [Config.moveMode, hz']

theorem plain_switchModes {s : Pad} (t : Touch) (h : s.touchmode.Plain) :
    (s.switchModes t).touchmode.Plain := by
  have h1 : (s.fingerMode t).Plain := by
    rw [fingerMode]
    repeat' split
    all_goals first | exact h | decide
  have hite (m : TouchMode) (hm : m.Plain) (m' : TouchMode) (hm' : m'.Plain) (c : Prop)
      [Decidable c] : (if c then m' else m).Plain := by
    split
    · exact hm'
    · exact hm
  exact hite _ (hite _ (hite _ (hite _ h1 _ (by decide) _) _ (by decide) _) _ (by decide) _) _
    (by decide) _

/-! ### Release -/

theorem released_tap (s : Pad) (b : UInt32) : (s.tap b).1.touchmode.Released := by
  rw [tap]
  split
  · exact .inl rfl
  · exact .inl rfl
  · dsimp only
    split
    · exact .inr (.inl rfl)
    · exact .inl rfl

theorem released_endTouch (s : Pad) : s.endTouch.touchmode.Released := by
  rw [endTouch]
  split
  · exact .inr (.inr rfl)
  · exact .inl rfl

theorem released_release {s : Pad} {t : Touch} (b : UInt32) (h : s.isRelease t) :
    (s.release t b).1.touchmode.Released := by
  rw [release, if_pos h]
  dsimp only
  split
  · exact released_tap _ b
  · exact released_endTouch _

theorem release_of_not {s : Pad} {t : Touch} {b : UInt32} (h : ¬ s.isRelease t) :
    s.release t b = (s, b) := if_neg h

theorem not_isRelease {s : Pad} {t : Touch} (h : s.cfg.int .zFinger ≤ t.z) : ¬ s.isRelease t :=
  fun hr => absurd hr.1 (not_lt.mpr h)

/-- Without pressure the mode after a release is even. -/
theorem even_release {s : Pad} {t : Touch} (b : UInt32) (hz : t.z < s.cfg.int .zFinger) :
    (s.release t b).1.touchmode.isTouchMode = false := by
  by_cases h : s.isRelease t
  · exact (released_release b h).even
  · rw [release_of_not h]
    exact Bool.eq_false_of_not_eq_true (fun hodd => h ⟨hz, hodd⟩)

theorem plain_release {s : Pad} (t : Touch) (b : UInt32) (hm : s.touchmode.Plain) :
    (s.release t b).1.touchmode.Plain := by
  by_cases h : s.isRelease t
  · exact (released_release b h).plain
  · rw [release_of_not h]
    exact hm

/-! ### Movement and scrolling -/

/-- In a mode without touch nothing moves. -/
theorem track_of_even {s : Pad} {t : Touch} {b : UInt32} (h : s.touchmode.isTouchMode = false) :
    (s.track t b).pad = s := by
  rw [track]
  split <;> first | rfl | (rename_i hm; rw [hm] at h; cases h)

theorem Tracks.plain {s : Pad} {t : Touch} {m : TouchMode} (h : Tracks s t m)
    (hm : s.touchmode.Plain) : m.Plain := by
  cases h with
  | stay => exact hm
  | oneFinger _ => decide
  | leaveRight _ _ => decide
  | leaveBottom _ _ => decide

theorem Tracks.ne_wait2tap {s : Pad} {t : Touch} {m : TouchMode} (h : Tracks s t m)
    (hm : s.touchmode ≠ .wait2tap) : m ≠ .wait2tap := by
  cases h with
  | stay => exact hm
  | oneFinger _ => decide
  | leaveRight _ _ => decide
  | leaveBottom _ _ => decide

/-! ### The rest of a packet -/

/-- The driver before the switch over the modes. -/
def beforeTrack (s : Pad) (t : Touch) (b : UInt32) : Pad :=
  ((s.release t b).1.cancelPredrag t).cancelTap t

/-- The driver after the switch over the modes. -/
def tracked (s : Pad) (t : Touch) (b : UInt32) : Pad :=
  ((s.beforeTrack t b).track t (s.release t b).2).pad

theorem touchmode_captureTouch (s : Pad) (t : Touch) :
    (s.captureTouch t).touchmode = s.touchmode := by
  rw [captureTouch]
  split <;> rfl

theorem touchCore_deliver (s : Pad) (dx dy : ℤ) (b : UInt32) :
    (s.deliver dx dy b).touchCore = s.touchCore :=
  touchCore_ite rfl (touchCore_ite rfl (touchCore_ite (touchCore_ite rfl rfl) rfl))

theorem touchCore_handleTouch (s : Pad) (t : Touch) (b : UInt32) :
    (s.handleTouch t b).touchCore =
      (((s.tracked t b).captureTouch t).switchModes t).touchCore :=
  touchCore_deliver _ _ _ _

theorem touchmode_handleTouch (s : Pad) (t : Touch) (b : UInt32) :
    (s.handleTouch t b).touchmode =
      (((s.tracked t b).captureTouch t).switchModes t).touchmode :=
  congrArg TouchCore.touchmode (s.touchCore_handleTouch t b)

theorem cfg_beforeTrack (s : Pad) (t : Touch) (b : UInt32) : (s.beforeTrack t b).cfg = s.cfg :=
  (s.sameButtons_release t b).cfg

theorem cfg_tracked (s : Pad) (t : Touch) (b : UInt32) : (s.tracked t b).cfg = s.cfg :=
  (sameButtons_track _ _ _).cfg.trans (s.cfg_beforeTrack t b)

theorem cfg_captured (s : Pad) (t : Touch) (b : UInt32) :
    ((s.tracked t b).captureTouch t).cfg = s.cfg :=
  (sameButtons_captureTouch _ _).cfg.trans (s.cfg_tracked t b)

theorem touchmode_tracked (s : Pad) (t : Touch) (b : UInt32) :
    Tracks (s.beforeTrack t b) t (s.tracked t b).touchmode := by
  obtain ⟨m, hm, h⟩ := tracksTo_track (s.beforeTrack t b) t (s.release t b).2
  have hmode : (s.tracked t b).touchmode = m := congrArg TouchCore.touchmode h.touchCore
  rw [hmode]
  exact hm

theorem touchmode_beforeTrack (s : Pad) (t : Touch) (b : UInt32) :
    (s.beforeTrack t b).touchmode = (s.release t b).1.touchmode ∨
      (s.release t b).1.touchmode = .predrag ∧ (s.beforeTrack t b).touchmode = .notouch := by
  change (if _ then _ else _) = _ ∨ _ ∧ (if _ then _ else _) = _
  split
  · rename_i h
    exact .inr ⟨h.1, rfl⟩
  · exact .inl rfl

/-- Without pressure a packet leaves an even mode. -/
theorem even_handleTouch {s : Pad} {t : Touch} (b : UInt32) (hz : t.z < s.cfg.int .zFinger) :
    (s.handleTouch t b).touchmode.isTouchMode = false := by
  have hrel := even_release b hz
  have hbefore : (s.beforeTrack t b).touchmode.isTouchMode = false := by
    rcases s.touchmode_beforeTrack t b with h | ⟨-, h⟩
    · rw [h]
      exact hrel
    · rw [h]
      rfl
  have htracked : (s.tracked t b).touchmode = (s.beforeTrack t b).touchmode :=
    congrArg Pad.touchmode (track_of_even hbefore)
  have hz' : t.z ≤ ((s.tracked t b).captureTouch t).cfg.int .zFinger := by
    rw [s.cfg_captured t b]
    exact hz.le
  rw [touchmode_handleTouch, touchmode_switchModes hz', touchmode_captureTouch, htracked]
  exact hbefore

theorem beforeTrack_ne_wait2tap {s : Pad} {t : Touch} (b : UInt32)
    (hz : s.cfg.int .zFinger ≤ t.z) (hm : s.touchmode ≠ .wait2tap) :
    (s.beforeTrack t b).touchmode ≠ .wait2tap := by
  have h := s.touchmode_beforeTrack t b
  rw [release_of_not (not_isRelease hz)] at h
  rcases h with h | ⟨-, h⟩
  · rw [h]
    exact hm
  · rw [h]
    decide

/-- With a finger a packet leaves an odd mode. -/
theorem odd_handleTouch {s : Pad} {t : Touch} (b : UInt32) (hf : s.isFingerTouch t.z)
    (hm : s.touchmode ≠ .wait2tap) : (s.handleTouch t b).touchmode.isTouchMode = true := by
  have htracked := (s.touchmode_tracked t b).ne_wait2tap (beforeTrack_ne_wait2tap b hf.1.le hm)
  have hf' : ((s.tracked t b).captureTouch t).isFingerTouch t.z := by
    rw [isFingerTouch, s.cfg_captured t b]
    exact hf
  rw [touchmode_handleTouch]
  refine odd_switchModes hf' ?_
  rw [touchmode_captureTouch]
  exact htracked

theorem plain_handleTouch {s : Pad} (t : Touch) (b : UInt32) (hm : s.touchmode.Plain) :
    (s.handleTouch t b).touchmode.Plain := by
  have hrel := plain_release t b hm
  have hbefore : (s.beforeTrack t b).touchmode.Plain := by
    rcases s.touchmode_beforeTrack t b with h | ⟨-, h⟩
    · rw [h]
      exact hrel
    · rw [h]
      decide
  have htracked := (s.touchmode_tracked t b).plain hbefore
  rw [touchmode_handleTouch]
  refine plain_switchModes t ?_
  rw [touchmode_captureTouch]
  exact htracked

/-! ### The disable zone -/

/-- Without pressure the zone waits for the second tap, or for nothing. -/
theorem disableZone_up {s : Pad} {t : Touch} (hz : t.z < s.cfg.int .zFinger) :
    (s.disableZone t).touchmode = .wait2tap ∨ (s.disableZone t).touchmode.Plain := by
  have hf := not_isFingerTouch hz.le
  rw [disableZone]
  split
  · rename_i hm
    rw [if_neg (fun h => hf h.1), hm]
    exact .inr (by decide)
  · rw [if_pos hz]
    split
    · exact .inl rfl
    · exact .inr (show TouchMode.Plain .notouch by decide)
  · rename_i hm
    rw [if_neg hf]
    exact .inl hm
  · rw [if_pos hz]
    split <;> exact .inr (show TouchMode.Plain .notouch by decide)
  · exact .inr (TouchMode.plain_of_ne (by assumption) (by assumption) (by assumption))

/-- With a finger the zone waits for a release, or for nothing. -/
theorem disableZone_finger {s : Pad} {t : Touch} (hf : s.isFingerTouch t.z) :
    (s.disableZone t).touchmode.isTouchMode = true ∨ (s.disableZone t).touchmode.Plain := by
  have hz : ¬ t.z < s.cfg.int .zFinger := not_lt.mpr hf.1.le
  rw [disableZone]
  split
  · rename_i hm
    split
    · exact .inl (show TouchMode.isTouchMode .wait1release = true by decide)
    · rw [hm]
      exact .inr (by decide)
  · rename_i hm
    rw [if_neg hz]
    split
    · exact .inr (show TouchMode.Plain .notouch by decide)
    · rw [hm]
      exact .inl rfl
  · rw [if_pos hf]
    split
    · split
      · exact .inl (show TouchMode.isTouchMode .wait2release = true by decide)
      · exact .inr (show TouchMode.Plain .notouch by decide)
    · exact .inr (show TouchMode.Plain .notouch by decide)
  · rename_i hm
    rw [if_neg hz]
    split
    · exact .inr (show TouchMode.Plain .notouch by decide)
    · rw [hm]
      exact .inl rfl
  · exact .inr (TouchMode.plain_of_ne (by assumption) (by assumption) (by assumption))

/-! ### Runs -/

/-- The modes of the disable zone are in use only while it is enabled. -/
def ZoneModes (s : Pad) : Prop := s.touchmode.Plain ∨ s.zoneEnabled

theorem ZoneModes.of_sameMode {s s' : Pad} (h : s.ZoneModes) (hs : SameMode s s') :
    s'.ZoneModes := by
  rw [ZoneModes, zoneEnabled, hs.cfg, hs.caps, hs.touchmode]
  exact h

theorem zoneModes_of_touchCore {s s' : Pad} (h : s.ZoneModes)
    (he : s'.touchCore = s.touchCore) : s'.ZoneModes := h.of_sameMode (sameMode_of_touchCore he)

theorem zoneModes_notouch {s : Pad} (h : s.touchmode = .notouch) : s.ZoneModes := by
  left
  rw [h]
  decide

theorem zoneModes_dispatchTouch {s : Pad} (t : Touch) (b : UInt32) (h : s.ZoneModes) :
    (s.dispatchTouch t b).ZoneModes := by
  have hzone := s.sameElse_watchZone t
  have hwatch : (s.watchZone t).ZoneModes := by
    by_cases hen : s.zoneEnabled
    · right
      rw [zoneEnabled, hzone.cfg, hzone.caps]
      exact hen
    · rw [watchZone, if_neg hen]
      exact h
  rw [dispatchTouch]
  split
  · exact h
  split
  · exact hwatch
  split
  · exact hwatch
  · have hsame := (s.watchZone t).sameButtons_handleTouch t b
    rcases hwatch with hplain | hen
    · exact .inl (plain_handleTouch t b hplain)
    · right
      rw [zoneEnabled, hsame.cfg, hsame.caps]
      exact hen

theorem zoneModes_dispatchEventsWithPacket {s : Pad} (p : PadPacket) (now : UInt64)
    (h : s.ZoneModes) : (s.dispatchEventsWithPacket p now).ZoneModes := by
  rw [dispatchEventsWithPacket]
  split
  · exact zoneModes_of_touchCore h (s.touchCore_dispatchEventsWithPacketEW p now)
  split
  · exact zoneModes_of_touchCore h
      ((touchCore_passThrough _ _ _).trans (s.touchCore_readButtons p now))
  · exact zoneModes_dispatchTouch _ _ (zoneModes_of_touchCore h (s.touchCore_prepared p now))

theorem zoneModes_handle {s : Pad} (e : PadEvent) (h : s.ZoneModes) : (s.handle e).ZoneModes := by
  have h0 : Pad.ZoneModes { s with log := [] } := h
  cases e with
  | packet p now => exact zoneModes_dispatchEventsWithPacket p now h0
  | buttonTimer now => exact h
  | dragTimer now => exact zoneModes_notouch (sameMode_onDragTimer _ now).touchmode
  | scrollTimer => exact h0.of_sameMode (sameMode_onScrollTimer _)
  | setDisableTouchpad enable => exact h0.of_sameMode (sameMode_setDisableTouchpad _ enable)
  | notifyKeyPressed adbKeyCode goingDown time =>
      exact h0.of_sameMode (sameMode_notifyKeyPressed _ adbKeyCode goingDown time)
  | notification device notice => exact h0.of_sameMode (sameMode_notification _ device notice)
  | setParamProperties d => exact zoneModes_notouch (setParamPropertiesGated_spec _ d).touchmode
  | wake => exact h0.of_sameMode (sameMode_initTouchPad _)

theorem zoneModes_run (es : List PadEvent) {s : Pad} (h : s.ZoneModes) : (s.run es).ZoneModes := by
  induction es generalizing s with
  | nil => exact h
  | cons e es ih => exact ih (zoneModes_handle e h)

/-- After the disable zone has been left, no second tap is waited for. -/
theorem watchZone_ne_wait2tap {s : Pad} {t : Touch} (h : s.ZoneModes)
    (hzone : ¬ (s.zoneEnabled ∧ TouchMode.wait1release.code ≤ (s.watchZone t).touchmode.code)) :
    (s.watchZone t).touchmode ≠ .wait2tap := by
  intro hm
  by_cases hen : s.zoneEnabled
  · refine hzone ⟨hen, ?_⟩
    rw [hm]
    decide
  · rw [watchZone, if_neg hen] at hm
    rcases h with hplain | hen'
    · rw [hm] at hplain
      revert hplain
      decide
    · exact hen hen'

theorem even_dispatchTouch {s : Pad} {t : Touch} (b : UInt32) (hout : ¬ s.isOutsideZone t)
    (hi : (s.dispatchTouch t b).ignoreall = false) (hz : t.z < s.cfg.int .zFinger) :
    (s.dispatchTouch t b).touchmode.isTouchMode = false := by
  rw [dispatchTouch, if_neg hout] at hi ⊢
  split at hi
  · rename_i hzone
    rw [if_pos hzone]
    have hup := disableZone_up hz
    rw [watchZone, if_pos hzone.1] at hzone ⊢
    rcases hup with hm | hplain
    · rw [hm]
      rfl
    · exact absurd hzone.2 (not_le.mpr hplain)
  · rename_i hzone
    rw [if_neg hzone]
    split at hi
    · rename_i hig
      exact absurd (hig.symm.trans hi) Bool.true_eq_false.mp
    · rename_i hig
      rw [if_neg hig]
      refine even_handleTouch b ?_
      rw [(s.sameElse_watchZone t).cfg]
      exact hz

theorem odd_dispatchTouch {s : Pad} {t : Touch} (b : UInt32) (h : s.ZoneModes)
    (hout : ¬ s.isOutsideZone t) (hi : (s.dispatchTouch t b).ignoreall = false)
    (hf : s.isFingerTouch t.z) : (s.dispatchTouch t b).touchmode.isTouchMode = true := by
  rw [dispatchTouch, if_neg hout] at hi ⊢
  split at hi
  · rename_i hzone
    rw [if_pos hzone]
    have hdown := disableZone_finger hf
    rw [watchZone, if_pos hzone.1] at hzone ⊢
    rcases hdown with hodd | hplain
    · exact hodd
    · exact absurd hzone.2 (not_le.mpr hplain)
  · rename_i hzone
    rw [if_neg hzone]
    split at hi
    · rename_i hig
      exact absurd (hig.symm.trans hi) Bool.true_eq_false.mp
    · rename_i hig
      rw [if_neg hig]
      refine odd_handleTouch b ?_ (watchZone_ne_wait2tap h hzone)
      rw [isFingerTouch, (s.sameElse_watchZone t).cfg]
      exact hf

/-- A normal packet: neither extended W mode nor pass-through. -/
def isNormal (s : Pad) (p : PadPacket) : Prop := ¬ s.isExtended p ∧ ¬ s.isPassThrough p

instance (s : Pad) (p : PadPacket) : Decidable (s.isNormal p) := inferInstanceAs (Decidable (_ ∧ _))

theorem dispatch_of_isNormal {s : Pad} {p : PadPacket} (h : s.isNormal p) (now : UInt64) :
    s.dispatchEventsWithPacket p now =
      (s.prepared p now).pad.dispatchTouch (s.prepared p now).touch (s.prepared p now).buttons := by
  rw [dispatchEventsWithPacket, if_neg h.1, if_neg h.2]

/-- The packet is rejected by the rule "OutsidezoneNoAction When Typing". -/
def isRejected (s : Pad) (p : PadPacket) (now : UInt64) : Prop :=
  (s.prepared p now).pad.isOutsideZone (s.prepared p now).touch

instance (s : Pad) (p : PadPacket) (now : UInt64) : Decidable (s.isRejected p now) :=
  inferInstanceAs (Decidable (isOutsideZone _ _))

/-- **Touch-mode parity.**  After a normal packet that was handled, the mode is even if there is
no pressure and odd if a finger touches. -/
theorem touch_mode_parity (cfg : Config) (caps : Capabilities) (es : List PadEvent) (s : Pad)
    (hs : s = (initial cfg caps).run es) (p : PadPacket) (now : UInt64) (hn : s.isNormal p)
    (hr : ¬ s.isRejected p now)
    (hi : (s.dispatchEventsWithPacket p now).ignoreall = false) :
    ((s.readTouch p now).z < s.cfg.int .zFinger →
        (s.dispatchEventsWithPacket p now).touchmode.isTouchMode = false) ∧
      (s.isFingerTouch (s.readTouch p now).z →
        (s.dispatchEventsWithPacket p now).touchmode.isTouchMode = true) := by
  have hzone : s.ZoneModes := by
    rw [hs]
    exact zoneModes_run es (.inl (show TouchMode.Plain .notouch by decide))
  have hcore := s.touchCore_prepared p now
  have hcfg : (s.prepared p now).pad.cfg = s.cfg := congrArg TouchCore.cfg hcore
  have hz := (s.same_prepared p now).z
  rw [dispatch_of_isNormal hn] at hi ⊢
  refine ⟨fun hup => even_dispatchTouch _ hr hi ?_, fun hf => odd_dispatchTouch _ ?_ hr hi ?_⟩
  · rw [hz, hcfg]
    exact hup
  · exact zoneModes_of_touchCore hzone hcore
  · rw [hz, isFingerTouch, hcfg]
    exact hf

/-- A touchpad with nothing but a touchpad. -/
def plainCaps : Capabilities := ⟨false, false, false, 0, false, true⟩

/-- A packet with the buttons, of one finger at (x, y), or of none if the pressure `z` is 0. -/
def padPacket (buttons z : UInt8) (x y : ℕ) : PadPacket where
  byte0 := 0x90 ||| buttons
  byte1 := UInt8.ofNat (y / 256 % 16 * 16 + x / 256 % 16)
  byte2 := z
  byte3 := UInt8.ofNat (0xc0 + y / 4096 * 32 + x / 4096 * 16)
  byte4 := UInt8.ofNat (x % 256)
  byte5 := UInt8.ofNat (y % 256)

theorem touch_mode_parity_release :
    (((initial .init plainCaps).run [.packet (padPacket 0 60 3000 3000) 1000]).dispatchEventsWithPacket
      (padPacket 0 0 3000 3000) 2000).touchmode.isTouchMode = false :=
  (touch_mode_parity .init plainCaps [.packet (padPacket 0 60 3000 3000) 1000] _ rfl
    (padPacket 0 0 3000 3000) 2000 (by decide +kernel) (by decide +kernel)
    (by decide +kernel)).1 (by decide +kernel)

end Pad

end VoodooPS2.Synaptics
