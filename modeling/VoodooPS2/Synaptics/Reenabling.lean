import VoodooPS2.Synaptics.DoubleTap

/-! # Enabling the touchpad by a double tap

A disabled touchpad handles nothing but the taps in the disable zone.  The recogniser starts from
`MODE_NOTOUCH`, but the release that would bring the mode back there is not handled while the
touchpad is disabled: `reenabled_iff` says from which modes two taps enable it. -/

namespace VoodooPS2.Synaptics

/-- What two taps depend on, and what they change. -/
structure Recogniser where
  touchmode : TouchMode
  touchtime : UInt64
  untouchtime : UInt64
  ignoreall : Bool

namespace Pad

def recogniser (s : Pad) : Recogniser := ⟨s.touchmode, s.touchtime, s.untouchtime, s.ignoreall⟩

theorem recogniser_congr {s s' : Pad} (hz : s'.zone = s.zone) (hi : s'.ignoreall = s.ignoreall) :
    s'.recogniser = s.recogniser :=
  congrArg₂ (fun (z : Zone) i => Recogniser.mk z.touchmode z.touchtime z.untouchtime i) hz hi

/-- Taps in the disable zone are looked for, whatever has been typed. -/
def Watching (s : Pad) : Prop := s.zoneEnabled ∧ s.cfg.flag .outzoneWt = false

instance (s : Pad) : Decidable s.Watching := inferInstanceAs (Decidable (_ ∧ _))

/-! ### One packet -/

theorem cfg_dispatchTouch (s : Pad) (t : Touch) (b : UInt32) :
    (s.dispatchTouch t b).cfg = s.cfg ∧ (s.dispatchTouch t b).caps = s.caps := by
  have hwatch := s.sameElse_watchZone t
  have hhandle := (s.watchZone t).sameButtons_handleTouch t b
  rw [dispatchTouch]
  split
  · exact ⟨rfl, rfl⟩
  split
  · exact ⟨hwatch.cfg, hwatch.caps⟩
  split
  · exact ⟨hwatch.cfg, hwatch.caps⟩
  · exact ⟨hhandle.cfg.trans hwatch.cfg, hhandle.caps.trans hwatch.caps⟩

/-- A packet does not change the configuration. -/
theorem cfg_packet (s : Pad) (p : PadPacket) (now : UInt64) :
    (s.handle (.packet p now)).cfg = s.cfg ∧ (s.handle (.packet p now)).caps = s.caps := by
  change (dispatchEventsWithPacket { s with log := [] } p now).cfg = s.cfg ∧
    (dispatchEventsWithPacket { s with log := [] } p now).caps = s.caps
  by_cases hn : isNormal { s with log := [] } p
  · have hzone := zone_prepared { s with log := [] } p now
    obtain ⟨hcfg, hcaps⟩ := cfg_dispatchTouch (prepared { s with log := [] } p now).pad
      (prepared { s with log := [] } p now).touch (prepared { s with log := [] } p now).buttons
    rw [dispatch_of_isNormal hn]
    exact ⟨hcfg.trans (congrArg Zone.cfg hzone), hcaps.trans (congrArg Zone.caps hzone)⟩
  · have hzone := zone_dispatch hn now
    exact ⟨congrArg Zone.cfg hzone, congrArg Zone.caps hzone⟩

theorem Watching.packet {s : Pad} (h : s.Watching) (p : PadPacket) (now : UInt64) :
    (s.handle (.packet p now)).Watching := by
  obtain ⟨hcfg, hcaps⟩ := s.cfg_packet p now
  rw [Watching, zoneEnabled, hcfg, hcaps]
  exact h

theorem zone_deliver (s : Pad) (dx dy : ℤ) (b : UInt32) : (s.deliver dx dy b).zone = s.zone :=
  zone_ite rfl (zone_ite rfl (zone_ite (zone_ite rfl rfl) rfl))

theorem zone_switchModes {s : Pad} {t : Touch} (hz : t.z ≤ s.cfg.int .zFinger) :
    (s.switchModes t).zone = s.zone := by
  rw [zone, touchmode_switchModes hz]
  rfl

/-- Without touch nothing is cancelled. -/
theorem zone_cancel {s : Pad} (hm : s.touchmode = .notouch) (t : Touch) :
    ((s.cancelPredrag t).cancelTap t).zone = s.zone := by
  have hmode : (s.cancelPredrag t).touchmode = s.touchmode :=
    if_neg fun h => absurd (hm.symm.trans h.1) (by decide)
  have htime : ((s.cancelPredrag t).cancelTap t).touchtime = s.touchtime := by
    refine if_neg fun h => absurd h.1 ?_
    rw [hmode, hm]
    decide
  rw [zone, htime, show ((s.cancelPredrag t).cancelTap t).touchmode = s.touchmode from hmode]
  rfl

/-- Without pressure and without touch the rest of a packet leaves the recogniser alone. -/
theorem recogniser_handleTouch {s : Pad} {t : Touch} (hm : s.touchmode = .notouch)
    (hz : t.z < s.cfg.int .zFinger) (b : UInt32) :
    (s.handleTouch t b).recogniser = s.recogniser := by
  have heven : s.touchmode.isTouchMode = false := by
    rw [hm]
    rfl
  have hrelease : s.release t b = (s, b) :=
    release_of_not fun h => absurd (heven.symm.trans h.2) Bool.false_ne_true
  have hcancel := zone_cancel hm t
  have hbefore : (s.beforeTrack t b).zone = s.zone := by
    rw [beforeTrack, hrelease]
    exact hcancel
  have htracked : s.tracked t b = s.beforeTrack t b :=
    track_of_even ((congrArg (fun z => z.touchmode.isTouchMode) hbefore).trans heven)
  have hcfg : (s.beforeTrack t b).cfg = s.cfg := congrArg Zone.cfg hbefore
  have hup : t.z ≤ (s.beforeTrack t b).cfg.int .zFinger := hcfg ▸ hz.le
  have hcapture : (s.tracked t b).captureTouch t = s.beforeTrack t b := by
    rw [htracked, captureTouch, if_neg (not_isFingerTouch hup)]
  have hzone : (s.handleTouch t b).zone = s.zone := by
    have hdeliver : (s.handleTouch t b).zone =
        (((s.tracked t b).captureTouch t).switchModes t).zone := zone_deliver _ _ _ _
    rw [hdeliver, hcapture, zone_switchModes hup, hbefore]
  exact recogniser_congr hzone (s.sameButtons_handleTouch t b).ignoreall

/-- What the disable zone machine makes of a packet is what remains, if the touchpad is disabled or
a tap is being looked for, or if there is no touch. -/
theorem recogniser_handle {s : Pad} (hw : s.Watching) {p : PadPacket} {now : UInt64}
    (hn : s.isNormal p) {r : Recogniser}
    (hr : ∀ q : Pad, q.cfg = s.cfg → q.recogniser = s.recogniser →
      (q.disableZone (s.prepared p now).touch).recogniser = r)
    (hc : r.ignoreall = true ∨ ¬ r.touchmode.Plain ∨
      r.touchmode = .notouch ∧ (s.prepared p now).touch.z < s.cfg.int .zFinger) :
    (s.handle (.packet p now)).recogniser = r := by
  have hn' : isNormal { s with log := [] } p := hn
  have htouch := s.touch_prepared_log [] p now
  have hzone : (prepared { s with log := [] } p now).pad.zone = s.zone := zone_prepared _ p now
  have hi : (prepared { s with log := [] } p now).pad.ignoreall = s.ignoreall :=
    congrArg TouchCore.ignoreall (touchCore_prepared { s with log := [] } p now)
  change (dispatchEventsWithPacket { s with log := [] } p now).recogniser = r
  rw [dispatch_of_isNormal hn', htouch]
  generalize (prepared { s with log := [] } p now).pad = q at hzone hi ⊢
  generalize (prepared { s with log := [] } p now).buttons = b
  have hcfg : q.cfg = s.cfg := congrArg Zone.cfg hzone
  have hq := hr q hcfg (recogniser_congr hzone hi)
  have hcaps : q.caps = s.caps := congrArg Zone.caps hzone
  have hen : q.zoneEnabled := by
    rw [zoneEnabled, hcfg, hcaps]
    exact hw.1
  have hout : ¬ q.isOutsideZone (s.prepared p now).touch := fun h =>
    absurd ((congrArg (fun c => c.flag .outzoneWt) hcfg).symm.trans h.1) (by rw [hw.2]; decide)
  have hwatch : q.watchZone (s.prepared p now).touch = q.disableZone (s.prepared p now).touch :=
    if_pos hen
  have hmode := congrArg Recogniser.touchmode hq
  have hignore := congrArg Recogniser.ignoreall hq
  rw [dispatchTouch, if_neg hout, hwatch]
  split
  · exact hq
  · rename_i hplain
    split
    · exact hq
    · rename_i hoff
      rcases hc with hc | hc | ⟨hc, hz⟩
      · exact absurd (hignore.trans hc) hoff
      · refine absurd ⟨hen, ?_⟩ hplain
        exact not_lt.mp fun hlt => hc (hmode ▸ hlt)
      · have hcfg' : (q.disableZone (s.prepared p now).touch).cfg = q.cfg :=
          (q.sameElse_disableZone _).cfg
        rw [recogniser_handleTouch (hmode.trans hc) (by rw [hcfg', hcfg]; exact hz)]
        exact hq

/-! ### Taps -/

/-- The packet is of one finger in the disable zone. -/
def touchesZone (s : Pad) (p : PadPacket) (now : UInt64) : Prop :=
  s.cfg.isFingerTouch (s.prepared p now).touch ∧
    (4 ≤ (s.prepared p now).touch.w ∧ (s.prepared p now).touch.w ≤ 5) ∧
    s.cfg.isInDisableZone (s.prepared p now).touch

instance (s : Pad) (p : PadPacket) (now : UInt64) : Decidable (s.touchesZone p now) :=
  inferInstanceAs (Decidable (_ ∧ _))

/-- A normal packet without a finger. -/
def liftsFinger (s : Pad) (p : PadPacket) (now : UInt64) : Prop :=
  s.isNormal p ∧ (s.prepared p now).touch.z < s.cfg.int .zFinger

instance (s : Pad) (p : PadPacket) (now : UInt64) : Decidable (s.liftsFinger p now) :=
  inferInstanceAs (Decidable (_ ∧ _))

/-- Extended W mode and pass-through have widths of their own. -/
theorem touchesZone.isNormal {s : Pad} {p : PadPacket} {now : UInt64} (h : s.touchesZone p now) :
    s.isNormal p := by
  have hw : (s.prepared p now).touch.w = p.w := (s.same_prepared p now).w
  have h4 : 4 ≤ p.w := hw ▸ h.2.1.1
  exact ⟨fun he => absurd he.2 (by omega), fun hp => absurd hp.2 (by omega)⟩

/-- The finger of a first tap goes down. -/
theorem firstTouch {s : Pad} (hw : s.Watching) (hm : s.touchmode = .notouch) {p : PadPacket}
    {now : UInt64} (ht : s.touchesZone p now) :
    (s.handle (.packet p now)).recogniser =
      { s.recogniser with touchmode := .wait1release, touchtime := now } := by
  have hplain : ¬ TouchMode.wait1release.Plain := by decide
  refine recogniser_handle hw ht.isNormal (fun q hcfg hq => ?_) (.inr (.inl hplain))
  have hmode : q.touchmode = .notouch := (congrArg Recogniser.touchmode hq).trans hm
  have htouch : q.isFingerTouch (s.prepared p now).touch.z ∧
      q.zoneTouch (s.prepared p now).touch := by
    rw [isFingerTouch, zoneTouch, isInDisableZone, hcfg]
    exact ht
  simp only [disableZone, hmode, if_pos htouch]
  rw [← hq, s.now_prepared p now]
  rfl

/-- A finger of a tap stays where it is. -/
theorem heldTouch {s : Pad} (hw : s.Watching)
    (hm : s.touchmode = .wait1release ∨ s.touchmode = .wait2release) {p : PadPacket}
    {now : UInt64} (ht : s.touchesZone p now) :
    (s.handle (.packet p now)).recogniser = s.recogniser := by
  have hplain : ¬ s.recogniser.touchmode.Plain := by
    change ¬ s.touchmode.Plain
    rcases hm with hm | hm <;> rw [hm] <;> decide
  refine recogniser_handle hw ht.isNormal (fun q hcfg hq => ?_) (.inr (.inl hplain))
  have hmode : q.touchmode = s.touchmode := congrArg Recogniser.touchmode hq
  have hz : ¬ (s.prepared p now).touch.z < q.cfg.int .zFinger := by
    rw [hcfg]
    exact not_lt.mpr ht.1.1.le
  have hin : q.isInDisableZone (s.prepared p now).touch.x (s.prepared p now).touch.y := by
    rw [isInDisableZone, hcfg]
    exact ht.2.2
  rcases hm with hm | hm
  · simp only [disableZone, hmode, hm, if_neg hz, if_neg (not_not_intro hin)]
    exact hq
  · simp only [disableZone, hmode, hm, if_neg hz, if_neg (not_not_intro hin)]
    exact hq

/-- The finger of a first tap is lifted in time. -/
theorem firstLift {s : Pad} (hw : s.Watching) (hm : s.touchmode = .wait1release) {p : PadPacket}
    {now : UInt64} (hl : s.liftsFinger p now)
    (ht : now - s.touchtime < s.cfg.time .maxtaptime) :
    (s.handle (.packet p now)).recogniser =
      { s.recogniser with touchmode := .wait2tap, untouchtime := now } := by
  have hplain : ¬ TouchMode.wait2tap.Plain := by decide
  refine recogniser_handle hw hl.1 (fun q hcfg hq => ?_) (.inr (.inl hplain))
  have hmode : q.touchmode = .wait1release := (congrArg Recogniser.touchmode hq).trans hm
  have htime : q.touchtime = s.touchtime := congrArg Recogniser.touchtime hq
  rw [← hcfg, ← htime, ← s.now_prepared p now] at ht
  have hz : (s.prepared p now).touch.z < q.cfg.int .zFinger := hcfg ▸ hl.2
  simp only [disableZone, hmode, if_pos hz, if_pos ht]
  rw [← hq, s.now_prepared p now]
  rfl

/-- The finger of a second tap goes down in time. -/
theorem secondTouch {s : Pad} (hw : s.Watching) (hm : s.touchmode = .wait2tap) {p : PadPacket}
    {now : UInt64} (ht : s.touchesZone p now)
    (hd : now - s.untouchtime < s.cfg.time .maxdragtime) :
    (s.handle (.packet p now)).recogniser =
      { s.recogniser with touchmode := .wait2release, touchtime := now } := by
  have hplain : ¬ TouchMode.wait2release.Plain := by decide
  refine recogniser_handle hw ht.isNormal (fun q hcfg hq => ?_) (.inr (.inl hplain))
  have hmode : q.touchmode = .wait2tap := (congrArg Recogniser.touchmode hq).trans hm
  have htime : q.untouchtime = s.untouchtime := congrArg Recogniser.untouchtime hq
  rw [← hcfg, ← htime, ← s.now_prepared p now] at hd
  have hf : q.isFingerTouch (s.prepared p now).touch.z := by
    rw [isFingerTouch, hcfg]
    exact ht.1
  have hzone : q.zoneTouch (s.prepared p now).touch := by
    rw [zoneTouch, isInDisableZone, hcfg]
    exact ht.2
  simp only [disableZone, hmode, if_pos hf, if_pos hzone, if_pos hd]
  rw [← hq, s.now_prepared p now]
  rfl

/-- A touch that is too late for a second tap is no first tap either. -/
theorem lateTouch {s : Pad} (hw : s.Watching) (hm : s.touchmode = .wait2tap)
    (hi : s.ignoreall = true) {p : PadPacket} {now : UInt64} (ht : s.touchesZone p now)
    (hd : ¬ now - s.untouchtime < s.cfg.time .maxdragtime) :
    (s.handle (.packet p now)).recogniser = { s.recogniser with touchmode := .notouch } := by
  refine recogniser_handle hw ht.isNormal (fun q hcfg hq => ?_) (.inl hi)
  have hmode : q.touchmode = .wait2tap := (congrArg Recogniser.touchmode hq).trans hm
  have htime : q.untouchtime = s.untouchtime := congrArg Recogniser.untouchtime hq
  rw [← hcfg, ← htime, ← s.now_prepared p now] at hd
  have hf : q.isFingerTouch (s.prepared p now).touch.z := by
    rw [isFingerTouch, hcfg]
    exact ht.1
  have hzone : q.zoneTouch (s.prepared p now).touch := by
    rw [zoneTouch, isInDisableZone, hcfg]
    exact ht.2
  simp only [disableZone, hmode, if_pos hf, if_pos hzone, if_neg hd]
  rw [← hq]
  rfl

/-- The finger of a second tap is lifted in time. -/
theorem secondLift {s : Pad} (hw : s.Watching) (hm : s.touchmode = .wait2release) {p : PadPacket}
    {now : UInt64} (hl : s.liftsFinger p now)
    (ht : now - s.touchtime < s.cfg.time .maxtaptime) :
    (s.handle (.packet p now)).recogniser =
      { s.recogniser with touchmode := .notouch, ignoreall := !s.ignoreall } := by
  refine recogniser_handle hw hl.1 (fun q hcfg hq => ?_) (.inr (.inr ⟨rfl, hl.2⟩))
  have hmode : q.touchmode = .wait2release := (congrArg Recogniser.touchmode hq).trans hm
  have htime : q.touchtime = s.touchtime := congrArg Recogniser.touchtime hq
  rw [← hcfg, ← htime, ← s.now_prepared p now] at ht
  have hz : (s.prepared p now).touch.z < q.cfg.int .zFinger := hcfg ▸ hl.2
  have hled : Pad.recogniser
      { updateTouchpadLED { q with ignoreall := !q.ignoreall } with touchmode := .notouch } =
        { q.recogniser with touchmode := .notouch, ignoreall := !q.ignoreall } := by
    rw [updateTouchpadLED]
    split <;> rfl
  have hi : s.ignoreall = q.ignoreall := (congrArg Recogniser.ignoreall hq).symm
  rw [← hq, hi, ← hled, disableZone]
  split
  · exact absurd (hmode.symm.trans ‹_›) (by decide)
  · exact absurd (hmode.symm.trans ‹_›) (by decide)
  · exact absurd (hmode.symm.trans ‹_›) (by decide)
  · rw [if_pos hz, if_pos ht]
  · exact absurd hmode ‹_›

/-- No finger comes and no tap is being looked for. -/
theorem noTouch {s : Pad} (hw : s.Watching) (hm : s.touchmode = .notouch) {p : PadPacket}
    {now : UInt64} (hl : s.liftsFinger p now) :
    (s.handle (.packet p now)).recogniser = s.recogniser := by
  refine recogniser_handle hw hl.1 (fun q hcfg hq => ?_) (.inr (.inr ⟨hm, hl.2⟩))
  have hmode : q.touchmode = .notouch := (congrArg Recogniser.touchmode hq).trans hm
  have hf : ¬ (q.isFingerTouch (s.prepared p now).touch.z ∧
      q.zoneTouch (s.prepared p now).touch) :=
    fun h => not_isFingerTouch (hcfg.symm ▸ hl.2.le) h.1
  simp only [disableZone, hmode, if_neg hf]
  exact hq

/-- While the touchpad is disabled, a mode of taps, drags and scrolling stays for ever. -/
theorem stuckMode {s : Pad} (hw : s.Watching) (hi : s.ignoreall = true)
    (hm : s.touchmode.Plain) (hne : s.touchmode ≠ .notouch) {p : PadPacket} {now : UInt64}
    (hn : s.isNormal p) : (s.handle (.packet p now)).recogniser = s.recogniser := by
  refine recogniser_handle hw hn (fun q hcfg hq => ?_) (.inl hi)
  have hmode : q.touchmode = s.touchmode := congrArg Recogniser.touchmode hq
  rw [← hmode] at hm hne
  rw [disableZone]
  split
  · rename_i h
    exact absurd h hne
  · rename_i h
    exact absurd (h ▸ hm) (by decide)
  · rename_i h
    exact absurd (h ▸ hm) (by decide)
  · rename_i h
    exact absurd (h ▸ hm) (by decide)
  · exact hq

end Pad

/-- A packet and its time. -/
abbrev TimedPacket := PadPacket × UInt64

/-- The packets of a tap: the first with a finger, more of them, and one without. -/
structure TapPackets where
  first : TimedPacket
  held : List TimedPacket
  release : TimedPacket

def eventsOf (ps : List TimedPacket) : List PadEvent := ps.map fun x => .packet x.1 x.2

namespace TapPackets

def touches (d : TapPackets) : List TimedPacket := d.first :: d.held

def events (d : TapPackets) : List PadEvent := eventsOf (d.touches ++ [d.release])

/-- Time does not go backwards. -/
def InOrder (d : TapPackets) : Prop := (d.touches ++ [d.release]).Pairwise fun x y => x.2 ≤ y.2

instance (d : TapPackets) : Decidable d.InOrder := inferInstanceAs (Decidable (List.Pairwise _ _))

end TapPackets

namespace Pad

/-- The finger is in the zone whenever a packet comes. -/
def Holds : Pad → List TimedPacket → Prop
  | _, [] => True
  | s, x :: xs => s.touchesZone x.1 x.2 ∧ Holds (s.handle (.packet x.1 x.2)) xs

instance decidableHolds : (s : Pad) → (xs : List TimedPacket) → Decidable (s.Holds xs)
  | _, [] => isTrue trivial
  | s, x :: xs =>
      haveI := decidableHolds (s.handle (.packet x.1 x.2)) xs
      inferInstanceAs (Decidable (_ ∧ _))

/-- A complete tap within the time for it. -/
def Taps (s : Pad) (d : TapPackets) : Prop :=
  s.Holds d.touches ∧ (s.run (eventsOf d.touches)).liftsFinger d.release.1 d.release.2 ∧
    d.release.2 - d.first.2 < s.cfg.time .maxtaptime

instance (s : Pad) (d : TapPackets) : Decidable (s.Taps d) := inferInstanceAs (Decidable (_ ∧ _))

theorem run_events (s : Pad) (d : TapPackets) :
    s.run d.events = (s.run (eventsOf d.touches)).handle (.packet d.release.1 d.release.2) := by
  rw [TapPackets.events, eventsOf, List.map_append, run, List.foldl_append]
  rfl

theorem Watching.run {s : Pad} (h : s.Watching) (ps : List TimedPacket) :
    (s.run (eventsOf ps)).Watching ∧ (s.run (eventsOf ps)).cfg = s.cfg := by
  induction ps generalizing s with
  | nil => exact ⟨h, rfl⟩
  | cons x xs ih =>
      obtain ⟨hw, hcfg⟩ := ih (h.packet x.1 x.2)
      exact ⟨hw, hcfg.trans (s.cfg_packet x.1 x.2).1⟩

/-- The finger of a tap is held. -/
theorem holds_spec {s : Pad} (hw : s.Watching)
    (hm : s.touchmode = .wait1release ∨ s.touchmode = .wait2release) {ps : List TimedPacket}
    (h : s.Holds ps) : (s.run (eventsOf ps)).recogniser = s.recogniser := by
  induction ps generalizing s with
  | nil => rfl
  | cons x xs ih =>
      have hstep := heldTouch hw hm h.1
      have hmode : (s.handle (.packet x.1 x.2)).touchmode = s.touchmode :=
        congrArg Recogniser.touchmode hstep
      exact (ih (hw.packet x.1 x.2) (hmode.symm ▸ hm) h.2).trans hstep

/-- A first tap. -/
theorem firstTap {s : Pad} (hw : s.Watching) (hm : s.touchmode = .notouch) {d : TapPackets}
    (h : s.Taps d) :
    (s.run d.events).recogniser = ⟨.wait2tap, d.first.2, d.release.2, s.ignoreall⟩ := by
  obtain ⟨⟨hfirst, hheld⟩, hlift, htime⟩ := h
  have hdown := firstTouch hw hm hfirst
  have hstays := holds_spec (hw.packet d.first.1 d.first.2)
    (.inl (congrArg Recogniser.touchmode hdown)) hheld
  have hpressed : (s.run (eventsOf d.touches)).recogniser = _ := hstays.trans hdown
  obtain ⟨hw', hcfg⟩ := hw.run d.touches
  have hsince : (s.run (eventsOf d.touches)).touchtime = d.first.2 :=
    congrArg Recogniser.touchtime hpressed
  rw [run_events, firstLift hw' (congrArg Recogniser.touchmode hpressed) hlift
    (by rw [hsince, hcfg]; exact htime), hpressed]
  rfl

/-- A second tap. -/
theorem secondTap {s : Pad} (hw : s.Watching) (hm : s.touchmode = .wait2tap) {d : TapPackets}
    (h : s.Taps d) (hd : d.first.2 - s.untouchtime < s.cfg.time .maxdragtime) :
    (s.run d.events).recogniser = ⟨.notouch, d.first.2, s.untouchtime, !s.ignoreall⟩ := by
  obtain ⟨⟨hfirst, hheld⟩, hlift, htime⟩ := h
  have hdown := secondTouch hw hm hfirst hd
  have hstays := holds_spec (hw.packet d.first.1 d.first.2)
    (.inr (congrArg Recogniser.touchmode hdown)) hheld
  have hpressed : (s.run (eventsOf d.touches)).recogniser = _ := hstays.trans hdown
  obtain ⟨hw', hcfg⟩ := hw.run d.touches
  have hsince : (s.run (eventsOf d.touches)).touchtime = d.first.2 :=
    congrArg Recogniser.touchtime hpressed
  have hi : (s.run (eventsOf d.touches)).ignoreall = s.ignoreall :=
    congrArg Recogniser.ignoreall hpressed
  rw [run_events, secondLift hw' (congrArg Recogniser.touchmode hpressed) hlift
    (by rw [hsince, hcfg]; exact htime), hpressed, hi]
  rfl

/-- A tap of a single touch that comes too late for a second tap is lost. -/
theorem lostTap {s : Pad} (hw : s.Watching) (hm : s.touchmode = .wait2tap)
    (hi : s.ignoreall = true) {d : TapPackets} (h : s.Taps d) (hheld : d.held = [])
    (hd : ¬ d.first.2 - s.untouchtime < s.cfg.time .maxdragtime) :
    (s.run d.events).recogniser = { s.recogniser with touchmode := .notouch } := by
  obtain ⟨⟨hfirst, -⟩, hlift, -⟩ := h
  have hlate := lateTouch hw hm hi hfirst hd
  have htouches : eventsOf d.touches = [.packet d.first.1 d.first.2] := by
    rw [TapPackets.touches, hheld]
    rfl
  rw [htouches] at hlift
  rw [run_events, htouches]
  exact (noTouch (hw.packet d.first.1 d.first.2) (congrArg Recogniser.touchmode hlate)
    hlift).trans hlate

/-- The second touch of a tap that comes too late for a second tap is the first of a first tap. -/
theorem restartedTap {s : Pad} (hw : s.Watching) (hm : s.touchmode = .wait2tap)
    (hi : s.ignoreall = true) {d : TapPackets} (h : s.Taps d) (horder : d.InOrder)
    (hheld : d.held ≠ []) (hd : ¬ d.first.2 - s.untouchtime < s.cfg.time .maxdragtime) :
    ∃ time, (s.run d.events).recogniser = ⟨.wait2tap, time, d.release.2, true⟩ := by
  obtain ⟨⟨hfirst, hholds⟩, hlift, htime⟩ := h
  have hlate := lateTouch hw hm hi hfirst hd
  obtain ⟨x, xs, hx⟩ := List.exists_cons_of_ne_nil hheld
  rw [TapPackets.InOrder, TapPackets.touches, hx] at horder
  obtain ⟨hle, horder⟩ := List.pairwise_cons.mp horder
  have hle := hle x List.mem_cons_self
  have hle' := (List.pairwise_cons.mp horder).1 d.release (by simp)
  have hevents : s.run d.events =
      (s.handle (.packet d.first.1 d.first.2)).run (TapPackets.events ⟨x, xs, d.release⟩) := by
    rw [TapPackets.events, TapPackets.touches, hx]
    rfl
  have hshort : d.release.2 - x.2 < s.cfg.time .maxtaptime := by
    have hsince := UInt64.toNat_sub_of_le _ _ hle'
    have hsince' := UInt64.toNat_sub_of_le _ _ (UInt64.le_trans hle hle')
    rw [UInt64.le_iff_toNat_le] at hle
    rw [UInt64.lt_iff_toNat_lt] at htime ⊢
    omega
  have htap : (s.handle (.packet d.first.1 d.first.2)).Taps ⟨x, xs, d.release⟩ := by
    refine ⟨?_, ?_, ?_⟩
    · rw [hx] at hholds
      exact hholds
    · rw [TapPackets.touches, hx] at hlift
      exact hlift
    · rw [(s.cfg_packet d.first.1 d.first.2).1]
      exact hshort
  refine ⟨x.2, ?_⟩
  rw [hevents, firstTap (hw.packet _ _) (congrArg Recogniser.touchmode hlate) htap,
    show (s.handle (.packet d.first.1 d.first.2)).ignoreall = true from
      (congrArg Recogniser.ignoreall hlate).trans hi]

/-- In any other mode a tap is not noticed. -/
theorem unnoticedTap {s : Pad} (hw : s.Watching) (hi : s.ignoreall = true)
    (hm : s.touchmode.Plain) (hne : s.touchmode ≠ .notouch) {d : TapPackets} (h : s.Taps d) :
    (s.run d.events).recogniser = s.recogniser := by
  obtain ⟨hholds, hlift, -⟩ := h
  have hstay (ps : List TimedPacket) (hps : s.Holds ps) :
      (s.run (eventsOf ps)).recogniser = s.recogniser := by
    clear hlift hholds
    induction ps generalizing s with
    | nil => rfl
    | cons x xs ih =>
        have hstep : (s.handle (.packet x.1 x.2)).recogniser = s.recogniser :=
          stuckMode hw hi hm hne hps.1.isNormal
        have hmode : (s.handle (.packet x.1 x.2)).touchmode = s.touchmode :=
          congrArg Recogniser.touchmode hstep
        have hig : (s.handle (.packet x.1 x.2)).ignoreall = s.ignoreall :=
          congrArg Recogniser.ignoreall hstep
        exact (ih (hw.packet x.1 x.2) (hig.trans hi) (hmode.symm ▸ hm) (hmode.symm ▸ hne)
          hps.2).trans hstep
  have htouched := hstay d.touches hholds
  have hmode : (s.run (eventsOf d.touches)).touchmode = s.touchmode :=
    congrArg Recogniser.touchmode htouched
  have hig : (s.run (eventsOf d.touches)).ignoreall = s.ignoreall :=
    congrArg Recogniser.ignoreall htouched
  rw [run_events]
  exact (stuckMode (hw.run d.touches).1 (hig.trans hi) (hmode.symm ▸ hm) (hmode.symm ▸ hne)
    hlift.1).trans htouched

/-- Two taps while the touchpad is disabled and no finger of a tap is down. -/
theorem twoTaps_iff {s : Pad} (hw : s.Watching) (hi : s.ignoreall = true)
    (hm1 : s.touchmode ≠ .wait1release) (hm2 : s.touchmode ≠ .wait2release)
    {d d' : TapPackets} (h : s.Taps d) (horder : d.InOrder) (h' : (s.run d.events).Taps d')
    (hd : d'.first.2 - d.release.2 < s.cfg.time .maxdragtime) :
    ((s.run d.events).run d'.events).ignoreall = false ↔
      s.touchmode = .notouch ∨ s.touchmode = .wait2tap ∧
        (d.first.2 - s.untouchtime < s.cfg.time .maxdragtime ∨ d.held ≠ []) := by
  obtain ⟨hw', hcfg⟩ := hw.run (d.touches ++ [d.release])
  have hsecond {time : UInt64}
      (hr : (s.run d.events).recogniser = ⟨.wait2tap, time, d.release.2, true⟩) :
      ((s.run d.events).run d'.events).ignoreall = false := by
    have hun : (s.run d.events).untouchtime = d.release.2 := congrArg Recogniser.untouchtime hr
    have hig : (s.run d.events).ignoreall = true := congrArg Recogniser.ignoreall hr
    have htap := secondTap hw' (congrArg Recogniser.touchmode hr) h' (by
      rw [show (s.run (eventsOf (d.touches ++ [d.release]))).untouchtime = d.release.2 from hun,
        hcfg]
      exact hd)
    exact (congrArg Recogniser.ignoreall htap).trans (congrArg (!·) hig)
  have hfirst {b : Bool} (hmode : (s.run d.events).touchmode = .notouch)
      (hig : (s.run d.events).ignoreall = b) :
      ((s.run d.events).run d'.events).ignoreall = b :=
    (congrArg Recogniser.ignoreall (firstTap hw' hmode h')).trans hig
  by_cases hnotouch : s.touchmode = .notouch
  · have htap := firstTap hw hnotouch h
    rw [hi] at htap
    exact iff_of_true (hsecond htap) (.inl hnotouch)
  by_cases hwait : s.touchmode = .wait2tap
  · by_cases hin : d.first.2 - s.untouchtime < s.cfg.time .maxdragtime
    · refine iff_of_true (hfirst ?_ ?_) (.inr ⟨hwait, .inl hin⟩)
      · exact congrArg Recogniser.touchmode (secondTap hw hwait h hin)
      · exact (congrArg Recogniser.ignoreall (secondTap hw hwait h hin)).trans
          (congrArg (!·) hi)
    · by_cases hheld : d.held = []
      · have hlost := lostTap hw hwait hi h hheld hin
        have hstill := hfirst (congrArg Recogniser.touchmode hlost)
          ((congrArg Recogniser.ignoreall hlost).trans hi)
        refine iff_of_false (fun hf => absurd (hstill.symm.trans hf) Bool.true_eq_false.mp) ?_
        rintro (hn | ⟨-, hin' | hne⟩)
        · exact hnotouch hn
        · exact hin hin'
        · exact hne hheld
      · obtain ⟨time, hrestart⟩ := restartedTap hw hwait hi h horder hheld hin
        exact iff_of_true (hsecond hrestart) (.inr ⟨hwait, .inr hheld⟩)
  · have hplain : s.touchmode.Plain := TouchMode.plain_of_ne hm1 hwait hm2
    have hsame := unnoticedTap hw hi hplain hnotouch h
    have hmode : (s.run d.events).touchmode = s.touchmode := congrArg Recogniser.touchmode hsame
    have hig : (s.run d.events).ignoreall = true := (congrArg Recogniser.ignoreall hsame).trans hi
    have hsame' := unnoticedTap hw' hig (hmode.symm ▸ hplain) (hmode.symm ▸ hnotouch) h'
    have hstill : ((s.run d.events).run d'.events).ignoreall = true :=
      (congrArg Recogniser.ignoreall hsame').trans hig
    refine iff_of_false (fun hf => absurd (hstill.symm.trans hf) Bool.true_eq_false.mp) ?_
    rintro (hn | ⟨hn, -⟩)
    · exact hnotouch hn
    · exact hwait hn

/-! ### Runs -/

/-- No release of a tap is waited for. -/
def Unpressed (m : TouchMode) : Prop := m ≠ .wait1release ∧ m ≠ .wait2release

theorem unpressed_of_plain {m : TouchMode} (h : m.Plain) : Unpressed m := by
  refine ⟨fun hm => ?_, fun hm => ?_⟩ <;> rw [hm] at h <;> exact absurd h (by decide)

/-- Without pressure no release of a tap is waited for any longer. -/
theorem unpressed_dispatchTouch {s : Pad} (h : s.ZoneModes) {t : Touch}
    (hz : t.z < s.cfg.int .zFinger) (b : UInt32) : Unpressed (s.dispatchTouch t b).touchmode := by
  have hout : ¬ s.isOutsideZone t := fun ho => absurd ho.2.1 (not_lt.mpr hz.le)
  have hwatch : (s.watchZone t).touchmode = .wait2tap ∨ (s.watchZone t).touchmode.Plain := by
    by_cases hen : s.zoneEnabled
    · rw [watchZone, if_pos hen]
      exact disableZone_up hz
    · rw [watchZone, if_neg hen]
      exact .inr (h.resolve_right hen)
  have hzone : Unpressed (s.watchZone t).touchmode := by
    rcases hwatch with hm | hm
    · rw [hm]
      exact ⟨by decide, by decide⟩
    · exact unpressed_of_plain hm
  rw [dispatchTouch, if_neg hout]
  by_cases hmode : s.zoneEnabled ∧ TouchMode.wait1release.code ≤ (s.watchZone t).touchmode.code
  · rw [if_pos hmode]
    exact hzone
  · have hplain : (s.watchZone t).touchmode.Plain := by
      rcases hwatch with hm | hm
      · exact absurd hm (watchZone_ne_wait2tap h hmode)
      · exact hm
    rw [if_neg hmode]
    split
    · exact hzone
    · exact unpressed_of_plain (plain_handleTouch t b hplain)

end Pad

/-- The driver, and the pressure of the last normal packet, if there was one. -/
structure LiftSession where
  pad : Pad
  lastz : Option ℤ

namespace LiftSession

open Pad

def step (k : LiftSession) (e : PadEvent) : LiftSession where
  pad := k.pad.handle e
  lastz :=
    match e with
    | .packet p now => if k.pad.isNormal p then some (k.pad.prepared p now).touch.z else k.lastz
    | _ => k.lastz

def run (k : LiftSession) (es : List PadEvent) : LiftSession := es.foldl step k

/-- The driver as it is started. -/
def started (cfg : Config) (caps : Capabilities) : LiftSession := ⟨.initial cfg caps, none⟩

/-- The last normal packet had no finger. -/
def Lifted (k : LiftSession) : Prop := ∀ z ∈ k.lastz, z < k.pad.cfg.int .zFinger

instance (k : LiftSession) : Decidable k.Lifted := inferInstanceAs (Decidable (∀ _ ∈ _, _))

/-- After a packet without a finger no release is waited for. -/
def Inv (k : LiftSession) : Prop := k.pad.ZoneModes ∧ (k.Lifted → Unpressed k.pad.touchmode)

theorem inv_packet {k : LiftSession} (h : k.Inv) (p : PadPacket) (now : UInt64) :
    (k.step (.packet p now)).Inv := by
  obtain ⟨hz, hu⟩ := h
  refine ⟨zoneModes_handle (.packet p now) hz, fun hl => ?_⟩
  have hcfg := (k.pad.cfg_packet p now).1
  change Unpressed (dispatchEventsWithPacket { k.pad with log := [] } p now).touchmode
  by_cases hn : k.pad.isNormal p
  · have hn' : isNormal { k.pad with log := [] } p := hn
    have hlast : (k.step (.packet p now)).lastz = some (k.pad.prepared p now).touch.z := if_pos hn
    have hup : (k.pad.prepared p now).touch.z < k.pad.cfg.int .zFinger := hcfg ▸ hl _ hlast
    have hcore := touchCore_prepared { k.pad with log := [] } p now
    have hcfg' : (prepared { k.pad with log := [] } p now).pad.cfg = k.pad.cfg :=
      congrArg TouchCore.cfg hcore
    rw [dispatch_of_isNormal hn']
    refine unpressed_dispatchTouch ?_ ?_ _
    · exact zoneModes_of_touchCore (s := { k.pad with log := [] }) hz hcore
    · rw [touch_prepared_log, hcfg']
      exact hup
  · have hzone := zone_dispatch (s := { k.pad with log := [] }) hn now
    have hlast : (k.step (.packet p now)).lastz = k.lastz := if_neg hn
    have hmode : (dispatchEventsWithPacket { k.pad with log := [] } p now).touchmode =
        k.pad.touchmode := congrArg Zone.touchmode hzone
    rw [hmode]
    refine hu fun z hm => ?_
    have hlt := hl z (hlast.symm ▸ hm)
    rw [← hcfg]
    exact hlt

theorem inv_step {k : LiftSession} (h : k.Inv) (e : PadEvent) : (k.step e).Inv := by
  have hzone : (k.step e).pad.ZoneModes := zoneModes_handle e h.1
  have hquiet (hm : (k.pad.handle e).touchmode = .notouch) : (k.step e).Inv := by
    refine ⟨hzone, fun _ => unpressed_of_plain ?_⟩
    change (k.pad.handle e).touchmode.Plain
    rw [hm]
    decide
  have hpassing (hp : e.Passing) (hlast : (k.step e).lastz = k.lastz) : (k.step e).Inv := by
    have hz : (k.pad.handle e).zone = k.pad.zone := zone_react (s := { k.pad with log := [] }) hp
    have hcfg : (k.step e).pad.cfg = k.pad.cfg := congrArg Zone.cfg hz
    have hmode : (k.step e).pad.touchmode = k.pad.touchmode := congrArg Zone.touchmode hz
    refine ⟨hzone, fun hl => ?_⟩
    rw [Lifted, hlast, hcfg] at hl
    rw [hmode]
    exact h.2 hl
  cases e with
  | packet p now => exact inv_packet h p now
  | dragTimer now => exact hquiet (sameMode_onDragTimer _ now).touchmode
  | setParamProperties d => exact hquiet (setParamPropertiesGated_spec _ d).touchmode
  | buttonTimer now => exact hpassing trivial rfl
  | scrollTimer => exact hpassing trivial rfl
  | setDisableTouchpad enable => exact hpassing trivial rfl
  | notifyKeyPressed adbKeyCode goingDown time => exact hpassing trivial rfl
  | notification device notice => exact hpassing trivial rfl
  | wake => exact hpassing trivial rfl

theorem inv_run (es : List PadEvent) {k : LiftSession} (h : k.Inv) : (k.run es).Inv := by
  induction es generalizing k with
  | nil => exact h
  | cons e es ih => exact ih (inv_step h e)

theorem inv_started (cfg : Config) (caps : Capabilities) : (started cfg caps).Inv :=
  ⟨zoneModes_notouch rfl, fun _ => unpressed_of_plain (show TouchMode.Plain .notouch by decide)⟩

/-- The touchpad is disabled, the feature is active and no finger is on it. -/
def Waiting (k : LiftSession) : Prop :=
  k.pad.Watching ∧ k.pad.ignoreall = true ∧ k.Lifted

instance (k : LiftSession) : Decidable k.Waiting := inferInstanceAs (Decidable (_ ∧ _))

/-- Two complete taps in the disable zone, one soon after the other. -/
def TwoTaps (s : Pad) (d d' : TapPackets) : Prop :=
  (s.Taps d ∧ d.InOrder) ∧ ((s.run d.events).Taps d' ∧ d'.InOrder) ∧
    d'.first.2 - d.release.2 < s.cfg.time .maxdragtime

instance (s : Pad) (d d' : TapPackets) : Decidable (TwoTaps s d d') :=
  inferInstanceAs (Decidable (_ ∧ _))

/-- **Two taps enable the touchpad** just when they find the mode at `MODE_NOTOUCH`, or at
`MODE_WAIT2TAP` and the first of them is not lost there. -/
theorem reenabled_iff (cfg : Config) (caps : Capabilities) (es : List PadEvent)
    (d d' : TapPackets) (hwait : ((started cfg caps).run es).Waiting)
    (htaps : TwoTaps ((started cfg caps).run es).pad d d') :
    (((started cfg caps).run es).pad.run (d.events ++ d'.events)).ignoreall = false ↔
      ((started cfg caps).run es).pad.touchmode = .notouch ∨
        ((started cfg caps).run es).pad.touchmode = .wait2tap ∧
          (d.first.2 - ((started cfg caps).run es).pad.untouchtime <
              ((started cfg caps).run es).pad.cfg.time .maxdragtime ∨ d.held ≠ []) := by
  obtain ⟨-, hpressed⟩ := inv_run es (inv_started cfg caps)
  generalize (started cfg caps).run es = k at hwait htaps hpressed ⊢
  obtain ⟨hw, hi, hl⟩ := hwait
  obtain ⟨⟨h, horder⟩, ⟨h', -⟩, hd⟩ := htaps
  obtain ⟨hm1, hm2⟩ := hpressed hl
  have hrun : k.pad.run (d.events ++ d'.events) = (k.pad.run d.events).run d'.events :=
    List.foldl_append
  rw [hrun]
  exact twoTaps_iff hw hi hm1 hm2 h horder h' hd

/-- A touch of two packets in the disable zone. -/
def zoneTap (now : UInt64) : TapPackets where
  first := (padPacket 0 60 1000 4300, now)
  held := [(padPacket 0 60 1000 4300, now + 1000)]
  release := (padPacket 0 0 0 0, now + 2000)

/-- The touchpad is disabled while nothing touches it. -/
theorem reenabled_iff_idle :
    (((started .init { plainCaps with ledpresent := true }).run
        [.setDisableTouchpad false]).pad.run
          ((zoneTap 10000).events ++ (zoneTap 20000).events)).ignoreall = false :=
  (reenabled_iff .init { plainCaps with ledpresent := true } [.setDisableTouchpad false]
    (zoneTap 10000) (zoneTap 20000) (by decide +kernel) (by decide +kernel)).mpr
    (.inl (by decide +kernel))

/-- The touchpad is disabled while a finger moves. -/
def disabledInMove : List PadEvent :=
  [.packet (padPacket 0 60 3000 3000) 1000, .setDisableTouchpad false,
    .packet (padPacket 0 0 0 0) 2000]

theorem not_reenabled :
    ((started .init { plainCaps with ledpresent := true }).run disabledInMove).Waiting ∧
      TwoTaps ((started .init { plainCaps with ledpresent := true }).run disabledInMove).pad
        (zoneTap 10000) (zoneTap 20000) ∧
      ¬ (((started .init { plainCaps with ledpresent := true }).run disabledInMove).pad.run
          ((zoneTap 10000).events ++ (zoneTap 20000).events)).ignoreall = false := by
  decide +kernel

end LiftSession

end VoodooPS2.Synaptics
