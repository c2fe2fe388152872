import VoodooPS2.Synaptics.ExtendedW

/-! # Where the finger was

A movement is measured from the position and the number of fingers of the packet before it, and
what is left of it is kept for the next one.  `Pad.place` is all of that.  `Pad.Still` relates two
states of a packet's handling between which the finger has stayed where it was and nothing has been
reported of its movement; `place_prepared` says where a packet finds it, and `place_handleTouch`
where it leaves it. -/

namespace VoodooPS2.Synaptics

/-- Where the primary finger was, and what is left of its movement. -/
structure Place where
  lastx : ℤ
  lasty : ℤ
  lastf : ℤ
  xrest : ℤ
  yrest : ℤ
  scrollrest : ℤ
  ignoredeltas : ℤ
deriving DecidableEq, Repr

namespace Place

/-- What the next movement is measured from; an arm of the switch over the modes leaves it alone. -/
def origin (q : Place) : ℤ × ℤ × ℤ × ℤ := (q.lastx, q.lasty, q.lastf, q.ignoredeltas)

/-- Deltas are ignored for a while when the number of fingers changes. -/
def fingersChange (c : Config) (q : Place) (f : ℤ) : Place :=
  if q.lastf > 0 ∧ f > 0 ∧ q.lastf ≠ f then { q with ignoredeltas := c.int .ignoredeltasstart }
  else q

/-- While deltas are ignored, the last position is the current one. -/
def ignoreDeltas (q : Place) (t : Touch) : Place :=
  if q.ignoredeltas ≠ 0 then
    { q with lastx := t.x, lasty := t.y, ignoredeltas := q.ignoredeltas - 1 }
  else q

theorem fingersChange_of_eq {q : Place} {f : ℤ} (h : q.lastf = f) (c : Config) :
    q.fingersChange c f = q := if_neg fun hc => hc.2.2 h

theorem ignoreDeltas_of_zero {q : Place} (h : q.ignoredeltas = 0) (t : Touch) :
    q.ignoreDeltas t = q := if_neg (not_not_intro h)

end Place

namespace Motion

def place (m : Motion) : Place :=
  ⟨m.lastx, m.lasty, m.lastf, m.xrest, m.yrest, m.scrollrest, m.ignoredeltas⟩

theorem place_fingersChange (c : Config) (m : Motion) (f : ℤ) :
    (m.fingersChange c f).place = m.place.fingersChange c f := by
  have hreset (m : Motion) : m.resetAverages.place = m.place := rfl
  rw [fingersChange, Place.fingersChange]
  by_cases hc : m.lastf > 0 ∧ f > 0 ∧ m.lastf ≠ f
  · rw [if_pos hc, if_pos (show m.place.lastf > 0 ∧ f > 0 ∧ m.place.lastf ≠ f from hc),
      if_pos hc.2.2, hreset]
    rfl
  · rw [if_neg hc, if_neg (show ¬ (m.place.lastf > 0 ∧ f > 0 ∧ m.place.lastf ≠ f) from hc)]
    split <;> rfl

theorem place_unsmooth (c : Config) (m : Motion) (t : Touch) :
    (m.unsmooth c t).1.place = m.place := by
  rw [unsmooth]
  split <;> rfl

theorem place_average (c : Config) (m : Motion) (t : Touch) :
    (m.average c t).1.place = m.place := by
  rw [average]
  split <;> rfl

theorem place_ignoreDeltas (m : Motion) (t : Touch) :
    (m.ignoreDeltas t).place = m.place.ignoreDeltas t := by
  rw [ignoreDeltas, Place.ignoreDeltas]
  by_cases hc : m.ignoredeltas ≠ 0
  · rw [if_pos hc, if_pos (show m.place.ignoredeltas ≠ 0 from hc)]
    dsimp only
    split <;> rfl
  · rw [if_neg hc, if_neg (show ¬ m.place.ignoredeltas ≠ 0 from hc)]

end Motion

/-- The effect reports a movement. -/
def Effect.moves : Effect → Bool
  | .relative dx dy _ => dx ≠ 0 ∨ dy ≠ 0
  | .scrollWheel _ _ => true
  | _ => false

/-- The movements among the effects. -/
def motionsOf (log : List Effect) : List Effect := log.filter Effect.moves

theorem motionsOf_append (l l' : List Effect) :
    motionsOf (l ++ l') = motionsOf l ++ motionsOf l' := List.filter_append l l'

theorem motionsOf_divide (ds : List ℤ) : motionsOf (ds.map .divide) = [] := by
  rw [motionsOf, List.filter_eq_nil_iff]
  simp [Effect.moves]

theorem motionsOf_relative (bs : List UInt32) : motionsOf (bs.map (.relative 0 0)) = [] := by
  rw [motionsOf, List.filter_eq_nil_iff]
  simp [Effect.moves]

namespace Pad

def place (s : Pad) : Place := s.motion.place

/-- The finger is where it was, and nothing has been reported of a movement. -/
structure Still (s s' : Pad) : Prop where
  place : s'.place = s.place
  motions : motionsOf s'.log = motionsOf s.log

namespace Still

variable {s s' s'' : Pad}

theorem refl (s : Pad) : Still s s := ⟨rfl, rfl⟩

theorem trans (h : Still s s') (h' : Still s' s'') : Still s s'' :=
  ⟨h'.place.trans h.place, h'.motions.trans h.motions⟩

theorem ite {c : Prop} [Decidable c] (h : Still s s') (h' : Still s s'') :
    Still s (if c then s' else s'') := by
  split
  · exact h
  · exact h'

end Still

theorem still_of_log {s s' : Pad} {effects : List Effect} (hp : s'.place = s.place)
    (hl : s'.log = s.log ++ effects) (hm : motionsOf effects = []) : Still s s' :=
  ⟨hp, by rw [hl, motionsOf_append, hm, List.append_nil]⟩

theorem still_dividing (s : Pad) (ds : List ℤ) : Still s (s.dividing ds) :=
  still_of_log rfl rfl (motionsOf_divide ds)

/-! ### Before the first early return -/

theorem still_middleButton (s : Pad) (b : UInt32) (now : UInt64) (origin : MBComingFrom) :
    Still s (s.middleButton b now origin).1 := still_of_log rfl rfl (motionsOf_relative _)

theorem still_readButtons (s : Pad) (p : PadPacket) (now : UInt64) :
    Still s (s.readButtons p now).1 := by
  have hstore : Still s (s.storeButtons p) := ⟨rfl, rfl⟩
  rw [readButtons]
  split
  · exact hstore.trans (still_middleButton _ _ _ _)
  · exact hstore

theorem still_fingerDown (s : Pad) (p : PadPacket) (t : Touch) (b : UInt32) :
    Still s (s.fingerDown p t b).1 := by
  rw [fingerDown]
  split
  · exact s.still_middleButton _ _ _
  · exact .refl s

theorem place_smooth (s : Pad) (t : Touch) :
    (s.smooth t).1.place =
      (s.place.fingersChange s.cfg t.f).ignoreDeltas (s.smooth t).2 := by
  let m := s.motion.fingersChange s.cfg t.f
  let u := m.unsmooth s.cfg t
  let a := u.1.average s.cfg u.2
  have hu : u.1.place = m.place := m.place_unsmooth s.cfg t
  have ha : a.1.place = m.place := (u.1.place_average s.cfg u.2).trans hu
  have hm : m.place = s.place.fingersChange s.cfg t.f := s.motion.place_fingersChange s.cfg t.f
  have hsmooth : (s.smooth t).1.place = (a.1.ignoreDeltas a.2).place := rfl
  rw [hsmooth, Motion.place_ignoreDeltas, ha, hm]
  rfl

theorem motions_smooth (s : Pad) (t : Touch) :
    motionsOf (s.smooth t).1.log = motionsOf s.log := by
  rw [smooth, motionsOf_append, motionsOf_divide, List.append_nil]

theorem still_setModeByte (s : Pad) : Still s s.setModeByte :=
  .ite (.refl s) (still_of_log rfl rfl rfl)

theorem clickRule_still : ClickRule Still where
  refl := Still.refl
  trans := Still.trans
  modeByte := still_setModeByte
  clickbuttons := fun _ _ => ⟨rfl, rfl⟩
  buttonState := fun _ _ => ⟨rfl, rfl⟩
  clickedprimary := fun _ _ => ⟨rfl, rfl⟩
  lastbuttons := fun _ _ => ⟨rfl, rfl⟩

/-- A packet before the filters on its position. -/
def unfiltered (s : Pad) (p : PadPacket) (now : UInt64) : Pad :=
  (((s.readButtons p now).1.dividing (s.readButtons p now).1.cfg.scaleDivisors).fingerDown p
    (s.readTouch p now) (s.readButtons p now).2).1

theorem still_unfiltered (s : Pad) (p : PadPacket) (now : UInt64) :
    Still s (s.unfiltered p now) :=
  ((s.still_readButtons p now).trans (still_dividing _ _)).trans (still_fingerDown _ _ _ _)

theorem cfg_unfiltered (s : Pad) (p : PadPacket) (now : UInt64) :
    (s.unfiltered p now).cfg = s.cfg := by
  have hdown : (s.unfiltered p now).touchCore = (s.readButtons p now).1.touchCore :=
    touchCore_fingerDown ((s.readButtons p now).1.dividing _) p _ _
  exact congrArg TouchCore.cfg (hdown.trans (s.touchCore_readButtons p now))

/-- After the filters only the buttons of a ClickPad are left. -/
theorem still_prepared (s : Pad) (p : PadPacket) (now : UInt64) :
    Still ((s.unfiltered p now).smooth (s.readTouch p now)).1 (s.prepared p now).pad ∧
      (s.prepared p now).touch = ((s.unfiltered p now).smooth (s.readTouch p now)).2 := by
  rw [unfiltered, ← s.readTouch_readButtons p now, prepared, prepare]
  split
  · exact ⟨clickRule_still.clickPad _ _ _ _, rfl⟩
  · exact ⟨.refl _, rfl⟩

/-- Where a packet finds the finger: while deltas are ignored, where the packet has it. -/
theorem place_prepared (s : Pad) (p : PadPacket) (now : UInt64) :
    (s.prepared p now).pad.place =
      (s.place.fingersChange s.cfg (s.readTouch p now).f).ignoreDeltas (s.prepared p now).touch := by
  obtain ⟨hstill, htouch⟩ := s.still_prepared p now
  rw [hstill.place, place_smooth, htouch, (s.still_unfiltered p now).place, s.cfg_unfiltered]

theorem motions_prepared (s : Pad) (p : PadPacket) (now : UInt64) :
    motionsOf (s.prepared p now).pad.log = motionsOf s.log := by
  rw [(s.still_prepared p now).1.motions, motions_smooth, (s.still_unfiltered p now).motions]

/-! ### After the first early return -/

theorem still_updateTouchpadLED (s : Pad) : Still s s.updateTouchpadLED :=
  .ite (still_of_log rfl rfl rfl) (.refl s)

theorem still_watchZone (s : Pad) (t : Touch) : Still s (s.watchZone t) := by
  have htoggle : Still s (updateTouchpadLED { s with ignoreall := !s.ignoreall }) := by
    have hset : Still s { s with ignoreall := !s.ignoreall } := ⟨rfl, rfl⟩
    exact hset.trans (still_updateTouchpadLED _)
  have hzone : Still s (s.disableZone t) := by
    rw [disableZone]
    repeat' split
    all_goals first
      | exact ⟨rfl, rfl⟩
      | exact htoggle.trans ⟨rfl, rfl⟩
  exact .ite hzone (.refl s)

/-- A packet that is not a release finds the finger at the switch over the modes where it was. -/
theorem still_beforeTrack {s : Pad} {t : Touch} (h : ¬ s.isRelease t) (b : UInt32) :
    Still s (s.beforeTrack t b) := by
  rw [beforeTrack, release_of_not h]
  exact ⟨rfl, rfl⟩

/-- At a touch mode the packet has not been a release. -/
theorem not_isRelease_of_beforeTrack {s : Pad} {t : Touch} {b : UInt32}
    (h : (s.beforeTrack t b).touchmode.isTouchMode = true) : ¬ s.isRelease t := by
  intro hr
  have heven := (released_release b hr).even
  rcases s.touchmode_beforeTrack t b with hm | ⟨-, hm⟩
  · rw [hm, heven] at h
    exact Bool.false_ne_true h
  · rw [hm] at h
    exact absurd h (by decide)

theorem still_captureTouch (s : Pad) (t : Touch) : Still s (s.captureTouch t) :=
  .ite ⟨rfl, rfl⟩ (.refl s)

/-- Quotients that are zero are not movements. -/
theorem still_deliver_of_small {s : Pad} {dx dy : ℤ} (hx : dx.tdiv (s.cfg.int .divisorx) = 0)
    (hy : dy.tdiv (s.cfg.int .divisory) = 0) (b : UInt32) : Still s (s.deliver dx dy b) := by
  have hmove (b : UInt32) : Still s (s.dispatchMove dx dy b) := by
    refine (still_dividing s _).trans (still_of_log rfl rfl ?_)
    rw [hx, hy]
    rfl
  exact .ite (hmove b) (.ite ⟨rfl, rfl⟩
    (.ite (.ite ⟨rfl, rfl⟩ ((hmove 4).trans ⟨rfl, rfl⟩)) ((hmove b).trans ⟨rfl, rfl⟩)))

/-- Nothing moves. -/
theorem still_deliver (s : Pad) (b : UInt32) : Still s (s.deliver 0 0 b) :=
  still_deliver_of_small (Int.zero_tdiv _) (Int.zero_tdiv _) b

theorem place_deliver (s : Pad) (dx dy : ℤ) (b : UInt32) :
    (s.deliver dx dy b).place = s.place := by
  rw [deliver]
  repeat' split
  all_goals rfl

theorem origin_moveDelta (s : Pad) (t : Touch) (b : UInt32) :
    (s.moveDelta t b).pad.place.origin = s.place.origin := by
  rw [moveDelta]
  dsimp only
  split <;> rfl

theorem origin_scrollBy (s : Pad) (delta divisor thresh : ℤ) (dispatch : Pad → ℤ → Pad)
    (h : ∀ r n, (dispatch r n).place = r.place) :
    (s.scrollBy delta divisor thresh dispatch).place.origin = s.place.origin := by
  rw [scrollBy]
  split
  · rw [h]
    rfl
  · rfl

theorem place_wheelTwo (s : Pad) (dy dx : ℤ) : (s.wheelTwo dy dx).place = s.place := by
  rw [wheelTwo]
  split <;> rfl

theorem origin_trackTwo (s : Pad) (t : Touch) (b : UInt32) :
    (s.trackTwo t b).pad.place.origin = s.place.origin := by
  have htwo (dy dx : ℤ) : (s.scrollTwo t dy dx).place.origin = s.place.origin := by
    rw [scrollTwo, place_wheelTwo]
    rfl
  rw [trackTwo]
  repeat' split
  · exact s.origin_moveDelta t b
  all_goals first
    | rfl
    | exact htwo _ _

theorem place_trackThree (s : Pad) (t : Touch) : (s.trackThree t).place = s.place := by
  rw [trackThree]
  dsimp only
  repeat' split
  all_goals rfl

theorem origin_trackVScroll (s : Pad) (t : Touch) :
    (s.trackVScroll t).place.origin = s.place.origin := by
  rw [trackVScroll]
  repeat' split
  · rfl
  · rfl
  · exact s.origin_scrollBy _ _ _ _ fun _ _ => rfl

theorem origin_trackHScroll (s : Pad) (t : Touch) :
    (s.trackHScroll t).place.origin = s.place.origin := by
  rw [trackHScroll]
  repeat' split
  · rfl
  · rfl
  · exact s.origin_scrollBy _ _ _ _ fun _ _ => rfl

theorem origin_trackCScroll (s : Pad) (t : Touch) :
    (s.trackCScroll t).place.origin = s.place.origin := by
  rw [trackCScroll]
  split
  · rfl
  · exact s.origin_scrollBy _ _ _ _ fun _ _ => rfl

theorem origin_trackMove (s : Pad) (t : Touch) (b : UInt32) :
    (s.trackMove t b).pad.place.origin = s.place.origin := by
  rw [trackMove]
  split
  · exact s.origin_moveDelta t b
  · rfl

/-- The switch over the modes leaves alone what the next movement is measured from. -/
theorem origin_track (s : Pad) (t : Touch) (b : UInt32) :
    (s.track t b).pad.place.origin = s.place.origin := by
  rw [track]
  split
  case h_4 =>
    split
    · exact congrArg Place.origin (s.place_trackThree t)
    · exact s.origin_trackTwo t b
  case h_5 => exact s.origin_trackVScroll t
  case h_6 => exact s.origin_trackHScroll t
  case h_7 => exact s.origin_trackCScroll t
  all_goals first
    | exact s.origin_trackMove t _
    | rfl

/-- The driver when the last packet's position is about to be saved. -/
def switched (s : Pad) (t : Touch) (b : UInt32) : Pad :=
  ((s.tracked t b).captureTouch t).switchModes t

/-- The movement that is dispatched. -/
def progress (s : Pad) (t : Touch) (b : UInt32) : Progress :=
  (s.beforeTrack t b).track t (s.release t b).2

theorem log_switchModes (s : Pad) (t : Touch) : (s.switchModes t).log = s.log := rfl

theorem log_switched (s : Pad) (t : Touch) (b : UInt32) :
    (s.switched t b).log = ((s.progress t b).pad.captureTouch t).log := log_switchModes _ t

theorem handleTouch_eq (s : Pad) (t : Touch) (b : UInt32) :
    s.handleTouch t b =
      ((s.switched t b).deliver (s.progress t b).dx (s.progress t b).dy
        (s.progress t b).buttons).saveLast t := rfl

theorem place_tap (s : Pad) (b : UInt32) : (s.tap b).1.place = s.place := by
  have hclick : (s.dragClick b).1.place = s.place := by
    rw [dragClick]
    split
    · rfl
    dsimp only
    split <;> rfl
  rw [tap]
  split
  · exact hclick
  · rfl
  · rfl

theorem origin_release (s : Pad) (t : Touch) (b : UInt32) :
    (s.release t b).1.place.origin = s.place.origin := by
  have hlift : (s.liftFinger t).place.origin = s.place.origin := rfl
  have hend (r : Pad) : r.endTouch.place = r.place := by
    rw [endTouch]
    split <;> rfl
  rw [release]
  split
  · rw [← hlift]
    dsimp only
    split
    · exact congrArg Place.origin (place_tap _ b)
    · exact congrArg Place.origin (hend _)
  · rfl

theorem origin_switched (s : Pad) (t : Touch) (b : UInt32) :
    (s.switched t b).place.origin = s.place.origin := by
  have hswitch (r : Pad) : (r.switchModes t).place.origin = r.place.origin := rfl
  have hcapture := congrArg Place.origin (still_captureTouch (s.tracked t b) t).place
  have htrack := (s.beforeTrack t b).origin_track t (s.release t b).2
  exact (hswitch _).trans (hcapture.trans (htrack.trans (s.origin_release t b)))

/-- Where a packet leaves the finger: where the packet has it. -/
theorem place_handleTouch (s : Pad) (t : Touch) (b : UInt32) :
    (s.handleTouch t b).place =
      { (s.switched t b).place with lastx := t.x, lasty := t.y, lastf := t.f } := by
  have hsave (r : Pad) :
      (r.saveLast t).place = { r.place with lastx := t.x, lasty := t.y, lastf := t.f } := rfl
  rw [handleTouch_eq, hsave, place_deliver]

/-! ### Packets that are handled to the end -/

/-- A normal packet once the disable zone has been looked at. -/
def zoned (s : Pad) (p : PadPacket) (now : UInt64) : Pad :=
  (s.prepared p now).pad.watchZone (s.prepared p now).touch

/-- No early return is taken. -/
def isHandled (s : Pad) (p : PadPacket) (now : UInt64) : Prop :=
  s.isNormal p ∧ ¬ s.isRejected p now ∧
    ¬ ((s.prepared p now).pad.zoneEnabled ∧
      TouchMode.wait1release.code ≤ (s.zoned p now).touchmode.code) ∧
    (s.zoned p now).ignoreall = false

instance (s : Pad) (p : PadPacket) (now : UInt64) : Decidable (s.isHandled p now) :=
  inferInstanceAs (Decidable (_ ∧ _))

theorem dispatch_of_isHandled {s : Pad} {p : PadPacket} {now : UInt64} (h : s.isHandled p now) :
    s.dispatchEventsWithPacket p now =
      (s.zoned p now).handleTouch (s.prepared p now).touch (s.prepared p now).buttons := by
  rw [dispatch_of_isNormal h.1, dispatchTouch]
  exact (if_neg h.2.1).trans ((if_neg h.2.2.1).trans (if_neg (Bool.eq_false_iff.mp h.2.2.2)))

/-- The driver at the switch over the modes. -/
def atSwitch (s : Pad) (p : PadPacket) (now : UInt64) : Pad :=
  (s.zoned p now).beforeTrack (s.prepared p now).touch (s.prepared p now).buttons

end Pad

end VoodooPS2.Synaptics
