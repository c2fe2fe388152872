import VoodooPS2.Lib.Transition
import VoodooPS2.Synaptics.ScrollState

/-! # Divisors

Every quotient and remainder that the driver evaluates is in its log with its divisor.  Some
divisors are repaired when properties are set, some are tested before the division, and some are
only safe because of what the driver has done before, which is the invariant `Sound`.

`zero_react`: in a sound state an event divides by zero if and only if it scales a position while
the smaller of two different `UnitsPerMMX` and `UnitsPerMMY` is 0, or goes on with momentum scroll
while `MomentumScrollDivisor` is 0.  `no_zero_divisor_iff` says so about whole runs, and
`divides_by_zero` is a run in which it happens. -/

namespace VoodooPS2.Synaptics

namespace Pad

/-! ### What is divided by -/

/-- A zero divisor is in both logs or in none. -/
def SameZero (s s' : Pad) : Prop := 0 ∈ divisorsOf s'.log ↔ 0 ∈ divisorsOf s.log

namespace SameZero

variable {s s' s'' : Pad}

theorem refl (s : Pad) : SameZero s s := Iff.rfl

theorem trans (h : SameZero s s') (h' : SameZero s' s'') : SameZero s s'' := Iff.trans h' h

theorem ite {c : Prop} [Decidable c] (h : SameZero s s') (h' : SameZero s s'') :
    SameZero s (if c then s' else s'') := by
  split
  · exact h
  · exact h'

theorem of_divisors (h : divisorsOf s'.log = divisorsOf s.log) : SameZero s s' := by
  rw [SameZero, h]

theorem of_log {effects : List Effect} (hl : s'.log = s.log ++ effects)
    (h : 0 ∉ divisorsOf effects) : SameZero s s' := by
  rw [SameZero, hl, divisorsOf_append, List.mem_append]
  exact or_iff_left h

end SameZero

theorem sameZero_dividing (s : Pad) (ds : List ℤ) (h : 0 ∉ ds) : SameZero s (s.dividing ds) :=
  .of_log rfl (by rw [divisorsOf_divide]; exact h)

theorem sameZero_middleButton (s : Pad) (b : UInt32) (now : UInt64) (origin : MBComingFrom) :
    SameZero s (s.middleButton b now origin).1 :=
  .of_log rfl (by rw [divisorsOf_relative]; exact List.not_mem_nil)

theorem sameZero_readButtons (s : Pad) (p : PadPacket) (now : UInt64) :
    SameZero s (s.readButtons p now).1 := by
  have hstore : SameZero s (s.storeButtons p) := .refl s
  rw [readButtons]
  split
  · exact hstore.trans (sameZero_middleButton _ _ _ _)
  · exact hstore

theorem sameZero_fingerDown (s : Pad) (p : PadPacket) (t : Touch) (b : UInt32) :
    SameZero s (s.fingerDown p t b).1 := by
  rw [fingerDown]
  split
  · exact s.sameZero_middleButton _ _ _
  · exact .refl s

/-- The averages are over at least one item. -/
theorem sameZero_smooth (s : Pad) (t : Touch) : SameZero s (s.smooth t).1 := by
  have havg (m : Motion) (u : Touch) :
      0 ∉ (m.average s.cfg u).1.averageDivisors s.cfg := by
    rw [Motion.average, Motion.averageDivisors]
    split
    · have hx := m.xAvg.count_filter id u.x
      have hy := m.yAvg.count_filter id u.y
      simp only [List.mem_cons, List.not_mem_nil, or_false]
      omega
    · exact List.not_mem_nil
  exact .of_log rfl (by rw [divisorsOf_divide]; exact havg _ _)

theorem zero_dividing (s : Pad) (ds : List ℤ) :
    0 ∈ divisorsOf (s.dividing ds).log ↔ 0 ∈ divisorsOf s.log ∨ 0 ∈ ds := by
  rw [dividing, emit, divisorsOf_append, divisorsOf_divide, List.mem_append]

theorem zero_position (s : Pad) (p : PadPacket) (now : UInt64) (b : UInt32) :
    0 ∈ divisorsOf (s.position p now b).pad.log ↔
      0 ∈ divisorsOf s.log ∨ 0 ∈ s.cfg.scaleDivisors := by
  have hpos : SameZero (s.dividing s.cfg.scaleDivisors) (s.position p now b).pad :=
    (sameZero_fingerDown _ p (s.readTouch p now) b).trans (sameZero_smooth _ _)
  exact Iff.trans hpos (s.zero_dividing s.cfg.scaleDivisors)

/-- Before the first early return only the position is divided. -/
theorem zero_prepared (s : Pad) (p : PadPacket) (now : UInt64) :
    0 ∈ divisorsOf (s.prepared p now).pad.log ↔
      0 ∈ divisorsOf s.log ∨ 0 ∈ s.cfg.scaleDivisors := by
  have hread : 0 ∈ divisorsOf (s.readButtons p now).1.log ↔ _ := s.sameZero_readButtons p now
  have hcfg : (s.readButtons p now).1.cfg = s.cfg :=
    congrArg TouchCore.cfg (s.touchCore_readButtons p now)
  rw [prepared, ← hcfg, ← hread]
  generalize s.readButtons p now = q
  rw [← q.1.zero_position p now q.2, prepare]
  split
  · exact SameZero.of_divisors (aside_clickPad _ _ _ _).divisors
  · exact Iff.rfl

/-! ### Movement and scrolling -/

theorem sameZero_deltas {s : Pad} (h : s.cfg.Repaired) :
    SameZero s (s.dividing [s.cfg.int .divisorx, s.cfg.int .divisory]) :=
  s.sameZero_dividing _ (by simp [h.divisorx.symm, h.divisory.symm])

theorem sameZero_dispatchMove {s : Pad} (h : s.cfg.Repaired) (dx dy : ℤ) (b : UInt32) :
    SameZero s (s.dispatchMove dx dy b) :=
  (sameZero_deltas h).trans (.of_log rfl List.not_mem_nil)

theorem sameZero_dispatchScroll (s : Pad) (n m : ℤ) : SameZero s (s.dispatchScroll n m) :=
  .of_log rfl List.not_mem_nil

theorem sameZero_moveDelta {s : Pad} (h : s.cfg.Repaired) (t : Touch) (b : UInt32) :
    SameZero s (s.moveDelta t b).pad := by
  rw [moveDelta]
  dsimp only
  split
  · exact sameZero_deltas h
  · exact sameZero_deltas h

theorem not_mem_scrollDivisors (s : Pad) : 0 ∉ s.scrollDivisors := by
  simp [scrollDivisors]

theorem sameZero_recordTwo (s : Pad) (t : Touch) (dy dx : ℤ) :
    SameZero s (s.recordTwo t dy dx) := by
  have hcount : 0 ∉ ((s.momentum.turned dy).record dy t.now).recordDivisors := by
    have h1 := (s.momentum.turned dy).dyHistory.count_filter id dy
    have h2 := (s.momentum.turned dy).timeHistory.count_filter (fun time => time.toNat) t.now
    simp only [Momentum.recordDivisors, Momentum.record, List.mem_cons, List.not_mem_nil, or_false]
    omega
  refine .of_log rfl ?_
  rw [divisorsOf_divide, List.mem_append, not_or]
  exact ⟨s.not_mem_scrollDivisors, hcount⟩

theorem sameZero_scrollTwo (s : Pad) (t : Touch) (dy dx : ℤ) :
    SameZero s (s.scrollTwo t dy dx) := by
  have hrec := s.sameZero_recordTwo t dy dx
  have hdiv := hrec.trans (sameZero_dividing _ _ (not_mem_scrollDivisors (s.recordTwo t dy dx)))
  exact .ite (hdiv.trans (sameZero_dispatchScroll _ _ _)) hrec

theorem sameZero_trackThree (s : Pad) (t : Touch) : SameZero s (s.trackThree t) :=
  .ite (.of_log rfl List.not_mem_nil) (.ite (.of_log rfl List.not_mem_nil)
    (.ite (.of_log rfl List.not_mem_nil) (.ite (.of_log rfl List.not_mem_nil) (.refl s))))

theorem sameZero_scrollBy (s : Pad) (delta : ℤ) {divisor : ℤ} (h : divisor ≠ 0) (thresh : ℤ)
    {dispatch : Pad → ℤ → Pad} (hd : ∀ s n, SameZero s (dispatch s n)) :
    SameZero s (s.scrollBy delta divisor thresh dispatch) := by
  have hdiv (s : Pad) := s.sameZero_dividing [divisor] (by simp [h.symm])
  have hrec : SameZero s (s.recordOne delta divisor thresh) := hdiv s
  exact .ite ((hrec.trans (hdiv _)).trans (hd _ _)) hrec

section
variable {s : Pad} (hc : s.cfg.Repaired)

include hc

theorem sameZero_trackMove (t : Touch) (b : UInt32) : SameZero s (s.trackMove t b).pad := by
  rw [trackMove]
  split
  · exact sameZero_moveDelta hc t b
  · exact .refl s

theorem sameZero_trackTwo (t : Touch) (b : UInt32) : SameZero s (s.trackTwo t b).pad := by
  rw [trackTwo]
  split
  · split
    · exact sameZero_moveDelta hc t b
    · exact .refl s
  split
  · exact .refl s
  split
  · exact .refl s
  split
  · exact .refl s
  split
  · exact .refl s
  · exact s.sameZero_scrollTwo t _ _

/-- In a scroll mode its divisor is not zero. -/
theorem sameZero_track (h : s.cfg.Divides s.touchmode) (t : Touch) (b : UInt32) :
    SameZero s (s.track t b).pad := by
  rw [track]
  split
  · exact sameZero_trackMove hc t _
  · exact sameZero_trackMove hc t _
  · exact sameZero_trackMove hc t _
  · split
    · exact s.sameZero_trackThree t
    · exact sameZero_trackTwo hc t b
  · rename_i hm
    rw [hm] at h
    exact .ite (.refl s) (.ite (.refl s)
      (s.sameZero_scrollBy _ h _ (fun s n => s.sameZero_dispatchScroll n 0)))
  · rename_i hm
    rw [hm] at h
    exact .ite (.refl s) (.ite (.refl s)
      (s.sameZero_scrollBy _ h _ (fun s n => s.sameZero_dispatchScroll 0 n)))
  · rename_i hm
    rw [hm] at h
    exact .ite (.refl s) (s.sameZero_scrollBy _ h _ (fun s n => s.sameZero_dispatchScroll n 0))
  all_goals exact .refl s

theorem sameZero_deliver (dx dy : ℤ) (b : UInt32) : SameZero s (s.deliver dx dy b) := by
  have hmove := sameZero_dispatchMove hc dx dy
  exact .ite (hmove b) (.ite (.refl s) (.ite (.ite (.refl s) (hmove 4)) (hmove b)))

end

theorem sameZero_dragClick (s : Pad) (b : UInt32) : SameZero s (s.dragClick b).1 := by
  rw [dragClick]
  split
  · exact .refl s
  · dsimp only
    split
    · exact .refl s
    · have hfirst : SameZero s (s.dispatchRelative 0 0 (b &&& ~~~0x7 ||| 0x1)) :=
        .of_log rfl List.not_mem_nil
      exact hfirst.trans (.of_log rfl List.not_mem_nil)

theorem sameZero_release (s : Pad) (t : Touch) (b : UInt32) : SameZero s (s.release t b).1 := by
  have hlift : SameZero s (s.liftFinger t) := .refl s
  have htap (s : Pad) : SameZero s (s.tap b).1 := by
    rw [tap]
    split
    · exact s.sameZero_dragClick b
    · exact .refl s
    · exact .refl s
  have hend (s : Pad) : SameZero s s.endTouch := .ite (.refl s) (.refl s)
  rw [release]
  split
  · dsimp only
    split
    · exact hlift.trans (htap _)
    · exact hlift.trans (hend _)
  · exact .refl s

theorem sameZero_handleTouch {s : Pad} (h : s.Sound) (t : Touch) (b : UInt32) :
    SameZero s (s.handleTouch t b) := by
  have hbefore : SameZero s (s.beforeTrack t b) := s.sameZero_release t b
  have hcfg := s.cfg_beforeTrack t b
  have htracked : SameZero s (s.tracked t b) := by
    refine hbefore.trans (sameZero_track ?_ ?_ t _)
    · rw [hcfg]
      exact h.repaired
    · rw [hcfg]
      exact divides_beforeTrack h.modes t b
  have hcaptured : SameZero s (((s.tracked t b).captureTouch t).switchModes t) :=
    htracked.trans (.ite (.refl _) (.refl _))
  have hcfg' : (((s.tracked t b).captureTouch t).switchModes t).cfg = s.cfg := s.cfg_captured t b
  have hc : (((s.tracked t b).captureTouch t).switchModes t).cfg.Repaired := by
    rw [hcfg']
    exact h.repaired
  exact hcaptured.trans (sameZero_deliver hc _ _ _)

theorem sameZero_dispatchTouch {s : Pad} (h : s.Sound) (t : Touch) (b : UInt32) :
    SameZero s (s.dispatchTouch t b) := by
  have hzone : SameZero s (s.watchZone t) := .of_divisors (s.sameElse_watchZone t).divisors
  rw [dispatchTouch]
  split
  · exact .refl s
  split
  · exact hzone
  split
  · exact hzone
  · exact hzone.trans (sameZero_handleTouch (h.watchZone t) t b)

/-! ### Secondary finger -/

theorem sameZero_smoothSecond (s : Pad) (t : Touch) : SameZero s (s.smoothSecond t).1 := by
  have havg (m : Secondary) (u : Touch) :
      0 ∉ (m.average s.cfg u).1.averageDivisors s.cfg := by
    rw [Secondary.average, Secondary.averageDivisors]
    split
    · have hx := m.x2Avg.count_filter id u.x
      have hy := m.y2Avg.count_filter id u.y
      simp only [List.mem_cons, List.not_mem_nil, or_false]
      omega
    · exact List.not_mem_nil
  exact .of_log rfl (by rw [divisorsOf_divide]; exact havg _ _)

theorem sameZero_dispatchButtons (s : Pad) (b : UInt32) : SameZero s (s.dispatchButtons b) :=
  .ite (.refl s) (.of_log rfl List.not_mem_nil)

theorem sameZero_moveSecond {s : Pad} (h : s.cfg.Repaired) (t : Touch) (b : UInt32) :
    SameZero s (s.moveSecond t b) := by
  refine .ite (sameZero_deltas h) ?_
  refine .trans ?_ (sameZero_dispatchMove ?_ _ _ _)
  · exact sameZero_deltas h
  · exact h

theorem sameZero_trackSecond {s : Pad} (h : s.cfg.Repaired) (p : PadPacket) (t : Touch) (b : UInt32) :
    SameZero s (s.trackSecond p t b) := by
  rw [trackSecond]
  refine .ite (.ite (sameZero_moveSecond h t b) (.refl s)) (.ite ?_ ?_)
  · exact (SameZero.of_divisors (s.aside_clickSecond p t b).divisors).trans
      (sameZero_dispatchButtons _ _)
  · exact s.sameZero_dispatchButtons b

/-- A packet of the secondary finger is handled. -/
def handlesSecond (s : Pad) (p : PadPacket) : Prop := s.ignoreall = false ∧ p.packetCode = 1

instance (s : Pad) (p : PadPacket) : Decidable (s.handlesSecond p) :=
  inferInstanceAs (Decidable (_ ∧ _))

theorem zero_dispatchEventsWithPacketEW {s : Pad} (h : s.cfg.Repaired) (p : PadPacket) (now : UInt64) :
    0 ∈ divisorsOf (s.dispatchEventsWithPacketEW p now).log ↔
      0 ∈ divisorsOf s.log ∨ s.handlesSecond p ∧ 0 ∈ s.cfg.scaleDivisors := by
  by_cases hs : s.handlesSecond p
  · have hc (t : Touch) : ((s.dividing s.cfg.scaleDivisors).smoothSecond t).1.cfg.Repaired := h
    have hsmooth (t : Touch) := (s.dividing s.cfg.scaleDivisors).sameZero_smoothSecond t
    have hrest : SameZero (s.dividing s.cfg.scaleDivisors)
        (s.dispatchEventsWithPacketEW p now) := by
      rw [dispatchEventsWithPacketEW, if_neg (Bool.not_eq_true _ ▸ hs.1), if_neg (not_not.mpr hs.2)]
      exact .ite (.refl _)
        (.ite (hsmooth _) ((hsmooth _).trans (sameZero_trackSecond (hc _) _ _ _)))
    rw [and_iff_right hs]
    exact Iff.trans hrest (s.zero_dividing s.cfg.scaleDivisors)
  · have hnone : s.dispatchEventsWithPacketEW p now = s := by
      rw [dispatchEventsWithPacketEW]
      split
      · rfl
      · rename_i hi
        exact if_pos (fun hcode => hs ⟨Bool.eq_false_of_not_eq_true hi, hcode⟩)
    rw [hnone]
    exact (or_iff_left (fun hd => hs hd.1)).symm

/-! ### Other packets and events -/

theorem sameZero_passMove (s : Pad) (dx dy : ℤ) (b : UInt32) :
    SameZero s (s.passMove dx dy b) := by
  have hclick (c : Prop) [Decidable c] (effects : List Effect) (h : divisorsOf effects = []) :
      SameZero s (s.emit (if c then effects else [])) := by
    split
    · exact .of_log rfl (by rw [h]; exact List.not_mem_nil)
    · exact .of_log rfl List.not_mem_nil
  refine .ite (.of_log rfl List.not_mem_nil) (.ite (.refl s) ?_)
  exact (hclick _ [.relative dx (-dy) 4] rfl).trans (.of_log rfl List.not_mem_nil)

theorem sameZero_passThrough (s : Pad) (p : PadPacket) (b : UInt32) :
    SameZero s (s.passThrough p b) := by
  have hscroll : SameZero s (s.passScroll p) := .of_log rfl List.not_mem_nil
  exact .ite (hscroll.trans (sameZero_passMove _ _ _ _)) (s.sameZero_passMove _ _ _)

theorem toInt64_ne_zero {n : UInt64} (h : n ≠ 0) : toInt64 n.toNat ≠ 0 := by
  have hpos : n.toNat ≠ 0 := fun h0 => h (UInt64.toNat_inj.mp h0)
  have hlt := n.toNat_lt
  rw [toInt64, Int.bmod]
  split <;> omega

/-- Momentum scroll goes on. -/
def scrollsOn (s : Pad) : Prop :=
  s.momentum.current ≠ 0 ∧
    |toInt (s.momentum.current.tdiv (toInt64 s.momentum.interval.toNat) + s.momentum.rest2)| >
      s.cfg.int .momentumscrollthreshy

instance (s : Pad) : Decidable s.scrollsOn := inferInstanceAs (Decidable (_ ∧ _))

theorem onScrollTimer_of_scrollsOn {s : Pad} (h : s.scrollsOn) :
    s.onScrollTimer = (s.dividing [toInt64 s.momentum.interval.toNat]).scrollMomentum
      (toInt (s.momentum.current.tdiv (toInt64 s.momentum.interval.toNat) + s.momentum.rest2)) :=
  (if_neg h.1).trans (if_pos h.2)

/-- Below the threshold momentum scroll ends. -/
theorem onScrollTimer_of_slow {s : Pad} (h0 : s.momentum.current ≠ 0) (h : ¬ s.scrollsOn) :
    s.onScrollTimer = { s.dividing [toInt64 s.momentum.interval.toNat] with
      momentum := { s.momentum with current := 0 } } :=
  (if_neg h0).trans (if_neg (fun hgo => h ⟨h0, hgo⟩))

theorem zero_scrollMomentum (s : Pad) (dy : ℤ) :
    0 ∈ divisorsOf (s.scrollMomentum dy).log ↔
      0 ∈ divisorsOf s.log ∨ s.cfg.int .momentumscrolldivisor = 0 := by
  have hscroll : SameZero (s.dividing ([s.cfg.int .wvdivisor, s.cfg.int .wvdivisor].filter (· ≠ 0) ++
      [s.cfg.int .momentumscrolldivisor, s.cfg.int .momentumscrolldivisor]))
      (s.scrollMomentum dy) := .of_log rfl List.not_mem_nil
  have hwheel : 0 ∉ [s.cfg.int .wvdivisor, s.cfg.int .wvdivisor].filter (· ≠ 0) := by simp
  refine (Iff.trans hscroll (s.zero_dividing _)).trans (or_congr_right ?_)
  rw [List.mem_append, or_iff_right hwheel]
  simp only [List.mem_cons, List.not_mem_nil, or_false, or_self]
  exact eq_comm

/-- The interval is not zero while momentum scroll is on. -/
theorem zero_onScrollTimer {s : Pad} (h : s.Sound) :
    0 ∈ divisorsOf s.onScrollTimer.log ↔
      0 ∈ divisorsOf s.log ∨ s.scrollsOn ∧ s.cfg.int .momentumscrolldivisor = 0 := by
  by_cases h0 : s.momentum.current = 0
  · rw [onScrollTimer, if_pos h0]
    exact (or_iff_left (fun hs => hs.1.1 h0)).symm
  have hdiv := s.sameZero_dividing [toInt64 s.momentum.interval.toNat]
    (by simp [(toInt64_ne_zero (h.moving h0)).symm])
  by_cases hs : s.scrollsOn
  · rw [onScrollTimer_of_scrollsOn hs, and_iff_right hs]
    exact (zero_scrollMomentum _ _).trans (or_congr_left hdiv)
  · rw [onScrollTimer_of_slow h0 hs]
    exact Iff.trans hdiv (or_iff_left (fun hd => hs hd.1)).symm

theorem sameZero_setTouchpadModeByte (s : Pad) : SameZero s s.setTouchpadModeByte :=
  .ite (.of_log rfl List.not_mem_nil) (.of_log rfl List.not_mem_nil)

theorem sameZero_updateTouchpadLED (s : Pad) : SameZero s s.updateTouchpadLED :=
  .of_divisors s.sameElse_updateTouchpadLED.divisors

theorem sameZero_setParamPropertiesGated (s : Pad) (d : Dictionary) :
    SameZero s (s.setParamPropertiesGated d) := by
  let read : Pad :=
    { s with cfg := s.cfg.read d, touchPadModeByte := s.modeByteAfter (s.cfg.read d) d }
  let sent : Pad :=
    if read.touchPadModeByte ≠ s.touchPadModeByte then read.setTouchpadModeByte else read
  have hsent : SameZero s sent := .ite (sameZero_setTouchpadModeByte read) (.refl s)
  exact .ite (hsent.trans (sameZero_updateTouchpadLED _)) hsent

theorem sameZero_initTouchPad (s : Pad) : SameZero s s.initTouchPad := by
  have hclear : SameZero s
      { s with
        passbuttons := 0
        clickbuttons := 0
        second := { s.second with tracksecondary := false }
        modifierdown := 0 } := .refl s
  exact (hclear.trans (sameZero_setTouchpadModeByte _)).trans (sameZero_updateTouchpadLED _)

theorem sameZero_onDragTimer (s : Pad) (now : UInt64) : SameZero s (s.onDragTimer now) := by
  have hnotouch : SameZero s { s with touchmode := .notouch, dragArmed := false } := .refl s
  exact (hnotouch.trans (sameZero_middleButton _ _ _ _)).trans (sameZero_dispatchButtons _ _)

theorem sameZero_notifyKeyPressed (s : Pad) (adbKeyCode : UInt8) (goingDown : Bool)
    (time : UInt64) : SameZero s (s.notifyKeyPressed adbKeyCode goingDown time) := by
  rw [notifyKeyPressed]
  split
  · exact .ite (.refl s) (.refl s)
  · exact .refl s

/-! ### Runs -/

/-- The position in the packet is scaled. -/
def scales (s : Pad) (p : PadPacket) : Prop :=
  (s.isExtended p → s.handlesSecond p) ∧ (s.isExtended p ∨ ¬ s.isPassThrough p)

instance (s : Pad) (p : PadPacket) : Decidable (s.scales p) := inferInstanceAs (Decidable (_ ∧ _))

/-- The event divides by a property that is zero: the smaller of two different `UnitsPerMMX` and
`UnitsPerMMY`, or `MomentumScrollDivisor`. -/
def DividesByZero (s : Pad) : PadEvent → Prop
  | .packet p _ =>
      s.scales p ∧
        ((s.cfg.int .xupmm < s.cfg.int .yupmm ∧ s.cfg.int .xupmm = 0) ∨
          (s.cfg.int .xupmm > s.cfg.int .yupmm ∧ s.cfg.int .yupmm = 0))
  | .scrollTimer => s.scrollsOn ∧ s.cfg.int .momentumscrolldivisor = 0
  | _ => False

theorem zero_mem_scaleDivisors (c : Config) :
    0 ∈ c.scaleDivisors ↔
      (c.int .xupmm < c.int .yupmm ∧ c.int .xupmm = 0) ∨
        (c.int .xupmm > c.int .yupmm ∧ c.int .yupmm = 0) := by
  rw [Config.scaleDivisors]
  split
  · rw [List.mem_singleton]
    omega
  split
  · rw [List.mem_singleton]
    omega
  · simp only [List.not_mem_nil, false_iff]
    omega

theorem zero_packet {s : Pad} (h : s.Sound) (p : PadPacket) (now : UInt64) :
    0 ∈ divisorsOf (s.dispatchEventsWithPacket p now).log ↔
      0 ∈ divisorsOf s.log ∨ s.DividesByZero (.packet p now) := by
  change _ ↔ _ ∨ s.scales p ∧ _
  rw [← zero_mem_scaleDivisors, Pad.dispatchEventsWithPacket]
  by_cases hext : s.isExtended p
  · have hscales : s.scales p ↔ s.handlesSecond p :=
      ⟨fun hs => hs.1 hext, fun hs => ⟨fun _ => hs, .inl hext⟩⟩
    rw [if_pos hext, hscales]
    exact zero_dispatchEventsWithPacketEW h.repaired p now
  by_cases hpass : s.isPassThrough p
  · have hscales : ¬ s.scales p := fun hs => hs.2.elim hext (fun hn => hn hpass)
    rw [if_neg hext, if_pos hpass]
    have hsame := (s.sameZero_readButtons p now).trans (sameZero_passThrough _ p (s.readButtons p now).2)
    exact Iff.trans hsame (or_iff_left (fun hd => hscales hd.1)).symm
  · have hscales : s.scales p := ⟨fun he => absurd he hext, .inr hpass⟩
    have hsound : (s.prepared p now).pad.Sound :=
      h.of_sameMode (sameMode_of_touchCore (s.touchCore_prepared p now))
    rw [if_neg hext, if_neg hpass, and_iff_right hscales]
    exact Iff.trans (sameZero_dispatchTouch hsound _ _) (s.zero_prepared p now)

theorem zero_react {s : Pad} (h : s.Sound) (e : PadEvent) :
    0 ∈ divisorsOf (s.react e).log ↔ 0 ∈ divisorsOf s.log ∨ s.DividesByZero e := by
  have hnone {s' : Pad} (hs : SameZero s s') :
      0 ∈ divisorsOf s'.log ↔ 0 ∈ divisorsOf s.log ∨ False := Iff.trans hs (or_false _).symm.to_iff
  cases e with
  | packet p now => exact zero_packet h p now
  | scrollTimer => exact zero_onScrollTimer h
  | buttonTimer now => exact hnone (sameZero_middleButton _ _ _ _)
  | dragTimer now => exact hnone (s.sameZero_onDragTimer now)
  | setDisableTouchpad enable =>
      exact hnone (.of_divisors (s.setDisableTouchpad_spec enable).1.divisors)
  | notifyKeyPressed adbKeyCode goingDown time =>
      exact hnone (s.sameZero_notifyKeyPressed adbKeyCode goingDown time)
  | notification device notice =>
      exact hnone (.of_divisors (s.notification_spec device notice).1.divisors)
  | setParamProperties d => exact hnone (s.sameZero_setParamPropertiesGated d)
  | wake => exact hnone s.sameZero_initTouchPad

/-- No quotient or remainder by zero is evaluated. -/
def NoZeroDivisor (s : Pad) (e : PadEvent) : Prop := 0 ∉ divisorsOf (s.handle e).log

instance (s : Pad) (e : PadEvent) : Decidable (s.NoZeroDivisor e) := inferInstanceAs (Decidable (¬ _))

theorem noZeroDivisor_iff {s : Pad} (h : s.Sound) (e : PadEvent) :
    s.NoZeroDivisor e ↔ ¬ s.DividesByZero e := by
  have hzero := zero_react h.clearLog e
  have hempty : 0 ∉ divisorsOf [] := List.not_mem_nil
  have hsame : DividesByZero { s with log := [] } e ↔ s.DividesByZero e := by
    cases e <;> exact Iff.rfl
  rw [or_iff_right hempty, hsame] at hzero
  exact not_congr hzero

theorem sound_initial (caps : Capabilities) : (initial .init caps).Sound where
  repaired := ⟨one_ne_zero, one_ne_zero⟩
  modes := trivial
  still := nofun
  moving := fun h => absurd rfl h

/-- Every event can be handled in every state. -/
def stepEvent (s : Pad) (e : PadEvent) : Option Pad := some (s.handle e)

/-- **No division by zero**, in a run, exactly if no event of it divides by a property that is
zero: no position is scaled while the smaller of two different `UnitsPerMMX` and `UnitsPerMMY` is 0,
and momentum scroll does not go on while `MomentumScrollDivisor` is 0. -/
theorem no_zero_divisor_iff (caps : Capabilities) (es : List PadEvent) :
    Transition.Guarded stepEvent NoZeroDivisor (initial .init caps) es ↔
      Transition.Guarded stepEvent (fun s e => ¬ s.DividesByZero e) (initial .init caps) es :=
  Transition.guarded_iff_of_total (fun _ _ => rfl) (fun _ e hs _ => hs.handle e)
    (fun _ e hs => noZeroDivisor_iff hs e) es (sound_initial caps)

/-- `UnitsPerMMX` is set to 0, and a packet comes. -/
def zeroUnits : List PadEvent :=
  [.setParamProperties (fun name => if name = "UnitsPerMMX" then some (.number 0) else none),
    .packet (padPacket 0 60 3000 3000) 1000]

theorem divides_by_zero :
    ¬ Transition.Guarded stepEvent NoZeroDivisor (initial .init plainCaps) zeroUnits := by
  decide +kernel

end Pad

end VoodooPS2.Synaptics
