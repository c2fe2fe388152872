import VoodooPS2.Lib.Transition
import VoodooPS2.Synaptics.TouchModes

/-! # Dynamic extended W mode

With `DynamicEWMode` the touchpad is in extended W mode just while the ClickPad is held down:
`setClickButtons` switches it whenever `_clickbuttons` begins or ceases to be zero.  But
`_clickbuttons` is also written directly, when the touchpad is powered again (`initTouchPad`) and to
keep the trackpoint buttons of a Thinkpad (`keepThinkpadButtons`).

`Pad.buttonCore` is all that the law is about; `buttonCore_dispatchTouch` and others say what leaves
it alone, `follows_clickButtons` what the buttons of a packet do to it, and `follows_iff` is the
exact law for runs. -/

namespace VoodooPS2.Synaptics

/-- The ClickPad buttons, the trackpoint buttons and the mode. -/
structure ButtonCore where
  cfg : Config
  caps : Capabilities
  extendedwmode : Bool
  touchPadModeByte : UInt8
  clickbuttons : UInt32
  buttonState : UInt32

namespace Pad

def buttonCore (s : Pad) : ButtonCore :=
  ⟨s.cfg, s.caps, s.extendedwmode, s.touchPadModeByte, s.clickbuttons, s.thinkpad.buttonState⟩

/-! ### What leaves it alone -/

theorem buttonCore_ite {s a b : Pad} {c : Prop} [Decidable c] (ha : a.buttonCore = s.buttonCore)
    (hb : b.buttonCore = s.buttonCore) : (if c then a else b).buttonCore = s.buttonCore := by
  split
  · exact ha
  · exact hb

theorem buttonCore_readButtons (s : Pad) (p : PadPacket) (now : UInt64) :
    (s.readButtons p now).1.buttonCore = s.buttonCore := by
  rw [readButtons]
  split <;> rfl

theorem buttonCore_position (s : Pad) (p : PadPacket) (now : UInt64) (b : UInt32) :
    (s.position p now b).pad.buttonCore = s.buttonCore := by
  have hdown (t : Touch) :
      ((s.dividing s.cfg.scaleDivisors).fingerDown p t b).1.buttonCore = s.buttonCore := by
    rw [fingerDown]
    split <;> rfl
  exact hdown _

theorem buttonCore_passThrough (s : Pad) (p : PadPacket) (b : UInt32) :
    (s.passThrough p b).buttonCore = s.buttonCore := by
  have hmove (r : Pad) (dx dy : ℤ) (b : UInt32) : (r.passMove dx dy b).buttonCore = r.buttonCore :=
    buttonCore_ite rfl (buttonCore_ite rfl rfl)
  exact buttonCore_ite (hmove _ _ _ _) (hmove s _ _ _)

theorem buttonCore_updateTouchpadLED (s : Pad) :
    s.updateTouchpadLED.buttonCore = s.buttonCore := buttonCore_ite rfl rfl

theorem buttonCore_disableZone (s : Pad) (t : Touch) :
    (s.disableZone t).buttonCore = s.buttonCore := by
  have htoggle : (updateTouchpadLED { s with ignoreall := !s.ignoreall }).buttonCore =
      s.buttonCore := buttonCore_updateTouchpadLED _
  rw [disableZone]
  repeat' split
  all_goals first
    | rfl
    | exact htoggle

theorem buttonCore_release (s : Pad) (t : Touch) (b : UInt32) :
    (s.release t b).1.buttonCore = s.buttonCore := by
  have htap (r : Pad) : (r.tap b).1.buttonCore = r.buttonCore := by
    have hclick : (r.dragClick b).1.buttonCore = r.buttonCore := by
      rw [dragClick]
      split
      · rfl
      · dsimp only
        split <;> rfl
    rw [tap]
    split
    · exact hclick
    · rfl
    · rfl
  have hend (r : Pad) : r.endTouch.buttonCore = r.buttonCore := buttonCore_ite rfl rfl
  rw [release]
  split
  · dsimp only
    split
    · exact htap _
    · exact hend (s.liftFinger t)
  · rfl

theorem buttonCore_moveDelta (s : Pad) (t : Touch) (b : UInt32) :
    (s.moveDelta t b).pad.buttonCore = s.buttonCore := by
  rw [moveDelta]
  dsimp only
  split <;> rfl

theorem buttonCore_scrollBy (s : Pad) (delta divisor thresh : ℤ) {dispatch : Pad → ℤ → Pad}
    (hd : ∀ r n, (dispatch r n).buttonCore = r.buttonCore) :
    (s.scrollBy delta divisor thresh dispatch).buttonCore = s.buttonCore := by
  have hrecord : (s.recordOne delta divisor thresh).buttonCore = s.buttonCore := rfl
  rw [scrollBy]
  split
  · rw [hd]
    exact hrecord
  · exact hrecord

theorem buttonCore_trackThree (s : Pad) (t : Touch) :
    (s.trackThree t).buttonCore = s.buttonCore :=
  buttonCore_ite rfl (buttonCore_ite rfl (buttonCore_ite rfl (buttonCore_ite rfl rfl)))

theorem buttonCore_scrollTwo (s : Pad) (t : Touch) (dy dx : ℤ) :
    (s.scrollTwo t dy dx).buttonCore = s.buttonCore := by
  have hwheel (r : Pad) (dy dx : ℤ) : (r.wheelTwo dy dx).buttonCore = r.buttonCore :=
    buttonCore_ite rfl rfl
  exact hwheel _ _ _

theorem buttonCore_trackTwo (s : Pad) (t : Touch) (b : UInt32) :
    (s.trackTwo t b).pad.buttonCore = s.buttonCore := by
  rw [trackTwo]
  split
  · split
    · exact s.buttonCore_moveDelta t b
    · rfl
  split
  · rfl
  split
  · rfl
  split
  · rfl
  split
  · rfl
  · exact s.buttonCore_scrollTwo t _ _

theorem buttonCore_trackMove (s : Pad) (t : Touch) (b : UInt32) :
    (s.trackMove t b).pad.buttonCore = s.buttonCore := by
  rw [trackMove]
  split
  · exact s.buttonCore_moveDelta t b
  · rfl

theorem buttonCore_track (s : Pad) (t : Touch) (b : UInt32) :
    (s.track t b).pad.buttonCore = s.buttonCore := by
  have hscroll (r : Pad) (n m : ℤ) : (r.dispatchScroll n m).buttonCore = r.buttonCore := rfl
  rw [track]
  split
  · exact s.buttonCore_trackMove t _
  · exact s.buttonCore_trackMove t _
  · exact s.buttonCore_trackMove t _
  · split
    · exact s.buttonCore_trackThree t
    · exact s.buttonCore_trackTwo t b
  · exact buttonCore_ite rfl (buttonCore_ite rfl
      (s.buttonCore_scrollBy _ _ _ fun r n => hscroll r n 0))
  · exact buttonCore_ite rfl (buttonCore_ite rfl
      (s.buttonCore_scrollBy _ _ _ fun r n => hscroll r 0 n))
  · exact buttonCore_ite rfl (s.buttonCore_scrollBy _ _ _ fun r n => hscroll r n 0)
  all_goals rfl

theorem buttonCore_handleTouch (s : Pad) (t : Touch) (b : UInt32) :
    (s.handleTouch t b).buttonCore = s.buttonCore := by
  have hcapture (r : Pad) : (r.captureTouch t).buttonCore = r.buttonCore := buttonCore_ite rfl rfl
  have hdeliver (r : Pad) (dx dy : ℤ) (b : UInt32) :
      (r.deliver dx dy b).buttonCore = r.buttonCore :=
    buttonCore_ite rfl (buttonCore_ite rfl (buttonCore_ite (buttonCore_ite rfl rfl) rfl))
  have hrelease : (s.beforeTrack t b).buttonCore = s.buttonCore := s.buttonCore_release t b
  have htrack : (s.tracked t b).buttonCore = s.buttonCore :=
    (buttonCore_track _ _ _).trans hrelease
  have hsave (r : Pad) : (r.saveLast t).buttonCore = r.buttonCore := rfl
  have hmodes (r : Pad) : (r.switchModes t).buttonCore = r.buttonCore := rfl
  rw [handleTouch]
  dsimp only
  rw [hsave, hdeliver, hmodes, hcapture]
  exact htrack

/-- Nothing after the first early return of a normal packet concerns the ClickPad. -/
theorem buttonCore_dispatchTouch (s : Pad) (t : Touch) (b : UInt32) :
    (s.dispatchTouch t b).buttonCore = s.buttonCore := by
  have hwatch : (s.watchZone t).buttonCore = s.buttonCore :=
    buttonCore_ite (s.buttonCore_disableZone t) rfl
  rw [dispatchTouch]
  refine buttonCore_ite rfl (buttonCore_ite hwatch (buttonCore_ite hwatch ?_))
  exact ((s.watchZone t).buttonCore_handleTouch t b).trans hwatch

/-! ### The law -/

/-- The mode follows the ClickPad. -/
def Follows (s : Pad) : Prop :=
  (s.extendedwmode = true ↔ s.clickbuttons ≠ 0) ∧
    (s.touchPadModeByte &&& 0x4 ≠ 0 ↔ s.clickbuttons ≠ 0)

instance (s : Pad) : Decidable s.Follows := inferInstanceAs (Decidable (_ ∧ _))

/-- Extended W mode is supported, and switched dynamically. -/
def Dynamic (s : Pad) : Prop :=
  s.cfg.bool .dynamicEW = true ∧ s.caps.extendedwmodeSupported = true

theorem follows_congr {s s' : Pad} (h : s'.buttonCore = s.buttonCore) :
    s'.Follows ↔ s.Follows := by
  rw [Follows, Follows, show s'.extendedwmode = s.extendedwmode from
    congrArg ButtonCore.extendedwmode h, show s'.touchPadModeByte = s.touchPadModeByte from
    congrArg ButtonCore.touchPadModeByte h, show s'.clickbuttons = s.clickbuttons from
    congrArg ButtonCore.clickbuttons h]

theorem Dynamic.congr {s s' : Pad} (hd : s.Dynamic) (h : s'.buttonCore = s.buttonCore) :
    s'.Dynamic := by
  rw [Dynamic, show s'.cfg = s.cfg from congrArg ButtonCore.cfg h,
    show s'.caps = s.caps from congrArg ButtonCore.caps h]
  exact hd

theorem bit_set (v : UInt8) : (v ||| 0x4) &&& 0x4 ≠ 0 := by
  have h : ∀ b : BitVec 8, (b ||| 0x4#8) &&& 0x4#8 ≠ 0#8 := by decide
  exact fun hv => h v.toBitVec (congrArg UInt8.toBitVec hv)

theorem bit_clear (v : UInt8) : (v &&& ~~~0x4) &&& 0x4 = 0 := by
  have h : ∀ b : BitVec 8, (b &&& ~~~0x4#8) &&& 0x4#8 = 0#8 := by decide
  exact UInt8.eq_of_toBitVec_eq (h v.toBitVec)

/-- What `setClickButtons` does. -/
structure SetTo (b : UInt32) (s s' : Pad) : Prop where
  cfg : s'.cfg = s.cfg
  caps : s'.caps = s.caps
  thinkpad : s'.thinkpad = s.thinkpad
  clickbuttons : s'.clickbuttons = b
  follows : s'.Follows

/-- The mode is switched along with the buttons. -/
theorem setTo_setClickButtons {s : Pad} (hd : s.Dynamic) (h : s.Follows) (b : UInt32) :
    SetTo b s (s.setClickButtons b) := by
  rw [setClickButtons]
  split
  · have hgo : ¬ (s.cfg.bool .dynamicEW = false ∨ s.caps.extendedwmodeSupported = false) := by
      rw [hd.1, hd.2]
      decide
    rw [setModeByte, if_neg hgo]
    refine ⟨rfl, rfl, rfl, rfl, decide_eq_true_iff, ?_⟩
    by_cases hb : b = 0
    · have hoff : ¬ (s.touchPadModeByte &&& ~~~0x4) &&& 0x4 ≠ 0 := not_not_intro (bit_clear _)
      simp only [hb, ne_eq, not_true_eq_false, if_false]
      exact iff_of_false hoff id
    · simp only [ne_eq, hb, not_false_eq_true, if_true]
      exact iff_of_true (bit_set _) trivial
  · rename_i hsame
    have hzero : s.clickbuttons ≠ 0 ↔ b ≠ 0 := decide_eq_decide.mp (not_not.mp hsame)
    exact ⟨rfl, rfl, rfl, rfl, h.1.trans hzero, h.2.trans hzero⟩

theorem SetTo.dynamic {b : UInt32} {s s' : Pad} (h : SetTo b s s') (hd : s.Dynamic) :
    s'.Dynamic := by
  rw [Dynamic, h.cfg, h.caps]
  exact hd

/-- A trackpoint button is remembered that the packet does not report. -/
def StaleButton (s : Pad) (p : PadPacket) : Prop :=
  s.cfg.bool .isthinkpad = true ∧ p.clickbuttons = 0 ∧ s.thinkpad.buttonState ≠ 0

instance (s : Pad) (p : PadPacket) : Decidable (s.StaleButton p) :=
  inferInstanceAs (Decidable (_ ∧ _))

/-- The buttons of a packet have been read as `c`. -/
structure ButtonsRead (s : Pad) (p : PadPacket) (r : Pad) (c : UInt32) : Prop where
  dynamic : r.Dynamic
  follows : r.Follows
  stale : s.StaleButton p ↔
    r.cfg.bool .isthinkpad = true ∧ c = 0 ∧ r.thinkpad.buttonState ≠ 0

theorem buttonsRead {s : Pad} (hd : s.Dynamic) (h : s.Follows) (p : PadPacket) (b : UInt32) :
    ButtonsRead s p (s.readClickButtons p b).1 (s.readClickButtons p b).2.1 := by
  rw [readClickButtons]
  split
  · rename_i hc
    have hset := setTo_setClickButtons
      (s := { s with thinkpad := { s.thinkpad with buttonState := p.thinkpadButtons } }) hd h
      p.thinkpadButtons
    refine ⟨hset.dynamic hd, hset.follows, ?_⟩
    refine iff_of_false (fun hs => absurd (hs.2.1.symm.trans hc.2) (by decide)) ?_
    rintro ⟨-, hzero, hne⟩
    rw [hset.thinkpad] at hne
    exact hne hzero
  · exact ⟨hd, h, Iff.rfl⟩

/-- Only a trackpoint button that is kept can disagree with the mode. -/
theorem follows_keepThinkpadButtons {s : Pad} (h : s.Follows) :
    s.keepThinkpadButtons.Follows ↔
      ¬ (s.cfg.bool .isthinkpad = true ∧ s.clickbuttons = 0 ∧ s.thinkpad.buttonState ≠ 0) := by
  rw [keepThinkpadButtons]
  split
  · rename_i hc
    rw [Follows, h.1, h.2]
    by_cases hzero : s.clickbuttons = 0
    · refine iff_of_false (fun hk => ?_) (not_not_intro ⟨hc.1, hzero, hc.2⟩)
      exact hk.1.mpr hc.2 hzero
    · exact iff_of_true ⟨iff_of_true hzero hc.2, iff_of_true hzero hc.2⟩ fun hb => hzero hb.2.1
  · rename_i hc
    exact iff_of_true h fun hb => hc ⟨hb.1, hb.2.2⟩

/-- The end of `clickPad` and of `clickSecond`: the buttons are cleared if the ClickPad is not
clicked, and those of the trackpoint are kept. -/
theorem follows_clickButtons {s r q : Pad} {p : PadPacket} {c : UInt32}
    (hr : ButtonsRead s p r c) (hd : q.Dynamic) (hq : q.Follows) (hcfg : q.cfg = r.cfg)
    (hstate : q.thinkpad = r.thinkpad) (hc : c ≠ 0 → q.clickbuttons ≠ 0) :
    (if c = 0 then q.setClickButtons 0 else q).keepThinkpadButtons.Follows ↔
      ¬ s.StaleButton p := by
  rw [hr.stale]
  split
  · rename_i hzero
    have hset := setTo_setClickButtons hd hq 0
    rw [follows_keepThinkpadButtons hset.follows, hset.cfg, hset.thinkpad, hset.clickbuttons, hcfg,
      hstate, hzero]
  · rename_i hzero
    rw [follows_keepThinkpadButtons hq]
    exact iff_of_true (fun hb => hc hzero hb.2.1) fun hb => hzero hb.2.1

/-- A click is never without a button. -/
theorem ite_button_ne_zero {right : Prop} [Decidable right] {c : UInt32} (hc : c ≠ 0) :
    (if right then 0x2 else c) ≠ 0 := by
  split
  · decide
  · exact hc

theorem follows_clickPad {s : Pad} (hd : s.Dynamic) (h : s.Follows) (p : PadPacket) (t : Touch)
    (b : UInt32) : (s.clickPad p t b).1.Follows ↔ ¬ s.StaleButton p := by
  have hread := buttonsRead hd h p b
  rw [clickPad]
  generalize s.readClickButtons p b = x at hread ⊢
  obtain ⟨r, c, buttons⟩ := x
  dsimp only at hread ⊢
  have hclick (b : UInt32) := setTo_setClickButtons
    (s := { r with second := { r.second with clickedprimary := decide (r.touchmode ≠ .mtouch) } })
    hread.dynamic hread.follows b
  refine Iff.trans (Iff.rfl : _ ↔ Follows (keepThinkpadButtons (if c = 0 then _ else _))) ?_
  by_cases hdown : r.clickbuttons = 0 ∧ c ≠ 0
  · rw [if_pos hdown]
    refine follows_clickButtons hread ((hclick _).dynamic hread.dynamic) (hclick _).follows
      (hclick _).cfg (hclick _).thinkpad fun _ => ?_
    rw [(hclick _).clickbuttons]
    exact ite_button_ne_zero hdown.2
  · rw [if_neg hdown]
    exact follows_clickButtons hread hread.dynamic hread.follows rfl rfl
      fun hc hzero => hdown ⟨hzero, hc⟩

theorem follows_clickSecond {s : Pad} (hd : s.Dynamic) (h : s.Follows) (p : PadPacket) (t : Touch)
    (b : UInt32) : (s.clickSecond p t b).1.Follows ↔ ¬ s.StaleButton p := by
  have hread := buttonsRead hd h p b
  rw [clickSecond]
  generalize s.readClickButtons p b = x at hread ⊢
  obtain ⟨r, c, buttons⟩ := x
  dsimp only at hread ⊢
  have hclick (b : UInt32) := setTo_setClickButtons hread.dynamic hread.follows b
  refine Iff.trans (Iff.rfl : _ ↔ Follows (keepThinkpadButtons (if c = 0 then _ else _))) ?_
  by_cases hdown : r.clickbuttons = 0 ∧ c ≠ 0
  · rw [if_pos hdown]
    refine follows_clickButtons hread ((hclick _).dynamic hread.dynamic) (hclick _).follows
      (hclick _).cfg (hclick _).thinkpad fun _ => ?_
    exact Eq.trans_ne (hclick _).clickbuttons (ite_button_ne_zero hdown.2)
  · rw [if_neg hdown]
    exact follows_clickButtons hread hread.dynamic hread.follows rfl rfl
      fun hc hzero => hdown ⟨hzero, hc⟩

/-! ### Packets -/

/-- The driver and the secondary finger once its position has been filtered. -/
def secondFiltered (s : Pad) (p : PadPacket) (now : UInt64) : Pad × Touch :=
  (s.dividing s.cfg.scaleDivisors).smoothSecond (s.readSecond p now)

/-- The buttons of a secondary packet are looked at. -/
def readsClickSecond (s : Pad) (p : PadPacket) (now : UInt64) : Prop :=
  s.ignoreall = false ∧ p.packetCode = 1 ∧ s.isFingerTouch p.z2 ∧
    ¬ (s.secondFiltered p now).1.isOutsideZone (s.secondFiltered p now).2 ∧
    ¬ ((s.cfg.bool .clickpadtrackboth = true ∨
        (s.secondFiltered p now).1.second.clickedprimary = true) ∧ s.clickbuttons ≠ 0) ∧
    s.caps.clickpadtype ≠ 0

instance (s : Pad) (p : PadPacket) (now : UInt64) : Decidable (s.readsClickSecond p now) :=
  inferInstanceAs (Decidable (_ ∧ _))

/-- The buttons of a packet are those of a ClickPad. -/
def readsClickPad (s : Pad) (p : PadPacket) (now : UInt64) : Prop :=
  s.isExtended p ∧ s.readsClickSecond p now ∨ s.isNormal p ∧ s.caps.clickpadtype ≠ 0

instance (s : Pad) (p : PadPacket) (now : UInt64) : Decidable (s.readsClickPad p now) :=
  inferInstanceAs (Decidable (_ ∨ _))

theorem buttonCore_dispatchButtons (s : Pad) (b : UInt32) :
    (s.dispatchButtons b).buttonCore = s.buttonCore := buttonCore_ite rfl rfl

/-- What a packet of the secondary finger is for, if its buttons are looked at or not. -/
theorem follows_trackSecond {s : Pad} (hd : s.Dynamic) (h : s.Follows) (p : PadPacket) (t : Touch)
    (b : UInt32) :
    (s.trackSecond p t b).Follows ↔
      ¬ ((¬ ((s.cfg.bool .clickpadtrackboth = true ∨ s.second.clickedprimary = true) ∧
        s.clickbuttons ≠ 0) ∧ s.caps.clickpadtype ≠ 0) ∧ s.StaleButton p) := by
  have hmove : (s.moveSecond t b).buttonCore = s.buttonCore := by
    rw [moveSecond]
    exact buttonCore_ite rfl rfl
  have hskip {r : Pad} (hr : r.buttonCore = s.buttonCore) : r.Follows := (follows_congr hr).mpr h
  rw [trackSecond]
  by_cases htrack : (s.cfg.bool .clickpadtrackboth = true ∨ s.second.clickedprimary = true) ∧
      s.clickbuttons ≠ 0
  · rw [if_pos htrack]
    exact iff_of_true (hskip (buttonCore_ite hmove rfl)) fun hb => hb.1.1 htrack
  rw [if_neg htrack]
  by_cases htype : s.caps.clickpadtype ≠ 0
  · rw [if_pos htype, follows_congr (buttonCore_dispatchButtons _ _), follows_clickSecond hd h]
    exact not_congr (and_iff_right ⟨htrack, htype⟩).symm
  · rw [if_neg htype]
    exact iff_of_true (hskip (s.buttonCore_dispatchButtons b)) fun hb => htype hb.1.2

theorem follows_dispatchEventsWithPacketEW {s : Pad} (hd : s.Dynamic) (h : s.Follows)
    (p : PadPacket) (now : UInt64) :
    (s.dispatchEventsWithPacketEW p now).Follows ↔
      ¬ (s.readsClickSecond p now ∧ s.StaleButton p) := by
  have hskip {r : Pad} (hr : r.buttonCore = s.buttonCore) (hn : ¬ s.readsClickSecond p now) :
      r.Follows ↔ ¬ (s.readsClickSecond p now ∧ s.StaleButton p) :=
    iff_of_true ((follows_congr hr).mpr h) fun hb => hn hb.1
  let f := s.secondFiltered p now
  have hspec : s.dispatchEventsWithPacketEW p now =
      if s.ignoreall then s
      else if p.packetCode ≠ 1 then s
      else if ¬ s.isFingerTouch p.z2 then s.dividing s.cfg.scaleDivisors
      else if f.1.isOutsideZone f.2 then f.1
      else
        { f.1.trackSecond p f.2 (p.buttonsraw ||| f.1.passbuttons) with
          second := (f.1.trackSecond p f.2 (p.buttonsraw ||| f.1.passbuttons)).second.save f.2 } :=
    rfl
  rw [hspec]
  by_cases hi : s.ignoreall = true
  · rw [if_pos hi]
    exact hskip rfl fun hb => absurd (hi.symm.trans hb.1) Bool.true_eq_false.mp
  by_cases hcode : p.packetCode = 1
  swap
  · rw [if_neg hi, if_pos hcode]
    exact hskip rfl fun hb => hcode hb.2.1
  by_cases hf : s.isFingerTouch p.z2
  swap
  · rw [if_neg hi, if_neg (not_not_intro hcode), if_pos hf]
    exact hskip rfl fun hb => hf hb.2.2.1
  by_cases hout : f.1.isOutsideZone f.2
  · rw [if_neg hi, if_neg (not_not_intro hcode), if_neg (not_not_intro hf), if_pos hout]
    exact hskip rfl fun hb => hb.2.2.2.1 hout
  · rw [if_neg hi, if_neg (not_not_intro hcode), if_neg (not_not_intro hf), if_neg hout]
    refine Iff.trans (follows_trackSecond (s := f.1) hd h p f.2 _) (not_congr ?_)
    refine and_congr_left fun _ => ?_
    constructor
    · exact fun hb => ⟨Bool.eq_false_of_not_eq_true hi, hcode, hf, hout, hb.1, hb.2⟩
    · exact fun hb => ⟨hb.2.2.2.2.1, hb.2.2.2.2.2⟩

theorem follows_dispatchEventsWithPacket {s : Pad} (hd : s.Dynamic) (h : s.Follows)
    (p : PadPacket) (now : UInt64) :
    (s.dispatchEventsWithPacket p now).Follows ↔ ¬ (s.readsClickPad p now ∧ s.StaleButton p) := by
  rw [dispatchEventsWithPacket]
  by_cases hex : s.isExtended p
  · rw [if_pos hex, follows_dispatchEventsWithPacketEW hd h]
    refine not_congr (and_congr_left fun _ => ?_)
    exact ⟨fun hr => .inl ⟨hex, hr⟩, fun hr => (hr.resolve_right fun hn => hn.1.1 hex).2⟩
  rw [if_neg hex]
  by_cases hpass : s.isPassThrough p
  · rw [if_pos hpass, follows_congr ((buttonCore_passThrough _ _ _).trans
      (s.buttonCore_readButtons p now))]
    refine iff_of_true h fun hb => ?_
    rcases hb.1 with hr | hr
    · exact hex hr.1
    · exact hr.1.2 hpass
  rw [if_neg hpass, follows_congr (buttonCore_dispatchTouch _ _ _), prepared, prepare]
  have hread := s.buttonCore_readButtons p now
  generalize s.readButtons p now = r at hread ⊢
  have hposition := (r.1.buttonCore_position p now r.2).trans hread
  have hcaps : r.1.caps = s.caps := congrArg ButtonCore.caps hread
  have hcfg : (r.1.position p now r.2).pad.cfg = s.cfg := congrArg ButtonCore.cfg hposition
  have hstate : (r.1.position p now r.2).pad.thinkpad.buttonState = s.thinkpad.buttonState :=
    congrArg ButtonCore.buttonState hposition
  rw [hcaps]
  by_cases htype : s.caps.clickpadtype ≠ 0
  · rw [if_pos htype, follows_clickPad (hd.congr hposition) ((follows_congr hposition).mpr h),
      StaleButton, StaleButton, hcfg, hstate]
    exact not_congr (and_iff_right (.inr ⟨⟨hex, hpass⟩, htype⟩)).symm
  · rw [if_neg htype, follows_congr hposition]
    refine iff_of_true h fun hb => ?_
    rcases hb.1 with hr | hr
    · exact hex hr.1
    · exact htype hr.2

theorem dynamic_dispatchEventsWithPacket {s : Pad} (hd : s.Dynamic) (p : PadPacket)
    (now : UInt64) : (s.dispatchEventsWithPacket p now).Dynamic := by
  have hof {r : Pad} (hr : r.touchCore = s.touchCore) : r.Dynamic := by
    rw [Dynamic, show r.cfg = s.cfg from congrArg TouchCore.cfg hr,
      show r.caps = s.caps from congrArg TouchCore.caps hr]
    exact hd
  rw [dispatchEventsWithPacket]
  split
  · exact hof (s.touchCore_dispatchEventsWithPacketEW p now)
  split
  · exact hof ((touchCore_passThrough _ _ _).trans (s.touchCore_readButtons p now))
  · exact (hof (s.touchCore_prepared p now)).congr (buttonCore_dispatchTouch _ _ _)

/-! ### Other events -/

theorem buttonCore_onScrollTimer (s : Pad) : s.onScrollTimer.buttonCore = s.buttonCore := by
  have hgo (r : Pad) (dy : ℤ) : (r.scrollMomentum dy).buttonCore = r.buttonCore := by
    rw [scrollMomentum, dispatchScroll]
    rfl
  rw [onScrollTimer]
  refine buttonCore_ite rfl (buttonCore_ite ?_ rfl)
  exact hgo _ _

theorem buttonCore_notifyKeyPressed (s : Pad) (adbKeyCode : UInt8) (goingDown : Bool)
    (time : UInt64) : (s.notifyKeyPressed adbKeyCode goingDown time).buttonCore = s.buttonCore := by
  rw [notifyKeyPressed]
  split
  · split <;> rfl
  · rfl

theorem buttonCore_notification (s : Pad) (device : ℕ) (notice : HIDNotice) :
    (s.notificationHIDAttachedHandlerGated device notice).buttonCore = s.buttonCore := by
  cases notice <;> exact buttonCore_ite (buttonCore_updateTouchpadLED _) rfl

/-- The mode byte is only sent. -/
theorem setTouchpadModeByte_of_dynamic {s : Pad} (h : s.cfg.bool .dynamicEW = true) :
    s.setTouchpadModeByte.buttonCore = s.buttonCore := by
  rw [setTouchpadModeByte, if_pos h]
  rfl

/-- New properties do not concern the bit of the mode. -/
theorem modeByteAfter_of_dynamic (s : Pad) {cfg : Config} (h : cfg.bool .dynamicEW = true)
    (d : Dictionary) : s.modeByteAfter cfg d &&& 0x4 = s.touchPadModeByte &&& 0x4 := by
  have hmask : ∀ b : BitVec 8,
      ((b ||| 0x40#8) ||| 0x1#8) &&& 0x4#8 = b &&& 0x4#8 ∧
        ((b &&& ~~~0x40#8) ||| 0x1#8) &&& 0x4#8 = b &&& 0x4#8 ∧
        (b ||| 0x1#8) &&& 0x4#8 = b &&& 0x4#8 := by decide
  obtain ⟨hset, hclear, hsame⟩ := hmask s.touchPadModeByte.toBitVec
  rw [modeByteAfter, if_pos h]
  split
  · split
    · exact UInt8.eq_of_toBitVec_eq hset
    · exact UInt8.eq_of_toBitVec_eq hclear
  · exact UInt8.eq_of_toBitVec_eq hsame

theorem follows_setParamPropertiesGated {s : Pad} (h : s.Follows) {d : Dictionary}
    (hd : (s.cfg.read d).bool .dynamicEW = true) : (s.setParamPropertiesGated d).Follows := by
  let read : Pad :=
    { s with cfg := s.cfg.read d, touchPadModeByte := s.modeByteAfter (s.cfg.read d) d }
  let sent : Pad :=
    if read.touchPadModeByte ≠ s.touchPadModeByte then read.setTouchpadModeByte else read
  have hsent : sent.buttonCore = read.buttonCore :=
    buttonCore_ite (setTouchpadModeByte_of_dynamic hd) rfl
  have hread : read.Follows := by
    refine ⟨h.1, ?_⟩
    change s.modeByteAfter (s.cfg.read d) d &&& 0x4 ≠ 0 ↔ s.clickbuttons ≠ 0
    rw [modeByteAfter_of_dynamic s hd]
    exact h.2
  have hlast : (s.setParamPropertiesGated d).buttonCore = sent.buttonCore :=
    buttonCore_ite (buttonCore_updateTouchpadLED _) rfl
  exact (follows_congr (hlast.trans hsent)).mpr hread

/-- When the touchpad is powered again, the buttons are cleared and the mode is not. -/
theorem follows_initTouchPad {s : Pad} (hd : s.Dynamic) (h : s.Follows) :
    s.initTouchPad.Follows ↔ s.clickbuttons = 0 := by
  let cleared : Pad :=
    { s with
      passbuttons := 0
      clickbuttons := 0
      second := { s.second with tracksecondary := false }
      modifierdown := 0 }
  have hsent : s.initTouchPad.buttonCore = cleared.buttonCore :=
    (buttonCore_updateTouchpadLED _).trans (setTouchpadModeByte_of_dynamic (s := cleared) hd.1)
  rw [follows_congr hsent]
  constructor
  · intro hc
    by_contra hne
    exact absurd rfl (hc.1.mp (h.1.mpr hne))
  · intro hzero
    have hfollows := h
    rw [Follows, hzero] at hfollows
    exact hfollows

/-! ### Runs -/

/-- The event leaves `DynamicEWMode` on. -/
def StaysDynamic (s : Pad) : PadEvent → Prop
  | .setParamProperties d => (s.cfg.read d).bool .dynamicEW = true
  | _ => True

instance (s : Pad) (e : PadEvent) : Decidable (s.StaysDynamic e) :=
  match e with
  | .setParamProperties _ => inferInstanceAs (Decidable (_ = _))
  | .packet _ _ => inferInstanceAs (Decidable True)
  | .buttonTimer _ => inferInstanceAs (Decidable True)
  | .dragTimer _ => inferInstanceAs (Decidable True)
  | .scrollTimer => inferInstanceAs (Decidable True)
  | .setDisableTouchpad _ => inferInstanceAs (Decidable True)
  | .notifyKeyPressed _ _ _ => inferInstanceAs (Decidable True)
  | .notification _ _ => inferInstanceAs (Decidable True)
  | .wake => inferInstanceAs (Decidable True)

/-- The buttons are not changed behind the back of the mode: the touchpad is not powered again while
the ClickPad is held down, and no trackpoint button is kept that a packet does not report. -/
def ThroughMode (s : Pad) : PadEvent → Prop
  | .packet p now => ¬ (s.readsClickPad p now ∧ s.StaleButton p)
  | .wake => s.clickbuttons = 0
  | _ => True

instance (s : Pad) (e : PadEvent) : Decidable (s.ThroughMode e) :=
  match e with
  | .packet _ _ => inferInstanceAs (Decidable (¬ _))
  | .wake => inferInstanceAs (Decidable (_ = _))
  | .buttonTimer _ => inferInstanceAs (Decidable True)
  | .dragTimer _ => inferInstanceAs (Decidable True)
  | .scrollTimer => inferInstanceAs (Decidable True)
  | .setDisableTouchpad _ => inferInstanceAs (Decidable True)
  | .notifyKeyPressed _ _ _ => inferInstanceAs (Decidable True)
  | .notification _ _ => inferInstanceAs (Decidable True)
  | .setParamProperties _ => inferInstanceAs (Decidable True)

theorem follows_react {s : Pad} (hd : s.Dynamic) (h : s.Follows) {e : PadEvent}
    (he : s.StaysDynamic e) : (s.react e).Follows ↔ s.ThroughMode e := by
  have hsame {r : Pad} (hr : r.buttonCore = s.buttonCore) : r.Follows ↔ True :=
    iff_of_true ((follows_congr hr).mpr h) trivial
  cases e with
  | packet p now => exact follows_dispatchEventsWithPacket hd h p now
  | buttonTimer now => exact hsame rfl
  | dragTimer now => exact hsame (buttonCore_dispatchButtons _ _)
  | scrollTimer => exact hsame s.buttonCore_onScrollTimer
  | setDisableTouchpad enable => exact hsame (buttonCore_ite (buttonCore_updateTouchpadLED _) rfl)
  | notifyKeyPressed adbKeyCode goingDown time =>
      exact hsame (s.buttonCore_notifyKeyPressed adbKeyCode goingDown time)
  | notification device notice => exact hsame (s.buttonCore_notification device notice)
  | setParamProperties d => exact iff_of_true (follows_setParamPropertiesGated h he) trivial
  | wake => exact follows_initTouchPad hd h

theorem dynamic_react {s : Pad} (hd : s.Dynamic) {e : PadEvent} (he : s.StaysDynamic e) :
    (s.react e).Dynamic := by
  have hof {r : Pad} (hcfg : r.cfg = s.cfg) (hcaps : r.caps = s.caps) : r.Dynamic := by
    rw [Dynamic, hcfg, hcaps]
    exact hd
  cases e with
  | packet p now => exact dynamic_dispatchEventsWithPacket hd p now
  | buttonTimer now => exact hd
  | dragTimer now => exact hof (s.sameMode_onDragTimer now).cfg (s.sameMode_onDragTimer now).caps
  | scrollTimer => exact hof s.sameMode_onScrollTimer.cfg s.sameMode_onScrollTimer.caps
  | setDisableTouchpad enable =>
      have hsame := s.sameMode_setDisableTouchpad enable
      exact hof hsame.cfg hsame.caps
  | notifyKeyPressed adbKeyCode goingDown time =>
      have hsame := s.sameMode_notifyKeyPressed adbKeyCode goingDown time
      exact hof hsame.cfg hsame.caps
  | notification device notice =>
      have hsame := s.sameMode_notification device notice
      exact hof hsame.cfg hsame.caps
  | setParamProperties d =>
      have hspec := s.setParamPropertiesGated_spec d
      rw [react, Dynamic, hspec.cfg, hspec.caps]
      exact ⟨he, hd.2⟩
  | wake => exact hof s.sameMode_initTouchPad.cfg s.sameMode_initTouchPad.caps

/-- Events that leave `DynamicEWMode` on. -/
def stepDynamic (s : Pad) (e : PadEvent) : Option Pad :=
  if s.StaysDynamic e then some (s.handle e) else none

/-- After the event the mode follows the ClickPad. -/
def FollowsAfter (s : Pad) (e : PadEvent) : Prop := (s.handle e).Follows

instance (s : Pad) (e : PadEvent) : Decidable (s.FollowsAfter e) :=
  inferInstanceAs (Decidable (Follows _))

theorem followsAfter_iff {s : Pad} (hd : s.Dynamic) (h : s.Follows) {e : PadEvent}
    (he : s.StaysDynamic e) : s.FollowsAfter e ↔ s.ThroughMode e := by
  have he' : StaysDynamic { s with log := [] } e := by
    cases e <;> exact he
  have hsame : ThroughMode { s with log := [] } e ↔ s.ThroughMode e := by
    cases e <;> exact Iff.rfl
  exact (follows_react (s := { s with log := [] }) hd h he').trans hsame

theorem follows_initial (cfg : Config) (caps : Capabilities)
    (hdynamic : cfg.bool .dynamicEW = true) : (initial cfg caps).Follows := by
  have hoff : (caps.extendedwmodeSupported && !cfg.bool .dynamicEW) = false := by
    rw [hdynamic]
    exact Bool.and_false _
  have hmode : (initial cfg caps).extendedwmode = false := hoff
  have hbyte : (initial cfg caps).touchPadModeByte = 0x81 :=
    if_neg fun h => absurd (hoff.symm.trans h) Bool.false_ne_true
  rw [Follows, hmode, hbyte]
  exact ⟨iff_of_false Bool.false_ne_true (not_not_intro rfl), iff_of_false (by decide)
    (not_not_intro rfl)⟩

/-- **The mode follows the ClickPad** throughout a run just when its buttons are never changed
behind the back of the mode. -/
theorem follows_iff (cfg : Config) (caps : Capabilities)
    (hdynamic : cfg.bool .dynamicEW = true) (hsupported : caps.extendedwmodeSupported = true)
    (es : List PadEvent) (s : Pad)
    (hr : Transition.run stepDynamic (initial cfg caps) es = some s) :
    Transition.Guarded stepDynamic FollowsAfter (initial cfg caps) es ↔
      Transition.Guarded stepDynamic ThroughMode (initial cfg caps) es := by
  have hstart := follows_initial cfg caps hdynamic
  refine Transition.guarded_iff (I := fun s => s.Dynamic ∧ s.Follows) ?_ ?_ es
    ⟨⟨hdynamic, hsupported⟩, hstart⟩ hr
  · rintro s e s' ⟨hd, h⟩ hg hs
    obtain ⟨he, hs⟩ := Option.ite_none_right_eq_some.mp hs
    cases hs
    refine ⟨?_, hg⟩
    have he' : StaysDynamic { s with log := [] } e := by
      cases e <;> exact he
    exact dynamic_react (s := { s with log := [] }) hd he'
  · rintro s e s' ⟨hd, h⟩ hs
    exact followsAfter_iff hd h (Option.ite_none_right_eq_some.mp hs).1

/-- `DynamicEWMode` is on. -/
def dynamicConfig : Config :=
  { Config.init with bool := fun v => if v = .dynamicEW then true else Config.initBool v }

/-- A ClickPad that can report a second finger. -/
def clickPadCaps : Capabilities := ⟨false, false, false, 1, true, false⟩

/-- The ClickPad is pressed and released. -/
def clickRun : List PadEvent := [.packet ⟨0, 0, 0, 1, 0, 0⟩ 1000, .packet ⟨0, 0, 0, 0, 0, 0⟩ 2000]

theorem follows_iff_click :
    Transition.Guarded stepDynamic FollowsAfter (initial dynamicConfig clickPadCaps) clickRun :=
  (follows_iff dynamicConfig clickPadCaps rfl rfl clickRun
    ((initial dynamicConfig clickPadCaps).run clickRun) rfl).mpr (by decide +kernel)

/-- The machine goes to sleep while the ClickPad is held down. -/
def sleepInClick : List PadEvent := [.packet ⟨0, 0, 0, 1, 0, 0⟩ 1000, .wake]

theorem mode_left_on :
    ¬ Transition.Guarded stepDynamic FollowsAfter (initial dynamicConfig clickPadCaps)
      sleepInClick := by
  decide +kernel

end Pad

end VoodooPS2.Synaptics
