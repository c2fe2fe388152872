import VoodooPS2.Synaptics.ModeByte
import VoodooPS2.TouchpadCommands

/-! # Commands to the touchpad

Among what the driver puts out are commands to the touchpad: its mode byte (`setModeByte`,
`setTouchpadModeByte`) and its LED (`updateTouchpadLED`).  `sent` is the list of them, `shown` what they
make of a touchpad.

`Carries A` is the relation of two states of the driver when its commands keep the touchpad in `A` with
it.  Every event carries `InMode`, the agreement on the mode byte, and every event that does not switch
the LED on in the configuration carries `Lit`.  `start` and `initTouchPad` bring both about. -/

namespace VoodooPS2.Synaptics

open Touchpad

/-- A command to the touchpad.  The simplified sequence for the mode byte is `quick`. -/
def Effect.operation (quick : Bool) : Effect → Option Operation
  | .modeByte value => some (.modeByte quick value)
  | .led touchLED => some (.led touchLED)
  | _ => none

/-- The commands among the effects, in order. -/
def sent (quick : Bool) (log : List Effect) : List Operation := log.filterMap (Effect.operation quick)

/-- The touchpad after the commands among the effects. -/
def shown (v : View) (log : List Effect) : View := (sent false log).foldl Operation.effect v

theorem sent_append (quick : Bool) (l l' : List Effect) :
    sent quick (l ++ l') = sent quick l ++ sent quick l' := List.filterMap_append

/-- The two sequences for the mode byte are for the same. -/
theorem foldl_sent (quick : Bool) (v : View) (log : List Effect) :
    (sent quick log).foldl Operation.effect v = shown v log := by
  induction log generalizing v with
  | nil => rfl
  | cons e log ih =>
      cases e with
      | modeByte value => exact ih _
      | led touchLED => exact ih _
      | _ => exact ih v

theorem shown_append (v : View) (l l' : List Effect) : shown v (l ++ l') = shown (shown v l) l' := by
  rw [shown, sent_append, List.foldl_append]
  rfl

theorem sent_divide (ds : List ℤ) : sent false (ds.map .divide) = [] := by
  simp [sent, List.filterMap_map, Effect.operation]

theorem sent_relative (bs : List UInt32) : sent false (bs.map (.relative 0 0)) = [] := by
  simp [sent, List.filterMap_map, Effect.operation]

namespace Pad

/-! ### Agreement -/

/-- The touchpad is in the mode that has been programmed, and sends packets. -/
def InMode (s : Pad) (v : View) : Prop := v.modeByte = s.touchPadModeByte ∧ v.streaming = true

/-- The LED is there to be set. -/
def hasLED (s : Pad) : Prop := s.caps.ledpresent = true ∧ s.cfg.bool .noled = false

/-- The LED says whether the touchpad is disabled. -/
def Lit (s : Pad) (v : View) : Prop :=
  s.hasLED → v.led = if s.ignoreall then 0x88 else 0x10

/-- What the driver sends from `s` to `s'` keeps the touchpad in `A` with it. -/
def Carries (A : Pad → View → Prop) (s s' : Pad) : Prop :=
  ∀ v, A s (shown v s.log) → A s' (shown v s'.log)

namespace Carries

variable {A : Pad → View → Prop} {s s' s'' : Pad}

theorem refl (A : Pad → View → Prop) (s : Pad) : Carries A s s := fun _ => id

theorem trans (h : Carries A s s') (h' : Carries A s' s'') : Carries A s s'' :=
  fun v hv => h' v (h v hv)

theorem ite {c : Prop} [Decidable c] (h : Carries A s s') (h' : Carries A s s'') :
    Carries A s (if c then s' else s'') := by
  split
  · exact h
  · exact h'

end Carries

/-- Nothing is sent, and nothing that the touchpad is to agree with is changed. -/
structure Quiet (s s' : Pad) : Prop where
  sent : sent false s'.log = sent false s.log
  touchPadModeByte : s'.touchPadModeByte = s.touchPadModeByte
  cfg : s'.cfg = s.cfg
  caps : s'.caps = s.caps
  ignoreall : s'.ignoreall = s.ignoreall

theorem Quiet.inMode {s s' : Pad} (h : Quiet s s') : Carries InMode s s' := by
  intro v hv
  rw [InMode, shown, h.sent, h.touchPadModeByte]
  exact hv

theorem Quiet.lit {s s' : Pad} (h : Quiet s s') : Carries Lit s s' := by
  intro v hv
  rw [Lit, hasLED, shown, h.sent, h.cfg, h.caps, h.ignoreall]
  exact hv

/-! ### What sends nothing -/

/-- The effects are no commands. -/
theorem sent_emit {s : Pad} {effects : List Effect} (h : sent false effects = []) :
    sent false (s.emit effects).log = sent false s.log := by
  rw [emit, sent_append, h, List.append_nil]

theorem sent_dividing (s : Pad) (ds : List ℤ) : sent false (s.dividing ds).log = sent false s.log :=
  sent_emit (sent_divide ds)

theorem sent_dispatchRelative (s : Pad) (dx dy : ℤ) (b : UInt32) :
    sent false (s.dispatchRelative dx dy b).log = sent false s.log := sent_emit rfl

theorem sent_dispatchScroll (s : Pad) (n m : ℤ) :
    sent false (s.dispatchScroll n m).log = sent false s.log := sent_emit rfl

theorem sent_ite {s a b : Pad} {c : Prop} [Decidable c] (ha : sent false a.log = sent false s.log)
    (hb : sent false b.log = sent false s.log) :
    sent false (if c then a else b).log = sent false s.log := by
  split
  · exact ha
  · exact hb

theorem sent_middleButton (s : Pad) (b : UInt32) (now : UInt64) (origin : MBComingFrom) :
    sent false (s.middleButton b now origin).1.log = sent false s.log := by
  rw [middleButton, sent_append, sent_relative, List.append_nil]

theorem sent_readButtons (s : Pad) (p : PadPacket) (now : UInt64) :
    sent false (s.readButtons p now).1.log = sent false s.log := by
  rw [readButtons]
  split
  · exact sent_middleButton _ _ _ _
  · rfl

theorem sent_position (s : Pad) (p : PadPacket) (now : UInt64) (b : UInt32) :
    sent false (s.position p now b).pad.log = sent false s.log := by
  have hdown (r : Pad) (t : Touch) :
      sent false (r.fingerDown p t b).1.log = sent false r.log := by
    rw [fingerDown]
    split
    · exact sent_middleButton _ _ _ _
    · rfl
  have hsmooth (r : Pad) (t : Touch) : sent false (r.smooth t).1.log = sent false r.log := by
    rw [smooth, sent_append, sent_divide, List.append_nil]
  exact (hsmooth _ _).trans ((hdown _ _).trans (s.sent_dividing _))

theorem sent_passThrough (s : Pad) (p : PadPacket) (b : UInt32) :
    sent false (s.passThrough p b).log = sent false s.log := by
  have hmove (r : Pad) (dx dy : ℤ) (b : UInt32) :
      sent false (r.passMove dx dy b).log = sent false r.log := by
    refine sent_ite (r.sent_dispatchRelative _ _ _) (sent_ite rfl ?_)
    refine (sent_dispatchRelative _ _ _ _).trans (sent_emit ?_)
    split <;> rfl
  exact sent_ite ((hmove _ _ _ _).trans (s.sent_dispatchScroll _ _)) (hmove s _ _ _)

theorem sent_dispatchButtons (s : Pad) (b : UInt32) :
    sent false (s.dispatchButtons b).log = sent false s.log :=
  sent_ite rfl (s.sent_dispatchRelative _ _ _)

theorem sent_release (s : Pad) (t : Touch) (b : UInt32) :
    sent false (s.release t b).1.log = sent false s.log := by
  have htap (r : Pad) : sent false (r.tap b).1.log = sent false r.log := by
    have hclick : sent false (r.dragClick b).1.log = sent false r.log := by
      rw [dragClick]
      split
      · rfl
      · dsimp only
        split
        · rfl
        · exact (sent_dispatchRelative _ _ _ _).trans (r.sent_dispatchRelative _ _ _)
    rw [tap]
    split
    · exact hclick
    · rfl
    · rfl
  have hend (r : Pad) : sent false r.endTouch.log = sent false r.log := sent_ite rfl rfl
  rw [release]
  split
  · dsimp only
    split
    · exact htap _
    · exact hend (s.liftFinger t)
  · rfl

theorem sent_moveDelta (s : Pad) (t : Touch) (b : UInt32) :
    sent false (s.moveDelta t b).pad.log = sent false s.log := by
  rw [moveDelta]
  dsimp only
  split <;> exact s.sent_dividing _

theorem sent_scrollBy (s : Pad) (delta divisor thresh : ℤ) {dispatch : Pad → ℤ → Pad}
    (hd : ∀ r n, sent false (dispatch r n).log = sent false r.log) :
    sent false (s.scrollBy delta divisor thresh dispatch).log = sent false s.log := by
  have hrecord : sent false (s.recordOne delta divisor thresh).log = sent false s.log :=
    s.sent_dividing _
  rw [scrollBy]
  split
  · rw [hd, sent_dividing]
    exact hrecord
  · exact hrecord

theorem sent_trackThree (s : Pad) (t : Touch) : sent false (s.trackThree t).log = sent false s.log :=
  sent_ite (sent_emit rfl) (sent_ite (sent_emit rfl) (sent_ite (sent_emit rfl)
    (sent_ite (sent_emit rfl) rfl)))

theorem sent_scrollTwo (s : Pad) (t : Touch) (dy dx : ℤ) :
    sent false (s.scrollTwo t dy dx).log = sent false s.log := by
  have hwheel (r : Pad) (dy dx : ℤ) : sent false (r.wheelTwo dy dx).log = sent false r.log :=
    sent_ite ((sent_dispatchScroll _ _ _).trans (r.sent_dividing _)) rfl
  exact (hwheel _ _ _).trans (s.sent_dividing _)

theorem sent_trackTwo (s : Pad) (t : Touch) (b : UInt32) :
    sent false (s.trackTwo t b).pad.log = sent false s.log := by
  rw [trackTwo]
  split
  · split
    · exact s.sent_moveDelta t b
    · rfl
  split
  · rfl
  split
  · rfl
  split
  · rfl
  split
  · rfl
  · exact s.sent_scrollTwo t _ _

theorem sent_trackMove (s : Pad) (t : Touch) (b : UInt32) :
    sent false (s.trackMove t b).pad.log = sent false s.log := by
  rw [trackMove]
  split
  · exact s.sent_moveDelta t b
  · rfl

theorem sent_track (s : Pad) (t : Touch) (b : UInt32) :
    sent false (s.track t b).pad.log = sent false s.log := by
  rw [track]
  split
  · exact s.sent_trackMove t _
  · exact s.sent_trackMove t _
  · exact s.sent_trackMove t _
  · split
    · exact s.sent_trackThree t
    · exact s.sent_trackTwo t b
  · exact sent_ite rfl (sent_ite rfl
      (s.sent_scrollBy _ _ _ fun r n => r.sent_dispatchScroll n 0))
  · exact sent_ite rfl (sent_ite rfl
      (s.sent_scrollBy _ _ _ fun r n => r.sent_dispatchScroll 0 n))
  · exact sent_ite rfl (s.sent_scrollBy _ _ _ fun r n => r.sent_dispatchScroll n 0)
  all_goals rfl

theorem sent_handleTouch (s : Pad) (t : Touch) (b : UInt32) :
    sent false (s.handleTouch t b).log = sent false s.log := by
  have hcapture (r : Pad) : sent false (r.captureTouch t).log = sent false r.log := sent_ite rfl rfl
  have hmove (r : Pad) (dx dy : ℤ) (b : UInt32) :
      sent false (r.dispatchMove dx dy b).log = sent false r.log :=
    (sent_dispatchRelative _ _ _ _).trans (r.sent_dividing _)
  have hdeliver (r : Pad) (dx dy : ℤ) (b : UInt32) :
      sent false (r.deliver dx dy b).log = sent false r.log :=
    sent_ite (hmove r _ _ _) (sent_ite rfl (sent_ite (sent_ite rfl (hmove r _ _ _)) (hmove r _ _ _)))
  have htrack : sent false (s.tracked t b).log = sent false s.log :=
    (sent_track _ _ _).trans (s.sent_release t b)
  exact (hdeliver _ _ _ _).trans ((hcapture _).trans htrack)

theorem sent_secondFiltered (s : Pad) (p : PadPacket) (now : UInt64) :
    sent false (s.secondFiltered p now).1.log = sent false s.log := by
  have hsmooth (r : Pad) (t : Touch) :
      sent false (r.smoothSecond t).1.log = sent false r.log := by
    rw [smoothSecond, sent_append, sent_divide, List.append_nil]
  exact (hsmooth _ _).trans (s.sent_dividing _)

theorem sent_moveSecond (s : Pad) (t : Touch) (b : UInt32) :
    sent false (s.moveSecond t b).log = sent false s.log := by
  refine sent_ite (s.sent_dividing _) ?_
  exact (sent_dispatchRelative _ _ _ _).trans ((sent_dividing _ _).trans (s.sent_dividing _))

theorem sent_onScrollTimer (s : Pad) : sent false s.onScrollTimer.log = sent false s.log := by
  have hscroll (r : Pad) (dy : ℤ) : sent false (r.scrollMomentum dy).log = sent false r.log :=
    (sent_dispatchScroll _ _ _).trans (r.sent_dividing _)
  exact sent_ite rfl (sent_ite ((hscroll _ _).trans (s.sent_dividing _)) (s.sent_dividing _))

/-- The parts of the state together. -/
theorem quiet_of {s s' : Pad} (hsent : sent false s'.log = sent false s.log)
    (hcore : s'.buttonCore = s.buttonCore) (hignore : s'.ignoreall = s.ignoreall) : Quiet s s' :=
  ⟨hsent, congrArg ButtonCore.touchPadModeByte hcore, congrArg ButtonCore.cfg hcore,
    congrArg ButtonCore.caps hcore, hignore⟩

/-! ### What is sent -/

theorem carries_inMode_setModeByte (s : Pad) : Carries InMode s s.setModeByte := by
  refine .ite (.refl _ s) fun v _ => ?_
  rw [shown_append]
  exact ⟨rfl, rfl⟩

theorem carries_lit_setModeByte (s : Pad) : Carries Lit s s.setModeByte := by
  refine .ite (.refl _ s) fun v hv => ?_
  rw [shown_append]
  exact hv

/-- The mode byte is sent as it is then. -/
theorem inMode_setTouchpadModeByte (s : Pad) (v : View) :
    InMode s.setTouchpadModeByte (shown v s.setTouchpadModeByte.log) := by
  rw [setTouchpadModeByte]
  split
  · rw [emit, shown_append]
    exact ⟨rfl, rfl⟩
  · rw [shown_append]
    exact ⟨rfl, rfl⟩

theorem carries_lit_setTouchpadModeByte (s : Pad) : Carries Lit s s.setTouchpadModeByte := by
  refine .ite (fun v hv => ?_) fun v hv => ?_
  · rw [emit, shown_append]
    exact hv
  · rw [shown_append]
    exact hv

theorem carries_inMode_updateTouchpadLED (s : Pad) : Carries InMode s s.updateTouchpadLED := by
  refine .ite (fun v hv => ?_) (.refl _ s)
  rw [emit, shown_append]
  exact hv

theorem lit_updateTouchpadLED (s : Pad) (v : View) :
    Lit s.updateTouchpadLED (shown v s.updateTouchpadLED.log) := by
  rw [updateTouchpadLED]
  split
  · rw [emit, shown_append]
    exact fun _ => rfl
  · rename_i hno
    exact fun hled => absurd hled hno

/-- An agreement that the commands in a packet and a new `ignoreall` carry. -/
structure Law (A : Pad → View → Prop) : Prop where
  quiet : ∀ {s s' : Pad}, Quiet s s' → Carries A s s'
  modeByte : ∀ s : Pad, Carries A s s.setModeByte
  disable : ∀ (s : Pad) (b : Bool), Carries A s (updateTouchpadLED { s with ignoreall := b })

theorem law_inMode : Law InMode where
  quiet := Quiet.inMode
  modeByte := carries_inMode_setModeByte
  disable := fun s b => carries_inMode_updateTouchpadLED { s with ignoreall := b }

theorem law_lit : Law Lit where
  quiet := Quiet.lit
  modeByte := carries_lit_setModeByte
  disable := fun s b v _ => lit_updateTouchpadLED { s with ignoreall := b } v

/-! ### Events -/

namespace Law

variable {A : Pad → View → Prop} (h : Law A)
include h

theorem clickRule : ClickRule (Carries A) where
  refl := Carries.refl A
  trans := Carries.trans
  modeByte := h.modeByte
  clickbuttons := fun _ _ => h.quiet ⟨rfl, rfl, rfl, rfl, rfl⟩
  buttonState := fun _ _ => h.quiet ⟨rfl, rfl, rfl, rfl, rfl⟩
  clickedprimary := fun _ _ => h.quiet ⟨rfl, rfl, rfl, rfl, rfl⟩
  lastbuttons := fun _ _ => h.quiet ⟨rfl, rfl, rfl, rfl, rfl⟩

theorem dispatchButtons (s : Pad) (b : UInt32) : Carries A s (s.dispatchButtons b) :=
  h.quiet (quiet_of (s.sent_dispatchButtons b) (s.buttonCore_dispatchButtons b)
    (congrArg TouchCore.ignoreall (s.touchCore_dispatchButtons b)))

theorem trackSecond (s : Pad) (p : PadPacket) (t : Touch) (b : UInt32) :
    Carries A s (s.trackSecond p t b) := by
  have hmove : Carries A s (s.moveSecond t b) := by
    refine h.quiet (quiet_of (s.sent_moveSecond t b) (buttonCore_ite rfl rfl) ?_)
    exact congrArg TouchCore.ignoreall (s.touchCore_moveSecond t b)
  rw [Pad.trackSecond]
  refine .ite (.ite hmove (.refl A s)) (.ite ?_ (h.dispatchButtons s b))
  exact (h.clickRule.clickSecond s p t b).trans (h.dispatchButtons _ _)

theorem packetEW (s : Pad) (p : PadPacket) (now : UInt64) :
    Carries A s (s.dispatchEventsWithPacketEW p now) := by
  have hfilter : Carries A s (s.secondFiltered p now).1 :=
    h.quiet ⟨s.sent_secondFiltered p now, rfl, rfl, rfl, rfl⟩
  have hsave (r : Pad) (t : Touch) : Carries A r { r with second := r.second.save t } :=
    h.quiet ⟨rfl, rfl, rfl, rfl, rfl⟩
  have hscale : Carries A s (s.dividing s.cfg.scaleDivisors) :=
    h.quiet ⟨s.sent_dividing _, rfl, rfl, rfl, rfl⟩
  refine .ite (.refl A s) (.ite (.refl A s) (.ite hscale (.ite hfilter ?_)))
  exact (hfilter.trans (h.trackSecond _ p _ _)).trans (hsave _ _)

theorem disableZone (s : Pad) (t : Touch) : Carries A s (s.disableZone t) := by
  have hmode (r : Pad) (m : TouchMode) : Carries A r { r with touchmode := m } :=
    h.quiet ⟨rfl, rfl, rfl, rfl, rfl⟩
  rw [Pad.disableZone]
  repeat' split
  all_goals first
    | exact h.quiet ⟨rfl, rfl, rfl, rfl, rfl⟩
    | exact (h.disable s _).trans (hmode _ _)

theorem dispatchTouch (s : Pad) (t : Touch) (b : UInt32) : Carries A s (s.dispatchTouch t b) := by
  have hwatch : Carries A s (s.watchZone t) := .ite (h.disableZone s t) (.refl A s)
  have hhandle (r : Pad) : Carries A r (r.handleTouch t b) :=
    h.quiet (quiet_of (r.sent_handleTouch t b) (r.buttonCore_handleTouch t b)
      (r.sameButtons_handleTouch t b).ignoreall)
  exact .ite (.refl A s) (.ite hwatch (.ite hwatch (hwatch.trans (hhandle _))))

theorem packet (s : Pad) (p : PadPacket) (now : UInt64) :
    Carries A s (s.dispatchEventsWithPacket p now) := by
  have hread : Carries A s (s.readButtons p now).1 :=
    h.quiet (quiet_of (s.sent_readButtons p now) (s.buttonCore_readButtons p now)
      (congrArg TouchCore.ignoreall (s.touchCore_readButtons p now)))
  have hposition (r : Pad) (b : UInt32) : Carries A r (r.position p now b).pad :=
    h.quiet (quiet_of (r.sent_position p now b) (r.buttonCore_position p now b)
      (congrArg TouchCore.ignoreall (r.touchCore_position p now b)))
  have hpass (r : Pad) (b : UInt32) : Carries A r (r.passThrough p b) :=
    h.quiet (quiet_of (r.sent_passThrough p b) (r.buttonCore_passThrough p b)
      (congrArg TouchCore.ignoreall (r.touchCore_passThrough p b)))
  have hprepared : Carries A s (s.prepared p now).pad := by
    rw [prepared, prepare]
    split
    · exact (hread.trans (hposition _ _)).trans (h.clickRule.clickPad _ p _ _)
    · exact hread.trans (hposition _ _)
  exact .ite (h.packetEW s p now) (.ite (hread.trans (hpass _ _))
    (hprepared.trans (h.dispatchTouch _ _ _)))

/-- Every event but new properties and the wake. -/
theorem react (s : Pad) {e : PadEvent} (hprops : ∀ d, e ≠ .setParamProperties d)
    (hwake : e ≠ .wake) : Carries A s (s.react e) := by
  have hmiddle (r : Pad) (b : UInt32) (now : UInt64) (origin : MBComingFrom) :
      Carries A r (r.middleButton b now origin).1 :=
    h.quiet ⟨r.sent_middleButton b now origin, rfl, rfl, rfl, rfl⟩
  have hsame {r r' : Pad} (hr : Quiet r r') := h.quiet hr
  cases e with
  | packet p now => exact h.packet s p now
  | buttonTimer now =>
      have hfired : Carries A s { s with machine := { s.machine with timerArmed := false } } :=
        hsame ⟨rfl, rfl, rfl, rfl, rfl⟩
      exact hfired.trans (hmiddle _ _ now _)
  | dragTimer now =>
      have hstop : Carries A s { s with touchmode := .notouch, dragArmed := false } :=
        hsame ⟨rfl, rfl, rfl, rfl, rfl⟩
      exact (hstop.trans (hmiddle _ _ _ _)).trans (h.dispatchButtons _ _)
  | scrollTimer =>
      refine hsame (quiet_of s.sent_onScrollTimer s.buttonCore_onScrollTimer ?_)
      rw [Pad.react, onScrollTimer]
      split
      · rfl
      · dsimp only
        split <;> rfl
  | setDisableTouchpad enable => exact .ite (h.disable s _) (.refl A s)
  | notifyKeyPressed adbKeyCode goingDown time =>
      refine hsame (quiet_of ?_ (s.buttonCore_notifyKeyPressed adbKeyCode goingDown time) ?_)
      all_goals
        rw [Pad.react, notifyKeyPressed]
        repeat' split
        all_goals rfl
  | notification device notice =>
      have hadd : Carries A s { s with attached := s.attachedAfter device notice } :=
        hsame ⟨rfl, rfl, rfl, rfl, rfl⟩
      cases notice <;> exact .ite (hadd.trans (h.disable _ _)) hadd
  | setParamProperties d => exact absurd rfl (hprops d)
  | wake => exact absurd rfl hwake

end Law

/-! ### Properties, the wake and the start -/

/-- A changed mode byte is sent, and one that is the same is in the touchpad. -/
theorem carries_inMode_setParamPropertiesGated (s : Pad) (d : Dictionary) :
    Carries InMode s (s.setParamPropertiesGated d) := by
  let read : Pad :=
    { s with cfg := s.cfg.read d, touchPadModeByte := s.modeByteAfter (s.cfg.read d) d }
  let sent : Pad :=
    if read.touchPadModeByte ≠ s.touchPadModeByte then read.setTouchpadModeByte else read
  have hsent : Carries InMode s sent := by
    by_cases hchange : read.touchPadModeByte = s.touchPadModeByte
    · rw [show sent = read from if_neg (not_not_intro hchange)]
      intro v hv
      rw [InMode, hchange]
      exact hv
    · rw [show sent = read.setTouchpadModeByte from if_pos hchange]
      exact fun v _ => inMode_setTouchpadModeByte read v
  have hquiet : Carries InMode sent { sent with touchmode := .notouch } :=
    law_inMode.quiet ⟨rfl, rfl, rfl, rfl, rfl⟩
  exact .ite (hsent.trans (hquiet.trans (law_inMode.disable _ _))) (hsent.trans hquiet)

/-- The LED is not switched on by properties without being set, unless it had been on before. -/
theorem carries_lit_setParamPropertiesGated {s : Pad} {d : Dictionary}
    (h : (s.cfg.read d).bool .noled = s.cfg.bool .noled) :
    Carries Lit s (s.setParamPropertiesGated d) := by
  let read : Pad :=
    { s with cfg := s.cfg.read d, touchPadModeByte := s.modeByteAfter (s.cfg.read d) d }
  let sent : Pad :=
    if read.touchPadModeByte ≠ s.touchPadModeByte then read.setTouchpadModeByte else read
  have hread : Carries Lit s read := by
    intro v hv
    rw [Lit, hasLED, h]
    exact hv
  have hsent : Carries Lit s sent :=
    .ite (hread.trans (carries_lit_setTouchpadModeByte read)) hread
  have hquiet : Carries Lit sent { sent with touchmode := .notouch } :=
    law_lit.quiet ⟨rfl, rfl, rfl, rfl, rfl⟩
  exact .ite (hsent.trans (hquiet.trans (law_lit.disable _ _))) (hsent.trans hquiet)

theorem inMode_initTouchPad (s : Pad) (v : View) : InMode s.initTouchPad (shown v s.initTouchPad.log) :=
  carries_inMode_updateTouchpadLED _ v (inMode_setTouchpadModeByte _ v)

theorem lit_initTouchPad (s : Pad) (v : View) : Lit s.initTouchPad (shown v s.initTouchPad.log) :=
  lit_updateTouchpadLED _ v

theorem inMode_start (s : Pad) (q : Query) (v : View) :
    InMode (s.start q) (shown v (s.start q).log) :=
  carries_inMode_updateTouchpadLED _ v (inMode_setTouchpadModeByte _ v)

theorem lit_start (s : Pad) (q : Query) (v : View) : Lit (s.start q) (shown v (s.start q).log) :=
  lit_updateTouchpadLED _ v

theorem carries_inMode_react (s : Pad) (e : PadEvent) : Carries InMode s (s.react e) := by
  by_cases hwake : e = .wake
  · subst hwake
    exact fun v _ => s.inMode_initTouchPad v
  by_cases hprops : ∃ d, e = .setParamProperties d
  · obtain ⟨d, rfl⟩ := hprops
    exact s.carries_inMode_setParamPropertiesGated d
  · exact law_inMode.react s (not_exists.mp hprops) hwake

/-- The event does not change whether the LED is used. -/
def LeavesLED (s : Pad) (e : PadEvent) : Prop :=
  ∀ d, e = .setParamProperties d → (s.cfg.read d).bool .noled = s.cfg.bool .noled

theorem carries_lit_react {s : Pad} {e : PadEvent} (h : s.LeavesLED e) :
    Carries Lit s (s.react e) := by
  by_cases hwake : e = .wake
  · subst hwake
    exact fun v _ => s.lit_initTouchPad v
  by_cases hprops : ∃ d, e = .setParamProperties d
  · obtain ⟨d, rfl⟩ := hprops
    exact carries_lit_setParamPropertiesGated (h d rfl)
  · exact law_lit.react s (not_exists.mp hprops) hwake

/-! ### The first configuration -/

/-- Properties that change the mode byte send it, and nothing else while no device is attached. -/
theorem sent_setParamPropertiesGated {s : Pad} {d : Dictionary} (hnone : s.attached = [])
    (hchange : s.modeByteAfter (s.cfg.read d) d ≠ s.touchPadModeByte) :
    sent false (s.setParamPropertiesGated d).log =
      sent false s.log ++ [.modeByte false (s.setParamPropertiesGated d).touchPadModeByte] := by
  let read : Pad :=
    { s with cfg := s.cfg.read d, touchPadModeByte := s.modeByteAfter (s.cfg.read d) d }
  have hset : read.setTouchpadModeByte.attached = [] ∧ read.setTouchpadModeByte.log =
      s.log ++ [.modeByte read.setTouchpadModeByte.touchPadModeByte] := by
    rw [setTouchpadModeByte]
    split <;> exact ⟨hnone, rfl⟩
  have hproperties : s.setParamPropertiesGated d =
      { read.setTouchpadModeByte with touchmode := .notouch } := by
    rw [setParamPropertiesGated, if_pos hchange]
    refine if_neg ?_
    change ¬ read.setTouchpadModeByte.attached.length > 0
    rw [hset.1]
    exact Nat.lt_irrefl 0
  rw [hproperties]
  change sent false read.setTouchpadModeByte.log = _
  rw [hset.2, sent_append]
  rfl

/-- Bit 0, for W mode, has not been set before. -/
theorem modeByteAfter_created (cfg : Config) (d : Dictionary) :
    created.modeByteAfter cfg d ≠ created.touchPadModeByte := by
  have hextended : created.caps.extendedwmodeSupported = false := rfl
  have hbyte : created.touchPadModeByte = 0x80 := rfl
  have hbits (v : UInt8) (hv : v = 0x80 ∨ v = 0xC0) : (if cfg.bool .dynamicEW then v ||| 0x1
      else if false then v ||| 0x1 ||| 0x4 else (v ||| 0x1) &&& ~~~0x4) ≠ 0x80 := by
    rcases hv with rfl | rfl <;> split <;> decide
  unfold modeByteAfter
  rw [hextended, hbyte]
  refine hbits _ ?_
  split
  · split <;> decide
  · exact .inl rfl

end Pad

end VoodooPS2.Synaptics
