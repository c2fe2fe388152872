import VoodooPS2.Synaptics.Frames

/-! # What the other events leave alone

`SameElse` relates two states that differ only in the mode, its times and `ignoreall`: what the
disable zone, messages and notices change.  `SameMode` relates two states with the same
configuration and mode.  `setParamPropertiesGated_spec` says what new properties change,
`notification_spec` when a notice disables the touchpad. -/

namespace VoodooPS2.Synaptics

/-- A device has been attached. -/
def HIDNotice.isPublish : HIDNotice → Bool
  | .usbPublish => true
  | .bluetoothPublish _ => true
  | .usbTerminate => false
  | .bluetoothTerminate => false

namespace Pad

/-- The states differ only in the mode, its times and `ignoreall`, and in the log by what is
neither a pointer event nor a division. -/
structure SameElse (s s' : Pad) : Prop where
  cfg : s'.cfg = s.cfg
  caps : s'.caps = s.caps
  machine : s'.machine = s.machine
  lastbuttons : s'.lastbuttons = s.lastbuttons
  passbuttons : s'.passbuttons = s.passbuttons
  dragArmed : s'.dragArmed = s.dragArmed
  momentum : s'.momentum = s.momentum
  masks : pointerMasks s'.log = pointerMasks s.log
  divisors : divisorsOf s'.log = divisorsOf s.log

theorem SameElse.refl (s : Pad) : SameElse s s := ⟨rfl, rfl, rfl, rfl, rfl, rfl, rfl, rfl, rfl⟩

theorem SameElse.trans {s s' s'' : Pad} (h : SameElse s s') (h' : SameElse s' s'') :
    SameElse s s'' where
  cfg := h'.cfg.trans h.cfg
  caps := h'.caps.trans h.caps
  machine := h'.machine.trans h.machine
  lastbuttons := h'.lastbuttons.trans h.lastbuttons
  passbuttons := h'.passbuttons.trans h.passbuttons
  dragArmed := h'.dragArmed.trans h.dragArmed
  momentum := h'.momentum.trans h.momentum
  masks := h'.masks.trans h.masks
  divisors := h'.divisors.trans h.divisors

theorem sameElse_updateTouchpadLED (s : Pad) : SameElse s s.updateTouchpadLED := by
  rw [updateTouchpadLED]
  split
  · refine ⟨rfl, rfl, rfl, rfl, rfl, rfl, rfl, ?_, ?_⟩
    · exact (pointerMasks_append _ _).trans (List.append_nil _)
    · exact (divisorsOf_append _ _).trans (List.append_nil _)
  · exact .refl s

theorem sameElse_disableZone (s : Pad) (t : Touch) : SameElse s (s.disableZone t) := by
  rw [disableZone]
  repeat' split
  all_goals first
    | exact ⟨rfl, rfl, rfl, rfl, rfl, rfl, rfl, rfl, rfl⟩
    | skip
  have htoggle : SameElse s { s with ignoreall := !s.ignoreall } :=
    ⟨rfl, rfl, rfl, rfl, rfl, rfl, rfl, rfl, rfl⟩
  exact (htoggle.trans (sameElse_updateTouchpadLED _)).trans
    ⟨rfl, rfl, rfl, rfl, rfl, rfl, rfl, rfl, rfl⟩

theorem sameElse_watchZone (s : Pad) (t : Touch) : SameElse s (s.watchZone t) := by
  rw [watchZone]
  split
  · exact s.sameElse_disableZone t
  · exact .refl s

/-! ### Messages, notices and properties -/

/-- The notice disables the touchpad. -/
def Stops (s : Pad) (device : ℕ) (notice : HIDNotice) : Prop :=
  notice.isPublish = true ∧ s.cfg.flag .usbMouseStopsTrackpad = true ∧
    0 < (s.attachedAfter device notice).length

instance (s : Pad) (device : ℕ) (notice : HIDNotice) : Decidable (s.Stops device notice) :=
  inferInstanceAs (Decidable (_ ∧ _))

/-- `ignoreall` is set and the LED follows. -/
theorem setIgnoreall_spec (s : Pad) (b : Bool) :
    SameElse s (updateTouchpadLED { s with ignoreall := b }) ∧
      (updateTouchpadLED { s with ignoreall := b }).ignoreall = b := by
  have hset : SameElse s { s with ignoreall := b } :=
    ⟨rfl, rfl, rfl, rfl, rfl, rfl, rfl, rfl, rfl⟩
  refine ⟨hset.trans (sameElse_updateTouchpadLED _), ?_⟩
  rw [updateTouchpadLED]
  split <;> rfl

theorem setDisableTouchpad_spec (s : Pad) (enable : Bool) :
    SameElse s (s.setDisableTouchpad enable) ∧
      (s.setDisableTouchpad enable).ignoreall = !enable := by
  rw [setDisableTouchpad]
  split
  · exact s.setIgnoreall_spec (!enable)
  · rename_i hne
    refine ⟨.refl s, ?_⟩
    revert hne
    cases enable <;> cases s.ignoreall <;> decide

theorem setIgnoreall_ite (s : Pad) (c : Prop) [Decidable c] (b : Bool) :
    SameElse s (if c then updateTouchpadLED { s with ignoreall := b } else s) ∧
      ((if c then updateTouchpadLED { s with ignoreall := b } else s).ignoreall = true →
        s.ignoreall = true ∨ c ∧ b = true) := by
  obtain ⟨hsame, hb⟩ := s.setIgnoreall_spec b
  split
  · rename_i hc
    exact ⟨hsame, fun h => .inr ⟨hc, hb.symm.trans h⟩⟩
  · exact ⟨.refl s, .inl⟩

/-- A notice changes nothing but `ignoreall`, and disables the touchpad only when it should. -/
theorem notification_spec (s : Pad) (device : ℕ) (notice : HIDNotice) :
    SameElse s (s.notificationHIDAttachedHandlerGated device notice) ∧
      ((s.notificationHIDAttachedHandlerGated device notice).ignoreall = true →
        s.ignoreall = true ∨ s.Stops device notice) := by
  have hadd : SameElse s { s with attached := s.attachedAfter device notice } :=
    ⟨rfl, rfl, rfl, rfl, rfl, rfl, rfl, rfl, rfl⟩
  have hset (c : Prop) [Decidable c] (b : Bool) :=
    setIgnoreall_ite { s with attached := s.attachedAfter device notice } c b
  cases notice with
  | usbPublish =>
      refine ⟨hadd.trans (hset _ true).1, fun h => ((hset _ true).2 h).imp_right (fun hc => ?_)⟩
      exact ⟨rfl, hc.1⟩
  | bluetoothPublish pointer =>
      refine ⟨hadd.trans (hset _ true).1, fun h => ((hset _ true).2 h).imp_right (fun hc => ?_)⟩
      exact ⟨rfl, hc.1⟩
  | usbTerminate =>
      refine ⟨hadd.trans (hset _ false).1, fun h => ((hset _ false).2 h).imp_right (fun hc => ?_)⟩
      exact absurd hc.2 Bool.false_ne_true
  | bluetoothTerminate =>
      refine ⟨hadd.trans (hset _ false).1, fun h => ((hset _ false).2 h).imp_right (fun hc => ?_)⟩
      exact absurd hc.2 Bool.false_ne_true

/-- Configuration, capabilities and mode are the same, and no momentum scroll has started. -/
structure SameMode (s s' : Pad) : Prop where
  cfg : s'.cfg = s.cfg
  caps : s'.caps = s.caps
  touchmode : s'.touchmode = s.touchmode
  interval : s'.momentum.interval = s.momentum.interval
  current : s.momentum.current = 0 → s'.momentum.current = 0

theorem SameMode.trans {s s' s'' : Pad} (h : SameMode s s') (h' : SameMode s' s'') :
    SameMode s s'' where
  cfg := h'.cfg.trans h.cfg
  caps := h'.caps.trans h.caps
  touchmode := h'.touchmode.trans h.touchmode
  interval := h'.interval.trans h.interval
  current := fun h0 => h'.current (h.current h0)

theorem SameMode.ite {s a b : Pad} {c : Prop} [Decidable c] (ha : SameMode s a)
    (hb : SameMode s b) : SameMode s (if c then a else b) := by
  split
  · exact ha
  · exact hb

theorem sameMode_of_touchCore {s s' : Pad} (h : s'.touchCore = s.touchCore) : SameMode s s' where
  cfg := congrArg TouchCore.cfg h
  caps := congrArg TouchCore.caps h
  touchmode := congrArg TouchCore.touchmode h
  interval := congrArg TouchCore.interval h
  current := (congrArg TouchCore.current h).trans

theorem sameMode_updateTouchpadLED (s : Pad) : SameMode s s.updateTouchpadLED :=
  .ite ⟨rfl, rfl, rfl, rfl, id⟩ ⟨rfl, rfl, rfl, rfl, id⟩

theorem sameMode_scrollMomentum {s : Pad} (h0 : s.momentum.current ≠ 0) (dy : ℤ) :
    SameMode s (s.scrollMomentum dy) := ⟨rfl, rfl, rfl, rfl, fun h => absurd h h0⟩

theorem sameMode_onScrollTimer (s : Pad) : SameMode s s.onScrollTimer := by
  by_cases h0 : s.momentum.current = 0
  · rw [onScrollTimer, if_pos h0]
    exact ⟨rfl, rfl, rfl, rfl, id⟩
  · have hdiv (ds : List ℤ) : SameMode s (s.dividing ds) := ⟨rfl, rfl, rfl, rfl, id⟩
    have hgo (ds : List ℤ) (dy : ℤ) : SameMode s ((s.dividing ds).scrollMomentum dy) :=
      (hdiv ds).trans (sameMode_scrollMomentum (s := s.dividing ds) h0 dy)
    rw [onScrollTimer, if_neg h0]
    refine .ite (hgo _ _) ?_
    exact ⟨rfl, rfl, rfl, rfl, fun _ => rfl⟩

theorem sameMode_onDragTimer (s : Pad) (now : UInt64) :
    SameMode { s with touchmode := .notouch } (s.onDragTimer now) := by
  have hcall : SameMode { s with touchmode := .notouch }
      (middleButton { s with touchmode := .notouch, dragArmed := false } s.lastbuttons now
        .passthru).1 := ⟨rfl, rfl, rfl, rfl, id⟩
  exact hcall.trans (sameMode_of_touchCore (touchCore_dispatchButtons _ _))

theorem sameMode_setDisableTouchpad (s : Pad) (enable : Bool) :
    SameMode s (s.setDisableTouchpad enable) := by
  rw [setDisableTouchpad]
  split
  · have h : SameMode s { s with ignoreall := !enable } := ⟨rfl, rfl, rfl, rfl, id⟩
    exact h.trans (sameMode_updateTouchpadLED _)
  · exact ⟨rfl, rfl, rfl, rfl, id⟩

theorem sameMode_notifyKeyPressed (s : Pad) (adbKeyCode : UInt8) (goingDown : Bool)
    (time : UInt64) : SameMode s (s.notifyKeyPressed adbKeyCode goingDown time) := by
  rw [notifyKeyPressed]
  split
  · split <;> exact ⟨rfl, rfl, rfl, rfl, id⟩
  · exact ⟨rfl, rfl, rfl, rfl, fun _ => rfl⟩

theorem sameMode_notification (s : Pad) (device : ℕ) (notice : HIDNotice) :
    SameMode s (s.notificationHIDAttachedHandlerGated device notice) := by
  have hadd : SameMode s { s with attached := s.attachedAfter device notice } := ⟨rfl, rfl, rfl, rfl, id⟩
  have hset (b : Bool) : SameMode s
      { s with attached := s.attachedAfter device notice, ignoreall := b } := ⟨rfl, rfl, rfl, rfl, id⟩
  have hled (b : Bool) := (hset b).trans (sameMode_updateTouchpadLED _)
  cases notice with
  | usbPublish => exact .ite (hled true) hadd
  | usbTerminate => exact .ite (hled false) hadd
  | bluetoothPublish pointer => exact .ite (hled true) hadd
  | bluetoothTerminate => exact .ite (hled false) hadd

theorem sameMode_setTouchpadModeByte (s : Pad) : SameMode s s.setTouchpadModeByte :=
  .ite ⟨rfl, rfl, rfl, rfl, id⟩ ⟨rfl, rfl, rfl, rfl, id⟩

theorem sameMode_initTouchPad (s : Pad) : SameMode s s.initTouchPad := by
  have hclear : SameMode s
      { s with
        passbuttons := 0
        clickbuttons := 0
        second := { s.second with tracksecondary := false }
        modifierdown := 0 } := ⟨rfl, rfl, rfl, rfl, id⟩
  exact (hclear.trans (sameMode_setTouchpadModeByte _)).trans (sameMode_updateTouchpadLED _)

/-- New properties: the configuration is read, and every touch is forgotten. -/
theorem setParamPropertiesGated_spec (s : Pad) (d : Dictionary) :
    SameMode { s with cfg := s.cfg.read d, touchmode := .notouch }
      (s.setParamPropertiesGated d) := by
  let read : Pad :=
    { s with cfg := s.cfg.read d, touchPadModeByte := s.modeByteAfter (s.cfg.read d) d }
  let sent : Pad :=
    if read.touchPadModeByte ≠ s.touchPadModeByte then read.setTouchpadModeByte else read
  have hsent : SameMode read sent :=
    .ite (sameMode_setTouchpadModeByte _) ⟨rfl, rfl, rfl, rfl, id⟩
  have hquiet : SameMode { s with cfg := s.cfg.read d, touchmode := .notouch }
      { sent with touchmode := .notouch } :=
    ⟨hsent.cfg, hsent.caps, rfl, hsent.interval, hsent.current⟩
  have hset (b : Bool) : SameMode { sent with touchmode := .notouch }
      { sent with touchmode := .notouch, ignoreall := b } := ⟨rfl, rfl, rfl, rfl, id⟩
  exact .ite (hquiet.trans ((hset _).trans (sameMode_updateTouchpadLED _))) hquiet

end Pad

end VoodooPS2.Synaptics
