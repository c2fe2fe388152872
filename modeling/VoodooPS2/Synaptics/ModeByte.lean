import VoodooPS2.Synaptics.Start

/-! # The format of packets and the mode byte

`_extendedwmode` is what the driver takes the format of packets to be, bit 2 of `_touchPadModeByte`
what it has programmed.  `setModeByte` and `setTouchpadModeByte` change both, and
`setParamPropertiesGated` may change the bit alone; it then calls `setTouchpadModeByte`, because the
byte is not the same as before.

`Pad.KeepsFormat` is what every operation of the driver does to the two, and to the bit of W mode;
`Pad.format_matches` is the law for runs, from `init` on. -/

namespace VoodooPS2.Synaptics

namespace Pad

/-- The format of packets is the one that has been programmed. -/
def Formatted (s : Pad) : Prop := s.extendedwmode = true ↔ s.touchPadModeByte &&& 0x4 ≠ 0

/-- W mode has been programmed. -/
def WMode (s : Pad) : Prop := s.touchPadModeByte &&& 0x1 ≠ 0

/-- The programmed format stays the one in mind, and W mode is not switched off. -/
structure KeepsFormat (s s' : Pad) : Prop where
  format : s.Formatted → s'.Formatted
  wmode : s.WMode → s'.WMode

theorem KeepsFormat.refl (s : Pad) : KeepsFormat s s := ⟨id, id⟩

theorem KeepsFormat.trans {s s' s'' : Pad} (h : KeepsFormat s s') (h' : KeepsFormat s' s'') :
    KeepsFormat s s'' := ⟨h'.format ∘ h.format, h'.wmode ∘ h.wmode⟩

theorem KeepsFormat.ite {s a b : Pad} {c : Prop} [Decidable c] (ha : KeepsFormat s a)
    (hb : KeepsFormat s b) : KeepsFormat s (if c then a else b) := by
  split
  · exact ha
  · exact hb

theorem keepsFormat_of_buttonCore {s s' : Pad} (h : s'.buttonCore = s.buttonCore) :
    KeepsFormat s s' := by
  have hmode : s'.extendedwmode = s.extendedwmode := congrArg ButtonCore.extendedwmode h
  have hbyte : s'.touchPadModeByte = s.touchPadModeByte := congrArg ButtonCore.touchPadModeByte h
  refine ⟨fun ha => ?_, fun hw => ?_⟩
  · rw [Formatted, hmode, hbyte]
    exact ha
  · rw [WMode, hbyte]
    exact hw

/-! ### The bits -/

theorem wbit_set (v : UInt8) : (v ||| 0x1) &&& 0x1 ≠ 0 := by
  have h : ∀ b : BitVec 8, (b ||| 0x1#8) &&& 0x1#8 ≠ 0#8 := by decide
  exact fun hv => h v.toBitVec (congrArg UInt8.toBitVec hv)

/-- Bit 2 is set if `on` holds, and cleared otherwise. -/
def formatByte (v : UInt8) (on : Prop) [Decidable on] : UInt8 :=
  if on then v ||| 0x4 else v &&& ~~~0x4

theorem formatByte_bit (v : UInt8) (on : Prop) [Decidable on] :
    formatByte v on &&& 0x4 ≠ 0 ↔ on := by
  rw [formatByte]
  split
  · exact iff_of_true (bit_set v) ‹on›
  · exact iff_of_false (not_not_intro (bit_clear v)) ‹¬ on›

theorem formatByte_wbit (v : UInt8) (on : Prop) [Decidable on] :
    formatByte v on &&& 0x1 = v &&& 0x1 := by
  have hmask : ∀ b : BitVec 8,
      (b ||| 0x4#8) &&& 0x1#8 = b &&& 0x1#8 ∧ (b &&& ~~~0x4#8) &&& 0x1#8 = b &&& 0x1#8 := by decide
  rw [formatByte]
  split
  · exact UInt8.eq_of_toBitVec_eq (hmask v.toBitVec).1
  · exact UInt8.eq_of_toBitVec_eq (hmask v.toBitVec).2

/-- The mode and its bit are changed together. -/
theorem keepsFormat_together {s s' : Pad} (on : Prop) [Decidable on]
    (hmode : s'.extendedwmode = true ↔ on)
    (hbyte : s'.touchPadModeByte = formatByte s.touchPadModeByte on) : KeepsFormat s s' := by
  refine ⟨fun _ => ?_, fun hw => ?_⟩
  · rw [Formatted, hmode, hbyte]
    exact (formatByte_bit _ on).symm
  · rw [WMode, hbyte, formatByte_wbit]
    exact hw

/-! ### What switches the mode -/

theorem keepsFormat_setModeByte (s : Pad) : KeepsFormat s s.setModeByte :=
  .ite (.refl s) (keepsFormat_together (s.clickbuttons ≠ 0) decide_eq_true_iff rfl)

theorem keepsFormat_setTouchpadModeByte (s : Pad) : KeepsFormat s s.setTouchpadModeByte :=
  .ite ⟨id, id⟩ (keepsFormat_together (s.caps.extendedwmodeSupported = true) Iff.rfl rfl)

theorem clickRule_keepsFormat : ClickRule KeepsFormat where
  refl := KeepsFormat.refl
  trans := KeepsFormat.trans
  modeByte := keepsFormat_setModeByte
  clickbuttons := fun _ _ => ⟨id, id⟩
  buttonState := fun _ _ => ⟨id, id⟩
  clickedprimary := fun _ _ => ⟨id, id⟩
  lastbuttons := fun _ _ => ⟨id, id⟩

/-! ### Packets -/

theorem keepsFormat_trackSecond (s : Pad) (p : PadPacket) (t : Touch) (b : UInt32) :
    KeepsFormat s (s.trackSecond p t b) := by
  have hmove : KeepsFormat s (s.moveSecond t b) := .ite ⟨id, id⟩ ⟨id, id⟩
  have hbuttons (r : Pad) (b : UInt32) : KeepsFormat r (r.dispatchButtons b) :=
    keepsFormat_of_buttonCore (r.buttonCore_dispatchButtons b)
  rw [trackSecond]
  refine .ite (.ite hmove (.refl s)) (.ite ?_ (hbuttons s b))
  exact (clickRule_keepsFormat.clickSecond s p t b).trans (hbuttons _ _)

theorem keepsFormat_dispatchEventsWithPacketEW (s : Pad) (p : PadPacket) (now : UInt64) :
    KeepsFormat s (s.dispatchEventsWithPacketEW p now) := by
  have hfilter : KeepsFormat s (s.secondFiltered p now).1 := ⟨id, id⟩
  have hsave (r : Pad) (t : Touch) : KeepsFormat r { r with second := r.second.save t } := ⟨id, id⟩
  refine .ite (.refl s) (.ite (.refl s) (.ite ⟨id, id⟩ (.ite hfilter ?_)))
  exact (hfilter.trans (keepsFormat_trackSecond _ p _ _)).trans (hsave _ _)

theorem keepsFormat_dispatchEventsWithPacket (s : Pad) (p : PadPacket) (now : UInt64) :
    KeepsFormat s (s.dispatchEventsWithPacket p now) := by
  have hread : KeepsFormat s (s.readButtons p now).1 :=
    keepsFormat_of_buttonCore (s.buttonCore_readButtons p now)
  have hposition : KeepsFormat s
      ((s.readButtons p now).1.position p now (s.readButtons p now).2).pad :=
    hread.trans (keepsFormat_of_buttonCore (buttonCore_position _ p now _))
  have hprepared : KeepsFormat s (s.prepared p now).pad := by
    rw [prepared, prepare]
    split
    · exact hposition.trans (clickRule_keepsFormat.clickPad _ p _ _)
    · exact hposition
  refine .ite (s.keepsFormat_dispatchEventsWithPacketEW p now) (.ite ?_ ?_)
  · exact hread.trans (keepsFormat_of_buttonCore (buttonCore_passThrough _ p _))
  · exact hprepared.trans (keepsFormat_of_buttonCore (buttonCore_dispatchTouch _ _ _))

/-! ### Properties, power and the start -/

theorem keepsFormat_updateTouchpadLED (s : Pad) : KeepsFormat s s.updateTouchpadLED :=
  keepsFormat_of_buttonCore s.buttonCore_updateTouchpadLED

/-- What `UseHighRate` and W mode make of the mode byte. -/
def rateByte (s : Pad) (d : Dictionary) : UInt8 :=
  (match d "UseHighRate" with
    | some (.boolean b) =>
        if b then s.touchPadModeByte ||| 0x40 else s.touchPadModeByte &&& ~~~0x40
    | _ => s.touchPadModeByte) ||| 0x1

theorem modeByteAfter_eq (s : Pad) (cfg : Config) (d : Dictionary) :
    s.modeByteAfter cfg d =
      if cfg.bool .dynamicEW then s.rateByte d
      else formatByte (s.rateByte d) (s.caps.extendedwmodeSupported = true) := rfl

theorem modeByteAfter_wbit (s : Pad) (cfg : Config) (d : Dictionary) :
    s.modeByteAfter cfg d &&& 0x1 ≠ 0 := by
  rw [modeByteAfter_eq]
  split
  · exact wbit_set _
  · rw [formatByte_wbit]
    exact wbit_set _

/-- Without `DynamicEWMode`, a byte that is not changed has had the right format before. -/
theorem formatted_unchanged {s : Pad} (h : s.Formatted) {cfg : Config} (d : Dictionary)
    (hsame : s.modeByteAfter cfg d = s.touchPadModeByte) :
    Formatted { s with cfg := cfg, touchPadModeByte := s.modeByteAfter cfg d } := by
  rw [Formatted, hsame]
  exact h

/-- A changed byte is sent, and the format follows it unless it is dynamic. -/
theorem formatted_changed {s : Pad} (h : s.Formatted) (cfg : Config) (d : Dictionary) :
    (setTouchpadModeByte
      { s with cfg := cfg, touchPadModeByte := s.modeByteAfter cfg d }).Formatted := by
  by_cases hd : cfg.bool .dynamicEW = true
  · refine (keepsFormat_setTouchpadModeByte _).format ?_
    change s.extendedwmode = true ↔ s.modeByteAfter cfg d &&& 0x4 ≠ 0
    rw [modeByteAfter_of_dynamic s hd]
    exact h
  · rw [setTouchpadModeByte, if_neg hd]
    exact (formatByte_bit _ (s.caps.extendedwmodeSupported = true)).symm

theorem formatted_setParamPropertiesGated {s : Pad} (h : s.Formatted) (d : Dictionary) :
    (s.setParamPropertiesGated d).Formatted := by
  let read : Pad :=
    { s with cfg := s.cfg.read d, touchPadModeByte := s.modeByteAfter (s.cfg.read d) d }
  let sent : Pad :=
    if read.touchPadModeByte ≠ s.touchPadModeByte then read.setTouchpadModeByte else read
  have hsent : sent.Formatted := by
    by_cases hchange : read.touchPadModeByte = s.touchPadModeByte
    · rw [show sent = read from if_neg (not_not_intro hchange)]
      exact formatted_unchanged h d hchange
    · rw [show sent = read.setTouchpadModeByte from if_pos hchange]
      exact formatted_changed h _ d
  have hlast : KeepsFormat sent (s.setParamPropertiesGated d) :=
    keepsFormat_of_buttonCore (buttonCore_ite (buttonCore_updateTouchpadLED _) rfl)
  exact hlast.format hsent

/-- New properties switch W mode on. -/
theorem wmode_setParamPropertiesGated (s : Pad) (d : Dictionary) :
    (s.setParamPropertiesGated d).WMode := by
  let read : Pad :=
    { s with cfg := s.cfg.read d, touchPadModeByte := s.modeByteAfter (s.cfg.read d) d }
  let sent : Pad :=
    if read.touchPadModeByte ≠ s.touchPadModeByte then read.setTouchpadModeByte else read
  have hread : read.WMode := s.modeByteAfter_wbit _ d
  have hsent : KeepsFormat read sent := .ite (keepsFormat_setTouchpadModeByte _) (.refl _)
  have hlast : KeepsFormat sent (s.setParamPropertiesGated d) :=
    keepsFormat_of_buttonCore (buttonCore_ite (buttonCore_updateTouchpadLED _) rfl)
  exact hlast.wmode (hsent.wmode hread)

theorem keepsFormat_initTouchPad (s : Pad) : KeepsFormat s s.initTouchPad := by
  have hclear : KeepsFormat s
      { s with
        passbuttons := 0
        clickbuttons := 0
        second := { s.second with tracksecondary := false }
        modifierdown := 0 } := ⟨id, id⟩
  exact (hclear.trans (keepsFormat_setTouchpadModeByte _)).trans
    (keepsFormat_updateTouchpadLED _)

theorem keepsFormat_start (s : Pad) (q : Query) : KeepsFormat s (s.start q) := by
  let s' : Pad := { s with caps := { s.caps with hasDragTimer := s.cfg.time .dragexitdelay ≠ 0 } }
  have hquery : KeepsFormat s (s'.queryCapabilities q) := ⟨id, id⟩
  exact (hquery.trans (keepsFormat_setTouchpadModeByte _)).trans
    (keepsFormat_updateTouchpadLED _)

/-! ### Runs -/

theorem keepsFormat_react (s : Pad) (e : PadEvent) : KeepsFormat s (s.react e) := by
  cases e with
  | packet p now => exact s.keepsFormat_dispatchEventsWithPacket p now
  | buttonTimer now => exact ⟨id, id⟩
  | dragTimer now => exact keepsFormat_of_buttonCore (buttonCore_dispatchButtons _ _)
  | scrollTimer => exact keepsFormat_of_buttonCore s.buttonCore_onScrollTimer
  | setDisableTouchpad enable =>
      exact keepsFormat_of_buttonCore (buttonCore_ite (buttonCore_updateTouchpadLED _) rfl)
  | notifyKeyPressed adbKeyCode goingDown time =>
      exact keepsFormat_of_buttonCore (s.buttonCore_notifyKeyPressed adbKeyCode goingDown time)
  | notification device notice =>
      exact keepsFormat_of_buttonCore (s.buttonCore_notification device notice)
  | setParamProperties d =>
      exact ⟨fun h => formatted_setParamPropertiesGated h d, fun _ => s.wmode_setParamPropertiesGated d⟩
  | wake => exact s.keepsFormat_initTouchPad

theorem keepsFormat_act (s : Pad) (a : PadAction) : KeepsFormat s (s.act a) := by
  cases a with
  | start q => exact s.keepsFormat_start q
  | event e =>
      have hlog : KeepsFormat s { s with log := [] } := ⟨id, id⟩
      exact hlog.trans (keepsFormat_react _ e)

theorem keepsFormat_runActions (s : Pad) (actions : List PadAction) :
    KeepsFormat s (s.runActions actions) := by
  induction actions generalizing s with
  | nil => exact .refl s
  | cons a actions ih => exact (s.keepsFormat_act a).trans (ih (s.act a))

theorem formatted_created : created.Formatted :=
  iff_of_false Bool.false_ne_true (not_not_intro rfl)

/-- W mode is on from the first properties on. -/
theorem wmode_runActions (s : Pad) {actions : List PadAction} {d : Dictionary}
    (h : .event (.setParamProperties d) ∈ actions) : (s.runActions actions).WMode := by
  obtain ⟨before, after, rfl⟩ := List.append_of_mem h
  rw [runActions, List.foldl_append, List.foldl_cons]
  exact (keepsFormat_runActions _ after).wmode (wmode_setParamPropertiesGated _ d)

/-- **The driver's idea of the format of packets is what it has programmed**, from the first
properties on, whatever else happens. -/
theorem format_matches (actions : List PadAction) (d : Dictionary)
    (h : .event (.setParamProperties d) ∈ actions) :
    ((created.runActions actions).extendedwmode = true ↔
        (created.runActions actions).touchPadModeByte &&& 0x4 ≠ 0) ∧
      (created.runActions actions).touchPadModeByte &&& 0x1 ≠ 0 :=
  ⟨(keepsFormat_runActions created actions).format formatted_created, wmode_runActions created h⟩

/-- The driver of a ClickPad starts, and `DynamicEWMode` is switched on while it is in extended W
mode. -/
def dynamicWhileExtended : List PadAction :=
  [.event (.setParamProperties fun _ => none),
    .start ⟨fun _ => some (0xC0, 0x01, 0x20), 0x47, false, false⟩,
    .event (.setParamProperties fun name =>
      if name = "DynamicEWMode" then some (.boolean true) else none)]

theorem format_matches_dynamic :
    ((created.runActions dynamicWhileExtended).extendedwmode = true ↔
        (created.runActions dynamicWhileExtended).touchPadModeByte &&& 0x4 ≠ 0) ∧
      (created.runActions dynamicWhileExtended).touchPadModeByte &&& 0x1 ≠ 0 :=
  format_matches dynamicWhileExtended (fun _ => none) (.head _)

end Pad

end VoodooPS2.Synaptics
