import VoodooPS2.Lib.Transition
import VoodooPS2.Synaptics.TouchModes

/-! # Disabling the touchpad

While `ignoreall` is set, a packet ends before anything is dispatched.  A button that was reported
before is then released by nobody but the drag timer, and a button that the emulation holds back is
still reported by the button timer, and not released either.

`no_button_stuck`: if whenever the touchpad is disabled no button is reported (or the drag timer
will release it) and the emulation is neither waiting nor in the middle of a click, and if while it
is disabled neither the drag timer nor a packet with `w = 3` brings it a button, then no button is
stuck while it is disabled.  `button_stuck` is a click during which the touchpad is disabled. -/

namespace VoodooPS2

namespace MiddleButton

/-- The emulation holds nothing back and delivers no middle button. -/
def Quiet (m : MiddleButton) : Prop :=
  (m.mbuttonstate = .noButtons ∨ m.mbuttonstate = .noop) ∧ m.timerArmed = false

instance (m : MiddleButton) : Decidable m.Quiet := inferInstanceAs (Decidable (_ ∧ _))

/-- A call with `b` leaves the emulation quiet, and nothing is dispatched on the way. -/
def Quiets (m : MiddleButton) (b : UInt32) : Prop :=
  (m.mbuttonstate = .noop ∧ m.timerArmed = false) ∨
    (m.mbuttonstate = .noButtons ∧ m.timerArmed = false ∧ (b = 0 ∨ b &&& 0x4 ≠ 0)) ∨
    (m.mbuttonstate = .middle ∧ m.timerArmed = false ∧ b = 0) ∨
    (m.mbuttonstate = .wait4None ∧ b = 0)

instance (m : MiddleButton) (b : UInt32) : Decidable (m.Quiets b) :=
  inferInstanceAs (Decidable (_ ∨ _))

/-- The result of a call. -/
structure Hushed (r : MiddleButton × List ButtonEffect) : Prop where
  quiet : r.1.Quiet
  masks : dispatchedMasks r.2 = []

theorem modifyButtons_of_quiet {m : MiddleButton} (h : m.Quiet) (b : UInt32) :
    modifyButtons m.mbuttonstate b = b := by
  obtain ⟨hst | hst, -⟩ := h
  · rw [hst, modifyButtons]
  · rw [hst, modifyButtons]

theorem hushed_advance {m : MiddleButton} {b : UInt32} (h : m.Quiets b) {origin : MBComingFrom}
    (hc : origin ≠ .cancel) (ht : origin ≠ .timer) (now : UInt64) (timeout : Bool) :
    Hushed (m.advance b now timeout origin) := by
  rw [advance]
  rcases h with ⟨hst, ha⟩ | ⟨hst, ha, hb⟩ | ⟨hst, ha, rfl⟩ | ⟨hst, rfl⟩
  · simp only [hst]
    split
    · exact ⟨⟨.inl rfl, ha⟩, rfl⟩
    · exact ⟨⟨.inr hst, ha⟩, rfl⟩
  · simp only [hst, if_neg hc]
    split
    · exact ⟨⟨.inr rfl, ha⟩, rfl⟩
    · rename_i h4
      obtain rfl : b = 0 := hb.resolve_right h4
      exact ⟨⟨.inl hst, ha⟩, rfl⟩
  · simp only [hst]
    exact ⟨⟨.inl rfl, ha⟩, rfl⟩
  · simp only [hst, decide_eq_false ht]
    cases timeout
    · exact ⟨⟨.inl rfl, rfl⟩, rfl⟩
    · exact ⟨⟨.inl rfl, rfl⟩, rfl⟩

/-- The call when a finger goes down. -/
theorem hushed_cancel {m : MiddleButton} (h : m.Quiet) (b : UInt32) (now : UInt64)
    (timeout : Bool) : Hushed (m.advance b now timeout .cancel) := by
  rw [advance]
  obtain ⟨hst | hst, ha⟩ := h
  · simp only [hst]
    exact ⟨⟨.inl hst, ha⟩, rfl⟩
  · simp only [hst]
    split
    · exact ⟨⟨.inl rfl, ha⟩, rfl⟩
    · exact ⟨⟨.inr hst, ha⟩, rfl⟩

end MiddleButton

namespace Synaptics

open MiddleButton

namespace Pad

/-! ### Packets that nothing is dispatched for -/

/-- The emulation is quiet and no pointer event has been dispatched. -/
structure Silent (s s' : Pad) : Prop where
  quiet : s'.machine.Quiet
  masks : pointerMasks s'.log = pointerMasks s.log

theorem Silent.of_same {s s' s'' : Pad} (h : Silent s s') (hm : s''.machine = s'.machine)
    (hl : pointerMasks s''.log = pointerMasks s'.log) : Silent s s'' :=
  ⟨by rw [hm]; exact h.quiet, hl.trans h.masks⟩

theorem Silent.trans {s s' s'' : Pad} (h : Silent s s') (h' : Silent s' s'') : Silent s s'' :=
  ⟨h'.quiet, h'.masks.trans h.masks⟩

/-- The packet's buttons go to the emulation. -/
def callsEmulation (s : Pad) (p : PadPacket) : Prop :=
  (s.caps.clickpadtype = 0 ∨ p.w = 3) ∧ s.emulates (if p.w = 3 then .passthru else .device)

instance (s : Pad) (p : PadPacket) : Decidable (s.callsEmulation p) :=
  inferInstanceAs (Decidable (_ ∧ _))

/-- The packet's buttons leave the emulation quiet. -/
def QuietPacket (s : Pad) (p : PadPacket) : Prop :=
  (s.callsEmulation p ∧ s.machine.Quiets (s.physicalButtons p)) ∨
    (¬ s.callsEmulation p ∧ s.machine.Quiet)

instance (s : Pad) (p : PadPacket) : Decidable (s.QuietPacket p) :=
  inferInstanceAs (Decidable (_ ∨ _))

theorem silent_middleButton {s : Pad} {b : UInt32} {now : UInt64} {origin : MBComingFrom}
    (h : s.emulates origin → ∀ timeout, Hushed (s.machine.advance b now timeout origin))
    (hq : ¬ s.emulates origin → s.machine.Quiet) : Silent s (s.middleButton b now origin).1 := by
  by_cases hem : s.emulates origin
  · have hcalled : s.called b now origin = _ := if_pos hem
    have hush := h hem (s.machine.timedOut (s.cfg.time .maxmiddleclicktime) now origin)
    rw [middleButton, hcalled]
    refine ⟨hush.quiet, ?_⟩
    rw [pointerMasks_append, pointerMasks_relative]
    exact (congrArg _ hush.masks).trans (List.append_nil _)
  · have hcalled : s.called b now origin = _ := if_neg hem
    rw [middleButton, hcalled]
    exact ⟨hq hem, (pointerMasks_append _ _).trans (List.append_nil _)⟩

theorem silent_readButtons {s : Pad} {p : PadPacket} (h : s.QuietPacket p) (now : UInt64) :
    Silent s (s.readButtons p now).1 := by
  rw [readButtons]
  split
  · rename_i hc
    have hstored : Silent (s.storeButtons p) ((s.storeButtons p).middleButton (s.physicalButtons p)
        now (if p.w = 3 then .passthru else .device)).1 := by
      refine silent_middleButton (fun hem timeout => ?_) (fun hem => ?_)
      · rcases h with ⟨-, hq⟩ | ⟨hn, -⟩
        · refine hushed_advance hq ?_ ?_ now timeout
          · split <;> decide
          · split <;> decide
        · exact absurd ⟨hc, hem⟩ hn
      · rcases h with ⟨hcalls, -⟩ | ⟨-, hq⟩
        · exact absurd hcalls.2 hem
        · exact hq
    exact ⟨hstored.quiet, hstored.masks⟩
  · rename_i hc
    rcases h with ⟨hcalls, -⟩ | ⟨-, hq⟩
    · exact absurd hcalls.1 hc
    · exact ⟨hq, rfl⟩

theorem silent_fingerDown {s : Pad} (h : s.machine.Quiet) (p : PadPacket) (t : Touch)
    (b : UInt32) : Silent s (s.fingerDown p t b).1 := by
  rw [fingerDown]
  split
  · exact silent_middleButton (fun _ timeout => hushed_cancel h _ _ timeout) (fun _ => h)
  · exact ⟨h, rfl⟩

theorem silent_prepared {s : Pad} {p : PadPacket} (h : s.QuietPacket p) (now : UInt64) :
    Silent s (s.prepared p now).pad := by
  have hread := silent_readButtons h now
  rw [prepared]
  generalize s.readButtons p now = q at hread
  have hdiv : Silent s (q.1.dividing q.1.cfg.scaleDivisors) :=
    hread.of_same rfl (q.1.pointerMasks_dividing _)
  have hpos : Silent s (q.1.position p now q.2).pad :=
    (hdiv.trans (silent_fingerDown hdiv.quiet p (q.1.readTouch p now) q.2)).of_same rfl
      (pointerMasks_smooth _ _)
  rw [prepare]
  split
  · have haside := aside_clickPad (q.1.position p now q.2).pad p (q.1.position p now q.2).touch
      (q.1.position p now q.2).buttons
    exact hpos.of_same haside.machine haside.masks
  · exact hpos

/-- If the touchpad is disabled after a packet, the packet has dispatched nothing. -/
theorem sameElse_dispatchTouch {s : Pad} {t : Touch} {b : UInt32}
    (h : (s.dispatchTouch t b).ignoreall = true) : SameElse s (s.dispatchTouch t b) := by
  rw [dispatchTouch] at h ⊢
  by_cases hout : s.isOutsideZone t
  · rw [if_pos hout]
    exact .refl s
  rw [if_neg hout] at h ⊢
  by_cases hzone : s.zoneEnabled ∧ TouchMode.wait1release.code ≤ (s.watchZone t).touchmode.code
  · rw [if_pos hzone]
    exact s.sameElse_watchZone t
  rw [if_neg hzone] at h ⊢
  by_cases hig : (s.watchZone t).ignoreall = true
  · rw [if_pos hig]
    exact s.sameElse_watchZone t
  · rw [if_neg hig, ((s.watchZone t).sameButtons_handleTouch t b).ignoreall] at h
    exact absurd h hig

theorem silent_dispatch {s : Pad} {p : PadPacket} (hn : s.isNormal p) (h : s.QuietPacket p)
    {now : UInt64} (hi : (s.dispatchEventsWithPacket p now).ignoreall = true) :
    Silent s (s.dispatchEventsWithPacket p now) ∧
      (s.dispatchEventsWithPacket p now).dragArmed = s.dragArmed := by
  have hprep := silent_prepared h now
  have hcore := s.touchCore_prepared p now
  rw [dispatch_of_isNormal hn] at hi ⊢
  have hsame := sameElse_dispatchTouch hi
  refine ⟨hprep.of_same hsame.machine hsame.masks, ?_⟩
  exact hsame.dragArmed.trans (congrArg TouchCore.dragArmed hcore)

/-! ### What disables the touchpad -/

/-- The packet ends a double tap in the disable zone. -/
def Toggles (s : Pad) (t : Touch) : Prop :=
  s.zoneEnabled ∧ s.touchmode = .wait2release ∧ t.z < s.cfg.int .zFinger ∧
    t.now - s.touchtime < s.cfg.time .maxtaptime

instance (s : Pad) (t : Touch) : Decidable (s.Toggles t) := inferInstanceAs (Decidable (_ ∧ _))

theorem toggles_of_disableZone {s : Pad} {t : Touch} (hen : s.zoneEnabled)
    (h : (s.disableZone t).ignoreall ≠ s.ignoreall) : s.Toggles t := by
  rw [disableZone] at h
  split at h
  · split at h <;> exact absurd rfl h
  · split at h
    · split at h <;> exact absurd rfl h
    · split at h <;> exact absurd rfl h
  · split at h
    · split at h
      · split at h <;> exact absurd rfl h
      · exact absurd rfl h
    · exact absurd rfl h
  · rename_i hm
    split at h
    · rename_i hz
      split at h
      · rename_i ht
        exact ⟨hen, hm, hz, ht⟩
      · exact absurd rfl h
    · split at h <;> exact absurd rfl h
  · exact absurd rfl h

/-- A packet changes `ignoreall` only by a double tap in the disable zone. -/
theorem toggles_of_dispatchTouch {s : Pad} {t : Touch} {b : UInt32}
    (h : (s.dispatchTouch t b).ignoreall ≠ s.ignoreall) : s.Toggles t := by
  have hwatch (hne : (s.watchZone t).ignoreall ≠ s.ignoreall) : s.Toggles t := by
    rw [watchZone] at hne
    split at hne
    · rename_i hen
      exact toggles_of_disableZone hen hne
    · exact absurd rfl hne
  rw [dispatchTouch] at h
  split at h
  · exact absurd rfl h
  split at h
  · exact hwatch h
  split at h
  · exact hwatch h
  · rw [((s.watchZone t).sameButtons_handleTouch t b).ignoreall] at h
    exact hwatch h

theorem toggles_of_dispatch {s : Pad} {p : PadPacket} (hn : s.isNormal p) {now : UInt64}
    (h : (s.dispatchEventsWithPacket p now).ignoreall ≠ s.ignoreall) :
    s.Toggles (s.readTouch p now) := by
  have hcore := s.touchCore_prepared p now
  have hcfg : (s.prepared p now).pad.cfg = s.cfg := congrArg TouchCore.cfg hcore
  have hcaps : (s.prepared p now).pad.caps = s.caps := congrArg TouchCore.caps hcore
  have hmode : (s.prepared p now).pad.touchmode = s.touchmode := congrArg TouchCore.touchmode hcore
  have htime : (s.prepared p now).pad.touchtime = s.touchtime := congrArg TouchCore.touchtime hcore
  have hsame := s.same_prepared p now
  have hig : (s.prepared p now).pad.ignoreall = s.ignoreall := congrArg TouchCore.ignoreall hcore
  rw [dispatch_of_isNormal hn, ← hig] at h
  have ht := toggles_of_dispatchTouch h
  rw [Toggles, zoneEnabled, hcfg, hcaps, hmode, htime, hsame.z, hsame.now] at ht
  exact ht

/-- A quiet emulation returns the buttons as they are. -/
theorem buttons_middleButton {s : Pad} {b : UInt32} {now : UInt64} {origin : MBComingFrom}
    (h : (s.middleButton b now origin).1.machine.Quiet) : (s.middleButton b now origin).2 = b := by
  by_cases hem : s.emulates origin
  · have hcalled : s.called b now origin = _ := if_pos hem
    rw [middleButton, hcalled] at h ⊢
    exact modifyButtons_of_quiet h b
  · exact congrArg Called.buttons (if_neg hem)

theorem ignoreall_onDragTimer (s : Pad) (now : UInt64) :
    (s.onDragTimer now).ignoreall = s.ignoreall :=
  (congrArg TouchCore.ignoreall (touchCore_dispatchButtons _ _)).trans rfl

/-- The drag timer, with no physical button down and a quiet emulation: every button is
released. -/
theorem onDragTimer_spec {s : Pad} (h : s.machine.Quiet) (hl : s.lastbuttons = 0)
    (now : UInt64) :
    (s.onDragTimer now).machine.Quiet ∧
      pointerMasks (s.onDragTimer now).log = pointerMasks s.log ++ [0] := by
  have hquiets : s.machine.Quiets s.lastbuttons := by
    rw [hl]
    obtain ⟨hst | hst, ha⟩ := h
    · exact .inr (.inl ⟨hst, ha, .inl rfl⟩)
    · exact .inl ⟨hst, ha⟩
  have hc : MBComingFrom.passthru ≠ .cancel := by decide
  have hcall : Silent { s with touchmode := .notouch, dragArmed := false }
      (middleButton { s with touchmode := .notouch, dragArmed := false } s.lastbuttons now
        .passthru).1 :=
    silent_middleButton
      (fun _ timeout => hushed_advance hquiets hc (by decide) now timeout)
      (fun _ => h)
  have hbuttons := (buttons_middleButton hcall.quiet).trans hl
  rw [onDragTimer, hbuttons, dispatchButtons, if_neg (fun hm => absurd hm.2.2 (by decide))]
  refine ⟨hcall.quiet, ?_⟩
  rw [dispatchRelative, emit, pointerMasks_append]
  exact congrArg (· ++ [0]) hcall.masks

end Pad

/-! ### Runs -/

/-- The driver, what it reported last, and whether a packet with no physical button down has come
since it was disabled. -/
structure DisableSession where
  pad : Pad
  lastMask : UInt32
  upSince : Bool

namespace DisableSession

open Pad

/-- A packet with no physical button down. -/
def isUp (k : DisableSession) : PadEvent → Bool
  | .packet p _ => p.buttonsraw = 0 ∧ (k.pad.caps.clickpadtype = 0 ∨ p.clickbuttons = 0)
  | _ => false

/-- Normal packets, armed timers, messages and notices. -/
def Enabled (k : DisableSession) : PadEvent → Prop
  | .packet p _ => k.pad.isNormal p
  | .buttonTimer _ => k.pad.machine.timerArmed = true
  | .dragTimer _ => k.pad.dragArmed = true
  | .setDisableTouchpad _ => True
  | .notification _ _ => True
  | _ => False

instance (k : DisableSession) (e : PadEvent) : Decidable (k.Enabled e) :=
  match e with
  | .packet _ _ => inferInstanceAs (Decidable (isNormal _ _))
  | .buttonTimer _ => inferInstanceAs (Decidable (_ = _))
  | .dragTimer _ => inferInstanceAs (Decidable (_ = _))
  | .setDisableTouchpad _ => inferInstanceAs (Decidable True)
  | .notification _ _ => inferInstanceAs (Decidable True)
  | .scrollTimer => inferInstanceAs (Decidable False)
  | .notifyKeyPressed _ _ _ => inferInstanceAs (Decidable False)
  | .setParamProperties _ => inferInstanceAs (Decidable False)
  | .wake => inferInstanceAs (Decidable False)

def after (k : DisableSession) (e : PadEvent) : DisableSession where
  pad := k.pad.handle e
  lastMask := (pointerMasks (k.pad.handle e).log).getLast?.getD k.lastMask
  upSince := k.pad.ignoreall && (k.pad.handle e).ignoreall && (k.upSince || k.isUp e)

def step (k : DisableSession) (e : PadEvent) : Option DisableSession :=
  if k.Enabled e then some (k.after e) else none

/-- While the touchpad is disabled no button is left down: if no timer is armed and the physical
buttons are up, none is reported. -/
def Released (k : DisableSession) : Prop :=
  k.pad.ignoreall = true → k.pad.machine.timerArmed = false → k.pad.dragArmed = false →
    k.upSince = true → k.lastMask = 0

instance (k : DisableSession) : Decidable k.Released := inferInstanceAs (Decidable (_ → _))

/-- No button is reported, or the drag timer will release it. -/
def Free (k : DisableSession) : Prop := k.lastMask = 0 ∨ k.pad.dragArmed = true

instance (k : DisableSession) : Decidable k.Free := inferInstanceAs (Decidable (_ ∨ _))

/-- The touchpad is disabled when no button is down, and stays so. -/
def Harmless (k : DisableSession) : PadEvent → Prop
  | .packet p now =>
      k.pad.ignoreall = true ∧ k.pad.QuietPacket p ∨
        k.pad.ignoreall = false ∧
          (k.pad.Toggles (k.pad.readTouch p now) → k.pad.QuietPacket p ∧ k.Free)
  | .dragTimer _ => k.pad.ignoreall = true → k.pad.lastbuttons = 0
  | .setDisableTouchpad enable =>
      k.pad.ignoreall = false → enable = false → k.pad.machine.Quiet ∧ k.Free
  | .notification device notice =>
      k.pad.ignoreall = false → k.pad.Stops device notice → k.pad.machine.Quiet ∧ k.Free
  | _ => True

instance (k : DisableSession) (e : PadEvent) : Decidable (k.Harmless e) :=
  match e with
  | .packet _ _ => inferInstanceAs (Decidable (_ ∨ _))
  | .dragTimer _ => inferInstanceAs (Decidable (_ → _))
  | .setDisableTouchpad _ => inferInstanceAs (Decidable (_ → _))
  | .notification _ _ => inferInstanceAs (Decidable (_ → _))
  | .buttonTimer _ => inferInstanceAs (Decidable True)
  | .scrollTimer => inferInstanceAs (Decidable True)
  | .notifyKeyPressed _ _ _ => inferInstanceAs (Decidable True)
  | .setParamProperties _ => inferInstanceAs (Decidable True)
  | .wake => inferInstanceAs (Decidable True)

/-- While the touchpad is disabled the emulation is quiet and every button is, or will be,
released. -/
def Inv (k : DisableSession) : Prop :=
  k.pad.ignoreall = true → k.pad.machine.Quiet ∧ k.Free

/-- An event that dispatches nothing leaves the session free. -/
theorem Free.after {k : DisableSession} (h : k.Free) {e : PadEvent}
    (hm : pointerMasks (k.pad.handle e).log = [])
    (hd : (k.pad.handle e).dragArmed = k.pad.dragArmed) : (k.after e).Free := by
  rcases h with h | h
  · refine .inl ?_
    change (pointerMasks _).getLast?.getD _ = _
    rw [hm]
    exact h
  · exact .inr (hd.trans h)

/-- An event that changes nothing but the mode and `ignoreall`. -/
theorem inv_of_sameElse {k : DisableSession} {e : PadEvent}
    (hs : SameElse { k.pad with log := [] } (k.pad.handle e))
    (h : (k.pad.handle e).ignoreall = true → k.pad.machine.Quiet ∧ k.Free) : (k.after e).Inv := by
  intro hi
  obtain ⟨hq, hf⟩ := h hi
  refine ⟨?_, hf.after hs.masks hs.dragArmed⟩
  change (k.pad.handle e).machine.Quiet
  rw [hs.machine]
  exact hq

theorem inv_packet {k : DisableSession} (hk : k.Inv) {p : PadPacket} {now : UInt64}
    (hn : k.pad.isNormal p) (hg : k.Harmless (.packet p now)) : (k.after (.packet p now)).Inv := by
  intro hi
  have hn' : isNormal { k.pad with log := [] } p := hn
  have hquiet : QuietPacket { k.pad with log := [] } p ∧ k.Free := by
    rcases hg with ⟨hig, hq⟩ | ⟨hig, hg⟩
    · exact ⟨hq, (hk hig).2⟩
    · refine hg (toggles_of_dispatch hn' (fun heq => ?_))
      exact absurd (hi.symm.trans (heq.trans hig)) nofun
  obtain ⟨hs, hd⟩ := silent_dispatch hn' hquiet.1 hi
  exact ⟨hs.quiet, hquiet.2.after hs.masks hd⟩

theorem inv_dragTimer {k : DisableSession} (hk : k.Inv) {now : UInt64}
    (hg : k.Harmless (.dragTimer now)) : (k.after (.dragTimer now)).Inv := by
  intro hi
  have hig : k.pad.ignoreall = true :=
    (ignoreall_onDragTimer { k.pad with log := [] } now).symm.trans hi
  obtain ⟨hq, hmasks⟩ := onDragTimer_spec (s := { k.pad with log := [] }) (hk hig).1 (hg hig) now
  refine ⟨hq, .inl ?_⟩
  change (pointerMasks (onDragTimer { k.pad with log := [] } now).log).getLast?.getD _ = _
  rw [hmasks]
  rfl

theorem inv_step {k k' : DisableSession} {e : PadEvent} (hk : k.Inv) (hg : k.Harmless e)
    (hs : k.step e = some k') : k'.Inv := by
  obtain ⟨hen, hs⟩ := Option.ite_none_right_eq_some.mp hs
  cases hs
  cases e with
  | packet p now => exact inv_packet hk hen hg
  | buttonTimer now =>
      intro hi
      have hig : k.pad.ignoreall = true := hi
      exact absurd (hen.symm.trans (hk hig).1.2) nofun
  | dragTimer now => exact inv_dragTimer hk hg
  | setDisableTouchpad enable =>
      obtain ⟨hs, he⟩ := setDisableTouchpad_spec { k.pad with log := [] } enable
      refine inv_of_sameElse hs (fun hi => ?_)
      cases hig : k.pad.ignoreall with
      | true => exact hk hig
      | false => exact hg hig (Bool.not_eq_true' enable ▸ he.symm.trans hi)
  | notification device notice =>
      obtain ⟨hs, he⟩ := notification_spec { k.pad with log := [] } device notice
      refine inv_of_sameElse hs (fun hi => ?_)
      rcases he hi with hig | hstop
      · exact hk hig
      · cases hig : k.pad.ignoreall with
        | true => exact hk hig
        | false => exact hg hig hstop
  | scrollTimer => exact hen.elim
  | notifyKeyPressed adbKeyCode goingDown time => exact hen.elim
  | setParamProperties d => exact hen.elim
  | wake => exact hen.elim

theorem Inv.released {k : DisableSession} (h : k.Inv) : k.Released := by
  intro hi _ hd _
  rcases (h hi).2 with h0 | hd'
  · exact h0
  · exact absurd (hd.symm.trans hd') nofun

/-- The driver as it is started. -/
def started (cfg : Config) (caps : Capabilities) : DisableSession := ⟨.initial cfg caps, 0, false⟩

/-- **No button is stuck** while the touchpad is disabled, if it is only disabled while no button is
down, and if none comes down in the emulation before it is enabled again. -/
theorem no_button_stuck (cfg : Config) (caps : Capabilities) (es : List PadEvent)
    (k : DisableSession) (hg : Transition.Guarded step Harmless (started cfg caps) es)
    (hr : Transition.run step (started cfg caps) es = some k) : k.Released := by
  have h0 : (started cfg caps).Inv := fun hi => absurd hi nofun
  exact (Transition.run_invariant_of_guarded (fun s e s' hi hg hs => inv_step hi hg hs) es h0 hg
    hr).released

/-- The left button is clicked, the touchpad is disabled, and a packet comes. -/
def clickThenDisable : List PadEvent :=
  [.packet (padPacket 1 0 0 0) 1000, .packet (padPacket 0 0 0 0) 2000, .setDisableTouchpad false,
    .packet (padPacket 0 0 0 0) 3000]

theorem no_button_stuck_click :
    ∃ k, Transition.run step (started .init plainCaps) clickThenDisable = some k ∧
      k.upSince = true ∧ k.Released := by
  have hex : (Transition.run step (started .init plainCaps) clickThenDisable).any
      (fun k => k.upSince) = true := by decide +kernel
  obtain ⟨k, hk, hup⟩ := (Option.any_eq_true _ _).mp hex
  exact ⟨k, hk, hup, no_button_stuck .init plainCaps clickThenDisable k (by decide +kernel) hk⟩

/-- The touchpad is disabled before the left button is released. -/
def disableInClick : List PadEvent :=
  [.packet (padPacket 1 0 0 0) 1000, .setDisableTouchpad false, .packet (padPacket 0 0 0 0) 2000]

theorem button_stuck :
    ¬ ∀ k, Transition.run step (started .init plainCaps) disableInClick = some k → k.Released := by
  intro h
  have hex : (Transition.run step (started .init plainCaps) disableInClick).any
      (fun k => decide ¬ k.Released) = true := by decide +kernel
  obtain ⟨k, hk, hn⟩ := (Option.any_eq_true _ _).mp hex
  exact of_decide_eq_true hn (h k hk)

end DisableSession

end Synaptics

end VoodooPS2
