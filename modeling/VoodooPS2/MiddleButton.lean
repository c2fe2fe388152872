import Mathlib.Tactic

/-! # Middle-button emulation (`middleButton` of the mouse and the touchpad driver)

Two buttons pressed together stand for the middle button.  A single button is therefore held
back for a while, to see whether the second one follows; after a middle click a single button
that is still down is held back the same way, to see whether it goes up.  A timer ends the
wait.  The two drivers have the same machine, `MiddleButton.call`; they differ in where calls
come from and in what they remember for the timer.

`Follows` relates the machine to the buttons of the last call, when these are none, one or both
of left and right, and `Moves` says what a call does then: `advance_reacts` is the call for a
packet, `advance_cancel` the one when a finger goes down, `call_timer` the one of the timer. -/

namespace VoodooPS2

/-- `mbuttonstate`. -/
inductive MButtonState where
  /-- no buttons down, waiting for something to happen -/
  | noButtons
  /-- both buttons down and delivering middle button -/
  | middle
  /-- waiting for second button to come down or timeout -/
  | wait4Two
  /-- was middle button, but one button now up, waiting for second to go up -/
  | wait4None
  | noop
deriving DecidableEq, Repr

/-- `MBComingFrom`; `device` is `fromMouse` or `fromTrackpad`. -/
inductive MBComingFrom where
  | passthru
  | timer
  | device
  | cancel
deriving DecidableEq, Repr

/-- What a call does besides changing its own state. -/
inductive ButtonEffect where
  /-- `dispatchRelativePointerEventX(0, 0, buttons, now)` -/
  | dispatch (buttons : UInt32)
  /-- `setTimerTimeout(_buttonTimer, …)` -/
  | setTimer
  /-- `cancelTimer(_buttonTimer)` -/
  | cancelTimer
deriving DecidableEq, Repr

/-- The masks dispatched by a list of effects. -/
def dispatchedMasks (effects : List ButtonEffect) : List UInt32 :=
  effects.filterMap (fun | .dispatch b => some b | _ => none)

structure MiddleButton where
  mbuttonstate : MButtonState
  pendingbuttons : UInt32
  buttontime : UInt64
  timerArmed : Bool
deriving DecidableEq, Repr

namespace MiddleButton

def initial : MiddleButton := ⟨.noButtons, 0, 0, false⟩

/-- Only a single button: delay it for a bit. -/
def startWait (buttons : UInt32) (now : UInt64) (st : MButtonState) :
    MiddleButton × List ButtonEffect :=
  (⟨st, buttons, now, true⟩, [.setTimer])

/-- The wait is over. -/
def stopWait (m : MiddleButton) (dispatch : Bool) (buttons : UInt32) (st : MButtonState) :
    MiddleButton × List ButtonEffect :=
  ({ m with mbuttonstate := st, pendingbuttons := 0, timerArmed := false },
    (if dispatch then [.dispatch (buttons ||| m.pendingbuttons)] else []) ++ [.cancelTimer])

/-- The state once the wait is over without a middle click. -/
def settled (buttons : UInt32) : MButtonState := if buttons = 0x0 then .noButtons else .noop

/-- The first switch of `middleButton`. -/
def advance (m : MiddleButton) (buttons : UInt32) (now : UInt64) (timeout : Bool)
    (origin : MBComingFrom) : MiddleButton × List ButtonEffect :=
  match m.mbuttonstate with
  | .noButtons =>
      if origin = .cancel then (m, [])
      else if buttons &&& 0x4 ≠ 0 then ({ m with mbuttonstate := .noop }, [])
      else if buttons = 0x3 then ({ m with mbuttonstate := .middle }, [])
      else if buttons ≠ 0x0 then startWait buttons now .wait4Two
      else (m, [])
  | .wait4Two =>
      if timeout = false ∧ buttons = 0x3 then m.stopWait false buttons .middle
      else if timeout = true ∨ buttons ≠ m.pendingbuttons then
        m.stopWait (decide (origin = .timer ∨ buttons &&& m.pendingbuttons = 0)) buttons
          (settled buttons)
      else (m, [])
  | .middle =>
      if buttons = 0x0 then ({ m with mbuttonstate := .noButtons }, [])
      else if buttons &&& 0x3 ≠ 0x3 then startWait buttons now .wait4None
      else (m, [])
  | .wait4None =>
      if timeout = false ∧ buttons = 0x0 then m.stopWait false buttons .noButtons
      else if timeout = true ∨ buttons ≠ m.pendingbuttons then
        m.stopWait (decide (origin = .timer)) buttons (settled buttons)
      else (m, [])
  | .noop => if buttons = 0x0 then ({ m with mbuttonstate := .noButtons }, []) else (m, [])

/-- The second switch: modify buttons after new state set. -/
def modifyButtons (st : MButtonState) (buttons : UInt32) : UInt32 :=
  match st with
  | .middle => 0x4
  | .wait4None => buttons &&& ~~~0x3
  | .wait4Two => buttons &&& ~~~0x3
  | .noButtons => buttons
  | .noop => buttons

/-- `now_ns - _buttontime > _maxmiddleclicktime`, or the timer or a finger ends the wait. -/
def timedOut (m : MiddleButton) (maxmiddleclicktime now : UInt64) (origin : MBComingFrom) : Bool :=
  origin = .timer || origin = .cancel || now - m.buttontime > maxmiddleclicktime

/-- A call of the machine: the state after it, what it did, and the buttons it returns. -/
structure Called where
  machine : MiddleButton
  effects : List ButtonEffect
  buttons : UInt32
deriving DecidableEq, Repr

/-- `middleButton(buttons, now_abs, from)`, with the emulation on. -/
def call (maxmiddleclicktime : UInt64) (m : MiddleButton) (buttons : UInt32) (now : UInt64)
    (origin : MBComingFrom) : Called :=
  let (m', effects) := m.advance buttons now (m.timedOut maxmiddleclicktime now origin) origin
  ⟨m', effects, modifyButtons m'.mbuttonstate buttons⟩

/-! ### Left and right buttons -/

/-- None, one or both of the left and the right button. -/
def LeftRight (b : UInt32) : Prop := b = 0 ∨ b = 1 ∨ b = 2 ∨ b = 3

instance (b : UInt32) : Decidable (LeftRight b) := inferInstanceAs (Decidable (_ ∨ _))

/-- The left or the right button alone. -/
def Single (b : UInt32) : Prop := b = 1 ∨ b = 2

instance (b : UInt32) : Decidable (Single b) := inferInstanceAs (Decidable (_ ∨ _))

theorem Single.ne_zero {b : UInt32} (h : Single b) : b ≠ 0 := by
  rcases h with rfl | rfl <;> decide

theorem Single.leftRight {b : UInt32} (h : Single b) : LeftRight b := by
  rcases h with rfl | rfl <;> decide

/-- Two different single buttons. -/
theorem LeftRight.other {b held : UInt32} (hb : LeftRight b) (hs : Single held) (h0 : b ≠ 0)
    (hd : b &&& held = 0) : b ||| held = 3 ∧ Single b := by
  rcases hb with rfl | rfl | rfl | rfl <;> rcases hs with rfl | rfl <;> revert h0 hd <;> decide

/-- The machine after a call with `held`. -/
inductive Follows : MiddleButton → UInt32 → Prop
  | noButtons (p : UInt32) (t : UInt64) : Follows ⟨.noButtons, p, t, false⟩ 0
  | wait4Two {b : UInt32} (h : Single b) (t : UInt64) : Follows ⟨.wait4Two, b, t, true⟩ b
  | middle (p : UInt32) (t : UInt64) : Follows ⟨.middle, p, t, false⟩ 3
  | wait4None {b : UInt32} (h : Single b) (t : UInt64) : Follows ⟨.wait4None, b, t, true⟩ b
  | noop {b : UInt32} (h : b ≠ 0) (p : UInt32) (t : UInt64) : Follows ⟨.noop, p, t, false⟩ b

theorem follows_initial : Follows initial 0 := .noButtons 0 0

theorem modifyButtons_wait {b : UInt32} (hb : LeftRight b) : b &&& ~~~0x3 = 0 := by
  rcases hb with rfl | rfl | rfl | rfl <;> decide

/-- While the timer is armed the buttons are held back. -/
theorem Follows.modifyButtons_of_armed {m : MiddleButton} {b : UInt32} (h : Follows m b)
    (ha : m.timerArmed = true) : modifyButtons m.mbuttonstate b = 0 := by
  cases h with
  | noButtons p t => cases ha
  | wait4Two hs t => exact modifyButtons_wait hs.leftRight
  | middle p t => cases ha
  | wait4None hs t => exact modifyButtons_wait hs.leftRight
  | noop _ p t => cases ha

theorem Follows.up {m : MiddleButton} (h : Follows m 0) : m.mbuttonstate = .noButtons := by
  cases h with
  | noButtons p t => rfl
  | wait4Two hs t => exact absurd rfl hs.ne_zero
  | wait4None hs t => exact absurd rfl hs.ne_zero
  | noop h p t => exact absurd rfl h

theorem Follows.down {m : MiddleButton} {held : UInt32} (h : Follows m held) (h0 : held ≠ 0) :
    m.mbuttonstate ≠ .noButtons := by
  cases h with
  | noButtons p t => exact absurd rfl h0
  | _ => nofun

/-- What a call does to a machine that was last called with `held`: the state it leads from and
to, and the masks it dispatches on the way. -/
inductive Moves (held b : UInt32) : MButtonState → MButtonState → List UInt32 → Prop
  | rest (st : MButtonState) (h : b = held) : Moves held b st st []
  | press (h : Single b) : Moves held b .noButtons .wait4Two []
  | both (st : MButtonState) (h : b = 3) (hst : st = .noButtons ∨ st = .wait4Two) :
      Moves held b st .middle []
  | click (h : b = 0) {masks : List UInt32} (hm : masks = [held]) :
      Moves held b .wait4Two .noButtons masks
  | change (h : b ||| held = 3) (hb : Single b) {masks : List UInt32} (hm : masks = [3]) :
      Moves held b .wait4Two .noop masks
  | settle (st : MButtonState) (h : b ≠ 0) : Moves held b st .noop []
  | part (h : Single b) : Moves held b .middle .wait4None []
  | release (st : MButtonState) (h : b = 0) (hst : st ≠ .wait4Two) : Moves held b st .noButtons []

/-- The machine follows `b` after the call and moved as described. -/
def Reacts (m : MiddleButton) (held b : UInt32) (r : MiddleButton × List ButtonEffect) : Prop :=
  Follows r.1 b ∧ Moves held b m.mbuttonstate r.1.mbuttonstate (dispatchedMasks r.2)

section
variable {b : UInt32} {origin : MBComingFrom} {p : UInt32}
  (now t : UInt64) (timeout : Bool)

theorem advance_noButtons (hb : LeftRight b) (hc : origin ≠ .cancel) :
    Reacts ⟨.noButtons, p, t, false⟩ 0 b
      (advance ⟨.noButtons, p, t, false⟩ b now timeout origin) := by
  rw [advance, if_neg hc]
  rcases hb with rfl | rfl | rfl | rfl
  · exact ⟨.noButtons _ _, .rest _ rfl⟩
  · exact ⟨.wait4Two (.inl rfl) _, .press (.inl rfl)⟩
  · exact ⟨.wait4Two (.inr rfl) _, .press (.inr rfl)⟩
  · exact ⟨.middle _ _, .both _ rfl (.inl rfl)⟩

theorem advance_wait4Two {held : UInt32} (hb : LeftRight b) (hs : Single held)
    (ht : origin ≠ .timer) :
    Reacts ⟨.wait4Two, held, t, true⟩ held b
      (advance ⟨.wait4Two, held, t, true⟩ b now timeout origin) := by
  simp only [advance]
  split
  · rename_i h
    rw [h.2]
    exact ⟨.middle _ _, .both _ rfl (.inr rfl)⟩
  · split
    · by_cases h0 : b = 0
      · rw [h0, UInt32.zero_and, decide_eq_true (.inr rfl)]
        exact ⟨.noButtons _ _, .click rfl (by simp [stopWait, dispatchedMasks])⟩
      · rw [settled, if_neg h0]
        refine ⟨.noop h0 _ _, ?_⟩
        by_cases hd : b &&& held = 0
        · rw [decide_eq_true (.inr hd)]
          obtain ⟨hor, hb⟩ := hb.other hs h0 hd
          exact .change hor hb (by simp [stopWait, dispatchedMasks, hor])
        · rw [decide_eq_false (not_or.mpr ⟨ht, hd⟩)]
          exact .settle _ h0
    · rename_i h
      obtain rfl := of_not_not (not_or.mp h).2
      exact ⟨.wait4Two hs _, .rest _ rfl⟩

theorem advance_middle (hb : LeftRight b) :
    Reacts ⟨.middle, p, t, false⟩ 3 b (advance ⟨.middle, p, t, false⟩ b now timeout origin) := by
  rcases hb with rfl | rfl | rfl | rfl
  · exact ⟨.noButtons _ _, .release _ rfl nofun⟩
  · exact ⟨.wait4None (.inl rfl) _, .part (.inl rfl)⟩
  · exact ⟨.wait4None (.inr rfl) _, .part (.inr rfl)⟩
  · exact ⟨.middle _ _, .rest _ rfl⟩

theorem advance_wait4None {held : UInt32} (hb : LeftRight b) (hs : Single held)
    (ht : origin ≠ .timer) :
    Reacts ⟨.wait4None, held, t, true⟩ held b
      (advance ⟨.wait4None, held, t, true⟩ b now timeout origin) := by
  simp only [advance, decide_eq_false ht]
  by_cases h0 : b = 0
  · subst h0
    rcases hs with rfl | rfl <;> cases timeout <;>
      exact ⟨.noButtons _ _, .release _ rfl nofun⟩
  · rw [if_neg (fun h => h0 h.2)]
    split
    · rw [stopWait, settled, if_neg h0]
      exact ⟨.noop h0 _ _, .settle _ h0⟩
    · rename_i h
      obtain rfl := of_not_not (not_or.mp h).2
      exact ⟨.wait4None hs _, .rest _ rfl⟩

theorem advance_noop {held : UInt32} :
    Reacts ⟨.noop, p, t, false⟩ held b
      (advance ⟨.noop, p, t, false⟩ b now timeout origin) := by
  simp only [advance]
  by_cases h0 : b = 0
  · rw [if_pos h0, h0]
    exact ⟨.noButtons _ _, .release _ rfl nofun⟩
  · rw [if_neg h0]
    exact ⟨.noop h0 _ _, .settle _ h0⟩

end

/-- A call for a packet of the device. -/
theorem advance_reacts {m : MiddleButton} {held b : UInt32} (h : Follows m held)
    (hb : LeftRight b) {origin : MBComingFrom} (hc : origin ≠ .cancel) (ht : origin ≠ .timer)
    (now : UInt64) (timeout : Bool) : Reacts m held b (m.advance b now timeout origin) := by
  cases h with
  | noButtons p t => exact advance_noButtons _ _ _ hb hc
  | wait4Two hs t => exact advance_wait4Two _ _ _ hb hs ht
  | middle p t => exact advance_middle _ _ _ hb
  | wait4None hs t => exact advance_wait4None _ _ _ hb hs ht
  | noop _ p t => exact advance_noop _ _ _

theorem Follows.not_armed {m : MiddleButton} (h : Follows m 0) : m.timerArmed = false := by
  cases h with
  | noButtons p t => rfl
  | wait4Two hs t => exact absurd rfl hs.ne_zero
  | wait4None hs t => exact absurd rfl hs.ne_zero
  | noop h p t => rfl

/-- A single button is pressed: it is held back. -/
theorem call_press {m : MiddleButton} {b : UInt32} (h : Follows m 0) (hs : Single b)
    (maxTime now : UInt64) :
    call maxTime m b now .device = ⟨⟨.wait4Two, b, now, true⟩, [.setTimer], 0⟩ := by
  have h4 : b &&& 0x4 = 0 ∧ b ≠ 0x3 := by rcases hs with rfl | rfl <;> decide
  have hadv (t : Bool) :
      m.advance b now t .device = (⟨.wait4Two, b, now, true⟩, [.setTimer]) := by
    simp only [advance, h.up]
    rw [if_neg nofun, if_neg (not_not.mpr h4.1), if_neg h4.2, if_pos hs.ne_zero]
    rfl
  rw [call, hadv]
  exact congrArg (Called.mk _ _) (modifyButtons_wait hs.leftRight)

/-- A second call for the same packet, when a finger goes down: it ends a wait, in silence. -/
theorem advance_cancel {m : MiddleButton} {held : UInt32} (h : Follows m held) (now : UInt64) :
    Follows (m.advance held now true .cancel).1 held ∧
      dispatchedMasks (m.advance held now true .cancel).2 = [] ∧
      ((m.advance held now true .cancel).1.mbuttonstate = m.mbuttonstate ∨
        held ≠ 0 ∧ (m.mbuttonstate = .wait4Two ∨ m.mbuttonstate = .wait4None) ∧
          (m.advance held now true .cancel).1.mbuttonstate = .noop) := by
  cases h with
  | noButtons p t => exact ⟨.noButtons _ _, rfl, .inl rfl⟩
  | wait4Two hs t =>
      simp only [advance, UInt32.and_self, settled, if_neg hs.ne_zero]
      rw [decide_eq_false (not_or.mpr ⟨nofun, hs.ne_zero⟩)]
      exact ⟨.noop hs.ne_zero _ _, rfl, .inr ⟨hs.ne_zero, .inl trivial, rfl⟩⟩
  | middle p t => exact ⟨.middle _ _, rfl, .inl rfl⟩
  | wait4None hs t =>
      simp only [advance, settled, if_neg hs.ne_zero]
      exact ⟨.noop hs.ne_zero _ _, rfl, .inr ⟨hs.ne_zero, .inr trivial, rfl⟩⟩
  | noop h0 p t =>
      simp only [advance, if_neg h0]
      exact ⟨.noop h0 _ _, rfl, .inl trivial⟩

/-- The armed timer ends a wait and dispatches what was held back, with the buttons it is
called with. -/
theorem call_timer {m : MiddleButton} {held : UInt32} (h : Follows m held)
    (ha : m.timerArmed = true) (b : UInt32) (maxTime now : UInt64) :
    Single held ∧ (m.mbuttonstate = .wait4Two ∨ m.mbuttonstate = .wait4None) ∧
      call maxTime { m with timerArmed := false } b now .timer =
        ⟨⟨settled b, 0, m.buttontime, false⟩, [.dispatch (b ||| held), .cancelTimer],
          modifyButtons (settled b) b⟩ := by
  cases h with
  | noButtons p t => cases ha
  | wait4Two hs t => exact ⟨hs, .inl rfl, by simp [call, timedOut, advance, stopWait]⟩
  | middle p t => cases ha
  | wait4None hs t => exact ⟨hs, .inr rfl, by simp [call, timedOut, advance, stopWait]⟩
  | noop _ p t => cases ha

/-- A move that ends in a wait dispatches nothing. -/
theorem Moves.masks_of_wait {held b : UInt32} {st st' : MButtonState} {masks : List UInt32}
    (h : Moves held b st st' masks) (hst : st' = .wait4Two ∨ st' = .wait4None) : masks = [] := by
  cases h with
  | click _ _ => simp at hst
  | change _ _ _ => simp at hst
  | _ => rfl

/-- The two calls for a packet with which a finger goes down, taken together. -/
theorem Reacts.cancel {m : MiddleButton} {held b : UInt32} {r : MiddleButton × List ButtonEffect}
    (h : Reacts m held b r) (now : UInt64) :
    Reacts m held b
      ((r.1.advance b now true .cancel).1, r.2 ++ (r.1.advance b now true .cancel).2) := by
  obtain ⟨hf, hm, hst⟩ := advance_cancel h.1 now
  refine ⟨hf, ?_⟩
  have happ : dispatchedMasks (r.2 ++ (r.1.advance b now true .cancel).2) = dispatchedMasks r.2 := by
    rw [dispatchedMasks, List.filterMap_append, ← dispatchedMasks, ← dispatchedMasks, hm,
      List.append_nil]
  rw [happ]
  rcases hst with hst | ⟨h0, hw, hst⟩
  · rw [hst]
    exact h.2
  · rw [hst, h.2.masks_of_wait hw]
    exact .settle _ h0

end MiddleButton

/-! ### What has been reported for the buttons that are held -/

/-- The physical buttons that are down, which of them have been reported since this set is
down, and whether any button has been reported since the buttons were all up. -/
structure Hold where
  held : UInt32
  reported : UInt32
  seen : Bool
deriving DecidableEq, Repr

namespace Hold

open MiddleButton

def initial : Hold := ⟨0, 0, false⟩

/-- What has been reported for the set `b` before the masks of a step with this set. -/
def kept (h : Hold) (b : UInt32) : UInt32 := if b = h.held then h.reported else 0

/-- A step with the physical buttons `b`, and the masks it reports. -/
def after (h : Hold) (b : UInt32) (masks : List UInt32) : Hold where
  held := b
  reported := masks.foldl (fun r m => r ||| (m &&& b)) (h.kept b)
  seen := decide (b ≠ 0) && (h.seen || masks.any (fun m => m ≠ 0))

/-- Every mask contains what was reported before it for the set `b`. -/
def Keeps (b : UInt32) : UInt32 → List UInt32 → Prop
  | _, [] => True
  | r, m :: ms => r &&& m = r ∧ Keeps b (r ||| (m &&& b)) ms

instance decidableKeeps (b : UInt32) : (r : UInt32) → (ms : List UInt32) → Decidable (Keeps b r ms)
  | _, [] => inferInstanceAs (Decidable True)
  | r, m :: ms =>
      haveI := decidableKeeps b (r ||| (m &&& b)) ms
      inferInstanceAs (Decidable (_ ∧ _))

/-- A step reports faithfully: it takes nothing back while the set of buttons is the same, a
packet with all buttons up says so, and there was something to see of every press. -/
structure Faithful (h : Hold) (b : UInt32) (masks : List UInt32) : Prop where
  keeps : Keeps b (h.kept b) masks
  released : b = 0 → masks.getLast? = some 0
  clicked : b = 0 → h.held ≠ 0 → h.seen = true ∨ ∃ m ∈ masks, m ≠ 0

instance (h : Hold) (b : UInt32) (masks : List UInt32) : Decidable (h.Faithful b masks) :=
  decidable_of_iff
    (Keeps b (h.kept b) masks ∧ (b = 0 → masks.getLast? = some 0) ∧
      (b = 0 → h.held ≠ 0 → h.seen = true ∨ ∃ m ∈ masks, m ≠ 0))
    ⟨fun hf => ⟨hf.1, hf.2.1, hf.2.2⟩, fun hf => ⟨hf.keeps, hf.released, hf.clicked⟩⟩

/-- While a button is held back nothing was reported of it; after a wait something was. -/
structure Inv (h : Hold) (st : MButtonState) : Prop where
  quiet : st ≠ .noop → h.reported = 0
  within : h.reported &&& h.held = h.reported
  seen : st = .middle ∨ st = .wait4None ∨ st = .noop → h.seen = true

theorem inv_initial : Inv initial .noButtons where
  quiet := fun _ => rfl
  within := rfl
  seen := by simp

theorem or_eq_of_and_eq {k b : UInt32} (h : k &&& b = k) : k ||| b = b := by
  rw [← h]
  apply UInt32.toBitVec_inj.mp
  ext i hi
  simp

theorem Inv.kept_within {h : Hold} {st : MButtonState} (hi : h.Inv st) (b : UInt32) :
    h.kept b &&& b = h.kept b := by
  rw [kept]
  split
  · rename_i hb
    rw [hb, hi.within]
  · rw [UInt32.zero_and]

theorem Inv.kept_eq_zero {h : Hold} {st : MButtonState} (hi : h.Inv st) (hst : st ≠ .noop)
    (b : UInt32) : h.kept b = 0 := by
  rw [kept, hi.quiet hst, ite_self]

/-- With all buttons up and something reported before. -/
theorem inv_up (st : MButtonState) : Inv ⟨0, 0, true⟩ st where
  quiet := fun _ => rfl
  within := rfl
  seen := fun _ => rfl

/-- A step that reports the set itself. -/
theorem faithful_noop {h : Hold} {b : UInt32} {st : MButtonState} (hi : h.Inv st) (h0 : b ≠ 0) :
    h.Faithful b [b] ∧ (h.after b [b]).Inv .noop := by
  have hk := hi.kept_within b
  refine ⟨⟨⟨hk, trivial⟩, fun hb => absurd hb h0, fun hb => absurd hb h0⟩, ?_, ?_, ?_⟩
  · intro hst
    exact absurd rfl hst
  · simp only [after, List.foldl_cons, List.foldl_nil, UInt32.and_self]
    rw [or_eq_of_and_eq hk, UInt32.and_self]
  · intro _
    simp [after, h0]

/-- A step that reports none of the buttons of the set, of which none was reported before. -/
theorem faithful_silent {h : Hold} {b v : UInt32} {st st' : MButtonState} (hi : h.Inv st)
    (hst : st ≠ .noop) (hst' : st' ≠ .noop) (hv : v &&& b = 0) (h0 : b ≠ 0)
    (hseen : st' = .middle ∨ st' = .wait4None → h.seen = true ∨ v ≠ 0) :
    h.Faithful b [v] ∧ (h.after b [v]).Inv st' := by
  have hk := hi.kept_eq_zero hst b
  refine ⟨⟨?_, fun hb => absurd hb h0, fun hb => absurd hb h0⟩, ?_, ?_, ?_⟩
  · rw [hk]
    exact ⟨UInt32.zero_and, trivial⟩
  · intro _
    simp [after, hk, hv]
  · simp [after, hk, hv]
  · intro h3
    simp [after, h0]
    grind

/-- A step that first reports both buttons and then the one that is down. -/
theorem faithful_change {h : Hold} {b : UInt32} {st : MButtonState} (hi : h.Inv st)
    (hst : st ≠ .noop) (hs : Single b) :
    h.Faithful b [3, b] ∧ (h.after b [3, b]).Inv .noop := by
  have hk := hi.kept_eq_zero hst b
  have h0 := hs.ne_zero
  refine ⟨⟨?_, fun hb => absurd hb h0, fun hb => absurd hb h0⟩, ?_, ?_, ?_⟩
  · rw [hk]
    rcases hs with rfl | rfl <;> decide
  · intro h
    exact absurd rfl h
  · simp only [after, hk]
    rcases hs with rfl | rfl <;> decide
  · intro _
    simp [after, h0]

theorem keeps_zero (masks : List UInt32) : Keeps 0 0 masks := by
  induction masks with
  | nil => trivial
  | cons m ms ih =>
      rw [Keeps, UInt32.zero_and, UInt32.and_zero, UInt32.zero_or]
      exact ⟨rfl, ih⟩

theorem foldl_zero (masks : List UInt32) :
    masks.foldl (fun r m => r ||| (m &&& 0)) (0 : UInt32) = 0 := by
  induction masks with
  | nil => rfl
  | cons m ms ih => rw [List.foldl_cons, UInt32.and_zero, UInt32.zero_or, ih]

/-- A step with all buttons up. -/
theorem faithful_up {h : Hold} {masks : List UInt32} {st : MButtonState} (hi : h.Inv st)
    (hc : h.held ≠ 0 → h.seen = true ∨ ∃ m ∈ masks, m ≠ 0) :
    h.Faithful 0 (masks ++ [0]) ∧ (h.after 0 (masks ++ [0])).Inv .noButtons := by
  have hk : h.kept 0 = 0 := by
    have := hi.kept_within 0
    rwa [UInt32.and_zero, eq_comm] at this
  refine ⟨⟨?_, fun _ => by simp, ?_⟩, ?_, ?_, ?_⟩
  · rw [hk]
    exact keeps_zero _
  · intro _ hh
    rcases hc hh with hs | ⟨m, hm, hne⟩
    · exact .inl hs
    · exact .inr ⟨m, List.mem_append_left _ hm, hne⟩
  · intro _
    rw [after, hk]
    exact foldl_zero _
  · simp [after, hk]
  · simp

/-- A step in which the machine stays in its state. -/
theorem faithful_rest {h : Hold} {m : MiddleButton} (hf : Follows m h.held)
    (hi : h.Inv m.mbuttonstate) (h0 : h.held ≠ 0) :
    h.Faithful h.held [modifyButtons m.mbuttonstate h.held] ∧
      (h.after h.held [modifyButtons m.mbuttonstate h.held]).Inv m.mbuttonstate := by
  obtain ⟨held, reported, seen⟩ := h
  cases hf with
  | noButtons p t => exact absurd rfl h0
  | wait4Two hs t =>
      refine faithful_silent hi nofun nofun ?_ h0 (by simp)
      rw [modifyButtons, modifyButtons_wait hs.leftRight, UInt32.zero_and]
  | middle p t =>
      have hv : modifyButtons .middle 3 &&& 3 = 0 := by decide
      exact faithful_silent hi nofun nofun hv h0 (fun _ => .inl (hi.seen (.inl rfl)))
  | wait4None hs t =>
      refine faithful_silent hi nofun nofun ?_ h0 (fun _ => .inl (hi.seen (.inr (.inl rfl))))
      rw [modifyButtons, modifyButtons_wait hs.leftRight, UInt32.zero_and]
  | noop _ p t => exact faithful_noop hi h0

/-- A call keeps faith: the masks it dispatches and the value it returns. -/
theorem faithful_of_moves {h : Hold} {m m' : MiddleButton} {b : UInt32} {masks : List UInt32}
    (hf : Follows m h.held) (hi : h.Inv m.mbuttonstate) (hb : LeftRight b) (hf' : Follows m' b)
    (hm : Moves h.held b m.mbuttonstate m'.mbuttonstate masks) :
    h.Faithful b (masks ++ [modifyButtons m'.mbuttonstate b]) ∧
      (h.after b (masks ++ [modifyButtons m'.mbuttonstate b])).Inv m'.mbuttonstate := by
  by_cases h0 : b = 0
  · subst h0
    have hst' : m'.mbuttonstate = .noButtons := hf'.up
    rw [hst'] at hm ⊢
    refine faithful_up hi (fun hh => ?_)
    by_cases hst : m.mbuttonstate = .wait4Two
    · rw [hst] at hm
      cases hm with
      | click _ hm =>
          subst hm
          exact .inr ⟨_, List.mem_singleton_self _, hh⟩
      | release _ _ hne => exact absurd rfl hne
    · refine .inl (hi.seen ?_)
      have := hf.down hh
      cases hms : m.mbuttonstate <;> simp_all
  · generalize hst : m.mbuttonstate = st at hm hi
    generalize hst' : m'.mbuttonstate = st' at hm
    cases hm with
    | rest _ hbh =>
        subst hbh hst
        exact faithful_rest hf hi h0
    | press hs =>
        refine faithful_silent hi nofun nofun ?_ h0 (by simp)
        rw [modifyButtons, modifyButtons_wait hb, UInt32.zero_and]
    | both _ h3 hor =>
        subst h3
        refine faithful_silent hi ?_ nofun rfl h0 (fun _ => .inr (by decide))
        rcases hor with rfl | rfl <;> nofun
    | click hz _ => exact absurd hz h0
    | change _ hs hm =>
        subst hm
        exact faithful_change hi nofun hs
    | settle _ _ => exact faithful_noop hi h0
    | part hs =>
        refine faithful_silent hi nofun nofun ?_ h0 (fun _ => .inl (hi.seen (.inl rfl)))
        rw [modifyButtons, modifyButtons_wait hb, UInt32.zero_and]
    | release _ hz _ => exact absurd hz h0

end Hold

end VoodooPS2
