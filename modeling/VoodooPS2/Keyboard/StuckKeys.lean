import VoodooPS2.Lib.Transition
import VoodooPS2.Keyboard.PressRelease

/-! # Stuck keys

`Session` is the dispatcher with the physical keys that are down, each with the modifiers it was
pressed with, and its runs over packets in which every key alternates make and break, with the
sleep and eject timer in between.

`no_stuck_key`: in every run in which each release takes the arm its press took, the brightness
hack presses again only codes of keys that are still down, and the eject timer fires only while
the key that armed it is down, no ADB code is down once all keys are up.  `stuck_delete` is a
run where Delete is pressed alone and released with Control and Alt. -/

namespace VoodooPS2.Keyboard

/-- The dispatcher and the physical keys that are down, each with the modifiers it was pressed
with. -/
structure Session where
  dispatcher : Dispatcher
  held : List (ℕ × UInt16)

/-- A packet of a key, with the key bit vector as the brightness hack sees it the first and the
second time, or the timer. -/
inductive KeyAction where
  | key (extended : Bool) (code : UInt8) (make : Bool) (before after : KeyBitVector)
  | timer

/-- Some of the keys left the code down. -/
def Owed (o : Options) (held : List (ℕ × UInt16)) (c : UInt8) : Prop :=
  ∃ e ∈ held, c ∈ leavesDown o e.2 e.1

instance (o : Options) (held : List (ℕ × UInt16)) (c : UInt8) : Decidable (Owed o held c) :=
  inferInstanceAs (Decidable (∃ e ∈ held, _))

namespace Session

/-- The keys that are down, less one. -/
def others (k : Session) (keyCodeRaw : ℕ) : List (ℕ × UInt16) :=
  k.held.filter (fun e => e.1 ≠ keyCodeRaw)

def isHeld (k : Session) (keyCodeRaw : ℕ) : Bool := k.held.any (fun e => e.1 == keyCodeRaw)

/-- Every key alternates make and break, starting with make; the timer fires when it is armed. -/
def step (o : Options) (k : Session) : KeyAction → Option Session
  | .key extended code make before after =>
      let keyCodeRaw := keyIndex extended code
      if code < 0x80 ∧ k.isHeld keyCodeRaw = !make then
        some
          ⟨(dispatchKeyboardEventWithPacket o k.dispatcher (keyPacket extended code make)
              before after).1,
            if make then
              (keyCodeRaw, trackModifier o k.dispatcher.modifierState keyCodeRaw true) :: k.held
            else k.others keyCodeRaw⟩
      else none
  | .timer =>
      if k.dispatcher.timerArmed then
        some ⟨Dispatcher.onSleepEjectTimer { k.dispatcher with timerArmed := false }, k.held⟩
      else none

/-- No key is down and nothing was dispatched. -/
def initial : Session := ⟨⟨0, .sleep, false, true, fun _ => false⟩, []⟩

/-- The condition on a step.  A release is matched to its press, each with the modifiers of its
time; what the brightness hack presses again was left down by another key that is down; the eject
timer fires while a key is down whose press was an eject. -/
def Meets (o : Options) (k : Session) : KeyAction → Prop
  | .key extended code make _ after =>
      let keyCodeRaw := keyIndex extended code
      let m := trackModifier o k.dispatcher.modifierState keyCodeRaw make
      (make = false → ∀ e ∈ k.held, e.1 = keyCodeRaw → Matched o e.2 m extended code) ∧
      ∀ c ∈ pressedAgain o m extended code make after, Owed o (k.others keyCodeRaw) c
  | .timer => k.dispatcher.timerFunc = .eject → Owed o k.held 0x92

instance (o : Options) (k : Session) : (a : KeyAction) → Decidable (k.Meets o a)
  | .key _ _ _ _ _ => inferInstanceAs (Decidable (_ ∧ _))
  | .timer => inferInstanceAs (Decidable (_ → _))

/-- Every code that is down was left by a key that is down. -/
def Accounted (o : Options) (k : Session) : Prop :=
  ∀ c, k.dispatcher.down c = true → Owed o k.held c

variable {o : Options} {k k' : Session}

theorem owed_of_others {keyCodeRaw : ℕ} {c : UInt8} (h : Owed o (k.others keyCodeRaw) c) :
    Owed o k.held c := by
  obtain ⟨e, he, hc⟩ := h
  exact ⟨e, (List.mem_filter.mp he).1, hc⟩

/-- The make of a key. -/
theorem accounted_press {extended : Bool} {code : UInt8} {before after : KeyBitVector}
    (hk : k.Accounted o) (hg : k.Meets o (.key extended code true before after))
    (hs : k.step o (.key extended code true before after) = some k') : k'.Accounted o := by
  obtain ⟨⟨hcode, -⟩, hs⟩ := Option.ite_none_right_eq_some.mp hs
  cases hs
  intro c hc
  rcases dispatch_press o k.dispatcher before after hcode hc with h | h | h
  · exact ⟨_, List.mem_cons_self, h⟩
  · obtain ⟨e, he, hce⟩ := owed_of_others (hg.2 c h)
    exact ⟨e, List.mem_cons_of_mem _ he, hce⟩
  · obtain ⟨e, he, hce⟩ := hk c h
    exact ⟨e, List.mem_cons_of_mem _ he, hce⟩

/-- The break of a key: what is still down was not left by this key, since the release would
have sent it up. -/
theorem accounted_release {extended : Bool} {code : UInt8} {before after : KeyBitVector}
    (hk : k.Accounted o) (hg : k.Meets o (.key extended code false before after))
    (hs : k.step o (.key extended code false before after) = some k') : k'.Accounted o := by
  obtain ⟨⟨hcode, -⟩, hs⟩ := Option.ite_none_right_eq_some.mp hs
  cases hs
  intro c hc
  rcases dispatch_release o k.dispatcher before after hcode hc with h | ⟨h, hnot⟩
  · exact hg.2 c h
  · obtain ⟨e, he, hce⟩ := hk c h
    have hne : e.1 ≠ keyIndex extended code := by
      intro heq
      rw [heq] at hce
      exact hnot ((hg.1 rfl e he heq).mem_releases hce)
    exact ⟨e, List.mem_filter.mpr ⟨he, decide_eq_true hne⟩, hce⟩

/-- The timer. -/
theorem accounted_timer (hk : k.Accounted o) (hg : k.Meets o .timer)
    (hs : k.step o .timer = some k') : k'.Accounted o := by
  obtain ⟨-, hs⟩ := Option.ite_none_right_eq_some.mp hs
  cases hs
  intro c hc
  rcases Dispatcher.onSleepEjectTimer_down _ hc with ⟨rfl, hf⟩ | h
  · exact hg hf
  · exact hk c h

theorem accounted_step (a : KeyAction) (hk : k.Accounted o) (hg : k.Meets o a)
    (hs : k.step o a = some k') : k'.Accounted o := by
  cases a with
  | key extended code make before after =>
      cases make with
      | true => exact accounted_press hk hg hs
      | false => exact accounted_release hk hg hs
  | timer => exact accounted_timer hk hg hs

theorem accounted_initial (o : Options) : initial.Accounted o :=
  fun _ h => absurd h Bool.false_ne_true

/-- In every run whose steps meet the condition no ADB code is down once all keys are up. -/
theorem no_stuck_key (o : Options) (actions : List KeyAction) (k : Session)
    (hr : Transition.run (step o) initial actions = some k)
    (hg : Transition.Guarded (step o) (Meets o) initial actions) (hup : k.held = []) (c : UInt8) :
    k.dispatcher.down c = false := by
  have hk := Transition.run_invariant_of_guarded
    (fun _ a _ hi hm hs => accounted_step a hi hm hs) actions (accounted_initial o) hg hr
  rw [← Bool.not_eq_true]
  intro hc
  obtain ⟨e, he, -⟩ := hk c hc
  rw [hup] at he
  exact List.not_mem_nil he

/-- A driver with the stock tables and no keyboard backlight. -/
def stockOptions : Options where
  ps2ToPS2Map := id
  ps2ToADBMap := stockCode
  flags := PS2flagsStock
  backlightLevels := false
  brightnessHack := false
  brightnessLevels := false
  f12ejectdelay := 250
  maxsleeppresstime := 0
  fkeymode := false
  versionMajor := 15

/-- A packet with no key down in the key bit vector. -/
def packetOf (extended : Bool) (code : UInt8) (make : Bool) : KeyAction :=
  .key extended code make .zero .zero

/-- Control, Alt and Delete pressed and released in this order. -/
def saluteRun : List KeyAction :=
  [packetOf false 0x1d true, packetOf false 0x38 true, packetOf true 0x53 true,
    packetOf true 0x53 false, packetOf false 0x38 false, packetOf false 0x1d false]

theorem no_stuck_key_salute :
    ∃ k, Transition.run (step stockOptions) initial saluteRun = some k ∧ k.held = [] ∧
      ∀ c, k.dispatcher.down c = false := by
  have hex : (Transition.run (step stockOptions) initial saluteRun).any
      (fun k => decide (k.held = [])) = true := by
    decide +kernel
  obtain ⟨k, hk, hp⟩ := (Option.any_eq_true _ _).mp hex
  have hup := of_decide_eq_true hp
  exact ⟨k, hk, hup, no_stuck_key stockOptions saluteRun k hk (by decide +kernel) hup⟩

/-- Delete is pressed alone and released with Control and Alt down. -/
def deleteRun : List KeyAction :=
  [packetOf true 0x53 true, packetOf false 0x1d true, packetOf false 0x38 true,
    packetOf true 0x53 false, packetOf false 0x38 false, packetOf false 0x1d false]

/-- The release is taken for Control+Alt+Delete, and the ADB code of Delete stays down. -/
theorem stuck_delete :
    ¬ ∀ (o : Options) (actions : List KeyAction) (k : Session),
      Transition.run (step o) initial actions = some k → k.held = [] →
        k.dispatcher.timerArmed = false → ∀ c, k.dispatcher.down c = false := by
  intro h
  have hex : (Transition.run (step stockOptions) initial deleteRun).any (fun k =>
      decide (k.held = [] ∧ k.dispatcher.timerArmed = false ∧ k.dispatcher.down 0x75 = true)) =
        true := by
    decide +kernel
  obtain ⟨k, hk, hp⟩ := (Option.any_eq_true _ _).mp hex
  obtain ⟨hup, ht, hd⟩ := of_decide_eq_true hp
  rw [h stockOptions deleteRun k hk hup ht] at hd
  exact Bool.false_ne_true hd

end Session

end VoodooPS2.Keyboard
