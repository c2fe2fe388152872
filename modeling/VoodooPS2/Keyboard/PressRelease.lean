import VoodooPS2.Keyboard.Dispatch

/-! # What a press leaves down and a release sends up

The press and the release of a key go through `dispatchKeyboardEventWithPacket` separately, and
each takes the branch the modifiers select at that moment.  `leavesDown` is the ADB codes a
press leaves down, or arms the eject timer to send; `releases` is the codes a release sends up.
Both are read off the branches of the function.  `Matched` says that a release undoes its press.

`dispatch_press` and `dispatch_release` are what the function does to the codes that are
down. -/

namespace VoodooPS2.Keyboard

/-! ### What a press leaves down and a release sends up -/

/-- The code that is left after the switch on the ADB code. -/
def finalCode (o : Options) (keyCode : ℕ) : UInt8 :=
  if (o.ps2ToADBMap keyCode = 0x90 ∨ o.ps2ToADBMap keyCode = 0x91) ∧ o.brightnessLevels then DEADKEY
  else o.ps2ToADBMap keyCode

/-- The press is taken by the eject timer. -/
def ejects (o : Options) (modifiers : UInt16) (keyCode : ℕ) : Prop :=
  o.ps2ToADBMap keyCode = 0x92 ∧ modifiers = 0

instance (o : Options) (m : UInt16) (k : ℕ) : Decidable (ejects o m k) :=
  inferInstanceAs (Decidable (_ ∧ _))

/-- Press and release are sent as such: the key is neither diverted, nor breakless, nor Caps
Lock under the work-around. -/
def sentAsIs (o : Options) (keyCodeRaw keyCode : ℕ) : Prop :=
  keyCode ≠ 0 ∧ isBreakless o.flags keyCodeRaw = false ∧
    ¬ (finalCode o keyCode = 0x39 ∧ 16 ≤ o.versionMajor)

instance (o : Options) (r k : ℕ) : Decidable (sentAsIs o r k) :=
  inferInstanceAs (Decidable (_ ∧ _))

/-- What the end of the function leaves down after a press. -/
def finishLeaves (o : Options) (modifiers : UInt16) (keyCodeRaw keyCode : ℕ) : List UInt8 :=
  if ejects o modifiers keyCode then [0x92]
  else if sentAsIs o keyCodeRaw keyCode then [finalCode o keyCode] else []

/-- What it sends up after a release. -/
def finishReleases (o : Options) (keyCodeRaw keyCode : ℕ) : List UInt8 :=
  if sentAsIs o keyCodeRaw keyCode then [finalCode o keyCode] else []

/-- What the switch on the key code leaves down after a press. -/
def specialLeaves (o : Options) (modifiers : UInt16) (keyCode : ℕ) : List UInt8 :=
  match branch o modifiers keyCode with
  | .brightness => [hackCode keyCode]
  | _ => []

/-- What it sends up after a release. -/
def specialReleases (o : Options) (modifiers : UInt16) (keyCode : ℕ) : List UInt8 :=
  match branch o modifiers keyCode with
  | .brightness => [hackCode keyCode]
  | .salute => [0x37, 0x3b, 0x7f]
  | _ => []

/-- The codes the brightness hack presses again. -/
def specialAgain (o : Options) (modifiers : UInt16) (keyCode : ℕ) (after : KeyBitVector) :
    List UInt8 :=
  match branch o modifiers keyCode with
  | .brightness => ((hackKeys modifiers).filter after.isKeyDown).map o.ps2ToADBMap
  | _ => []

/-- What the press of a key leaves down, with the modifiers as they are after it. -/
def leavesDown (o : Options) (modifiers : UInt16) (keyCodeRaw : ℕ) : List UInt8 :=
  if isPrintScreenHeader keyCodeRaw then []
  else
    specialLeaves o modifiers (o.ps2ToPS2Map keyCodeRaw) ++
      finishLeaves o modifiers keyCodeRaw (effectiveCode o modifiers (o.ps2ToPS2Map keyCodeRaw))

/-- What the release of a key sends up.  The break byte of the plain keys 71 and 72 is taken for
a press of LANG2 or LANG1. -/
def releases (o : Options) (modifiers : UInt16) (extended : Bool) (code : UInt8) : List UInt8 :=
  if isLang extended (scanByte code false) then [o.ps2ToADBMap (scanByte code false).toNat]
  else if isPrintScreenHeader (keyIndex extended code) then []
  else
    let keyCodeRaw := keyIndex extended code
    specialReleases o modifiers (o.ps2ToPS2Map keyCodeRaw) ++
      finishReleases o keyCodeRaw (effectiveCode o modifiers (o.ps2ToPS2Map keyCodeRaw))

/-- What an event of a key presses again. -/
def pressedAgain (o : Options) (modifiers : UInt16) (extended : Bool) (code : UInt8) (make : Bool)
    (after : KeyBitVector) : List UInt8 :=
  if isLang extended (scanByte code make) || isPrintScreenHeader (keyIndex extended code) then []
  else specialAgain o modifiers (o.ps2ToPS2Map (keyIndex extended code)) after

/-- The release of a key undoes its press: either the press left nothing down, or the release is
not taken for a LANG key, takes the arm of the switch on the key code that the press took, and
is sent where the press went to the eject timer. -/
def Matched (o : Options) (pressed released : UInt16) (extended : Bool) (code : UInt8) : Prop :=
  let keyCodeRaw := keyIndex extended code
  let keyCode := o.ps2ToPS2Map keyCodeRaw
  leavesDown o pressed keyCodeRaw = [] ∨
    (isLang extended (scanByte code false) = false ∧
      branch o pressed keyCode = branch o released keyCode ∧
      (ejects o pressed (effectiveCode o pressed keyCode) →
        sentAsIs o keyCodeRaw (effectiveCode o pressed keyCode)))

instance (o : Options) (m n : UInt16) (x : Bool) (code : UInt8) : Decidable (Matched o m n x code) :=
  inferInstanceAs (Decidable (_ ∨ _))

section matched
variable {o : Options} {pressed released : UInt16} {keyCode : ℕ} {c : UInt8}

/-- The key code after the switch depends on the arm only. -/
theorem effectiveCode_eq (h : branch o pressed keyCode = branch o released keyCode) :
    effectiveCode o pressed keyCode = effectiveCode o released keyCode := by
  unfold effectiveCode
  rw [h]

/-- Within one arm of the switch the release sends up what the press sent down. -/
theorem mem_specialReleases (h : branch o pressed keyCode = branch o released keyCode)
    (hc : c ∈ specialLeaves o pressed keyCode) : c ∈ specialReleases o released keyCode := by
  unfold specialLeaves at hc
  unfold specialReleases
  rw [h] at hc
  cases hb : branch o released keyCode with
  | brightness =>
      rw [hb] at hc
      exact hc
  | _ =>
      rw [hb] at hc
      exact absurd hc List.not_mem_nil

/-- The code of an eject key is left alone by the switch on the ADB code. -/
theorem finalCode_of_ejects (h : ejects o pressed keyCode) : finalCode o keyCode = 0x92 := by
  have hne : ¬ ((o.ps2ToADBMap keyCode = 0x90 ∨ o.ps2ToADBMap keyCode = 0x91) ∧
      o.brightnessLevels = true) := by
    rw [h.1]
    exact fun hc => absurd hc.1 (by decide)
  unfold finalCode
  rw [if_neg hne]
  exact h.1

theorem mem_finishReleases {keyCodeRaw : ℕ}
    (he : ejects o pressed keyCode → sentAsIs o keyCodeRaw keyCode)
    (hc : c ∈ finishLeaves o pressed keyCodeRaw keyCode) :
    c ∈ finishReleases o keyCodeRaw keyCode := by
  unfold finishLeaves at hc
  unfold finishReleases
  by_cases hej : ejects o pressed keyCode
  · rw [if_pos hej] at hc
    rw [if_pos (he hej), finalCode_of_ejects hej]
    exact hc
  · rw [if_neg hej] at hc
    exact hc

/-- A matched release sends up everything the press left down. -/
theorem Matched.mem_releases {extended : Bool} {code : UInt8}
    (h : Matched o pressed released extended code)
    (hc : c ∈ leavesDown o pressed (keyIndex extended code)) :
    c ∈ releases o released extended code := by
  rcases h with h | ⟨hl, hb, he⟩
  · rw [h] at hc
    exact absurd hc List.not_mem_nil
  · unfold leavesDown at hc
    unfold releases
    rw [hl]
    cases hp : isPrintScreenHeader (keyIndex extended code) with
    | true =>
        rw [hp] at hc
        exact absurd hc List.not_mem_nil
    | false =>
        rw [hp] at hc
        dsimp only
        rw [← effectiveCode_eq hb]
        rcases List.mem_append.mp hc with hc | hc
        · exact List.mem_append_left _ (mem_specialReleases hb hc)
        · exact List.mem_append_right _ (mem_finishReleases he hc)

end matched

/-! ### The parts of the function -/

namespace Dispatcher

variable (o : Options) (s : Dispatcher)

@[simp] theorem send_modifierState (code : UInt8) (d : Bool) :
    (s.send code d).modifierState = s.modifierState := rfl

theorem send_down (code c : UInt8) (d : Bool) :
    (s.send code d).down c = if c = code then d else s.down c :=
  Function.update_apply _ _ _ _

theorem sendAll_modifierState (keys : List ℕ) (d : Bool) :
    (s.sendAll o keys d).modifierState = s.modifierState := by
  induction keys generalizing s with
  | nil => rfl
  | cons key keys ih => exact ih (s.send (o.ps2ToADBMap key) d)

theorem sendAll_down (keys : List ℕ) (d : Bool) (c : UInt8) :
    (s.sendAll o keys d).down c = if c ∈ keys.map o.ps2ToADBMap then d else s.down c := by
  induction keys generalizing s with
  | nil => rfl
  | cons key keys ih =>
      have h := ih (s.send (o.ps2ToADBMap key) d)
      rw [send_down] at h
      show ((s.send (o.ps2ToADBMap key) d).sendAll o keys d).down c = _
      rw [h, List.map_cons]
      by_cases h1 : c ∈ keys.map o.ps2ToADBMap
      · rw [if_pos h1, if_pos (List.mem_cons_of_mem _ h1)]
      · by_cases h2 : c = o.ps2ToADBMap key
        · rw [if_neg h1, if_pos h2, if_pos (List.mem_cons.mpr (.inl h2))]
        · rw [if_neg h1, if_neg h2, if_neg (List.not_mem_cons_of_ne_of_not_mem h2 h1)]

theorem onSleepEjectTimer_modifierState : s.onSleepEjectTimer.modifierState = s.modifierState := by
  unfold onSleepEjectTimer
  cases s.timerFunc <;> rfl

/-- The timer presses the eject code or nothing. -/
theorem onSleepEjectTimer_down {c : UInt8} (h : s.onSleepEjectTimer.down c = true) :
    (c = 0x92 ∧ s.timerFunc = .eject) ∨ s.down c = true := by
  unfold onSleepEjectTimer at h
  cases hf : s.timerFunc with
  | sleep =>
      rw [hf] at h
      exact .inr h
  | eject =>
      rw [hf] at h
      dsimp only at h
      rw [send_down] at h
      by_cases hc : c = 0x92
      · exact .inl ⟨hc, rfl⟩
      · rw [if_neg hc] at h
        exact .inr h

variable (before after : KeyBitVector) (keyCode keyCodeRaw : ℕ)

theorem specialCases_modifierState (goingDown : Bool) :
    (s.specialCases o before after keyCode goingDown).modifierState = s.modifierState := by
  unfold specialCases
  cases branch o s.modifierState keyCode with
  | brightness =>
      dsimp only
      rw [sendAll_modifierState, send_modifierState, sendAll_modifierState]
  | salute => cases goingDown <;> rfl
  | sleep =>
      dsimp only
      split_ifs
      · exact onSleepEjectTimer_modifierState _
      · rfl
      · rfl
  | _ => rfl

/-- After a press: a code that is down was left by the switch, pressed again by the brightness
hack, or down before. -/
theorem specialCases_press {c : UInt8}
    (h : (s.specialCases o before after keyCode true).down c = true) :
    c ∈ specialLeaves o s.modifierState keyCode ∨
      c ∈ specialAgain o s.modifierState keyCode after ∨ s.down c = true := by
  unfold specialCases at h
  unfold specialLeaves specialAgain
  cases hb : branch o s.modifierState keyCode with
  | brightness =>
      rw [hb] at h
      dsimp only at h ⊢
      rw [sendAll_down, send_down, sendAll_down] at h
      by_cases h1 : c ∈ ((hackKeys s.modifierState).filter after.isKeyDown).map o.ps2ToADBMap
      · exact .inr (.inl h1)
      · by_cases h2 : c = hackCode keyCode
        · exact .inl (List.mem_singleton.mpr h2)
        · rw [if_neg h1, if_neg h2] at h
          split_ifs at h
          exact .inr (.inr h)
  | salute => rw [hb] at h; exact .inr (.inr h)
  | sleep =>
      rw [hb] at h
      dsimp only at h
      rw [if_pos rfl] at h
      split_ifs at h
      · rcases onSleepEjectTimer_down _ h with hc | hc
        · cases hc.2
        · exact .inr (.inr hc)
      · exact .inr (.inr h)
  | _ => rw [hb] at h; exact .inr (.inr h)

/-- After a release: a code that is down was pressed again by the brightness hack, or was down
before and not sent up. -/
theorem specialCases_release {c : UInt8}
    (h : (s.specialCases o before after keyCode false).down c = true) :
    c ∈ specialAgain o s.modifierState keyCode after ∨
      (s.down c = true ∧ c ∉ specialReleases o s.modifierState keyCode) := by
  unfold specialCases at h
  unfold specialReleases specialAgain
  cases hb : branch o s.modifierState keyCode with
  | brightness =>
      rw [hb] at h
      dsimp only at h ⊢
      rw [sendAll_down, send_down, sendAll_down] at h
      by_cases h1 : c ∈ ((hackKeys s.modifierState).filter after.isKeyDown).map o.ps2ToADBMap
      · exact .inl h1
      · by_cases h2 : c = hackCode keyCode
        · rw [if_neg h1, if_pos h2] at h
          exact absurd h Bool.false_ne_true
        · rw [if_neg h1, if_neg h2] at h
          split_ifs at h
          exact .inr ⟨h, fun hm => h2 (List.mem_singleton.mp hm)⟩
  | salute =>
      rw [hb] at h
      dsimp only at h ⊢
      rw [if_neg Bool.false_ne_true] at h
      simp only [send_down] at h
      split_ifs at h with h1 h2 h3
      refine .inr ⟨h, ?_⟩
      simp only [List.mem_cons, List.not_mem_nil, or_false, not_or]
      exact ⟨h3, h2, h1⟩
  | sleep =>
      rw [hb] at h
      exact .inr ⟨h, List.not_mem_nil⟩
  | _ => rw [hb] at h; exact .inr ⟨h, List.not_mem_nil⟩

/-- Caps Lock is left as it was, or up. -/
theorem capsLock_down {goingDown : Bool} {c : UInt8} (h : (s.capsLock goingDown).down c = true) :
    s.down c = true := by
  unfold capsLock at h
  cases goingDown with
  | false => exact h
  | true =>
      dsimp only at h
      rw [if_pos rfl] at h
      by_cases hc : c = 0x39
      · exfalso
        revert h
        cases s.firsttime <;> simp [send_down, hc]
      · revert h
        cases s.firsttime <;> simp [send_down, hc]

/-- What the switch on the ADB code gives. -/
theorem adbCases_code (goingDown : Bool) :
    (s.adbCases o (o.ps2ToADBMap keyCode) goingDown).2.1 = finalCode o keyCode := by
  unfold adbCases finalCode
  by_cases h : o.ps2ToADBMap keyCode = 0x90 ∨ o.ps2ToADBMap keyCode = 0x91
  · rw [if_pos h]
    cases hb : o.brightnessLevels <;> simp [h]
  · have hf : ¬ ((o.ps2ToADBMap keyCode = 0x90 ∨ o.ps2ToADBMap keyCode = 0x91) ∧
        o.brightnessLevels = true) := fun hc => h hc.1
    rw [if_neg h, if_neg hf]
    split_ifs <;> rfl

theorem adbCases_release (c : UInt8) :
    (s.adbCases o (o.ps2ToADBMap keyCode) false).1.down c = s.down c ∧
      (s.adbCases o (o.ps2ToADBMap keyCode) false).2.2 = false := by
  unfold adbCases
  split_ifs <;> simp_all

theorem adbCases_press :
    (ejects o s.modifierState keyCode ∧
        (s.adbCases o (o.ps2ToADBMap keyCode) true).2.2 = true ∧
        ∀ c, (s.adbCases o (o.ps2ToADBMap keyCode) true).1.down c = true →
          c = 0x92 ∨ s.down c = true) ∨
      (¬ ejects o s.modifierState keyCode ∧
        (s.adbCases o (o.ps2ToADBMap keyCode) true).2.2 = false ∧
        (s.adbCases o (o.ps2ToADBMap keyCode) true).1 = s) := by
  by_cases he : ejects o s.modifierState keyCode
  · left
    have hne : ¬ (o.ps2ToADBMap keyCode = 0x90 ∨ o.ps2ToADBMap keyCode = 0x91) := by
      rw [he.1]; decide
    have he' : o.ps2ToADBMap keyCode = 0x92 ∧ s.modifierState = 0 := he
    unfold adbCases
    rw [if_neg hne, if_pos he', if_pos rfl]
    refine ⟨he, ?_, ?_⟩
    · split_ifs <;> rfl
    · intro c hc
      split_ifs at hc <;> dsimp only at hc
      · rcases onSleepEjectTimer_down _ hc with h | h
        · exact .inl h.1
        · exact .inr h
      · exact .inr hc
  · right
    have he' : ¬ (o.ps2ToADBMap keyCode = 0x92 ∧ s.modifierState = 0) := he
    unfold adbCases
    refine ⟨he, ?_, ?_⟩ <;> split_ifs <;> rfl

theorem dispatchToHID_press {adb c : UInt8}
    (h : (s.dispatchToHID o keyCodeRaw adb true).down c = true) :
    (c = adb ∧ isBreakless o.flags keyCodeRaw = false) ∨ s.down c = true := by
  unfold dispatchToHID at h
  dsimp only at h
  cases hb : isBreakless o.flags keyCodeRaw with
  | true =>
      rw [if_pos ⟨rfl, hb⟩, if_pos (.inl rfl), send_down, send_down] at h
      split_ifs at h
      exact .inr h
  | false =>
      rw [if_neg (fun hc => absurd (hb.symm.trans hc.2) Bool.false_ne_true), if_pos (.inl rfl),
        send_down] at h
      by_cases hc : c = adb
      · exact .inl ⟨hc, rfl⟩
      · rw [if_neg hc] at h
        exact .inr h

theorem dispatchToHID_release {adb c : UInt8}
    (h : (s.dispatchToHID o keyCodeRaw adb false).down c = true) :
    s.down c = true ∧ (isBreakless o.flags keyCodeRaw = false → c ≠ adb) := by
  unfold dispatchToHID at h
  dsimp only at h
  rw [if_neg (fun hc => absurd hc.1 Bool.false_ne_true)] at h
  by_cases hb : isBreakless o.flags keyCodeRaw = false
  · rw [if_pos (.inr hb), send_down] at h
    split_ifs at h with hc
    exact ⟨h, fun _ => hc⟩
  · rw [if_neg (fun hc => hc.elim Bool.false_ne_true hb)] at h
    exact ⟨h, fun hc => absurd hc hb⟩

/-- After a press: a code that is down was left by the end of the function, or down before. -/
theorem finish_press {c : UInt8} (h : (s.finish o keyCodeRaw keyCode true).down c = true) :
    c ∈ finishLeaves o s.modifierState keyCodeRaw keyCode ∨ s.down c = true := by
  have hcode := adbCases_code o s keyCode true
  have hpress := adbCases_press o s keyCode
  unfold finish at h
  unfold finishLeaves
  rcases hr : s.adbCases o (o.ps2ToADBMap keyCode) true with ⟨s', adb, eat⟩
  rw [hr] at h hcode hpress
  dsimp only at h hcode hpress
  subst hcode
  rcases hpress with ⟨he, rfl, hdown⟩ | ⟨he, rfl, rfl⟩
  · rw [if_pos he]
    have heat : ¬ (keyCode ≠ 0 ∧ true = false) := fun hc => Bool.false_ne_true hc.2.symm
    rw [if_neg heat] at h
    have h' : s'.down c = true := by
      split_ifs at h
      · exact capsLock_down s' h
      · exact h
    exact (hdown c h').imp_left List.mem_singleton.mpr
  · rw [if_neg he]
    split_ifs at h with hcaps hk
    · exact .inr (capsLock_down _ h)
    · rcases dispatchToHID_press o _ keyCodeRaw h with ⟨hc, hb⟩ | h
      · left
        rw [if_pos ⟨hk.1, hb, hcaps⟩]
        exact List.mem_singleton.mpr hc
      · exact .inr h
    · exact .inr h

/-- After a release: a code that is down was down before and not sent up. -/
theorem finish_release {c : UInt8} (h : (s.finish o keyCodeRaw keyCode false).down c = true) :
    s.down c = true ∧ c ∉ finishReleases o keyCodeRaw keyCode := by
  have hcode := adbCases_code o s keyCode false
  obtain ⟨hdown, heat⟩ := adbCases_release o s keyCode c
  unfold finish at h
  unfold finishReleases
  rcases hr : s.adbCases o (o.ps2ToADBMap keyCode) false with ⟨s', adb, eat⟩
  rw [hr] at h hcode hdown heat
  dsimp only at h hcode hdown heat
  subst hcode heat
  rw [← hdown]
  split_ifs at h with hcaps hk
  · rw [if_neg (fun hc => hc.2.2 hcaps)]
    exact ⟨h, List.not_mem_nil⟩
  · obtain ⟨h, hne⟩ := dispatchToHID_release o _ keyCodeRaw h
    refine ⟨h, ?_⟩
    split_ifs with hsent
    · exact fun hm => hne hsent.2.1 (List.mem_singleton.mp hm)
    · exact List.not_mem_nil
  · rw [if_neg (fun hc => hk ⟨hc.1, rfl⟩)]
    exact ⟨h, List.not_mem_nil⟩

end Dispatcher

/-! ### One packet -/

/-- The packet of a make or a break. -/
def keyPacket (extended : Bool) (code : UInt8) (make : Bool) : UInt8 × UInt8 :=
  (if extended then 2 else 1, scanByte code make)

/-- What the function reads in a scan byte. -/
theorem scanByte_parts : ∀ n < 128, ∀ make : Bool,
    (scanByte (UInt8.ofNat n) make &&& kSCUpBit == 0) = make ∧
      scanByte (UInt8.ofNat n) make &&& ~~~kSCUpBit = UInt8.ofNat n ∧
      ∀ extended : Bool, make = true → isLang extended (scanByte (UInt8.ofNat n) make) = false := by
  decide +kernel

theorem extended_flag (extended : Bool) :
    ((if extended then (2 : UInt8) else 1) - 1 != 0) = extended := by
  cases extended <;> rfl

section packet
variable (o : Options) (s : Dispatcher) (before after : KeyBitVector) {extended make : Bool}
  {code : UInt8} (hcode : code < 0x80)
include hcode

theorem scanByte_reads (make : Bool) :
    (scanByte code make &&& kSCUpBit == 0) = make ∧ scanByte code make &&& ~~~kSCUpBit = code ∧
      ∀ extended : Bool, make = true → isLang extended (scanByte code make) = false := by
  have h := scanByte_parts code.toNat (UInt8.lt_iff_toNat_lt.mp hcode) make
  rwa [UInt8.ofNat_toNat] at h

/-- A packet that is neither LANG nor a PrintScreen header goes through the two switches. -/
theorem dispatch_eq (hl : isLang extended (scanByte code make) = false)
    (hp : isPrintScreenHeader (keyIndex extended code) = false) :
    let keyCodeRaw := keyIndex extended code
    let m := trackModifier o s.modifierState keyCodeRaw make
    let keyCode := o.ps2ToPS2Map keyCodeRaw
    (dispatchKeyboardEventWithPacket o s (keyPacket extended code make) before after).1 =
      (Dispatcher.specialCases o { s with modifierState := m } before after keyCode make).finish o
        keyCodeRaw (effectiveCode o m keyCode) make := by
  obtain ⟨hdown, hraw, -⟩ := scanByte_reads hcode make
  unfold dispatchKeyboardEventWithPacket keyPacket
  dsimp only
  rw [extended_flag, hdown, hraw, hl, hp]
  rfl

omit hcode in
theorem dispatch_lang (hl : isLang extended (scanByte code make) = true) :
    (dispatchKeyboardEventWithPacket o s (keyPacket extended code make) before after).1 =
      (s.send (o.ps2ToADBMap (scanByte code make).toNat) true).send
        (o.ps2ToADBMap (scanByte code make).toNat) false := by
  unfold dispatchKeyboardEventWithPacket keyPacket
  dsimp only
  rw [extended_flag, hl]
  rfl

theorem dispatch_header (hl : isLang extended (scanByte code make) = false)
    (hp : isPrintScreenHeader (keyIndex extended code) = true) :
    (dispatchKeyboardEventWithPacket o s (keyPacket extended code make) before after).1 = s := by
  obtain ⟨-, hraw, -⟩ := scanByte_reads hcode make
  unfold dispatchKeyboardEventWithPacket keyPacket
  dsimp only
  rw [extended_flag, hraw, hl, hp]
  rfl

/-- After the make of a key: a code that is down was left by it, pressed again, or down before. -/
theorem dispatch_press {c : UInt8}
    (h : (dispatchKeyboardEventWithPacket o s (keyPacket extended code true) before after).1.down c
      = true) :
    let m := trackModifier o s.modifierState (keyIndex extended code) true
    c ∈ leavesDown o m (keyIndex extended code) ∨
      c ∈ pressedAgain o m extended code true after ∨ s.down c = true := by
  have hl := (scanByte_reads hcode true).2.2 extended rfl
  intro m
  unfold leavesDown pressedAgain
  rw [hl]
  cases hp : isPrintScreenHeader (keyIndex extended code) with
  | true =>
      rw [dispatch_header o s before after hcode hl hp] at h
      exact .inr (.inr h)
  | false =>
      rw [dispatch_eq o s before after hcode hl hp] at h
      rcases Dispatcher.finish_press o _ _ _ h with hf | hf
      · rw [Dispatcher.specialCases_modifierState] at hf
        exact .inl (List.mem_append_right _ hf)
      · rcases Dispatcher.specialCases_press o _ before after _ hf with hs | hs | hs
        · exact .inl (List.mem_append_left _ hs)
        · exact .inr (.inl hs)
        · exact .inr (.inr hs)

/-- After the break of a key: a code that is down was pressed again, or was down before and not
sent up. -/
theorem dispatch_release {c : UInt8}
    (h : (dispatchKeyboardEventWithPacket o s (keyPacket extended code false) before after).1.down c
      = true) :
    let m := trackModifier o s.modifierState (keyIndex extended code) false
    c ∈ pressedAgain o m extended code false after ∨
      (s.down c = true ∧ c ∉ releases o m extended code) := by
  intro m
  unfold releases pressedAgain
  cases hl : isLang extended (scanByte code false) with
  | true =>
      rw [dispatch_lang o s before after hl, Dispatcher.send_down, Dispatcher.send_down] at h
      split_ifs at h with hc
      exact .inr ⟨h, fun hm => hc (List.mem_singleton.mp hm)⟩
  | false =>
      cases hp : isPrintScreenHeader (keyIndex extended code) with
      | true =>
          rw [dispatch_header o s before after hcode hl hp] at h
          exact .inr ⟨h, List.not_mem_nil⟩
      | false =>
          rw [dispatch_eq o s before after hcode hl hp] at h
          obtain ⟨hf, hnf⟩ := Dispatcher.finish_release o _ _ _ h
          rcases Dispatcher.specialCases_release o _ before after _ hf with hs | ⟨hs, hns⟩
          · exact .inl hs
          · refine .inr ⟨hs, fun hm => ?_⟩
            exact (List.mem_append.mp hm).elim hns hnf

end packet

end VoodooPS2.Keyboard
