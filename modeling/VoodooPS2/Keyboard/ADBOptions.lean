import VoodooPS2.Keyboard.ADBMap

/-! # The ADB map and its options (`ApplePS2Keyboard::setParamPropertiesGated`)

Six options rewrite slots of the working copy `_PS2ToADBMap` of the loaded map.  A dictionary
gives any of them; a slot is written when its option is given, from the loaded map, and two
slots are shared: `0x138` by the swap of command and option and by Hangul, `0x15d` by the two
options for the Application key.

`map_eq_iff`: after any sequence of dictionaries the working copy is the one a single dictionary
with the last values makes, if and only if the last writer of each of these two slots is the
option that decides it in the single dictionary, or writes the same code.  `history_matters` is
a sequence of two dictionaries where it is not. -/

namespace VoodooPS2.Keyboard

/-- The options of a dictionary that the map depends on. -/
structure ADBOptions where
  swapCapsLockLeftControl : Option Bool
  swapCommandOption : Option Bool
  makeApplicationKeyRightWindows : Option Bool
  makeApplicationKeyAppleFN : Option Bool
  makeRightModsHangulHanja : Option Bool
  useISOLayoutKeyboard : Option Bool
deriving DecidableEq, Repr

/-- `_PS2ToADBMap` and `_swapcommandoption`. -/
structure ADBState where
  map : ℕ → UInt8
  swapcommandoption : Bool

namespace ADBState

variable (mapped : ℕ → UInt8)

/-- The working copy as `probe` makes it. -/
def fresh : ADBState := ⟨mapped, false⟩

/-- `_PS2ToADBMap[slot] = value`. -/
def write (s : ADBState) (slot : ℕ) (value : UInt8) : ADBState :=
  { s with map := Function.update s.map slot value }

/-- A pair of slots that an option exchanges. -/
def exchange (s : ADBState) (a b : ℕ) (swap : Bool) : ADBState :=
  (s.write a (mapped (if swap then b else a))).write b (mapped (if swap then a else b))

def setSwapCapsLockLeftControl (s : ADBState) : Option Bool → ADBState
  | none => s
  | some b => s.exchange mapped 0x3a 0x1d b

def setSwapCommandOption (s : ADBState) : Option Bool → ADBState
  | none => s
  | some b =>
      (({ s with swapcommandoption := b }.exchange mapped 0x38 0x15b b).exchange mapped 0x138 0x15c b)

/-- The second component is `temp`: the Application key is the right windows key. -/
def setMakeApplicationKeyRightWindows (s : ADBState) : Option Bool → ADBState × Bool
  | none => (s, false)
  | some true => (s.write 0x15d (if s.swapcommandoption then 0x3d else 0x36), true)
  | some false => (s.write 0x15d (mapped 0x15d), false)

def setMakeApplicationKeyAppleFN (s : ADBState) (temp : Bool) : Option Bool → ADBState
  | none => s
  | some b => if temp then s else s.write 0x15d (if b then 0x3f else mapped 0x15d)

def setMakeRightModsHangulHanja (s : ADBState) : Option Bool → ADBState
  | none => s
  | some true => (s.write 0x138 (mapped 0xf2)).write 0x11d (mapped 0xf1)
  | some false =>
      (s.write 0x138 (mapped (if s.swapcommandoption then 0x15c else 0x138))).write 0x11d
        (mapped 0x11d)

def setUseISOLayoutKeyboard (s : ADBState) : Option Bool → ADBState
  | none => s
  | some b => s.exchange mapped 0x29 0x56 b

/-- `setParamPropertiesGated`, as far as the map goes. -/
def setParamPropertiesGated (s : ADBState) (d : ADBOptions) : ADBState :=
  let s := s.setSwapCapsLockLeftControl mapped d.swapCapsLockLeftControl
  let s := s.setSwapCommandOption mapped d.swapCommandOption
  let (s, temp) := s.setMakeApplicationKeyRightWindows mapped d.makeApplicationKeyRightWindows
  let s := s.setMakeApplicationKeyAppleFN mapped temp d.makeApplicationKeyAppleFN
  let s := s.setMakeRightModsHangulHanja mapped d.makeRightModsHangulHanja
  s.setUseISOLayoutKeyboard mapped d.useISOLayoutKeyboard

/-- The working copy after a sequence of dictionaries. -/
def afterCalls (calls : List ADBOptions) : ADBState :=
  calls.foldl (setParamPropertiesGated mapped) (fresh mapped)

end ADBState

namespace ADBOptions

def nothing : ADBOptions := ⟨none, none, none, none, none, none⟩

/-- The options of `d`, with those of `e` taking their place where given. -/
def update (d e : ADBOptions) : ADBOptions where
  swapCapsLockLeftControl := e.swapCapsLockLeftControl.or d.swapCapsLockLeftControl
  swapCommandOption := e.swapCommandOption.or d.swapCommandOption
  makeApplicationKeyRightWindows :=
    e.makeApplicationKeyRightWindows.or d.makeApplicationKeyRightWindows
  makeApplicationKeyAppleFN := e.makeApplicationKeyAppleFN.or d.makeApplicationKeyAppleFN
  makeRightModsHangulHanja := e.makeRightModsHangulHanja.or d.makeRightModsHangulHanja
  useISOLayoutKeyboard := e.useISOLayoutKeyboard.or d.useISOLayoutKeyboard

/-- For each option ever given, its last value. -/
def last (calls : List ADBOptions) : ADBOptions := calls.foldl update nothing

end ADBOptions

/-! ### What a dictionary leaves in a slot -/

/-- The option that alone decides a slot, and the slots of the loaded map it takes the code from
when true and when false. -/
def slotOption : ℕ → Option ((ADBOptions → Option Bool) × ℕ × ℕ)
  | 0x3a => some (ADBOptions.swapCapsLockLeftControl, 0x1d, 0x3a)
  | 0x1d => some (ADBOptions.swapCapsLockLeftControl, 0x3a, 0x1d)
  | 0x38 => some (ADBOptions.swapCommandOption, 0x15b, 0x38)
  | 0x15b => some (ADBOptions.swapCommandOption, 0x38, 0x15b)
  | 0x15c => some (ADBOptions.swapCommandOption, 0x138, 0x15c)
  | 0x11d => some (ADBOptions.makeRightModsHangulHanja, 0xf1, 0x11d)
  | 0x29 => some (ADBOptions.useISOLayoutKeyboard, 0x56, 0x29)
  | 0x56 => some (ADBOptions.useISOLayoutKeyboard, 0x29, 0x56)
  | _ => none

/-- What an option leaves in a slot. -/
def choose (given : Option Bool) (ifTrue ifFalse old : UInt8) : UInt8 :=
  match given with
  | none => old
  | some true => ifTrue
  | some false => ifFalse

theorem choose_or (e d : Option Bool) (t f old : UInt8) :
    choose (e.or d) t f old = choose e t f (choose d t f old) := by
  rcases e with _ | _ | _ <;> rfl

namespace ADBState

variable (mapped : ℕ → UInt8) (s : ADBState) (d : ADBOptions)

theorem exchange_map (a b i : ℕ) (swap : Bool) :
    (s.exchange mapped a b swap).map i =
      if i = b then mapped (if swap then a else b)
      else if i = a then mapped (if swap then b else a) else s.map i := by
  simp only [exchange, write, Function.update_apply]

theorem setSwapCapsLockLeftControl_map (o : Option Bool) (i : ℕ) :
    (s.setSwapCapsLockLeftControl mapped o).map i =
      if i = 0x1d then choose o (mapped 0x3a) (mapped 0x1d) (s.map i)
      else if i = 0x3a then choose o (mapped 0x1d) (mapped 0x3a) (s.map i) else s.map i := by
  rcases o with _ | _ | _ <;> simp [setSwapCapsLockLeftControl, exchange_map, choose]

theorem setSwapCommandOption_map (o : Option Bool) (i : ℕ) :
    (s.setSwapCommandOption mapped o).map i =
      if i = 0x15c then choose o (mapped 0x138) (mapped 0x15c) (s.map i)
      else if i = 0x138 then choose o (mapped 0x15c) (mapped 0x138) (s.map i)
      else if i = 0x15b then choose o (mapped 0x38) (mapped 0x15b) (s.map i)
      else if i = 0x38 then choose o (mapped 0x15b) (mapped 0x38) (s.map i) else s.map i := by
  rcases o with _ | _ | _ <;> simp [setSwapCommandOption, exchange_map, choose]

theorem setMakeApplicationKeyRightWindows_map (o : Option Bool) (i : ℕ) :
    (s.setMakeApplicationKeyRightWindows mapped o).1.map i =
      if i = 0x15d then
        choose o (if s.swapcommandoption then 0x3d else 0x36) (mapped 0x15d) (s.map i)
      else s.map i := by
  rcases o with _ | _ | _ <;>
    simp [setMakeApplicationKeyRightWindows, write, Function.update_apply, choose]

theorem setMakeApplicationKeyAppleFN_map (temp : Bool) (o : Option Bool) (i : ℕ) :
    (s.setMakeApplicationKeyAppleFN mapped temp o).map i =
      if i = 0x15d ∧ temp = false then choose o 0x3f (mapped 0x15d) (s.map i) else s.map i := by
  rcases o with _ | _ | _ <;> cases temp <;>
    simp [setMakeApplicationKeyAppleFN, write, Function.update_apply, choose]

theorem setMakeRightModsHangulHanja_map (o : Option Bool) (i : ℕ) :
    (s.setMakeRightModsHangulHanja mapped o).map i =
      if i = 0x11d then choose o (mapped 0xf1) (mapped 0x11d) (s.map i)
      else if i = 0x138 then
        choose o (mapped 0xf2) (mapped (if s.swapcommandoption then 0x15c else 0x138)) (s.map i)
      else s.map i := by
  rcases o with _ | _ | _ <;>
    simp [setMakeRightModsHangulHanja, write, Function.update_apply, choose]

theorem setUseISOLayoutKeyboard_map (o : Option Bool) (i : ℕ) :
    (s.setUseISOLayoutKeyboard mapped o).map i =
      if i = 0x56 then choose o (mapped 0x29) (mapped 0x56) (s.map i)
      else if i = 0x29 then choose o (mapped 0x56) (mapped 0x29) (s.map i) else s.map i := by
  rcases o with _ | _ | _ <;> simp [setUseISOLayoutKeyboard, exchange_map, choose]

@[simp] theorem setSwapCapsLockLeftControl_flag (o : Option Bool) :
    (s.setSwapCapsLockLeftControl mapped o).swapcommandoption = s.swapcommandoption := by
  rcases o with _ | _ | _ <;> rfl

@[simp] theorem setSwapCommandOption_flag (o : Option Bool) :
    (s.setSwapCommandOption mapped o).swapcommandoption = o.getD s.swapcommandoption := by
  rcases o with _ | _ | _ <;> rfl

@[simp] theorem setMakeApplicationKeyRightWindows_flag (o : Option Bool) :
    (s.setMakeApplicationKeyRightWindows mapped o).1.swapcommandoption = s.swapcommandoption := by
  rcases o with _ | _ | _ <;> rfl

@[simp] theorem setMakeApplicationKeyRightWindows_temp (o : Option Bool) :
    (s.setMakeApplicationKeyRightWindows mapped o).2 = decide (o = some true) := by
  rcases o with _ | _ | _ <;> rfl

@[simp] theorem setMakeApplicationKeyAppleFN_flag (temp : Bool) (o : Option Bool) :
    (s.setMakeApplicationKeyAppleFN mapped temp o).swapcommandoption = s.swapcommandoption := by
  rcases o with _ | _ | _ <;> cases temp <;> rfl

@[simp] theorem setMakeRightModsHangulHanja_flag (o : Option Bool) :
    (s.setMakeRightModsHangulHanja mapped o).swapcommandoption = s.swapcommandoption := by
  rcases o with _ | _ | _ <;> rfl

@[simp] theorem setUseISOLayoutKeyboard_flag (o : Option Bool) :
    (s.setUseISOLayoutKeyboard mapped o).swapcommandoption = s.swapcommandoption := by
  rcases o with _ | _ | _ <;> rfl

theorem set_flag :
    (s.setParamPropertiesGated mapped d).swapcommandoption =
      d.swapCommandOption.getD s.swapcommandoption := by
  simp [setParamPropertiesGated]

/-- A slot that one option decides. -/
theorem set_slot {i t f : ℕ} {g : ADBOptions → Option Bool} (h : slotOption i = some (g, t, f)) :
    (s.setParamPropertiesGated mapped d).map i = choose (g d) (mapped t) (mapped f) (s.map i) := by
  unfold slotOption at h
  split at h <;> cases h <;>
    simp [setParamPropertiesGated, setUseISOLayoutKeyboard_map, setMakeRightModsHangulHanja_map,
      setMakeApplicationKeyAppleFN_map, setMakeApplicationKeyRightWindows_map,
      setSwapCommandOption_map, setSwapCapsLockLeftControl_map]

/-- A slot that no option writes. -/
theorem set_other {i : ℕ} (h : slotOption i = none) (h1 : i ≠ 0x138) (h2 : i ≠ 0x15d) :
    (s.setParamPropertiesGated mapped d).map i = s.map i := by
  have hne : ∀ k, slotOption k ≠ none → i ≠ k := by
    rintro k hk rfl
    exact hk h
  simp [h1, h2, hne 0x3a nofun, hne 0x1d nofun, hne 0x38 nofun, hne 0x15b nofun, hne 0x15c nofun,
    hne 0x11d nofun, hne 0x29 nofun, hne 0x56 nofun, setParamPropertiesGated,
    setUseISOLayoutKeyboard_map, setMakeRightModsHangulHanja_map, setMakeApplicationKeyAppleFN_map,
    setMakeApplicationKeyRightWindows_map, setSwapCommandOption_map,
    setSwapCapsLockLeftControl_map]

/-- Right alt: Hangul has the last word. -/
theorem set_rightAlt :
    (s.setParamPropertiesGated mapped d).map 0x138 =
      choose d.makeRightModsHangulHanja (mapped 0xf2)
        (mapped (if d.swapCommandOption.getD s.swapcommandoption then 0x15c else 0x138))
        (choose d.swapCommandOption (mapped 0x15c) (mapped 0x138) (s.map 0x138)) := by
  simp [setParamPropertiesGated, setUseISOLayoutKeyboard_map, setMakeRightModsHangulHanja_map,
    setMakeApplicationKeyAppleFN_map, setMakeApplicationKeyRightWindows_map,
    setSwapCommandOption_map, setSwapCapsLockLeftControl_map]

/-- The Application key: right windows comes before Apple Fn. -/
theorem set_applicationKey :
    (s.setParamPropertiesGated mapped d).map 0x15d =
      if d.makeApplicationKeyRightWindows = some true then
        if d.swapCommandOption.getD s.swapcommandoption then 0x3d else 0x36
      else
        choose d.makeApplicationKeyAppleFN 0x3f (mapped 0x15d)
          (choose d.makeApplicationKeyRightWindows 0 (mapped 0x15d) (s.map 0x15d)) := by
  rcases hw : d.makeApplicationKeyRightWindows with _ | _ | _ <;>
  simp [hw, setParamPropertiesGated, setUseISOLayoutKeyboard_map, setMakeRightModsHangulHanja_map,
    setMakeApplicationKeyAppleFN_map, setMakeApplicationKeyRightWindows_map, choose,
    setSwapCommandOption_map, setSwapCapsLockLeftControl_map]

end ADBState

/-! ### What a sequence of dictionaries leaves -/

/-- An option of a dictionary: the value given last counts. -/
structure IsOption (g : ADBOptions → Option Bool) : Prop where
  nothing : g .nothing = none
  update : ∀ d e, g (d.update e) = (g e).or (g d)

theorem slotOption_isOption {i t f : ℕ} {g : ADBOptions → Option Bool}
    (h : slotOption i = some (g, t, f)) : IsOption g := by
  unfold slotOption at h
  split at h <;> cases h <;> exact ⟨rfl, fun _ _ => rfl⟩

theorem isOption_swap : IsOption ADBOptions.swapCommandOption := ⟨rfl, fun _ _ => rfl⟩

theorem isOption_windows : IsOption ADBOptions.makeApplicationKeyRightWindows :=
  ⟨rfl, fun _ _ => rfl⟩

theorem isOption_appleFN : IsOption ADBOptions.makeApplicationKeyAppleFN := ⟨rfl, fun _ _ => rfl⟩

theorem isOption_hangul : IsOption ADBOptions.makeRightModsHangulHanja := ⟨rfl, fun _ _ => rfl⟩

namespace IsOption

variable {g : ADBOptions → Option Bool} (hg : IsOption g)
include hg

theorem foldl (calls : List ADBOptions) (d : ADBOptions) :
    g (calls.foldl ADBOptions.update d) = (g (.last calls)).or (g d) := by
  induction calls using List.reverseRecOn with
  | nil => simp [ADBOptions.last, hg.nothing]
  | append_singleton calls e ih =>
      rw [ADBOptions.last, List.foldl_append, List.foldl_append, List.foldl_cons, List.foldl_nil,
        List.foldl_cons, List.foldl_nil, hg.update, hg.update, ih, Option.or_assoc]
      rfl

theorem last_append (a b : List ADBOptions) :
    g (.last (a ++ b)) = (g (.last b)).or (g (.last a)) := by
  rw [ADBOptions.last, List.foldl_append, hg.foldl]
  rfl

theorem last_singleton (d : ADBOptions) : g (.last [d]) = g d := by
  change g (ADBOptions.nothing.update d) = g d
  rw [hg.update, hg.nothing, Option.or_none]

theorem last_cons (d : ADBOptions) (calls : List ADBOptions) :
    g (.last (d :: calls)) = (g (.last calls)).or (g d) := by
  rw [← List.singleton_append, hg.last_append, hg.last_singleton]

/-- An option that is never given. -/
theorem last_eq_none_iff (calls : List ADBOptions) :
    g (.last calls) = none ↔ ∀ e ∈ calls, g e = none := by
  induction calls with
  | nil => simp [ADBOptions.last, hg.nothing]
  | cons d calls ih => rw [hg.last_cons, Option.or_eq_none_iff, ih, List.forall_mem_cons, and_comm]

end IsOption

/-- The last dictionary with a property. -/
def LastWith (p : ADBOptions → Prop) (calls earlier : List ADBOptions) (d : ADBOptions)
    (later : List ADBOptions) : Prop :=
  calls = earlier ++ d :: later ∧ p d ∧ ∀ e ∈ later, ¬ p e

theorem exists_lastWith (p : ADBOptions → Prop) (calls : List ADBOptions) :
    (∀ e ∈ calls, ¬ p e) ∨ ∃ earlier d later, LastWith p calls earlier d later := by
  induction calls with
  | nil => exact .inl (by simp)
  | cons c calls ih =>
      rcases ih with hnone | ⟨earlier, d, later, rfl, hd, hl⟩
      · by_cases hc : p c
        · exact .inr ⟨[], c, calls, rfl, hc, hnone⟩
        · exact .inl (List.forall_mem_cons.mpr ⟨hc, hnone⟩)
      · exact .inr ⟨c :: earlier, d, later, rfl, hd, hl⟩

/-- The dictionary writes the slot of the Application key. -/
def GivesApplicationKey (d : ADBOptions) : Prop :=
  d.makeApplicationKeyRightWindows ≠ none ∨ d.makeApplicationKeyAppleFN ≠ none

/-- The last writers of the two shared slots are those that decide them in a single dictionary
with the last values, or write the same code. -/
structure LastWritersAgree (mapped : ℕ → UInt8) (calls : List ADBOptions) : Prop where
  /-- Hangul is not undone by a later swap of command and option -/
  rightAlt : ∀ earlier d later,
    LastWith (fun d => d.makeRightModsHangulHanja ≠ none) calls earlier d later →
      d.makeRightModsHangulHanja = some true →
        (∀ e ∈ later, e.swapCommandOption = none) ∨
          mapped 0xf2 =
            mapped (if (ADBOptions.last calls).swapCommandOption = some true then 0x15c else 0x138)
  /-- the right windows key was made with the last swap of command and option -/
  windows : ∀ earlier d later, LastWith GivesApplicationKey calls earlier d later →
    d.makeApplicationKeyRightWindows = some true →
      (ADBOptions.last (earlier ++ [d])).swapCommandOption.getD false =
        (ADBOptions.last calls).swapCommandOption.getD false
  /-- Apple Fn given alone does not replace the right windows key -/
  appleFN : ∀ earlier d later, LastWith GivesApplicationKey calls earlier d later →
    d.makeApplicationKeyRightWindows = none → ∀ f, d.makeApplicationKeyAppleFN = some f →
      (ADBOptions.last calls).makeApplicationKeyRightWindows = some true →
        (if f then 0x3f else mapped 0x15d) =
          if (ADBOptions.last calls).swapCommandOption.getD false then 0x3d else 0x36
  /-- the right windows key taken back alone does not take back Apple Fn -/
  notWindows : ∀ earlier d later, LastWith GivesApplicationKey calls earlier d later →
    d.makeApplicationKeyRightWindows = some false → d.makeApplicationKeyAppleFN = none →
      (ADBOptions.last calls).makeApplicationKeyAppleFN = some true → mapped 0x15d = 0x3f

namespace ADBState

variable (mapped : ℕ → UInt8)

/-- The working copy a single dictionary makes of a fresh one. -/
def single (d : ADBOptions) : ADBState := (fresh mapped).setParamPropertiesGated mapped d

theorem foldl_flag (calls : List ADBOptions) (s : ADBState) :
    (calls.foldl (setParamPropertiesGated mapped) s).swapcommandoption =
      (ADBOptions.last calls).swapCommandOption.getD s.swapcommandoption := by
  induction calls generalizing s with
  | nil => rfl
  | cons d calls ih =>
      rw [List.foldl_cons, ih, set_flag, isOption_swap.last_cons]
      cases (ADBOptions.last calls).swapCommandOption <;> rfl

/-- A slot that one option decides is decided by its last value. -/
theorem foldl_slot {i t f : ℕ} {g : ADBOptions → Option Bool} (h : slotOption i = some (g, t, f))
    (calls : List ADBOptions) (s : ADBState) :
    (calls.foldl (setParamPropertiesGated mapped) s).map i =
      choose (g (.last calls)) (mapped t) (mapped f) (s.map i) := by
  have hg := slotOption_isOption h
  induction calls generalizing s with
  | nil =>
      rw [show g (.last []) = none from hg.nothing]
      rfl
  | cons d calls ih => rw [List.foldl_cons, ih, set_slot mapped s d h, hg.last_cons, choose_or]

/-- The slot of right alt without Hangul. -/
theorem foldl_rightAlt (calls : List ADBOptions) (s : ADBState)
    (h : ∀ e ∈ calls, e.makeRightModsHangulHanja = none) :
    (calls.foldl (setParamPropertiesGated mapped) s).map 0x138 =
      choose (ADBOptions.last calls).swapCommandOption (mapped 0x15c) (mapped 0x138)
        (s.map 0x138) := by
  induction calls generalizing s with
  | nil => rfl
  | cons d calls ih =>
      obtain ⟨hd, hcalls⟩ := List.forall_mem_cons.mp h
      rw [List.foldl_cons, ih _ hcalls, set_rightAlt, hd, isOption_swap.last_cons, choose_or]
      rfl

/-- The slot of the Application key when nobody writes it. -/
theorem foldl_applicationKey (calls : List ADBOptions) (s : ADBState)
    (h : ∀ e ∈ calls, ¬ GivesApplicationKey e) :
    (calls.foldl (setParamPropertiesGated mapped) s).map 0x15d = s.map 0x15d := by
  induction calls generalizing s with
  | nil => rfl
  | cons d calls ih =>
      obtain ⟨hd, hcalls⟩ := List.forall_mem_cons.mp h
      obtain ⟨hw, hf⟩ := not_or.mp hd
      rw [List.foldl_cons, ih _ hcalls, set_applicationKey, not_not.mp hw, not_not.mp hf]
      rfl

variable {mapped} {calls earlier later : List ADBOptions} {d : ADBOptions}

/-- The slot of right alt, when Hangul was last given by `d`. -/
theorem rightAlt_of_lastWith
    (h : LastWith (fun d => d.makeRightModsHangulHanja ≠ none) calls earlier d later) :
    (afterCalls mapped calls).map 0x138 = (single mapped (.last calls)).map 0x138 ↔
      (d.makeRightModsHangulHanja = some true →
        (∀ e ∈ later, e.swapCommandOption = none) ∨
          mapped 0xf2 =
            mapped (if (ADBOptions.last calls).swapCommandOption = some true then 0x15c
              else 0x138)) := by
  obtain ⟨rfl, hd, hl⟩ := h
  have hl' : ∀ e ∈ later, e.makeRightModsHangulHanja = none := fun e he => not_not.mp (hl e he)
  have hlast : (ADBOptions.last (earlier ++ d :: later)).makeRightModsHangulHanja =
      d.makeRightModsHangulHanja := by
    rw [isOption_hangul.last_append, isOption_hangul.last_cons,
      (isOption_hangul.last_eq_none_iff later).mpr hl']
    cases hh : d.makeRightModsHangulHanja with
    | none => exact absurd hh hd
    | some b => rfl
  have hswap : (ADBOptions.last (earlier ++ d :: later)).swapCommandOption =
      (ADBOptions.last later).swapCommandOption.or
        (d.swapCommandOption.or (ADBOptions.last earlier).swapCommandOption) := by
    rw [isOption_swap.last_append, isOption_swap.last_cons, Option.or_assoc]
  have hflag := foldl_flag mapped earlier (fresh mapped)
  rw [afterCalls, List.foldl_append, List.foldl_cons, foldl_rightAlt mapped later _ hl',
    set_rightAlt, hflag, single, set_rightAlt, hlast, hswap, ← isOption_swap.last_eq_none_iff]
  cases hh : d.makeRightModsHangulHanja with
  | none => exact absurd hh hd
  | some b =>
      cases hsl : (ADBOptions.last later).swapCommandOption with
      | none =>
          cases b with
          | true => simp [choose]
          | false =>
              refine iff_of_true ?_ nofun
              rcases d.swapCommandOption with _ | _ | _ <;> rfl
      | some c =>
          cases b with
          | true => cases c <;> simp [choose, @eq_comm _ (mapped 0xf2)]
          | false => cases c <;> simp [choose]

theorem rightAlt_iff (mapped : ℕ → UInt8) (calls : List ADBOptions) :
    (afterCalls mapped calls).map 0x138 = (single mapped (.last calls)).map 0x138 ↔
      ∀ earlier d later,
        LastWith (fun d => d.makeRightModsHangulHanja ≠ none) calls earlier d later →
          d.makeRightModsHangulHanja = some true →
            (∀ e ∈ later, e.swapCommandOption = none) ∨
              mapped 0xf2 =
                mapped (if (ADBOptions.last calls).swapCommandOption = some true then 0x15c
                  else 0x138) := by
  refine ⟨fun h earlier d later hd => (rightAlt_of_lastWith hd).mp h, fun h => ?_⟩
  rcases exists_lastWith (fun d => d.makeRightModsHangulHanja ≠ none) calls with
    hnone | ⟨earlier, d, later, hd⟩
  · have hnone' : ∀ e ∈ calls, e.makeRightModsHangulHanja = none :=
      fun e he => not_not.mp (hnone e he)
    rw [afterCalls, foldl_rightAlt mapped calls _ hnone', single, set_rightAlt,
      (isOption_hangul.last_eq_none_iff calls).mpr hnone']
    rfl
  · exact (rightAlt_of_lastWith hd).mpr (h earlier d later hd)

/-- The slot of the Application key, when `d` was the last to write it. -/
theorem applicationKey_of_lastWith (h : LastWith GivesApplicationKey calls earlier d later) :
    (afterCalls mapped calls).map 0x15d = (single mapped (.last calls)).map 0x15d ↔
      (d.makeApplicationKeyRightWindows = some true →
        (ADBOptions.last (earlier ++ [d])).swapCommandOption.getD false =
          (ADBOptions.last calls).swapCommandOption.getD false) ∧
      (d.makeApplicationKeyRightWindows = none → ∀ f, d.makeApplicationKeyAppleFN = some f →
        (ADBOptions.last calls).makeApplicationKeyRightWindows = some true →
          (if f then 0x3f else mapped 0x15d) =
            if (ADBOptions.last calls).swapCommandOption.getD false then 0x3d else 0x36) ∧
      (d.makeApplicationKeyRightWindows = some false → d.makeApplicationKeyAppleFN = none →
        (ADBOptions.last calls).makeApplicationKeyAppleFN = some true → mapped 0x15d = 0x3f) := by
  obtain ⟨rfl, hd, hl⟩ := h
  have hw : (ADBOptions.last (earlier ++ d :: later)).makeApplicationKeyRightWindows =
      d.makeApplicationKeyRightWindows.or
        (ADBOptions.last earlier).makeApplicationKeyRightWindows := by
    rw [isOption_windows.last_append, isOption_windows.last_cons,
      (isOption_windows.last_eq_none_iff later).mpr
        (fun e he => not_not.mp (not_or.mp (hl e he)).1), Option.none_or]
  have hf : (ADBOptions.last (earlier ++ d :: later)).makeApplicationKeyAppleFN =
      d.makeApplicationKeyAppleFN.or (ADBOptions.last earlier).makeApplicationKeyAppleFN := by
    rw [isOption_appleFN.last_append, isOption_appleFN.last_cons,
      (isOption_appleFN.last_eq_none_iff later).mpr
        (fun e he => not_not.mp (not_or.mp (hl e he)).2), Option.none_or]
  have hflag := foldl_flag mapped (earlier ++ [d]) (fresh mapped)
  rw [List.foldl_append, List.foldl_cons, List.foldl_nil, set_flag] at hflag
  rw [afterCalls, List.foldl_append, List.foldl_cons, foldl_applicationKey mapped later _ hl,
    set_applicationKey, hflag, single, set_applicationKey, hw, hf]
  have hb : (fresh mapped).swapcommandoption = false := rfl
  rw [hb]
  generalize (ADBOptions.last (earlier ++ [d])).swapCommandOption.getD false = x
  generalize (ADBOptions.last (earlier ++ d :: later)).swapCommandOption.getD false = y
  generalize (ADBOptions.last earlier).makeApplicationKeyRightWindows = w
  generalize (ADBOptions.last earlier).makeApplicationKeyAppleFN = g
  unfold GivesApplicationKey at hd
  generalize d.makeApplicationKeyRightWindows = dw at *
  generalize d.makeApplicationKeyAppleFN = df at *
  rcases dw with _ | _ | _
  · rcases df with _ | f
    · simp at hd
    · rcases w with _ | _ | _ <;> cases f <;> simp [choose]
  · rcases df with _ | f
    · rcases g with _ | _ | _ <;> simp [choose]
    · simp [choose]
  · cases x <;> cases y <;> simp

theorem applicationKey_iff (mapped : ℕ → UInt8) (calls : List ADBOptions) :
    (afterCalls mapped calls).map 0x15d = (single mapped (.last calls)).map 0x15d ↔
      ∀ earlier d later, LastWith GivesApplicationKey calls earlier d later →
        (d.makeApplicationKeyRightWindows = some true →
          (ADBOptions.last (earlier ++ [d])).swapCommandOption.getD false =
            (ADBOptions.last calls).swapCommandOption.getD false) ∧
        (d.makeApplicationKeyRightWindows = none → ∀ f, d.makeApplicationKeyAppleFN = some f →
          (ADBOptions.last calls).makeApplicationKeyRightWindows = some true →
            (if f then 0x3f else mapped 0x15d) =
              if (ADBOptions.last calls).swapCommandOption.getD false then 0x3d else 0x36) ∧
        (d.makeApplicationKeyRightWindows = some false → d.makeApplicationKeyAppleFN = none →
          (ADBOptions.last calls).makeApplicationKeyAppleFN = some true →
            mapped 0x15d = 0x3f) := by
  refine ⟨fun h earlier d later hd => (applicationKey_of_lastWith hd).mp h, fun h => ?_⟩
  rcases exists_lastWith GivesApplicationKey calls with hnone | ⟨earlier, d, later, hd⟩
  · have hw := (isOption_windows.last_eq_none_iff calls).mpr
      (fun e he => not_not.mp (not_or.mp (hnone e he)).1)
    have hf := (isOption_appleFN.last_eq_none_iff calls).mpr
      (fun e he => not_not.mp (not_or.mp (hnone e he)).2)
    rw [afterCalls, foldl_applicationKey mapped calls _ hnone, single, set_applicationKey, hw, hf]
    rfl
  · exact (applicationKey_of_lastWith hd).mpr (h earlier d later hd)

/-- Only the two shared slots depend on the history. -/
theorem map_eq_of_shared (h1 : (afterCalls mapped calls).map 0x138 =
      (single mapped (.last calls)).map 0x138)
    (h2 : (afterCalls mapped calls).map 0x15d = (single mapped (.last calls)).map 0x15d) :
    (afterCalls mapped calls).map = (single mapped (.last calls)).map := by
  funext i
  cases hi : slotOption i with
  | some o =>
      obtain ⟨g, t, f⟩ := o
      rw [afterCalls, foldl_slot mapped hi, single, set_slot mapped _ _ hi]
  | none =>
      by_cases hi1 : i = 0x138
      · rw [hi1, h1]
      · by_cases hi2 : i = 0x15d
        · rw [hi2, h2]
        · have hconst (s : ADBState) :
              (calls.foldl (setParamPropertiesGated mapped) s).map i = s.map i := by
            clear h1 h2
            induction calls generalizing s with
            | nil => rfl
            | cons d calls ih => rw [List.foldl_cons, ih, set_other mapped s d hi hi1 hi2]
          rw [afterCalls, hconst, single, set_other mapped _ _ hi hi1 hi2]

/-- After any sequence of dictionaries the working copy is the one that a single dictionary with
the last values makes of a fresh copy, if and only if the last writers of the two shared slots
agree with it. -/
theorem map_eq_iff (mapped : ℕ → UInt8) (calls : List ADBOptions) :
    (afterCalls mapped calls).map =
        ((fresh mapped).setParamPropertiesGated mapped (.last calls)).map ↔
      LastWritersAgree mapped calls := by
  constructor
  · intro h
    have h1 := (rightAlt_iff mapped calls).mp (congrFun h 0x138)
    have h2 := (applicationKey_iff mapped calls).mp (congrFun h 0x15d)
    exact ⟨h1, fun e d l hd => (h2 e d l hd).1, fun e d l hd => (h2 e d l hd).2.1,
      fun e d l hd => (h2 e d l hd).2.2⟩
  · intro h
    refine map_eq_of_shared ((rightAlt_iff mapped calls).mpr h.rightAlt) ?_
    exact (applicationKey_iff mapped calls).mpr (fun e d l hd =>
      ⟨h.windows e d l hd, h.appleFN e d l hd, h.notWindows e d l hd⟩)

/-- Hangul first, then the swap of command and option. -/
def hangulThenSwap : List ADBOptions :=
  [{ ADBOptions.nothing with makeRightModsHangulHanja := some true },
    { ADBOptions.nothing with swapCommandOption := some false }]

/-- Right alt is Hangul in the single dictionary and the plain right option key after the two. -/
theorem history_matters :
    ¬ ∀ (mapped : ℕ → UInt8) (calls : List ADBOptions),
      (afterCalls mapped calls).map =
        ((fresh mapped).setParamPropertiesGated mapped (.last calls)).map := by
  intro h
  have h138 := congrFun (h stockCode hangulThenSwap) 0x138
  revert h138
  decide +kernel

end ADBState

end VoodooPS2.Keyboard
