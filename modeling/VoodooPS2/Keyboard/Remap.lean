import Mathlib.Data.List.TakeWhile
import VoodooPS2.Keyboard.Decoder
import VoodooPS2.Keyboard.FunctionKeys
import VoodooPS2.Lib.Reading

/-! # The language of the remap loaders

`parseHex` accumulates digits in 32 bits, so a numeral counts by its remainder.  `hexValue` is what
the numeral stands for; `parseHex_eq` and `parseRemap_eq_some_iff` say what is read of a text in
terms of it.

`loaders_exact_iff`: each of the three loaders takes exactly the entries of its language, with their
true values, unless the text has an overlong numeral whose remainder is in range: modulo `2 ^ 32`,
and for `loadBreaklessPS2`, which narrows before it checks, modulo `2 ^ 16`. -/

namespace VoodooPS2.Keyboard

/-! ### Numerals -/

def isHexDigit (c : UInt8) : Bool := (hexDigit c).isSome

/-- The number that digits after the number `n` stand for. -/
def hexValueFrom (n : ℕ) (digits : List UInt8) : ℕ :=
  digits.foldl (fun n c => 16 * n + ((hexDigit c).getD 0).toNat) n

/-- The number that a numeral stands for; no digits are zero. -/
def hexValue (digits : List UInt8) : ℕ := hexValueFrom 0 digits

def IsHex (digits : List UInt8) : Prop := ∀ c ∈ digits, isHexDigit c = true

instance (digits : List UInt8) : Decidable (IsHex digits) :=
  inferInstanceAs (Decidable (∀ c ∈ digits, _))

/-- The loop stops here: at the end or at a terminator. -/
def Stops (term1 term2 : UInt8) : List UInt8 → Prop
  | [] => True
  | c :: _ => c = term1 ∨ c = term2

instance (term1 term2 : UInt8) : (psz : List UInt8) → Decidable (Stops term1 term2 psz)
  | [] => .isTrue trivial
  | c :: _ => inferInstanceAs (Decidable (c = term1 ∨ c = term2))

/-- One digit more, in 32 bits. -/
theorem accumulate (n : ℕ) (d : UInt32) :
    (UInt32.ofNat n <<< 4) + d = UInt32.ofNat (16 * n + d.toNat) := by
  have hshift : 2 ^ (UInt32.toNat 4 % 32) = 16 := rfl
  apply UInt32.toNat_inj.mp
  rw [UInt32.toNat_add, UInt32.toNat_shiftLeft, UInt32.toNat_ofNat', UInt32.toNat_ofNat',
    Nat.shiftLeft_eq, hshift]
  omega

theorem parseHexFrom_eq {term1 term2 : UInt8} (h1 : hexDigit term1 = none)
    (h2 : hexDigit term2 = none) (n : ℕ) (psz : List UInt8) :
    parseHexFrom term1 term2 (UInt32.ofNat n) psz =
      if Stops term1 term2 (psz.dropWhile isHexDigit) then
        some (psz.dropWhile isHexDigit,
          UInt32.ofNat (hexValueFrom n (psz.takeWhile isHexDigit)))
      else none := by
  induction psz generalizing n with
  | nil => rfl
  | cons c psz ih =>
      rw [parseHexFrom]
      cases hc : hexDigit c with
      | none =>
          have hd : isHexDigit c = false := by rw [isHexDigit, hc]; rfl
          rw [List.dropWhile_cons_of_neg (by simp [hd]), List.takeWhile_cons_of_neg (by simp [hd])]
          rfl
      | some d =>
          have hd : isHexDigit c = true := by rw [isHexDigit, hc]; rfl
          have hne : ¬ (c = term1 ∨ c = term2) := by
            rintro (rfl | rfl)
            · exact nomatch hc.symm.trans h1
            · exact nomatch hc.symm.trans h2
          rw [if_neg hne, List.dropWhile_cons_of_pos hd, List.takeWhile_cons_of_pos hd]
          change parseHexFrom term1 term2 ((UInt32.ofNat n <<< 4) + d) psz = _
          rw [accumulate, ih, hexValueFrom, hexValueFrom, List.foldl_cons, hc]
          rfl

theorem parseHex_eq {term1 term2 : UInt8} (h1 : hexDigit term1 = none)
    (h2 : hexDigit term2 = none) (psz : List UInt8) :
    parseHex psz term1 term2 =
      if Stops term1 term2 (psz.dropWhile isHexDigit) then
        some (psz.dropWhile isHexDigit, UInt32.ofNat (hexValue (psz.takeWhile isHexDigit)))
      else none :=
  parseHexFrom_eq h1 h2 0 psz

/-! ### Entries as texts -/

/-- What may follow an entry: nothing, or a terminator and any text. -/
def EndsEntry (tail : List UInt8) : Prop := Stops '\n'.toUInt8 ';'.toUInt8 tail

instance (tail : List UInt8) : Decidable (EndsEntry tail) :=
  inferInstanceAs (Decidable (Stops _ _ tail))

/-- The text is a numeral. -/
def IsNumber (psz digits : List UInt8) : Prop :=
  IsHex digits ∧ ∃ tail, EndsEntry tail ∧ psz = digits ++ tail

/-- The text is `digits1=digits2`. -/
def IsRemap (psz digits1 digits2 : List UInt8) : Prop :=
  IsHex digits1 ∧ ∃ rest, IsNumber rest digits2 ∧ psz = digits1 ++ '='.toUInt8 :: rest

theorem not_isHexDigit {c : UInt8} (h : hexDigit c = none) : ¬ isHexDigit c = true := by
  rw [isHexDigit, h]
  exact Bool.false_ne_true

/-- Digits before something else are all the digits of a text. -/
theorem takeWhile_digits {digits rest : List UInt8} (h : IsHex digits)
    (hrest : ∀ c ∈ rest.head?, ¬ isHexDigit c = true) :
    (digits ++ rest).takeWhile isHexDigit = digits ∧
      (digits ++ rest).dropWhile isHexDigit = rest := by
  rw [List.takeWhile_append_of_pos h, List.dropWhile_append_of_pos h]
  cases rest with
  | nil => exact ⟨List.append_nil _, rfl⟩
  | cons c rest =>
      have hc := hrest c rfl
      rw [List.takeWhile_cons_of_neg hc, List.dropWhile_cons_of_neg hc]
      exact ⟨List.append_nil _, rfl⟩

theorem isHex_takeWhile (psz : List UInt8) : IsHex (psz.takeWhile isHexDigit) :=
  fun _ hc => List.mem_takeWhile_imp hc

theorem EndsEntry.not_digit {tail : List UInt8} (h : EndsEntry tail) :
    ∀ c ∈ tail.head?, ¬ isHexDigit c = true := by
  cases tail with
  | nil => exact nofun
  | cons c tail =>
      rintro _ ⟨⟩
      rcases h with rfl | rfl
      · exact not_isHexDigit (by decide)
      · exact not_isHexDigit (by decide)

/-- The numeral that a text is, is made of all its first digits. -/
theorem isNumber_iff {psz digits : List UInt8} :
    IsNumber psz digits ↔
      digits = psz.takeWhile isHexDigit ∧ EndsEntry (psz.dropWhile isHexDigit) := by
  constructor
  · rintro ⟨hdigits, tail, htail, rfl⟩
    obtain ⟨htake, hdrop⟩ := takeWhile_digits hdigits htail.not_digit
    rw [htake, hdrop]
    exact ⟨rfl, htail⟩
  · rintro ⟨rfl, htail⟩
    exact ⟨isHex_takeWhile psz, _, htail, List.takeWhile_append_dropWhile.symm⟩

theorem isRemap_iff {psz digits1 digits2 : List UInt8} :
    IsRemap psz digits1 digits2 ↔
      digits1 = psz.takeWhile isHexDigit ∧
        ∃ rest, psz.dropWhile isHexDigit = '='.toUInt8 :: rest ∧ IsNumber rest digits2 := by
  constructor
  · rintro ⟨hdigits, rest, hrest, rfl⟩
    have hequal : ∀ c ∈ ('='.toUInt8 :: rest).head?, ¬ isHexDigit c = true := by
      rintro _ ⟨⟩
      exact not_isHexDigit (by decide)
    obtain ⟨htake, hdrop⟩ := takeWhile_digits hdigits hequal
    rw [htake, hdrop]
    exact ⟨rfl, rest, rfl, hrest⟩
  · rintro ⟨rfl, rest, hdrop, hrest⟩
    refine ⟨isHex_takeWhile psz, rest, hrest, ?_⟩
    rw [← hdrop, List.takeWhile_append_dropWhile]

/-- `parseHex` for the end of an entry. -/
theorem parseHex_eq_some_iff {psz : List UInt8} {n : UInt32} :
    (∃ rest, parseHex psz '\n'.toUInt8 ';'.toUInt8 = some (rest, n)) ↔
      ∃ digits, IsNumber psz digits ∧ n = UInt32.ofNat (hexValue digits) := by
  rw [parseHex_eq (by decide) (by decide)]
  constructor
  · rintro ⟨rest, h⟩
    split at h
    · rename_i hends
      cases h
      exact ⟨_, isNumber_iff.mpr ⟨rfl, hends⟩, rfl⟩
    · cases h
  · rintro ⟨digits, hnumber, rfl⟩
    obtain ⟨rfl, hends⟩ := isNumber_iff.mp hnumber
    exact ⟨_, if_pos hends⟩

/-- The check of a number that has been read. -/
theorem not_overflows_iff (n : ℕ) : ¬ 0xFFFF < UInt32.ofNat n ↔ n % 2 ^ 32 < 2 ^ 16 := by
  have h16 : (0xFFFF : UInt32).toNat = 2 ^ 16 - 1 := rfl
  rw [UInt32.lt_iff_toNat_lt, UInt32.toNat_ofNat', h16]
  omega

theorem toUInt16_ofNat (n : ℕ) : (UInt32.ofNat n).toUInt16 = UInt16.ofNat (n % 2 ^ 32) := by
  apply UInt16.toNat_inj.mp
  rw [UInt32.toNat_toUInt16, UInt32.toNat_ofNat', UInt16.toNat_ofNat']

/-- `parseRemap` takes the texts of two numerals whose remainders fit in 16 bits. -/
theorem parseRemap_eq_some_iff {psz : List UInt8} {scanFrom scanTo : UInt16} :
    parseRemap psz = some (scanFrom, scanTo) ↔
      ∃ digits1 digits2, IsRemap psz digits1 digits2 ∧
        hexValue digits1 % 2 ^ 32 < 2 ^ 16 ∧ hexValue digits2 % 2 ^ 32 < 2 ^ 16 ∧
        scanFrom = UInt16.ofNat (hexValue digits1 % 2 ^ 32) ∧
        scanTo = UInt16.ofNat (hexValue digits2 % 2 ^ 32) := by
  rw [parseRemap, parseHex_eq (by decide) (by decide)]
  constructor
  · intro h
    by_cases hstops : Stops '='.toUInt8 0 (psz.dropWhile isHexDigit)
    swap
    · rw [if_neg hstops] at h
      cases h
    rw [if_pos hstops] at h
    dsimp only at h
    split at h
    · cases h
    rename_i hfirst
    obtain ⟨hequal, hfrom⟩ := not_or.mp hfirst
    obtain ⟨rest, hrest⟩ := List.head?_eq_some_iff.mp (not_not.mp hequal)
    split at h
    · cases h
    rename_i rest2 n2 h2
    split at h
    · cases h
    rename_i hto
    obtain ⟨digits2, hnumber, rfl⟩ := parseHex_eq_some_iff.mp ⟨rest2, h2⟩
    obtain ⟨rfl, rfl⟩ := Prod.mk.inj (Option.some.inj h)
    rw [hrest] at hnumber
    exact ⟨_, digits2, isRemap_iff.mpr ⟨rfl, rest, hrest, hnumber⟩,
      (not_overflows_iff _).mp hfrom, (not_overflows_iff _).mp hto, toUInt16_ofNat _,
      toUInt16_ofNat _⟩
  · rintro ⟨digits1, digits2, hremap, hfrom, hto, rfl, rfl⟩
    obtain ⟨rfl, rest, hrest, hnumber⟩ := isRemap_iff.mp hremap
    obtain ⟨rest2, h2⟩ := parseHex_eq_some_iff.mpr ⟨digits2, hnumber, rfl⟩
    have hstops : Stops '='.toUInt8 0 (psz.dropWhile isHexDigit) := by
      rw [hrest]
      exact .inl rfl
    have hfirst : ¬ (('='.toUInt8 :: rest).head? ≠ some '='.toUInt8 ∨
        0xFFFF < UInt32.ofNat (hexValue (psz.takeWhile isHexDigit))) :=
      not_or.mpr ⟨not_not_intro rfl, (not_overflows_iff _).mpr hfrom⟩
    rw [if_pos hstops]
    dsimp only
    rw [hrest, if_neg hfirst, List.tail_cons, h2]
    dsimp only
    rw [if_neg ((not_overflows_iff _).mpr hto), toUInt16_ofNat, toUInt16_ofNat]

/-! ### The other loaders -/

def ADB_CONVERTER_EX_START : ℕ := 256

/-- The slot and the code that one entry of an ADB map array gives, if it is accepted. -/
def adbMapEntry (entry : OSObject) : Option (ℕ × UInt8) :=
  match OSObject.asString (some entry) with
  | none => none
  | some psz =>
      if psz.chars.head? = some ';'.toUInt8 then none
      else
        match parseRemap psz.chars with
        | none => none
        | some (scanIn, adbOut) =>
            let exIn := (scanIn >>> 8).toUInt8
            if (exIn ≠ 0 ∧ exIn ≠ 0xe0) ∨ 0xFF < adbOut then none
            else
              some ((scanIn &&& 0xff).toNat + (if exIn = 0xe0 then ADB_CONVERTER_EX_START else 0),
                adbOut.toUInt8)

def loadCustomADBMap (map : ℕ → UInt8) (pArray : Option (List OSObject)) : ℕ → UInt8 :=
  match pArray with
  | none => map
  | some objects =>
      objects.foldl
        (fun map entry =>
          match adbMapEntry entry with
          | none => map
          | some (index, code) => Function.update map index code) map

/-- The slot that one entry of a breakless array gives, if it is accepted. -/
def breaklessEntry (entry : OSObject) : Option ℕ :=
  match OSObject.asString (some entry) with
  | none => none
  | some psz =>
      if psz.chars.head? = some ';'.toUInt8 then none
      else
        match parseHex psz.chars '\n'.toUInt8 ';'.toUInt8 with
        | none => none
        | some (_, scanIn) =>
            let exIn := (scanIn >>> 8).toUInt8
            if exIn ≠ 0 ∧ exIn ≠ 0xe0 then none
            else
              some ((scanIn &&& 0xff).toNat + (if exIn = 0xe0 then KBV_NUM_SCANCODES else 0))

def loadBreaklessPS2 (flags : ℕ → UInt16) (pArray : Option (List OSObject)) : ℕ → UInt16 :=
  match pArray with
  | none => flags
  | some objects =>
      objects.foldl
        (fun flags entry =>
          match breaklessEntry entry with
          | none => flags
          | some index => Function.update flags index (flags index ||| kBreaklessKey)) flags

/-! ### Scan codes -/

/-- A scan code, or one behind the prefix `E0`. -/
def IsScanCode (n : ℕ) : Prop := n / 256 = 0 ∨ n / 256 = 0xe0

instance (n : ℕ) : Decidable (IsScanCode n) := inferInstanceAs (Decidable (_ ∨ _))

/-- The slot of a scan code. -/
def slotOf (n : ℕ) : ℕ := n % 256 + if n / 256 = 0xe0 then 256 else 0

theorem IsScanCode.lt {n : ℕ} (h : IsScanCode n) : n < 2 ^ 16 := by
  rcases h with h | h <;> omega

/-- The high byte of a number of 16 bits. -/
theorem high_ofNat {n : ℕ} (h : n < 2 ^ 16) (c : UInt8) :
    (UInt16.ofNat n >>> 8).toUInt8 = c ↔ n / 256 = c.toNat := by
  have hshift : UInt16.toNat 8 % 16 = 8 := rfl
  have hhigh : ((UInt16.ofNat n >>> 8).toUInt8).toNat = n / 256 := by
    rw [UInt16.toNat_toUInt8, UInt16.toNat_shiftRight, UInt16.toNat_ofNat_of_lt' h, hshift,
      Nat.shiftRight_eq_div_pow]
    omega
  rw [← UInt8.toNat_inj, hhigh]

/-- The check of a scan code. -/
theorem not_invalid_iff {n : ℕ} (h : n < 2 ^ 16) :
    ¬ ((UInt16.ofNat n >>> 8).toUInt8 ≠ 0 ∧ (UInt16.ofNat n >>> 8).toUInt8 ≠ 0xe0) ↔
      IsScanCode n := by
  rw [not_and_or, not_not, not_not, high_ofNat h, high_ofNat h]
  rfl

theorem low_ofNat {n : ℕ} (h : n < 2 ^ 16) : (UInt16.ofNat n &&& 0xff).toNat = n % 256 := by
  rw [UInt16.toNat_and, UInt16.toNat_ofNat_of_lt' h]
  exact Nat.and_two_pow_sub_one_eq_mod n 8

/-- The slot of a scan code that has been read. -/
theorem slotOf_eq {n : ℕ} (h : n < 2 ^ 16) :
    ((UInt16.ofNat n &&& 0xff).toNat + if (UInt16.ofNat n >>> 8).toUInt8 = 0xe0 then 256 else 0) =
      slotOf n := by
  rw [low_ofNat h, slotOf]
  exact congrArg _ (if_congr (high_ofNat h 0xe0) rfl rfl)

theorem ofNat_slotOf {n : ℕ} (h : n < 2 ^ 16) :
    (UInt16.ofNat n &&& 0xff) + (if (UInt16.ofNat n >>> 8).toUInt8 = 0xe0 then 256 else 0) =
      UInt16.ofNat (slotOf n) := by
  apply UInt16.toNat_inj.mp
  rw [UInt16.toNat_add, UInt16.toNat_ofNat', ← slotOf_eq h]
  split <;> rfl

/-! ### What each loader reads -/

/-- The only entry of an array. -/
def single (psz : CString) : Option (List OSObject) := some [.string psz]

/-- The text is not a comment. -/
def IsEntry (psz : CString) : Prop := psz.chars.head? ≠ some ';'.toUInt8

/-- The values of a remap. -/
def Remaps (psz : CString) (values : ℕ × ℕ) : Prop :=
  IsEntry psz ∧ ∃ digits1 digits2, IsRemap psz.chars digits1 digits2 ∧
    values = (hexValue digits1, hexValue digits2)

/-- The value of a scan code alone. -/
def Scans (psz : CString) (value : ℕ) : Prop :=
  IsEntry psz ∧ ∃ digits, IsNumber psz.chars digits ∧ value = hexValue digits

theorem remaps_unique {psz : CString} {v w : ℕ × ℕ} (hv : Remaps psz v) (hw : Remaps psz w) :
    v = w := by
  obtain ⟨-, a1, a2, ha, rfl⟩ := hv
  obtain ⟨-, b1, b2, hb, rfl⟩ := hw
  obtain ⟨rfl, rest, hrest, ha2⟩ := isRemap_iff.mp ha
  obtain ⟨rfl, rest', hrest', hb2⟩ := isRemap_iff.mp hb
  obtain rfl : rest = rest' := (List.cons.inj (hrest.symm.trans hrest')).2
  rw [(isNumber_iff.mp ha2).1, (isNumber_iff.mp hb2).1]

theorem scans_unique {psz : CString} {v w : ℕ} (hv : Scans psz v) (hw : Scans psz w) : v = w := by
  obtain ⟨-, a, ha, rfl⟩ := hv
  obtain ⟨-, b, hb, rfl⟩ := hw
  rw [(isNumber_iff.mp ha).1, (isNumber_iff.mp hb).1]

/-- The values are in the range of the PS2 map, or of the ADB map. -/
def InPS2Range (v : ℕ × ℕ) : Prop := IsScanCode v.1 ∧ IsScanCode v.2

def InADBRange (v : ℕ × ℕ) : Prop := IsScanCode v.1 ∧ v.2 ≤ 0xff

/-- A pair of values in 32 bits. -/
def reduce32 (v : ℕ × ℕ) : ℕ × ℕ := (v.1 % 2 ^ 32, v.2 % 2 ^ 32)

/-- An entry that is read by `parseRemap`, with what becomes of the two codes. -/
theorem remapEntry_eq_some_iff {W : Type} {psz : CString} {entry : Option W}
    (take : UInt16 → UInt16 → Option W) (InRange : ℕ × ℕ → Prop) (out : ℕ × ℕ → W)
    (hentry : entry = if psz.chars.head? = some ';'.toUInt8 then none
      else (parseRemap psz.chars).bind fun codes => take codes.1 codes.2)
    (hlt : ∀ v, InRange v → v.1 < 2 ^ 16 ∧ v.2 < 2 ^ 16)
    (htake : ∀ a b, a < 2 ^ 16 → b < 2 ^ 16 → ∀ w,
      take (UInt16.ofNat a) (UInt16.ofNat b) = some w ↔ InRange (a, b) ∧ w = out (a, b)) (w : W) :
    entry = some w ↔ ∃ v, Remaps psz v ∧ InRange (reduce32 v) ∧ w = out (reduce32 v) := by
  rw [hentry]
  by_cases hcomment : psz.chars.head? = some ';'.toUInt8
  · rw [if_pos hcomment]
    exact ⟨nofun, fun ⟨_, h, _⟩ => absurd hcomment h.1⟩
  rw [if_neg hcomment, Option.bind_eq_some_iff]
  constructor
  · rintro ⟨⟨a, b⟩, hparse, htaken⟩
    obtain ⟨digits1, digits2, hremap, h1, h2, rfl, rfl⟩ := parseRemap_eq_some_iff.mp hparse
    obtain ⟨hin, rfl⟩ := (htake _ _ h1 h2 w).mp htaken
    exact ⟨_, ⟨hcomment, digits1, digits2, hremap, rfl⟩, hin, rfl⟩
  · rintro ⟨_, ⟨-, digits1, digits2, hremap, rfl⟩, hin, rfl⟩
    obtain ⟨h1, h2⟩ := hlt _ hin
    exact ⟨_, parseRemap_eq_some_iff.mpr ⟨digits1, digits2, hremap, h1, h2, rfl, rfl⟩,
      (htake _ _ h1 h2 _).mpr ⟨hin, rfl⟩⟩

theorem ite_none_eq_some_iff {W : Type} {c p : Prop} [Decidable c] {v w : W} (h : ¬ c ↔ p) :
    (if c then none else some v) = some w ↔ p ∧ w = v := by
  by_cases hc : c
  · rw [if_pos hc]
    exact ⟨nofun, fun hp => absurd hc (h.mpr hp.1)⟩
  · rw [if_neg hc, Option.some_inj]
    exact ⟨fun hv => ⟨h.mp hc, hv.symm⟩, fun hp => hp.2.symm⟩

theorem ps2MapEntry_eq_some_iff (psz : CString) (w : ℕ × UInt16) :
    ps2MapEntry (.string psz) = some w ↔
      ∃ v, Remaps psz v ∧ InPS2Range (reduce32 v) ∧
        w = (slotOf (reduce32 v).1, UInt16.ofNat (slotOf (reduce32 v).2)) := by
  let take (scanIn scanOut : UInt16) : Option (ℕ × UInt16) :=
    if ((scanIn >>> 8).toUInt8 ≠ 0 ∧ (scanIn >>> 8).toUInt8 ≠ 0xe0) ∨
        ((scanOut >>> 8).toUInt8 ≠ 0 ∧ (scanOut >>> 8).toUInt8 ≠ 0xe0) then none
    else
      some ((scanIn &&& 0xff).toNat + (if (scanIn >>> 8).toUInt8 = 0xe0 then 256 else 0),
        (scanOut &&& 0xff) + (if (scanOut >>> 8).toUInt8 = 0xe0 then 256 else 0))
  refine remapEntry_eq_some_iff take InPS2Range
    (fun v => (slotOf v.1, UInt16.ofNat (slotOf v.2))) ?_ ?_ ?_ w
  · change (if _ then none else _) = _
    cases parseRemap psz.chars <;> rfl
  · exact fun v h => ⟨h.1.lt, h.2.lt⟩
  · intro a b ha hb w
    dsimp only [take]
    rw [slotOf_eq ha, ofNat_slotOf hb]
    refine ite_none_eq_some_iff ?_
    rw [not_or, not_invalid_iff ha, not_invalid_iff hb]
    rfl

theorem adbMapEntry_eq_some_iff (psz : CString) (w : ℕ × UInt8) :
    adbMapEntry (.string psz) = some w ↔
      ∃ v, Remaps psz v ∧ InADBRange (reduce32 v) ∧
        w = (slotOf (reduce32 v).1, UInt8.ofNat (reduce32 v).2) := by
  let take (scanIn adbOut : UInt16) : Option (ℕ × UInt8) :=
    if ((scanIn >>> 8).toUInt8 ≠ 0 ∧ (scanIn >>> 8).toUInt8 ≠ 0xe0) ∨ 0xFF < adbOut then none
    else
      some ((scanIn &&& 0xff).toNat + (if (scanIn >>> 8).toUInt8 = 0xe0 then 256 else 0),
        adbOut.toUInt8)
  refine remapEntry_eq_some_iff take InADBRange (fun v => (slotOf v.1, UInt8.ofNat v.2)) ?_ ?_ ?_ w
  · change (if _ then none else _) = _
    cases parseRemap psz.chars <;> rfl
  · exact fun v h => ⟨h.1.lt, lt_of_le_of_lt h.2 (by norm_num)⟩
  · intro a b ha hb w
    have hlow : (UInt16.ofNat b).toUInt8 = UInt8.ofNat b := by
      apply UInt8.toNat_inj.mp
      rw [UInt16.toNat_toUInt8, UInt16.toNat_ofNat_of_lt' hb, UInt8.toNat_ofNat']
    have hbyte : ¬ 0xFF < UInt16.ofNat b ↔ b ≤ 0xff := by
      rw [UInt16.lt_iff_toNat_lt, UInt16.toNat_ofNat_of_lt' hb, not_lt]
      rfl
    dsimp only [take]
    rw [slotOf_eq ha, hlow]
    refine ite_none_eq_some_iff ?_
    rw [not_or, not_invalid_iff ha, hbyte]
    rfl

/-- Only the last 16 bits of a number count when its bytes are taken out of it. -/
theorem bytes_ofNat (n : ℕ) :
    (UInt32.ofNat n >>> 8).toUInt8 = (UInt16.ofNat (n % 2 ^ 16) >>> 8).toUInt8 ∧
      (UInt32.ofNat n &&& 0xff).toNat = (UInt16.ofNat (n % 2 ^ 16) &&& 0xff).toNat := by
  have hlt : n % 2 ^ 16 < 2 ^ 16 := Nat.mod_lt n (by norm_num)
  constructor
  · have hshift : UInt32.toNat 8 % 32 = 8 := rfl
    refine Eq.symm ((high_ofNat hlt _).mpr ?_)
    rw [UInt32.toNat_toUInt8, UInt32.toNat_shiftRight, UInt32.toNat_ofNat', hshift,
      Nat.shiftRight_eq_div_pow]
    omega
  · have hmask : (UInt32.ofNat n &&& 0xff).toNat = n % 2 ^ 32 % 256 := by
      rw [UInt32.toNat_and, UInt32.toNat_ofNat']
      exact Nat.and_two_pow_sub_one_eq_mod _ 8
    rw [hmask, low_ofNat hlt]
    omega

/-- A breakless entry counts by the last 16 bits of its value. -/
theorem breaklessEntry_eq_some_iff (psz : CString) (w : ℕ) :
    breaklessEntry (.string psz) = some w ↔
      ∃ v, Scans psz v ∧ IsScanCode (v % 2 ^ 16) ∧ w = slotOf (v % 2 ^ 16) := by
  let take (scanIn : UInt32) : Option ℕ :=
    if (scanIn >>> 8).toUInt8 ≠ 0 ∧ (scanIn >>> 8).toUInt8 ≠ 0xe0 then none
    else some ((scanIn &&& 0xff).toNat + if (scanIn >>> 8).toUInt8 = 0xe0 then 256 else 0)
  have htake (n : ℕ) : take (UInt32.ofNat n) = some w ↔
      IsScanCode (n % 2 ^ 16) ∧ w = slotOf (n % 2 ^ 16) := by
    have hlt : n % 2 ^ 16 < 2 ^ 16 := Nat.mod_lt n (by norm_num)
    dsimp only [take]
    rw [(bytes_ofNat n).1, (bytes_ofNat n).2, slotOf_eq hlt]
    exact ite_none_eq_some_iff (not_invalid_iff hlt)
  have hentry : breaklessEntry (.string psz) = if psz.chars.head? = some ';'.toUInt8 then none
      else (parseHex psz.chars '\n'.toUInt8 ';'.toUInt8).bind fun read => take read.2 := by
    change (if _ then none else _) = _
    cases parseHex psz.chars '\n'.toUInt8 ';'.toUInt8 <;> rfl
  rw [hentry]
  by_cases hcomment : psz.chars.head? = some ';'.toUInt8
  · rw [if_pos hcomment]
    exact ⟨nofun, fun ⟨_, h, _⟩ => absurd hcomment h.1⟩
  rw [if_neg hcomment, Option.bind_eq_some_iff]
  constructor
  · rintro ⟨⟨rest, n⟩, hparse, htaken⟩
    obtain ⟨digits, hnumber, rfl⟩ := parseHex_eq_some_iff.mp ⟨rest, hparse⟩
    exact ⟨_, ⟨hcomment, digits, hnumber, rfl⟩, (htake _).mp htaken⟩
  · rintro ⟨_, ⟨-, digits, hnumber, rfl⟩, htaken⟩
    obtain ⟨rest, hparse⟩ := parseHex_eq_some_iff.mpr ⟨digits, hnumber, rfl⟩
    exact ⟨_, hparse, (htake _).mpr htaken⟩

/-! ### The loaders -/

instance nontrivialUInt16 : Nontrivial UInt16 := ⟨0, 1, by decide⟩

instance nontrivialUInt8 : Nontrivial UInt8 := ⟨0, 1, by decide⟩

/-- Writing one slot of a map. -/
def writeSlot {α : Type} (w : ℕ × α) (map : ℕ → α) : ℕ → α := Function.update map w.1 w.2

/-- Setting the flag of one key. -/
def setBreakless (index : ℕ) (flags : ℕ → UInt16) : ℕ → UInt16 :=
  Function.update flags index (flags index ||| kBreaklessKey)

/-- What an entry for the PS2 map should write. -/
def PS2Write (psz : CString) (w : ℕ × UInt16) : Prop :=
  ∃ v, Remaps psz v ∧ InPS2Range v ∧ w = (slotOf v.1, UInt16.ofNat (slotOf v.2))

/-- What an entry for the ADB map should write. -/
def ADBWrite (psz : CString) (w : ℕ × UInt8) : Prop :=
  ∃ v, Remaps psz v ∧ InADBRange v ∧ w = (slotOf v.1, UInt8.ofNat v.2)

/-- What an entry for the breakless keys should set. -/
def BreaklessWrite (psz : CString) (w : ℕ) : Prop :=
  ∃ v, Scans psz v ∧ IsScanCode v ∧ w = slotOf v

theorem writeSlot_self {α : Type} (w : ℕ × α) (map : ℕ → α) : writeSlot w map w.1 = w.2 :=
  Function.update_self _ _ _

theorem writeSlot_of_ne {α : Type} (w : ℕ × α) (map : ℕ → α) {i : ℕ} (h : i ≠ w.1) :
    writeSlot w map i = map i := Function.update_of_ne h _ _

theorem writeSlot_ne_id {α : Type} [Nontrivial α] (w : ℕ × α) : writeSlot w ≠ id := by
  obtain ⟨x, hx⟩ := exists_ne w.2
  intro h
  have hself := writeSlot_self w fun _ => x
  rw [h] at hself
  exact hx hself

theorem writeSlot_injective {α : Type} [Nontrivial α] :
    Function.Injective (writeSlot : ℕ × α → (ℕ → α) → ℕ → α) := by
  intro v w h
  obtain ⟨x, hx⟩ := exists_ne v.2
  have hslot : writeSlot w (fun _ => x) v.1 = v.2 := by
    rw [← h]
    exact writeSlot_self v _
  by_cases hi : v.1 = w.1
  · rw [hi, writeSlot_self] at hslot
    exact Prod.ext hi hslot.symm
  · rw [writeSlot_of_ne w _ hi] at hslot
    exact absurd hslot hx

theorem setBreakless_apply (index i : ℕ) :
    setBreakless index (fun _ => 0) i = if i = index then kBreaklessKey else 0 := by
  rw [setBreakless, Function.update_apply]
  rfl

theorem setBreakless_ne_id (index : ℕ) : setBreakless index ≠ id := by
  intro h
  have hset := setBreakless_apply index index
  rw [if_pos rfl, h] at hset
  exact absurd hset (show (0 : UInt16) ≠ kBreaklessKey by decide)

theorem setBreakless_injective : Function.Injective setBreakless := by
  intro i j h
  by_contra hij
  have hset := setBreakless_apply j i
  rw [if_neg hij, ← h, setBreakless_apply, if_pos rfl] at hset
  exact absurd hset (by decide)

/-- A pair is reduced to itself if it is in range, and in range when it is, if it has 32 bits. -/
theorem small_iff {InRange : ℕ × ℕ → Prop} (hlt : ∀ v, InRange v → v.1 < 2 ^ 32 ∧ v.2 < 2 ^ 32)
    (v : ℕ × ℕ) : (InRange (reduce32 v) → InRange v) ↔
      (InRange (reduce32 v) → v.1 < 2 ^ 32 ∧ v.2 < 2 ^ 32) := by
  refine imp_congr_right fun hin => ⟨hlt v, fun h => ?_⟩
  rwa [reduce32, Nat.mod_eq_of_lt h.1, Nat.mod_eq_of_lt h.2] at hin

theorem reduce32_of_lt {v : ℕ × ℕ} (h : v.1 < 2 ^ 32 ∧ v.2 < 2 ^ 32) : reduce32 v = v :=
  Prod.ext (Nat.mod_eq_of_lt h.1) (Nat.mod_eq_of_lt h.2)

theorem InPS2Range.lt {v : ℕ × ℕ} (h : InPS2Range v) : v.1 < 2 ^ 32 ∧ v.2 < 2 ^ 32 :=
  ⟨h.1.lt.trans (by norm_num), h.2.lt.trans (by norm_num)⟩

theorem InADBRange.lt {v : ℕ × ℕ} (h : InADBRange v) : v.1 < 2 ^ 32 ∧ v.2 < 2 ^ 32 :=
  ⟨h.1.lt.trans (by norm_num), lt_of_le_of_lt h.2 (by norm_num)⟩

/-- **The loaders take exactly their language**, each with the true values of an entry, unless the
text has a numeral so long that only its remainder is in range. -/
theorem loaders_exact_iff (psz : CString) :
    (Reading.LoadsExactly writeSlot (fun map => loadCustomPS2Map map (single psz))
          (PS2Write psz) ↔
        ∀ v, Remaps psz v → InPS2Range (reduce32 v) → v.1 < 2 ^ 32 ∧ v.2 < 2 ^ 32) ∧
      (Reading.LoadsExactly writeSlot (fun map => loadCustomADBMap map (single psz))
          (ADBWrite psz) ↔
        ∀ v, Remaps psz v → InADBRange (reduce32 v) → v.1 < 2 ^ 32 ∧ v.2 < 2 ^ 32) ∧
      (Reading.LoadsExactly setBreakless (fun flags => loadBreaklessPS2 flags (single psz))
          (BreaklessWrite psz) ↔
        ∀ v, Scans psz v → IsScanCode (v % 2 ^ 16) → v < 2 ^ 16) := by
  have hps2 : (fun map => loadCustomPS2Map map (single psz)) =
      (ps2MapEntry (.string psz)).elim id writeSlot := by
    funext map
    rw [single, loadCustomPS2Map, List.foldl_cons, List.foldl_nil]
    cases ps2MapEntry (.string psz) <;> rfl
  have hadb : (fun map => loadCustomADBMap map (single psz)) =
      (adbMapEntry (.string psz)).elim id writeSlot := by
    funext map
    rw [single, loadCustomADBMap, List.foldl_cons, List.foldl_nil]
    cases adbMapEntry (.string psz) <;> rfl
  have hbreakless : (fun flags => loadBreaklessPS2 flags (single psz)) =
      (breaklessEntry (.string psz)).elim id setBreakless := by
    funext flags
    rw [single, loadBreaklessPS2, List.foldl_cons, List.foldl_nil]
    cases breaklessEntry (.string psz) <;> rfl
  refine ⟨?_, ?_, ?_⟩
  · rw [hps2, Reading.loadsExactly_iff writeSlot_injective writeSlot_ne_id]
    refine (Reading.reduced_iff (fun _ _ => remaps_unique) (fun v h => reduce32_of_lt h.lt)
      (ps2MapEntry_eq_some_iff psz)).trans ?_
    exact forall_congr' fun v => imp_congr_right fun _ => small_iff (fun _ h => h.lt) v
  · rw [hadb, Reading.loadsExactly_iff writeSlot_injective writeSlot_ne_id]
    refine (Reading.reduced_iff (fun _ _ => remaps_unique) (fun v h => reduce32_of_lt h.lt)
      (adbMapEntry_eq_some_iff psz)).trans ?_
    exact forall_congr' fun v => imp_congr_right fun _ => small_iff (fun _ h => h.lt) v
  · rw [hbreakless, Reading.loadsExactly_iff setBreakless_injective setBreakless_ne_id]
    refine (Reading.reduced_iff (fun _ _ => scans_unique) (fun v h => Nat.mod_eq_of_lt h.lt)
      (breaklessEntry_eq_some_iff psz)).trans ?_
    refine forall_congr' fun v => imp_congr_right fun _ => imp_congr_right fun hin => ?_
    exact ⟨fun h => h.lt, fun h => by rwa [Nat.mod_eq_of_lt h] at hin⟩

/-- `10000001d=3a`, whose first numeral is `2 ^ 32 + 0x1d`. -/
def overlong : CString := ⟨text "10000001d=3a".toList, by decide⟩

/-- It remaps the key `0x1d`. -/
theorem overlong_taken :
    ¬ Reading.LoadsExactly writeSlot (fun map => loadCustomPS2Map map (single overlong))
      (PS2Write overlong) := by
  rintro ⟨-, hnone⟩
  have hinvalid : ¬ ∃ w, PS2Write overlong w := by
    rintro ⟨w, _, ⟨-, digits1, digits2, hremap, rfl⟩, hin, -⟩
    obtain ⟨rfl, -⟩ := isRemap_iff.mp hremap
    have hlong : ¬ IsScanCode (hexValue (overlong.chars.takeWhile isHexDigit)) := by
      decide +kernel
    exact hlong hin.1
  have hkept := congrFun (congrFun (hnone hinvalid) fun _ => 0) 0x1d
  exact absurd hkept (by decide +kernel)

end VoodooPS2.Keyboard
