import VoodooPS2.Keyboard.Remap

/-! # Swipe actions (`parseAction`, `sendKeySequence`)

An action is a text such as `3b d, 37 d, 37 u, 3b u`.  `parseAction` packs each item into a word of
an array, its code with bit 12 for a release, and ends the array with a zero; `sendKeySequence`
plays the words up to the zero.  The word of code 0 going down is zero, too.

`round_trip_iff`: the text of a list of items is always accepted, and played as that list exactly if
it does not have code 0 going down; `sendKeySequence_parseAction` says what is played otherwise. -/

namespace VoodooPS2.Keyboard

/-- An ADB code, and whether the key goes down. -/
abbrev ActionItem := UInt8 × Bool

/-- The word for a number and a direction. -/
def actionWord (n : UInt32) (down : Bool) : UInt16 := (n ||| if down then 0 else 0x1000).toUInt16

def failAction (dest : List UInt16) : List UInt16 × Bool := (dest.set 0 0, false)

/-- `while (*psz == ' ')`. -/
def skipBlanks (psz : List UInt8) : List UInt8 := psz.dropWhile (· = ' '.toUInt8)

/-- The loop of `parseAction`, with `room` words from index `i` to the end of the array. -/
def parseActionFrom : ℕ → ℕ → List UInt8 → List UInt16 → List UInt16 × Bool
  | 0, _, _, dest => failAction dest
  | _ + 1, i, [], dest => (dest.set i 0, true)
  | room + 1, i, c :: psz, dest =>
      match parseHex (c :: psz) ' '.toUInt8 0 with
      | some (blank :: direction :: psz, n) =>
          if blank ≠ ' '.toUInt8 ∨ (direction ≠ 'd'.toUInt8 ∧ direction ≠ 'u'.toUInt8) then
            failAction dest
          else
            let dest := dest.set i (actionWord n (direction ≠ 'u'.toUInt8))
            match psz with
            | [] => parseActionFrom room (i + 1) [] dest
            | comma :: psz =>
                if comma ≠ ','.toUInt8 then failAction dest
                else parseActionFrom room (i + 1) (skipBlanks psz) dest
      | _ => failAction dest

/-- `parseAction(psz, dest, countof(dest))`. -/
def parseAction (psz : List UInt8) (dest : List UInt16) : List UInt16 × Bool :=
  parseActionFrom dest.length 0 psz dest

/-- The events that are dispatched: the code and the direction of each word up to the zero. -/
def sendKeySequence : List UInt16 → List ActionItem
  | [] => []
  | key :: keys =>
      if key = 0 then []
      else ((key &&& 0xFF).toUInt8, key &&& 0x1000 = 0) :: sendKeySequence keys

/-! ### Words -/

theorem actionWord_bits : ∀ n < 256, ∀ down : Bool,
    ((actionWord (UInt32.ofNat n) down &&& 0xFF).toUInt8 = UInt8.ofNat n ∧
      decide (actionWord (UInt32.ofNat n) down &&& 0x1000 = 0) = down) ∧
    (actionWord (UInt32.ofNat n) down = 0 ↔ n = 0 ∧ down = true) := by
  decide +kernel

/-- The word of an item. -/
def ActionItem.word (a : ActionItem) : UInt16 := actionWord (UInt32.ofNat a.1.toNat) a.2

theorem word_bits (a : ActionItem) :
    ((a.word &&& 0xFF).toUInt8, decide (a.word &&& 0x1000 = 0)) = a ∧
      (a.word = 0 ↔ a = (0, true)) := by
  obtain ⟨code, down⟩ := a
  obtain ⟨⟨hcode, hdown⟩, hzero⟩ := actionWord_bits code.toNat (UInt8.toNat_lt code) down
  refine ⟨Prod.ext (hcode.trans UInt8.ofNat_toNat) hdown, hzero.trans ?_⟩
  rw [Prod.mk.injEq, ← UInt8.toNat_inj]
  rfl

theorem sendKeySequence_cons (a : ActionItem) (keys : List UInt16) :
    sendKeySequence (a.word :: keys) =
      if a = (0, true) then [] else a :: sendKeySequence keys := by
  obtain ⟨hbits, hzero⟩ := word_bits a
  rw [sendKeySequence, hbits]
  exact if_congr hzero rfl rfl

/-- What is played of the words of some items: the items before the first that is code 0 going
down. -/
theorem sendKeySequence_words (items : List ActionItem) (rest : List UInt16) :
    sendKeySequence (items.map ActionItem.word ++ 0 :: rest) =
      items.takeWhile (· ≠ (0, true)) := by
  induction items with
  | nil => rfl
  | cons a items ih =>
      rw [List.map_cons, List.cons_append, sendKeySequence_cons, ih]
      by_cases ha : a = (0, true)
      · rw [if_pos ha, List.takeWhile_cons_of_neg (by simp [ha])]
      · rw [if_neg ha, List.takeWhile_cons_of_pos (by simp [ha])]

/-! ### Texts -/

/-- A numeral for a code. -/
def IsCode (digits : List UInt8) (code : UInt8) : Prop :=
  digits ≠ [] ∧ IsHex digits ∧ hexValue digits = code.toNat

/-- `d` or `u`. -/
def directionChar (down : Bool) : UInt8 := if down then 'd'.toUInt8 else 'u'.toUInt8

/-- The text of an item. -/
def itemText (digits : List UInt8) (down : Bool) : List UInt8 :=
  digits ++ [' '.toUInt8, directionChar down]

/-- The text is that of the items, joined by `, `; any numeral stands for a code. -/
inductive Renders : List ActionItem → List UInt8 → Prop
  | nil : Renders [] []
  | single {digits : List UInt8} {a : ActionItem} (h : IsCode digits a.1) :
      Renders [a] (itemText digits a.2)
  | cons {digits : List UInt8} {a b : ActionItem} {items : List ActionItem} {psz : List UInt8}
      (h : IsCode digits a.1) (hrest : Renders (b :: items) psz) :
      Renders (a :: b :: items) (itemText digits a.2 ++ ','.toUInt8 :: ' '.toUInt8 :: psz)

/-- The digit for a number below 16. -/
def digitChar (n : ℕ) : UInt8 :=
  if n < 10 then '0'.toUInt8 + UInt8.ofNat n else 'a'.toUInt8 + UInt8.ofNat (n - 10)

/-- A code in two digits. -/
def codeText (code : UInt8) : List UInt8 := [digitChar (code.toNat / 16), digitChar (code.toNat % 16)]

theorem isCode_codeText (code : UInt8) : IsCode (codeText code) code := by
  have hall : ∀ n < 256, IsHex [digitChar (n / 16), digitChar (n % 16)] ∧
      hexValue [digitChar (n / 16), digitChar (n % 16)] = n := by decide +kernel
  exact ⟨List.cons_ne_nil _ _, hall code.toNat (UInt8.toNat_lt code)⟩

/-- The items as a text. -/
def renderAction : List ActionItem → List UInt8
  | [] => []
  | [a] => itemText (codeText a.1) a.2
  | a :: b :: items =>
      itemText (codeText a.1) a.2 ++ ','.toUInt8 :: ' '.toUInt8 :: renderAction (b :: items)

theorem renders_renderAction : (items : List ActionItem) → Renders items (renderAction items)
  | [] => .nil
  | [a] => .single (isCode_codeText a.1)
  | a :: b :: items => .cons (isCode_codeText a.1) (renders_renderAction (b :: items))

/-- The next word of an array. -/
theorem set_next (words : List UInt16) (w v : UInt16) (rest : List UInt16) :
    (words ++ w :: rest).set words.length v = (words ++ [v]) ++ rest := by
  rw [List.set_append_right _ _ (le_refl _), Nat.sub_self, List.set_cons_zero, List.append_assoc]
  rfl

theorem parseHex_item {digits : List UInt8} (h : IsHex digits) (tail : List UInt8) :
    parseHex (digits ++ ' '.toUInt8 :: tail) ' '.toUInt8 0 =
      some (' '.toUInt8 :: tail, UInt32.ofNat (hexValue digits)) := by
  have hblank : ∀ c ∈ (' '.toUInt8 :: tail).head?, ¬ isHexDigit c = true := by
    rintro _ ⟨⟩
    exact not_isHexDigit (by decide)
  obtain ⟨htake, hdrop⟩ := takeWhile_digits h hblank
  rw [parseHex_eq (by decide) (by decide), htake, hdrop]
  exact if_pos (.inl rfl)

/-- An item is read, and what follows it decides how the loop goes on. -/
theorem parseActionFrom_item {digits : List UInt8} {a : ActionItem} (h : IsCode digits a.1)
    (room : ℕ) (words : List UInt16) (w : UInt16) (rest : List UInt16) (tail : List UInt8) :
    parseActionFrom (room + 1) words.length (itemText digits a.2 ++ tail) (words ++ w :: rest) =
      match tail with
      | [] => parseActionFrom room (words.length + 1) [] ((words ++ [a.word]) ++ rest)
      | comma :: psz =>
          if comma ≠ ','.toUInt8 then failAction ((words ++ [a.word]) ++ rest)
          else
            parseActionFrom room (words.length + 1) (skipBlanks psz)
              ((words ++ [a.word]) ++ rest) := by
  obtain ⟨hne, hhex, hvalue⟩ := h
  have hread := parseHex_item hhex (directionChar a.2 :: tail)
  have htext : itemText digits a.2 ++ tail = digits ++ ' '.toUInt8 :: directionChar a.2 :: tail :=
    List.append_assoc _ _ _
  have hdirection : ¬ (' '.toUInt8 ≠ ' '.toUInt8 ∨
      (directionChar a.2 ≠ 'd'.toUInt8 ∧ directionChar a.2 ≠ 'u'.toUInt8)) := by
    cases a.2 <;> decide
  have hdown : decide (directionChar a.2 ≠ 'u'.toUInt8) = a.2 := by
    cases a.2 <;> decide
  rw [htext]
  cases digits with
  | nil => exact absurd rfl hne
  | cons c digits =>
      rw [List.cons_append] at hread ⊢
      rw [parseActionFrom, hread]
      dsimp only
      rw [if_neg hdirection, hdown, hvalue, set_next]
      rfl

/-- No text of an item starts with a blank. -/
theorem skipBlanks_itemText {digits : List UInt8} {code : UInt8} (h : IsCode digits code)
    (tail : List UInt8) : skipBlanks (' '.toUInt8 :: (digits ++ tail)) = digits ++ tail := by
  obtain ⟨hne, hhex, -⟩ := h
  cases digits with
  | nil => exact absurd rfl hne
  | cons c digits =>
      have hc : c ≠ ' '.toUInt8 := by
        rintro rfl
        exact not_isHexDigit (by decide) (hhex _ List.mem_cons_self)
      rw [skipBlanks, List.dropWhile_cons_of_pos (by simp), List.cons_append,
        List.dropWhile_cons_of_neg (by simp [hc])]

theorem skipBlanks_renders {a : ActionItem} {items : List ActionItem} {psz : List UInt8}
    (h : Renders (a :: items) psz) : skipBlanks (' '.toUInt8 :: psz) = psz := by
  cases h with
  | single hcode => exact skipBlanks_itemText hcode _
  | cons hcode hrest =>
      rw [itemText, List.append_assoc]
      exact skipBlanks_itemText hcode _

/-- The text of some items is read into an array that has room for them and a zero. -/
theorem parseActionFrom_renders {items : List ActionItem} {psz : List UInt8}
    (h : Renders items psz) (words : List UInt16) (w : UInt16) (rest : List UInt16)
    (hroom : items.length ≤ rest.length) :
    ∃ rest', parseActionFrom (rest.length + 1) words.length psz (words ++ w :: rest) =
      (words ++ (items.map ActionItem.word ++ 0 :: rest'), true) := by
  have hend (words : List UInt16) (w : UInt16) (rest : List UInt16) :
      parseActionFrom (rest.length + 1) words.length [] (words ++ w :: rest) =
        (words ++ 0 :: rest, true) := by
    rw [parseActionFrom, set_next, List.append_assoc]
    rfl
  have hmore {n : ℕ} {rest : List UInt16} (hroom : n + 1 ≤ rest.length) :
      ∃ w' rest', rest = w' :: rest' ∧ n ≤ rest'.length := by
    cases rest with
    | nil => exact absurd hroom (Nat.not_succ_le_zero n)
    | cons w' rest' => exact ⟨w', rest', rfl, Nat.le_of_succ_le_succ hroom⟩
  induction h generalizing words w rest with
  | nil => exact ⟨rest, hend words w rest⟩
  | @single digits a hcode =>
      obtain ⟨w', rest', rfl, -⟩ := hmore hroom
      have hitem := parseActionFrom_item hcode (w' :: rest').length words w (w' :: rest') []
      rw [List.append_nil] at hitem
      have hlast := hend (words ++ [a.word]) w' rest'
      rw [List.length_append] at hlast
      exact ⟨rest', hitem.trans (hlast.trans (by rw [List.append_assoc]; rfl))⟩
  | @cons digits a b items psz hcode hrest ih =>
      obtain ⟨w', rest', rfl, hroom'⟩ := hmore hroom
      have hitem := parseActionFrom_item hcode (w' :: rest').length words w (w' :: rest')
        (','.toUInt8 :: ' '.toUInt8 :: psz)
      dsimp only at hitem
      rw [if_neg (not_not_intro rfl), skipBlanks_renders hrest] at hitem
      obtain ⟨rest'', hnext⟩ := ih (words ++ [a.word]) w' rest' hroom'
      rw [List.length_append] at hnext
      exact ⟨rest'', hitem.trans (hnext.trans (by rw [List.append_assoc]; rfl))⟩

/-- What is played of a text: the items before the first that is code 0 going down. -/
theorem sendKeySequence_parseAction {items : List ActionItem} {psz : List UInt8}
    (h : Renders items psz) (dest : List UInt16) (hroom : items.length < dest.length) :
    (parseAction psz dest).2 = true ∧
      sendKeySequence (parseAction psz dest).1 = items.takeWhile (· ≠ (0, true)) := by
  cases dest with
  | nil => exact absurd hroom (Nat.not_lt_zero _)
  | cons w rest =>
      obtain ⟨rest', hparse⟩ := parseActionFrom_renders h [] w rest (Nat.le_of_lt_succ hroom)
      have hresult : parseAction psz (w :: rest) =
        (items.map ActionItem.word ++ 0 :: rest', true) := hparse
      rw [hresult]
      exact ⟨rfl, sendKeySequence_words items rest'⟩

/-- **Swipe actions round-trip** exactly if no item is code 0 going down. -/
theorem round_trip_iff (items : List ActionItem) (hlength : 1 ≤ items.length ∧ items.length ≤ 15)
    (psz : List UInt8) (h : Renders items psz) (dest : List UInt16) (hsize : dest.length = 16) :
    ((parseAction psz dest).2 = true ∧ sendKeySequence (parseAction psz dest).1 = items) ↔
      (0, true) ∉ items := by
  obtain ⟨hparsed, hplayed⟩ :=
    sendKeySequence_parseAction h dest (by rw [hsize]; omega)
  rw [hplayed, and_iff_right hparsed, List.takeWhile_eq_self_iff]
  constructor
  · exact fun hall hmem => absurd (hall _ hmem) (by decide)
  · exact fun hnot a ha => decide_eq_true fun h0 => hnot (h0 ▸ ha)

/-- Command and Z, then both up again. -/
def commandZ : List ActionItem := [(0x37, true), (0x06, true), (0x06, false), (0x37, false)]

theorem round_trip_commandZ :
    (parseAction (renderAction commandZ) (List.replicate 16 0)).2 = true ∧
      sendKeySequence (parseAction (renderAction commandZ) (List.replicate 16 0)).1 = commandZ :=
  (round_trip_iff commandZ (by decide) (renderAction commandZ) (renders_renderAction commandZ)
    (List.replicate 16 0) rfl).mpr (by decide)

/-- Command and A, then both up again. -/
def commandA : List ActionItem := [(0x37, true), (0x00, true), (0x00, false), (0x37, false)]

/-- Command goes down and stays down. -/
theorem commandA_cut :
    (parseAction (renderAction commandA) (List.replicate 16 0)).2 = true ∧
      sendKeySequence (parseAction (renderAction commandA) (List.replicate 16 0)).1 ≠ commandA := by
  decide +kernel

end VoodooPS2.Keyboard
