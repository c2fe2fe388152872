import VoodooPS2.Controller.Translate

/-! # Packages that cannot be translated (`translateArray`)

`translateArray` gives up at an odd number of entries and at a key that is not a string, and its
caller goes on with the package as it is.  By then the values before the bad key have been
translated, and an array among them has lost the empty package it began with.

`untranslated_intact_iff`: a package that is given up is left as it was if and only if no such value
begins with an empty package, nor holds one that is reached in the same way. -/

namespace VoodooPS2.Controller

/-- Keys and values as a package has them. -/
def pairsOf (entries : List (CString × OSObject)) : List OSObject :=
  entries.flatMap fun e => [.string e.1, e.2]

/-- Translation comes to a package that begins with an empty one, and takes that out. -/
inductive Touched : OSObject → Prop
  | marked (array : List OSObject) : Touched (.array (.array [] :: array))
  | value (before : List (CString × OSObject)) (key : CString) {obj : OSObject}
      (array : List OSObject) (heven : array.length % 2 = 0) (h : Touched obj) :
      Touched (.array (pairsOf before ++ .string key :: obj :: array))

theorem length_pairsOf (entries : List (CString × OSObject)) :
    (pairsOf entries).length = 2 * entries.length := by
  induction entries with
  | nil => rfl
  | cons e entries ih =>
      rw [pairsOf, List.flatMap_cons, List.length_append, ← pairsOf, ih, List.length_cons]
      simp
      ring

/-- Translation of the pairs comes to a value that it changes. -/
def TouchedPairs (array : List OSObject) : Prop :=
  ∃ before key obj rest, array = pairsOf before ++ .string key :: obj :: rest ∧ Touched obj

theorem touchedPairs_cons (name : CString) (obj : OSObject) (array : List OSObject) :
    TouchedPairs (.string name :: obj :: array) ↔ Touched obj ∨ TouchedPairs array := by
  constructor
  · rintro ⟨before, key, o, rest, heq, ht⟩
    cases before with
    | nil =>
        cases heq
        exact .inl ht
    | cons e before =>
        obtain ⟨k, v⟩ := e
        simp only [pairsOf, List.flatMap_cons, List.cons_append, List.nil_append,
          List.cons.injEq] at heq
        exact .inr ⟨before, key, o, rest, heq.2.2, ht⟩
  · rintro (ht | ⟨before, key, o, rest, rfl, ht⟩)
    · exact ⟨[], name, obj, array, rfl, ht⟩
    · exact ⟨(name, obj) :: before, key, o, rest, rfl, ht⟩

/-- Where the first key is not a string, or there is no pair, nothing is translated. -/
theorem not_touchedPairs {array : List OSObject}
    (h : ∀ name obj rest, array ≠ .string name :: obj :: rest) : ¬ TouchedPairs array := by
  rintro ⟨before, key, o, rest, rfl, -⟩
  cases before with
  | nil => exact h key o rest rfl
  | cons e before => exact h e.1 e.2 _ rfl

/-- A package is touched at its beginning, or through one of its values. -/
theorem touched_array_iff (array : List OSObject) :
    Touched (.array array) ↔
      (∃ rest, array = .array [] :: rest) ∨ (array.length % 2 = 0 ∧ TouchedPairs array) := by
  constructor
  · intro ht
    cases ht with
    | marked rest => exact .inl ⟨rest, rfl⟩
    | value before key rest heven ht =>
        refine .inr ⟨?_, before, key, _, rest, rfl, ht⟩
        rw [List.length_append, length_pairsOf, List.length_cons, List.length_cons]
        omega
  · rintro (⟨rest, rfl⟩ | ⟨heven, before, key, obj, rest, rfl, ht⟩)
    · exact .marked rest
    · rw [List.length_append, length_pairsOf, List.length_cons, List.length_cons] at heven
      exact .value before key rest (by omega) ht

/-- The loop over the pairs leaves them as they were if it changes no value. -/
theorem translatePairs_intact_iff (array : List OSObject) (dict : List (CString × OSObject))
    (h : ∀ obj ∈ array, (translateEntry obj).1 = obj ↔ ¬ Touched obj) :
    (translatePairs dict array).1 = array ↔ ¬ TouchedPairs array := by
  match array with
  | [] =>
      rw [translatePairs]
      · exact iff_of_true rfl (not_touchedPairs (by simp))
      · simp
  | [key] =>
      rw [translatePairs]
      · exact iff_of_true rfl (not_touchedPairs (by simp))
      · simp
  | key :: obj :: array =>
      by_cases hkey : ∃ name, key = .string name
      · obtain ⟨name, rfl⟩ := hkey
        have hobj := h obj (by simp)
        have hrest := translatePairs_intact_iff array
          (Dictionary.set dict name ((translateEntry obj).2.getD (translateEntry obj).1))
          fun o ho => h o (by simp [ho])
        rw [translatePairs, touchedPairs_cons, not_or, ← hobj, ← hrest]
        simp only [List.cons.injEq, true_and]
      · rw [translatePairs]
        · refine iff_of_true rfl (not_touchedPairs ?_)
          rintro name o rest heq
          cases heq
          exact hkey ⟨name, rfl⟩
        · rintro name rfl
          exact hkey ⟨name, rfl⟩

theorem length_translateEntries (array : List OSObject) :
    (translateEntries array).length = array.length := by
  induction array with
  | nil => rw [translateEntries]
  | cons obj array ih => rw [translateEntries, List.length_cons, List.length_cons, ih]

/-- A package is left as it was if translation does not touch it. -/
theorem translateArray_intact_iff (array : List OSObject)
    (h : ∀ obj ∈ array, (translateEntry obj).1 = obj ↔ ¬ Touched obj) :
    (translateArray array).1 = array ↔ ¬ Touched (.array array) := by
  rw [touched_array_iff, translateArray.eq_def]
  split
  · refine iff_of_true rfl ?_
    rintro (⟨rest, heq⟩ | ⟨-, ht⟩)
    · cases heq
    · exact not_touchedPairs (by simp) ht
  · rename_i array
    refine iff_of_false (fun heq => ?_) (not_not_intro (.inl ⟨array, rfl⟩))
    have hlength := congrArg List.length heq
    rw [length_translateEntries, List.length_cons] at hlength
    omega
  · rename_i first array hfirst
    have hhead : ¬ ∃ rest, first :: array = .array [] :: rest := by
      rintro ⟨rest, heq⟩
      cases heq
      exact hfirst rfl
    rw [or_iff_right hhead]
    split
    · rename_i hodd
      exact iff_of_true rfl fun ht => by omega
    · rename_i hodd
      rw [and_iff_right (show (first :: array).length % 2 = 0 by omega)]
      exact translatePairs_intact_iff (first :: array) [] h

theorem translateEntry_intact_iff (obj : OSObject) :
    (translateEntry obj).1 = obj ↔ ¬ Touched obj := by
  cases obj with
  | array array =>
      have harray := translateArray_intact_iff array fun obj _ => translateEntry_intact_iff obj
      rw [translateEntry, ← harray]
      simp only [OSObject.array.injEq]
  | string s => exact iff_of_true (by rw [translateEntry]) fun ht => by cases ht
  | number n => exact iff_of_true (by simp [translateEntry]) fun ht => by cases ht
  | boolean b => exact iff_of_true (by simp [translateEntry]) fun ht => by cases ht
  | data bytes => exact iff_of_true (by simp [translateEntry]) fun ht => by cases ht
  | dictionary entries => exact iff_of_true (by simp [translateEntry]) fun ht => by cases ht
termination_by sizeOf obj
decreasing_by
  rename_i hmem
  have hlt := List.sizeOf_lt_of_mem hmem
  simp only [OSObject.array.sizeOf_spec]
  omega

/-- **A package that is given up is left as it was exactly if translation did not touch it** before
it came to the entry it failed at. -/
theorem untranslated_intact_iff (array : List OSObject) (_ : (translateArray array).2 = none) :
    (translateArray array).1 = array ↔ ¬ Touched (.array array) :=
  translateArray_intact_iff array fun obj _ => translateEntry_intact_iff obj

def keyA : CString := ⟨text ['a'], by decide⟩
def keyB : CString := ⟨text ['b'], by decide⟩

/-- The third key of this package is a number. -/
def numberedKey : List OSObject :=
  [.string keyA, .number 0, .string keyB, .array [.number 1], .number 2, .number 3]

theorem untranslated_intact_numberedKey :
    (translateArray numberedKey).2 = none ∧ (translateArray numberedKey).1 = numberedKey := by
  have hnull : (translateArray numberedKey).2 = none := by
    simp [numberedKey, translateArray, translatePairs]
  have hodd : ¬ Touched (.array [.number 1]) := by
    rw [touched_array_iff]
    rintro (⟨rest, heq⟩ | ⟨heven, -⟩)
    · cases heq
    · cases heven
  refine ⟨hnull, (untranslated_intact_iff numberedKey hnull).mpr ?_⟩
  rw [touched_array_iff, numberedKey, touchedPairs_cons, touchedPairs_cons]
  rintro (⟨rest, heq⟩ | ⟨-, ht | ht | ht⟩)
  · cases heq
  · cases ht
  · exact hodd ht
  · exact not_touchedPairs (by simp) ht

/-- There is an array with one element before the bad key. -/
def arrayBefore : List OSObject :=
  [.string keyA, .array [.array [], .number 1], .number 2, .number 3]

theorem arrayBefore_changed :
    translateArray arrayBefore = ([.string keyA, .array [.number 1], .number 2, .number 3], none) ∧
      ¬ ∀ array, (translateArray array).2 = none → (translateArray array).1 = array := by
  have heq : translateArray arrayBefore =
      ([.string keyA, .array [.number 1], .number 2, .number 3], none) := by
    simp [arrayBefore, translateArray, translatePairs, translateEntry, translateEntries]
  refine ⟨heq, fun h => ?_⟩
  have hsame := h arrayBefore (by rw [heq])
  rw [heq, arrayBefore] at hsame
  simp at hsame

end VoodooPS2.Controller
