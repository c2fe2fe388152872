import VoodooPS2.OSObject
import VoodooPS2.Lib.Dictionary

/-! # Configuration data from ACPI (`translateArray`)

ACPI has packages, strings, numbers and buffers, but no dictionaries and no booleans.  The method
`RMCF` returns a dictionary as a flat package of keys and values, an array as a package that starts
with an empty package, and a boolean as the string `>y` or `>n`; the strings `>y` and `>n` are
written `>>y` and `>>n`.

`translateArray` takes such a package apart again.  It works on the package itself, so the model
returns it as it is left behind, beside the result.  `translateArray_encode`: what was written by the
convention is read back as it was, to any depth. -/

namespace VoodooPS2.Controller

def yes : CString := ⟨text ['>', 'y'], by decide⟩
def no : CString := ⟨text ['>', 'n'], by decide⟩
def escapedYes : CString := ⟨text ['>', '>', 'y'], by decide⟩
def escapedNo : CString := ⟨text ['>', '>', 'n'], by decide⟩

/-- What `translateEntry` makes of a string, if it is one of the four special ones. -/
def translateString (string : CString) : Option OSObject :=
  if string = yes then some (.boolean true)
  else if string = no then some (.boolean false)
  else if string = escapedYes then some (.string yes)
  else if string = escapedNo then some (.string no)
  else none

mutual

/-- The object as it is left behind, and its translation if there is one. -/
def translateEntry : OSObject → OSObject × Option OSObject
  | .array array =>
      let (array, result) := translateArray array
      (.array array, result)
  | .string string => (.string string, translateString string)
  | obj => (obj, none)

/-- The array as it is left behind, and the array or dictionary it stands for. -/
def translateArray : List OSObject → List OSObject × Option OSObject
  | [] => ([], none)
  | .array [] :: array =>
      let array := translateEntries array
      (array, some (.array array))
  | first :: array =>
      if (first :: array).length % 2 = 1 then (first :: array, none)
      else
        let (array, dict) := translatePairs [] (first :: array)
        (array, dict.map .dictionary)

/-- The loop over the entries of an array: each is replaced by its translation. -/
def translateEntries : List OSObject → List OSObject
  | [] => []
  | obj :: array =>
      let (obj, translated) := translateEntry obj
      translated.getD obj :: translateEntries array

/-- The loop over the pairs of a dictionary, given up at a key that is not a string. -/
def translatePairs (dict : List (CString × OSObject)) :
    List OSObject → List OSObject × Option (List (CString × OSObject))
  | key :: obj :: array =>
      match key with
      | .string name =>
          let (obj, translated) := translateEntry obj
          let (array, dict) := translatePairs (Dictionary.set dict name (translated.getD obj)) array
          (key :: obj :: array, dict)
      | _ => (key :: obj :: array, none)
  | array => (array, some dict)

end

/-- `getConfigurationOverride`, for what the method returned, if it could be evaluated. -/
def getConfigurationOverride (r : Option OSObject) : Option (List (CString × OSObject)) :=
  match OSObject.asArray r with
  | none => none
  | some array => OSObject.asDictionary (translateArray array).2

/-! ### The convention -/

mutual

/-- An object as the convention writes it. -/
def encode : OSObject → OSObject
  | .array objects => .array (.array [] :: encodeObjects objects)
  | .dictionary entries => .array (encodeEntries entries)
  | .boolean b => .string (if b then yes else no)
  | .string s => .string (if s = yes then escapedYes else if s = no then escapedNo else s)
  | .number n => .number n
  | .data bytes => .data bytes

def encodeObjects : List OSObject → List OSObject
  | [] => []
  | o :: objects => encode o :: encodeObjects objects

def encodeEntries : List (CString × OSObject) → List OSObject
  | [] => []
  | (key, o) :: entries => .string key :: encode o :: encodeEntries entries

end

/-- The trees that the convention can write. -/
inductive Encodable : OSObject → Prop
  | number (n : UInt64) : Encodable (.number n)
  | data (bytes : List UInt8) : Encodable (.data bytes)
  | boolean (b : Bool) : Encodable (.boolean b)
  | string (s : CString) (hyes : s ≠ escapedYes) (hno : s ≠ escapedNo) : Encodable (.string s)
  | array (objects : List OSObject) (h : ∀ o ∈ objects, Encodable o) : Encodable (.array objects)
  | dictionary (entries : List (CString × OSObject)) (hne : entries ≠ [])
      (hkeys : (Dictionary.keys entries).Nodup) (h : ∀ e ∈ entries, Encodable e.2) :
      Encodable (.dictionary entries)

/-- The objects that are written as packages. -/
def IsCollection (o : OSObject) : Prop :=
  (∃ objects, o = .array objects) ∨ ∃ entries, o = .dictionary entries

/-! ### What is written is read back -/

/-- The entry of a package is read back as this object. -/
def ReadAs (o : OSObject) : Prop :=
  (translateEntry (encode o)).2.getD (translateEntry (encode o)).1 = o

theorem readAs_string {s : CString} (hyes : s ≠ escapedYes) (hno : s ≠ escapedNo) :
    ReadAs (.string s) := by
  unfold ReadAs
  rw [encode]
  by_cases hy : s = yes
  · rw [if_pos hy, translateEntry, hy]
    rfl
  · by_cases hn : s = no
    · rw [if_neg hy, if_pos hn, translateEntry, hn]
      rfl
    · rw [if_neg hy, if_neg hn, translateEntry, translateString, if_neg hy, if_neg hn,
        if_neg hyes, if_neg hno]
      rfl

theorem readAs_boolean (b : Bool) : ReadAs (.boolean b) := by
  unfold ReadAs
  rw [encode, translateEntry]
  cases b with
  | false => rfl
  | true => rfl

theorem translateEntries_encodeObjects {objects : List OSObject} (h : ∀ o ∈ objects, ReadAs o) :
    translateEntries (encodeObjects objects) = objects := by
  induction objects with
  | nil => rw [encodeObjects, translateEntries]
  | cons o objects ih =>
      have ho : ReadAs o := h o (by simp)
      rw [encodeObjects, translateEntries, ih (fun o ho => h o (by simp [ho]))]
      exact congrArg (· :: objects) ho

/-- The pairs are added to the dictionary in their order. -/
theorem translatePairs_encodeEntries {entries dict : List (CString × OSObject)}
    (hkeys : (Dictionary.keys (dict ++ entries)).Nodup) (h : ∀ e ∈ entries, ReadAs e.2) :
    (translatePairs dict (encodeEntries entries)).2 = some (dict ++ entries) := by
  induction entries generalizing dict with
  | nil => simp [encodeEntries, translatePairs]
  | cons e entries ih =>
      obtain ⟨key, o⟩ := e
      have ho : ReadAs o := h (key, o) (by simp)
      have hnew : key ∉ Dictionary.keys dict := by
        rw [Dictionary.keys, List.map_append, List.nodup_append] at hkeys
        intro hmem
        exact hkeys.2.2 key hmem key (by simp) rfl
      rw [encodeEntries, translatePairs]
      dsimp only
      rw [ho, Dictionary.set_of_not_mem hnew, ih (by simpa using hkeys) (fun e he => h e (by simp [he])),
        List.append_assoc]
      rfl

theorem length_encodeEntries (entries : List (CString × OSObject)) :
    (encodeEntries entries).length = 2 * entries.length := by
  induction entries with
  | nil => rw [encodeEntries]; rfl
  | cons e entries ih =>
      rw [encodeEntries, List.length_cons, List.length_cons, List.length_cons, ih]
      ring

theorem translateArray_encodeObjects {objects : List OSObject} (h : ∀ o ∈ objects, ReadAs o) :
    (translateArray (.array [] :: encodeObjects objects)).2 = some (.array objects) := by
  rw [translateArray, translateEntries_encodeObjects h]

theorem translateArray_encodeEntries {entries : List (CString × OSObject)} (hne : entries ≠ [])
    (hkeys : (Dictionary.keys entries).Nodup) (h : ∀ e ∈ entries, ReadAs e.2) :
    (translateArray (encodeEntries entries)).2 = some (.dictionary entries) := by
  have hlength := length_encodeEntries entries
  have hpairs := @translatePairs_encodeEntries entries [] hkeys h
  obtain ⟨e, rest, rfl⟩ := List.exists_cons_of_ne_nil hne
  rw [encodeEntries] at hlength hpairs ⊢
  have heven : ¬ (OSObject.string e.1 :: encode e.2 :: encodeEntries rest).length % 2 = 1 := by
    omega
  rw [translateArray, if_neg heven]
  · dsimp only
    rw [hpairs]
    rfl
  · intro harray
    cases harray

/-- Every entry that the convention can write is read back as it was. -/
theorem readAs_of_encodable {o : OSObject} (h : Encodable o) : ReadAs o := by
  induction h with
  | number n => simp only [ReadAs, encode, translateEntry, Option.getD_none]
  | data bytes => simp only [ReadAs, encode, translateEntry, Option.getD_none]
  | boolean b => exact readAs_boolean b
  | string s hyes hno => exact readAs_string hyes hno
  | array objects _ ih =>
      unfold ReadAs
      rw [encode, translateEntry]
      dsimp only
      rw [translateArray_encodeObjects ih]
      rfl
  | dictionary entries hne hkeys _ ih =>
      unfold ReadAs
      rw [encode, translateEntry]
      dsimp only
      rw [translateArray_encodeEntries hne hkeys ih]
      rfl

/-- The package of an array or dictionary is translated to it. -/
theorem translateArray_encode {o : OSObject} (h : Encodable o) (hc : IsCollection o) :
    ∃ package, encode o = .array package ∧ (translateArray package).2 = some o := by
  cases h with
  | number n => rcases hc with ⟨_, hc⟩ | ⟨_, hc⟩ <;> cases hc
  | data bytes => rcases hc with ⟨_, hc⟩ | ⟨_, hc⟩ <;> cases hc
  | boolean b => rcases hc with ⟨_, hc⟩ | ⟨_, hc⟩ <;> cases hc
  | string s hyes hno => rcases hc with ⟨_, hc⟩ | ⟨_, hc⟩ <;> cases hc
  | array objects h =>
      refine ⟨_, by rw [encode], ?_⟩
      exact translateArray_encodeObjects fun o ho => readAs_of_encodable (h o ho)
  | dictionary entries hne hkeys h =>
      refine ⟨_, by rw [encode], ?_⟩
      exact translateArray_encodeEntries hne hkeys fun e he => readAs_of_encodable (h e he)

/-- A dictionary with a boolean under the key `>y` and an array that holds an empty one. -/
def nestedTree : OSObject :=
  .dictionary
    [(yes, .boolean true), (no, .array [.number 1, .array [], .string yes])]

theorem encodable_nestedTree : Encodable nestedTree := by
  refine .dictionary _ (by simp) (by decide) ?_
  intro e he
  rcases List.mem_cons.mp he with rfl | he
  · exact .boolean true
  · obtain rfl := List.mem_singleton.mp he
    refine .array _ ?_
    intro o ho
    simp only [List.mem_cons, List.not_mem_nil, or_false] at ho
    rcases ho with rfl | rfl | rfl
    · exact .number 1
    · exact .array [] (by simp)
    · exact .string yes (by decide) (by decide)

theorem translateArray_encode_nestedTree :
    ∃ package, encode nestedTree = .array package ∧ (translateArray package).2 = some nestedTree :=
  translateArray_encode encodable_nestedTree (.inr ⟨_, rfl⟩)

end VoodooPS2.Controller
