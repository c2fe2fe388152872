import Mathlib.Tactic

/-! # Dictionaries as lists of entries

A dictionary is the list of its entries in the order in which they were added; a key is looked up
with `List.lookup`.  Setting a key replaces its value or adds an entry at the end.  Merging sets
every key of the second dictionary to the value it has there, so the second one wins. -/

namespace Dictionary

variable {κ α : Type*} [DecidableEq κ]

/-- The keys, in the order of the entries. -/
def keys (d : List (κ × α)) : List κ := d.map Prod.fst

def set : List (κ × α) → κ → α → List (κ × α)
  | [], k, v => [(k, v)]
  | e :: d, k, v => if e.1 = k then (k, v) :: d else e :: set d k v

/-- Each key of `e` is set in `d` to its value in `e`. -/
def merge (d e : List (κ × α)) : List (κ × α) :=
  (keys e).foldl
    (fun d k =>
      match e.lookup k with
      | none => d
      | some v => set d k v) d

theorem lookup_cons (k : κ) (e : κ × α) (d : List (κ × α)) :
    (e :: d).lookup k = if k = e.1 then some e.2 else d.lookup k := by
  obtain ⟨k', v⟩ := e
  by_cases h : k = k'
  · subst h
    simp
  · rw [List.lookup_cons, if_neg h, beq_false_of_ne h]

theorem lookup_set (d : List (κ × α)) (k k' : κ) (v : α) :
    (set d k v).lookup k' = if k' = k then some v else d.lookup k' := by
  induction d with
  | nil => rw [set, lookup_cons]
  | cons e d ih =>
      rw [set]
      by_cases he : e.1 = k
      · rw [if_pos he, lookup_cons, lookup_cons, he]
        split <;> rfl
      · rw [if_neg he, lookup_cons, lookup_cons, ih]
        by_cases hk : k' = e.1
        · have hne : k' ≠ k := fun h => he (hk.symm.trans h)
          rw [if_pos hk, if_neg hne, if_pos hk]
        · rw [if_neg hk, if_neg hk]

/-- A key that is not there is added at the end. -/
theorem set_of_not_mem {d : List (κ × α)} {k : κ} (h : k ∉ keys d) (v : α) :
    set d k v = d ++ [(k, v)] := by
  induction d with
  | nil => rfl
  | cons e d ih =>
      rw [keys, List.map_cons, List.mem_cons, not_or] at h
      obtain ⟨hne, hmem⟩ := h
      rw [set, if_neg (Ne.symm hne), ih hmem]
      rfl

theorem mem_keys_of_lookup {d : List (κ × α)} {k : κ} {v : α} (h : d.lookup k = some v) :
    k ∈ keys d := by
  induction d with
  | nil => cases h
  | cons e d ih =>
      rw [lookup_cons] at h
      by_cases hk : k = e.1
      · exact List.mem_cons.mpr (.inl hk)
      · rw [if_neg hk] at h
        exact List.mem_cons.mpr (.inr (ih h))

/-- Keys set from a dictionary: those in the list have its value, the others the old one. -/
theorem lookup_foldl_set (e : List (κ × α)) (ks : List κ) (d : List (κ × α)) (k : κ) :
    (ks.foldl (fun d k => match e.lookup k with
        | none => d
        | some v => set d k v) d).lookup k =
      if k ∈ ks then (e.lookup k).or (d.lookup k) else d.lookup k := by
  induction ks generalizing d with
  | nil => rfl
  | cons k' ks ih =>
      rw [List.foldl_cons, ih]
      cases he : e.lookup k' with
      | none =>
          by_cases hk : k = k'
          · subst hk
            simp [he]
          · simp [hk]
      | some v =>
          dsimp only
          rw [lookup_set]
          by_cases hk : k = k'
          · subst hk
            simp [he]
          · simp [hk]

/-- The second dictionary wins. -/
theorem lookup_merge (d e : List (κ × α)) (k : κ) :
    (merge d e).lookup k = (e.lookup k).or (d.lookup k) := by
  rw [merge, lookup_foldl_set]
  split
  · rfl
  · rename_i hmem
    cases he : e.lookup k with
    | none => rfl
    | some v => exact absurd (mem_keys_of_lookup he) hmem

end Dictionary
