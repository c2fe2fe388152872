import Mathlib.Tactic

/-! # Tables laid over a map

A table has a value at some places only.  Laid over a map it replaces the values at those places
and leaves the others.  `foldl_write`: a list of writes is a table laid over the map, with the
last write to each place.  `overlay_between_iff` says when a table that was laid over another one,
and then covered by a third, can no longer be seen. -/

namespace Overlay

variable {ι α : Type*}

/-- The map `m`, with the values of the table `f` at the places where it has one. -/
def overlay (f : ι → Option α) (m : ι → α) : ι → α := fun i => (f i).getD (m i)

theorem overlay_none (m : ι → α) : overlay (fun _ => none) m = m := rfl

/-- A table laid twice over a map, with another one between, is seen once. -/
theorem overlay_between (f g : ι → Option α) (m : ι → α) :
    overlay f (overlay g (overlay f m)) = overlay f (overlay g m) := by
  funext i
  simp only [overlay]
  cases f i with
  | none => rfl
  | some v => rfl

theorem overlay_self (f : ι → Option α) (m : ι → α) :
    overlay f (overlay f m) = overlay f m := by
  have h := overlay_between f (fun _ => none) m
  rwa [overlay_none, overlay_none] at h

/-- The table `f`, laid over `g` and covered by `g` again, is seen where `g` has no value and `f`
changes the map. -/
theorem overlay_between_iff (f g : ι → Option α) (m : ι → α) :
    overlay g (overlay f (overlay g m)) = overlay g m ↔
      ∀ i v, g i = none → f i = some v → v = m i := by
  constructor
  · intro h i v hg hf
    have hi := congrFun h i
    simpa [overlay, hg, hf] using hi
  · intro h
    funext i
    cases hg : g i with
    | some w => simp [overlay, hg]
    | none =>
        cases hf : f i with
        | none => simp [overlay, hg, hf]
        | some v => simpa [overlay, hg, hf] using h i v hg hf

variable [DecidableEq ι]

/-- The table of a list of writes: at each place the last value written there. -/
def written : List (ι × α) → ι → Option α
  | [], _ => none
  | w :: ws, i => (written ws i).or (if i = w.1 then some w.2 else none)

/-- Writes made one after the other lay their table over the map. -/
theorem foldl_write (ws : List (ι × α)) (m : ι → α) :
    ws.foldl (fun m w => Function.update m w.1 w.2) m = overlay (written ws) m := by
  induction ws generalizing m with
  | nil => rfl
  | cons w ws ih =>
      rw [List.foldl_cons, ih]
      funext i
      simp only [overlay, written, Function.update_apply]
      cases written ws i with
      | some v => rfl
      | none => split <;> rfl

/-- A write that no later one covers is what the table has. -/
theorem written_of_last {i : ι} {v : α} (before : List (ι × α)) {after : List (ι × α)}
    (h : ∀ w ∈ after, w.1 ≠ i) : written (before ++ (i, v) :: after) i = some v := by
  have hafter : written after i = none := by
    induction after with
    | nil => rfl
    | cons w after ih =>
        obtain ⟨hw, hrest⟩ := List.forall_mem_cons.mp h
        rw [written, ih hrest, if_neg (Ne.symm hw)]
        rfl
  induction before with
  | nil =>
      rw [List.nil_append, written, hafter, if_pos rfl]
      rfl
  | cons w before ih =>
      rw [List.cons_append, written, ih]
      rfl

end Overlay
