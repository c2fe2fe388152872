import VoodooPS2.Lib.Transition

/-! # What the steps of a run add up to

Each step of a run brings something, and the system holds something in every state.  If what a step
brings out and what is held afterwards is what it takes in and what was held before, the same is
true of the whole run. -/

namespace Transition

variable {S A M : Type*} [AddCommMonoid M] (step : S → A → Option S)

/-- The sum of what each step of a run brings. -/
def total (f : S → A → M) : S → List A → M
  | _, [] => 0
  | s, a :: as =>
      f s a +
        match step s a with
        | some t => total f t as
        | none => 0

variable {step}

theorem total_cons {f : S → A → M} {s t : S} {a : A} (h : step s a = some t) (as : List A) :
    total step f s (a :: as) = f s a + total step f t as := by
  rw [total, h]

/-- The balance of a run is the sum of the balances of its steps. -/
theorem total_balance {I : S → Prop} {G : S → A → Prop} {out taken : S → A → M} {held : S → M}
    (hstep : ∀ s a s', I s → G s a → step s a = some s' →
      I s' ∧ out s a + held s' = taken s a + held s)
    (as : List A) {s s' : S} (h : I s) (hg : Guarded step G s as) (hr : run step s as = some s') :
    total step out s as + held s' = total step taken s as + held s := by
  induction as generalizing s with
  | nil =>
      cases hr
      rfl
  | cons a as ih =>
      obtain ⟨t, ht, hr⟩ := run_cons hr
      obtain ⟨hi, hbalance⟩ := hstep s a t h hg.1 ht
      have hrest := ih hi (hg.2 t ht) hr
      rw [total_cons ht, total_cons ht]
      calc out s a + total step out t as + held s'
          = out s a + (total step taken t as + held t) := by rw [add_assoc, hrest]
        _ = total step taken t as + (out s a + held t) := add_left_comm _ _ _
        _ = total step taken t as + (taken s a + held s) := by rw [hbalance]
        _ = taken s a + total step taken t as + held s := by
          rw [add_left_comm, ← add_assoc]

end Transition
