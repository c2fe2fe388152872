import Mathlib.Tactic

/-! # Runs of a transition system

A system with a step function that may refuse an action, its runs over lists of actions, and
the invariant rule: what every step preserves holds at the end of every run.  A guard may be
asked of each step; it is checked in the state before the step. -/

namespace Transition

variable {S A : Type*} (step : S → A → Option S)

/-- The state after a list of actions, if each of them is possible in its turn. -/
def run : S → List A → Option S
  | s, [] => some s
  | s, a :: as => (step s a).bind (fun s' => run s' as)

/-- Every step of the run meets the guard in the state it starts from. -/
def Guarded (G : S → A → Prop) : S → List A → Prop
  | _, [] => True
  | s, a :: as => G s a ∧ ∀ s', step s a = some s' → Guarded G s' as

instance decidableGuarded {G : S → A → Prop} [∀ s a, Decidable (G s a)] :
    (s : S) → (as : List A) → Decidable (Guarded step G s as)
  | _, [] => isTrue trivial
  | s, a :: as =>
      match h : step s a with
      | none =>
          decidable_of_iff (G s a)
            ⟨fun hg => ⟨hg, fun t ht => by rw [h] at ht; cases ht⟩, fun hg => hg.1⟩
      | some t =>
          haveI := decidableGuarded (G := G) t as
          decidable_of_iff (G s a ∧ Guarded step G t as)
            ⟨fun hg => ⟨hg.1, fun u hu => by rw [h] at hu; cases hu; exact hg.2⟩,
              fun hg => ⟨hg.1, hg.2 t h⟩⟩

variable {step}

theorem run_cons {s s' : S} {a : A} {as : List A} (h : run step s (a :: as) = some s') :
    ∃ t, step s a = some t ∧ run step t as = some s' :=
  Option.bind_eq_some_iff.mp h

theorem run_append (as bs : List A) (s : S) :
    run step s (as ++ bs) = (run step s as).bind (fun t => run step t bs) := by
  induction as generalizing s with
  | nil => rfl
  | cons a as ih =>
      rw [List.cons_append, run, run]
      cases step s a with
      | none => rfl
      | some t => exact ih t

theorem Guarded.and {G H : S → A → Prop} {as : List A} {s : S} (hg : Guarded step G s as)
    (hh : Guarded step H s as) : Guarded step (fun s a => G s a ∧ H s a) s as := by
  induction as generalizing s with
  | nil => trivial
  | cons a as ih => exact ⟨⟨hg.1, hh.1⟩, fun t ht => ih (hg.2 t ht) (hh.2 t ht)⟩

/-- An invariant of the guarded steps holds at the end of every guarded run. -/
theorem run_invariant_of_guarded {I : S → Prop} {G : S → A → Prop}
    (hstep : ∀ s a s', I s → G s a → step s a = some s' → I s') (as : List A) {s s' : S}
    (h : I s) (hg : Guarded step G s as) (hr : run step s as = some s') : I s' := by
  induction as generalizing s with
  | nil =>
      cases hr
      exact h
  | cons a as ih =>
      obtain ⟨t, ht, hr⟩ := run_cons hr
      exact ih (hstep s a t h hg.1 ht) (hg.2 t ht) hr

/-- An invariant of the steps holds at the end of every run. -/
theorem run_invariant {I : S → Prop} (hstep : ∀ s a s', I s → step s a = some s' → I s')
    (as : List A) {s s' : S} (h : I s) (hr : run step s as = some s') : I s' := by
  induction as generalizing s with
  | nil =>
      cases hr
      exact h
  | cons a as ih =>
      obtain ⟨t, ht, hr⟩ := run_cons hr
      exact ih (hstep s a t h ht) hr

/-- What an invariant gives for one step, every step of a run has. -/
theorem guarded_of_invariant {I : S → Prop} {P : S → A → Prop}
    (hstep : ∀ s a s', I s → step s a = some s' → P s a ∧ I s') (as : List A) {s s' : S}
    (h : I s) (hr : run step s as = some s') : Guarded step P s as := by
  induction as generalizing s with
  | nil => trivial
  | cons a as ih =>
      obtain ⟨t, ht, hr⟩ := run_cons hr
      obtain ⟨hp, hi⟩ := hstep s a t h ht
      refine ⟨hp, fun u hu => ?_⟩
      obtain rfl : t = u := Option.some.inj (ht.symm.trans hu)
      exact ih hi hr

/-- What an invariant and a guard give for one step, the guard gives for every step of a run. -/
theorem guarded_of_guarded {I : S → Prop} {G P : S → A → Prop}
    (hstep : ∀ s a s', I s → G s a → step s a = some s' → I s')
    (himp : ∀ s a s', I s → G s a → step s a = some s' → P s a) (as : List A) {s s' : S}
    (h : I s) (hg : Guarded step G s as) (hr : run step s as = some s') : Guarded step P s as := by
  induction as generalizing s with
  | nil => trivial
  | cons a as ih =>
      obtain ⟨t, ht, hr⟩ := run_cons hr
      refine ⟨himp s a t h hg.1 ht, fun u hu => ?_⟩
      obtain rfl : t = u := Option.some.inj (ht.symm.trans hu)
      exact ih (hstep s a t h hg.1 ht) (hg.2 t ht) hr

/-- Two conditions on steps that say the same wherever the invariant holds, along a run. -/
theorem guarded_iff {I : S → Prop} {G P : S → A → Prop}
    (hstep : ∀ s a s', I s → G s a → step s a = some s' → I s')
    (hiff : ∀ s a s', I s → step s a = some s' → (G s a ↔ P s a)) (as : List A) {s s' : S}
    (h : I s) (hr : run step s as = some s') : Guarded step G s as ↔ Guarded step P s as := by
  induction as generalizing s with
  | nil => exact Iff.rfl
  | cons a as ih =>
      obtain ⟨t, ht, hr⟩ := run_cons hr
      have hfst := hiff s a t h ht
      constructor
      · intro hg
        refine ⟨hfst.mp hg.1, fun u hu => ?_⟩
        obtain rfl : t = u := Option.some.inj (ht.symm.trans hu)
        exact (ih (hstep s a t h hg.1 ht) hr).mp (hg.2 t ht)
      · intro hp
        have hg := hfst.mpr hp.1
        refine ⟨hg, fun u hu => ?_⟩
        obtain rfl : t = u := Option.some.inj (ht.symm.trans hu)
        exact (ih (hstep s a t h hg ht) hr).mpr (hp.2 t ht)

/-! ### Where every action is possible -/

section total

variable {next : S → A → S}

/-- A run is a fold then. -/
theorem run_of_total (htotal : ∀ s a, step s a = some (next s a)) (as : List A) (s : S) :
    run step s as = some (as.foldl next s) := by
  induction as generalizing s with
  | nil => rfl
  | cons a as ih =>
      rw [run, htotal, Option.bind_some]
      exact ih (next s a)

/-- `guarded_iff` for such a system. -/
theorem guarded_iff_of_total (htotal : ∀ s a, step s a = some (next s a)) {I : S → Prop}
    {G P : S → A → Prop} (hstep : ∀ s a, I s → G s a → I (next s a))
    (hiff : ∀ s a, I s → (G s a ↔ P s a)) (as : List A) {s : S} (h : I s) :
    Guarded step G s as ↔ Guarded step P s as := by
  refine guarded_iff (fun s a s' hs hg he => ?_) (fun s a s' hs _ => hiff s a hs) as h
    (run_of_total htotal as s)
  obtain rfl := Option.some.inj ((htotal s a).symm.trans he)
  exact hstep s a hs hg

end total

end Transition
