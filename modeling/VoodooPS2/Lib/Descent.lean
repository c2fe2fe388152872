import Mathlib.Tactic

/-! # Descent

`exists_iterate`: a step that makes a measure smaller, or reaches its goal, reaches the goal in
finitely many steps; `iterate_of_le`: if it also keeps the goal, the goal holds from then on.

The second half is a number that is scaled down by a fraction `m / d`, again and again, the
remainder of each division being added in the next one.  The number itself need not get smaller at
each step, as `10 * 9 / 10` with a remainder of 9 from before is 9, and then 9 again.  What gets
smaller is `c * d + r`, the number and its remainder together, if they have the same sign
(`natAbs_scaled_lt`); truncating division gives them the same sign (`sameSign_scaled`). -/

namespace Descent

/-! ### Decreasing measures -/

section iterate

variable {S : Type*} {f : S → S} {I P : S → Prop}

/-- A step keeps the invariant, and if it does not reach the goal it makes the measure smaller. -/
theorem exists_iterate (measure : S → ℕ) (hI : ∀ s, I s → I (f s))
    (hdesc : ∀ s, I s → ¬ P s → P (f s) ∨ measure (f s) < measure s) (s : S) (h : I s) :
    ∃ n, P (f^[n] s) := by
  induction hm : measure s using Nat.strong_induction_on generalizing s with
  | _ m ih =>
      by_cases hP : P s
      · exact ⟨0, hP⟩
      rcases hdesc s h hP with hnext | hlt
      · exact ⟨1, hnext⟩
      · rw [hm] at hlt
        obtain ⟨n, hn⟩ := ih _ hlt (f s) (hI s h) rfl
        exact ⟨n + 1, hn⟩

/-- A goal that is kept by the step holds from the time it is reached. -/
theorem iterate_of_le (hP : ∀ s, P s → P (f s)) {s : S} {n k : ℕ} (h : P (f^[n] s)) (hk : n ≤ k) :
    P (f^[k] s) := by
  obtain ⟨j, rfl⟩ := Nat.exists_eq_add_of_le' hk
  rw [Function.iterate_add_apply]
  exact Function.Iterate.rec P h hP j

end iterate

/-! ### Scaling with a carried remainder -/

/-- One of the numbers may be zero. -/
def SameSign (c r : ℤ) : Prop := (0 ≤ c ∧ 0 ≤ r) ∨ (c ≤ 0 ∧ r ≤ 0)

theorem sameSign_zero_left (r : ℤ) : SameSign 0 r :=
  (le_total 0 r).imp (fun h => ⟨le_rfl, h⟩) (fun h => ⟨le_rfl, h⟩)

theorem sameSign_zero_right (c : ℤ) : SameSign c 0 :=
  (le_total 0 c).imp (fun h => ⟨h, le_rfl⟩) (fun h => ⟨h, le_rfl⟩)

/-- Truncating division. -/
theorem sameSign_scaled (n : ℤ) {d : ℤ} (hd : 0 ≤ d) : SameSign (n.tdiv d) (n.tmod d) := by
  rcases le_total 0 n with hn | hn
  · exact .inl ⟨Int.tdiv_nonneg hn hd, Int.tmod_nonneg d hn⟩
  · obtain ⟨k, rfl⟩ : ∃ k, n = -k := ⟨-n, (neg_neg n).symm⟩
    have hk : 0 ≤ k := neg_nonpos.mp hn
    rw [Int.neg_tdiv, Int.neg_tmod]
    exact .inr ⟨neg_nonpos.mpr (Int.tdiv_nonneg hk hd), neg_nonpos.mpr (Int.tmod_nonneg d hk)⟩

section scaled

variable {c r m d : ℤ}

/-- Scaled by a fraction below one, the number and its remainder stay on their side of zero and
come no further from it. -/
theorem scaled_between (h : SameSign c r) (hm : 0 ≤ m) (hmd : m < d) :
    (0 ≤ c * m + r ∧ c * m + r ≤ c * d + r) ∨ (c * d + r ≤ c * m + r ∧ c * m + r ≤ 0) := by
  rcases h with ⟨hc, hr⟩ | ⟨hc, hr⟩
  · have hle := mul_le_mul_of_nonneg_left hmd.le hc
    have hpos := mul_nonneg hc hm
    exact .inl ⟨by omega, by omega⟩
  · have hle := mul_le_mul_of_nonpos_left hmd.le hc
    have hneg := mul_nonpos_of_nonpos_of_nonneg hc hm
    exact .inr ⟨by omega, by omega⟩

/-- What is left is smaller, unless the number is zero. -/
theorem natAbs_scaled_lt (h : SameSign c r) (hm : 0 ≤ m) (hmd : m < d) (hc : c ≠ 0) :
    (c * m + r).natAbs < (c * d + r).natAbs := by
  have hne : c * m ≠ c * d := fun he => hmd.ne (mul_left_cancel₀ hc he)
  have hbetween := scaled_between h hm hmd
  omega

end scaled

end Descent
