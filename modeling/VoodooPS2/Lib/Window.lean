import Mathlib.Tactic
import Mathlib.Data.List.DropRight

/-! # Sliding windows

The window of width `N` over a stream is the list of its last `N` items, `List.rtake N`.  It moves
on with each item: once it is full, the oldest one leaves it (`push_rtake`).  The mean of a window
of integers, rounded towards zero, lies between the items (`le_mean`, `mean_le`). -/

namespace Window

section push

variable {α : Type*} {N : ℕ}

/-- The window after one more item. -/
def push (N : ℕ) (w : List α) (a : α) : List α :=
  if w.length = N then w.tail ++ [a] else w ++ [a]

theorem length_rtake (xs : List α) (N : ℕ) : (xs.rtake N).length = min xs.length N := by
  rw [List.rtake, List.length_drop]
  omega

theorem push_rtake (hN : 0 < N) (xs : List α) (a : α) :
    push N (xs.rtake N) a = (xs ++ [a]).rtake N := by
  have hlen := length_rtake xs N
  rw [push, List.rtake, List.rtake, List.length_append, List.length_singleton]
  rw [List.rtake] at hlen
  split
  · rename_i hfull
    have hle : N ≤ xs.length := by omega
    rw [List.tail_drop, ← List.drop_append_of_le_length (by omega)]
    congr 1
    omega
  · rename_i hfree
    have hlt : xs.length < N := by omega
    rw [Nat.sub_eq_zero_of_le hlt.le, Nat.sub_eq_zero_of_le hlt, List.drop_zero, List.drop_zero]

end push

/-! ### The mean -/

/-- The mean, rounded towards zero. -/
def mean (w : List ℤ) : ℤ := w.sum.tdiv w.length

section mean

variable {w : List ℤ} (hw : w ≠ [])

include hw

theorem le_mean {lo : ℤ} (h : ∀ x ∈ w, lo ≤ x) : lo ≤ mean w := by
  have hpos : (0 : ℤ) < w.length := Int.natCast_pos.mpr (List.length_pos_of_ne_nil hw)
  have hsum := w.card_nsmul_le_sum lo h
  rw [nsmul_eq_mul] at hsum
  calc lo = ((w.length : ℤ) * lo).tdiv w.length := (Int.mul_tdiv_cancel_left lo hpos.ne').symm
    _ ≤ w.sum.tdiv w.length := Int.tdiv_le_tdiv hpos hsum

theorem mean_le {hi : ℤ} (h : ∀ x ∈ w, x ≤ hi) : mean w ≤ hi := by
  have hpos : (0 : ℤ) < w.length := Int.natCast_pos.mpr (List.length_pos_of_ne_nil hw)
  have hsum := w.sum_le_card_nsmul hi h
  rw [nsmul_eq_mul] at hsum
  calc w.sum.tdiv w.length ≤ ((w.length : ℤ) * hi).tdiv w.length := Int.tdiv_le_tdiv hpos hsum
    _ = hi := Int.mul_tdiv_cancel_left hi hpos.ne'

end mean

end Window
