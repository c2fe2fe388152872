import Mathlib.Tactic

/-! # Bounded queues and their circular representation

`Fifo.State α` is a queue together with its history: `accepted` are the elements that ever
entered it, `taken` those that ever left it.  `push cap` drops its argument when `cap`
elements are waiting, `pop` takes the oldest one.  `Conserved cap` is the law of such a
queue, `taken ++ contents = accepted` with at most `cap` elements waiting; it holds of the
empty queue and every operation keeps it (`Conserved.run`).

The second half is the arithmetic of circular storage: `slots cells C t n` are the `n` cells
of a ring of `C` cells read from position `t` on, `dist C t h` is their number when `t` is
the read position and `h` the write position.  Advancing the write position appends the cell
under it (`slots_dist_next_head`), advancing the read position drops the first one
(`slots_dist_next_tail`), and the cell under the write position is none of the stored ones
(`slots_congr_head`). -/

namespace Fifo

variable {α : Type*}

/-! ### The abstract queue -/

/-- A queue with its history. -/
structure State (α : Type*) where
  contents : List α
  accepted : List α
  taken : List α

inductive Op (α : Type*) where
  | push (a : α)
  | pop

/-- The empty queue with an empty history. -/
def empty : State α := ⟨[], [], []⟩

/-- Append `a`, or drop it when `cap` elements are waiting. -/
def push (cap : ℕ) (s : State α) (a : α) : State α :=
  if s.contents.length < cap then
    ⟨s.contents ++ [a], s.accepted ++ [a], s.taken⟩
  else s

/-- Take the oldest element, if there is one. -/
def pop (s : State α) : State α :=
  match s.contents with
  | [] => s
  | a :: q => ⟨q, s.accepted, s.taken ++ [a]⟩

def step (cap : ℕ) (s : State α) : Op α → State α
  | .push a => push cap s a
  | .pop => pop s

/-- Nothing is lost, duplicated or reordered, and the bound holds. -/
structure Conserved (cap : ℕ) (s : State α) : Prop where
  history : s.taken ++ s.contents = s.accepted
  bound : s.contents.length ≤ cap

theorem conserved_empty (cap : ℕ) : Conserved cap (empty : State α) :=
  ⟨rfl, Nat.zero_le _⟩

theorem Conserved.push {cap : ℕ} {s : State α} (h : Conserved cap s) (a : α) :
    Conserved cap (push cap s a) := by
  unfold Fifo.push
  split_ifs with hlt
  · refine ⟨?_, by simp; omega⟩
    show s.taken ++ (s.contents ++ [a]) = s.accepted ++ [a]
    rw [← List.append_assoc, h.history]
  · exact h

theorem Conserved.pop {cap : ℕ} {s : State α} (h : Conserved cap s) : Conserved cap (pop s) := by
  unfold Fifo.pop
  cases hc : s.contents with
  | nil => exact h
  | cons a q =>
      have hist := h.history
      have bound := h.bound
      rw [hc] at hist bound
      refine ⟨by simpa using hist, ?_⟩
      simp only [List.length_cons] at bound
      show q.length ≤ cap
      omega

theorem Conserved.step {cap : ℕ} {s : State α} (h : Conserved cap s) (o : Op α) :
    Conserved cap (step cap s o) := by
  cases o with
  | push a => exact h.push a
  | pop => exact h.pop

/-- The law holds along every run. -/
theorem Conserved.run {cap : ℕ} {s : State α} (h : Conserved cap s) (ops : List (Op α)) :
    Conserved cap (ops.foldl (Fifo.step cap) s) := by
  induction ops generalizing s with
  | nil => exact h
  | cons o ops ih => exact ih (h.step o)

/-! ### Circular positions -/

/-- Number of cells from the read position `t` to the write position `h`. -/
def dist (C t h : ℕ) : ℕ := if t ≤ h then h - t else C - t + h

/-- The position after `i`. -/
def next (C i : ℕ) : ℕ := if i + 1 < C then i + 1 else 0

/-- The position `k` cells after `t`. -/
def pos (C t k : ℕ) : ℕ := if t + k < C then t + k else t + k - C

theorem next_lt {C i : ℕ} (hC : 0 < C) : next C i < C := by
  unfold next; split_ifs <;> omega

theorem dist_lt {C t h : ℕ} (ht : t < C) (hh : h < C) : dist C t h < C := by
  unfold dist; split_ifs <;> omega

theorem pos_lt {C t k : ℕ} (ht : t < C) (hk : k < C) : pos C t k < C := by
  unfold pos; split_ifs <;> omega

theorem pos_zero {C t : ℕ} (ht : t < C) : pos C t 0 = t := by
  unfold pos; split_ifs <;> omega

theorem pos_dist {C t h : ℕ} (ht : t < C) (hh : h < C) : pos C t (dist C t h) = h := by
  unfold pos dist; split_ifs <;> omega

theorem pos_ne_head {C t h k : ℕ} (ht : t < C) (hk : k < dist C t h) :
    pos C t k ≠ h := by
  unfold dist at hk
  unfold pos
  split_ifs at hk ⊢ <;> omega

theorem pos_next {C t k : ℕ} (ht : t < C) (hk : k + 1 < C) :
    pos C (next C t) k = pos C t (k + 1) := by
  unfold pos next; split_ifs <;> omega

theorem dist_next_head {C t h : ℕ} (ht : t < C) (hh : h < C) (hd : dist C t h + 1 < C) :
    dist C t (next C h) = dist C t h + 1 := by
  unfold dist next at *; split_ifs at * <;> omega

/-- With one cell left free the next write position is the read position. -/
theorem dist_next_head_full {C t h : ℕ} (ht : t < C) (hh : h < C) (hd : dist C t h + 1 = C) :
    dist C t (next C h) = 0 := by
  unfold dist next at *; split_ifs at * <;> omega

theorem dist_next_self {C t : ℕ} (ht : t < C) : dist C (next C t) t + 1 = C := by
  unfold dist next; split_ifs <;> omega

theorem dist_next_tail {C t h : ℕ} (ht : t < C) (hh : h < C) (hd : 0 < dist C t h) :
    dist C (next C t) h + 1 = dist C t h := by
  unfold dist next at *; split_ifs at * <;> omega

/-! ### Stored cells -/

/-- The `n` cells read from position `t` on. -/
def slots (cells : ℕ → α) (C t n : ℕ) : List α := (List.range n).map (fun k => cells (pos C t k))

@[simp] theorem slots_length (cells : ℕ → α) (C t n : ℕ) : (slots cells C t n).length = n := by
  simp [slots]

theorem slots_succ (cells : ℕ → α) (C t n : ℕ) :
    slots cells C t (n + 1) = slots cells C t n ++ [cells (pos C t n)] := by
  simp [slots, List.range_succ]

theorem slots_cons (cells : ℕ → α) {C t n : ℕ} (ht : t < C) (hn : n < C) :
    slots cells C t (n + 1) = cells t :: slots cells C (next C t) n := by
  simp only [slots, List.range_succ_eq_map, List.map_cons, List.map_map, pos_zero ht]
  congr 1
  apply List.map_congr_left
  intro k hk
  have hk' := List.mem_range.mp hk
  simp only [Function.comp]
  rw [pos_next ht (by omega)]

theorem head?_slots (cells : ℕ → α) {C t : ℕ} (ht : t < C) (n : ℕ) :
    (slots cells C t (n + 1)).head? = some (cells t) := by
  rw [slots, List.range_succ_eq_map, List.map_cons, List.head?_cons, pos_zero ht]

theorem getLast?_slots (cells : ℕ → α) (C t n : ℕ) :
    (slots cells C t (n + 1)).getLast? = some (cells (pos C t n)) := by
  rw [slots_succ, List.getLast?_concat]

/-- Advancing the write position appends the cell under it. -/
theorem slots_dist_next_head (cells : ℕ → α) {C t h : ℕ} (ht : t < C) (hh : h < C)
    (hd : dist C t h + 1 < C) :
    slots cells C t (dist C t (next C h)) = slots cells C t (dist C t h) ++ [cells h] := by
  rw [dist_next_head ht hh hd, slots_succ, pos_dist ht hh]

/-- Advancing the read position drops the first stored cell. -/
theorem slots_dist_next_tail (cells : ℕ → α) {C t h : ℕ} (ht : t < C) (hh : h < C)
    (hd : 0 < dist C t h) :
    slots cells C t (dist C t h) = cells t :: slots cells C (next C t) (dist C (next C t) h) := by
  have hlt := dist_lt ht hh
  rw [← dist_next_tail ht hh hd] at hlt ⊢
  exact slots_cons cells ht (by omega)

/-- The cell under the write position is not stored: changing it changes nothing. -/
theorem slots_congr_head {cells cells' : ℕ → α} {C t h : ℕ} (ht : t < C) (hh : h < C)
    (he : ∀ i, i < C → i ≠ h → cells' i = cells i) :
    slots cells' C t (dist C t h) = slots cells C t (dist C t h) := by
  unfold slots
  apply List.map_congr_left
  intro k hk
  have hk' := List.mem_range.mp hk
  have hlt := dist_lt ht hh
  exact he _ (pos_lt ht (by omega)) (pos_ne_head ht hk')

/-- Writing at the write position appends to the cells stored before it. -/
theorem slots_update (cells : ℕ → α) {C t h : ℕ} (ht : t < C) (hh : h < C) (a : α) :
    slots (Function.update cells h a) C t (dist C t h + 1) = slots cells C t (dist C t h) ++ [a] := by
  have hkeep : slots (Function.update cells h a) C t (dist C t h) = slots cells C t (dist C t h) :=
    slots_congr_head ht hh (fun i _ hi => Function.update_of_ne hi a cells)
  rw [slots_succ, pos_dist ht hh, hkeep, Function.update_self]

/-- All cells, read from `t` on. -/
theorem slots_full (cells : ℕ → α) {C t : ℕ} (ht : t < C) :
    slots cells C t C = cells t :: slots cells C (next C t) (dist C (next C t) t) := by
  have hdist := dist_next_self ht
  have hcons := slots_cons cells ht (show dist C (next C t) t < C by omega)
  rw [hdist] at hcons
  exact hcons

end Fifo
