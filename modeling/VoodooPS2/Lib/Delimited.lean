import Mathlib.Tactic

/-! # Byte-at-a-time framing of frames that end themselves

The frames of some streams tell their own length.  A symbol is accepted or not after what the open
frame holds, and a frame is complete when its own symbols say so; a symbol that is not accepted is
dropped together with the open frame.

`run_flatten`: a list of well-formed frames comes out as it went in.  `not_mem_emitted`: a symbol that
is accepted nowhere is in no frame that comes out. -/

namespace Delimited

variable {α : Type*}

/-- Which symbol may follow the open frame, and which frames are complete. -/
structure Format (α : Type*) where
  ok : List α → α → Bool
  complete : List α → Bool

structure State (α : Type*) where
  acc : List α
  emitted : List (List α)

variable (f : Format α)

/-- One symbol. -/
def step (s : State α) (b : α) : State α :=
  if f.ok s.acc b then
    if f.complete (s.acc ++ [b]) then ⟨[], s.emitted ++ [s.acc ++ [b]]⟩
    else ⟨s.acc ++ [b], s.emitted⟩
  else ⟨[], s.emitted⟩

def run (s : State α) (bs : List α) : State α := bs.foldl (step f) s

@[simp] theorem run_nil (s : State α) : run f s [] = s := rfl

@[simp] theorem run_cons (s : State α) (b : α) (bs : List α) :
    run f s (b :: bs) = run f (step f s b) bs := rfl

theorem run_append (s : State α) (bs bs' : List α) :
    run f s (bs ++ bs') = run f (run f s bs) bs' :=
  List.foldl_append

/-- The symbols complete the open frame `acc`, and the last of them is the first to do so. -/
def Completes : List α → List α → Bool
  | _, [] => false
  | acc, b :: bs =>
      f.ok acc b &&
        if f.complete (acc ++ [b]) then bs.isEmpty else Completes (acc ++ [b]) bs

/-- A frame that is accepted symbol by symbol and complete with its last one. -/
def WellFormed (frame : List α) : Prop := Completes f [] frame = true

instance (frame : List α) : Decidable (WellFormed f frame) :=
  inferInstanceAs (Decidable (_ = true))

variable {f}

/-! ### Well-formed frames -/

/-- Feeding the rest of a frame whose beginning is already accumulated. -/
theorem run_completes (bs : List α) {s : State α} (h : Completes f s.acc bs = true) :
    run f s bs = ⟨[], s.emitted ++ [s.acc ++ bs]⟩ := by
  induction bs generalizing s with
  | nil => cases h
  | cons b bs ih =>
      rw [Completes, Bool.and_eq_true] at h
      obtain ⟨hok, hrest⟩ := h
      rw [run_cons, step, if_pos hok]
      by_cases hc : f.complete (s.acc ++ [b]) = true
      · rw [if_pos hc, List.isEmpty_iff] at hrest
        rw [if_pos hc, hrest, run_nil]
      · rw [if_neg hc] at hrest
        rw [if_neg hc, ih hrest, List.append_assoc, List.singleton_append]

/-- Well-formed frames all come out, in order. -/
theorem run_flatten (frames : List (List α)) {s : State α} (hacc : s.acc = [])
    (hw : ∀ frame ∈ frames, WellFormed f frame) :
    run f s frames.flatten = ⟨[], s.emitted ++ frames⟩ := by
  induction frames generalizing s with
  | nil =>
      rw [List.flatten_nil, run_nil, List.append_nil, ← hacc]
  | cons frame frames ih =>
      have hframe : Completes f s.acc frame = true := by
        rw [hacc]
        exact hw frame List.mem_cons_self
      rw [List.flatten_cons, run_append, run_completes frame hframe, hacc, List.nil_append,
        ih rfl fun x hx => hw x (List.mem_cons_of_mem _ hx), List.append_assoc,
        List.singleton_append]

/-! ### A symbol that is accepted nowhere -/

/-- The symbol is in no frame, neither in the open one. -/
def Without (bad : α) (s : State α) : Prop := bad ∉ s.acc ∧ ∀ frame ∈ s.emitted, bad ∉ frame

theorem without_step {bad : α} (hbad : ∀ acc, f.ok acc bad = false) {s : State α}
    (h : Without bad s) (b : α) : Without bad (step f s b) := by
  obtain ⟨hacc, hemitted⟩ := h
  by_cases hok : f.ok s.acc b = true
  · have hne : bad ≠ b := by
      rintro rfl
      exact Bool.false_ne_true ((hbad s.acc).symm.trans hok)
    have happend : bad ∉ s.acc ++ [b] := by
      simpa using ⟨hacc, hne⟩
    rw [step, if_pos hok]
    split
    · refine ⟨List.not_mem_nil, fun frame hf => ?_⟩
      rcases List.mem_append.mp hf with hf | hf
      · exact hemitted frame hf
      · rwa [List.mem_singleton.mp hf]
    · exact ⟨happend, hemitted⟩
  · rw [step, if_neg hok]
    exact ⟨List.not_mem_nil, hemitted⟩

theorem not_mem_emitted {bad : α} (hbad : ∀ acc, f.ok acc bad = false) (bs : List α) {s : State α}
    (h : Without bad s) : ∀ frame ∈ (run f s bs).emitted, bad ∉ frame := by
  induction bs generalizing s with
  | nil => exact h.2
  | cons b bs ih => exact ih (without_step hbad h b)

end Delimited
