import Mathlib.Tactic

/-! # Dialogues with a device

A device takes symbols one at a time and answers each with some symbols of its own.  A host sends a
list of symbols and goes on as long as each is acknowledged.  A line that is not reliable may lose a
symbol on its way to the device, or the answer on its way back.

`accepted_eq_length_iff`: everything is accepted if and only if every symbol is acknowledged.
`lossy_accepted`: over such a line the host stops at the first loss, and the device has seen what was
sent before it; the symbol that the loss concerns has been seen if it is the answer that was lost. -/

namespace Dialogue

variable {σ α : Type*}

/-- A device: its next state, and what it answers. -/
structure Device (σ α : Type*) where
  step : σ → α → σ
  answer : σ → α → List α

namespace Device

variable (D : Device σ α)

/-- The device after it has seen a list of symbols. -/
def after (s : σ) (as : List α) : σ := as.foldl D.step s

@[simp] theorem after_nil (s : σ) : D.after s [] = s := rfl

@[simp] theorem after_cons (s : σ) (a : α) (as : List α) :
    D.after s (a :: as) = D.after (D.step s a) as := rfl

theorem after_append (s : σ) (as bs : List α) :
    D.after s (as ++ bs) = D.after (D.after s as) bs := List.foldl_append

/-- Each symbol is answered by an acknowledgement and nothing else. -/
def Acks (ack : α) : σ → List α → Prop
  | _, [] => True
  | s, a :: as => D.answer s a = [ack] ∧ Acks ack (D.step s a) as

theorem acks_append (ack : α) (s : σ) (as bs : List α) :
    D.Acks ack s (as ++ bs) ↔ D.Acks ack s as ∧ D.Acks ack (D.after s as) bs := by
  induction as generalizing s with
  | nil => exact (and_iff_right trivial).symm
  | cons a as ih =>
      rw [List.cons_append, Acks, Acks, ih, after_cons]
      exact and_assoc.symm

section

variable [DecidableEq α]

/-- How many symbols are acknowledged before the first that is not. -/
def accepted (ack : α) : σ → List α → ℕ
  | _, [] => 0
  | s, a :: as => if D.answer s a = [ack] then accepted ack (D.step s a) as + 1 else 0

theorem accepted_le (ack : α) (s : σ) (as : List α) : D.accepted ack s as ≤ as.length := by
  induction as generalizing s with
  | nil => exact Nat.le_refl 0
  | cons a as ih =>
      rw [accepted]
      split
      · exact Nat.succ_le_succ (ih _)
      · exact Nat.zero_le _

theorem accepted_eq_length_iff (ack : α) (s : σ) (as : List α) :
    D.accepted ack s as = as.length ↔ D.Acks ack s as := by
  induction as generalizing s with
  | nil => exact iff_of_true rfl trivial
  | cons a as ih =>
      rw [accepted, Acks, List.length_cons]
      split
      · rename_i h
        rw [Nat.succ_inj, ih]
        exact (and_iff_right h).symm
      · rename_i h
        exact iff_of_false (Nat.succ_ne_zero _).symm fun hc => h hc.1

end

/-! ### A line that is not reliable -/

/-- What becomes of a symbol and its answer. -/
inductive Fault where
  | none
  | symbolLost
  | answerLost
deriving DecidableEq, Repr

/-- The device at the end of a line, with the faults to come. -/
def lossy : Device (σ × List Fault) α where
  step s a :=
    match s.2 with
    | [] => (D.step s.1 a, [])
    | .symbolLost :: fs => (s.1, fs)
    | _ :: fs => (D.step s.1 a, fs)
  answer s a :=
    match s.2 with
    | [] | .none :: _ => D.answer s.1 a
    | _ => []

/-- With the line an acknowledgement comes if and only if nothing is lost. -/
theorem lossy_acks_iff {ack : α} {s : σ} {as : List α} (h : D.Acks ack s as) (fs : List Fault) :
    D.lossy.Acks ack (s, fs) as ↔ ∀ f ∈ fs.take as.length, f = .none := by
  induction as generalizing s fs with
  | nil => exact iff_of_true trivial fun f hf => absurd hf List.not_mem_nil
  | cons a as ih =>
      have hlost (f : Fault) (hf : f ≠ .none) (fs : List Fault)
          (hanswer : D.lossy.answer (s, f :: fs) a = []) :
          D.lossy.Acks ack (s, f :: fs) (a :: as) ↔ ∀ g ∈ (f :: fs).take (a :: as).length, g = .none :=
        iff_of_false (fun hacks => List.cons_ne_nil _ _ (hacks.1.symm.trans hanswer))
          fun hall => hf (hall f List.mem_cons_self)
      cases fs with
      | nil =>
          refine (and_iff_right h.1).trans ((ih h.2 []).trans ?_)
          rw [List.take_nil, List.take_nil]
      | cons f fs =>
          cases f with
          | none =>
              refine (and_iff_right h.1).trans ((ih h.2 fs).trans ?_)
              rw [List.length_cons, List.take_succ_cons, List.forall_mem_cons]
              exact (and_iff_right rfl).symm
          | symbolLost => exact hlost .symbolLost (by decide) fs rfl
          | answerLost => exact hlost .answerLost (by decide) fs rfl

variable [DecidableEq α]

/-- Over a line that is not reliable the host stops at the first loss.  What was sent before has
been seen by the device, and so has the symbol itself unless it was lost. -/
theorem lossy_accepted {ack : α} {s : σ} {as : List α} (h : D.Acks ack s as) (fs : List Fault) :
    let n := D.lossy.accepted ack (s, fs) as
    (D.lossy.Acks ack (s, fs) as ∧ (D.lossy.after (s, fs) as).1 = D.after s as) ∨
      n < as.length ∧
        ((D.lossy.after (s, fs) (as.take (n + 1))).1 = D.after s (as.take n) ∨
          (D.lossy.after (s, fs) (as.take (n + 1))).1 = D.after s (as.take (n + 1))) := by
  induction as generalizing s fs with
  | nil => exact .inl ⟨trivial, rfl⟩
  | cons a as ih =>
      intro n
      have hgo (fs' : List Fault) (hstep : D.lossy.step (s, fs) a = (D.step s a, fs'))
          (hack : D.lossy.answer (s, fs) a = [ack]) :
          (D.lossy.Acks ack (s, fs) (a :: as) ∧
              (D.lossy.after (s, fs) (a :: as)).1 = D.after s (a :: as)) ∨
            n < (a :: as).length ∧
              ((D.lossy.after (s, fs) ((a :: as).take (n + 1))).1 = D.after s ((a :: as).take n) ∨
                (D.lossy.after (s, fs) ((a :: as).take (n + 1))).1 =
                  D.after s ((a :: as).take (n + 1))) := by
        have hn : n = D.lossy.accepted ack (D.step s a, fs') as + 1 := by
          change D.lossy.accepted ack (s, fs) (a :: as) = _
          rw [accepted, if_pos hack, hstep]
        rcases ih h.2 fs' with ⟨hacks, hafter⟩ | ⟨hlt, hafter⟩
        · refine .inl ⟨⟨hack, ?_⟩, ?_⟩
          · rw [hstep]
            exact hacks
          · rw [after_cons, hstep]
            exact hafter
        · refine .inr ⟨?_, ?_⟩
          · rw [hn]
            exact Nat.succ_lt_succ hlt
          · rw [hn, List.take_succ_cons, after_cons, hstep]
            exact hafter
      have hstop (hack : D.lossy.answer (s, fs) a ≠ [ack]) : n = 0 := by
        change D.lossy.accepted ack (s, fs) (a :: as) = _
        rw [accepted, if_neg hack]
      cases fs with
      | nil => exact hgo [] rfl h.1
      | cons f fs =>
          cases f with
          | none => exact hgo fs rfl h.1
          | symbolLost =>
              have hn := hstop (List.cons_ne_nil _ _).symm
              rw [hn]
              exact .inr ⟨Nat.succ_pos _, .inl rfl⟩
          | answerLost =>
              have hn := hstop (List.cons_ne_nil _ _).symm
              rw [hn]
              exact .inr ⟨Nat.succ_pos _, .inr rfl⟩

end Device

end Dialogue
