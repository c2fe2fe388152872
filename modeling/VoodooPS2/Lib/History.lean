import Mathlib.Tactic

/-! # Histories whose events obey a law

A history is a list of events, oldest first.  A law says what may happen after a given
history; a history is lawful if each of its events obeys the law at its place. -/

namespace History

variable {E : Type*} {law : List E → E → Prop} {log : List E}

/-- Each event obeys the law after the events before it. -/
def Lawful (law : List E → E → Prop) (log : List E) : Prop :=
  ∀ pre e post, log = pre ++ e :: post → law pre e

theorem lawful_nil : Lawful law [] := by
  intro pre e post h
  simp at h

/-- A lawful event extends a lawful history. -/
theorem Lawful.concat (h : Lawful law log) {e : E} (he : law log e) : Lawful law (log ++ [e]) := by
  intro pre f post hsplit
  rcases List.eq_nil_or_concat post with rfl | ⟨post', g, rfl⟩
  · obtain ⟨rfl, hef⟩ := List.append_inj_left' hsplit rfl, List.append_inj_right' hsplit rfl
    cases hef
    exact he
  · have hsplit' : log ++ [e] = (pre ++ f :: post') ++ [g] := by
      rw [hsplit]
      simp
    exact h pre f post' (List.append_inj_left' hsplit' rfl)

/-- Several events, each lawful after those before it. -/
theorem Lawful.append (h : Lawful law log) (new : List E)
    (hnew : ∀ pre e post, new = pre ++ e :: post → law (log ++ pre) e) :
    Lawful law (log ++ new) := by
  induction new generalizing log with
  | nil => simpa using h
  | cons e new ih =>
      have he : law log e := by simpa using hnew [] e new rfl
      have := ih (h.concat he) (fun pre f post hf => by
        simpa using hnew (e :: pre) f post (by rw [hf, List.cons_append]))
      simpa using this

end History
