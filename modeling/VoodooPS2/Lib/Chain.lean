import Mathlib.Tactic

/-! # Chains of links

From each place one is sent on to another place, or has arrived.  `follow` goes on for a bounded
number of steps; `Ends` says where the chain ends, however long it is.

`ends_iff_not_returns`: where one is sent on only from places of a list, a chain ends if and only if
it does not come to a place that it has been at before.  As many steps as the list is long are
enough then, and one more (`follow_of_not_returns`). -/

namespace Chain

variable {α β : Type*} (step : α → α ⊕ β)

def follow : ℕ → α → Option β
  | 0, _ => none
  | n + 1, a =>
      match step a with
      | .inl a' => follow n a'
      | .inr b => some b

/-- The chain that starts at a place arrives at `b`. -/
inductive Ends : α → β → Prop
  | here {a : α} {b : β} (h : step a = .inr b) : Ends a b
  | next {a a' : α} {b : β} (h : step a = .inl a') (hb : Ends a' b) : Ends a b

/-- One step of a chain. -/
def Link (a a' : α) : Prop := step a = .inl a'

/-- No chain comes back to where it started. -/
def Acyclic : Prop := ∀ a, ¬ Relation.TransGen (Link step) a a

/-- The chain that starts at `a` comes to a place twice. -/
def Returns (a : α) : Prop :=
  ∃ c, Relation.ReflTransGen (Link step) a c ∧ Relation.TransGen (Link step) c c

variable {step}

theorem Returns.of_link {a a' : α} (h : step a = .inl a') (hr : Returns step a') :
    Returns step a := by
  obtain ⟨c, hac, hcc⟩ := hr
  exact ⟨c, .head h hac, hcc⟩

/-- The rest of a chain that returns does so as well. -/
theorem Returns.link {a a' : α} (h : step a = .inl a') (hr : Returns step a) :
    Returns step a' := by
  have hnext : ∀ {x c}, Relation.TransGen (Link step) x c → x = a →
      Relation.ReflTransGen (Link step) a' c := by
    rintro x c hxc rfl
    obtain ⟨y, hxy, hyc⟩ := Relation.TransGen.head'_iff.mp hxc
    obtain rfl : a' = y := Sum.inl.inj (h.symm.trans hxy)
    exact hyc
  obtain ⟨c, hac, hcc⟩ := hr
  rcases Relation.reflTransGen_iff_eq_or_transGen.mp hac with rfl | hac
  · exact ⟨c, hnext hcc rfl, hcc⟩
  · exact ⟨c, hnext hac rfl, hcc⟩

theorem Returns.not_acyclic {a : α} (h : Returns step a) : ¬ Acyclic step := by
  obtain ⟨c, -, hcc⟩ := h
  exact fun hac => hac c hcc

/-- Links that go down in rank are not cyclic. -/
theorem acyclic_of_rank (rank : α → ℕ) (h : ∀ a a', step a = .inl a' → rank a' < rank a) :
    Acyclic step := by
  have hlt : ∀ a b, Relation.TransGen (Link step) a b → rank b < rank a := by
    intro a b hab
    induction hab with
    | single hl => exact h _ _ hl
    | tail _ hl ih => exact lt_trans (h _ _ hl) ih
  exact fun a ha => lt_irrefl _ (hlt a a ha)

theorem ends_of_follow {n : ℕ} {a : α} {b : β} (h : follow step n a = some b) : Ends step a b := by
  induction n generalizing a with
  | zero => cases h
  | succ n ih =>
      rw [follow] at h
      cases hs : step a with
      | inl a' =>
          rw [hs] at h
          exact .next hs (ih h)
      | inr b' =>
          rw [hs] at h
          cases h
          exact .here hs

/-- A chain that ends does not return. -/
theorem Ends.not_returns {a : α} {b : β} (h : Ends step a b) : ¬ Returns step a := by
  induction h with
  | @here a b hs =>
      have hstuck : ∀ a', ¬ Link step a a' := fun a' hl => Sum.inr_ne_inl (hs.symm.trans hl)
      rintro ⟨c, hac, hcc⟩
      rcases Relation.ReflTransGen.cases_head hac with rfl | ⟨a', hl, -⟩
      · obtain ⟨a', hl, -⟩ := Relation.TransGen.head'_iff.mp hcc
        exact hstuck a' hl
      · exact hstuck a' hl
  | next hs _ ih => exact fun hr => ih (hr.link hs)

/-- The places passed so far are different ones of the list, and there are steps for the rest. -/
theorem follow_of_visited {keys : List α} (hkeys : ∀ a a', step a = .inl a' → a ∈ keys)
    (n : ℕ) (visited : List α) (a : α) (hreturns : ¬ Returns step a) (hnodup : visited.Nodup)
    (hsub : visited ⊆ keys) (hreach : ∀ v ∈ visited, Relation.TransGen (Link step) v a)
    (hn : keys.length + 1 ≤ visited.length + n) : ∃ b, follow step n a = some b := by
  induction n generalizing visited a with
  | zero =>
      have hle := (hnodup.subperm hsub).length_le
      omega
  | succ n ih =>
      rw [follow]
      cases hs : step a with
      | inr b => exact ⟨b, rfl⟩
      | inl a' =>
          have hnew : a ∉ visited := fun hmem => hreturns ⟨a, .refl, hreach a hmem⟩
          refine ih (a :: visited) a' (fun hr => hreturns (hr.of_link hs))
            (List.nodup_cons.mpr ⟨hnew, hnodup⟩) (List.cons_subset.mpr ⟨hkeys a a' hs, hsub⟩) ?_ ?_
          · intro v hv
            rcases List.mem_cons.mp hv with rfl | hv
            · exact .single hs
            · exact (hreach v hv).tail hs
          · rw [List.length_cons]
            omega

theorem follow_of_not_returns {keys : List α} (hkeys : ∀ a a', step a = .inl a' → a ∈ keys) {a : α}
    (h : ¬ Returns step a) : ∃ b, follow step (keys.length + 1) a = some b :=
  follow_of_visited hkeys _ [] a h List.nodup_nil (List.nil_subset _) (by simp) (by simp)

theorem follow_of_acyclic {keys : List α} (hkeys : ∀ a a', step a = .inl a' → a ∈ keys)
    (hacyclic : Acyclic step) (a : α) : ∃ b, follow step (keys.length + 1) a = some b :=
  follow_of_not_returns hkeys fun hr => hr.not_acyclic hacyclic

/-- **A chain ends exactly if it does not return**, and following it then comes to its end. -/
theorem ends_iff_not_returns {keys : List α} (hkeys : ∀ a a', step a = .inl a' → a ∈ keys) (a : α) :
    (∃ b, follow step (keys.length + 1) a = some b ∧ Ends step a b) ↔ ¬ Returns step a := by
  constructor
  · rintro ⟨b, -, hb⟩
    exact hb.not_returns
  · intro h
    obtain ⟨b, hb⟩ := follow_of_not_returns hkeys h
    exact ⟨b, hb, ends_of_follow hb⟩

end Chain
