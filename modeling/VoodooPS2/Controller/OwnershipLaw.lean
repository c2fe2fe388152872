import VoodooPS2.Controller.OwnershipInvariant

/-! # Ownership along a run

`lawful_iff`: the memory is used lawfully as long as no driver goes on with a heap request that it
submitted with `submitRequestAndBlock`, and not after that.  `owned_iff` adds that in the end every
heap request was freed once. -/

namespace VoodooPS2.Controller.Ownership

open Queue

/-! ### Ownership -/

variable {body : ℕ → PS2Request} {s s' : State}

/-- A driver that resumes a heap request after `submitRequestAndBlock` finds it freed. -/
theorem not_lawful_of_resumed (h : Inv s) {a : Action} (ha : ¬ NotResumed s a)
    (hs : s.step body a = some s') : ¬ History.Lawful Law s'.memory := by
  have hfreed : ∀ b, b ∈ Queue.returned s.queue.log → s.style b = some .blocking →
      .freed b ∈ s.memory := fun b hb hst => h.finished b .blocking (h.returned b hb) hst rfl
  cases step_cases hs with
  | @readResults b hb hnot =>
      intro hlaw
      have hst : s.style b = some .blocking := not_not.mp ha
      exact (hlaw s.memory (.accessed b) [] rfl).2.1 (hfreed b hb hst)
  | @release b hb hnot =>
      intro hlaw
      have hst : s.style b = some .blocking := not_not.mp ha
      have hheap : (s.style b).any Style.onHeap = true := by rw [hst]; rfl
      rw [hheap] at hlaw
      exact (hlaw s.memory (.freed b) [] rfl).2 (hfreed b hb hst)
  | _ => exact absurd trivial ha

/-- What happened to the memory stays in the history. -/
theorem memory_step {a : Action} (hs : s.step body a = some s') :
    ∃ new, s'.memory = s.memory ++ new := by
  cases step_cases hs with
  | submitRequestAndBlock => exact ⟨[], (List.append_nil _).symm⟩
  | _ => exact ⟨_, rfl⟩

theorem memory_run (as : List Action) (hr : Transition.run (State.step body) s as = some s') :
    ∃ new, s'.memory = s.memory ++ new := by
  induction as generalizing s with
  | nil =>
      cases hr
      exact ⟨[], (List.append_nil _).symm⟩
  | cons a as ih =>
      obtain ⟨t, ht, hr⟩ := Transition.run_cons hr
      obtain ⟨new, hnew⟩ := memory_step ht
      obtain ⟨more, hmore⟩ := ih hr
      exact ⟨new ++ more, by rw [hmore, hnew, List.append_assoc]⟩

theorem lawful_of_append {log new : List MemEvent} (h : History.Lawful Law (log ++ new)) :
    History.Lawful Law log := by
  intro pre e post hsplit
  refine h pre e (post ++ new) ?_
  rw [hsplit, List.append_assoc, List.cons_append]

/-- The memory is used lawfully along a run exactly as long as no driver resumes such a request. -/
theorem lawful_iff (h : Inv s) (as : List Action)
    (hr : Transition.run (State.step body) s as = some s') :
    History.Lawful Law s'.memory ↔ Transition.Guarded (State.step body) NotResumed s as := by
  induction as generalizing s with
  | nil =>
      cases hr
      exact iff_of_true h.lawful trivial
  | cons a as ih =>
      obtain ⟨t, ht, hr⟩ := Transition.run_cons hr
      by_cases ha : NotResumed s a
      · rw [ih (h.step ha ht) hr]
        constructor
        · intro hg
          refine ⟨ha, fun u hu => ?_⟩
          obtain rfl : t = u := Option.some.inj (ht.symm.trans hu)
          exact hg
        · exact fun hg => hg.2 t ht
      · refine iff_of_false (fun hlaw => ?_) fun hg => ha hg.1
        obtain ⟨new, hnew⟩ := memory_run as hr
        rw [hnew] at hlaw
        exact not_lawful_of_resumed h ha ht (lawful_of_append hlaw)

/-- A request is freed at most once. -/
theorem count_freed_le {log : List MemEvent} (h : History.Lawful Law log) (r : ℕ) :
    log.count (.freed r) ≤ 1 := by
  by_cases hm : .freed r ∈ log
  · obtain ⟨pre, post, hlog⟩ := List.append_of_mem hm
    have hpre : .freed r ∉ pre := (h pre (.freed r) post hlog).2
    have hpost : .freed r ∉ post := by
      intro hmem
      obtain ⟨mid, rest, rfl⟩ := List.append_of_mem hmem
      have hsplit : log = (pre ++ .freed r :: mid) ++ .freed r :: rest := by
        rw [hlog]
        simp
      exact (h _ _ _ hsplit).2 (by simp)
    rw [hlog, List.count_append, List.count_cons_self, List.count_eq_zero_of_not_mem hpre,
      List.count_eq_zero_of_not_mem hpost]
  · rw [List.count_eq_zero_of_not_mem hm]
    exact Nat.zero_le 1

/-- While the invariant holds the rules are kept, and at the end every heap request was freed. -/
theorem Inv.owned (h : Inv s) : Owned s := by
  refine ⟨h.lawful, fun hdone r style hs hheap => ?_⟩
  obtain ⟨hrest, hall⟩ := hdone
  have hfinished : Finished s.queue r := by
    cases hb : style.blocks with
    | true => exact h.released r ((hall r style hs).2 hb)
    | false =>
        have hen := (hall r style hs).1 hb
        refine ⟨(h.queue.atRest hrest).1.mem_iff.mpr (List.mem_append_left _ hen), ?_⟩
        have hfree := hrest.2.2.2
        cases hg : s.queue.gate with
        | free => simp [Gate.current]
        | _ =>
            rw [hg] at hfree
            cases hfree
  have hpos := List.count_pos_iff.mpr (h.finished r style hfinished hs hheap)
  exact le_antisymm (count_freed_le h.lawful r) hpos

/-- The rules of ownership are kept along a run exactly as long as no driver goes on with a heap
request that it submitted with `submitRequestAndBlock`. -/
theorem owned_iff (body : ℕ → PS2Request) (k : Kbc) (actions : List Action) (s : State)
    (hrun : Transition.run (State.step body) (.initial k) actions = some s) :
    Owned s ↔ Transition.Guarded (State.step body) NotResumed (.initial k) actions := by
  constructor
  · intro h
    exact (lawful_iff (inv_initial k) actions hrun).mp h.1
  · intro hg
    have hinv : Inv s := Transition.run_invariant_of_guarded
      (fun _ _ _ hs hg hst => hs.step hg hst) actions (inv_initial k) hg hrun
    exact hinv.owned

instance (s : State) (a : Action) : Decidable (NotResumed s a) :=
  match a with
  | .readResults b => inferInstanceAs (Decidable (s.style b ≠ some .blocking))
  | .release b => inferInstanceAs (Decidable (s.style b ≠ some .blocking))
  | .allocate _ _ => isTrue trivial
  | .submitRequest _ => isTrue trivial
  | .submitRequestAndBlock _ => isTrue trivial
  | .controller _ => isTrue trivial

/-- Every request writes one byte to the data port. -/
def writeByte (_ : ℕ) : PS2Request := .ofCommands [⟨.writeDataPort, 0xf4, 0, 0, 0⟩]

def quietKbc : Kbc := ⟨0x47, false, none, []⟩

/-- A driver submits requests of two kinds, and waits for one on the stack. -/
def mixedRun : List Action :=
  [.allocate 0 .fireAndForget, .submitRequest 0, .allocate 1 .completion, .allocate 2 .stack,
    .submitRequestAndBlock 2, .submitRequest 1, .controller (.enter 2)] ++
    List.replicate 13 (.controller .gateStep) ++ [.readResults 2, .release 2]

theorem owned_iff_mixedRun :
    ∃ s, Transition.run (State.step writeByte) (.initial quietKbc) mixedRun = some s ∧
      .freed 0 ∈ s.memory ∧ .freed 1 ∈ s.memory ∧
      (Owned s ↔
        Transition.Guarded (State.step writeByte) NotResumed (.initial quietKbc) mixedRun) := by
  have hex : (Transition.run (State.step writeByte) (.initial quietKbc) mixedRun).any
      (fun s => decide (.freed 0 ∈ s.memory ∧ .freed 1 ∈ s.memory)) = true := by
    decide +kernel
  obtain ⟨s, hs, hp⟩ := (Option.any_eq_true _ _).mp hex
  obtain ⟨h0, h1⟩ := of_decide_eq_true hp
  exact ⟨s, hs, h0, h1, owned_iff writeByte quietKbc mixedRun s hs⟩

/-- A driver uses a heap request as the documentation says: it blocks, reads the results and frees
the request. -/
def legacyRun : List Action :=
  [.allocate 0 .blocking, .submitRequestAndBlock 0, .controller (.enter 0)] ++
    List.replicate 5 (.controller .gateStep) ++ [.readResults 0, .release 0]

/-- The results are read after the controller freed the request, and it is freed again. -/
theorem legacyRun_not_owned :
    ∃ s, Transition.run (State.step writeByte) (.initial quietKbc) legacyRun = some s ∧
      ¬ Owned s ∧ s.memory.count (.freed 0) = 2 := by
  have hex : (Transition.run (State.step writeByte) (.initial quietKbc) legacyRun).any
      (fun s => decide (s.memory.count (.freed 0) = 2)) = true := by
    decide +kernel
  obtain ⟨s, hs, hp⟩ := (Option.any_eq_true _ _).mp hex
  have hcount := of_decide_eq_true hp
  refine ⟨s, hs, fun howned => ?_, hcount⟩
  have hle := count_freed_le howned.1 0
  omega

end VoodooPS2.Controller.Ownership
