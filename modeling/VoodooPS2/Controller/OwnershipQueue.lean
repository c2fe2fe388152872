import VoodooPS2.Controller.Ownership
import VoodooPS2.Controller.QueueInvariant

/-! # Requests that `processRequest` is done with

`finished_step`: a request is finished by the step of the gate that ends it and by no other.  The
requests that a step of the controller goes through were submitted and are not finished
(`submitted_of_touched`, `not_finished_of_touched`). -/

namespace VoodooPS2.Controller.Ownership

open Queue

/-! ### Requests that were processed -/

/-- The request was handed to `processRequest`, which is done with it. -/
def Finished (c : Queue.State) (r : ℕ) : Prop := r ∈ handed c.log ∧ c.gate.current ≠ some r

section Queue

variable {body : ℕ → PS2Request} {c c' : Queue.State}

theorem handed_concat (log : List Event) (o : Origin) (r : ℕ) :
    handed (log ++ [.handed o r]) = handed log ++ [r] := by
  rw [handed_append]
  rfl

/-- Handing a request over finishes none. -/
theorem finished_hand {a : Actor} {q : List ℕ} {o : Origin} {r : ℕ} (hg : c.gate.current = none)
    (hn : (handed (c.log ++ [.handed o r])).Nodup) (x : ℕ) :
    Finished (c.hand body a q o r) x ↔ Finished c x := by
  unfold Finished
  rw [handed_concat, List.nodup_append] at hn
  show x ∈ handed (c.log ++ [.handed o r]) ∧ some r ≠ some x ↔ _
  rw [handed_concat, hg, List.mem_append, List.mem_singleton]
  constructor
  · rintro ⟨hx | rfl, hne⟩
    · exact ⟨hx, by simp⟩
    · exact absurd rfl hne
  · rintro ⟨hx, -⟩
    exact ⟨.inl hx, fun he => hn.2.2 x hx r (by simp) (Option.some.inj he).symm⟩

/-- The end of the request in the gate finishes it, and no other. -/
theorem finished_leave (h : Inv c) {a : Actor} {q : List ℕ} {o : Origin} {r : ℕ}
    (hg : c.gate = .completing a q o r) (x : ℕ) :
    x ∈ handed c.log ↔ Finished c x ∨ ∃ y q' o', c.gate = .completing y q' o' x := by
  have hmem : r ∈ handed c.log := List.mem_of_getLast? (h.current r (by rw [hg]; rfl)).1
  have hcur : c.gate.current = some r := by rw [hg]; rfl
  constructor
  · intro hx
    by_cases hxr : x = r
    · subst hxr
      exact .inr ⟨a, q, o, hg⟩
    · exact .inl ⟨hx, by rw [hcur]; exact fun he => hxr (Option.some.inj he).symm⟩
  · rintro (hf | ⟨y, q', o', hx⟩)
    · exact hf.1
    · rw [hg] at hx
      cases hx
      exact hmem

/-- A step of the gate finishes the request that it ends, and no other. -/
theorem finished_gateStep (h : Inv c) (hs : GateStep body c c') (hn : (handed c'.log).Nodup)
    (x : ℕ) : Finished c' x ↔ Finished c x ∨ ∃ y q o, c.gate = .completing y q o x := by
  cases hs with
  | swap hg => simp [Finished, hg, Gate.current]
  | handAsync hg =>
      rw [finished_hand (by rw [hg]; rfl) hn, hg]
      simp
  | leave hg => simp [Finished, hg, Gate.current, Queue.State.setGate]
  | handBlocking hg =>
      rw [finished_hand (by rw [hg]; rfl) hn, hg]
      simp
  | @execute a q o r m command rest hg =>
      have hcur : (c.execute a q o r m command rest).gate.current = some r := by
        unfold Queue.State.execute
        dsimp only
        split <;> rfl
      have hlog : handed (c.execute a q o r m command rest).log = handed c.log := by
        unfold Queue.State.execute
        dsimp only
        rw [handed_append, handed_ports, List.append_nil]
      rw [Finished, Finished, hcur, hlog, hg]
      simp [Gate.current]
  | finish hg => simp [Finished, hg, Gate.current, Queue.State.setGate]
  | goOn hg =>
      rw [← finished_leave h hg]
      simp [Finished, Gate.current, Queue.State.setGate]
  | giveBack hg =>
      rw [← finished_leave h hg, Finished, Queue.State.record, Queue.State.setGate]
      dsimp only
      rw [handed_append]
      simp [Gate.current, handed]

/-- A request is finished by the step that ends it in the gate, and by no other. -/
theorem finished_step (h : Inv c) {a : Queue.Action} (hs : c.step body a = some c') (x : ℕ) :
    Finished c' x ↔
      Finished c x ∨ (a = .gateStep ∧ ∃ y q o, c.gate = .completing y q o x) := by
  have hinv := (h.step hs).handed_nodup
  cases Queue.step_cases body hs with
  | submit => simp [Finished, handed]
  | signal => simp [Finished]
  | call => simp [Finished, handed]
  | wake hg => simp [Finished, hg, Gate.current]
  | enter hg => simp [Finished, hg, Gate.current, handed]
  | world => simp [Finished]
  | gateStep hs => rw [finished_gateStep h hs hinv, and_iff_right rfl]

/-- What waits to be handed over is not handed over yet. -/
theorem not_handed_of_queued (h : Inv c) {r : ℕ} (hr : r ∈ c.gate.localQueue ++ c.requestQueue) :
    r ∉ handed c.log := by
  have hfresh := h.fresh
  rw [← h.fifo, List.append_assoc (handedAsync c.log), List.append_assoc (handedAsync c.log)]
    at hfresh
  obtain ⟨-, hrest, hdis⟩ := List.nodup_append.mp hfresh
  intro hm
  rcases List.mem_append.mp ((handed_perm c.log).mem_iff.mp hm) with hm | hm
  · exact hdis r hm r (List.mem_append_left _ hr) rfl
  · have hcalled : r ∈ called c.log := h.calls.mem_iff.mpr (by simp [hm])
    exact (List.nodup_append.mp hrest).2.2 r hr r hcalled rfl

theorem not_handed_of_blocked (h : Inv c) {b : ℕ} (hb : b ∈ c.gate.blocked) :
    b ∉ handed c.log := by
  obtain ⟨-, hcn, hdis⟩ := List.nodup_append.mp h.fresh
  have hcalls := h.calls.nodup_iff.mp hcn
  have hcalled : b ∈ called c.log := h.calls.mem_iff.mpr (by simp [hb])
  intro hm
  rcases List.mem_append.mp ((handed_perm c.log).mem_iff.mp hm) with hm | hm
  · exact hdis b (by rw [← h.fifo]; simp [hm]) b hcalled rfl
  · rw [List.append_assoc] at hcalls
    exact (List.nodup_append.mp hcalls).2.2 b hm b (List.mem_append_left _ hb) rfl

/-- Where the requests are that a step of the controller goes through. -/
theorem touched_cases {r : ℕ} (hr : r ∈ touched c) :
    r ∈ c.gate.localQueue ++ c.requestQueue ∨ r ∈ c.gate.blocked ∨ c.gate.current = some r := by
  unfold touched at hr
  cases hg : c.gate with
  | free =>
      rw [hg] at hr
      cases hr
  | entered a =>
      rw [hg] at hr
      refine .inl (List.mem_append_right _ ?_)
      rcases List.mem_append.mp hr with hr | hr
      · exact List.mem_of_head? (Option.mem_toList.mp hr)
      · exact List.mem_of_getLast? (Option.mem_toList.mp hr)
  | draining a q =>
      rw [hg] at hr
      cases q with
      | cons r' rs =>
          refine .inl (List.mem_append_left _ ?_)
          rcases List.mem_cons.mp hr with rfl | hr
          · exact List.mem_cons_self
          · exact List.mem_cons_of_mem _ (List.mem_of_head? (Option.mem_toList.mp hr))
      | nil =>
          cases a with
          | workLoop => cases hr
          | blocking b => exact .inr (.inl hr)
  | processing a q o r' m commands =>
      rw [hg] at hr
      obtain rfl := List.mem_singleton.mp hr
      exact .inr (.inr rfl)
  | completing a q o r' =>
      rw [hg] at hr
      obtain rfl := List.mem_singleton.mp hr
      exact .inr (.inr rfl)

/-- The requests that a step of the controller goes through are not finished. -/
theorem not_finished_of_touched (h : Inv c) {r : ℕ} (hr : r ∈ touched c) : ¬ Finished c r := by
  rcases touched_cases hr with hr | hr | hr
  · exact fun hf => not_handed_of_queued h hr hf.1
  · exact fun hf => not_handed_of_blocked h hr hf.1
  · exact fun hf => hf.2 hr

theorem submitted_of_handed (h : Inv c) {r : ℕ} (hr : r ∈ handed c.log) :
    r ∈ enqueued c.log ++ called c.log := by
  rcases List.mem_append.mp ((handed_perm c.log).mem_iff.mp hr) with hr | hr
  · exact List.mem_append_left _ (by rw [← h.fifo]; simp [hr])
  · exact List.mem_append_right _ (h.calls.mem_iff.mpr (by simp [hr]))

/-- They were submitted. -/
theorem submitted_of_touched (h : Inv c) {r : ℕ} (hr : r ∈ touched c) :
    r ∈ enqueued c.log ++ called c.log := by
  rcases touched_cases hr with hr | hr | hr
  · refine List.mem_append_left _ ?_
    rw [← h.fifo, List.append_assoc]
    exact List.mem_append_right _ hr
  · exact List.mem_append_right _ (h.calls.mem_iff.mpr (by simp [hr]))
  · exact submitted_of_handed h (List.mem_of_getLast? (h.current r hr).1)

/-- The requests that an action puts on the queue. -/
def queuedBy : Queue.Action → List ℕ
  | .submit r => [r]
  | _ => []

/-- The requests that an action calls `submitRequestAndBlock` for. -/
def calledBy : Queue.Action → List ℕ
  | .call b => [b]
  | _ => []

/-- What a step of the gate adds to the history. -/
theorem gateStep_log (hs : GateStep body c c') :
    enqueued c'.log = enqueued c.log ∧ called c'.log = called c.log ∧
      ∀ b ∈ returned c'.log, b ∈ returned c.log ∨ ∃ y q o, c.gate = .completing y q o b := by
  cases hs with
  | swap => exact ⟨rfl, rfl, fun b hb => .inl hb⟩
  | handAsync =>
      exact ⟨enqueued_handed _ _ _, called_handed _ _ _,
        fun b hb => .inl (by rwa [← returned_handed])⟩
  | leave => exact ⟨rfl, rfl, fun b hb => .inl hb⟩
  | handBlocking =>
      exact ⟨enqueued_handed _ _ _, called_handed _ _ _,
        fun b hb => .inl (by rwa [← returned_handed])⟩
  | execute =>
      unfold Queue.State.execute
      dsimp only
      rw [enqueued_append, enqueued_ports, called_append, called_ports, returned_append,
        returned_ports, List.append_nil, List.append_nil, List.append_nil]
      exact ⟨rfl, rfl, fun b hb => .inl hb⟩
  | finish => exact ⟨rfl, rfl, fun b hb => .inl hb⟩
  | goOn => exact ⟨rfl, rfl, fun b hb => .inl hb⟩
  | @giveBack a q r hg =>
      refine ⟨?_, ?_, fun b hb => ?_⟩
      · exact (enqueued_append _ _).trans (List.append_nil _)
      · exact (called_append _ _).trans (List.append_nil _)
      · have hb : b ∈ returned (c.log ++ [.returned r]) := hb
        rw [returned_append] at hb
        rcases List.mem_append.mp hb with hb | hb
        · exact .inl hb
        · obtain rfl := List.mem_singleton.mp hb
          exact .inr ⟨_, _, _, hg⟩

/-- What a step adds to the history of submissions and returns. -/
theorem log_step {a : Queue.Action} (hs : c.step body a = some c') :
    enqueued c'.log = enqueued c.log ++ queuedBy a ∧ called c'.log = called c.log ++ calledBy a ∧
      ∀ b ∈ returned c'.log, b ∈ returned c.log ∨
        (a = .gateStep ∧ ∃ y q o, c.gate = .completing y q o b) := by
  cases Queue.step_cases body hs with
  | submit =>
      refine ⟨enqueued_append _ _, called_append _ _, fun b hb => .inl ?_⟩
      simpa [returned] using hb
  | signal => exact ⟨(List.append_nil _).symm, (List.append_nil _).symm, fun b hb => .inl hb⟩
  | call =>
      refine ⟨enqueued_append _ _, called_append _ _, fun b hb => .inl ?_⟩
      simpa [returned] using hb
  | wake => exact ⟨(List.append_nil _).symm, (List.append_nil _).symm, fun b hb => .inl hb⟩
  | enter =>
      refine ⟨enqueued_append _ _, called_append _ _, fun b hb => .inl ?_⟩
      simpa [returned] using hb
  | world => exact ⟨(List.append_nil _).symm, (List.append_nil _).symm, fun b hb => .inl hb⟩
  | gateStep hs =>
      obtain ⟨he, hc, hr⟩ := gateStep_log hs
      refine ⟨he.trans (List.append_nil _).symm, hc.trans (List.append_nil _).symm, fun b hb => ?_⟩
      exact (hr b hb).imp_right fun h => ⟨rfl, h⟩

end Queue

end VoodooPS2.Controller.Ownership
