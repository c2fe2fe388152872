import VoodooPS2.Controller.QueueInvariant

/-! # Requests are processed in order and once

From the invariant: a lawful history without double processing has the command lists of
different requests apart on the ports (`not_interleaved`).  `rank` bounds what is left to do;
every action that is not a new call lowers it, and one of them is possible until the controller
is at rest.  `gateSteps_processCommands` ties the steps of the gate to `processCommands`. -/

namespace VoodooPS2.Controller.Queue

variable (body : ℕ → PS2Request)

/-! ### Not interleaved -/

/-- If each access belongs to the request handed over last and no request is handed over twice,
the accesses of one request stand together. -/
theorem not_interleaved {log : List Event} (hlaw : History.Lawful Law log)
    (hnodup : (handed log).Nodup) : NotInterleaved log := by
  intro pre r e₁ mid e₂ post hlog r' e' hmem
  obtain ⟨mid₁, mid₂, rfl⟩ := List.append_of_mem hmem
  have h1 : (handed pre).getLast? = some r :=
    (hlaw pre (.port r e₁) (mid₁ ++ .port r' e' :: mid₂ ++ .port r e₂ :: post)
      (by rw [hlog]; simp)).1
  have h2 : (handed (pre ++ .port r e₁ :: mid₁)).getLast? = some r' :=
    (hlaw _ (.port r' e') (mid₂ ++ .port r e₂ :: post) (by rw [hlog]; simp)).1
  have h3 : (handed (pre ++ .port r e₁ :: mid₁ ++ .port r' e' :: mid₂)).getLast? = some r :=
    (hlaw _ (.port r e₂) post (by rw [hlog]; simp)).1
  -- were `r'` another request, `r` would have been handed over before and after it
  by_contra hne
  rw [handed_append] at h2 h3
  have hafter : r ∈ handed (Event.port r' e' :: mid₂) := by
    cases hlast : (handed (Event.port r' e' :: mid₂)).getLast? with
    | none =>
        rw [List.getLast?_eq_none_iff] at hlast
        rw [hlast, List.append_nil, handed_append, h2] at h3
        exact absurd (Option.some.inj h3) hne
    | some x =>
        rw [List.getLast?_append, hlast] at h3
        cases h3
        exact List.mem_of_getLast? hlast
  have hbefore : r ∈ handed pre := List.mem_of_getLast? h1
  have hsplit : handed log = handed pre ++ handed (Event.port r e₁ :: mid₁) ++
      handed (Event.port r' e' :: mid₂) ++ handed (Event.port r e₂ :: post) := by
    rw [hlog, ← handed_append, ← handed_append, ← handed_append]
    simp
  rw [hsplit] at hnodup
  have hnd := List.Nodup.of_append_left hnodup
  rw [List.nodup_append] at hnd
  exact hnd.2.2 r (List.mem_append_left _ hbefore) r hafter rfl

/-! ### What is left to do -/

/-- Steps a request takes at most, with its hand-over and its completion. -/
def cost (r : ℕ) : ℕ := (body r).commands.length + 3

def costs (q : List ℕ) : ℕ := (q.map (cost body)).sum

/-- What the actor does after the local queue. -/
def tailCost : Actor → ℕ
  | .workLoop => 0
  | .blocking b => cost body b

/-- What follows the request in the gate. -/
def afterCost (a : Actor) (q : List ℕ) : Origin → ℕ
  | .async => tailCost body a + costs body q + 1
  | .blocking => 0

def gateCost : Gate → ℕ
  | .free => 0
  | .entered a => tailCost body a + 2
  | .draining a q => tailCost body a + costs body q + 1
  | .processing a q o _ _ commands => commands.length + 2 + afterCost body a q o
  | .completing a q o _ => 1 + afterCost body a q o

def signalCost : Bool → ℕ
  | true => 3
  | false => 0

/-- A bound for the steps until the controller is at rest. -/
def rank (c : State) : ℕ :=
  4 * c.toSignal + signalCost c.signalled +
    (c.waiting.map (fun b => cost body b + 3)).sum + costs body c.requestQueue +
    gateCost body c.gate

theorem costs_cons (r : ℕ) (q : List ℕ) : costs body (r :: q) = cost body r + costs body q := by
  simp [costs]

theorem commands_length_le (c : State) (r : ℕ) : (c.commands body r).length + 3 ≤ cost body r := by
  unfold State.commands cost
  split_ifs
  · simp
  · have := List.length_take_le (body r).commandsCount.toNat (body r).commands
    have := List.length_take_le' (body r).commandsCount.toNat (body r).commands
    omega

/-- A step of the gate lowers what is left to do. -/
theorem gateStep_rank {c c' : State} (hs : GateStep body c c') : rank body c' < rank body c := by
  cases hs with
  | swap hg =>
      simp only [rank, hg, gateCost, costs, List.map_nil, List.sum_nil]
      omega
  | @handAsync a r rs hg =>
      have := commands_length_le body c r
      simp only [rank, hg, gateCost, costs_cons, State.hand, State.setGate, State.record, afterCost]
      omega
  | leave hg =>
      simp only [rank, hg, gateCost, State.setGate]
      omega
  | @handBlocking b hg =>
      have := commands_length_le body c b
      simp only [rank, hg, gateCost, State.hand, State.setGate, State.record, afterCost, tailCost]
      omega
  | execute hg =>
      simp only [rank, hg, gateCost, State.execute, List.length_cons]
      split_ifs <;> dsimp only <;> omega
  | finish hg =>
      simp only [rank, hg, gateCost, State.setGate, List.length_nil]
      omega
  | goOn hg =>
      simp only [rank, hg, gateCost, State.setGate, afterCost]
      omega
  | giveBack hg =>
      simp only [rank, hg, gateCost, State.setGate, State.record]
      omega

/-- Every action that is not a new call lowers what is left to do. -/
theorem internal_rank {c c' : State} {a : Action} (ha : Internal a)
    (hs : c.step body a = some c') : rank body c' < rank body c := by
  cases step_cases body hs with
  | submit => exact ha.elim
  | call => exact ha.elim
  | world => exact ha.elim
  | gateStep hs => exact gateStep_rank body hs
  | signal hpos =>
      simp only [rank]
      cases c.signalled <;> simp only [signalCost] <;> omega
  | wake hg hflag =>
      simp only [rank, hg, hflag, gateCost, tailCost, signalCost]
      omega
  | enter hg hb =>
      have hsum := ((List.perm_cons_erase hb).map (fun b => cost body b + 3)).sum_eq
      rw [List.map_cons, List.sum_cons] at hsum
      simp only [rank, hg, gateCost, tailCost]
      omega

/-- Until the controller is at rest one of these actions is possible. -/
theorem internal_enabled {c : State} (hr : ¬ AtRest c) :
    ∃ a, Internal a ∧ ∃ c', c.step body a = some c' := by
  by_cases hfree : c.gate = .free
  · by_cases hsig : 0 < c.toSignal
    · exact ⟨.signal, trivial, _, if_pos hsig⟩
    · cases hflag : c.signalled with
      | true =>
          exact ⟨.wake, trivial, { c with signalled := false, gate := .entered .workLoop },
            by simp only [State.step, hfree, hflag, if_true]⟩
      | false =>
          cases hw : c.waiting with
          | nil =>
              exfalso
              exact hr ⟨by omega, hflag, hw, by rw [hfree]; rfl⟩
          | cons b bs =>
              have hb : b ∈ c.waiting := by rw [hw]; exact List.mem_cons_self
              exact ⟨.enter b, trivial,
                { c with
                  waiting := c.waiting.erase b
                  gate := .entered (.blocking b)
                  log := c.log ++ [.began b] },
                by simp only [State.step, hfree, hb, if_true]⟩
  · refine ⟨.gateStep, trivial, ?_⟩
    simp only [State.step, State.gateStep]
    cases hg : c.gate with
    | free => exact absurd hg hfree
    | entered a => exact ⟨_, rfl⟩
    | draining a q => cases q <;> cases a <;> exact ⟨_, rfl⟩
    | processing a q o r m commands => cases commands <;> exact ⟨_, rfl⟩
    | completing a q o r => cases o <;> exact ⟨_, rfl⟩

/-! ### The steps of the gate are `processCommands` -/

/-- Left alone, the gate executes the commands of its request as `processCommands` does. -/
theorem gateSteps_processCommands (commands : List PS2Command) {c : State} {a : Actor}
    {q : List ℕ} {o : Origin} {r : ℕ} {m : Mode} (index : ℕ)
    (hg : c.gate = .processing a q o r m commands) :
    ∃ n, Transition.run (State.step body) c (List.replicate n .gateStep) =
      some { c with
        gate := .completing a q o r
        kbc := (run .normal (processCommands m index commands) c.kbc).kbc
        log := c.log ++
          (run .normal (processCommands m index commands) c.kbc).events.map (.port r) } := by
  induction commands generalizing c m index with
  | nil =>
      refine ⟨1, ?_⟩
      have hs : c.step body .gateStep = some (c.setGate (.completing a q o r)) := by
        simp only [State.step, State.gateStep, hg]
      simp [List.replicate, Transition.run, hs, State.setGate, processCommands, run]
  | cons command rest ih =>
      have hs : c.step body .gateStep = some (c.execute a q o r m command rest) := by
        simp only [State.step, State.gateStep, hg]
      cases hf : (exec .normal m c.kbc command).value.failed with
      | true =>
          refine ⟨1, ?_⟩
          rw [run_processCommands_failed hf]
          simp [List.replicate, Transition.run, hs, State.execute, hf]
      | false =>
          obtain ⟨n, hn⟩ := ih (c := c.execute a q o r m command rest) (index + 1)
            (by simp only [State.execute, hf]; rfl)
          refine ⟨n + 1, ?_⟩
          rw [List.replicate_succ, Transition.run, hs, Option.bind_some, hn,
            run_processCommands_passed hf]
          simp [State.execute, hf]

/-! ### In order and exactly once -/

/-- **Requests are processed in order, once, and apart.**  In every state of every run the
history is lawful, no request was handed over twice and no two command lists were interleaved;
at rest every request was handed over and every blocking call has returned; and the controller
comes to rest, whichever of its own actions come first. -/
theorem requests_in_order (k : Kbc) (actions : List Action) (c : State)
    (hrun : Transition.run (State.step body) (.initial k) actions = some c) :
    (History.Lawful Law c.log ∧ (handed c.log).Nodup ∧ NotInterleaved c.log) ∧
      (AtRest c → (handed c.log).Perm (enqueued c.log ++ called c.log) ∧
        (returned c.log).Perm (called c.log)) ∧
      (¬ AtRest c → ∃ a, Internal a ∧ ∃ c', c.step body a = some c') ∧
      (∀ a c', Internal a → c.step body a = some c' → rank body c' < rank body c) := by
  have hinv : Inv c := Transition.run_invariant (fun s a s' hs hst => hs.step hst) actions
    (inv_initial k) hrun
  exact ⟨⟨hinv.lawful, hinv.handed_nodup, not_interleaved hinv.lawful hinv.handed_nodup⟩,
    hinv.atRest, internal_enabled body, fun a c' ha hs => internal_rank body ha hs⟩

/-- Every request writes one byte to the data port. -/
def oneByte (r : ℕ) : PS2Request := .ofCommands [⟨.writeDataPort, UInt8.ofNat r, 0, 0, 0⟩]

/-- A blocking caller finds one request on the queue, and another one arrives while it is in
the gate. -/
def blockingRun : List Action :=
  [.submit 0, .call 1, .enter 1, .gateStep, .submit 2, .signal] ++ List.replicate 8 .gateStep ++
    [.signal, .wake] ++ List.replicate 6 .gateStep

theorem requests_in_order_blockingRun :
    ∃ c, Transition.run (State.step oneByte) (.initial ⟨0x47, false, none, []⟩) blockingRun =
        some c ∧
      AtRest c ∧ handed c.log = [0, 1, 2] ∧ NotInterleaved c.log ∧
      (handed c.log).Perm (enqueued c.log ++ called c.log) := by
  have hex : (Transition.run (State.step oneByte) (.initial ⟨0x47, false, none, []⟩)
      blockingRun).any (fun c => decide (AtRest c ∧ handed c.log = [0, 1, 2])) = true := by
    decide +kernel
  obtain ⟨c, hc, hp⟩ := (Option.any_eq_true _ _).mp hex
  obtain ⟨hrest, hhanded⟩ := of_decide_eq_true hp
  have h := requests_in_order oneByte ⟨0x47, false, none, []⟩ blockingRun c hc
  exact ⟨c, hc, hrest, hhanded, h.1.2.2, (h.2.1 hrest).1⟩

end VoodooPS2.Controller.Queue
