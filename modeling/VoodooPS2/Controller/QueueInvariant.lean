import VoodooPS2.Controller.Queue

/-! # The invariant of the request queue

`Inv` says where every request is: handed over, in the local queue of the action in the gate,
or on the shared queue, in the order of submission; and likewise for blocking calls.  It is
kept by every step (`Inv.step`), one lemma for each action and each phase of the gate. -/

namespace VoodooPS2.Controller.Queue

variable (body : ℕ → PS2Request)

/-! ### What the gate holds -/

namespace Gate

/-- Requests taken from the shared queue and not yet handed over. -/
def localQueue : Gate → List ℕ
  | free => []
  | entered _ => []
  | draining _ q => q
  | processing _ q _ _ _ _ => q
  | completing _ q _ _ => q

/-- The blocking request in the gate that is still to be handed over. -/
def blocked : Gate → List ℕ
  | entered (.blocking b) => [b]
  | draining (.blocking b) _ => [b]
  | processing (.blocking b) _ .async _ _ _ => [b]
  | completing (.blocking b) _ .async _ => [b]
  | _ => []

/-- The blocking request in the gate that was handed over. -/
def own : Gate → List ℕ
  | processing _ _ .blocking r _ _ => [r]
  | completing _ _ .blocking r => [r]
  | _ => []

/-- The request that may touch the ports. -/
def current : Gate → Option ℕ
  | processing _ _ _ r _ _ => some r
  | completing _ _ _ r => some r
  | _ => none

def isEntered : Gate → Bool
  | entered _ => true
  | _ => false

end Gate

/-- What the action in the gate will still hand over before its own request. -/
def State.reach (c : State) : List ℕ :=
  if c.gate.isEntered then c.requestQueue else c.gate.localQueue

/-! ### Reading an extended history -/

section

variable (log : List Event) (r : ℕ) (o : Origin) (es : List PortEvent)

theorem filterMap_ports (f : Event → Option ℕ) (hf : ∀ e, f (.port r e) = none) :
    (es.map (Event.port r)).filterMap f = [] := by
  simp [List.filterMap_map, hf]

theorem enqueued_append (log' : List Event) :
    enqueued (log ++ log') = enqueued log ++ enqueued log' := List.filterMap_append

theorem called_append (log' : List Event) : called (log ++ log') = called log ++ called log' :=
  List.filterMap_append

theorem handed_append (log' : List Event) : handed (log ++ log') = handed log ++ handed log' :=
  List.filterMap_append

theorem handedAsync_append (log' : List Event) :
    handedAsync (log ++ log') = handedAsync log ++ handedAsync log' := List.filterMap_append

theorem handedBlocking_append (log' : List Event) :
    handedBlocking (log ++ log') = handedBlocking log ++ handedBlocking log' :=
  List.filterMap_append

theorem returned_append (log' : List Event) :
    returned (log ++ log') = returned log ++ returned log' := List.filterMap_append

theorem enqueued_handed : enqueued (log ++ [.handed o r]) = enqueued log := by
  rw [enqueued_append]
  exact List.append_nil _

theorem called_handed : called (log ++ [.handed o r]) = called log := by
  rw [called_append]
  exact List.append_nil _

theorem returned_handed : returned (log ++ [.handed o r]) = returned log := by
  rw [returned_append]
  exact List.append_nil _

theorem enqueued_ports : enqueued (es.map (Event.port r)) = [] :=
  filterMap_ports r es _ (fun _ => rfl)

theorem called_ports : called (es.map (Event.port r)) = [] :=
  filterMap_ports r es _ (fun _ => rfl)

theorem handed_ports : handed (es.map (Event.port r)) = [] :=
  filterMap_ports r es _ (fun _ => rfl)

theorem handedAsync_ports : handedAsync (es.map (Event.port r)) = [] :=
  filterMap_ports r es _ (fun _ => rfl)

theorem handedBlocking_ports : handedBlocking (es.map (Event.port r)) = [] :=
  filterMap_ports r es _ (fun _ => rfl)

theorem returned_ports : returned (es.map (Event.port r)) = [] :=
  filterMap_ports r es _ (fun _ => rfl)

/-- Requests handed over are those of both kinds. -/
theorem handed_perm : (handed log).Perm (handedAsync log ++ handedBlocking log) := by
  induction log with
  | nil => exact List.Perm.refl _
  | cons e log ih =>
      cases e with
      | handed o r =>
          cases o with
          | async => exact ih.cons r
          | blocking => exact (ih.cons r).trans List.perm_middle.symm
      | _ => exact ih

end

/-! ### The invariant -/

structure Inv (c : State) : Prop where
  /-- what was enqueued was handed over, waits in the local queue or in the shared one -/
  fifo : handedAsync c.log ++ c.gate.localQueue ++ c.requestQueue = enqueued c.log
  fresh : (enqueued c.log ++ called c.log).Nodup
  calls : (called c.log).Perm (handedBlocking c.log ++ c.gate.blocked ++ c.waiting)
  returns : (handedBlocking c.log).Perm (returned c.log ++ c.gate.own)
  /-- what was enqueued before the action in the gate began is handed over before its request -/
  covered : ∀ b ∈ c.gate.blocked, ∃ pre post, c.log = pre ++ .began b :: post ∧
    enqueued pre ⊆ handedAsync c.log ++ c.reach
  current : ∀ r, c.gate.current = some r →
    (handed c.log).getLast? = some r ∧ r ∉ returned c.log
  own_last : c.gate.own ≠ [] → c.gate.localQueue = []
  /-- a request on the shared queue will be noticed -/
  noticed : c.requestQueue ≠ [] → c.signalled = true ∨ 0 < c.toSignal ∨ c.gate.isEntered = true
  lawful : History.Lawful Law c.log

theorem inv_initial (k : Kbc) : Inv (.initial k) where
  fifo := rfl
  fresh := List.nodup_nil
  calls := List.Perm.refl _
  returns := List.Perm.refl _
  covered := by intro b hb; cases hb
  current := by intro r hr; cases hr
  own_last := by intro h; exact absurd rfl h
  noticed := by intro h; exact absurd rfl h
  lawful := History.lawful_nil

namespace Inv

variable {body} {c : State}

section gate
variable (h : Inv c) {g : Gate} (hg : c.gate = g)
include h hg

theorem fifo_at : handedAsync c.log ++ g.localQueue ++ c.requestQueue = enqueued c.log :=
  hg ▸ h.fifo

theorem calls_at : (called c.log).Perm (handedBlocking c.log ++ g.blocked ++ c.waiting) :=
  hg ▸ h.calls

theorem returns_at : (handedBlocking c.log).Perm (returned c.log ++ g.own) := hg ▸ h.returns

theorem own_last_at (hne : g.own ≠ []) : g.localQueue = [] := by
  subst hg
  exact h.own_last hne

theorem noticed_at (hne : c.requestQueue ≠ []) :
    c.signalled = true ∨ 0 < c.toSignal ∨ g.isEntered = true := hg ▸ h.noticed hne

theorem covered_at {b : ℕ} (hb : b ∈ g.blocked) : ∃ pre post, c.log = pre ++ .began b :: post ∧
    enqueued pre ⊆ handedAsync c.log ++ if g.isEntered then c.requestQueue else g.localQueue := by
  subst hg
  exact h.covered b hb

end gate

/-- A blocking call that returned was handed over. -/
theorem handed_of_returned (h : Inv c) {b : ℕ} (hb : b ∈ returned c.log) :
    b ∈ handedBlocking c.log :=
  h.returns.mem_iff.mpr (List.mem_append_left _ hb)

/-- A blocking request that was handed over was called. -/
theorem called_of_handed (h : Inv c) {b : ℕ} (hb : b ∈ handedBlocking c.log) :
    b ∈ called c.log :=
  h.calls.mem_iff.mpr (List.mem_append_left _ (List.mem_append_left _ hb))

/-- Later events keep the beginning of a history. -/
theorem covered_append {b : ℕ} {reach reach' : List ℕ} {log' : List Event}
    (h : ∃ pre post, c.log = pre ++ .began b :: post ∧ enqueued pre ⊆ handedAsync c.log ++ reach)
    (hsub : handedAsync c.log ++ reach ⊆ handedAsync (c.log ++ log') ++ reach') :
    ∃ pre post, c.log ++ log' = pre ++ .began b :: post ∧
      enqueued pre ⊆ handedAsync (c.log ++ log') ++ reach' := by
  obtain ⟨pre, post, hlog, hle⟩ := h
  refine ⟨pre, post ++ log', ?_, fun x hx => hsub (hle hx)⟩
  rw [hlog, List.append_assoc, List.cons_append]

theorem submit (h : Inv c) {r : ℕ} (hr : c.Fresh r) :
    Inv { c with
      requestQueue := c.requestQueue ++ [r]
      toSignal := c.toSignal + 1
      log := c.log ++ [.enqueued r] } where
  fifo := by
    rw [enqueued_append, handedAsync_append, ← h.fifo]
    simp [handedAsync, enqueued]
  fresh := by
    have hn := h.fresh
    rw [enqueued_append, called_append]
    have : (enqueued c.log ++ [r] ++ (called c.log ++ [])).Perm
        (r :: (enqueued c.log ++ called c.log)) := by
      rw [List.append_nil, List.append_assoc]
      exact List.perm_middle
    refine this.nodup_iff.mpr (List.nodup_cons.mpr ⟨?_, hn⟩)
    rw [List.mem_append]
    exact fun hm => hm.elim hr.1 hr.2
  calls := by
    rw [called_append, handedBlocking_append]
    simpa [called, handedBlocking] using h.calls
  returns := by
    rw [handedBlocking_append, returned_append]
    simpa [returned, handedBlocking] using h.returns
  covered := by
    intro b hb
    refine covered_append (h.covered b hb) ?_
    intro x hx
    rw [handedAsync_append]
    rcases List.mem_append.mp hx with hx | hx
    · exact List.mem_append_left _ (List.mem_append_left _ hx)
    · refine List.mem_append_right _ ?_
      unfold State.reach at hx ⊢
      dsimp only
      split_ifs at hx ⊢
      · exact List.mem_append_left _ hx
      · exact hx
  current := by
    intro r' hr'
    rw [handed_append, returned_append]
    simpa [handed, returned] using h.current r' hr'
  own_last := h.own_last
  noticed := fun _ => .inr (.inl (Nat.succ_pos _))
  lawful := h.lawful.concat trivial

theorem call (h : Inv c) {b : ℕ} (hb : c.Fresh b) :
    Inv { c with waiting := c.waiting ++ [b], log := c.log ++ [.called b] } where
  fifo := by
    rw [enqueued_append, handedAsync_append]
    simpa [handedAsync, enqueued] using h.fifo
  fresh := by
    have hn := h.fresh
    rw [enqueued_append, called_append]
    have : (enqueued c.log ++ [] ++ (called c.log ++ [b])).Perm
        (b :: (enqueued c.log ++ called c.log)) := by
      rw [List.append_nil, ← List.append_assoc]
      exact List.perm_append_singleton _ _
    refine this.nodup_iff.mpr (List.nodup_cons.mpr ⟨?_, hn⟩)
    rw [List.mem_append]
    exact fun hm => hm.elim hb.1 hb.2
  calls := by
    rw [called_append, handedBlocking_append]
    have := h.calls.append_right [b]
    simpa [called, handedBlocking] using this
  returns := by
    rw [handedBlocking_append, returned_append]
    simpa [returned, handedBlocking] using h.returns
  covered := by
    intro b' hb'
    refine covered_append (h.covered b' hb') ?_
    rw [handedAsync_append]
    exact fun x hx => by simpa [handedAsync, State.reach] using hx
  current := by
    intro r' hr'
    rw [handed_append, returned_append]
    simpa [handed, returned] using h.current r' hr'
  own_last := h.own_last
  noticed := h.noticed
  lawful := h.lawful.concat trivial

theorem signal (h : Inv c) :
    Inv { c with toSignal := c.toSignal - 1, signalled := true } where
  fifo := h.fifo
  fresh := h.fresh
  calls := h.calls
  returns := h.returns
  covered := h.covered
  current := h.current
  own_last := h.own_last
  noticed := fun _ => .inl rfl
  lawful := h.lawful

theorem wake (h : Inv c) (hg : c.gate = .free) :
    Inv { c with signalled := false, gate := .entered .workLoop } where
  fifo := (h.fifo_at hg :)
  fresh := h.fresh
  calls := (h.calls_at hg :)
  returns := (h.returns_at hg :)
  covered := by intro b hb; cases hb
  current := by intro r hr; cases hr
  own_last := by intro h; exact absurd rfl h
  noticed := fun _ => .inr (.inr rfl)
  lawful := h.lawful

theorem enter (h : Inv c) (hg : c.gate = .free) {b : ℕ} (hb : b ∈ c.waiting) :
    Inv { c with
      waiting := c.waiting.erase b
      gate := .entered (.blocking b)
      log := c.log ++ [.began b] } where
  fifo := by
    rw [enqueued_append, handedAsync_append]
    simpa [handedAsync, enqueued, Gate.localQueue] using h.fifo_at hg
  fresh := by
    rw [enqueued_append, called_append]
    simpa [enqueued, called] using h.fresh
  calls := by
    have hcalls := h.calls_at hg
    rw [called_append, handedBlocking_append, show called [Event.began b] = [] from rfl,
      show handedBlocking [Event.began b] = [] from rfl, List.append_nil, List.append_nil]
    refine hcalls.trans ?_
    have hp := (List.perm_cons_erase hb).append_left (handedBlocking c.log)
    simpa [Gate.blocked] using hp
  returns := by
    rw [handedBlocking_append, returned_append]
    simpa [returned, handedBlocking, Gate.own] using h.returns_at hg
  covered := by
    intro b' hb'
    obtain rfl : b' = b := by simpa [Gate.blocked] using hb'
    refine ⟨c.log, [], rfl, ?_⟩
    rw [← h.fifo_at hg, handedAsync_append]
    intro x hx
    simpa [State.reach, Gate.isEntered, Gate.localQueue, handedAsync] using hx
  current := by intro r hr; cases hr
  own_last := by intro h; exact absurd rfl h
  noticed := fun _ => .inr (.inr rfl)
  lawful := h.lawful.concat trivial

theorem world (h : Inv c) (k : Kbc) (offline : Bool) :
    Inv { c with kbc := k, hardwareOffline := offline } :=
  ⟨h.fifo, h.fresh, h.calls, h.returns, h.covered, h.current, h.own_last, h.noticed, h.lawful⟩

/-- A step of the gate that hands nothing over. -/
theorem setGate (h : Inv c) {g : Gate} (hl : g.localQueue = c.gate.localQueue)
    (hb : g.blocked = c.gate.blocked) (ho : g.own = c.gate.own)
    (he : g.isEntered = c.gate.isEntered)
    (hc : ∀ r, g.current = some r → c.gate.current = some r) : Inv (c.setGate g) where
  fifo := by
    show _ ++ g.localQueue ++ _ = _
    rw [hl]
    exact h.fifo
  fresh := h.fresh
  calls := by
    show (called c.log).Perm (_ ++ g.blocked ++ _)
    rw [hb]
    exact h.calls
  returns := by
    show (handedBlocking c.log).Perm (_ ++ g.own)
    rw [ho]
    exact h.returns
  covered := by
    intro b hmem
    have hreach : (c.setGate g).reach = c.reach := by
      unfold State.reach State.setGate
      dsimp only
      rw [he, hl]
    rw [hreach]
    exact h.covered b (by rw [← hb]; exact hmem)
  current := fun r hr => h.current r (hc r hr)
  own_last := by
    show g.own ≠ [] → g.localQueue = []
    rw [ho, hl]
    exact h.own_last
  noticed := by
    show _ → _ ∨ _ ∨ g.isEntered = true
    rw [he]
    exact h.noticed
  lawful := h.lawful

/-- The request in the gate touches the ports. -/
theorem ports (h : Inv c) {r : ℕ} (hr : c.gate.current = some r) (es : List PortEvent) (k : Kbc) :
    Inv { c with kbc := k, log := c.log ++ es.map (.port r) } where
  fifo := by
    rw [enqueued_append, handedAsync_append, enqueued_ports, handedAsync_ports, List.append_nil,
      List.append_nil]
    exact h.fifo
  fresh := by
    rw [enqueued_append, called_append, enqueued_ports, called_ports, List.append_nil,
      List.append_nil]
    exact h.fresh
  calls := by
    rw [called_append, handedBlocking_append, called_ports, handedBlocking_ports, List.append_nil,
      List.append_nil]
    exact h.calls
  returns := by
    rw [handedBlocking_append, returned_append, handedBlocking_ports, returned_ports,
      List.append_nil, List.append_nil]
    exact h.returns
  covered := by
    intro b hb
    refine covered_append (h.covered b hb) ?_
    rw [handedAsync_append, handedAsync_ports, List.append_nil]
    exact fun x hx => hx
  current := by
    intro r' hr'
    rw [handed_append, returned_append, handed_ports, returned_ports, List.append_nil,
      List.append_nil]
    exact h.current r' hr'
  own_last := h.own_last
  noticed := h.noticed
  lawful := by
    refine h.lawful.append _ (fun pre e post hsplit => ?_)
    -- what was recorded before the access is the history and accesses of the same request
    have hlen : pre = (es.take pre.length).map (.port r) := by
      rw [List.map_take, hsplit, List.take_left]
    have he : e ∈ es.map (Event.port r) := by rw [hsplit]; simp
    obtain ⟨x, _, rfl⟩ := List.mem_map.mp he
    show (handed (c.log ++ pre)).getLast? = some r ∧ r ∉ returned (c.log ++ pre)
    rw [handed_append, returned_append, hlen, handed_ports, returned_ports, List.append_nil,
      List.append_nil]
    exact h.current r hr

/-- `processRequestQueue` takes the shared queue. -/
theorem swap (h : Inv c) {a : Actor} (hg : c.gate = .entered a) :
    Inv { c with gate := .draining a c.requestQueue, requestQueue := [] } where
  fifo := by simpa [Gate.localQueue] using h.fifo_at hg
  fresh := h.fresh
  calls := by
    have hc := h.calls_at hg
    cases a <;> exact hc
  returns := (h.returns_at hg :)
  covered := by
    intro b hb
    exact (h.covered_at hg (b := b) (by cases a <;> exact hb) :)
  current := by intro r hr; cases hr
  own_last := by intro h; exact absurd rfl h
  noticed := by intro h; exact absurd rfl h
  lawful := h.lawful

/-- The oldest request of the local queue is handed over. -/
theorem handAsync (h : Inv c) {a : Actor} {r : ℕ} {rs : List ℕ}
    (hg : c.gate = .draining a (r :: rs)) : Inv (c.hand body a rs .async r) := by
  have hfifo : handedAsync c.log ++ r :: rs ++ c.requestQueue = enqueued c.log :=
    (h.fifo_at hg :)
  have hasync : handedAsync (c.log ++ [.handed .async r]) = handedAsync c.log ++ [r] :=
    handedAsync_append _ _
  have hblock : handedBlocking (c.log ++ [.handed .async r]) = handedBlocking c.log := by
    rw [handedBlocking_append]
    exact List.append_nil _
  refine ⟨?_, ?_, ?_, ?_, ?_, ?_, ?_, ?_, ?_⟩
  · rw [State.hand_log, State.hand_gate, State.hand_requestQueue, hasync, enqueued_handed, ← hfifo]
    simp [Gate.localQueue]
  · rw [State.hand_log, enqueued_handed, called_handed]
    exact h.fresh
  · rw [State.hand_log, State.hand_gate, State.hand_waiting, called_handed, hblock]
    have hc := h.calls_at hg
    cases a <;> exact hc
  · rw [State.hand_log, State.hand_gate, hblock, returned_handed]
    exact (h.returns_at hg :)
  · intro b hb
    have hc : ∃ pre post, c.log = pre ++ .began b :: post ∧
        enqueued pre ⊆ handedAsync c.log ++ (r :: rs) :=
      (h.covered_at hg (b := b) (by cases a <;> exact hb) :)
    refine covered_append hc ?_
    rw [hasync]
    intro x hx
    show x ∈ handedAsync c.log ++ [r] ++ rs
    simpa using hx
  · intro r' hr'
    obtain rfl : r = r' := Option.some.inj hr'
    have hmem : r ∈ enqueued c.log := by rw [← hfifo]; simp
    rw [State.hand_log, handed_append, returned_handed]
    exact ⟨List.getLast?_concat, fun hret =>
      List.disjoint_of_nodup_append h.fresh hmem (h.called_of_handed (h.handed_of_returned hret))⟩
  · intro hne
    exact absurd rfl hne
  · exact (h.noticed_at hg :)
  · refine h.lawful.concat ?_
    exact ⟨rs ++ c.requestQueue, by rw [← hfifo]; simp⟩

/-- With the local queue empty the blocking request itself is handed over. -/
theorem handBlocking (h : Inv c) {b : ℕ} (hg : c.gate = .draining (.blocking b) []) :
    Inv (c.hand body (.blocking b) [] .blocking b) := by
  have hasync : handedAsync (c.log ++ [.handed .blocking b]) = handedAsync c.log := by
    rw [handedAsync_append]
    exact List.append_nil _
  have hblock : handedBlocking (c.log ++ [.handed .blocking b]) = handedBlocking c.log ++ [b] :=
    handedBlocking_append _ _
  have hcalls : (called c.log).Perm (handedBlocking c.log ++ [b] ++ c.waiting) :=
    (h.calls_at hg :)
  have hnew : b ∉ handedBlocking c.log := by
    have hnd : (handedBlocking c.log ++ [b] ++ c.waiting).Nodup :=
      hcalls.nodup_iff.mp (List.Nodup.of_append_right h.fresh)
    exact fun hm => List.disjoint_of_nodup_append hnd.of_append_left hm (List.mem_singleton.mpr rfl)
  refine ⟨?_, ?_, ?_, ?_, ?_, ?_, ?_, ?_, ?_⟩
  · rw [State.hand_log, State.hand_gate, State.hand_requestQueue, hasync, enqueued_handed]
    exact (h.fifo_at hg :)
  · rw [State.hand_log, enqueued_handed, called_handed]
    exact h.fresh
  · rw [State.hand_log, State.hand_gate, State.hand_waiting, called_handed, hblock]
    simpa [Gate.blocked] using hcalls
  · have hreturns := h.returns_at hg
    rw [State.hand_log, State.hand_gate, hblock, returned_handed]
    simp only [Gate.own, List.append_nil] at hreturns ⊢
    exact hreturns.append_right _
  · intro b' hb'
    cases hb'
  · intro r' hr'
    obtain rfl : b = r' := Option.some.inj hr'
    rw [State.hand_log, handed_append, returned_handed]
    exact ⟨List.getLast?_concat, fun hret => hnew (h.handed_of_returned hret)⟩
  · exact fun _ => rfl
  · exact (h.noticed_at hg :)
  · obtain ⟨pre, post, hlog, hle⟩ := h.covered_at hg (b := b) (List.mem_singleton.mpr rfl)
    refine h.lawful.concat ⟨hnew, pre, post, hlog, fun x hx => ?_⟩
    simpa [Gate.isEntered, Gate.localQueue] using hle hx

/-- The blocking call returns. -/
theorem giveBack (h : Inv c) {a : Actor} {q : List ℕ} {b : ℕ}
    (hg : c.gate = .completing a q .blocking b) :
    Inv ((c.record (.returned b)).setGate .free) := by
  have hreturns : (handedBlocking c.log).Perm (returned c.log ++ [b]) :=
    (h.returns_at hg :)
  have hq : q = [] := h.own_last_at hg (List.cons_ne_nil _ _)
  have hfifo : handedAsync c.log ++ q ++ c.requestQueue = enqueued c.log := (h.fifo_at hg :)
  have hcalls : (called c.log).Perm (handedBlocking c.log ++ [] ++ c.waiting) := by
    have hc := h.calls_at hg
    cases a <;> exact hc
  refine ⟨?_, ?_, ?_, ?_, ?_, ?_, ?_, ?_, ?_⟩ <;> unfold State.record State.setGate
  · rw [hq] at hfifo
    rw [handedAsync_append, enqueued_append, ← hfifo]
    simp [handedAsync, enqueued, Gate.localQueue]
  · rw [enqueued_append, called_append]
    simpa [enqueued, called] using h.fresh
  · rw [called_append, handedBlocking_append]
    simpa [called, handedBlocking, Gate.blocked] using hcalls
  · rw [handedBlocking_append, returned_append]
    simpa [handedBlocking, returned, Gate.own] using hreturns
  · intro b' hb'
    cases hb'
  · intro r hr
    cases hr
  · intro hne
    exact absurd rfl hne
  · exact (h.noticed_at hg :)
  · have hcurrent := (h.current b (by rw [hg]; rfl)).2
    exact h.lawful.concat ⟨hreturns.mem_iff.mpr (by simp), hcurrent⟩

theorem gateStep (h : Inv c) {c' : State} (hs : GateStep body c c') : Inv c' := by
  cases hs with
  | swap hg => exact h.swap hg
  | handAsync hg => exact h.handAsync hg
  | leave hg => refine h.setGate ?_ ?_ ?_ ?_ (by intro r hr; cases hr) <;> rw [hg] <;> rfl
  | handBlocking hg => exact h.handBlocking hg
  | @execute a q o r m command rest hg =>
      have hp := h.ports (r := r) (by rw [hg]; rfl) (exec .normal m c.kbc command).events
        (exec .normal m c.kbc command).kbc
      refine hp.setGate ?_ ?_ ?_ ?_ ?_ <;> dsimp only <;> rw [hg] <;> split_ifs
      all_goals first | rfl | exact fun r' hr' => hr' | (cases a <;> cases o <;> rfl)
  | @finish a q o r m hg =>
      refine h.setGate ?_ ?_ ?_ ?_ ?_ <;> rw [hg]
      · rfl
      · cases a <;> cases o <;> rfl
      · cases o <;> rfl
      · rfl
      · exact fun r' hr' => hr'
  | @goOn a q r hg =>
      refine h.setGate ?_ ?_ ?_ ?_ (by intro r hr; cases hr) <;> rw [hg]
      · rfl
      · cases a <;> rfl
      · rfl
      · rfl
  | giveBack hg => exact h.giveBack hg

/-- Every step keeps the invariant. -/
theorem step (h : Inv c) {a : Action} {c' : State} (hs : c.step body a = some c') : Inv c' := by
  cases step_cases body hs with
  | submit hr => exact h.submit hr
  | signal => exact h.signal
  | call hb => exact h.call hb
  | wake hg => exact h.wake hg
  | enter hg hb => exact h.enter hg hb
  | gateStep hs => exact h.gateStep hs
  | world k offline => exact h.world k offline

/-- No request is handed over twice. -/
theorem handed_nodup (h : Inv c) : (handed c.log).Nodup := by
  have hsub : (handedAsync c.log ++ handedBlocking c.log).Subperm (enqueued c.log ++ called c.log) := by
    refine List.Subperm.append ?_ ?_
    · rw [← h.fifo, List.append_assoc]
      exact (List.sublist_append_left _ _).subperm
    · refine List.Subperm.trans ?_ h.calls.symm.subperm
      rw [List.append_assoc]
      exact (List.sublist_append_left _ _).subperm
  obtain ⟨l, hp, hl⟩ := hsub
  exact (handed_perm c.log).nodup_iff.mpr (hp.nodup_iff.mp (hl.nodup h.fresh))

/-- At rest every request was handed over and every blocking call has returned. -/
theorem atRest (h : Inv c) (hr : AtRest c) :
    (handed c.log).Perm (enqueued c.log ++ called c.log) ∧
      (returned c.log).Perm (called c.log) := by
  obtain ⟨hsig, hflag, hwait, hgate⟩ := hr
  have hg : c.gate = .free := by
    cases hc : c.gate <;> rw [hc] at hgate <;> first | rfl | cases hgate
  have hq : c.requestQueue = [] := by
    by_contra hne
    rcases h.noticed hne with he | he | he
    · rw [hflag] at he; cases he
    · omega
    · rw [hg] at he; cases he
  have hfifo := h.fifo
  have hcalls := h.calls
  have hreturns := h.returns
  rw [hg, hq] at hfifo
  rw [hg, hwait] at hcalls
  rw [hg] at hreturns
  simp only [Gate.localQueue, Gate.blocked, Gate.own, List.append_nil] at hfifo hcalls hreturns
  refine ⟨?_, hreturns.symm.trans hcalls.symm⟩
  rw [← hfifo]
  exact (handed_perm c.log).trans (hcalls.symm.append_left _)

end Inv

end VoodooPS2.Controller.Queue
