import VoodooPS2.Lib.History
import VoodooPS2.Lib.Transition
import VoodooPS2.Controller.Request

/-! # The request queue (`submitRequest`, `processRequestQueue`, `submitRequestAndBlock`)

Clients put requests on a shared queue and signal the work loop; the work loop swaps the whole
queue into a local one and processes it request by request.  A blocking caller passes the
command gate, drains the queue the same way and then processes its own request.  The gate
admits one of them at a time.

`State` is the state of all this with one step for each action that another thread can
fall between: an enqueue under the lock, the signal after it, the swap, one command of a
request on the ports, the end of a request.  A completion routine may submit requests; it runs
in the gate, between the last command of its request and the next request, where `submit` is
possible as everywhere else.  What happens is recorded in a history, oldest event first, and
the results are about that history.

`requests_in_order` (`Controller/QueueOrder.lean`) collects them: events obey `Law`, no request
is processed twice, command lists are not interleaved on the ports, and the controller comes to
rest with every request processed. -/

namespace VoodooPS2.Controller.Queue

/-- How a request came in. -/
inductive Origin where
  | async
  | blocking
deriving DecidableEq, Repr

/-- What is recorded.  A request is known by a number. -/
inductive Event where
  /-- `submitRequest` put the request on the queue -/
  | enqueued (r : ℕ)
  /-- `submitRequestAndBlock` was called -/
  | called (b : ℕ)
  /-- its gated action began -/
  | began (b : ℕ)
  /-- the request was handed to `processRequest` -/
  | handed (o : Origin) (r : ℕ)
  /-- the request touched a port -/
  | port (r : ℕ) (e : PortEvent)
  /-- `submitRequestAndBlock` returned -/
  | returned (b : ℕ)
deriving DecidableEq, Repr

/-- Who is in the gate. -/
inductive Actor where
  | workLoop
  | blocking (b : ℕ)
deriving DecidableEq, Repr

/-- The gate and how far the action in it has come. -/
inductive Gate where
  | free
  /-- about to take the shared queue -/
  | entered (a : Actor)
  /-- between two requests of the local queue -/
  | draining (a : Actor) (localQueue : List ℕ)
  /-- in `processRequest`, with the commands still to execute -/
  | processing (a : Actor) (localQueue : List ℕ) (o : Origin) (r : ℕ) (m : Mode)
      (commands : List PS2Command)
  /-- in the completion routine of the request -/
  | completing (a : Actor) (localQueue : List ℕ) (o : Origin) (r : ℕ)

def Gate.isFree : Gate → Bool
  | free => true
  | _ => false

structure State where
  requestQueue : List ℕ
  /-- submitters that have enqueued and not yet signalled -/
  toSignal : ℕ
  /-- `_interruptSourceQueue` is signalled -/
  signalled : Bool
  /-- callers of `submitRequestAndBlock` that wait for the gate -/
  waiting : List ℕ
  gate : Gate
  kbc : Kbc
  hardwareOffline : Bool
  log : List Event

inductive Action where
  /-- `submitRequest`: the enqueue under the lock, by a client or a completion routine -/
  | submit (r : ℕ)
  /-- `submitRequest`: the signal after it -/
  | signal
  /-- `submitRequestAndBlock` is called -/
  | call (b : ℕ)
  /-- the work loop answers the signal with `processRequestQueue` -/
  | wake
  /-- the gate admits a blocking caller -/
  | enter (b : ℕ)
  /-- the action in the gate takes its next step -/
  | gateStep
  /-- the hardware changes by itself -/
  | world (k : Kbc) (hardwareOffline : Bool)

/-! ### Reading the history -/

def enqueued (log : List Event) : List ℕ :=
  log.filterMap (fun | .enqueued r => some r | _ => none)

def called (log : List Event) : List ℕ :=
  log.filterMap (fun | .called b => some b | _ => none)

def handed (log : List Event) : List ℕ :=
  log.filterMap (fun | .handed _ r => some r | _ => none)

def handedAsync (log : List Event) : List ℕ :=
  log.filterMap (fun | .handed .async r => some r | _ => none)

def handedBlocking (log : List Event) : List ℕ :=
  log.filterMap (fun | .handed .blocking r => some r | _ => none)

def returned (log : List Event) : List ℕ :=
  log.filterMap (fun | .returned b => some b | _ => none)

/-! ### The steps -/

variable (body : ℕ → PS2Request)

namespace State

def record (c : State) (e : Event) : State := { c with log := c.log ++ [e] }

def setGate (c : State) (g : Gate) : State := { c with gate := g }

/-- A request number that was not used before. -/
def Fresh (c : State) (r : ℕ) : Prop := r ∉ enqueued c.log ∧ r ∉ called c.log

instance (c : State) (r : ℕ) : Decidable (c.Fresh r) := inferInstanceAs (Decidable (_ ∧ _))

/-- The commands `processRequest` will execute. -/
def commands (c : State) (r : ℕ) : List PS2Command :=
  if c.hardwareOffline then [] else (body r).commands.take (body r).commandsCount.toNat

/-- `processRequest(r)` begins. -/
def hand (c : State) (a : Actor) (localQueue : List ℕ) (o : Origin) (r : ℕ) : State :=
  (c.record (.handed o r)).setGate (.processing a localQueue o r .start (c.commands body r))

section hand
variable (c : State) (a : Actor) (localQueue : List ℕ) (o : Origin) (r : ℕ)

@[simp] theorem hand_log : (c.hand body a localQueue o r).log = c.log ++ [.handed o r] := rfl

@[simp] theorem hand_gate :
    (c.hand body a localQueue o r).gate =
      .processing a localQueue o r .start (c.commands body r) := rfl

@[simp] theorem hand_requestQueue :
    (c.hand body a localQueue o r).requestQueue = c.requestQueue := rfl

@[simp] theorem hand_waiting : (c.hand body a localQueue o r).waiting = c.waiting := rfl

end hand

/-- One command of the request in the gate. -/
def execute (c : State) (a : Actor) (localQueue : List ℕ) (o : Origin) (r : ℕ) (m : Mode)
    (command : PS2Command) (rest : List PS2Command) : State :=
  let e := exec .normal m c.kbc command
  { c with
    kbc := e.kbc
    log := c.log ++ e.events.map (.port r)
    gate :=
      if e.value.failed then .completing a localQueue o r
      else .processing a localQueue o r e.value.mode rest }

/-- The next step of the action in the gate. -/
def gateStep (c : State) : Option State :=
  match c.gate with
  | .free => none
  | .entered a => some { c with gate := .draining a c.requestQueue, requestQueue := [] }
  | .draining a (r :: rs) => some (c.hand body a rs .async r)
  | .draining .workLoop [] => some (c.setGate .free)
  | .draining (.blocking b) [] => some (c.hand body (.blocking b) [] .blocking b)
  | .processing a q o r m (command :: rest) => some (c.execute a q o r m command rest)
  | .processing a q o r _ [] => some (c.setGate (.completing a q o r))
  | .completing a q .async _ => some (c.setGate (.draining a q))
  | .completing _ _ .blocking b => some ((c.record (.returned b)).setGate .free)

def step (c : State) : Action → Option State
  | .submit r =>
      if c.Fresh r then
        some { c with
          requestQueue := c.requestQueue ++ [r]
          toSignal := c.toSignal + 1
          log := c.log ++ [.enqueued r] }
      else none
  | .signal =>
      if 0 < c.toSignal then some { c with toSignal := c.toSignal - 1, signalled := true } else none
  | .call b =>
      if c.Fresh b then some { c with waiting := c.waiting ++ [b], log := c.log ++ [.called b] }
      else none
  | .wake =>
      match c.gate with
      | .free =>
          if c.signalled then some { c with signalled := false, gate := .entered .workLoop }
          else none
      | _ => none
  | .enter b =>
      match c.gate with
      | .free =>
          if b ∈ c.waiting then
            some { c with
              waiting := c.waiting.erase b
              gate := .entered (.blocking b)
              log := c.log ++ [.began b] }
          else none
      | _ => none
  | .gateStep => c.gateStep body
  | .world k offline => some { c with kbc := k, hardwareOffline := offline }

/-- Nothing submitted yet. -/
def initial (k : Kbc) : State := ⟨[], 0, false, [], .free, k, false, []⟩

end State

/-! ### What a step can do -/

/-- What the action in the gate can do. -/
inductive GateStep (c : State) : State → Prop
  | swap {a : Actor} (hg : c.gate = .entered a) :
      GateStep c { c with gate := .draining a c.requestQueue, requestQueue := [] }
  | handAsync {a : Actor} {r : ℕ} {rs : List ℕ} (hg : c.gate = .draining a (r :: rs)) :
      GateStep c (c.hand body a rs .async r)
  | leave (hg : c.gate = .draining .workLoop []) : GateStep c (c.setGate .free)
  | handBlocking {b : ℕ} (hg : c.gate = .draining (.blocking b) []) :
      GateStep c (c.hand body (.blocking b) [] .blocking b)
  | execute {a : Actor} {q : List ℕ} {o : Origin} {r : ℕ} {m : Mode} {command : PS2Command}
      {rest : List PS2Command} (hg : c.gate = .processing a q o r m (command :: rest)) :
      GateStep c (c.execute a q o r m command rest)
  | finish {a : Actor} {q : List ℕ} {o : Origin} {r : ℕ} {m : Mode}
      (hg : c.gate = .processing a q o r m []) : GateStep c (c.setGate (.completing a q o r))
  | goOn {a : Actor} {q : List ℕ} {r : ℕ} (hg : c.gate = .completing a q .async r) :
      GateStep c (c.setGate (.draining a q))
  | giveBack {a : Actor} {q : List ℕ} {b : ℕ} (hg : c.gate = .completing a q .blocking b) :
      GateStep c ((c.record (.returned b)).setGate .free)

theorem gateStep_cases {c c' : State} (hs : c.gateStep body = some c') : GateStep body c c' := by
  unfold State.gateStep at hs
  split at hs
  · cases hs
  all_goals
    rename_i hg
    cases hs
  · exact .swap hg
  · exact .handAsync hg
  · exact .leave hg
  · exact .handBlocking hg
  · exact .execute hg
  · exact .finish hg
  · exact .goOn hg
  · exact .giveBack hg

/-- What each action can do, and when. -/
inductive Step (c : State) : Action → State → Prop
  | submit {r : ℕ} (hr : c.Fresh r) :
      Step c (.submit r)
        { c with
          requestQueue := c.requestQueue ++ [r]
          toSignal := c.toSignal + 1
          log := c.log ++ [.enqueued r] }
  | signal (hpos : 0 < c.toSignal) :
      Step c .signal { c with toSignal := c.toSignal - 1, signalled := true }
  | call {b : ℕ} (hb : c.Fresh b) :
      Step c (.call b) { c with waiting := c.waiting ++ [b], log := c.log ++ [.called b] }
  | wake (hg : c.gate = .free) (hflag : c.signalled = true) :
      Step c .wake { c with signalled := false, gate := .entered .workLoop }
  | enter {b : ℕ} (hg : c.gate = .free) (hb : b ∈ c.waiting) :
      Step c (.enter b)
        { c with
          waiting := c.waiting.erase b
          gate := .entered (.blocking b)
          log := c.log ++ [.began b] }
  | gateStep {c' : State} (hs : GateStep body c c') : Step c .gateStep c'
  | world (k : Kbc) (offline : Bool) :
      Step c (.world k offline) { c with kbc := k, hardwareOffline := offline }

theorem step_cases {c c' : State} {a : Action} (hs : c.step body a = some c') :
    Step body c a c' := by
  cases a with
  | submit r =>
      simp only [State.step] at hs
      split_ifs at hs with hr
      cases hs
      exact .submit hr
  | signal =>
      simp only [State.step] at hs
      split_ifs at hs with hpos
      cases hs
      exact .signal hpos
  | call b =>
      simp only [State.step] at hs
      split_ifs at hs with hb
      cases hs
      exact .call hb
  | wake =>
      simp only [State.step] at hs
      split at hs
      · rename_i hg
        split_ifs at hs with hflag
        cases hs
        exact .wake hg hflag
      · cases hs
  | enter b =>
      simp only [State.step] at hs
      split at hs
      · rename_i hg
        split_ifs at hs with hb
        cases hs
        exact .enter hg hb
      · cases hs
  | gateStep => exact .gateStep (gateStep_cases body hs)
  | world k offline =>
      cases hs
      exact .world k offline

/-! ### The law of the history -/

/-- What may happen after a history: asynchronous requests are processed in the order of
submission, each once; a blocking request is processed once, after its gated action began and
after every asynchronous request enqueued before that; a blocking call returns once, after its
request was processed; the ports are touched only by the request processed last, and not after
its blocking call has returned. -/
def Law (before : List Event) : Event → Prop
  | .handed .async r => handedAsync before ++ [r] <+: enqueued before
  | .handed .blocking b =>
      b ∉ handedBlocking before ∧
        ∃ pre post, before = pre ++ .began b :: post ∧ enqueued pre ⊆ handedAsync before
  | .returned b => b ∈ handedBlocking before ∧ b ∉ returned before
  | .port r _ => (handed before).getLast? = some r ∧ r ∉ returned before
  | _ => True

/-- Between two accesses of one request no other request touches a port. -/
def NotInterleaved (log : List Event) : Prop :=
  ∀ pre r e₁ mid e₂ post, log = pre ++ .port r e₁ :: mid ++ .port r e₂ :: post →
    ∀ r' e', Event.port r' e' ∈ mid → r' = r

/-- Everybody has done what they were asked to. -/
def AtRest (c : State) : Prop :=
  c.toSignal = 0 ∧ c.signalled = false ∧ c.waiting = [] ∧ c.gate.isFree = true

instance (c : State) : Decidable (AtRest c) := inferInstanceAs (Decidable (_ ∧ _))

/-- The actions that are not new calls of clients. -/
def Internal : Action → Prop
  | .signal => True
  | .wake => True
  | .enter _ => True
  | .gateStep => True
  | _ => False

end VoodooPS2.Controller.Queue
