import VoodooPS2.Controller.Queue

/-! # Who frees a request (`allocateRequest`, `freeRequest`, the end of `processRequest`)

Drivers use requests in four documented ways: fire and forget, with a completion routine that frees
the request, with `submitRequestAndBlock` and a free of their own, and on the stack.  Beside the
queue of requests the model keeps what drivers have done so far and a history of the memory: which
requests were allocated, read or written, and freed.

At the end of `processRequest` a request is freed by its routine if it has one, and else by the
controller unless its completion target is that of a request on the stack.  A request that was
allocated and submitted with `submitRequestAndBlock` has no target, so the controller frees it before
its driver reads the results.  `owned_iff` (`Controller/OwnershipLaw.lean`): a run keeps the rules
exactly as long as no driver goes on with such a request. -/

namespace VoodooPS2.Controller.Ownership

open Queue

/-- The documented ways to use a request. -/
inductive Style where
  /-- `allocateRequest`, `submitRequest` without a completion routine -/
  | fireAndForget
  /-- `allocateRequest`, `submitRequest` with a completion routine that frees the request -/
  | completion
  /-- `allocateRequest`, `submitRequestAndBlock`, reading the results, `freeRequest` -/
  | blocking
  /-- a `TPS2Request` with `submitRequestAndBlock` -/
  | stack
deriving DecidableEq, Repr

/-- `completionTarget`: null, `kStackCompletionTarget`, or an object of the driver. -/
inductive CompletionTarget where
  | null
  | kStackCompletionTarget
  | driver
deriving DecidableEq, Repr

namespace Style

/-- The target, as the constructor and the driver leave it. -/
def completionTarget : Style → CompletionTarget
  | fireAndForget => .null
  | completion => .driver
  | blocking => .null
  | stack => .kStackCompletionTarget

/-- Whether the driver has set `completionAction`. -/
def completionAction : Style → Bool
  | completion => true
  | _ => false

/-- Submitted with `submitRequestAndBlock`. -/
def blocks : Style → Bool
  | blocking => true
  | stack => true
  | _ => false

/-- Allocated on the heap. -/
def onHeap (s : Style) : Bool := s != stack

end Style

/-- What happens to the memory of a request. -/
inductive MemEvent where
  /-- `allocateRequest` -/
  | allocated (r : ℕ)
  /-- a `TPS2Request` comes to be -/
  | declared (r : ℕ)
  /-- the request is read or written -/
  | accessed (r : ℕ)
  /-- `freeRequest` -/
  | freed (r : ℕ)
  /-- the `TPS2Request` goes out of scope -/
  | left (r : ℕ)
deriving DecidableEq, Repr

structure State where
  queue : Queue.State
  /-- the way in which a request is used, once it exists -/
  style : ℕ → Option Style
  /-- blocking requests whose driver is done with them -/
  released : List ℕ
  memory : List MemEvent

inductive Action where
  /-- a driver makes a request and fills it in -/
  | allocate (r : ℕ) (style : Style)
  | submitRequest (r : ℕ)
  /-- `submitRequestAndBlock` is called -/
  | submitRequestAndBlock (b : ℕ)
  /-- a step of the controller or of the hardware -/
  | controller (a : Queue.Action)
  /-- after `submitRequestAndBlock` the driver reads the results -/
  | readResults (b : ℕ)
  /-- the driver frees the request, or its scope ends -/
  | release (b : ℕ)

/-- The end of `processRequest`: the completion routine, which reads the request and frees it, or
`freeRequest`. -/
def complete (style : Style) (r : ℕ) : List MemEvent :=
  if style.completionTarget ≠ .kStackCompletionTarget ∧ style.completionTarget ≠ .null ∧
      style.completionAction = true then
    [.accessed r, .freed r]
  else if style.completionTarget ≠ .kStackCompletionTarget then [.freed r]
  else []

/-- The requests that the next step of the action in the gate reads or writes: taking the shared
queue goes through its ends, taking a request goes through the next one. -/
def touched (c : Queue.State) : List ℕ :=
  match c.gate with
  | .free => []
  | .entered _ => c.requestQueue.head?.toList ++ c.requestQueue.getLast?.toList
  | .draining _ (r :: rs) => r :: rs.head?.toList
  | .draining .workLoop [] => []
  | .draining (.blocking b) [] => [b]
  | .processing _ _ _ r _ _ => [r]
  | .completing _ _ _ r => [r]

/-- What a step of the controller does to the memory. -/
def effects (style : ℕ → Option Style) (c : Queue.State) : Queue.Action → List MemEvent
  | .gateStep =>
      (touched c).map .accessed ++
        match c.gate with
        | .completing _ _ _ r => (style r).elim [] (complete · r)
        | _ => []
  | _ => []

namespace State

def remember (s : State) (events : List MemEvent) : State :=
  { s with memory := s.memory ++ events }

/-- The steps; `queue_enter` links the request behind the last one of the queue. -/
def step (body : ℕ → PS2Request) (s : State) : Action → Option State
  | .allocate r style =>
      if s.style r = none then
        some { s with
          style := Function.update s.style r (some style)
          memory := s.memory ++
            [if style.onHeap then .allocated r else .declared r, .accessed r] }
      else none
  | .submitRequest r =>
      if (s.style r).any (fun style => !style.blocks) then
        (s.queue.step body (.submit r)).map fun queue =>
          { s with
            queue := queue
            memory := s.memory ++
              (s.queue.requestQueue.getLast?.toList ++ [r]).map .accessed }
      else none
  | .submitRequestAndBlock b =>
      if (s.style b).any Style.blocks then
        (s.queue.step body (.call b)).map fun queue => { s with queue := queue }
      else none
  | .controller a =>
      match a with
      | .submit _ => none
      | .call _ => none
      | a =>
          (s.queue.step body a).map fun queue =>
            { s with queue := queue, memory := s.memory ++ effects s.style s.queue a }
  | .readResults b =>
      if b ∈ returned s.queue.log ∧ b ∉ s.released then some (s.remember [.accessed b]) else none
  | .release b =>
      if b ∈ returned s.queue.log ∧ b ∉ s.released then
        some { s with
          released := b :: s.released
          memory := s.memory ++
            [if (s.style b).any Style.onHeap then .freed b else .left b] }
      else none

/-- No request made yet. -/
def initial (k : Kbc) : State := ⟨.initial k, fun _ => none, [], []⟩

end State

/-! ### The rules -/

/-- What may happen to the memory after a history: a request is read or written after it was made
and before it is gone; it is freed once, and only if it is on the heap. -/
def Law (before : List MemEvent) : MemEvent → Prop
  | .accessed r =>
      (.allocated r ∈ before ∨ .declared r ∈ before) ∧ .freed r ∉ before ∧ .left r ∉ before
  | .freed r => .allocated r ∈ before ∧ .freed r ∉ before
  | _ => True

/-- Everybody has done what they were to do: every request was submitted, the controller is at
rest, and the drivers have let go of their blocking requests. -/
def Done (s : State) : Prop :=
  AtRest s.queue ∧ ∀ r style, s.style r = some style →
    (style.blocks = false → r ∈ enqueued s.queue.log) ∧ (style.blocks = true → r ∈ s.released)

/-- The rules were kept so far, and if everybody is done every heap request was freed once. -/
def Owned (s : State) : Prop :=
  History.Lawful Law s.memory ∧
    (Done s → ∀ r style, s.style r = some style → style.onHeap = true →
      s.memory.count (.freed r) = 1)

/-- No driver goes on with a heap request that it submitted with `submitRequestAndBlock`. -/
def NotResumed (s : State) : Action → Prop
  | .readResults b => s.style b ≠ some .blocking
  | .release b => s.style b ≠ some .blocking
  | _ => True

end VoodooPS2.Controller.Ownership
