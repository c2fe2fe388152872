import VoodooPS2.Lib.Transition
import VoodooPS2.Controller.CommandByte

/-! # Power states (`ApplePS2Controller::setPowerStateGated`)

The controller goes to sleep and wakes up in several stages.  Interrupts are ignored from the
first stage of sleep to the last stage of waking, and requests are refused in between.  On the
way the drivers are called back, and the command gate is recursive: a driver may issue requests
from its callback, and so may the completion routine of a request.

`Machine` is the controller with the stack of what is running in the gate, one statement of
`setPowerStateGated` or one port operation at a time.  Every operation pays back what it adds to
`_ignoreInterrupts`: `Prog.Ends` says so of a program over the ports, `Completes` of the rest of
a power change, and `Owes` adds up what the stack still owes.

`power_bookkeeping`: in every run, whenever nothing is running in the gate, the hardware is
offline exactly in sleep and `_ignoreInterrupts` is 1 there and 0 otherwise; it is never
negative; a request processed while offline touches no port and completes with no command. -/

namespace VoodooPS2.Controller

/-! ### Programs pay back what they ignore -/

namespace Prog

variable {α β : Type}

/-- Begun `n` levels deep in ignored interrupts, the program ends `m` levels deep. -/
def Ends (m : ℕ) : ℕ → Prog α → Prop
  | n, done _ => n = m
  | n, writeCommandPort _ p => p.Ends m n
  | n, writeDataPort _ p => p.Ends m n
  | n, readDataPort _ p => ∀ v, (p v).Ends m n
  | n, flushDataPort p => ∀ c, (p c).Ends m n
  | n, sleep _ p => p.Ends m n
  | n, ignoreInterrupts p => p.Ends m (n + 1)
  | n, heedInterrupts p => 0 < n ∧ p.Ends m (n - 1)

theorem Ends.bind {m k : ℕ} {f : α → Prog β} (hf : ∀ a, (f a).Ends k m) (p : Prog α) {n : ℕ}
    (hp : p.Ends m n) : (p.bind f).Ends k n := by
  induction p generalizing n with
  | done a =>
      cases hp
      exact hf a
  | writeCommandPort b next ih => exact ih hp
  | writeDataPort b next ih => exact ih hp
  | readDataPort r next ih => exact fun v => ih v (hp v)
  | flushDataPort next ih => exact fun c => ih c (hp c)
  | sleep ms next ih => exact ih hp
  | ignoreInterrupts next ih => exact ih hp
  | heedInterrupts next ih => exact ⟨hp.1, ih hp.2⟩

end Prog

/-- A command leaves the level alone. -/
theorem execCommand_ends (m : Mode) (c : PS2Command) (n : ℕ) : (execCommand m c).Ends n n := by
  unfold execCommand
  cases c.command <;> simp [readPort, readPortExpecting, writeDataPort, writeCommandPort, flushPort,
    ioSleep, Prog.bind, Prog.Ends]

theorem processCommands_ends (m : Mode) (index : ℕ) (cs : List PS2Command) (n : ℕ) :
    (processCommands m index cs).Ends n n := by
  induction cs generalizing m index with
  | nil => rfl
  | cons c cs ih =>
      refine Prog.Ends.bind (fun e => ?_) _ (execCommand_ends m c n)
      split
      · rfl
      · refine Prog.Ends.bind (fun res => ?_) _ (ih e.mode (index + 1))
        rfl

theorem processRequest_ends (offline : Bool) (r : PS2Request) : (processRequest offline r).Ends 0 0 := by
  unfold processRequest
  split
  · rfl
  · have hb : beginIgnoring.Ends 1 0 := rfl
    refine Prog.Ends.bind (fun _ => ?_) _ hb
    refine Prog.Ends.bind (fun res => ?_) _ (processCommands_ends _ _ _ 1)
    exact ⟨Nat.one_pos, rfl⟩

theorem setCommandByteGated_ends (setBits clearBits : UInt8) :
    (setCommandByteGated setBits clearBits).Ends 0 0 := by
  refine fun v => ⟨Nat.one_pos, ?_⟩
  simp only
  split
  · rfl
  · rfl

/-- `resetController`; `_suppressTimeout` is among the settings that its reads are run with. -/
def resetController : Prog Unit := do
  writeCommandPort kCPDisableKeyboardClock
  writeCommandPort kCPDisableMouseClock
  let _ ← flushPort
  writeCommandPort kCPEnableMouseClock
  writeCommandPort kCPEnableKeyboardClock
  writeCommandPort kCPGetCommandByte
  let commandByte ← readPort .keyboard
  writeCommandPort kCPTestController
  let _ ← readPort .keyboard
  let _ ← readPort .mouse
  writeCommandPort kCPTestKeyboardPort
  let _ ← readPort .keyboard
  writeCommandPort kCPTestMousePort
  let _ ← readPort .mouse
  writeCommandPort kCPSetCommandByte
  writeDataPort ((commandByte &&& ~~~(kCBEnableKeyboardIRQ ||| kCBEnableMouseIRQ |||
    kCBDisableMouseClock ||| kCBDisableMouseClock)) ||| kCBTranslateMode)
  writeDataPort kDPSetDefaultsAndDisable
  let _ ← readPort .keyboard
  writeCommandPort kCPTransmitToMouse
  writeDataPort kDPSetDefaultsAndDisable
  let _ ← readPort .mouse
  let _ ← flushPort
  return ()

theorem resetController_ends : resetController.Ends 0 0 := by
  simp [resetController, writeCommandPort, writeDataPort, readPort, flushPort, Prog.bind, Prog.Ends]

namespace Power

/-! ### The statements of a power change -/

inductive PowerState where
  | sleep
  | doze
  | normal
deriving DecidableEq, Repr

/-- The statements of `setPowerStateGated`. -/
inductive Stmt where
  /-- `++_ignoreInterrupts` -/
  | ignoreInterrupts
  /-- `--_ignoreInterrupts` -/
  | heedInterrupts
  | setCommandByte (setBits clearBits : UInt8)
  /-- `dispatchDriverPowerControl(enable ? kPS2C_EnableDevice : kPS2C_DisableDevice, deviceType)` -/
  | dispatchDriverPowerControl (enable : Bool) (deviceType : PS2DeviceType)
  | setHardwareOffline (offline : Bool)
  | ioSleep (ms : ℕ)
  | resetController
  | setCurrentPowerState (powerState : PowerState)
deriving DecidableEq, Repr

structure WakeSettings where
  wakedelay : ℕ
  mouseWakeFirst : Bool
deriving DecidableEq, Repr

/-- From a working state to sleep. -/
def sleepStmts : List Stmt :=
  [.ignoreInterrupts,
    .setCommandByte 0 (kCBEnableKeyboardIRQ ||| kCBEnableMouseIRQ),
    .dispatchDriverPowerControl false .mouse,
    .dispatchDriverPowerControl false .keyboard,
    .setHardwareOffline true,
    .setCommandByte (kCBDisableKeyboardClock ||| kCBDisableMouseClock) 0]

/-- Notify clients about the state change: Keyboard, then Mouse, or the other way round. -/
def wakeClients (o : WakeSettings) : List Stmt :=
  if o.mouseWakeFirst = false then
    [.dispatchDriverPowerControl true .keyboard, .dispatchDriverPowerControl true .mouse]
  else [.dispatchDriverPowerControl true .mouse, .dispatchDriverPowerControl true .keyboard]

/-- From sleep to a working state. -/
def wakeStmts (o : WakeSettings) : List Stmt :=
  List.flatten
    [if o.wakedelay ≠ 0 then [.ioSleep o.wakedelay] else [],
      [.resetController,
        .setCommandByte 0 (kCBDisableKeyboardClock ||| kCBDisableMouseClock |||
          kCBEnableKeyboardIRQ ||| kCBEnableMouseIRQ),
        .setHardwareOffline false],
      wakeClients o,
      [.setCommandByte (kCBEnableKeyboardIRQ ||| kCBEnableMouseIRQ ||| kCBSystemFlag) 0,
        .heedInterrupts]]

/-- What a power change does.  Transitions between doze and normal require no action. -/
def setPowerStateGated (o : WakeSettings) (current powerState : PowerState) : List Stmt :=
  if current = powerState then []
  else
    (match powerState with
      | .sleep => sleepStmts
      | .doze => if current ≠ .sleep then [] else wakeStmts o
      | .normal => if current ≠ .sleep then [] else wakeStmts o) ++
    [.setCurrentPowerState powerState]

/-! ### The gate -/

/-- What is running in the gate, or waiting there for what it has called. -/
inductive Frame where
  /-- the rest of `setPowerStateGated` -/
  | power (rest : List Stmt)
  /-- the rest of `setCommandByteGated` or `resetController` -/
  | ports (p : Prog Unit)
  /-- the rest of `processRequest`, whether the hardware was offline when it began, and how many
  port operations it has done -/
  | request (p : Prog PS2Request) (offline : Bool) (accesses : ℕ)
  /-- a driver's power callback, or a completion routine -/
  | client
  /-- in `processRequestQueue`, with the rest of the local queue -/
  | draining (localQueue : List PS2Request)
  /-- in `submitRequestAndBlockGated`, before `processRequest` -/
  | blocking (r : PS2Request)

/-- A request that was processed. -/
structure Completion where
  request : PS2Request
  offline : Bool
  accesses : ℕ
deriving DecidableEq, Repr

structure Machine where
  ignoreInterrupts : ℤ
  hardwareOffline : Bool
  currentPowerState : PowerState
  requestQueue : List PS2Request
  stack : List Frame
  completed : List Completion

inductive Action where
  | setPowerState (powerState : PowerState)
  | setCommandByte (setBits clearBits : UInt8)
  | processRequestQueue
  | submitRequestAndBlock (r : PS2Request)
  | submitRequest (r : PS2Request)
  /-- what runs takes its next step; a port operation gets this byte, or this many bytes -/
  | advance (byte : UInt8) (count : ℕ)
  /-- a callback or a completion routine returns -/
  | finish

/-- One operation of a program: what is left, what it adds to `_ignoreInterrupts`, and whether
it touches a port. -/
def nextOp {α : Type} (byte : UInt8) (count : ℕ) : Prog α → Option (Prog α × ℤ × Bool)
  | .done _ => none
  | .writeCommandPort _ p => some (p, 0, true)
  | .writeDataPort _ p => some (p, 0, true)
  | .readDataPort _ p => some (p byte, 0, true)
  | .flushDataPort p => some (p count, 0, true)
  | .sleep _ p => some (p, 0, false)
  | .ignoreInterrupts p => some (p, 1, false)
  | .heedInterrupts p => some (p, -1, false)

/-- `setCommandByte` as it runs in the gate. -/
def settingCommandByte (setBits clearBits : UInt8) : Frame :=
  .ports (do
    let _ ← setCommandByteGated setBits clearBits
    return ())

namespace Machine

/-- `init` and `start`: the object memory starts zeroed. -/
def initial : Machine := ⟨0, false, .normal, [], [], []⟩

def setStack (m : Machine) (stack : List Frame) : Machine := { m with stack := stack }

/-- `processRequest` begins. -/
def processing (m : Machine) (r : PS2Request) : Frame :=
  .request (processRequest m.hardwareOffline r) m.hardwareOffline 0

/-- The next statement of a power change. -/
def powerStep (m : Machine) (rest : List Stmt) (below : List Frame) : Stmt → Machine
  | .ignoreInterrupts =>
      { m with ignoreInterrupts := m.ignoreInterrupts + 1, stack := .power rest :: below }
  | .heedInterrupts =>
      { m with ignoreInterrupts := m.ignoreInterrupts - 1, stack := .power rest :: below }
  | .setCommandByte setBits clearBits =>
      m.setStack (settingCommandByte setBits clearBits :: .power rest :: below)
  | .dispatchDriverPowerControl _ _ => m.setStack (.client :: .power rest :: below)
  | .setHardwareOffline offline =>
      { m with hardwareOffline := offline, stack := .power rest :: below }
  | .ioSleep _ => m.setStack (.power rest :: below)
  | .resetController => m.setStack (.ports resetController :: .power rest :: below)
  | .setCurrentPowerState powerState =>
      { m with currentPowerState := powerState, stack := .power rest :: below }

/-- The next step of what runs in the gate. -/
def advance (m : Machine) (byte : UInt8) (count : ℕ) : Option Machine :=
  match m.stack with
  | [] => none
  | .power [] :: below => some (m.setStack below)
  | .power (s :: rest) :: below => some (m.powerStep rest below s)
  | .ports p :: below =>
      match nextOp byte count p with
      | none => some (m.setStack below)
      | some (p', delta, _) =>
          some { m with
            ignoreInterrupts := m.ignoreInterrupts + delta
            stack := .ports p' :: below }
  | .request (.done r) offline accesses :: below =>
      some { m with
        stack := .client :: below
        completed := m.completed ++ [⟨r, offline, accesses⟩] }
  | .request p offline accesses :: below =>
      (nextOp byte count p).map (fun (p', delta, touches) =>
        { m with
          ignoreInterrupts := m.ignoreInterrupts + delta
          stack := .request p' offline (accesses + touches.toNat) :: below })
  | .client :: _ => none
  | .draining [] :: below => some (m.setStack below)
  | .draining (r :: rs) :: below => some (m.setStack (m.processing r :: .draining rs :: below))
  | .blocking r :: below => some (m.setStack (m.processing r :: below))

/-- The gate is free, or open to the client that runs in it. -/
def isOpen (m : Machine) : Bool :=
  match m.stack with
  | [] => true
  | .client :: _ => true
  | _ => false

/-- The shared queue becomes the local one. -/
def drain (m : Machine) (below : List Frame) : Machine :=
  { m with requestQueue := [], stack := .draining m.requestQueue :: below }

def step (o : WakeSettings) (m : Machine) : Action → Option Machine
  | .setPowerState powerState =>
      if m.stack.isEmpty then
        some (m.setStack [.power (setPowerStateGated o m.currentPowerState powerState)])
      else none
  | .setCommandByte setBits clearBits =>
      if m.isOpen then some (m.setStack (settingCommandByte setBits clearBits :: m.stack)) else none
  | .processRequestQueue => if m.isOpen then some (m.drain m.stack) else none
  | .submitRequestAndBlock r => if m.isOpen then some (m.drain (.blocking r :: m.stack)) else none
  | .submitRequest r => some { m with requestQueue := m.requestQueue ++ [r] }
  | .advance byte count => m.advance byte count
  | .finish =>
      match m.stack with
      | .client :: below => some (m.setStack below)
      | _ => none

end Machine

/-! ### The books -/

/-- `_hardwareOffline`, `_currentPowerState` and `_ignoreInterrupts` agree. -/
def Consistent (offline : Bool) (current : PowerState) (ignored : ℕ) : Prop :=
  (offline = true ↔ current = .sleep) ∧ ignored = if current = .sleep then 1 else 0

/-- The rest of a power change leads to agreement, and takes away only what is there. -/
def Completes : List Stmt → Bool → PowerState → ℕ → Prop
  | [], offline, current, n => Consistent offline current n
  | .ignoreInterrupts :: ss, offline, current, n => Completes ss offline current (n + 1)
  | .heedInterrupts :: ss, offline, current, n => 0 < n ∧ Completes ss offline current (n - 1)
  | .setHardwareOffline b :: ss, _, current, n => Completes ss b current n
  | .setCurrentPowerState p :: ss, offline, _, n => Completes ss offline p n
  | .setCommandByte _ _ :: ss, offline, current, n => Completes ss offline current n
  | .dispatchDriverPowerControl _ _ :: ss, offline, current, n => Completes ss offline current n
  | .ioSleep _ :: ss, offline, current, n => Completes ss offline current n
  | .resetController :: ss, offline, current, n => Completes ss offline current n

/-- Waking up, or a change between two working states. -/
theorem working_completes (o : WakeSettings) {offline : Bool} {current powerState : PowerState}
    (ho : offline = true ↔ current = .sleep) (hp : powerState ≠ .sleep) :
    Completes ((if current ≠ .sleep then [] else wakeStmts o) ++ [.setCurrentPowerState powerState])
      offline current (if current = .sleep then 1 else 0) := by
  have hend (b : Bool) (hb : b = false) : Consistent b powerState 0 := by
    rw [hb, Consistent, if_neg hp]
    exact ⟨⟨nofun, fun h => absurd h hp⟩, rfl⟩
  by_cases hc : current = .sleep
  · rw [if_neg (not_not.mpr hc), if_pos hc, wakeStmts, wakeClients]
    split
    · split
      · exact ⟨Nat.one_pos, hend false rfl⟩
      · exact ⟨Nat.one_pos, hend false rfl⟩
    · split
      · exact ⟨Nat.one_pos, hend false rfl⟩
      · exact ⟨Nat.one_pos, hend false rfl⟩
  · rw [if_pos hc, if_neg hc]
    exact hend offline (Bool.eq_false_iff.mpr (fun h => hc (ho.mp h)))

theorem setPowerStateGated_completes (o : WakeSettings) {offline : Bool}
    {current : PowerState} {n : ℕ} (h : Consistent offline current n) (powerState : PowerState) :
    Completes (setPowerStateGated o current powerState) offline current n := by
  obtain ⟨ho, rfl⟩ := h
  unfold setPowerStateGated
  by_cases hc : current = powerState
  · rw [if_pos hc]
    exact ⟨ho, rfl⟩
  · rw [if_neg hc]
    cases powerState with
    | sleep =>
        rw [if_neg hc]
        exact ⟨by simp, rfl⟩
    | doze => exact working_completes o ho (by simp)
    | normal => exact working_completes o ho (by simp)

/-- What is in the gate adds up to `n` levels of ignored interrupts: each program pays back what
it took, and a power change at the bottom of the stack leads to agreement. -/
inductive Owes (offline : Bool) (current : PowerState) : List Frame → ℕ → Prop
  | free {n : ℕ} (h : Consistent offline current n) : Owes offline current [] n
  | power {rest : List Stmt} {n : ℕ} (h : Completes rest offline current n) :
      Owes offline current [.power rest] n
  | ports {p : Prog Unit} {k n : ℕ} {below : List Frame} (hp : p.Ends 0 k)
      (h : Owes offline current below n) : Owes offline current (.ports p :: below) (n + k)
  | request {p : Prog PS2Request} {b : Bool} {a k n : ℕ} {below : List Frame} (hp : p.Ends 0 k)
      (h : Owes offline current below n) : Owes offline current (.request p b a :: below) (n + k)
  | client {n : ℕ} {below : List Frame} (h : Owes offline current below n) :
      Owes offline current (.client :: below) n
  | draining {q : List PS2Request} {n : ℕ} {below : List Frame}
      (h : Owes offline current below n) : Owes offline current (.draining q :: below) n
  | blocking {r : PS2Request} {n : ℕ} {below : List Frame} (h : Owes offline current below n) :
      Owes offline current (.blocking r :: below) n

/-- One operation of a program keeps the account. -/
theorem nextOp_ends {α : Type} {p p' : Prog α} {k : ℕ} {byte : UInt8} {count : ℕ} {delta : ℤ}
    {touches : Bool} (hp : p.Ends 0 k) (h : nextOp byte count p = some (p', delta, touches)) :
    ∃ k' : ℕ, p'.Ends 0 k' ∧ (k' : ℤ) = k + delta := by
  cases p with
  | done a => cases h
  | heedInterrupts next =>
      cases h
      refine ⟨k - 1, hp.2, ?_⟩
      have := hp.1
      omega
  | ignoreInterrupts next =>
      cases h
      exact ⟨k + 1, hp, rfl⟩
  | writeCommandPort b next =>
      cases h
      exact ⟨k, hp, (add_zero _).symm⟩
  | writeDataPort b next =>
      cases h
      exact ⟨k, hp, (add_zero _).symm⟩
  | readDataPort r next =>
      cases h
      exact ⟨k, hp _, (add_zero _).symm⟩
  | flushDataPort next =>
      cases h
      exact ⟨k, hp _, (add_zero _).symm⟩
  | sleep ms next =>
      cases h
      exact ⟨k, hp, (add_zero _).symm⟩

theorem nextOp_eq_none {α : Type} {p : Prog α} {byte : UInt8} {count : ℕ}
    (h : nextOp byte count p = none) : ∃ a, p = .done a := by
  cases p with
  | done a => exact ⟨a, rfl⟩
  | _ => cases h

/-- A request begun offline has nothing left to do. -/
def Frame.Refused : Frame → Prop
  | .request p offline accesses =>
      offline = true → accesses = 0 ∧ ∃ r : PS2Request, p = .done r ∧ r.commandsCount = 0
  | _ => True

/-- A request completed offline touched no port and reports no command. -/
def Completion.Refused (c : Completion) : Prop :=
  c.offline = true → c.accesses = 0 ∧ c.request.commandsCount = 0

namespace Machine

/-- The books are kept. -/
structure Kept (m : Machine) : Prop where
  owes : ∃ n : ℕ, m.ignoreInterrupts = n ∧ Owes m.hardwareOffline m.currentPowerState m.stack n
  frames : ∀ f ∈ m.stack, f.Refused
  completed : ∀ c ∈ m.completed, c.Refused

theorem kept_initial : Kept initial where
  owes := ⟨0, rfl, .free ⟨by decide, rfl⟩⟩
  frames := by simp [initial]
  completed := by simp [initial]

theorem settingCommandByte_ends (setBits clearBits : UInt8) :
    Prog.Ends 0 0 (do
      let _ ← setCommandByteGated setBits clearBits
      return ()) := by
  refine Prog.Ends.bind (fun v => ?_) _ (setCommandByteGated_ends setBits clearBits)
  rfl

variable {m m' : Machine}

/-- What runs changes and leaves the rest as it is. -/
theorem Kept.setStack {stack : List Frame} (h : m.Kept)
    (ho : ∀ n, Owes m.hardwareOffline m.currentPowerState m.stack n →
      Owes m.hardwareOffline m.currentPowerState stack n)
    (hf : ∀ f ∈ stack, f.Refused) : (m.setStack stack).Kept := by
  obtain ⟨n, hn, hs⟩ := h.owes
  exact ⟨⟨n, hn, ho n hs⟩, hf, h.completed⟩

theorem processing_refused (m : Machine) (r : PS2Request) : (m.processing r).Refused := by
  intro hoff
  refine ⟨rfl, { r with commandsCount := 0 }, ?_, rfl⟩
  rw [hoff, processRequest, if_pos rfl]
  rfl

/-- A statement of a power change. -/
theorem Kept.powerStep {s : Stmt} {rest : List Stmt} {below : List Frame} (h : m.Kept)
    (hs : m.stack = .power (s :: rest) :: below) : (m.powerStep rest below s).Kept := by
  obtain ⟨ignored, offline, current, queue, stack, completed⟩ := m
  obtain ⟨⟨n, hn, ho⟩, -, hc⟩ := h
  subst hs
  simp only at hn
  cases ho with
  | power ho =>
      have hr : ∀ f ∈ [Frame.power rest], f.Refused := by simp [Frame.Refused]
      have hr' (f : Frame) (hf : f.Refused) : ∀ g ∈ [f, .power rest], g.Refused :=
        List.forall_mem_cons.mpr ⟨hf, hr⟩
      cases s with
      | ignoreInterrupts =>
          exact ⟨⟨n + 1, by simp [Machine.powerStep, hn], .power ho⟩, hr, hc⟩
      | heedInterrupts =>
          have hpos := ho.1
          refine ⟨⟨n - 1, ?_, .power ho.2⟩, hr, hc⟩
          simp only [Machine.powerStep, hn]
          omega
      | setCommandByte setBits clearBits =>
          exact ⟨⟨n, hn, .ports (settingCommandByte_ends setBits clearBits) (.power ho)⟩,
            hr' _ trivial, hc⟩
      | dispatchDriverPowerControl enable deviceType =>
          exact ⟨⟨n, hn, .client (.power ho)⟩, hr' _ trivial, hc⟩
      | setHardwareOffline b => exact ⟨⟨n, hn, .power ho⟩, hr, hc⟩
      | ioSleep ms => exact ⟨⟨n, hn, .power ho⟩, hr, hc⟩
      | resetController =>
          exact ⟨⟨n, hn, .ports resetController_ends (.power ho)⟩, hr' _ trivial, hc⟩
      | setCurrentPowerState p => exact ⟨⟨n, hn, .power ho⟩, hr, hc⟩

/-- An operation of `setCommandByteGated` or `resetController`. -/
theorem Kept.ports {p : Prog Unit} {below : List Frame} {byte : UInt8} {count : ℕ} (h : m.Kept)
    (hs : m.stack = .ports p :: below) (hm : m.advance byte count = some m') : m'.Kept := by
  obtain ⟨ignored, offline, current, queue, stack, completed⟩ := m
  obtain ⟨⟨n, hn, ho⟩, hf, hc⟩ := h
  subst hs
  simp only at hn
  have hbelow : ∀ f ∈ below, f.Refused := fun f hb => hf f (List.mem_cons_of_mem _ hb)
  cases ho with
  | ports hp ho =>
      simp only [Machine.advance] at hm
      split at hm
      · rename_i hnone
        cases hm
        obtain ⟨a, rfl⟩ := nextOp_eq_none hnone
        cases hp
        exact ⟨⟨_, hn, ho⟩, hbelow, hc⟩
      · rename_i hsome
        cases hm
        obtain ⟨k', hp', hk'⟩ := nextOp_ends hp hsome
        refine ⟨⟨_, ?_, .ports hp' ho⟩, ?_, hc⟩
        · simp only [hn]
          push_cast
          omega
        · exact List.forall_mem_cons.mpr ⟨trivial, hbelow⟩

/-- An operation of a request, or its end. -/
theorem Kept.request {p : Prog PS2Request} {offline : Bool} {accesses : ℕ} {below : List Frame}
    {byte : UInt8} {count : ℕ} (h : m.Kept) (hs : m.stack = .request p offline accesses :: below)
    (hm : m.advance byte count = some m') : m'.Kept := by
  obtain ⟨ignored, off, current, queue, stack, completed⟩ := m
  obtain ⟨⟨n, hn, ho⟩, hf, hc⟩ := h
  subst hs
  simp only at hn
  obtain ⟨hr, hbelow⟩ := List.forall_mem_cons.mp hf
  cases ho with
  | request hp ho =>
      cases hnext : nextOp byte count p with
      | none =>
          obtain ⟨r, rfl⟩ := nextOp_eq_none hnext
          cases hm
          cases hp
          refine ⟨⟨_, hn, .client ho⟩, List.forall_mem_cons.mpr ⟨trivial, hbelow⟩, ?_⟩
          intro c hmem
          rcases List.mem_append.mp hmem with hmem | hmem
          · exact hc c hmem
          · obtain rfl := List.mem_singleton.mp hmem
            intro hoff
            obtain ⟨ha, r', hr', hcount⟩ := hr hoff
            cases hr'
            exact ⟨ha, hcount⟩
      | some q =>
          obtain ⟨p', delta, touches⟩ := q
          have hne : ∀ r, p ≠ .done r := by
            rintro r rfl
            cases hnext
          have hm' : m' = ⟨ignored + delta, off, current, queue,
              .request p' offline (accesses + touches.toNat) :: below, completed⟩ := by
            cases p with
            | done r => exact absurd rfl (hne r)
            | _ =>
                cases hnext
                exact (Option.some.inj hm).symm
          subst hm'
          obtain ⟨k', hp', hk'⟩ := nextOp_ends hp hnext
          refine ⟨⟨_, ?_, .request hp' ho⟩, ?_, hc⟩
          · simp only [hn]
            push_cast
            omega
          · refine List.forall_mem_cons.mpr ⟨fun hoff => ?_, hbelow⟩
            obtain ⟨-, r', hr', -⟩ := hr hoff
            exact absurd hr' (hne r')

/-- The top of the stack is left. -/
theorem Kept.advance {byte : UInt8} {count : ℕ} (h : m.Kept)
    (hm : m.advance byte count = some m') : m'.Kept := by
  cases hs : m.stack with
  | nil =>
      rw [Machine.advance, hs] at hm
      cases hm
  | cons f below =>
      have hall := h.frames
      rw [hs] at hall
      obtain ⟨hf, hbelow⟩ := List.forall_mem_cons.mp hall
      cases f with
      | ports p => exact h.ports hs hm
      | request p offline accesses => exact h.request hs hm
      | power rest =>
          cases rest with
          | nil =>
              rw [Machine.advance, hs] at hm
              cases hm
              refine h.setStack (fun n ho => ?_) hbelow
              rw [hs] at ho
              cases ho with
              | power ho => exact .free ho
          | cons s rest =>
              rw [Machine.advance, hs] at hm
              cases hm
              exact h.powerStep hs
      | client =>
          rw [Machine.advance, hs] at hm
          cases hm
      | draining q =>
          cases q with
          | nil =>
              rw [Machine.advance, hs] at hm
              cases hm
              refine h.setStack (fun n ho => ?_) hbelow
              rw [hs] at ho
              cases ho with
              | draining ho => exact ho
          | cons r rs =>
              rw [Machine.advance, hs] at hm
              cases hm
              refine h.setStack (fun n ho => ?_) ?_
              · rw [hs] at ho
                cases ho with
                | draining ho => exact .request (processRequest_ends _ r) (.draining ho)
              · exact List.forall_mem_cons.mpr ⟨m.processing_refused r,
                  List.forall_mem_cons.mpr ⟨trivial, hbelow⟩⟩
      | blocking r =>
          rw [Machine.advance, hs] at hm
          cases hm
          refine h.setStack (fun n ho => ?_) ?_
          · rw [hs] at ho
            cases ho with
            | blocking ho => exact .request (processRequest_ends _ r) ho
          · exact List.forall_mem_cons.mpr ⟨m.processing_refused r, hbelow⟩

/-- Every action keeps the books. -/
theorem Kept.step {o : WakeSettings} {a : Action} (h : m.Kept) (hm : m.step o a = some m') :
    m'.Kept := by
  cases a with
  | setPowerState powerState =>
      obtain ⟨hempty, hm⟩ := Option.ite_none_right_eq_some.mp hm
      cases hm
      refine h.setStack (fun n ho => ?_) (by simp [Frame.Refused])
      rw [List.isEmpty_iff.mp hempty] at ho
      cases ho with
      | free ho => exact .power (setPowerStateGated_completes o ho powerState)
  | setCommandByte setBits clearBits =>
      obtain ⟨-, hm⟩ := Option.ite_none_right_eq_some.mp hm
      cases hm
      exact h.setStack (fun n ho => .ports (settingCommandByte_ends setBits clearBits) ho)
        (List.forall_mem_cons.mpr ⟨trivial, h.frames⟩)
  | processRequestQueue =>
      obtain ⟨-, hm⟩ := Option.ite_none_right_eq_some.mp hm
      cases hm
      obtain ⟨n, hn, ho⟩ := h.owes
      exact ⟨⟨n, hn, .draining ho⟩, List.forall_mem_cons.mpr ⟨trivial, h.frames⟩, h.completed⟩
  | submitRequestAndBlock r =>
      obtain ⟨-, hm⟩ := Option.ite_none_right_eq_some.mp hm
      cases hm
      obtain ⟨n, hn, ho⟩ := h.owes
      exact ⟨⟨n, hn, .draining (.blocking ho)⟩,
        List.forall_mem_cons.mpr ⟨trivial, List.forall_mem_cons.mpr ⟨trivial, h.frames⟩⟩,
        h.completed⟩
  | submitRequest r =>
      cases hm
      exact ⟨h.owes, h.frames, h.completed⟩
  | advance byte count => exact h.advance hm
  | finish =>
      simp only [Machine.step] at hm
      split at hm
      · rename_i below hs
        cases hm
        have hall := h.frames
        rw [hs] at hall
        refine h.setStack (fun n ho => ?_) (List.forall_mem_cons.mp hall).2
        rw [hs] at ho
        cases ho with
        | client ho => exact ho
      · cases hm

/-- In every run: `_ignoreInterrupts` is never negative; when nothing runs in the gate the
hardware is offline exactly in sleep, and `_ignoreInterrupts` is 1 there and 0 otherwise; and a
request processed while offline touched no port and completed with `commandsCount` 0. -/
theorem power_bookkeeping (o : WakeSettings) (actions : List Action) (m : Machine)
    (hr : Transition.run (step o) initial actions = some m) :
    0 ≤ m.ignoreInterrupts ∧
      (m.stack = [] →
        (m.hardwareOffline = true ↔ m.currentPowerState = .sleep) ∧
          m.ignoreInterrupts = if m.currentPowerState = .sleep then 1 else 0) ∧
      ∀ c ∈ m.completed, c.offline = true → c.accesses = 0 ∧ c.request.commandsCount = 0 := by
  have hk : m.Kept :=
    Transition.run_invariant (fun _ _ _ h hs => h.step hs) actions kept_initial hr
  obtain ⟨n, hn, ho⟩ := hk.owes
  refine ⟨by omega, fun hs => ?_, hk.completed⟩
  rw [hs] at ho
  cases ho with
  | free ho =>
      refine ⟨ho.1, ?_⟩
      rw [hn, ho.2]
      split
      · rfl
      · rfl

/-- To sleep, with a request from the mouse driver's callback, and a request after that. -/
def sleepRun : List Action :=
  List.flatten
    [[.setPowerState .sleep], List.replicate 10 (.advance 0x47 0),
      [.submitRequestAndBlock (.ofCommands [⟨.writeDataPort, 0xF5, 0, 0, 0⟩])],
      List.replicate 6 (.advance 0xFA 0), [.finish, .finish, .advance 0 0, .finish],
      List.replicate 11 (.advance 0x44 0),
      [.submitRequestAndBlock (.ofCommands [⟨.writeDataPort, 0xF4, 0, 0, 0⟩])],
      List.replicate 3 (.advance 0 0), [.finish]]

theorem power_bookkeeping_sleepRun :
    ∃ m, Transition.run (step ⟨0, false⟩) initial sleepRun = some m ∧
      m.currentPowerState = .sleep ∧ m.hardwareOffline = true ∧ m.ignoreInterrupts = 1 := by
  have hex : (Transition.run (step ⟨0, false⟩) initial sleepRun).any
      (fun m => m.stack.isEmpty && decide (m.currentPowerState = .sleep)) = true := by
    decide +kernel
  obtain ⟨m, hm, hp⟩ := (Option.any_eq_true _ _).mp hex
  obtain ⟨hempty, hsleep⟩ := Bool.and_eq_true_iff.mp hp
  have hs := of_decide_eq_true hsleep
  obtain ⟨-, hrest, -⟩ := power_bookkeeping ⟨0, false⟩ sleepRun m hm
  obtain ⟨hoff, hign⟩ := hrest (List.isEmpty_iff.mp hempty)
  rw [if_pos hs] at hign
  exact ⟨m, hm, hs, hoff.mpr hs, hign⟩

end Machine

end Power

end VoodooPS2.Controller
