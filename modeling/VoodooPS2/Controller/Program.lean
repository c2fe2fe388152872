import VoodooPS2.Controller.Ports

/-! # Programs over the ports and the 8042 they talk to

Everything the controller does with the hardware goes through a few operations on the command
port, the data port and `_ignoreInterrupts`.  `Prog` is the monad of programs over these
operations; `processRequest` and `setCommandByteGated` are such programs, so that the same
translation can be run to its end against a scripted 8042 (here) or one operation at a time
between interrupts (`Controller/Interrupts.lean`).

`Kbc` is the 8042 as a program sees it while nothing else touches the ports: its command byte,
the answer it owes to `kCP_GetCommandByte`, and what successive looks at the status port will
find.  The script may hold any bytes of either stream; only the controller's own answer has its
value fixed by the command byte.  The loops that wait for room in the input buffer before a
write are taken to end: the 8042 accepts what is written to it. -/

namespace VoodooPS2.Controller

/-- A program over the ports. -/
inductive Prog (α : Type) where
  | done (a : α)
  | writeCommandPort (byte : UInt8) (next : Prog α)
  | writeDataPort (byte : UInt8) (next : Prog α)
  | readDataPort (r : Reader) (next : UInt8 → Prog α)
  | flushDataPort (next : ℕ → Prog α)
  | sleep (ms : ℕ) (next : Prog α)
  | ignoreInterrupts (next : Prog α)
  | heedInterrupts (next : Prog α)

namespace Prog

def bind {α β : Type} : Prog α → (α → Prog β) → Prog β
  | done a, f => f a
  | writeCommandPort b p, f => writeCommandPort b (p.bind f)
  | writeDataPort b p, f => writeDataPort b (p.bind f)
  | readDataPort r p, f => readDataPort r (fun v => (p v).bind f)
  | flushDataPort p, f => flushDataPort (fun n => (p n).bind f)
  | sleep ms p, f => sleep ms (p.bind f)
  | ignoreInterrupts p, f => ignoreInterrupts (p.bind f)
  | heedInterrupts p, f => heedInterrupts (p.bind f)

instance : Monad Prog where
  pure := done
  bind := bind

@[simp] theorem pure_eq {α : Type} (a : α) : (pure a : Prog α) = done a := rfl

@[simp] theorem bind_eq {α β : Type} (p : Prog α) (f : α → Prog β) : (p >>= f) = p.bind f := rfl

end Prog

/-! ### The operations under their source names -/

def writeCommandPort (byte : UInt8) : Prog Unit := .writeCommandPort byte (.done ())

def writeDataPort (byte : UInt8) : Prog Unit := .writeDataPort byte (.done ())

/-- `readDataPort(deviceType)`. -/
def readPort (deviceType : PS2DeviceType) : Prog UInt8 :=
  .readDataPort (.plain deviceType timeoutBudget) .done

/-- `readDataPort(deviceType, expectedByte)`. -/
def readPortExpecting (deviceType : PS2DeviceType) (expectedByte : UInt8) : Prog UInt8 :=
  .readDataPort (.expecting deviceType expectedByte timeoutBudget none) .done

/-- `while (inb(kCommandPort) & kOutputReady) { ++n; inb(kDataPort); }`. -/
def flushPort : Prog ℕ := .flushDataPort .done

/-- `IOSleep(ms)`. -/
def ioSleep (ms : ℕ) : Prog Unit := .sleep ms (.done ())

/-- `++_ignoreInterrupts`. -/
def beginIgnoring : Prog Unit := .ignoreInterrupts (.done ())

/-- `--_ignoreInterrupts`. -/
def endIgnoring : Prog Unit := .heedInterrupts (.done ())

/-! ### The 8042 -/

/-- What a look at the status port may find: nothing, a byte a device sent, or the answer the
controller owes. -/
inductive Arrival where
  | quiet
  | device (stream : PS2DeviceType) (data : UInt8)
  | answer
deriving DecidableEq, Repr

/-- The 8042. -/
structure Kbc where
  commandByte : UInt8
  /-- the next byte at the data port is the operand of `kCP_SetCommandByte` -/
  settingCommandByte : Bool
  /-- the answer to `kCP_GetCommandByte`, on the keyboard stream -/
  owed : Option UInt8
  arrivals : List Arrival
deriving DecidableEq, Repr

/-- The polls a script stands for.  Only one answer is owed at a time. -/
def resolve : Option UInt8 → List Arrival → List Poll
  | _, [] => []
  | owed, .quiet :: as => .miss :: resolve owed as
  | owed, .device stream data :: as => .byte stream data :: resolve owed as
  | some c, .answer :: as => .byte .keyboard c :: resolve none as
  | none, .answer :: as => .miss :: resolve none as

namespace Kbc

/-- What successive looks at the status port find. -/
def polls (k : Kbc) : List Poll := resolve k.owed k.arrivals

/-- The script after `used` looks. -/
def advance (k : Kbc) (used : ℕ) : Kbc :=
  { k with
    owed := if .answer ∈ k.arrivals.take used then none else k.owed
    arrivals := k.arrivals.drop used }

/-- `outb(kCommandPort, byte)`. -/
def command (k : Kbc) (byte : UInt8) : Kbc :=
  let k := { k with settingCommandByte := byte == kCPSetCommandByte }
  if byte = kCPGetCommandByte then { k with owed := some k.commandByte }
  else if byte = kCPDisableMouseClock then
    { k with commandByte := k.commandByte ||| kCBDisableMouseClock }
  else if byte = kCPEnableMouseClock then
    { k with commandByte := k.commandByte &&& ~~~kCBDisableMouseClock }
  else if byte = kCPDisableKeyboardClock then
    { k with commandByte := k.commandByte ||| kCBDisableKeyboardClock }
  else if byte = kCPEnableKeyboardClock then
    { k with commandByte := k.commandByte &&& ~~~kCBDisableKeyboardClock }
  else k

/-- `outb(kDataPort, byte)`. -/
def data (k : Kbc) (byte : UInt8) : Kbc :=
  if k.settingCommandByte then { k with commandByte := byte, settingCommandByte := false } else k

end Kbc

/-! ### Running a program to its end -/

/-- What happens at the ports. -/
inductive PortEvent where
  | command (byte : UInt8)
  | data (byte : UInt8)
  | took (byte : TaggedByte)
deriving DecidableEq, Repr

/-- A finished run: its value, what happened at the ports, and the 8042 afterwards. -/
structure Run (α : Type) where
  value : α
  events : List PortEvent
  kbc : Kbc

/-- A run with something before it. -/
def Run.after {α : Type} (r : Run α) (events : List PortEvent) : Run α :=
  { r with events := events ++ r.events }

/-- The bytes a flush takes: those ready without a miss between them. -/
def readyBytes : List Poll → List TaggedByte
  | .byte stream data :: polls => (stream, data) :: readyBytes polls
  | _ => []

/-- Run a program against an 8042.  A flush uses up the look that finds nothing as well. -/
def run (cfg : Settings) {α : Type} : Prog α → Kbc → Run α
  | .done a, k => ⟨a, [], k⟩
  | .writeCommandPort b next, k => (run cfg next (k.command b)).after [.command b]
  | .writeDataPort b next, k => (run cfg next (k.data b)).after [.data b]
  | .readDataPort r next, k =>
      let res := read cfg r k.polls
      (run cfg (next res.value) (k.advance (k.polls.length - res.rest.length))).after
        (res.taken.map .took)
  | .flushDataPort next, k =>
      let bytes := readyBytes k.polls
      (run cfg (next bytes.length) (k.advance (bytes.length + 1))).after (bytes.map .took)
  | .sleep _ next, k => run cfg next k
  | .ignoreInterrupts next, k => run cfg next k
  | .heedInterrupts next, k => run cfg next k

variable (cfg : Settings) {α β : Type}

theorem Run.after_after (r : Run α) (es fs : List PortEvent) :
    (r.after es).after fs = r.after (fs ++ es) := by
  simp [Run.after]

@[simp] theorem Run.after_value (r : Run α) (es : List PortEvent) : (r.after es).value = r.value :=
  rfl

@[simp] theorem Run.after_kbc (r : Run α) (es : List PortEvent) : (r.after es).kbc = r.kbc := rfl

@[simp] theorem Run.after_events (r : Run α) (es : List PortEvent) :
    (r.after es).events = es ++ r.events := rfl

@[simp] theorem Run.after_nil (r : Run α) : r.after [] = r := rfl

/-- Running a sequence runs its parts one after the other. -/
theorem run_bind (p : Prog α) (f : α → Prog β) (k : Kbc) :
    run cfg (p.bind f) k =
      (run cfg (f (run cfg p k).value) (run cfg p k).kbc).after (run cfg p k).events := by
  induction p generalizing k with
  | done a => rfl
  | writeCommandPort b next ih => simp [Prog.bind, run, ih, Run.after_after]
  | writeDataPort b next ih => simp [Prog.bind, run, ih, Run.after_after]
  | readDataPort r next ih => simp [Prog.bind, run, ih, Run.after_after]
  | flushDataPort next ih => simp [Prog.bind, run, ih, Run.after_after]
  | sleep ms next ih => exact ih k
  | ignoreInterrupts next ih => exact ih k
  | heedInterrupts next ih => exact ih k

end VoodooPS2.Controller
