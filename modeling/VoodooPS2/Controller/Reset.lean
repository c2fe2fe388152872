import VoodooPS2.Controller.Power

/-! # The reset of the controller (`resetController`)

At the start and after a sleep the controller tests the 8042 and writes a new command byte, which is
the old one with the interrupts switched off, the clocks on and translation on.  While it talks to the
8042, `_suppressTimeout` makes `readDataPort` return whatever byte comes first, so that any byte may
be taken for the old command byte.  The mask that clears the clock bits names the one of the mouse
twice, and that of the keyboard not at all.

`usable_iff`: both ports can be used afterwards if and only if no byte of a device with that bit set
came in before the answer of the 8042. -/

namespace VoodooPS2.Controller

/-- While `_suppressTimeout` is set. -/
def Settings.starting : Settings := ⟨true, 0⟩

/-- `resetController` up to `_suppressTimeout = false`, with what it took for the command byte. -/
def resetDialogue : Prog UInt8 := do
  writeCommandPort kCPDisableKeyboardClock
  writeCommandPort kCPDisableMouseClock
  let _ ← flushPort
  writeCommandPort kCPEnableMouseClock
  writeCommandPort kCPEnableKeyboardClock
  writeCommandPort kCPGetCommandByte
  let commandByte ← readPort .keyboard
  writeCommandPort kCPTestController
  let _ ← readPort .keyboard
  let _ ← readPort .mouse
  writeCommandPort kCPTestKeyboardPort
  let _ ← readPort .keyboard
  writeCommandPort kCPTestMousePort
  let _ ← readPort .mouse
  return commandByte

/-- The command byte that is written, made of the one that was read. -/
def resetCommandByte (commandByte : UInt8) : UInt8 :=
  (commandByte &&& ~~~(kCBEnableKeyboardIRQ ||| kCBEnableMouseIRQ ||| kCBDisableMouseClock |||
    kCBDisableMouseClock)) ||| kCBTranslateMode

/-- The rest of `resetController`. -/
def resetPorts (commandByte : UInt8) : Prog Unit := do
  writeCommandPort kCPSetCommandByte
  writeDataPort (resetCommandByte commandByte)
  writeDataPort kDPSetDefaultsAndDisable
  let _ ← readPort .keyboard
  writeCommandPort kCPTransmitToMouse
  writeDataPort kDPSetDefaultsAndDisable
  let _ ← readPort .mouse
  let _ ← flushPort
  return ()

/-- A reset run to its end. -/
def runReset (k : Kbc) : Run Unit :=
  let dialogue := run .starting resetDialogue k
  (run .normal (resetPorts dialogue.value) dialogue.kbc).after dialogue.events

/-- The command bytes that are written: what is written to the data port right after
`kCP_SetCommandByte`. -/
def commandBytes : Bool → List PortEvent → List UInt8
  | _, [] => []
  | _, .command c :: events => commandBytes (c == kCPSetCommandByte) events
  | setting, .data b :: events =>
      if setting then b :: commandBytes false events else commandBytes false events
  | setting, .took _ :: events => commandBytes setting events

/-- The last command byte that a reset writes. -/
def lastCommandByte (k : Kbc) : Option UInt8 := (commandBytes false (runReset k).events).getLast?

/-- No interrupts, both clocks, and translation. -/
structure Usable (commandByte : UInt8) : Prop where
  irqs : commandByte &&& (kCBEnableKeyboardIRQ ||| kCBEnableMouseIRQ) = 0
  clocks : commandByte &&& (kCBDisableKeyboardClock ||| kCBDisableMouseClock) = 0
  translate : commandByte &&& kCBTranslateMode ≠ 0

/-- The first arrival before `n` looks have found nothing. -/
def firstArrival : ℕ → List Arrival → Option Arrival
  | 0, _ => none
  | _, [] => none
  | n + 1, .quiet :: as => firstArrival n as
  | _ + 1, .device s b :: _ => some (.device s b)
  | _ + 1, .answer :: _ => some .answer

/-- What comes in after the bytes that lay ready have been flushed. -/
def afterFlush (k : Kbc) : List Arrival := k.arrivals.drop ((readyBytes k.polls).length + 1)

/-- A byte of a device that has the bit of the keyboard's clock set comes in first. -/
def StrayClockBit (k : Kbc) : Prop :=
  ∃ s b, firstArrival timeoutBudget (afterFlush k) = some (.device s b) ∧
    b &&& kCBDisableKeyboardClock ≠ 0

/-! ### What is taken for the command byte -/

@[simp] theorem firstArrival_zero (as : List Arrival) : firstArrival 0 as = none := by
  cases as <;> rfl

/-- In startup mode the first byte of either stream is returned. -/
theorem read_starting (c : UInt8) (t : PS2DeviceType) (as : List Arrival) (n : ℕ) :
    (read .starting (.plain t (n + 1)) (resolve (some c) as)).returned =
      (firstArrival (n + 1) as).map (Arrival.value c) := by
  induction as generalizing n with
  | nil => rfl
  | cons a as ih =>
      cases a with
      | quiet =>
          cases n with
          | zero => simp [resolve, read, Reader.onMiss, firstArrival]
          | succ n => exact ih n
      | device s b => rfl
      | answer => rfl

/-- The 8042 when it has been asked for its command byte. -/
def asked (k : Kbc) : Kbc :=
  let flushed := ((k.command kCPDisableKeyboardClock).command kCPDisableMouseClock).advance
    ((readyBytes k.polls).length + 1)
  ((flushed.command kCPEnableMouseClock).command kCPEnableKeyboardClock).command kCPGetCommandByte

theorem value_resetDialogue (k : Kbc) :
    (run .starting resetDialogue k).value =
      (read .starting (.plain .keyboard timeoutBudget) (asked k).polls).value := rfl

/-- The clocks have just been switched on, so the answer of the 8042 has their bits clear. -/
theorem polls_asked (k : Kbc) :
    ∃ c, c &&& kCBDisableKeyboardClock = 0 ∧ (asked k).polls = resolve (some c) (afterFlush k) := by
  refine ⟨_, ?_, rfl⟩
  change (_ &&& ~~~kCBDisableKeyboardClock) &&& kCBDisableKeyboardClock = 0
  rw [UInt8.and_assoc, show ~~~kCBDisableKeyboardClock &&& kCBDisableKeyboardClock = 0 by decide,
    UInt8.and_zero]

/-- The bit of the keyboard's clock in what is taken for the command byte. -/
theorem clockBit_iff (k : Kbc) :
    (run .starting resetDialogue k).value &&& kCBDisableKeyboardClock = 0 ↔ ¬ StrayClockBit k := by
  obtain ⟨c, hc, hpolls⟩ := polls_asked k
  rw [value_resetDialogue, hpolls, ReadResult.value,
    show timeoutBudget = 9999 + 1 from rfl, read_starting, StrayClockBit]
  rw [show timeoutBudget = 9999 + 1 from rfl]
  cases ha : firstArrival (9999 + 1) (afterFlush k) with
  | none => exact iff_of_true UInt8.zero_and (by simp)
  | some a =>
      cases a with
      | quiet => exact iff_of_true UInt8.zero_and (by simp)
      | device s b => simp [Arrival.value]
      | answer => exact iff_of_true hc (by simp)

/-! ### What is written -/

/-- A program writes these command bytes, whatever it reads. -/
def Writes {α : Type} (setting : Bool) (p : Prog α) (bytes : List UInt8) (setting' : Bool) : Prop :=
  ∀ cfg k events, commandBytes setting ((run cfg p k).events ++ events) =
    bytes ++ commandBytes setting' events

namespace Writes

variable {α : Type} {setting setting' : Bool} {bytes : List UInt8}

theorem done (a : α) : Writes setting (.done a) [] setting := fun _ _ _ => rfl

theorem command {c : UInt8} {next : Prog α} (h : Writes (c == kCPSetCommandByte) next bytes setting') :
    Writes setting (.writeCommandPort c next) bytes setting' := fun cfg _ _ => h cfg _ _

theorem data {b : UInt8} {next : Prog α} (h : Writes false next bytes setting') :
    Writes false (.writeDataPort b next) bytes setting' := fun cfg _ _ => h cfg _ _

theorem operand {b : UInt8} {next : Prog α} (h : Writes false next bytes setting') :
    Writes true (.writeDataPort b next) (b :: bytes) setting' :=
  fun cfg _ _ => congrArg (b :: ·) (h cfg _ _)

theorem commandBytes_took (taken : List TaggedByte) (events : List PortEvent) :
    commandBytes setting (taken.map .took ++ events) = commandBytes setting events := by
  induction taken with
  | nil => rfl
  | cons p taken ih => exact ih

theorem reading {r : Reader} {next : UInt8 → Prog α} (h : ∀ v, Writes setting (next v) bytes setting') :
    Writes setting (.readDataPort r next) bytes setting' := by
  intro cfg k events
  rw [run, Run.after_events, List.append_assoc, commandBytes_took]
  exact h _ cfg _ _

theorem flushing {next : ℕ → Prog α} (h : ∀ n, Writes setting (next n) bytes setting') :
    Writes setting (.flushDataPort next) bytes setting' := by
  intro cfg k events
  rw [run, Run.after_events, List.append_assoc, commandBytes_took]
  exact h _ cfg _ _

end Writes

open Writes in
theorem writes_resetDialogue : Writes false resetDialogue [] false :=
  command <| command <| flushing fun _ => command <| command <| command <| reading fun v =>
    command <| reading fun _ => reading fun _ => command <| reading fun _ => command <|
      reading fun _ => done v

open Writes in
theorem writes_resetPorts (v : UInt8) : Writes false (resetPorts v) [resetCommandByte v] false :=
  command <| operand <| data <| reading fun _ => command <| data <| reading fun _ =>
    flushing fun _ => done ()

theorem lastCommandByte_eq (k : Kbc) :
    lastCommandByte k = some (resetCommandByte (run .starting resetDialogue k).value) := by
  have hports := writes_resetPorts (run .starting resetDialogue k).value .normal
    (run .starting resetDialogue k).kbc []
  rw [List.append_nil] at hports
  rw [lastCommandByte, runReset, Run.after_events, writes_resetDialogue, hports]
  rfl

/-! ### Both ports can be used -/

theorem usable_resetCommandByte (v : UInt8) :
    Usable (resetCommandByte v) ↔ v &&& kCBDisableKeyboardClock = 0 := by
  have hall : ∀ n < 256,
      (resetCommandByte (UInt8.ofNat n) &&& (kCBEnableKeyboardIRQ ||| kCBEnableMouseIRQ) = 0 ∧
        resetCommandByte (UInt8.ofNat n) &&& kCBTranslateMode ≠ 0) ∧
      (resetCommandByte (UInt8.ofNat n) &&& (kCBDisableKeyboardClock ||| kCBDisableMouseClock) = 0 ↔
        UInt8.ofNat n &&& kCBDisableKeyboardClock = 0) := by
    decide +kernel
  obtain ⟨⟨hirqs, htranslate⟩, hclocks⟩ := hall v.toNat (UInt8.toNat_lt v)
  rw [UInt8.ofNat_toNat] at hirqs htranslate hclocks
  exact ⟨fun h => hclocks.mp h.clocks, fun h => ⟨hirqs, hclocks.mpr h, htranslate⟩⟩

/-- **A reset leaves both ports usable exactly if no stray byte with the bit of the keyboard's clock
was taken for the command byte.** -/
theorem usable_iff (k : Kbc) :
    (∃ c, lastCommandByte k = some c ∧ Usable c) ↔ ¬ StrayClockBit k := by
  rw [lastCommandByte_eq, ← clockBit_iff, ← usable_resetCommandByte]
  simp

/-- A late acknowledge of the mouse comes in before the answer. -/
def lateAcknowledge : Kbc := ⟨0x47, false, none, [.quiet, .device .mouse 0xFA, .answer]⟩

/-- The keyboard's clock is switched off then. -/
theorem lateAcknowledge_clockOff :
    (runReset lateAcknowledge).kbc.commandByte &&& kCBDisableKeyboardClock ≠ 0 ∧
      ¬ ∀ k, ∃ c, lastCommandByte k = some c ∧ Usable c := by
  have hlast : lastCommandByte lateAcknowledge = some 0xD8 := by decide +kernel
  refine ⟨by decide +kernel, fun h => ?_⟩
  obtain ⟨c, hc, husable⟩ := h lateAcknowledge
  cases hlast.symm.trans hc
  exact absurd husable.clocks (by decide)

end VoodooPS2.Controller
