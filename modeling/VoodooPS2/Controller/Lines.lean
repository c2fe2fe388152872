import VoodooPS2.Controller.CommandByte
import VoodooPS2.Controller.Reset

/-! # Interrupt lines and clocks over whole runs

The command byte of the 8042 says which of the two ports raises an interrupt and which of them has its
clock on.  It is changed bit by bit: when an interrupt handler is installed or removed, when the keyboard
driver switches translation on, and when the machine goes to sleep and wakes; and a reset at each wake
writes it anew, made of whatever byte was taken for the old one.

`lines_follow`: as long as each of these changes gets the answer of the 8042, the command byte says what
the drivers and the power management have asked for, whatever it was before the wake.  A handler that is
installed hears its port whenever the machine is awake, also if it was installed in its sleep. -/

namespace VoodooPS2.Controller.Lines

open Power

/-! ### The bits of the command byte -/

/-- A bit of the command byte is set. -/
def on (mask commandByte : UInt8) : Bool := decide (commandByte &&& mask ≠ 0)

def irqMask : PS2DeviceType → UInt8
  | .keyboard => kCBEnableKeyboardIRQ
  | .mouse => kCBEnableMouseIRQ

def clockMask : PS2DeviceType → UInt8
  | .keyboard => kCBDisableKeyboardClock
  | .mouse => kCBDisableMouseClock

/-- The mask has one bit. -/
def IsBit (mask : UInt8) (i : ℕ) : Prop := ∀ c : UInt8, on mask c = c.toBitVec.getLsbD i

theorem on_update {mask : UInt8} {i : ℕ} (h : IsBit mask i) (hi : i < 8) (c setBits clearBits : UInt8) :
    on mask ((c ||| setBits) &&& ~~~clearBits) =
      ((on mask c || on mask setBits) && !on mask clearBits) := by
  rw [h, h, h, h, UInt8.toBitVec_and, UInt8.toBitVec_or, UInt8.toBitVec_not, BitVec.getLsbD_and,
    BitVec.getLsbD_or, BitVec.getLsbD_not]
  simp [hi]

theorem isBit_masks :
    (∀ t, ∃ i < 8, IsBit (irqMask t) i) ∧ (∀ t, ∃ i < 8, IsBit (clockMask t) i) ∧
      IsBit kCBTranslateMode 6 := by
  have hbits : ∀ c : BitVec 8, (decide (c &&& 0x01#8 ≠ 0#8) = c.getLsbD 0) ∧
      (decide (c &&& 0x02#8 ≠ 0#8) = c.getLsbD 1) ∧ (decide (c &&& 0x10#8 ≠ 0#8) = c.getLsbD 4) ∧
      (decide (c &&& 0x20#8 ≠ 0#8) = c.getLsbD 5) ∧ (decide (c &&& 0x40#8 ≠ 0#8) = c.getLsbD 6) := by
    decide
  have hon (mask c : UInt8) : on mask c = decide (c.toBitVec &&& mask.toBitVec ≠ 0#8) := by
    unfold on
    rw [decide_eq_decide]
    exact not_congr UInt8.toBitVec_inj.symm
  refine ⟨fun t => ?_, fun t => ?_, fun c => (hon _ c).trans (hbits c.toBitVec).2.2.2.2⟩
  · cases t with
    | keyboard => exact ⟨0, by decide, fun c => (hon _ c).trans (hbits c.toBitVec).1⟩
    | mouse => exact ⟨1, by decide, fun c => (hon _ c).trans (hbits c.toBitVec).2.1⟩
  · cases t with
    | keyboard => exact ⟨4, by decide, fun c => (hon _ c).trans (hbits c.toBitVec).2.2.1⟩
    | mouse => exact ⟨5, by decide, fun c => (hon _ c).trans (hbits c.toBitVec).2.2.2.1⟩

/-- What a command byte says about the two ports. -/
@[ext] structure PortBits where
  irq : PS2DeviceType → Bool
  clockOff : PS2DeviceType → Bool
  translate : Bool

def portBits (commandByte : UInt8) : PortBits where
  irq t := on (irqMask t) commandByte
  clockOff t := on (clockMask t) commandByte
  translate := on kCBTranslateMode commandByte

def PortBits.update (b set clear : PortBits) : PortBits where
  irq t := (b.irq t || set.irq t) && !clear.irq t
  clockOff t := (b.clockOff t || set.clockOff t) && !clear.clockOff t
  translate := (b.translate || set.translate) && !clear.translate

theorem portBits_update (c setBits clearBits : UInt8) :
    portBits ((c ||| setBits) &&& ~~~clearBits) =
      (portBits c).update (portBits setBits) (portBits clearBits) := by
  obtain ⟨hirq, hclock, htranslate⟩ := isBit_masks
  ext t
  · obtain ⟨i, hi, h⟩ := hirq t
    exact on_update h hi c setBits clearBits
  · obtain ⟨i, hi, h⟩ := hclock t
    exact on_update h hi c setBits clearBits
  · exact on_update htranslate (by decide) c setBits clearBits

/-- All the interrupts, or none, and so the clocks. -/
def PortBits.uniform (irqs clocksOff translate : Bool) : PortBits :=
  ⟨fun _ => irqs, fun _ => clocksOff, translate⟩

theorem portBits_eq_uniform {commandByte : UInt8} {irqs clocksOff translate : Bool}
    (h : ∀ t, on (irqMask t) commandByte = irqs ∧ on (clockMask t) commandByte = clocksOff)
    (htranslate : on kCBTranslateMode commandByte = translate) :
    portBits commandByte = PortBits.uniform irqs clocksOff translate := by
  unfold portBits PortBits.uniform
  rw [htranslate, funext fun t => (h t).1, funext fun t => (h t).2]

theorem portBits_zero : portBits 0 = PortBits.uniform false false false :=
  portBits_eq_uniform (fun t => by cases t <;> decide) (by decide)

theorem portBits_translateMode : portBits kCBTranslateMode = PortBits.uniform false false true :=
  portBits_eq_uniform (fun t => by cases t <;> decide) (by decide)

/-- The first change for sleep, and the second one. -/
theorem portBits_sleep :
    portBits (kCBEnableKeyboardIRQ ||| kCBEnableMouseIRQ) = PortBits.uniform true false false ∧
      portBits (kCBDisableKeyboardClock ||| kCBDisableMouseClock) = PortBits.uniform false true false :=
  ⟨portBits_eq_uniform (fun t => by cases t <;> decide) (by decide),
    portBits_eq_uniform (fun t => by cases t <;> decide) (by decide)⟩

/-- The first change for wake, and the second one. -/
theorem portBits_wake :
    portBits (kCBDisableKeyboardClock ||| kCBDisableMouseClock ||| kCBEnableKeyboardIRQ |||
        kCBEnableMouseIRQ) = PortBits.uniform true true false ∧
      portBits (kCBEnableKeyboardIRQ ||| kCBEnableMouseIRQ ||| kCBSystemFlag) =
        PortBits.uniform true false false :=
  ⟨portBits_eq_uniform (fun t => by cases t <;> decide) (by decide),
    portBits_eq_uniform (fun t => by cases t <;> decide) (by decide)⟩

/-- The bits of one port's interrupt. -/
theorem portBits_irqMask (t : PS2DeviceType) :
    portBits (irqMask t) = ⟨fun t' => decide (t' = t), fun _ => false, false⟩ := by
  ext t'
  · cases t <;> cases t' <;> decide
  · cases t <;> cases t' <;> decide
  · cases t <;> decide

/-- A reset takes over only the bit of the keyboard's clock from what it takes for the old command
byte: the mask names the clock of the mouse twice. -/
theorem portBits_resetCommandByte (v : UInt8) :
    portBits (resetCommandByte v) =
      ⟨fun _ => false, fun t => decide (t = .keyboard) && on kCBDisableKeyboardClock v, true⟩ := by
  have hmask : portBits (kCBEnableKeyboardIRQ ||| kCBEnableMouseIRQ ||| kCBDisableMouseClock |||
      kCBDisableMouseClock) = ⟨fun _ => true, fun t => decide (t = .mouse), false⟩ := by
    ext t
    · cases t <;> decide
    · cases t <;> decide
    · decide
  have hupdates : resetCommandByte v = ((((v ||| 0) &&& ~~~(kCBEnableKeyboardIRQ ||| kCBEnableMouseIRQ |||
      kCBDisableMouseClock ||| kCBDisableMouseClock)) ||| kCBTranslateMode) &&& ~~~0) := by
    simp [resetCommandByte]
  rw [hupdates, portBits_update, portBits_update, hmask, portBits_zero, portBits_translateMode]
  ext t
  · simp [PortBits.update, PortBits.uniform]
  · cases t <;> simp [PortBits.update, PortBits.uniform, portBits, clockMask]
  · simp [PortBits.update, PortBits.uniform]

/-! ### The machine -/

/-- The controller and its drivers, as far as the command byte goes. -/
structure World where
  commandByte : UInt8
  currentPowerState : PowerState
  /-- the driver of the port has its handlers installed -/
  installed : PS2DeviceType → Bool
  /-- how often the command byte has been asked for, and how often the controller has been reset -/
  updates : ℕ
  resets : ℕ

inductive Happening where
  /-- a driver is started, which ends with its handlers installed -/
  | start (deviceType : PS2DeviceType)
  | stop (deviceType : PS2DeviceType)
  | setPowerState (powerState : PowerState)
  /-- the 8042 loses its power, and has this command byte when it is back -/
  | powerLost (commandByte : UInt8)
deriving DecidableEq, Repr

namespace World

/-- What arrives at the ports during each update of the command byte, and during each reset. -/
structure Surroundings where
  updates : ℕ → List Arrival
  resets : ℕ → List Arrival

variable (e : Surroundings) (o : WakeSettings) (w : World)

def setCommandByte (setBits clearBits : UInt8) : World :=
  { w with
    commandByte := (run .normal (setCommandByteGated setBits clearBits)
      ⟨w.commandByte, false, none, e.updates w.updates⟩).kbc.commandByte
    updates := w.updates + 1 }

def resetController : World :=
  { w with
    commandByte := (runReset ⟨w.commandByte, false, none, e.resets w.resets⟩).kbc.commandByte
    resets := w.resets + 1 }

/-- The controller has started. -/
def created (commandByte : UInt8) : World :=
  resetController e ⟨commandByte, .normal, fun _ => false, 0, 0⟩

/-- The keyboard driver is the only one that changes the command byte when its device is enabled; no
statement left out here does. -/
def exec (w : World) : Stmt → World
  | .setCommandByte setBits clearBits => w.setCommandByte e setBits clearBits
  | .resetController => w.resetController e
  | .dispatchDriverPowerControl true .keyboard =>
      if w.installed .keyboard then w.setCommandByte e kCBTranslateMode 0 else w
  | .setCurrentPowerState powerState => { w with currentPowerState := powerState }
  | _ => w

def setInstalled (deviceType : PS2DeviceType) (installed : Bool) : World :=
  { w with installed := Function.update w.installed deviceType installed }

def installInterruptAction (deviceType : PS2DeviceType) : World :=
  if w.installed deviceType then w
  else (w.setCommandByte e (irqMask deviceType) 0).setInstalled deviceType true

def uninstallInterruptAction (deviceType : PS2DeviceType) : World :=
  if w.installed deviceType then
    (w.setCommandByte e 0 (irqMask deviceType)).setInstalled deviceType false
  else w

/-- The start of the keyboard driver switches translation on first, in `initKeyboard`. -/
def step (w : World) : Happening → World
  | .start .keyboard =>
      if w.installed .keyboard then w
      else (w.setCommandByte e kCBTranslateMode 0).installInterruptAction e .keyboard
  | .start .mouse => w.installInterruptAction e .mouse
  | .stop deviceType => w.uninstallInterruptAction e deviceType
  | .setPowerState powerState =>
      (setPowerStateGated o w.currentPowerState powerState).foldl (exec e) w
  | .powerLost commandByte => { w with commandByte := commandByte }

def run (w : World) (hs : List Happening) : World := hs.foldl (step e o) w

end World

/-! ### What is to be -/

/-- What the drivers and the power management have asked for. -/
structure Asked where
  powerState : PowerState
  installed : PS2DeviceType → Bool
  /-- the port raises interrupts -/
  listening : PS2DeviceType → Bool
  /-- the 8042 has had its power since it was reset last -/
  kept : Bool

def Asked.created : Asked := ⟨.normal, fun _ => false, fun _ => false, true⟩

/-- A power change switches the interrupts of both ports, those of a port without a driver, too. -/
def Asked.step (a : Asked) : Happening → Asked
  | .start t =>
      if a.installed t then a
      else { a with
        installed := Function.update a.installed t true
        listening := Function.update a.listening t true }
  | .stop t =>
      if a.installed t then
        { a with
          installed := Function.update a.installed t false
          listening := Function.update a.listening t false }
      else a
  | .setPowerState powerState =>
      if a.powerState = powerState then a
      else if powerState = .sleep then { a with powerState := .sleep, listening := fun _ => false }
      else if a.powerState = .sleep then
        { a with powerState := powerState, listening := fun _ => true, kept := true }
      else { a with powerState := powerState }
  | .powerLost _ => { a with kept := false }

def Asked.bits (a : Asked) : PortBits where
  irq := a.listening
  clockOff _ := decide (a.powerState = .sleep)
  translate := true

/-! ### One update, and one reset -/

section

variable {e : World.Surroundings} {o : WakeSettings} {w w' : World} {a : Asked}

/-- The 8042 answers every time it is asked for its command byte. -/
def Answering (updates : ℕ → List Arrival) : Prop :=
  ∀ n, firstKeyboard timeoutBudget (updates n) = some .answer

theorem commandByte_setCommandByte (he : Answering e.updates) (setBits clearBits : UInt8) :
    (w.setCommandByte e setBits clearBits).commandByte =
      (w.commandByte ||| setBits) &&& ~~~clearBits := by
  have hread : byteRead ⟨w.commandByte, false, none, e.updates w.updates⟩ = w.commandByte :=
    if_pos (he w.updates)
  have hrun := (run_setCommandByteGated ⟨w.commandByte, false, none, e.updates w.updates⟩
    setBits clearBits).2
  rw [hread] at hrun
  refine hrun.trans ?_
  split
  · assumption
  · rfl

theorem commandByte_resetController :
    (w.resetController e).commandByte = resetCommandByte
      (Controller.run .starting resetDialogue
        ⟨w.commandByte, false, none, e.resets w.resets⟩).value := rfl


/-! ### Every happening -/

/-- The machine is as it was asked to be. -/
structure Follows (a : Asked) (w : World) : Prop where
  powerState : w.currentPowerState = a.powerState
  installed : w.installed = a.installed
  bits : a.kept = true → portBits w.commandByte = a.bits

namespace World

theorem portBits_setCommandByte (he : Answering e.updates) (setBits clearBits : UInt8) :
    portBits (w.setCommandByte e setBits clearBits).commandByte =
      (portBits w.commandByte).update (portBits setBits) (portBits clearBits) := by
  rw [commandByte_setCommandByte he, portBits_update]

/-- The driver of the keyboard, when its device is enabled. -/
def wakeKeyboard (e : Surroundings) (w : World) : World :=
  if w.installed .keyboard then w.setCommandByte e kCBTranslateMode 0 else w

/-- In either order. -/
theorem foldl_wakeClients : (wakeClients o).foldl (exec e) w = w.wakeKeyboard e := by
  unfold wakeClients
  split <;> rfl

theorem foldl_wakeStmts :
    (wakeStmts o).foldl (exec e) w =
      ((((w.resetController e).setCommandByte e 0 (kCBDisableKeyboardClock ||| kCBDisableMouseClock |||
        kCBEnableKeyboardIRQ ||| kCBEnableMouseIRQ)).wakeKeyboard e).setCommandByte e
          (kCBEnableKeyboardIRQ ||| kCBEnableMouseIRQ ||| kCBSystemFlag) 0) := by
  have hdelay : List.foldl (exec e) w
      (if o.wakedelay ≠ 0 then [Stmt.ioSleep o.wakedelay] else ([] : List Stmt)) = w := by
    split <;> rfl
  rw [wakeStmts, List.flatten_cons, List.flatten_cons, List.flatten_cons, List.flatten_cons,
    List.flatten_nil, List.append_nil, List.foldl_append, List.foldl_append, List.foldl_append, hdelay]
  rw [List.foldl_cons, List.foldl_cons, List.foldl_cons, List.foldl_nil, foldl_wakeClients]
  rfl

/-- A wake puts the lines right, whatever the command byte was. -/
theorem portBits_wakeStmts (he : Answering e.updates) :
    portBits ((wakeStmts o).foldl (exec e) w).commandByte = PortBits.uniform true false true ∧
      ((wakeStmts o).foldl (exec e) w).installed = w.installed ∧
      ((wakeStmts o).foldl (exec e) w).currentPowerState = w.currentPowerState := by
  rw [foldl_wakeStmts]
  generalize hw1 : (w.resetController e).setCommandByte e 0 (kCBDisableKeyboardClock |||
    kCBDisableMouseClock ||| kCBEnableKeyboardIRQ ||| kCBEnableMouseIRQ) = w1
  have hbits1 : portBits w1.commandByte = PortBits.uniform false false true := by
    rw [← hw1, portBits_setCommandByte he, commandByte_resetController, portBits_resetCommandByte,
      portBits_zero, portBits_wake.1]
    simp [PortBits.update, PortBits.uniform]
  have hkept : (w1.wakeKeyboard e).installed = w1.installed ∧
      (w1.wakeKeyboard e).currentPowerState = w1.currentPowerState := by
    unfold wakeKeyboard
    split <;> exact ⟨rfl, rfl⟩
  have hbits2 : portBits (w1.wakeKeyboard e).commandByte = PortBits.uniform false false true := by
    unfold wakeKeyboard
    split
    · rw [portBits_setCommandByte he, hbits1, portBits_translateMode, portBits_zero]
      rfl
    · exact hbits1
  refine ⟨?_, hkept.1.trans (by rw [← hw1]; rfl), hkept.2.trans (by rw [← hw1]; rfl)⟩
  rw [portBits_setCommandByte he, hbits2, portBits_wake.2, portBits_zero]
  rfl

end World

theorem setPowerStateGated_eq (current powerState : PowerState) :
    setPowerStateGated o current powerState =
      if current = powerState then []
      else (if powerState = .sleep then sleepStmts else if current = .sleep then wakeStmts o else []) ++
        [.setCurrentPowerState powerState] := by
  cases current <;> cases powerState <;> rfl

theorem follows_setPowerState (he : Answering e.updates) (hw : Follows a w) (powerState : PowerState) :
    Follows (a.step (.setPowerState powerState)) (World.step e o w (.setPowerState powerState)) := by
  change Follows _ ((setPowerStateGated o w.currentPowerState powerState).foldl (World.exec e) w)
  rw [hw.powerState, Asked.step, setPowerStateGated_eq]
  by_cases hsame : a.powerState = powerState
  · rw [if_pos hsame, if_pos hsame]
    exact hw
  rw [if_neg hsame, if_neg hsame, List.foldl_append]
  by_cases hsleep : powerState = .sleep
  · subst hsleep
    rw [if_pos rfl, if_pos rfl]
    refine ⟨rfl, hw.installed, fun hkept => ?_⟩
    change portBits ((w.setCommandByte e 0 (kCBEnableKeyboardIRQ ||| kCBEnableMouseIRQ)).setCommandByte e
      (kCBDisableKeyboardClock ||| kCBDisableMouseClock) 0).commandByte = _
    rw [World.portBits_setCommandByte he, World.portBits_setCommandByte he, hw.bits hkept, portBits_zero,
      portBits_sleep.1, portBits_sleep.2]
    ext t
    · simp [PortBits.update, PortBits.uniform, Asked.bits]
    · simp [PortBits.update, PortBits.uniform, Asked.bits]
    · rfl
  rw [if_neg hsleep, if_neg hsleep]
  by_cases hasleep : a.powerState = .sleep
  · rw [if_pos hasleep, if_pos hasleep]
    obtain ⟨hbits, hinstalled, -⟩ := World.portBits_wakeStmts (o := o) (w := w) he
    refine ⟨rfl, hinstalled.trans hw.installed, fun _ => ?_⟩
    change portBits ((wakeStmts o).foldl (World.exec e) w).commandByte = _
    rw [hbits, Asked.bits, decide_eq_false hsleep]
    rfl
  · rw [if_neg hasleep, if_neg hasleep]
    refine ⟨rfl, hw.installed, fun hkept => (hw.bits hkept).trans ?_⟩
    rw [Asked.bits, Asked.bits, decide_eq_false hasleep, decide_eq_false hsleep]

theorem follows_install (he : Answering e.updates) (hw : Follows a w) (t : PS2DeviceType) :
    Follows (a.step (.start t)) (w.installInterruptAction e t) := by
  rw [World.installInterruptAction, Asked.step, hw.installed]
  by_cases hinstalled : a.installed t = true
  · rw [if_pos hinstalled, if_pos hinstalled]
    exact hw
  · rw [if_neg hinstalled, if_neg hinstalled]
    refine ⟨hw.powerState, ?_, fun hkept => ?_⟩
    · change Function.update w.installed t true = _
      rw [hw.installed]
    · change portBits (w.setCommandByte e (irqMask t) 0).commandByte = _
      rw [World.portBits_setCommandByte he, hw.bits hkept, portBits_irqMask, portBits_zero]
      ext t'
      · by_cases h : t' = t <;> simp [PortBits.update, PortBits.uniform, Asked.bits, Function.update, h]
      · simp [PortBits.update, PortBits.uniform, Asked.bits]
      · rfl

theorem follows_uninstall (he : Answering e.updates) (hw : Follows a w) (t : PS2DeviceType) :
    Follows (a.step (.stop t)) (w.uninstallInterruptAction e t) := by
  rw [World.uninstallInterruptAction, Asked.step, hw.installed]
  by_cases hinstalled : a.installed t = true
  · rw [if_pos hinstalled, if_pos hinstalled]
    refine ⟨hw.powerState, ?_, fun hkept => ?_⟩
    · change Function.update w.installed t false = _
      rw [hw.installed]
    · change portBits (w.setCommandByte e 0 (irqMask t)).commandByte = _
      rw [World.portBits_setCommandByte he, hw.bits hkept, portBits_irqMask, portBits_zero]
      ext t'
      · by_cases h : t' = t <;> simp [PortBits.update, PortBits.uniform, Asked.bits, Function.update, h]
      · simp [PortBits.update, PortBits.uniform, Asked.bits]
      · rfl
  · rw [if_neg hinstalled, if_neg hinstalled]
    exact hw

/-- Translation is on already. -/
theorem follows_translate (he : Answering e.updates) (hw : Follows a w) :
    Follows a (w.setCommandByte e kCBTranslateMode 0) := by
  refine ⟨hw.powerState, hw.installed, fun hkept => ?_⟩
  rw [World.portBits_setCommandByte he, hw.bits hkept, portBits_translateMode, portBits_zero]
  ext t
  · simp [PortBits.update, PortBits.uniform]
  · simp [PortBits.update, PortBits.uniform]
  · rfl

theorem follows_step (he : Answering e.updates) (hw : Follows a w) (h : Happening) :
    Follows (a.step h) (World.step e o w h) := by
  cases h with
  | start t =>
      cases t with
      | keyboard =>
          by_cases hinstalled : w.installed .keyboard = true
          · have hstep : World.step e o w (.start .keyboard) = w := if_pos hinstalled
            rw [hstep, Asked.step, ← hw.installed, if_pos hinstalled]
            exact hw
          · have hstep : World.step e o w (.start .keyboard) =
                (w.setCommandByte e kCBTranslateMode 0).installInterruptAction e .keyboard :=
              if_neg hinstalled
            rw [hstep]
            exact follows_install he (follows_translate he hw) .keyboard
      | mouse => exact follows_install he hw .mouse
  | stop t => exact follows_uninstall he hw t
  | setPowerState powerState => exact follows_setPowerState he hw powerState
  | powerLost c => exact ⟨hw.powerState, hw.installed, fun hkept => absurd hkept Bool.false_ne_true⟩

theorem follows_run (he : Answering e.updates) (hw : Follows a w) (hs : List Happening) :
    Follows (hs.foldl Asked.step a) (World.run e o w hs) := by
  induction hs generalizing a w with
  | nil => exact hw
  | cons h hs ih => exact ih (follows_step he hw h)

theorem follows_created {commandByte : UInt8}
    (hreset : ¬ StrayClockBit ⟨commandByte, false, none, e.resets 0⟩) :
    Follows .created (World.created e commandByte) := by
  have hclock : on kCBDisableKeyboardClock (Controller.run .starting resetDialogue
      ⟨commandByte, false, none, e.resets 0⟩).value = false :=
    decide_eq_false (not_not.mpr ((clockBit_iff _).mpr hreset))
  refine ⟨rfl, rfl, fun _ => ?_⟩
  rw [World.created, commandByte_resetController, portBits_resetCommandByte, hclock]
  ext t
  · rfl
  · simp [Asked.bits, Asked.created]
  · rfl

/-- A driver that is there hears its port while the machine is awake. -/
def Heard (a : Asked) : Prop :=
  a.powerState ≠ .sleep → ∀ t, a.installed t = true → a.listening t = true

theorem heard_step (ha : Heard a) (h : Happening) : Heard (a.step h) := by
  cases h with
  | start t =>
      rw [Asked.step]
      split
      · exact ha
      · intro hawake t' ht'
        by_cases heq : t' = t
        · rw [heq]
          exact Function.update_self t true a.listening
        · change Function.update a.listening t true t' = true
          rw [Function.update_of_ne heq]
          refine ha hawake t' ?_
          rwa [← Function.update_of_ne heq true a.installed]
  | stop t =>
      rw [Asked.step]
      split
      · intro hawake t' ht'
        have heq : t' ≠ t := by
          rintro rfl
          exact absurd ((Function.update_self t' false a.installed).symm.trans ht') Bool.false_ne_true
        change Function.update a.listening t false t' = true
        rw [Function.update_of_ne heq]
        refine ha hawake t' ?_
        rwa [← Function.update_of_ne heq false a.installed]
      · exact ha
  | setPowerState powerState =>
      rw [Asked.step]
      split_ifs with hsame hsleep hasleep
      · exact ha
      · exact fun hawake => absurd rfl hawake
      · exact fun _ _ _ => rfl
      · exact fun _ => ha hasleep
  | powerLost c => exact ha

theorem heard_run (ha : Heard a) (hs : List Happening) : Heard (hs.foldl Asked.step a) := by
  induction hs generalizing a with
  | nil => exact ha
  | cons h hs ih => exact ih (heard_step ha h)

end

/-- **As long as the 8042 answers, and keeps its power after it has been reset last, its command byte
says what has been asked for: in whatever order drivers come and go and the machine sleeps and wakes, a
driver that is there hears its port while the machine is awake.** -/
theorem lines_follow (e : World.Surroundings) (o : WakeSettings) (commandByte : UInt8)
    (hs : List Happening) (he : Answering e.updates)
    (hreset : ¬ StrayClockBit ⟨commandByte, false, none, e.resets 0⟩)
    (hkept : (hs.foldl Asked.step .created).kept = true) :
    portBits (World.run e o (World.created e commandByte) hs).commandByte =
        (hs.foldl Asked.step .created).bits ∧
      ((World.run e o (World.created e commandByte) hs).currentPowerState ≠ .sleep →
        ∀ t, (World.run e o (World.created e commandByte) hs).installed t = true →
          on (irqMask t) (World.run e o (World.created e commandByte) hs).commandByte = true ∧
            on (clockMask t) (World.run e o (World.created e commandByte) hs).commandByte = false) := by
  have hfollows := follows_run (o := o) he (follows_created hreset) hs
  have hbits := hfollows.bits hkept
  refine ⟨hbits, fun hawake t ht => ⟨?_, ?_⟩⟩
  · rw [hfollows.powerState] at hawake
    rw [hfollows.installed] at ht
    have hheard := heard_run (a := .created) (fun _ _ h => absurd h Bool.false_ne_true) hs hawake t ht
    exact (congrFun (congrArg PortBits.irq hbits) t).trans hheard
  · rw [hfollows.powerState] at hawake
    exact (congrFun (congrArg PortBits.clockOff hbits) t).trans (decide_eq_false hawake)

/-- The resets after the first one take an acknowledge of the mouse for the command byte. -/
def strayAtWake : World.Surroundings where
  updates _ := [.answer]
  resets n := if n = 0 then [.quiet, .answer] else [.quiet, .device .mouse 0xFA, .answer]

/-- A mouse that was added while the machine slept is heard after the wake. -/
theorem lines_follow_strayAtWake :
    on (irqMask .mouse) (World.run strayAtWake ⟨0, false⟩ (World.created strayAtWake 0x47)
      [.start .keyboard, .setPowerState .sleep, .start .mouse, .powerLost 0,
        .setPowerState .normal]).commandByte = true := by
  have hreset : firstArrival timeoutBudget
      (afterFlush ⟨0x47, false, none, strayAtWake.resets 0⟩) = some .answer := by
    decide +kernel
  have hstray : ¬ StrayClockBit ⟨0x47, false, none, strayAtWake.resets 0⟩ := by
    rintro ⟨s, b, hfirst, -⟩
    rw [hreset] at hfirst
    cases hfirst
  have hlines := lines_follow strayAtWake ⟨0, false⟩ 0x47
    [.start .keyboard, .setPowerState .sleep, .start .mouse, .powerLost 0, .setPowerState .normal]
    (fun _ => rfl) hstray rfl
  exact congrFun (congrArg PortBits.irq hlines.1) .mouse

end VoodooPS2.Controller.Lines
