import VoodooPS2.Controller.Program

/-! # Processing a request (`ApplePS2Controller::processRequest`)

A request is a list of commands over the ports.  `execCommand` is the `switch` of
`processRequest`, one command as a program; `processCommands` is its loop, which stops at the
first command whose comparison fails and reports the index of that command.

A comparison is made on the byte `readDataPort` returns, and a read that times out returns
zero.  `outcome_iff`: the outcome a request reports is the truth about what the hardware
delivered if and only if no command that is reached compares with zero while its stream stays
silent. -/

namespace VoodooPS2.Controller

inductive PS2CommandEnum where
  | readDataPort
  | readDataPortAndCompare
  | writeDataPort
  | writeCommandPort
  | sendMouseCommandAndCompareAck
  | readMouseDataPort
  | readMouseDataPortAndCompare
  | flushDataPort
  | sleepMS
  | modifyCommandByte
deriving DecidableEq, Repr

/-- A command and the four bytes of its union. -/
structure PS2Command where
  command : PS2CommandEnum
  byte0 : UInt8
  byte1 : UInt8
  byte2 : UInt8
  byte3 : UInt8
deriving DecidableEq, Repr

namespace PS2Command

def inOrOut (c : PS2Command) : UInt8 := c.byte0

def setBits (c : PS2Command) : UInt8 := c.byte0

def clearBits (c : PS2Command) : UInt8 := c.byte1

def oldBits (c : PS2Command) : UInt8 := c.byte2

def inOrOut32 (c : PS2Command) : ℕ :=
  c.byte0.toNat + c.byte1.toNat * 2 ^ 8 + c.byte2.toNat * 2 ^ 16 + c.byte3.toNat * 2 ^ 24

def setInOrOut (c : PS2Command) (byte : UInt8) : PS2Command := { c with byte0 := byte }

def setOldBits (c : PS2Command) (byte : UInt8) : PS2Command := { c with byte2 := byte }

def setInOrOut32 (c : PS2Command) (n : ℕ) : PS2Command :=
  { c with
    byte0 := UInt8.ofNat n
    byte1 := UInt8.ofNat (n / 2 ^ 8)
    byte2 := UInt8.ofNat (n / 2 ^ 16)
    byte3 := UInt8.ofNat (n / 2 ^ 24) }

end PS2Command

/-- The local variables of `processRequest` that live across commands. -/
structure Mode where
  deviceMode : PS2DeviceType
  transmitToMouse : Bool
deriving DecidableEq, Repr

def Mode.start : Mode := ⟨.keyboard, false⟩

/-- What a command leaves: the mode, the command with its results, and `failed`. -/
structure Executed where
  mode : Mode
  command : PS2Command
  failed : Bool
deriving DecidableEq, Repr

/-- The body of the loop.  A write to the data port selects the stream of the next reads: the
mouse's if a transmit was prepared. -/
def execCommand (m : Mode) (c : PS2Command) : Prog Executed :=
  match c.command with
  | .readDataPort => do
      let byte ← readPort m.deviceMode
      return ⟨m, c.setInOrOut byte, false⟩
  | .readDataPortAndCompare => do
      let byte ← readPortExpecting m.deviceMode c.inOrOut
      return ⟨m, c.setInOrOut byte, byte != c.inOrOut⟩
  | .writeDataPort => do
      writeDataPort c.inOrOut
      return ⟨if m.transmitToMouse then ⟨.mouse, false⟩ else ⟨.keyboard, false⟩, c, false⟩
  | .writeCommandPort => do
      writeCommandPort c.inOrOut
      return ⟨if c.inOrOut = kCPTransmitToMouse then { m with transmitToMouse := true } else m, c,
        false⟩
  | .sendMouseCommandAndCompareAck => do
      writeCommandPort kCPTransmitToMouse
      writeDataPort c.inOrOut
      let byte ← readPortExpecting .mouse kSCAcknowledge
      return ⟨{ m with deviceMode := .mouse }, c, byte != kSCAcknowledge⟩
  | .readMouseDataPort => do
      let byte ← readPort .mouse
      return ⟨{ m with deviceMode := .mouse }, c.setInOrOut byte, false⟩
  | .readMouseDataPortAndCompare => do
      let byte ← readPortExpecting .mouse c.inOrOut
      return ⟨{ m with deviceMode := .mouse }, c, byte != c.inOrOut⟩
  | .flushDataPort => do
      let n ← flushPort
      return ⟨m, c.setInOrOut32 n, false⟩
  | .sleepMS => do
      ioSleep c.inOrOut32
      return ⟨m, c, false⟩
  | .modifyCommandByte => do
      writeCommandPort kCPGetCommandByte
      let commandByte ← readPort .keyboard
      writeCommandPort kCPSetCommandByte
      writeDataPort ((commandByte ||| c.setBits) &&& ~~~c.clearBits)
      return ⟨m, c.setOldBits commandByte, false⟩

/-- The loop from `index` on: the commands with their results, and the index of the command
that failed. -/
def processCommands (m : Mode) (index : ℕ) :
    List PS2Command → Prog (List PS2Command × Option ℕ)
  | [] => return ([], none)
  | c :: cs => do
      let e ← execCommand m c
      if e.failed then return (e.command :: cs, some index)
      else
        let (cs', failed) ← processCommands e.mode (index + 1) cs
        return (e.command :: cs', failed)

structure PS2Request where
  commandsCount : UInt8
  commands : List PS2Command
deriving DecidableEq, Repr

/-- `processRequest` up to the completion routine. -/
def processRequest (hardwareOffline : Bool) (request : PS2Request) : Prog PS2Request :=
  if hardwareOffline then return { request with commandsCount := 0 }
  else do
    beginIgnoring
    let count := request.commandsCount.toNat
    let (commands, failed) ← processCommands .start 0 (request.commands.take count)
    endIgnoring
    return {
      commandsCount := (failed.map UInt8.ofNat).getD request.commandsCount
      commands := commands ++ request.commands.drop count }

/-- A request with all its commands to be executed. -/
def PS2Request.ofCommands (commands : List PS2Command) : PS2Request :=
  ⟨UInt8.ofNat commands.length, commands⟩

/-! ### What the hardware delivered -/

/-- The stream and the byte a comparing command waits for. -/
def expectation (m : Mode) (c : PS2Command) : Option TaggedByte :=
  match c.command with
  | .readDataPortAndCompare => some (m.deviceMode, c.inOrOut)
  | .readMouseDataPortAndCompare => some (.mouse, c.inOrOut)
  | .sendMouseCommandAndCompareAck => some (.mouse, kSCAcknowledge)
  | _ => none

/-- The command executed alone. -/
def exec (cfg : Settings) (m : Mode) (k : Kbc) (c : PS2Command) : Run Executed :=
  run cfg (execCommand m c) k

/-- The hardware delivers the byte the command waits for while the command reads. -/
def Delivered (cfg : Settings) (m : Mode) (k : Kbc) (c : PS2Command) : Prop :=
  ∀ p, expectation m c = some p → PortEvent.took p ∈ (exec cfg m k c).events

instance (cfg : Settings) (m : Mode) (k : Kbc) (c : PS2Command) :
    Decidable (Delivered cfg m k c) :=
  match h : expectation m c with
  | none => isTrue (fun p hp => by rw [h] at hp; cases hp)
  | some p =>
      decidable_of_iff (PortEvent.took p ∈ (exec cfg m k c).events)
        ⟨fun hm q hq => by rw [h] at hq; cases hq; exact hm, fun hd => hd p h⟩

/-- The index of the first comparing command whose byte was not delivered, when the commands
are executed one after the other. -/
def firstUndelivered (cfg : Settings) : Mode → Kbc → List PS2Command → Option ℕ
  | _, _, [] => none
  | m, k, c :: cs =>
      if Delivered cfg m k c then
        (firstUndelivered cfg (exec cfg m k c).value.mode (exec cfg m k c).kbc cs).map (· + 1)
      else some 0

/-- The commands executed in order, whatever their comparisons give. -/
def execAll (cfg : Settings) : Mode → Kbc → List PS2Command → List PortEvent × Kbc
  | _, k, [] => ([], k)
  | m, k, c :: cs =>
      let e := exec cfg m k c
      let rest := execAll cfg e.value.mode e.kbc cs
      (e.events ++ rest.1, rest.2)

/-- The outcome of a request tells the truth: its count is unchanged when every comparing
command got its byte, and otherwise the index of the first that did not, with the commands up
to it executed in order and nothing after them. -/
def OutcomeTrue (cfg : Settings) (k : Kbc) (commands : List PS2Command) (res : Run PS2Request) :
    Prop :=
  match firstUndelivered cfg .start k commands with
  | none =>
      res.value.commandsCount.toNat = commands.length ∧
        (res.events, res.kbc) = execAll cfg .start k commands
  | some i =>
      res.value.commandsCount.toNat = i ∧
        (res.events, res.kbc) = execAll cfg .start k (commands.take (i + 1))

/-- A comparison with zero on a stream that stays silent for the whole budget. -/
def SilentZero (m : Mode) (k : Kbc) (c : PS2Command) : Prop :=
  ∃ s, expectation m c = some (s, 0) ∧ onStream s (window timeoutBudget k.polls) = []

/-- No command that is reached, all comparisons before it having got their byte, compares with
zero on a silent stream. -/
def NoSilentZero (cfg : Settings) : Mode → Kbc → List PS2Command → Prop
  | _, _, [] => True
  | m, k, c :: cs =>
      ¬ SilentZero m k c ∧
        (Delivered cfg m k c →
          NoSilentZero cfg (exec cfg m k c).value.mode (exec cfg m k c).kbc cs)

/-! ### One command -/

theorem resolve_owed (k : Kbc) (b d : UInt8) (hb : b ≠ kCPGetCommandByte) :
    ((k.command b).data d).polls = k.polls := by
  unfold Kbc.polls Kbc.data Kbc.command
  dsimp only
  rw [if_neg hb]
  split_ifs <;> rfl

/-- A comparing command reads with the second form of `readDataPort`, and fails when the value
is not the expected byte. -/
theorem exec_comparing (cfg : Settings) {m : Mode} (k : Kbc) {c : PS2Command} {s : PS2DeviceType}
    {e : UInt8} (h : expectation m c = some (s, e)) :
    (exec cfg m k c).value.failed =
        ((readDataPortExpecting cfg s e k.polls).value != e) ∧
      (PortEvent.took (s, e) ∈ (exec cfg m k c).events ↔
        (s, e) ∈ (readDataPortExpecting cfg s e k.polls).taken) := by
  unfold expectation at h
  unfold exec execCommand
  cases hc : c.command <;> rw [hc] at h <;> cases h
  · simp [readPortExpecting, readDataPortExpecting, run, Prog.bind]
  · have hp := resolve_owed k kCPTransmitToMouse c.inOrOut (by decide)
    simp [writeCommandPort, writeDataPort, readPortExpecting, readDataPortExpecting, run,
      Prog.bind, hp]
  · simp [readPortExpecting, readDataPortExpecting, run, Prog.bind]

/-- Only a comparing command can fail. -/
theorem exec_not_comparing {cfg : Settings} {m : Mode} {k : Kbc} {c : PS2Command}
    (h : expectation m c = none) : (exec cfg m k c).value.failed = false := by
  unfold exec execCommand
  cases hc : c.command with
  | readDataPortAndCompare => simp [expectation, hc] at h
  | readMouseDataPortAndCompare => simp [expectation, hc] at h
  | sendMouseCommandAndCompareAck => simp [expectation, hc] at h
  | _ => simp [readPort, writeDataPort, writeCommandPort, flushPort, ioSleep, run, Prog.bind]

/-- A command passes when its byte was delivered, and when it compares with zero on a silent
stream. -/
theorem exec_passes_iff (m : Mode) (k : Kbc) (c : PS2Command) :
    (exec .normal m k c).value.failed = false ↔ Delivered .normal m k c ∨ SilentZero m k c := by
  cases h : expectation m c with
  | none =>
      have hd : Delivered .normal m k c := fun p hp => by rw [h] at hp; cases hp
      exact ⟨fun _ => .inl hd, fun _ => exec_not_comparing h⟩
  | some p =>
      obtain ⟨s, e⟩ := p
      obtain ⟨hf, ht⟩ := exec_comparing .normal k h
      have hd : Delivered .normal m k c ↔
          (s, e) ∈ (readDataPortExpecting .normal s e k.polls).taken := by
        rw [← ht]
        exact ⟨fun hd => hd _ h, fun hm q hq => by rw [h] at hq; cases hq; exact hm⟩
      have hz : SilentZero m k c ↔ e = 0 ∧ onStream s (window timeoutBudget k.polls) = [] := by
        unfold SilentZero
        rw [h]
        constructor
        · rintro ⟨s', hs', hsil⟩
          cases hs'
          exact ⟨rfl, hsil⟩
        · rintro ⟨rfl, hsil⟩
          exact ⟨s, rfl, hsil⟩
      rw [hf, bne_eq_false_iff_eq, value_eq_expected_iff, hd, hz]

/-- On a silent stream nothing was delivered. -/
theorem SilentZero.not_delivered {m : Mode} {k : Kbc} {c : PS2Command} (h : SilentZero m k c) :
    ¬ Delivered .normal m k c := by
  obtain ⟨s, hs, hsil⟩ := h
  intro hd
  have ht := (exec_comparing .normal k hs).2.mp (hd _ hs)
  exact not_took_of_silent hsil ht

/-! ### The loop -/

theorem run_processCommands_failed {cfg : Settings} {m : Mode} {k : Kbc} {c : PS2Command}
    (h : (exec cfg m k c).value.failed = true) (index : ℕ) (cs : List PS2Command) :
    run cfg (processCommands m index (c :: cs)) k =
      ⟨((exec cfg m k c).value.command :: cs, some index), (exec cfg m k c).events,
        (exec cfg m k c).kbc⟩ := by
  unfold exec at h ⊢
  rw [processCommands, Prog.bind_eq, run_bind, h]
  simp [run, Run.after]

theorem run_processCommands_passed {cfg : Settings} {m : Mode} {k : Kbc} {c : PS2Command}
    (h : (exec cfg m k c).value.failed = false) (index : ℕ) (cs : List PS2Command) :
    let rest := run cfg (processCommands (exec cfg m k c).value.mode (index + 1) cs)
      (exec cfg m k c).kbc
    run cfg (processCommands m index (c :: cs)) k =
      ⟨((exec cfg m k c).value.command :: rest.value.1, rest.value.2),
        (exec cfg m k c).events ++ rest.events, rest.kbc⟩ := by
  unfold exec at h ⊢
  rw [processCommands, Prog.bind_eq, run_bind, h]
  simp [run_bind, run, Run.after]

/-- A failing command is one of the list. -/
theorem run_processCommands_index (cfg : Settings) (cs : List PS2Command) (m : Mode) (k : Kbc)
    (index j : ℕ) (h : (run cfg (processCommands m index cs) k).value.2 = some j) :
    index ≤ j ∧ j < index + cs.length := by
  induction cs generalizing m k index with
  | nil => cases h
  | cons c cs ih =>
      rw [List.length_cons]
      cases hf : (exec cfg m k c).value.failed with
      | true =>
          rw [run_processCommands_failed hf] at h
          cases h
          omega
      | false =>
          rw [run_processCommands_passed hf] at h
          have := ih _ _ _ h
          omega

/-- Without a comparison with zero on a silent stream the loop stops at the first command whose
byte was not delivered. -/
theorem run_processCommands_true (cs : List PS2Command) (m : Mode) (k : Kbc) (index : ℕ)
    (h : NoSilentZero .normal m k cs) :
    (run .normal (processCommands m index cs) k).value.2 =
        (firstUndelivered .normal m k cs).map (· + index) ∧
      ((run .normal (processCommands m index cs) k).events,
          (run .normal (processCommands m index cs) k).kbc) =
        execAll .normal m k
          (match firstUndelivered .normal m k cs with
            | none => cs
            | some i => cs.take (i + 1)) := by
  induction cs generalizing m k index with
  | nil => exact ⟨rfl, rfl⟩
  | cons c cs ih =>
      obtain ⟨hz, hrest⟩ := h
      have hpass := exec_passes_iff m k c
      by_cases hd : Delivered .normal m k c
      · have hf : (exec .normal m k c).value.failed = false := hpass.mpr (.inl hd)
        obtain ⟨h1, h2⟩ := ih (exec .normal m k c).value.mode (exec .normal m k c).kbc (index + 1)
          (hrest hd)
        rw [run_processCommands_passed hf, firstUndelivered, if_pos hd]
        dsimp only
        rw [h1]
        cases hu : firstUndelivered .normal (exec .normal m k c).value.mode
            (exec .normal m k c).kbc cs with
        | none =>
            rw [hu] at h2
            refine ⟨rfl, ?_⟩
            simp only [Option.map_none, execAll, ← h2]
        | some i =>
            rw [hu] at h2
            refine ⟨by simp; omega, ?_⟩
            simp only [Option.map_some, List.take_succ_cons, execAll, ← h2]
      · have hf : (exec .normal m k c).value.failed = true := by
          cases hv : (exec .normal m k c).value.failed with
          | true => rfl
          | false => exact absurd (hpass.mp hv) (by simp [hd, hz])
        rw [run_processCommands_failed hf, firstUndelivered, if_neg hd]
        exact ⟨by simp, by simp [execAll]⟩

/-- With such a comparison the loop passes over an undelivered byte. -/
theorem run_processCommands_false (cs : List PS2Command) (m : Mode) (k : Kbc) (index : ℕ)
    (h : ¬ NoSilentZero .normal m k cs) :
    ∃ i, firstUndelivered .normal m k cs = some i ∧ i < cs.length ∧
      ∀ j, (run .normal (processCommands m index cs) k).value.2 = some j → i + index < j := by
  induction cs generalizing m k index with
  | nil => exact absurd trivial h
  | cons c cs ih =>
      have hpass := exec_passes_iff m k c
      by_cases hz : SilentZero m k c
      · have hf : (exec .normal m k c).value.failed = false := hpass.mpr (.inr hz)
        refine ⟨0, ?_, by simp, fun j hj => ?_⟩
        · rw [firstUndelivered, if_neg hz.not_delivered]
        · rw [run_processCommands_passed hf] at hj
          have := run_processCommands_index _ _ _ _ _ _ hj
          omega
      · have hrest : ¬ (Delivered .normal m k c → NoSilentZero .normal
            (exec .normal m k c).value.mode (exec .normal m k c).kbc cs) := fun hr => h ⟨hz, hr⟩
        obtain ⟨hd, hn⟩ := Classical.not_imp.mp hrest
        have hf : (exec .normal m k c).value.failed = false := hpass.mpr (.inl hd)
        obtain ⟨i, hi, hlt, hj⟩ := ih (exec .normal m k c).value.mode (exec .normal m k c).kbc
          (index + 1) hn
        refine ⟨i + 1, ?_, by simpa using hlt, fun j hr => ?_⟩
        · rw [firstUndelivered, if_pos hd, hi]
          rfl
        · rw [run_processCommands_passed hf] at hr
          have := hj j hr
          omega

/-! ### The outcome of a request -/

theorem toNat_ofNat_of_le {n : ℕ} (h : n ≤ 255) : (UInt8.ofNat n).toNat = n :=
  UInt8.toNat_ofNat_of_lt' (Nat.lt_succ_of_le h)

theorem run_processRequest (cfg : Settings) (commands : List PS2Command)
    (hlen : commands.length ≤ 255) (k : Kbc) :
    let loop := run cfg (processCommands .start 0 commands) k
    run cfg (processRequest false (.ofCommands commands)) k =
      ⟨⟨(loop.value.2.map UInt8.ofNat).getD (UInt8.ofNat commands.length), loop.value.1⟩,
        loop.events, loop.kbc⟩ := by
  have hcount := toNat_ofNat_of_le hlen
  simp [processRequest, PS2Request.ofCommands, beginIgnoring, endIgnoring, run, Prog.bind,
    run_bind, hcount, Run.after]

/-- **The outcome of a request is the truth about the hardware exactly when no command that is
reached compares with zero on a silent stream.** -/
theorem outcome_iff (k : Kbc) (commands : List PS2Command) (hlen : commands.length ≤ 255) :
    OutcomeTrue .normal k commands (run .normal (processRequest false (.ofCommands commands)) k) ↔
      NoSilentZero .normal .start k commands := by
  have hcount := toNat_ofNat_of_le hlen
  rw [run_processRequest .normal commands hlen k]
  unfold OutcomeTrue
  constructor
  · intro h
    by_contra hn
    obtain ⟨i, hi, hlt, hj⟩ := run_processCommands_false commands .start k 0 hn
    rw [hi] at h
    have hc := h.1
    cases hr : (run .normal (processCommands .start 0 commands) k).value.2 with
    | none =>
        rw [hr] at hc
        simp only [Option.map_none, Option.getD_none] at hc
        omega
    | some j =>
        have hb := run_processCommands_index _ _ _ _ _ _ hr
        have hij := hj j hr
        rw [hr] at hc
        simp only [Option.map_some, Option.getD_some] at hc
        rw [toNat_ofNat_of_le (by omega)] at hc
        omega
  · intro hn
    obtain ⟨h1, h2⟩ := run_processCommands_true commands .start k 0 hn
    have hb := run_processCommands_index .normal commands .start k 0
    cases hu : firstUndelivered .normal .start k commands with
    | none =>
        rw [hu] at h1 h2
        refine ⟨?_, h2⟩
        rw [h1]
        exact hcount
    | some i =>
        rw [hu] at h1 h2
        refine ⟨?_, h2⟩
        have hi := hb i h1
        rw [h1]
        simp only [Option.map_some, Option.getD_some, Nat.add_zero]
        exact toNat_ofNat_of_le (by omega)

/-- The end of the touchpad's reset handshake: `AA` and `00` on the mouse stream. -/
def resetHandshake : List PS2Command :=
  [⟨.readMouseDataPortAndCompare, 0xaa, 0, 0, 0⟩, ⟨.readMouseDataPortAndCompare, 0x00, 0, 0, 0⟩]

/-- A device that answers the handshake, with a key byte in between. -/
def answeringKbc : Kbc :=
  ⟨0x47, false, none,
    [.quiet, .device .mouse 0xaa, .device .keyboard 0x1e, .device .mouse 0x00]⟩

theorem outcome_answered :
    resetHandshake.length ≤ 255 ∧
      OutcomeTrue .normal answeringKbc resetHandshake
        (run .normal (processRequest false (.ofCommands resetHandshake)) answeringKbc) := by
  refine ⟨by decide, (outcome_iff answeringKbc resetHandshake (by decide)).mpr ?_⟩
  refine ⟨?_, fun _ => ⟨?_, fun _ => trivial⟩⟩
  · rintro ⟨s, hs, -⟩
    exact absurd hs (by cases s <;> decide)
  · rintro ⟨s, hs, hsil⟩
    cases s with
    | keyboard => exact absurd hs (by decide +kernel)
    | mouse => exact absurd hsil (by decide +kernel)

/-- A device that announces its reset with `AA` and then stays silent. -/
def silentKbc : Kbc := ⟨0x47, false, none, [.device .mouse 0xaa]⟩

/-- The handshake succeeds although the device never sent `00`. -/
theorem outcome_fails_silent :
    ¬ ∀ (k : Kbc) (commands : List PS2Command), commands.length ≤ 255 →
      OutcomeTrue .normal k commands
        (run .normal (processRequest false (.ofCommands commands)) k) := by
  intro h
  have h := h silentKbc resetHandshake (by decide)
  unfold OutcomeTrue at h
  have hu : firstUndelivered .normal .start silentKbc resetHandshake = some 1 := by
    decide +kernel
  rw [hu] at h
  exact absurd h.1 (by decide +kernel)

end VoodooPS2.Controller
