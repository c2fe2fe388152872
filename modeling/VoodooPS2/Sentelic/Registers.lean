import VoodooPS2.Controller.Request

/-! # Registers of a Sentelic pad (`fsp_reg_read`, `fsp_reg_write`, `fsp_write_enable`,
`fsp_opctag_enable`)

A Sentelic pad is set up through registers, and a register is reached through sequences of mouse
commands, each byte of which is a request of its own.  Bytes with a meaning for other pads are sent in
disguise: with the nibbles exchanged or inverted, after another selector.  A bit of a register is changed
by a read and a write; but what becomes of the read is never looked at.

`read_modify_write_iff`: the writes that are sent put back the value that was read, with only the one
bit changed, if and only if each read completes: the pad acknowledges every byte of it and sends all
three bytes of its answer. -/

namespace VoodooPS2.Sentelic

open Controller

def FSP_REG_OPC_QDOWN : UInt8 := 0x31
def FSP_REG_SYSCTL1 : UInt8 := 0x10
def FSP_BIT_EN_REG_CLK : UInt8 := 0x20
def FSP_BIT_EN_OPC_TAG : UInt8 := 0x80

/-- A byte as an `int`. -/
def intOf (byte : UInt8) : BitVec 32 := byte.toBitVec.setWidth 32

/-- An `int` stored in a byte. -/
def lowByte (n : BitVec 32) : UInt8 := ⟨n.setWidth 8⟩

/-! ### Commands -/

/-- `(request->commandsCount == n + 1) ? request->commands[n].inOrOut : -1`. -/
def outcome (request : PS2Request) (n : ℕ) : BitVec 32 :=
  if request.commandsCount.toNat = n + 1 then
    intOf ((request.commands.map PS2Command.inOrOut).getD n 0)
  else -1

def fspPs2Command (hardwareOffline : Bool) (cmd : BitVec 32) : Prog (BitVec 32) := do
  let request ← processRequest hardwareOffline (.ofCommands
    [⟨.writeCommandPort, kCPTransmitToMouse, 0, 0, 0⟩, ⟨.writeDataPort, lowByte cmd, 0, 0, 0⟩,
      ⟨.readDataPort, 0, 0, 0, 0⟩])
  return outcome request 2

/-- One command after the other; the results are not looked at. -/
def fspPs2Commands (hardwareOffline : Bool) : List (BitVec 32) → Prog Unit
  | [] => return ()
  | cmd :: cmds => do
      let _ ← fspPs2Command hardwareOffline cmd
      fspPs2Commands hardwareOffline cmds

/-- The values of `register_select`: for a byte as it is, with its nibbles exchanged, inverted. -/
structure Selectors where
  plain : UInt8
  swapped : UInt8
  inverted : UInt8

def readSelectors : Selectors := ⟨0x66, 0xCC, 0x68⟩
def writeSelectors : Selectors := ⟨0x55, 0x77, 0x74⟩
def valueSelectors : Selectors := ⟨0x33, 0x44, 0x47⟩

/-- `register_select` and `register_value`: avoids collision with reserved values. -/
def Selectors.mangle (s : Selectors) (n : BitVec 32) : List (BitVec 32) :=
  if n = 10 ∨ n = 20 ∨ n = 40 ∨ n = 60 ∨ n = 80 ∨ n = 100 ∨ n = 200 then
    [intOf s.swapped, n.sshiftRight 4 ||| n <<< 4]
  else if n = 0xe9 ∨ n = 0xee ∨ n = 0xf2 ∨ n = 0xff then [intOf s.inverted, ~~~n]
  else [intOf s.plain, n]

def fspRegRead (hardwareOffline : Bool) (reg : UInt8) : Prog (BitVec 32) := do
  fspPs2Commands hardwareOffline ([0xf3, 0x66, 0x88, 0xf3] ++ readSelectors.mangle (intOf reg))
  let request ← processRequest hardwareOffline (.ofCommands
    [⟨.sendMouseCommandAndCompareAck, kDPGetMouseInformation, 0, 0, 0⟩,
      ⟨.readDataPort, 0, 0, 0, 0⟩, ⟨.readDataPort, 0, 0, 0, 0⟩, ⟨.readDataPort, 0, 0, 0, 0⟩])
  return outcome request 3

def fspRegWrite (hardwareOffline : Bool) (reg : UInt8) (val : BitVec 32) : Prog Unit :=
  fspPs2Commands hardwareOffline ([0xf3] ++ writeSelectors.mangle (intOf reg) ++ [0xf3] ++
    valueSelectors.mangle val)

/-- A bit of a register to be set or cleared. -/
structure Update where
  reg : UInt8
  bit : UInt8
  enable : Bool
deriving DecidableEq, Repr

/-- `if (enable) n |= bit; else n &= ~bit;`. -/
def Update.apply (u : Update) (n : BitVec 32) : BitVec 32 :=
  if u.enable then n ||| intOf u.bit else n &&& ~~~intOf u.bit

/-- A register is read and written back with the bit changed. -/
def updateRegister (hardwareOffline : Bool) (u : Update) : Prog Unit := do
  let n ← fspRegRead hardwareOffline u.reg
  fspRegWrite hardwareOffline u.reg (u.apply n)

def fspWriteEnable (hardwareOffline enable : Bool) : Prog Unit :=
  updateRegister hardwareOffline ⟨FSP_REG_SYSCTL1, FSP_BIT_EN_REG_CLK, enable⟩

def fspOpctagEnable (hardwareOffline enable : Bool) : Prog Unit := do
  fspWriteEnable hardwareOffline true
  updateRegister hardwareOffline ⟨FSP_REG_OPC_QDOWN, FSP_BIT_EN_OPC_TAG, enable⟩
  fspWriteEnable hardwareOffline false

/-! ### What is sent -/

/-- The bytes sent to the pad. -/
def sent (events : List PortEvent) : List UInt8 :=
  events.filterMap fun
    | .data byte => some byte
    | _ => none

/-- The byte that stands behind a selector and a value. -/
def Selectors.unmangle (s : Selectors) (select value : UInt8) : Option UInt8 :=
  if select = s.plain then some value
  else if select = s.swapped then some (value >>> 4 ||| value <<< 4)
  else if select = s.inverted then some (~~~value)
  else none

/-- The register and the value of a write that begins here. -/
def writeAt : List UInt8 → Option (UInt8 × UInt8)
  | a :: select :: reg :: b :: select' :: value :: _ =>
      if a = 0xf3 ∧ b = 0xf3 then
        (writeSelectors.unmangle select reg).bind fun reg =>
          (valueSelectors.unmangle select' value).map fun value => (reg, value)
      else none
  | _ => none

/-- The writes in the bytes sent. -/
def writes (bytes : List UInt8) : List (UInt8 × UInt8) := bytes.tails.filterMap writeAt

/-! ### What the pad answers -/

/-- The 8042 when a byte has been sent to the pad. -/
def transmitted (k : Kbc) (byte : UInt8) : Kbc := (k.command kCPTransmitToMouse).data byte

/-- What is read from the pad. -/
def reply (k : Kbc) : ReadResult := readDataPort .normal .mouse k.polls

/-- What is read from the pad when an acknowledge is expected. -/
def ackReply (k : Kbc) : ReadResult := readDataPortExpecting .normal .mouse kSCAcknowledge k.polls

/-- The 8042 after a read. -/
def answered (k : Kbc) (res : ReadResult) : Kbc := k.advance (k.polls.length - res.rest.length)

/-- The 8042 after bytes that the pad has acknowledged, each by the one byte read after it. -/
def acknowledged : Kbc → List UInt8 → Option Kbc
  | k, [] => some k
  | k, byte :: bytes =>
      let k := transmitted k byte
      if (reply k).returned = some kSCAcknowledge then acknowledged (answered k (reply k)) bytes
      else none

/-- The last of the three bytes that answer `kDP_GetMouseInformation`, if all come. -/
def information (k : Kbc) : Option UInt8 :=
  let k := transmitted k kDPGetMouseInformation
  if (ackReply k).returned = some kSCAcknowledge then
    let k := answered k (ackReply k)
    let k' := answered k (reply k)
    let k'' := answered k' (reply k')
    (reply k).returned.bind fun _ => (reply k').returned.bind fun _ => (reply k'').returned
  else none

/-- The bytes that select a register for reading. -/
def readBytes (reg : UInt8) : List UInt8 :=
  ([0xf3, 0x66, 0x88, 0xf3] ++ readSelectors.mangle (intOf reg)).map lowByte

/-- The value that the pad returns for a read of the register, if the read completes. -/
def readBack (k : Kbc) (reg : UInt8) : Option UInt8 :=
  (acknowledged k (readBytes reg)).bind information

/-- The bit changed in a byte. -/
def Update.change (u : Update) (value : UInt8) : UInt8 :=
  if u.enable then value ||| u.bit else value &&& ~~~u.bit

/-- Each write puts back the value that was returned for a read of its register, with only the bit
changed; `reads` are the reads, each with the bit to be changed and the 8042 when it begins. -/
def ReadModifyWrite (reads : List (Update × Kbc)) (events : List PortEvent) : Prop :=
  (writes (sent events)).Sublist
    (reads.filterMap fun r => (readBack r.2 r.1.reg).map fun v => (r.1.reg, r.1.change v))

/-! ### Commands and requests -/

theorem sent_append (es fs : List PortEvent) : sent (es ++ fs) = sent es ++ sent fs :=
  List.filterMap_append

/-- What is read is not sent. -/
theorem sent_took (taken : List TaggedByte) : sent (taken.map .took) = [] := by
  induction taken with
  | nil => rfl
  | cons t ts ih => exact ih

/-- A machine that is offline is sent nothing. -/
theorem run_offline {cfg : Settings} {k : Kbc} (request : PS2Request) :
    (run cfg (processRequest true request) k).events = [] := rfl

theorem run_fspPs2Command (cmd : BitVec 32) (k : Kbc) :
    sent (run .normal (fspPs2Command false cmd) k).events = [lowByte cmd] ∧
      (run .normal (fspPs2Command false cmd) k).kbc =
        answered (transmitted k (lowByte cmd)) (reply (transmitted k (lowByte cmd))) := by
  have hrun : ∃ taken : List TaggedByte,
      (run .normal (fspPs2Command false cmd) k).events =
          [.command kCPTransmitToMouse, .data (lowByte cmd)] ++ taken.map .took ∧
        (run .normal (fspPs2Command false cmd) k).kbc =
          answered (transmitted k (lowByte cmd)) (reply (transmitted k (lowByte cmd))) := by
    refine ⟨(reply (transmitted k (lowByte cmd))).taken, ?_⟩
    simp [fspPs2Command, processRequest, PS2Request.ofCommands, processCommands, execCommand,
      beginIgnoring, endIgnoring, run, Prog.bind, Run.after, writeCommandPort, writeDataPort,
      readPort, reply, readDataPort, transmitted, answered, Mode.start, PS2Command.inOrOut]
  obtain ⟨taken, hevents, hkbc⟩ := hrun
  refine ⟨?_, hkbc⟩
  rw [hevents, sent_append, sent_took]
  rfl

theorem run_fspPs2Commands (cmds : List (BitVec 32)) (k : Kbc) :
    sent (run .normal (fspPs2Commands false cmds) k).events = cmds.map lowByte ∧
      ∀ k', acknowledged k (cmds.map lowByte) = some k' →
        (run .normal (fspPs2Commands false cmds) k).kbc = k' := by
  induction cmds generalizing k with
  | nil => exact ⟨rfl, fun k' h => Option.some.inj h⟩
  | cons cmd cmds ih =>
      obtain ⟨hsent, hkbc⟩ := run_fspPs2Command cmd k
      obtain ⟨ihsent, ihkbc⟩ := ih (run .normal (fspPs2Command false cmd) k).kbc
      rw [fspPs2Commands, Prog.bind_eq, run_bind, List.map_cons]
      refine ⟨?_, fun k' h => ?_⟩
      · rw [Run.after_events, sent_append, hsent, ihsent]
        rfl
      · rw [acknowledged] at h
        split at h
        · rw [← hkbc] at h
          exact ihkbc k' h
        · cases h

/-- A request that ends without a failure has the result of its last command. -/
theorem outcome_of_passed {commands : List PS2Command} {n : ℕ} (hn : commands.length = n + 1)
    (hlen : commands.length ≤ 255) {k : Kbc}
    (hpass : (run .normal (processCommands .start 0 commands) k).value.2 = none) :
    outcome (run .normal (processRequest false (.ofCommands commands)) k).value n =
      intOf (((run .normal (processCommands .start 0 commands) k).value.1.map
        PS2Command.inOrOut).getD n 0) := by
  rw [run_processRequest .normal commands hlen k]
  dsimp only
  rw [outcome, hpass, Option.map_none, Option.getD_none, toNat_ofNat_of_le hlen, if_pos hn]

/-- The commands that read a register once it is selected. -/
def informationCommands : List PS2Command :=
  [⟨.sendMouseCommandAndCompareAck, kDPGetMouseInformation, 0, 0, 0⟩,
    ⟨.readDataPort, 0, 0, 0, 0⟩, ⟨.readDataPort, 0, 0, 0, 0⟩, ⟨.readDataPort, 0, 0, 0, 0⟩]

theorem value_eq_acknowledge_iff (res : ReadResult) :
    res.value = kSCAcknowledge ↔ res.returned = some kSCAcknowledge := by
  unfold ReadResult.value
  cases res.returned with
  | none => decide
  | some b => simp

/-- A byte sent to the pad: the request goes on if an acknowledge is returned. -/
theorem exec_send (m : Mode) (k : Kbc) (byte : UInt8) :
    (exec .normal m k ⟨.sendMouseCommandAndCompareAck, byte, 0, 0, 0⟩).value =
        ⟨{ m with deviceMode := .mouse }, ⟨.sendMouseCommandAndCompareAck, byte, 0, 0, 0⟩,
          (ackReply (transmitted k byte)).value != kSCAcknowledge⟩ ∧
      sent (exec .normal m k ⟨.sendMouseCommandAndCompareAck, byte, 0, 0, 0⟩).events = [byte] ∧
      (exec .normal m k ⟨.sendMouseCommandAndCompareAck, byte, 0, 0, 0⟩).kbc =
        answered (transmitted k byte) (ackReply (transmitted k byte)) := by
  have hrun : exec .normal m k ⟨.sendMouseCommandAndCompareAck, byte, 0, 0, 0⟩ =
      ⟨⟨{ m with deviceMode := .mouse }, ⟨.sendMouseCommandAndCompareAck, byte, 0, 0, 0⟩,
          (ackReply (transmitted k byte)).value != kSCAcknowledge⟩,
        [.command kCPTransmitToMouse, .data byte] ++
          (ackReply (transmitted k byte)).taken.map .took,
        answered (transmitted k byte) (ackReply (transmitted k byte))⟩ := by
    simp [exec, execCommand, run, Prog.bind, Run.after, writeCommandPort, writeDataPort,
      readPortExpecting, ackReply, readDataPortExpecting, transmitted, answered,
      PS2Command.inOrOut]
  rw [hrun]
  refine ⟨rfl, ?_, rfl⟩
  rw [sent_append, sent_took]
  rfl

/-- Three bytes are read, whether they come or not. -/
theorem run_readThree (k : Kbc) (index : ℕ) :
    let k' := answered k (reply k)
    let k'' := answered k' (reply k')
    let rest := run .normal (processCommands ⟨.mouse, false⟩ index
      [⟨.readDataPort, 0, 0, 0, 0⟩, ⟨.readDataPort, 0, 0, 0, 0⟩, ⟨.readDataPort, 0, 0, 0, 0⟩]) k
    sent rest.events = [] ∧ rest.value.2 = none ∧
      rest.value.1.map PS2Command.inOrOut =
        [(reply k).value, (reply k').value, (reply k'').value] := by
  intro k' k'' rest
  have hrest : rest.events =
        ((reply k).taken ++ ((reply k').taken ++ (reply k'').taken)).map .took ∧
      rest.value.2 = none ∧ rest.value.1.map PS2Command.inOrOut =
        [(reply k).value, (reply k').value, (reply k'').value] := by
    simp [rest, k', k'', processCommands, execCommand, run, Prog.bind, Run.after, readPort, reply,
      readDataPort, answered, PS2Command.setInOrOut, PS2Command.inOrOut]
  refine ⟨?_, hrest.2⟩
  rw [hrest.1]
  exact sent_took _

/-- With an acknowledge and all three bytes the last of them is the information. -/
theorem information_last {k : Kbc} {v : UInt8}
    (hack : ((ackReply (transmitted k kDPGetMouseInformation)).value != kSCAcknowledge) = false)
    (h : information k = some v) :
    let k := answered (transmitted k kDPGetMouseInformation)
      (ackReply (transmitted k kDPGetMouseInformation))
    let k' := answered k (reply k)
    (reply (answered k' (reply k'))).returned = some v := by
  have hreturned := (value_eq_acknowledge_iff _).mp ((bne_eq_false_iff_eq).mp hack)
  rw [information, if_pos hreturned] at h
  obtain ⟨_, -, h⟩ := Option.bind_eq_some_iff.mp h
  obtain ⟨_, -, h⟩ := Option.bind_eq_some_iff.mp h
  exact h

theorem loop_information (k : Kbc) :
    sent (run .normal (processCommands .start 0 informationCommands) k).events =
        [kDPGetMouseInformation] ∧
      ∀ v, information k = some v →
        (run .normal (processCommands .start 0 informationCommands) k).value.2 = none ∧
        ((run .normal (processCommands .start 0 informationCommands) k).value.1.map
          PS2Command.inOrOut).getD 3 0 = v := by
  obtain ⟨hvalue, hsent, hkbc⟩ := exec_send .start k kDPGetMouseInformation
  have hfailed := congrArg Executed.failed hvalue
  have hmode : (exec .normal .start k
      ⟨.sendMouseCommandAndCompareAck, kDPGetMouseInformation, 0, 0, 0⟩).value.mode =
        ⟨.mouse, false⟩ := congrArg Executed.mode hvalue
  dsimp only at hfailed
  unfold informationCommands
  cases hack : (ackReply (transmitted k kDPGetMouseInformation)).value != kSCAcknowledge with
  | true =>
      rw [run_processCommands_failed (hfailed.trans hack)]
      refine ⟨hsent, fun v hv => ?_⟩
      have hnot : ¬ (ackReply (transmitted k kDPGetMouseInformation)).returned =
          some kSCAcknowledge := by
        rw [← value_eq_acknowledge_iff]
        simpa using hack
      rw [information, if_neg hnot] at hv
      cases hv
  | false =>
      obtain ⟨hread, hnone, hbytes⟩ := run_readThree
        (answered (transmitted k kDPGetMouseInformation)
          (ackReply (transmitted k kDPGetMouseInformation))) 1
      rw [run_processCommands_passed (hfailed.trans hack), hmode, hkbc, Nat.zero_add]
      refine ⟨?_, fun v hv => ⟨hnone, ?_⟩⟩
      · exact (sent_append _ _).trans (congrArg₂ (· ++ ·) hsent hread)
      · rw [List.map_cons, List.getD_cons_succ, hbytes, List.getD_cons_succ, List.getD_cons_succ,
          List.getD_cons_zero, ReadResult.value, information_last hack hv, Option.getD_some]

/-! ### Reading and writing a register -/

theorem run_fspRegRead (reg : UInt8) (k : Kbc) :
    sent (run .normal (fspRegRead false reg) k).events =
        readBytes reg ++ [kDPGetMouseInformation] ∧
      ∀ v, readBack k reg = some v → (run .normal (fspRegRead false reg) k).value = intOf v := by
  obtain ⟨hsent, hkbc⟩ := run_fspPs2Commands
    ([0xf3, 0x66, 0x88, 0xf3] ++ readSelectors.mangle (intOf reg)) k
  rw [fspRegRead, Prog.bind_eq, run_bind, Run.after_events, Run.after_value, sent_append, hsent,
    Prog.bind_eq, run_bind, Run.after_events, Run.after_value, sent_append]
  generalize (run .normal (fspPs2Commands false
    ([0xf3, 0x66, 0x88, 0xf3] ++ readSelectors.mangle (intOf reg))) k).kbc = selected at hkbc ⊢
  obtain ⟨hloop, hresult⟩ := loop_information selected
  have hrequest := run_processRequest .normal informationCommands (by decide) selected
  refine ⟨?_, fun v hv => ?_⟩
  · have hevents := congrArg (fun r => sent (Run.events r)) hrequest
    exact congrArg (readBytes reg ++ ·) ((List.append_nil _).trans (hevents.trans hloop))
  · obtain ⟨k', hk', hv⟩ := Option.bind_eq_some_iff.mp hv
    obtain rfl := hkbc k' hk'
    obtain ⟨hnone, hbyte⟩ := hresult v hv
    have houtcome := outcome_of_passed (show informationCommands.length = 3 + 1 from rfl)
      (by decide) hnone
    rw [hbyte] at houtcome
    exact houtcome

theorem run_fspRegWrite (reg : UInt8) (val : BitVec 32) (k : Kbc) :
    sent (run .normal (fspRegWrite false reg val) k).events =
      ([0xf3] ++ writeSelectors.mangle (intOf reg) ++ [0xf3] ++
        valueSelectors.mangle val).map lowByte :=
  (run_fspPs2Commands _ k).1

/-! ### The writes in the bytes sent -/

/-- The selectors of one table differ. -/
def Selectors.Distinct (s : Selectors) : Prop :=
  s.plain ≠ s.swapped ∧ s.plain ≠ s.inverted ∧ s.swapped ≠ s.inverted

theorem lowByte_intOf (byte : UInt8) : lowByte (intOf byte) = byte := by
  apply UInt8.toBitVec_inj.mp
  simp [lowByte, intOf]

/-- A mangled byte is told apart by its selector. -/
theorem Selectors.unmangle_mangle {s : Selectors} (hs : s.Distinct) (n : BitVec 32) :
    ∃ select value, (s.mangle n).map lowByte = [select, value] ∧
      (select = s.plain ∨ select = s.swapped ∨ select = s.inverted) ∧
      s.unmangle select value = some (lowByte n) := by
  obtain ⟨h1, h2, h3⟩ := hs
  have hswapped : ∀ m : BitVec 32, s.unmangle s.swapped (lowByte m) =
      some (lowByte m >>> 4 ||| lowByte m <<< 4) := by
    intro m
    rw [unmangle, if_neg h1.symm, if_pos rfl]
  have hinverted : ∀ m : BitVec 32, s.unmangle s.inverted (lowByte m) = some (~~~lowByte m) := by
    intro m
    rw [unmangle, if_neg h2.symm, if_neg h3.symm, if_pos rfl]
  unfold mangle
  split_ifs with hswap hinvert
  · refine ⟨s.swapped, lowByte (n.sshiftRight 4 ||| n <<< 4), ?_, .inr (.inl rfl), (hswapped _).trans (congrArg some ?_)⟩
    · rw [List.map_cons, List.map_cons, List.map_nil, lowByte_intOf]
    · rcases hswap with rfl | rfl | rfl | rfl | rfl | rfl | rfl <;> decide
  · refine ⟨s.inverted, lowByte (~~~n), ?_, .inr (.inr rfl), (hinverted _).trans (congrArg some ?_)⟩
    · rw [List.map_cons, List.map_cons, List.map_nil, lowByte_intOf]
    · rcases hinvert with rfl | rfl | rfl | rfl <;> decide
  · refine ⟨s.plain, lowByte n, ?_, .inl rfl, if_pos rfl⟩
    rw [List.map_cons, List.map_cons, List.map_nil, lowByte_intOf]

/-- No write is selected by the byte. -/
def NoWrite (select : UInt8) : Prop :=
  select ≠ writeSelectors.plain ∧ select ≠ writeSelectors.swapped ∧
    select ≠ writeSelectors.inverted

instance (select : UInt8) : Decidable (NoWrite select) := inferInstanceAs (Decidable (_ ∧ _))

theorem writeAt_eq_none_of_ne {a : UInt8} (h : a ≠ 0xf3) (bytes : List UInt8) :
    writeAt (a :: bytes) = none := by
  unfold writeAt
  split
  · rename_i heq
    cases heq
    exact if_neg fun hc => h hc.1
  · rfl

theorem writeAt_eq_none_of_noWrite {select : UInt8} (h : NoWrite select) (a : UInt8)
    (bytes : List UInt8) : writeAt (a :: select :: bytes) = none := by
  unfold writeAt
  split
  · rename_i heq
    cases heq
    rw [Selectors.unmangle, if_neg h.1, if_neg h.2.1, if_neg h.2.2, Option.bind_none, ite_self]
  · rfl

theorem writes_of_none {b : UInt8} {bytes : List UInt8} (h : writeAt (b :: bytes) = none) :
    writes (b :: bytes) = writes bytes := by
  rw [writes, List.tails_cons, List.filterMap_cons_none h, writes]

theorem writes_of_some {b : UInt8} {bytes : List UInt8} {w : UInt8 × UInt8}
    (h : writeAt (b :: bytes) = some w) : writes (b :: bytes) = w :: writes bytes := by
  rw [writes, List.tails_cons, List.filterMap_cons_some h, writes]

/-- The bytes of an update that writes `val`. -/
def updateBytes (reg : UInt8) (val : BitVec 32) : List UInt8 :=
  readBytes reg ++ [kDPGetMouseInformation] ++
    ([0xf3] ++ writeSelectors.mangle (intOf reg) ++ [0xf3] ++ valueSelectors.mangle val).map lowByte

/-- An update is one write, of the value as it is, and runs into nothing that follows it. -/
theorem writes_updateBytes (reg : UInt8) (val : BitVec 32) {rest : List UInt8}
    (hrest : rest = [] ∨ ∃ rest', rest = 0xf3 :: rest') :
    writes (updateBytes reg val ++ rest) = (reg, lowByte val) :: writes rest := by
  obtain ⟨a, x, hax, ha, -⟩ := Selectors.unmangle_mangle (s := readSelectors)
    ⟨by decide, by decide, by decide⟩ (intOf reg)
  obtain ⟨c, y, hcy, hc, hreg⟩ := Selectors.unmangle_mangle (s := writeSelectors)
    ⟨by decide, by decide, by decide⟩ (intOf reg)
  obtain ⟨d, z, hdz, hd, hval⟩ := Selectors.unmangle_mangle (s := valueSelectors)
    ⟨by decide, by decide, by decide⟩ val
  have hbytes : updateBytes reg val ++ rest =
      0xf3 :: 0x66 :: 0x88 :: 0xf3 :: a :: x :: 0xe9 :: 0xf3 :: c :: y :: 0xf3 :: d :: z :: rest := by
    rw [updateBytes, readBytes, List.map_append, hax, List.map_append, List.map_append,
      List.map_append, hcy, hdz]
    rfl
  have hread : NoWrite a ∧ a ≠ 0xf3 := by rcases ha with rfl | rfl | rfl <;> decide
  have hwrite : c ≠ 0xf3 := by rcases hc with rfl | rfl | rfl <;> decide
  have hvalue : NoWrite d ∧ d ≠ 0xf3 := by rcases hd with rfl | rfl | rfl <;> decide
  have hhere : writeAt (0xf3 :: c :: y :: 0xf3 :: d :: z :: rest) = some (reg, lowByte val) := by
    rw [writeAt, if_pos ⟨rfl, rfl⟩, hreg, hval, lowByte_intOf]
    rfl
  have hlast : writeAt (z :: rest) = none := by
    rcases hrest with rfl | ⟨rest', rfl⟩
    · rfl
    · exact writeAt_eq_none_of_noWrite (by decide) z rest'
  rw [hbytes,
    writes_of_none (writeAt_eq_none_of_noWrite (by decide) _ _),
    writes_of_none (writeAt_eq_none_of_ne (by decide) _),
    writes_of_none (writeAt_eq_none_of_ne (by decide) _),
    writes_of_none (writeAt_eq_none_of_noWrite hread.1 _ _),
    writes_of_none (writeAt_eq_none_of_ne hread.2 _),
    writes_of_none (writeAt_eq_none_of_noWrite (by decide) _ _),
    writes_of_none (writeAt_eq_none_of_ne (by decide) _),
    writes_of_some hhere,
    writes_of_none (writeAt_eq_none_of_ne hwrite _),
    writes_of_none (writeAt_eq_none_of_noWrite (by decide) _ _),
    writes_of_none (writeAt_eq_none_of_noWrite hvalue.1 _ _),
    writes_of_none (writeAt_eq_none_of_ne hvalue.2 _),
    writes_of_none hlast]

/-! ### Updates -/

/-- The value that an update writes. -/
def written (u : Update) (k : Kbc) : BitVec 32 :=
  u.apply (run .normal (fspRegRead false u.reg) k).value

theorem sent_updateRegister (u : Update) (k : Kbc) :
    sent (run .normal (updateRegister false u) k).events = updateBytes u.reg (written u k) := by
  rw [updateRegister, Prog.bind_eq, run_bind, Run.after_events, sent_append,
    (run_fspRegRead u.reg k).1, run_fspRegWrite]
  rfl

/-- The bit changed in an `int` and in a byte. -/
theorem lowByte_apply (u : Update) (value : UInt8) :
    lowByte (u.apply (intOf value)) = u.change value := by
  unfold Update.apply Update.change
  split
  · apply UInt8.toBitVec_inj.mp
    simp [lowByte, intOf]
  · apply UInt8.toBitVec_inj.mp
    simp [lowByte, intOf]

/-- A value that the pad returned is written back with the bit changed. -/
theorem lowByte_written {u : Update} {k : Kbc} {value : UInt8}
    (h : readBack k u.reg = some value) : lowByte (written u k) = u.change value := by
  rw [written, (run_fspRegRead u.reg k).2 value h, lowByte_apply]

/-- One update after the other. -/
def updateRegisters (hardwareOffline : Bool) : List Update → Prog Unit
  | [] => return ()
  | u :: us => do
      updateRegister hardwareOffline u
      updateRegisters hardwareOffline us

/-- The reads of a list of updates. -/
def readsOf (hardwareOffline : Bool) : List Update → Kbc → List (Update × Kbc)
  | [], _ => []
  | u :: us, k =>
      (u, k) :: readsOf hardwareOffline us (run .normal (updateRegister hardwareOffline u) k).kbc

theorem writes_updateRegisters (us : List Update) (k : Kbc) :
    (sent (run .normal (updateRegisters false us) k).events = [] ∨
        ∃ rest, sent (run .normal (updateRegisters false us) k).events = 0xf3 :: rest) ∧
      writes (sent (run .normal (updateRegisters false us) k).events) =
        (readsOf false us k).map fun r => (r.1.reg, lowByte (written r.1 r.2)) := by
  induction us generalizing k with
  | nil => exact ⟨.inl rfl, rfl⟩
  | cons u us ih =>
      obtain ⟨hrest, hwrites⟩ := ih (run .normal (updateRegister false u) k).kbc
      rw [updateRegisters, Prog.bind_eq, run_bind, Run.after_events, sent_append,
        sent_updateRegister, writes_updateBytes _ _ hrest, hwrites]
      exact ⟨.inr ⟨_, rfl⟩, rfl⟩

theorem events_offline (us : List Update) (k : Kbc) :
    (run .normal (updateRegisters true us) k).events = [] := by
  have hcommands : ∀ (cmds : List (BitVec 32)) (k : Kbc),
      (run .normal (fspPs2Commands true cmds) k).events = [] := by
    intro cmds
    induction cmds with
    | nil => exact fun _ => rfl
    | cons cmd cmds ih => exact ih
  have hread : ∀ (reg : UInt8) (k : Kbc), (run .normal (fspRegRead true reg) k).events = [] := by
    intro reg k
    rw [fspRegRead, Prog.bind_eq, run_bind, Run.after_events, hcommands, Prog.bind_eq, run_bind,
      Run.after_events, run_offline]
    rfl
  induction us generalizing k with
  | nil => rfl
  | cons u us ih =>
      rw [updateRegisters, Prog.bind_eq, run_bind, Run.after_events, ih, updateRegister,
        Prog.bind_eq, run_bind, Run.after_events, hread, fspRegWrite, hcommands]
      rfl

/-- A list with something for each entry is as long as with what only some entries give if all
give something. -/
theorem sublist_filterMap_iff {α β : Type} {f : α → β} {g : α → Option β} {xs : List α}
    (hfg : ∀ x ∈ xs, ∀ y, g x = some y → f x = y) :
    (xs.map f).Sublist (xs.filterMap g) ↔ ∀ x ∈ xs, (g x).isSome := by
  constructor
  · intro h
    have hle := h.length_le
    rw [List.length_map] at hle
    exact List.filterMap_length_eq_length.mp (le_antisymm (List.length_filterMap_le g xs) hle)
  · intro h
    have hmap : xs.filterMap g = xs.map f := by
      rw [← List.filterMap_eq_map]
      refine List.filterMap_congr fun x hx => ?_
      obtain ⟨y, hy⟩ := Option.isSome_iff_exists.mp (h x hx)
      rw [hy, Function.comp_apply, hfg x hx y hy]
    rw [hmap]

theorem updateRegisters_iff (hardwareOffline : Bool) (us : List Update) (k : Kbc) :
    ReadModifyWrite (readsOf hardwareOffline us k)
        (run .normal (updateRegisters hardwareOffline us) k).events ↔
      hardwareOffline = true ∨
        ∀ r ∈ readsOf hardwareOffline us k, (readBack r.2 r.1.reg).isSome := by
  cases hardwareOffline with
  | true =>
      refine iff_of_true ?_ (.inl rfl)
      rw [ReadModifyWrite, events_offline]
      exact List.nil_sublist _
  | false =>
      rw [ReadModifyWrite, (writes_updateRegisters us k).2, sublist_filterMap_iff]
      · simp
      · intro r _ w hw
        obtain ⟨value, hvalue, rfl⟩ := Option.map_eq_some_iff.mp hw
        rw [lowByte_written hvalue]

def writeEnableUpdate (enable : Bool) : Update := ⟨FSP_REG_SYSCTL1, FSP_BIT_EN_REG_CLK, enable⟩

def opctagUpdates (enable : Bool) : List Update :=
  [writeEnableUpdate true, ⟨FSP_REG_OPC_QDOWN, FSP_BIT_EN_OPC_TAG, enable⟩,
    writeEnableUpdate false]

/-- **Registers are updated by read, modify and write exactly if every read of the call completes**,
or the machine is offline and nothing is sent. -/
theorem read_modify_write_iff (hardwareOffline enable : Bool) (k : Kbc) :
    (ReadModifyWrite (readsOf hardwareOffline [writeEnableUpdate enable] k)
          (run .normal (fspWriteEnable hardwareOffline enable) k).events ↔
        hardwareOffline = true ∨
          ∀ r ∈ readsOf hardwareOffline [writeEnableUpdate enable] k,
            (readBack r.2 r.1.reg).isSome) ∧
      (ReadModifyWrite (readsOf hardwareOffline (opctagUpdates enable) k)
          (run .normal (fspOpctagEnable hardwareOffline enable) k).events ↔
        hardwareOffline = true ∨
          ∀ r ∈ readsOf hardwareOffline (opctagUpdates enable) k,
            (readBack r.2 r.1.reg).isSome) := by
  have hone := updateRegisters_iff hardwareOffline [writeEnableUpdate enable] k
  have hthree := updateRegisters_iff hardwareOffline (opctagUpdates enable) k
  have honeEvents : (run .normal (updateRegisters hardwareOffline [writeEnableUpdate enable]) k).events =
      (run .normal (fspWriteEnable hardwareOffline enable) k).events := by
    rw [updateRegisters, Prog.bind_eq, run_bind, Run.after_events]
    exact List.append_nil _
  have hthreeEvents : (run .normal (updateRegisters hardwareOffline (opctagUpdates enable)) k).events =
      (run .normal (fspOpctagEnable hardwareOffline enable) k).events := by
    simp only [opctagUpdates, updateRegisters, fspOpctagEnable, Prog.bind_eq, run_bind,
      Run.after_events]
    show _ ++ (_ ++ (_ ++ [])) = _
    rw [List.append_nil]
    rfl
  rw [honeEvents] at hone
  rw [hthreeEvents] at hthree
  exact ⟨hone, hthree⟩

/-- A pad that acknowledges everything and stops after two of the three bytes of an answer. -/
def twoBytes : Kbc :=
  ⟨0x47, false, none,
    List.replicate 7 (.device .mouse kSCAcknowledge) ++ [.device .mouse 0x01, .device .mouse 0x02]⟩

/-- The register is then written with the bit alone, all others cleared. -/
theorem twoBytes_writes :
    readBack twoBytes FSP_REG_SYSCTL1 = none ∧
      writes (sent (run .normal (fspWriteEnable false true) twoBytes).events) =
        [(FSP_REG_SYSCTL1, FSP_BIT_EN_REG_CLK)] ∧
      ¬ ∀ (hardwareOffline enable : Bool) (k : Kbc),
        ReadModifyWrite (readsOf hardwareOffline [writeEnableUpdate enable] k)
          (run .normal (fspWriteEnable hardwareOffline enable) k).events := by
  have hnone : readBack twoBytes FSP_REG_SYSCTL1 = none := by decide +kernel
  have hwrites : writes (sent (run .normal (fspWriteEnable false true) twoBytes).events) =
      [(FSP_REG_SYSCTL1, FSP_BIT_EN_REG_CLK)] := by decide +kernel
  refine ⟨hnone, hwrites, fun h => ?_⟩
  have hall := h false true twoBytes
  rw [ReadModifyWrite, hwrites, readsOf, readsOf, List.filterMap_cons_none] at hall
  · exact absurd hall.length_le (by decide)
  · show (readBack twoBytes FSP_REG_SYSCTL1).map _ = none
    rw [hnone]
    rfl

end VoodooPS2.Sentelic
