import VoodooPS2.Controller.Request

/-! # The composite mouse command (`kPS2C_SendMouseCommandAndCompareAck`)

`processRequest` says that the composite command is equivalent to writing `kCP_TransmitToMouse` to
the command port, the command to the data port, and comparing the answer with an acknowledge.  Two
requests are equivalent when no hardware can tell them apart: for any answers, which may depend on
all that went before, the same operations on the ports are made, each read on the same stream, and
the requests succeed or fail together.

`equivalent_iff`: they are, unless a transmit to the mouse was prepared before the composite command
and is seen after it.  The expansion uses the prepared transmit up; the composite command leaves
it prepared, and the next write to the data port turns the stream of later reads. -/

namespace VoodooPS2.Controller

/-! ### What hardware can see -/

/-- An operation of a program on the ports. -/
inductive PortOp where
  | writeCommandPort (byte : UInt8)
  | writeDataPort (byte : UInt8)
  | readDataPort (r : Reader)
  | flushDataPort
  | sleep (ms : ℕ)
  | ignoreInterrupts
  | heedInterrupts
deriving DecidableEq, Repr

/-- What the hardware answers to a read and to a flush, after the operations made so far. -/
structure Hardware where
  read : List PortOp → UInt8
  flush : List PortOp → ℕ

namespace Hardware

/-- The same hardware after one operation. -/
def after (hw : Hardware) (op : PortOp) : Hardware :=
  ⟨fun ops => hw.read (op :: ops), fun ops => hw.flush (op :: ops)⟩

/-- Hardware that answers at first with `byte` and `n`, and then as given. -/
def starting (hw : Hardware) (byte : UInt8) (n : ℕ) : Hardware :=
  ⟨fun ops => if ops = [] then byte else hw.read ops.tail,
    fun ops => if ops = [] then n else hw.flush ops.tail⟩

theorem after_starting (hw : Hardware) (byte : UInt8) (n : ℕ) (op : PortOp) :
    (hw.starting byte n).after op = hw := by
  simp [starting, after]

end Hardware

namespace Prog

variable {α : Type}

/-- What is seen of a program whose first operation is `op`. -/
def preceded (op : PortOp) (t : List PortOp × α) : List PortOp × α := (op :: t.1, t.2)

/-- The operations of a program on some hardware, and its value. -/
def trace : Prog α → Hardware → List PortOp × α
  | done a, _ => ([], a)
  | writeCommandPort b next, hw =>
      preceded (.writeCommandPort b) (next.trace (hw.after (.writeCommandPort b)))
  | writeDataPort b next, hw =>
      preceded (.writeDataPort b) (next.trace (hw.after (.writeDataPort b)))
  | readDataPort r next, hw =>
      preceded (.readDataPort r) ((next (hw.read [])).trace (hw.after (.readDataPort r)))
  | flushDataPort next, hw =>
      preceded .flushDataPort ((next (hw.flush [])).trace (hw.after .flushDataPort))
  | sleep ms next, hw => preceded (.sleep ms) (next.trace (hw.after (.sleep ms)))
  | ignoreInterrupts next, hw =>
      preceded .ignoreInterrupts (next.trace (hw.after .ignoreInterrupts))
  | heedInterrupts next, hw => preceded .heedInterrupts (next.trace (hw.after .heedInterrupts))

/-- The first operation of a program. -/
def firstOp : Prog α → Option PortOp
  | done _ => none
  | writeCommandPort b _ => some (.writeCommandPort b)
  | writeDataPort b _ => some (.writeDataPort b)
  | readDataPort r _ => some (.readDataPort r)
  | flushDataPort _ => some .flushDataPort
  | sleep ms _ => some (.sleep ms)
  | ignoreInterrupts _ => some .ignoreInterrupts
  | heedInterrupts _ => some .heedInterrupts

theorem head_trace (p : Prog α) (hw : Hardware) : (p.trace hw).1.head? = p.firstOp := by
  cases p <;> rfl

theorem preceded_inj {op op' : PortOp} {t t' : List PortOp × α}
    (h : preceded op t = preceded op' t') : t = t' := by
  obtain ⟨h₁, h₂⟩ := Prod.mk.inj h
  exact Prod.ext (List.cons.inj h₁).2 h₂

theorem firstOp_eq {p q : Prog α} (h : ∀ hw, p.trace hw = q.trace hw) :
    p.firstOp = q.firstOp := by
  rw [← head_trace p ⟨fun _ => 0, fun _ => 0⟩, h, head_trace]

/-- Programs that no hardware can tell apart are the same. -/
theorem eq_of_trace {p q : Prog α} (h : ∀ hw, p.trace hw = q.trace hw) : p = q := by
  induction p generalizing q with
  | done a =>
      have hfirst := firstOp_eq h
      cases q <;> cases hfirst
      exact congrArg done (congrArg Prod.snd (h ⟨fun _ => 0, fun _ => 0⟩))
  | writeCommandPort b next ih =>
      have hfirst := firstOp_eq h
      cases q <;> cases hfirst
      refine congrArg _ (ih fun hw => ?_)
      have hnext := preceded_inj (h (hw.starting 0 0))
      rwa [Hardware.after_starting] at hnext
  | writeDataPort b next ih =>
      have hfirst := firstOp_eq h
      cases q <;> cases hfirst
      refine congrArg _ (ih fun hw => ?_)
      have hnext := preceded_inj (h (hw.starting 0 0))
      rwa [Hardware.after_starting] at hnext
  | readDataPort r next ih =>
      have hfirst := firstOp_eq h
      cases q <;> cases hfirst
      refine congrArg _ (funext fun byte => ih byte fun hw => ?_)
      have hnext := preceded_inj (h (hw.starting byte 0))
      rwa [Hardware.after_starting] at hnext
  | flushDataPort next ih =>
      have hfirst := firstOp_eq h
      cases q <;> cases hfirst
      refine congrArg _ (funext fun n => ih n fun hw => ?_)
      have hnext := preceded_inj (h (hw.starting 0 n))
      rwa [Hardware.after_starting] at hnext
  | sleep ms next ih =>
      have hfirst := firstOp_eq h
      cases q <;> cases hfirst
      refine congrArg _ (ih fun hw => ?_)
      have hnext := preceded_inj (h (hw.starting 0 0))
      rwa [Hardware.after_starting] at hnext
  | ignoreInterrupts next ih =>
      have hfirst := firstOp_eq h
      cases q <;> cases hfirst
      refine congrArg _ (ih fun hw => ?_)
      have hnext := preceded_inj (h (hw.starting 0 0))
      rwa [Hardware.after_starting] at hnext
  | heedInterrupts next ih =>
      have hfirst := firstOp_eq h
      cases q <;> cases hfirst
      refine congrArg _ (ih fun hw => ?_)
      have hnext := preceded_inj (h (hw.starting 0 0))
      rwa [Hardware.after_starting] at hnext

/-- Programs have the same traces exactly when they are the same. -/
theorem trace_eq_iff {p q : Prog α} : (∀ hw, p.trace hw = q.trace hw) ↔ p = q :=
  ⟨eq_of_trace, fun h hw => by rw [h]⟩

end Prog

/-! ### Success of a request -/

/-- `processRequest`, with what the driver finds in `commandsCount`: whether all commands were
executed and none failed. -/
def succeeds (hardwareOffline : Bool) (commands : List PS2Command) : Prog Bool :=
  (processRequest hardwareOffline (.ofCommands commands)).bind fun request =>
    .done (request.commandsCount.toNat == commands.length)

/-- The loop from a mode on, with the outcome only. -/
def outcome (m : Mode) : List PS2Command → Prog Bool
  | [] => .heedInterrupts (.done true)
  | c :: cs =>
      (execCommand m c).bind fun e =>
        if e.failed then .heedInterrupts (.done false) else outcome e.mode cs

theorem Prog.bind_assoc {α β γ : Type} (p : Prog α) (f : α → Prog β) (g : β → Prog γ) :
    (p.bind f).bind g = p.bind fun a => (f a).bind g := by
  induction p with
  | done a => rfl
  | writeCommandPort b next ih => exact congrArg _ ih
  | writeDataPort b next ih => exact congrArg _ ih
  | readDataPort r next ih => exact congrArg _ (funext ih)
  | flushDataPort next ih => exact congrArg _ (funext ih)
  | sleep ms next ih => exact congrArg _ ih
  | ignoreInterrupts next ih => exact congrArg _ ih
  | heedInterrupts next ih => exact congrArg _ ih

/-- The loop as `processRequest` runs it, up to the test that the driver makes. -/
theorem processCommands_bind (n : ℕ) (m : Mode) (index : ℕ) (cs : List PS2Command)
    (h : index + cs.length = n) (hn : n ≤ 255) :
    (processCommands m index cs).bind (fun r =>
        .heedInterrupts (.done (((r.2.map UInt8.ofNat).getD (UInt8.ofNat n)).toNat == n))) =
      outcome m cs := by
  induction cs generalizing m index with
  | nil =>
      have hcount : n < 256 := Nat.lt_succ_of_le hn
      simpa [processCommands, outcome, Prog.bind] using hcount
  | cons c cs ih =>
      rw [List.length_cons] at h
      rw [processCommands, outcome, Prog.bind_eq, Prog.bind_assoc]
      refine congrArg _ (funext fun e => ?_)
      cases he : e.failed with
      | true =>
          have hne : ¬ index % 256 = n := by omega
          simpa [Prog.bind] using hne
      | false =>
          rw [← ih e.mode (index + 1) (by omega)]
          simp [Prog.bind, Prog.bind_assoc]

theorem succeeds_online {commands : List PS2Command} (h : commands.length ≤ 255) :
    succeeds false commands = .ignoreInterrupts (outcome .start commands) := by
  have hcount := toNat_ofNat_of_le h
  rw [← processCommands_bind commands.length .start 0 commands (by simp) h]
  simp [succeeds, processRequest, PS2Request.ofCommands, beginIgnoring, endIgnoring, Prog.bind,
    Prog.bind_assoc, hcount]

theorem succeeds_offline (commands : List PS2Command) :
    succeeds true commands = .done ((0 : UInt8).toNat == commands.length) := rfl

/-! ### The mode -/

/-- The mode after a command; it does not depend on what is read. -/
def Mode.next (m : Mode) (c : PS2Command) : Mode :=
  match c.command with
  | .writeDataPort => if m.transmitToMouse then ⟨.mouse, false⟩ else ⟨.keyboard, false⟩
  | .writeCommandPort =>
      if c.inOrOut = kCPTransmitToMouse then { m with transmitToMouse := true } else m
  | .sendMouseCommandAndCompareAck | .readMouseDataPort | .readMouseDataPortAndCompare =>
      { m with deviceMode := .mouse }
  | _ => m

/-- The command reads the stream that the mode selects. -/
def PS2Command.ReadsMode (c : PS2Command) : Prop :=
  c.command = .readDataPort ∨ c.command = .readDataPortAndCompare

/-- What follows a comparison is seen with the answer that passes it. -/
theorem compare_eq_iff {β : Type} (byte : UInt8) (fail x y : β) :
    ((fun v => if v = byte then x else fail) = fun v => if v = byte then y else fail) ↔ x = y := by
  constructor
  · intro h
    have hb := congrFun h byte
    simpa using hb
  · rintro rfl
    rfl

/-- A command from two modes: the same operations unless it reads different streams, and some
answer lets it pass. -/
theorem execCommand_bind_iff {α : Type} {m m' : Mode} {c : PS2Command}
    (h : c.ReadsMode → m.deviceMode = m'.deviceMode) (fail : Prog α) (f g : Mode → Prog α) :
    ((execCommand m c).bind (fun e => if e.failed then fail else f e.mode) =
        (execCommand m' c).bind fun e => if e.failed then fail else g e.mode) ↔
      f (m.next c) = g (m'.next c) := by
  unfold PS2Command.ReadsMode at h
  unfold execCommand Mode.next
  cases hc : c.command with
  | readDataPort =>
      have hd := h (.inl hc)
      simp [readPort, Prog.bind, hd, funext_iff]
  | readDataPortAndCompare =>
      have hd := h (.inr hc)
      simp [readPortExpecting, Prog.bind, hd, compare_eq_iff]
  | writeDataPort => simp [writeDataPort, Prog.bind]
  | writeCommandPort => simp [writeCommandPort, Prog.bind]
  | sendMouseCommandAndCompareAck =>
      simp [writeCommandPort, writeDataPort, readPortExpecting, Prog.bind, compare_eq_iff]
  | readMouseDataPort => simp [readPort, Prog.bind, funext_iff]
  | readMouseDataPortAndCompare => simp [readPortExpecting, Prog.bind, compare_eq_iff]
  | flushDataPort => simp [flushPort, Prog.bind, funext_iff]
  | sleepMS => simp [ioSleep, Prog.bind]
  | modifyCommandByte => simp [writeCommandPort, readPort, writeDataPort, Prog.bind, funext_iff]

theorem outcome_cons_iff {m m' : Mode} {c : PS2Command}
    (h : c.ReadsMode → m.deviceMode = m'.deviceMode) (cs cs' : List PS2Command) :
    outcome m (c :: cs) = outcome m' (c :: cs') ↔
      outcome (m.next c) cs = outcome (m'.next c) cs' :=
  execCommand_bind_iff h (.heedInterrupts (.done false)) (outcome · cs) (outcome · cs')

/-- A command that reads the stream of the mode tells the two streams apart. -/
theorem outcome_reads_ne {t t' : Bool} {c : PS2Command} (h : c.ReadsMode)
    (cs cs' : List PS2Command) : outcome ⟨.mouse, t⟩ (c :: cs) ≠ outcome ⟨.keyboard, t'⟩ (c :: cs') := by
  intro heq
  have hfirst := congrArg Prog.firstOp heq
  rcases h with h | h
  · simp [outcome, execCommand, h, readPort, Prog.bind, Prog.firstOp] at hfirst
  · simp [outcome, execCommand, h, readPortExpecting, Prog.bind, Prog.firstOp] at hfirst

/-- Two lists that go on differently after the same commands. -/
theorem outcome_append_iff (pre : List PS2Command) (m : Mode) (cs cs' : List PS2Command) :
    outcome m (pre ++ cs) = outcome m (pre ++ cs') ↔
      outcome (pre.foldl Mode.next m) cs = outcome (pre.foldl Mode.next m) cs' := by
  induction pre generalizing m with
  | nil => rfl
  | cons c pre ih => exact (outcome_cons_iff (fun _ => rfl) _ _).trans (ih _)

/-! ### What the rest of a request sees of the mode -/

/-- The stream is read before it is chosen again. -/
def SeesStream : List PS2Command → Prop
  | [] => False
  | c :: cs =>
      match c.command with
      | .readDataPort | .readDataPortAndCompare => True
      | .writeDataPort | .sendMouseCommandAndCompareAck | .readMouseDataPort
      | .readMouseDataPortAndCompare => False
      | _ => SeesStream cs

/-- Something is written to the data port before another transmit to the mouse is prepared, and the
stream is read after it. -/
def SeesTransmit : List PS2Command → Prop
  | [] => False
  | c :: cs =>
      match c.command with
      | .writeDataPort => SeesStream cs
      | .writeCommandPort => c.inOrOut ≠ kCPTransmitToMouse ∧ SeesTransmit cs
      | _ => SeesTransmit cs

theorem outcome_stream_iff (t : Bool) (cs : List PS2Command) :
    outcome ⟨.mouse, t⟩ cs = outcome ⟨.keyboard, t⟩ cs ↔ ¬ SeesStream cs := by
  induction cs generalizing t with
  | nil => exact iff_of_true rfl (fun h => h)
  | cons c cs ih =>
      rw [SeesStream]
      by_cases hr : c.ReadsMode
      · refine iff_of_false (outcome_reads_ne hr cs cs) ?_
        rcases hr with hr | hr <;> simp [hr]
      · rw [outcome_cons_iff (fun h => absurd h hr)]
        unfold PS2Command.ReadsMode at hr
        unfold Mode.next
        cases hc : c.command with
        | readDataPort => exact absurd (.inl hc) hr
        | readDataPortAndCompare => exact absurd (.inr hc) hr
        | writeDataPort => cases t <;> simp
        | writeCommandPort =>
            by_cases hd : c.inOrOut = kCPTransmitToMouse
            · simpa [hd] using ih true
            · simpa [hd] using ih t
        | sendMouseCommandAndCompareAck => simp
        | readMouseDataPort => simp
        | readMouseDataPortAndCompare => simp
        | flushDataPort => exact ih t
        | sleepMS => exact ih t
        | modifyCommandByte => exact ih t

theorem outcome_transmit_iff (d : PS2DeviceType) (cs : List PS2Command) :
    outcome ⟨d, true⟩ cs = outcome ⟨d, false⟩ cs ↔ ¬ SeesTransmit cs := by
  induction cs generalizing d with
  | nil => exact iff_of_true rfl (fun h => h)
  | cons c cs ih =>
      rw [SeesTransmit, @outcome_cons_iff ⟨d, true⟩ ⟨d, false⟩ c (fun _ => rfl)]
      unfold Mode.next
      cases hc : c.command with
      | writeDataPort => simpa using outcome_stream_iff false cs
      | writeCommandPort =>
          by_cases hd : c.inOrOut = kCPTransmitToMouse
          · simp [hd]
          · simpa [hd] using ih d
      | sendMouseCommandAndCompareAck => exact ih .mouse
      | readMouseDataPort => exact ih .mouse
      | readMouseDataPortAndCompare => exact ih .mouse
      | readDataPort => exact ih d
      | readDataPortAndCompare => exact ih d
      | flushDataPort => exact ih d
      | sleepMS => exact ih d
      | modifyCommandByte => exact ih d

/-! ### The composite command and its expansion -/

/-- `kPS2C_SendMouseCommandAndCompareAck(byte)`. -/
def composite (byte : UInt8) : PS2Command := ⟨.sendMouseCommandAndCompareAck, byte, 0, 0, 0⟩

/-- The three commands that it is said to be equivalent to. -/
def expansion (byte : UInt8) : List PS2Command :=
  [⟨.writeCommandPort, kCPTransmitToMouse, 0, 0, 0⟩, ⟨.writeDataPort, byte, 0, 0, 0⟩,
    ⟨.readDataPortAndCompare, kSCAcknowledge, 0, 0, 0⟩]

/-- No hardware can tell the request with the composite command from the one with its expansion. -/
def Equivalent (pre : List PS2Command) (byte : UInt8) (post : List PS2Command) : Prop :=
  ∀ (hardwareOffline : Bool) (hw : Hardware),
    (succeeds hardwareOffline (pre ++ composite byte :: post)).trace hw =
      (succeeds hardwareOffline (pre ++ expansion byte ++ post)).trace hw

/-- After these commands a transmit to the mouse is prepared. -/
def TransmitPrepared (pre : List PS2Command) : Prop :=
  (pre.foldl Mode.next .start).transmitToMouse = true

/-- The composite command leaves the transmit as it was, the expansion uses it up. -/
theorem outcome_composite_iff (m : Mode) (byte : UInt8) (post : List PS2Command) :
    outcome m (composite byte :: post) = outcome m (expansion byte ++ post) ↔
      outcome ⟨.mouse, m.transmitToMouse⟩ post = outcome ⟨.mouse, false⟩ post := by
  simp [composite, expansion, outcome, execCommand, writeCommandPort, writeDataPort,
    readPortExpecting, Prog.bind, PS2Command.inOrOut, compare_eq_iff]

/-- Two requests that a count can hold are the same exactly when their loops are. -/
theorem succeeds_eq_iff {cs cs' : List PS2Command} (h : cs.length ≤ 255) (h' : cs'.length ≤ 255) :
    succeeds false cs = succeeds false cs' ↔ outcome .start cs = outcome .start cs' := by
  rw [succeeds_online h, succeeds_online h', Prog.ignoreInterrupts.injEq]

/-- The composite command is equivalent to its expansion exactly when no transmit to the mouse was
prepared before it, or the rest of the request does not see that. -/
theorem equivalent_iff (pre : List PS2Command) (byte : UInt8) (post : List PS2Command)
    (hlen : pre.length + post.length + 3 ≤ 255) :
    Equivalent pre byte post ↔ ¬ (TransmitPrepared pre ∧ SeesTransmit post) := by
  have hcomposite : (pre ++ composite byte :: post).length ≤ 255 := by
    rw [List.length_append, List.length_cons]
    omega
  have hexpansion : (pre ++ (expansion byte ++ post)).length ≤ 255 := by
    rw [List.length_append, List.length_append, expansion]
    simp only [List.length_cons, List.length_nil]
    omega
  have honline : Equivalent pre byte post ↔
      succeeds false (pre ++ composite byte :: post) =
        succeeds false (pre ++ (expansion byte ++ post)) := by
    unfold Equivalent
    rw [List.append_assoc, ← Prog.trace_eq_iff]
    constructor
    · exact fun h => h false
    · intro h hardwareOffline
      cases hardwareOffline with
      | false => exact h
      | true =>
          intro hw
          have hne : ∀ cs : List PS2Command, cs ≠ [] → succeeds true cs = .done false := by
            intro cs hcs
            have hpos := List.length_pos_iff.mpr hcs
            rw [succeeds_offline, beq_false_of_ne (by simp; omega)]
          rw [hne _ (by simp), hne _ (by simp [expansion])]
  rw [honline, succeeds_eq_iff hcomposite hexpansion, outcome_append_iff, outcome_composite_iff]
  unfold TransmitPrepared
  cases (pre.foldl Mode.next .start).transmitToMouse with
  | false => simp
  | true => simpa using outcome_transmit_iff .mouse post

/-- Resetting the mouse after a prepared transmit: nothing in the rest of the request sees it. -/
theorem equivalent_plain : Equivalent [] 0xff [⟨.readMouseDataPort, 0, 0, 0, 0⟩] := by
  rw [equivalent_iff [] 0xff _ (by decide)]
  rintro ⟨hprep, -⟩
  cases hprep

/-- A transmit prepared before the composite command sends a later read to the other stream. -/
theorem composite_not_equivalent :
    ¬ Equivalent [⟨.writeCommandPort, kCPTransmitToMouse, 0, 0, 0⟩] 0xf4
      [⟨.writeDataPort, 0xee, 0, 0, 0⟩, ⟨.readDataPort, 0, 0, 0, 0⟩] := by
  intro h
  have htrace := h false ⟨fun _ => kSCAcknowledge, fun _ => 0⟩
  revert htrace
  decide

end VoodooPS2.Controller
