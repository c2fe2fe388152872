import VoodooPS2.Controller.Live

/-! # Requests as conversations with a mouse

The drivers of pointing devices build their requests of a few kinds of commands: a byte is sent to the
mouse and its acknowledge awaited, in one command or in three, and what else the mouse has said is read.
The lemmas here say what each of them makes of a conversation, so that a request is followed from one
command to the next, and that of a list of bytes the mouse sees those up to the first that it does not
acknowledge. -/

namespace VoodooPS2.Controller

open Dialogue

/-! ### The stream that a request reads -/

/-- The mode after a command does not depend on what is read. -/
def modeAfter (m : Mode) (c : PS2Command) : Mode :=
  match c.command with
  | .writeDataPort => if m.transmitToMouse then ⟨.mouse, false⟩ else ⟨.keyboard, false⟩
  | .writeCommandPort =>
      if c.inOrOut = kCPTransmitToMouse then { m with transmitToMouse := true } else m
  | .sendMouseCommandAndCompareAck | .readMouseDataPort | .readMouseDataPortAndCompare =>
      { m with deviceMode := .mouse }
  | _ => m

/-- The commands read one stream only, and flush nothing.  The device at the other end of that stream is all
that `live` knows of: what is asked of the controller itself, as by `kPS2C_ModifyCommandByte` on the
keyboard's stream, gets no answer there (`Controller/CommandByte.lean` has the controller that answers). -/
def ReadsOnly (t : PS2DeviceType) : Mode → List PS2Command → Prop
  | _, [] => True
  | m, c :: cs =>
      (match c.command with
        | .readDataPort | .readDataPortAndCompare => m.deviceMode = t
        | .sendMouseCommandAndCompareAck | .readMouseDataPort | .readMouseDataPortAndCompare =>
            t = .mouse
        | .modifyCommandByte => t = .keyboard
        | .flushDataPort => False
        | _ => True) ∧ ReadsOnly t (modeAfter m c) cs

section

variable {α β : Type} {t : PS2DeviceType}

/-- Every value that the program may return has the property. -/
def Prog.Returns (P : α → Prop) : Prog α → Prop
  | .done a => P a
  | .writeCommandPort _ next => next.Returns P
  | .writeDataPort _ next => next.Returns P
  | .readDataPort _ next => ∀ v, (next v).Returns P
  | .flushDataPort next => ∀ n, (next n).Returns P
  | .sleep _ next => next.Returns P
  | .ignoreInterrupts next => next.Returns P
  | .heedInterrupts next => next.Returns P

theorem Prog.OnStream.bind {P : α → Prop} {p : Prog α} {f : α → Prog β} (hp : p.OnStream t)
    (hreturns : p.Returns P) (hf : ∀ a, P a → (f a).OnStream t) : (p.bind f).OnStream t := by
  induction p with
  | done a => exact hf a hreturns
  | writeCommandPort b next ih => exact ih hp hreturns
  | writeDataPort b next ih => exact ih hp hreturns
  | readDataPort r next ih => exact ⟨hp.1, fun v => ih v (hp.2 v) (hreturns v)⟩
  | flushDataPort next ih => exact hp.elim
  | sleep ms next ih => exact ih hp hreturns
  | ignoreInterrupts next ih => exact ih hp hreturns
  | heedInterrupts next ih => exact ih hp hreturns

theorem Prog.returns_true (p : Prog α) : p.Returns fun _ => True := by
  induction p with
  | done a => exact trivial
  | writeCommandPort b next ih => exact ih
  | writeDataPort b next ih => exact ih
  | readDataPort r next ih => exact ih
  | flushDataPort next ih => exact ih
  | sleep ms next ih => exact ih
  | ignoreInterrupts next ih => exact ih
  | heedInterrupts next ih => exact ih

theorem onStream_bind {p : Prog α} {f : α → Prog β} (hp : p.OnStream t)
    (hf : ∀ a, (f a).OnStream t) : (p.bind f).OnStream t :=
  hp.bind (Prog.returns_true p) fun a _ => hf a

theorem returns_execCommand (m : Mode) (c : PS2Command) :
    (execCommand m c).Returns fun e => e.mode = modeAfter m c := by
  unfold execCommand modeAfter
  cases c.command <;>
    simp [Prog.bind, Prog.Returns, readPort, readPortExpecting, writeDataPort, writeCommandPort,
      flushPort, ioSleep]

theorem onStream_processCommands (cs : List PS2Command) {m : Mode} (h : ReadsOnly t m cs) (i : ℕ) :
    (processCommands m i cs).OnStream t := by
  induction cs generalizing m i with
  | nil => exact trivial
  | cons c cs ih =>
      obtain ⟨hc, hcs⟩ := h
      have hcommand : (execCommand m c).OnStream t := by
        unfold execCommand
        cases hcommand : c.command <;> rw [hcommand] at hc <;>
          simp_all [Prog.bind, Prog.OnStream, readPort, readPortExpecting, writeDataPort,
            writeCommandPort, ioSleep]
      refine hcommand.bind (returns_execCommand m c) fun e he => ?_
      dsimp only
      split
      · exact trivial
      · rw [he]
        exact (ih hcs (i + 1)).bind (Prog.returns_true _) fun _ _ => trivial

theorem onStream_processRequest {cs : List PS2Command} (hlen : cs.length ≤ 255)
    (h : ReadsOnly t .start cs) (offline : Bool) :
    (processRequest offline (.ofCommands cs)).OnStream t := by
  have hcount := toNat_ofNat_of_le hlen
  cases offline with
  | true => exact trivial
  | false =>
      have hloop : (processCommands .start 0 (cs.take (UInt8.ofNat cs.length).toNat)).OnStream t := by
        rw [hcount, List.take_length]
        exact onStream_processCommands cs h 0
      exact hloop.bind (Prog.returns_true _) fun _ _ => trivial

/-- **A request is not disturbed by the other stream.**  The commands that read one stream only come out as
if the device of that stream were alone with the controller: the same count of commands, the same bytes in
the commands, the same bytes left over.  Meanwhile every byte of the other stream is handed to its driver,
once and in order. -/
theorem request_refines {σ : Type} (D : Device σ UInt8) {traffic : ℕ → List Poll}
    (ht : Harmless t traffic) {cs : List PS2Command} (hlen : cs.length ≤ 255)
    (hcs : ReadsOnly t .start cs) (offline : Bool) {n : ℕ} {l : Line σ} {w : Talk σ}
    (hl : Carries t traffic n l w) :
    Refines t traffic n (live t D traffic (processRequest offline (.ofCommands cs)) l)
      (converse t D (processRequest offline (.ofCommands cs)) w) :=
  live_refines D ht _ (onStream_processRequest hlen hcs offline) hl

/-- Somebody types while a mouse that says `3` and then `100` is asked for both. -/
theorem request_refines_typing :
    let D : Device ℕ UInt8 := ⟨fun s _ => s + 1, fun _ _ => [kSCAcknowledge, 3, 100]⟩
    let cs : List PS2Command := [⟨.sendMouseCommandAndCompareAck, kDPGetMouseInformation, 0, 0, 0⟩,
      ⟨.readDataPort, 0, 0, 0, 0⟩, ⟨.readMouseDataPort, 0, 0, 0, 0⟩]
    Refines .mouse typing 0 (live .mouse D typing (processRequest false (.ofCommands cs)) (.idle 0 0))
      (converse .mouse D (processRequest false (.ofCommands cs)) (.idle 0)) := by
  intro D cs
  have hcs : ReadsOnly .mouse .start cs := And.intro rfl ⟨rfl, rfl, trivial⟩
  exact request_refines D harmless_typing (Nat.le_of_ble_eq_true rfl) hcs false (carries_idle 0 0)

end

/-! ### Programs that find the hardware offline -/

/-- The program does nothing at the ports, and has the result. -/
def Prog.Idles {α : Type} : Prog α → α → Prop
  | .done b, a => b = a
  | .sleep _ next, a => next.Idles a
  | _, _ => False

theorem Prog.Idles.bind {α β : Type} {p : Prog α} {a : α} {f : α → Prog β} {b : β} (hp : p.Idles a)
    (hf : (f a).Idles b) : (p.bind f).Idles b := by
  induction p with
  | done a' =>
      obtain rfl : a' = a := hp
      exact hf
  | sleep ms next ih => exact ih hp
  | writeCommandPort b next ih => exact hp.elim
  | writeDataPort b next ih => exact hp.elim
  | readDataPort r next ih => exact hp.elim
  | flushDataPort next ih => exact hp.elim
  | ignoreInterrupts next ih => exact hp.elim
  | heedInterrupts next ih => exact hp.elim

theorem Prog.Idles.live {σ α : Type} {p : Prog α} {a : α} (hp : p.Idles a) (t : PS2DeviceType)
    (D : Device σ UInt8) (traffic : ℕ → List Poll) (l : Line σ) :
    Controller.live t D traffic p l = ⟨a, l, []⟩ := by
  induction p with
  | done a' =>
      obtain rfl : a' = a := hp
      rfl
  | sleep ms next ih => exact ih hp
  | writeCommandPort b next ih => exact hp.elim
  | writeDataPort b next ih => exact hp.elim
  | readDataPort r next ih => exact hp.elim
  | flushDataPort next ih => exact hp.elim
  | ignoreInterrupts next ih => exact hp.elim
  | heedInterrupts next ih => exact hp.elim

/-! ### Programs that leave nothing under way -/

section

variable {σ α β : Type} {t : PS2DeviceType} {D : Device σ UInt8} {s s' s'' : σ}

/-- With the device alone the program has the result, and leaves the device in the state, with nothing
under way. -/
def Leaves (t : PS2DeviceType) (D : Device σ UInt8) (s : σ) (p : Prog α) (a : α) (s' : σ) : Prop :=
  converse t D p (.idle s) = ⟨a, .idle s', []⟩

theorem Leaves.bind {p : Prog α} {a : α} {f : α → Prog β} {b : β} (h : Leaves t D s p a s')
    (h' : Leaves t D s' (f a) b s'') : Leaves t D s (p.bind f) b s'' := by
  rw [Leaves, converse_bind, h]
  dsimp only
  rw [h']
  rfl

theorem leaves_pure (a : α) (s : σ) : Leaves t D s (pure a) a s := rfl

end

/-! ### The commands of the drivers -/

/-- `kPS2C_SendMouseCommandAndCompareAck`. -/
def sendMouse (byte : UInt8) : PS2Command := ⟨.sendMouseCommandAndCompareAck, byte, 0, 0, 0⟩

/-- `kPS2C_ReadDataPort`. -/
def readData : PS2Command := ⟨.readDataPort, 0, 0, 0, 0⟩

/-- `kCP_TransmitToMouse`, and the byte. -/
def transmitMouse (byte : UInt8) : List PS2Command :=
  [⟨.writeCommandPort, kCPTransmitToMouse, 0, 0, 0⟩, ⟨.writeDataPort, byte, 0, 0, 0⟩]

/-- `kPS2C_ReadDataPortAndCompare` with the acknowledge. -/
def compareAck : PS2Command := ⟨.readDataPortAndCompare, kSCAcknowledge, 0, 0, 0⟩

/-- What has been read into a command. -/
def readInto (byte : UInt8) : PS2Command := readData.setInOrOut byte

section

variable {σ : Type} (D : Device σ UInt8)

/-- The byte that is compared with the acknowledge, out of those that have come. -/
def hearAck (bs : List UInt8) : Heard :=
  hear (.expecting .mouse kSCAcknowledge timeoutBudget none) bs

theorem hearAck_cons (bs : List UInt8) :
    hearAck (kSCAcknowledge :: bs) = ⟨some kSCAcknowledge, [], bs⟩ := by
  rw [hearAck, hear_expecting_cons _ _ _ timeoutBudget, if_pos rfl]

/-- One byte that was not read earlier does no harm. -/
theorem hearAck_stray {b : UInt8} (hb : b ≠ kSCAcknowledge) (bs : List UInt8) :
    hearAck (b :: kSCAcknowledge :: bs) = ⟨some kSCAcknowledge, [b], bs⟩ := by
  rw [hearAck, hear, if_neg hb, if_pos rfl]

/-- A run of the loop, with commands before it. -/
def Conversation.behind (done : List PS2Command)
    (c : Conversation σ (List PS2Command × Option ℕ)) :
    Conversation σ (List PS2Command × Option ℕ) := c.map fun v => (done ++ v.1, v.2)

theorem behind_behind (xs ys : List PS2Command)
    (c : Conversation σ (List PS2Command × Option ℕ)) :
    (c.behind ys).behind xs = c.behind (xs ++ ys) := by
  simp [Conversation.behind, Conversation.map]

theorem behind_after (xs : List PS2Command) (c : Conversation σ (List PS2Command × Option ℕ))
    (bs : List UInt8) : (c.after bs).behind xs = (c.behind xs).after bs := rfl

/-- A command that does not fail, and the rest of the loop. -/
theorem converse_passed {t : PS2DeviceType} {m m' : Mode} {c c' : PS2Command} {w w' : Talk σ}
    {bs : List UInt8}
    (h : converse t D (execCommand m c) w = ⟨⟨m', c', false⟩, w', bs⟩) (i : ℕ)
    (cs : List PS2Command) :
    converse t D (processCommands m i (c :: cs)) w =
      ((converse t D (processCommands m' (i + 1) cs) w').behind [c']).after bs := by
  rw [processCommands, Prog.bind_eq, converse_bind, h]
  dsimp only
  rw [if_neg (Bool.false_ne_true), Prog.bind_eq, converse_bind]
  simp [converse, Conversation.behind, Conversation.map, Conversation.after]

/-- A command that fails. -/
theorem converse_failed {t : PS2DeviceType} {m m' : Mode} {c c' : PS2Command} {w w' : Talk σ}
    {bs : List UInt8}
    (h : converse t D (execCommand m c) w = ⟨⟨m', c', true⟩, w', bs⟩) (i : ℕ)
    (cs : List PS2Command) :
    converse t D (processCommands m i (c :: cs)) w = ⟨(c' :: cs, some i), w', bs⟩ := by
  rw [processCommands, Prog.bind_eq, converse_bind, h]
  simp [converse, Conversation.after]

theorem converse_sendMouse (m : Mode) (s : σ) (bs : List UInt8) (b : UInt8) :
    converse .mouse D (execCommand m (sendMouse b)) ⟨s, none, bs⟩ =
      ⟨⟨{ m with deviceMode := .mouse }, sendMouse b,
          (hearAck (bs ++ D.answer s b)).returned.getD 0 != kSCAcknowledge⟩,
        ⟨D.step s b, none, (hearAck (bs ++ D.answer s b)).left⟩,
        (hearAck (bs ++ D.answer s b)).strays⟩ := by
  simp [execCommand, sendMouse, writeCommandPort, writeDataPort, readPortExpecting, Prog.bind,
    converse, Talk.data, addressee, hearAck, Conversation.after, PS2Command.inOrOut]

/-- A byte is sent and acknowledged. -/
theorem converse_send {s : σ} {bs strays left : List UInt8} {b : UInt8}
    (h : hearAck (bs ++ D.answer s b) = ⟨some kSCAcknowledge, strays, left⟩) (m : Mode) (i : ℕ)
    (cs : List PS2Command) :
    converse .mouse D (processCommands m i (sendMouse b :: cs)) ⟨s, none, bs⟩ =
      ((converse .mouse D (processCommands { m with deviceMode := .mouse } (i + 1) cs)
        ⟨D.step s b, none, left⟩).behind [sendMouse b]).after strays := by
  refine converse_passed D ?_ i cs
  rw [converse_sendMouse, h]
  rfl

/-- The same with a command for the port, one for the byte, and one for the acknowledge. -/
theorem converse_transmit {s : σ} {bs strays left : List UInt8} {b : UInt8}
    (h : hearAck (bs ++ D.answer s b) = ⟨some kSCAcknowledge, strays, left⟩) (m : Mode) (i : ℕ)
    (cs : List PS2Command) :
    converse .mouse D (processCommands m i (transmitMouse b ++ compareAck :: cs)) ⟨s, none, bs⟩ =
      ((converse .mouse D (processCommands ⟨.mouse, false⟩ (i + 3) cs)
        ⟨D.step s b, none, left⟩).behind (transmitMouse b ++ [compareAck])).after strays := by
  have hcommand : converse .mouse D (execCommand m ⟨.writeCommandPort, kCPTransmitToMouse, 0, 0, 0⟩)
      ⟨s, none, bs⟩ = ⟨⟨{ m with transmitToMouse := true },
        ⟨.writeCommandPort, kCPTransmitToMouse, 0, 0, 0⟩, false⟩,
          ⟨s, some kCPTransmitToMouse, bs⟩, []⟩ := by
    simp [execCommand, writeCommandPort, Prog.bind, converse, PS2Command.inOrOut]
  have hdata : converse .mouse D
      (execCommand { m with transmitToMouse := true } ⟨.writeDataPort, b, 0, 0, 0⟩)
      ⟨s, some kCPTransmitToMouse, bs⟩ = ⟨⟨⟨.mouse, false⟩, ⟨.writeDataPort, b, 0, 0, 0⟩, false⟩,
        ⟨D.step s b, none, bs ++ D.answer s b⟩, []⟩ := by
    simp [execCommand, writeDataPort, Prog.bind, converse, PS2Command.inOrOut, Talk.data, addressee]
  have hcompare : converse .mouse D (execCommand ⟨.mouse, false⟩ compareAck)
      ⟨D.step s b, none, bs ++ D.answer s b⟩ =
        ⟨⟨⟨.mouse, false⟩, compareAck, false⟩, ⟨D.step s b, none, left⟩, strays⟩ := by
    have h' : hear (.expecting .mouse kSCAcknowledge timeoutBudget none) (bs ++ D.answer s b) =
      ⟨some kSCAcknowledge, strays, left⟩ := h
    simp [execCommand, compareAck, readPortExpecting, Prog.bind, converse, PS2Command.inOrOut,
      PS2Command.setInOrOut, h', Conversation.after]
  change converse .mouse D (processCommands m i (_ :: _ :: compareAck :: cs)) _ = _
  rw [converse_passed D hcommand, converse_passed D hdata, converse_passed D hcompare]
  simp only [Conversation.after_nil, behind_after, behind_behind]
  rfl

/-- A byte is sent and nothing read. -/
theorem converse_write (m : Mode) (i : ℕ) (s : σ) (bs : List UInt8) (b : UInt8)
    (cs : List PS2Command) :
    converse .mouse D (processCommands m i (transmitMouse b ++ cs)) ⟨s, none, bs⟩ =
      (converse .mouse D (processCommands ⟨.mouse, false⟩ (i + 2) cs)
        ⟨D.step s b, none, bs ++ D.answer s b⟩).behind (transmitMouse b) := by
  have hcommand : converse .mouse D (execCommand m ⟨.writeCommandPort, kCPTransmitToMouse, 0, 0, 0⟩)
      ⟨s, none, bs⟩ = ⟨⟨{ m with transmitToMouse := true },
        ⟨.writeCommandPort, kCPTransmitToMouse, 0, 0, 0⟩, false⟩,
          ⟨s, some kCPTransmitToMouse, bs⟩, []⟩ := by
    simp [execCommand, writeCommandPort, Prog.bind, converse, PS2Command.inOrOut]
  have hdata : converse .mouse D
      (execCommand { m with transmitToMouse := true } ⟨.writeDataPort, b, 0, 0, 0⟩)
      ⟨s, some kCPTransmitToMouse, bs⟩ = ⟨⟨⟨.mouse, false⟩, ⟨.writeDataPort, b, 0, 0, 0⟩, false⟩,
        ⟨D.step s b, none, bs ++ D.answer s b⟩, []⟩ := by
    simp [execCommand, writeDataPort, Prog.bind, converse, PS2Command.inOrOut, Talk.data, addressee]
  change converse .mouse D (processCommands m i (_ :: _ :: cs)) _ = _
  rw [converse_passed D hcommand, converse_passed D hdata]
  simp only [Conversation.after_nil, behind_behind]
  rfl

/-! ### Lists of bytes -/

/-- The bytes are read one after the other. -/
theorem converse_reads (vs ws : List UInt8) (s : σ) (prepared : Bool) (i : ℕ)
    (cs : List PS2Command) :
    converse .mouse D (processCommands ⟨.mouse, prepared⟩ i (vs.map (fun _ => readData) ++ cs))
        ⟨s, none, vs ++ ws⟩ =
      (converse .mouse D (processCommands ⟨.mouse, prepared⟩ (i + vs.length) cs)
        ⟨s, none, ws⟩).behind (vs.map readInto) := by
  induction vs generalizing i with
  | nil => rfl
  | cons v vs ih =>
      have hread : converse .mouse D (execCommand ⟨.mouse, prepared⟩ readData)
          ⟨s, none, v :: (vs ++ ws)⟩ =
            ⟨⟨⟨.mouse, prepared⟩, readInto v, false⟩, ⟨s, none, vs ++ ws⟩, []⟩ := by
        simp [execCommand, readData, readInto, readPort, Prog.bind, converse, hear,
          Conversation.after]
      rw [List.map_cons, List.cons_append, List.cons_append, converse_passed D hread,
        Conversation.after_nil, ih (i + 1), behind_behind, List.length_cons]
      congr 3
      omega

/-- Bytes that are all acknowledged, and the rest of the request. -/
theorem converse_sends (b : UInt8) (bs : List UInt8) {s : σ}
    (h : D.Acks kSCAcknowledge s (b :: bs)) (m : Mode) (i : ℕ) (cs : List PS2Command) :
    converse .mouse D (processCommands m i ((b :: bs).map sendMouse ++ cs)) (.idle s) =
      (converse .mouse D (processCommands { m with deviceMode := .mouse } (i + (bs.length + 1)) cs)
        (.idle (D.after s (b :: bs)))).behind ((b :: bs).map sendMouse) := by
  induction bs generalizing b s m i with
  | nil =>
      have hack : hearAck ([] ++ D.answer s b) = ⟨some kSCAcknowledge, [], []⟩ := by
        rw [List.nil_append, h.1]
        exact hearAck_cons []
      exact converse_send D hack m i cs
  | cons c bs ih =>
      have hack : hearAck ([] ++ D.answer s b) = ⟨some kSCAcknowledge, [], []⟩ := by
        rw [List.nil_append, h.1]
        exact hearAck_cons []
      rw [List.map_cons, List.cons_append, Talk.idle, converse_send D hack]
      rw [← Talk.idle, ih c h.2, behind_behind, Conversation.after_nil, List.length_cons]
      congr 3
      omega

/-- Bytes that are all acknowledged, one that is answered by more than that, the reads of the rest of the
answer, and the rest of the request. -/
theorem converse_query (b : UInt8) (bs : List UInt8) {s : σ}
    (h : D.Acks kSCAcknowledge s (b :: bs)) {c : UInt8} {vs : List UInt8}
    (hc : D.answer (D.after s (b :: bs)) c = kSCAcknowledge :: vs) (m : Mode) (i : ℕ)
    (cs : List PS2Command) :
    converse .mouse D (processCommands m i ((b :: bs).map sendMouse ++
        sendMouse c :: (vs.map (fun _ => readData) ++ cs))) (.idle s) =
      (converse .mouse D
        (processCommands { m with deviceMode := .mouse } (i + (bs.length + 1) + 1 + vs.length) cs)
        (.idle (D.step (D.after s (b :: bs)) c))).behind
          ((b :: bs).map sendMouse ++ sendMouse c :: vs.map readInto) := by
  have hheard : hearAck ([] ++ D.answer (D.after s (b :: bs)) c) =
      ⟨some kSCAcknowledge, [], vs⟩ := by
    rw [List.nil_append, hc]
    exact hearAck_cons vs
  have hreads := converse_reads D vs [] (D.step (D.after s (b :: bs)) c) m.transmitToMouse
    (i + (bs.length + 1) + 1) cs
  rw [List.append_nil] at hreads
  rw [converse_sends D b bs h, Talk.idle, converse_send D hheard, Conversation.after_nil, hreads,
    behind_behind, behind_behind, List.append_assoc]
  rfl

/-- Along the bytes the device acknowledges or says nothing. -/
def Terse : σ → List UInt8 → Prop
  | _, [] => True
  | s, b :: bs =>
      (D.answer s b = [kSCAcknowledge] ∨ D.answer s b = []) ∧
        (D.answer s b = [kSCAcknowledge] → Terse (D.step s b) bs)

/-- **A list of bytes ends at the first that is not acknowledged**: the request reports its index, and
the device has seen the bytes up to it and no more. -/
theorem converse_all_sends (bs : List UInt8) {s : σ} (h : Terse D s bs) (m : Mode) (i : ℕ) :
    converse .mouse D (processCommands m i (bs.map sendMouse)) (.idle s) =
      let n := D.accepted kSCAcknowledge s bs
      ⟨(bs.map sendMouse, if n = bs.length then none else some (i + n)),
        .idle (D.after s (bs.take (n + 1))), []⟩ := by
  induction bs generalizing s m i with
  | nil => rfl
  | cons b bs ih =>
      obtain ⟨hanswer, hrest⟩ := h
      by_cases hack : D.answer s b = [kSCAcknowledge]
      · have hheard : hearAck ([] ++ D.answer s b) = ⟨some kSCAcknowledge, [], []⟩ := by
          rw [List.nil_append, hack]
          exact hearAck_cons []
        have hih := ih (hrest hack) { m with deviceMode := .mouse } (i + 1)
        rw [List.map_cons, Talk.idle, converse_send D hheard, Conversation.after_nil,
          Device.accepted, if_pos hack, ← Talk.idle, hih]
        dsimp only
        rw [List.take_succ_cons, Device.after_cons, List.length_cons]
        simp only [Conversation.behind, Conversation.map, Nat.succ_inj, List.cons_append,
          List.nil_append, Nat.add_assoc, Nat.add_comm 1]
      · have hnone : D.answer s b = [] := hanswer.resolve_left hack
        have hfails : converse .mouse D (execCommand m (sendMouse b)) (.idle s) =
            ⟨⟨{ m with deviceMode := .mouse }, sendMouse b, true⟩, .idle (D.step s b), []⟩ := by
          rw [Talk.idle, converse_sendMouse, List.nil_append, hnone]
          rfl
        rw [List.map_cons, converse_failed D hfails, Device.accepted, if_neg hack]
        simp [Talk.idle]

/-! ### Requests -/

theorem converse_processRequest (t : PS2DeviceType) {cs : List PS2Command}
    (hlen : cs.length ≤ 255) (w : Talk σ) :
    converse t D (processRequest false (.ofCommands cs)) w =
      (converse t D (processCommands .start 0 cs) w).map fun v =>
        ⟨(v.2.map UInt8.ofNat).getD (UInt8.ofNat cs.length), v.1⟩ := by
  have hcount := toNat_ofNat_of_le hlen
  simp [processRequest, PS2Request.ofCommands, beginIgnoring, endIgnoring, converse, Prog.bind,
    converse_bind, hcount, Conversation.map, Conversation.after]

end

end VoodooPS2.Controller
