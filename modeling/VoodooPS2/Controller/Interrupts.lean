import VoodooPS2.Lib.Transition
import VoodooPS2.Controller.CommandByte

/-! # Interrupts against gated port work

The output buffer of the 8042 holds one byte.  When it becomes full the controller raises one
edge on the interrupt line of the byte's stream, and no other until the data port has been
read.  The interrupt handlers of the driver return without reading while `_ignoreInterrupts`
is set; otherwise `handleInterrupt` reads until the buffer is empty.  Gated work
(`processRequest`, `setCommandByteGated`) sets `_ignoreInterrupts` and polls the ports itself,
for as many bytes as its commands ask for.

`Machine` is the whole of it, one port access or one test of `_ignoreInterrupts` at a time, for
any interleaving of devices, the two handlers and gated work.  The hardware is online and both
drivers' interrupt actions are installed throughout.

`no_stranded_byte`: in every run in which gated work stops ignoring interrupts only after the
byte whose interrupt was ignored has been read, a full output buffer of a machine at rest has
its interrupt still pending.  `stranded_byte_reachable` is a run of a keyboard request, as the
driver sends it, that leaves a key byte behind. -/

namespace VoodooPS2.Controller

/-- An interrupt handler, by what it does next. -/
inductive HandlerPhase where
  | idle
  /-- called; about to look at `_ignoreInterrupts` -/
  | entered
  /-- in the loop of `handleInterrupt`, about to read the status port -/
  | atStatus
  /-- the status port showed a byte of this stream; about to read the data port -/
  | atData (stream : PS2DeviceType)
  /-- out of the loop, about to wake the work loop and return -/
  | leaving
deriving DecidableEq, Repr

/-- The gated operation in progress, by what it does next. -/
inductive GatedPhase where
  | idle
  | running (p : Prog Unit)
  /-- in `readDataPort`, with a byte of this stream ready -/
  | readData (stream : PS2DeviceType) (r : Reader) (next : UInt8 → Prog Unit)
  /-- in a flush that has taken `count` bytes -/
  | flushStatus (count : ℕ) (next : ℕ → Prog Unit)
  | flushData (count : ℕ) (next : ℕ → Prog Unit)

def GatedPhase.isIdle : GatedPhase → Bool
  | idle => true
  | _ => false

/-- The 8042's output buffer, the interrupt lines, the driver's counter and what is running.
`swallowed` remembers that the interrupt of the byte in the buffer was taken by a handler that
ignored it. -/
structure Machine where
  full : Bool
  stream : PS2DeviceType
  data : UInt8
  pending : PS2DeviceType → Bool
  ignoreInterrupts : ℕ
  handler : PS2DeviceType → HandlerPhase
  gated : GatedPhase
  swallowed : Bool

/-- Gated work: a request, or a change of the command byte. -/
inductive GatedWork where
  | request (r : PS2Request)
  | setCommandByte (setBits clearBits : UInt8)

def GatedWork.prog : GatedWork → Prog Unit
  | request r => do
      let _ ← processRequest false r
      return ()
  | setCommandByte setBits clearBits => do
      let _ ← setCommandByteGated setBits clearBits
      return ()

/-- What can happen next. -/
inductive Action where
  /-- a device byte, or an answer of the controller, enters the empty output buffer -/
  | arrive (stream : PS2DeviceType) (data : UInt8)
  /-- a pending interrupt is delivered -/
  | deliver (line : PS2DeviceType)
  /-- a handler takes its next step -/
  | handlerStep (line : PS2DeviceType)
  /-- the gate admits an operation -/
  | start (w : GatedWork)
  /-- the gated operation takes its next step -/
  | gatedStep

namespace Machine

/-- `inb(kDataPort)`. -/
def readData (m : Machine) : Machine := { m with full := false, swallowed := false }

def setHandler (m : Machine) (line : PS2DeviceType) (h : HandlerPhase) : Machine :=
  { m with handler := Function.update m.handler line h }

def setGated (m : Machine) (g : GatedPhase) : Machine := { m with gated := g }

/-- The turn a poll of `readDataPort` leads to. -/
def afterTurn (next : UInt8 → Prog Unit) : Turn → GatedPhase
  | .again r => .running (.readDataPort r next)
  | .finish v => .running (next (v.getD 0))

/-- A handler's next step. -/
def handlerStep (m : Machine) (line : PS2DeviceType) : Option Machine :=
  match m.handler line with
  | .idle => none
  | .entered =>
      if m.ignoreInterrupts ≠ 0 then
        some { m.setHandler line .idle with
          swallowed := m.swallowed || (m.full && m.stream == line && !m.pending line) }
      else some (m.setHandler line .atStatus)
  | .atStatus => some (m.setHandler line (if m.full then .atData m.stream else .leaving))
  | .atData _ => some (m.readData.setHandler line .atStatus)
  | .leaving => some (m.setHandler line .idle)

/-- The next step of the gated operation. -/
def gatedStep (m : Machine) : Option Machine :=
  match m.gated with
  | .idle => none
  | .running (.done _) => some (m.setGated .idle)
  | .running (.writeCommandPort _ p) => some (m.setGated (.running p))
  | .running (.writeDataPort _ p) => some (m.setGated (.running p))
  | .running (.sleep _ p) => some (m.setGated (.running p))
  | .running (.ignoreInterrupts p) =>
      some { m.setGated (.running p) with ignoreInterrupts := m.ignoreInterrupts + 1 }
  | .running (.heedInterrupts p) =>
      some { m.setGated (.running p) with ignoreInterrupts := m.ignoreInterrupts - 1 }
  | .running (.readDataPort r next) =>
      if m.full then some (m.setGated (.readData m.stream r next))
      else some (m.setGated (afterTurn next r.onMiss))
  | .readData s r next =>
      some (m.readData.setGated (afterTurn next (r.onByte .normal s m.data).1))
  | .running (.flushDataPort next) => some (m.setGated (.flushStatus 0 next))
  | .flushStatus n next =>
      if m.full then some (m.setGated (.flushData n next))
      else some (m.setGated (.running (next n)))
  | .flushData n next => some (m.readData.setGated (.flushStatus (n + 1) next))

def step (m : Machine) : Action → Option Machine
  | .arrive s b =>
      if m.full then none
      else some { m with
        full := true
        stream := s
        data := b
        pending := Function.update m.pending s true
        swallowed := false }
  | .deliver line =>
      if m.pending line ∧ m.handler line = .idle then
        some { m.setHandler line .entered with pending := Function.update m.pending line false }
      else none
  | .handlerStep line => m.handlerStep line
  | .start w => if m.gated.isIdle then some (m.setGated (.running w.prog)) else none
  | .gatedStep => m.gatedStep

/-- The driver loaded and nothing going on. -/
def initial : Machine :=
  ⟨false, .keyboard, 0, fun _ => false, 0, fun _ => .idle, .idle, false⟩

/-- No handler and no gated operation is in progress and interrupts are not ignored. -/
def AtRest (m : Machine) : Prop :=
  m.ignoreInterrupts = 0 ∧ m.handler .keyboard = .idle ∧ m.handler .mouse = .idle ∧
    m.gated.isIdle = true

instance (m : Machine) : Decidable (AtRest m) := inferInstanceAs (Decidable (_ ∧ _))

/-- The operation is about to stop ignoring interrupts. -/
def stopsIgnoring (m : Machine) : Bool :=
  match m.gated with
  | .running (.heedInterrupts _) => true
  | _ => false

/-- Gated work stops ignoring interrupts only when no byte whose interrupt was ignored is left
in the buffer. -/
def ReadsWhatItIgnored (m : Machine) : Action → Prop
  | .gatedStep => m.stopsIgnoring = true → m.swallowed = false
  | _ => True

instance (m : Machine) (a : Action) : Decidable (ReadsWhatItIgnored m a) :=
  match a with
  | .gatedStep => inferInstanceAs (Decidable (_ → _))
  | .arrive _ _ => isTrue trivial
  | .deliver _ => isTrue trivial
  | .handlerStep _ => isTrue trivial
  | .start _ => isTrue trivial

/-! ### The byte in the buffer is somebody's business -/

/-- Somebody will look at the byte whose interrupt is no longer pending: the handler called
for it, a handler in its loop, or the gated work that made a handler ignore it. -/
def Due (m : Machine) : Prop :=
  m.handler m.stream = .entered ∨
    (∃ line, m.handler line = .atStatus ∨ ∃ s, m.handler line = .atData s) ∨
    (m.swallowed = true ∧ m.ignoreInterrupts ≠ 0)

/-- The invariant: a byte is in the buffer only with its interrupt pending or with somebody due
to read it. -/
def Tended (m : Machine) : Prop := m.full = true → m.pending m.stream = false → m.Due

theorem tended_initial : Tended initial := fun h => absurd h Bool.false_ne_true

/-- After the data port was read the buffer is empty. -/
theorem tended_of_empty {m : Machine} (h : m.full = false) : Tended m := by
  intro hf
  rw [h] at hf
  exact absurd hf Bool.false_ne_true

/-- Gated work that leaves buffer, lines and handlers alone keeps the byte tended, as long as
it does not stop ignoring interrupts. -/
theorem Tended.setGated {m : Machine} (h : Tended m) (g : GatedPhase) : Tended (m.setGated g) := h

theorem Tended.arrive {m m' : Machine} {s : PS2DeviceType} {b : UInt8}
    (hs : step m (.arrive s b) = some m') : Tended m' := by
  simp only [step] at hs
  split_ifs at hs
  cases hs
  intro _ hp
  simp at hp

/-- The loop of another handler goes on. -/
theorem looping_setHandler {m : Machine} {line : PS2DeviceType} (phase : HandlerPhase)
    (hout : m.handler line ≠ .atStatus ∧ ∀ s, m.handler line ≠ .atData s)
    (h : ∃ l, m.handler l = .atStatus ∨ ∃ s, m.handler l = .atData s) :
    ∃ l, (m.setHandler line phase).handler l = .atStatus ∨
      ∃ s, (m.setHandler line phase).handler l = .atData s := by
  obtain ⟨l, he⟩ := h
  have hne : l ≠ line := by
    rintro rfl
    rcases he with he | ⟨s, he⟩
    · exact hout.1 he
    · exact hout.2 s he
  exact ⟨l, by simpa [setHandler, hne] using he⟩

theorem Tended.deliver {m m' : Machine} {line : PS2DeviceType} (h : Tended m)
    (hs : step m (.deliver line) = some m') : Tended m' := by
  simp only [step] at hs
  split_ifs at hs with hc
  cases hs
  intro hf hp
  by_cases hl : m.stream = line
  · left
    simp [setHandler, hl]
  · have hp' : m.pending m.stream = false := by simpa [setHandler, hl] using hp
    -- the handler now called was idle, so whoever was due still is
    rcases h hf hp' with he | he | he
    · left
      simpa [setHandler, hl] using he
    · right; left
      exact looping_setHandler .entered (by simp [hc.2]) he
    · right; right
      exact he

theorem Tended.handlerStep {m m' : Machine} {line : PS2DeviceType} (h : Tended m)
    (hs : m.handlerStep line = some m') : Tended m' := by
  unfold Machine.handlerStep at hs
  cases hph : m.handler line with
  | idle => rw [hph] at hs; cases hs
  | entered =>
      rw [hph] at hs
      dsimp only at hs
      split_ifs at hs with hig
      · cases hs
        intro hf hp
        by_cases hl : m.stream = line
        · right; right
          have hpl : m.pending line = false := by rw [← hl]; exact hp
          have hfull : m.full = true := hf
          exact ⟨by simp [hfull, hl, hpl], hig⟩
        · rcases h hf hp with he | he | he
          · left
            simpa [setHandler, hl] using he
          · right; left
            exact looping_setHandler .idle (by simp [hph]) he
          · right; right
            exact ⟨by simp [he.1], he.2⟩
      · cases hs
        intro _ _
        right; left
        exact ⟨line, by simp [setHandler]⟩
  | atStatus =>
      rw [hph] at hs
      cases hs
      intro hf _
      have hfull : m.full = true := hf
      right; left
      exact ⟨line, .inr ⟨m.stream, by simp [setHandler, hfull]⟩⟩
  | atData s =>
      rw [hph] at hs
      cases hs
      exact tended_of_empty rfl
  | leaving =>
      rw [hph] at hs
      cases hs
      intro hf hp
      rcases h hf hp with he | he | he
      · left
        have hne : m.stream ≠ line := by
          intro e
          rw [e, hph] at he
          cases he
        simpa [setHandler, hne] using he
      · right; left
        exact looping_setHandler .idle (by simp [hph]) he
      · right; right
        exact he

theorem Tended.gatedStep {m m' : Machine} (h : Tended m)
    (hg : m.stopsIgnoring = true → m.swallowed = false) (hs : m.gatedStep = some m') :
    Tended m' := by
  unfold Machine.gatedStep at hs
  split at hs
  · cases hs
  · cases hs; exact h
  · cases hs; exact h
  · cases hs; exact h
  · cases hs; exact h
  · cases hs
    intro hf hp
    rcases h hf hp with he | he | he
    · exact .inl he
    · exact .inr (.inl he)
    · exact .inr (.inr ⟨he.1, Nat.succ_ne_zero _⟩)
  · next heq =>
      have hsw : m.swallowed = false := hg (by simp [stopsIgnoring, heq])
      cases hs
      intro hf hp
      rcases h hf hp with he | he | he
      · exact .inl he
      · exact .inr (.inl he)
      · exact absurd (hsw.symm.trans he.1) Bool.false_ne_true
  · split_ifs at hs <;> cases hs <;> exact h
  · cases hs; exact tended_of_empty rfl
  · cases hs; exact h
  · split_ifs at hs <;> cases hs <;> exact h
  · cases hs; exact tended_of_empty rfl

/-- Every step keeps the byte tended. -/
theorem Tended.step {m m' : Machine} {a : Action} (h : Tended m) (hg : ReadsWhatItIgnored m a)
    (hs : m.step a = some m') : Tended m' := by
  cases a with
  | arrive s b => exact Tended.arrive hs
  | deliver line => exact h.deliver hs
  | handlerStep line => exact h.handlerStep hs
  | start w =>
      simp only [Machine.step] at hs
      split_ifs at hs
      cases hs
      exact h.setGated _
  | gatedStep => exact h.gatedStep hg hs

/-- At rest nobody is due. -/
theorem AtRest.not_due {m : Machine} (h : AtRest m) : ¬ m.Due := by
  obtain ⟨hig, hk, hm, -⟩ := h
  have hidle : ∀ line, m.handler line = .idle := fun line => by cases line <;> assumption
  rintro (he | ⟨l, he | ⟨s, he⟩⟩ | he)
  · rw [hidle] at he; cases he
  · rw [hidle] at he; cases he
  · rw [hidle] at he; cases he
  · exact he.2 hig

/-- **No stranded byte**, in runs whose gated work reads what it made the handlers ignore. -/
theorem no_stranded_byte (actions : List Action) (m : Machine)
    (hrun : Transition.run step initial actions = some m)
    (hreads : Transition.Guarded step ReadsWhatItIgnored initial actions) (hrest : AtRest m)
    (hfull : m.full = true) : m.pending m.stream = true := by
  have ht : Tended m := Transition.run_invariant_of_guarded
    (fun s a s' hs hg hst => hs.step hg hst) actions tended_initial hreads hrun
  by_contra hp
  exact hrest.not_due (ht hfull (Bool.eq_false_iff.mpr hp))

/-- The keyboard driver's request to set the LEDs. -/
def setLEDs : PS2Request := .ofCommands
  [⟨.writeDataPort, 0xed, 0, 0, 0⟩, ⟨.readDataPortAndCompare, kSCAcknowledge, 0, 0, 0⟩,
    ⟨.writeDataPort, 0x04, 0, 0, 0⟩, ⟨.readDataPortAndCompare, kSCAcknowledge, 0, 0, 0⟩]

/-- The keyboard acknowledges: its interrupt is ignored and the request reads the byte. -/
def acknowledged : List Action :=
  [.arrive .keyboard kSCAcknowledge, .deliver .keyboard, .handlerStep .keyboard, .gatedStep,
    .gatedStep]

/-- The request up to the point where it stops ignoring interrupts. -/
def requestRun : List Action :=
  [.start (.request setLEDs), .gatedStep, .gatedStep] ++ acknowledged ++ [.gatedStep] ++ acknowledged

/-- A key pressed after the request is done. -/
def pressedAfter : List Action := requestRun ++ [.gatedStep, .gatedStep, .arrive .keyboard 0x1e]

theorem no_stranded_byte_pressedAfter :
    ∃ m, Transition.run step initial pressedAfter = some m ∧ AtRest m ∧ m.full = true ∧
      m.pending m.stream = true := by
  have hex : (Transition.run step initial pressedAfter).any
      (fun m => decide (AtRest m ∧ m.full = true)) = true := by
    decide +kernel
  obtain ⟨m, hm, hp⟩ := (Option.any_eq_true _ _).mp hex
  obtain ⟨hr, hf⟩ := of_decide_eq_true hp
  exact ⟨m, hm, hr, hf, no_stranded_byte pressedAfter m hm (by decide +kernel) hr hf⟩

/-- The same key pressed just before: its interrupt is ignored, and the request has no more to
read. -/
def pressedBefore : List Action :=
  requestRun ++ [.arrive .keyboard 0x1e, .deliver .keyboard, .handlerStep .keyboard, .gatedStep,
    .gatedStep]

/-- The key byte stays in the buffer and no interrupt is pending for it. -/
theorem stranded_byte_reachable :
    ¬ ∀ (actions : List Action) (m : Machine), Transition.run step initial actions = some m →
      AtRest m → m.full = true → m.pending m.stream = true := by
  intro h
  have hex : (Transition.run step initial pressedBefore).any (fun m =>
      decide (AtRest m ∧ m.full = true ∧ m.pending m.stream = false)) = true := by
    decide +kernel
  obtain ⟨m, hm, hp⟩ := (Option.any_eq_true _ _).mp hex
  obtain ⟨hr, hf, hn⟩ := of_decide_eq_true hp
  rw [h pressedBefore m hm hr hf] at hn
  exact Bool.false_ne_true hn.symm

end Machine
end VoodooPS2.Controller
