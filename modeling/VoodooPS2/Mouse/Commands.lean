import VoodooPS2.Mouse.Options
import VoodooPS2.TouchpadCommands

/-! # Commands to a mouse

The commands of `ApplePS2Mouse`: `setMouseEnable`, `setMouseSampleRate`, `setMouseResolution`,
`getMouseInformation`, `getMouseID`, and `setIntellimouseMode`, which is made of them.  Each is one
request, and has a lemma that says what it returns and what it leaves the mouse like.

A request may find a byte that has not been read before it.  `Tolerates` says that the byte goes to the
driver and makes no other difference. -/

namespace VoodooPS2

open Controller Dialogue

/-! ### A byte that has not been read -/

namespace Controller

section

variable {σ α β : Type} (D : Device σ UInt8)

/-- With bytes that have not been read, these go to the driver, and all else is as without them. -/
def Tolerates (s : σ) (strays : List UInt8) (p : Prog α) : Prop :=
  converse .mouse D p ⟨s, none, strays⟩ = (converse .mouse D p (.idle s)).after strays

variable {D} {s : σ} {strays : List UInt8}

theorem Tolerates.bind {p : Prog α} (h : Tolerates D s strays p) (f : α → Prog β) :
    Tolerates D s strays (p.bind f) := by
  rw [Tolerates, converse_bind, converse_bind, h, Conversation.after_value, Conversation.after_talk,
    Conversation.after_strays, Conversation.after_after]

theorem tolerates_processRequest {cs : List PS2Command} (hlen : cs.length ≤ 255)
    (h : Tolerates D s strays (processCommands .start 0 cs)) :
    Tolerates D s strays (processRequest false (.ofCommands cs)) := by
  rw [Tolerates, converse_processRequest D .mouse hlen, converse_processRequest D .mouse hlen, h]
  rfl

/-- One byte at most, and not an acknowledge. -/
def Stray (bytes : List UInt8) : Prop := bytes = [] ∨ ∃ b, b ≠ kSCAcknowledge ∧ bytes = [b]

theorem Stray.hearAck (h : Stray strays) (bs : List UInt8) :
    hearAck (strays ++ kSCAcknowledge :: bs) = ⟨some kSCAcknowledge, strays, bs⟩ := by
  rcases h with rfl | ⟨b, hb, rfl⟩
  · exact hearAck_cons bs
  · exact hearAck_stray hb bs

/-- A request that begins with an acknowledged byte. -/
theorem tolerates_send (h : Stray strays) {b : UInt8} {bs : List UInt8}
    (hb : D.answer s b = kSCAcknowledge :: bs) (m : Mode) (i : ℕ) (cs : List PS2Command) :
    Tolerates D s strays (processCommands m i (sendMouse b :: cs)) := by
  have hstray : hearAck (strays ++ D.answer s b) = ⟨some kSCAcknowledge, strays, bs⟩ := by
    rw [hb]
    exact h.hearAck bs
  have hnone : hearAck ([] ++ D.answer s b) = ⟨some kSCAcknowledge, [], bs⟩ := by
    rw [List.nil_append, hb]
    exact hearAck_cons bs
  rw [Tolerates, converse_send D hstray, Talk.idle, converse_send D hnone, Conversation.after_nil]

theorem tolerates_transmit (h : Stray strays) {b : UInt8} {bs : List UInt8}
    (hb : D.answer s b = kSCAcknowledge :: bs) (m : Mode) (i : ℕ) (cs : List PS2Command) :
    Tolerates D s strays (processCommands m i (transmitMouse b ++ compareAck :: cs)) := by
  have hstray : hearAck (strays ++ D.answer s b) = ⟨some kSCAcknowledge, strays, bs⟩ := by
    rw [hb]
    exact h.hearAck bs
  have hnone : hearAck ([] ++ D.answer s b) = ⟨some kSCAcknowledge, [], bs⟩ := by
    rw [List.nil_append, hb]
    exact hearAck_cons bs
  rw [Tolerates, converse_transmit D hstray, Talk.idle, converse_transmit D hnone,
    Conversation.after_nil]

end

end Controller

namespace Mouse

/-! ### The commands -/

/-- A byte that is transmitted and acknowledged. -/
def transmitAck (byte : UInt8) : List PS2Command := transmitMouse byte ++ [compareAck]

/-- A command to the mouse, with its argument if there is one. -/
def command (hardwareOffline : Bool) (bytes : List UInt8) : Prog Unit := do
  let _ ← processRequest hardwareOffline (.ofCommands (bytes.flatMap transmitAck))
  return ()

def setMouseEnable (hardwareOffline enable : Bool) : Prog Unit :=
  command hardwareOffline [if enable then kDPEnable else kDPSetDefaultsAndDisable]

def setMouseSampleRate (hardwareOffline : Bool) (sampleRate : UInt8) : Prog Unit :=
  command hardwareOffline [kDPSetMouseSampleRate, sampleRate]

def setMouseResolution (hardwareOffline : Bool) (resolution : UInt8) : Prog Unit :=
  command hardwareOffline [kDPSetMouseResolution, resolution]

/-- `(UInt32)(-1)`: the mouse has not responded. -/
def noInformation : UInt32 := 0xFFFFFFFF

/-- The three information bytes in one number. -/
def informationWord (i : UInt8 × UInt8 × UInt8) : UInt32 :=
  (i.1.toUInt32 <<< 16) ||| (i.2.1.toUInt32 <<< 8) ||| i.2.2.toUInt32

def getMouseInformation (hardwareOffline : Bool) : Prog UInt32 := do
  let request ← processRequest hardwareOffline (.ofCommands
    (transmitAck kDPGetMouseInformation ++ [readData, readData, readData]))
  return if request.commandsCount.toNat = 6 then
    informationWord (Touchpad.result request 3, Touchpad.result request 4, Touchpad.result request 5)
  else noInformation

def getMouseID (hardwareOffline : Bool) : Prog UInt8 := do
  let request ← processRequest hardwareOffline (.ofCommands (transmitAck kDPGetId ++ [readData]))
  return if request.commandsCount.toNat = 4 then Touchpad.result request 3 else 0xFF

/-- `PS2MouseId`. -/
inductive PS2MouseId where
  | standard | intellimouse | intellimouseExplorer
deriving DecidableEq, Repr

/-- The type by the first answer. -/
def PS2MouseId.ofByte (mouseIDByte : UInt8) : PS2MouseId :=
  if mouseIDByte = 0x04 then .intellimouseExplorer
  else if mouseIDByte = 0x03 then .intellimouse
  else .standard

/-- Sample rates one after the other, and the identity then. -/
def knock (hardwareOffline : Bool) (r1 r2 r3 : UInt8) : Prog UInt8 := do
  setMouseSampleRate hardwareOffline r1
  setMouseSampleRate hardwareOffline r2
  setMouseSampleRate hardwareOffline r3
  .sleep 50 (getMouseID hardwareOffline)

/-- Try to enter 5 button mode if we're not there already. -/
def tryExplorer (hardwareOffline : Bool) (mouseID : PS2MouseId) : Prog PS2MouseId :=
  if mouseID = .intellimouse then do
    let mouseIDByte ← knock hardwareOffline 200 200 80
    return if mouseIDByte = 0x04 then .intellimouseExplorer else .intellimouse
  else return mouseID

/-- `setIntellimouseMode`: the sample rate is restored in the end. -/
def setIntellimouseMode (hardwareOffline : Bool) (mouseInfoBytes : UInt32) : Prog PS2MouseId := do
  let mouseIDByte ← knock hardwareOffline 200 100 80
  let mouseID ← tryExplorer hardwareOffline (.ofByte mouseIDByte)
  setMouseSampleRate hardwareOffline (mouseInfoBytes &&& 0x0000FF).toUInt8
  return mouseID

/-! ### What they do -/

section

variable {k : PointingModel} {d d' d'' : PointingDevice} {α β : Type}

/-- Bytes that are acknowledged. -/
theorem converse_transmitAcks (b : UInt8) (bs : List UInt8) {s : PointingDevice}
    (h : k.device.Acks kSCAcknowledge s (b :: bs)) (m : Mode) (i : ℕ) (cs : List PS2Command) :
    converse .mouse k.device (processCommands m i ((b :: bs).flatMap transmitAck ++ cs)) (.idle s) =
      (converse .mouse k.device (processCommands ⟨.mouse, false⟩ (i + 3 * (bs.length + 1)) cs)
        (.idle (k.device.after s (b :: bs)))).behind ((b :: bs).flatMap transmitAck) := by
  induction bs generalizing b s m i with
  | nil =>
      have hack : hearAck ([] ++ k.device.answer s b) = ⟨some kSCAcknowledge, [], []⟩ := by
        rw [List.nil_append, h.1]
        exact hearAck_cons []
      exact converse_transmit k.device hack m i cs
  | cons c bs ih =>
      have hack : hearAck ([] ++ k.device.answer s b) = ⟨some kSCAcknowledge, [], []⟩ := by
        rw [List.nil_append, h.1]
        exact hearAck_cons []
      have hfirst := converse_transmit k.device hack m i ((c :: bs).flatMap transmitAck ++ cs)
      have hlist : (b :: c :: bs).flatMap transmitAck ++ cs =
          transmitMouse b ++ compareAck :: ((c :: bs).flatMap transmitAck ++ cs) := rfl
      rw [hlist, Talk.idle, hfirst, ← Talk.idle, ih c h.2, behind_behind, Conversation.after_nil,
        List.length_cons, Nat.add_assoc, show 3 + 3 * (bs.length + 1) = 3 * (bs.length + 1 + 1) by omega]
      rfl

/-- A command and its argument. -/
theorem leaves_command {b : UInt8} {bs : List UInt8} (hlen : bs.length ≤ 1)
    (h : k.Takes d (b :: bs) d') :
    Leaves .mouse k.device d (command false (b :: bs)) () d' := by
  have hcount : ((b :: bs).flatMap transmitAck).length ≤ 255 := by
    rcases bs with _ | ⟨c, _ | ⟨c', bs⟩⟩
    · exact Nat.le_of_ble_eq_true rfl
    · exact Nat.le_of_ble_eq_true rfl
    · rw [List.length_cons, List.length_cons] at hlen
      omega
  have hloop := converse_transmitAcks b bs h.1 .start 0 []
  rw [List.append_nil, h.2] at hloop
  rw [Leaves, command, Prog.bind_eq, converse_bind,
    converse_processRequest k.device .mouse hcount, hloop]
  rfl

theorem leaves_setMouseEnable (h : d.awaiting = none) (enable : Bool) :
    Leaves .mouse k.device d (setMouseEnable false enable) ()
      (k.command d (if enable then kDPEnable else kDPSetDefaultsAndDisable)) := by
  refine leaves_command (Nat.zero_le 1) (PointingModel.takes_command h ?_)
  cases enable
  · exact PointingModel.alone_disable
  · exact PointingModel.alone_enable

theorem leaves_setMouseSampleRate (h : d.awaiting = none) (sampleRate : UInt8) :
    Leaves .mouse k.device d (setMouseSampleRate false sampleRate) () (k.sampleRate d sampleRate) :=
  leaves_command (Nat.le_refl 1) (PointingModel.takes_sampleRate h sampleRate)

theorem leaves_setMouseResolution (h : d.awaiting = none) (resolution : UInt8) :
    Leaves .mouse k.device d (setMouseResolution false resolution) ()
      { d with resolution := resolution, resolutions := d.resolutions ++ [resolution] } :=
  leaves_command (Nat.le_refl 1) (PointingModel.takes_resolution h resolution)

/-- A command whose answer is more than the acknowledge. -/
theorem converse_transmitQuery {c : UInt8} {vs : List UInt8} {s : PointingDevice}
    (hc : k.device.answer s c = kSCAcknowledge :: vs) :
    converse .mouse k.device
        (processCommands .start 0 (transmitAck c ++ vs.map fun _ => readData)) (.idle s) =
      ⟨(transmitAck c ++ vs.map readInto, none), .idle (k.device.step s c), []⟩ := by
  have hheard : hearAck ([] ++ k.device.answer s c) = ⟨some kSCAcknowledge, [], vs⟩ := by
    rw [List.nil_append, hc]
    exact hearAck_cons vs
  have hreads := converse_reads k.device vs [] (k.device.step s c) false 3 []
  rw [List.append_nil, List.append_nil] at hreads
  have hlist : transmitAck c ++ vs.map (fun _ => readData) =
      transmitMouse c ++ compareAck :: vs.map (fun _ => readData) := rfl
  rw [hlist, Talk.idle, converse_transmit k.device hheard, Nat.zero_add, hreads, Conversation.after_nil,
    behind_behind]
  simp [processCommands, converse, Conversation.behind, Conversation.map, transmitAck, Talk.idle]

theorem leaves_getMouseInformation (h : d.awaiting = none) :
    Leaves .mouse k.device d (getMouseInformation false) (informationWord (k.information d))
      { d with resolutions := [] } := by
  have hquery := converse_transmitQuery (PointingModel.answer_information (k := k) h)
  rw [PointingModel.step_command h, PointingModel.command_information] at hquery
  have hloop : converse .mouse k.device (processCommands .start 0
      (transmitAck kDPGetMouseInformation ++ [readData, readData, readData])) (.idle d) = _ := hquery
  have hlen : (transmitAck kDPGetMouseInformation ++ [readData, readData, readData]).length ≤ 255 :=
    Nat.le_of_ble_eq_true rfl
  rw [Leaves, getMouseInformation, Prog.bind_eq, converse_bind,
    converse_processRequest k.device .mouse hlen, hloop]
  rfl

theorem leaves_getMouseID (h : d.awaiting = none) :
    Leaves .mouse k.device d (getMouseID false) d.identity { d with resolutions := [] } := by
  have hquery := converse_transmitQuery (PointingModel.answer_identity (k := k) h)
  rw [PointingModel.step_command h, PointingModel.command_identity] at hquery
  have hloop : converse .mouse k.device (processCommands .start 0
      (transmitAck kDPGetId ++ [readData])) (.idle d) = _ := hquery
  have hlen : (transmitAck kDPGetId ++ [readData]).length ≤ 255 := Nat.le_of_ble_eq_true rfl
  rw [Leaves, getMouseID, Prog.bind_eq, converse_bind,
    converse_processRequest k.device .mouse hlen, hloop]
  rfl

/-! ### The identity of a mouse -/

/-- What the negotiation relies on: special sequences aside, sample rates do not concern the identity,
and an Intellimouse that is asked for five buttons stays one, or becomes an Explorer. -/
structure Knocks (k : PointingModel) : Prop where
  other : ∀ i r1 r2 b, ¬ (r1 = 200 ∧ (r2 = 100 ∨ r2 = 200) ∧ b = 80) → k.identify i (r1, r2) b = i
  explorer : k.identify 0x03 (200, 200) 80 = 0x03 ∨ k.identify 0x03 (200, 200) 80 = 0x04

/-- A mouse takes the rate, and nothing else unless the rates have been a special sequence. -/
theorem sampleRate_of_isMouse (hk : k.IsMouse) (d : PointingDevice) (b : UInt8) :
    k.sampleRate d b =
      { d with
        awaiting := none
        resolutions := []
        rate := b
        rates := (d.rates.2, b)
        identity := k.identify d.identity d.rates b } := by
  rw [PointingModel.sampleRate, hk.special]

/-- Three rates: only the last can complete a special sequence. -/
theorem leaves_knock (hk : k.IsMouse) (hknocks : Knocks k) (h : d.awaiting = none) (r1 r2 r3 : UInt8)
    (h1 : r1 ≠ 80) (h2 : r2 ≠ 80) :
    let i := k.identify d.identity (r1, r2) r3
    Leaves .mouse k.device d (knock false r1 r2 r3) i
      { d with awaiting := none, resolutions := [], rate := r3, rates := (r2, r3), identity := i } := by
  intro i
  have hone : k.identify d.identity d.rates r1 = d.identity :=
    hknocks.other _ d.rates.1 d.rates.2 r1 fun hc => h1 hc.2.2
  have htwo : k.identify d.identity (d.rates.2, r1) r2 = d.identity :=
    hknocks.other _ d.rates.2 r1 r2 fun hc => h2 hc.2.2
  have hrate1 := leaves_setMouseSampleRate (k := k) h r1
  rw [sampleRate_of_isMouse hk, hone] at hrate1
  refine hrate1.bind ?_
  refine (leaves_setMouseSampleRate (k := k) rfl r2).bind ?_
  rw [sampleRate_of_isMouse hk]
  dsimp only
  rw [htwo]
  refine (leaves_setMouseSampleRate (k := k) rfl r3).bind ?_
  rw [sampleRate_of_isMouse hk]
  exact leaves_getMouseID (k := k) (d := { d with
    awaiting := none, resolutions := [], rate := r3, rates := (r2, r3), identity := i }) rfl

/-- The type is the one that the mouse has in the end. -/
theorem leaves_setIntellimouseMode (hk : k.IsMouse) (hknocks : Knocks k) (h : d.awaiting = none)
    (mouseInfoBytes : UInt32) :
    ∃ i rates, Leaves .mouse k.device d (setIntellimouseMode false mouseInfoBytes) (.ofByte i)
      { d with
        awaiting := none
        resolutions := []
        rate := (mouseInfoBytes &&& 0x0000FF).toUInt8
        rates := rates
        identity := i } := by
  let i := k.identify d.identity (200, 100) 80
  have hfirst := leaves_knock hk hknocks h 200 100 80 (by decide) (by decide)
  -- the rate that is restored completes no special sequence, for the one before it is 80
  have hrestore (j r2 b : UInt8) : k.identify j (r2, 80) b = j :=
    hknocks.other j r2 80 b fun hc => by rcases hc.2.1 with hc | hc <;> exact absurd hc (by decide)
  by_cases hi : i = 0x03
  · let i' := k.identify 0x03 (200, 200) 80
    refine ⟨i', (80, (mouseInfoBytes &&& 0x0000FF).toUInt8), hfirst.bind ?_⟩
    have hsecond := leaves_knock hk hknocks (d := { d with
      awaiting := none, resolutions := [], rate := 80, rates := (100, 80), identity := i }) rfl 200 200 80
        (by decide) (by decide)
    have hexplorer : Leaves .mouse k.device { d with
        awaiting := none, resolutions := [], rate := 80, rates := (100, 80), identity := i }
        (tryExplorer false (.ofByte i)) (.ofByte i') { d with
          awaiting := none, resolutions := [], rate := 80, rates := (200, 80), identity := i' } := by
      rw [hi] at hsecond ⊢
      refine hsecond.bind ?_
      have hout : (if i' = 0x04 then PS2MouseId.intellimouseExplorer else .intellimouse) = .ofByte i' := by
        rcases hknocks.explorer with he | he
        · rw [show i' = 0x03 from he]
          rfl
        · rw [show i' = 0x04 from he]
          rfl
      rw [← hout]
      exact leaves_pure _ _
    refine hexplorer.bind ((leaves_setMouseSampleRate (k := k) rfl _).bind ?_)
    rw [sampleRate_of_isMouse hk]
    dsimp only
    rw [hrestore]
    exact leaves_pure _ _
  · refine ⟨i, (80, (mouseInfoBytes &&& 0x0000FF).toUInt8), hfirst.bind ?_⟩
    have hkept : Leaves .mouse k.device { d with
        awaiting := none, resolutions := [], rate := 80, rates := (100, 80), identity := i }
        (tryExplorer false (.ofByte i)) (.ofByte i) { d with
          awaiting := none, resolutions := [], rate := 80, rates := (100, 80), identity := i } := by
      have hno : PS2MouseId.ofByte i ≠ .intellimouse := by
        rw [PS2MouseId.ofByte, if_neg hi]
        split <;> decide
      rw [tryExplorer, if_neg hno]
      exact leaves_pure _ _
    refine hkept.bind ((leaves_setMouseSampleRate (k := k) rfl _).bind ?_)
    rw [sampleRate_of_isMouse hk]
    dsimp only
    rw [hrestore]
    exact leaves_pure _ _

end

end Mouse

end VoodooPS2
