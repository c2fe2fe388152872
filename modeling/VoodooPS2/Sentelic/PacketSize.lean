import VoodooPS2.Lib.Transition
import VoodooPS2.Sentelic.Registers

/-! # The packet size of a Sentelic pad (`setTouchPadEnable`, `fsp_intellimouse_mode`)

Whenever a Sentelic pad is switched on or off the driver asks it for packets of four bytes, with three
sample rates in a row, and for its identity: a pad that identifies itself as 4 sends packets of four
bytes from then on.  The driver then takes 4 for the packet size, and else leaves the packet size alone.

`packetSize_iff`: in a run of such calls the packet size is 4 after each call that the pad answered with
4, and 3 after each other, if and only if no call without that answer finds a packet size of 4. -/

namespace VoodooPS2.Sentelic

open Controller

/-! ### The driver -/

def send (byte : UInt8) : PS2Command := ⟨.sendMouseCommandAndCompareAck, byte, 0, 0, 0⟩

def receive : PS2Command := ⟨.readDataPort, 0, 0, 0, 0⟩

/-- Sample rates 200, 200 and 80, and the request for the identity. -/
def intellimouseBytes : List UInt8 :=
  [kDPSetMouseSampleRate, 200, kDPSetMouseSampleRate, 200, kDPSetMouseSampleRate, 80, kDPGetId]

/-- The result is not looked at before `commands[7].inOrOut` is returned. -/
def fspIntellimouseMode (hardwareOffline : Bool) : Prog UInt8 := do
  let request ← processRequest hardwareOffline (.ofCommands (intellimouseBytes.map send ++ [receive]))
  return (request.commands.map PS2Command.inOrOut).getD 7 0

/-- `setTouchPadEnable` up to the request for the identity. -/
def enableTouchPad (hardwareOffline enable : Bool) : Prog Unit := do
  let _ ← processRequest hardwareOffline
    (.ofCommands [send (if enable then kDPEnable else kDPSetDefaultsAndDisable)])
  fspOpctagEnable hardwareOffline true

/-- The packet size afterwards. -/
def setTouchPadEnable (hardwareOffline enable : Bool) (packetSize : UInt8) : Prog UInt8 := do
  enableTouchPad hardwareOffline enable
  let id ← fspIntellimouseMode hardwareOffline
  return if id = 4 then 4 else packetSize

/-- Where `setTouchPadEnable` is called from. -/
inductive Caller where
  | start | disableDevice | enableDevice | stop
deriving DecidableEq, Repr

def Caller.enable : Caller → Bool
  | start => true
  | disableDevice => false
  | enableDevice => true
  | stop => false

/-- A call, with the machine and the pad as they are then. -/
structure Call where
  caller : Caller
  hardwareOffline : Bool
  kbc : Kbc

/-- The packet size when the call begins.  `start` defaults to packets of three bytes. -/
def Call.sizeBefore (c : Call) (packetSize : UInt8) : UInt8 :=
  if c.caller = .start then 3 else packetSize

/-- The packet size when the call returns. -/
def Call.sizeAfter (c : Call) (packetSize : UInt8) : UInt8 :=
  (run .normal (setTouchPadEnable c.hardwareOffline c.caller.enable (c.sizeBefore packetSize))
    c.kbc).value

/-! ### What the pad answers -/

/-- The 8042 after bytes that the pad has acknowledged, each when an acknowledge was expected. -/
def accepted : Kbc → List UInt8 → Option Kbc
  | k, [] => some k
  | k, byte :: bytes =>
      let k := transmitted k byte
      if (ackReply k).returned = some kSCAcknowledge then accepted (answered k (ackReply k)) bytes
      else none

/-- The identity, if the pad acknowledges all that leads to it and sends it. -/
def identity (k : Kbc) : Option UInt8 :=
  (accepted k intellimouseBytes).bind fun k => (reply k).returned

/-- The pad answers the request of the call for its identity with 4. -/
def Call.AnswersFour (c : Call) : Prop :=
  c.hardwareOffline = false ∧
    identity (run .normal (enableTouchPad false c.caller.enable) c.kbc).kbc = some 4

instance (c : Call) : Decidable c.AnswersFour := inferInstanceAs (Decidable (_ ∧ _))

/-! ### The identity is what is returned -/

/-- The last byte of a request that sends some bytes and reads one. -/
theorem last_sends (bytes : List UInt8) (m : Mode) (k : Kbc) (index : ℕ)
    (hm : bytes = [] → m.deviceMode = .mouse) :
    ((run .normal (processCommands m index (bytes.map send ++ [receive])) k).value.1.map
        PS2Command.inOrOut).getD bytes.length 0 =
      ((accepted k bytes).bind fun k => (reply k).returned).getD 0 := by
  induction bytes generalizing m k index with
  | nil =>
      obtain ⟨deviceMode, transmitToMouse⟩ := m
      obtain rfl : deviceMode = .mouse := hm rfl
      simp [accepted, receive, processCommands, execCommand, run, Prog.bind, Run.after, readPort,
        reply, readDataPort, PS2Command.setInOrOut, PS2Command.inOrOut, ReadResult.value]
  | cons byte bytes ih =>
      obtain ⟨hvalue, -, hkbc⟩ := exec_send m k byte
      have hfailed := congrArg Executed.failed hvalue
      have hmode := congrArg Executed.mode hvalue
      dsimp only at hfailed hmode
      rw [List.map_cons, List.cons_append, send, accepted]
      cases hack : (ackReply (transmitted k byte)).value != kSCAcknowledge with
      | true =>
          have hnot : ¬ (ackReply (transmitted k byte)).returned = some kSCAcknowledge := by
            rw [← value_eq_acknowledge_iff]
            simpa using hack
          rw [run_processCommands_failed (hfailed.trans hack), if_neg hnot]
          simp [receive, PS2Command.inOrOut]
      | false =>
          have hreturned := (value_eq_acknowledge_iff _).mp (bne_eq_false_iff_eq.mp hack)
          rw [run_processCommands_passed (hfailed.trans hack), if_pos hreturned, hmode, hkbc,
            List.map_cons, List.length_cons, List.getD_cons_succ]
          exact ih _ _ _ fun _ => rfl

theorem fspIntellimouseMode_eq_four_iff (k : Kbc) :
    (run .normal (fspIntellimouseMode false) k).value = 4 ↔ identity k = some 4 := by
  have hrequest := run_processRequest .normal (intellimouseBytes.map send ++ [receive]) (by decide) k
  have hlast := last_sends intellimouseBytes .start k 0 fun h => by cases h
  have hvalue : (run .normal (fspIntellimouseMode false) k).value = (identity k).getD 0 := by
    rw [fspIntellimouseMode, Prog.bind_eq, run_bind, Run.after_value, hrequest]
    exact hlast
  rw [hvalue]
  cases identity k with
  | none => decide
  | some id => simp

theorem fspIntellimouseMode_offline (k : Kbc) :
    (run .normal (fspIntellimouseMode true) k).value = 0 := rfl

/-- The packet size becomes 4 with the answer, and stays without. -/
theorem Call.sizeAfter_eq (c : Call) (packetSize : UInt8) :
    c.sizeAfter packetSize = if c.AnswersFour then 4 else c.sizeBefore packetSize := by
  have hrun : c.sizeAfter packetSize =
      if (run .normal (fspIntellimouseMode c.hardwareOffline)
        (run .normal (enableTouchPad c.hardwareOffline c.caller.enable) c.kbc).kbc).value = 4 then 4
      else c.sizeBefore packetSize := by
    rw [sizeAfter, setTouchPadEnable, Prog.bind_eq, run_bind, Run.after_value, Prog.bind_eq,
      run_bind, Run.after_value]
    rfl
  rw [hrun]
  refine if_congr ?_ rfl rfl
  cases hoff : c.hardwareOffline with
  | true =>
      rw [fspIntellimouseMode_offline]
      exact iff_of_false (by decide) fun h => Bool.noConfusion (hoff.symm.trans h.1)
  | false =>
      rw [fspIntellimouseMode_eq_four_iff]
      exact ⟨fun h => ⟨hoff, h⟩, fun h => h.2⟩

/-! ### Runs of calls -/

/-- Every call can be made in every state. -/
def step (packetSize : UInt8) (c : Call) : Option UInt8 := some (c.sizeAfter packetSize)

/-- The packet size is 4 if the pad has answered the call with 4, and 3 if not. -/
def FollowsMode (packetSize : UInt8) (c : Call) : Prop :=
  (c.sizeAfter packetSize = 4 ↔ c.AnswersFour) ∧
    (¬ c.AnswersFour → c.sizeAfter packetSize = 3)

/-- A call that the pad does not answer with 4 is not made with a packet size of 4. -/
def NotLarge (packetSize : UInt8) (c : Call) : Prop :=
  c.AnswersFour ∨ c.caller = .start ∨ packetSize ≠ 4

/-- The sizes that there are. -/
def Size (packetSize : UInt8) : Prop := packetSize = 3 ∨ packetSize = 4

theorem Size.after {packetSize : UInt8} (h : Size packetSize) (c : Call) :
    Size (c.sizeAfter packetSize) := by
  rw [Call.sizeAfter_eq, Call.sizeBefore]
  split_ifs
  · exact .inr rfl
  · exact .inl rfl
  · exact h

theorem notLarge_iff_followsMode {packetSize : UInt8} (h : Size packetSize) (c : Call) :
    NotLarge packetSize c ↔ FollowsMode packetSize c := by
  rw [NotLarge, FollowsMode, Call.sizeAfter_eq]
  by_cases hfour : c.AnswersFour
  · rw [if_pos hfour]
    exact iff_of_true (.inl hfour) ⟨iff_of_true rfl hfour, fun hnot => absurd hfour hnot⟩
  · rw [if_neg hfour, or_iff_right hfour, Call.sizeBefore]
    by_cases hstart : c.caller = .start
    · rw [if_pos hstart]
      exact iff_of_true (.inl hstart) ⟨iff_of_false (by decide) hfour, fun _ => rfl⟩
    · rw [if_neg hstart, or_iff_right hstart]
      constructor
      · intro hne
        exact ⟨iff_of_false hne hfour, fun _ => h.resolve_right hne⟩
      · intro hfollows heq
        exact hfour (hfollows.1.mp heq)

/-- **The packet size follows the mode of the pad, in a run that begins with `start`, exactly if no
call that is not answered with 4 is made with a packet size of 4.** -/
theorem packetSize_iff (hardwareOffline : Bool) (kbc : Kbc) (cs : List Call) :
    Transition.Guarded step FollowsMode 0 (⟨.start, hardwareOffline, kbc⟩ :: cs) ↔
      Transition.Guarded step NotLarge 0 (⟨.start, hardwareOffline, kbc⟩ :: cs) := by
  have hsize : Size (Call.sizeAfter ⟨.start, hardwareOffline, kbc⟩ 0) := by
    rw [Call.sizeAfter_eq]
    split
    · exact .inr rfl
    · exact .inl rfl
  have hfirst : FollowsMode 0 ⟨.start, hardwareOffline, kbc⟩ := by
    rw [FollowsMode, Call.sizeAfter_eq]
    split
    · rename_i hfour
      exact ⟨iff_of_true rfl hfour, fun hnot => absurd hfour hnot⟩
    · rename_i hfour
      exact ⟨iff_of_false (show ¬ (3 : UInt8) = 4 by decide) hfour, fun _ => rfl⟩
  have hrest : Transition.Guarded step NotLarge (Call.sizeAfter ⟨.start, hardwareOffline, kbc⟩ 0) cs ↔
      Transition.Guarded step FollowsMode (Call.sizeAfter ⟨.start, hardwareOffline, kbc⟩ 0) cs :=
    Transition.guarded_iff_of_total (fun _ _ => rfl) (fun _ c hs _ => hs.after c)
      (fun _ c hs => notLarge_iff_followsMode hs c) cs hsize
  constructor
  · intro h
    refine ⟨.inr (.inl rfl), fun s' hs' => ?_⟩
    obtain rfl := Option.some.inj hs'
    exact hrest.mpr (h.2 _ rfl)
  · intro h
    refine ⟨hfirst, fun s' hs' => ?_⟩
    obtain rfl := Option.some.inj hs'
    exact hrest.mp (h.2 _ rfl)

/-- A pad that acknowledges everything and identifies itself as 4. -/
def intellimouse : Kbc :=
  ⟨0x47, false, none,
    List.replicate 56 (.device .mouse kSCAcknowledge) ++ [.device .mouse 4]⟩

/-- A pad that does not answer. -/
def silent : Kbc := ⟨0x47, false, none, []⟩

/-- The packet size stays 4 with a pad that no longer answers. -/
theorem packetSize_stays :
    Call.sizeAfter ⟨.start, false, intellimouse⟩ 0 = 4 ∧
      ¬ Call.AnswersFour ⟨.enableDevice, false, silent⟩ ∧
      Call.sizeAfter ⟨.enableDevice, false, silent⟩ 4 = 4 ∧
      ¬ ∀ (hardwareOffline : Bool) (kbc : Kbc) (cs : List Call),
        Transition.Guarded step FollowsMode 0 (⟨.start, hardwareOffline, kbc⟩ :: cs) := by
  have hstart : Call.sizeAfter ⟨.start, false, intellimouse⟩ 0 = 4 := by decide +kernel
  have hnot : ¬ Call.AnswersFour ⟨.enableDevice, false, silent⟩ := by decide +kernel
  have hstays : Call.sizeAfter ⟨.enableDevice, false, silent⟩ 4 = 4 := by decide +kernel
  refine ⟨hstart, hnot, hstays, fun h => ?_⟩
  have hrun := (h false intellimouse [⟨.enableDevice, false, silent⟩]).2 4 (congrArg some hstart)
  exact hnot (hrun.1.1.mp hstays)

end VoodooPS2.Sentelic
