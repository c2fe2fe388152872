import VoodooPS2.Controller.Converse
import VoodooPS2.PointingDevice

/-! # Special commands of a touchpad

A touchpad has no commands of its own to be sent through a mouse port.  Its drivers put the bits of a
value into the arguments of four set-resolution commands, and the next command says what the value is
for.  `setTouchPadModeByte` and `setModeByte` of the Synaptics driver, and `setTouchpadLED` and
`getTouchPadData` of both that driver and the one for mice, are such sequences, each in one request.

`Operation.program` runs any of them, and `Operation.effect` is what they are for: a mode byte, an LED,
an item of data, packets or no packets.  `operations_refine`: on every touchpad, whatever goes on on the
keyboard's stream in the meantime, a list of these operations has the results and the effects it is for. -/

namespace VoodooPS2

open Controller Dialogue

namespace Touchpad

/-- The bits of a value, two by two. -/
def arguments (v : UInt8) : List UInt8 :=
  [(v >>> 6) &&& 0x3, (v >>> 4) &&& 0x3, (v >>> 2) &&& 0x3, (v >>> 0) &&& 0x3]

/-- 4 set resolution commands, each encode 2 data bits. -/
def encode (v : UInt8) : List UInt8 := (arguments v).flatMap fun a => [kDPSetMouseResolution, a]

/-- `commands[n].inOrOut`. -/
def result (request : PS2Request) (n : ℕ) : UInt8 :=
  (request.commands.map PS2Command.inOrOut).getD n 0

/-- Bytes that are all sent with `kPS2C_SendMouseCommandAndCompareAck`; all of them have been
acknowledged if the count of commands is still the same. -/
def sendAll (hardwareOffline : Bool) (bytes : List UInt8) : Prog Bool := do
  let request ← processRequest hardwareOffline (.ofCommands (bytes.map sendMouse))
  return decide (request.commandsCount.toNat = bytes.length)

def modeByteSequence (modeByteValue : UInt8) : List UInt8 :=
  [kDPSetDefaultsAndDisable, kDPSetDefaultsAndDisable, kDPSetMouseScaling1To1,
    kDPSetMouseScaling1To1] ++ encode modeByteValue ++
    [kDPSetMouseSampleRate, 20, kDPSetMouseScaling1To1]

/-- The part that was found on the bus, and is not documented. -/
def undocumentedSequence : List UInt8 :=
  [kDPSetMouseScaling1To1, kDPSetMouseResolution, 0x0, kDPSetMouseResolution, 0x0,
    kDPSetMouseResolution, 0x0, kDPSetMouseResolution, 0x3, kDPSetMouseSampleRate, 200]

/-- `setTouchPadModeByte(UInt8)`, with `UNDOCUMENTED_INIT_SEQUENCE_POST`. -/
def setTouchPadModeByte (hardwareOffline : Bool) (modeByteValue : UInt8) : Prog Bool :=
  sendAll hardwareOffline (modeByteSequence modeByteValue ++ undocumentedSequence ++ [kDPEnable])

/-- `setModeByte(UInt8)`: simplified, for switching between normal mode and EW mode. -/
def setModeByte (hardwareOffline : Bool) (modeByteValue : UInt8) : Prog Bool :=
  sendAll hardwareOffline (modeByteSequence modeByteValue ++ [kDPEnable])

/-- `setTouchpadLED`. -/
def setTouchpadLED (hardwareOffline : Bool) (touchLED : UInt8) : Prog Bool :=
  sendAll hardwareOffline ([kDPSetMouseScaling1To1] ++ encode touchLED ++
    [kDPSetMouseSampleRate, 10, kDPSetMouseScaling1To1])

/-- `setTouchPadEnable` of the Synaptics driver. -/
def setTouchPadEnable (hardwareOffline enable : Bool) : Prog Bool :=
  sendAll hardwareOffline [if enable then kDPEnable else kDPSetDefaultsAndDisable]

/-- `getTouchPadData`. -/
def getTouchPadData (hardwareOffline : Bool) (dataSelector : UInt8) :
    Prog (Option (UInt8 × UInt8 × UInt8)) := do
  let request ← processRequest hardwareOffline (.ofCommands
    (([kDPSetDefaultsAndDisable] ++ encode dataSelector).map sendMouse ++
      [sendMouse kDPGetMouseInformation, readData, readData, readData,
        sendMouse kDPSetDefaultsAndDisable]))
  return if request.commandsCount.toNat = 14 then
    some (result request 10, result request 11, result request 12)
  else none

/-! ### The bits of a value -/

theorem arguments_lt (v : UInt8) : ∀ a ∈ arguments v, a < 4 := by
  have hmask : ∀ b : BitVec 8, (b &&& 0x3#8) < 0x4#8 := by decide
  have hlt (b : UInt8) : b &&& 0x3 < 4 := hmask b.toBitVec
  intro a ha
  simp only [arguments, List.mem_cons, List.not_mem_nil, or_false] at ha
  rcases ha with rfl | rfl | rfl | rfl <;> exact hlt _

/-- The four arguments make the value again. -/
theorem arguments_value (v : UInt8) :
    ((v >>> 6) &&& 0x3) <<< 6 ||| ((v >>> 4) &&& 0x3) <<< 4 ||| ((v >>> 2) &&& 0x3) <<< 2 |||
      ((v >>> 0) &&& 0x3) = v := by
  have h : ∀ b : BitVec 8, ((b >>> 6) &&& 0x3#8) <<< 6 ||| ((b >>> 4) &&& 0x3#8) <<< 4 |||
      ((b >>> 2) &&& 0x3#8) <<< 2 ||| ((b >>> 0) &&& 0x3#8) = b := by decide
  exact UInt8.eq_of_toBitVec_eq (h v.toBitVec)

variable {k : PointingModel} {d : PointingDevice}

theorem special_arguments (hk : k.IsTouchpad) (v : UInt8) : k.special (arguments v) = some v := by
  have hlt := arguments_lt v
  rw [arguments, hk.special _ _ _ _ (hlt _ (by simp [arguments])) (hlt _ (by simp [arguments]))
    (hlt _ (by simp [arguments])) (hlt _ (by simp [arguments])), arguments_value]

/-! ### The touchpad under a sequence -/

open PointingModel

/-- What the operations are about. -/
structure View where
  modeByte : UInt8
  led : UInt8
  streaming : Bool
deriving DecidableEq, Repr

def view (d : PointingDevice) : View := ⟨d.modeByte, d.led, d.streaming⟩

/-- The touchpad acknowledges the bytes, with no command begun before or after, and has the arguments
and the view then. -/
def Shows (k : PointingModel) (d : PointingDevice) (bytes args : List UInt8) (v : View)
    (d' : PointingDevice) : Prop :=
  k.Takes d bytes d' ∧ d'.awaiting = none ∧ d'.resolutions = args ∧ view d' = v

theorem Shows.append {bs cs args args' : List UInt8} {v v' : View} {d' d'' : PointingDevice}
    (h : Shows k d bs args v d') (h' : Shows k d' cs args' v' d'') :
    Shows k d (bs ++ cs) args' v' d'' := ⟨h.1.append h'.1, h'.2⟩

/-- The arguments are taken as resolutions, too. -/
theorem takes_resolutions (as : List UInt8) (h : d.awaiting = none) :
    k.Takes d (as.flatMap fun a => [kDPSetMouseResolution, a]) { d with
      resolution := as.getLastD d.resolution
      resolutions := d.resolutions ++ as } := by
  induction as generalizing d with
  | nil =>
      rw [List.append_nil]
      exact ⟨trivial, rfl⟩
  | cons a as ih =>
      have hone := takes_resolution (k := k) h a
      have hrest := ih (d := { d with resolution := a, resolutions := d.resolutions ++ [a] }) h
      have hall := hone.append hrest
      dsimp only at hall
      rw [List.append_assoc] at hall
      rw [List.getLastD_cons]
      exact hall

theorem takes_encode (h : d.awaiting = none) (v : UInt8) :
    k.Takes d (encode v) { d with
      resolution := (v >>> 0) &&& 0x3
      resolutions := d.resolutions ++ arguments v } := takes_resolutions (arguments v) h

theorem shows_encode (h : d.awaiting = none) (hargs : d.resolutions = []) (v : UInt8) :
    ∃ d', Shows k d (encode v) (arguments v) (view d) d' :=
  ⟨_, takes_encode h v, h, by rw [hargs]; rfl, rfl⟩

theorem shows_command (h : d.awaiting = none) {b : UInt8} (hb : Alone b) (v : View)
    (hd : (k.command d b).awaiting = none ∧ (k.command d b).resolutions = [] ∧
      view (k.command d b) = v) : Shows k d [b] [] v (k.command d b) := ⟨takes_command h hb, hd⟩

theorem shows_scaling1To1 (h : d.awaiting = none) :
    ∃ d', Shows k d [kDPSetMouseScaling1To1] [] (view d) d' :=
  ⟨_, shows_command h alone_scaling1To1 _ ⟨h, rfl, rfl⟩⟩

theorem shows_enable (h : d.awaiting = none) :
    ∃ d', Shows k d [kDPEnable] [] { view d with streaming := true } d' :=
  ⟨_, shows_command h alone_enable _ ⟨h, rfl, rfl⟩⟩

theorem shows_disable (h : d.awaiting = none) :
    ∃ d', Shows k d [kDPSetDefaultsAndDisable] [] { view d with streaming := false } d' := by
  obtain ⟨r, s, t, hc⟩ := command_disable (k := k) d
  exact ⟨_, shows_command h alone_disable _ (by rw [hc]; exact ⟨h, rfl, rfl⟩)⟩

/-- What a sample rate says that a value is for, if there is one. -/
def View.special (u : View) (value : Option UInt8) (b : UInt8) : View :=
  match value with
  | some v => if b = 20 then { u with modeByte := v } else if b = 10 then { u with led := v } else u
  | none => u

theorem View.special_other (u : View) (value : Option UInt8) {b : UInt8} (hb : b ≠ 20 ∧ b ≠ 10) :
    u.special value b = u := by
  cases value with
  | none => rfl
  | some v => rw [View.special, if_neg hb.1, if_neg hb.2]

theorem View.special_modeByte (u : View) (value : Option UInt8) :
    u.special value 20 = { u with modeByte := value.getD u.modeByte } := by
  cases value <;> rfl

/-- The command that says what the value is for. -/
theorem shows_special (h : d.awaiting = none) (b : UInt8) :
    ∃ d', Shows k d [kDPSetMouseSampleRate, b] [] ((view d).special (k.special d.resolutions) b) d' := by
  refine ⟨_, takes_sampleRate h b, ?_⟩
  unfold PointingModel.sampleRate View.special
  cases k.special d.resolutions with
  | none => exact ⟨rfl, rfl, rfl⟩
  | some v =>
      dsimp only
      split
      · exact ⟨rfl, rfl, rfl⟩
      · split <;> exact ⟨rfl, rfl, rfl⟩

/-- The first `kDP_SetDefaultsAndDisable`, in any state: it may be taken for the argument of a command
that was begun before. -/
theorem shows_first (d : PointingDevice) :
    ∃ d', k.Takes d [kDPSetDefaultsAndDisable] d' ∧ d'.awaiting = none ∧
      (view d' = view d ∨ view d' = { view d with streaming := false }) := by
  cases hc : d.awaiting with
  | none =>
      obtain ⟨d', h⟩ := shows_disable (k := k) hc
      exact ⟨d', h.1, h.2.1, .inr h.2.2.2⟩
  | some c =>
      have hack : k.device.Acks kSCAcknowledge d [kDPSetDefaultsAndDisable] :=
        ⟨answer_argument hc _, trivial⟩
      refine ⟨_, ⟨hack, rfl⟩, ?_⟩
      rw [Device.after_cons, Device.after_nil, step_argument hc]
      split
      · exact ⟨rfl, .inl rfl⟩
      · rw [PointingModel.sampleRate]
        cases k.special d.resolutions with
        | none => exact ⟨rfl, .inl rfl⟩
        | some v =>
            dsimp only
            rw [if_neg (by decide), if_neg (by decide)]
            exact ⟨rfl, .inl rfl⟩

/-- The two of them put any device in order. -/
theorem shows_modeByteSequence_special (k : PointingModel) (d : PointingDevice) (v : UInt8) :
    ∃ d', Shows k d (modeByteSequence v) []
      { view d with modeByte := (k.special (arguments v)).getD d.modeByte, streaming := false } d' := by
  obtain ⟨d1, h1, hready, hview⟩ := shows_first (k := k) d
  obtain ⟨d2, h2⟩ := shows_disable (k := k) hready
  obtain ⟨d3, h3⟩ := shows_scaling1To1 (k := k) h2.2.1
  obtain ⟨d4, h4⟩ := shows_scaling1To1 (k := k) h3.2.1
  obtain ⟨d5, h5⟩ := shows_encode (k := k) h4.2.1 h4.2.2.1 v
  obtain ⟨d6, h6⟩ := shows_special (k := k) h5.2.1 20
  obtain ⟨d7, h7⟩ := shows_scaling1To1 (k := k) h6.2.1
  have hsame : ({ view d1 with streaming := false } : View) = { view d with streaming := false } := by
    rcases hview with h | h <;> rw [h]
  rw [h5.2.2.1, View.special_modeByte, h5.2.2.2, h4.2.2.2, h3.2.2.2, h2.2.2.2, hsame] at h6
  rw [h6.2.2.2] at h7
  have hall := (((h2.append h3).append h4).append h5).append (h6.append h7)
  exact ⟨d7, h1.append hall.1, hall.2⟩

theorem shows_modeByteSequence (hk : k.IsTouchpad) (d : PointingDevice) (v : UInt8) :
    ∃ d', Shows k d (modeByteSequence v) [] { view d with modeByte := v, streaming := false } d' := by
  have hmode := shows_modeByteSequence_special k d v
  rw [special_arguments hk] at hmode
  exact hmode

theorem shows_undocumentedSequence (h : d.awaiting = none) :
    ∃ d', Shows k d undocumentedSequence [] (view d) d' := by
  obtain ⟨d1, h1⟩ := shows_scaling1To1 (k := k) h
  obtain ⟨d2, h2⟩ := shows_encode (k := k) h1.2.1 h1.2.2.1 0x3
  obtain ⟨d3, h3⟩ := shows_special (k := k) h2.2.1 200
  rw [View.special_other _ _ (by decide), h2.2.2.2, h1.2.2.2] at h3
  exact ⟨d3, (h1.append h2).append h3⟩

theorem shows_setTouchpadLED (hk : k.IsTouchpad) (h : d.awaiting = none) (v : UInt8) :
    ∃ d', Shows k d ([kDPSetMouseScaling1To1] ++ encode v ++
      [kDPSetMouseSampleRate, 10, kDPSetMouseScaling1To1]) [] { view d with led := v } d' := by
  obtain ⟨d1, h1⟩ := shows_scaling1To1 (k := k) h
  obtain ⟨d2, h2⟩ := shows_encode (k := k) h1.2.1 h1.2.2.1 v
  obtain ⟨d3, h3⟩ := shows_special (k := k) h2.2.1 10
  obtain ⟨d4, h4⟩ := shows_scaling1To1 (k := k) h3.2.1
  rw [h2.2.2.1, special_arguments hk, h2.2.2.2, h1.2.2.2] at h3
  rw [h3.2.2.2] at h4
  exact ⟨d4, (h1.append h2).append (h3.append h4)⟩

/-! ### The programs -/

theorem readsOnly_sends (bytes : List UInt8) (m : Mode) (cs : List PS2Command)
    (h : ∀ m', m'.deviceMode = .mouse ∨ bytes = [] → ReadsOnly .mouse m' cs) :
    ReadsOnly .mouse m (bytes.map sendMouse ++ cs) := by
  induction bytes generalizing m with
  | nil => exact h m (.inr rfl)
  | cons b bs ih =>
      refine ⟨rfl, ?_⟩
      cases bs with
      | nil => exact h _ (.inl rfl)
      | cons b' bs => exact ih _ fun m' hm => h m' (.inl (hm.resolve_right (List.cons_ne_nil _ _)))

theorem onStream_sendAll {bytes : List UInt8} (hlen : bytes.length ≤ 255) (offline : Bool) :
    (sendAll offline bytes).OnStream .mouse := by
  have hreads : ReadsOnly .mouse .start (bytes.map sendMouse) := by
    rw [← List.append_nil (bytes.map sendMouse)]
    exact readsOnly_sends bytes .start [] fun _ _ => trivial
  refine (onStream_processRequest ?_ hreads offline).bind (Prog.returns_true _) fun _ _ => trivial
  rw [List.length_map]
  exact hlen

/-- Bytes that are sent to a device that acknowledges or says nothing: the driver is told whether all of
them have been acknowledged, and the device has seen the bytes up to the first that has not. -/
theorem converse_sendAll {σ : Type} (D : Device σ UInt8) {bytes : List UInt8}
    (hlen : bytes.length ≤ 255) {s : σ} (h : Terse D s bytes) :
    converse .mouse D (sendAll false bytes) (.idle s) =
      let n := D.accepted kSCAcknowledge s bytes
      ⟨decide (n = bytes.length), .idle (D.after s (bytes.take (n + 1))), []⟩ := by
  have hlen' : (bytes.map sendMouse).length ≤ 255 := by
    rw [List.length_map]
    exact hlen
  have hle := D.accepted_le kSCAcknowledge s bytes
  have hall := converse_all_sends D bytes h .start 0
  rw [sendAll, Prog.bind_eq, converse_bind, converse_processRequest D .mouse hlen', hall]
  simp only [Conversation.map, List.length_map, Nat.zero_add, Prog.pure_eq, converse,
    Conversation.after_nil, Conversation.mk.injEq, and_true]
  by_cases hn : D.accepted kSCAcknowledge s bytes = bytes.length
  · rw [if_pos hn]
    simp [toNat_ofNat_of_le hlen, hn]
  · rw [if_neg hn]
    simp [toNat_ofNat_of_le (Nat.le_trans hle hlen)]

theorem terse_of_acks {σ : Type} {D : Device σ UInt8} {bytes : List UInt8} {s : σ}
    (h : D.Acks kSCAcknowledge s bytes) : Terse D s bytes := by
  induction bytes generalizing s with
  | nil => exact trivial
  | cons b bs ih => exact ⟨.inl h.1, fun _ => ih h.2⟩

theorem converse_sendAll_shows {bytes args : List UInt8} {v : View} {d' : PointingDevice}
    (hlen : bytes.length ≤ 255) (h : Shows k d bytes args v d') :
    converse .mouse k.device (sendAll false bytes) (.idle d) = ⟨true, .idle d', []⟩ := by
  have hn := (k.device.accepted_eq_length_iff kSCAcknowledge d bytes).mpr h.1.1
  rw [converse_sendAll k.device hlen (terse_of_acks h.1.1)]
  dsimp only
  rw [hn, List.take_of_length_le (Nat.le_succ _), h.1.2, decide_eq_true rfl]

/-- A query: the item of data, or whatever information the device has to give. -/
theorem converse_getTouchPadData (h : d.awaiting = none) (dataSelector : UInt8) :
    ∃ d' d'', Shows k d ([kDPSetDefaultsAndDisable] ++ encode dataSelector) (arguments dataSelector)
        { view d with streaming := false } d' ∧
      d''.awaiting = none ∧ view d'' = { view d with streaming := false } ∧
      d'' = k.device.after d' [kDPGetMouseInformation, kDPSetDefaultsAndDisable] ∧
      converse .mouse k.device (getTouchPadData false dataSelector) (.idle d) =
        ⟨some (k.information d'), .idle d'', []⟩ := by
  obtain ⟨d1, h1⟩ := shows_disable (k := k) h
  have hargs := h1.2.2.1
  have h2 := takes_encode (k := k) h1.2.1 dataSelector
  set d2 : PointingDevice := { d1 with
    resolution := (dataSelector >>> 0) &&& 0x3
    resolutions := d1.resolutions ++ arguments dataSelector } with hd2
  have hready : d2.awaiting = none := h1.2.1
  have hshows : Shows k d ([kDPSetDefaultsAndDisable] ++ encode dataSelector)
      (arguments dataSelector) { view d with streaming := false } d2 := by
    refine ⟨h1.1.append h2, hready, ?_, h1.2.2.2⟩
    rw [hd2, hargs]
    rfl
  let d3 : PointingDevice := { d2 with resolutions := [] }
  obtain ⟨d4, h4⟩ := shows_disable (k := k) (d := d3) hready
  refine ⟨d2, d4, hshows, h4.2.1, ?_, ?_, ?_⟩
  · rw [h4.2.2.2, show view d3 = { view d with streaming := false } from hshows.2.2.2]
  · rw [Device.after_cons, show k.device.step d2 kDPGetMouseInformation = d3 from step_command hready _]
    exact h4.1.2.symm
  · have hlast : hearAck ([] ++ k.device.answer d3 kDPSetDefaultsAndDisable) =
        ⟨some kSCAcknowledge, [], []⟩ := by
      rw [List.nil_append, h4.1.1.1]
      exact hearAck_cons []
    have hanswer : k.device.answer (k.device.after d ([kDPSetDefaultsAndDisable] ++
        encode dataSelector)) kDPGetMouseInformation = kSCAcknowledge :: bytes (k.information d2) := by
      rw [hshows.1.2]
      exact answer_information hready
    have hstep : k.device.step (k.device.after d ([kDPSetDefaultsAndDisable] ++
        encode dataSelector)) kDPGetMouseInformation = d3 := by
      rw [hshows.1.2]
      exact step_command hready _
    have hquery := converse_query k.device kDPSetDefaultsAndDisable (encode dataSelector)
      hshows.1.1 hanswer .start 0 [sendMouse kDPSetDefaultsAndDisable]
    have hlen : (([kDPSetDefaultsAndDisable] ++ encode dataSelector).map sendMouse ++
        [sendMouse kDPGetMouseInformation, readData, readData, readData,
          sendMouse kDPSetDefaultsAndDisable]).length = 14 := rfl
    rw [getTouchPadData, Prog.bind_eq, converse_bind,
      converse_processRequest k.device .mouse (by rw [hlen]; decide), hlen]
    have hloop : converse .mouse k.device (processCommands .start 0
        (([kDPSetDefaultsAndDisable] ++ encode dataSelector).map sendMouse ++
          [sendMouse kDPGetMouseInformation, readData, readData, readData,
            sendMouse kDPSetDefaultsAndDisable])) (.idle d) =
        ⟨(([kDPSetDefaultsAndDisable] ++ encode dataSelector).map sendMouse ++
          sendMouse kDPGetMouseInformation :: (bytes (k.information d2)).map readInto ++
            [sendMouse kDPSetDefaultsAndDisable], none), .idle d4, []⟩ := by
      refine hquery.trans ?_
      rw [show k.device.step (k.device.after d (kDPSetDefaultsAndDisable :: encode dataSelector))
        kDPGetMouseInformation = d3 from hstep, Talk.idle, converse_send k.device hlast,
        show k.device.step d3 kDPSetDefaultsAndDisable = d4 from h4.1.2]
      rfl
    rw [hloop]
    rfl

theorem information_touchpad (hk : k.IsTouchpad) {v : UInt8} (hargs : d.resolutions = arguments v) :
    k.information d = k.data v := by
  rw [information, hargs, special_arguments hk]

/-! ### What the operations are for -/

/-- The operations on a touchpad.  `quick` is the simplified sequence for the mode byte. -/
inductive Operation where
  | modeByte (quick : Bool) (value : UInt8)
  | led (touchLED : UInt8)
  | enable (enable : Bool)
  | query (dataSelector : UInt8)
deriving DecidableEq, Repr

/-- What the driver gets: whether the touchpad has acknowledged, or the data. -/
inductive Reply where
  | acknowledged (ok : Bool)
  | data (items : Option (UInt8 × UInt8 × UInt8))
deriving DecidableEq, Repr

namespace Operation

def program (hardwareOffline : Bool) : Operation → Prog Reply
  | modeByte quick v => do
      let ok ← if quick then Touchpad.setModeByte hardwareOffline v
        else setTouchPadModeByte hardwareOffline v
      return .acknowledged ok
  | led v => do
      let ok ← setTouchpadLED hardwareOffline v
      return .acknowledged ok
  | enable on => do
      let ok ← setTouchPadEnable hardwareOffline on
      return .acknowledged ok
  | query v => do
      let items ← getTouchPadData hardwareOffline v
      return .data items

/-- A query leaves the touchpad without packets. -/
def effect (v : View) : Operation → View
  | modeByte _ value => { v with modeByte := value, streaming := true }
  | led touchLED => { v with led := touchLED }
  | enable on => { v with streaming := on }
  | query _ => { v with streaming := false }

def reply (k : PointingModel) : Operation → Reply
  | query dataSelector => .data (some (k.data dataSelector))
  | _ => .acknowledged true

end Operation

/-- The operations one after the other. -/
def runOperations (hardwareOffline : Bool) : List Operation → Prog (List Reply)
  | [] => return []
  | op :: ops => do
      let reply ← op.program hardwareOffline
      let replies ← runOperations hardwareOffline ops
      return reply :: replies

theorem converse_program (hk : k.IsTouchpad) (h : d.awaiting = none) (op : Operation) :
    ∃ d', d'.awaiting = none ∧ view d' = op.effect (view d) ∧
      converse .mouse k.device (op.program false) (.idle d) = ⟨op.reply k, .idle d', []⟩ := by
  have hsend {bytes args : List UInt8} {v : View} {d' : PointingDevice} (p : Prog Bool)
      (hp : p = sendAll false bytes) (hlen : bytes.length ≤ 255) (hd : Shows k d bytes args v d') :
      converse .mouse k.device (do let ok ← p; return Reply.acknowledged ok) (.idle d) =
        ⟨.acknowledged true, .idle d', []⟩ := by
    rw [hp, Prog.bind_eq, converse_bind, converse_sendAll_shows hlen hd]
    rfl
  cases op with
  | modeByte quick v =>
      obtain ⟨d1, h1⟩ := shows_modeByteSequence hk d v
      cases quick with
      | true =>
          obtain ⟨d2, h2⟩ := shows_enable (k := k) h1.2.1
          rw [h1.2.2.2] at h2
          exact ⟨d2, h2.2.1, h2.2.2.2, hsend _ rfl (Nat.le_of_ble_eq_true rfl) (h1.append h2)⟩
      | false =>
          obtain ⟨d2, h2⟩ := shows_undocumentedSequence (k := k) h1.2.1
          obtain ⟨d3, h3⟩ := shows_enable (k := k) h2.2.1
          rw [h2.2.2.2, h1.2.2.2] at h3
          exact ⟨d3, h3.2.1, h3.2.2.2, hsend _ rfl (Nat.le_of_ble_eq_true rfl) ((h1.append h2).append h3)⟩
  | led v =>
      obtain ⟨d1, h1⟩ := shows_setTouchpadLED hk h v
      exact ⟨d1, h1.2.1, h1.2.2.2, hsend _ rfl (Nat.le_of_ble_eq_true rfl) h1⟩
  | enable on =>
      cases on with
      | true =>
          obtain ⟨d1, h1⟩ := shows_enable (k := k) h
          exact ⟨d1, h1.2.1, h1.2.2.2, hsend _ rfl (Nat.le_of_ble_eq_true rfl) h1⟩
      | false =>
          obtain ⟨d1, h1⟩ := shows_disable (k := k) h
          exact ⟨d1, h1.2.1, h1.2.2.2, hsend _ rfl (Nat.le_of_ble_eq_true rfl) h1⟩
  | query v =>
      obtain ⟨d1, d2, h1, h2, hview, -, hc⟩ := converse_getTouchPadData (k := k) h v
      refine ⟨d2, h2, hview, ?_⟩
      rw [information_touchpad hk h1.2.2.1] at hc
      rw [Operation.program, Prog.bind_eq, converse_bind, hc]
      rfl

theorem converse_runOperations (hk : k.IsTouchpad) (ops : List Operation) (h : d.awaiting = none) :
    ∃ d', d'.awaiting = none ∧ view d' = ops.foldl Operation.effect (view d) ∧
      converse .mouse k.device (runOperations false ops) (.idle d) =
        ⟨ops.map (Operation.reply k), .idle d', []⟩ := by
  induction ops generalizing d with
  | nil => exact ⟨d, h, rfl, rfl⟩
  | cons op ops ih =>
      obtain ⟨d1, h1, hview, hc⟩ := converse_program hk h op
      obtain ⟨d2, h2, hview2, hc2⟩ := ih h1
      refine ⟨d2, h2, ?_, ?_⟩
      · rw [hview2, hview]
        rfl
      · rw [runOperations, Prog.bind_eq, converse_bind, hc]
        dsimp only
        rw [Prog.bind_eq, converse_bind, hc2]
        rfl

theorem onStream_getTouchPadData (offline : Bool) (v : UInt8) :
    (getTouchPadData offline v).OnStream .mouse := by
  refine (onStream_processRequest ?_ ?_ offline).bind (Prog.returns_true _) fun _ _ => trivial
  · exact Nat.le_of_ble_eq_true rfl
  · refine readsOnly_sends _ .start _ fun m' _ => ?_
    simp [ReadsOnly, modeAfter, sendMouse, readData]

theorem onStream_runOperations (offline : Bool) (ops : List Operation) :
    (runOperations offline ops).OnStream .mouse := by
  induction ops with
  | nil => exact trivial
  | cons op ops ih =>
      have hprogram : (op.program offline).OnStream .mouse := by
        cases op with
        | modeByte quick v =>
            cases quick with
            | true =>
                exact (onStream_sendAll (Nat.le_of_ble_eq_true rfl) offline).bind (Prog.returns_true _) fun _ _ =>
                  trivial
            | false =>
                exact (onStream_sendAll (Nat.le_of_ble_eq_true rfl) offline).bind (Prog.returns_true _) fun _ _ =>
                  trivial
        | led v =>
            exact (onStream_sendAll (Nat.le_of_ble_eq_true rfl) offline).bind (Prog.returns_true _) fun _ _ => trivial
        | enable on =>
            exact (onStream_sendAll (Nat.le_of_ble_eq_true rfl) offline).bind (Prog.returns_true _)
              fun _ _ => trivial
        | query v =>
            exact (onStream_getTouchPadData offline v).bind (Prog.returns_true _) fun _ _ => trivial
      exact hprogram.bind (Prog.returns_true _) fun _ _ =>
        ih.bind (Prog.returns_true _) fun _ _ => trivial

/-- While the hardware is offline no operation sends anything. -/
theorem idles_runOperations (ops : List Operation) : ∃ replies, (runOperations true ops).Idles replies := by
  induction ops with
  | nil => exact ⟨[], rfl⟩
  | cons op ops ih =>
      obtain ⟨replies, hops⟩ := ih
      have hprogram : ∃ reply, (op.program true).Idles reply := by
        cases op with
        | modeByte quick v => cases quick <;> exact ⟨_, rfl⟩
        | led v => exact ⟨_, rfl⟩
        | enable on => exact ⟨_, rfl⟩
        | query v => exact ⟨_, rfl⟩
      obtain ⟨reply, hop⟩ := hprogram
      exact ⟨reply :: replies, hop.bind (hops.bind rfl)⟩

/-- **The operations do what they are for.**  On every touchpad, with any traffic on the keyboard's stream
that lets the answers through in time, a list of operations has the replies and the effects that it is
for; the line is idle again, and every byte of the keyboard has been handed on, once and in order. -/
theorem operations_refine (hk : k.IsTouchpad) {traffic : ℕ → List Poll}
    (ht : Harmless .mouse traffic) (h : d.awaiting = none) (ops : List Operation) (n : ℕ) :
    let r := live .mouse k.device traffic (runOperations false ops) (.idle d n)
    r.value = ops.map (Operation.reply k) ∧
      view r.line.device = ops.foldl Operation.effect (view d) ∧
      r.line = .idle r.line.device r.line.sent ∧
      onStream .mouse r.dispatched = [] ∧
      onStream .keyboard r.dispatched =
        onStream .keyboard (passed traffic n (r.line.sent - n)) := by
  intro r
  obtain ⟨d', -, hview, hc⟩ := converse_runOperations hk ops h
  obtain ⟨hvalue, hline, -, hstrays, hother⟩ :=
    live_idle k.device ht (onStream_runOperations false ops) hc n
  have hdevice : r.line.device = d' := congrArg Line.device hline
  refine ⟨hvalue, ?_, ?_, hstrays, hother⟩
  · rw [hdevice, hview]
  · rw [hdevice]
    exact hline

/-- Two operations on a touchpad that has just got power, while somebody types. -/
theorem operations_refine_typing :
    let r := live .mouse (touchpad fun _ => (1, 0x47, 0x18)).device typing
      (runOperations false [.query 0, .modeByte false 0xC1]) (.idle (poweredOn 0) 0)
    r.value = [.data (some (1, 0x47, 0x18)), .acknowledged true] ∧
      view r.line.device = ⟨0xC1, 0, true⟩ ∧
      r.line = .idle r.line.device r.line.sent ∧
      onStream .mouse r.dispatched = [] ∧
      onStream .keyboard r.dispatched = onStream .keyboard (passed typing 0 (r.line.sent - 0)) :=
  operations_refine (isTouchpad_touchpad _) harmless_typing rfl [.query 0, .modeByte false 0xC1] 0

end Touchpad

end VoodooPS2
