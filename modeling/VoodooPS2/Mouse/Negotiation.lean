import Mathlib.Tactic.IntervalCases
import VoodooPS2.Mouse.Commands
import VoodooPS2.Mouse.Framing

/-! # What the mouse driver finds out about its mouse

`resetMouse` negotiates: it sets defaults, looks for a LED, finds out the resolution and the sample rate or
restores them, tries the special sequences for a wheel and for five buttons, and switches packets on.  It
is run at the start and whenever the mouse is powered again.

`converse_findMouse` says what the driver knows of the mouse then, and of the byte that its first request
leaves over. -/

namespace VoodooPS2.Mouse

open Controller Dialogue

/-- The driver, as far as its mouse and the packets of it go. -/
structure State where
  options : Options
  /-- `_buttonTimer` has been created -/
  hasButtonTimer : Bool
  /-- the handlers of interrupts and of power control are there -/
  handlersInstalled : Bool
  ignoreall : Bool
  ledpresent : Bool
  mouseInfoBytes : UInt32
  /-- `_resolution`, an `IOFixed` -/
  resolution : Int32
  type : PS2MouseId
  framer : Framer

/-- The driver after `init`, with its options read. -/
def State.created (options : Options) : State where
  options := options
  hasButtonTimer := false
  handlersInstalled := false
  ignoreall := false
  ledpresent := false
  mouseInfoBytes := noInformation
  resolution := 0
  type := .standard
  framer := initial

/-- The resolution by the second byte of the information. -/
def resolutionOf (mouseInfoBytes : UInt32) : Int32 :=
  let code := mouseInfoBytes &&& 0x00FF00
  Options.toFixed (if code = 0x0000 then 25 else if code = 0x0100 then 50 else if code = 0x0200 then 100
    else if code = 0x0300 then 200 else 150)

def Options.setButtonCount (o : Options) (n : Int32) : Options :=
  { o with int := fun v => if v = .buttonCount then n else o.int v }

/-- The Synaptics specifics (ActLikeTrackpad trick): whether there is a LED. -/
def probeLED (hardwareOffline : Bool) (o : Options) : Prog Bool :=
  if o.bool .actliketrackpad = true ∧ o.bool .noled = false then do
    let identity ← Touchpad.getTouchPadData hardwareOffline 0x0
    match identity with
    | none => return false
    | some (_, type, _) =>
        if type ≠ 0x46 ∧ type ≠ 0x47 then return false
        else do
          let capabilities ← Touchpad.getTouchPadData hardwareOffline 0x2
          match capabilities with
          | none => return false
          | some (b0, _, _) =>
              if b0 &&& 0x80 = 0 then return false
              else if (b0 &&& 0x70) >>> 4 < 1 then return false
              else do
                let model ← Touchpad.getTouchPadData hardwareOffline 0x9
                match model with
                | none => return false
                | some (m0, _, _) => return decide ((m0 >>> 6) &&& 1 ≠ 0)
  else return false

/-- `kDP_SetDefaults`, whose acknowledge is not read, and the information. -/
def resetRequest : List PS2Command :=
  transmitMouse kDPSetDefaults ++ transmitMouse kDPGetMouseInformation ++
    [compareAck, readData, readData, readData]

/-- The state with the information of the mouse. -/
def State.inform (s : State) (mouseInfoBytes : UInt32) : State :=
  { s with
    mouseInfoBytes := mouseInfoBytes
    resolution :=
      if s.options.bool .forceres then s.options.int .defres else resolutionOf mouseInfoBytes }

def readResolution (hardwareOffline : Bool) (s : State) : Prog State := do
  let mouseInfoBytes ← getMouseInformation hardwareOffline
  return s.inform mouseInfoBytes

/-- attempt switch to high resolution -/
def forceResolution (hardwareOffline : Bool) (s : State) : Prog Unit :=
  if s.options.bool .forcesetres = true ∧ s.options.int .resmode ≠ -1 then
    setMouseResolution hardwareOffline (s.options.int .resmode).toUInt32.toUInt8
  else return ()

/-- Obtain our mouse's resolution and sampling rate, or restore the resolution. -/
def obtainResolution (hardwareOffline : Bool) (s : State) : Prog State :=
  if s.mouseInfoBytes = noInformation then do
    forceResolution hardwareOffline s
    readResolution hardwareOffline s
  else do
    setMouseResolution hardwareOffline ((s.mouseInfoBytes >>> 8) &&& 3).toUInt8
    return s

/-- Packets of the length for the type are read from now on, and nothing is left of those before. -/
def Framer.restart (d : Framer) (type : PS2MouseId) : Framer :=
  { d with
    ring := { d.ring with ringBuffer := d.ring.ringBuffer.reset }
    packetByteCount := 0
    packetLength := if type ≠ .standard then kPacketLengthIntellimouse else kPacketLengthStandard
    packetLength_eq := by
      split
      · exact .inr rfl
      · exact .inl rfl }

/-- What the type of the mouse means. -/
def State.settle (s : State) : State :=
  let count := match s.type with
    | .standard => s.options.int .buttonCount
    | .intellimouse => 3
    | .intellimouseExplorer => 5
  let count :=
    if count = 2 ∧ s.options.bool .fakemiddlebutton = true ∧ s.hasButtonTimer = true then 3 else count
  { s with
    framer := s.framer.restart s.type
    options := s.options.setButtonCount count }

/-- `resetMouse` after its first request, as far as it finds out about the mouse. -/
def negotiate (hardwareOffline : Bool) (s : State) : Prog State := do
  let ledpresent ← probeLED hardwareOffline s.options
  let s ← obtainResolution hardwareOffline { s with ledpresent := ledpresent }
  let type ← setIntellimouseMode hardwareOffline s.mouseInfoBytes
  return { s with type := type }

def findMouse (hardwareOffline : Bool) (s : State) : Prog State := do
  let _ ← processRequest hardwareOffline (.ofCommands resetRequest)
  negotiate hardwareOffline s

def resetMouse (hardwareOffline : Bool) (s : State) : Prog State := do
  let s ← findMouse hardwareOffline s
  let s := s.settle
  setMouseEnable hardwareOffline true
  return s

def updateTouchpadLED (hardwareOffline : Bool) (s : State) : Prog Unit :=
  if s.ledpresent = true ∧ s.options.bool .noled = false then do
    let _ ← Touchpad.setTouchpadLED hardwareOffline (LED.value s.ignoreall)
    return ()
  else return ()

/-! ### With the hardware offline -/

theorem idles_probeLED (o : Options) : (probeLED true o).Idles false := by
  rw [probeLED]
  split <;> rfl

/-- Without a reply the driver knows of the mouse what it has known before. -/
theorem idles_obtainResolution (s : State) :
    ∃ resolution, (obtainResolution true s).Idles { s with resolution := resolution } := by
  rw [obtainResolution]
  split
  · rename_i hnone
    have hforce : (forceResolution true s).Idles () := by
      rw [forceResolution]
      split <;> rfl
    have hread : (readResolution true s).Idles (s.inform noInformation) := rfl
    rw [State.inform, ← hnone] at hread
    exact ⟨_, hforce.bind hread⟩
  · exact ⟨s.resolution, rfl⟩

theorem idles_setIntellimouseMode (mouseInfoBytes : UInt32) :
    (setIntellimouseMode true mouseInfoBytes).Idles .standard := by
  have hknock : (knock true 200 100 80).Idles 0xFF := rfl
  have hrate : (setMouseSampleRate true (mouseInfoBytes &&& 0x0000FF).toUInt8).Idles () := rfl
  have htry : (tryExplorer true (.ofByte 0xFF)).Idles .standard := rfl
  exact hknock.bind (htry.bind (hrate.bind rfl))

theorem idles_findMouse (s : State) : ∃ resolution, (findMouse true s).Idles { s with
    ledpresent := false, resolution := resolution, type := .standard } := by
  obtain ⟨resolution, hobtain⟩ := idles_obtainResolution { s with ledpresent := false }
  have hnegotiate : (negotiate true s).Idles { s with
      ledpresent := false, resolution := resolution, type := .standard } :=
    (idles_probeLED s.options).bind (hobtain.bind ((idles_setIntellimouseMode s.mouseInfoBytes).bind rfl))
  exact ⟨resolution, hnegotiate⟩

/-! ### The information word -/

theorem rate_informationWord (i : UInt8 × UInt8 × UInt8) :
    (informationWord i &&& 0x0000FF).toUInt8 = i.2.2 := by
  apply UInt8.eq_of_toBitVec_eq
  ext j hj
  simp [informationWord]
  interval_cases j <;> simp

theorem resolution_informationWord (i : UInt8 × UInt8 × UInt8) :
    ((informationWord i >>> 8) &&& 3).toUInt8 = i.2.1 &&& 3 := by
  apply UInt8.eq_of_toBitVec_eq
  ext j hj
  simp [informationWord]
  interval_cases j <;> simp

/-! ### What the mouse is left with -/

section

variable {k : PointingModel} {d d' : PointingDevice}

/-- The bytes of a packet. -/
def packetLengthOf (identity : UInt8) : ℕ :=
  if identity = 0x03 ∨ identity = 0x04 then kPacketLengthIntellimouse else kPacketLengthStandard

theorem packetLength_settle {s : State} {i : UInt8} (h : s.type = .ofByte i) :
    s.settle.framer.packetLength = packetLengthOf i := by
  change (if s.type ≠ .standard then kPacketLengthIntellimouse else kPacketLengthStandard) = _
  rw [h, packetLengthOf, PS2MouseId.ofByte]
  by_cases h4 : i = 0x04
  · rw [if_pos h4, if_pos (by decide), if_pos (.inr h4)]
  · by_cases h3 : i = 0x03
    · rw [if_neg h4, if_pos h3, if_pos (by decide), if_pos (.inl h3)]
    · rw [if_neg h4, if_neg h3, if_neg (by decide), if_neg (not_or.mpr ⟨h3, h4⟩)]

theorem information_of_isMouse (hk : k.IsMouse) (d : PointingDevice) :
    k.information d = (PointingModel.status d, d.resolution, d.rate) := by
  rw [PointingModel.information, hk.special]

/-- Nothing is begun, the identity is the same, and a default sample rate stays one. -/
structure Kept (k : PointingModel) (d d' : PointingDevice) : Prop where
  awaiting : d'.awaiting = none
  identity : d'.identity = d.identity
  rate : d.rate = k.defaultRate → d'.rate = k.defaultRate

theorem kept_disable (h : d.awaiting = none) : Kept k d (k.command d kDPSetDefaultsAndDisable) := by
  rw [PointingModel.command, if_neg (by decide), if_neg (by decide), if_pos rfl]
  split
  · exact ⟨h, rfl, fun _ => rfl⟩
  · exact ⟨h, rfl, id⟩

/-- A mouse is never taken for a touchpad: the second byte of its answer is the last argument. -/
theorem leaves_probeLED (hk : k.IsMouse) (h : d.awaiting = none) (o : Options) :
    ∃ d', Kept k d d' ∧ Leaves .mouse k.device d (probeLED false o) false d' := by
  rw [probeLED]
  split
  · obtain ⟨d1, d2, h1, hready, -, hd2, hc⟩ := Touchpad.converse_getTouchPadData (k := k) h 0x0
    have hfirst := Touchpad.takes_encode (k := k)
      (d := k.command d kDPSetDefaultsAndDisable) (kept_disable h).awaiting 0x0
    have hd1 := h1.1.2
    rw [Device.after_append, show k.device.after d [kDPSetDefaultsAndDisable] =
      k.command d kDPSetDefaultsAndDisable from PointingModel.step_command h _, hfirst.2] at hd1
    have hkept1 : Kept k d d1 := by
      rw [← hd1]
      exact ⟨(kept_disable h).awaiting, (kept_disable h).identity, (kept_disable h).rate⟩
    have hkept : Kept k d d2 := by
      rw [hd2, Device.after_cons, PointingModel.step_command hkept1.awaiting,
        PointingModel.command_information]
      have hlast := kept_disable (k := k) (d := { d1 with resolutions := [] }) hkept1.awaiting
      rw [show k.device.after { d1 with resolutions := [] } [kDPSetDefaultsAndDisable] =
        k.command { d1 with resolutions := [] } kDPSetDefaultsAndDisable from
          PointingModel.step_command (d := { d1 with resolutions := [] }) hkept1.awaiting _]
      exact ⟨hlast.awaiting, hlast.identity.trans hkept1.identity,
        fun hr => hlast.rate (hkept1.rate hr)⟩
    refine ⟨d2, hkept, Leaves.bind hc ?_⟩
    rw [information_of_isMouse hk, ← hd1]
    exact leaves_pure false d2
  · exact ⟨d, ⟨h, rfl, id⟩, leaves_pure false d⟩

/-- The mouse has been found with the default sample rate, or has not been found yet. -/
def Known (k : PointingModel) (s : State) : Prop :=
  s.mouseInfoBytes = noInformation ∨
    ∃ st r, s.mouseInfoBytes = informationWord (st, r, k.defaultRate)

/-- What is found out first stays, and the mouse has the resolution of it. -/
structure Obtained (k : PointingModel) (s s' : State) (d' : PointingDevice) : Prop where
  ledpresent : s'.ledpresent = s.ledpresent
  handlersInstalled : s'.handlersInstalled = s.handlersInstalled
  stays : s.mouseInfoBytes ≠ noInformation → s'.mouseInfoBytes = s.mouseInfoBytes
  info : ∃ st r, s'.mouseInfoBytes = informationWord (st, r, k.defaultRate) ∧
    d'.resolution &&& 3 = r &&& 3

theorem obtained_readResolution (hk : k.IsMouse) (h : d.awaiting = none)
    (hrate : d.rate = k.defaultRate) {s : State} (hs : s.mouseInfoBytes = noInformation) :
    ∃ s' d', Leaves .mouse k.device d (readResolution false s) s' d' ∧ Kept k d d' ∧ Obtained k s s' d' := by
  have hinfo : informationWord (k.information d) =
      informationWord (PointingModel.status d, d.resolution, k.defaultRate) := by
    rw [information_of_isMouse hk, hrate]
  refine ⟨s.inform (informationWord (k.information d)), { d with resolutions := [] },
    (leaves_getMouseInformation h).bind (leaves_pure _ _), ⟨h, rfl, id⟩, ?_⟩
  exact ⟨rfl, rfl, fun hne => absurd hs hne, PointingModel.status d, d.resolution, hinfo, rfl⟩

theorem leaves_forceResolution (h : d.awaiting = none) (s : State) :
    ∃ d', Leaves .mouse k.device d (forceResolution false s) () d' ∧ Kept k d d' := by
  rw [forceResolution]
  split
  · exact ⟨_, leaves_setMouseResolution h _, h, rfl, id⟩
  · exact ⟨d, leaves_pure () d, h, rfl, id⟩

theorem Kept.trans {d'' : PointingDevice} (h : Kept k d d') (h' : Kept k d' d'') : Kept k d d'' :=
  ⟨h'.awaiting, h'.identity.trans h.identity, fun hr => h'.rate (h.rate hr)⟩

theorem leaves_obtainResolution (hk : k.IsMouse) (h : d.awaiting = none)
    (hrate : d.rate = k.defaultRate) {s : State} (hs : Known k s) :
    ∃ s' d', Leaves .mouse k.device d (obtainResolution false s) s' d' ∧ Kept k d d' ∧ Obtained k s s' d' := by
  rw [obtainResolution]
  split
  · rename_i hfirst
    obtain ⟨d1, hl1, hkept1⟩ := leaves_forceResolution (k := k) h s
    obtain ⟨s2, d2, hl2, hkept2, hobtained⟩ :=
      obtained_readResolution hk hkept1.awaiting (hkept1.rate hrate) hfirst
    exact ⟨s2, d2, hl1.bind hl2, hkept1.trans hkept2, hobtained⟩
  · rename_i hfound
    obtain ⟨st, r, hinfo⟩ := hs.resolve_left hfound
    have hset := leaves_setMouseResolution (k := k) h ((s.mouseInfoBytes >>> 8) &&& 3).toUInt8
    refine ⟨s, _, hset.bind (leaves_pure s _), ⟨h, rfl, id⟩, rfl, rfl, fun _ => rfl, st, r, hinfo, ?_⟩
    have hmask : ∀ b : BitVec 8, b &&& 3#8 &&& 3#8 = b &&& 3#8 := by decide
    rw [hinfo, resolution_informationWord]
    exact UInt8.eq_of_toBitVec_eq (hmask r.toBitVec)

/-- What the driver knows of the mouse is so. -/
structure Found (k : PointingModel) (s : State) (d : PointingDevice) : Prop where
  type : s.type = .ofByte d.identity
  rate : d.rate = k.defaultRate
  info : ∃ st r, s.mouseInfoBytes = informationWord (st, r, k.defaultRate) ∧
    d.resolution &&& 3 = r &&& 3

theorem leaves_negotiate (hk : k.IsMouse) (hknocks : Knocks k) (h : d.awaiting = none)
    (hrate : d.rate = k.defaultRate) {s : State} (hs : Known k s) :
    ∃ s' d', Leaves .mouse k.device d (negotiate false s) s' d' ∧ d'.awaiting = none ∧ Found k s' d' ∧
      s'.ledpresent = false ∧ s'.handlersInstalled = s.handlersInstalled ∧
      (s.mouseInfoBytes ≠ noInformation → s'.mouseInfoBytes = s.mouseInfoBytes) := by
  obtain ⟨d1, hkept1, hl1⟩ := leaves_probeLED hk h s.options
  obtain ⟨s2, d2, hl2, hkept2, hobtained⟩ := leaves_obtainResolution hk hkept1.awaiting
    (hkept1.rate hrate) (s := { s with ledpresent := false }) hs
  obtain ⟨st, r, hinfo, hresolution⟩ := hobtained.info
  obtain ⟨i, rates, hl3⟩ := leaves_setIntellimouseMode hk hknocks hkept2.awaiting s2.mouseInfoBytes
  refine ⟨{ s2 with type := .ofByte i }, _, hl1.bind (hl2.bind (hl3.bind (leaves_pure _ _))), rfl,
    ⟨rfl, ?_, st, r, hinfo, hresolution⟩, hobtained.ledpresent, hobtained.handlersInstalled,
    hobtained.stays⟩
  change (s2.mouseInfoBytes &&& 0x0000FF).toUInt8 = k.defaultRate
  rw [hinfo, rate_informationWord]

/-! ### The first request -/

theorem tolerates_negotiate (h : d.awaiting = none) {b : UInt8} (hb : b ≠ kSCAcknowledge) (s : State) :
    Tolerates k.device d [b] (negotiate false s) := by
  have hstray : Stray [b] := .inr ⟨b, hb, rfl⟩
  have hdisable : k.device.answer d kDPSetDefaultsAndDisable = [kSCAcknowledge] :=
    PointingModel.answer_command h (by decide) (by decide) (by decide) (by decide)
  have hset (r : UInt8) : Tolerates k.device d [b] (setMouseResolution false r) := by
    refine Tolerates.bind (tolerates_processRequest (Nat.le_of_ble_eq_true rfl) ?_) _
    exact tolerates_transmit hstray (PointingModel.answer_command h (by decide) (by decide) (by decide) (by decide))
      .start 0 _
  rw [negotiate, Prog.bind_eq]
  by_cases hled : s.options.bool .actliketrackpad = true ∧ s.options.bool .noled = false
  · rw [probeLED, if_pos hled]
    refine Tolerates.bind (Tolerates.bind (Tolerates.bind ?_ _) _) _
    exact tolerates_processRequest (Nat.le_of_ble_eq_true rfl)
      (tolerates_send hstray hdisable .start 0 _)
  · rw [probeLED, if_neg hled]
    change Tolerates k.device d [b]
      ((obtainResolution false { s with ledpresent := false }).bind fun s' => _)
    refine Tolerates.bind ?_ _
    by_cases hfirst : s.mouseInfoBytes = noInformation
    · rw [obtainResolution, if_pos hfirst, Prog.bind_eq, forceResolution]
      split
      · exact (hset _).bind _
      · refine Tolerates.bind (Tolerates.bind ?_ _) _
        exact tolerates_processRequest (Nat.le_of_ble_eq_true rfl)
          (tolerates_transmit hstray (PointingModel.answer_information h) .start 0 _)
    · rw [obtainResolution, if_neg hfirst]
      exact (hset _).bind _

/-- The acknowledge of `kDP_SetDefaults` is taken for that of the next command, so the last byte of the
answer is left. -/
theorem converse_resetRequest (hk : k.IsMouse) (h : d.awaiting = none) :
    ∃ d1, d1.awaiting = none ∧ d1.rate = k.defaultRate ∧
      (converse .mouse k.device (processRequest false (.ofCommands resetRequest)) (.idle d)).talk =
        ⟨d1, none, [k.defaultRate]⟩ ∧
      (converse .mouse k.device (processRequest false (.ofCommands resetRequest)) (.idle d)).strays =
        [] := by
  let d0 := k.command d kDPSetDefaults
  have hd0 : k.device.step d kDPSetDefaults = d0 := PointingModel.step_command h _
  have hready : d0.awaiting = none := h
  have hack : k.device.answer d kDPSetDefaults = [kSCAcknowledge] :=
    PointingModel.answer_command h (by decide) (by decide) (by decide) (by decide)
  have hanswer : k.device.answer d0 kDPGetMouseInformation =
      [kSCAcknowledge, PointingModel.status d0, d0.resolution, k.defaultRate] := by
    rw [PointingModel.answer_information hready, information_of_isMouse hk]
    rfl
  have hheard : hearAck ([kSCAcknowledge] ++ k.device.answer d0 kDPGetMouseInformation) =
      ⟨some kSCAcknowledge, [], [kSCAcknowledge, PointingModel.status d0, d0.resolution] ++
        [k.defaultRate]⟩ := by
    rw [hanswer]
    exact hearAck_cons _
  have hreads := converse_reads k.device
    [kSCAcknowledge, PointingModel.status d0, d0.resolution] [k.defaultRate]
    (k.device.step d0 kDPGetMouseInformation) false 5 []
  have hlen : resetRequest.length ≤ 255 := Nat.le_of_ble_eq_true rfl
  have hwrite := converse_write k.device .start 0 d [] kDPSetDefaults
    (transmitMouse kDPGetMouseInformation ++ [compareAck, readData, readData, readData])
  rw [hd0, hack, List.nil_append, converse_transmit k.device hheard] at hwrite
  have hloop : converse .mouse k.device (processCommands .start 0 resetRequest) (.idle d) =
      ((((converse .mouse k.device (processCommands ⟨.mouse, false⟩ 8 [])
        ⟨k.device.step d0 kDPGetMouseInformation, none, [k.defaultRate]⟩).behind
          ([kSCAcknowledge, PointingModel.status d0, d0.resolution].map readInto)).behind
            (transmitMouse kDPGetMouseInformation ++ [compareAck])).after []).behind
              (transmitMouse kDPSetDefaults) :=
    hwrite.trans (congrArg (fun c => ((Conversation.behind _ c).after []).behind _) hreads)
  refine ⟨k.device.step d0 kDPGetMouseInformation, ?_, ?_, ?_, ?_⟩
  · rw [PointingModel.step_command hready]
    exact hready
  · rw [PointingModel.step_command hready]
    rfl
  · rw [converse_processRequest k.device .mouse hlen, hloop]
    rfl
  · rw [converse_processRequest k.device .mouse hlen, hloop]
    rfl

/-- One byte goes to the driver that is no packet's. -/
theorem converse_findMouse (hk : k.IsMouse) (hknocks : Knocks k)
    (hdefault : k.defaultRate ≠ kSCAcknowledge) (h : d.awaiting = none) {s : State} (hs : Known k s) :
    ∃ s' d', converse .mouse k.device (findMouse false s) (.idle d) =
        ⟨s', .idle d', [k.defaultRate]⟩ ∧
      d'.awaiting = none ∧ Found k s' d' ∧
      s'.ledpresent = false ∧ s'.handlersInstalled = s.handlersInstalled ∧
      (s.mouseInfoBytes ≠ noInformation → s'.mouseInfoBytes = s.mouseInfoBytes) := by
  obtain ⟨d1, hready, hrate, htalk, hstrays⟩ := converse_resetRequest hk h
  obtain ⟨s', d', hl, hspec⟩ := leaves_negotiate hk hknocks hready hrate hs
  refine ⟨s', d', ?_, hspec⟩
  have htolerates := tolerates_negotiate (k := k) hready hdefault s
  rw [findMouse, Prog.bind_eq, converse_bind, htalk, hstrays,
    show converse .mouse k.device (negotiate false s) ⟨d1, none, [k.defaultRate]⟩ = _ from htolerates, hl]
  rfl

end

end VoodooPS2.Mouse
