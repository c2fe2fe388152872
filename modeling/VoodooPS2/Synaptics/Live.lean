import VoodooPS2.Controller.Installed
import VoodooPS2.Synaptics.Programmed

/-! # The Synaptics driver on its touchpad

The driver together with the touchpad that it has been installed on, over any run of starts, events,
sleeps, wakes and losses of power.  `start` resets the touchpad if that is asked for, and asks it what it can
do, one item of data after the other; whatever the driver puts out for the touchpad is sent over the line, with
the keyboard's bytes in between.  While the controller is asleep nothing is sent.

`Live.keeps_mode`: once the driver has been started or woken, and as long as it is not put to sleep, the
touchpad is in the mode that the driver has in mind, and the packets it sends are of the format that the
driver takes them for; the LED says whether the touchpad is disabled. -/

namespace VoodooPS2.Synaptics

open Controller Dialogue Touchpad PointingModel

/-! ### Asking the touchpad -/

/-- The replies that `queryCapabilities` has got.  What it does not ask for is `none`. -/
structure Asked where
  general : Option (UInt8 × UInt8 × UInt8)
  guest : Option (UInt8 × UInt8 × UInt8)
  model : Option (UInt8 × UInt8 × UInt8)
  continued : Option (UInt8 × UInt8 × UInt8)
  resolution : Option (UInt8 × UInt8 × UInt8)

def Asked.query (a : Asked) (touchPadType : UInt8) (skippassthru forcepassthru : Bool) : Query where
  data dataSelector :=
    if dataSelector = 0x2 then a.general
    else if dataSelector = 0x1 then a.guest
    else if dataSelector = 0x9 then a.model
    else if dataSelector = 0xC then a.continued
    else if dataSelector = 0x8 then a.resolution
    else none
  touchPadType := touchPadType
  skippassthru := skippassthru
  forcepassthru := forcepassthru

def askIf (hardwareOffline asks : Bool) (dataSelector : UInt8) :
    Prog (Option (UInt8 × UInt8 × UInt8)) :=
  if asks then getTouchPadData hardwareOffline dataSelector else return none

/-- What the driver goes by when it starts. -/
structure Options where
  touchPadType : UInt8
  skippassthru : Bool
  forcepassthru : Bool
  /-- `HWResetOnStart` -/
  hwresetonstart : Bool
  wakedelay : UInt32

/-- The replies of the touchpad to all there is to ask. -/
def Options.query (o : Options) (k : PointingModel) : Query :=
  ⟨fun dataSelector => some (k.data dataSelector), o.touchPadType, o.skippassthru, o.forcepassthru⟩

/-- No reply to anything, as while the hardware is offline. -/
def Options.unanswered (o : Options) : Query :=
  Asked.query ⟨none, none, none, none, none⟩ o.touchPadType o.skippassthru o.forcepassthru

/-- The unit of the resolution is to be had from the touchpad. -/
def Config.asksResolution (c : Config) : Bool := c.int .xupmm < 0 ∨ c.int .yupmm < 0

/-- `kPS2C_ReadMouseDataPortAndCompare`. -/
def compareMouse (byte : UInt8) : PS2Command := ⟨.readMouseDataPortAndCompare, byte, 0, 0, 0⟩

/-- `kPS2C_SleepMS`. -/
def sleepMS (ms : UInt32) : PS2Command := PS2Command.setInOrOut32 ⟨.sleepMS, 0, 0, 0, 0⟩ ms.toNat

/-- The reset is answered by the acknowledge, and some time later by the result of the self-test and the
identity. -/
def resetCommands (wakedelay : UInt32) : List PS2Command :=
  [kDPSetDefaultsAndDisable, kDPSetDefaultsAndDisable].map sendMouse ++ (transmitMouse kDPReset ++
    compareAck :: [sleepMS (wakedelay * 2), compareMouse kSCReset, compareMouse 0x00])

/-- `doHardwareReset`.  The outcome is not looked at. -/
def doHardwareReset (hardwareOffline : Bool) (wakedelay : UInt32) : Prog Unit := do
  let _ ← processRequest hardwareOffline (.ofCommands (resetCommands wakedelay))
  return ()

namespace Pad

/-- `queryCapabilities`. -/
def queryTouchPad (hardwareOffline : Bool) (o : Options) (s : Pad) : Prog Pad := do
  let general ← getTouchPadData hardwareOffline 0x2
  let n := (Asked.query ⟨general, none, none, none, none⟩ o.touchPadType o.skippassthru
    o.forcepassthru).nExtendedQueries
  let guest ← askIf hardwareOffline (!o.skippassthru) 0x1
  let model ← askIf hardwareOffline (decide (o.touchPadType ≠ 0x46 ∧ n ≥ 1)) 0x9
  let continued ← askIf hardwareOffline (decide (n ≥ 4)) 0xC
  let resolution ← askIf hardwareOffline s.cfg.asksResolution 0x8
  return s.queryCapabilities (Asked.query ⟨general, guest, model, continued, resolution⟩
    o.touchPadType o.skippassthru o.forcepassthru)

/-- `start`, with what it sends. -/
def startTouchPad (hardwareOffline : Bool) (o : Options) (s : Pad) : Prog Pad := do
  (if o.hwresetonstart then doHardwareReset hardwareOffline o.wakedelay else return ())
  let s ← queryTouchPad hardwareOffline o
    { s with
      log := []
      caps := { s.caps with hasDragTimer := s.cfg.time .dragexitdelay ≠ 0 } }
  let s' := s.setTouchpadModeByte.updateTouchpadLED
  let _ ← runOperations hardwareOffline (sent false s'.log)
  return s'

end Pad

/-- The simplified sequence is for the clicks of a ClickPad. -/
def PadEvent.isPacket : PadEvent → Bool
  | packet _ _ => true
  | _ => false

namespace Pad

/-- An event, with what the driver sends. -/
def handleTouchPad (hardwareOffline : Bool) (e : PadEvent) (s : Pad) : Prog Pad := do
  let _ ← runOperations hardwareOffline (sent e.isPacket (s.handle e).log)
  return s.handle e

/-- `setDevicePowerState(kPS2C_DisableDevice)`. -/
def disableTouchPad (hardwareOffline : Bool) (s : Pad) : Prog Pad := do
  let _ ← runOperations hardwareOffline [.enable false]
  return s

end Pad

/-! ### What the touchpad is asked -/

section

variable {k : PointingModel} (o : Options)

/-- The replies to what `queryCapabilities` asks. -/
def Options.asked (k : PointingModel) (c : Config) : Asked :=
  let n := (o.query k).nExtendedQueries
  let reply (asks : Bool) (v : UInt8) := if asks then some (k.data v) else none
  ⟨some (k.data 0x2), reply (!o.skippassthru) 0x1, reply (decide (o.touchPadType ≠ 0x46 ∧ n ≥ 1)) 0x9,
    reply (decide (n ≥ 4)) 0xC, reply c.asksResolution 0x8⟩

/-- What is not asked for makes no difference. -/
theorem queryCapabilities_asked (s : Pad) :
    s.queryCapabilities ((o.asked k s.cfg).query o.touchPadType o.skippassthru o.forcepassthru) =
      s.queryCapabilities (o.query k) := by
  let q := (o.asked k s.cfg).query o.touchPadType o.skippassthru o.forcepassthru
  have hgeneral : q.general = (o.query k).general := rfl
  have hn : q.nExtendedQueries = (o.query k).nExtendedQueries := rfl
  have hpassthru (old : Bool) : q.passthru old = (o.query k).passthru old := by
    rw [Query.passthru, Query.passthru]
    change (o.forcepassthru || if o.skippassthru then old else _) =
      (o.forcepassthru || if o.skippassthru then old else _)
    by_cases hskip : o.skippassthru = true
    · rw [if_pos hskip, if_pos hskip]
    · rw [if_neg hskip, if_neg hskip, hgeneral]
      have hguest : q.data 0x1 = (o.query k).data 0x1 := if_pos (by simp [hskip])
      rw [Query.guestPresent, Query.guestPresent, hguest]
  have hled (old : Bool) : q.ledpresent old = (o.query k).ledpresent old := by
    rw [Query.ledpresent, Query.ledpresent]
    change (if o.touchPadType = 0x46 then true else _) = if o.touchPadType = 0x46 then true else _
    by_cases htype : o.touchPadType = 0x46
    · rw [if_pos htype, if_pos htype]
    · rw [if_neg htype, if_neg htype, hn]
      by_cases hone : (o.query k).nExtendedQueries ≥ 1
      · have hmodel : q.data 0x9 = (o.query k).data 0x9 := if_pos (by simp [htype, hone])
        rw [if_pos hone, if_pos hone, hmodel]
      · rw [if_neg hone, if_neg hone]
  have hcontinued : q.continued = (o.query k).continued := by
    rw [Query.continued, Query.continued, hn]
    by_cases hfour : (o.query k).nExtendedQueries ≥ 4
    · have hdata : q.data 0xC = (o.query k).data 0xC := if_pos (by simp [hfour])
      rw [if_pos hfour, if_pos hfour, hdata]
    · rw [if_neg hfour, if_neg hfour]
  have hconfig : q.config s.cfg = (o.query k).config s.cfg := by
    by_cases hasks : s.cfg.asksResolution = true
    · have hdata : q.data 0x8 = (o.query k).data 0x8 := if_pos hasks
      rw [Query.config, Query.config, Query.resolution, Query.resolution, hdata]
    · -- both units are there already, so nothing is taken from the touchpad
      have hunits : ¬ s.cfg.int .xupmm < 0 ∧ ¬ s.cfg.int .yupmm < 0 := by
        rw [Config.asksResolution, decide_eq_true_iff] at hasks
        exact not_or.mp hasks
      have hkept (r : Query) : r.config s.cfg = s.cfg := by
        rw [Query.config]
        split
        · refine congrArg (fun f => { s.cfg with int := f }) (funext fun v => ?_)
          cases v <;> first
            | exact if_neg hunits.1
            | exact if_neg hunits.2
            | rfl
        · rfl
      rw [hkept, hkept]
  change { s with cfg := q.config s.cfg, caps := q.capabilities s.caps } =
    { s with cfg := (o.query k).config s.cfg, caps := (o.query k).capabilities s.caps }
  rw [hconfig, Query.capabilities, Query.capabilities, hpassthru, hled, hcontinued]
  rfl

end

namespace Live

/-- What happens to the driver and its touchpad. -/
inductive Happening where
  | start (o : Options)
  | event (e : PadEvent) (h : e ≠ .wake)
  /-- the controller is put to sleep -/
  | sleep
  /-- the controller is woken -/
  | wake
  /-- the touchpad loses its power, and comes back in any state without a command begun -/
  | powerLost (d : PointingDevice) (h : d.awaiting = none)

/-- The driver on its touchpad, with what the controller knows of them. -/
structure World extends Powered PointingDevice Pad where
  /-- `_powerControlHandlerInstalled` -/
  handlerInstalled : Bool

namespace World

/-- A driver before its start, on any touchpad. -/
def created (d : PointingDevice) : World := ⟨.created Pad.created d, false⟩

section

variable (k : PointingModel) (traffic : ℕ → List Poll)

/-- A program of the driver.  It leaves no byte of the touchpad over (`exchange_yields`), so none has to be
taken. -/
def exchange (w : World) (p : Bool → Prog Pad) : World :=
  { w with toPowered := w.toPowered.exchange .mouse k.device traffic (fun s _ => s) p }

/-- The power control handler, if it is there. -/
def notify (w : World) (p : Bool → Prog Pad) : World :=
  if w.handlerInstalled then w.exchange k traffic p else w

/-- The controller tells the driver before it goes to sleep, and when it is awake again. -/
def step (w : World) : Happening → World
  | .start o =>
      { w.exchange k traffic (fun offline => w.driver.startTouchPad offline o) with
        handlerInstalled := true }
  | .event e _ => w.exchange k traffic fun offline => w.driver.handleTouchPad offline e
  | .sleep =>
      if w.hardwareOffline then w
      else
        { w.notify k traffic (fun offline => w.driver.disableTouchPad offline) with
          hardwareOffline := true }
  | .wake =>
      if w.hardwareOffline then
        { w with hardwareOffline := false }.notify k traffic fun offline =>
          w.driver.handleTouchPad offline .wake
      else w
  | .powerLost d _ => { w with toPowered := w.replug d }

def run (w : World) (hs : List Happening) : World := hs.foldl (step k traffic) w

end

end World

/-- What has been asked of the driver. -/
def Happening.attention (a : Attention) : Happening → Attention
  | start _ => a.start
  | event _ _ => a
  | sleep => a.sleep
  | wake => a.wake
  | powerLost _ _ => a.losePower

/-! ### Programs on the touchpad -/

/-- With the touchpad alone the program has the result and leaves the view, and no command begun. -/
def Yields {α : Type} (k : PointingModel) (d : PointingDevice) (p : Prog α) (a : α) (v : View) : Prop :=
  ∃ d', d'.awaiting = none ∧ view d' = v ∧
    converse .mouse k.device p (.idle d) = ⟨a, .idle d', []⟩

section

variable {k : PointingModel} {d : PointingDevice} {α β : Type}

theorem Yields.bind {p : Prog α} {a : α} {v w : View} {f : α → Prog β} {b : β}
    (h : Yields k d p a v)
    (h' : ∀ d', d'.awaiting = none → view d' = v → Yields k d' (f a) b w) :
    Yields k d (p.bind f) b w := by
  obtain ⟨d1, hready, hview, hc⟩ := h
  obtain ⟨d2, hready2, hview2, hc2⟩ := h' d1 hready hview
  refine ⟨d2, hready2, hview2, ?_⟩
  rw [converse_bind, hc]
  dsimp only
  rw [hc2]
  rfl

theorem yields_pure (h : d.awaiting = none) (a : α) : Yields k d (pure a) a (view d) :=
  ⟨d, h, rfl, rfl⟩

theorem yields_runOperations (hk : k.IsTouchpad) (h : d.awaiting = none) (ops : List Operation) :
    Yields k d (runOperations false ops) (ops.map (Operation.reply k))
      (ops.foldl Operation.effect (view d)) := converse_runOperations hk ops h

/-- The rest of a program, of which only the form of the view is known. -/
theorem Yields.exists_bind (g : View → View) {p : Prog α} {a : α} {v : View} {f : α → Prog β} {b : β}
    (h : Yields k d p a v) (h' : ∀ d', d'.awaiting = none → ∃ u, Yields k d' (f a) b (g u)) :
    ∃ u, Yields k d (p.bind f) b (g u) := by
  obtain ⟨d1, hready, -, hc⟩ := h
  obtain ⟨u, d2, hready2, hview2, hc2⟩ := h' d1 hready
  refine ⟨u, d2, hready2, hview2, ?_⟩
  rw [converse_bind, hc]
  dsimp only
  rw [hc2]
  rfl

/-- The rest of a program after an item of data, whatever view it leaves. -/
theorem yields_ask (hk : k.IsTouchpad) (h : d.awaiting = none) (v : UInt8)
    {f : Option (UInt8 × UInt8 × UInt8) → Prog β} {b : β}
    (h' : ∀ d', d'.awaiting = none → ∃ w, Yields k d' (f (some (k.data v))) b w) :
    ∃ w, Yields k d ((getTouchPadData false v).bind f) b w := by
  obtain ⟨d1, d2, h1, hready, -, -, hc⟩ := converse_getTouchPadData (k := k) h v
  rw [information_touchpad hk h1.2.2.1] at hc
  have hdata : Yields k d (getTouchPadData false v) (some (k.data v)) (view d2) := ⟨d2, hready, rfl, hc⟩
  exact hdata.exists_bind id h'

theorem yields_askIf (hk : k.IsTouchpad) (h : d.awaiting = none) (asks : Bool) (v : UInt8)
    {f : Option (UInt8 × UInt8 × UInt8) → Prog β} {b : β}
    (h' : ∀ d', d'.awaiting = none →
      ∃ w, Yields k d' (f (if asks then some (k.data v) else none)) b w) :
    ∃ w, Yields k d ((askIf false asks v).bind f) b w := by
  cases asks with
  | true => exact yields_ask hk h v h'
  | false => exact h' d h

end

/-! ### A hardware reset -/

section

variable {k : PointingModel} {d : PointingDevice}

/-- The byte that is expected comes, and the rest of the loop. -/
theorem converse_compareMouse {σ : Type} (D : Device σ UInt8) (s : σ) (b : UInt8) (bs : List UInt8)
    (m : Mode) (i : ℕ) (cs : List PS2Command) :
    converse .mouse D (processCommands m i (compareMouse b :: cs)) ⟨s, none, b :: bs⟩ =
      (converse .mouse D (processCommands { m with deviceMode := .mouse } (i + 1) cs)
        ⟨s, none, bs⟩).behind [compareMouse b] := by
  have hcompare : converse .mouse D (execCommand m (compareMouse b)) ⟨s, none, b :: bs⟩ =
      ⟨⟨{ m with deviceMode := .mouse }, compareMouse b, false⟩, ⟨s, none, bs⟩, []⟩ := by
    have hheard : hear (.expecting .mouse b timeoutBudget none) (b :: bs) = ⟨some b, [], bs⟩ := by
      rw [hear_expecting_cons _ _ _ timeoutBudget, if_pos rfl]
    simp [execCommand, compareMouse, readPortExpecting, Prog.bind, converse, PS2Command.inOrOut, hheard,
      Conversation.after]
  rw [converse_passed D hcompare, Conversation.after_nil]

theorem converse_sleepMS {σ : Type} (D : Device σ UInt8) (w : Talk σ) (ms : UInt32) (m : Mode) (i : ℕ)
    (cs : List PS2Command) :
    converse .mouse D (processCommands m i (sleepMS ms :: cs)) w =
      (converse .mouse D (processCommands m (i + 1) cs) w).behind [sleepMS ms] := by
  have hsleep : converse .mouse D (execCommand m (sleepMS ms)) w =
      ⟨⟨m, sleepMS ms, false⟩, w, []⟩ := by
    simp [execCommand, sleepMS, PS2Command.setInOrOut32, ioSleep, Prog.bind, converse]
  rw [converse_passed D hsleep, Conversation.after_nil]

/-- A reset is carried through, and takes the mode byte and the LED with it. -/
theorem yields_doHardwareReset (h : d.awaiting = none) (wakedelay : UInt32) :
    Yields k d (doHardwareReset false wakedelay) () (view k.reset) := by
  obtain ⟨d1, h1⟩ := shows_disable (k := k) h
  obtain ⟨d2, h2⟩ := shows_disable (k := k) h1.2.1
  obtain ⟨hacks, hafter⟩ : k.Takes d [kDPSetDefaultsAndDisable, kDPSetDefaultsAndDisable] d2 :=
    (h1.append h2).1
  obtain ⟨hanswer, hstep⟩ := answer_reset (k := k) h2.2.1
  have hheard : hearAck ([] ++ k.device.answer d2 kDPReset) = ⟨some kSCAcknowledge, [], [kSCReset, 0]⟩ := by
    rw [List.nil_append, hanswer]
    exact hearAck_cons _
  have hloop : converse .mouse k.device (processCommands .start 0 (resetCommands wakedelay)) (.idle d) =
      ⟨(resetCommands wakedelay, none), .idle k.reset, []⟩ := by
    refine (converse_sends k.device kDPSetDefaultsAndDisable _ hacks .start 0 _).trans ?_
    rw [hafter, Talk.idle, converse_transmit k.device hheard, hstep, Conversation.after_nil,
      converse_sleepMS, converse_compareMouse, converse_compareMouse]
    rfl
  refine ⟨k.reset, rfl, rfl, ?_⟩
  rw [doHardwareReset, Prog.bind_eq, converse_bind,
    converse_processRequest k.device .mouse (Nat.le_of_ble_eq_true rfl), hloop]
  rfl

end

/-! ### What the driver does to the touchpad -/

section

variable {k : PointingModel} (o : Options) {d : PointingDevice}

theorem yields_queryTouchPad (hk : k.IsTouchpad) (h : d.awaiting = none) (s : Pad) :
    ∃ v, Yields k d (s.queryTouchPad false o) (s.queryCapabilities (o.query k)) v := by
  rw [← queryCapabilities_asked]
  refine yields_ask hk h 0x2 fun d1 h1 => ?_
  refine yields_askIf hk h1 (!o.skippassthru) 0x1 fun d2 h2 => ?_
  refine yields_askIf hk h2 _ 0x9 fun d3 h3 => ?_
  refine yields_askIf hk h3 _ 0xC fun d4 h4 => ?_
  refine yields_askIf hk h4 s.cfg.asksResolution 0x8 fun d5 h5 => ?_
  exact ⟨view d5, yields_pure h5 _⟩

/-- A reset if it is asked for, whatever it leaves. -/
theorem yields_resetIf (h : d.awaiting = none) :
    ∃ v, Yields k d (if o.hwresetonstart then doHardwareReset false o.wakedelay else return ()) () v := by
  split
  · exact ⟨_, yields_doHardwareReset h o.wakedelay⟩
  · exact ⟨_, yields_pure h ()⟩

theorem yields_startTouchPad (hk : k.IsTouchpad) (h : d.awaiting = none) (s : Pad) :
    ∃ v, Yields k d (s.startTouchPad false o) (Pad.start { s with log := [] } (o.query k))
      (shown v (Pad.start { s with log := [] } (o.query k)).log) := by
  let s' : Pad :=
    { s with log := [], caps := { s.caps with hasDragTimer := s.cfg.time .dragexitdelay ≠ 0 } }
  obtain ⟨v0, hreset⟩ := yields_resetIf (k := k) o h
  refine hreset.exists_bind (fun v => shown v _) fun d0 h0 => ?_
  obtain ⟨v, hquery⟩ := yields_queryTouchPad o hk h0 s'
  refine ⟨v, hquery.bind fun d1 h1 hview => ?_⟩
  rw [← hview]
  refine (yields_runOperations hk h1 _).bind fun d2 h2 hview2 => ?_
  have hdone := yields_pure (k := k) h2 (Pad.start { s with log := [] } (o.query k))
  rw [hview2] at hdone
  exact hdone

theorem yields_handleTouchPad (hk : k.IsTouchpad) (h : d.awaiting = none) (s : Pad) (e : PadEvent) :
    Yields k d (s.handleTouchPad false e) (s.handle e) (shown (view d) (s.handle e).log) := by
  refine (yields_runOperations hk h _).bind fun d1 h1 hview => ?_
  have hdone := yields_pure (k := k) h1 (s.handle e)
  rw [hview, foldl_sent] at hdone
  exact hdone

theorem yields_disableTouchPad (hk : k.IsTouchpad) (h : d.awaiting = none) (s : Pad) :
    Yields k d (s.disableTouchPad false) s { view d with streaming := false } := by
  refine (yields_runOperations hk h [.enable false]).bind fun d1 h1 hview => ?_
  have hdone := yields_pure (k := k) h1 s
  rw [hview] at hdone
  exact hdone

end

/-! ### With the hardware offline -/

theorem idles_askIf (asks : Bool) (dataSelector : UInt8) : (askIf true asks dataSelector).Idles none := by
  cases asks <;> rfl

theorem idles_queryTouchPad (o : Options) (s : Pad) :
    (s.queryTouchPad true o).Idles (s.queryCapabilities o.unanswered) := by
  have hgeneral : (getTouchPadData true 0x2).Idles none := rfl
  unfold Pad.queryTouchPad
  refine hgeneral.bind ?_
  refine (idles_askIf _ _).bind ?_
  refine (idles_askIf _ _).bind ?_
  refine (idles_askIf _ _).bind ?_
  exact (idles_askIf _ _).bind rfl

theorem idles_startTouchPad (o : Options) (s : Pad) :
    (s.startTouchPad true o).Idles (Pad.start { s with log := [] } o.unanswered) := by
  have hreset : (if o.hwresetonstart then doHardwareReset true o.wakedelay else return ()).Idles () := by
    cases o.hwresetonstart <;> rfl
  obtain ⟨replies, hsent⟩ := idles_runOperations
    (sent false (Pad.start { s with log := [] } o.unanswered).log)
  exact hreset.bind ((idles_queryTouchPad o _).bind (hsent.bind rfl))

theorem idles_handleTouchPad (s : Pad) (e : PadEvent) : (s.handleTouchPad true e).Idles (s.handle e) := by
  obtain ⟨replies, hsent⟩ := idles_runOperations (sent e.isPacket (s.handle e).log)
  exact hsent.bind rfl

/-! ### The mouse's stream only -/

theorem onStream_startTouchPad (offline : Bool) (o : Options) (s : Pad) :
    (s.startTouchPad offline o).OnStream .mouse := by
  have hreset : (if o.hwresetonstart then doHardwareReset offline o.wakedelay else return ()).OnStream
      .mouse := by
    have hreads : ReadsOnly .mouse .start (resetCommands o.wakedelay) := by
      simp [resetCommands, ReadsOnly, modeAfter, sendMouse, transmitMouse, compareAck, sleepMS,
        compareMouse, PS2Command.setInOrOut32, PS2Command.inOrOut]
    split
    · exact onStream_bind (onStream_processRequest (Nat.le_of_ble_eq_true rfl) hreads offline) fun _ => trivial
    · exact trivial
  have hask (asks : Bool) (v : UInt8) : (askIf offline asks v).OnStream .mouse := by
    cases asks with
    | true => exact onStream_getTouchPadData offline v
    | false => exact trivial
  have hquery (s : Pad) : (s.queryTouchPad offline o).OnStream .mouse :=
    onStream_bind (onStream_getTouchPadData offline 0x2) fun _ =>
      onStream_bind (hask _ _) fun _ => onStream_bind (hask _ _) fun _ =>
        onStream_bind (hask _ _) fun _ => onStream_bind (hask _ _) fun _ => trivial
  exact onStream_bind hreset fun _ => onStream_bind (hquery _) fun _ =>
    onStream_bind (onStream_runOperations offline _) fun _ => trivial

theorem onStream_handleTouchPad (offline : Bool) (s : Pad) (e : PadEvent) :
    (s.handleTouchPad offline e).OnStream .mouse :=
  onStream_bind (onStream_runOperations offline _) fun _ => trivial

theorem onStream_disableTouchPad (offline : Bool) (s : Pad) :
    (s.disableTouchPad offline).OnStream .mouse :=
  onStream_bind (onStream_runOperations offline _) fun _ => trivial

/-! ### Runs -/

section

variable {k : PointingModel} {traffic : ℕ → List Poll} {w w' : World} {a : Attention}

/-- No command is begun, and nothing but the bytes of the keyboard has been handed on. -/
structure Ready (traffic : ℕ → List Poll) (w : World) : Prop where
  awaiting : w.line.device.awaiting = none
  handed : w.Handed .mouse traffic []

/-- What a program makes of the driver, and what the touchpad shows if anything has been sent. -/
structure Becomes (traffic : ℕ → List Poll) (w w' : World) (s : Pad) (shows : View → Prop) : Prop where
  driver : w'.driver = s
  view : w.hardwareOffline = false → shows (view w'.line.device)
  ready : Ready traffic w'
  offline : w'.hardwareOffline = w.hardwareOffline
  installed : w'.handlerInstalled = w.handlerInstalled

/-- A program that has a result with the touchpad alone. -/
theorem exchange_yields (ht : Harmless .mouse traffic) (hw : Ready traffic w)
    (hon : w.hardwareOffline = false) {p : Bool → Prog Pad} (hp : (p false).OnStream .mouse) {s : Pad}
    {v : View} (hy : Yields k w.line.device (p false) s v) :
    Becomes traffic w (w.exchange k traffic p) s (· = v) := by
  obtain ⟨d, hready, hview, hc⟩ := hy
  obtain ⟨hdriver, hdevice, hhanded⟩ := Installed.exchange_spec (fun s _ => s) ht hw.handed hp hc
  rw [← hon] at hdriver hdevice hhanded
  have hline : (w.exchange k traffic p).line.device = d := hdevice
  refine ⟨hdriver, fun _ => ?_, ⟨?_, hhanded⟩, rfl, rfl⟩
  · rw [hline]
    exact hview
  · rw [hline]
    exact hready

/-- A program that finds the hardware offline. -/
theorem exchange_offline (hw : Ready traffic w) (hoff : w.hardwareOffline = true) {p : Bool → Prog Pad}
    {s : Pad} (hp : (p true).Idles s) (shows : View → Prop) :
    Becomes traffic w (w.exchange k traffic p) s shows := by
  have hexchange : (w.exchange k traffic p).toPowered = { w.toPowered with driver := s } :=
    Powered.exchange_idle (by rw [hoff]; exact hp)
  refine ⟨?_, fun hon => absurd (hon.symm.trans hoff) Bool.false_ne_true, ⟨?_, ?_⟩, rfl, rfl⟩
  · rw [hexchange]
  · rw [hexchange]
    exact hw.awaiting
  · rw [hexchange]
    exact hw.handed.update s

theorem becomes_start (hk : k.IsTouchpad) (ht : Harmless .mouse traffic) (hw : Ready traffic w)
    (o : Options) :
    ∃ q, Becomes traffic w (w.exchange k traffic fun offline => w.driver.startTouchPad offline o)
      (Pad.start { w.driver with log := [] } q)
      (fun u => ∃ v, u = shown v (Pad.start { w.driver with log := [] } q).log) := by
  cases hoff : w.hardwareOffline with
  | true => exact ⟨_, exchange_offline hw hoff (idles_startTouchPad o w.driver) _⟩
  | false =>
      obtain ⟨v, hy⟩ := yields_startTouchPad o hk hw.awaiting w.driver
      have hb := exchange_yields (p := fun offline => w.driver.startTouchPad offline o) ht hw hoff
        (onStream_startTouchPad false o w.driver) hy
      exact ⟨_, hb.driver, fun hon => ⟨v, hb.view hon⟩, hb.ready, hb.offline, hb.installed⟩

theorem becomes_handle (hk : k.IsTouchpad) (ht : Harmless .mouse traffic) (hw : Ready traffic w)
    (e : PadEvent) :
    Becomes traffic w (w.exchange k traffic fun offline => w.driver.handleTouchPad offline e)
      (w.driver.handle e) (· = shown (view w.line.device) (w.driver.handle e).log) := by
  cases hoff : w.hardwareOffline with
  | true => exact exchange_offline hw hoff (idles_handleTouchPad w.driver e) _
  | false =>
      exact exchange_yields (p := fun offline => w.driver.handleTouchPad offline e) ht hw hoff
        (onStream_handleTouchPad false w.driver e) (yields_handleTouchPad hk hw.awaiting w.driver e)

/-- What a start and a wake bring about, and the other happenings keep up. -/
structure Upheld (A : Pad → View → Prop) (may : Happening → Prop) : Prop where
  start : ∀ s q v, A (Pad.start s q) (shown v (Pad.start s q).log)
  wake : ∀ s v, A (Pad.handle s .wake) (shown v (Pad.handle s .wake).log)
  event : ∀ s v e h, may (.event e h) → A s v → A (Pad.handle s e) (shown v (Pad.handle s e).log)

/-- What holds between two happenings. -/
structure Sound (A : Pad → View → Prop) (traffic : ℕ → List Poll) (a : Attention) (w : World) :
    Prop where
  ready : Ready traffic w
  installed : w.handlerInstalled = a.started
  offline : w.hardwareOffline = a.asleep
  formatted : w.driver.Formatted
  holds : a.attended = true → A w.driver (view w.line.device)

variable {A : Pad → View → Prop} {may : Happening → Prop}

theorem sound_start (hk : k.IsTouchpad) (ht : Harmless .mouse traffic) (hA : Upheld A may)
    (hw : Sound A traffic a w) (o : Options) : Sound A traffic a.start (w.step k traffic (.start o)) := by
  obtain ⟨q, hb⟩ := becomes_start hk ht hw.ready o
  refine ⟨⟨hb.ready.awaiting, hb.ready.handed⟩, rfl, hb.offline.trans hw.offline, ?_, fun hon => ?_⟩
  · change Pad.Formatted (World.exchange k traffic w _).driver
    rw [hb.driver]
    exact (Pad.keepsFormat_start { w.driver with log := [] } q).format hw.formatted
  · have hasleep : a.asleep = false := (a.start.attended_iff.mp hon).2.1
    obtain ⟨v, hview⟩ := hb.view (hw.offline.trans hasleep)
    change A (World.exchange k traffic w _).driver (view (World.exchange k traffic w _).line.device)
    rw [hview, hb.driver]
    exact hA.start _ q v

/-- The driver handles an event, of which it is known what holds afterwards. -/
theorem sound_handle (hk : k.IsTouchpad) (ht : Harmless .mouse traffic) (hw : Sound A traffic a w)
    (e : PadEvent) {a' : Attention} (hstarted : a'.started = a.started) (hasleep : a'.asleep = a.asleep)
    (hA : a'.attended = true →
      A (w.driver.handle e) (shown (view w.line.device) (w.driver.handle e).log)) :
    Sound A traffic a' (w.exchange k traffic fun offline => w.driver.handleTouchPad offline e) := by
  have hb := becomes_handle hk ht hw.ready e
  refine ⟨hb.ready, hb.installed.trans (hw.installed.trans hstarted.symm),
    hb.offline.trans (hw.offline.trans hasleep.symm), ?_, fun hon => ?_⟩
  · rw [hb.driver]
    exact (Pad.keepsFormat_act w.driver (.event e)).format hw.formatted
  · have hawake : a.asleep = false := hasleep.symm.trans (a'.attended_iff.mp hon).2.1
    rw [hb.view (hw.offline.trans hawake), hb.driver]
    exact hA hon

theorem sound_sleep (hk : k.IsTouchpad) (ht : Harmless .mouse traffic) (hw : Sound A traffic a w) :
    Sound A traffic a.sleep (w.step k traffic .sleep) := by
  have hoff : ¬ a.sleep.attended = true := by simp
  rw [World.step]
  cases hoffline : w.hardwareOffline with
  | true =>
      rw [if_pos rfl]
      exact ⟨hw.ready, hw.installed, hoffline, hw.formatted, fun hon => absurd hon hoff⟩
  | false =>
      rw [if_neg Bool.false_ne_true, World.notify]
      split
      · have hb := exchange_yields (p := fun offline => w.driver.disableTouchPad offline) ht hw.ready hoffline
          (onStream_disableTouchPad false w.driver) (yields_disableTouchPad hk hw.ready.awaiting w.driver)
        have hformatted : (w.exchange k traffic fun offline =>
            w.driver.disableTouchPad offline).driver.Formatted := by
          rw [hb.driver]
          exact hw.formatted
        exact ⟨⟨hb.ready.awaiting, hb.ready.handed⟩, hb.installed.trans hw.installed, rfl, hformatted,
          fun hon => absurd hon hoff⟩
      · exact ⟨⟨hw.ready.awaiting, hw.ready.handed⟩, hw.installed, rfl, hw.formatted,
          fun hon => absurd hon hoff⟩

theorem sound_wake (hk : k.IsTouchpad) (ht : Harmless .mouse traffic) (hA : Upheld A may)
    (hw : Sound A traffic a w) : Sound A traffic a.wake (w.step k traffic .wake) := by
  rw [World.step, hw.offline, Attention.wake]
  cases hasleep : a.asleep with
  | false => exact hw
  | true =>
      rw [if_pos rfl, if_pos rfl]
      -- the controller is awake before the driver is told
      have hawake : Sound A traffic { a with asleep := false, cutOff := true }
          { w with hardwareOffline := false } :=
        ⟨⟨hw.ready.awaiting, hw.ready.handed⟩, hw.installed, rfl, hw.formatted,
          fun hon => by simp [Attention.attended] at hon⟩
      rw [World.notify]
      split
      · exact sound_handle hk ht hawake .wake rfl rfl fun _ => hA.wake _ _
      · rename_i hnone
        rw [hw.installed, Bool.not_eq_true] at hnone
        have hunattended := Attention.attended_of_not_started ⟨a.started, false, false⟩ hnone
        exact ⟨hawake.ready, hw.installed, rfl, hw.formatted,
          fun hon => absurd (hunattended.symm.trans hon) Bool.false_ne_true⟩

theorem sound_step (hk : k.IsTouchpad) (ht : Harmless .mouse traffic) (hA : Upheld A may)
    (hw : Sound A traffic a w) (h : Happening) (hmay : may h) :
    Sound A traffic (h.attention a) (w.step k traffic h) := by
  cases h with
  | start o => exact sound_start hk ht hA hw o
  | event e he =>
      exact sound_handle hk ht hw e rfl rfl fun hon => hA.event _ _ e he hmay (hw.holds hon)
  | sleep => exact sound_sleep hk ht hw
  | wake => exact sound_wake hk ht hA hw
  | powerLost d hd =>
      exact ⟨⟨hd, hw.ready.handed.replug d⟩, hw.installed, hw.offline, hw.formatted,
        fun hon => absurd (a.attended_losePower.symm.trans hon) Bool.false_ne_true⟩

theorem sound_run (hk : k.IsTouchpad) (ht : Harmless .mouse traffic) (hA : Upheld A may)
    {hs : List Happening} (hmay : ∀ h ∈ hs, may h) (hw : Sound A traffic a w) :
    Sound A traffic (hs.foldl Happening.attention a) (w.run k traffic hs) := by
  induction hs generalizing a w with
  | nil => exact hw
  | cons h hs ih =>
      rw [List.forall_mem_cons] at hmay
      exact ih hmay.2 (sound_step hk ht hA hw h hmay.1)

theorem sound_created (A : Pad → View → Prop) (traffic : ℕ → List Poll) {d : PointingDevice}
    (hd : d.awaiting = none) : Sound A traffic .initial (.created d) :=
  ⟨⟨hd, Installed.handed_created _ d⟩, rfl, rfl, Pad.formatted_created,
    fun hon => absurd hon Bool.false_ne_true⟩

end

/-! ### The mode and the LED -/

theorem upheld_inMode : Upheld Pad.InMode fun _ => True where
  start s q v := Pad.inMode_start s q v
  wake s v := Pad.inMode_initTouchPad { s with log := [] } v
  event s v e _ _ hA := Pad.carries_inMode_react { s with log := [] } e v hA

/-- Properties that do not mention the LED. -/
def LeavesLED : Happening → Prop
  | .event (.setParamProperties d) _ => d "DisableLEDUpdate" = none
  | _ => True

theorem leavesLED_event {e : PadEvent} {he : e ≠ .wake} (h : LeavesLED (.event e he)) (s : Pad) :
    s.LeavesLED e := by
  rintro d rfl
  change Config.readBool d s.cfg.bool .noled = _
  rw [Config.readBool, show d BoolVar.noled.name = none from h]

theorem upheld_lit : Upheld Pad.Lit LeavesLED where
  start s q v := Pad.lit_start s q v
  wake s v := Pad.lit_initTouchPad { s with log := [] } v
  event s v _ _ hled hA := Pad.carries_lit_react (leavesLED_event hled { s with log := [] }) v hA

/-- A touchpad with a LED is reset and started, clicked and disabled, cut off in its sleep and woken. -/
def throughSleep : List Happening :=
  [.event (.setParamProperties fun _ => none) (by simp), .start ⟨0x46, false, false, true, 1000⟩,
    .event (.packet ⟨0x80, 0, 0, 0xC1, 0, 0⟩ 1000) (by simp),
    .event (.setDisableTouchpad false) (by simp), .sleep, .powerLost (poweredOn 0) rfl, .wake]

end Live

end VoodooPS2.Synaptics
