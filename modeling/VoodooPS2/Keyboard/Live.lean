import VoodooPS2.Controller.Installed

/-! # The keyboard driver on its keyboard

The LEDs of a keyboard are set by requests that are submitted and not waited for, while the commands that
switch the keyboard on and off are waited for, and let the queue go first.  In sleep the controller is
offline, and every request fails.

`Live.shows_locks`: a keyboard that is attended to sends its keys, and shows the locks that were set last as soon
as the work loop has got to the queue, whatever has been lost in sleep; and no byte of the mouse is lost
meanwhile. -/

namespace VoodooPS2.Keyboard

open Controller Dialogue

/-! ### A keyboard -/

/-- What one keyboard does that another does not: what becomes of the LEDs and of the keys when defaults
are set. -/
structure KeyboardModel where
  defaultLEDs : UInt8 → UInt8
  defaultScanning : Bool → Bool
  disabledLEDs : UInt8 → UInt8

/-- A device at the keyboard port. -/
structure KeyboardDevice where
  /-- `kDP_SetKeyboardLEDs` waits for its argument -/
  awaiting : Bool
  leds : UInt8
  /-- keys are sent -/
  scanning : Bool
deriving DecidableEq, Repr

namespace KeyboardModel

variable (k : KeyboardModel)

def command (d : KeyboardDevice) (b : UInt8) : KeyboardDevice :=
  if b = kDPSetKeyboardLEDs then { d with awaiting := true }
  else if b = kDPEnable then { d with scanning := true }
  else if b = kDPSetDefaultsAndDisable then { d with leds := k.disabledLEDs d.leds, scanning := false }
  else if b = kDPSetDefaults then
    { d with leds := k.defaultLEDs d.leds, scanning := k.defaultScanning d.scanning }
  else d

def step (d : KeyboardDevice) (b : UInt8) : KeyboardDevice :=
  if d.awaiting then { d with awaiting := false, leds := b } else k.command d b

/-- An echo is answered by itself. -/
def answer (d : KeyboardDevice) (b : UInt8) : List UInt8 :=
  if d.awaiting then [kSCAcknowledge]
  else if b = kDPTestKeyboardEcho then [kDPTestKeyboardEcho]
  else if b ≥ kDPSetKeyboardLEDs then [kSCAcknowledge]
  else [kSCResend]

def device : Device KeyboardDevice UInt8 := ⟨k.step, answer⟩

end KeyboardModel

/-! ### Requests -/

/-- A byte for the keyboard, and its acknowledge. -/
def writeAck (byte : UInt8) : List PS2Command := [⟨.writeDataPort, byte, 0, 0, 0⟩, compareAck]

def keyboardRequest (bytes : List UInt8) : PS2Request := .ofCommands (bytes.flatMap writeAck)

/-- The request of `setLEDs`. -/
def ledRequest (ledState : UInt8) : PS2Request := keyboardRequest [kDPSetKeyboardLEDs, ledState]

/-- The driver, as far as its commands go. -/
structure Locks where
  ledState : UInt8
  /-- the handlers of interrupts and of power control are there -/
  handlersInstalled : Bool

/-- `_ledState` with the bits of a LED. -/
def Locks.feedback (s : Locks) (led : UInt8) (locked : Bool) : Locks :=
  { s with ledState := if locked then s.ledState ||| led else s.ledState &&& ~~~led }

namespace Live

/-- What happens to the driver and its keyboard. -/
inductive Happening where
  | start
  | stop
  | setAlphaLockFeedback (locked : Bool)
  | setNumLockFeedback (locked : Bool)
  /-- the work loop gets to the queue of requests -/
  | processRequestQueue
  /-- the power state of the controller, with what it does to the keyboard -/
  | sleep
  | wake
  /-- the keyboard loses its power, and comes back in any state without a command begun -/
  | powerLost (d : KeyboardDevice) (h : d.awaiting = false)

/-- The driver on its keyboard, and what the controller has to do with both. -/
structure World where
  site : Installed KeyboardDevice Locks
  requestQueue : List PS2Request
  hardwareOffline : Bool

namespace World

variable (k : KeyboardModel) (traffic : ℕ → List Poll) (w : World)

def created (d : KeyboardDevice) : World := ⟨.created ⟨0, false⟩ d, [], false⟩

def driver : Locks := w.site.driver

def keyboard : KeyboardDevice := w.site.line.device

def update (f : Locks → Locks) : World := { w with site := { w.site with driver := f w.driver } }

/-- A request is processed, and nothing made of its outcome.  No byte of the keyboard is left over
(`process_spec`), so none has to be taken. -/
def process (r : PS2Request) : World :=
  { w with site := w.site.exchange .keyboard k.device traffic (fun s _ => s) do
      let _ ← processRequest w.hardwareOffline r
      return w.driver }

def processRequestQueue : World :=
  w.requestQueue.foldl (process k traffic) { w with requestQueue := [] }

def submitRequest (r : PS2Request) : World := { w with requestQueue := w.requestQueue ++ [r] }

def submitRequestAndBlock (r : PS2Request) : World :=
  (w.processRequestQueue k traffic).process k traffic r

def setLEDs (ledState : UInt8) : World := w.submitRequest (ledRequest ledState)

def setKeyboardEnable (enable : Bool) : World :=
  w.submitRequestAndBlock k traffic
    (keyboardRequest [if enable then kDPEnable else kDPSetDefaultsAndDisable])

/-- What `initKeyboard` sends to the keyboard.  The release of the keys (`Keyboard/Wake.lean`) is left
out, and so is what goes to the 8042 alone: the last `setCommandByte` of `initKeyboard`, and on a wake
the controller's `resetController` before it (`Controller/Lines.lean`). -/
def initKeyboard : World :=
  let w := w.submitRequestAndBlock k traffic (keyboardRequest [kDPSetDefaults])
  let w := w.setLEDs w.driver.ledState
  w.setKeyboardEnable k traffic true

def feedback (led : UInt8) (locked : Bool) : World :=
  let w := w.update fun s => s.feedback led locked
  w.setLEDs w.driver.ledState

def start : World :=
  ((w.update fun _ => ⟨0, false⟩).initKeyboard k traffic).update
    fun s => { s with handlersInstalled := true }

def stop : World :=
  (w.setKeyboardEnable k traffic false).update fun s => { s with handlersInstalled := false }

def sleep : World :=
  let w := if w.driver.handlersInstalled then w.setKeyboardEnable k traffic false else w
  { w with hardwareOffline := true }

def wake : World :=
  let w := { w with hardwareOffline := false }
  if w.driver.handlersInstalled then w.initKeyboard k traffic else w

/-- A driver that is there is not started, and one that is not is not told anything.  Nothing is done
for a power state that is the current one. -/
def step (w : World) : Happening → World
  | .start => if w.driver.handlersInstalled then w else w.start k traffic
  | .stop => if w.driver.handlersInstalled then w.stop k traffic else w
  | .setAlphaLockFeedback locked =>
      if w.driver.handlersInstalled then w.feedback kLEDCapsLock locked else w
  | .setNumLockFeedback locked =>
      if w.driver.handlersInstalled then w.feedback kLEDNumLock locked else w
  | .processRequestQueue => w.processRequestQueue k traffic
  | .sleep => if w.hardwareOffline then w else w.sleep k traffic
  | .wake => if w.hardwareOffline then w.wake k traffic else w
  | .powerLost d _ => { w with site := w.site.replug d }

def run (w : World) (hs : List Happening) : World := hs.foldl (step k traffic) w

end World

/-! ### What is to be -/

/-- What has been asked for: the locks, and whether the keyboard is attended to. -/
structure Asked where
  started : Bool
  asleep : Bool
  attended : Bool
  capsLock : Bool
  numLock : Bool
deriving DecidableEq, Repr

def Asked.nothing : Asked := ⟨false, false, false, false, false⟩

def Asked.step (a : Asked) : Happening → Asked
  | .start => if a.started then a else ⟨true, a.asleep, !a.asleep, false, false⟩
  | .stop => if a.started then { a with started := false, attended := false } else a
  | .setAlphaLockFeedback locked => if a.started then { a with capsLock := locked } else a
  | .setNumLockFeedback locked => if a.started then { a with numLock := locked } else a
  | .processRequestQueue => a
  | .sleep => if a.asleep then a else { a with asleep := true, attended := false }
  | .wake => if a.asleep then { a with asleep := false, attended := a.started } else a
  | .powerLost _ _ => { a with attended := false }

/-- The LEDs for the locks. -/
def locks (capsLock numLock : Bool) : UInt8 :=
  (if capsLock then kLEDCapsLock else 0) ||| (if numLock then kLEDNumLock else 0)

def Asked.leds (a : Asked) : UInt8 := locks a.capsLock a.numLock

/-! ### One request -/

section

variable {k : KeyboardModel} {traffic : ℕ → List Poll} {w w' : World} {d : KeyboardDevice}

theorem readsOnly_writeAcks (bs : List UInt8) :
    ReadsOnly .keyboard .start (bs.flatMap writeAck) := by
  induction bs with
  | nil => exact trivial
  | cons b bs ih => exact ⟨trivial, rfl, ih⟩

/-- Bytes that are acknowledged, one after the other. -/
theorem converse_writeAcks (bs : List UInt8) (h : k.device.Acks kSCAcknowledge d bs) (i : ℕ) :
    converse .keyboard k.device (processCommands .start i (bs.flatMap writeAck)) (.idle d) =
      ⟨(bs.flatMap writeAck, none), .idle (k.device.after d bs), []⟩ := by
  induction bs generalizing d i with
  | nil => rfl
  | cons b bs ih =>
      have hwrite : converse .keyboard k.device (execCommand .start ⟨.writeDataPort, b, 0, 0, 0⟩)
          (.idle d) = ⟨⟨.start, ⟨.writeDataPort, b, 0, 0, 0⟩, false⟩,
            ⟨k.device.step d b, none, [kSCAcknowledge]⟩, []⟩ := by
        simp [execCommand, writeDataPort, Prog.bind, converse, PS2Command.inOrOut, Talk.data, Talk.idle,
          addressee, Mode.start, h.1]
      have hcompare : converse .keyboard k.device (execCommand .start compareAck)
          ⟨k.device.step d b, none, [kSCAcknowledge]⟩ =
            ⟨⟨.start, compareAck, false⟩, .idle (k.device.step d b), []⟩ := by
        simp [execCommand, compareAck, readPortExpecting, Prog.bind, converse, hear,
          PS2Command.inOrOut, PS2Command.setInOrOut, Mode.start, Talk.idle]
      change converse .keyboard k.device (processCommands .start i (_ :: compareAck :: bs.flatMap writeAck)) _
        = _
      rw [converse_passed _ hwrite, converse_passed _ hcompare, ih h.2]
      rfl

/-- What a request that is acknowledged does. -/
theorem process_spec (ht : Harmless .keyboard traffic)
    (hhanded : w.site.Handed .keyboard traffic []) {bs : List UInt8}
    (hlen : (bs.flatMap writeAck).length ≤ 255) (hacks : k.device.Acks kSCAcknowledge w.keyboard bs)
    (hw' : w' = w.process k traffic (keyboardRequest bs)) :
    w'.site.Handed .keyboard traffic [] ∧ w'.driver = w.driver ∧
      w'.keyboard = (if w.hardwareOffline then w.keyboard else k.device.after w.keyboard bs) ∧
      w'.requestQueue = w.requestQueue ∧ w'.hardwareOffline = w.hardwareOffline := by
  let p : Prog Locks := (processRequest w.hardwareOffline (keyboardRequest bs)).bind fun _ => pure w.driver
  have hstream : p.OnStream .keyboard :=
    onStream_bind (onStream_processRequest hlen (readsOnly_writeAcks bs) _) fun _ => trivial
  have hleaves : Leaves .keyboard k.device w.keyboard p w.driver
      (if w.hardwareOffline then w.keyboard else k.device.after w.keyboard bs) := by
    by_cases hoffline : w.hardwareOffline = true
    · rw [if_pos hoffline]
      change converse .keyboard k.device ((processRequest w.hardwareOffline _).bind _) _ = _
      rw [hoffline]
      rfl
    · rw [if_neg hoffline]
      have honline : w.hardwareOffline = false := by simpa using hoffline
      change converse .keyboard k.device ((processRequest w.hardwareOffline _).bind _) _ = _
      rw [honline, converse_bind, keyboardRequest, converse_processRequest k.device .keyboard hlen,
        converse_writeAcks bs hacks]
      rfl
  obtain ⟨hdriver, hdevice, hhanded'⟩ :=
    Installed.exchange_spec (fun s _ => s) ht hhanded hstream hleaves
  rw [hw']
  exact ⟨hhanded', hdriver, hdevice, rfl, rfl⟩

/-! ### The queue -/

variable (k traffic) in
/-- Nothing is under way, and only LED requests wait, the values of which are `vs`. -/
structure Waiting (vs : List UInt8) (w : World) : Prop where
  awaiting : w.keyboard.awaiting = false
  handed : w.site.Handed .keyboard traffic []
  queue : w.requestQueue = vs.map ledRequest

/-- The same driver, and the same power state. -/
def Alike (w w' : World) : Prop := w'.driver = w.driver ∧ w'.hardwareOffline = w.hardwareOffline

theorem Alike.trans {w'' : World} (h : Alike w w') (h' : Alike w' w'') : Alike w w'' :=
  ⟨h'.1.trans h.1, h'.2.trans h.2⟩

/-- The LEDs that the requests leave, unless they fail. -/
def shownAfter (w : World) (vs : List UInt8) : KeyboardDevice :=
  if w.hardwareOffline then w.keyboard else { w.keyboard with leds := vs.getLastD w.keyboard.leds }

theorem foldl_process (ht : Harmless .keyboard traffic) (vs : List UInt8)
    (hw : Waiting traffic [] w) (hw' : w' = (vs.map ledRequest).foldl (World.process k traffic) w) :
    Waiting traffic [] w' ∧ Alike w w' ∧ w'.keyboard = shownAfter w vs := by
  induction vs generalizing w with
  | nil =>
      subst hw'
      refine ⟨hw, ⟨rfl, rfl⟩, ?_⟩
      rw [shownAfter, List.getLastD_nil, ite_self]
  | cons v vs ih =>
      have hacks : k.device.Acks kSCAcknowledge w.keyboard [kDPSetKeyboardLEDs, v] := by
        refine ⟨?_, ?_, trivial⟩
        · change KeyboardModel.answer w.keyboard _ = _
          rw [KeyboardModel.answer, hw.awaiting, if_neg Bool.false_ne_true]
          rfl
        · change KeyboardModel.answer (k.step w.keyboard _) _ = _
          rw [KeyboardModel.step, hw.awaiting, if_neg Bool.false_ne_true]
          rfl
      have hafter : k.device.after w.keyboard [kDPSetKeyboardLEDs, v] = { w.keyboard with leds := v } := by
        change k.step (k.step w.keyboard kDPSetKeyboardLEDs) v = _
        rw [KeyboardModel.step, KeyboardModel.step, hw.awaiting, if_neg Bool.false_ne_true]
        change ({ w.keyboard with awaiting := false, leds := v } : KeyboardDevice) = _
        rw [← hw.awaiting]
      rw [List.map_cons, List.foldl_cons] at hw'
      generalize hw1 : w.process k traffic (ledRequest v) = w1 at hw'
      obtain ⟨hhanded, hdriver, hkeyboard, hqueue, hoffline⟩ :=
        process_spec ht hw.handed (Nat.le_of_ble_eq_true rfl) hacks hw1.symm
      rw [hafter] at hkeyboard
      have hwaiting : Waiting traffic [] w1 := by
        refine ⟨?_, hhanded, hqueue.trans hw.queue⟩
        rw [hkeyboard]
        split <;> exact hw.awaiting
      obtain ⟨hwaiting', halike, hshown⟩ := ih hwaiting hw'
      refine ⟨hwaiting', Alike.trans ⟨hdriver, hoffline⟩ halike, ?_⟩
      rw [hshown, shownAfter, shownAfter, hoffline, hkeyboard]
      by_cases hoff : w.hardwareOffline = true
      · rw [if_pos hoff, if_pos hoff, if_pos hoff]
      · rw [if_neg hoff, if_neg hoff, if_neg hoff, List.getLastD_cons]

theorem drain_spec (ht : Harmless .keyboard traffic) {vs : List UInt8} (hw : Waiting traffic vs w)
    (hw' : w' = w.processRequestQueue k traffic) :
    Waiting traffic [] w' ∧ Alike w w' ∧ w'.keyboard = shownAfter w vs := by
  rw [World.processRequestQueue, hw.queue] at hw'
  exact foldl_process (w := { w with requestQueue := [] }) ht vs ⟨hw.awaiting, hw.handed, rfl⟩ hw'

/-- A command that is waited for lets the queue go first. -/
theorem block_spec (ht : Harmless .keyboard traffic) {vs : List UInt8} (hw : Waiting traffic vs w)
    {b : UInt8} (hb : b = kDPEnable ∨ b = kDPSetDefaultsAndDisable ∨ b = kDPSetDefaults)
    (hw' : w' = w.submitRequestAndBlock k traffic (keyboardRequest [b])) :
    Waiting traffic [] w' ∧ Alike w w' ∧
      w'.keyboard = if w.hardwareOffline then w.keyboard else k.command (shownAfter w vs) b := by
  rw [World.submitRequestAndBlock] at hw'
  generalize hw1 : w.processRequestQueue k traffic = w1 at hw'
  obtain ⟨hwaiting, halike, hshown⟩ := drain_spec ht hw hw1.symm
  have hacks : k.device.Acks kSCAcknowledge w1.keyboard [b] := by
    refine ⟨?_, trivial⟩
    change KeyboardModel.answer w1.keyboard b = _
    rw [KeyboardModel.answer, hwaiting.awaiting, if_neg Bool.false_ne_true]
    rcases hb with rfl | rfl | rfl <;> rfl
  have hafter : k.device.after w1.keyboard [b] = k.command w1.keyboard b := by
    change k.step w1.keyboard b = _
    rw [KeyboardModel.step, hwaiting.awaiting, if_neg Bool.false_ne_true]
  obtain ⟨hhanded, hdriver, hkeyboard, hqueue, hoffline⟩ :=
    process_spec ht hwaiting.handed (Nat.le_of_ble_eq_true rfl) hacks hw'
  rw [hafter, halike.2] at hkeyboard
  have hkeyboard' : w'.keyboard =
      if w.hardwareOffline then w.keyboard else k.command (shownAfter w vs) b := by
    rw [hkeyboard, hshown]
    split
    · rename_i hoff
      rw [shownAfter, if_pos hoff]
    · rfl
  refine ⟨⟨?_, hhanded, hqueue.trans hwaiting.queue⟩, halike.trans ⟨hdriver, hoffline⟩, hkeyboard'⟩
  rw [hkeyboard]
  split
  · exact hwaiting.awaiting
  · rcases hb with rfl | rfl | rfl <;> exact hwaiting.awaiting

theorem setLEDs_spec {vs : List UInt8} (hw : Waiting traffic vs w) (v : UInt8) :
    Waiting traffic (vs ++ [v]) (w.setLEDs v) := by
  refine ⟨hw.awaiting, hw.handed, ?_⟩
  rw [List.map_append, ← hw.queue]
  rfl

/-- `initKeyboard`: the keyboard sends its keys and shows the LEDs of the driver, unless it is asleep. -/
theorem init_spec (ht : Harmless .keyboard traffic) {vs : List UInt8} (hw : Waiting traffic vs w)
    (hw' : w' = w.initKeyboard k traffic) :
    Waiting traffic [] w' ∧ Alike w w' ∧
      (w.hardwareOffline = false → w'.keyboard.scanning = true ∧ w'.keyboard.leds = w.driver.ledState) := by
  rw [World.initKeyboard] at hw'
  generalize hw1 : w.submitRequestAndBlock k traffic (keyboardRequest [kDPSetDefaults]) = w1 at hw'
  obtain ⟨hwaiting1, halike1, -⟩ := block_spec ht hw (.inr (.inr rfl)) hw1.symm
  have hwaiting2 := setLEDs_spec hwaiting1 w1.driver.ledState
  obtain ⟨hwaiting3, halike3, hkeyboard⟩ := block_spec ht hwaiting2 (.inl rfl) hw'
  refine ⟨hwaiting3, halike1.trans halike3, fun honline => ?_⟩
  have honline1 : (w1.setLEDs w1.driver.ledState).hardwareOffline = false := halike1.2.trans honline
  rw [hkeyboard, honline1, if_neg Bool.false_ne_true, shownAfter, honline1, if_neg Bool.false_ne_true]
  exact ⟨rfl, congrArg Locks.ledState halike1.1⟩

/-! ### Runs -/

variable (traffic) in
/-- What holds between two happenings. -/
structure Sound (a : Asked) (w : World) : Prop where
  waiting : ∃ vs, Waiting traffic vs w ∧
    (a.attended = true → vs.getLastD w.keyboard.leds = w.driver.ledState)
  scanning : a.attended = true → w.keyboard.scanning = true
  installed : w.driver.handlersInstalled = a.started
  offline : w.hardwareOffline = a.asleep
  attended : a.attended = true → a.started = true ∧ a.asleep = false
  leds : a.started = true → w.driver.ledState = a.leds

/-- The bits of the two locks. -/
theorem ledBits (capsLock numLock locked : Bool) :
    (if locked then locks capsLock numLock ||| kLEDCapsLock else locks capsLock numLock &&& ~~~kLEDCapsLock) =
        locks locked numLock ∧
      (if locked then locks capsLock numLock ||| kLEDNumLock else locks capsLock numLock &&& ~~~kLEDNumLock) =
        locks capsLock locked := by
  revert capsLock numLock locked
  decide

theorem sound_feedback {a a' : Asked} (hw : Sound traffic a w) {led : UInt8} {locked : Bool}
    (hstarted : a.started = true)
    (hleds : (if locked then a.leds ||| led else a.leds &&& ~~~led) = a'.leds)
    (hsame : a'.started = a.started ∧ a'.asleep = a.asleep ∧ a'.attended = a.attended) :
    Sound traffic a' (w.feedback led locked) := by
  obtain ⟨hstarted', hasleep', hattended'⟩ := hsame
  obtain ⟨vs, hwaiting, -⟩ := hw.waiting
  have hdriver : (w.driver.feedback led locked).ledState = a'.leds := by
    rw [← hleds, ← hw.leds hstarted]
    rfl
  have hwaiting' : Waiting traffic vs (w.update fun s => s.feedback led locked) :=
    ⟨hwaiting.awaiting, hwaiting.handed.update _, hwaiting.queue⟩
  refine ⟨⟨_, setLEDs_spec hwaiting' _, fun _ => ?_⟩, ?_, ?_, ?_, ?_, fun _ => hdriver⟩
  · exact List.getLastD_concat
  · rw [hattended']
    exact hw.scanning
  · rw [hstarted']
    exact hw.installed
  · rw [hasleep']
    exact hw.offline
  · rw [hattended', hstarted', hasleep']
    exact hw.attended

theorem sound_init {a b : Asked} {vs : List UInt8} (ht : Harmless .keyboard traffic)
    (hw : Waiting traffic vs w) (hoffline : w.hardwareOffline = a.asleep)
    (hleds : w.driver.ledState = b.leds) (hinstalled : w.driver.handlersInstalled = b.started)
    (hasleep : b.asleep = a.asleep)
    (hattended : b.attended = true → b.started = true ∧ a.asleep = false)
    (hw' : w' = w.initKeyboard k traffic) : Sound traffic b w' := by
  obtain ⟨hwaiting, halike, honline⟩ := init_spec ht hw hw'
  refine ⟨⟨[], hwaiting, fun ha => ?_⟩, fun ha => ?_, ?_, ?_, ?_, fun _ => ?_⟩
  · rw [List.getLastD_nil, halike.1]
    exact (honline (hoffline.trans (hattended ha).2)).2
  · exact (honline (hoffline.trans (hattended ha).2)).1
  · rw [halike.1]
    exact hinstalled
  · rw [halike.2, hasleep]
    exact hoffline
  · rw [hasleep]
    exact hattended
  · rw [halike.1]
    exact hleds

theorem sound_disable {a : Asked} (ht : Harmless .keyboard traffic) (hw : Sound traffic a w)
    (hw' : w' = w.setKeyboardEnable k traffic false) :
    Sound traffic { a with attended := false } w' := by
  obtain ⟨vs, hwaiting, -⟩ := hw.waiting
  obtain ⟨hwaiting', halike, -⟩ := block_spec ht hwaiting (.inr (.inl rfl)) hw'
  refine ⟨⟨[], hwaiting', fun ha => absurd ha Bool.false_ne_true⟩, fun ha => absurd ha Bool.false_ne_true,
    ?_, ?_, fun ha => absurd ha Bool.false_ne_true, ?_⟩
  · rw [halike.1]
    exact hw.installed
  · rw [halike.2]
    exact hw.offline
  · rw [halike.1]
    exact hw.leds

theorem sound_drain {a : Asked} (ht : Harmless .keyboard traffic) (hw : Sound traffic a w)
    (hw' : w' = w.processRequestQueue k traffic) :
    Sound traffic a w' ∧ (a.attended = true → w'.keyboard.leds = w.driver.ledState) := by
  obtain ⟨vs, hwaiting, hlast⟩ := hw.waiting
  obtain ⟨hwaiting', halike, hshown⟩ := drain_spec ht hwaiting hw'
  have hleds (ha : a.attended = true) : w'.keyboard.leds = w.driver.ledState := by
    rw [hshown, shownAfter, hw.offline, (hw.attended ha).2, if_neg Bool.false_ne_true]
    exact hlast ha
  refine ⟨⟨⟨[], hwaiting', fun ha => ?_⟩, fun ha => ?_, ?_, ?_, hw.attended, ?_⟩, hleds⟩
  · rw [List.getLastD_nil, halike.1]
    exact hleds ha
  · rw [hshown, shownAfter, hw.offline, (hw.attended ha).2, if_neg Bool.false_ne_true]
    exact hw.scanning ha
  · rw [halike.1]
    exact hw.installed
  · rw [halike.2]
    exact hw.offline
  · rw [halike.1]
    exact hw.leds

theorem sound_sleep {a : Asked} (ht : Harmless .keyboard traffic) (hw : Sound traffic a w)
    (hw' : w' = w.sleep k traffic) : Sound traffic { a with asleep := true, attended := false } w' := by
  rw [World.sleep] at hw'
  have hdisabled : Sound traffic { a with attended := false }
      (if w.driver.handlersInstalled then w.setKeyboardEnable k traffic false else w) := by
    split
    · exact sound_disable ht hw rfl
    · obtain ⟨vs, hwaiting, -⟩ := hw.waiting
      exact ⟨⟨vs, hwaiting, fun ha => absurd ha Bool.false_ne_true⟩,
        fun ha => absurd ha Bool.false_ne_true, hw.installed, hw.offline,
        fun ha => absurd ha Bool.false_ne_true, hw.leds⟩
  generalize (if w.driver.handlersInstalled then w.setKeyboardEnable k traffic false else w) = w1
    at hdisabled hw'
  obtain ⟨vs, hwaiting, -⟩ := hdisabled.waiting
  subst hw'
  exact ⟨⟨vs, ⟨hwaiting.awaiting, hwaiting.handed, hwaiting.queue⟩, fun ha =>
    absurd ha Bool.false_ne_true⟩, fun ha => absurd ha Bool.false_ne_true, hdisabled.installed, rfl,
    fun ha => absurd ha Bool.false_ne_true, hdisabled.leds⟩

theorem sound_wake {a : Asked} (ht : Harmless .keyboard traffic) (hw : Sound traffic a w)
    (hw' : w' = w.wake k traffic) :
    Sound traffic { a with asleep := false, attended := a.started } w' := by
  rw [World.wake] at hw'
  obtain ⟨vs, hwaiting, -⟩ := hw.waiting
  have hwaiting1 : Waiting traffic vs { w with hardwareOffline := false } :=
    ⟨hwaiting.awaiting, hwaiting.handed, hwaiting.queue⟩
  by_cases hinstalled : w.driver.handlersInstalled = true
  · replace hw' := hw'.trans (if_pos hinstalled)
    have hstarted : a.started = true := hw.installed ▸ hinstalled
    let a' : Asked := { a with asleep := false, attended := a.started }
    exact sound_init (a := { a with asleep := false }) (b := a') ht hwaiting1 rfl (hw.leds hstarted)
      hw.installed rfl (fun ha => ⟨ha, rfl⟩) hw'
  · replace hw' := hw'.trans (if_neg hinstalled)
    have hoff : ¬ a.started = true := hw.installed ▸ hinstalled
    subst hw'
    exact ⟨⟨vs, hwaiting1, fun ha => absurd ha hoff⟩, fun ha => absurd ha hoff, hw.installed, rfl,
      fun ha => ⟨ha, rfl⟩, hw.leds⟩

theorem sound_step (ht : Harmless .keyboard traffic) {a : Asked} (hw : Sound traffic a w)
    (h : Happening) : Sound traffic (a.step h) (w.step k traffic h) := by
  have hinstalled := hw.installed
  cases h with
  | start =>
      rw [Asked.step, World.step, hinstalled]
      by_cases hstarted : a.started = true
      · rw [if_pos hstarted, if_pos hstarted]
        exact hw
      · rw [if_neg hstarted, if_neg hstarted, World.start]
        obtain ⟨vs, hwaiting, -⟩ := hw.waiting
        have hwaiting1 : Waiting traffic vs (w.update fun _ => ⟨0, false⟩) :=
          ⟨hwaiting.awaiting, hwaiting.handed.update _, hwaiting.queue⟩
        generalize hw1 : (w.update fun _ => ⟨0, false⟩).initKeyboard k traffic = w1
        obtain ⟨hwaiting2, halike, honline⟩ := init_spec ht hwaiting1 hw1.symm
        have hdriver : w1.driver = ⟨0, false⟩ := halike.1
        have hnone : (0 : UInt8) = locks false false := by decide
        have hawake (ha : (!a.asleep) = true) : (w.update fun _ => ⟨0, false⟩).hardwareOffline = false := by
          rw [Bool.not_eq_true'] at ha
          exact hw.offline.trans ha
        refine ⟨⟨[], ⟨hwaiting2.awaiting, hwaiting2.handed.update _, hwaiting2.queue⟩, fun ha => ?_⟩,
          fun ha => (honline (hawake ha)).1, rfl, halike.2.trans hw.offline,
          fun ha => ⟨rfl, by simpa using ha⟩, fun _ => ?_⟩
        · exact (honline (hawake ha)).2.trans (congrArg Locks.ledState hdriver).symm
        · exact (congrArg Locks.ledState hdriver).trans hnone
  | stop =>
      rw [Asked.step, World.step, hinstalled]
      by_cases hstarted : a.started = true
      · rw [if_pos hstarted, if_pos hstarted, World.stop]
        generalize hw1 : w.setKeyboardEnable k traffic false = w1
        have hdisabled := sound_disable ht hw hw1.symm
        obtain ⟨vs, hwaiting, -⟩ := hdisabled.waiting
        exact ⟨⟨vs, ⟨hwaiting.awaiting, hwaiting.handed.update _, hwaiting.queue⟩, fun ha =>
          absurd ha Bool.false_ne_true⟩, fun ha => absurd ha Bool.false_ne_true, rfl, hdisabled.offline,
          fun ha => absurd ha Bool.false_ne_true, fun hs => absurd hs Bool.false_ne_true⟩
      · rw [if_neg hstarted, if_neg hstarted]
        exact hw
  | setAlphaLockFeedback locked =>
      rw [Asked.step, World.step, hinstalled]
      by_cases hstarted : a.started = true
      · rw [if_pos hstarted, if_pos hstarted]
        exact sound_feedback hw hstarted (ledBits a.capsLock a.numLock locked).1 ⟨rfl, rfl, rfl⟩
      · rw [if_neg hstarted, if_neg hstarted]
        exact hw
  | setNumLockFeedback locked =>
      rw [Asked.step, World.step, hinstalled]
      by_cases hstarted : a.started = true
      · rw [if_pos hstarted, if_pos hstarted]
        exact sound_feedback hw hstarted (ledBits a.capsLock a.numLock locked).2 ⟨rfl, rfl, rfl⟩
      · rw [if_neg hstarted, if_neg hstarted]
        exact hw
  | processRequestQueue => exact (sound_drain ht hw rfl).1
  | sleep =>
      rw [Asked.step, World.step, hw.offline]
      by_cases hasleep : a.asleep = true
      · rw [if_pos hasleep, if_pos hasleep]
        exact hw
      · rw [if_neg hasleep, if_neg hasleep]
        exact sound_sleep ht hw rfl
  | wake =>
      rw [Asked.step, World.step, hw.offline]
      by_cases hasleep : a.asleep = true
      · rw [if_pos hasleep, if_pos hasleep]
        exact sound_wake ht hw rfl
      · rw [if_neg hasleep, if_neg hasleep]
        exact hw
  | powerLost d hd =>
      obtain ⟨vs, hwaiting, -⟩ := hw.waiting
      exact ⟨⟨vs, ⟨hd, hwaiting.handed.replug d, hwaiting.queue⟩, fun ha => absurd ha Bool.false_ne_true⟩,
        fun ha => absurd ha Bool.false_ne_true, hw.installed, hw.offline,
        fun ha => absurd ha Bool.false_ne_true, hw.leds⟩

theorem sound_run (ht : Harmless .keyboard traffic) (hs : List Happening) {a : Asked}
    (hw : Sound traffic a w) : Sound traffic (hs.foldl Asked.step a) (w.run k traffic hs) := by
  induction hs generalizing a w with
  | nil => exact hw
  | cons h hs ih => exact ih (sound_step ht hw h)

variable (traffic) in
theorem sound_created {d : KeyboardDevice} (hd : d.awaiting = false) :
    Sound traffic .nothing (.created d) :=
  ⟨⟨[], ⟨hd, Installed.handed_created _ d, rfl⟩, fun ha => absurd ha Bool.false_ne_true⟩,
    fun ha => absurd ha Bool.false_ne_true, rfl, rfl, fun ha => absurd ha Bool.false_ne_true,
    fun hs => absurd hs Bool.false_ne_true⟩

end

/-- A keyboard that loses its LEDs when it is switched off. -/
def forgetful : KeyboardModel where
  defaultLEDs _ := 0
  defaultScanning _ := true
  disabledLEDs _ := 0

/-- The mouse is moved: a look that finds nothing and a packet, before each byte of the keyboard. -/
def pointing : ℕ → List Poll := fun _ => [.miss, .byte .mouse 0x08, .byte .mouse 0x01, .byte .mouse 0x00]

theorem harmless_pointing : Harmless .keyboard pointing where
  other _ := by
    change ∀ p ∈ ([(.mouse, 0x08), (.mouse, 0x01), (.mouse, 0x00)] : List TaggedByte), p.1 ≠ .keyboard
    decide
  prompt _ := by
    change 2 * 1 < timeoutBudget
    decide

/-- A lock is set in the sleep, of which the keyboard does not hear. -/
def lockedAsleep : List Happening :=
  [.start, .setNumLockFeedback true, .sleep, .setAlphaLockFeedback true, .processRequestQueue,
    .powerLost ⟨false, 7, false⟩ rfl, .wake, .setNumLockFeedback false]

end Live

end VoodooPS2.Keyboard
