import VoodooPS2.Controller.Installed
import VoodooPS2.Mouse.Negotiation

/-! # The mouse driver on its mouse

The driver together with the mouse that it has been installed on, over any run of starts and stops, sleeps,
wakes and losses of power, changes of options and motions of the mouse.  While the controller is asleep
nothing is sent, so that a driver that is started then finds its mouse at the next wake.

`Live.stays_settled`: once the driver has been started or woken, and as long as it is not put to sleep, the
mouse reports, of the type that the driver takes it for, at the rate and the resolution it was found with.
`Live.delivers`: as long as no packet looks like an acknowledge or a reset, whatever the mouse reports is
handed to the dispatch function, packet by packet, although a byte is left over from each reset and a packet
may be cut off. -/

namespace VoodooPS2.Mouse

open Controller Dialogue PacketRing RingBuffer

/-! ### The driver with bytes and packets -/

namespace State

def interruptOccurred (s : State) (data : UInt8) : State :=
  if s.handlersInstalled then { s with framer := (Mouse.interruptOccurred s.framer data).1 } else s

/-- The driver afterwards, and the packets for `dispatchRelativePointerEventWithPacket`. -/
def packetReady (s : State) : State × List (List UInt8) :=
  let framer := Mouse.packetReady s.framer
  ({ s with framer := framer },
    (framer.ring.dispatched.drop s.framer.ring.dispatched.length).map (List.take framer.packetLength))

/-- `message`, for `kPS2M_setDisableTouchpad`, before the LED is updated. -/
def setDisableTouchpad (s : State) (enable : Bool) : State :=
  if enable = s.ignoreall then { s with ignoreall := !enable } else s

end State

/-- A motion as the mouse reports it, with the wheel.  A bit of the flags is always set. -/
structure Motion where
  flags : UInt8
  x : UInt8
  y : UInt8
  z : UInt8
  sync : flags &&& 0x08 ≠ 0

/-- A mouse without a wheel sends three bytes. -/
def Motion.bytes (m : Motion) (n : ℕ) : List UInt8 := [m.flags, m.x, m.y, m.z].take n

namespace Live

/-- What happens to the driver and its mouse. -/
inductive Happening where
  | start (options : Options)
  | stop
  /-- the controller is put to sleep -/
  | sleep
  /-- the controller is woken -/
  | wake
  | setDisableTouchpad (enable : Bool)
  | setParamProperties (d : Synaptics.Dictionary)
  | moves (m : Motion)
  /-- the mouse loses its power when it has sent `n` bytes of a packet, and comes back in any state, or
  another mouse does, that does not report -/
  | powerLost (m : Motion) (n : ℕ) (hn : n < 3) (d : PointingDevice)
      (h : d.awaiting = none ∧ d.streaming = false)

/-- The driver on its mouse, with the packets that have been reported and those that have been handed to
the dispatch function. -/
structure World where
  site : Powered PointingDevice State
  reported : List (List UInt8)
  handed : List (List UInt8)

namespace World

variable (k : PointingModel) (traffic : ℕ → List Poll) (w : World)

/-- The driver before `start`, and a mouse. -/
def created (options : Options) (d : PointingDevice) : World :=
  ⟨.created (.created options) d, [], []⟩

def driver : State := w.site.driver

def mouse : PointingDevice := w.site.line.device

def update (f : State → State) : World := { w with site := { w.site with driver := f w.driver } }

def exchange (p : Bool → Prog State) : World :=
  { w with site := w.site.exchange .mouse k.device traffic State.interruptOccurred p }

/-- A command, after which the driver is as before. -/
def request (p : Bool → Prog Unit) : World :=
  w.exchange k traffic fun offline => do
    p offline
    return w.driver

/-- `resetMouse`: what comes in while the driver finds its mouse is framed as before, and thrown away. -/
def reset : World :=
  ((w.exchange k traffic fun offline => findMouse offline w.driver).update State.settle).request k traffic
    fun offline => setMouseEnable offline true

def start (options : Options) : World :=
  ((w.update fun _ => { State.created options with hasButtonTimer := true }).reset k traffic).update
    fun s => { s with handlersInstalled := true }

/-- `setMouseEnable(false)`, also for `setDevicePowerState(kPS2C_DisableDevice)`. -/
def disable : World := w.request k traffic fun offline => setMouseEnable offline false

def stop : World := (w.disable k traffic).update fun s => { s with handlersInstalled := false }

/-- `setDevicePowerState(kPS2C_EnableDevice)`. -/
def enable : World :=
  let w := w.request k traffic fun _ =>
    .sleep (w.driver.options.int .wakedelay).toUInt32.toNat (return ())
  let w := w.reset k traffic
  w.request k traffic fun offline => updateTouchpadLED offline w.driver

def setOffline (hardwareOffline : Bool) : World :=
  { w with site := { w.site with hardwareOffline := hardwareOffline } }

/-- The driver is told before the controller goes to sleep. -/
def sleep : World :=
  if w.site.hardwareOffline then w
  else (if w.driver.handlersInstalled then w.disable k traffic else w).setOffline true

/-- The driver is told when the controller is awake again. -/
def wake : World :=
  if w.site.hardwareOffline then
    if w.driver.handlersInstalled then (w.setOffline false).enable k traffic else w.setOffline false
  else w

def disableTouchpad (enable : Bool) : World :=
  let w' := w.update fun s => s.setDisableTouchpad enable
  if enable = w.driver.ignoreall then
    w'.request k traffic fun offline => updateTouchpadLED offline w'.driver
  else w'

/-- Bytes of the mouse, and a turn of the work loop. -/
def receive (bytes : List UInt8) : World :=
  let w := w.update fun s => bytes.foldl State.interruptOccurred s
  { w.update fun s => s.packetReady.1 with handed := w.handed ++ w.driver.packetReady.2 }

/-- A packet, of the length of the mouse. -/
def moves (m : Motion) : World :=
  if w.mouse.streaming then
    let bytes := m.bytes (packetLengthOf w.mouse.identity)
    { w.receive bytes with reported := w.reported ++ [bytes] }
  else w

def powerLost (m : Motion) (n : ℕ) (d : PointingDevice) : World :=
  let w := if w.mouse.streaming then w.receive (m.bytes n) else w
  { w with site := w.site.replug d }

/-- Only a driver that has been started is stopped, and one that has not is started. -/
def step (w : World) : Happening → World
  | .start o => if w.driver.handlersInstalled then w else w.start k traffic o
  | .stop => if w.driver.handlersInstalled then w.stop k traffic else w
  | .sleep => w.sleep k traffic
  | .wake => w.wake k traffic
  | .setDisableTouchpad enable => w.disableTouchpad k traffic enable
  | .setParamProperties d => w.update fun s => { s with options := (s.options.read d).convert }
  | .moves m => w.moves m
  | .powerLost m n _ d _ => w.powerLost m n d

def run (w : World) (hs : List Happening) : World := hs.foldl (step k traffic) w

end World

/-- What has been asked of the driver. -/
def Happening.attention (a : Attention) : Happening → Attention
  | start _ => if a.started then a else a.start
  | stop => if a.started then a.stop else a
  | sleep => a.sleep
  | wake => a.wake
  | powerLost _ _ _ _ _ => a.losePower
  | _ => a

/-! ### The mouse's stream only -/

theorem readsOnly_transmitAcks (bytes : List UInt8) (m : Mode) (cs : List PS2Command)
    (h : ∀ m', m'.deviceMode = .mouse ∨ bytes = [] → ReadsOnly .mouse m' cs) :
    ReadsOnly .mouse m (bytes.flatMap transmitAck ++ cs) := by
  induction bytes generalizing m with
  | nil => exact h m (.inr rfl)
  | cons b bs ih =>
      refine ⟨trivial, trivial, rfl, ?_⟩
      cases bs with
      | nil => exact h _ (.inl rfl)
      | cons b' bs => exact ih _ fun m' hm => h m' (.inl (hm.resolve_right (List.cons_ne_nil _ _)))

theorem onStream_command {bytes : List UInt8} (hlen : bytes.length ≤ 2) (offline : Bool) :
    (command offline bytes).OnStream .mouse := by
  have hreads : ReadsOnly .mouse .start (bytes.flatMap transmitAck) := by
    rw [← List.append_nil (bytes.flatMap transmitAck)]
    exact readsOnly_transmitAcks bytes .start [] fun _ _ => trivial
  refine onStream_bind (onStream_processRequest ?_ hreads offline) fun _ => trivial
  rcases bytes with _ | ⟨b, _ | ⟨c, _ | ⟨d, bytes⟩⟩⟩
  · exact Nat.le_of_ble_eq_true rfl
  · exact Nat.le_of_ble_eq_true rfl
  · exact Nat.le_of_ble_eq_true rfl
  · rw [List.length_cons, List.length_cons, List.length_cons] at hlen
    omega

theorem onStream_setMouseEnable (offline enable : Bool) :
    (setMouseEnable offline enable).OnStream .mouse :=
  onStream_command (Nat.le_of_ble_eq_true rfl) offline

theorem onStream_knock (offline : Bool) (r1 r2 r3 : UInt8) :
    (knock offline r1 r2 r3).OnStream .mouse := by
  have hrate (r : UInt8) : (setMouseSampleRate offline r).OnStream .mouse :=
    onStream_command (Nat.le_of_ble_eq_true rfl) offline
  have hreads : ReadsOnly .mouse .start (transmitAck kDPGetId ++ [readData]) :=
    ⟨trivial, trivial, rfl, rfl, trivial⟩
  exact onStream_bind (hrate r1) fun _ => onStream_bind (hrate r2) fun _ =>
    onStream_bind (hrate r3) fun _ =>
      onStream_bind (onStream_processRequest (Nat.le_of_ble_eq_true rfl) hreads offline) fun _ => trivial

theorem onStream_findMouse (offline : Bool) (s : State) : (findMouse offline s).OnStream .mouse := by
  have hresetReads : ReadsOnly .mouse .start resetRequest :=
    ⟨trivial, trivial, trivial, trivial, rfl, rfl, rfl, rfl, trivial⟩
  have hreset : (processRequest offline (.ofCommands resetRequest)).OnStream .mouse :=
    onStream_processRequest (Nat.le_of_ble_eq_true rfl) hresetReads offline
  have hprobe (o : Options) : (probeLED offline o).OnStream .mouse := by
    rw [probeLED]
    split
    · refine onStream_bind (Touchpad.onStream_getTouchPadData offline _) fun identity => ?_
      rcases identity with _ | ⟨_, type, _⟩
      · exact trivial
      · dsimp only
        split
        · exact trivial
        · refine onStream_bind (Touchpad.onStream_getTouchPadData offline _) fun capabilities => ?_
          rcases capabilities with _ | ⟨b0, _, _⟩
          · exact trivial
          · dsimp only
            split
            · exact trivial
            · split
              · exact trivial
              · refine onStream_bind (Touchpad.onStream_getTouchPadData offline _) fun model => ?_
                rcases model with _ | ⟨m0, _, _⟩ <;> exact trivial
    · exact trivial
  have hset (r : UInt8) : (setMouseResolution offline r).OnStream .mouse :=
    onStream_command (Nat.le_of_ble_eq_true rfl) offline
  have hreads : ReadsOnly .mouse .start
      (transmitAck kDPGetMouseInformation ++ [readData, readData, readData]) :=
    ⟨trivial, trivial, rfl, rfl, rfl, rfl, trivial⟩
  have hinformation : (getMouseInformation offline).OnStream .mouse :=
    onStream_bind (onStream_processRequest (Nat.le_of_ble_eq_true rfl) hreads offline) fun _ => trivial
  have hobtain (s : State) : (obtainResolution offline s).OnStream .mouse := by
    rw [obtainResolution]
    split
    · refine onStream_bind ?_ fun _ => onStream_bind hinformation fun _ => trivial
      rw [forceResolution]
      split
      · exact hset _
      · exact trivial
    · exact onStream_bind (hset _) fun _ => trivial
  have htry (type : PS2MouseId) : (tryExplorer offline type).OnStream .mouse := by
    rw [tryExplorer]
    split
    · exact onStream_bind (onStream_knock offline _ _ _) fun _ => trivial
    · exact trivial
  exact onStream_bind hreset fun _ => onStream_bind (hprobe _) fun _ => onStream_bind (hobtain _)
    fun _ => onStream_bind (onStream_bind (onStream_knock offline _ _ _) fun _ => onStream_bind (htry _)
      fun _ => onStream_bind (onStream_command (Nat.le_of_ble_eq_true rfl) offline) fun _ => trivial)
        fun _ => trivial

/-! ### Packets -/

/-- Between packets, with nothing that waits. -/
structure InStep (d : Framer) : Prop where
  byteCount : d.packetByteCount = 0
  aligned : Aligned kPacketLengthMax d.ring.ringBuffer
  empty : packets kPacketLengthMax d.ring.ringBuffer = []

theorem inStep_restart (d : Framer) (type : PS2MouseId) : InStep (d.restart type) :=
  ⟨rfl, aligned_reset (P := kPacketLengthMax) (by decide) _, packets_reset _⟩

theorem count_commit_le {R : PacketRing kPacketLengthMax}
    (h : Aligned kPacketLengthMax R.ringBuffer) :
    R.commit.ringBuffer.count ≤ R.ringBuffer.count + kPacketLengthMax := by
  have hpos : 0 < kPacketLengthMax := by decide
  change (R.ringBuffer.advanceHead kPacketLengthMax).count ≤ _
  rw [(h.advanceHead hpos).count_eq hpos, h.count_eq hpos, packets_advanceHead hpos h, ← Nat.mul_succ]
  refine Nat.mul_le_mul_left _ ?_
  split
  · rw [List.length_append, List.length_singleton]
  · exact Nat.le_succ _

/-- A byte makes the ring at most one packet longer. -/
theorem count_interruptOccurred_le {d : Framer} (h : Aligned kPacketLengthMax d.ring.ringBuffer)
    (b : UInt8) :
    Aligned kPacketLengthMax (interruptOccurred d b).1.ring.ringBuffer ∧
      (interruptOccurred d b).1.ring.ringBuffer.count ≤
        d.ring.ringBuffer.count + kPacketLengthMax := by
  have hpos : 0 < kPacketLengthMax := by decide
  have hstore (i : ℕ) (c : UInt8) := aligned_store h i c
  have hnotice (reason : UInt8) : (d.ring.bufferNotice reason).ringBuffer.count ≤
      d.ring.ringBuffer.count + kPacketLengthMax :=
    count_commit_le (aligned_store (hstore 0 0x00) 1 reason)
  unfold interruptOccurred
  split
  · exact ⟨aligned_bufferNotice hpos h _, hnotice _⟩
  · split
    · split
      · exact ⟨aligned_bufferNotice hpos h _, hnotice _⟩
      · exact ⟨h, Nat.le_add_right _ _⟩
    · split
      · exact ⟨aligned_commit hpos (hstore _ b), count_commit_le (hstore _ b)⟩
      · exact ⟨hstore _ b, Nat.le_add_right _ _⟩

theorem neverFull_of_count (bs : List UInt8) {d : Framer}
    (h : Aligned kPacketLengthMax d.ring.ringBuffer)
    (hcount : d.ring.ringBuffer.count + kPacketLengthMax * bs.length ≤ 31 * kPacketLengthMax) :
    NeverFull d (bs.map .interrupt) := by
  induction bs generalizing d with
  | nil => exact trivial
  | cons b bs ih =>
      obtain ⟨ha, hle⟩ := count_interruptOccurred_le h b
      rw [List.length_cons, Nat.mul_succ] at hcount
      have hpos : 0 < kPacketLengthMax := by decide
      refine ⟨by omega, ih ha ?_⟩
      change (interruptOccurred d b).1.ring.ringBuffer.count + _ ≤ _
      omega

theorem bytesOf_interrupts (bs : List UInt8) : bytesOf (bs.map .interrupt) = bs := by
  induction bs with
  | nil => rfl
  | cons b bs ih => exact congrArg (b :: ·) ih

theorem packetReady_inStep {d : Framer} (h : Aligned kPacketLengthMax d.ring.ringBuffer)
    (hbyte : d.packetByteCount = 0) : InStep (packetReady d) := by
  have hpos : 0 < kPacketLengthMax := by decide
  have hready := packetReady_packets hpos h
  have haligned := (iterate_round hpos 31 h).1
  rw [← PacketRing.packetReady] at haligned
  exact ⟨hbyte, haligned, hready⟩

theorem packetLength_run (d : Framer) (es : List DriverEvent) :
    (run d es).packetLength = d.packetLength := by
  induction es generalizing d with
  | nil => rfl
  | cons e es ih => exact (ih (step d e)).trans (packetLength_step d e)

/-- Only the work loop hands packets on. -/
theorem dispatched_interrupts (bs : List UInt8) (d : Framer) :
    (run d (bs.map .interrupt)).ring.dispatched = d.ring.dispatched := by
  induction bs generalizing d with
  | nil => rfl
  | cons b bs ih =>
      have hone : (interruptOccurred d b).1.ring.dispatched = d.ring.dispatched := by
        unfold interruptOccurred
        split
        · rfl
        · split
          · split <;> rfl
          · split <;> rfl
      exact (ih (step d (.interrupt b))).trans hone

/-- What the framer of the library makes of the bytes that come in between packets is handed on. -/
theorem handed_emitted {d : Framer} (h : InStep d) {bs : List UInt8} (hlen : bs.length ≤ 31)
    {frames : List (List UInt8)} {s : Framing.State UInt8} (hlast : s.last = d.lastdata)
    (hacc : s.acc = []) (hold : s.emitted = d.ring.normals.map (List.take d.packetLength))
    (hrejected : s.rejected = d.ring.notices.length)
    (hnew : (Framing.run (format d.packetLength) s bs).emitted = s.emitted ++ frames) :
    let d' := packetReady (run d (bs.map .interrupt))
    (d'.ring.dispatched.drop d.ring.dispatched.length).map (List.take d.packetLength) = frames ∧
      ((Framing.run (format d.packetLength) s bs).acc = [] → InStep d') := by
  intro d'
  have hpos : 0 < kPacketLengthMax := by decide
  have hbounds : 0 < d.packetLength ∧ d.packetLength ≤ kPacketLengthMax := by
    rcases d.packetLength_eq with e | e <;> rw [e] <;> decide
  have hframes : Frames (format d.packetLength) d.ring d.packetByteCount d.lastdata s := by
    rw [h.byteCount]
    exact ⟨h.aligned, hbounds.1, hbounds.2, hlast, hacc, by simp [hacc], hold.symm,
      Nat.le_of_eq hrejected.symm⟩
  have hnever : NeverFull d (bs.map .interrupt) := by
    refine neverFull_of_count bs h.aligned ?_
    rw [h.aligned.count_eq hpos, h.empty, List.length_nil, Nat.mul_zero, Nat.zero_add, Nat.mul_comm]
    exact Nat.mul_le_mul_right _ hlen
  have hrun := frames_run (bs.map .interrupt) rfl hframes hnever
  rw [bytesOf_interrupts] at hrun
  constructor
  · have hnormals := hrun.emitted_eq
    rw [hnew, hold] at hnormals
    have hdispatched : d.ring.normals = d.ring.dispatched := by
      rw [normals, h.empty, List.filter_nil, List.append_nil]
    change ((run d (bs.map .interrupt)).ring.packetReady.dispatched.drop _).map _ = _
    rw [packetReady_dispatched hpos hrun.aligned, List.map_drop,
      show (format d.packetLength).len = d.packetLength from rfl] at *
    rw [hnormals, hdispatched]
    exact List.drop_left' (List.length_map _)
  · intro hdone
    refine packetReady_inStep hrun.aligned ?_
    rw [← hrun.acc_length, hdone, List.length_nil]

/-- The state of the framer of the library for a driver between packets. -/
def framed (d : Framer) : Framing.State UInt8 :=
  ⟨d.lastdata, [], d.ring.normals.map (List.take d.packetLength), d.ring.notices.length⟩

/-- A packet that comes in between packets is handed on. -/
theorem handed_packet {d : Framer} (h : InStep d) (p : Packet d.packetLength)
    (hescape : ¬ [kSCReset, 0x00] <:+: p.bytes) :
    let d' := packetReady (run d (p.bytes.map .interrupt))
    InStep d' ∧ (d'.ring.dispatched.drop d.ring.dispatched.length).map (List.take d.packetLength) =
      [p.bytes] := by
  have hbounds : 0 < d.packetLength ∧ d.packetLength ≤ 31 := by
    rcases d.packetLength_eq with e | e <;> rw [e] <;> decide
  have hne : p.bytes ≠ [] := by
    intro hnil
    have hlen := p.length_eq
    rw [hnil, List.length_nil] at hlen
    omega
  obtain ⟨hacc, hemitted, -⟩ := Framing.run_frame (format_ok_zero d.packetLength) p.wellFormed hescape
    p.bytes [] (framed d) rfl rfl hne (by simp)
  obtain ⟨hhanded, hstep⟩ :=
    handed_emitted h (Nat.le_trans p.length_eq.le hbounds.2) rfl rfl rfl rfl hemitted
  exact ⟨hstep hacc, hhanded⟩

/-- Less than a packet is not handed on. -/
theorem handed_cut {d : Framer} (h : InStep d) {bs : List UInt8} (hlen : bs.length < d.packetLength) :
    let d' := packetReady (run d (bs.map .interrupt))
    (d'.ring.dispatched.drop d.ring.dispatched.length).map (List.take d.packetLength) = [] := by
  have hbound : d.packetLength ≤ 31 := by
    rcases d.packetLength_eq with e | e <;> rw [e] <;> decide
  have hemitted := Framing.emitted_of_short (f := format d.packetLength) (s := framed d) rfl hlen
  exact (handed_emitted h (by omega) rfl rfl rfl rfl
    (hemitted.trans (List.append_nil _).symm)).1

/-! ### A run, step by step -/

section

variable {k : PointingModel} {traffic : ℕ → List Poll} {w : World}

/-- No command is begun, and all bytes of the mouse's stream that have been handed on are sample rates that
resets have left. -/
structure Ready (k : PointingModel) (traffic : ℕ → List Poll) (w : World) : Prop where
  awaiting : w.mouse.awaiting = none
  handed : ∃ strays, w.site.Handed .mouse traffic strays ∧ ∀ b ∈ strays, b = k.defaultRate
  known : Known k w.driver
  ledpresent : w.driver.ledpresent = false

/-- A program that leaves no byte over. -/
theorem exchange_leaves (ht : Harmless .mouse traffic) (hw : Ready k traffic w)
    (hon : w.site.hardwareOffline = false) {p : Bool → Prog State} (hp : (p false).OnStream .mouse)
    {s : State} {d : PointingDevice} (hl : Leaves .mouse k.device w.mouse (p false) s d)
    (hd : d.awaiting = none) (hs : Known k s) (hled : s.ledpresent = false) :
    Ready k traffic (w.exchange k traffic p) ∧ (w.exchange k traffic p).driver = s ∧
      (w.exchange k traffic p).mouse = d := by
  obtain ⟨strays, hhanded, hstrays⟩ := hw.handed
  rw [← hon] at hp hl
  obtain ⟨hdriver, hdevice, hhanded'⟩ :=
    Installed.exchange_spec State.interruptOccurred ht hhanded hp hl
  have hdriver' : (w.exchange k traffic p).driver = s := hdriver
  have hdevice' : (w.exchange k traffic p).mouse = d := hdevice
  rw [List.append_nil] at hhanded'
  refine ⟨⟨?_, ⟨strays, hhanded', hstrays⟩, ?_, ?_⟩, hdriver', hdevice'⟩
  · rw [hdevice']
    exact hd
  · rw [hdriver']
    exact hs
  · rw [hdriver']
    exact hled

theorem request_leaves (ht : Harmless .mouse traffic) (hw : Ready k traffic w)
    (hon : w.site.hardwareOffline = false) {p : Bool → Prog Unit} (hp : (p false).OnStream .mouse)
    {d : PointingDevice} (hl : Leaves .mouse k.device w.mouse (p false) () d) (hd : d.awaiting = none) :
    Ready k traffic (w.request k traffic p) ∧ (w.request k traffic p).driver = w.driver ∧
      (w.request k traffic p).mouse = d :=
  exchange_leaves (p := fun offline => do p offline; return w.driver) ht hw hon
    (onStream_bind (f := fun _ => pure w.driver) hp fun _ => trivial)
    (hl.bind (leaves_pure _ _)) hd hw.known hw.ledpresent

/-- A program that sends nothing. -/
theorem exchange_idle {p : Bool → Prog State} {s : State} (hp : (p w.site.hardwareOffline).Idles s) :
    w.exchange k traffic p = w.update fun _ => s := by
  rw [World.exchange, Powered.exchange_idle hp]
  rfl

theorem request_idle {p : Bool → Prog Unit} (hp : (p w.site.hardwareOffline).Idles ()) :
    w.request k traffic p = w := by
  have hall : ((p w.site.hardwareOffline).bind fun _ => pure w.driver).Idles w.driver :=
    hp.bind (show (pure w.driver : Prog State).Idles w.driver from rfl)
  rw [World.request, exchange_idle (p := fun offline => do p offline; return w.driver) hall]
  rfl

theorem ready_update (hw : Ready k traffic w) {f : State → State} (hs : Known k (f w.driver))
    (hled : (f w.driver).ledpresent = false) : Ready k traffic (w.update f) :=
  ⟨hw.awaiting, hw.handed.imp fun _ h => ⟨h.1.update _, h.2⟩, hs, hled⟩

/-- Bytes that come in change the framer only. -/
theorem foldl_interruptOccurred (bs : List UInt8) (s : State) :
    bs.foldl State.interruptOccurred s =
      { s with framer := if s.handlersInstalled then run s.framer (bs.map .interrupt) else s.framer } := by
  induction bs generalizing s with
  | nil => simp [run]
  | cons b bs ih =>
      rw [List.foldl_cons, ih, State.interruptOccurred]
      by_cases hs : s.handlersInstalled = true
      · rw [if_pos hs, if_pos hs, if_pos hs]
        rfl
      · rw [if_neg hs, if_neg hs, if_neg hs]

/-- The mouse is attended to: it reports, and the driver knows what. -/
structure Settled (k : PointingModel) (w : World) : Prop where
  streaming : w.mouse.streaming = true
  found : Found k w.driver w.mouse
  packetLength : w.driver.framer.packetLength = packetLengthOf w.mouse.identity

/-- The mouse has been found, and does not report yet. -/
theorem found_spec (hk : k.IsMouse) (hknocks : Knocks k) (hdefault : k.defaultRate ≠ kSCAcknowledge)
    (ht : Harmless .mouse traffic) (hw : Ready k traffic w) (hon : w.site.hardwareOffline = false)
    {w' : World} (hw' : w' =
      (w.exchange k traffic fun offline => findMouse offline w.driver).update State.settle) :
    Ready k traffic w' ∧ Found k w'.driver w'.mouse ∧
      w'.driver.framer.packetLength = packetLengthOf w'.mouse.identity ∧ InStep w'.driver.framer ∧
      w'.driver.handlersInstalled = w.driver.handlersInstalled ∧
      (w.driver.mouseInfoBytes ≠ noInformation →
        w'.driver.mouseInfoBytes = w.driver.mouseInfoBytes) := by
  obtain ⟨strays, hhanded, hstrays⟩ := hw.handed
  obtain ⟨s, d, hc, hready, hfound, hled, hinstalled, hstays⟩ :=
    converse_findMouse hk hknocks hdefault hw.awaiting hw.known
  have hstream := onStream_findMouse false w.driver
  rw [← hon] at hc hstream
  obtain ⟨hdriver1, hdevice1, hhanded1⟩ :=
    Installed.exchange_spec State.interruptOccurred ht hhanded hstream hc
  rw [foldl_interruptOccurred] at hdriver1
  obtain ⟨framer, hdriver⟩ : ∃ framer, w'.driver = State.settle { s with framer := framer } := by
    rw [hw']
    exact ⟨_, congrArg State.settle hdriver1⟩
  have hmouse : w'.mouse = d := by
    rw [hw']
    exact hdevice1
  have hhanded' : w'.site.Handed .mouse traffic (strays ++ [k.defaultRate]) := by
    rw [hw']
    exact hhanded1.update _
  have hfound' : Found k w'.driver w'.mouse := by
    rw [hdriver, hmouse]
    exact ⟨hfound.type, hfound.rate, hfound.info⟩
  refine ⟨⟨?_, ⟨_, hhanded', ?_⟩, ?_, ?_⟩, hfound', ?_, ?_, ?_, ?_⟩
  · rw [hmouse]
    exact hready
  · intro b hb
    rcases List.mem_append.mp hb with hb | hb
    · exact hstrays b hb
    · exact List.mem_singleton.mp hb
  · obtain ⟨st, r, hinfo, -⟩ := hfound'.info
    exact .inr ⟨st, r, hinfo⟩
  · rw [hdriver]
    exact hled
  · rw [hdriver, hmouse]
    exact packetLength_settle hfound.type
  · rw [hdriver]
    exact inStep_restart _ _
  · rw [hdriver]
    exact hinstalled
  · intro hne
    rw [hdriver]
    exact hstays hne

theorem reset_spec (hk : k.IsMouse) (hknocks : Knocks k) (hdefault : k.defaultRate ≠ kSCAcknowledge)
    (ht : Harmless .mouse traffic) (hw : Ready k traffic w) (hon : w.site.hardwareOffline = false)
    {w' : World} (hw' : w' = w.reset k traffic) :
    Ready k traffic w' ∧ Settled k w' ∧ InStep w'.driver.framer ∧
      w'.driver.handlersInstalled = w.driver.handlersInstalled ∧
      (w.driver.mouseInfoBytes ≠ noInformation →
        w'.driver.mouseInfoBytes = w.driver.mouseInfoBytes) := by
  rw [World.reset] at hw'
  have hsite : ((w.exchange k traffic fun offline => findMouse offline w.driver).update
      State.settle).site.hardwareOffline = false := hon
  generalize hw1 : (w.exchange k traffic fun offline => findMouse offline w.driver).update
    State.settle = w1 at hw' hsite
  obtain ⟨hready, hfound, hlength, hstep, hinstalled, hstays⟩ :=
    found_spec hk hknocks hdefault ht hw hon hw1.symm
  obtain ⟨hready', hdriver, hmouse⟩ := request_leaves (p := fun offline => setMouseEnable offline true)
    ht hready hsite (onStream_setMouseEnable false true) (leaves_setMouseEnable hready.awaiting true)
    hready.awaiting
  rw [← hw'] at hready' hdriver hmouse
  refine ⟨hready', ⟨?_, ?_, ?_⟩, ?_, ?_, ?_⟩
  · rw [hmouse]
    rfl
  · rw [hdriver, hmouse]
    exact ⟨hfound.type, hfound.rate, hfound.info⟩
  · rw [hdriver, hmouse]
    exact hlength
  · rw [hdriver]
    exact hstep
  · rw [hdriver]
    exact hinstalled
  · rw [hdriver]
    exact hstays

variable (k traffic) in
/-- While the controller is asleep the driver learns nothing of its mouse. -/
theorem reset_offline (hoff : w.site.hardwareOffline = true) :
    ∃ resolution, w.reset k traffic = w.update fun s => State.settle
      { s with ledpresent := false, resolution := resolution, type := .standard } := by
  obtain ⟨resolution, hfind⟩ := idles_findMouse w.driver
  rw [← hoff] at hfind
  have henable : (setMouseEnable w.site.hardwareOffline true).Idles () := by
    rw [hoff]
    rfl
  refine ⟨resolution, ?_⟩
  rw [World.reset, exchange_idle (p := fun offline => findMouse offline w.driver) hfind]
  exact request_idle (p := fun offline => setMouseEnable offline true) henable

/-- The packets that have been reported, and those that have been handed on. -/
def World.logs (w : World) : List (List UInt8) × List (List UInt8) := (w.reported, w.handed)

theorem logs_exchange (w : World) (p : Bool → Prog State) : (w.exchange k traffic p).logs = w.logs := rfl

theorem logs_request (w : World) (p : Bool → Prog Unit) : (w.request k traffic p).logs = w.logs :=
  logs_exchange w _

theorem logs_update (w : World) (f : State → State) : (w.update f).logs = w.logs := rfl

/-- A reset is no packet. -/
theorem logs_reset (w : World) : (w.reset k traffic).logs = w.logs := by
  rw [World.reset, logs_request, logs_update, logs_exchange]

theorem logs_start (w : World) (o : Options) : (w.start k traffic o).logs = w.logs := by
  rw [World.start, logs_update, logs_reset, logs_update]

theorem logs_enable (w : World) : (w.enable k traffic).logs = w.logs := by
  rw [World.enable, logs_request, logs_reset, logs_request]

/-- What holds between two happenings. -/
structure Sound (k : PointingModel) (traffic : ℕ → List Poll) (a : Attention) (w : World) : Prop where
  ready : Ready k traffic w
  installed : w.driver.handlersInstalled = a.started
  offline : w.site.hardwareOffline = a.asleep
  attended : a.attended = true → Settled k w
  /-- a mouse that reports is attended to -/
  streaming : w.mouse.streaming = true → a.attended = true

/-- What is reported has been handed on, and whatever comes next will be framed as it is sent. -/
structure Delivered (w : World) : Prop where
  handed : w.handed = w.reported
  inStep : w.mouse.streaming = true → InStep w.driver.framer

theorem Delivered.of_logs {w' : World} (h : Delivered w) (hlogs : w'.logs = w.logs)
    (hstep : w'.mouse.streaming = true → InStep w'.driver.framer) : Delivered w' := by
  refine ⟨?_, hstep⟩
  have hhanded : w'.handed = w.handed := congrArg Prod.snd hlogs
  have hreported : w'.reported = w.reported := congrArg Prod.fst hlogs
  rw [hhanded, hreported]
  exact h.handed

/-- The packet of the motion does not begin with an acknowledge, and does not look like a reset anywhere. -/
def Happening.Intact : Happening → Prop
  | moves m => m.flags ≠ kSCAcknowledge ∧ ¬ [kSCReset, 0x00] <:+: m.bytes kPacketLengthMax
  | _ => True

instance : (h : Happening) → Decidable h.Intact
  | .moves m => inferInstanceAs
      (Decidable (m.flags ≠ kSCAcknowledge ∧ ¬ [kSCReset, 0x00] <:+: m.bytes kPacketLengthMax))
  | .start _ | .stop | .sleep | .wake | .setDisableTouchpad _ | .setParamProperties _
  | .powerLost _ _ _ _ _ => isTrue trivial

/-- A mouse has no LED to be updated. -/
theorem idles_updateTouchpadLED {s : State} (h : s.ledpresent = false) (offline : Bool) :
    (updateTouchpadLED offline s).Idles () := by
  rw [updateTouchpadLED, if_neg]
  · rfl
  · rw [h]
    exact fun hc => Bool.false_ne_true hc.1

theorem streaming_disable (d : PointingDevice) :
    (k.command d kDPSetDefaultsAndDisable).streaming = false := by
  rw [PointingModel.command, if_neg (by decide), if_neg (by decide), if_pos rfl]

/-- The mouse is told not to report, or has been told before. -/
theorem disable_spec (ht : Harmless .mouse traffic) {a : Attention} (hw : Sound k traffic a w) {w' : World}
    (hw' : w' = w.disable k traffic) :
    Ready k traffic w' ∧ w'.driver = w.driver ∧ w'.mouse.streaming = false := by
  cases hoff : w.site.hardwareOffline with
  | true =>
      have hidle : (setMouseEnable w.site.hardwareOffline false).Idles () := by
        rw [hoff]
        rfl
      rw [World.disable, request_idle (p := fun offline => setMouseEnable offline false) hidle] at hw'
      subst hw'
      have hdown := a.attended_of_asleep (hw.offline.symm.trans hoff)
      refine ⟨hw.ready, rfl, Bool.eq_false_of_not_eq_true fun hs => ?_⟩
      exact Bool.false_ne_true (hdown.symm.trans (hw.streaming hs))
  | false =>
      obtain ⟨hready, hdriver, hmouse⟩ := request_leaves (p := fun offline => setMouseEnable offline false)
        ht hw.ready hoff (onStream_setMouseEnable false false)
        (leaves_setMouseEnable hw.ready.awaiting false) (kept_disable hw.ready.awaiting).awaiting
      rw [hw']
      refine ⟨hready, hdriver, ?_⟩
      rw [World.disable, hmouse]
      exact streaming_disable w.mouse

theorem Settled.congr {w' : World} (h : Settled k w) (hmouse : w'.mouse = w.mouse)
    (htype : w'.driver.type = w.driver.type)
    (hinfo : w'.driver.mouseInfoBytes = w.driver.mouseInfoBytes)
    (hlength : w'.driver.framer.packetLength = w.driver.framer.packetLength) : Settled k w' := by
  refine ⟨?_, ⟨?_, ?_, ?_⟩, ?_⟩
  · rw [hmouse]
    exact h.streaming
  · rw [htype, hmouse]
    exact h.found.type
  · rw [hmouse]
    exact h.found.rate
  · rw [hinfo, hmouse]
    exact h.found.info
  · rw [hlength, hmouse]
    exact h.packetLength

/-- The driver finds its mouse, or knows nothing of it that is wrong until the controller is woken. -/
theorem sound_start (hk : k.IsMouse) (hknocks : Knocks k) (hdefault : k.defaultRate ≠ kSCAcknowledge)
    (ht : Harmless .mouse traffic) {a : Attention} (hw : Sound k traffic a w) (hnew : a.started = false)
    (options : Options) {w' : World} (hw' : w' = w.start k traffic options) :
    Sound k traffic a.start w' ∧ (w'.mouse.streaming = true → InStep w'.driver.framer) := by
  have hcreated : Ready k traffic
      (w.update fun _ => { State.created options with hasButtonTimer := true }) :=
    ready_update hw.ready (.inl rfl) rfl
  cases hoff : w.site.hardwareOffline with
  | true =>
      have hasleep : a.asleep = true := hw.offline.symm.trans hoff
      have hsilent : ¬ w.mouse.streaming = true := fun hs =>
        Bool.false_ne_true ((a.attended_of_not_started hnew).symm.trans (hw.streaming hs))
      have hunattended : ¬ a.start.attended = true :=
        ne_of_eq_of_ne (a.start.attended_of_asleep hasleep) Bool.false_ne_true
      obtain ⟨resolution, hreset⟩ := reset_offline k traffic
        (w := w.update fun _ => { State.created options with hasButtonTimer := true }) hoff
      rw [World.start, hreset] at hw'
      subst hw'
      have hready := ready_update hcreated (f := fun s => State.settle
        { s with ledpresent := false, resolution := resolution, type := .standard }) hcreated.known rfl
      exact ⟨⟨ready_update hready hready.known hready.ledpresent, rfl, hw.offline,
        fun hon => absurd hon hunattended, fun hs => absurd hs hsilent⟩, fun hs => absurd hs hsilent⟩
  | false =>
      have hattended : a.start.attended = true :=
        a.start.attended_iff.mpr ⟨rfl, hw.offline.symm.trans hoff, rfl⟩
      rw [World.start] at hw'
      have hsite : ((w.update fun _ => { State.created options with hasButtonTimer := true }).reset
        k traffic).site.hardwareOffline = a.asleep := hw.offline
      generalize hw1 : (w.update fun _ => { State.created options with hasButtonTimer := true }).reset
        k traffic = w1 at hw' hsite
      obtain ⟨hready, hsettled, hstep, -, -⟩ :=
        reset_spec hk hknocks hdefault ht hcreated hoff hw1.symm
      subst hw'
      exact ⟨⟨ready_update hready hready.known hready.ledpresent, rfl, hsite,
        fun _ => hsettled.congr rfl rfl rfl rfl, fun _ => hattended⟩, fun _ => hstep⟩

/-- A driver that is told of the power finds its mouse again. -/
theorem enable_spec (hk : k.IsMouse) (hknocks : Knocks k) (hdefault : k.defaultRate ≠ kSCAcknowledge)
    (ht : Harmless .mouse traffic) (hw : Ready k traffic w) (hon : w.site.hardwareOffline = false)
    {w' : World} (hw' : w' = w.enable k traffic) :
    Ready k traffic w' ∧ Settled k w' ∧ InStep w'.driver.framer ∧
      w'.driver.handlersInstalled = w.driver.handlersInstalled ∧ w'.site.hardwareOffline = false := by
  have hsleep : (w.request k traffic fun _ =>
      .sleep (w.driver.options.int .wakedelay).toUInt32.toNat (return ())) = w :=
    request_idle (p := fun _ => .sleep (w.driver.options.int .wakedelay).toUInt32.toNat (return ())) rfl
  have hsite : (w.reset k traffic).site.hardwareOffline = false := hon
  rw [World.enable, hsleep] at hw'
  generalize hw1 : w.reset k traffic = w1 at hw' hsite
  obtain ⟨hready, hsettled, hstep, hinstalled, -⟩ := reset_spec hk hknocks hdefault ht hw hon hw1.symm
  rw [request_idle (p := fun offline => updateTouchpadLED offline w1.driver)
    (idles_updateTouchpadLED hready.ledpresent _)] at hw'
  subst hw'
  exact ⟨hready, hsettled, hstep, hinstalled, hsite⟩

/-- Bytes change nothing but the framer. -/
theorem receive_spec (hw : Ready k traffic w) (bytes : List UInt8) {w' : World}
    (hw' : w' = w.receive bytes) :
    Ready k traffic w' ∧ w'.mouse = w.mouse ∧ (∃ framer, w'.driver = { w.driver with framer := framer } ∧
      framer.packetLength = w.driver.framer.packetLength) := by
  have hdriver : w'.driver = (bytes.foldl State.interruptOccurred w.driver).packetReady.1 := by
    rw [hw']
    rfl
  rw [foldl_interruptOccurred, State.packetReady] at hdriver
  dsimp only at hdriver
  generalize hf : Mouse.packetReady (if w.driver.handlersInstalled then
    run w.driver.framer (bytes.map .interrupt) else w.driver.framer) = framer at hdriver
  have hlength : framer.packetLength = w.driver.framer.packetLength := by
    rw [← hf]
    split
    · exact packetLength_run _ _
    · rfl
  refine ⟨?_, by rw [hw']; rfl, framer, hdriver, hlength⟩
  have hready := ready_update hw (f := fun _ => w'.driver) (by rw [hdriver]; exact hw.known)
    (by rw [hdriver]; exact hw.ledpresent)
  have hsite : w'.site = (w.update fun _ => w'.driver).site := by
    rw [hw']
    rfl
  have hmouse : w'.mouse = (w.update fun _ => w'.driver).mouse := by rw [hw']; rfl
  exact ⟨by rw [hmouse]; exact hready.awaiting, by rw [hsite]; exact hready.handed,
    hready.known, hready.ledpresent⟩

theorem sound_receive {a : Attention} (hw : Sound k traffic a w) (bytes : List UInt8) :
    Sound k traffic a (w.receive bytes) := by
  have hsite : (w.receive bytes).site.hardwareOffline = a.asleep := hw.offline
  obtain ⟨hready, hmouse, framer, hdriver, hlength⟩ := receive_spec hw.ready bytes rfl
  generalize w.receive bytes = w' at *
  refine ⟨hready, ?_, hsite, fun hon => ?_, fun hs => ?_⟩
  · rw [hdriver]
    exact hw.installed
  · exact (hw.attended hon).congr hmouse (by rw [hdriver]) (by rw [hdriver])
      (by rw [hdriver]; exact hlength)
  · rw [hmouse] at hs
    exact hw.streaming hs

/-- A motion that is reported is handed on as one packet. -/
theorem delivered_moves {a : Attention} (hw : Sound k traffic a w) (hd : Delivered w) {m : Motion}
    (hm : (Happening.moves m).Intact) : Delivered (w.moves m) := by
  rw [World.moves]
  by_cases hstreaming : w.mouse.streaming = true
  · have hon := hw.streaming hstreaming
    have hsettled := hw.attended hon
    have hinstalled : w.driver.handlersInstalled = true :=
      hw.installed.trans (a.attended_iff.mp hon).1
    have hlength := hsettled.packetLength
    have hn : packetLengthOf w.mouse.identity ≤ 4 ∧ 0 < packetLengthOf w.mouse.identity := by
      rw [packetLengthOf]
      split <;> decide
    generalize hbytes : m.bytes (packetLengthOf w.mouse.identity) = bytes
    have hhead : bytes.getD 0 0 = m.flags := by
      rw [← hbytes, Motion.bytes]
      obtain ⟨n, hn'⟩ := Nat.exists_eq_succ_of_ne_zero hn.2.ne'
      rw [hn']
      rfl
    let p : Packet w.driver.framer.packetLength :=
      ⟨bytes, by rw [hlength, ← hbytes, Motion.bytes, List.length_take]; exact Nat.min_eq_left hn.1,
        by rw [hhead]; exact m.sync, by rw [hhead]; exact hm.1⟩
    have hescape : ¬ [kSCReset, 0x00] <:+: p.bytes := by
      intro hin
      refine hm.2 (hin.trans ?_)
      change bytes <:+: _
      rw [← hbytes]
      exact (List.take_prefix_take_left hn.1).isInfix
    obtain ⟨hstep, hhanded⟩ := handed_packet (hd.inStep hstreaming) p hescape
    have hframer : (bytes.foldl State.interruptOccurred w.driver).framer =
        run w.driver.framer (bytes.map .interrupt) := by
      rw [foldl_interruptOccurred, if_pos hinstalled]
    rw [if_pos hstreaming]
    refine ⟨?_, fun _ => ?_⟩
    · change w.handed ++ (State.packetReady (bytes.foldl State.interruptOccurred w.driver)).2 =
        w.reported ++ [bytes]
      rw [State.packetReady, hframer, dispatched_interrupts, hd.handed]
      change _ ++ (List.drop _ _).map (List.take (run _ _).packetLength) = _
      rw [packetLength_run]
      exact congrArg _ hhanded
    · change InStep (State.packetReady (bytes.foldl State.interruptOccurred w.driver)).1.framer
      rw [State.packetReady, hframer]
      exact hstep
  · rw [if_neg hstreaming]
    exact hd

theorem sound_moves {a : Attention} (hw : Sound k traffic a w) (m : Motion) :
    Sound k traffic a (w.moves m) := by
  rw [World.moves]
  split
  · have hreceived := sound_receive hw (m.bytes (packetLengthOf w.mouse.identity))
    exact ⟨⟨hreceived.ready.awaiting, hreceived.ready.handed, hreceived.ready.known,
      hreceived.ready.ledpresent⟩, hreceived.installed, hreceived.offline,
      fun hon => (hreceived.attended hon).congr rfl rfl rfl rfl, hreceived.streaming⟩
  · exact hw

/-- Less than a packet is handed to nobody. -/
theorem handed_cutOff {a : Attention} (hw : Sound k traffic a w) (hd : Delivered w)
    (hstreaming : w.mouse.streaming = true) (m : Motion) {n : ℕ} (hn : n < 3) :
    (w.receive (m.bytes n)).handed = w.reported := by
  have hinstalled : w.driver.handlersInstalled = true :=
    hw.installed.trans (a.attended_iff.mp (hw.streaming hstreaming)).1
  have hframer : ((m.bytes n).foldl State.interruptOccurred w.driver).framer =
      run w.driver.framer ((m.bytes n).map .interrupt) := by
    rw [foldl_interruptOccurred, if_pos hinstalled]
  have hshort : (m.bytes n).length < w.driver.framer.packetLength := by
    rw [Motion.bytes, List.length_take]
    have hlen : 3 ≤ w.driver.framer.packetLength := by
      rcases w.driver.framer.packetLength_eq with e | e <;> rw [e] <;> decide
    omega
  change w.handed ++ (State.packetReady ((m.bytes n).foldl State.interruptOccurred w.driver)).2 =
    w.reported
  rw [State.packetReady, hframer, dispatched_interrupts, hd.handed]
  change _ ++ (List.drop _ _).map (List.take (run _ _).packetLength) = _
  rw [packetLength_run, handed_cut (hd.inStep hstreaming) hshort, List.append_nil]

/-- The beginning of a packet is not handed on, and the mouse is cut off. -/
theorem cut_spec {a : Attention} (hw : Sound k traffic a w) (m : Motion) {n : ℕ} (hn : n < 3)
    {d : PointingDevice} (h : d.awaiting = none ∧ d.streaming = false) {w' : World}
    (hw' : w' = w.powerLost m n d) :
    Sound k traffic a.losePower w' ∧ (Delivered w → Delivered w') := by
  have hreceived : Sound k traffic a (if w.mouse.streaming then w.receive (m.bytes n) else w) := by
    split
    · exact sound_receive hw (m.bytes n)
    · exact hw
  rw [World.powerLost] at hw'
  have hoff : ¬ a.losePower.attended = true := by simp
  have hmouse : w'.mouse = d := by
    rw [hw']
    rfl
  have hsilent : ¬ w'.mouse.streaming = true := by
    rw [hmouse, h.2]
    exact Bool.false_ne_true
  refine ⟨⟨⟨?_, ?_, ?_, ?_⟩, ?_, ?_, fun hon => absurd hon hoff, fun hs => absurd hs hsilent⟩, fun hd =>
    ⟨?_, fun hs => absurd hs hsilent⟩⟩
  · rw [hmouse]
    exact h.1
  · rw [hw']
    exact hreceived.ready.handed.imp fun _ hh => ⟨hh.1.replug d, hh.2⟩
  · rw [hw']
    exact hreceived.ready.known
  · rw [hw']
    exact hreceived.ready.ledpresent
  · rw [hw']
    exact hreceived.installed
  · rw [hw']
    exact hreceived.offline
  · rw [hw']
    dsimp only
    by_cases hstreaming : w.mouse.streaming = true
    · rw [if_pos hstreaming]
      exact handed_cutOff hw hd hstreaming m hn
    · rw [if_neg hstreaming]
      exact hd.handed

/-- The LED is not there, so the driver alone is changed. -/
theorem disableTouchpad_eq (hw : Ready k traffic w) (enable : Bool) :
    w.disableTouchpad k traffic enable = w.update fun s => s.setDisableTouchpad enable := by
  have hled : (w.driver.setDisableTouchpad enable).ledpresent = false := by
    rw [State.setDisableTouchpad]
    split <;> exact hw.ledpresent
  rw [World.disableTouchpad]
  split
  · let w1 := w.update fun s => s.setDisableTouchpad enable
    exact request_idle (p := fun offline => updateTouchpadLED offline w1.driver)
      (idles_updateTouchpadLED hled _)
  · rfl

/-- Options, and whether motions are ignored, are of no concern to the mouse. -/
theorem sound_update {a : Attention} (hw : Sound k traffic a w) {f : State → State} {o : Options} {i : Bool}
    (hf : f w.driver = { w.driver with options := o, ignoreall := i }) :
    Sound k traffic a (w.update f) ∧ (Delivered w → Delivered (w.update f)) := by
  have hupdate : w.update f = w.update fun s => { s with options := o, ignoreall := i } := by
    rw [World.update, hf]
    rfl
  have hready : Ready k traffic (w.update fun s => { s with options := o, ignoreall := i }) :=
    ready_update hw.ready hw.ready.known hw.ready.ledpresent
  rw [hupdate]
  exact ⟨⟨hready, hw.installed, hw.offline, fun hon => (hw.attended hon).congr rfl rfl rfl rfl,
    hw.streaming⟩, fun hd => ⟨hd.handed, hd.inStep⟩⟩

theorem sleep_spec (ht : Harmless .mouse traffic) {a : Attention} (hw : Sound k traffic a w) {w' : World}
    (hw' : w' = w.sleep k traffic) : Sound k traffic a.sleep w' ∧ (Delivered w → Delivered w') := by
  have hoff : ¬ a.sleep.attended = true := by simp
  -- while the controller is asleep, and before the start, the mouse does not report
  have hquiet {w1 : World} (hready : Ready k traffic w1) (hdriver : w1.driver = w.driver)
      (hlogs : w1.logs = w.logs) (hsilent : ¬ w1.mouse.streaming = true) :
      Sound k traffic a.sleep (w1.setOffline true) ∧ (Delivered w → Delivered (w1.setOffline true)) :=
    ⟨⟨⟨hready.awaiting, hready.handed, hready.known, hready.ledpresent⟩,
      (congrArg State.handlersInstalled hdriver).trans hw.installed, rfl, fun hon => absurd hon hoff,
      fun hs => absurd hs hsilent⟩, fun hd => hd.of_logs hlogs fun hs => absurd hs hsilent⟩
  rw [World.sleep] at hw'
  cases hoffline : w.site.hardwareOffline with
  | true =>
      rw [hoffline, if_pos rfl] at hw'
      subst hw'
      have hasleep : a.asleep = true := hw.offline.symm.trans hoffline
      refine ⟨⟨hw.ready, hw.installed, hoffline, fun hon => absurd hon hoff, fun hs => ?_⟩, id⟩
      exact absurd ((a.attended_of_asleep hasleep).symm.trans (hw.streaming hs)) Bool.false_ne_true
  | false =>
      rw [hoffline, if_neg Bool.false_ne_true] at hw'
      subst hw'
      split
      · obtain ⟨hready, hdriver, hsilent⟩ := disable_spec ht hw rfl
        exact hquiet hready hdriver (logs_request w _) (ne_of_eq_of_ne hsilent Bool.false_ne_true)
      · rename_i hnone
        refine hquiet hw.ready rfl rfl fun hs => hnone ?_
        exact hw.installed.trans (a.attended_iff.mp (hw.streaming hs)).1

theorem wake_spec (hk : k.IsMouse) (hknocks : Knocks k) (hdefault : k.defaultRate ≠ kSCAcknowledge)
    (ht : Harmless .mouse traffic) {a : Attention} (hw : Sound k traffic a w) {w' : World}
    (hw' : w' = w.wake k traffic) : Sound k traffic a.wake w' ∧ (Delivered w → Delivered w') := by
  rw [World.wake, hw.offline] at hw'
  rw [Attention.wake]
  cases hasleep : a.asleep with
  | false =>
      rw [hasleep, if_neg Bool.false_ne_true] at hw'
      rw [if_neg Bool.false_ne_true]
      subst hw'
      exact ⟨hw, id⟩
  | true =>
      rw [hasleep, if_pos rfl] at hw'
      rw [if_pos rfl]
      have hready : Ready k traffic (w.setOffline false) :=
        ⟨hw.ready.awaiting, hw.ready.handed, hw.ready.known, hw.ready.ledpresent⟩
      split at hw'
      · rename_i hinstalled
        have hstarted : a.started = true := hw.installed.symm.trans hinstalled
        obtain ⟨hready', hsettled, hstep, hinstalled', hoffline⟩ :=
          enable_spec hk hknocks hdefault ht hready rfl hw'
        refine ⟨⟨hready', hinstalled'.trans hw.installed, hoffline, fun _ => hsettled, fun _ => ?_⟩,
          fun hd => hd.of_logs ?_ fun _ => hstep⟩
        · exact (Attention.attended_iff _).mpr ⟨hstarted, rfl, rfl⟩
        · rw [hw']
          exact logs_enable (w.setOffline false)
      · rename_i hnone
        have hsilent : ¬ w.mouse.streaming = true := fun hs =>
          hnone (hw.installed.trans (a.attended_iff.mp (hw.streaming hs)).1)
        subst hw'
        refine ⟨⟨hready, hw.installed, rfl, fun hon => ?_, fun hs => absurd hs hsilent⟩,
          fun hd => ⟨hd.handed, fun hs => absurd hs hsilent⟩⟩
        exact absurd (hw.installed.trans ((Attention.attended_iff _).mp hon).1) hnone

theorem stop_spec (ht : Harmless .mouse traffic) {a : Attention} (hw : Sound k traffic a w) {w' : World}
    (hw' : w' = w.stop k traffic) : Sound k traffic a.stop w' ∧ (Delivered w → Delivered w') := by
  have hsite : (w.disable k traffic).site.hardwareOffline = a.asleep := hw.offline
  have hlogs : (w.disable k traffic).logs = w.logs := logs_request w _
  rw [World.stop] at hw'
  generalize hw1 : w.disable k traffic = w1 at hw' hsite hlogs
  obtain ⟨hready, -, hsilent⟩ := disable_spec ht hw hw1.symm
  have hsilent' : ¬ w1.mouse.streaming = true := ne_of_eq_of_ne hsilent Bool.false_ne_true
  subst hw'
  exact ⟨⟨ready_update hready hready.known hready.ledpresent, rfl, hsite, fun hon => by simp at hon,
    fun hs => absurd hs hsilent'⟩, fun hd => hd.of_logs hlogs fun hs => absurd hs hsilent'⟩

theorem step_spec (hk : k.IsMouse) (hknocks : Knocks k) (hdefault : k.defaultRate ≠ kSCAcknowledge)
    (ht : Harmless .mouse traffic) {a : Attention} (hw : Sound k traffic a w) (h : Happening)
    {w' : World} (hw' : w' = w.step k traffic h) :
    Sound k traffic (h.attention a) w' ∧ (h.Intact → Delivered w → Delivered w') := by
  cases h with
  | start o =>
      rw [World.step, hw.installed] at hw'
      rw [Happening.attention]
      cases hstarted : a.started with
      | true =>
          rw [hstarted, if_pos rfl] at hw'
          rw [if_pos rfl]
          subst hw'
          exact ⟨hw, fun _ => id⟩
      | false =>
          rw [hstarted, if_neg Bool.false_ne_true] at hw'
          rw [if_neg Bool.false_ne_true]
          obtain ⟨hsound, hstep⟩ := sound_start hk hknocks hdefault ht hw hstarted o hw'
          refine ⟨hsound, fun _ hd => hd.of_logs ?_ hstep⟩
          rw [hw']
          exact logs_start w o
  | stop =>
      rw [World.step, hw.installed] at hw'
      rw [Happening.attention]
      cases hstarted : a.started with
      | true =>
          rw [hstarted, if_pos rfl] at hw'
          rw [if_pos rfl]
          obtain ⟨hsound, hdelivered⟩ := stop_spec ht hw hw'
          exact ⟨hsound, fun _ => hdelivered⟩
      | false =>
          rw [hstarted, if_neg Bool.false_ne_true] at hw'
          rw [if_neg Bool.false_ne_true]
          subst hw'
          exact ⟨hw, fun _ => id⟩
  | sleep =>
      obtain ⟨hsound, hdelivered⟩ := sleep_spec ht hw hw'
      exact ⟨hsound, fun _ => hdelivered⟩
  | wake =>
      obtain ⟨hsound, hdelivered⟩ := wake_spec hk hknocks hdefault ht hw hw'
      exact ⟨hsound, fun _ => hdelivered⟩
  | setDisableTouchpad enable =>
      have hsame : w.driver.setDisableTouchpad enable = { w.driver with
          ignoreall := (w.driver.setDisableTouchpad enable).ignoreall } := by
        rw [State.setDisableTouchpad]
        split <;> rfl
      obtain ⟨hsound, hdelivered⟩ := sound_update (f := fun s => s.setDisableTouchpad enable) hw hsame
      rw [World.step, disableTouchpad_eq hw.ready enable] at hw'
      subst hw'
      exact ⟨hsound, fun _ => hdelivered⟩
  | setParamProperties d =>
      obtain ⟨hsound, hdelivered⟩ := sound_update hw (f := fun s =>
        { s with options := (s.options.read d).convert }) rfl
      subst hw'
      exact ⟨hsound, fun _ => hdelivered⟩
  | moves m =>
      subst hw'
      exact ⟨sound_moves hw m, fun hm hd => delivered_moves hw hd hm⟩
  | powerLost m n hn d hd =>
      obtain ⟨hsound, hdelivered⟩ := cut_spec hw m hn hd hw'
      exact ⟨hsound, fun _ => hdelivered⟩

theorem run_spec (hk : k.IsMouse) (hknocks : Knocks k) (hdefault : k.defaultRate ≠ kSCAcknowledge)
    (ht : Harmless .mouse traffic) (hs : List Happening) {a : Attention} (hw : Sound k traffic a w) :
    Sound k traffic (hs.foldl Happening.attention a) (w.run k traffic hs) ∧
      ((∀ h ∈ hs, h.Intact) → Delivered w → Delivered (w.run k traffic hs)) := by
  induction hs generalizing a w with
  | nil => exact ⟨hw, fun _ hd => hd⟩
  | cons h hs ih =>
      obtain ⟨hsound, hdelivered⟩ := step_spec hk hknocks hdefault ht hw h rfl
      obtain ⟨hsound', hdelivered'⟩ := ih hsound
      refine ⟨hsound', fun hintact hd => ?_⟩
      rw [List.forall_mem_cons] at hintact
      exact hdelivered' hintact.2 (hdelivered hintact.1 hd)

variable (k traffic) in
theorem sound_created (options : Options) {d : PointingDevice}
    (hd : d.awaiting = none ∧ d.streaming = false) :
    Sound k traffic .initial (.created options d) := by
  have hsilent : ¬ d.streaming = true := ne_of_eq_of_ne hd.2 Bool.false_ne_true
  refine ⟨⟨hd.1, ⟨[], Installed.handed_created _ d, ?_⟩, .inl rfl, rfl⟩, rfl, rfl,
    fun hon => absurd hon Bool.false_ne_true, fun hs => absurd hs hsilent⟩
  exact fun b hb => absurd hb List.not_mem_nil

end

/-- A mouse with a wheel, and without if it is not asked for one. -/
def wheel : PointingModel where
  special _ := none
  data _ := (0, 0, 0)
  identify i rates b := if rates = (200, 100) ∧ b = 80 then 0x03 else i
  defaultResolution := 2
  defaultRate := 100
  disableSetsDefaults := true

theorem knocks_wheel : Knocks wheel where
  other i r1 r2 b h := by
    refine if_neg fun hc => h ?_
    rw [Prod.mk.injEq] at hc
    exact ⟨hc.1.1, .inl hc.1.2, hc.2⟩
  explorer := .inl rfl

/-- A motion with the wheel turned. -/
def turned : Motion := ⟨0x08, 0x01, 0x02, 0xFF, by decide⟩

/-- The mouse is moved, cut off in its sleep and woken, and moved again. -/
def throughSleep : List Happening :=
  [.start .init, .moves turned, .sleep,
    .powerLost turned 2 (by decide) (PointingModel.poweredOn 0) ⟨rfl, rfl⟩, .moves turned, .wake,
    .moves turned]

end Live

end VoodooPS2.Mouse
