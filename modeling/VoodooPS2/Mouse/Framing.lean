import Mathlib.Data.List.GetD
import VoodooPS2.PacketFraming

/-! # Mouse packet framing (`ApplePS2Mouse::interruptOccurred`, `packetReady`)

The mouse driver frames packets of three bytes, or of four for an Intellimouse, in ring slots
of four.  Only byte 0 is tested: bit 3 must be set and the byte must not be an acknowledge.  A
byte that fails the test is reported as a notice at most five times in a row and dropped
silently after that.  As in the touchpad driver the pair `AA 00` is taken for a reset at any
position.

`hands_exactly_iff`: for well-formed packets sent back to back and a ring that never fills,
the packets that reach `dispatchRelativePointerEventWithPacket` are the packets sent, and no
notice is buffered, if and only if no packet holds `AA` directly followed by `00`. -/

namespace VoodooPS2.Mouse

open RingBuffer PacketRing

def kPacketLengthMax : ℕ := 4
def kPacketLengthStandard : ℕ := 3
def kPacketLengthIntellimouse : ℕ := 4

/-- The framing state of the driver. -/
structure Framer where
  ring : PacketRing kPacketLengthMax
  packetByteCount : ℕ
  lastdata : UInt8
  mouseResetCount : ℕ
  packetLength : ℕ
  packetLength_eq : packetLength = kPacketLengthStandard ∨ packetLength = kPacketLengthIntellimouse

/-- The special case for $AA $00, spontaneous reset, leaves `_lastdata` as it is. -/
def interruptOccurred (d : Framer) (data : UInt8) : Framer × PS2InterruptResult :=
  if kSCReset = d.lastdata ∧ 0x00 = data then
    ({ d with ring := d.ring.bufferNotice kSCReset, packetByteCount := 0 }, .packetReady)
  else if d.packetByteCount = 0 ∧ (data = kSCAcknowledge ∨ data &&& 0x08 = 0) then
    if d.mouseResetCount < 5 then
      ({ d with
          ring := d.ring.bufferNotice kSCAcknowledge
          lastdata := data
          mouseResetCount := d.mouseResetCount + 1 }, .packetReady)
    else
      ({ d with lastdata := data }, .packetBuffering)
  else if d.packetByteCount + 1 = d.packetLength then
    ({ d with
        ring := (d.ring.store d.packetByteCount data).commit
        lastdata := data
        mouseResetCount := 0
        packetByteCount := 0 }, .packetReady)
  else
    ({ d with
        ring := d.ring.store d.packetByteCount data
        lastdata := data
        packetByteCount := d.packetByteCount + 1 }, .packetBuffering)

def packetReady (d : Framer) : Framer := { d with ring := d.ring.packetReady }

/-- One event of the driver: a byte, or a round of `packetReady`. -/
def step (d : Framer) : DriverEvent → Framer
  | .interrupt data => (interruptOccurred d data).1
  | .round => { d with ring := d.ring.packetReadyRound }

def run (d : Framer) (es : List DriverEvent) : Framer := es.foldl step d

/-- No byte arrives while the ring is full. -/
def NeverFull (d : Framer) (es : List DriverEvent) : Prop :=
  PacketRing.NeverFull Framer.ring step d es

instance (d : Framer) (es : List DriverEvent) : Decidable (NeverFull d es) :=
  decidableNeverFull Framer.ring step d es

/-! ### The framer it implements -/

/-- The driver's framing rule in the terms of the library. -/
def format (packetLength : ℕ) : Framing.Format UInt8 where
  len := packetLength
  ok i b := if i = 0 then b != kSCAcknowledge && b &&& 0x08 != 0 else true
  first := kSCReset
  second := 0x00

theorem format_ok_zero (n : ℕ) : (format n).ok 0 0 = false := by
  show ((0 : UInt8) != kSCAcknowledge && (0 : UInt8) &&& 0x08 != 0) = false
  decide

/-- The test of byte 0, read from the driver's side. -/
theorem format_ok_iff (n i : ℕ) (b : UInt8) :
    (format n).ok i b = true ↔ ¬ (i = 0 ∧ (b = kSCAcknowledge ∨ b &&& 0x08 = 0)) := by
  by_cases hi : i = 0
  · simp [format, hi]
  · simp [format, hi]

@[simp] theorem packetLength_step (d : Framer) (e : DriverEvent) :
    (step d e).packetLength = d.packetLength := by
  cases e with
  | interrupt data =>
      unfold step interruptOccurred
      dsimp only
      split_ifs <;> rfl
  | round => rfl

/-- A byte does to the driver what `Framing.step` does to the framer. -/
theorem frames_interrupt {d : Framer} {s : Framing.State UInt8}
    (h : Frames (format d.packetLength) d.ring d.packetByteCount d.lastdata s)
    (hroom : d.ring.ringBuffer.count < 31 * kPacketLengthMax) (data : UInt8) :
    Frames (format d.packetLength) (interruptOccurred d data).1.ring
      (interruptOccurred d data).1.packetByteCount (interruptOccurred d data).1.lastdata
      (Framing.step (format d.packetLength) s data) := by
  have hlen := h.acc_length
  have hlast := h.last_eq
  have hP : 1 < kPacketLengthMax := by decide
  have hz := format_ok_zero d.packetLength
  unfold interruptOccurred Framing.step
  by_cases hreset : kSCReset = d.lastdata ∧ 0x00 = data
  · have hesc : s.last = (format d.packetLength).first ∧ data = (format d.packetLength).second :=
      ⟨hlast.trans hreset.1.symm, hreset.2.symm⟩
    rw [if_pos hreset, if_pos hesc]
    have := h.notice hP hroom kSCReset d.lastdata
    rwa [← hlast] at this ⊢
  · have hesc : ¬ (s.last = (format d.packetLength).first ∧
        data = (format d.packetLength).second) :=
      fun hc => hreset ⟨hc.1.symm.trans hlast, hc.2.symm⟩
    rw [if_neg hreset, if_neg hesc, hlen]
    by_cases h0 : d.packetByteCount = 0 ∧ (data = kSCAcknowledge ∨ data &&& 0x08 = 0)
    · have hbad : ¬ (format d.packetLength).ok d.packetByteCount data = true := by
        rw [format_ok_iff]; exact fun hc => hc h0
      rw [if_pos h0, if_neg hbad]
      by_cases hcount : d.mouseResetCount < 5
      · rw [if_pos hcount, h0.1]
        exact h.notice hP hroom kSCAcknowledge data
      · rw [h0.1] at h
        rw [if_neg hcount, h0.1]
        exact h.drop data
    · have hok : (format d.packetLength).ok d.packetByteCount data = true := by
        rw [format_ok_iff]; exact h0
      rw [if_neg h0, if_pos hok]
      by_cases hfull : d.packetByteCount + 1 = d.packetLength
      · rw [if_pos hfull, if_pos (show _ = (format d.packetLength).len from hfull)]
        exact h.complete hz hok hfull hroom
      · have hlt : d.packetByteCount + 1 < (format d.packetLength).len := by
          have := h.count_lt
          have e : (format d.packetLength).len = d.packetLength := rfl
          omega
        rw [if_neg hfull, if_neg (show ¬ _ = (format d.packetLength).len from hfull)]
        exact h.accept hz hok hlt

/-- Along a run with room in the ring the driver and the framer stay related. -/
theorem frames_run (es : List DriverEvent) {d : Framer} {s : Framing.State UInt8} {n : ℕ}
    (hlen : d.packetLength = n)
    (h : Frames (format n) d.ring d.packetByteCount d.lastdata s) (hn : NeverFull d es) :
    Frames (format n) (run d es).ring (run d es).packetByteCount (run d es).lastdata
      (Framing.run (format n) s (bytesOf es)) := by
  induction es generalizing d s with
  | nil => exact h
  | cons e es ih =>
      subst hlen
      cases e with
      | interrupt data =>
          exact ih (packetLength_step d (.interrupt data)) (frames_interrupt h hn.1 data) hn.2
      | round => exact ih (d := step d .round) rfl h.round hn

/-! ### Lossless framing -/

/-- A well-formed packet of `n` bytes: byte 0 has bit 3 set and is no acknowledge, the deltas
and the wheel byte are arbitrary. -/
structure Packet (n : ℕ) where
  bytes : List UInt8
  length_eq : bytes.length = n
  byte0_sync : bytes.getD 0 0 &&& 0x08 ≠ 0
  byte0_ne : bytes.getD 0 0 ≠ kSCAcknowledge

theorem Packet.wellFormed {n : ℕ} (p : Packet n) : Framing.WellFormed (format n) p.bytes := by
  refine ⟨p.length_eq, fun i hi => ?_⟩
  rw [format_ok_iff]
  rintro ⟨rfl, hbad⟩
  have hs := p.byte0_sync
  have hne := p.byte0_ne
  rw [List.getD_eq_getElem _ _ hi] at hs hne
  exact hbad.elim hne hs

/-- A driver between packets, with an empty ring. -/
structure Synchronised (d : Framer) : Prop where
  byteCount : d.packetByteCount = 0
  last_ne : d.lastdata ≠ kSCReset
  aligned : Aligned kPacketLengthMax d.ring.ringBuffer
  normals : d.ring.normals = []
  notices : d.ring.notices = []

theorem Synchronised.frames {d : Framer} (hd : Synchronised d) :
    Frames (format d.packetLength) d.ring d.packetByteCount d.lastdata ⟨d.lastdata, [], [], 0⟩ := by
  have hpos : 0 < d.packetLength := by
    rcases d.packetLength_eq with e | e <;> rw [e] <;> decide
  have hle : d.packetLength ≤ kPacketLengthMax := by
    rcases d.packetLength_eq with e | e <;> rw [e] <;> decide
  rw [hd.byteCount]
  exact frames_start d.lastdata hd.aligned hpos hle hd.normals hd.notices

/-- **Framing is lossless, and buffers no notice, exactly on packets without an `AA 00`
pair.** -/
theorem hands_exactly_iff (d : Framer) (hd : Synchronised d) (sent : List (Packet d.packetLength))
    (es : List DriverEvent) (hbytes : bytesOf es = (sent.map Packet.bytes).flatten)
    (hn : NeverFull d es) :
    ((packetReady (run d es)).ring.handed d.packetLength = sent.map Packet.bytes ∧
        (run d es).ring.notices = []) ↔
      ∀ p ∈ sent, ¬ [kSCReset, 0x00] <:+: p.bytes := by
  have h := frames_run es rfl hd.frames hn
  rw [hbytes] at h
  have hw : ∀ frame ∈ sent.map Packet.bytes, Framing.WellFormed (format d.packetLength) frame := by
    intro frame hf
    obtain ⟨p, _, rfl⟩ := List.mem_map.mp hf
    exact p.wellFormed
  have hz := format_ok_zero d.packetLength
  have hlaw := h.handed_iff hz hw
  have hnotices := h.notices_eq_nil hz hw
  rw [List.forall_mem_map] at hlaw hnotices
  constructor
  · intro hh
    exact hlaw.mp hh.1
  · intro he
    exact ⟨hlaw.mpr he, hnotices he⟩

/-- A driver after `initMouse` with packets of three bytes. -/
def initial : Framer := ⟨⟨⟨fun _ => 0, 0, 0⟩, [], []⟩, 0, 0, 0, 3, .inl rfl⟩

theorem synchronised_initial : Synchronised initial :=
  ⟨rfl, by decide, aligned_reset (P := kPacketLengthMax) (by decide) ⟨fun _ => 0, 0, 0⟩, rfl, rfl⟩

/-- Two small motions with no button pressed. -/
def plainPacket : Packet 3 := ⟨[0x08, 0x01, 0x02], rfl, by decide, by decide⟩
def nextPacket : Packet 3 := ⟨[0x08, 0x00, 0xaa], rfl, by decide, by decide⟩

/-- They arrive one after the other, with a round of the work loop between them. -/
def twoPackets : List DriverEvent :=
  plainPacket.bytes.map .interrupt ++ .round :: nextPacket.bytes.map .interrupt

theorem hands_exactly_plainPacket :
    (packetReady (run initial twoPackets)).ring.handed 3 =
        [plainPacket.bytes, nextPacket.bytes] ∧
      (run initial twoPackets).ring.notices = [] :=
  (hands_exactly_iff initial synchronised_initial [plainPacket, nextPacket] twoPackets rfl
    (by decide +kernel)).mpr (by decide)

/-- A motion of 170 units to the right and none up. -/
def collidingPacket : Packet 3 := ⟨[0x08, 0xaa, 0x00], rfl, by decide, by decide⟩

/-- That motion is taken for a reset. -/
theorem hands_exactly_fails_collidingPacket :
    ¬ ∀ (d : Framer) (sent : List (Packet d.packetLength)) (es : List DriverEvent),
      Synchronised d → bytesOf es = (sent.map Packet.bytes).flatten → NeverFull d es →
      (packetReady (run d es)).ring.handed d.packetLength = sent.map Packet.bytes ∧
        (run d es).ring.notices = [] := by
  intro h
  have := h initial [collidingPacket] (collidingPacket.bytes.map .interrupt) synchronised_initial
    rfl (by decide +kernel)
  exact absurd this.1 (by decide +kernel)

end VoodooPS2.Mouse
