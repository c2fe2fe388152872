import Mathlib.Data.List.GetD
import VoodooPS2.PacketFraming

/-! # Synaptics packet framing (`ApplePS2SynapticsTouchPad::interruptOccurred`, `packetReady`)

The interrupt routine frames six-byte packets whose bytes 0 and 3 carry fixed header bits.
Before the header tests it watches for the pair `AA 00` that announces a spontaneous reset,
at any position of a packet; the pair then costs the packet its bytes.

`lossless_iff`: for well-formed packets sent back to back and a ring that never fills, the
packets that reach `dispatchEventsWithPacket` are the packets sent if and only if no packet
holds `AA` directly followed by `00`. -/

namespace VoodooPS2.Synaptics

open RingBuffer PacketRing

def kPacketLength : ℕ := 6

/-- The framing state of the driver. -/
structure Framer where
  ring : PacketRing kPacketLength
  packetByteCount : ℕ
  lastdata : UInt8

/-- The special case for $AA $00, spontaneous reset, leaves `_lastdata` as it is. -/
def interruptOccurred (d : Framer) (data : UInt8) : Framer × PS2InterruptResult :=
  if kSCReset = d.lastdata ∧ 0x00 = data then
    ({ d with ring := d.ring.bufferNotice kSCReset, packetByteCount := 0 }, .packetReady)
  else if 0 = d.packetByteCount ∧ data &&& 0xc8 ≠ 0x80 then
    ({ d with ring := d.ring.bufferNotice 0, lastdata := data }, .packetReady)
  else if 3 = d.packetByteCount ∧ data &&& 0xc8 ≠ 0xc0 then
    ({ d with ring := d.ring.bufferNotice 3, lastdata := data, packetByteCount := 0 }, .packetReady)
  else if kPacketLength = d.packetByteCount + 1 then
    ({ d with
        ring := (d.ring.store d.packetByteCount data).commit
        lastdata := data
        packetByteCount := 0 }, .packetReady)
  else
    ({ d with
        ring := d.ring.store d.packetByteCount data
        lastdata := data
        packetByteCount := d.packetByteCount + 1 }, .packetBuffering)

def packetReady (d : Framer) : Framer := { d with ring := d.ring.packetReady }

/-- One event of the driver: a byte, or a round of `packetReady`. -/
def step (d : Framer) : DriverEvent → Framer
  | .interrupt data => (interruptOccurred d data).1
  | .round => { d with ring := d.ring.packetReadyRound }

def run (d : Framer) (es : List DriverEvent) : Framer := es.foldl step d

/-- No byte arrives while the ring is full. -/
def NeverFull (d : Framer) (es : List DriverEvent) : Prop :=
  PacketRing.NeverFull Framer.ring step d es

instance (d : Framer) (es : List DriverEvent) : Decidable (NeverFull d es) :=
  decidableNeverFull Framer.ring step d es

theorem packetReady_ring (d : Framer) : (packetReady d).ring = d.ring.packetReady := rfl

/-! ### The framer it implements -/

/-- The driver's framing rule in the terms of the library. -/
def format : Framing.Format UInt8 where
  len := kPacketLength
  ok i b :=
    if i = 0 then b &&& 0xc8 == 0x80 else if i = 3 then b &&& 0xc8 == 0xc0 else true
  first := kSCReset
  second := 0x00

theorem format_ok_zero : format.ok 0 0 = false := by decide

/-- A byte does to the driver what `Framing.step` does to the framer. -/
theorem frames_interrupt {d : Framer} {s : Framing.State UInt8}
    (h : Frames format d.ring d.packetByteCount d.lastdata s)
    (hroom : d.ring.ringBuffer.count < 31 * kPacketLength) (data : UInt8) :
    Frames format (interruptOccurred d data).1.ring (interruptOccurred d data).1.packetByteCount
      (interruptOccurred d data).1.lastdata (Framing.step format s data) := by
  have hlen := h.acc_length
  have hlast := h.last_eq
  have hP : 1 < kPacketLength := by decide
  unfold interruptOccurred Framing.step
  by_cases hreset : kSCReset = d.lastdata ∧ 0x00 = data
  · have hesc : s.last = format.first ∧ data = format.second :=
      ⟨hlast.trans hreset.1.symm, hreset.2.symm⟩
    rw [if_pos hreset, if_pos hesc]
    have := h.notice hP hroom kSCReset d.lastdata
    rwa [← hlast] at this ⊢
  · have hesc : ¬ (s.last = format.first ∧ data = format.second) :=
      fun hc => hreset ⟨hc.1.symm.trans hlast, hc.2.symm⟩
    rw [if_neg hreset, if_neg hesc, hlen]
    by_cases h0 : 0 = d.packetByteCount ∧ data &&& 0xc8 ≠ 0x80
    · have hbad : ¬ format.ok d.packetByteCount data = true := by
        rw [← h0.1]; simpa [format] using h0.2
      rw [if_pos h0, if_neg hbad, ← h0.1]
      exact h.notice hP hroom 0 data
    · rw [if_neg h0]
      by_cases h3 : 3 = d.packetByteCount ∧ data &&& 0xc8 ≠ 0xc0
      · have hbad : ¬ format.ok d.packetByteCount data = true := by
          rw [← h3.1]; simpa [format] using h3.2
        rw [if_pos h3, if_neg hbad]
        exact h.notice hP hroom 3 data
      · have hok : format.ok d.packetByteCount data = true := by
          simp only [format]
          split_ifs with e0 e3
          · simpa using fun hne => h0 ⟨e0.symm, hne⟩
          · simpa using fun hne => h3 ⟨e3.symm, hne⟩
          · rfl
        rw [if_neg h3, if_pos hok]
        by_cases hfull : kPacketLength = d.packetByteCount + 1
        · rw [if_pos hfull, if_pos (show _ = format.len from hfull.symm)]
          exact h.complete format_ok_zero hok hfull.symm hroom
        · have hlt : d.packetByteCount + 1 < format.len := by
            have := h.count_lt
            have e : format.len = kPacketLength := rfl
            omega
          rw [if_neg hfull, if_neg (show ¬ _ = format.len from fun e => hfull e.symm)]
          exact h.accept format_ok_zero hok hlt

/-- Along a run with room in the ring the driver and the framer stay related. -/
theorem frames_run (es : List DriverEvent) {d : Framer} {s : Framing.State UInt8}
    (h : Frames format d.ring d.packetByteCount d.lastdata s) (hn : NeverFull d es) :
    Frames format (run d es).ring (run d es).packetByteCount (run d es).lastdata
      (Framing.run format s (bytesOf es)) := by
  induction es generalizing d s with
  | nil => exact h
  | cons e es ih =>
      cases e with
      | interrupt data => exact ih (frames_interrupt h hn.1 data) hn.2
      | round => exact ih (d := step d .round) h.round hn

/-! ### Lossless framing -/

/-- A well-formed packet: six bytes, header bits in bytes 0 and 3, the rest arbitrary. -/
structure Packet where
  bytes : List UInt8
  length_eq : bytes.length = kPacketLength
  byte0 : bytes.getD 0 0 &&& 0xc8 = 0x80
  byte3 : bytes.getD 3 0 &&& 0xc8 = 0xc0

theorem Packet.wellFormed (p : Packet) : Framing.WellFormed format p.bytes := by
  refine ⟨p.length_eq, fun i hi => ?_⟩
  have h0 := p.byte0
  have h3 := p.byte3
  rw [List.getD_eq_getElem _ _ (by rw [p.length_eq]; decide)] at h0 h3
  simp only [format]
  split_ifs with e0 e3
  · subst e0; simpa using h0
  · subst e3; simpa using h3
  · rfl

/-- A driver between packets, with an empty ring. -/
structure Synchronised (d : Framer) : Prop where
  byteCount : d.packetByteCount = 0
  last_ne : d.lastdata ≠ kSCReset
  aligned : Aligned kPacketLength d.ring.ringBuffer
  normals : d.ring.normals = []
  notices : d.ring.notices = []

/-- **Framing is lossless exactly on packets without an `AA 00` pair.** -/
theorem lossless_iff (d : Framer) (hd : Synchronised d) (sent : List Packet)
    (es : List DriverEvent) (hbytes : bytesOf es = (sent.map Packet.bytes).flatten)
    (hn : NeverFull d es) :
    (packetReady (run d es)).ring.handed kPacketLength = sent.map Packet.bytes ↔
      ∀ p ∈ sent, ¬ [kSCReset, 0x00] <:+: p.bytes := by
  have h0 : Frames format d.ring d.packetByteCount d.lastdata ⟨d.lastdata, [], [], 0⟩ := by
    rw [hd.byteCount]
    exact frames_start d.lastdata hd.aligned (by decide) (by decide) hd.normals hd.notices
  have h := frames_run es h0 hn
  rw [hbytes] at h
  have hw : ∀ frame ∈ sent.map Packet.bytes, Framing.WellFormed format frame := by
    intro frame hf
    obtain ⟨p, _, rfl⟩ := List.mem_map.mp hf
    exact p.wellFormed
  have hlaw := h.handed_iff format_ok_zero hw
  rw [List.forall_mem_map] at hlaw
  rw [packetReady_ring]
  exact hlaw

/-- The driver after `initTouchPad`: an empty ring, no packet begun. -/
def initial : Framer := ⟨⟨⟨fun _ => 0, 0, 0⟩, [], []⟩, 0, 0⟩

theorem synchronised_initial : Synchronised initial :=
  ⟨rfl, by decide, aligned_reset (P := kPacketLength) (by decide) ⟨fun _ => 0, 0, 0⟩, rfl, rfl⟩

/-- Two ordinary packets. -/
def plainPacket : Packet := ⟨[0x80, 0x01, 0x02, 0xc0, 0x03, 0x04], rfl, rfl, rfl⟩
def nextPacket : Packet := ⟨[0x84, 0x05, 0x06, 0xc4, 0x00, 0xaa], rfl, rfl, rfl⟩

/-- They arrive one after the other, with a round of the work loop between them. -/
def twoPackets : List DriverEvent :=
  plainPacket.bytes.map .interrupt ++ .round :: nextPacket.bytes.map .interrupt

theorem lossless_plainPacket :
    (packetReady (run initial twoPackets)).ring.handed kPacketLength =
      [plainPacket.bytes, nextPacket.bytes] :=
  (lossless_iff initial synchronised_initial [plainPacket, nextPacket] twoPackets rfl
    (by decide +kernel)).mpr (by decide)

/-- A packet whose coordinate bytes 1 and 2 read `AA 00`. -/
def collidingPacket : Packet := ⟨[0x80, 0xaa, 0x00, 0xc0, 0x03, 0x04], rfl, rfl, rfl⟩

/-- That packet never reaches the dispatch function. -/
theorem lossless_fails_collidingPacket :
    ¬ ∀ (d : Framer) (sent : List Packet) (es : List DriverEvent), Synchronised d →
      bytesOf es = (sent.map Packet.bytes).flatten → NeverFull d es →
      (packetReady (run d es)).ring.handed kPacketLength = sent.map Packet.bytes := by
  intro h
  have := h initial [collidingPacket] (collidingPacket.bytes.map .interrupt) synchronised_initial
    rfl (by decide +kernel)
  exact absurd this (by decide +kernel)

end VoodooPS2.Synaptics
