import VoodooPS2.Lib.Delimited
import VoodooPS2.PacketRing

/-! # ALPS packet framing (`ApplePS2ALPSGlidePoint::interruptOccurred`, `packetReady`)

An ALPS pad sends packets of three bytes, of relative motions, and of six bytes, of absolute
positions, in one stream; the first byte tells which.  A byte `80` inside a packet is taken for a loss
of synchronisation, and gives up the packet.

`dispatches_exactly_iff`: for well-formed packets of both kinds sent back to back and a ring that never
fills, each packet goes to the handler of its kind, in order and with its own bytes, if and only if no
packet holds the byte `80`. -/

namespace VoodooPS2.ALPS

open RingBuffer

def kPacketLengthSmall : ℕ := 3
def kPacketLengthLarge : ℕ := 6
def kPacketLengthMax : ℕ := 6

/-- A call of one of the two handlers, with the bytes of the packet that are its own. -/
inductive Dispatch where
  | absolute (packet : List UInt8)
  | relative (packet : List UInt8)
deriving DecidableEq, Repr

/-- The framing state of the driver. -/
structure Framer where
  ringBuffer : RingBuffer UInt8 (32 * kPacketLengthMax)
  packetByteCount : ℕ
  dispatched : List Dispatch

def interruptOccurred (d : Framer) (data : UInt8) : Framer × PS2InterruptResult :=
  if 0 = d.packetByteCount ∧ data &&& 0xc8 ≠ 0x08 ∧ data &&& 0xf8 ≠ 0xf8 then
    (d, .packetBuffering)
  else if 1 ≤ d.packetByteCount ∧ data = 0x80 then
    ({ d with packetByteCount := 0 }, .packetBuffering)
  else
    let packet := d.ringBuffer.headWrite d.packetByteCount data
    if kPacketLengthLarge = d.packetByteCount + 1 ∨
        kPacketLengthSmall = d.packetByteCount + 1 ∧ packet.headRead 0 &&& 0xc8 = 0x08 then
      ({ d with ringBuffer := packet.advanceHead kPacketLengthMax, packetByteCount := 0 },
        .packetReady)
    else
      ({ d with ringBuffer := packet, packetByteCount := d.packetByteCount + 1 }, .packetBuffering)

/-- The handler of a packet in the ring. -/
def dispatchOf (packet : List UInt8) : Dispatch :=
  if packet.headD 0 &&& 0xf8 = 0xf8 then .absolute (packet.take kPacketLengthLarge)
  else .relative (packet.take kPacketLengthSmall)

/-- One round of `while (_ringBuffer.count() >= kPacketLengthMax)`. -/
def packetReadyRound (d : Framer) : Framer :=
  if kPacketLengthMax ≤ d.ringBuffer.count then
    { d with
      ringBuffer := d.ringBuffer.advanceTail kPacketLengthMax
      dispatched := d.dispatched ++ [dispatchOf (tailPacket kPacketLengthMax d.ringBuffer)] }
  else d

/-- At most 31 packets are stored, so 31 rounds are the whole loop. -/
@[irreducible]
def packetReady (d : Framer) : Framer := packetReadyRound^[31] d

/-- One event of the driver: a byte, or a round of `packetReady`. -/
def step (d : Framer) : DriverEvent → Framer
  | .interrupt data => (interruptOccurred d data).1
  | .round => packetReadyRound d

def run (d : Framer) (es : List DriverEvent) : Framer := es.foldl step d

/-- No byte arrives while the ring is full. -/
def NeverFull (d : Framer) (es : List DriverEvent) : Prop :=
  PacketRing.NeverFull (fun d => ⟨d.ringBuffer, [], []⟩) step d es

instance (d : Framer) (es : List DriverEvent) : Decidable (NeverFull d es) :=
  PacketRing.decidableNeverFull _ step d es

/-! ### The work-loop side -/

/-- What has been dispatched and what still waits in the ring. -/
def committed (d : Framer) : List Dispatch :=
  d.dispatched ++ (packets kPacketLengthMax d.ringBuffer).map dispatchOf

theorem ringBuffer_round (d : Framer) :
    (packetReadyRound d).ringBuffer = d.ringBuffer.afterTurn kPacketLengthMax := by
  unfold packetReadyRound afterTurn
  split_ifs <;> rfl

theorem aligned_round {d : Framer} (h : Aligned kPacketLengthMax d.ringBuffer) :
    Aligned kPacketLengthMax (packetReadyRound d).ringBuffer := by
  rw [ringBuffer_round]
  exact h.afterTurn (by decide)

theorem packets_round {d : Framer} (h : Aligned kPacketLengthMax d.ringBuffer) :
    packets kPacketLengthMax (packetReadyRound d).ringBuffer =
      (packets kPacketLengthMax d.ringBuffer).tail := by
  rw [ringBuffer_round, packets_afterTurn (by decide) h]

theorem committed_round {d : Framer} (h : Aligned kPacketLengthMax d.ringBuffer) :
    committed (packetReadyRound d) = committed d := by
  unfold packetReadyRound committed
  split
  · rename_i hc
    simp [packets_advanceTail (by decide) h hc]
  · rfl

theorem iterate_round (n : ℕ) {d : Framer} (h : Aligned kPacketLengthMax d.ringBuffer) :
    packets kPacketLengthMax (packetReadyRound^[n] d).ringBuffer =
        (packets kPacketLengthMax d.ringBuffer).drop n ∧
      committed (packetReadyRound^[n] d) = committed d := by
  induction n generalizing d with
  | zero => exact ⟨rfl, rfl⟩
  | succ n ih =>
      obtain ⟨hpackets, hcommitted⟩ := ih (aligned_round h)
      rw [Function.iterate_succ_apply]
      refine ⟨?_, hcommitted.trans (committed_round h)⟩
      rw [hpackets, packets_round h, List.drop_tail]

/-- `packetReady` dispatches everything that waits. -/
theorem packetReady_dispatched {d : Framer} (h : Aligned kPacketLengthMax d.ringBuffer) :
    (packetReady d).dispatched = committed d := by
  obtain ⟨hpackets, hcommitted⟩ := iterate_round 31 h
  have hnil : packets kPacketLengthMax (packetReadyRound^[31] d).ringBuffer = [] :=
    hpackets.trans (List.drop_eq_nil_of_le (h.packets_length_le (by decide)))
  unfold packetReady
  rw [← hcommitted, committed, hnil, List.map_nil, List.append_nil]

/-! ### The framer it implements -/

/-- The driver's framing rule in the terms of the library. -/
def format : Delimited.Format UInt8 where
  ok acc b := if acc.isEmpty then b &&& 0xc8 == 0x08 || b &&& 0xf8 == 0xf8 else b != 0x80
  complete frame :=
    frame.length == kPacketLengthLarge ||
      frame.length == kPacketLengthSmall && frame.headD 0 &&& 0xc8 == 0x08

/-- The byte that gives up a packet begins none. -/
theorem format_ok_resync (acc : List UInt8) : format.ok acc 0x80 = false := by
  simp only [format]
  split
  · decide
  · decide

/-- The frames are the packets committed, and the open frame is what lies at the head. -/
structure Frames (d : Framer) (s : Delimited.State UInt8) : Prop where
  aligned : Aligned kPacketLengthMax d.ringBuffer
  count_lt : d.packetByteCount < kPacketLengthMax
  acc_eq : s.acc = headBytes d.ringBuffer d.packetByteCount
  committed_eq : committed d = s.emitted.map dispatchOf

namespace Frames

variable {d : Framer} {s : Delimited.State UInt8}

theorem acc_length (h : Frames d s) : s.acc.length = d.packetByteCount := by
  rw [h.acc_eq, headBytes_length]

/-- A round of `packetReady` changes nothing the framer sees. -/
theorem round (h : Frames d s) : Frames (packetReadyRound d) s where
  aligned := aligned_round h.aligned
  count_lt := by
    unfold packetReadyRound
    split <;> exact h.count_lt
  acc_eq := by
    unfold packetReadyRound
    split <;> exact h.acc_eq
  committed_eq := (committed_round h.aligned).trans h.committed_eq

/-- A byte that is not accepted costs the open packet. -/
theorem drop (h : Frames d s) : Frames { d with packetByteCount := 0 } ⟨[], s.emitted⟩ where
  aligned := h.aligned
  count_lt := show 0 < kPacketLengthMax by decide
  acc_eq := rfl
  committed_eq := h.committed_eq

theorem headBytes_store (h : Frames d s) (data : UInt8) :
    headBytes (d.ringBuffer.headWrite d.packetByteCount data) (d.packetByteCount + 1) =
      s.acc ++ [data] := by
  rw [headBytes_headWrite, h.acc_eq]

theorem committed_store (h : Frames d s) (data : UInt8) (n : ℕ) :
    committed ⟨d.ringBuffer.headWrite d.packetByteCount data, n, d.dispatched⟩ = committed d := by
  unfold committed
  rw [packets_headWrite h.aligned h.count_lt]

/-- A byte in the middle of a packet. -/
theorem accept (h : Frames d s) (data : UInt8) (hlt : d.packetByteCount + 1 < kPacketLengthMax) :
    Frames ⟨d.ringBuffer.headWrite d.packetByteCount data, d.packetByteCount + 1, d.dispatched⟩
      ⟨s.acc ++ [data], s.emitted⟩ where
  aligned := h.aligned.headWrite _ _
  count_lt := hlt
  acc_eq := (h.headBytes_store data).symm
  committed_eq := (h.committed_store data _).trans h.committed_eq

end Frames

theorem not_absolute_of_relative {byte0 : UInt8} (h : byte0 &&& 0xc8 = 0x08) :
    ¬ byte0 &&& 0xf8 = 0xf8 := by
  intro habsolute
  have hmask : byte0 &&& 0xc8 = (byte0 &&& 0xf8) &&& 0xc8 := by
    rw [UInt8.and_assoc]
    rfl
  rw [h, habsolute] at hmask
  exact absurd hmask (by decide)

/-- A complete packet goes to the same handler with the bytes of the ring after it. -/
theorem dispatchOf_take {slot : List UInt8} {n : ℕ}
    (hc : format.complete (slot.take n) = true) (hlen : slot.length = kPacketLengthMax)
    (hn : n ≤ kPacketLengthMax) : dispatchOf slot = dispatchOf (slot.take n) := by
  have hlength : (slot.take n).length = n := by rw [List.length_take, hlen, Nat.min_eq_left hn]
  simp only [format, hlength, Bool.or_eq_true, Bool.and_eq_true, beq_iff_eq] at hc
  rcases hc with hlarge | ⟨hsmall, hrelative⟩
  · rw [List.take_of_length_le (by rw [hlen, hlarge]; decide)]
  · subst hsmall
    have hhead : (slot.take kPacketLengthSmall).headD 0 = slot.headD 0 := by
      rw [List.headD_eq_head?_getD, List.headD_eq_head?_getD, List.head?_take,
        if_neg (by decide)]
    rw [hhead] at hrelative
    have hnot := not_absolute_of_relative hrelative
    unfold dispatchOf
    rw [hhead, if_neg hnot, if_neg hnot, List.take_take, Nat.min_self]

/-- The last byte of a packet: the packet is committed. -/
theorem Frames.complete {d : Framer} {s : Delimited.State UInt8} (h : Frames d s) (data : UInt8)
    (hc : format.complete (s.acc ++ [data]) = true)
    (hroom : d.ringBuffer.count < 31 * kPacketLengthMax) :
    Frames
      ⟨(d.ringBuffer.headWrite d.packetByteCount data).advanceHead kPacketLengthMax, 0,
        d.dispatched⟩
      ⟨[], s.emitted ++ [s.acc ++ [data]]⟩ where
  aligned := (h.aligned.headWrite _ _).advanceHead (by decide)
  count_lt := show 0 < kPacketLengthMax by decide
  acc_eq := rfl
  committed_eq := by
    have ha := h.aligned.headWrite d.packetByteCount data
    have hlt : (packets kPacketLengthMax
        (d.ringBuffer.headWrite d.packetByteCount data)).length < 31 := by
      rw [packets_headWrite h.aligned h.count_lt]
      rw [h.aligned.count_eq (by decide), Nat.mul_comm 31] at hroom
      exact Nat.lt_of_mul_lt_mul_left hroom
    have hslot : dispatchOf (headPacket kPacketLengthMax
        (d.ringBuffer.headWrite d.packetByteCount data)) = dispatchOf (s.acc ++ [data]) := by
      have htake := (headPacket_take (d.ringBuffer.headWrite d.packetByteCount data)
        h.count_lt).trans (h.headBytes_store data)
      rw [← htake] at hc ⊢
      exact dispatchOf_take hc (cellsFrom_length _ _ _) h.count_lt
    have hstored := h.committed_store data 0
    unfold committed at hstored ⊢
    rw [packets_advanceHead (by decide) ha, if_pos hlt, List.map_append, ← List.append_assoc,
      hstored, List.map_singleton, hslot, List.map_append, List.map_singleton, ← h.committed_eq]
    rfl

theorem format_ok_iff (acc : List UInt8) (b : UInt8) :
    format.ok acc b = true ↔
      ¬ (0 = acc.length ∧ b &&& 0xc8 ≠ 0x08 ∧ b &&& 0xf8 ≠ 0xf8) ∧
        ¬ (1 ≤ acc.length ∧ b = 0x80) := by
  cases acc with
  | nil => simp [format, imp_iff_not_or]
  | cons c cs => simp [format]

theorem headBytes_headD (r : RingBuffer UInt8 (32 * kPacketLengthMax)) (n : ℕ) :
    (headBytes r (n + 1)).headD 0 = r.headRead 0 := by
  unfold headBytes cellsFrom headRead
  rw [List.range_succ_eq_map, List.map_cons, List.headD_cons]

/-- A byte does to the driver what `Delimited.step` does to the framer. -/
theorem frames_interrupt {d : Framer} {s : Delimited.State UInt8} (h : Frames d s)
    (hroom : d.ringBuffer.count < 31 * kPacketLengthMax) (data : UInt8) :
    Frames (interruptOccurred d data).1 (Delimited.step format s data) := by
  have hlen := h.acc_length
  have hok := format_ok_iff s.acc data
  rw [hlen] at hok
  unfold interruptOccurred Delimited.step
  by_cases hfirst : 0 = d.packetByteCount ∧ data &&& 0xc8 ≠ 0x08 ∧ data &&& 0xf8 ≠ 0xf8
  · rw [if_pos hfirst, if_neg fun hc => (hok.mp hc).1 hfirst]
    have hd : ({ d with packetByteCount := 0 } : Framer) = d := by
      rw [hfirst.1]
    exact hd ▸ h.drop
  · rw [if_neg hfirst]
    by_cases hresync : 1 ≤ d.packetByteCount ∧ data = 0x80
    · rw [if_pos hresync, if_neg fun hc => (hok.mp hc).2 hresync]
      exact h.drop
    · rw [if_neg hresync, if_pos (hok.mpr ⟨hfirst, hresync⟩)]
      have hstored := h.headBytes_store data
      have hcomplete : format.complete (s.acc ++ [data]) = true ↔
          kPacketLengthLarge = d.packetByteCount + 1 ∨
            kPacketLengthSmall = d.packetByteCount + 1 ∧
              (d.ringBuffer.headWrite d.packetByteCount data).headRead 0 &&& 0xc8 = 0x08 := by
        rw [← hstored]
        simp only [format, headBytes_headD, headBytes_length, Bool.or_eq_true, Bool.and_eq_true,
          beq_iff_eq, @eq_comm ℕ]
      dsimp only
      by_cases hc : format.complete (s.acc ++ [data]) = true
      · rw [if_pos (hcomplete.mp hc), if_pos hc]
        exact h.complete data hc hroom
      · have hlt : d.packetByteCount + 1 < kPacketLengthMax := by
          have hn := h.count_lt
          have hne : ¬ kPacketLengthMax = d.packetByteCount + 1 :=
            fun e => hc (hcomplete.mpr (.inl e))
          omega
        rw [if_neg fun he => hc (hcomplete.mpr he), if_neg hc]
        exact h.accept data hlt

/-- Along a run with room in the ring the driver and the framer stay related. -/
theorem frames_run (es : List DriverEvent) {d : Framer} {s : Delimited.State UInt8}
    (h : Frames d s) (hn : NeverFull d es) :
    Frames (run d es) (Delimited.run format s (bytesOf es)) := by
  induction es generalizing d s with
  | nil => exact h
  | cons e es ih =>
      cases e with
      | interrupt data => exact ih (frames_interrupt h hn.1 data) hn.2
      | round => exact ih h.round hn

/-! ### Lossless framing -/

/-- A packet of a relative motion: the deltas are arbitrary. -/
structure RelativePacket where
  bytes : List UInt8
  length_eq : bytes.length = kPacketLengthSmall
  byte0 : bytes.headD 0 &&& 0xc8 = 0x08

/-- A packet of an absolute position: only the first byte has bit 7 set. -/
structure AbsolutePacket where
  bytes : List UInt8
  length_eq : bytes.length = kPacketLengthLarge
  byte0 : bytes.headD 0 &&& 0xf8 = 0xf8
  rest : ∀ b ∈ bytes.tail, b &&& 0x80 = 0

inductive Packet where
  | relative (p : RelativePacket)
  | absolute (p : AbsolutePacket)

namespace Packet

def bytes : Packet → List UInt8
  | relative p => p.bytes
  | absolute p => p.bytes

/-- The handler of the kind, with the packet's own bytes. -/
def dispatch : Packet → Dispatch
  | relative p => .relative p.bytes
  | absolute p => .absolute p.bytes

end Packet

theorem RelativePacket.wellFormed (p : RelativePacket) (h : (0x80 : UInt8) ∉ p.bytes) :
    Delimited.WellFormed format p.bytes := by
  obtain ⟨bytes, hlen, hbyte0⟩ := p
  obtain ⟨b0, b1, b2, rfl⟩ := List.length_eq_three.mp hlen
  simp only [List.mem_cons, List.not_mem_nil, or_false, not_or] at h
  have h0 : b0 &&& 0xc8 = 0x08 := hbyte0
  simp [Delimited.WellFormed, Delimited.Completes, format, kPacketLengthSmall, kPacketLengthLarge,
    h0, Ne.symm h.2.1, Ne.symm h.2.2]

theorem AbsolutePacket.not_mem (p : AbsolutePacket) : (0x80 : UInt8) ∉ p.bytes := by
  obtain ⟨bytes, hlen, hbyte0, hrest⟩ := p
  cases bytes with
  | nil => exact List.not_mem_nil
  | cons b0 bs =>
      intro hmem
      rcases List.mem_cons.mp hmem with rfl | hmem
      · exact absurd hbyte0 (show ¬ (0x80 : UInt8) &&& 0xf8 = 0xf8 by decide)
      · exact absurd (hrest 0x80 hmem) (by decide)

theorem AbsolutePacket.wellFormed (p : AbsolutePacket) : Delimited.WellFormed format p.bytes := by
  obtain ⟨bytes, hlen, hbyte0, hrest⟩ := p
  have h : (0x80 : UInt8) ∉ bytes := AbsolutePacket.not_mem ⟨bytes, hlen, hbyte0, hrest⟩
  obtain ⟨b0, b1, b2, b3, b4, b5, rfl⟩ : ∃ b0 b1 b2 b3 b4 b5, bytes = [b0, b1, b2, b3, b4, b5] := by
    match bytes, hlen with
    | [b0, b1, b2, b3, b4, b5], _ => exact ⟨b0, b1, b2, b3, b4, b5, rfl⟩
  simp only [List.mem_cons, List.not_mem_nil, or_false, not_or] at h
  have h0 : b0 &&& 0xf8 = 0xf8 := hbyte0
  have h0' : ¬ b0 &&& 0xc8 = 0x08 := fun hr => not_absolute_of_relative hr h0
  simp [Delimited.WellFormed, Delimited.Completes, format, kPacketLengthSmall, kPacketLengthLarge,
    h0, h0', Ne.symm h.2.1, Ne.symm h.2.2.1, Ne.symm h.2.2.2.1, Ne.symm h.2.2.2.2.1,
    Ne.symm h.2.2.2.2.2]

theorem Packet.wellFormed (p : Packet) (h : (0x80 : UInt8) ∉ p.bytes) :
    Delimited.WellFormed format p.bytes := by
  cases p with
  | relative p => exact p.wellFormed h
  | absolute p => exact p.wellFormed

theorem Packet.dispatchOf_bytes (p : Packet) : dispatchOf p.bytes = p.dispatch := by
  cases p with
  | relative p =>
      rw [bytes, dispatchOf, if_neg (not_absolute_of_relative p.byte0)]
      exact congrArg Dispatch.relative (List.take_of_length_le p.length_eq.le)
  | absolute p =>
      rw [bytes, dispatchOf, if_pos p.byte0]
      exact congrArg Dispatch.absolute (List.take_of_length_le p.length_eq.le)

/-- The bytes a handler is given. -/
def Dispatch.bytes : Dispatch → List UInt8
  | absolute packet => packet
  | relative packet => packet

theorem Packet.bytes_dispatch (p : Packet) : p.dispatch.bytes = p.bytes := by
  cases p <;> rfl

theorem mem_of_mem_dispatchOf {frame : List UInt8} {b : UInt8} (h : b ∈ (dispatchOf frame).bytes) :
    b ∈ frame := by
  unfold dispatchOf at h
  split at h
  · exact List.mem_of_mem_take h
  · exact List.mem_of_mem_take h

/-- A driver between packets, with an empty ring. -/
structure Synchronised (d : Framer) : Prop where
  byteCount : d.packetByteCount = 0
  aligned : Aligned kPacketLengthMax d.ringBuffer
  waiting : packets kPacketLengthMax d.ringBuffer = []
  dispatched : d.dispatched = []

theorem Synchronised.frames {d : Framer} (hd : Synchronised d) : Frames d ⟨[], []⟩ where
  aligned := hd.aligned
  count_lt := by rw [hd.byteCount]; decide
  acc_eq := by rw [hd.byteCount]; rfl
  committed_eq := by rw [committed, hd.waiting, hd.dispatched]; rfl

/-- **Framing is lossless exactly on packets without the byte `80`.** -/
theorem dispatches_exactly_iff (d : Framer) (hd : Synchronised d) (sent : List Packet)
    (es : List DriverEvent) (hbytes : bytesOf es = (sent.map Packet.bytes).flatten)
    (hn : NeverFull d es) :
    (packetReady (run d es)).dispatched = sent.map Packet.dispatch ↔
      ∀ p ∈ sent, (0x80 : UInt8) ∉ p.bytes := by
  have h := frames_run es hd.frames hn
  rw [packetReady_dispatched h.aligned, h.committed_eq, hbytes]
  constructor
  · intro heq p hp hmem
    have hdispatch : p.dispatch ∈
        (Delimited.run format ⟨[], []⟩ (sent.map Packet.bytes).flatten).emitted.map dispatchOf := by
      rw [heq]
      exact List.mem_map_of_mem hp
    obtain ⟨frame, hframe, hof⟩ := List.mem_map.mp hdispatch
    have hwithout := Delimited.not_mem_emitted format_ok_resync
      (sent.map Packet.bytes).flatten (s := ⟨[], []⟩) ⟨List.not_mem_nil, by simp⟩ frame hframe
    rw [← p.bytes_dispatch, ← hof] at hmem
    exact hwithout (mem_of_mem_dispatchOf hmem)
  · intro hall
    have hw : ∀ frame ∈ sent.map Packet.bytes, Delimited.WellFormed format frame := by
      intro frame hf
      obtain ⟨p, hp, rfl⟩ := List.mem_map.mp hf
      exact p.wellFormed (hall p hp)
    rw [Delimited.run_flatten _ rfl hw, List.nil_append, List.map_map]
    exact List.map_congr_left fun p _ => p.dispatchOf_bytes

/-- A driver after `init`: memory of a new object is zero. -/
def initial : Framer := ⟨⟨fun _ => 0, 0, 0⟩, 0, []⟩

theorem synchronised_initial : Synchronised initial :=
  ⟨rfl, aligned_reset (P := kPacketLengthMax) (by decide) ⟨fun _ => 0, 0, 0⟩,
    packets_reset ⟨fun _ => 0, 0, 0⟩, rfl⟩

/-- A position, and a small motion with the left button. -/
def plainPackets : List Packet :=
  [.absolute ⟨[0xff, 0x12, 0x08, 0x10, 0x34, 0x40], rfl, by decide, by decide +kernel⟩,
    .relative ⟨[0x09, 0x03, 0x04], rfl, by decide⟩]

theorem dispatches_exactly_plainPackets :
    (packetReady (run initial ((plainPackets.map Packet.bytes).flatten.map .interrupt))).dispatched =
      plainPackets.map Packet.dispatch :=
  (dispatches_exactly_iff initial synchronised_initial plainPackets
    ((plainPackets.map Packet.bytes).flatten.map .interrupt) rfl (by decide +kernel)).mpr
    (by decide)

/-- A motion of 128 units to the right. -/
def resyncPacket : Packet := .relative ⟨[0x08, 0x80, 0x00], rfl, by decide⟩

/-- That motion is never dispatched. -/
theorem dispatches_exactly_fails_resyncPacket :
    (packetReady (run initial (resyncPacket.bytes.map .interrupt))).dispatched = [] ∧
      ¬ ∀ (d : Framer) (sent : List Packet) (es : List DriverEvent), Synchronised d →
        bytesOf es = (sent.map Packet.bytes).flatten → NeverFull d es →
        (packetReady (run d es)).dispatched = sent.map Packet.dispatch := by
  have hnone : (packetReady (run initial (resyncPacket.bytes.map .interrupt))).dispatched = [] := by
    decide +kernel
  refine ⟨hnone, fun h => ?_⟩
  have hall := h initial [resyncPacket] (resyncPacket.bytes.map .interrupt) synchronised_initial
    rfl (by decide +kernel)
  rw [hnone] at hall
  cases hall

end VoodooPS2.ALPS
