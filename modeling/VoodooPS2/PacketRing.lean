import VoodooPS2.Device
import VoodooPS2.RingBuffer

/-! # A driver's packet ring and its work-loop side

The interrupt routine of a driver commits packets to its ring; `packetReady`, run by the work
loop, takes them out again.  A packet whose first byte is `0x00` is a notice the interrupt
routine buffered (a reset, or a header byte out of place), which `packetReady` takes and
ignores; any other packet goes to the driver's dispatch function.

`PacketRing P` is the ring together with the packets dispatched and ignored so far.
`packetReadyRound` is one round of the loop `while (_ringBuffer.count() >= P)`, so that
interrupts may fall between rounds, and `packetReady` is the loop itself.  `normals` and
`notices` join what was taken with what still waits; a round leaves both unchanged
(`normals_round`), a commit appends to one of them (`normals_commit`), and after
`packetReady` nothing waits (`packetReady_dispatched`). -/

namespace VoodooPS2

/-- A ring of packets of `P` bytes and what the work loop took from it. -/
structure PacketRing (P : ℕ) where
  ringBuffer : RingBuffer UInt8 (32 * P)
  dispatched : List (List UInt8)
  ignored : List (List UInt8)

/-- What happens to a driver: a byte at interrupt time, or a round of its `packetReady`. -/
inductive DriverEvent where
  | interrupt (data : UInt8)
  | round
deriving DecidableEq, Repr

/-- The bytes a schedule delivers. -/
def bytesOf : List DriverEvent → List UInt8
  | [] => []
  | .interrupt b :: es => b :: bytesOf es
  | .round :: es => bytesOf es

namespace PacketRing

open RingBuffer

variable {P : ℕ}

/-- `0x00 != packet[0]`. -/
def isNormal (packet : List UInt8) : Bool := packet.headD 0 != 0

/-- One round of `while (_ringBuffer.count() >= P)`. -/
def packetReadyRound (R : PacketRing P) : PacketRing P :=
  if P ≤ R.ringBuffer.count then
    let packet := tailPacket P R.ringBuffer
    if isNormal packet then
      ⟨R.ringBuffer.advanceTail P, R.dispatched ++ [packet], R.ignored⟩
    else
      ⟨R.ringBuffer.advanceTail P, R.dispatched, R.ignored ++ [packet]⟩
  else R

/-- `packetReady()`: at most 31 packets are stored, so 31 rounds are the whole loop
(`packetReady_packets`). -/
@[irreducible]
def packetReady (R : PacketRing P) : PacketRing P := packetReadyRound^[31] R

/-- `advanceHead(P)`. -/
def commit (R : PacketRing P) : PacketRing P :=
  { R with ringBuffer := R.ringBuffer.advanceHead P }

/-- `packet[i] = b` with `packet = _ringBuffer.head()`. -/
def store (R : PacketRing P) (i : ℕ) (b : UInt8) : PacketRing P :=
  { R with ringBuffer := R.ringBuffer.headWrite i b }

/-- A run of bytes stored from `packet[i]` on. -/
def storeBytes (R : PacketRing P) (i : ℕ) : List UInt8 → PacketRing P
  | [] => R
  | b :: bs => (R.store i b).storeBytes (i + 1) bs

/-- `packet[0] = 0x00; packet[1] = reason; advanceHead(P)`. -/
def bufferNotice (R : PacketRing P) (reason : UInt8) : PacketRing P :=
  ((R.store 0 0x00).store 1 reason).commit

/-- What the dispatch function is given: `packetSize` bytes of each dispatched packet. -/
def handed (R : PacketRing P) (packetSize : ℕ) : List (List UInt8) :=
  R.dispatched.map (List.take packetSize)

/-- Normal packets committed so far: those dispatched and those still waiting. -/
def normals (R : PacketRing P) : List (List UInt8) :=
  R.dispatched ++ (packets P R.ringBuffer).filter isNormal

/-- Notices committed so far. -/
def notices (R : PacketRing P) : List (List UInt8) :=
  R.ignored ++ (packets P R.ringBuffer).filter (fun p => !isNormal p)

/-- No interrupt finds the ring full: fewer than 31 packets wait whenever a byte arrives. -/
def NeverFull {S : Type} (ring : S → PacketRing P) (step : S → DriverEvent → S) :
    S → List DriverEvent → Prop
  | _, [] => True
  | s, .interrupt b :: es =>
      (ring s).ringBuffer.count < 31 * P ∧ NeverFull ring step (step s (.interrupt b)) es
  | s, .round :: es => NeverFull ring step (step s .round) es

instance decidableNeverFull {S : Type} (ring : S → PacketRing P) (step : S → DriverEvent → S) :
    (s : S) → (es : List DriverEvent) → Decidable (NeverFull ring step s es)
  | _, [] => isTrue trivial
  | s, .interrupt b :: es =>
      haveI := decidableNeverFull ring step (step s (.interrupt b)) es
      inferInstanceAs (Decidable (_ ∧ _))
  | s, .round :: es => decidableNeverFull ring step (step s .round) es

/-! ### Rounds -/

theorem ringBuffer_round (R : PacketRing P) :
    R.packetReadyRound.ringBuffer = R.ringBuffer.afterTurn P := by
  unfold packetReadyRound afterTurn
  dsimp only
  split_ifs <;> rfl

theorem aligned_round (hP : 0 < P) {R : PacketRing P} (h : Aligned P R.ringBuffer) :
    Aligned P R.packetReadyRound.ringBuffer := by
  rw [ringBuffer_round]
  exact h.afterTurn hP

/-- A round moves the oldest packet to where it belongs. -/
theorem packets_round (hP : 0 < P) {R : PacketRing P} (h : Aligned P R.ringBuffer) :
    packets P R.packetReadyRound.ringBuffer = (packets P R.ringBuffer).tail := by
  rw [ringBuffer_round, packets_afterTurn hP h]

theorem normals_round (hP : 0 < P) {R : PacketRing P} (h : Aligned P R.ringBuffer) :
    R.packetReadyRound.normals = R.normals := by
  unfold packetReadyRound normals
  dsimp only
  split_ifs with hc hn
  · simp [packets_advanceTail hP h hc, hn]
  · simp [packets_advanceTail hP h hc, hn]
  · rfl

theorem notices_round (hP : 0 < P) {R : PacketRing P} (h : Aligned P R.ringBuffer) :
    R.packetReadyRound.notices = R.notices := by
  unfold packetReadyRound notices
  dsimp only
  split_ifs with hc hn
  · simp [packets_advanceTail hP h hc, hn]
  · simp [packets_advanceTail hP h hc, hn]
  · rfl

theorem headBytes_round (R : PacketRing P) (n : ℕ) :
    headBytes R.packetReadyRound.ringBuffer n = headBytes R.ringBuffer n := by
  unfold packetReadyRound
  dsimp only
  split_ifs <;> rfl

/-! ### The whole loop -/

theorem iterate_round (hP : 0 < P) (n : ℕ) {R : PacketRing P} (h : Aligned P R.ringBuffer) :
    Aligned P (packetReadyRound^[n] R).ringBuffer ∧
      packets P (packetReadyRound^[n] R).ringBuffer = (packets P R.ringBuffer).drop n ∧
      (packetReadyRound^[n] R).normals = R.normals ∧
      (packetReadyRound^[n] R).notices = R.notices := by
  induction n generalizing R with
  | zero => exact ⟨h, rfl, rfl, rfl⟩
  | succ n ih =>
      obtain ⟨h1, h2, h3, h4⟩ := ih (aligned_round hP h)
      rw [Function.iterate_succ_apply]
      refine ⟨h1, ?_, h3.trans (normals_round hP h), h4.trans (notices_round hP h)⟩
      rw [h2, packets_round hP h, List.drop_tail]

/-- `packetReady` leaves the ring empty. -/
theorem packetReady_packets (hP : 0 < P) {R : PacketRing P} (h : Aligned P R.ringBuffer) :
    packets P R.packetReady.ringBuffer = [] := by
  unfold packetReady
  rw [(iterate_round hP 31 h).2.1]
  exact List.drop_eq_nil_of_le (h.packets_length_le hP)

/-- After `packetReady` every normal packet committed so far has been dispatched, in order. -/
theorem packetReady_dispatched (hP : 0 < P) {R : PacketRing P} (h : Aligned P R.ringBuffer) :
    R.packetReady.dispatched = R.normals := by
  have hn := (iterate_round hP 31 h).2.2.1
  have he := packetReady_packets hP h
  unfold packetReady at he ⊢
  unfold normals at hn
  rw [he, List.filter_nil, List.append_nil] at hn
  exact hn

/-! ### Storing and committing -/

theorem aligned_store {R : PacketRing P} (h : Aligned P R.ringBuffer) (i : ℕ) (b : UInt8) :
    Aligned P (R.store i b).ringBuffer := h.headWrite i b

theorem aligned_commit (hP : 0 < P) {R : PacketRing P} (h : Aligned P R.ringBuffer) :
    Aligned P R.commit.ringBuffer := h.advanceHead hP

theorem aligned_bufferNotice (hP : 0 < P) {R : PacketRing P} (h : Aligned P R.ringBuffer)
    (reason : UInt8) : Aligned P (R.bufferNotice reason).ringBuffer :=
  aligned_commit hP (aligned_store (aligned_store h 0 _) 1 _)

theorem normals_store {R : PacketRing P} (h : Aligned P R.ringBuffer) {i : ℕ} (hi : i < P)
    (b : UInt8) : (R.store i b).normals = R.normals := by
  simp only [normals, store, packets_headWrite h hi]

theorem notices_store {R : PacketRing P} (h : Aligned P R.ringBuffer) {i : ℕ} (hi : i < P)
    (b : UInt8) : (R.store i b).notices = R.notices := by
  simp only [notices, store, packets_headWrite h hi]

theorem aligned_storeBytes (bs : List UInt8) {R : PacketRing P} (h : Aligned P R.ringBuffer)
    (i : ℕ) : Aligned P (R.storeBytes i bs).ringBuffer := by
  induction bs generalizing R i with
  | nil => exact h
  | cons b bs ih => exact ih (aligned_store h i b) (i + 1)

theorem count_storeBytes (bs : List UInt8) (R : PacketRing P) (i : ℕ) :
    (R.storeBytes i bs).ringBuffer.count = R.ringBuffer.count := by
  induction bs generalizing R i with
  | nil => rfl
  | cons b bs ih => exact ih (R.store i b) (i + 1)

theorem packets_storeBytes (bs : List UInt8) {R : PacketRing P} (h : Aligned P R.ringBuffer)
    {i : ℕ} (hi : i + bs.length ≤ P) :
    packets P (R.storeBytes i bs).ringBuffer = packets P R.ringBuffer := by
  induction bs generalizing R i with
  | nil => rfl
  | cons b bs ih =>
      rw [List.length_cons] at hi
      exact (ih (aligned_store h i b) (by omega)).trans (packets_headWrite h (by omega) b)

theorem normals_storeBytes (bs : List UInt8) {R : PacketRing P} (h : Aligned P R.ringBuffer)
    {i : ℕ} (hi : i + bs.length ≤ P) : (R.storeBytes i bs).normals = R.normals := by
  induction bs generalizing R i with
  | nil => rfl
  | cons b bs ih =>
      rw [List.length_cons] at hi
      exact (ih (aligned_store h i b) (by omega)).trans (normals_store h (by omega) b)

theorem notices_storeBytes (bs : List UInt8) {R : PacketRing P} (h : Aligned P R.ringBuffer)
    {i : ℕ} (hi : i + bs.length ≤ P) : (R.storeBytes i bs).notices = R.notices := by
  induction bs generalizing R i with
  | nil => rfl
  | cons b bs ih =>
      rw [List.length_cons] at hi
      exact (ih (aligned_store h i b) (by omega)).trans (notices_store h (by omega) b)

/-- Bytes before the first one stored stay. -/
theorem headRead_storeBytes (bs : List UInt8) (R : PacketRing P) {i j : ℕ} (hj : j < i) :
    (R.storeBytes i bs).ringBuffer.headRead j = R.ringBuffer.headRead j := by
  induction bs generalizing R i with
  | nil => rfl
  | cons b bs ih =>
      refine (ih (R.store i b) (Nat.lt_succ_of_lt hj)).trans ?_
      unfold store
      rw [headRead_headWrite, if_neg (by omega)]

/-- With room in the ring a commit appends the packet at the head. -/
theorem packets_commit (hP : 0 < P) {R : PacketRing P} (h : Aligned P R.ringBuffer)
    (hroom : R.ringBuffer.count < 31 * P) :
    packets P R.commit.ringBuffer = packets P R.ringBuffer ++ [headPacket P R.ringBuffer] := by
  have hlt : (packets P R.ringBuffer).length < 31 := by
    rw [h.count_eq hP, Nat.mul_comm 31 P] at hroom
    exact Nat.lt_of_mul_lt_mul_left hroom
  unfold commit
  rw [packets_advanceHead hP h, if_pos hlt]

theorem normals_commit (hP : 0 < P) {R : PacketRing P} (h : Aligned P R.ringBuffer)
    (hroom : R.ringBuffer.count < 31 * P) :
    R.commit.normals =
      R.normals ++ if isNormal (headPacket P R.ringBuffer) then [headPacket P R.ringBuffer] else [] := by
  unfold normals
  rw [packets_commit hP h hroom, List.filter_append, ← List.append_assoc]
  congr 1
  by_cases hn : isNormal (headPacket P R.ringBuffer) <;> simp [hn]

/-- A commit to a full ring drops the packet. -/
theorem normals_commit_full (hP : 0 < P) {R : PacketRing P} (h : Aligned P R.ringBuffer)
    (hfull : ¬ R.ringBuffer.count < 31 * P) : R.commit.normals = R.normals := by
  have hlen : ¬ (packets P R.ringBuffer).length < 31 := by
    rw [h.count_eq hP, Nat.mul_comm 31 P] at hfull
    exact fun hlt => hfull (Nat.mul_lt_mul_of_pos_left hlt hP)
  unfold normals commit
  rw [packets_advanceHead hP h, if_neg hlen]

theorem notices_commit (hP : 0 < P) {R : PacketRing P} (h : Aligned P R.ringBuffer)
    (hroom : R.ringBuffer.count < 31 * P) :
    R.commit.notices =
      R.notices ++ if isNormal (headPacket P R.ringBuffer) then [] else [headPacket P R.ringBuffer] := by
  unfold notices
  rw [packets_commit hP h hroom, List.filter_append, ← List.append_assoc]
  congr 1
  by_cases hn : isNormal (headPacket P R.ringBuffer) <;> simp [hn]

/-- The first byte of the packet at the head. -/
theorem headPacket_headD (hP : 0 < P) (r : RingBuffer UInt8 (32 * P)) :
    (headPacket P r).headD 0 = r.headRead 0 := by
  have h := headPacket_getElem? r hP
  rw [List.headD_eq_head?_getD, List.head?_eq_getElem?, h, Option.getD_some]

/-- A buffered notice is not a normal packet. -/
theorem normals_bufferNotice (hP : 1 < P) {R : PacketRing P} (h : Aligned P R.ringBuffer)
    (hroom : R.ringBuffer.count < 31 * P) (reason : UInt8) :
    (R.bufferNotice reason).normals = R.normals := by
  have hP0 : 0 < P := by omega
  have ha := aligned_store (aligned_store h 0 0x00) 1 reason
  have hn : isNormal (headPacket P ((R.store 0 0x00).store 1 reason).ringBuffer) = false := by
    unfold isNormal
    rw [headPacket_headD hP0]
    simp [store, headRead_headWrite]
  unfold bufferNotice
  rw [normals_commit hP0 ha hroom, hn, normals_store (aligned_store h 0 _) hP, normals_store h hP0]
  simp

/-- It is one notice more. -/
theorem notices_bufferNotice (hP : 1 < P) {R : PacketRing P} (h : Aligned P R.ringBuffer)
    (hroom : R.ringBuffer.count < 31 * P) (reason : UInt8) :
    (R.bufferNotice reason).notices.length = R.notices.length + 1 := by
  have hP0 : 0 < P := by omega
  have ha := aligned_store (aligned_store h 0 0x00) 1 reason
  have hn : isNormal (headPacket P ((R.store 0 0x00).store 1 reason).ringBuffer) = false := by
    unfold isNormal
    rw [headPacket_headD hP0]
    simp [store, headRead_headWrite]
  unfold bufferNotice
  rw [notices_commit hP0 ha hroom, hn, notices_store (aligned_store h 0 _) hP, notices_store h hP0]
  simp

end PacketRing
end VoodooPS2
