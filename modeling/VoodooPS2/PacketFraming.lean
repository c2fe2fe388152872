import VoodooPS2.Lib.Framing
import VoodooPS2.PacketRing

/-! # Framing bytes into the packet ring

The pointing-device drivers frame a byte stream directly in their ring: `_packetByteCount`
bytes of the open packet lie at `head()`, and a complete packet is committed from there.
`Frames f R n last s` relates such a driver to the framer `f` of the library in state `s`:
the open frame is what lies at the head, the frames emitted are the normal packets committed
so far, and no more notices were buffered than symbols rejected.

Each lemma below is one of the things an interrupt routine does with a byte; a driver's
routine is related to `Framing.step` by choosing among them. -/

namespace VoodooPS2

open RingBuffer PacketRing

variable {P : ℕ}

/-- The packets committed to `R`, with `n` bytes of the next one stored and `last` the last
byte seen, are the state `s` of the framer `f`. -/
structure Frames (f : Framing.Format UInt8) (R : PacketRing P) (n : ℕ) (last : UInt8)
    (s : Framing.State UInt8) : Prop where
  aligned : Aligned P R.ringBuffer
  count_lt : n < f.len
  len_le : f.len ≤ P
  last_eq : s.last = last
  acc_eq : s.acc = headBytes R.ringBuffer n
  acc_head : ∀ b, s.acc.head? = some b → b ≠ 0
  emitted_eq : R.normals.map (List.take f.len) = s.emitted
  notices_le : R.notices.length ≤ s.rejected

namespace Frames

variable {f : Framing.Format UInt8} {R : PacketRing P} {n : ℕ} {last : UInt8}
  {s : Framing.State UInt8}

theorem acc_length (h : Frames f R n last s) : s.acc.length = n := by
  rw [h.acc_eq, headBytes_length]

theorem pos (h : Frames f R n last s) : 0 < P := by
  have := h.count_lt
  have := h.len_le
  omega

/-- A round of `packetReady` changes nothing the framer sees. -/
theorem round (h : Frames f R n last s) : Frames f R.packetReadyRound n last s where
  aligned := aligned_round h.pos h.aligned
  count_lt := h.count_lt
  len_le := h.len_le
  last_eq := h.last_eq
  acc_eq := by rw [headBytes_round, h.acc_eq]
  acc_head := h.acc_head
  emitted_eq := by rw [normals_round h.pos h.aligned, h.emitted_eq]
  notices_le := by rw [notices_round h.pos h.aligned]; exact h.notices_le

/-- The first byte of an accepted frame is not zero. -/
theorem head_append_ne (h : Frames f R n last s) {b : UInt8} (hz : f.ok 0 0 = false)
    (hok : f.ok n b = true) : ∀ c, (s.acc ++ [b]).head? = some c → c ≠ 0 := by
  intro c hc
  cases hacc : s.acc with
  | nil =>
      have hn : n = 0 := by rw [← h.acc_length, hacc]; rfl
      rw [hacc] at hc
      simp only [List.nil_append, List.head?_cons, Option.some.injEq] at hc
      rintro rfl
      rw [hn, hc, hz] at hok
      exact Bool.false_ne_true hok
  | cons d ds =>
      rw [hacc] at hc
      exact h.acc_head c (by rw [hacc]; simpa using hc)

/-- `packet[_packetByteCount++] = data` in the middle of a packet. -/
theorem accept (h : Frames f R n last s) {b : UInt8} (hz : f.ok 0 0 = false)
    (hok : f.ok n b = true) (hlt : n + 1 < f.len) :
    Frames f (R.store n b) (n + 1) b { s with last := b, acc := s.acc ++ [b] } where
  aligned := aligned_store h.aligned n b
  count_lt := hlt
  len_le := h.len_le
  last_eq := rfl
  acc_eq := by
    show s.acc ++ [b] = _
    rw [h.acc_eq]
    exact (headBytes_headWrite R.ringBuffer n b).symm
  acc_head := h.head_append_ne hz hok
  emitted_eq := by
    have := h.len_le
    rw [normals_store h.aligned (by omega)]
    exact h.emitted_eq
  notices_le := by
    have := h.len_le
    rw [notices_store h.aligned (by omega)]
    exact h.notices_le

/-- The bytes at the head once the last one is stored. -/
theorem headPacket_take (h : Frames f R n last s) (b : UInt8) (hfull : n + 1 = f.len) :
    (headPacket P (R.store n b).ringBuffer).take f.len = s.acc ++ [b] := by
  rw [RingBuffer.headPacket_take _ h.len_le, ← hfull, h.acc_eq]
  exact headBytes_headWrite R.ringBuffer n b

/-- The last byte of a packet: the packet is committed. -/
theorem complete (h : Frames f R n last s) {b : UInt8} (hz : f.ok 0 0 = false)
    (hok : f.ok n b = true) (hfull : n + 1 = f.len) (hroom : R.ringBuffer.count < 31 * P) :
    Frames f (R.store n b).commit 0 b
      { s with last := b, acc := [], emitted := s.emitted ++ [s.acc ++ [b]] } := by
  have hP := h.pos
  have hn : n < P := by have := h.len_le; omega
  have ha := aligned_store h.aligned n b
  have htake := h.headPacket_take b hfull
  have hnormal : isNormal (headPacket P (R.store n b).ringBuffer) = true := by
    have hhead : (headPacket P (R.store n b).ringBuffer).head? = (s.acc ++ [b]).head? := by
      rw [← htake, List.head?_take, if_neg (by omega)]
    obtain ⟨c, hc⟩ : ∃ c, (s.acc ++ [b]).head? = some c := by
      cases s.acc <;> simp
    unfold isNormal
    rw [List.headD_eq_head?_getD, hhead, hc, Option.getD_some]
    simpa using h.head_append_ne hz hok c hc
  refine ⟨aligned_commit hP ha, by omega, h.len_le, rfl, rfl, by simp, ?_, ?_⟩
  · show _ = s.emitted ++ [s.acc ++ [b]]
    rw [normals_commit hP ha hroom, hnormal, normals_store h.aligned hn, if_pos rfl,
      List.map_append, h.emitted_eq, List.map_singleton, htake]
  · rw [notices_commit hP ha hroom, hnormal, notices_store h.aligned hn, if_pos rfl,
      List.append_nil]
    exact h.notices_le

/-- A notice is buffered and the open packet given up. -/
theorem notice (h : Frames f R n last s) (hP : 1 < P) (hroom : R.ringBuffer.count < 31 * P)
    (reason b : UInt8) :
    Frames f (R.bufferNotice reason) 0 b
      { s with last := b, acc := [], rejected := s.rejected + 1 } where
  aligned := aligned_bufferNotice h.pos h.aligned reason
  count_lt := by have := h.count_lt; omega
  len_le := h.len_le
  last_eq := rfl
  acc_eq := rfl
  acc_head := by simp
  emitted_eq := by rw [normals_bufferNotice hP h.aligned hroom]; exact h.emitted_eq
  notices_le := by
    have := h.notices_le
    rw [notices_bufferNotice hP h.aligned hroom]
    show R.notices.length + 1 ≤ s.rejected + 1
    omega

/-- The byte is dropped at the start of a packet, without a notice. -/
theorem drop (h : Frames f R 0 last s) (b : UInt8) :
    Frames f R 0 b { s with last := b, acc := [], rejected := s.rejected + 1 } where
  aligned := h.aligned
  count_lt := h.count_lt
  len_le := h.len_le
  last_eq := rfl
  acc_eq := rfl
  acc_head := by simp
  emitted_eq := h.emitted_eq
  notices_le := Nat.le_succ_of_le h.notices_le

/-- Once a list of frames has been sent and `packetReady` has run, the dispatch function was
given exactly these frames if and only if none holds the escape pair. -/
theorem handed_iff {frames : List (List UInt8)} {l : UInt8}
    (h : Frames f R n last (Framing.run f ⟨l, [], [], 0⟩ frames.flatten))
    (hz : f.ok 0 f.second = false) (hw : ∀ frame ∈ frames, Framing.WellFormed f frame) :
    R.packetReady.handed f.len = frames ↔ ∀ frame ∈ frames, Framing.EscapeFree f frame := by
  have hlen : 0 < f.len := by have := h.count_lt; omega
  rw [← Framing.emitted_iff hlen hz hw (s := ⟨l, [], [], 0⟩) rfl, List.nil_append]
  unfold handed
  rw [packetReady_dispatched h.pos h.aligned, h.emitted_eq]

/-- Without the escape pair no notice was buffered either. -/
theorem notices_eq_nil {frames : List (List UInt8)} {l : UInt8}
    (h : Frames f R n last (Framing.run f ⟨l, [], [], 0⟩ frames.flatten))
    (hz : f.ok 0 f.second = false) (hw : ∀ frame ∈ frames, Framing.WellFormed f frame)
    (he : ∀ frame ∈ frames, Framing.EscapeFree f frame) : R.notices = [] := by
  have hlen : 0 < f.len := by have := h.count_lt; omega
  have hle := h.notices_le
  rw [(Framing.run_flatten hlen hz frames ⟨l, [], [], 0⟩ rfl hw he).2.2] at hle
  exact List.length_eq_zero_iff.mp (Nat.le_zero.mp hle)

end Frames

/-- The framer an empty ring starts from. -/
theorem frames_start {f : Framing.Format UInt8} {R : PacketRing P} (last : UInt8)
    (ha : Aligned P R.ringBuffer) (hlen : 0 < f.len) (hle : f.len ≤ P) (hn : R.normals = [])
    (hno : R.notices = []) : Frames f R 0 last ⟨last, [], [], 0⟩ :=
  ⟨ha, hlen, hle, rfl, rfl, by simp, by simp [hn], by simp [hno]⟩

end VoodooPS2
