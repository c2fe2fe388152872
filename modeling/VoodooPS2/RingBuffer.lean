import Mathlib.Tactic
import Mathlib.Logic.Function.Basic
import VoodooPS2.Lib.Fifo

/-! # The packet ring buffer (`RingBuffer<T, N>`)

`RingBuffer T N` follows the class template: an array of `N` cells, the head position at
which the interrupt routine writes, and the tail position from which the work loop reads.
`head()` and `tail()` are pointers into the array, so a driver's accesses `head()[i]` and
`tail()[i]` are `headWrite`, `headRead` and `tailRead` at an offset; nothing in the class
keeps such an access inside the array.  `mBuffer` is therefore a total map of positions, of
which only those below `N` belong to the object.

Every driver instantiates the template with `N = 32 * P` for its packet length `P` and moves
in steps of `P`.  `Aligned` is what this discipline keeps: both positions are multiples of
`P` below `N`.  Under it the buffer is a circular store of 32 slots of `P` cells
(`packets`), and `advanceHead`, whose only overflow test compares two wrapped counts, is
`Fifo.push 31` (`packets_advanceHead`). -/

namespace VoodooPS2

/-- `RingBuffer<T, N>`. -/
structure RingBuffer (T : Type) (N : ℕ) where
  mBuffer : ℕ → T
  mHead : ℕ
  mTail : ℕ

namespace RingBuffer
variable {T : Type} {N : ℕ}

/-! ### The class -/

/-- `count(head, tail)`. -/
def countOf (N head tail : ℕ) : ℕ := if tail ≤ head then head - tail else N - tail + head

/-- `reset()`: only the positions, the cells keep what they held. -/
def reset (r : RingBuffer T N) : RingBuffer T N := { r with mHead := 0, mTail := 0 }

/-- `count()`. -/
def count (r : RingBuffer T N) : ℕ := countOf N r.mHead r.mTail

/-- `head()[i] = b`. -/
def headWrite (r : RingBuffer T N) (i : ℕ) (b : T) : RingBuffer T N :=
  { r with mBuffer := Function.update r.mBuffer (r.mHead + i) b }

/-- `head()[i]`. -/
def headRead (r : RingBuffer T N) (i : ℕ) : T := r.mBuffer (r.mHead + i)

/-- `tail()[i]`. -/
def tailRead (r : RingBuffer T N) (i : ℕ) : T := r.mBuffer (r.mTail + i)

def advanceHead (r : RingBuffer T N) (move : ℕ) : RingBuffer T N :=
  let newHead := if N ≤ r.mHead + move then r.mHead + move - N else r.mHead + move
  if r.count ≤ countOf N newHead r.mTail then { r with mHead := newHead } else r

def advanceTail (r : RingBuffer T N) (move : ℕ) : RingBuffer T N :=
  let newTail := r.mTail + move
  { r with mTail := if N ≤ newTail then newTail - N else newTail }

@[simp] theorem headWrite_mHead (r : RingBuffer T N) (i : ℕ) (b : T) :
    (r.headWrite i b).mHead = r.mHead := rfl

@[simp] theorem headWrite_mTail (r : RingBuffer T N) (i : ℕ) (b : T) :
    (r.headWrite i b).mTail = r.mTail := rfl

@[simp] theorem headWrite_count (r : RingBuffer T N) (i : ℕ) (b : T) :
    (r.headWrite i b).count = r.count := rfl

theorem headRead_headWrite (r : RingBuffer T N) (i j : ℕ) (b : T) :
    (r.headWrite i b).headRead j = if j = i then b else r.headRead j := by
  simp only [headRead, headWrite, Function.update_apply]
  by_cases h : j = i
  · simp [h]
  · rw [if_neg h, if_neg (by omega)]

@[simp] theorem advanceHead_mBuffer (r : RingBuffer T N) (move : ℕ) :
    (r.advanceHead move).mBuffer = r.mBuffer := by
  unfold advanceHead; dsimp only; split_ifs <;> rfl

@[simp] theorem advanceHead_mTail (r : RingBuffer T N) (move : ℕ) :
    (r.advanceHead move).mTail = r.mTail := by
  unfold advanceHead; dsimp only; split_ifs <;> rfl

@[simp] theorem advanceTail_mBuffer (r : RingBuffer T N) (move : ℕ) :
    (r.advanceTail move).mBuffer = r.mBuffer := rfl

@[simp] theorem advanceTail_mHead (r : RingBuffer T N) (move : ℕ) :
    (r.advanceTail move).mHead = r.mHead := rfl

end RingBuffer

/-! ### Packets in slots -/

/-- The `P` cells from position `start` on. -/
def cellsFrom {T : Type} (buffer : ℕ → T) (start P : ℕ) : List T :=
  (List.range P).map (fun i => buffer (start + i))

namespace RingBuffer
variable {T : Type} {P : ℕ}

@[simp] theorem cellsFrom_length (buffer : ℕ → T) (start P : ℕ) :
    (cellsFrom buffer start P).length = P := by
  simp [cellsFrom]

/-- Slot `h` of the array is the `P` cells from `P * h` on. -/
def slot (buffer : ℕ → T) (P h : ℕ) : List T := cellsFrom buffer (P * h) P

/-- The packet under construction at `head()`. -/
def headPacket (P : ℕ) (r : RingBuffer T (32 * P)) : List T := cellsFrom r.mBuffer r.mHead P

/-- The packet at `tail()`. -/
def tailPacket (P : ℕ) (r : RingBuffer T (32 * P)) : List T := cellsFrom r.mBuffer r.mTail P

/-- The packets stored between tail and head, oldest first. -/
def packets (P : ℕ) (r : RingBuffer T (32 * P)) : List (List T) :=
  Fifo.slots (slot r.mBuffer P) 32 (r.mTail / P) (r.count / P)

/-- Both positions are packet boundaries inside the array. -/
structure Aligned (P : ℕ) (r : RingBuffer T (32 * P)) : Prop where
  head_dvd : P ∣ r.mHead
  tail_dvd : P ∣ r.mTail
  head_lt : r.mHead < 32 * P
  tail_lt : r.mTail < 32 * P

/-- In units of packets. -/
theorem Aligned.units {r : RingBuffer T (32 * P)} (h : Aligned P r) :
    ∃ i j, i < 32 ∧ j < 32 ∧ r.mHead = P * i ∧ r.mTail = P * j := by
  obtain ⟨i, hi⟩ := h.head_dvd
  obtain ⟨j, hj⟩ := h.tail_dvd
  have h1 := h.head_lt
  have h2 := h.tail_lt
  refine ⟨i, j, ?_, ?_, hi, hj⟩
  · rw [hi, Nat.mul_comm 32 P] at h1
    exact Nat.lt_of_mul_lt_mul_left h1
  · rw [hj, Nat.mul_comm 32 P] at h2
    exact Nat.lt_of_mul_lt_mul_left h2

theorem Aligned.of_units {r : RingBuffer T (32 * P)} {i j : ℕ} (hP : 0 < P) (hi : i < 32)
    (hj : j < 32) (h1 : r.mHead = P * i) (h2 : r.mTail = P * j) : Aligned P r := by
  refine ⟨⟨i, h1⟩, ⟨j, h2⟩, ?_, ?_⟩
  · rw [h1, Nat.mul_comm]; exact Nat.mul_lt_mul_of_pos_right hi hP
  · rw [h2, Nat.mul_comm]; exact Nat.mul_lt_mul_of_pos_right hj hP

/-- Accesses of `P` cells at `head()` and `tail()` stay inside the array. -/
theorem Aligned.access {r : RingBuffer T (32 * P)} (h : Aligned P r) :
    r.mHead + P ≤ 32 * P ∧ r.mTail + P ≤ 32 * P := by
  obtain ⟨i, j, hi, hj, h1, h2⟩ := h.units
  have e1 := Nat.mul_le_mul_left P (show i + 1 ≤ 32 by omega)
  have e2 := Nat.mul_le_mul_left P (show j + 1 ≤ 32 by omega)
  rw [Nat.mul_add, Nat.mul_one] at e1 e2
  rw [h1, h2]
  omega

/-- `count` between two packet boundaries is a whole number of packets. -/
theorem countOf_mul (i j : ℕ) :
    countOf (32 * P) (P * i) (P * j) = P * Fifo.dist 32 j i := by
  rcases Nat.eq_zero_or_pos P with rfl | hP
  · simp [countOf]
  unfold countOf Fifo.dist
  by_cases h : j ≤ i
  · rw [if_pos h, if_pos (Nat.mul_le_mul_left P h), Nat.mul_sub]
  · have hlt : P * i < P * j := Nat.mul_lt_mul_of_pos_left (by omega) hP
    rw [if_neg h, if_neg (by omega), Nat.mul_add, Nat.mul_sub, Nat.mul_comm P 32]

theorem packets_units {r : RingBuffer T (32 * P)} (hP : 0 < P) {i j : ℕ}
    (h1 : r.mHead = P * i) (h2 : r.mTail = P * j) :
    packets P r = Fifo.slots (slot r.mBuffer P) 32 j (Fifo.dist 32 j i) := by
  unfold packets count
  rw [h1, h2, countOf_mul i j, Nat.mul_div_cancel_left _ hP, Nat.mul_div_cancel_left _ hP]

/-- `count()` is the number of stored packets times their length. -/
theorem Aligned.count_eq {r : RingBuffer T (32 * P)} (hP : 0 < P) (h : Aligned P r) :
    r.count = P * (packets P r).length := by
  obtain ⟨i, j, hi, hj, h1, h2⟩ := h.units
  rw [packets_units hP h1 h2, Fifo.slots_length]
  unfold count
  rw [h1, h2, countOf_mul i j]

theorem Aligned.packets_length_le {r : RingBuffer T (32 * P)} (hP : 0 < P) (h : Aligned P r) :
    (packets P r).length ≤ 31 := by
  obtain ⟨i, j, hi, hj, h1, h2⟩ := h.units
  rw [packets_units hP h1 h2, Fifo.slots_length]
  have := Fifo.dist_lt hj hi
  omega

theorem aligned_reset (hP : 0 < P) (r : RingBuffer T (32 * P)) : Aligned P r.reset :=
  Aligned.of_units hP (i := 0) (j := 0) (by omega) (by omega) (by simp [reset]) (by simp [reset])

theorem packets_reset (r : RingBuffer T (32 * P)) : packets P r.reset = [] := by
  simp [packets, reset, count, countOf, Fifo.slots]

/-! ### Writing at the head -/

theorem Aligned.headWrite {r : RingBuffer T (32 * P)} (h : Aligned P r) (k : ℕ) (b : T) :
    Aligned P (r.headWrite k b) :=
  ⟨h.head_dvd, h.tail_dvd, h.head_lt, h.tail_lt⟩

/-- A write at `head()` never reaches a stored packet. -/
theorem packets_headWrite {r : RingBuffer T (32 * P)} (h : Aligned P r) {k : ℕ} (hk : k < P)
    (b : T) : packets P (r.headWrite k b) = packets P r := by
  obtain ⟨i, j, hi, hj, h1, h2⟩ := h.units
  have hP : 0 < P := by omega
  rw [packets_units hP h1 h2, packets_units (r := r.headWrite k b) hP h1 h2]
  apply Fifo.slots_congr_head hj hi
  intro s _ hne
  unfold slot cellsFrom RingBuffer.headWrite
  apply List.map_congr_left
  intro n hn
  have hn' := List.mem_range.mp hn
  dsimp only
  rw [Function.update_of_ne]
  rw [h1]
  rcases Nat.lt_or_gt_of_ne hne with hlt | hgt
  · have := Nat.mul_le_mul_left P (show s + 1 ≤ i by omega)
    rw [Nat.mul_add, Nat.mul_one] at this
    omega
  · have := Nat.mul_le_mul_left P (show i + 1 ≤ s by omega)
    rw [Nat.mul_add, Nat.mul_one] at this
    omega

/-- The first `n` cells at `head()`: what a driver has stored of the next packet. -/
def headBytes (r : RingBuffer T (32 * P)) (n : ℕ) : List T := cellsFrom r.mBuffer r.mHead n

@[simp] theorem headBytes_length (r : RingBuffer T (32 * P)) (n : ℕ) : (headBytes r n).length = n :=
  cellsFrom_length _ _ _

/-- Storing the next byte extends what was stored. -/
theorem headBytes_headWrite (r : RingBuffer T (32 * P)) (n : ℕ) (b : T) :
    headBytes (r.headWrite n b) (n + 1) = headBytes r n ++ [b] := by
  unfold headBytes cellsFrom
  rw [List.range_succ, List.map_append]
  congr 1
  · apply List.map_congr_left
    intro k hk
    have hk' := List.mem_range.mp hk
    exact (headRead_headWrite r n k b).trans (if_neg (by omega))
  · simp [RingBuffer.headWrite]

theorem headPacket_getElem? (r : RingBuffer T (32 * P)) {k : ℕ} (hk : k < P) :
    (headPacket P r)[k]? = some (r.headRead k) := by
  simp [headPacket, cellsFrom, headRead, hk]

/-- The packet at the head begins with the cells stored of it. -/
theorem headPacket_take (r : RingBuffer T (32 * P)) {n : ℕ} (hn : n ≤ P) :
    (headPacket P r).take n = headBytes r n := by
  unfold headPacket headBytes cellsFrom
  rw [← List.map_take, List.take_range, Nat.min_eq_left hn]

/-! ### Committing and taking a packet -/

/-- In units of packets the new head is the next slot. -/
theorem newHead_units (hP : 0 < P) {i : ℕ} (hi : i < 32) :
    (if 32 * P ≤ P * i + P then P * i + P - 32 * P else P * i + P) = P * Fifo.next 32 i := by
  have e : P * i + P = P * (i + 1) := by ring
  rw [e, Nat.mul_comm 32 P]
  unfold Fifo.next
  by_cases h : i + 1 < 32
  · rw [if_pos h, if_neg (by have := Nat.mul_lt_mul_of_pos_left h hP; omega)]
  · have : i + 1 = 32 := by omega
    rw [if_neg h, this, if_pos le_rfl, Nat.sub_self, Nat.mul_zero]

/-- `advanceHead(P)` moves to the next slot exactly when fewer than 31 packets are stored. -/
theorem advanceHead_units {r : RingBuffer T (32 * P)} (hP : 0 < P) {i j : ℕ} (hi : i < 32)
    (hj : j < 32) (h1 : r.mHead = P * i) (h2 : r.mTail = P * j) :
    r.advanceHead P =
      if Fifo.dist 32 j i + 1 < 32 then { r with mHead := P * Fifo.next 32 i } else r := by
  unfold advanceHead count
  rw [h1, h2]
  simp only [newHead_units hP hi, countOf_mul _ j]
  have hlt := Fifo.dist_lt hj hi
  by_cases hd : Fifo.dist 32 j i + 1 < 32
  · rw [if_pos hd, if_pos]
    rw [Fifo.dist_next_head hj hi hd]
    exact Nat.mul_le_mul_left P (Nat.le_succ _)
  · have hfull : Fifo.dist 32 j i + 1 = 32 := by omega
    rw [if_neg hd, if_neg]
    rw [Fifo.dist_next_head_full hj hi hfull, Nat.mul_zero, not_le]
    exact Nat.mul_pos hP (by omega)

theorem Aligned.advanceHead {r : RingBuffer T (32 * P)} (hP : 0 < P) (h : Aligned P r) :
    Aligned P (r.advanceHead P) := by
  obtain ⟨i, j, hi, hj, h1, h2⟩ := h.units
  rw [advanceHead_units hP hi hj h1 h2]
  split_ifs
  · exact Aligned.of_units hP (Fifo.next_lt (by omega)) hj rfl h2
  · exact h

/-- **`advanceHead(P)` appends the packet at the head, or drops it at 31 stored packets.** -/
theorem packets_advanceHead {r : RingBuffer T (32 * P)} (hP : 0 < P) (h : Aligned P r) :
    packets P (r.advanceHead P) =
      if (packets P r).length < 31 then packets P r ++ [headPacket P r] else packets P r := by
  obtain ⟨i, j, hi, hj, h1, h2⟩ := h.units
  rw [advanceHead_units hP hi hj h1 h2, packets_units hP h1 h2, Fifo.slots_length]
  by_cases hd : Fifo.dist 32 j i + 1 < 32
  · rw [if_pos hd, if_pos (by omega)]
    rw [packets_units (r := { r with mHead := P * Fifo.next 32 i }) hP rfl h2,
      Fifo.slots_dist_next_head _ hj hi hd]
    unfold headPacket slot
    rw [h1]
  · rw [if_neg hd, if_neg (by omega), packets_units hP h1 h2]

theorem advanceTail_units {r : RingBuffer T (32 * P)} (hP : 0 < P) {j : ℕ} (hj : j < 32)
    (h2 : r.mTail = P * j) : r.advanceTail P = { r with mTail := P * Fifo.next 32 j } := by
  unfold advanceTail
  rw [h2]
  simp only [newHead_units hP hj]

theorem Aligned.advanceTail {r : RingBuffer T (32 * P)} (hP : 0 < P) (h : Aligned P r) :
    Aligned P (r.advanceTail P) := by
  obtain ⟨i, j, hi, hj, h1, h2⟩ := h.units
  rw [advanceTail_units hP hj h2]
  exact Aligned.of_units hP hi (Fifo.next_lt (by omega)) h1 rfl

/-- A stored packet is what `tail()` shows, and `advanceTail(P)` removes it. -/
theorem packets_advanceTail {r : RingBuffer T (32 * P)} (hP : 0 < P) (h : Aligned P r)
    (hc : P ≤ r.count) : packets P r = tailPacket P r :: packets P (r.advanceTail P) := by
  have hcount := h.count_eq hP
  obtain ⟨i, j, hi, hj, h1, h2⟩ := h.units
  have hd : 0 < Fifo.dist 32 j i := by
    rw [packets_units hP h1 h2, Fifo.slots_length] at hcount
    by_contra h0
    rw [Nat.eq_zero_of_not_pos h0] at hcount
    omega
  rw [advanceTail_units hP hj h2,
    packets_units (r := { r with mTail := P * Fifo.next 32 j }) hP h1 rfl,
    packets_units hP h1 h2, Fifo.slots_dist_next_tail _ hj hi hd]
  unfold tailPacket slot
  rw [h2]

theorem Aligned.le_count_iff {r : RingBuffer T (32 * P)} (hP : 0 < P) (h : Aligned P r) :
    P ≤ r.count ↔ packets P r ≠ [] := by
  rw [h.count_eq hP]
  constructor
  · intro hle h0
    rw [h0, List.length_nil, Nat.mul_zero] at hle
    omega
  · intro hne
    exact Nat.le_mul_of_pos_right P (List.length_pos_iff.mpr hne)

/-- The ring after a turn of `while (_ringBuffer.count() >= P)`. -/
def afterTurn (P : ℕ) (r : RingBuffer T (32 * P)) : RingBuffer T (32 * P) :=
  if P ≤ r.count then r.advanceTail P else r

theorem Aligned.afterTurn {r : RingBuffer T (32 * P)} (hP : 0 < P) (h : Aligned P r) :
    Aligned P (r.afterTurn P) := by
  unfold RingBuffer.afterTurn
  split_ifs
  · exact h.advanceTail hP
  · exact h

/-- A turn takes the oldest packet. -/
theorem packets_afterTurn {r : RingBuffer T (32 * P)} (hP : 0 < P) (h : Aligned P r) :
    packets P (r.afterTurn P) = (packets P r).tail := by
  unfold afterTurn
  by_cases hc : P ≤ r.count
  · rw [if_pos hc, packets_advanceTail hP h hc, List.tail_cons]
  · have hnil : packets P r = [] := by
      by_contra hne
      exact hc ((h.le_count_iff hP).mpr hne)
    rw [if_neg hc, hnil, List.tail_nil]

end RingBuffer
end VoodooPS2
