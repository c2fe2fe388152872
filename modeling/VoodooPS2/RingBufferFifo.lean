import VoodooPS2.RingBuffer

/-! # The ring buffer as a bounded queue of packets

A driver uses its ring in three ways: the interrupt routine stores bytes at `head()[i]` and
commits them with `advanceHead(P)`, and the work loop, while `count() >= P`, reads the `P`
bytes at `tail()` and calls `advanceTail(P)`.  `Usage` is a run of such operations together
with its history: `committed` are the packets committed while fewer than 31 were waiting,
`fetched` those the work loop read.

`Usage.toFifo` maps such a run to a bounded queue, and `Usage.toFifo_step` shows that every
operation is the corresponding operation of the queue; the law of the queue then gives the
behaviour of the class over all runs. -/

namespace VoodooPS2.RingBuffer

variable {T : Type} {P : ℕ}

/-- What a driver does with its ring. -/
inductive DriverOp (T : Type) (P : ℕ) where
  /-- `packet[i] = b` with `packet = head()` -/
  | write (i : Fin P) (b : T)
  /-- `advanceHead(P)` -/
  | commit
  /-- one round of `while (count() >= P) { use tail(); advanceTail(P); }` -/
  | fetch

/-- A ring in use, with the history of its packets. -/
structure Usage (T : Type) (P : ℕ) where
  ring : RingBuffer T (32 * P)
  committed : List (List T)
  fetched : List (List T)

namespace Usage

def start (r : RingBuffer T (32 * P)) : Usage T P := ⟨r.reset, [], []⟩

def step (u : Usage T P) : DriverOp T P → Usage T P
  | .write i b => { u with ring := u.ring.headWrite i b }
  | .commit =>
      { u with
        ring := u.ring.advanceHead P
        committed :=
          if u.ring.count < 31 * P then u.committed ++ [headPacket P u.ring] else u.committed }
  | .fetch =>
      if P ≤ u.ring.count then
        { u with ring := u.ring.advanceTail P, fetched := u.fetched ++ [tailPacket P u.ring] }
      else u

def run (u : Usage T P) (ops : List (DriverOp T P)) : Usage T P := ops.foldl step u

/-! ### Simulation of the bounded queue -/

/-- The queue a ring stands for. -/
def toFifo (u : Usage T P) : Fifo.State (List T) := ⟨packets P u.ring, u.committed, u.fetched⟩

/-- What an operation is to the queue. -/
def opToFifo (u : Usage T P) : DriverOp T P → List (Fifo.Op (List T))
  | .write _ _ => []
  | .commit => [.push (headPacket P u.ring)]
  | .fetch => [.pop]

theorem aligned_step (hP : 0 < P) {u : Usage T P} (h : Aligned P u.ring) (o : DriverOp T P) :
    Aligned P (u.step o).ring := by
  cases o with
  | write i b => exact h.headWrite i b
  | commit => exact h.advanceHead hP
  | fetch =>
      simp only [step]
      split_ifs
      · exact h.advanceTail hP
      · exact h

theorem count_lt_iff (hP : 0 < P) {r : RingBuffer T (32 * P)} (h : Aligned P r) :
    r.count < 31 * P ↔ (packets P r).length < 31 := by
  rw [h.count_eq hP, Nat.mul_comm 31 P]
  exact ⟨fun hlt => Nat.lt_of_mul_lt_mul_left hlt, fun hlt => Nat.mul_lt_mul_of_pos_left hlt hP⟩

/-- Every operation on the ring is the corresponding operation of the queue. -/
theorem toFifo_step (hP : 0 < P) {u : Usage T P} (h : Aligned P u.ring) (o : DriverOp T P) :
    (u.step o).toFifo = (u.opToFifo o).foldl (Fifo.step 31) u.toFifo := by
  cases o with
  | write i b =>
      simp only [step, toFifo, opToFifo, List.foldl_nil, packets_headWrite h i.2]
  | commit =>
      simp only [step, toFifo, opToFifo, List.foldl_cons, List.foldl_nil, Fifo.step, Fifo.push,
        packets_advanceHead hP h, count_lt_iff hP h]
      split_ifs <;> rfl
  | fetch =>
      simp only [step, toFifo, opToFifo, List.foldl_cons, List.foldl_nil, Fifo.step, Fifo.pop]
      by_cases hc : P ≤ u.ring.count
      · rw [if_pos hc, packets_advanceTail hP h hc]
      · have hnil : packets P u.ring = [] := by
          by_contra hne
          exact hc ((h.le_count_iff hP).mpr hne)
        rw [if_neg hc, hnil]

/-- The ring stays aligned and keeps the law of the queue along every run. -/
theorem run_conserved (hP : 0 < P) {u : Usage T P} (h : Aligned P u.ring)
    (hc : Fifo.Conserved 31 u.toFifo) (ops : List (DriverOp T P)) :
    Aligned P (u.run ops).ring ∧ Fifo.Conserved 31 (u.run ops).toFifo := by
  induction ops generalizing u with
  | nil => exact ⟨h, hc⟩
  | cons o ops ih =>
      apply ih (aligned_step hP h o)
      rw [toFifo_step hP h]
      exact hc.run _

theorem start_conserved (r : RingBuffer T (32 * P)) : Fifo.Conserved 31 (start r).toFifo := by
  unfold start toFifo
  dsimp only
  rw [packets_reset]
  exact Fifo.conserved_empty 31

end Usage

/-- **The ring is a bounded FIFO of packets.**  After any operations from `reset()`: both
positions are multiples of `P` below `N`, so accesses of `P` bytes stay in the array; the
packets read so far followed by those stored are the committed packets in commit order; at
most 31 are stored; a commit at 31 leaves them unchanged, and so does any write before a
commit. -/
theorem bounded_fifo (hP : 1 ≤ P) (r : RingBuffer T (32 * P)) (ops : List (DriverOp T P)) :
    let u := (Usage.start r).run ops
    (P ∣ u.ring.mHead ∧ u.ring.mHead < 32 * P ∧ u.ring.mHead + P ≤ 32 * P) ∧
    (P ∣ u.ring.mTail ∧ u.ring.mTail < 32 * P ∧ u.ring.mTail + P ≤ 32 * P) ∧
    u.fetched ++ packets P u.ring = u.committed ∧
    (packets P u.ring).length ≤ 31 ∧
    ((packets P u.ring).length = 31 → packets P (u.ring.advanceHead P) = packets P u.ring) ∧
    (∀ (i : Fin P) (b : T), packets P (u.ring.headWrite i b) = packets P u.ring) := by
  intro u
  obtain ⟨ha, hc⟩ :=
    Usage.run_conserved hP (u := Usage.start r) (aligned_reset hP r) (Usage.start_conserved r) ops
  refine ⟨⟨ha.head_dvd, ha.head_lt, ha.access.1⟩, ⟨ha.tail_dvd, ha.tail_lt, ha.access.2⟩,
    hc.history, hc.bound, ?_, fun i b => packets_headWrite ha i.2 b⟩
  intro hfull
  rw [packets_advanceHead hP ha, if_neg (by show ¬ (packets P u.ring).length < 31; omega)]

theorem bounded_fifo_two_packets :
    let u := (Usage.start (P := 2) (⟨fun _ => 0, 5, 9⟩ : RingBuffer ℕ (32 * 2))).run
      [.write 0 7, .write 1 8, .commit, .write 0 9, .commit, .fetch]
    u.fetched ++ packets 2 u.ring = u.committed ∧ u.fetched = [[7, 8]] ∧
      packets 2 u.ring = [[9, 0]] :=
  ⟨(bounded_fifo (by decide) _ _).2.2.1, by decide, by decide⟩

end VoodooPS2.RingBuffer
