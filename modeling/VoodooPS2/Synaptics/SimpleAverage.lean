import VoodooPS2.Lib.Fifo
import VoodooPS2.Lib.Window
import VoodooPS2.Synaptics.Pad

/-! # The class `SimpleAverage<T, N>`

`Members` are the members of the class: a buffer of `N` cells written in a circle, the count, the
running sum and the position of the next item.  `reset` leaves the cells as they are.  `contents`
reads the items off the buffer, oldest first, with their sum; this is what the driver's state has in
the place of the class, and every method of the class is the method of the same name there
(`contents_filter` and the lemmas after it).

`sliding_window`: after any calls the class holds the last `N` inputs since the last `reset`, with
their count, their sum and their mean. -/

namespace VoodooPS2.Synaptics

/-- What the class relies on in `T`: conversion for the sum, which is an `int`, and back. -/
class ItemType (α : Type) where
  toSum : α → ℤ
  ofSum : ℤ → α

/-- `int` -/
instance : ItemType ℤ := ⟨id, id⟩

/-- `uint64_t` -/
instance : ItemType UInt64 := ⟨fun n => n.toNat, UInt64.ofInt⟩

theorem toInt_toInt_add (n m : ℤ) : toInt (toInt n + m) = toInt (n + m) := Int.bmod_add_bmod

theorem toInt_toInt_sub (n m : ℤ) : toInt (toInt n - m) = toInt (n - m) := Int.bmod_sub_bmod

namespace SimpleAverage

/-! ### The list -/

section list

variable {α : Type} {N : ℕ} {val : α → ℤ} {a : SimpleAverage α N} {data : α}

theorem filter_of_eq (h : a.count = N) {old : α} {rest : List α} (hi : a.items = old :: rest) :
    a.filter val data = ⟨rest ++ [data], toInt (a.sum + val data - val old)⟩ := by
  rw [filter, hi]
  exact if_pos h

theorem filter_of_ne (h : a.count ≠ N) (hnil : a.items = [] → a.sum = 0) :
    a.filter val data = ⟨a.items ++ [data], toInt (a.sum + val data)⟩ := by
  rw [filter]
  split
  · rename_i hi
    rw [hi, hnil hi, zero_add]
    rfl
  · exact if_neg h

end list

/-! ### The class -/

/-- The members.  The cells of `mBuffer` below `N` belong to the object. -/
structure Members (α : Type) (N : ℕ) where
  mBuffer : ℕ → α
  mCount : ℕ
  mSum : ℤ
  mIndex : ℕ

/-- A call that changes the object. -/
inductive Call (α : Type) where
  | filter (data : α)
  | reset

namespace Members

variable {α : Type} {N : ℕ}

section methods

variable [ItemType α]

def reset (a : Members α N) : Members α N := { a with mCount := 0, mSum := 0, mIndex := 0 }

def count (a : Members α N) : ℕ := a.mCount

def sum (a : Members α N) : ℤ := a.mSum

/-- The object after `filter(data)`, and the average it returns. -/
def filter (a : Members α N) (data : α) : Members α N × α :=
  -- add new entry to sum
  let sum := toInt (a.mSum + ItemType.toSum data)
  -- if full buffer, then we are overwriting, so subtract old from sum
  let sum := if a.mCount = N then toInt (sum - ItemType.toSum (a.mBuffer a.mIndex)) else sum
  -- move index to next position with wrap around
  let index := if N ≤ a.mIndex + 1 then 0 else a.mIndex + 1
  -- keep count moving until buffer is full
  let count := if a.mCount < N then a.mCount + 1 else a.mCount
  (⟨Function.update a.mBuffer a.mIndex data, count, sum, index⟩, ItemType.ofSum (sum.tdiv count))

def oldest (a : Members α N) : α :=
  if a.mCount = 0 then ItemType.ofSum 0
  else if a.mCount < N then a.mBuffer 0
  else a.mBuffer a.mIndex

def newest (a : Members α N) : α :=
  if a.mCount = 0 then ItemType.ofSum 0
  else a.mBuffer (if a.mIndex = 0 then a.mCount - 1 else a.mIndex - 1)

def average (a : Members α N) : α :=
  if a.mCount = 0 then ItemType.ofSum 0 else ItemType.ofSum (a.mSum.tdiv a.mCount)

def call (a : Members α N) : Call α → Members α N × Option α
  | .filter data => ((a.filter data).1, some (a.filter data).2)
  | .reset => (a.reset, none)

/-- The object after some calls, and what the last of them returned. -/
def run (a : Members α N) (calls : List (Call α)) : Members α N × Option α :=
  calls.foldl (fun r c => r.1.call c) (a, none)

end methods

/-! ### The contents -/

/-- The count and the position belong together, and an empty object has no sum. -/
structure Valid (a : Members α N) : Prop where
  count_le : a.mCount ≤ N
  index_lt : a.mIndex < N
  filling : a.mCount < N → a.mIndex = a.mCount
  empty : a.mCount = 0 → a.mSum = 0

/-- The cell of the oldest item. -/
def start (a : Members α N) : ℕ := if a.mCount < N then 0 else a.mIndex

/-- The items in the buffer, oldest first, and their sum. -/
def contents (a : Members α N) : SimpleAverage α N :=
  ⟨Fifo.slots a.mBuffer N a.start a.mCount, a.mSum⟩

theorem valid_reset (hN : 0 < N) (a : Members α N) : a.reset.Valid :=
  ⟨Nat.zero_le N, hN, fun _ => rfl, fun _ => rfl⟩

theorem Valid.start_lt {a : Members α N} (h : a.Valid) : a.start < N := by
  have hlt := h.index_lt
  rw [start]
  split <;> omega

theorem contents_reset (a : Members α N) : a.reset.contents = SimpleAverage.reset := rfl

theorem count_contents (a : Members α N) : a.contents.count = a.count := Fifo.slots_length _ _ _ _

variable [ItemType α]

theorem mCount_filter (a : Members α N) (data : α) :
    (a.filter data).1.mCount = if a.mCount < N then a.mCount + 1 else a.mCount := rfl

theorem mIndex_filter (a : Members α N) (data : α) :
    (a.filter data).1.mIndex = Fifo.next N a.mIndex := by
  change (if N ≤ a.mIndex + 1 then 0 else a.mIndex + 1) = Fifo.next N a.mIndex
  rw [Fifo.next]
  split_ifs <;> omega

namespace Valid

variable {a : Members α N} (h : a.Valid)

include h

theorem filter (data : α) : (a.filter data).1.Valid := by
  obtain ⟨hcount, hindex, hfilling, -⟩ := h
  have hN : 0 < N := by omega
  constructor
  · rw [mCount_filter]
    split <;> omega
  · rw [mIndex_filter]
    exact Fifo.next_lt hN
  · rw [mCount_filter, mIndex_filter, Fifo.next]
    intro hlt
    split_ifs at hlt ⊢ <;> omega
  · rw [mCount_filter]
    intro h0
    split at h0 <;> omega

/-- While the buffer fills up, it is written from its first cell on. -/
theorem items_filling (hlt : a.mCount < N) (data : α) :
    (a.filter data).1.contents.items = a.contents.items ++ [data] := by
  have hindex := h.filling hlt
  have hcount : (a.filter data).1.mCount = a.mCount + 1 := if_pos hlt
  have hstart : (a.filter data).1.start = 0 := by
    rw [start, hcount, mIndex_filter, Fifo.next, hindex]
    split_ifs <;> omega
  have hwrite := Fifo.slots_update a.mBuffer (h.index_lt.trans_le' (Nat.zero_le _)) h.index_lt data
  have hdist : Fifo.dist N 0 a.mIndex = a.mCount := by
    rw [Fifo.dist, if_pos (Nat.zero_le _), hindex]
    rfl
  rw [hdist] at hwrite
  rw [contents, contents, hstart, hcount, start, if_pos hlt]
  exact hwrite

/-- Once it is full, the new item takes the cell of the oldest one. -/
theorem items_full (hfull : a.mCount = N) (data : α) :
    ∃ rest, a.contents.items = a.mBuffer a.mIndex :: rest ∧
      (a.filter data).1.contents.items = rest ++ [data] := by
  have hN : 0 < N := Nat.zero_lt_of_lt h.index_lt
  have hcount : (a.filter data).1.mCount = N := (if_neg hfull.not_lt).trans hfull
  have hread := Fifo.slots_full a.mBuffer h.index_lt
  have hnext : Fifo.next N a.mIndex < N := Fifo.next_lt hN
  have hwrite := Fifo.slots_update a.mBuffer hnext h.index_lt data
  rw [Fifo.dist_next_self h.index_lt] at hwrite
  refine ⟨Fifo.slots a.mBuffer N (Fifo.next N a.mIndex)
    (Fifo.dist N (Fifo.next N a.mIndex) a.mIndex), ?_, ?_⟩
  · rw [contents, start, if_neg hfull.not_lt, hfull]
    exact hread
  · rw [contents, start, hcount, if_neg (lt_irrefl N), mIndex_filter]
    exact hwrite

/-- `filter` of the class is `filter` of the list. -/
theorem contents_filter (data : α) :
    (a.filter data).1.contents = a.contents.filter ItemType.toSum data := by
  have hcount : a.contents.count = a.mCount := a.count_contents
  by_cases hfull : a.mCount = N
  · obtain ⟨rest, hold, hnew⟩ := h.items_full hfull data
    have hsum : (a.filter data).1.contents.sum =
        toInt (toInt (a.mSum + ItemType.toSum data) - ItemType.toSum (a.mBuffer a.mIndex)) :=
      if_pos hfull
    rw [filter_of_eq (hcount.trans hfull) hold, ← hnew, ← toInt_toInt_sub]
    exact congrArg (SimpleAverage.mk _) hsum
  · have hsum : (a.filter data).1.contents.sum = toInt (a.mSum + ItemType.toSum data) :=
      if_neg hfull
    have hnil (hn : a.contents.items = []) : a.contents.sum = 0 := by
      refine h.empty (hcount.symm.trans ?_)
      rw [SimpleAverage.count, hn, List.length_nil]
    rw [filter_of_ne (fun hc => hfull (hcount.symm.trans hc)) hnil,
      ← h.items_filling (lt_of_le_of_ne h.count_le hfull) data]
    exact congrArg (SimpleAverage.mk _) hsum

theorem oldest_contents : a.oldest = a.contents.oldest (ItemType.ofSum 0) := by
  rw [oldest, SimpleAverage.oldest, contents]
  cases hc : a.mCount with
  | zero => rfl
  | succ n =>
      rw [if_neg (Nat.succ_ne_zero n), Fifo.head?_slots a.mBuffer h.start_lt n, Option.getD_some,
        start, hc]
      split <;> rfl

theorem newest_contents : a.newest = a.contents.newest (ItemType.ofSum 0) := by
  rw [newest, SimpleAverage.newest, contents]
  cases hc : a.mCount with
  | zero => rfl
  | succ n =>
      rw [if_neg (Nat.succ_ne_zero n), Fifo.getLast?_slots, Option.getD_some]
      have hle := h.count_le
      have hlt := h.index_lt
      have hfilling := h.filling
      congr 1
      rw [start, Fifo.pos]
      split_ifs <;> omega

end Valid

theorem average_contents (a : Members α N) : a.average = ItemType.ofSum a.contents.average := by
  rw [average, SimpleAverage.average, count_contents]
  split
  · rename_i h0
    rw [count, h0, Nat.cast_zero, Int.tdiv_zero]
  · rfl

/-- `filter` returns the average of the new contents. -/
theorem filter_returns (a : Members α N) (data : α) :
    (a.filter data).2 = ItemType.ofSum (a.filter data).1.contents.average := by
  rw [SimpleAverage.average, count_contents]
  rfl

end Members

/-! ### The stream of inputs -/

section stream

variable {α : Type} {N : ℕ}

/-- The list has the last `N` items of the stream, and their sum as an `int`. -/
structure Shows (val : α → ℤ) (a : SimpleAverage α N) (xs : List α) : Prop where
  items : a.items = xs.rtake N
  sum : a.sum = toInt ((xs.rtake N).map val).sum

theorem shows_reset (val : α → ℤ) : Shows val (reset : SimpleAverage α N) [] where
  items := (List.rtake_nil N).symm
  sum := by
    rw [List.rtake_nil]
    rfl

theorem Shows.filter {val : α → ℤ} {a : SimpleAverage α N} {xs : List α} (h : Shows val a xs)
    (hN : 0 < N) (data : α) : Shows val (a.filter val data) (xs ++ [data]) := by
  have hwindow : (xs ++ [data]).rtake N = Window.push N a.items data := by
    rw [h.items, Window.push_rtake hN]
  have hsum := h.sum
  rw [← h.items] at hsum
  by_cases hfull : a.count = N
  · obtain ⟨old, rest, hi⟩ : ∃ old rest, a.items = old :: rest :=
      List.exists_cons_of_length_pos (hN.trans_eq hfull.symm)
    have hpush : Window.push N a.items data = rest ++ [data] := by
      rw [Window.push, if_pos (show a.items.length = N from hfull), hi, List.tail_cons]
    rw [filter_of_eq hfull hi]
    constructor
    · exact (hwindow.trans hpush).symm
    · change toInt (a.sum + val data - val old) = _
      rw [hwindow, hpush, hsum, hi, add_sub_assoc, toInt_toInt_add, List.map_cons, List.sum_cons,
        List.map_append, List.sum_append, List.map_singleton, List.sum_singleton]
      congr 1
      omega
  · have hpush : Window.push N a.items data = a.items ++ [data] := if_neg hfull
    have hnil (hn : a.items = []) : a.sum = 0 := by
      rw [hsum, hn]
      rfl
    rw [filter_of_ne hfull hnil]
    constructor
    · exact (hwindow.trans hpush).symm
    · rw [hwindow, hpush, hsum, toInt_toInt_add, List.map_append, List.sum_append,
        List.map_singleton, List.sum_singleton]

/-- What a call does to the inputs since the last `reset`. -/
def Call.extend (xs : List α) : Call α → List α
  | .filter data => xs ++ [data]
  | .reset => []

/-- The inputs since the last `reset`. -/
def inputs (calls : List (Call α)) : List α := calls.foldl Call.extend []

theorem inputs_concat (calls : List (Call α)) (c : Call α) :
    inputs (calls ++ [c]) = c.extend (inputs calls) := by
  rw [inputs, List.foldl_concat]
  rfl

/-- The last `N` of them. -/
def window (N : ℕ) (calls : List (Call α)) : List α := (inputs calls).rtake N

namespace Members

variable [ItemType α]

/-- The object stands for the last items of a stream. -/
structure Follows (a : Members α N) (xs : List α) : Prop where
  valid : a.Valid
  items : Shows ItemType.toSum a.contents xs

theorem follows_reset (hN : 0 < N) (a : Members α N) : a.reset.Follows [] where
  valid := valid_reset hN a
  items := by
    rw [contents_reset]
    exact shows_reset _

theorem Follows.call {a : Members α N} {xs : List α} (h : a.Follows xs) (hN : 0 < N)
    (c : Call α) : (a.call c).1.Follows (c.extend xs) := by
  cases c with
  | reset => exact follows_reset hN a
  | filter data =>
      refine ⟨h.valid.filter data, ?_⟩
      change Shows ItemType.toSum (a.filter data).1.contents _
      rw [h.valid.contents_filter]
      exact h.items.filter hN data

theorem run_concat (a : Members α N) (calls : List (Call α)) (c : Call α) :
    a.run (calls ++ [c]) = (a.run calls).1.call c := by
  rw [run, List.foldl_concat]
  rfl

/-- Every run follows its inputs. -/
theorem follows_run (hN : 0 < N) (a : Members α N) (calls : List (Call α)) :
    (a.reset.run calls).1.Follows (inputs calls) := by
  induction calls using List.reverseRecOn with
  | nil => exact follows_reset hN a
  | append_singleton calls c ih =>
      rw [run_concat, inputs_concat]
      exact ih.call hN c

/-- A call that returns something returns the average of what the object has then. -/
theorem returned_run (a : Members α N) (calls : List (Call α)) {v : α}
    (hv : (a.run calls).2 = some v) : v = ItemType.ofSum (a.run calls).1.contents.average := by
  rcases calls.eq_nil_or_concat with rfl | ⟨calls, c, rfl⟩
  · cases hv
  · rw [List.concat_eq_append, run_concat] at hv ⊢
    cases c with
    | reset => cases hv
    | filter data =>
        obtain rfl := Option.some.inj hv
        exact filter_returns _ data

end Members

end stream

/-! ### Windows of integers -/

/-- What an object shows, and what its last call returned, in terms of a window. -/
structure SlidingWindow {N : ℕ} (r : Members ℤ N × Option ℤ) (w : List ℤ) : Prop where
  count : r.1.count = w.length
  sum : r.1.sum = w.sum
  oldest : r.1.oldest = w.headD 0
  newest : r.1.newest = w.getLastD 0
  average : r.1.average = w.sum.tdiv w.length
  returned : ∀ v ∈ r.2, v = w.sum.tdiv w.length
  smallest : ∀ lo ∈ w.min?, lo ≤ w.sum.tdiv w.length
  largest : ∀ hi ∈ w.max?, w.sum.tdiv w.length ≤ hi

/-- **`SimpleAverage<int, N>` is a sliding window**, after any calls, whatever the members were
before the constructor.  Only the sum of the window itself has to be an `int`: what leaves the sum
takes back what was wrapped on the way. -/
theorem sliding_window {N : ℕ} (hN : 0 < N) (a : Members ℤ N) (calls : List (Call ℤ))
    (hfit : FitsInt (window N calls).sum) :
    SlidingWindow (a.reset.run calls) (window N calls) := by
  obtain ⟨hvalid, hitems, hsum⟩ := a.follows_run hN calls
  have hreturned := fun v => a.reset.returned_run calls (v := v)
  generalize a.reset.run calls = r at hvalid hitems hsum hreturned ⊢
  change r.1.contents.items = window N calls at hitems
  change r.1.contents.sum = toInt ((window N calls).map id).sum at hsum
  generalize window N calls = w at hfit hitems hsum ⊢
  rw [List.map_id, hfit.toInt] at hsum
  have hcount : r.1.contents.count = w.length := congrArg List.length hitems
  have haverage : r.1.contents.average = w.sum.tdiv w.length := by
    rw [SimpleAverage.average, hsum, hcount]
  constructor
  · rw [← hcount, Members.count_contents]
  · exact hsum
  · rw [hvalid.oldest_contents, SimpleAverage.oldest, hitems, List.headD_eq_head?_getD]
    rfl
  · rw [hvalid.newest_contents, SimpleAverage.newest, hitems, List.getLastD_eq_getLast?]
    rfl
  · rw [Members.average_contents, haverage]
    rfl
  · intro v hv
    rw [hreturned v hv, haverage]
    rfl
  · intro lo hlo
    obtain ⟨hmem, hle⟩ := List.min?_eq_some_iff.mp hlo
    exact Window.le_mean (List.ne_nil_of_mem hmem) hle
  · intro hi hhi
    obtain ⟨hmem, hle⟩ := List.max?_eq_some_iff.mp hhi
    exact Window.mean_le (List.ne_nil_of_mem hmem) hle

/-- The window is full, after a `reset` that left other items in the buffer. -/
def someCalls : List (Call ℤ) :=
  [.filter 8, .filter (-3), .filter 5, .reset, .filter 7, .filter (-9), .filter 2, .filter (-4)]

theorem sliding_window_someCalls :
    SlidingWindow ((⟨fun _ => 99, 5, 6, 7⟩ : Members ℤ 3).reset.run someCalls) [-9, 2, -4] :=
  sliding_window (by decide) ⟨fun _ => 99, 5, 6, 7⟩ someCalls (by decide)

end SimpleAverage

end VoodooPS2.Synaptics
