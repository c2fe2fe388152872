import VoodooPS2.Controller.Request
import VoodooPS2.Lib.Dialogue

/-! # Programs that talk to a device

The 8042 of `Controller/Program.lean` follows a script.  Here the bytes of one of the two streams are
the answers of a device to what is written to its port, and the other stream goes on as it likes: before
each byte of the device come looks that find nothing and bytes of the other stream, as `traffic` says.

`live` runs a program on such a line.  `converse` runs it on what the device says and nothing else, with
no polling and no other stream.  `live_refines`: as long as the answers come in time, a program that
reads the stream of the device only gets the same results from the two, leaves the device in the same
state, and hands every byte of the other stream to its driver, once and in order. -/

namespace VoodooPS2.Controller

open Dialogue

/-! ### The line to a device -/

/-- Where a byte at the data port goes, after a command at the command port. -/
def addressee (last : Option UInt8) : Option PS2DeviceType :=
  if last = some kCPTransmitToMouse then some .mouse
  else if last = some kCPSetCommandByte then none
  else some .keyboard

/-- The ports with a device behind one of them. -/
structure Line (σ : Type) where
  device : σ
  /-- the command that has been written to the command port, until data is written -/
  last : Option UInt8
  /-- how many bytes the device has sent -/
  sent : ℕ
  polls : List Poll

section

variable {σ α β : Type} (t : PS2DeviceType) (D : Device σ UInt8) (traffic : ℕ → List Poll)

/-- Bytes of the device as they come in, each after its traffic. -/
def carried : ℕ → List UInt8 → List Poll
  | _, [] => []
  | n, b :: bs => traffic n ++ .byte t b :: carried (n + 1) bs

/-- `outb(kDataPort, byte)`. -/
def Line.data (l : Line σ) (byte : UInt8) : Line σ :=
  if addressee l.last = some t then
    { device := D.step l.device byte
      last := none
      sent := l.sent + (D.answer l.device byte).length
      polls := l.polls ++ carried t traffic l.sent (D.answer l.device byte) }
  else { l with last := none }

/-- A finished run on a line, with the bytes that were handed to the drivers. -/
structure Live (σ α : Type) where
  value : α
  line : Line σ
  dispatched : List TaggedByte

def Live.after (r : Live σ α) (dispatched : List TaggedByte) : Live σ α :=
  { r with dispatched := dispatched ++ r.dispatched }

/-- Run a program on the line. -/
def live : Prog α → Line σ → Live σ α
  | .done a, l => ⟨a, l, []⟩
  | .writeCommandPort b next, l => live next { l with last := some b }
  | .writeDataPort b next, l => live next (l.data t D traffic b)
  | .readDataPort r next, l =>
      let res := read .normal r l.polls
      (live (next res.value) { l with polls := res.rest }).after res.dispatched
  | .flushDataPort next, l =>
      let bytes := readyBytes l.polls
      live (next bytes.length) { l with polls := l.polls.drop (bytes.length + 1) }
  | .sleep _ next, l => live next l
  | .ignoreInterrupts next, l => live next l
  | .heedInterrupts next, l => live next l

/-! ### The conversation itself -/

/-- A device, and what it has said that has not been read. -/
structure Talk (σ : Type) where
  device : σ
  last : Option UInt8
  waiting : List UInt8

/-- Nothing is under way. -/
def Talk.idle (s : σ) : Talk σ := ⟨s, none, []⟩

/-- `outb(kDataPort, byte)`. -/
def Talk.data (w : Talk σ) (byte : UInt8) : Talk σ :=
  if addressee w.last = some t then
    ⟨D.step w.device byte, none, w.waiting ++ D.answer w.device byte⟩
  else { w with last := none }

/-- What a read finds: the byte it returns, those it hands to the driver, and those that are left. -/
structure Heard where
  returned : Option UInt8
  strays : List UInt8
  left : List UInt8

/-- A read, when the device is the only one to speak.  With an expected byte the first byte gets a
second chance. -/
def hear : Reader → List UInt8 → Heard
  | .plain _ _, bs => ⟨bs.head?, [], bs.tail⟩
  | .expecting _ _ _ (some f), [] => ⟨some f, [], []⟩
  | .expecting _ e _ (some f), b :: bs =>
      if b = e then ⟨some b, [f], bs⟩ else ⟨some f, [b], bs⟩
  | .expecting _ _ _ none, [] => ⟨none, [], []⟩
  | .expecting _ _ _ none, [b] => ⟨some b, [], []⟩
  | .expecting _ e _ none, b :: c :: bs =>
      if b = e then ⟨some b, [], c :: bs⟩
      else if c = e then ⟨some c, [b], bs⟩
      else ⟨some b, [c], bs⟩

/-- A finished conversation, with the bytes of the device that were handed to its driver. -/
structure Conversation (σ α : Type) where
  value : α
  talk : Talk σ
  strays : List UInt8

namespace Conversation

def after (c : Conversation σ α) (strays : List UInt8) : Conversation σ α :=
  { c with strays := strays ++ c.strays }

def map (f : α → β) (c : Conversation σ α) : Conversation σ β := ⟨f c.value, c.talk, c.strays⟩

@[simp] theorem after_value (c : Conversation σ α) (bs : List UInt8) :
    (c.after bs).value = c.value := rfl

@[simp] theorem after_talk (c : Conversation σ α) (bs : List UInt8) : (c.after bs).talk = c.talk :=
  rfl

@[simp] theorem after_strays (c : Conversation σ α) (bs : List UInt8) :
    (c.after bs).strays = bs ++ c.strays := rfl

@[simp] theorem after_nil (c : Conversation σ α) : c.after [] = c := rfl

theorem after_after (c : Conversation σ α) (bs cs : List UInt8) :
    (c.after bs).after cs = c.after (cs ++ bs) := by
  simp [after]

end Conversation

/-- Run a program on the device alone. -/
def converse : Prog α → Talk σ → Conversation σ α
  | .done a, w => ⟨a, w, []⟩
  | .writeCommandPort b next, w => converse next { w with last := some b }
  | .writeDataPort b next, w => converse next (w.data t D b)
  | .readDataPort r next, w =>
      let h := hear r w.waiting
      (converse (next (h.returned.getD 0)) { w with waiting := h.left }).after h.strays
  | .flushDataPort next, w => converse (next w.waiting.length) { w with waiting := [] }
  | .sleep _ next, w => converse next w
  | .ignoreInterrupts next, w => converse next w
  | .heedInterrupts next, w => converse next w

theorem converse_bind (p : Prog α) (f : α → Prog β) (w : Talk σ) :
    converse t D (p.bind f) w =
      (converse t D (f (converse t D p w).value) (converse t D p w).talk).after
        (converse t D p w).strays := by
  induction p generalizing w with
  | done a => rfl
  | writeCommandPort b next ih => exact ih _
  | writeDataPort b next ih => exact ih _
  | readDataPort r next ih => simp [Prog.bind, converse, ih, Conversation.after_after]
  | flushDataPort next ih => exact ih _ _
  | sleep ms next ih => exact ih w
  | ignoreInterrupts next ih => exact ih w
  | heedInterrupts next ih => exact ih w

/-- A program that reads one stream only, each time with a new timeout, and flushes nothing. -/
def Prog.OnStream (t : PS2DeviceType) {α : Type} : Prog α → Prop
  | .done _ => True
  | .writeCommandPort _ next => next.OnStream t
  | .writeDataPort _ next => next.OnStream t
  | .readDataPort r next =>
      (r = .plain t timeoutBudget ∨ ∃ e, r = .expecting t e timeoutBudget none) ∧
        ∀ v, (next v).OnStream t
  | .flushDataPort _ => False
  | .sleep _ next => next.OnStream t
  | .ignoreInterrupts next => next.OnStream t
  | .heedInterrupts next => next.OnStream t

/-! ### Reading through the other stream -/

/-- The looks that find nothing. -/
def misses : List Poll → ℕ
  | [] => 0
  | .miss :: polls => misses polls + 1
  | .byte _ _ :: polls => misses polls

/-- Nothing of the device's own stream is in the traffic, and the device answers in time. -/
structure Harmless (t : PS2DeviceType) (traffic : ℕ → List Poll) : Prop where
  other : ∀ n, ∀ p ∈ deliveries (traffic n), p.1 ≠ t
  prompt : ∀ n, 2 * misses (traffic n) < timeoutBudget

/-- The reader after looks that have found nothing. -/
def Reader.spend (k : ℕ) : Reader → Reader
  | plain t n => plain t (n - k)
  | expecting t e n first => expecting t e (n - k) first

/-- A reader hands on the bytes of the other stream. -/
theorem read_through (chunk rest : List Poll) (r : Reader)
    (hother : ∀ p ∈ deliveries chunk, p.1 ≠ r.deviceType)
    (hmisses : misses chunk < r.timeoutCounter) :
    (read .normal r (chunk ++ rest)).returned =
        (read .normal (r.spend (misses chunk)) rest).returned ∧
      (read .normal r (chunk ++ rest)).rest =
        (read .normal (r.spend (misses chunk)) rest).rest ∧
      (read .normal r (chunk ++ rest)).dispatched =
        deliveries chunk ++ (read .normal (r.spend (misses chunk)) rest).dispatched := by
  induction chunk generalizing r with
  | nil => cases r <;> exact ⟨rfl, rfl, rfl⟩
  | cons poll chunk ih =>
      cases poll with
      | miss =>
          rw [misses] at hmisses
          have hagain : ∃ r', r.onMiss = .again r' ∧ r'.deviceType = r.deviceType ∧
              r'.timeoutCounter = r.timeoutCounter - 1 ∧
              r'.spend (misses chunk) = r.spend (misses chunk + 1) := by
            cases r with
            | plain t n =>
                change misses chunk + 1 < n at hmisses
                refine ⟨.plain t (n - 1), if_neg (by omega), rfl, rfl, ?_⟩
                simp only [Reader.spend]
                congr 1
                omega
            | expecting t e n first =>
                change misses chunk + 1 < n at hmisses
                refine ⟨.expecting t e (n - 1) first, if_neg (by omega), rfl, rfl, ?_⟩
                simp only [Reader.spend]
                congr 1
                omega
          obtain ⟨r', honce, htype, hcounter, hspend⟩ := hagain
          have h := ih r' (by rw [htype]; exact hother) (by omega)
          rw [List.cons_append, read, honce, misses, ← hspend]
          exact h
      | byte s b =>
          have hs : s ≠ r.deviceType := hother (s, b) (List.mem_cons_self ..)
          have hagain : r.onByte .normal s b = (.again r, [(s, b)]) := by
            rcases onByte_cases r s b with h | h | h | h | h
            · exact absurd h.1 hs
            · exact absurd h.1 hs
            · exact absurd h.1 hs
            · exact absurd h.1 hs
            · exact h.2
          have h := ih r (fun p hp => hother p (List.mem_cons_of_mem _ hp)) hmisses
          rw [List.cons_append, read, hagain]
          refine ⟨h.1, h.2.1, ?_⟩
          change [(s, b)] ++ _ = _
          rw [h.2.2]
          rfl

/-- What comes in on the other stream before the bytes from the `n`-th on. -/
def passed (traffic : ℕ → List Poll) (n k : ℕ) : List TaggedByte :=
  (List.range' n k).flatMap fun i => deliveries (traffic i)

theorem passed_append (traffic : ℕ → List Poll) (n j k : ℕ) :
    passed traffic n j ++ passed traffic (n + j) k = passed traffic n (j + k) := by
  rw [passed, passed, passed, ← List.flatMap_append, List.range'_append_1]

/-- A read on the line against the same read of what the device has said. -/
structure Heeds (n : ℕ) (bs : List UInt8) (res : ReadResult) (h : Heard) : Prop where
  returned : res.returned = h.returned
  rest : ∃ k, k + h.left.length = bs.length ∧ res.rest = carried t traffic (n + k) h.left ∧
    onStream t.other res.dispatched = onStream t.other (passed traffic n k)
  strays : onStream t res.dispatched = h.strays

variable {t traffic}

theorem onStream_of_other {bytes : List TaggedByte} (h : ∀ p ∈ bytes, p.1 ≠ t) :
    onStream t bytes = [] := by
  rw [onStream, List.filter_eq_nil_iff.mpr (fun p hp => by simpa using h p hp)]
  rfl

/-- A byte of the device after its traffic. -/
theorem read_carried_cons (h : Harmless t traffic) {r : Reader} (hr : r.deviceType = t) {n : ℕ}
    (hn : misses (traffic n) < r.timeoutCounter) (b : UInt8) (bs : List UInt8) :
    let turn := read .normal (r.spend (misses (traffic n))) (.byte t b :: carried t traffic (n + 1) bs)
    let res := read .normal r (carried t traffic n (b :: bs))
    res.returned = turn.returned ∧ res.rest = turn.rest ∧
      onStream t res.dispatched = onStream t turn.dispatched ∧
      onStream t.other res.dispatched =
        onStream t.other (passed traffic n 1) ++ onStream t.other turn.dispatched := by
  intro turn res
  obtain ⟨hret, hrest, hdispatched⟩ := read_through (traffic n)
    (.byte t b :: carried t traffic (n + 1) bs) r (by rw [hr]; exact h.other n) hn
  refine ⟨hret, hrest, ?_, ?_⟩
  · change onStream t (read .normal r (traffic n ++ _)).dispatched = _
    rw [hdispatched, onStream_append, onStream_of_other (h.other n), List.nil_append]
  · change onStream t.other (read .normal r (traffic n ++ _)).dispatched = _
    rw [hdispatched, onStream_append, passed, List.range'_one, List.flatMap_singleton]

theorem heeds_plain (h : Harmless t traffic) (n : ℕ) (bs : List UInt8) :
    Heeds t traffic n bs (read .normal (.plain t timeoutBudget) (carried t traffic n bs))
      (hear (.plain t timeoutBudget) bs) := by
  cases bs with
  | nil => exact ⟨rfl, ⟨0, rfl, rfl, rfl⟩, rfl⟩
  | cons b bs =>
      have hn := h.prompt n
      obtain ⟨hret, hrest, hown, hother⟩ := read_carried_cons h
        (r := .plain t timeoutBudget) rfl (n := n)
        (show misses (traffic n) < timeoutBudget by omega) b bs
      have hturn : read .normal ((Reader.plain t timeoutBudget).spend (misses (traffic n)))
          (.byte t b :: carried t traffic (n + 1) bs) =
            ⟨some b, [(t, b)], [], carried t traffic (n + 1) bs⟩ := by
        simp [Reader.spend, read, Reader.onByte, Settings.normal]
      rw [hturn] at hret hrest hown hother
      exact ⟨hret, ⟨1, Nat.add_comm _ _, hrest, by rw [hother]; exact List.append_nil _⟩, hown⟩

/-- The second byte, with the first put aside. -/
theorem heeds_second (h : Harmless t traffic) (e f : UInt8) (n c : ℕ) (bs : List UInt8)
    (hc : misses (traffic n) < c) :
    Heeds t traffic n bs (read .normal (.expecting t e c (some f)) (carried t traffic n bs))
      (hear (.expecting t e c (some f)) bs) := by
  cases bs with
  | nil => exact ⟨rfl, ⟨0, rfl, rfl, rfl⟩, rfl⟩
  | cons b bs =>
      obtain ⟨hret, hrest, hown, hother⟩ := read_carried_cons h
        (r := .expecting t e c (some f)) rfl (n := n) hc b bs
      have hother0 (x : UInt8) : onStream t.other [(t, x)] = [] :=
        onStream_of_other fun p hp => by
          rw [List.mem_singleton.mp hp]
          exact (PS2DeviceType.other_ne t).symm
      have hown1 (x : UInt8) : onStream t [(t, x)] = [x] := onStream_cons_self t x []
      by_cases hb : b = e
      · have hturn : read .normal ((Reader.expecting t e c (some f)).spend (misses (traffic n)))
            (.byte t b :: carried t traffic (n + 1) bs) =
              ⟨some b, [(t, b)], [(t, f)], carried t traffic (n + 1) bs⟩ := by
          simp [Reader.spend, read, Reader.onByte, Settings.normal, hb]
        rw [hturn] at hret hrest hown hother
        rw [hear, if_pos hb]
        refine ⟨hret, ⟨1, Nat.add_comm _ _, hrest, ?_⟩, hown.trans (hown1 f)⟩
        rw [hother, hother0, List.append_nil]
      · have hturn : read .normal ((Reader.expecting t e c (some f)).spend (misses (traffic n)))
            (.byte t b :: carried t traffic (n + 1) bs) =
              ⟨some f, [(t, b)], [(t, b)], carried t traffic (n + 1) bs⟩ := by
          simp [Reader.spend, read, Reader.onByte, Settings.normal, hb]
        rw [hturn] at hret hrest hown hother
        rw [hear, if_neg hb]
        refine ⟨hret, ⟨1, Nat.add_comm _ _, hrest, ?_⟩, hown.trans (hown1 b)⟩
        rw [hother, hother0, List.append_nil]

/-- What is heard with an expected byte, in two steps. -/
theorem hear_expecting_cons (t : PS2DeviceType) (e : UInt8) (c c' : ℕ) (b : UInt8)
    (bs : List UInt8) :
    hear (.expecting t e c none) (b :: bs) =
      if b = e then ⟨some b, [], bs⟩ else hear (.expecting t e c' (some b)) bs := by
  cases bs with
  | nil => rw [hear, hear, ite_self]
  | cons d bs =>
      rw [hear, hear]

theorem heeds_expecting (h : Harmless t traffic) (e : UInt8) (n : ℕ) (bs : List UInt8) :
    Heeds t traffic n bs (read .normal (.expecting t e timeoutBudget none) (carried t traffic n bs))
      (hear (.expecting t e timeoutBudget none) bs) := by
  cases bs with
  | nil => exact ⟨rfl, ⟨0, rfl, rfl, rfl⟩, rfl⟩
  | cons b bs =>
      have hn := h.prompt n
      have hn' := h.prompt (n + 1)
      obtain ⟨hret, hrest, hown, hother⟩ := read_carried_cons h
        (r := .expecting t e timeoutBudget none) rfl (n := n)
        (show misses (traffic n) < timeoutBudget by omega) b bs
      by_cases hb : b = e
      · have hturn : read .normal
            ((Reader.expecting t e timeoutBudget none).spend (misses (traffic n)))
            (.byte t b :: carried t traffic (n + 1) bs) =
              ⟨some b, [(t, b)], [], carried t traffic (n + 1) bs⟩ := by
          simp [Reader.spend, read, Reader.onByte, hb]
        rw [hturn] at hret hrest hown hother
        rw [hear_expecting_cons t e timeoutBudget timeoutBudget, if_pos hb]
        exact ⟨hret, ⟨1, Nat.add_comm _ _, hrest, by rw [hother]; exact List.append_nil _⟩, hown⟩
      · let c := timeoutBudget - misses (traffic n)
        have hturn : read .normal
            ((Reader.expecting t e timeoutBudget none).spend (misses (traffic n)))
            (.byte t b :: carried t traffic (n + 1) bs) =
              { read .normal (.expecting t e c (some b)) (carried t traffic (n + 1) bs) with
                taken := (t, b) :: (read .normal (.expecting t e c (some b))
                  (carried t traffic (n + 1) bs)).taken } := by
          simp [Reader.spend, read, Reader.onByte, hb, c]
        have hsecond := heeds_second h e b (n + 1) c bs (by omega)
        obtain ⟨k, hk, hkrest, hkother⟩ := hsecond.rest
        rw [hturn] at hret hrest hown hother
        rw [hear_expecting_cons t e timeoutBudget c, if_neg hb]
        refine ⟨hret.trans hsecond.returned, ⟨1 + k, ?_, ?_, ?_⟩, hown.trans hsecond.strays⟩
        · rw [List.length_cons, ← hk]
          omega
        · rw [hrest, ← Nat.add_assoc]
          exact hkrest
        · rw [hother, ← passed_append, onStream_append]
          exact congrArg _ hkother

/-! ### The refinement -/

variable (t traffic) in
/-- The line carries the conversation: what has been said and not read is on its way, from the `n`-th
byte on. -/
structure Carries (n : ℕ) (l : Line σ) (w : Talk σ) : Prop where
  device : l.device = w.device
  last : l.last = w.last
  sent : n + w.waiting.length = l.sent
  polls : l.polls = carried t traffic n w.waiting

/-- A line with nothing on it. -/
def Line.idle (s : σ) (n : ℕ) : Line σ := ⟨s, none, n, []⟩

theorem carries_idle (s : σ) (n : ℕ) : Carries t traffic n (.idle s n) (.idle s) :=
  ⟨rfl, rfl, rfl, rfl⟩

variable (t traffic) in
/-- A run on the line against the conversation, from the `n`-th byte of the device on: the result and
the device are the same, the bytes of the device that were not wanted go to its driver, and those of
the other stream go to theirs. -/
structure Refines (n : ℕ) (r : Live σ α) (c : Conversation σ α) : Prop where
  value : r.value = c.value
  carries : ∃ k, Carries t traffic (n + k) r.line c.talk ∧
    onStream t.other r.dispatched = onStream t.other (passed traffic n k)
  strays : onStream t r.dispatched = c.strays

theorem carried_append (n : ℕ) (bs cs : List UInt8) :
    carried t traffic n (bs ++ cs) =
      carried t traffic n bs ++ carried t traffic (n + bs.length) cs := by
  induction bs generalizing n with
  | nil => rfl
  | cons b bs ih =>
      rw [List.cons_append, carried, carried, ih, List.append_assoc, List.cons_append,
        List.length_cons]
      congr 4
      omega

theorem Carries.data {n : ℕ} {l : Line σ} {w : Talk σ} (h : Carries t traffic n l w) (b : UInt8) :
    Carries t traffic n (l.data t D traffic b) (w.data t D b) := by
  rw [Line.data, Talk.data, h.last]
  split
  · refine ⟨?_, rfl, ?_, ?_⟩
    · rw [h.device]
    · rw [List.length_append, ← Nat.add_assoc, h.sent, h.device]
    · rw [carried_append, h.sent, h.polls, h.device]
  · exact ⟨h.device, rfl, h.sent, h.polls⟩

/-- The other stream makes no difference.  A program that reads one stream only gets from the
device of that stream what it would get if nothing else were on the line; no byte of the other stream
is lost or overtaken. -/
theorem live_refines (h : Harmless t traffic) (p : Prog α) (hp : p.OnStream t) {n : ℕ} {l : Line σ}
    {w : Talk σ} (hl : Carries t traffic n l w) :
    Refines t traffic n (live t D traffic p l) (converse t D p w) := by
  induction p generalizing n l w with
  | done a => exact ⟨rfl, ⟨0, hl, rfl⟩, rfl⟩
  | writeCommandPort b next ih => exact ih hp ⟨hl.device, rfl, hl.sent, hl.polls⟩
  | writeDataPort b next ih => exact ih hp (hl.data D b)
  | readDataPort r next ih =>
      have hheeds : Heeds t traffic n w.waiting (read .normal r (carried t traffic n w.waiting))
          (hear r w.waiting) := by
        rcases hp.1 with rfl | ⟨e, rfl⟩
        · exact heeds_plain h n w.waiting
        · exact heeds_expecting h e n w.waiting
      obtain ⟨k, hk, hrest, hother⟩ := hheeds.rest
      have hcarries : Carries t traffic (n + k) { l with polls := (read .normal r l.polls).rest }
          { w with waiting := (hear r w.waiting).left } := by
        refine ⟨hl.device, hl.last, ?_, ?_⟩
        · rw [Nat.add_assoc, hk]
          exact hl.sent
        · rw [hl.polls]
          exact hrest
      have hvalue : (read .normal r l.polls).value = (hear r w.waiting).returned.getD 0 := by
        rw [hl.polls, ReadResult.value, hheeds.returned]
      have hnext := ih ((hear r w.waiting).returned.getD 0) (hp.2 _) hcarries
      rw [live, converse, hvalue]
      obtain ⟨j, hj, hjother⟩ := hnext.carries
      refine ⟨hnext.value, ⟨k + j, ?_, ?_⟩, ?_⟩
      · rw [← Nat.add_assoc]
        exact hj
      · change onStream t.other (_ ++ _) = _
        rw [onStream_append, hjother, hl.polls, hother, ← onStream_append, passed_append]
      · change onStream t (_ ++ _) = _ ++ _
        rw [onStream_append, hnext.strays, hl.polls, hheeds.strays]
  | flushDataPort next ih => exact hp.elim
  | sleep ms next ih => exact ih hp hl
  | ignoreInterrupts next ih => exact ih hp hl
  | heedInterrupts next ih => exact ih hp hl

/-- Somebody types: a look that finds nothing and a key, before each byte of the mouse. -/
def typing : ℕ → List Poll := fun _ => [.miss, .byte .keyboard 0x1e]

theorem harmless_typing : Harmless .mouse typing where
  other _ := by
    change ∀ p ∈ [((.keyboard, 0x1e) : TaggedByte)], p.1 ≠ .mouse
    decide
  prompt _ := by
    change 2 * 1 < timeoutBudget
    decide

/-- A run that begins and ends with nothing under way: its result, the device afterwards, and each byte
of the other stream handed to its driver. -/
theorem live_idle (h : Harmless t traffic) {p : Prog α} (hp : p.OnStream t) {s s' : σ} {v : α}
    {strays : List UInt8} (hc : converse t D p (.idle s) = ⟨v, .idle s', strays⟩) (n : ℕ) :
    let r := live t D traffic p (.idle s n)
    r.value = v ∧ r.line = .idle s' r.line.sent ∧ n ≤ r.line.sent ∧
      onStream t r.dispatched = strays ∧
      onStream t.other r.dispatched = onStream t.other (passed traffic n (r.line.sent - n)) := by
  intro r
  have hrefines := live_refines D h p hp (carries_idle s n)
  rw [hc] at hrefines
  obtain ⟨k, hk, hother⟩ := hrefines.carries
  have hsent : n + k = r.line.sent := hk.sent
  refine ⟨hrefines.value, ?_, by omega, hrefines.strays, ?_⟩
  · have hdevice := hk.device
    have hlast := hk.last
    have hpolls := hk.polls
    change r.line.device = s' at hdevice
    change r.line.last = none at hlast
    change r.line.polls = [] at hpolls
    cases hr : r.line with
    | mk device last sent polls =>
        rw [hr] at hdevice hlast hpolls
        dsimp only at hdevice hlast hpolls ⊢
        rw [hdevice, hlast, hpolls]
        rfl
  · rw [← hsent, Nat.add_sub_cancel_left]
    exact hother

end

end VoodooPS2.Controller
