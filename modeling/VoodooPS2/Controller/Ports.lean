import VoodooPS2.Device

/-! # Polling the data port (`ApplePS2Controller::readDataPort`)

Both forms of `readDataPort` look at the status port until a byte is ready or the timeout
counter, shared by the whole call, has run out.  A byte of the other stream is handed to that
stream's driver and the loop goes on.  The plain form returns the first byte of the stream it
was asked for.  The form with an expected byte gives the device a second chance: a first byte
that does not match is held, and the next byte of the stream decides which of the two is
returned and which is handed to the driver.

A `Reader` is the state of such a loop between two looks at the status port; `onMiss` and
`onByte` are its body.  `read` runs it over a finite list of polls, after which the port stays
silent.  `read_conserves` says that no byte is lost or duplicated, `read_expecting` which byte
is returned. -/

namespace VoodooPS2.Controller

/-- A byte with the stream it arrived on. -/
abbrev TaggedByte := PS2DeviceType × UInt8

/-- What one look at the status port finds. -/
inductive Poll where
  | miss
  | byte (stream : PS2DeviceType) (data : UInt8)
deriving DecidableEq, Repr

/-- The settings of the controller that the loops read. -/
structure Settings where
  suppressTimeout : Bool
  ignoreOutOfOrder : ℕ

/-- The settings while drivers run. -/
def Settings.normal : Settings := ⟨false, 0⟩

/-- `timeoutCounter`: 10000 looks, 70 ms. -/
def timeoutBudget : ℕ := 10000

/-- A call of `readDataPort` between two looks at the status port. -/
inductive Reader where
  | plain (deviceType : PS2DeviceType) (timeoutCounter : ℕ)
  | expecting (deviceType : PS2DeviceType) (expectedByte : UInt8) (timeoutCounter : ℕ)
      (firstByte : Option UInt8)
deriving DecidableEq, Repr

/-- What a turn of the loop leads to; `finish none` is the fake value after a timeout. -/
inductive Turn where
  | again (r : Reader)
  | finish (returned : Option UInt8)
deriving DecidableEq, Repr

namespace Reader

def deviceType : Reader → PS2DeviceType
  | plain t _ => t
  | expecting t _ _ _ => t

def timeoutCounter : Reader → ℕ
  | plain _ n => n
  | expecting _ _ n _ => n

/-- The byte put aside, if any. -/
def held : Reader → Option UInt8
  | plain _ _ => none
  | expecting _ _ _ first => first

/-- `--timeoutCounter`, and the timeout exit. -/
def onMiss : Reader → Turn
  | plain t n => if n - 1 = 0 then .finish none else .again (plain t (n - 1))
  | expecting t e n first =>
      if n - 1 = 0 then .finish first else .again (expecting t e (n - 1) first)

/-- A byte is read: the next turn and what is passed to `dispatchDriverInterrupt`.  In startup
mode, without interrupts, the plain form returns any byte. -/
def onByte (cfg : Settings) (stream : PS2DeviceType) (readByte : UInt8) :
    Reader → Turn × List TaggedByte
  | plain t n =>
      if cfg.suppressTimeout then (.finish (some readByte), [])
      else if stream = t then (.finish (some readByte), [])
      else (.again (plain t n), [(t.other, readByte)])
  | expecting t e n first =>
      if stream = t then
        if readByte = e then
          match first with
          | none => (.finish (some readByte), [])
          | some firstByte =>
              (.finish (some readByte), if cfg.ignoreOutOfOrder = 0 then [(t, firstByte)] else [])
        else
          match first with
          | none => (.again (expecting t e n (some readByte)), [])
          | some firstByte =>
              (.finish (some firstByte), if cfg.ignoreOutOfOrder = 0 then [(t, readByte)] else [])
      else
        (.again (expecting t e n first),
          if cfg.ignoreOutOfOrder = 0 then [(t.other, readByte)] else [])

end Reader

/-- A finished call: the byte returned if there was one, the bytes taken from the data port,
those handed to the drivers, in order, and the polls that are left. -/
structure ReadResult where
  returned : Option UInt8
  taken : List TaggedByte
  dispatched : List TaggedByte
  rest : List Poll

/-- What the caller sees: a timeout reads as zero. -/
def ReadResult.value (r : ReadResult) : UInt8 := r.returned.getD 0

/-- The loop over a list of polls.  When they run out the port is silent, and the loop leaves
by the timeout exit. -/
def read (cfg : Settings) : Reader → List Poll → ReadResult
  | r, [] => ⟨r.held, [], [], []⟩
  | r, .miss :: polls =>
      match r.onMiss with
      | .again r' => read cfg r' polls
      | .finish v => ⟨v, [], [], polls⟩
  | r, .byte stream data :: polls =>
      match r.onByte cfg stream data with
      | (.again r', ds) =>
          let res := read cfg r' polls
          { res with taken := (stream, data) :: res.taken, dispatched := ds ++ res.dispatched }
      | (.finish v, ds) => ⟨v, [(stream, data)], ds, polls⟩

/-- `readDataPort(deviceType)`. -/
def readDataPort (cfg : Settings) (deviceType : PS2DeviceType) (polls : List Poll) : ReadResult :=
  read cfg (.plain deviceType timeoutBudget) polls

/-- `readDataPort(deviceType, expectedByte)`. -/
def readDataPortExpecting (cfg : Settings) (deviceType : PS2DeviceType) (expectedByte : UInt8)
    (polls : List Poll) : ReadResult :=
  read cfg (.expecting deviceType expectedByte timeoutBudget none) polls

/-! ### What the polls deliver -/

/-- The bytes in a list of polls. -/
def deliveries : List Poll → List TaggedByte
  | [] => []
  | .miss :: polls => deliveries polls
  | .byte stream data :: polls => (stream, data) :: deliveries polls

/-- The bytes ready before `n` looks at the status port have found nothing. -/
def window : ℕ → List Poll → List TaggedByte
  | 0, _ => []
  | _, [] => []
  | n + 1, .miss :: polls => window n polls
  | n + 1, .byte stream data :: polls => (stream, data) :: window (n + 1) polls

@[simp] theorem window_zero (polls : List Poll) : window 0 polls = [] := by
  cases polls <;> rfl

/-- The bytes of one stream. -/
def onStream (stream : PS2DeviceType) (bytes : List TaggedByte) : List UInt8 :=
  (bytes.filter (fun p => p.1 = stream)).map Prod.snd

@[simp] theorem onStream_nil (t : PS2DeviceType) : onStream t [] = [] := rfl

theorem onStream_cons_self (t : PS2DeviceType) (b : UInt8) (bytes : List TaggedByte) :
    onStream t ((t, b) :: bytes) = b :: onStream t bytes := by
  simp [onStream]

theorem onStream_cons_ne {s t : PS2DeviceType} (h : s ≠ t) (b : UInt8) (bytes : List TaggedByte) :
    onStream t ((s, b) :: bytes) = onStream t bytes := by
  simp [onStream, h]

theorem onStream_append (t : PS2DeviceType) (xs ys : List TaggedByte) :
    onStream t (xs ++ ys) = onStream t xs ++ onStream t ys := by
  simp [onStream]

/-! ### No byte is lost or duplicated -/

/-- A call accounts for the bytes it takes: the polls it used delivered them, each is the value
returned or is dispatched once under its own stream, and each stream keeps its order.  `before`
is what the call held when it began. -/
structure Conserves (t : PS2DeviceType) (before : List TaggedByte) (polls : List Poll)
    (res : ReadResult) : Prop where
  delivered : ∃ used, polls = used ++ res.rest ∧ res.taken = deliveries used
  once : (before ++ res.taken).Perm (res.dispatched ++ (res.returned.map (fun b => (t, b))).toList)
  in_order : ∀ s, (onStream s res.dispatched).Sublist (onStream s (before ++ res.taken))

/-- The held byte as a list. -/
def Reader.before (r : Reader) : List TaggedByte := (r.held.map (fun b => (r.deviceType, b))).toList

/-- What one turn of the loop does with a byte, when nothing is suppressed: it finishes with
one of the two bytes of its stream and dispatches the other, or holds the byte, or passes on a
byte of the other stream. -/
theorem onByte_cases (r : Reader) (s : PS2DeviceType) (b : UInt8) :
    (s = r.deviceType ∧ r.held = none ∧ r.onByte .normal s b = (.finish (some b), [])) ∨
    (s = r.deviceType ∧ r.held = none ∧ ∃ r', r'.deviceType = r.deviceType ∧ r'.held = some b ∧
      r.onByte .normal s b = (.again r', [])) ∨
    (s = r.deviceType ∧ ∃ f, r.held = some f ∧
      r.onByte .normal s b = (.finish (some b), [(s, f)])) ∨
    (s = r.deviceType ∧ ∃ f, r.held = some f ∧
      r.onByte .normal s b = (.finish (some f), [(s, b)])) ∨
    (s ≠ r.deviceType ∧ r.onByte .normal s b = (.again r, [(s, b)])) := by
  by_cases hs : s = r.deviceType
  · cases r with
    | plain t n =>
        left
        simp only [Reader.deviceType] at hs
        simp [hs, Reader.deviceType, Reader.held, Reader.onByte, Settings.normal]
    | expecting t e n first =>
        simp only [Reader.deviceType] at hs
        subst hs
        by_cases hb : b = e
        · cases first with
          | none => left; simp [hb, Reader.deviceType, Reader.held, Reader.onByte]
          | some f =>
              right; right; left
              exact ⟨rfl, f, rfl, by simp [hb, Reader.onByte, Settings.normal]⟩
        · cases first with
          | none =>
              right; left
              exact ⟨rfl, rfl, .expecting s e n (some b), rfl, rfl, by simp [hb, Reader.onByte]⟩
          | some f =>
              right; right; right; left
              exact ⟨rfl, f, rfl, by simp [hb, Reader.onByte, Settings.normal]⟩
  · right; right; right; right
    refine ⟨hs, ?_⟩
    have hother : r.deviceType.other = s := (PS2DeviceType.eq_other_of_ne hs).symm
    cases r with
    | plain t n =>
        simp only [Reader.deviceType] at hs hother
        simp [hs, hother, Reader.onByte, Settings.normal]
    | expecting t e n first =>
        simp only [Reader.deviceType] at hs hother
        simp [hs, hother, Reader.onByte, Settings.normal]

/-- A miss finishes with the held byte or changes nothing but the counter. -/
theorem onMiss_cases (r : Reader) :
    r.onMiss = .finish r.held ∨
      ∃ r', r'.deviceType = r.deviceType ∧ r'.held = r.held ∧ r.onMiss = .again r' := by
  cases r with
  | plain t n =>
      by_cases hn : n - 1 = 0
      · left; simp [Reader.onMiss, hn, Reader.held]
      · right; exact ⟨.plain t (n - 1), rfl, rfl, by simp [Reader.onMiss, hn]⟩
  | expecting t e n first =>
      by_cases hn : n - 1 = 0
      · left; simp [Reader.onMiss, hn, Reader.held]
      · right; exact ⟨.expecting t e (n - 1) first, rfl, rfl, by simp [Reader.onMiss, hn]⟩

theorem before_congr {r r' : Reader} (ht : r'.deviceType = r.deviceType) (hh : r'.held = r.held) :
    r'.before = r.before := by
  unfold Reader.before
  rw [ht, hh]

/-- The held byte is of the requested stream. -/
theorem onStream_before_of_ne {r : Reader} {s : PS2DeviceType} (hs : s ≠ r.deviceType) :
    onStream s r.before = [] := by
  unfold Reader.before
  cases r.held with
  | none => rfl
  | some f => exact onStream_cons_ne (fun h => hs h.symm) f []

/-- The call that is left accounts for the held byte and the bytes still to be taken. -/
theorem read_conserves (polls : List Poll) (r : Reader) :
    Conserves r.deviceType r.before polls (read .normal r polls) := by
  induction polls generalizing r with
  | nil =>
      refine ⟨⟨[], rfl, rfl⟩, ?_, ?_⟩
      · simp [read, Reader.before]
      · intro s
        simp [read]
  | cons poll polls ih =>
      cases poll with
      | miss =>
          rw [read]
          rcases onMiss_cases r with h | ⟨r', ht, hh, h⟩
          · rw [h]
            refine ⟨⟨[.miss], rfl, rfl⟩, ?_, ?_⟩
            · simp [Reader.before]
            · intro s
              simp
          · rw [h]
            have h' := ih r'
            rw [ht, before_congr ht hh] at h'
            obtain ⟨used, hu, hd⟩ := h'.delivered
            exact ⟨⟨.miss :: used, congrArg (Poll.miss :: ·) hu, hd⟩, h'.once, h'.in_order⟩
      | byte s b =>
          rw [read]
          rcases onByte_cases r s b with ⟨hs, hh, h⟩ | ⟨hs, hh, r', ht, hh', h⟩ |
            ⟨hs, f, hh, h⟩ | ⟨hs, f, hh, h⟩ | ⟨hs, h⟩
          · rw [h]
            refine ⟨⟨[.byte s b], rfl, rfl⟩, ?_, ?_⟩
            · simp [Reader.before, hh, hs]
            · intro u
              simp
          · rw [h]
            have h' := ih r'
            have hb : r'.before = r.before ++ [(s, b)] := by
              simp [Reader.before, hh, hh', ht, hs]
            rw [ht, hb] at h'
            obtain ⟨used, hu, hd⟩ := h'.delivered
            refine ⟨⟨.byte s b :: used, congrArg (Poll.byte s b :: ·) hu,
              congrArg ((s, b) :: ·) hd⟩, ?_, fun u => ?_⟩
            · simpa using h'.once
            · simpa using h'.in_order u
          · rw [h]
            refine ⟨⟨[.byte s b], rfl, rfl⟩, ?_, ?_⟩
            · simp [Reader.before, hh, hs]
            · intro u
              simp only [Reader.before, hh, Option.map_some, Option.toList_some, ← hs]
              exact List.Sublist.map _ (List.Sublist.filter _ (List.sublist_append_left _ _))
          · rw [h]
            refine ⟨⟨[.byte s b], rfl, rfl⟩, ?_, ?_⟩
            · simp only [Reader.before, hh, Option.map_some, Option.toList_some, ← hs]
              exact List.Perm.swap _ _ _
            · intro u
              exact List.Sublist.map _ (List.Sublist.filter _ (List.sublist_append_right _ _))
          · rw [h]
            have h' := ih r
            obtain ⟨used, hu, hd⟩ := h'.delivered
            refine ⟨⟨.byte s b :: used, congrArg (Poll.byte s b :: ·) hu,
              congrArg ((s, b) :: ·) hd⟩, ?_, fun u => ?_⟩
            · exact List.perm_middle.trans (h'.once.cons _)
            · have hle := h'.in_order u
              show (onStream u ((s, b) :: _)).Sublist (onStream u (r.before ++ (s, b) :: _))
              rw [onStream_append] at hle ⊢
              by_cases hu' : s = u
              · subst hu'
                rw [onStream_before_of_ne hs, List.nil_append] at hle ⊢
                rw [onStream_cons_self, onStream_cons_self]
                exact hle.cons_cons b
              · rw [onStream_cons_ne hu', onStream_cons_ne hu']
                exact hle

/-! ### Which byte is returned -/

/-- The plain form returns the first byte of its stream in the window. -/
theorem read_plain (t : PS2DeviceType) (polls : List Poll) (n : ℕ) :
    (read .normal (.plain t (n + 1)) polls).returned =
      (onStream t (window (n + 1) polls)).head? := by
  induction polls generalizing n with
  | nil => rfl
  | cons poll polls ih =>
      cases poll with
      | miss =>
          cases n with
          | zero => simp [read, Reader.onMiss, window]
          | succ n => exact ih n
      | byte s b =>
          by_cases hs : s = t
          · subst hs
            rw [read, window, onStream_cons_self]
            simp [Reader.onByte, Settings.normal]
          · rw [read, window, onStream_cons_ne hs, ← ih n]
            simp [Reader.onByte, Settings.normal, hs]

/-- With a byte held, the next byte of the stream decides. -/
theorem read_expecting_held (t : PS2DeviceType) (e f : UInt8) (polls : List Poll) (n : ℕ) :
    (read .normal (.expecting t e (n + 1) (some f)) polls).returned =
      if e ∈ (onStream t (window (n + 1) polls)).take 1 then some e else some f := by
  induction polls generalizing n with
  | nil => rfl
  | cons poll polls ih =>
      cases poll with
      | miss =>
          cases n with
          | zero => simp [read, Reader.onMiss, window]
          | succ n => exact ih n
      | byte s b =>
          by_cases hs : s = t
          · subst hs
            rw [read, window, onStream_cons_self]
            by_cases hb : b = e
            · simp [Reader.onByte, hb]
            · have hb' : ¬ e = b := fun h => hb h.symm
              simp [Reader.onByte, Settings.normal, hb, hb']
          · rw [read, window, onStream_cons_ne hs, ← ih n]
            simp [Reader.onByte, hs]

/-- The second form returns the expected byte if it is one of the first two of its stream in
the window, and the first of them otherwise. -/
theorem read_expecting (t : PS2DeviceType) (e : UInt8) (polls : List Poll) (n : ℕ) :
    (read .normal (.expecting t e (n + 1) none) polls).returned =
      if e ∈ (onStream t (window (n + 1) polls)).take 2 then some e
      else (onStream t (window (n + 1) polls)).head? := by
  induction polls generalizing n with
  | nil => rfl
  | cons poll polls ih =>
      cases poll with
      | miss =>
          cases n with
          | zero => simp [read, Reader.onMiss, window]
          | succ n => exact ih n
      | byte s b =>
          by_cases hs : s = t
          · subst hs
            rw [window, onStream_cons_self]
            by_cases hb : b = e
            · rw [read]
              simp [Reader.onByte, hb]
            · have hstep : (read .normal (.expecting s e (n + 1) none) (.byte s b :: polls)).returned =
                  (read .normal (.expecting s e (n + 1) (some b)) polls).returned := by
                rw [read]
                simp [Reader.onByte, hb]
              have hb' : ¬ e = b := fun h => hb h.symm
              rw [hstep, read_expecting_held]
              simp [hb']
          · rw [read, window, onStream_cons_ne hs, ← ih n]
            simp [Reader.onByte, hs]

/-- The expected byte itself is never handed to the driver. -/
theorem expecting_not_dispatched (t : PS2DeviceType) (e : UInt8) (polls : List Poll) (n : ℕ)
    (first : Option UInt8) (hf : first ≠ some e) :
    (t, e) ∉ (read .normal (.expecting t e n first) polls).dispatched := by
  induction polls generalizing n first with
  | nil => simp [read]
  | cons poll polls ih =>
      cases poll with
      | miss =>
          by_cases hn : n - 1 = 0
          · simp [read, Reader.onMiss, hn]
          · simpa [read, Reader.onMiss, hn] using ih (n - 1) first hf
      | byte s b =>
          by_cases hs : s = t
          · subst hs
            by_cases hb : b = e
            · cases first with
              | none => simp [read, Reader.onByte, hb]
              | some f =>
                  have hfe : ¬ e = f := fun h => hf (by rw [h])
                  simp [read, Reader.onByte, Settings.normal, hb, hfe]
            · have hbe : ¬ e = b := fun h => hb h.symm
              cases first with
              | none =>
                  have := ih n (some b) (by simpa using hb)
                  simpa [read, Reader.onByte, hb] using this
              | some f => simp [read, Reader.onByte, Settings.normal, hb, hbe]
          · have hne : ¬ t = t.other := fun h => PS2DeviceType.other_ne t h.symm
            simpa [read, Reader.onByte, Settings.normal, hs, hne] using ih n first hf

/-- The expected byte is taken from the port exactly when it is returned. -/
theorem took_expected_iff (t : PS2DeviceType) (e : UInt8) (polls : List Poll) :
    (t, e) ∈ (readDataPortExpecting .normal t e polls).taken ↔
      (readDataPortExpecting .normal t e polls).returned = some e := by
  have honce := (read_conserves polls (.expecting t e timeoutBudget none)).once
  have hnot := expecting_not_dispatched t e polls timeoutBudget none (by simp)
  have hmem := honce.mem_iff (a := (t, e))
  simp only [Reader.before, Reader.held, Option.map_none, Option.toList_none, List.nil_append,
    List.mem_append, hnot, false_or, Option.mem_toList, Reader.deviceType] at hmem
  rw [readDataPortExpecting, hmem]
  simp

/-- What the caller compares: equality with the expected byte means that it was taken, or that
zero was expected and the stream was silent. -/
theorem value_eq_expected_iff (t : PS2DeviceType) (e : UInt8) (polls : List Poll) :
    (readDataPortExpecting .normal t e polls).value = e ↔
      (t, e) ∈ (readDataPortExpecting .normal t e polls).taken ∨
        (e = 0 ∧ onStream t (window timeoutBudget polls) = []) := by
  have hret : (readDataPortExpecting .normal t e polls).returned = _ :=
    read_expecting t e polls 9999
  rw [took_expected_iff]
  unfold ReadResult.value
  constructor
  · intro h
    cases hr : (readDataPortExpecting .normal t e polls).returned with
    | some b =>
        rw [hr, Option.getD_some] at h
        left
        rw [h]
    | none =>
        right
        rw [hr] at h hret
        refine ⟨h.symm, ?_⟩
        split_ifs at hret
        exact List.head?_eq_none_iff.mp hret.symm
  · rintro (h | ⟨h0, hnil⟩)
    · rw [h, Option.getD_some]
    · have hnil' : onStream t (window (9999 + 1) polls) = [] := hnil
      rw [hret, hnil', h0]
      rfl

/-- On a silent stream the expected byte is not taken. -/
theorem not_took_of_silent {t : PS2DeviceType} {e : UInt8} {polls : List Poll}
    (h : onStream t (window timeoutBudget polls) = []) :
    (t, e) ∉ (readDataPortExpecting .normal t e polls).taken := by
  have hret : (readDataPortExpecting .normal t e polls).returned = _ :=
    read_expecting t e polls 9999
  have h' : onStream t (window (9999 + 1) polls) = [] := h
  rw [took_expected_iff, hret, h']
  simp

/-- **Polling conserves bytes.**  For every list of polls both forms account for each byte they
take, and the form with an expected byte returns it exactly when one of the first two bytes of
its stream within the budget is that byte. -/
theorem readDataPort_conserves_bytes (cfg : Settings) (hs : cfg.suppressTimeout = false)
    (ho : cfg.ignoreOutOfOrder = 0) (deviceType : PS2DeviceType) (polls : List Poll) :
    Conserves deviceType [] polls (readDataPort cfg deviceType polls) ∧
      ∀ e, Conserves deviceType [] polls (readDataPortExpecting cfg deviceType e polls) ∧
        (e ≠ 0 →
          ((readDataPortExpecting cfg deviceType e polls).value = e ↔
            e ∈ (onStream deviceType (window timeoutBudget polls)).take 2) ∧
          (e ∉ (onStream deviceType (window timeoutBudget polls)).take 2 →
            (readDataPortExpecting cfg deviceType e polls).value =
              (onStream deviceType (window timeoutBudget polls)).headD 0)) := by
  obtain rfl : cfg = .normal := by
    cases cfg
    simp_all [Settings.normal]
  refine ⟨read_conserves polls (.plain deviceType timeoutBudget), fun e =>
    ⟨read_conserves polls (.expecting deviceType e timeoutBudget none), fun he => ?_⟩⟩
  have hret := read_expecting deviceType e polls 9999
  unfold readDataPortExpecting ReadResult.value timeoutBudget
  rw [hret]
  by_cases hmem : e ∈ (onStream deviceType (window 10000 polls)).take 2
  · rw [if_pos hmem]
    exact ⟨⟨fun _ => hmem, fun _ => rfl⟩, fun h => absurd hmem h⟩
  · rw [if_neg hmem, ← List.headD_eq_head?_getD]
    refine ⟨⟨fun h => ?_, fun h => absurd h hmem⟩, fun _ => rfl⟩
    exfalso
    cases hbytes : onStream deviceType (window 10000 polls) with
    | nil =>
        rw [hbytes] at h
        exact he h.symm
    | cons b bs =>
        rw [hbytes] at h hmem
        exact hmem (by rw [← h]; simp)

/-- A key byte, a mouse byte and an acknowledge: the key byte is held, the mouse byte passed
on, and the key byte dispatched when the acknowledge arrives. -/
theorem readDataPort_conserves_ack :
    Conserves .keyboard [] [.byte .keyboard 0x21, .byte .mouse 0x08, .miss, .byte .keyboard 0xfa]
        (readDataPortExpecting .normal .keyboard kSCAcknowledge
          [.byte .keyboard 0x21, .byte .mouse 0x08, .miss, .byte .keyboard 0xfa]) ∧
      (readDataPortExpecting .normal .keyboard kSCAcknowledge
        [.byte .keyboard 0x21, .byte .mouse 0x08, .miss, .byte .keyboard 0xfa]).value =
          kSCAcknowledge := by
  have h := (readDataPort_conserves_bytes .normal rfl rfl .keyboard
    [.byte .keyboard 0x21, .byte .mouse 0x08, .miss, .byte .keyboard 0xfa]).2 kSCAcknowledge
  exact ⟨h.1, (h.2 (by decide)).1.mpr (by decide)⟩

end VoodooPS2.Controller
