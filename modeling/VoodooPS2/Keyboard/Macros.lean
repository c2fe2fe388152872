import VoodooPS2.Keyboard.Decoder

/-! # Macro inversion (`ApplePS2Keyboard::invertMacros`)

Some keys of some keyboards send a whole sequence of keys.  A macro describes such a sequence and
the key it stands for.  Packets that may be the beginning of a sequence are held in
`_macroBuffer`; when the sequence is complete, and the modifiers are as the macro wants them, one
packet with the macro's output takes its place; when it is broken off, by another key or by time,
the packets held are dispatched as they came.

`State` is the driver with the packets offered to it and the packets it dispatched.  `kept_run`: in
every run the packets offered are those dispatched, with the packets a macro absorbed in the place of
its output, followed by the packets held; what a macro absorbed is the sequence of the macro; and
every write to `_macroBuffer` is inside its allocation. -/

namespace VoodooPS2.Keyboard.Macros

/-! ### Macros as they are loaded -/

def kIgnoreBytes : ℕ := 2
def kOutputBytes : ℕ := 2
def kModifierBytes : ℕ := 4
def kOutputBytesOffset : ℕ := kIgnoreBytes
def kModifierBytesOffset : ℕ := kIgnoreBytes + kOutputBytes
def kPrefixBytes : ℕ := kIgnoreBytes + kOutputBytes + kModifierBytes
def kSequenceBytesOffset : ℕ := kPrefixBytes
def kMinMacroInversion : ℕ := kPrefixBytes + 2
def kPacketKeyDataLength : ℕ := 2

/-- The test `loadMacroData` makes of an entry. -/
def IsMacro (data : List UInt8) : Prop :=
  kMinMacroInversion ≤ data.length ∧ data.length % 2 = 0 ∧ data.getD 0 0 = 0xFF ∧
    data.getD 1 0 = 0xFF

instance (data : List UInt8) : Decidable (IsMacro data) := inferInstanceAs (Decidable (_ ∧ _))

/-- An entry that passed the test. -/
structure Macro where
  data : List UInt8
  isMacro : IsMacro data

/-- `loadMacroData`: the valid entries of the array; `none` is an entry that is no data. -/
def loadMacroData (entries : List (Option (List UInt8))) : List Macro :=
  entries.filterMap (fun entry =>
    entry.bind (fun data => if h : IsMacro data then some ⟨data, h⟩ else none))

namespace Macro

/-- The bytes of the sequence. -/
def sequence (m : Macro) : List UInt8 := m.data.drop kSequenceBytesOffset

/-- `getLength() - kPrefixBytes`. -/
def length (m : Macro) : ℕ := m.data.length - kPrefixBytes

def byte (m : Macro) (i : ℕ) : UInt8 := m.data.getD i 0

/-- A big-endian word of the modifier bytes. -/
def word (m : Macro) (i : ℕ) : UInt16 :=
  ((m.byte (kModifierBytesOffset + i)).toUInt16 <<< 8) +
    (m.byte (kModifierBytesOffset + i + 1)).toUInt16

def mask (m : Macro) : UInt16 := m.word 0

def compare (m : Macro) : UInt16 := m.word 2

/-- The modifiers are as the macro wants them. -/
def modifiersMatch (m : Macro) (modifiers : UInt16) : Prop :=
  (0xFFFF = m.compare ∧ modifiers &&& m.mask ≠ 0) ∨ modifiers &&& m.mask = m.compare

instance (m : Macro) (modifiers : UInt16) : Decidable (m.modifiersMatch modifiers) :=
  inferInstanceAs (Decidable (_ ∨ _))

/-- Bytes taken two by two. -/
def pairs : List UInt8 → List (UInt8 × UInt8)
  | a :: b :: rest => (a, b) :: pairs rest
  | _ => []

/-- The keys of the sequence. -/
def keys (m : Macro) : List (UInt8 × UInt8) := pairs m.sequence

theorem length_eq (m : Macro) : m.sequence.length = m.length := List.length_drop

theorem two_le_length (m : Macro) : 2 ≤ m.length := by
  have := m.isMacro.1
  unfold length
  unfold kMinMacroInversion at this
  omega

theorem length_even (m : Macro) : m.length % 2 = 0 := by
  have h1 := m.isMacro.1
  have h2 := m.isMacro.2.1
  unfold length
  unfold kMinMacroInversion at h1
  have : kPrefixBytes = 8 := rfl
  omega

end Macro

/-- `_macroMax`, as `probe` computes it; `_macroBuffer` has that many packets of room. -/
def macroMax (macros : List Macro) : ℕ :=
  macros.foldl (fun max m => if m.length > max then m.length else max) 0

/-- The bytes allocated for `_macroBuffer`. -/
def bufferBytes (macros : List Macro) : ℕ := macroMax macros * kPacketLength

/-! ### The driver -/

/-- A packet: its two key bytes and its timestamp. -/
structure MacroPacket where
  key : UInt8 × UInt8
  time : UInt64
deriving DecidableEq, Repr

/-- A packet passed to `dispatchKeyboardEventWithPacket`: as it was offered, or made by a macro
from the packets it absorbed. -/
inductive Entry where
  | plain (p : MacroPacket)
  | inverted (m : Macro) (absorbed : List MacroPacket) (out : MacroPacket)

namespace Entry

/-- The packet passed on. -/
def packet : Entry → MacroPacket
  | plain p => p
  | inverted _ _ out => out

/-- The packets offered that it stands for. -/
def source : Entry → List MacroPacket
  | plain p => [p]
  | inverted _ absorbed _ => absorbed

/-- The keys of the packet, or those of the macro that produced it. -/
def expand : Entry → List (UInt8 × UInt8)
  | plain p => [p.key]
  | inverted m _ _ => m.keys

end Entry

structure Settings where
  macroInversion : List Macro
  /-- `_macroTimer` was allocated -/
  macroTimer : Bool
  macroMaxTime : UInt64

/-- The driver.  `writes` remembers the writes to `_macroBuffer`, each with its offset and size in
bytes; the buffer itself is kept packet by packet. -/
structure State (σ : Type) where
  keyboard : σ
  macroBuffer : ℕ → MacroPacket
  macroCurrent : ℕ
  timerArmed : Bool
  ring : List MacroPacket
  offered : List MacroPacket
  log : List Entry
  writes : List (ℕ × ℕ)

/-- What the comparison with the macros finds. -/
inductive Match where
  /-- the packets are the sequence of the macro -/
  | complete (m : Macro)
  /-- they are the beginning of a sequence -/
  | begun
  | nothing

/-- `compareMacro`. -/
def compareMacro : List MacroPacket → List UInt8 → Bool
  | [], _ => true
  | p :: ps, a :: b :: data => p.key.1 == a && p.key.2 == b && compareMacro ps data
  | _ :: _, _ => false

/-- The loop over the macros. -/
def search (buffered : List MacroPacket) (modifiers : UInt16) : List Macro → Match
  | [] => .nothing
  | m :: ms =>
      let total := buffered.length * kPacketKeyDataLength
      if total ≤ m.length ∧ compareMacro buffered m.sequence = true then
        if total = m.length then
          if m.modifiersMatch modifiers then .complete m else search buffered modifiers ms
        else .begun
      else search buffered modifiers ms

section

variable {σ : Type} (dispatch : σ → MacroPacket → σ) (modifierState : σ → UInt16) (o : Settings)

namespace State

/-- The packets held in `_macroBuffer`. -/
def held (s : State σ) : List MacroPacket := (List.range s.macroCurrent).map s.macroBuffer

/-- `dispatchKeyboardEventWithPacket`. -/
def dispatchKeyboardEventWithPacket (s : State σ) (e : Entry) : State σ :=
  { s with keyboard := dispatch s.keyboard e.packet, log := s.log ++ [e] }

def dispatchInvertBuffer (s : State σ) : State σ :=
  { s.held.foldl (fun s p => s.dispatchKeyboardEventWithPacket dispatch (.plain p)) s with
    macroCurrent := 0
    timerArmed := false }

/-- `now_ns - prev > _macroMaxTime`, with the time of the last packet held. -/
def expired (s : State σ) (now : UInt64) : Prop :=
  0 < s.macroCurrent ∧ now - (s.macroBuffer (s.macroCurrent - 1)).time > o.macroMaxTime

instance (s : State σ) (now : UInt64) : Decidable (s.expired o now) :=
  inferInstanceAs (Decidable (_ ∧ _))

/-- A packet copied behind the packets held. -/
def store (s : State σ) (p : MacroPacket) : State σ :=
  { s with
    macroBuffer := Function.update s.macroBuffer s.macroCurrent p
    writes := s.writes ++ [(s.macroCurrent * kPacketLength, kPacketLength)] }

/-- An exact match: the first packet gets the output bytes of the macro and is dispatched. -/
def invert (s : State σ) (m : Macro) (absorbed : List MacroPacket) : State σ :=
  let out : MacroPacket :=
    ⟨(m.byte kOutputBytesOffset, m.byte (kOutputBytesOffset + 1)), (s.macroBuffer 0).time⟩
  let s := { s with
    macroBuffer := Function.update s.macroBuffer 0 out
    writes := s.writes ++ [(0, 1), (1, 1)] }
  { s.dispatchKeyboardEventWithPacket dispatch (.inverted m absorbed out) with
    macroCurrent := 0
    timerArmed := false }

/-- `invertMacros`: whether the packet was taken care of. -/
def invertMacros (s : State σ) (p : MacroPacket) : State σ × Bool :=
  if o.macroTimer = false then (s, false)
  else
    let s := if s.expired o p.time then s.dispatchInvertBuffer dispatch else s
    let s := s.store p
    let buffered := (List.range (s.macroCurrent + 1)).map s.macroBuffer
    match search buffered (modifierState s.keyboard) o.macroInversion with
    | .complete m => (s.invert dispatch m buffered, true)
    | .begun => ({ s with macroCurrent := s.macroCurrent + 1, timerArmed := true }, true)
    | .nothing => (if 0 < s.macroCurrent then s.dispatchInvertBuffer dispatch else s, false)

/-- A packet is offered: it is inverted, or dispatched as it is. -/
def offer (s : State σ) (p : MacroPacket) : State σ :=
  let s := { s with offered := s.offered ++ [p] }
  if o.macroInversion.isEmpty then s.dispatchKeyboardEventWithPacket dispatch (.plain p)
  else
    match s.invertMacros dispatch modifierState o p with
    | (s, true) => s
    | (s, false) => s.dispatchKeyboardEventWithPacket dispatch (.plain p)

/-- `packetReady`: the packets of the ring in their order, less the reset packets. -/
def packetReady (s : State σ) : State σ :=
  s.ring.foldl (fun s p => if p.key.1 ≠ 0 then s.offer dispatch modifierState o p else s)
    { s with ring := [] }

/-- `kIOACPIMessageDeviceNotification`, with the two readings of the clock. -/
def notification (s : State σ) (arg : UInt32) (time₁ time₂ : UInt64) : State σ :=
  if arg &&& 0xFFFF0000 = 0 then
    let b₀ : UInt8 := (arg >>> 8).toUInt8
    let b₁ : UInt8 := arg.toUInt8
    if b₀ = 1 ∨ b₀ = 2 then s.offer dispatch modifierState o ⟨(b₀, b₁), time₁⟩
    else if b₀ = 3 ∨ b₀ = 4 then
      (s.offer dispatch modifierState o ⟨(b₀ - 2, b₁), time₁⟩).offer dispatch modifierState o
        ⟨(b₀ - 2, b₁ ||| 0x80), time₂⟩
    else s
  else s

/-- `onMacroTimer`: packets may have been placed in the input queue already. -/
def onMacroTimer (s : State σ) (now : UInt64) : State σ :=
  let s := s.packetReady dispatch modifierState o
  if s.expired o now then s.dispatchInvertBuffer dispatch else s

end State

end

/-! ### The comparison -/

theorem Macro.pairs_length : ∀ bytes : List UInt8, (pairs bytes).length = bytes.length / 2
  | [] => rfl
  | [_] => by simp [pairs]
  | _ :: _ :: bytes => by
      rw [pairs, List.length_cons, pairs_length bytes, List.length_cons, List.length_cons]
      omega

theorem Macro.keys_length (m : Macro) : m.keys.length * 2 = m.length := by
  have heven := m.length_even
  rw [keys, pairs_length, m.length_eq]
  omega

/-- The comparison looks for a prefix. -/
theorem compareMacro_iff (ps : List MacroPacket) (data : List UInt8) :
    compareMacro ps data = true ↔ ps.map MacroPacket.key <+: Macro.pairs data := by
  induction ps generalizing data with
  | nil => exact iff_of_true rfl List.nil_prefix
  | cons p ps ih =>
      match data with
      | [] => exact iff_of_false Bool.false_ne_true (fun h => nomatch List.prefix_nil.mp h)
      | [_] => exact iff_of_false Bool.false_ne_true (fun h => nomatch List.prefix_nil.mp h)
      | a :: b :: data =>
          rw [compareMacro, Bool.and_eq_true, Bool.and_eq_true, beq_iff_eq, beq_iff_eq, ih data,
            List.map_cons, Macro.pairs, List.cons_prefix_cons, Prod.ext_iff]

/-- One macro of the loop, in terms of its keys. -/
theorem search_cons (buffered : List MacroPacket) (modifiers : UInt16) (m : Macro)
    (ms : List Macro) :
    search buffered modifiers (m :: ms) =
      if buffered.map MacroPacket.key <+: m.keys then
        if buffered.length = m.keys.length then
          if m.modifiersMatch modifiers then .complete m else search buffered modifiers ms
        else .begun
      else search buffered modifiers ms := by
  have hlen := m.keys_length
  have htwo : kPacketKeyDataLength = 2 := rfl
  have hcond : (buffered.length * kPacketKeyDataLength ≤ m.length ∧
      compareMacro buffered m.sequence = true) ↔ buffered.map MacroPacket.key <+: m.keys := by
    rw [compareMacro_iff]
    refine ⟨And.right, fun h => ⟨?_, h⟩⟩
    have hle := h.length_le
    rw [List.length_map] at hle
    change buffered.length ≤ m.keys.length at hle
    rw [htwo]
    omega
  have htotal : buffered.length * kPacketKeyDataLength = m.length ↔
      buffered.length = m.keys.length := by
    rw [htwo]
    omega
  simp only [search, hcond, htotal]

/-- What the loop finds. -/
theorem search_complete {buffered : List MacroPacket} {modifiers : UInt16} {macros : List Macro}
    {m : Macro} (h : search buffered modifiers macros = .complete m) :
    m ∈ macros ∧ buffered.map MacroPacket.key = m.keys := by
  induction macros with
  | nil => cases h
  | cons c macros ih =>
      rw [search_cons] at h
      split_ifs at h with hpre hlen hmod
      · cases h
        exact ⟨List.mem_cons_self, hpre.eq_of_length (by rw [List.length_map, hlen])⟩
      · exact (ih h).imp_left (List.mem_cons_of_mem _)
      · exact (ih h).imp_left (List.mem_cons_of_mem _)

/-- What is held on is the beginning of a macro. -/
theorem search_begins {buffered : List MacroPacket} {modifiers : UInt16} {macros : List Macro}
    (h : search buffered modifiers macros = .begun) :
    ∃ m ∈ macros, buffered.map MacroPacket.key <+: m.keys ∧
      buffered.length < m.keys.length := by
  induction macros with
  | nil => cases h
  | cons c macros ih =>
      rw [search_cons] at h
      split_ifs at h with hpre hlen hmod
      · obtain ⟨m, hm, hrest⟩ := ih h
        exact ⟨m, List.mem_cons_of_mem c hm, hrest⟩
      · have hle := hpre.length_le
        rw [List.length_map] at hle
        exact ⟨c, List.mem_cons_self, hpre, Nat.lt_of_le_of_ne hle hlen⟩
      · obtain ⟨m, hm, hrest⟩ := ih h
        exact ⟨m, List.mem_cons_of_mem c hm, hrest⟩

theorem le_foldl_max (macros : List Macro) (k : ℕ) :
    k ≤ macros.foldl (fun max m => if m.length > max then m.length else max) k ∧
      ∀ m ∈ macros,
        m.length ≤ macros.foldl (fun max m => if m.length > max then m.length else max) k := by
  induction macros generalizing k with
  | nil => exact ⟨le_rfl, fun m hm => absurd hm List.not_mem_nil⟩
  | cons c macros ih =>
      rw [List.foldl_cons]
      obtain ⟨h1, h2⟩ := ih (if c.length > k then c.length else k)
      have hk : k ≤ if c.length > k then c.length else k := by split <;> omega
      have hc : c.length ≤ if c.length > k then c.length else k := by split <;> omega
      exact ⟨hk.trans h1, List.forall_mem_cons.mpr ⟨hc.trans h1, h2⟩⟩

theorem length_le_macroMax {macros : List Macro} {m : Macro} (h : m ∈ macros) :
    m.length ≤ macroMax macros := (le_foldl_max macros 0).2 m h

/-! ### Every packet is accounted for -/

/-- What a macro absorbed is its sequence, and it gave its output. -/
def Entry.WellFormed (macros : List Macro) : Entry → Prop
  | .plain _ => True
  | .inverted m absorbed out =>
      m ∈ macros ∧ absorbed.map MacroPacket.key = m.keys ∧
        out.key = (m.byte kOutputBytesOffset, m.byte (kOutputBytesOffset + 1))

namespace State

variable {σ : Type} {dispatch : σ → MacroPacket → σ} {modifierState : σ → UInt16} {o : Settings}

/-- The packets offered are those dispatched, those held, and those still in hand; a packet is
held only as the beginning of a macro.  The keyboard is as the packets dispatched have made it. -/
structure Kept (dispatch : σ → MacroPacket → σ) (k₀ : σ) (o : Settings)
    (inHand : List MacroPacket) (s : State σ) : Prop where
  dispatched : s.keyboard = (s.log.map Entry.packet).foldl dispatch k₀
  accounted : s.offered = s.log.flatMap Entry.source ++ s.held ++ inHand
  entries : ∀ e ∈ s.log, e.WellFormed o.macroInversion
  current : s.macroCurrent = 0 ∨
    o.macroTimer = true ∧ (s.macroCurrent + 1) * 2 ≤ macroMax o.macroInversion
  writes : ∀ w ∈ s.writes, w.1 + w.2 ≤ bufferBytes o.macroInversion

theorem foldl_dispatch (ps : List MacroPacket) (s : State σ) :
    ps.foldl (fun s p => s.dispatchKeyboardEventWithPacket dispatch (.plain p)) s =
      { s with
        keyboard := ps.foldl dispatch s.keyboard
        log := s.log ++ ps.map .plain } := by
  induction ps generalizing s with
  | nil => simp
  | cons p ps ih =>
      rw [List.foldl_cons, ih]
      simp [dispatchKeyboardEventWithPacket, Entry.packet]

variable {k₀ : σ} {s : State σ} {inHand : List MacroPacket} {p : MacroPacket}

/-- The packets held are dispatched as they came. -/
theorem Kept.dispatchInvertBuffer (h : s.Kept dispatch k₀ o inHand) :
    (s.dispatchInvertBuffer dispatch).Kept dispatch k₀ o inHand := by
  rw [State.dispatchInvertBuffer, foldl_dispatch]
  refine ⟨?_, ?_, ?_, .inl rfl, h.writes⟩
  · rw [List.map_append, List.foldl_append, ← h.dispatched, List.map_map]
    simp [Function.comp_def, Entry.packet]
  · simp only [held, List.range_zero, List.map_nil, List.append_nil, List.flatMap_append]
    rw [h.accounted, List.flatMap_map]
    simp [Entry.source, held]
  · intro e he
    rcases List.mem_append.mp he with he | he
    · exact h.entries e he
    · obtain ⟨p, -, rfl⟩ := List.mem_map.mp he
      trivial

/-- The packet in hand is dispatched, with none held before it. -/
theorem Kept.dispatchPlain (h : s.Kept dispatch k₀ o [p]) (h0 : s.macroCurrent = 0) :
    (s.dispatchKeyboardEventWithPacket dispatch (.plain p)).Kept dispatch k₀ o [] := by
  refine ⟨?_, ?_, ?_, .inl h0, h.writes⟩
  · rw [State.dispatchKeyboardEventWithPacket, List.map_append, List.foldl_append, ← h.dispatched]
    rfl
  · have hheld : s.held = [] := by
      rw [held, h0]
      rfl
    rw [State.dispatchKeyboardEventWithPacket, List.flatMap_append]
    simp only [held, h0, List.range_zero, List.map_nil, List.append_nil]
    rw [h.accounted, hheld, List.append_nil]
    rfl
  · intro e he
    rcases List.mem_append.mp he with he | he
    · exact h.entries e he
    · obtain rfl := List.mem_singleton.mp he
      trivial

/-- The packets held and the packet stored behind them. -/
theorem store_buffered (s : State σ) (p : MacroPacket) :
    (List.range ((s.store p).macroCurrent + 1)).map (s.store p).macroBuffer = s.held ++ [p] := by
  rw [List.range_succ, List.map_append, held]
  congr 1
  · refine List.map_congr_left (fun i hi => ?_)
    exact Function.update_of_ne (Nat.ne_of_lt (List.mem_range.mp hi)) _ _
  · simp [store]

/-- Storing a packet behind those held leaves them alone and stays inside the buffer. -/
theorem Kept.store (h : s.Kept dispatch k₀ o inHand) (hne : o.macroInversion ≠ []) (p : MacroPacket) :
    (s.store p).Kept dispatch k₀ o inHand ∧ (s.store p).held = s.held := by
  have hheld : (s.store p).held = s.held := by
    refine List.map_congr_left (fun i hi => ?_)
    exact Function.update_of_ne (Nat.ne_of_lt (List.mem_range.mp hi)) _ _
  refine ⟨⟨h.dispatched, ?_, h.entries, h.current, ?_⟩, hheld⟩
  · rw [hheld]
    exact h.accounted
  · intro w hw
    rcases List.mem_append.mp hw with hw | hw
    · exact h.writes w hw
    · obtain rfl := List.mem_singleton.mp hw
      have hroom : s.macroCurrent + 1 ≤ macroMax o.macroInversion := by
        rcases h.current with h0 | ⟨-, hc⟩
        · obtain ⟨m, ms, hm⟩ := List.exists_cons_of_ne_nil hne
          have hmem : m ∈ o.macroInversion := by
            rw [hm]
            exact List.mem_cons_self
          have := length_le_macroMax hmem
          have := m.two_le_length
          omega
        · omega
      calc s.macroCurrent * kPacketLength + kPacketLength
          = (s.macroCurrent + 1) * kPacketLength := by ring
        _ ≤ bufferBytes o.macroInversion := Nat.mul_le_mul_right _ hroom

/-- A macro absorbs the packets held and the packet in hand. -/
theorem Kept.invert (h : s.Kept dispatch k₀ o [p]) {m : Macro} (hm : m ∈ o.macroInversion)
    (hkeys : (s.held ++ [p]).map MacroPacket.key = m.keys) :
    (s.invert dispatch m (s.held ++ [p])).Kept dispatch k₀ o [] := by
  refine ⟨?_, ?_, ?_, .inl rfl, ?_⟩
  · rw [State.invert, State.dispatchKeyboardEventWithPacket, List.map_append, List.foldl_append,
      ← h.dispatched]
    rfl
  · rw [State.invert, State.dispatchKeyboardEventWithPacket]
    simp only [held, List.range_zero, List.map_nil, List.append_nil, List.flatMap_append]
    rw [h.accounted, List.append_assoc]
    simp [Entry.source, held]
  · intro e he
    rcases List.mem_append.mp he with he | he
    · exact h.entries e he
    · obtain rfl := List.mem_singleton.mp he
      exact ⟨hm, hkeys, rfl⟩
  · intro w hw
    have hroom : 2 ≤ bufferBytes o.macroInversion := by
      have h1 := length_le_macroMax hm
      have h2 := m.two_le_length
      have h3 : kPacketLength = 16 := rfl
      rw [bufferBytes, h3]
      omega
    rcases List.mem_append.mp hw with hw | hw
    · exact h.writes w hw
    · rcases List.mem_cons.mp hw with rfl | hw
      · exact Nat.le_of_succ_le hroom
      · obtain rfl := List.mem_singleton.mp hw
        exact hroom

/-- The packet in hand is held as well. -/
theorem Kept.hold (h : s.Kept dispatch k₀ o [p]) (ht : o.macroTimer = true)
    (hp : s.macroBuffer s.macroCurrent = p) {m : Macro} (hm : m ∈ o.macroInversion)
    (hlt : (s.macroCurrent + 1) * 2 < m.length) :
    State.Kept dispatch k₀ o [] { s with macroCurrent := s.macroCurrent + 1, timerArmed := true } := by
  refine ⟨h.dispatched, ?_, h.entries, .inr ⟨ht, ?_⟩, h.writes⟩
  · simp only [held, List.range_succ, List.map_append, List.map_cons, List.map_nil, hp,
      List.append_nil]
    rw [h.accounted, held, List.append_assoc]
  · have h1 := length_le_macroMax hm
    have h2 := m.length_even
    simp only
    omega

variable (modifierState) in
/-- What `invertMacros` does with the packet in hand: it is dispatched with a macro, held, or left
in hand with none held before it. -/
theorem Kept.invertMacros (h : s.Kept dispatch k₀ o [p]) (hne : o.macroInversion ≠ []) :
    ((s.invertMacros dispatch modifierState o p).2 = true ∧
        (s.invertMacros dispatch modifierState o p).1.Kept dispatch k₀ o []) ∨
      ((s.invertMacros dispatch modifierState o p).2 = false ∧
        (s.invertMacros dispatch modifierState o p).1.Kept dispatch k₀ o [p] ∧
        (s.invertMacros dispatch modifierState o p).1.macroCurrent = 0) := by
  rw [State.invertMacros]
  by_cases ht : o.macroTimer = false
  · rw [if_pos ht]
    refine .inr ⟨rfl, h, ?_⟩
    rcases h.current with h0 | ⟨ht', -⟩
    · exact h0
    · exact absurd (ht.symm.trans ht') Bool.false_ne_true
  · rw [if_neg ht]
    have ht' : o.macroTimer = true := Bool.eq_true_of_not_eq_false ht
    have h1 : (if s.expired o p.time then s.dispatchInvertBuffer dispatch else s).Kept dispatch k₀ o [p] := by
      split
      · exact h.dispatchInvertBuffer
      · exact h
    generalize (if s.expired o p.time then s.dispatchInvertBuffer dispatch else s) = s₁ at h1 ⊢
    obtain ⟨h2, hheld⟩ := h1.store hne p
    have hbuf := store_buffered s₁ p
    simp only [hbuf]
    cases hs : search (s₁.held ++ [p]) (modifierState (s₁.store p).keyboard) o.macroInversion with
    | complete m =>
        obtain ⟨hm, hkeys⟩ := search_complete hs
        rw [← hheld] at hkeys ⊢
        exact .inl ⟨rfl, h2.invert hm hkeys⟩
    | begun =>
        obtain ⟨m, hm, -, hlt⟩ := search_begins hs
        have hkeys := m.keys_length
        rw [List.length_append, List.length_singleton, held, List.length_map,
          List.length_range] at hlt
        have hroom : (s₁.macroCurrent + 1) * 2 < m.length := by omega
        exact .inl ⟨rfl, h2.hold ht' (Function.update_self _ _ _) hm hroom⟩
    | nothing =>
        refine .inr ⟨rfl, ?_⟩
        simp only
        split
        · exact ⟨h2.dispatchInvertBuffer, rfl⟩
        · rename_i h0
          exact ⟨h2, Nat.eq_zero_of_not_pos h0⟩

/-- A packet is offered. -/
theorem Kept.offer (h : s.Kept dispatch k₀ o []) (p : MacroPacket) :
    (s.offer dispatch modifierState o p).Kept dispatch k₀ o [] := by
  have h1 : State.Kept dispatch k₀ o [p] { s with offered := s.offered ++ [p] } := by
    refine ⟨h.dispatched, ?_, h.entries, h.current, h.writes⟩
    simp only [h.accounted, List.append_nil]
    rfl
  rw [State.offer]
  by_cases hne : o.macroInversion = []
  · rw [hne, List.isEmpty_nil, if_pos rfl]
    refine h1.dispatchPlain ?_
    rcases h.current with h0 | ⟨-, hc⟩
    · exact h0
    · rw [hne] at hc
      exact absurd hc (by simp [macroMax])
  · rw [if_neg (fun he => hne (List.isEmpty_iff.mp he))]
    rcases h1.invertMacros modifierState hne with
      ⟨hb, hk⟩ | ⟨hb, hk, h0⟩
    · rcases hr : State.invertMacros dispatch modifierState o
        { s with offered := s.offered ++ [p] } p with ⟨s', b⟩
      rw [hr] at hb hk
      cases hb
      exact hk
    · rcases hr : State.invertMacros dispatch modifierState o
        { s with offered := s.offered ++ [p] } p with ⟨s', b⟩
      rw [hr] at hb hk h0
      cases hb
      exact hk.dispatchPlain h0

theorem Kept.packetReady (h : s.Kept dispatch k₀ o []) : (s.packetReady dispatch modifierState o).Kept dispatch k₀ o [] := by
  rw [State.packetReady]
  have h1 : State.Kept dispatch k₀ o [] { s with ring := [] } := ⟨h.dispatched, h.accounted, h.entries, h.current, h.writes⟩
  generalize { s with ring := [] } = s₁ at h1
  generalize s.ring = ps
  induction ps generalizing s₁ with
  | nil => exact h1
  | cons p ps ih =>
      rw [List.foldl_cons]
      refine ih _ ?_
      split
      · exact h1.offer p
      · exact h1

theorem Kept.notification (h : s.Kept dispatch k₀ o []) (arg : UInt32) (time₁ time₂ : UInt64) :
    (s.notification dispatch modifierState o arg time₁ time₂).Kept dispatch k₀ o [] := by
  rw [State.notification]
  split
  · simp only
    split_ifs
    · exact h.offer _
    · exact (h.offer _).offer _
    · exact h
  · exact h

theorem Kept.onMacroTimer (h : s.Kept dispatch k₀ o []) (now : UInt64) :
    (s.onMacroTimer dispatch modifierState o now).Kept dispatch k₀ o [] := by
  rw [State.onMacroTimer]
  split
  · exact h.packetReady.dispatchInvertBuffer
  · exact h.packetReady

end State

/-! ### Runs -/

inductive Action where
  /-- the interrupt routine buffers a packet -/
  | arrive (p : MacroPacket)
  | packetReady
  | notification (arg : UInt32) (time₁ time₂ : UInt64)
  | timer (now : UInt64)
deriving DecidableEq, Repr

section

variable {σ : Type} (dispatch : σ → MacroPacket → σ) (modifierState : σ → UInt16) (o : Settings)

def step (s : State σ) : Action → State σ
  | .arrive p => { s with ring := s.ring ++ [p] }
  | .packetReady => s.packetReady dispatch modifierState o
  | .notification arg time₁ time₂ => s.notification dispatch modifierState o arg time₁ time₂
  | .timer now => s.onMacroTimer dispatch modifierState o now

/-- The driver after `init`, with any contents of the buffer. -/
def initial (keyboard : σ) (macroBuffer : ℕ → MacroPacket) : State σ :=
  ⟨keyboard, macroBuffer, 0, false, [], [], [], []⟩

def run (s : State σ) (actions : List Action) : State σ :=
  actions.foldl (step dispatch modifierState o) s

theorem kept_run (actions : List Action) {k₀ : σ} {s : State σ} (h : s.Kept dispatch k₀ o []) :
    (run dispatch modifierState o s actions).Kept dispatch k₀ o [] := by
  induction actions generalizing s with
  | nil => exact h
  | cons a actions ih =>
      refine ih ?_
      cases a with
      | arrive p => exact ⟨h.dispatched, h.accounted, h.entries, h.current, h.writes⟩
      | packetReady => exact h.packetReady
      | notification arg time₁ time₂ => exact h.notification arg time₁ time₂
      | timer now => exact h.onMacroTimer now

theorem kept_initial (keyboard : σ) (macroBuffer : ℕ → MacroPacket) :
    (initial keyboard macroBuffer).Kept dispatch keyboard o [] where
  dispatched := rfl
  accounted := rfl
  entries _ he := absurd he List.not_mem_nil
  current := .inl rfl
  writes _ hw := absurd hw List.not_mem_nil

/-- A macro's output expands to the keys of the packets it absorbed. -/
theorem expand_eq {macros : List Macro} {e : Entry} (h : e.WellFormed macros) :
    e.expand = e.source.map MacroPacket.key := by
  cases e with
  | plain p => rfl
  | inverted m absorbed out => exact h.2.1.symm

end

end VoodooPS2.Keyboard.Macros
