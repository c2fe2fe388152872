import VoodooPS2.PacketRing
import VoodooPS2.Keyboard.ADBMap
import VoodooPS2.Keyboard.KeyBitVector

/-! # Keyboard scan-code decoding (`ApplePS2Keyboard::interruptOccurred`)

The keyboard's interrupt routine reads Set-1 bytes.  A prefix `E0` marks the next byte as
extended, a prefix `E1` drops the next byte and marks the one after it (the Pause key), `FA`
and `FE` are taken for answers to commands and dropped, and `AA 00` is taken for a reset.
Every other byte is a key event; a make of a key that is already down is a repeat and is
dropped, unless the key is flagged breakless.

`scan` is the routine without the ring: the prefix state, the bit vector and the packet the
byte gives rise to.  `interruptOccurred` stores that packet with its timestamp and commits it.
`buffered_run` takes the ring out of the picture; `scanAll_serialise` then follows one key event
through the scanner, and `buffered_events_iff` is the law of the decoder: the packets buffered
are the events sent, less the repeated makes, if and only if no break of the plain key `7E`
is among them.  The break byte of that key is `FE`. -/

namespace VoodooPS2.Keyboard

open RingBuffer PacketRing

def kPacketLength : ℕ := 16
def kPacketTimeOffset : ℕ := 8

/-- set in `_PS2flags` for a key that sends no break code -/
def kBreaklessKey : UInt16 := 0x01

/-- `_PS2flags[keyCode] & kBreaklessKey`. -/
def isBreakless (flags : ℕ → UInt16) (keyCode : ℕ) : Bool := flags keyCode &&& kBreaklessKey != 0

/-- What the routine remembers between bytes. -/
structure Scanner where
  extendCount : ℕ
  lastdata : UInt8
  keyBitVector : KeyBitVector

/-- `(extended << 8) | (data & ~kSC_UpBit)`. -/
def keyCodeRaw (extended : ℕ) (data : UInt8) : ℕ :=
  extended <<< 8 ||| (data &&& ~~~kSCUpBit).toNat

/-- The end of the routine: a normal scan code updates the bit vector and is buffered.  Byte 0 of
a packet is zero for the special packet, so one is added to `extended`. -/
def packetize (flags : ℕ → UInt16) (s : Scanner) (extended : ℕ) (data : UInt8) :
    Scanner × Option (UInt8 × UInt8) :=
  let code := keyCodeRaw extended data
  let packet := (UInt8.ofNat (extended + 1), data)
  if isBreakless flags code then (s, some packet)
  else if data &&& kSCUpBit = 0 then
    if s.keyBitVector.isKeyDown code then (s, none)
    else ({ s with keyBitVector := s.keyBitVector.keyDown code }, some packet)
  else ({ s with keyBitVector := s.keyBitVector.keyUp code }, some packet)

/-- The routine without the ring: the next state and bytes 0 and 1 of the packet buffered.  The
special case for $AA $00, spontaneous reset, leaves `_lastdata` as it is. -/
def scan (flags : ℕ → UInt16) (s : Scanner) (data : UInt8) : Scanner × Option (UInt8 × UInt8) :=
  if kSCReset = s.lastdata ∧ 0x00 = data then
    ({ s with extendCount := 0 }, some (0x00, kSCReset))
  else if kSCAcknowledge = data then ({ s with lastdata := data }, none)
  else if kSCResend = data then ({ s with lastdata := data }, none)
  else if data = kSCExtend then ({ s with lastdata := data, extendCount := 1 }, none)
  else if data = kSCPause then ({ s with lastdata := data, extendCount := 2 }, none)
  else if s.extendCount = 0 ∨ s.extendCount - 1 = 0 then
    packetize flags { s with lastdata := data, extendCount := s.extendCount - 1 } s.extendCount data
  else ({ s with lastdata := data, extendCount := s.extendCount - 1 }, none)

/-- The decoding state of the driver.  `uptime n` is the `n`-th reading of the uptime clock. -/
structure Decoder where
  ring : PacketRing kPacketLength
  scanner : Scanner
  flags : ℕ → UInt16
  uptime : ℕ → UInt64
  readings : ℕ

/-- The eight bytes `clock_get_uptime` stores. -/
def timeBytes (time : UInt64) : List UInt8 :=
  (List.range 8).map (fun i => UInt8.ofBitVec (time.toBitVec.extractLsb' (8 * i) 8))

/-- `packet[0] = b₀; packet[1] = b₁`, the timestamp, and `advanceHead(kPacketLength)`. -/
def bufferPacket (R : PacketRing kPacketLength) (packet : UInt8 × UInt8) (time : UInt64) :
    PacketRing kPacketLength :=
  (((R.store 0 packet.1).store 1 packet.2).storeBytes kPacketTimeOffset (timeBytes time)).commit

def interruptOccurred (d : Decoder) (data : UInt8) : Decoder × PS2InterruptResult :=
  match scan d.flags d.scanner data with
  | (s, none) => ({ d with scanner := s }, .packetBuffering)
  | (s, some packet) =>
      ({ d with
          scanner := s
          ring := bufferPacket d.ring packet (d.uptime d.readings)
          readings := d.readings + 1 }, .packetReady)

/-- One event of the driver: a byte, or a round of `packetReady`. -/
def step (d : Decoder) : DriverEvent → Decoder
  | .interrupt data => (interruptOccurred d data).1
  | .round => { d with ring := d.ring.packetReadyRound }

def run (d : Decoder) (es : List DriverEvent) : Decoder := es.foldl step d

/-- No byte arrives while the ring is full. -/
def NeverFull (d : Decoder) (es : List DriverEvent) : Prop :=
  PacketRing.NeverFull Decoder.ring step d es

instance (d : Decoder) (es : List DriverEvent) : Decidable (NeverFull d es) :=
  decidableNeverFull Decoder.ring step d es

/-- The driver after `init`. -/
def initial (flags : ℕ → UInt16) (uptime : ℕ → UInt64) : Decoder :=
  ⟨⟨⟨fun _ => 0, 0, 0⟩, [], []⟩, ⟨0, 0, .zero⟩, flags, uptime, 0⟩

/-- Bytes 0 and 1 of a packet: the extended flag plus one, and the scan byte. -/
def keyBytes (packet : List UInt8) : UInt8 × UInt8 := (packet.getD 0 0, packet.getD 1 0)

/-- The key packets buffered so far, taken by `packetReady` or still waiting. -/
def Decoder.buffered (d : Decoder) : List (UInt8 × UInt8) := d.ring.normals.map keyBytes

/-! ### Scanning without the ring -/

/-- The packets a list of bytes gives rise to. -/
def scanAll (flags : ℕ → UInt16) : Scanner → List UInt8 → List (UInt8 × UInt8)
  | _, [] => []
  | s, b :: bs => (scan flags s b).2.toList ++ scanAll flags (scan flags s b).1 bs

theorem timeBytes_length (time : UInt64) : (timeBytes time).length = 8 := by
  simp [timeBytes]

theorem keyBytes_bufferPacket (R : PacketRing kPacketLength) (packet : UInt8 × UInt8)
    (time : UInt64) :
    keyBytes (headPacket kPacketLength
      (((R.store 0 packet.1).store 1 packet.2).storeBytes kPacketTimeOffset
        (timeBytes time)).ringBuffer) = packet := by
  unfold keyBytes
  rw [List.getD_eq_getElem?_getD, List.getD_eq_getElem?_getD, headPacket_getElem? _ (by decide),
    headPacket_getElem? _ (by decide), headRead_storeBytes _ _ (by decide),
    headRead_storeBytes _ _ (by decide)]
  simp [store, headRead_headWrite]

section

variable {R : PacketRing kPacketLength} (ha : Aligned kPacketLength R.ringBuffer)
  (hroom : R.ringBuffer.count < 31 * kPacketLength) (packet : UInt8 × UInt8) (time : UInt64)

include ha

theorem aligned_bufferPacket : Aligned kPacketLength (bufferPacket R packet time).ringBuffer :=
  aligned_commit (by decide) (aligned_storeBytes _ (aligned_store (aligned_store ha 0 _) 1 _) _)

include hroom

/-- Buffering a packet appends it to the key packets, or to the notices if byte 0 is zero. -/
theorem normals_bufferPacket :
    (bufferPacket R packet time).normals.map keyBytes =
        R.normals.map keyBytes ++ (if packet.1 != 0 then [packet] else []) ∧
      (bufferPacket R packet time).notices.length =
        R.notices.length + (if packet.1 != 0 then 0 else 1) := by
  have h2 := aligned_store (aligned_store ha 0 packet.1) 1 packet.2
  have h3 := aligned_storeBytes (timeBytes time) h2 kPacketTimeOffset
  have hlen : kPacketTimeOffset + (timeBytes time).length ≤ kPacketLength := by
    rw [timeBytes_length]; decide
  have hc : (((R.store 0 packet.1).store 1 packet.2).storeBytes kPacketTimeOffset
      (timeBytes time)).ringBuffer.count < 31 * kPacketLength := by
    rw [count_storeBytes]; exact hroom
  have hbytes := keyBytes_bufferPacket R packet time
  have hnormal : isNormal (headPacket kPacketLength
      (((R.store 0 packet.1).store 1 packet.2).storeBytes kPacketTimeOffset
        (timeBytes time)).ringBuffer) = (packet.1 != 0) := by
    have h0 := congrArg Prod.fst hbytes
    unfold isNormal
    rw [List.headD_eq_head?_getD, List.head?_eq_getElem?, ← List.getD_eq_getElem?_getD]
    exact congrArg (· != 0) h0
  unfold bufferPacket
  rw [normals_commit (by decide) h3 hc, notices_commit (by decide) h3 hc, hnormal,
    normals_storeBytes _ h2 hlen, notices_storeBytes _ h2 hlen,
    normals_store (aligned_store ha 0 _) (by decide), normals_store ha (by decide),
    notices_store (aligned_store ha 0 _) (by decide), notices_store ha (by decide)]
  by_cases hp : packet.1 != 0
  · simp [hp, hbytes]
  · simp [hp]

end

/-- With room in the ring, what is buffered is what the scanner finds in the bytes. -/
theorem buffered_run (es : List DriverEvent) {d : Decoder}
    (ha : Aligned kPacketLength d.ring.ringBuffer) (hn : NeverFull d es) :
    (run d es).buffered =
        d.buffered ++ (scanAll d.flags d.scanner (bytesOf es)).filter (fun p => p.1 != 0) ∧
      (run d es).ring.notices.length = d.ring.notices.length +
        ((scanAll d.flags d.scanner (bytesOf es)).filter (fun p => p.1 == 0)).length := by
  induction es generalizing d with
  | nil => simp [run, bytesOf, scanAll]
  | cons e es ih =>
      cases e with
      | round =>
          have h := ih (d := step d .round) (aligned_round (by decide) ha) hn
          have h1 : (step d .round).buffered = d.buffered := by
            unfold Decoder.buffered step
            rw [normals_round (by decide) ha]
          have h2 : (step d .round).ring.notices = d.ring.notices :=
            notices_round (by decide) ha
          rw [h1, h2] at h
          exact h
      | interrupt data =>
          obtain ⟨hroom, hn⟩ := hn
          have hrun : run d (.interrupt data :: es) = run (step d (.interrupt data)) es := rfl
          have hall : scanAll d.flags d.scanner (bytesOf (.interrupt data :: es)) =
              (scan d.flags d.scanner data).2.toList ++
                scanAll d.flags (scan d.flags d.scanner data).1 (bytesOf es) := rfl
          rw [hrun, hall]
          rcases hs : scan d.flags d.scanner data with ⟨s, _ | packet⟩
          · have hd : step d (.interrupt data) = { d with scanner := s } := by
              simp [step, interruptOccurred, hs]
            rw [hd] at hn ⊢
            exact ih (d := { d with scanner := s }) ha hn
          · have hd : step d (.interrupt data) = { d with
                scanner := s
                ring := bufferPacket d.ring packet (d.uptime d.readings)
                readings := d.readings + 1 } := by
              simp [step, interruptOccurred, hs]
            obtain ⟨hb, hno⟩ := normals_bufferPacket ha hroom packet (d.uptime d.readings)
            rw [hd] at hn ⊢
            obtain ⟨h1, h2⟩ := ih (aligned_bufferPacket ha packet (d.uptime d.readings)) hn
            rw [h1, h2]
            refine ⟨?_, ?_⟩
            · show (bufferPacket d.ring packet (d.uptime d.readings)).normals.map keyBytes ++ _ = _
              rw [hb]
              cases hp : packet.1 != 0 <;> simp [hp, Decoder.buffered]
            · show (bufferPacket d.ring packet (d.uptime d.readings)).notices.length + _ = _
              rw [hno]
              cases hp : packet.1 != 0
              · simp only [bne_eq_false_iff_eq] at hp
                simp [hp]; omega
              · simp only [bne_iff_ne] at hp
                simp [hp]

/-! ### Keys and the bytes they send -/

/-- The entry of a scan code in the tables of the driver. -/
def keyIndex (extended : Bool) (code : UInt8) : ℕ :=
  (if extended then 256 else 0) + code.toNat

/-- A key with a Set-1 code that the stock map knows. -/
structure Key where
  extended : Bool
  code : UInt8
  code_pos : 0x01 ≤ code
  code_le : code ≤ 0x7f
  mapped : stockCode (keyIndex extended code) ≠ DEADKEY
deriving DecidableEq

namespace Key

def index (k : Key) : ℕ := keyIndex k.extended k.code

/-- The Pause key, entry `e0 45` of the tables. -/
def pause : Key := ⟨true, 0x45, by decide, by decide, by decide +kernel⟩

/-- The keypad comma of a Brazilian keyboard, entry `7e` of the tables. -/
def keypadComma : Key := ⟨false, 0x7e, by decide, by decide, by decide +kernel⟩

theorem code_lt (k : Key) : k.code.toNat < 128 :=
  Nat.lt_succ_of_le (UInt8.le_iff_toNat_le.mp k.code_le)

theorem index_injective {k l : Key} (h : k.index = l.index) : k = l := by
  have hk := k.code_lt
  have hl := l.code_lt
  obtain ⟨ek, ck, _, _, _⟩ := k
  obtain ⟨el, cl, _, _, _⟩ := l
  simp only [index, keyIndex] at h hk hl
  have hc : ck = cl := UInt8.toNat_inj.mp (by cases ek <;> cases el <;> simp at h <;> omega)
  have he : ek = el := by cases ek <;> cases el <;> simp at h ⊢ <;> omega
  subst hc he
  rfl

end Key

/-- `c` or `c | 0x80`. -/
def scanByte (code : UInt8) (down : Bool) : UInt8 := if down then code else code ||| kSCUpBit

/-- A make or a break of a key, or of the Pause key with its own sequence. -/
inductive KeyEvent where
  | key (k : Key) (down : Bool)
  | pause (down : Bool)
deriving DecidableEq

namespace KeyEvent

def source : KeyEvent → Key
  | key k _ => k
  | pause _ => .pause

def isMake : KeyEvent → Bool
  | key _ down => down
  | pause down => down

/-- The bytes the keyboard sends. -/
def serialise : KeyEvent → List UInt8
  | key k down => (if k.extended then [kSCExtend] else []) ++ [scanByte k.code down]
  | pause down => [kSCPause, scanByte 0x1d down, scanByte 0x45 down]

/-- The scan byte that ends the sequence. -/
def byte (e : KeyEvent) : UInt8 := scanByte e.source.code e.isMake

/-- The packet that reports the event: extended flag plus one, and the scan byte. -/
def packet (e : KeyEvent) : UInt8 × UInt8 := (if e.source.extended then 2 else 1, e.byte)

end KeyEvent

/-- The packets that report a list of events, starting with the keys `down` pressed: every
event except the makes of a key that is down already and not breakless. -/
def expected (flags : ℕ → UInt16) : (Key → Bool) → List KeyEvent → List (UInt8 × UInt8)
  | _, [] => []
  | down, e :: events =>
      if e.isMake then
        if isBreakless flags e.source.index then e.packet :: expected flags down events
        else if down e.source then expected flags down events
        else e.packet :: expected flags (Function.update down e.source true) events
      else e.packet :: expected flags (Function.update down e.source false) events

/-! ### One event through the scanner -/

/-- What the seven low bits and the up bit of a scan byte are, for every code. -/
theorem scanByte_bits : ∀ n < 128, ∀ down : Bool,
    (scanByte (UInt8.ofNat n) down &&& kSCUpBit = 0 ↔ down = true) ∧
      (∀ x < 2, keyCodeRaw x (scanByte (UInt8.ofNat n) down) = x * 256 + n) := by
  decide +kernel

/-- A byte with no meaning of its own: not an answer, a prefix or the end of a reset. -/
def Ordinary (b : UInt8) : Prop :=
  b ≠ 0x00 ∧ b ≠ kSCAcknowledge ∧ b ≠ kSCResend ∧ b ≠ kSCExtend ∧ b ≠ kSCPause

instance (b : UInt8) : Decidable (Ordinary b) := inferInstanceAs (Decidable (_ ∧ _))

/-- Only four break codes have a meaning of their own. -/
theorem ordinary_or_mem : ∀ n < 128, ∀ down : Bool,
    n = 0 ∨ Ordinary (scanByte (UInt8.ofNat n) down) ∨
      (down = false ∧ n ∈ [0x60, 0x61, 0x7a, 0x7e]) := by
  decide +kernel

/-- Of these codes the stock map knows only the keypad comma. -/
theorem stockCode_special : ∀ n ∈ [0x60, 0x61, 0x7a, 0x7e], ∀ extended : Bool,
    stockCode (keyIndex extended (UInt8.ofNat n)) = DEADKEY ∨ (extended = false ∧ n = 0x7e) := by
  decide +kernel

/-- Only the break of the keypad comma collides with a byte of special meaning. -/
theorem ordinary_scanByte : ∀ n < 128, ∀ extended down : Bool,
    n = 0 ∨ stockCode (keyIndex extended (UInt8.ofNat n)) = DEADKEY ∨
      Ordinary (scanByte (UInt8.ofNat n) down) ∨
        (extended = false ∧ n = 0x7e ∧ down = false) := by
  intro n hn extended down
  rcases ordinary_or_mem n hn down with h0 | hord | ⟨hup, hmem⟩
  · exact .inl h0
  · exact .inr (.inr (.inl hord))
  · rcases stockCode_special n hmem extended with hdead | ⟨hext, hcode⟩
    · exact .inr (.inl hdead)
    · exact .inr (.inr (.inr ⟨hext, hcode, hup⟩))

theorem keyCodeRaw_byte (e : KeyEvent) :
    keyCodeRaw (if e.source.extended then 1 else 0) e.byte = e.source.index := by
  have h := (scanByte_bits e.source.code.toNat e.source.code_lt e.isMake).2
  rw [UInt8.ofNat_toNat] at h
  unfold KeyEvent.byte Key.index keyIndex
  cases e.source.extended
  · rw [if_neg Bool.false_ne_true, if_neg Bool.false_ne_true, h 0 (by decide), Nat.zero_mul]
  · rw [if_pos rfl, if_pos rfl, h 1 (by decide)]

theorem byte_upBit (e : KeyEvent) : e.byte &&& kSCUpBit = 0 ↔ e.isMake = true := by
  have h := (scanByte_bits e.source.code.toNat e.source.code_lt e.isMake).1
  rw [UInt8.ofNat_toNat] at h
  exact h

theorem KeyEvent.ordinary_byte {k : Key} {down : Bool} (he : key k down ≠ key .keypadComma false) :
    Ordinary (scanByte k.code down) := by
  have hpos : 1 ≤ k.code.toNat := UInt8.le_iff_toNat_le.mp k.code_pos
  have h := ordinary_scanByte k.code.toNat k.code_lt k.extended down
  rw [UInt8.ofNat_toNat] at h
  rcases h with h | h | h | ⟨hx, hn, hd⟩
  · omega
  · exact absurd h k.mapped
  · exact h
  · exfalso
    apply he
    have hcode : k.code = 0x7e := UInt8.toNat_inj.mp hn
    subst hd
    obtain ⟨x, c, _, _, _⟩ := k
    simp only at hx hcode
    subst hx hcode
    rfl

section

variable (flags : ℕ → UInt16) {s : Scanner} {b : UInt8}

theorem scan_extend (s : Scanner) :
    scan flags s kSCExtend = ({ s with lastdata := kSCExtend, extendCount := 1 }, none) := by
  simp [scan, kSCExtend, kSCReset, kSCAcknowledge, kSCResend]

theorem scan_pause (s : Scanner) :
    scan flags s kSCPause = ({ s with lastdata := kSCPause, extendCount := 2 }, none) := by
  simp [scan, kSCExtend, kSCPause, kSCReset, kSCAcknowledge, kSCResend]

/-- The byte after `E1` is dropped. -/
theorem scan_useless (hb : Ordinary b) (hx : s.extendCount = 2) :
    scan flags s b = ({ s with lastdata := b, extendCount := 1 }, none) := by
  obtain ⟨h0, hfa, hfe, he0, he1⟩ := hb
  unfold scan
  rw [if_neg (fun h => h0 h.2.symm), if_neg (fun h => hfa h.symm), if_neg (fun h => hfe h.symm),
    if_neg he0, if_neg he1, if_neg (by omega), hx]

/-- A byte that means nothing else is packetized at the end of a sequence. -/
theorem scan_key (hx : s.extendCount ≤ 1)
    (hmem : b ∉ [kSCAcknowledge, kSCResend, kSCExtend, kSCPause])
    (hreset : ¬ (kSCReset = s.lastdata ∧ 0x00 = b)) :
    scan flags s b = packetize flags ⟨0, b, s.keyBitVector⟩ s.extendCount b := by
  simp only [List.mem_cons, List.not_mem_nil, or_false, not_or] at hmem
  obtain ⟨hfa, hfe, he0, he1⟩ := hmem
  have hz : s.extendCount - 1 = 0 := by omega
  unfold scan
  rw [if_neg hreset, if_neg (Ne.symm hfa), if_neg (Ne.symm hfe), if_neg he0, if_neg he1,
    if_pos (.inr hz), hz]

/-- An ordinary byte at the end of a sequence is packetized. -/
theorem scan_ordinary (hb : Ordinary b) (hx : s.extendCount ≤ 1) :
    scan flags s b = packetize flags ⟨0, b, s.keyBitVector⟩ s.extendCount b := by
  obtain ⟨h0, hfa, hfe, he0, he1⟩ := hb
  exact scan_key flags hx (by simp [hfa, hfe, he0, he1]) (fun h => h0 h.2.symm)

theorem scanAll_cons (s : Scanner) (b : UInt8) (bs : List UInt8) :
    scanAll flags s (b :: bs) =
      (scan flags s b).2.toList ++ scanAll flags (scan flags s b).1 bs := rfl

/-- The bytes of an event come down to packetizing the last of them. -/
theorem scanAll_serialise (hs : s.extendCount = 0) {e : KeyEvent}
    (he : e ≠ .key .keypadComma false) (bs : List UInt8) :
    scanAll flags s (e.serialise ++ bs) =
      (packetize flags ⟨0, e.byte, s.keyBitVector⟩ (if e.source.extended then 1 else 0)
          e.byte).2.toList ++
        scanAll flags (packetize flags ⟨0, e.byte, s.keyBitVector⟩
          (if e.source.extended then 1 else 0) e.byte).1 bs := by
  cases e with
  | pause down =>
      have h1 : Ordinary (scanByte 0x1d down) := by cases down <;> decide
      have h2 : Ordinary (scanByte 0x45 down) := by cases down <;> decide
      show scanAll flags s (kSCPause :: scanByte 0x1d down :: scanByte 0x45 down :: bs) = _
      rw [scanAll_cons, scan_pause, scanAll_cons, scan_useless flags h1 rfl, scanAll_cons,
        scan_ordinary flags h2 (Nat.le_refl 1)]
      rfl
  | key k down =>
      have hb := KeyEvent.ordinary_byte he
      obtain ⟨extended, code, _, _, _⟩ := k
      cases extended with
      | false =>
          show scanAll flags s (scanByte code down :: bs) = _
          rw [scanAll_cons, scan_ordinary flags hb (by omega), hs]
          rfl
      | true =>
          show scanAll flags s (kSCExtend :: scanByte code down :: bs) = _
          rw [scanAll_cons, scan_extend, scanAll_cons, scan_ordinary flags hb (Nat.le_refl 1)]
          rfl

end

/-- The bit vector knows which keys are down. -/
def Agrees (flags : ℕ → UInt16) (v : KeyBitVector) (down : Key → Bool) : Prop :=
  ∀ k : Key, isBreakless flags k.index = false → v.isKeyDown k.index = down k

theorem Agrees.update_true {flags : ℕ → UInt16} {v : KeyBitVector} {down : Key → Bool}
    (h : Agrees flags v down) (k : Key) :
    Agrees flags (v.keyDown k.index) (Function.update down k true) := by
  intro l hl
  rw [KeyBitVector.isKeyDown_keyDown, Function.update_apply]
  by_cases hlk : l = k
  · simp [hlk]
  · rw [if_neg hlk, decide_eq_false (fun hi => hlk (Key.index_injective hi)), Bool.false_or, h l hl]

theorem Agrees.update_false {flags : ℕ → UInt16} {v : KeyBitVector} {down : Key → Bool}
    (h : Agrees flags v down) (k : Key) :
    Agrees flags (v.keyUp k.index) (Function.update down k false) := by
  intro l hl
  rw [KeyBitVector.isKeyDown_keyUp, Function.update_apply]
  by_cases hlk : l = k
  · simp [hlk]
  · rw [if_neg hlk, decide_eq_false (fun hi => hlk (Key.index_injective hi)), Bool.not_false,
      Bool.true_and, h l hl]

/-- A breakless key may be marked as one likes: the bit vector does not track it. -/
theorem Agrees.update_breakless {flags : ℕ → UInt16} {v : KeyBitVector} {down : Key → Bool}
    (h : Agrees flags v down) {k : Key} (hk : isBreakless flags k.index = true) (b : Bool) :
    Agrees flags v (Function.update down k b) := by
  intro l hl
  have hlk : l ≠ k := by
    rintro rfl
    rw [hk] at hl
    exact Bool.false_ne_true hl.symm
  rw [Function.update_of_ne hlk, h l hl]

/-- The scanner finds the expected packets in the bytes of a list of events. -/
theorem scanAll_events (flags : ℕ → UInt16) (events : List KeyEvent)
    (hne : KeyEvent.key .keypadComma false ∉ events) {s : Scanner} {down : Key → Bool}
    (hs : s.extendCount = 0) (hv : Agrees flags s.keyBitVector down) :
    scanAll flags s (events.flatMap KeyEvent.serialise) = expected flags down events := by
  induction events generalizing s down with
  | nil => rfl
  | cons e events ih =>
      rw [List.mem_cons, not_or] at hne
      obtain ⟨he, hne⟩ := hne
      rw [List.flatMap_cons, scanAll_serialise flags hs (fun h => he h.symm)]
      have hcode := keyCodeRaw_byte e
      have hup := byte_upBit e
      have hpacket : (UInt8.ofNat ((if e.source.extended then 1 else 0) + 1), e.byte) = e.packet := by
        unfold KeyEvent.packet
        cases e.source.extended <;> rfl
      unfold expected packetize
      dsimp only
      rw [hcode, hpacket]
      cases hb : isBreakless flags e.source.index with
      | true =>
          rw [if_pos rfl, if_pos rfl]
          cases hmk : e.isMake with
          | true =>
              rw [if_pos rfl]
              exact congrArg (e.packet :: ·) (ih hne rfl hv)
          | false =>
              rw [if_neg Bool.false_ne_true]
              exact congrArg (e.packet :: ·) (ih hne rfl (hv.update_breakless hb false))
      | false =>
          rw [if_neg Bool.false_ne_true, if_neg Bool.false_ne_true, hv e.source hb]
          cases hmk : e.isMake with
          | true =>
              rw [if_pos (hup.mpr hmk), if_pos rfl]
              cases hd : down e.source with
              | true =>
                  rw [if_pos rfl, if_pos rfl]
                  exact ih hne rfl hv
              | false =>
                  rw [if_neg Bool.false_ne_true, if_neg Bool.false_ne_true]
                  exact congrArg (e.packet :: ·) (ih hne rfl (hv.update_true e.source))
          | false =>
              have hnup : ¬ e.byte &&& kSCUpBit = 0 := by
                rw [hup, hmk]; exact Bool.false_ne_true
              rw [if_neg hnup, if_neg Bool.false_ne_true]
              exact congrArg (e.packet :: ·) (ih hne rfl (hv.update_false e.source))

/-! ### The decoder inverts the encoding -/

/-- The routine never buffers a packet for the byte `FE`. -/
theorem scan_ne_resend (flags : ℕ → UInt16) (s : Scanner) (b : UInt8) {p : UInt8 × UInt8}
    (h : (scan flags s b).2 = some p) : p.2 ≠ kSCResend := by
  unfold scan at h
  split_ifs at h with hreset hfa hfe
  · cases h; decide
  all_goals
    unfold packetize at h
    dsimp only at h
    split_ifs at h
  all_goals
    cases h
    exact fun hc => hfe hc.symm

theorem scanAll_ne_resend (flags : ℕ → UInt16) (bs : List UInt8) (s : Scanner) :
    ∀ p ∈ scanAll flags s bs, p.2 ≠ kSCResend := by
  induction bs generalizing s with
  | nil => intro p hp; exact absurd hp (by simp [scanAll])
  | cons b bs ih =>
      intro p hp
      rcases List.mem_append.mp hp with hp | hp
      · exact scan_ne_resend flags s b (Option.mem_toList.mp hp)
      · exact ih _ p hp

/-- Every break is expected. -/
theorem packet_mem_expected (flags : ℕ → UInt16) {e : KeyEvent} (hb : e.isMake = false)
    {events : List KeyEvent} (h : e ∈ events) (down : Key → Bool) :
    e.packet ∈ expected flags down events := by
  induction events generalizing down with
  | nil => exact absurd h List.not_mem_nil
  | cons f events ih =>
      unfold expected
      rcases List.mem_cons.mp h with rfl | h
      · rw [if_neg (by rw [hb]; exact Bool.false_ne_true)]
        exact List.mem_cons_self
      · split_ifs
        · exact List.mem_cons_of_mem _ (ih h _)
        · exact ih h _
        · exact List.mem_cons_of_mem _ (ih h _)
        · exact List.mem_cons_of_mem _ (ih h _)

/-- No expected packet is a notice. -/
theorem expected_ne_zero (flags : ℕ → UInt16) (events : List KeyEvent) (down : Key → Bool) :
    ∀ p ∈ expected flags down events, p.1 ≠ 0 := by
  induction events generalizing down with
  | nil => intro p hp; exact absurd hp List.not_mem_nil
  | cons e events ih =>
      have he : e.packet.1 ≠ 0 := by
        unfold KeyEvent.packet
        cases e.source.extended <;> simp
      unfold expected
      split_ifs
      · exact List.forall_mem_cons.mpr ⟨he, ih _⟩
      · exact ih _
      · exact List.forall_mem_cons.mpr ⟨he, ih _⟩
      · exact List.forall_mem_cons.mpr ⟨he, ih _⟩

theorem aligned_initial (flags : ℕ → UInt16) (uptime : ℕ → UInt64) :
    Aligned kPacketLength (initial flags uptime).ring.ringBuffer :=
  aligned_reset (P := kPacketLength) (by decide) ⟨fun _ => 0, 0, 0⟩

theorem packets_initial (flags : ℕ → UInt16) (uptime : ℕ → UInt64) :
    packets kPacketLength (initial flags uptime).ring.ringBuffer = [] :=
  packets_reset (P := kPacketLength) ⟨fun _ => 0, 0, 0⟩

theorem buffered_initial (flags : ℕ → UInt16) (uptime : ℕ → UInt64) :
    (initial flags uptime).buffered = [] := by
  unfold Decoder.buffered normals
  rw [packets_initial]
  rfl

theorem notices_initial (flags : ℕ → UInt16) (uptime : ℕ → UInt64) :
    (initial flags uptime).ring.notices = [] := by
  unfold notices
  rw [packets_initial]
  rfl

/-- **Decoding inverts the encoding exactly when the keypad comma is not released.** -/
theorem buffered_events_iff (flags : ℕ → UInt16) (uptime : ℕ → UInt64) (events : List KeyEvent)
    (es : List DriverEvent) (hbytes : bytesOf es = events.flatMap KeyEvent.serialise)
    (hn : NeverFull (initial flags uptime) es) :
    ((run (initial flags uptime) es).buffered = expected flags (fun _ => false) events ∧
        (run (initial flags uptime) es).ring.notices = []) ↔
      KeyEvent.key .keypadComma false ∉ events := by
  obtain ⟨hb, hno⟩ := buffered_run es (aligned_initial flags uptime) hn
  rw [hbytes, buffered_initial, List.nil_append] at hb
  rw [hbytes, notices_initial, List.length_nil, Nat.zero_add] at hno
  constructor
  · rintro ⟨heq, -⟩ hmem
    have hin := packet_mem_expected flags (e := .key .keypadComma false) rfl hmem (fun _ => false)
    rw [← heq, hb] at hin
    have hin' := List.mem_of_mem_filter hin
    exact scanAll_ne_resend _ _ _ _ hin' (by decide)
  · intro hne
    have hall : scanAll flags ⟨0, 0, .zero⟩ (events.flatMap KeyEvent.serialise) =
        expected flags (fun _ => false) events :=
      scanAll_events flags events hne rfl (fun k _ => KeyBitVector.isKeyDown_zero k.index)
    have hz := expected_ne_zero flags events (fun _ => false)
    have e1 : scanAll (initial flags uptime).flags (initial flags uptime).scanner
        (events.flatMap KeyEvent.serialise) = expected flags (fun _ => false) events := hall
    rw [e1] at hb hno
    refine ⟨?_, ?_⟩
    · rw [hb, List.filter_eq_self.mpr (fun p hp => bne_iff_ne.mpr (hz p hp))]
    · have hnil : (expected flags (fun _ => false) events).filter (fun p => p.1 == 0) = [] :=
        List.filter_eq_nil_iff.mpr (fun p hp => by simpa using hz p hp)
      rw [hnil] at hno
      exact List.length_eq_zero_iff.mp hno

/-- Escape pressed, held for one repeat and released. -/
def escapeKey : Key := ⟨false, 0x01, by decide, by decide, by decide +kernel⟩

theorem buffered_escape_pause :
    ((run (initial (fun _ => 0) (fun _ => 0))
        ([0x01, 0x01, 0x81, 0xe1, 0x1d, 0x45].map .interrupt)).buffered =
      expected (fun _ => 0) (fun _ => false)
        [.key escapeKey true, .key escapeKey true, .key escapeKey false, .pause true]) ∧
      (run (initial (fun _ => 0) (fun _ => 0))
        ([0x01, 0x01, 0x81, 0xe1, 0x1d, 0x45].map .interrupt)).ring.notices = [] :=
  (buffered_events_iff (fun _ => 0) (fun _ => 0)
    [.key escapeKey true, .key escapeKey true, .key escapeKey false, .pause true]
    ([0x01, 0x01, 0x81, 0xe1, 0x1d, 0x45].map .interrupt) (by decide +kernel)
    (by decide +kernel)).mpr (by decide +kernel)

/-- The keypad comma pressed and released: the release is dropped. -/
theorem buffered_fails_keypadComma :
    ¬ ∀ (flags : ℕ → UInt16) (uptime : ℕ → UInt64) (events : List KeyEvent)
      (es : List DriverEvent), bytesOf es = events.flatMap KeyEvent.serialise →
      NeverFull (initial flags uptime) es →
      (run (initial flags uptime) es).buffered = expected flags (fun _ => false) events ∧
        (run (initial flags uptime) es).ring.notices = [] := by
  intro h
  have := (h (fun _ => 0) (fun _ => 0) [.key .keypadComma true, .key .keypadComma false]
    ([0x7e, 0xfe].map .interrupt) (by decide +kernel) (by decide +kernel)).1
  exact absurd this (by decide +kernel)

end VoodooPS2.Keyboard
