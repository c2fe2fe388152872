import VoodooPS2.Keyboard.FunctionKeys
import VoodooPS2.Keyboard.StuckKeys

/-! # What a remap does (`_PS2ToPS2Map`)

`loadCustomPS2Map` writes the slot of all eight bits of the source's low byte.  The interrupt routine
takes some bytes for something else, and the dispatch function strips the up bit before it looks a
key up.

`handledCodes`: what the driver looks up for the bytes that arrive, from the scanner through the ring
to the table.  `handledCodes_source` follows the bytes of one source code, and
`remap_takes_effect_iff` says when the key is handled with the target of its remap: when the byte is
a key to both of them, and it is a make or the make of the same key has the same target. -/

namespace VoodooPS2.Keyboard

open RingBuffer PacketRing

/-! ### What is looked up -/

/-- The key code that a packet is handled with, when the function looks one up. -/
def handledCode (o : Options) (packet : UInt8 × UInt8) : Option ℕ :=
  let extended := packet.1 - 1 != 0
  let keyCodeRaw := keyIndex extended (packet.2 &&& ~~~kSCUpBit)
  if isLang extended packet.2 ∨ isPrintScreenHeader keyCodeRaw then none
  else some (o.ps2ToPS2Map keyCodeRaw)

/-- From the look-up on the function depends on the table by this code only. -/
theorem dispatch_handled (o : Options) (s : Dispatcher) (packet : UInt8 × UInt8)
    (before after : KeyBitVector) {keyCode : ℕ} (h : handledCode o packet = some keyCode) :
    dispatchKeyboardEventWithPacket o s packet before after =
      let keyCodeRaw := keyIndex (packet.1 - 1 != 0) (packet.2 &&& ~~~kSCUpBit)
      let goingDown := packet.2 &&& kSCUpBit == 0
      let s := { s with modifierState := trackModifier o s.modifierState keyCodeRaw goingDown }
      ((s.specialCases o before after keyCode goingDown).finish o keyCodeRaw
        (effectiveCode o s.modifierState keyCode) goingDown, true) := by
  unfold handledCode at h
  dsimp only at h
  by_cases hl : isLang (packet.1 - 1 != 0) packet.2 = true
  · rw [if_pos (.inl hl)] at h
    cases h
  by_cases hp : isPrintScreenHeader
      (keyIndex (packet.1 - 1 != 0) (packet.2 &&& ~~~kSCUpBit)) = true
  · rw [if_pos (.inr hp)] at h
    cases h
  rw [if_neg (not_or.mpr ⟨hl, hp⟩)] at h
  cases h
  unfold dispatchKeyboardEventWithPacket
  dsimp only
  rw [if_neg hl, if_neg hp]

/-- The codes that the packets `packetReady` takes are handled with, after these events. -/
def handledCodes (o : Options) (d : Decoder) (es : List DriverEvent) : List (Option ℕ) :=
  (((run d es).ring.packetReady.dispatched.drop d.ring.dispatched.length).map keyBytes).map
    (handledCode o)

/-- The driver between two keys: no prefix pending, and nothing waits in the ring. -/
structure Idle (d : Decoder) : Prop where
  aligned : Aligned kPacketLength d.ring.ringBuffer
  empty : packets kPacketLength d.ring.ringBuffer = []
  noPrefix : d.scanner.extendCount = 0

theorem idle_initial (flags : ℕ → UInt16) (uptime : ℕ → UInt64) : Idle (initial flags uptime) :=
  ⟨aligned_initial flags uptime, packets_initial flags uptime, rfl⟩

/-! ### A ring with room -/

/-- How many packets wait. -/
def waiting (d : Decoder) : ℕ := (packets kPacketLength d.ring.ringBuffer).length

theorem aligned_step {d : Decoder} (h : Aligned kPacketLength d.ring.ringBuffer)
    (e : DriverEvent) : Aligned kPacketLength (step d e).ring.ringBuffer := by
  cases e with
  | round => exact aligned_round (by decide) h
  | interrupt data =>
      rw [step, interruptOccurred]
      split
      · exact h
      · exact aligned_bufferPacket h _ _

theorem aligned_run {d : Decoder} (h : Aligned kPacketLength d.ring.ringBuffer)
    (es : List DriverEvent) : Aligned kPacketLength (run d es).ring.ringBuffer := by
  induction es generalizing d with
  | nil => exact h
  | cons e es ih => exact ih (aligned_step h e)

/-- A byte makes at most one packet wait. -/
theorem waiting_interrupt {d : Decoder} (h : Aligned kPacketLength d.ring.ringBuffer)
    (data : UInt8) : waiting (step d (.interrupt data)) ≤ waiting d + 1 := by
  rw [step, interruptOccurred]
  split
  · exact Nat.le_succ _
  · rename_i packet _
    have h2 := aligned_store (aligned_store h 0 packet.1) 1 packet.2
    have h3 := aligned_storeBytes (timeBytes (d.uptime d.readings)) h2 kPacketTimeOffset
    have hlen : kPacketTimeOffset + (timeBytes (d.uptime d.readings)).length ≤ kPacketLength := by
      rw [timeBytes_length]
      decide
    have hstored := (packets_storeBytes (timeBytes (d.uptime d.readings)) h2 hlen).trans
      ((packets_headWrite (aligned_store h 0 packet.1) (by decide) packet.2).trans
        (packets_headWrite h (by decide) packet.1))
    show (packets kPacketLength (bufferPacket d.ring packet _).ringBuffer).length ≤ _
    rw [bufferPacket, commit, packets_advanceHead (by decide) h3, hstored]
    split
    · rw [List.length_append, List.length_singleton]
      exact Nat.le_refl _
    · exact Nat.le_succ _

theorem waiting_round {d : Decoder} (h : Aligned kPacketLength d.ring.ringBuffer) :
    waiting (step d .round) ≤ waiting d := by
  show (packets kPacketLength d.ring.packetReadyRound.ringBuffer).length ≤ _
  rw [packets_round (by decide) h, List.length_tail]
  exact Nat.sub_le _ _

/-- The ring does not fill up with as many bytes as there is room for. -/
theorem neverFull_of_room {d : Decoder} (h : Aligned kPacketLength d.ring.ringBuffer)
    (es : List DriverEvent) (hroom : waiting d + (bytesOf es).length ≤ 31) : NeverFull d es := by
  induction es generalizing d with
  | nil => trivial
  | cons e es ih =>
      have hnext := aligned_step h e
      cases e with
      | round =>
          have hle := waiting_round h
          exact ih hnext (by rw [bytesOf] at hroom; omega)
      | interrupt data =>
          rw [bytesOf, List.length_cons] at hroom
          have hle := waiting_interrupt h data
          refine ⟨?_, ih hnext (by omega)⟩
          rw [h.count_eq (by decide), Nat.mul_comm]
          exact Nat.mul_lt_mul_of_pos_right (by unfold waiting at hroom; omega) (by decide)

/-! ### The bytes of a source code -/

/-- The slot is one of the extended keys. -/
def isExtendedSlot (index : ℕ) : Bool := decide (KBV_NUM_SCANCODES ≤ index)

/-- The low byte of the source code of a slot. -/
def lowByte (index : ℕ) : UInt8 := UInt8.ofNat index

/-- The bytes of the source code of a slot: the low byte, behind the prefix `E0` if it is
extended. -/
def sourceBytes (index : ℕ) : List UInt8 :=
  if isExtendedSlot index then [kSCExtend, lowByte index] else [lowByte index]

/-- The slot that is looked up for the bytes: the up bit is stripped. -/
def lookedUp (index : ℕ) : ℕ := keyIndex (isExtendedSlot index) (lowByte index &&& ~~~kSCUpBit)

/-- The interrupt routine takes the low byte for something else than a key: an answer, a prefix, or
the end of a reset. -/
def NotAKey (lastdata : UInt8) (index : ℕ) : Prop :=
  lowByte index ∈ [kSCAcknowledge, kSCResend, kSCExtend, kSCPause] ∨
    (isExtendedSlot index = false ∧ lastdata = kSCReset ∧ lowByte index = 0)

instance (lastdata : UInt8) (index : ℕ) : Decidable (NotAKey lastdata index) :=
  inferInstanceAs (Decidable (_ ∨ _))

theorem keyCodeRaw_eq_keyIndex (extended : Bool) (data : UInt8) :
    keyCodeRaw (if extended then 1 else 0) data = keyIndex extended (data &&& ~~~kSCUpBit) := by
  have hlt : (data &&& ~~~kSCUpBit).toNat < 2 ^ 8 := (data &&& ~~~kSCUpBit).toNat_lt
  unfold keyCodeRaw keyIndex
  cases extended with
  | false => simp
  | true =>
      rw [if_pos rfl, if_pos rfl, Nat.one_shiftLeft]
      exact (Nat.two_pow_add_eq_or_of_lt hlt 1).symm

/-- A key that is up gives rise to a packet, whatever the byte says of it. -/
theorem packetize_up (flags : ℕ → UInt16) {s : Scanner} {extended : ℕ} {data : UInt8}
    (h : s.keyBitVector.isKeyDown (keyCodeRaw extended data) = false) :
    (packetize flags s extended data).2 = some (UInt8.ofNat (extended + 1), data) := by
  unfold packetize
  dsimp only
  rw [h, if_neg Bool.false_ne_true]
  split
  · rfl
  · split
    · rfl
    · rfl

/-- A byte with a meaning of its own buffers no key. -/
theorem scan_notAKey (flags : ℕ → UInt16) {s : Scanner} {data : UInt8}
    (h : data ∈ [kSCAcknowledge, kSCResend, kSCExtend, kSCPause] ∨
      (kSCReset = s.lastdata ∧ 0x00 = data)) :
    ∀ p ∈ (scan flags s data).2, p.1 = 0 := by
  unfold scan
  by_cases hreset : kSCReset = s.lastdata ∧ 0x00 = data
  · rw [if_pos hreset]
    rintro _ ⟨⟩
    rfl
  have hmem := h.resolve_right hreset
  simp only [List.mem_cons, List.not_mem_nil, or_false] at hmem
  rw [if_neg hreset]
  obtain rfl | rfl | rfl | rfl := hmem
  · exact nofun
  · exact nofun
  · exact nofun
  · exact nofun

/-- The keys found in the bytes of a source code, from a state with no prefix pending. -/
theorem scanAll_source (flags : ℕ → UInt16) {s : Scanner} (hx : s.extendCount = 0) {index : ℕ}
    (hup : s.keyBitVector.isKeyDown (lookedUp index) = false) :
    (scanAll flags s (sourceBytes index)).filter (fun p => p.1 != 0) =
      if NotAKey s.lastdata index then []
      else [(UInt8.ofNat ((if isExtendedSlot index then 1 else 0) + 1), lowByte index)] := by
  -- the state in which the low byte arrives
  obtain ⟨s', hs', hall⟩ : ∃ s' : Scanner,
      (s'.extendCount = (if isExtendedSlot index then 1 else 0) ∧
        s'.keyBitVector = s.keyBitVector ∧
        s'.lastdata = (if isExtendedSlot index then kSCExtend else s.lastdata)) ∧
      scanAll flags s (sourceBytes index) = (scan flags s' (lowByte index)).2.toList := by
    unfold sourceBytes
    cases isExtendedSlot index with
    | false =>
        refine ⟨s, ⟨hx, rfl, rfl⟩, ?_⟩
        exact List.append_nil _
    | true =>
        refine ⟨{ s with lastdata := kSCExtend, extendCount := 1 }, ⟨rfl, rfl, rfl⟩, ?_⟩
        rw [if_pos rfl, scanAll_cons, scan_extend]
        exact List.append_nil _
  obtain ⟨hcount, hvector, hlast⟩ := hs'
  have hmeaning : NotAKey s.lastdata index ↔
      lowByte index ∈ [kSCAcknowledge, kSCResend, kSCExtend, kSCPause] ∨
        (kSCReset = s'.lastdata ∧ 0x00 = lowByte index) := by
    unfold NotAKey
    rw [hlast]
    cases isExtendedSlot index with
    | false => simp [eq_comm]
    | true =>
        have hne : ¬ kSCReset = kSCExtend := by decide
        simp [hne]
  rw [hall]
  by_cases hkey : NotAKey s.lastdata index
  · rw [if_pos hkey]
    refine List.filter_eq_nil_iff.mpr ?_
    intro p hp
    have h0 := scan_notAKey flags (hmeaning.mp hkey) p (Option.mem_toList.mp hp)
    simp [h0]
  · rw [if_neg hkey]
    obtain ⟨hmem, hreset⟩ := not_or.mp (fun h => hkey (hmeaning.mpr h))
    have hle : s'.extendCount ≤ 1 := by
      rw [hcount]
      split <;> decide
    have hpacket : (packetize flags ⟨0, lowByte index, s'.keyBitVector⟩ s'.extendCount
        (lowByte index)).2 = some (UInt8.ofNat (s'.extendCount + 1), lowByte index) := by
      apply packetize_up
      rw [hvector, hcount, keyCodeRaw_eq_keyIndex]
      exact hup
    rw [scan_key flags hle hmem hreset, hpacket, hcount]
    cases isExtendedSlot index with
    | false => rfl
    | true => rfl

/-! ### From the bytes to the look-up -/

theorem bytesOf_sourceBytes_length (index : ℕ) : (sourceBytes index).length ≤ 2 := by
  unfold sourceBytes
  split
  · exact Nat.le_refl _
  · exact Nat.le_succ _

/-- The packets taken are those the scanner finds in the bytes. -/
theorem taken_idle {d : Decoder} (h : Idle d) {es : List DriverEvent}
    (hroom : (bytesOf es).length ≤ 31) :
    ((run d es).ring.packetReady.dispatched.drop d.ring.dispatched.length).map keyBytes =
      (scanAll d.flags d.scanner (bytesOf es)).filter (fun p => p.1 != 0) := by
  have hwaiting : waiting d = 0 := by rw [waiting, h.empty, List.length_nil]
  have hfull := neverFull_of_room h.aligned es (by omega)
  have hbefore : d.buffered = d.ring.dispatched.map keyBytes := by
    rw [Decoder.buffered, normals, h.empty, List.filter_nil, List.append_nil]
  have hbuffered := (buffered_run es h.aligned hfull).1
  rw [packetReady_dispatched (by decide) (aligned_run h.aligned es), List.map_drop]
  rw [hbefore] at hbuffered
  have hlength : d.ring.dispatched.length = (d.ring.dispatched.map keyBytes).length :=
    (List.length_map _).symm
  rw [hlength]
  show (run d es).buffered.drop _ = _
  rw [hbuffered, List.drop_left]

/-- The key of a slot is dispatched without a look-up: LANG1, LANG2, and the header of
PrintScreen. -/
def NotLookedUp (index : ℕ) : Prop :=
  isLang (isExtendedSlot index) (lowByte index) ∨ isPrintScreenHeader (lookedUp index)

instance (index : ℕ) : Decidable (NotLookedUp index) := inferInstanceAs (Decidable (_ ∨ _))

/-- What is looked up for the bytes of a source code. -/
theorem handledCodes_source (o : Options) {d : Decoder} (h : Idle d) {index : ℕ}
    (hup : d.scanner.keyBitVector.isKeyDown (lookedUp index) = false) {es : List DriverEvent}
    (hbytes : bytesOf es = sourceBytes index) :
    handledCodes o d es =
      if NotAKey d.scanner.lastdata index then []
      else if NotLookedUp index then [none]
      else [some (o.ps2ToPS2Map (lookedUp index))] := by
  have hlength := bytesOf_sourceBytes_length index
  rw [handledCodes, taken_idle h (by rw [hbytes]; omega), hbytes,
    scanAll_source d.flags h.noPrefix hup]
  by_cases hkey : NotAKey d.scanner.lastdata index
  · rw [if_pos hkey, if_pos hkey]
    rfl
  · rw [if_neg hkey, if_neg hkey, List.map_singleton, handledCode]
    have hextended : (UInt8.ofNat ((if isExtendedSlot index then 1 else 0) + 1) - 1 != 0) =
        isExtendedSlot index := by
      cases isExtendedSlot index with
      | false => rfl
      | true => rfl
    dsimp only
    rw [hextended]
    by_cases hlook : NotLookedUp index
    · rw [if_pos hlook]
      exact congrArg (fun code => [code]) (if_pos hlook)
    · rw [if_neg hlook]
      exact congrArg (fun code => [code]) (if_neg hlook)

/-! ### Remaps -/

/-- The driver's options with the map that an array leaves. -/
def withMap (o : Options) (base : ℕ → UInt16) (array : List OSObject) : Options :=
  { o with ps2ToPS2Map := fun i => (loadCustomPS2Map base (some array) i).toNat }

/-- The last entry accepted for a slot is what the array remaps it to. -/
theorem loaded_of_last (base : ℕ → UInt16) (before : List OSObject) {entry : OSObject}
    {after : List OSObject} {index : ℕ} {code : UInt16}
    (hentry : ps2MapEntry entry = some (index, code))
    (hlast : ∀ e ∈ after, ∀ other, ps2MapEntry e ≠ some (index, other)) :
    loadCustomPS2Map base (some (before ++ entry :: after)) index = code := by
  have hafter : ∀ w ∈ after.filterMap ps2MapEntry, w.1 ≠ index := by
    rintro ⟨i, other⟩ hw rfl
    obtain ⟨e, he, hsome⟩ := List.mem_filterMap.mp hw
    exact hlast e he other hsome
  rw [loadCustomPS2Map_eq, Overlay.overlay, remaps, ps2MapEntries, Option.getD_some,
    List.filterMap_append, List.filterMap_cons, hentry]
  dsimp only
  rw [Overlay.written_of_last _ hafter]
  rfl

/-- A make is looked up as it stands. -/
theorem lookedUp_of_make {index : ℕ} (hindex : index < 2 * KBV_NUM_SCANCODES)
    (hmake : lowByte index < 0x80) : lookedUp index = index := by
  have hcode : lowByte index &&& ~~~kSCUpBit = lowByte index := (scanByte_reads hmake true).2.1
  have hlow : (lowByte index).toNat = index % 256 := UInt8.toNat_ofNat'
  rw [lookedUp, hcode, keyIndex, hlow]
  unfold isExtendedSlot
  unfold KBV_NUM_SCANCODES at hindex ⊢
  by_cases hx : 256 ≤ index
  · rw [if_pos (decide_eq_true hx)]
    omega
  · rw [if_neg (by simpa using hx)]
    omega

/-- The bytes of the slot reach the look-up, and find the code there: they are a make, or the array
gives the make of the same key this code too. -/
def Reached (array : List OSObject) (base : ℕ → UInt16) (lastdata : UInt8) (index : ℕ)
    (code : UInt16) : Prop :=
  ¬ NotAKey lastdata index ∧ ¬ NotLookedUp index ∧
    (lowByte index < 0x80 ∨
      (remaps (some array) (lookedUp index)).getD (base (lookedUp index)) = code)

instance (array : List OSObject) (base : ℕ → UInt16) (lastdata : UInt8) (index : ℕ)
    (code : UInt16) : Decidable (Reached array base lastdata index code) :=
  inferInstanceAs (Decidable (_ ∧ _ ∧ _))

/-- **A remap takes effect exactly if its source is a key to the interrupt routine and the dispatch
function, and is a make or shares its target with the make.** -/
theorem remap_takes_effect_iff (o : Options) (base : ℕ → UInt16)
    {array before after : List OSObject} {entry : OSObject} {index : ℕ} {code : UInt16}
    (harray : array = before ++ entry :: after) (hentry : ps2MapEntry entry = some (index, code))
    (hlast : ∀ e ∈ after, ∀ other, ps2MapEntry e ≠ some (index, other))
    {d : Decoder} (hidle : Idle d)
    (hup : d.scanner.keyBitVector.isKeyDown (lookedUp index) = false)
    {es : List DriverEvent} (hbytes : bytesOf es = sourceBytes index) :
    handledCodes (withMap o base array) d es = [some code.toNat] ↔
      Reached array base d.scanner.lastdata index code := by
  have hloaded : loadCustomPS2Map base (some array) index = code := by
    rw [harray]
    exact loaded_of_last base before hentry hlast
  rw [handledCodes_source (withMap o base array) hidle hup hbytes, Reached]
  by_cases hkey : NotAKey d.scanner.lastdata index
  · rw [if_pos hkey]
    exact iff_of_false (List.cons_ne_nil _ _).symm (fun h => h.1 hkey)
  by_cases hlook : NotLookedUp index
  · rw [if_neg hkey, if_pos hlook]
    exact iff_of_false (by simp) (fun h => h.2.1 hlook)
  rw [if_neg hkey, if_neg hlook]
  have hfound : (withMap o base array).ps2ToPS2Map (lookedUp index) = code.toNat ↔
      (remaps (some array) (lookedUp index)).getD (base (lookedUp index)) = code := by
    show (loadCustomPS2Map base (some array) (lookedUp index)).toNat = _ ↔ _
    rw [UInt16.toNat_inj, loadCustomPS2Map_eq]
    rfl
  have hmake : lowByte index < 0x80 →
      (remaps (some array) (lookedUp index)).getD (base (lookedUp index)) = code := by
    intro hlow
    rw [loadCustomPS2Map_eq] at hloaded
    rw [lookedUp_of_make (ps2MapEntry_lt hentry) hlow]
    exact hloaded
  constructor
  · intro h
    have hcode := hfound.mp (Option.some.inj (List.singleton_inj.mp h))
    exact ⟨hkey, hlook, .inr hcode⟩
  · rintro ⟨-, -, h⟩
    rw [hfound.mpr (h.elim hmake id)]

/-- An entry of the profile for the Envy with Haswell: Num Lock becomes PrintScreen. -/
def numLock : OSObject := .string ⟨text "e045=e037".toList, by decide⟩

/-- The other one: a code that the Fn key makes is to be nulled out. -/
def bogus : OSObject := .string ⟨text "e0ab=0;bogus Fn+F2/F3".toList, by decide⟩

theorem ps2MapEntry_bogus : ps2MapEntry bogus = some (0x1ab, 0) := by decide +kernel

theorem remap_takes_effect_numLock :
    handledCodes (withMap Session.stockOptions FKeys.init.map [numLock, bogus])
      (initial PS2flagsStock fun _ => 0)
      [.interrupt 0xe0, .round, .interrupt 0x45, .round] = [some 0x137] := by
  have hlast : ∀ e ∈ [bogus], ∀ other, ps2MapEntry e ≠ some (0x145, other) := by
    intro e he other h
    rw [List.mem_singleton.mp he, ps2MapEntry_bogus] at h
    exact absurd (Prod.mk.inj (Option.some.inj h)).1 (by decide)
  have hentry : ps2MapEntry numLock = some (0x145, 0x137) := by decide +kernel
  have harray : [numLock, bogus] = [] ++ numLock :: [bogus] := rfl
  exact (remap_takes_effect_iff Session.stockOptions FKeys.init.map harray hentry hlast
    (idle_initial _ _) (by decide +kernel) (by decide +kernel)).mpr (by decide +kernel)

/-- The bogus code of the shipped profile is not nulled out: `E0 AB` is looked up as `e02b`. -/
theorem remap_without_effect :
    ¬ ∀ (o : Options) (base : ℕ → UInt16) (array before after : List OSObject) (entry : OSObject)
      (index : ℕ) (code : UInt16), array = before ++ entry :: after →
      ps2MapEntry entry = some (index, code) →
      (∀ e ∈ after, ∀ other, ps2MapEntry e ≠ some (index, other)) →
      ∀ d : Decoder, Idle d → d.scanner.keyBitVector.isKeyDown (lookedUp index) = false →
      ∀ es : List DriverEvent, bytesOf es = sourceBytes index →
        handledCodes (withMap o base array) d es = [some code.toNat] := by
  intro h
  have hcodes := h Session.stockOptions FKeys.init.map [numLock, bogus] [numLock] [] bogus 0x1ab 0 rfl
    ps2MapEntry_bogus (fun _ he => absurd he List.not_mem_nil)
    (initial PS2flagsStock fun _ => 0) (idle_initial _ _) (by decide +kernel)
    [.interrupt 0xe0, .interrupt 0xab] (by decide +kernel)
  have hbytes : bytesOf [.interrupt 0xe0, .interrupt 0xab] = sourceBytes 0x1ab := by decide +kernel
  rw [handledCodes_source _ (idle_initial _ _) (by decide +kernel) hbytes] at hcodes
  exact absurd hcodes (by decide +kernel)

end VoodooPS2.Keyboard
