import VoodooPS2.Lib.Transition
import VoodooPS2.Keyboard.Decoder

/-! # The key bit vector and the keys delivered

The interrupt routine updates the key bit vector before it commits the packet, and a commit to a
full ring drops the packet.  What `packetReady` takes from the ring is then no longer what the
vector says.

`vector_delivered`: in every run in which no packet that changes the vector is dropped, the vector
holds, whenever the ring is empty, the keys whose last packet taken was a make, and no key is
taken down twice without a break in between.  `vector_not_delivered` is a burst of 32 keys of
which the last is lost. -/

namespace VoodooPS2.Keyboard

open RingBuffer PacketRing

/-- The key of a packet, as an index of the tables. -/
def packetKey (p : UInt8 × UInt8) : ℕ := keyCodeRaw (p.1.toNat - 1) p.2

/-- The packet is a make. -/
def packetIsMake (p : UInt8 × UInt8) : Bool := p.2 &&& kSCUpBit == 0

/-- The packets of a key. -/
def ofKey (n : ℕ) (packets : List (UInt8 × UInt8)) : List (UInt8 × UInt8) :=
  packets.filter (fun p => packetKey p = n)

/-- The last packet of the key is a make. -/
def lastIsMake (n : ℕ) (packets : List (UInt8 × UInt8)) : Bool :=
  (ofKey n packets).getLast?.any packetIsMake

/-- No two makes of the key without a break of it in between. -/
def Alternates (n : ℕ) (packets : List (UInt8 × UInt8)) : Prop :=
  (ofKey n packets).IsChain (fun p q => ¬ (packetIsMake p = true ∧ packetIsMake q = true))

theorem ofKey_concat (n : ℕ) (packets : List (UInt8 × UInt8)) (p : UInt8 × UInt8) :
    ofKey n (packets ++ [p]) = ofKey n packets ++ if packetKey p = n then [p] else [] := by
  rw [ofKey, List.filter_append]
  by_cases h : packetKey p = n <;> simp [h, ofKey]

theorem lastIsMake_concat (n : ℕ) (packets : List (UInt8 × UInt8)) (p : UInt8 × UInt8) :
    lastIsMake n (packets ++ [p]) =
      if packetKey p = n then packetIsMake p else lastIsMake n packets := by
  rw [lastIsMake, ofKey_concat]
  by_cases h : packetKey p = n
  · rw [if_pos h, if_pos h, List.getLast?_concat]
    rfl
  · rw [if_neg h, if_neg h, List.append_nil]
    rfl

/-- A make of a key that is up, or a break. -/
theorem Alternates.concat {n : ℕ} {packets : List (UInt8 × UInt8)} (h : Alternates n packets)
    {p : UInt8 × UInt8}
    (hp : packetKey p = n → packetIsMake p = true → lastIsMake n packets = false) :
    Alternates n (packets ++ [p]) := by
  unfold Alternates
  rw [ofKey_concat]
  by_cases hk : packetKey p = n
  · rw [if_pos hk]
    refine List.isChain_append.mpr ⟨h, List.isChain_singleton _, ?_⟩
    intro a ha b hb hab
    obtain rfl : p = b := by simpa using hb
    have hlast := hp hk hab.2
    rw [lastIsMake, Option.mem_def.mp ha] at hlast
    rw [Option.any_some] at hlast
    exact absurd (hlast.symm.trans hab.1) Bool.false_ne_true
  · rw [if_neg hk, List.append_nil]
    exact h

/-! ### What a byte does to the vector -/

/-- What the scanner does with a byte: nothing to report; a reset; or a key event, which changes
the vector unless the key is breakless. -/
inductive Scanned (flags : ℕ → UInt16) (v v' : KeyBitVector) : Option (UInt8 × UInt8) → Prop
  | silent (h : v' = v) : Scanned flags v v' none
  | reset (h : v' = v) (p : UInt8 × UInt8) (hp : p.1 = 0) : Scanned flags v v' (some p)
  | breakless (h : v' = v) (p : UInt8 × UInt8) (hp : p.1 ≠ 0)
      (hb : isBreakless flags (packetKey p) = true) : Scanned flags v v' (some p)
  | make (p : UInt8 × UInt8) (hp : p.1 ≠ 0) (hb : isBreakless flags (packetKey p) = false)
      (hm : packetIsMake p = true) (hup : v.isKeyDown (packetKey p) = false)
      (h : v' = v.keyDown (packetKey p)) : Scanned flags v v' (some p)
  | break_ (p : UInt8 × UInt8) (hp : p.1 ≠ 0) (hb : isBreakless flags (packetKey p) = false)
      (hm : packetIsMake p = false) (h : v' = v.keyUp (packetKey p)) : Scanned flags v v' (some p)

theorem packetize_scanned (flags : ℕ → UInt16) (s : Scanner) {extended : ℕ} (he : extended ≤ 1)
    (data : UInt8) :
    Scanned flags s.keyBitVector (packetize flags s extended data).1.keyBitVector
      (packetize flags s extended data).2 := by
  have hkey : packetKey (UInt8.ofNat (extended + 1), data) = keyCodeRaw extended data := by
    interval_cases extended <;> rfl
  have hne : UInt8.ofNat (extended + 1) ≠ 0 := by
    interval_cases extended <;> decide
  unfold packetize
  by_cases hb : isBreakless flags (keyCodeRaw extended data) = true
  · simp only [hb, if_true]
    exact .breakless rfl _ hne (by rw [hkey, hb])
  · have hb' := Bool.eq_false_iff.mpr hb
    simp only [hb', Bool.false_eq_true, if_false]
    by_cases hm : data &&& kSCUpBit = 0
    · rw [if_pos hm]
      by_cases hd : s.keyBitVector.isKeyDown (keyCodeRaw extended data) = true
      · rw [if_pos hd]
        exact .silent rfl
      · rw [if_neg hd]
        exact .make _ hne (by rw [hkey, hb']) (beq_iff_eq.mpr hm)
          (by rw [hkey]; exact Bool.eq_false_iff.mpr hd) (by rw [hkey])
    · rw [if_neg hm]
      exact .break_ _ hne (by rw [hkey, hb']) (beq_eq_false_iff_ne.mpr hm) (by rw [hkey])

theorem scan_scanned (flags : ℕ → UInt16) (s : Scanner) (data : UInt8) :
    Scanned flags s.keyBitVector (scan flags s data).1.keyBitVector (scan flags s data).2 := by
  unfold scan
  split_ifs with h1 h2 h3 h4 h5 h6
  · exact .reset rfl _ rfl
  · exact .silent rfl
  · exact .silent rfl
  · exact .silent rfl
  · exact .silent rfl
  · have he : s.extendCount ≤ 1 := by omega
    exact packetize_scanned flags { s with lastdata := data, extendCount := s.extendCount - 1 } he data
  · exact .silent rfl

/-! ### Runs -/

/-- A full ring drops the packet. -/
theorem normals_bufferPacket_full {R : PacketRing kPacketLength}
    (ha : Aligned kPacketLength R.ringBuffer) (hfull : ¬ R.ringBuffer.count < 31 * kPacketLength)
    (packet : UInt8 × UInt8) (time : UInt64) :
    (bufferPacket R packet time).normals = R.normals := by
  have h2 := aligned_store (aligned_store ha 0 packet.1) 1 packet.2
  have h3 := aligned_storeBytes (timeBytes time) h2 kPacketTimeOffset
  have hlen : kPacketTimeOffset + (timeBytes time).length ≤ kPacketLength := by
    rw [timeBytes_length]; decide
  have hc : ¬ (((R.store 0 packet.1).store 1 packet.2).storeBytes kPacketTimeOffset
      (timeBytes time)).ringBuffer.count < 31 * kPacketLength := by
    rw [count_storeBytes]; exact hfull
  unfold bufferPacket
  rw [normals_commit_full (by decide) h3 hc, normals_storeBytes _ h2 hlen,
    normals_store (aligned_store ha 0 _) (by decide), normals_store ha (by decide)]

/-- The vector agrees with the packets buffered, taken or waiting. -/
structure Tracks (d : Decoder) : Prop where
  aligned : Aligned kPacketLength d.ring.ringBuffer
  down : ∀ n, isBreakless d.flags n = false →
    d.scanner.keyBitVector.isKeyDown n = lastIsMake n d.buffered
  alternates : ∀ n, isBreakless d.flags n = false → Alternates n d.buffered

/-- The packet is one of a key, and the vector does not say the same of the key already. -/
def ChangesVector (d : Decoder) (p : UInt8 × UInt8) : Prop :=
  p.1 ≠ 0 ∧ isBreakless d.flags (packetKey p) = false ∧
    d.scanner.keyBitVector.isKeyDown (packetKey p) ≠ packetIsMake p

instance (d : Decoder) (p : UInt8 × UInt8) : Decidable (ChangesVector d p) :=
  inferInstanceAs (Decidable (_ ∧ _))

/-- A packet that changes the vector finds room in the ring. -/
def FindsRoom (d : Decoder) : DriverEvent → Prop
  | .round => True
  | .interrupt data =>
      ∀ p ∈ (scan d.flags d.scanner data).2, ChangesVector d p →
        d.ring.ringBuffer.count < 31 * kPacketLength

instance (d : Decoder) : (e : DriverEvent) → Decidable (FindsRoom d e)
  | .round => isTrue trivial
  | .interrupt data => Option.decidableForallMem (scan d.flags d.scanner data).2

theorem tracks_initial (flags : ℕ → UInt16) (uptime : ℕ → UInt64) : Tracks (initial flags uptime) := by
  refine ⟨aligned_initial flags uptime, fun n _ => ?_, fun n _ => ?_⟩
  · rw [buffered_initial]
    exact KeyBitVector.isKeyDown_zero n
  · rw [buffered_initial]
    exact List.isChain_nil

/-- A packet that is buffered: its key is as the vector says, all others are as before. -/
theorem Tracks.buffer {d : Decoder} (h : Tracks d) {v' : KeyBitVector} {p : UInt8 × UInt8}
    (hs : Scanned d.flags d.scanner.keyBitVector v' (some p)) (hp : p.1 ≠ 0) (n : ℕ)
    (hn : isBreakless d.flags n = false) :
    v'.isKeyDown n = lastIsMake n (d.buffered ++ [p]) ∧ Alternates n (d.buffered ++ [p]) := by
  have hd := h.down n hn
  have ha := h.alternates n hn
  rw [lastIsMake_concat]
  cases hs with
  | reset _ _ hp0 => exact absurd hp0 hp
  | breakless hv _ _ hb =>
      have hne : packetKey p ≠ n := by
        rintro rfl
        exact Bool.false_ne_true (hn.symm.trans hb)
      rw [if_neg hne, hv]
      exact ⟨hd, ha.concat (fun hk => absurd hk hne)⟩
  | make _ _ _ hm hup hv =>
      rw [hv, KeyBitVector.isKeyDown_keyDown]
      by_cases hk : packetKey p = n
      · rw [if_pos hk, hm, decide_eq_true hk.symm, Bool.true_or]
        refine ⟨rfl, ha.concat (fun _ _ => ?_)⟩
        rw [← hd, ← hk, hup]
      · rw [if_neg hk, decide_eq_false (Ne.symm hk), Bool.false_or]
        exact ⟨hd, ha.concat (fun h => absurd h hk)⟩
  | break_ _ _ _ hm hv =>
      rw [hv, KeyBitVector.isKeyDown_keyUp]
      refine ⟨?_, ha.concat (fun _ hmake => absurd (hm.symm.trans hmake) Bool.false_ne_true)⟩
      by_cases hk : packetKey p = n
      · rw [if_pos hk, hm, decide_eq_true hk.symm, Bool.not_true, Bool.false_and]
      · rw [if_neg hk, decide_eq_false (Ne.symm hk), Bool.not_false, Bool.true_and, hd]

/-- A packet that is not buffered, or is none of a key, leaves the vector as it is. -/
theorem Scanned.isKeyDown_eq {flags : ℕ → UInt16} {v v' : KeyBitVector} {o : Option (UInt8 × UInt8)}
    (hs : Scanned flags v v' o)
    (hc : ∀ p ∈ o, p.1 ≠ 0 → isBreakless flags (packetKey p) = false →
      v.isKeyDown (packetKey p) = packetIsMake p) (n : ℕ) : v'.isKeyDown n = v.isKeyDown n := by
  cases hs with
  | silent h => rw [h]
  | reset h => rw [h]
  | breakless h => rw [h]
  | make p hp hb hm hup _ =>
      have := hc p rfl hp hb
      rw [hup, hm] at this
      exact absurd this Bool.false_ne_true
  | break_ p hp hb hm h =>
      rw [h, KeyBitVector.isKeyDown_keyUp]
      by_cases hk : n = packetKey p
      · rw [decide_eq_true hk, hk, hc p rfl hp hb, hm]
        rfl
      · rw [decide_eq_false hk, Bool.not_false, Bool.true_and]

/-- A byte. -/
theorem Tracks.interrupt {d : Decoder} (h : Tracks d) (data : UInt8)
    (hg : FindsRoom d (.interrupt data)) : Tracks (interruptOccurred d data).1 := by
  have hs := scan_scanned d.flags d.scanner data
  have hg' : ∀ p ∈ (scan d.flags d.scanner data).2, ChangesVector d p →
      d.ring.ringBuffer.count < 31 * kPacketLength := hg
  rw [interruptOccurred]
  rcases hscan : scan d.flags d.scanner data with ⟨s, _ | p⟩
  · rw [hscan] at hs
    have hv := hs.isKeyDown_eq (fun p hp => absurd hp (Option.not_mem_none p))
    exact ⟨h.aligned, fun n hn => (hv n).trans (h.down n hn), h.alternates⟩
  · rw [hscan] at hs hg'
    have hal := aligned_bufferPacket h.aligned p (d.uptime d.readings)
    by_cases hroom : d.ring.ringBuffer.count < 31 * kPacketLength
    · obtain ⟨hb, -⟩ := normals_bufferPacket h.aligned hroom p (d.uptime d.readings)
      by_cases hp : p.1 = 0
      · have hb' : (bufferPacket d.ring p (d.uptime d.readings)).normals.map keyBytes =
            d.buffered := by
          rw [hb, hp]
          exact List.append_nil _
        have hv := hs.isKeyDown_eq (fun q hq hq0 => by
          cases hq
          exact absurd hp hq0)
        refine ⟨hal, fun n hn => ?_, fun n hn => ?_⟩
        · rw [Decoder.buffered, hb']
          exact (hv n).trans (h.down n hn)
        · rw [Decoder.buffered, hb']
          exact h.alternates n hn
      · have hb' : (bufferPacket d.ring p (d.uptime d.readings)).normals.map keyBytes =
            d.buffered ++ [p] := by
          rw [hb, if_pos (bne_iff_ne.mpr hp)]
          rfl
        refine ⟨hal, fun n hn => ?_, fun n hn => ?_⟩
        · rw [Decoder.buffered, hb']
          exact (h.buffer hs hp n hn).1
        · rw [Decoder.buffered, hb']
          exact (h.buffer hs hp n hn).2
    · have hb := normals_bufferPacket_full h.aligned hroom p (d.uptime d.readings)
      have hv := hs.isKeyDown_eq (fun q hq hq0 hqb => by
        by_contra hne
        exact hroom (hg' q hq ⟨hq0, hqb, hne⟩))
      refine ⟨hal, fun n hn => ?_, fun n hn => ?_⟩
      · rw [Decoder.buffered, hb]
        exact (hv n).trans (h.down n hn)
      · rw [Decoder.buffered, hb]
        exact h.alternates n hn

theorem Tracks.step {d : Decoder} (h : Tracks d) (e : DriverEvent) (hg : FindsRoom d e) :
    Tracks (Keyboard.step d e) := by
  cases e with
  | interrupt data => exact h.interrupt data hg
  | round =>
      have hb : (Keyboard.step d .round).buffered = d.buffered := by
        unfold Decoder.buffered Keyboard.step
        rw [normals_round (by decide) h.aligned]
      refine ⟨aligned_round (by decide) h.aligned, fun n hn => ?_, fun n hn => ?_⟩
      · rw [hb]
        exact h.down n hn
      · rw [hb]
        exact h.alternates n hn

theorem Tracks.run {d : Decoder} (h : Tracks d) (es : List DriverEvent)
    (hg : Transition.Guarded (fun d e => some (Keyboard.step d e)) FindsRoom d es) :
    Tracks (Keyboard.run d es) ∧ (Keyboard.run d es).flags = d.flags := by
  induction es generalizing d with
  | nil => exact ⟨h, rfl⟩
  | cons e es ih =>
      obtain ⟨ht, hf⟩ := ih (h.step e hg.1) (hg.2 _ rfl)
      refine ⟨ht, hf.trans ?_⟩
      cases e with
      | round => rfl
      | interrupt data =>
          rw [Keyboard.step, interruptOccurred]
          split
          · rfl
          · rfl

/-- The key packets `packetReady` has taken from the ring. -/
def Decoder.taken (d : Decoder) : List (UInt8 × UInt8) := d.ring.dispatched.map keyBytes

/-- The vector agrees with what was delivered: once the ring is empty a key is down in the vector
if and only if the last packet taken for it was a make; and no two makes of a key were taken
without a break of it in between.  Breakless keys are left out. -/
structure Delivered (d : Decoder) : Prop where
  down : d.ring.ringBuffer.count = 0 → ∀ (extended : Bool) (code : UInt8), code < 0x80 →
    isBreakless d.flags (keyIndex extended code) = false →
      (d.scanner.keyBitVector.isKeyDown (keyIndex extended code) = true ↔
        lastIsMake (keyIndex extended code) d.taken = true)
  alternates : ∀ (extended : Bool) (code : UInt8), code < 0x80 →
    isBreakless d.flags (keyIndex extended code) = false →
      Alternates (keyIndex extended code) d.taken

/-- The packets taken come first among the packets buffered. -/
theorem buffered_eq_taken_append (d : Decoder) :
    d.buffered = d.taken ++ ((packets kPacketLength d.ring.ringBuffer).filter isNormal).map keyBytes :=
  List.map_append

theorem Tracks.delivered {d : Decoder} (h : Tracks d) : Delivered d where
  down hempty extended code _ hb := by
    have hcount := h.aligned.count_eq (by decide)
    rw [hempty] at hcount
    have hnil : packets kPacketLength d.ring.ringBuffer = [] := by
      rcases Nat.mul_eq_zero.mp hcount.symm with h0 | h0
      · exact absurd h0 (by decide)
      · exact List.length_eq_zero_iff.mp h0
    have hbuf : d.buffered = d.taken := by
      rw [buffered_eq_taken_append, hnil]
      exact List.append_nil _
    rw [h.down _ hb, hbuf]
  alternates extended code _ hb := by
    have ha := h.alternates _ hb
    rw [buffered_eq_taken_append] at ha
    unfold Alternates at ha ⊢
    rw [ofKey, List.filter_append] at ha
    exact (List.isChain_append.mp ha).1

/-- In every run in which no packet that changes the vector is dropped, the vector agrees with
what was delivered. -/
theorem vector_delivered (flags : ℕ → UInt16) (uptime : ℕ → UInt64) (es : List DriverEvent)
    (hg : Transition.Guarded (fun d e => some (step d e)) FindsRoom (initial flags uptime) es) :
    Delivered (run (initial flags uptime) es) :=
  ((tracks_initial flags uptime).run es hg).1.delivered

/-- A key is pressed, taken, repeated and released. -/
def tapEvents : List DriverEvent :=
  [.interrupt 0x01, .round, .interrupt 0x01, .interrupt 0x81, .round]

theorem vector_delivered_tap :
    Delivered (run (initial (fun _ => 0) (fun _ => 0)) tapEvents) ∧
      (run (initial (fun _ => 0) (fun _ => 0)) tapEvents).taken = [(1, 0x01), (1, 0x81)] :=
  ⟨vector_delivered (fun _ => 0) (fun _ => 0) tapEvents (by decide +kernel), by decide +kernel⟩

/-- The work loop is blocked while 32 keys are pressed; then it drains the ring. -/
def burstEvents : List DriverEvent :=
  (List.range 32).map (fun i => .interrupt (UInt8.ofNat (i + 1))) ++ List.replicate 31 .round

/-- The packet of the last key is dropped, and the vector says that the key is down. -/
theorem vector_not_delivered :
    ¬ ∀ (flags : ℕ → UInt16) (uptime : ℕ → UInt64) (es : List DriverEvent),
      Delivered (run (initial flags uptime) es) := by
  intro h
  have hd := (h (fun _ => 0) (fun _ => 0) burstEvents).down (by decide +kernel) false 0x20
    (by decide) (by decide +kernel)
  revert hd
  decide +kernel

end VoodooPS2.Keyboard
