import VoodooPS2.Keyboard.MacroHistory
import VoodooPS2.Keyboard.StuckKeys

/-! # Wake (`ApplePS2Keyboard::initKeyboard`)

On wake the driver sends up every key whose bit is set in the key bit vector, clears the vector,
the modifiers and the prefix state, and empties the ring.  The vector is as the interrupt routine
left it, but the keys that are down for the HID system are as the dispatch function left them, and
between the two lie the ring and the packets a macro may begin with.  `initKeyboard` leaves the
latter alone.

`Driver` is all of this in one state, with the packets received.  `Clean` says what a wake is for:
the keys of the driver are all up, every code that was down is up, and no packet of before is
dispatched later.  `initKeyboard_clean_iff`: so it is if and only if no packet is held for a macro
and every code that is down is released by a key whose bit is set.  `not_clean_release` is a break
that arrived and was not yet dispatched. -/

namespace VoodooPS2.Keyboard

open Macros

/-! ### The break of a key -/

/-- The keys on which the first switch looks at the modifiers: keypad plus and minus, and
Delete. -/
def readsModifiers (keyCode : ℕ) : Prop := keyCode = 0x4e ∨ keyCode = 0x4a ∨ keyCode = 0x153

instance (keyCode : ℕ) : Decidable (readsModifiers keyCode) := inferInstanceAs (Decidable (_ ∨ _))

theorem branch_modifiers {o : Options} {keyCode : ℕ} (h : ¬ readsModifiers keyCode)
    (m n : UInt16) :
    branch o m keyCode = branch o n keyCode ∧ branch o m keyCode ≠ .brightness ∧
      branch o m keyCode ≠ .salute := by
  unfold readsModifiers at h
  unfold branch
  have h1 : ¬ (keyCode = 0x4e ∨ keyCode = 0x4a) := fun hc => h (hc.imp_right .inl)
  have h2 : ¬ keyCode = 0x153 := fun hc => h (.inr (.inr hc))
  rw [if_neg h1, if_neg h1, if_neg h2, if_neg h2]
  refine ⟨rfl, ?_, ?_⟩ <;> split_ifs <;> decide

namespace Dispatcher

variable (o : Options) (s : Dispatcher) (before after : KeyBitVector)

/-- Such a break sends nothing up in the first switch. -/
theorem specialCases_break {keyCode : ℕ} (h : ¬ readsModifiers keyCode) (c : UInt8) :
    (s.specialCases o before after keyCode false).down c = s.down c := by
  obtain ⟨-, hb, hs⟩ := branch_modifiers (o := o) h s.modifierState s.modifierState
  unfold specialCases
  cases hbr : branch o s.modifierState keyCode with
  | brightness => exact absurd hbr hb
  | salute => exact absurd hbr hs
  | sleep => rfl
  | backlight => rfl
  | toggle => rfl
  | ordinary => rfl

/-- The end of the function sends up nothing else. -/
theorem finish_break {keyCodeRaw keyCode : ℕ} {c : UInt8}
    (h : c ∉ finishReleases o keyCodeRaw keyCode) :
    (s.finish o keyCodeRaw keyCode false).down c = s.down c := by
  have hcode := adbCases_code o s keyCode false
  obtain ⟨hdown, heat⟩ := adbCases_release o s keyCode c
  unfold finishReleases at h
  unfold finish
  rcases hr : s.adbCases o (o.ps2ToADBMap keyCode) false with ⟨s', adb, eat⟩
  rw [hr] at hcode hdown heat
  dsimp only at hcode hdown heat ⊢
  subst hcode heat
  rw [← hdown]
  split_ifs with hcaps hk
  · rfl
  · unfold dispatchToHID
    dsimp only
    rw [if_neg (fun hc => absurd hc.1 Bool.false_ne_true)]
    by_cases hb : isBreakless o.flags keyCodeRaw = false
    · rw [if_pos ⟨hk.1, hb, hcaps⟩] at h
      rw [if_pos (.inr hb), send_down, if_neg (fun hc => h (List.mem_singleton.mpr hc))]
    · rw [if_neg (fun hc => hc.elim Bool.false_ne_true hb)]
  · rfl

end Dispatcher

section break_
variable {o : Options} {extended : Bool} {code : UInt8}
  (hfree : ¬ readsModifiers (o.ps2ToPS2Map (keyIndex extended code)))
include hfree

/-- What such a break sends up does not depend on the modifiers. -/
theorem releases_modifiers (m n : UInt16) :
    releases o m extended code = releases o n extended code := by
  obtain ⟨hb, -, -⟩ := branch_modifiers (o := o) hfree m n
  unfold releases specialReleases
  dsimp only
  rw [effectiveCode_eq hb, hb]

theorem pressedAgain_break (m : UInt16) (after : KeyBitVector) (c : UInt8) :
    c ∉ pressedAgain o m extended code false after := by
  obtain ⟨-, hb, -⟩ := branch_modifiers (o := o) hfree m m
  unfold pressedAgain specialAgain
  cases hbr : branch o m (o.ps2ToPS2Map (keyIndex extended code)) with
  | brightness => exact absurd hbr hb
  | _ =>
      split
      · exact List.not_mem_nil
      · exact List.not_mem_nil

variable (hcode : code < 0x80) (s : Dispatcher) (before after : KeyBitVector) (m : UInt16)
include hcode

/-- It changes no other code. -/
theorem dispatch_break_frame {c : UInt8} (hc : c ∉ releases o m extended code) :
    (dispatchKeyboardEventWithPacket o s (keyPacket extended code false) before after).1.down c =
      s.down c := by
  unfold releases at hc
  cases hl : isLang extended (scanByte code false) with
  | true =>
      rw [hl, if_pos rfl] at hc
      have hne := fun h => hc (List.mem_singleton.mpr h)
      rw [dispatch_lang o s before after hl, Dispatcher.send_down, Dispatcher.send_down,
        if_neg hne, if_neg hne]
  | false =>
      cases hp : isPrintScreenHeader (keyIndex extended code) with
      | true => rw [dispatch_header o s before after hcode hl hp]
      | false =>
          rw [hl, hp] at hc
          rw [dispatch_eq o s before after hcode hl hp]
          dsimp only at hc ⊢
          obtain ⟨hb, -, -⟩ := branch_modifiers (o := o) hfree m
            (trackModifier o s.modifierState (keyIndex extended code) false)
          rw [effectiveCode_eq hb] at hc
          have hf := fun h => hc (List.mem_append_right _ h)
          rw [Dispatcher.finish_break o _ hf, Dispatcher.specialCases_break o _ before after hfree]

/-- It sends up the codes it releases. -/
theorem dispatch_break (c : UInt8) :
    (dispatchKeyboardEventWithPacket o s (keyPacket extended code false) before after).1.down c =
      (s.down c && !decide (c ∈ releases o m extended code)) := by
  by_cases hc : c ∈ releases o m extended code
  · rw [decide_eq_true hc, Bool.not_true, Bool.and_false]
    by_contra hd
    rcases dispatch_release o s before after hcode (Bool.eq_true_of_not_eq_false hd) with h | ⟨-, h⟩
    · exact pressedAgain_break hfree _ after c h
    · rw [releases_modifiers hfree _ m] at h
      exact h hc
  · rw [decide_eq_false hc, Bool.not_false, Bool.and_true]
    exact dispatch_break_frame hfree hcode s before after m hc

end break_

/-! ### The driver -/

def kbvNumScancodes : ℕ := 256
def kbvNumKeycodes : ℕ := 512

/-- What the interrupt routine and the dispatch function keep about the keys. -/
structure Keys where
  scanner : Scanner
  dispatcher : Dispatcher

namespace Keys

/-- The function sees the vector as it stands: no byte arrives during the call. -/
def dispatchKeyboardEventWithPacket (o : Options) (k : Keys) (packet : UInt8 × UInt8) : Keys :=
  { k with
    dispatcher := (Keyboard.dispatchKeyboardEventWithPacket o k.dispatcher packet
      k.scanner.keyBitVector k.scanner.keyBitVector).1 }

/-- `_PS2modifierState`. -/
def modifierState (k : Keys) : UInt16 := k.dispatcher.modifierState

/-- The bit of a key. -/
def isKeyDown (k : Keys) (scanCode : ℕ) : Bool := k.scanner.keyBitVector.isKeyDown scanCode

/-- The last event dispatched for the code was a press. -/
def down (k : Keys) (c : UInt8) : Bool := k.dispatcher.down c

/-- The packet the loop of `initKeyboard` makes for a key. -/
def upPacket (scanCode : ℕ) : UInt8 × UInt8 :=
  (if scanCode < kbvNumScancodes then 1 else 2, UInt8.ofNat scanCode ||| kSCUpBit)

/-- A key that is down is sent up. -/
def releaseKey (o : Options) (k : Keys) (scanCode : ℕ) : Keys :=
  if k.isKeyDown scanCode then k.dispatchKeyboardEventWithPacket o (upPacket scanCode) else k

/-- The loop: for each key that is down, dispatch a key up for it. -/
def releaseKeys (o : Options) (k : Keys) : Keys :=
  (List.range kbvNumKeycodes).foldl (fun k scanCode => k.releaseKey o scanCode) k

/-- All keys up, no modifiers, no prefix pending. -/
def reset (k : Keys) : Keys :=
  { scanner := { k.scanner with keyBitVector := .zero, extendCount := 0 }
    dispatcher := { k.dispatcher with modifierState := 0 } }

theorem reset_down (k : Keys) (c : UInt8) : k.reset.down c = k.down c := rfl

end Keys

/-- The driver, with its ring, its macro buffer and the packets it received: those the interrupt
routine put together and those of ACPI notifications. -/
structure Driver where
  macros : State Keys
  received : List MacroPacket

/-- What happens to the driver. -/
inductive WakeEvent where
  | interrupt (data : UInt8) (time : UInt64)
  | packetReady
  /-- one round of `packetReady`, so that bytes may arrive between the rounds -/
  | round
  | notification (arg : UInt32) (time₁ time₂ : UInt64)
  /-- `onMacroTimer` -/
  | timer (now : UInt64)
  | wake
deriving DecidableEq, Repr

/-- `advanceHead`: a ring of 31 packets is full and drops the packet. -/
def bufferRing (ring : List MacroPacket) (p : MacroPacket) : List MacroPacket :=
  if ring.length < 31 then ring ++ [p] else ring

namespace Driver

def keys (d : Driver) : Keys := d.macros.keyboard

/-- A byte, with the reading of the clock if it ends a packet. -/
def interruptOccurred (o : Options) (d : Driver) (data : UInt8) (time : UInt64) : Driver :=
  match scan o.flags d.keys.scanner data with
  | (s, none) => { d with macros := { d.macros with keyboard := { d.keys with scanner := s } } }
  | (s, some key) =>
      { macros := { d.macros with
          keyboard := { d.keys with scanner := s }
          ring := bufferRing d.macros.ring ⟨key, time⟩ }
        received := d.received ++ [⟨key, time⟩] }

/-- `initKeyboard`, less the commands to the device and the LEDs. -/
def initKeyboard (o : Options) (d : Driver) : Driver :=
  { d with macros := { d.macros with keyboard := (d.keys.releaseKeys o).reset, ring := [] } }

end Driver

/-! ### The ring as a list -/

open RingBuffer PacketRing in
/-- The ring of the driver holds these packets. -/
structure Represents (R : PacketRing kPacketLength) (ring : List MacroPacket) : Prop where
  aligned : Aligned kPacketLength R.ringBuffer
  packets : (packets kPacketLength R.ringBuffer).map keyBytes = ring.map MacroPacket.key

namespace Represents
open RingBuffer PacketRing

variable {R : PacketRing kPacketLength} {ring : List MacroPacket}

/-- The interrupt routine puts a packet together at the head and advances it. -/
theorem bufferPacket (h : Represents R ring) (key : UInt8 × UInt8) (time : UInt64) :
    Represents (Keyboard.bufferPacket R key time) (bufferRing ring ⟨key, time⟩) := by
  have h2 := aligned_store (aligned_store h.aligned 0 key.1) 1 key.2
  have h3 := aligned_storeBytes (timeBytes time) h2 kPacketTimeOffset
  have hlen : kPacketTimeOffset + (timeBytes time).length ≤ kPacketLength := by
    rw [timeBytes_length]
    decide
  have hstored : RingBuffer.packets kPacketLength (((R.store 0 key.1).store 1 key.2).storeBytes
      kPacketTimeOffset (timeBytes time)).ringBuffer =
        RingBuffer.packets kPacketLength R.ringBuffer :=
    (packets_storeBytes _ h2 hlen).trans
      ((packets_headWrite (aligned_store h.aligned 0 key.1) (by decide) _).trans
        (packets_headWrite h.aligned (by decide) _))
  have hlength : (RingBuffer.packets kPacketLength R.ringBuffer).length = ring.length := by
    have hmap := congrArg List.length h.packets
    rwa [List.length_map, List.length_map] at hmap
  refine ⟨aligned_commit (by decide) h3, ?_⟩
  rw [Keyboard.bufferPacket, PacketRing.commit]
  dsimp only
  rw [packets_advanceHead (by decide) h3, hstored, hlength]
  unfold bufferRing
  split
  · rw [List.map_append, List.map_append, h.packets, List.map_singleton, keyBytes_bufferPacket]
    rfl
  · exact h.packets

/-- A round takes the oldest packet. -/
theorem round (h : Represents R ring) : Represents R.packetReadyRound ring.tail := by
  refine ⟨aligned_round (by decide) h.aligned, ?_⟩
  rw [packets_round (by decide) h.aligned, List.map_tail, h.packets, List.map_tail]

/-- `_ringBuffer.reset()` leaves none. -/
theorem reset (R : PacketRing kPacketLength) :
    Represents { R with ringBuffer := R.ringBuffer.reset } [] := by
  refine ⟨aligned_reset (by decide) R.ringBuffer, ?_⟩
  show (RingBuffer.packets kPacketLength R.ringBuffer.reset).map keyBytes = []
  rw [packets_reset]
  rfl

end Represents

/-- The driver and the decoder with its ring of bytes see the same. -/
structure Driver.Decodes (o : Options) (d : Driver) (decoder : Decoder) : Prop where
  flags : decoder.flags = o.flags
  scanner : decoder.scanner = d.keys.scanner
  ring : Represents decoder.ring d.macros.ring

/-- A byte keeps them together. -/
theorem Driver.Decodes.interruptOccurred {o : Options} {d : Driver} {decoder : Decoder}
    (h : d.Decodes o decoder) (data : UInt8) :
    (d.interruptOccurred o data (decoder.uptime decoder.readings)).Decodes o
      (Keyboard.interruptOccurred decoder data).1 := by
  unfold Driver.interruptOccurred Keyboard.interruptOccurred
  rw [h.flags, h.scanner]
  rcases scan o.flags d.keys.scanner data with ⟨s, _ | key⟩
  · exact ⟨rfl, rfl, h.ring⟩
  · exact ⟨rfl, rfl, h.ring.bufferPacket key _⟩

/-! ### Steps and runs -/

section driver
variable (o : Options) (m : Settings)

/-- The dispatch function as the macros use it. -/
def dispatchPacket (k : Keys) (p : MacroPacket) : Keys := k.dispatchKeyboardEventWithPacket o p.key

namespace Driver

/-- One round of `packetReady`. -/
def packetReadyRound (d : Driver) : Driver :=
  match d.macros.ring with
  | [] => d
  | p :: ring =>
      let s : State Keys := { d.macros with ring := ring }
      { d with
        macros :=
          if p.key.1 ≠ 0 then s.offer (dispatchPacket o) Keys.modifierState m p else s }

def step (d : Driver) : WakeEvent → Driver
  | .interrupt data time => d.interruptOccurred o data time
  | .packetReady =>
      { d with macros := d.macros.packetReady (dispatchPacket o) Keys.modifierState m }
  | .round => d.packetReadyRound o m
  | .notification arg time₁ time₂ =>
      { macros := d.macros.notification (dispatchPacket o) Keys.modifierState m arg time₁ time₂
        received := d.received ++ State.notified arg time₁ time₂ }
  | .timer now =>
      { d with macros := d.macros.onMacroTimer (dispatchPacket o) Keys.modifierState m now }
  | .wake => d.initKeyboard o

def run (d : Driver) (events : List WakeEvent) : Driver := events.foldl (step o m) d

/-- The driver after `init`: no key is down and nothing was dispatched. -/
def initial (macroBuffer : ℕ → MacroPacket) : Driver :=
  ⟨Macros.initial ⟨⟨0, 0, .zero⟩, Session.initial.dispatcher⟩ macroBuffer, []⟩

/-- The packets dispatched since an earlier state, with those a macro absorbed in the place of its
output. -/
def dispatchedSince (earlier d : Driver) : List MacroPacket :=
  (d.macros.log.drop earlier.macros.log.length).flatMap Entry.source

/-- The packets received since. -/
def receivedSince (earlier d : Driver) : List MacroPacket := d.received.drop earlier.received.length

/-- Whatever happens after a wake: the packets dispatched, counted with repetitions, were received
after it. -/
def Forgotten (d : Driver) : Prop :=
  ∀ events, (dispatchedSince d (run o m (d.initKeyboard o) events)).Subperm
    (receivedSince d (run o m (d.initKeyboard o) events))

/-- What a wake is for: the keys of the driver are up, the ring is empty, every code that was down
is up, and no packet of before the wake is dispatched after it. -/
structure Clean (d : Driver) : Prop where
  keys : ∀ scanCode, (d.initKeyboard o).keys.isKeyDown scanCode = false
  modifierState : (d.initKeyboard o).keys.modifierState = 0
  extendCount : (d.initKeyboard o).keys.scanner.extendCount = 0
  ring : (d.initKeyboard o).macros.ring = []
  released : ∀ c, d.keys.down c = true → (d.initKeyboard o).keys.down c = false
  forgotten : d.Forgotten o m

end Driver

/-! ### The loop -/

/-- The key of an entry of the vector. -/
def extendedOf (scanCode : ℕ) : Bool := decide (kbvNumScancodes ≤ scanCode)

def codeOf (scanCode : ℕ) : UInt8 := UInt8.ofNat (scanCode % 128)

/-- The key is none of those on which the first switch looks at the modifiers. -/
def ModifierFree (scanCode : ℕ) : Prop :=
  ¬ readsModifiers (o.ps2ToPS2Map (keyIndex (extendedOf scanCode) (codeOf scanCode)))

instance (scanCode : ℕ) : Decidable (ModifierFree o scanCode) := inferInstanceAs (Decidable (¬ _))

/-- What its break sends up. -/
def releasedBy (scanCode : ℕ) : List UInt8 := releases o 0 (extendedOf scanCode) (codeOf scanCode)

theorem upPacket_eq : ∀ scanCode < 512,
    Keys.upPacket scanCode = keyPacket (extendedOf scanCode) (codeOf scanCode) false := by
  decide +kernel

theorem codeOf_lt (scanCode : ℕ) : codeOf scanCode < 0x80 := by
  have hmod : scanCode % 128 < 128 := Nat.mod_lt _ (by decide)
  rw [UInt8.lt_iff_toNat_lt, codeOf, UInt8.toNat_ofNat_of_lt' (Nat.lt_trans hmod (by decide))]
  exact hmod

theorem releaseKey_scanner (k : Keys) (scanCode : ℕ) :
    (k.releaseKey o scanCode).scanner = k.scanner := by
  unfold Keys.releaseKey
  split <;> rfl

theorem releaseKey_down {k : Keys} {scanCode : ℕ} (hlt : scanCode < kbvNumKeycodes)
    (hfree : k.isKeyDown scanCode = true → ModifierFree o scanCode) (c : UInt8) :
    (k.releaseKey o scanCode).down c = true ↔
      k.down c = true ∧ ¬ (k.isKeyDown scanCode = true ∧ c ∈ releasedBy o scanCode) := by
  unfold Keys.releaseKey
  by_cases hk : k.isKeyDown scanCode = true
  · have hbreak := dispatch_break (hfree hk) (codeOf_lt scanCode) k.dispatcher
      k.scanner.keyBitVector k.scanner.keyBitVector 0 c
    rw [← upPacket_eq scanCode hlt] at hbreak
    rw [if_pos hk]
    show (Keyboard.dispatchKeyboardEventWithPacket o k.dispatcher (Keys.upPacket scanCode)
      k.scanner.keyBitVector k.scanner.keyBitVector).1.down c = true ↔ _
    rw [hbreak, Bool.and_eq_true, Bool.not_eq_true', decide_eq_false_iff_not]
    exact and_congr_right (fun _ => not_congr ⟨fun h => ⟨hk, h⟩, And.right⟩)
  · rw [if_neg hk]
    exact ⟨fun h => ⟨h, fun hc => hk hc.1⟩, And.left⟩

/-- Any part of the loop: the vector stays, and a code is down after it if it was down before and no
key of the part releases it. -/
theorem releaseLoop_down (codes : List ℕ) {k : Keys} (hlt : ∀ n ∈ codes, n < kbvNumKeycodes)
    (hfree : ∀ n ∈ codes, k.isKeyDown n = true → ModifierFree o n) (c : UInt8) :
    (codes.foldl (fun k n => k.releaseKey o n) k).down c = true ↔
      k.down c = true ∧ ¬ ∃ n ∈ codes, k.isKeyDown n = true ∧ c ∈ releasedBy o n := by
  induction codes generalizing k with
  | nil => simp
  | cons n codes ih =>
      obtain ⟨hn, hlt⟩ := List.forall_mem_cons.mp hlt
      obtain ⟨hf, hfree⟩ := List.forall_mem_cons.mp hfree
      have hbit : ∀ i, (k.releaseKey o n).isKeyDown i = k.isKeyDown i := by
        intro i
        unfold Keys.isKeyDown
        rw [releaseKey_scanner]
      rw [List.foldl_cons, ih hlt (fun i hi => by rw [hbit]; exact hfree i hi),
        releaseKey_down o hn hf]
      simp only [hbit, List.exists_mem_cons_iff, not_or, and_assoc]

/-- Every code that is down is released by a key whose bit is set. -/
def Keys.BitsCover (k : Keys) : Prop :=
  ∀ c, k.down c = true →
    ∃ scanCode < kbvNumKeycodes, k.isKeyDown scanCode = true ∧ c ∈ releasedBy o scanCode

/-- The loop sends up all codes if and only if the bits cover them. -/
theorem releaseKeys_iff {k : Keys}
    (hfree : ∀ n < kbvNumKeycodes, k.isKeyDown n = true → ModifierFree o n) :
    (∀ c, k.down c = true → (k.releaseKeys o).down c = false) ↔ k.BitsCover o := by
  refine forall_congr' (fun c => ?_)
  have hloop := releaseLoop_down o (List.range kbvNumKeycodes) (k := k)
    (fun n hn => List.mem_range.mp hn) (fun n hn => hfree n (List.mem_range.mp hn)) c
  simp only [List.mem_range] at hloop
  refine imp_congr_right (fun hd => ?_)
  rw [← Bool.not_eq_true]
  rw [Keys.releaseKeys, hloop, not_and, not_not]
  exact ⟨fun h => h hd, fun h _ => h⟩

/-! ### What is received and what is dispatched -/

namespace Driver

variable {d d₀ d' : Driver}

/-- Every step accounts for its packets. -/
theorem accounted_step (h : d.macros.Accounted m) (e : WakeEvent) :
    (d.step o m e).macros.Accounted m := by
  cases e with
  | interrupt data time =>
      rw [step, interruptOccurred]
      split
      · exact ⟨h.offered, h.entries, h.current⟩
      · exact ⟨h.offered, h.entries, h.current⟩
  | packetReady => exact h.packetReady
  | round =>
      rw [step, packetReadyRound]
      cases d.macros.ring with
      | nil => exact h
      | cons p ring =>
          have h' : State.Accounted m { d.macros with ring := ring } :=
            ⟨h.offered, h.entries, h.current⟩
          dsimp only
          split
          · exact h'.offerAll [p]
          · exact h'
  | notification arg time₁ time₂ =>
      show (State.notification _ _ m d.macros arg time₁ time₂).Accounted m
      rw [State.notification_eq]
      exact h.offerAll _
  | timer now => exact h.onMacroTimer now
  | wake => exact ⟨h.offered, h.entries, h.current⟩

theorem accounted_run (h : d.macros.Accounted m) (events : List WakeEvent) :
    (d.run o m events).macros.Accounted m := by
  induction events generalizing d with
  | nil => exact h
  | cons e events ih => exact ih (accounted_step o m h e)

theorem accounted_initial (macroBuffer : ℕ → MacroPacket) :
    (initial macroBuffer).macros.Accounted m where
  offered := rfl
  entries _ he := absurd he List.not_mem_nil
  current := .inl rfl

/-- Since an earlier state whose ring was empty: the packets offered, and those that wait in the
ring, were received. -/
structure Later (d₀ d : Driver) : Prop where
  log : d₀.macros.log <+: d.macros.log
  offered : ∃ new fresh, d.macros.offered = d₀.macros.offered ++ new ∧
    d.received = d₀.received ++ fresh ∧ (new ++ d.macros.ring).Subperm fresh

theorem later_refl (hring : d.macros.ring = []) : Later d d where
  log := List.prefix_refl _
  offered := ⟨[], [], (List.append_nil _).symm, (List.append_nil _).symm, by rw [hring]; rfl⟩

/-- A step that offers what it takes from the ring or receives. -/
theorem Later.extend (h : Later d₀ d) {new fresh : List MacroPacket}
    (hlog : d.macros.log <+: d'.macros.log)
    (hoff : d'.macros.offered = d.macros.offered ++ new) (hrec : d'.received = d.received ++ fresh)
    (hsub : (new ++ d'.macros.ring).Subperm (d.macros.ring ++ fresh)) : Later d₀ d' := by
  obtain ⟨new₀, fresh₀, hoff₀, hrec₀, hsub₀⟩ := h.offered
  refine ⟨h.log.trans hlog, new₀ ++ new, fresh₀ ++ fresh, ?_, ?_, ?_⟩
  · rw [hoff, hoff₀, List.append_assoc]
  · rw [hrec, hrec₀, List.append_assoc]
  · rw [List.append_assoc]
    refine ((List.subperm_append_left new₀).mpr hsub).trans ?_
    rw [← List.append_assoc]
    exact (List.subperm_append_right fresh).mpr hsub₀

theorem bufferRing_sublist (ring : List MacroPacket) (p : MacroPacket) :
    (bufferRing ring p).Sublist (ring ++ [p]) := by
  unfold bufferRing
  split
  · exact List.Sublist.refl _
  · exact List.sublist_append_left _ _

theorem Later.step (h : Later d₀ d) (e : WakeEvent) : Later d₀ (d.step o m e) := by
  cases e with
  | interrupt data time =>
      rw [Driver.step, interruptOccurred]
      rcases scan o.flags d.keys.scanner data with ⟨s, _ | key⟩
      · exact h.extend (List.prefix_refl _) (List.append_nil _).symm (List.append_nil _).symm
          (List.sublist_append_left _ _).subperm
      · exact h.extend (List.prefix_refl _) (List.append_nil _).symm rfl
          (bufferRing_sublist _ _).subperm
  | packetReady =>
      obtain ⟨hr, ho⟩ := State.packetReady_offered (dispatchPacket o) Keys.modifierState m d.macros
      refine h.extend ((State.blind_packetReady _ _ m).log_extends d.macros) ho
        (List.append_nil _).symm ?_
      show (_ ++ (State.packetReady _ _ m d.macros).ring).Subperm _
      rw [hr, List.append_nil, List.append_nil]
      exact List.filter_sublist.subperm
  | round =>
      rw [Driver.step, packetReadyRound]
      rcases hring : d.macros.ring with _ | ⟨p, ring⟩
      · exact h
      · dsimp only
        split
        · obtain ⟨hr, ho⟩ := State.offer_offered (dispatchPacket o) Keys.modifierState m
            { d.macros with ring := ring } p
          refine h.extend ((State.blind_offer _ _ m p).log_extends { d.macros with ring := ring })
            ho (List.append_nil _).symm ?_
          show (_ ++ (State.offer _ _ m _ p).ring).Subperm _
          rw [hr, hring, List.append_nil]
          rfl
        · refine h.extend (List.prefix_refl _) (List.append_nil _).symm
            (List.append_nil _).symm ?_
          show ring.Subperm _
          rw [hring, List.append_nil]
          exact (List.sublist_cons_self p ring).subperm
  | notification arg time₁ time₂ =>
      obtain ⟨hr, ho⟩ := State.offerAll_offered (dispatchPacket o) Keys.modifierState m d.macros
        (State.notified arg time₁ time₂)
      rw [← State.notification_eq] at hr ho
      have hlog := (State.blind_offerAll (dispatchPacket o) Keys.modifierState m
        (State.notified arg time₁ time₂)).log_extends d.macros
      rw [← State.notification_eq] at hlog
      refine h.extend hlog ho rfl ?_
      show (_ ++ (State.notification _ _ m d.macros arg time₁ time₂).ring).Subperm _
      rw [hr]
      exact List.perm_append_comm.subperm
  | timer now =>
      obtain ⟨hr, ho⟩ := State.onMacroTimer_offered (dispatchPacket o) Keys.modifierState m d.macros
        now
      refine h.extend ((State.blind_onMacroTimer _ _ m now).log_extends d.macros) ho
        (List.append_nil _).symm ?_
      show (_ ++ (State.onMacroTimer _ _ m d.macros now).ring).Subperm _
      rw [hr, List.append_nil, List.append_nil]
      exact List.filter_sublist.subperm
  | wake =>
      exact h.extend (List.prefix_refl _) (List.append_nil _).symm (List.append_nil _).symm
        (List.nil_sublist _).subperm

theorem Later.run (h : Later d₀ d) (events : List WakeEvent) : Later d₀ (d.run o m events) := by
  induction events generalizing d with
  | nil => exact h
  | cons e events ih => exact ih (h.step o m e)

/-- With no packet held, all that is dispatched was received since. -/
theorem forgotten_of_current (h : d.macros.Accounted m) (hcur : d.macros.macroCurrent = 0) :
    d.Forgotten o m := by
  intro events
  have hlater := (later_refl (d := d.initKeyboard o) rfl).run o m events
  have hacc := accounted_run o m (d := d.initKeyboard o)
    ⟨h.offered, h.entries, h.current⟩ events
  generalize run o m (d.initKeyboard o) events = d' at hlater hacc
  obtain ⟨new, fresh, hoff, hrec, hsub⟩ := hlater.offered
  obtain ⟨log, hlog⟩ := hlater.log
  have hlog' : d'.macros.log = d.macros.log ++ log := hlog.symm
  have hoff' : d'.macros.offered = d.macros.offered ++ new := hoff
  have hrec' : d'.received = d.received ++ fresh := hrec
  have hheld : d.macros.held = [] := by
    rw [State.held, hcur]
    rfl
  have hnew := h.between hacc hlog' hoff'
  rw [hheld, List.nil_append] at hnew
  rw [dispatchedSince, receivedSince, hlog', hrec', List.drop_left, List.drop_left]
  refine (List.Sublist.subperm ?_).trans hsub
  rw [hnew, List.append_assoc]
  exact List.sublist_append_left _ _

/-- A notification of a press, as often as one likes. -/
def knock (time : UInt64) (n : ℕ) : List WakeEvent :=
  List.replicate n (.notification 0x0101 time time)

theorem run_knock (time : UInt64) (n : ℕ) (d : Driver) :
    run o m d (knock time n) =
      ⟨d.macros.offerAll (dispatchPacket o) Keys.modifierState m
          (List.replicate n ⟨(1, 1), time⟩),
        d.received ++ List.replicate n ⟨(1, 1), time⟩⟩ := by
  induction n generalizing d with
  | zero => simp [knock, run, State.offerAll]
  | succ n ih =>
      have hstep : step o m d (.notification 0x0101 time time) =
          ⟨d.macros.offerAll (dispatchPacket o) Keys.modifierState m [⟨(1, 1), time⟩],
            d.received ++ [⟨(1, 1), time⟩]⟩ := by
        rw [step, State.notification_eq]
        rfl
      have hrun : run o m d (knock time (n + 1)) =
          run o m (step o m d (.notification 0x0101 time time)) (knock time n) := by
        rw [knock, List.replicate_succ]
        rfl
      rw [hrun, ih, hstep, List.replicate_succ, List.append_assoc]
      rfl

/-- A packet held is dispatched, or absorbed by a macro, when others follow. -/
theorem current_of_forgotten (h : d.macros.Accounted m) (hf : d.Forgotten o m) :
    d.macros.macroCurrent = 0 := by
  by_contra hne
  have hcur : 0 < d.macros.macroCurrent := Nat.pos_of_ne_zero hne
  obtain ⟨first, rest, hheld⟩ : ∃ first rest, d.macros.held = first :: rest := by
    refine List.exists_cons_of_ne_nil (fun hnil => hne ?_)
    simpa [State.held] using hnil
  have hd' : (d.initKeyboard o).macros.Accounted m := ⟨h.offered, h.entries, h.current⟩
  obtain ⟨time, htime⟩ : ∃ time : UInt64, first.time ≠ time := ⟨first.time + 1, by simp⟩
  have hfn := hf (knock time (macroMax m.macroInversion))
  have hacc := accounted_run o m hd' (knock time (macroMax m.macroInversion))
  rw [run_knock] at hfn hacc
  have hprog := State.offers_progress (dispatchPacket o) Keys.modifierState hd' hcur
    (List.replicate (macroMax m.macroInversion) ⟨(1, 1), time⟩) (List.length_replicate ▸ le_rfl)
  obtain ⟨log, hlog⟩ := (State.blind_offerAll (dispatchPacket o) Keys.modifierState m
    (List.replicate (macroMax m.macroInversion) ⟨(1, 1), time⟩)).log_extends
      (d.initKeyboard o).macros
  have hoff := (State.offerAll_offered (dispatchPacket o) Keys.modifierState m
    (d.initKeyboard o).macros (List.replicate (macroMax m.macroInversion) ⟨(1, 1), time⟩)).2
  generalize State.offerAll (dispatchPacket o) Keys.modifierState m
    (List.replicate (macroMax m.macroInversion) ⟨(1, 1), time⟩) (d.initKeyboard o).macros = s'
    at hfn hacc hprog hlog hoff
  have hlog' : s'.log = d.macros.log ++ log := hlog.symm
  have hoff' : s'.offered = d.macros.offered ++ _ := hoff
  have hne : log ≠ [] := by
    rintro rfl
    rw [hlog', List.append_nil] at hprog
    exact lt_irrefl _ hprog
  have hfirst := h.first_dispatched hacc hlog' hoff' hne hheld
  have hrec : (d.initKeyboard o).received = d.received := rfl
  rw [dispatchedSince, receivedSince] at hfn
  dsimp only at hfn
  rw [hlog', hrec, List.drop_left, List.drop_left] at hfn
  exact htime (congrArg MacroPacket.time (List.mem_replicate.mp (hfn.subset hfirst)).2)

end Driver

/-! ### The law of the wake -/

namespace Driver

theorem initKeyboard_down (d : Driver) (c : UInt8) :
    (d.initKeyboard o).keys.down c = (d.keys.releaseKeys o).down c :=
  Keys.reset_down (d.keys.releaseKeys o) c

/-- The condition: no packet is held for a macro, and every code that is down is released by a key
whose bit is set. -/
def Settled (d : Driver) : Prop := d.macros.macroCurrent = 0 ∧ d.keys.BitsCover o

end Driver

/-- In every run: a wake leaves a clean state if and only if no packet is held for a macro and the
bits of the vector cover the codes that are down. -/
theorem initKeyboard_clean_iff (macroBuffer : ℕ → MacroPacket) (events : List WakeEvent)
    (hfree : ∀ scanCode < kbvNumKeycodes,
      (Driver.run o m (Driver.initial macroBuffer) events).keys.isKeyDown scanCode = true →
        ModifierFree o scanCode) :
    (Driver.run o m (Driver.initial macroBuffer) events).Clean o m ↔
      (Driver.run o m (Driver.initial macroBuffer) events).Settled o := by
  have hacc := Driver.accounted_run o m (Driver.accounted_initial m macroBuffer) events
  generalize Driver.run o m (Driver.initial macroBuffer) events = d at hfree hacc ⊢
  have hdown : (∀ c, d.keys.down c = true → (d.initKeyboard o).keys.down c = false) ↔
      d.keys.BitsCover o := by
    simp only [Driver.initKeyboard_down]
    exact releaseKeys_iff o hfree
  constructor
  · intro h
    exact ⟨Driver.current_of_forgotten o m hacc h.forgotten, hdown.mp h.released⟩
  · rintro ⟨hcur, hbits⟩
    exact
      { keys := fun scanCode => KeyBitVector.isKeyDown_zero scanCode
        modifierState := rfl
        extendCount := rfl
        ring := rfl
        released := hdown.mpr hbits
        forgotten := Driver.forgotten_of_current o m hacc hcur }

end driver

/-- A driver with one macro, of the keys that many keyboards send for a display switch. -/
def wakeSettings : Settings where
  macroInversion := loadMacroData
    [some [0xFF, 0xFF, 0x02, 0x66, 0x00, 0x00, 0x00, 0x00, 0x02, 0x5B, 0x01, 0x19]]
  macroTimer := true
  macroMaxTime := 25000000

/-- A is pressed and the press is dispatched. -/
def pressedEvents : List WakeEvent := [.interrupt 0x1e 0, .packetReady]

/-- With A down and nothing pending a wake leaves a clean state. -/
theorem initKeyboard_clean_pressed :
    (Driver.run Session.stockOptions wakeSettings (Driver.initial (fun _ => ⟨(0, 0), 0⟩))
      pressedEvents).Clean Session.stockOptions wakeSettings := by
  refine (initKeyboard_clean_iff Session.stockOptions wakeSettings _ pressedEvents ?_).mpr ⟨?_, ?_⟩
  · decide +kernel
  · decide +kernel
  · intro c hc
    have hall : ∀ n < 256, (Driver.run Session.stockOptions wakeSettings
        (Driver.initial (fun _ => ⟨(0, 0), 0⟩)) pressedEvents).keys.down (UInt8.ofNat n) = true →
          n = 0 := by
      decide +kernel
    have hzero := hall c.toNat c.toNat_lt
    rw [UInt8.ofNat_toNat] at hzero
    obtain rfl : c = 0 := UInt8.toNat_inj.mp (hzero hc)
    exact ⟨0x1e, by decide +kernel⟩

/-- The break of A arrives and is not yet dispatched. -/
def releasedEvents : List WakeEvent := pressedEvents ++ [.interrupt 0x9e 0]

/-- Its bit is clear, its packet is thrown away with the ring, and its code stays down. -/
theorem not_clean_release :
    ¬ ∀ (o : Options) (m : Settings) (macroBuffer : ℕ → MacroPacket) (events : List WakeEvent),
      (∀ scanCode < kbvNumKeycodes,
        (Driver.run o m (Driver.initial macroBuffer) events).keys.isKeyDown scanCode = true →
          ModifierFree o scanCode) →
      (Driver.run o m (Driver.initial macroBuffer) events).Clean o m := by
  intro h
  have hclear : ∀ scanCode < kbvNumKeycodes,
      (Driver.run Session.stockOptions wakeSettings (Driver.initial (fun _ => ⟨(0, 0), 0⟩))
        releasedEvents).keys.isKeyDown scanCode = false := by
    decide +kernel
  have hreleased := (h Session.stockOptions wakeSettings (fun _ => ⟨(0, 0), 0⟩) releasedEvents
    (fun n hn hk => absurd ((hclear n hn).symm.trans hk) Bool.false_ne_true)).released
  simp only [Driver.initKeyboard_down] at hreleased
  obtain ⟨n, hn, hk, -⟩ := (releaseKeys_iff Session.stockOptions
    (fun n hn hk => absurd ((hclear n hn).symm.trans hk) Bool.false_ne_true)).mp hreleased 0
      (by decide +kernel)
  exact absurd ((hclear n hn).symm.trans hk) Bool.false_ne_true

end VoodooPS2.Keyboard
