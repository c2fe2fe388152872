import VoodooPS2.TouchpadCommands

/-! # A mode byte that does not get through

The sequence for the mode byte switches packets off first and on again last.  When the line loses a byte
or an acknowledge on the way, the request ends there and the driver goes on regardless.

`modeByte_outcome`: whatever the touchpad has been through before, and whatever the line loses, the driver
is told that the sequence was acknowledged just when nothing was lost, and then the touchpad has the new
mode byte and sends packets.  If it was not, either nothing has changed, or the touchpad sends no packets,
or it is only the last acknowledge that is missing: packets of a format that the driver has not asked
for are never sent. -/

namespace VoodooPS2.Touchpad

open Controller Dialogue PointingModel

variable {k : PointingModel}

/-- The sequence between the second byte and the last. -/
def middleBytes (quick : Bool) (v : UInt8) : List UInt8 :=
  [kDPSetMouseScaling1To1, kDPSetMouseScaling1To1] ++ encode v ++
    [kDPSetMouseSampleRate, 20, kDPSetMouseScaling1To1] ++
    if quick then [] else undocumentedSequence

/-- The bytes of both forms of the sequence. -/
def modeBytes (quick : Bool) (v : UInt8) : List UInt8 :=
  kDPSetDefaultsAndDisable :: kDPSetDefaultsAndDisable :: (middleBytes quick v ++ [kDPEnable])

theorem program_modeByte (quick : Bool) (v : UInt8) :
    (Operation.modeByte quick v).program false =
      (sendAll false (modeBytes quick v)).bind fun ok => .done (.acknowledged ok) := by
  cases quick <;> rfl

theorem length_modeBytes (quick : Bool) (v : UInt8) : (modeBytes quick v).length ≤ 255 := by
  cases quick <;> exact Nat.le_of_ble_eq_true rfl

/-- From any state, the whole sequence. -/
theorem shows_modeBytes (hk : k.IsTouchpad) (d : PointingDevice) (quick : Bool) (v : UInt8) :
    ∃ d', Shows k d (modeBytes quick v) [] { view d with modeByte := v, streaming := true } d' := by
  obtain ⟨d1, h1⟩ := shows_modeByteSequence hk d v
  cases quick with
  | true =>
      obtain ⟨d2, h2⟩ := shows_enable (k := k) h1.2.1
      rw [h1.2.2.2] at h2
      exact ⟨d2, h1.append h2⟩
  | false =>
      obtain ⟨d2, h2⟩ := shows_undocumentedSequence (k := k) h1.2.1
      obtain ⟨d3, h3⟩ := shows_enable (k := k) h2.2.1
      rw [h2.2.2.2, h1.2.2.2] at h3
      exact ⟨d3, (h1.append h2).append h3⟩

/-! ### No packets on the way -/

/-- Nothing but `kDP_Enable` switches packets on. -/
theorem streaming_step {d : PointingDevice} (h : d.streaming = false) {b : UInt8}
    (hb : b ≠ kDPEnable) : (k.step d b).streaming = false := by
  have hreset : k.reset.streaming = false := rfl
  rw [step]
  split
  · simp only [command, apply_ite PointingDevice.streaming, if_neg hb, h, hreset, ite_self]
  · rw [apply_ite PointingDevice.streaming, PointingModel.sampleRate]
    cases k.special d.resolutions with
    | none => exact (ite_congr rfl (fun _ => h) fun _ => h).trans (ite_self false)
    | some w => simp only [apply_ite PointingDevice.streaming, h, ite_self]

theorem streaming_after {d : PointingDevice} (h : d.streaming = false) {bytes : List UInt8}
    (hb : ∀ b ∈ bytes, b ≠ kDPEnable) : (k.device.after d bytes).streaming = false := by
  induction bytes generalizing d with
  | nil => exact h
  | cons b bs ih =>
      rw [List.forall_mem_cons] at hb
      exact ih (streaming_step h hb.1) hb.2

theorem encode_ne_enable (v : UInt8) : ∀ b ∈ encode v, b ≠ kDPEnable := by
  have hlow (a : UInt8) (ha : a < 4) : a ≠ kDPEnable := by
    rintro rfl
    exact absurd ha (by decide)
  intro b hb
  obtain ⟨a, ha, hba⟩ := List.mem_flatMap.mp hb
  rcases List.mem_cons.mp hba with rfl | hba
  · decide
  · rw [List.mem_singleton.mp hba]
    exact hlow a (arguments_lt v a ha)

theorem middleBytes_ne_enable (quick : Bool) (v : UInt8) :
    ∀ b ∈ middleBytes quick v, b ≠ kDPEnable := by
  intro b hb
  rw [middleBytes, List.mem_append, List.mem_append, List.mem_append] at hb
  rcases hb with ((hb | hb) | hb) | hb
  · exact ne_of_mem_of_not_mem hb (by decide)
  · exact encode_ne_enable v b hb
  · exact ne_of_mem_of_not_mem hb (by decide)
  · exact ne_of_mem_of_not_mem hb (by cases quick <;> decide)

/-- What the touchpad may be left with after a part of the sequence. -/
def Left (before now : View) (v : UInt8) : Prop :=
  now = before ∨ now.streaming = false ∨ now = { before with modeByte := v, streaming := true }

theorem left_take (hk : k.IsTouchpad) (d : PointingDevice) (quick : Bool) (v : UInt8) (i : ℕ) :
    Left (view d) (view (k.device.after d ((modeBytes quick v).take i))) v := by
  obtain ⟨d1, h1, hready, hview⟩ := shows_first (k := k) d
  have hfirst : k.device.step d kDPSetDefaultsAndDisable = d1 := h1.2
  match i with
  | 0 => exact .inl rfl
  | 1 =>
      have hone : k.device.after d ((modeBytes quick v).take 1) = d1 := h1.2
      rw [hone]
      rcases hview with h | h
      · exact .inl h
      · exact .inr (.inl (by rw [h]))
  | j + 2 =>
      obtain ⟨d2, h2⟩ := shows_disable (k := k) hready
      have hsecond : k.device.step d1 kDPSetDefaultsAndDisable = d2 := h2.1.2
      have hstill : d2.streaming = false := congrArg View.streaming h2.2.2.2
      have htake : (modeBytes quick v).take (j + 2) = kDPSetDefaultsAndDisable ::
          kDPSetDefaultsAndDisable :: (middleBytes quick v ++ [kDPEnable]).take j := rfl
      by_cases hj : j ≤ (middleBytes quick v).length
      · rw [htake, List.take_append_of_le_length hj, Device.after_cons, Device.after_cons, hfirst,
          hsecond]
        refine .inr (.inl (streaming_after hstill fun b hb => ?_))
        exact middleBytes_ne_enable quick v b (List.mem_of_mem_take hb)
      · obtain ⟨d', h⟩ := shows_modeBytes hk d quick v
        have hall : (modeBytes quick v).take (j + 2) = modeBytes quick v := by
          rw [htake, List.take_of_length_le]
          · rfl
          · rw [List.length_append, List.length_singleton]
            omega
        rw [hall, h.1.2, h.2.2.2]
        exact .inr (.inr rfl)

/-! ### The outcome -/

theorem terse_lossy {σ : Type} {D : Device σ UInt8} {bytes : List UInt8} {s : σ}
    (h : D.Acks kSCAcknowledge s bytes) (fs : List Device.Fault) : Terse D.lossy (s, fs) bytes := by
  induction bytes generalizing s fs with
  | nil => exact trivial
  | cons b bs ih =>
      cases fs with
      | nil => exact ⟨.inl h.1, fun _ => ih h.2 []⟩
      | cons f fs =>
          cases f with
          | none => exact ⟨.inl h.1, fun _ => ih h.2 fs⟩
          | symbolLost => exact ⟨.inr rfl, fun hack => absurd hack.symm (List.cons_ne_nil _ _)⟩
          | answerLost => exact ⟨.inr rfl, fun hack => absurd hack.symm (List.cons_ne_nil _ _)⟩

/-- **Packets of an unknown format are never sent.**  The sequence for the mode byte, sent to a touchpad
in any state over a line that loses what it likes, with any traffic of the keyboard in between. -/
theorem modeByte_outcome (hk : k.IsTouchpad) {traffic : ℕ → List Poll}
    (ht : Harmless .mouse traffic) (d : PointingDevice) (faults : List Device.Fault) (quick : Bool)
    (v : UInt8) (n : ℕ) :
    let r := live .mouse k.device.lossy traffic ((Operation.modeByte quick v).program false)
      (.idle (d, faults) n)
    (r.value = .acknowledged true ↔
        ∀ f ∈ faults.take (modeBytes quick v).length, f = Device.Fault.none) ∧
      (r.value = .acknowledged true →
        view r.line.device.1 = { view d with modeByte := v, streaming := true }) ∧
      Left (view d) (view r.line.device.1) v := by
  intro r
  obtain ⟨d', h⟩ := shows_modeBytes hk d quick v
  have hacks := h.1.1
  have hsend := converse_sendAll k.device.lossy (length_modeBytes quick v) (terse_lossy hacks faults)
  have hconverse : converse .mouse k.device.lossy ((Operation.modeByte quick v).program false)
      (.idle (d, faults)) = ⟨.acknowledged (decide
        (k.device.lossy.accepted kSCAcknowledge (d, faults) (modeBytes quick v) =
          (modeBytes quick v).length)),
        .idle (k.device.lossy.after (d, faults) ((modeBytes quick v).take
          (k.device.lossy.accepted kSCAcknowledge (d, faults) (modeBytes quick v) + 1))), []⟩ := by
    rw [program_modeByte, converse_bind, hsend]
    rfl
  have hstream : ((Operation.modeByte quick v).program false).OnStream .mouse := by
    rw [program_modeByte]
    exact Prog.OnStream.bind (onStream_sendAll (length_modeBytes quick v) false)
      (Prog.returns_true _) fun _ _ => trivial
  obtain ⟨hvalue, hline, -, -, -⟩ := live_idle k.device.lossy ht hstream hconverse n
  have hdevice := congrArg Line.device hline
  change r.line.device = k.device.lossy.after _ _ at hdevice
  have hiff : r.value = .acknowledged true ↔
      k.device.lossy.Acks kSCAcknowledge (d, faults) (modeBytes quick v) := by
    rw [← Device.accepted_eq_length_iff]
    change r.value = _ at hvalue
    rw [hvalue]
    simp
  have haccepted := k.device.lossy_accepted hacks faults
  refine ⟨hiff.trans (k.device.lossy_acks_iff hacks faults), fun hok => ?_, ?_⟩
  · have hall := hiff.mp hok
    have hlen := (k.device.lossy.accepted_eq_length_iff _ _ _).mpr hall
    rcases haccepted with ⟨-, hafter⟩ | ⟨hlt, -⟩
    · rw [hdevice, hlen, List.take_of_length_le (Nat.le_succ _), hafter, h.1.2, h.2.2.2]
    · omega
  · rw [hdevice]
    rcases haccepted with ⟨hall, hafter⟩ | ⟨-, hafter | hafter⟩
    · have hlen := (k.device.lossy.accepted_eq_length_iff _ _ _).mpr hall
      rw [hlen, List.take_of_length_le (Nat.le_succ _), hafter, h.1.2, h.2.2.2]
      exact .inr (.inr rfl)
    · rw [hafter]
      exact left_take hk d quick v _
    · rw [hafter]
      exact left_take hk d quick v _

/-- The first acknowledge is lost. -/
theorem modeByte_outcome_lost :
    let k := touchpad fun _ => (1, 0x47, 0x18)
    let r := live .mouse k.device.lossy typing ((Operation.modeByte true 0x81).program false)
      (.idle (poweredOn 0, [.answerLost]) 0)
    (r.value = .acknowledged true ↔
        ∀ f ∈ [Device.Fault.answerLost].take (modeBytes true 0x81).length, f = Device.Fault.none) ∧
      (r.value = .acknowledged true →
        view r.line.device.1 = { view (poweredOn 0) with modeByte := 0x81, streaming := true }) ∧
      Left (view (poweredOn 0)) (view r.line.device.1) 0x81 :=
  modeByte_outcome (isTouchpad_touchpad _) harmless_typing (poweredOn 0) [.answerLost] true 0x81 0

end VoodooPS2.Touchpad
