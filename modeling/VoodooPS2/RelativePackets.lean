import VoodooPS2.Mouse.Buttons

/-! # Relative packets in three drivers (`dispatchRelativePointerEventWithPacket`)

The drivers of mice, of Sentelic pads and of ALPS pads each take apart the standard packet: flags with
the buttons and the signs, two deltas, and for some devices a byte of the wheel.  They were made from
one another, and code sign extension, the wheel and the direction of the vertical axis each in its own
way.

`agree_iff`: the three report the same for a packet if and only if the mouse driver is not switched
off, nor its wheel, and the packet holds no vertical motion, which the ALPS driver reports the other
way around. -/

namespace VoodooPS2

open Mouse (PointerPacket PointerEvent Settings Pointer)

/-- An `int` computed with unsigned numbers. -/
def signed (n : UInt32) : ℤ := n.toInt32.toInt

namespace Sentelic

def kModeByteValueGesturesEnabled : UInt8 := 0x00

def FSP_PKT_TYPE_NORMAL_OPC : UInt8 := 0x03

/-- `((packet[0] & sign) ? 0xffffff00 : 0) | delta`. -/
def extended (flags sign delta : UInt8) : UInt32 :=
  (if flags &&& sign ≠ 0 then 0xffffff00 else 0) ||| delta.toUInt32

/-- The buttons, unless they are a tap and pad clicking is off. -/
def buttons (touchPadModeByte : UInt8) (p : PointerPacket) : UInt32 :=
  if touchPadModeByte = kModeByteValueGesturesEnabled ∨
      p.flags >>> 6 ≠ FSP_PKT_TYPE_NORMAL_OPC then
    (if p.flags &&& 0x1 ≠ 0 then 0x1 else 0) ||| (if p.flags &&& 0x2 ≠ 0 then 0x2 else 0) |||
      (if p.flags &&& 0x4 ≠ 0 then 0x4 else 0)
  else 0

def dispatchRelativePointerEventWithPacket (touchPadModeByte : UInt8) (p : PointerPacket) :
    List PointerEvent :=
  .relative (signed (extended p.flags 0x10 p.x)) (signed (-extended p.flags 0x20 p.y))
      (buttons touchPadModeByte p) ::
    match p.z with
    | none => []
    | some z => [.scrollWheel (((z &&& 8).toNat : ℤ) - (z &&& 7).toNat)]

end Sentelic

namespace ALPS

def buttons (p : PointerPacket) : UInt32 :=
  (if p.flags &&& 0x1 ≠ 0 then 0x1 else 0) ||| (if p.flags &&& 0x2 ≠ 0 then 0x2 else 0) |||
    (if p.flags &&& 0x4 ≠ 0 then 0x4 else 0)

def dispatchRelativePointerEventWithPacket (p : PointerPacket) : List PointerEvent :=
  let dx : ℤ := p.x.toNat
  let dx := if p.flags &&& 0x10 ≠ 0 then dx - 256 else dx
  let dy : ℤ := p.y.toNat
  let dy := if p.flags &&& 0x20 ≠ 0 then dy - 256 else dy
  [.relative dx dy (buttons p)]

end ALPS

/-! ### What is reported -/

/-- A motion with the buttons, and how far the wheel was turned. -/
structure Report where
  dx : ℤ
  dy : ℤ
  buttons : UInt32
  wheel : ℤ
deriving DecidableEq, Repr

/-- The report that the events of a packet make. -/
def reportOf : List PointerEvent → Option Report
  | [.relative dx dy buttons] => some ⟨dx, dy, buttons, 0⟩
  | [.relative dx dy buttons, .scrollWheel dz] => some ⟨dx, dy, buttons, dz⟩
  | _ => none

/-- No fake middle button, no typing filter, no inversion, and an Intellimouse. -/
structure Plain (o : Settings) : Prop where
  fakemiddlebutton : o.fakemiddlebutton = false
  palmWt : o.palmWt = false
  outzoneWt : o.outzoneWt = false
  mouseyinverter : o.mouseyinverter = 1
  scrollyinverter : o.scrollyinverter = 1
  explorer : o.explorer = false

/-- The mouse and the Sentelic driver report the same, and for three bytes the ALPS driver too. -/
def Agree (o : Settings) (d : Pointer) (p : PointerPacket) (now : UInt64) : Prop :=
  ∃ r, reportOf (d.dispatchRelativePointerEventWithPacket o p now).2 = some r ∧
    reportOf (Sentelic.dispatchRelativePointerEventWithPacket
      Sentelic.kModeByteValueGesturesEnabled p) = some r ∧
    (p.z = none → reportOf (ALPS.dispatchRelativePointerEventWithPacket p) = some r)

/-- The mouse driver reports the wheel. -/
def WheelOn (o : Settings) (z : UInt8) : Prop :=
  z &&& 0xF = 0 ∨ o.actliketrackpad = false ∨ o.scroll = true

/-- The packet holds no vertical motion. -/
def Level (p : PointerPacket) : Prop := p.flags &&& 0x20 = 0 ∧ p.y = 0

/-! ### The three decoders -/

theorem signed_extended (flags sign delta : UInt8) :
    signed (Sentelic.extended flags sign delta) =
        (if flags &&& sign ≠ 0 then -0x100 else 0) + delta.toNat ∧
      signed (-Sentelic.extended flags sign delta) =
        -((if flags &&& sign ≠ 0 then -0x100 else 0) + delta.toNat) := by
  have hall : ∀ n < 256,
      (signed (0xffffff00 ||| (UInt8.ofNat n).toUInt32) = -0x100 + n ∧
        signed (-(0xffffff00 ||| (UInt8.ofNat n).toUInt32)) = -(-0x100 + n)) ∧
      (signed (0 ||| (UInt8.ofNat n).toUInt32) = 0 + n ∧
        signed (-(0 ||| (UInt8.ofNat n).toUInt32)) = -(0 + n)) := by
    decide +kernel
  have hdelta := hall delta.toNat (UInt8.toNat_lt delta)
  rw [UInt8.ofNat_toNat] at hdelta
  unfold Sentelic.extended
  split
  · exact hdelta.1
  · exact hdelta.2

/-- The three buttons are the three low bits. -/
theorem buttons_eq (p : PointerPacket) : ALPS.buttons p = (p.flags &&& 0x7).toUInt32 := by
  have hall : ∀ n < 256,
      ((if UInt8.ofNat n &&& 0x1 ≠ 0 then (0x1 : UInt32) else 0) |||
          (if UInt8.ofNat n &&& 0x2 ≠ 0 then 0x2 else 0) |||
          (if UInt8.ofNat n &&& 0x4 ≠ 0 then 0x4 else 0)) =
        (UInt8.ofNat n &&& 0x7).toUInt32 := by
    decide +kernel
  have hflags := hall p.flags.toNat (UInt8.toNat_lt p.flags)
  rwa [UInt8.ofNat_toNat] at hflags

/-- The wheel of the fourth byte, as the mouse driver and as the Sentelic driver decode it. -/
theorem wheel_eq (z : UInt8) :
    ((z &&& 8).toNat : ℤ) - (z &&& 7).toNat = -Int.bmod z.toNat 16 ∧
      (Int.bmod z.toNat 16 = 0 ↔ z &&& 0xF = 0) ∧ |Int.bmod z.toNat 16| ≤ 8 := by
  have hall : ∀ n < 256,
      ((UInt8.ofNat n &&& 8).toNat : ℤ) - (UInt8.ofNat n &&& 7).toNat = -Int.bmod n 16 ∧
        (Int.bmod n 16 = 0 ↔ UInt8.ofNat n &&& 0xF = 0) ∧ |Int.bmod n 16| ≤ 8 := by
    decide +kernel
  have hz := hall z.toNat (UInt8.toNat_lt z)
  rwa [UInt8.ofNat_toNat] at hz

/-- The wheel of a packet. -/
def wheelOf (p : PointerPacket) : ℤ :=
  match p.z with
  | none => 0
  | some z => -Int.bmod z.toNat 16

theorem reportOf_sentelic (p : PointerPacket) :
    reportOf (Sentelic.dispatchRelativePointerEventWithPacket
        Sentelic.kModeByteValueGesturesEnabled p) =
      some ⟨p.dx, p.dy, (p.flags &&& 0x7).toUInt32, wheelOf p⟩ := by
  have hb : Sentelic.buttons Sentelic.kModeByteValueGesturesEnabled p =
      (p.flags &&& 0x7).toUInt32 := by
    rw [Sentelic.buttons, if_pos (.inl rfl)]
    exact buttons_eq p
  rw [Sentelic.dispatchRelativePointerEventWithPacket, (signed_extended _ _ _).1,
    (signed_extended _ _ _).2, hb, wheelOf]
  cases p.z with
  | none => rfl
  | some z =>
      dsimp only
      rw [(wheel_eq z).1]
      rfl

theorem reportOf_ALPS (p : PointerPacket) :
    reportOf (ALPS.dispatchRelativePointerEventWithPacket p) =
      some ⟨p.dx, -p.dy, (p.flags &&& 0x7).toUInt32, 0⟩ := by
  have hdelta : ∀ (c : Prop) [Decidable c] (n : ℤ),
      (if c then n - 256 else n) = (if c then -0x100 else 0) + n := by
    intro c _ n
    split <;> ring
  rw [ALPS.dispatchRelativePointerEventWithPacket, buttons_eq, hdelta, hdelta,
    PointerPacket.dx, PointerPacket.dy, neg_neg]
  rfl

theorem abs_dy_le (p : PointerPacket) : |p.dy| ≤ 256 := by
  have hy := UInt8.toNat_lt p.y
  rw [abs_le, PointerPacket.dy]
  split <;> omega

theorem abs_dz_le (o : Settings) (p : PointerPacket) : |p.dz o| ≤ 8 := by
  rw [PointerPacket.dz]
  split
  · simp
  · rename_i z _
    split
    · exact (wheel_eq z).2.2
    · simp

/-- The report of the mouse driver, where it is not switched off. -/
theorem reportOf_mouse {o : Settings} (ho : Plain o) (hi : o.ignoreall = false) (d : Pointer)
    (p : PointerPacket) (now : UInt64) :
    reportOf (d.dispatchRelativePointerEventWithPacket o p now).2 =
      some ⟨p.dx, p.dy, (p.flags &&& 0x7).toUInt32, -p.dz o⟩ := by
  have hbuttons : p.buttons o = (p.flags &&& 0x7).toUInt32 := by
    rw [PointerPacket.buttons, ho.explorer]
    split
    · rfl
    · exact UInt32.or_zero
  have hmiddle : Pointer.middleButton o d.machine (p.buttons o) now .device =
      ⟨d.machine, [], (p.flags &&& 0x7).toUInt32⟩ := by
    rw [Pointer.middleButton, if_pos (.inl ho.fakemiddlebutton), hbuttons]
  have htyping : ¬ (o.palmWt = true ∨ o.outzoneWt = true) := by
    rw [ho.palmWt, ho.outzoneWt]
    simp
  have hdy : Int.bmod (o.mouseyinverter * p.dy) (2 ^ 32) = p.dy := by
    have hle := abs_le.mp (abs_dy_le p)
    rw [ho.mouseyinverter, one_mul]
    exact Int.bmod_eq_of_le (by omega) (by omega)
  have hdz : Int.bmod (-o.scrollyinverter * p.dz o) (2 ^ 16) = -p.dz o := by
    have hle := abs_le.mp (abs_dz_le o p)
    rw [ho.scrollyinverter, neg_one_mul]
    exact Int.bmod_eq_of_le (by omega) (by omega)
  rw [Pointer.dispatchRelativePointerEventWithPacket, hmiddle, hdy, hdz]
  simp only [Pointer.typingFilter, if_neg htyping, hi]
  by_cases hz : p.dz o = 0
  · simp [hz, Pointer.eventsOf, dispatchedMasks, reportOf]
  · simp [hz, htyping, Pointer.eventsOf, dispatchedMasks, reportOf]

/-- A mouse driver that is switched off reports nothing. -/
theorem reportOf_mouse_off {o : Settings} (ho : Plain o) (hi : o.ignoreall = true) (d : Pointer)
    (p : PointerPacket) (now : UInt64) :
    reportOf (d.dispatchRelativePointerEventWithPacket o p now).2 = none := by
  have hmiddle : ∀ b, Pointer.middleButton o d.machine b now .device = ⟨d.machine, [], b⟩ :=
    fun b => if_pos (.inl ho.fakemiddlebutton)
  rw [Pointer.dispatchRelativePointerEventWithPacket, hmiddle]
  simp [hi, Pointer.eventsOf, dispatchedMasks, reportOf]

/-! ### Where they agree -/

theorem wheel_iff (o : Settings) (p : PointerPacket) :
    -p.dz o = wheelOf p ↔ ∀ z, p.z = some z → WheelOn o z := by
  rw [PointerPacket.dz, wheelOf]
  cases p.z with
  | none => simp
  | some z =>
      have hzero := (wheel_eq z).2.1
      simp only [Option.some.injEq, forall_eq', neg_inj, WheelOn, ← hzero]
      split
      · rename_i hon
        exact iff_of_true rfl (.inr hon)
      · rename_i hoff
        rw [or_iff_left hoff]
        exact eq_comm

theorem level_iff (p : PointerPacket) : -p.dy = p.dy ↔ Level p := by
  have hy := UInt8.toNat_lt p.y
  have hzero : p.y = 0 ↔ p.y.toNat = 0 := UInt8.toNat_inj.symm
  rw [Level, hzero, PointerPacket.dy, neg_neg]
  by_cases hs : p.flags &&& 0x20 = 0
  · rw [if_neg (not_not.mpr hs), and_iff_right hs]
    omega
  · rw [if_pos hs]
    exact iff_of_false (by omega) fun h => hs h.1

/-- **The three drivers report the same exactly if the mouse driver reports at all, and the wheel
where there is one, and nothing moves up or down where ALPS takes part.** -/
theorem agree_iff (o : Settings) (ho : Plain o) (d : Pointer) (p : PointerPacket) (now : UInt64) :
    Agree o d p now ↔
      o.ignoreall = false ∧ (∀ z, p.z = some z → WheelOn o z) ∧ (p.z = none → Level p) := by
  rw [Agree, ← wheel_iff, ← level_iff, reportOf_sentelic, reportOf_ALPS]
  by_cases hi : o.ignoreall = true
  · rw [reportOf_mouse_off ho hi]
    refine iff_of_false ?_ fun h => ?_
    · rintro ⟨r, hr, -⟩
      cases hr
    · cases hi.symm.trans h.1
  · have hon : o.ignoreall = false := by simpa using hi
    rw [reportOf_mouse ho hon]
    constructor
    · rintro ⟨r, hmouse, hsentelic, halps⟩
      cases hsentelic
      refine ⟨hon, ?_, fun hz => ?_⟩
      · exact congrArg Report.wheel (Option.some.inj hmouse)
      · exact congrArg Report.dy (Option.some.inj (halps hz))
    · rintro ⟨-, hwheel, hlevel⟩
      refine ⟨_, congrArg some ?_, rfl, fun hz => congrArg some ?_⟩
      · rw [hwheel]
      · rw [hlevel hz, wheelOf, hz]

/-- A mouse with a wheel as its driver starts it. -/
def wheelMouse : Settings where
  fakemiddlebutton := false
  buttonCount := 3
  maxmiddleclicktime := 100000000
  ignoreall := false
  explorer := false
  actliketrackpad := false
  scroll := true
  palmWt := false
  outzoneWt := false
  keytime := 0
  maxaftertyping := 500000000
  mouseyinverter := 1
  scrollyinverter := 1

theorem plain_wheelMouse : Plain wheelMouse := ⟨rfl, rfl, rfl, rfl, rfl, rfl⟩

/-- A motion to the left and up with the left button, and the wheel turned by one. -/
theorem agree_wheelMouse : Agree wheelMouse .initial ⟨0x19, 0xFE, 0x03, some 0xFF⟩ 0 :=
  (agree_iff wheelMouse plain_wheelMouse .initial ⟨0x19, 0xFE, 0x03, some 0xFF⟩ 0).mpr
    ⟨rfl, fun _ _ => .inr (.inl rfl), fun h => by cases h⟩

/-- A motion of three units up is one down in the ALPS driver. -/
theorem disagree_up :
    reportOf (ALPS.dispatchRelativePointerEventWithPacket ⟨0x08, 0x00, 0x03, none⟩) =
        some ⟨0, 3, 0, 0⟩ ∧
      reportOf (Pointer.initial.dispatchRelativePointerEventWithPacket wheelMouse
        ⟨0x08, 0x00, 0x03, none⟩ 0).2 = some ⟨0, -3, 0, 0⟩ ∧
      ¬ ∀ (o : Settings) (d : Pointer) (p : PointerPacket) (now : UInt64), Plain o →
        Agree o d p now := by
  have halps : reportOf (ALPS.dispatchRelativePointerEventWithPacket ⟨0x08, 0x00, 0x03, none⟩) =
      some ⟨0, 3, 0, 0⟩ := by decide +kernel
  have hmouse : reportOf (Pointer.initial.dispatchRelativePointerEventWithPacket wheelMouse
      ⟨0x08, 0x00, 0x03, none⟩ 0).2 = some ⟨0, -3, 0, 0⟩ := by decide +kernel
  refine ⟨halps, hmouse, fun h => ?_⟩
  obtain ⟨r, hr, -, hr'⟩ := h wheelMouse .initial ⟨0x08, 0x00, 0x03, none⟩ 0 plain_wheelMouse
  cases hmouse.symm.trans hr
  exact absurd (halps.symm.trans (hr' rfl)) (by decide)

end VoodooPS2
