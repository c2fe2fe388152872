import VoodooPS2.Lib.Transition

/-! # Absolute packets of an ALPS pad (`dispatchAbsolutePointerEventWithPacket`)

The driver turns the positions of an ALPS pad into motions: it remembers the position of the last
packet and reports the difference.  A packet in a scroll area at the right or the lower edge makes a
scroll event instead, and the driver returns before it remembers the position and without a word on the
buttons.

`measured_iff`: in a run, each motion is the way from the packet before, if and only if a finger that
has scrolled is lifted before it moves the pointer again.  `fresh_iff`: after each packet the buttons
reported last are the packet's own, if and only if no packet that scrolls changes the buttons. -/

namespace VoodooPS2.ALPS

/-! ### Decoding -/

/-- `packet[i] & mask`, as an `int`. -/
def field (packet : List UInt8) (i : ℕ) (mask : UInt8) : ℕ := (packet.getD i 0 &&& mask).toNat

def positionOf (packet : List UInt8) : ℤ × ℤ :=
  ((field packet 1 0x7f ||| field packet 2 0x78 <<< (7 - 3) : ℕ),
    (field packet 4 0x7f ||| field packet 3 0x70 <<< (7 - 4) : ℕ))

/-- Touch pression. -/
def pressureOf (packet : List UInt8) : ℤ := (packet.getD 5 0).toNat

/-- `(packet[i] >> k) & 1`. -/
def bit (packet : List UInt8) (i : ℕ) (k : UInt8) : UInt8 := (packet.getD i 0 >>> k) &&& 1

/-- Bit 0 for left, bit 1 for right, bit 2 for middle. -/
def buttonsOf (packet : List UInt8) : UInt32 :=
  let left := bit packet 2 0 ||| bit packet 3 0
  let right := bit packet 3 1
  let (left, right, middle) :=
    if packet.getD 0 0 ≠ 0xff then
      (left ||| bit packet 0 0, right ||| bit packet 0 1, bit packet 0 2 ||| bit packet 3 2)
    else (left, right, 0)
  (if left ≠ 0 then 0x01 else 0) ||| (if right ≠ 0 then 0x02 else 0) |||
    (if middle ≠ 0 then 0x04 else 0)

/-! ### The driver -/

/-- `SCROLL_NONE`, `SCROLL_HORIZ` and `SCROLL_VERT`. -/
inductive ScrollArea where
  | none | horiz | vert
deriving DecidableEq, Repr

/-- The options of edge scrolling.  `_edgeaccellvalue` is a `double`, given by its two uses. -/
structure EdgeScroll where
  edgehscroll : Bool
  edgevscroll : Bool
  /-- `(int)((double)diff * _edgeaccellvalue)` -/
  times : ℤ → ℤ
  /-- `diff / max(_edgeaccellvalue, 1)`, as an `int` -/
  dividedBy : ℤ → ℤ

/-- An event sent to the system. -/
inductive GlideEvent where
  | relative (dx dy : ℤ) (buttons : UInt32)
  | scrollWheel (deltaAxis1 deltaAxis2 : ℤ)
deriving DecidableEq, Repr

/-- What the driver remembers between packets. -/
structure GlidePoint where
  xpos : ℤ
  ypos : ℤ
  zpos : ℤ
  xscrollpos : ℤ
  yscrollpos : ℤ
  zscrollpos : ℤ
  scrolling : ScrollArea
deriving DecidableEq, Repr

namespace GlidePoint

/-- A driver after `init`: memory of a new object is zero. -/
def init : GlidePoint := ⟨0, 0, 0, 0, 0, 0, .none⟩

def position (d : GlidePoint) : ℤ × ℤ := (d.xpos, d.ypos)

/-- The area, which becomes `_scrolling`.  In the corner a vertical scroll goes on. -/
def insideScrollArea (d : GlidePoint) (x y : ℤ) : ScrollArea :=
  if 900 < x ∧ 650 < y then if d.scrolling = .vert then .vert else .horiz
  else if 900 < x then .vert
  else if 650 < y then .horiz
  else .none

/-- The area is one whose scrolling is on. -/
def willScroll (o : EdgeScroll) (d : GlidePoint) (packet : List UInt8) : Bool :=
  match d.insideScrollArea (positionOf packet).1 (positionOf packet).2 with
  | .none => false
  | .horiz => o.edgehscroll
  | .vert => o.edgevscroll

/-- 25 beyond the far end, -25 before the near one. -/
def atEnds (v : ℤ) : ℤ := if 950 ≤ v then 25 else if v ≤ 100 then -25 else 0

/-- An `int` passed as a `short`. -/
def short (n : ℤ) : ℤ := Int.bmod n (2 ^ 16)

def dispatchAbsolutePointerEventWithPacket (o : EdgeScroll) (d : GlidePoint)
    (packet : List UInt8) : GlidePoint × GlideEvent :=
  let x := (positionOf packet).1
  let y := (positionOf packet).2
  let z := pressureOf packet
  let wasNotScrolling := d.scrolling = .none
  let scroll := d.insideScrollArea x y
  let willScroll := d.willScroll o packet
  let d := { d with scrolling := scroll }
  -- make sure we are still relative
  let d :=
    if z = 0 ∨ (1 ≤ d.zpos ∧ z ≠ 0 ∧ willScroll = false) then { d with xpos := x, ypos := y } else d
  if willScroll then
    let d :=
      if d.zscrollpos ≤ 0 ∨ wasNotScrolling then { d with xscrollpos := x, yscrollpos := y } else d
    let ydiff := if scroll = .vert then -o.times (y - d.yscrollpos) else 0
    let xdiff := if scroll = .horiz then -o.times (x - d.xscrollpos) else 0
    let ydiff := if ydiff = 0 ∧ scroll = .horiz then o.dividedBy (atEnds x) else ydiff
    let xdiff := if xdiff = 0 ∧ scroll = .vert then o.dividedBy (atEnds y) else xdiff
    ({ d with zscrollpos := z }, .scrollWheel (short ydiff) (short xdiff))
  else
    let zpos := if z = 0 then Int.bmod (d.zpos + 1) (2 ^ 32) else 0
    ({ d with zpos := zpos, scrolling := .none, xpos := x, ypos := y },
      .relative (x - d.xpos) (y - d.ypos) (buttonsOf packet))

/-! ### What a packet does -/

/-- A finger that was down when it last moved the pointer, and is down now. -/
def Drags (d : GlidePoint) (packet : List UInt8) : Prop := pressureOf packet ≠ 0 ∧ d.zpos < 1

instance (d : GlidePoint) (packet : List UInt8) : Decidable (d.Drags packet) :=
  inferInstanceAs (Decidable (_ ∧ _))

/-- Where a motion is measured from. -/
def origin (d : GlidePoint) (packet : List UInt8) : ℤ × ℤ :=
  if d.Drags packet then d.position else positionOf packet

theorem dispatch_scrolls {o : EdgeScroll} {d : GlidePoint} {packet : List UInt8}
    (h : d.willScroll o packet = true) :
    (∃ v w, (d.dispatchAbsolutePointerEventWithPacket o packet).2 = .scrollWheel v w) ∧
      (d.dispatchAbsolutePointerEventWithPacket o packet).1.position =
        if pressureOf packet = 0 then positionOf packet else d.position := by
  unfold dispatchAbsolutePointerEventWithPacket
  simp only [h, if_true, Bool.true_eq_false, and_false, or_false]
  refine ⟨⟨_, _, rfl⟩, ?_⟩
  split_ifs <;> rfl

theorem dispatch_moves {o : EdgeScroll} {d : GlidePoint} {packet : List UInt8}
    (h : d.willScroll o packet = false) :
    (d.dispatchAbsolutePointerEventWithPacket o packet).2 =
        .relative ((positionOf packet).1 - (d.origin packet).1)
          ((positionOf packet).2 - (d.origin packet).2) (buttonsOf packet) ∧
      (d.dispatchAbsolutePointerEventWithPacket o packet).1.position = positionOf packet := by
  unfold dispatchAbsolutePointerEventWithPacket
  simp only [h, Bool.false_eq_true, if_false, and_true]
  refine ⟨?_, rfl⟩
  by_cases hd : d.Drags packet
  · have hnot : ¬ (pressureOf packet = 0 ∨ 1 ≤ d.zpos ∧ pressureOf packet ≠ 0) :=
      fun h => h.elim hd.1 fun h => absurd hd.2 (not_lt.mpr h.1)
    rw [origin, if_pos hd, if_neg hnot]
    rfl
  · have hremembers : pressureOf packet = 0 ∨ 1 ≤ d.zpos ∧ pressureOf packet ≠ 0 := by
      by_cases hz : pressureOf packet = 0
      · exact .inl hz
      · exact .inr ⟨not_lt.mp fun h => hd ⟨hz, h⟩, hz⟩
    rw [origin, if_neg hd, if_pos hremembers]

end GlidePoint

/-! ### Runs of packets -/

/-- A packet, with the options in force when it is dispatched. -/
structure Arrival where
  options : EdgeScroll
  packet : List UInt8

/-- The button mask last passed to `dispatchRelativePointerEvent`. -/
def GlideEvent.reported (before : UInt32) : GlideEvent → UInt32
  | relative _ _ buttons => buttons
  | scrollWheel _ _ => before

/-- The driver, with the packet before, whether it scrolled, and the buttons reported last. -/
structure Session where
  driver : GlidePoint
  last : Option (List UInt8)
  scrolled : Bool
  reported : UInt32

namespace Session

def initial : Session := ⟨.init, none, false, 0⟩

def willScroll (k : Session) (a : Arrival) : Bool := k.driver.willScroll a.options a.packet

def event (k : Session) (a : Arrival) : GlideEvent :=
  (k.driver.dispatchAbsolutePointerEventWithPacket a.options a.packet).2

def next (k : Session) (a : Arrival) : Session where
  driver := (k.driver.dispatchAbsolutePointerEventWithPacket a.options a.packet).1
  last := some a.packet
  scrolled := k.willScroll a
  reported := (k.event a).reported k.reported

/-- Every packet can be dispatched in every state. -/
def step (k : Session) (a : Arrival) : Option Session := some (k.next a)

/-! ### Motions -/

/-- A motion that is not zero is the way from the packet before. -/
def Measured (k : Session) (a : Arrival) : Prop :=
  match k.event a with
  | .relative dx dy _ =>
      (dx, dy) ≠ 0 → k.last.map (fun q => positionOf a.packet - positionOf q) = some (dx, dy)
  | .scrollWheel _ _ => True

instance (k : Session) (a : Arrival) : Decidable (k.Measured a) := by
  unfold Measured
  split <;> infer_instance

/-- There is a packet before, and the driver went on to remember its position. -/
def Remembers (k : Session) : Prop :=
  match k.last with
  | none => False
  | some q => k.scrolled = false ∨ pressureOf q = 0

instance (k : Session) : Decidable k.Remembers := by
  unfold Remembers
  split <;> infer_instance

/-- A finger that drags the pointer did not scroll with the packet before, nor touch the pad with it
for the first time; or the position remembered, though older, is this one or the one before. -/
def Continues (k : Session) (a : Arrival) : Prop :=
  k.willScroll a = false → k.driver.Drags a.packet →
    k.Remembers ∨ k.driver.position = positionOf a.packet ∨
      k.last.map positionOf = some k.driver.position

instance (k : Session) (a : Arrival) : Decidable (k.Continues a) :=
  inferInstanceAs (Decidable (_ → _))

/-- What is remembered is the position of the packet before. -/
def Follows (k : Session) : Prop :=
  k.Remembers → k.last.map positionOf = some k.driver.position

theorem follows_initial : initial.Follows := fun h => h.elim

theorem follows_next (k : Session) (a : Arrival) : (k.next a).Follows := by
  intro hr
  refine congrArg some ?_
  by_cases hs : k.driver.willScroll a.options a.packet = true
  · have hz : pressureOf a.packet = 0 := hr.resolve_left fun h => by
      rw [show (k.next a).scrolled = true from hs] at h
      cases h
    exact ((GlidePoint.dispatch_scrolls hs).2.trans (if_pos hz)).symm
  · rw [Bool.not_eq_true] at hs
    exact (GlidePoint.dispatch_moves hs).2.symm

theorem continues_iff_measured {k : Session} (hk : k.Follows) (a : Arrival) :
    k.Continues a ↔ k.Measured a := by
  by_cases hs : k.driver.willScroll a.options a.packet = true
  · obtain ⟨v, w, he⟩ := (GlidePoint.dispatch_scrolls hs).1
    refine iff_of_true (fun h => ?_) ?_
    · rw [willScroll, hs] at h
      cases h
    · rw [Measured, event, he]
      trivial
  · rw [Bool.not_eq_true] at hs
    have he : k.event a = _ := (GlidePoint.dispatch_moves hs).1
    rw [Continues, Measured, he]
    simp only [willScroll, hs, true_imp_iff]
    by_cases hd : k.driver.Drags a.packet
    · have ho : k.driver.origin a.packet = k.driver.position := if_pos hd
      have hzero : (((positionOf a.packet).1 - k.driver.position.1,
          (positionOf a.packet).2 - k.driver.position.2) : ℤ × ℤ) =
          positionOf a.packet - k.driver.position := rfl
      have hmap : k.last.map (fun q => positionOf a.packet - positionOf q) =
            some (positionOf a.packet - k.driver.position) ↔
          k.last.map positionOf = some k.driver.position := by
        cases k.last with
        | none => simp
        | some q => simp
      rw [ho, hzero, hmap, sub_ne_zero, forall_prop_of_true hd]
      constructor
      · rintro (hr | hpos | hlast) hne
        · exact hk hr
        · exact absurd hpos.symm hne
        · exact hlast
      · intro h
        by_cases hpos : positionOf a.packet = k.driver.position
        · exact .inr (.inl hpos.symm)
        · exact .inr (.inr (h hpos))
    · have ho : k.driver.origin a.packet = positionOf a.packet := if_neg hd
      refine iff_of_true (fun h => absurd h hd) fun hne => absurd ?_ hne
      rw [ho, sub_self, sub_self]
      rfl

/-- **Motions are measured from the packet before, in a run, exactly if a finger that scrolls is
lifted before it drags the pointer.** -/
theorem measured_iff (as : List Arrival) :
    Transition.Guarded step Measured initial as ↔ Transition.Guarded step Continues initial as :=
  (Transition.guarded_iff_of_total (fun _ _ => rfl) (fun k a _ _ => follows_next k a)
    (fun _ a hk => continues_iff_measured hk a) as follows_initial).symm

/-- Edge scrolling at the right edge, at half speed. -/
def verticalScroll : EdgeScroll := ⟨false, true, fun n => n.tdiv 2, id⟩

/-- A finger comes down at (100, 100), scrolls at (950, 100) and goes on to (800, 100). -/
def scrollThenDrag : List Arrival :=
  [⟨verticalScroll, [0xf8, 0x64, 0x00, 0x00, 0x64, 0x00]⟩,
    ⟨verticalScroll, [0xf8, 0x64, 0x00, 0x00, 0x64, 0x28]⟩,
    ⟨verticalScroll, [0xf8, 0x36, 0x38, 0x00, 0x64, 0x28]⟩,
    ⟨verticalScroll, [0xf8, 0x20, 0x30, 0x00, 0x64, 0x28]⟩]

/-- The pointer goes 700 units to the right while the finger goes 150 to the left. -/
theorem scrollThenDrag_jumps :
    ((scrollThenDrag.take 3).foldl next initial).event
        ⟨verticalScroll, [0xf8, 0x20, 0x30, 0x00, 0x64, 0x28]⟩ = .relative 700 0 0 ∧
      ¬ ∀ as, Transition.Guarded step Measured initial as := by
  refine ⟨by decide +kernel, fun h => ?_⟩
  exact absurd (h scrollThenDrag) (by decide +kernel)

/-! ### Buttons -/

/-- The buttons reported last are those of the packet. -/
def Fresh (k : Session) (a : Arrival) : Prop := (k.next a).reported = buttonsOf a.packet

instance (k : Session) (a : Arrival) : Decidable (k.Fresh a) := inferInstanceAs (Decidable (_ = _))

/-- The buttons of the packet before, none before the first. -/
def lastButtons (k : Session) : UInt32 := (k.last.map buttonsOf).getD 0

/-- A packet that scrolls holds the buttons of the packet before. -/
def ScrollsUnchanged (k : Session) (a : Arrival) : Prop :=
  k.willScroll a = true → buttonsOf a.packet = k.lastButtons

instance (k : Session) (a : Arrival) : Decidable (k.ScrollsUnchanged a) :=
  inferInstanceAs (Decidable (_ → _))

/-- The buttons reported last are those of the packet before. -/
def Reported (k : Session) : Prop := k.reported = k.lastButtons

theorem reported_next (k : Session) (a : Arrival) :
    (k.next a).reported = if k.willScroll a then k.reported else buttonsOf a.packet := by
  by_cases hs : k.driver.willScroll a.options a.packet = true
  · obtain ⟨v, w, he⟩ := (GlidePoint.dispatch_scrolls hs).1
    rw [willScroll, if_pos hs]
    show (k.event a).reported k.reported = _
    rw [event, he]
    rfl
  · have he : k.event a = _ := (GlidePoint.dispatch_moves ((Bool.not_eq_true _).mp hs)).1
    rw [willScroll, if_neg hs]
    show (k.event a).reported k.reported = _
    rw [he]
    rfl

theorem scrollsUnchanged_iff_fresh {k : Session} (hk : k.Reported) (a : Arrival) :
    k.ScrollsUnchanged a ↔ k.Fresh a := by
  rw [ScrollsUnchanged, Fresh, reported_next]
  by_cases hs : k.willScroll a = true
  · rw [if_pos hs, forall_prop_of_true hs, hk]
    exact eq_comm
  · rw [if_neg hs]
    exact iff_of_true (fun h => absurd h hs) rfl

/-- **The buttons reported last are those of the last packet, in a run, exactly if no packet that
scrolls changes the buttons.** -/
theorem fresh_iff (as : List Arrival) :
    Transition.Guarded step Fresh initial as ↔
      Transition.Guarded step ScrollsUnchanged initial as := by
  have hinitial : initial.Reported := rfl
  have hnext : ∀ k a, Reported k → k.ScrollsUnchanged a → (k.next a).Reported := by
    intro k a hk hg
    exact (scrollsUnchanged_iff_fresh hk a).mp hg
  exact (Transition.guarded_iff_of_total (fun _ _ => rfl) hnext
    (fun _ a hk => scrollsUnchanged_iff_fresh hk a) as hinitial).symm

/-- The left button is pressed by a finger that scrolls. -/
def pressWhileScrolling : Arrival := ⟨verticalScroll, [0xf9, 0x36, 0x38, 0x00, 0x64, 0x28]⟩

theorem pressWhileScrolling_lost :
    (initial.next pressWhileScrolling).reported = 0 ∧ buttonsOf pressWhileScrolling.packet = 0x01 ∧
      ¬ ∀ as, Transition.Guarded step Fresh initial as := by
  refine ⟨by decide +kernel, by decide +kernel, fun h => ?_⟩
  exact absurd (h [pressWhileScrolling]) (by decide +kernel)

end Session

end VoodooPS2.ALPS
