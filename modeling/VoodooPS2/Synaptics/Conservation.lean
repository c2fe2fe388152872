import VoodooPS2.Lib.Ledger
import VoodooPS2.Synaptics.Divisors
import VoodooPS2.Synaptics.Place

/-! # Motion and scroll conservation

Each arm of the switch over the modes divides a movement, reports the quotient and keeps the
remainder for the next packet; small movements are kept as a whole.  A `Channel` is one axis of one
arm, with its divisor, its remainder variable and its raw delta.

`Channel.conserved`: over a run of packets that take the arm, what is reported, times the divisor,
and the remainder at the end are the raw deltas and the remainder at the start.  For pointer motion
this needs that what is measured is also dispatched: a Thinkpad that scrolls with its middle button
withholds it, and `motion_withheld` is a packet whose movement is lost. -/

namespace VoodooPS2.Synaptics

/-- An axis of an arm of the switch over the modes. -/
inductive Channel where
  | moveX | moveY
  | twoY | twoX
  | vertical | horizontal | circular
deriving DecidableEq, Repr

namespace Channel

/-- The divisor in force; `hscroll` switches the horizontal axis of two fingers off. -/
def divisor (c : Config) : Channel → ℤ
  | moveX => c.int .divisorx
  | moveY => c.int .divisory
  | twoY => c.int .wvdivisor
  | twoX => if c.flag .hscroll then c.int .whdivisor else 0
  | vertical => c.int .vscrolldivisor
  | horizontal => c.int .hscrolldivisor
  | circular => c.int .cscrolldivisor

/-- The remainder variable. -/
def rest (q : Place) : Channel → ℤ
  | moveX => q.xrest
  | moveY => q.yrest
  | twoY => q.yrest
  | twoX => q.xrest
  | vertical => q.scrollrest
  | horizontal => q.scrollrest
  | circular => q.scrollrest

/-- The raw delta of a packet. -/
def raw (c : Config) (q : Place) (t : Touch) : Channel → ℤ
  | moveX => t.x - q.lastx
  | moveY => q.lasty - t.y
  | twoY => t.y - q.lasty
  | twoX => q.lastx - t.x
  | vertical => t.y - q.lasty
  | horizontal => q.lastx - t.x
  | circular =>
      (if t.y < c.int .centery then t.x - q.lastx else q.lastx - t.x) +
        (if t.x < c.int .centerx then q.lasty - t.y else t.y - q.lasty)

/-- What an effect reports. -/
def amount : Channel → Effect → ℤ
  | moveX, .relative dx _ _ => dx
  | moveY, .relative _ dy _ => dy
  | twoY, .scrollWheel axis1 _ => axis1
  | twoX, .scrollWheel _ axis2 => axis2
  | vertical, .scrollWheel axis1 _ => axis1
  | horizontal, .scrollWheel _ axis2 => axis2
  | circular, .scrollWheel axis1 _ => axis1
  | _, _ => 0

/-- What the effects report together. -/
def reported (ch : Channel) (log : List Effect) : ℤ := (log.map ch.amount).sum

/-- Movements below the threshold are kept as a whole. -/
def thresh (c : Config) : Channel → ℤ
  | moveX => 0
  | moveY => 0
  | twoY => c.int .scrolldythresh
  | twoX => c.int .scrolldxthresh
  | vertical => c.int .scrolldythresh
  | horizontal => c.int .scrolldxthresh
  | circular => c.int .scrolldxthresh

theorem reported_append (ch : Channel) (l l' : List Effect) :
    ch.reported (l ++ l') = ch.reported l + ch.reported l' := by
  rw [reported, List.map_append, List.sum_append]
  rfl

/-- Only movements are reported. -/
theorem reported_motionsOf (ch : Channel) (l : List Effect) :
    ch.reported (motionsOf l) = ch.reported l := by
  have hzero (e : Effect) (h : e.moves = false) : ch.amount e = 0 := by
    cases e with
    | relative dx dy b =>
        obtain ⟨hx, hy⟩ : dx = 0 ∧ dy = 0 := by simpa [Effect.moves] using h
        cases ch <;> first | exact hx | exact hy | rfl
    | scrollWheel a b => exact Bool.noConfusion h
    | _ => cases ch <;> rfl
  induction l with
  | nil => rfl
  | cons e l ih =>
      rw [motionsOf, List.filter_cons]
      split
      · change ch.amount e + ch.reported (motionsOf l) = ch.amount e + ch.reported l
        rw [ih]
      · rename_i h
        change ch.reported (motionsOf l) = ch.amount e + ch.reported l
        rw [ih, hzero e (Bool.eq_false_of_not_eq_true h), zero_add]

end Channel

/-- The modes of pointer motion. -/
def TouchMode.IsMove (m : TouchMode) : Prop := m = .move ∨ m = .drag ∨ m = .draglock

instance (m : TouchMode) : Decidable m.IsMove := inferInstanceAs (Decidable (_ ∨ _))

namespace Pad

/-! ### The packets that take an arm -/

/-- The delta of the primary finger is bogus. -/
def isBogus (s : Pad) (t : Touch) : Prop :=
  |t.x - s.motion.lastx + s.motion.xrest| > s.cfg.int .bogusdxthresh ∨
    |s.motion.lasty - t.y + s.motion.yrest| > s.cfg.int .bogusdythresh

instance (s : Pad) (t : Touch) : Decidable (s.isBogus t) := inferInstanceAs (Decidable (_ ∨ _))

/-- A Thinkpad that scrolls with its middle button withholds the movement. -/
def withholds (s : Pad) (buttons : UInt32) : Prop :=
  s.cfg.bool .isthinkpad = true ∧
    ((s.cfg.bool .mousemiddlescroll = true ∧ buttons = 4) ∨
      (s.thinkpad.middleButtonPressed = true ∧ s.thinkpad.middleScrolled = true))

instance (s : Pad) (buttons : UInt32) : Decidable (s.withholds buttons) :=
  inferInstanceAs (Decidable (_ ∧ _))

/-- It is too soon after a key for a movement with several fingers or at an edge. -/
def isTyping (s : Pad) (t : Touch) : Prop := s.cfg.flag .palmWt = true ∧ s.afterTyping t.now

instance (s : Pad) (t : Touch) : Decidable (s.isTyping t) := inferInstanceAs (Decidable (_ ∧ _))

/-- The arm for pointer motion accumulates: no palm, not waiting for a tap, no bogus delta. -/
@[mk_iff] structure TakesMove (s : Pad) (t : Touch) : Prop where
  mode : s.touchmode.IsMove
  moves : s.moves t
  taps : s.touchmode ≠ .move ∨ s.cfg.flag .clicking = false ∨
    t.now - s.touchtime ≥ s.cfg.time .maxtaptime
  notBogus : ¬ s.isBogus t

instance (s : Pad) (t : Touch) : Decidable (s.TakesMove t) := decidable_of_iff' _ (s.takesMove_iff t)

/-- The arm for two fingers scrolls: no click, no palm, not leaving the mode, no key before. -/
@[mk_iff] structure TakesTwo (s : Pad) (t : Touch) : Prop where
  mode : s.touchmode = .mtouch
  fingers : t.w ≠ 1
  unclicked : ¬ (s.extendedwmode = true ∧ t.w = 0 ∧ s.clickbuttons ≠ 0)
  same : s.motion.lastf = t.f
  palm : ¬ (s.cfg.flag .palm = true ∧ t.z > s.cfg.int .zlimit)
  sticky : ¬ (s.cfg.bool .wsticky = false ∧ t.w ≤ s.cfg.int .wlimit ∧ t.w > 3)
  typing : ¬ s.isTyping t

instance (s : Pad) (t : Touch) : Decidable (s.TakesTwo t) := decidable_of_iff' _ (s.takesTwo_iff t)

@[mk_iff] structure TakesVScroll (s : Pad) (t : Touch) : Prop where
  mode : s.touchmode = .vscroll
  stays : ¬ s.leavesVScroll t
  typing : ¬ s.isTyping t

instance (s : Pad) (t : Touch) : Decidable (s.TakesVScroll t) := decidable_of_iff' _ (s.takesVScroll_iff t)

@[mk_iff] structure TakesHScroll (s : Pad) (t : Touch) : Prop where
  mode : s.touchmode = .hscroll
  stays : ¬ s.leavesHScroll t
  typing : ¬ s.isTyping t

instance (s : Pad) (t : Touch) : Decidable (s.TakesHScroll t) := decidable_of_iff' _ (s.takesHScroll_iff t)

@[mk_iff] structure TakesCScroll (s : Pad) (t : Touch) : Prop where
  mode : s.touchmode = .cscroll
  typing : ¬ s.isTyping t

instance (s : Pad) (t : Touch) : Decidable (s.TakesCScroll t) := decidable_of_iff' _ (s.takesCScroll_iff t)

end Pad

namespace Channel

open Pad

/-- The switch over the modes takes the channel's arm, and accumulates. -/
def Takes (s : Pad) (t : Touch) : Channel → Prop
  | moveX => s.TakesMove t
  | moveY => s.TakesMove t
  | twoY => s.TakesTwo t
  | twoX => s.TakesTwo t
  | vertical => s.TakesVScroll t
  | horizontal => s.TakesHScroll t
  | circular => s.TakesCScroll t

instance (s : Pad) (t : Touch) : (ch : Channel) → Decidable (ch.Takes s t)
  | moveX => inferInstanceAs (Decidable (s.TakesMove t))
  | moveY => inferInstanceAs (Decidable (s.TakesMove t))
  | twoY => inferInstanceAs (Decidable (s.TakesTwo t))
  | twoX => inferInstanceAs (Decidable (s.TakesTwo t))
  | vertical => inferInstanceAs (Decidable (s.TakesVScroll t))
  | horizontal => inferInstanceAs (Decidable (s.TakesHScroll t))
  | circular => inferInstanceAs (Decidable (s.TakesCScroll t))

/-- The raw delta with what was left before. -/
def delta (ch : Channel) (s : Pad) (t : Touch) : ℤ := ch.raw s.cfg s.place t + ch.rest s.place

/-- What is left afterwards. -/
def left (ch : Channel) (s : Pad) (t : Touch) : ℤ :=
  if |ch.delta s t| < ch.thresh s.cfg then ch.delta s t
  else (ch.delta s t).tmod (ch.divisor s.cfg)

/-- What is reported. -/
def quotient (ch : Channel) (s : Pad) (t : Touch) : ℤ :=
  if |ch.delta s t| < ch.thresh s.cfg then 0 else (ch.delta s t).tdiv (ch.divisor s.cfg)

theorem small_tdiv (ch : Channel) (s : Pad) (t : Touch) :
    (if |ch.delta s t| < ch.thresh s.cfg then 0 else ch.delta s t).tdiv (ch.divisor s.cfg) =
      ch.quotient s t := by
  rw [quotient]
  split
  · exact Int.zero_tdiv _
  · rfl

/-- What is reported and what is left are all of the movement. -/
theorem quotient_add_left (ch : Channel) (s : Pad) (t : Touch) :
    ch.quotient s t * ch.divisor s.cfg + ch.left s t = ch.raw s.cfg s.place t + ch.rest s.place := by
  rw [quotient, left]
  split
  · rw [zero_mul, zero_add]
    rfl
  · exact Int.tdiv_mul_add_tmod _ _

/-- The channel is one of pointer motion. -/
def IsPointer (ch : Channel) : Prop := ch = moveX ∨ ch = moveY

instance (ch : Channel) : Decidable ch.IsPointer := inferInstanceAs (Decidable (_ ∨ _))

/-- A quotient that is reported as a `short` fits in one. -/
def Fits (s : Pad) (t : Touch) : Channel → Prop
  | moveX => True
  | moveY => True
  | ch => toShort (ch.quotient s t) = ch.quotient s t

instance (s : Pad) (t : Touch) : (ch : Channel) → Decidable (ch.Fits s t)
  | moveX => .isTrue trivial
  | moveY => .isTrue trivial
  | twoY => inferInstanceAs (Decidable (toShort _ = _))
  | twoX => inferInstanceAs (Decidable (toShort _ = _))
  | vertical => inferInstanceAs (Decidable (toShort _ = _))
  | horizontal => inferInstanceAs (Decidable (toShort _ = _))
  | circular => inferInstanceAs (Decidable (toShort _ = _))

end Channel

namespace Pad

open Channel

/-! ### The arms -/

theorem takesMove_track {s : Pad} {t : Touch} (h : s.TakesMove t) (b : UInt32) :
    ∃ b', s.track t b = s.moveDelta t b' := by
  have hgo (b : UInt32) : s.trackMove t b = s.moveDelta t b := by
    refine if_pos ⟨h.moves, h.taps⟩
  rcases h.mode with hm | hm | hm
  · exact ⟨b, by rw [track, hm]; exact hgo b⟩
  · exact ⟨_, by rw [track, hm]; exact hgo _⟩
  · exact ⟨_, by rw [track, hm]; exact hgo _⟩

theorem moveDelta_of_notBogus {s : Pad} {t : Touch} (h : ¬ s.isBogus t) (b : UInt32) :
    s.moveDelta t b =
      ⟨{ s.dividing [s.cfg.int .divisorx, s.cfg.int .divisory] with
          motion := { s.motion with xrest := moveX.left s t, yrest := moveY.left s t } },
        moveX.delta s t, moveY.delta s t, b⟩ := by
  have hleft (ch : Channel) (h0 : ch.thresh s.cfg = 0) :
      ch.left s t = (ch.delta s t).tmod (ch.divisor s.cfg) :=
    if_neg (not_lt.mpr (h0 ▸ abs_nonneg _))
  rw [hleft moveX rfl, hleft moveY rfl]
  exact if_neg h

/-- What an arm does with the movement of its channel. -/
structure Scrolls (ch : Channel) (s : Pad) (t : Touch) (g : Progress) : Prop where
  still : g.dx = 0 ∧ g.dy = 0
  reported : ch.reported g.pad.log = ch.reported s.log + ch.quotient s t
  rest : ch.rest g.pad.place = ch.left s t

/-- Scrolling with one finger; the wheel event is the one of the arm. -/
theorem scrolls_scrollBy {ch : Channel} {s : Pad} {t : Touch} (hfits : toShort (ch.quotient s t) =
    ch.quotient s t) (hrest : ∀ r : Pad, ch.rest r.place = r.motion.scrollrest)
    {dispatch : Pad → ℤ → Pad}
    (hd : ∀ r n, (dispatch r n).place = r.place ∧
      ∃ e, (dispatch r n).log = r.log ++ [e] ∧ ch.amount e = toShort n) (b : UInt32) :
    Scrolls ch s t
      ((s.scrollBy (ch.delta s t) (ch.divisor s.cfg) (ch.thresh s.cfg) dispatch).still b) := by
  let r := s.recordOne (ch.delta s t) (ch.divisor s.cfg) (ch.thresh s.cfg)
  have hquiet (q : Pad) (ds : List ℤ) : ch.reported (q.dividing ds).log = ch.reported q.log := by
    rw [← reported_motionsOf, (still_dividing q ds).motions, reported_motionsOf]
  have hlog : ch.reported r.log = ch.reported s.log := hquiet s _
  have hleft : ch.rest r.place = ch.left s t := hrest r
  rw [scrollBy]
  by_cases hgo : ¬ |ch.delta s t| < ch.thresh s.cfg ∧ ch.delta s t ≠ 0
  · rw [if_pos hgo]
    have hq : ch.quotient s t = (ch.delta s t).tdiv (ch.divisor s.cfg) := if_neg hgo.1
    obtain ⟨hplace, e, hlog', he⟩ := hd (r.dividing [ch.divisor s.cfg])
      ((ch.delta s t).tdiv (ch.divisor s.cfg))
    refine ⟨⟨rfl, rfl⟩, ?_, ?_⟩
    · change ch.reported (dispatch (r.dividing _) _).log = _
      rw [hlog', reported_append, hquiet, hlog, ← hfits, hq, ← he]
      exact congrArg _ (add_zero _)
    · change ch.rest (dispatch (r.dividing _) _).place = _
      rw [hplace]
      exact hleft
  · rw [if_neg hgo]
    have hq : ch.quotient s t = 0 := by
      rw [quotient]
      split
      · rfl
      · rename_i hsmall
        rw [not_not.mp fun h0 => hgo ⟨hsmall, h0⟩, Int.zero_tdiv]
    exact ⟨⟨rfl, rfl⟩, by rw [hq, add_zero]; exact hlog, hleft⟩

theorem scrolls_vertical {s : Pad} {t : Touch} (h : s.TakesVScroll t)
    (hfits : vertical.Fits s t) (b : UInt32) : Scrolls vertical s t (s.track t b) := by
  have htrack : s.track t b = (s.scrollBy (vertical.delta s t) (vertical.divisor s.cfg)
      (vertical.thresh s.cfg) fun r n => r.dispatchScroll n 0).still b := by
    rw [track, h.mode]
    change (s.trackVScroll t).still b = _
    rw [trackVScroll, if_neg h.stays]
    exact congrArg (still · b) (if_neg h.typing)
  rw [htrack]
  refine scrolls_scrollBy hfits (fun _ => rfl) (fun r n => ?_) b
  exact ⟨rfl, .scrollWheel (toShort n) (toShort 0), rfl, rfl⟩

theorem scrolls_horizontal {s : Pad} {t : Touch} (h : s.TakesHScroll t)
    (hfits : horizontal.Fits s t) (b : UInt32) : Scrolls horizontal s t (s.track t b) := by
  have htrack : s.track t b = (s.scrollBy (horizontal.delta s t) (horizontal.divisor s.cfg)
      (horizontal.thresh s.cfg) fun r n => r.dispatchScroll 0 n).still b := by
    rw [track, h.mode]
    change (s.trackHScroll t).still b = _
    rw [trackHScroll, if_neg h.stays]
    exact congrArg (still · b) (if_neg h.typing)
  rw [htrack]
  refine scrolls_scrollBy hfits (fun _ => rfl) (fun r n => ?_) b
  exact ⟨rfl, .scrollWheel (toShort 0) (toShort n), rfl, rfl⟩

theorem scrolls_circular {s : Pad} {t : Touch} (h : s.TakesCScroll t)
    (hfits : circular.Fits s t) (b : UInt32) : Scrolls circular s t (s.track t b) := by
  have htrack : s.track t b = (s.scrollBy (circular.delta s t) (circular.divisor s.cfg)
      (circular.thresh s.cfg) fun r n => r.dispatchScroll n 0).still b := by
    rw [track, h.mode]
    change (s.trackCScroll t).still b = _
    rw [trackCScroll]
    exact congrArg (still · b) (if_neg h.typing)
  rw [htrack]
  refine scrolls_scrollBy hfits (fun _ => rfl) (fun r n => ?_) b
  exact ⟨rfl, .scrollWheel (toShort n) (toShort 0), rfl, rfl⟩

/-- Scrolling with two fingers, with the deltas of the axes that are in use. -/
theorem takesTwo_track {s : Pad} {t : Touch} (h : s.TakesTwo t) (b : UInt32) :
    s.track t b =
      (s.scrollTwo t (if s.cfg.int .wvdivisor ≠ 0 then twoY.delta s t else 0)
        (if s.cfg.int .whdivisor ≠ 0 ∧ s.cfg.flag .hscroll = true then twoX.delta s t
          else 0)).still b := by
  rw [track, h.mode]
  change (if t.w = 1 then _ else s.trackTwo t b) = _
  rw [if_neg h.fingers, trackTwo, if_neg h.unclicked, if_neg (not_not_intro h.same),
    if_neg h.palm, if_neg h.sticky]
  exact if_neg h.typing

theorem toShort_zero : toShort 0 = 0 := by decide

/-- The wheel event of two fingers. -/
theorem reported_wheelTwo (s : Pad) (dy dx : ℤ) :
    twoY.reported (s.wheelTwo dy dx).log = twoY.reported s.log +
        toShort (if s.cfg.int .wvdivisor ≠ 0 then dy.tdiv (s.cfg.int .wvdivisor) else 0) ∧
      twoX.reported (s.wheelTwo dy dx).log = twoX.reported s.log +
        toShort (if s.whdivisor ≠ 0 then dx.tdiv s.whdivisor else 0) := by
  have hquiet (ch : Channel) (ds : List ℤ) :
      ch.reported (s.dividing ds).log = ch.reported s.log := by
    rw [← reported_motionsOf, (still_dividing s ds).motions, reported_motionsOf]
  rw [wheelTwo]
  split
  · constructor
    · refine (reported_append twoY _ [.scrollWheel _ _]).trans ?_
      rw [hquiet]
      exact congrArg _ (add_zero _)
    · refine (reported_append twoX _ [.scrollWheel _ _]).trans ?_
      rw [hquiet]
      exact congrArg _ (add_zero _)
  · rename_i h0
    obtain ⟨rfl, rfl⟩ := not_or.mp h0 |>.imp not_not.mp not_not.mp
    rw [Int.zero_tdiv, Int.zero_tdiv, ite_self, ite_self, toShort_zero, add_zero, add_zero]
    exact ⟨rfl, rfl⟩

theorem reported_recordTwo (ch : Channel) (s : Pad) (t : Touch) (dy dx : ℤ) :
    ch.reported (s.recordTwo t dy dx).log = ch.reported s.log := by
  have hrecord : (s.recordTwo t dy dx).log = (s.dividing (s.scrollDivisors ++
      ((s.momentum.turned dy).record dy t.now).recordDivisors)).log := rfl
  rw [hrecord, ← reported_motionsOf, (still_dividing s _).motions, reported_motionsOf]

theorem touchmode_wheelTwo (s : Pad) (dy dx : ℤ) : (s.wheelTwo dy dx).touchmode = s.touchmode := by
  rw [wheelTwo]
  split <;> rfl

theorem scrolls_twoY {s : Pad} {t : Touch} (h : s.TakesTwo t) (hd : twoY.divisor s.cfg ≠ 0)
    (hfits : twoY.Fits s t) (b : UInt32) : Scrolls twoY s t (s.track t b) := by
  rw [takesTwo_track h, if_pos (show s.cfg.int .wvdivisor ≠ 0 from hd)]
  generalize (if s.cfg.int .whdivisor ≠ 0 ∧ s.cfg.flag .hscroll = true then twoX.delta s t else 0) =
    dx
  refine ⟨⟨rfl, rfl⟩, ?_, ?_⟩
  · change twoY.reported (scrollTwo s t (twoY.delta s t) dx).log = _
    rw [scrollTwo, (reported_wheelTwo _ _ _).1, reported_recordTwo]
    refine congrArg _ (Eq.trans (congrArg toShort ?_) hfits)
    exact (if_pos hd).trans (twoY.small_tdiv s t)
  · change twoY.rest (scrollTwo s t (twoY.delta s t) dx).place = _
    rw [scrollTwo, place_wheelTwo]
    exact if_congr Iff.rfl rfl (if_pos hd)

theorem scrolls_twoX {s : Pad} {t : Touch} (h : s.TakesTwo t) (hd : twoX.divisor s.cfg ≠ 0)
    (hfits : twoX.Fits s t) (b : UInt32) : Scrolls twoX s t (s.track t b) := by
  have hon : s.cfg.int .whdivisor ≠ 0 ∧ s.cfg.flag .hscroll = true := by
    rw [divisor] at hd
    split at hd
    · exact ⟨hd, ‹_›⟩
    · exact absurd rfl hd
  rw [takesTwo_track h, if_pos hon]
  generalize (if s.cfg.int .wvdivisor ≠ 0 then twoY.delta s t else 0) = dy
  refine ⟨⟨rfl, rfl⟩, ?_, ?_⟩
  · change twoX.reported (scrollTwo s t dy (twoX.delta s t)).log = _
    rw [scrollTwo, (reported_wheelTwo _ _ _).2, reported_recordTwo]
    refine congrArg _ (Eq.trans (congrArg toShort ?_) hfits)
    exact (if_pos hd).trans (twoX.small_tdiv s t)
  · change twoX.rest (scrollTwo s t dy (twoX.delta s t)).place = _
    rw [scrollTwo, place_wheelTwo]
    exact if_congr Iff.rfl rfl (if_pos hd)

/-- The channel is one of scrolling. -/
theorem scrolls_track {ch : Channel} (hch : ¬ ch.IsPointer) {s : Pad} {t : Touch}
    (h : ch.Takes s t) (hd : ch.divisor s.cfg ≠ 0) (hfits : ch.Fits s t) (b : UInt32) :
    Scrolls ch s t (s.track t b) := by
  cases ch with
  | moveX => exact absurd (.inl rfl) hch
  | moveY => exact absurd (.inr rfl) hch
  | twoY => exact scrolls_twoY h hd hfits b
  | twoX => exact scrolls_twoX h hd hfits b
  | vertical => exact scrolls_vertical h hfits b
  | horizontal => exact scrolls_horizontal h hfits b
  | circular => exact scrolls_circular h hfits b

/-! ### The rest of the packet -/

/-- The modes at the end of a packet that keeps a touch mode. -/
theorem modes_of_switchModes {s : Pad} {t : Touch}
    (hmode : (s.switchModes t).touchmode = s.touchmode) (htouch : s.touchmode.isTouchMode = true) :
    s.cfg.circularMode t (s.fingerMode t) = s.touchmode ∧
      s.cfg.verticalMode t s.touchmode = s.touchmode ∧
      s.cfg.horizontalMode t s.touchmode = s.touchmode := by
  have hne {m : TouchMode} (hm : m.isTouchMode = false) : s.touchmode ≠ m := by
    rintro rfl
    exact Bool.false_ne_true (hm.symm.trans htouch)
  have hnone : s.touchmode ≠ .notouch := hne rfl
  have hfinger : s.fingerMode t = .mtouch ∨ s.fingerMode t = s.touchmode := by
    have hpredrag : s.touchmode ≠ .predrag := hne rfl
    have hdrag : s.touchmode ≠ .dragnotouch := hne rfl
    rw [fingerMode]
    split
    · exact .inl rfl
    · exact .inr ((if_neg fun h => hpredrag h.1).trans (if_neg fun h => hdrag h.1))
  have hkeep {m : TouchMode} (h1 : m ≠ .notouch) (h2 : m ≠ .hscroll) (h3 : m ≠ .vscroll) :
      s.cfg.moveMode t (s.cfg.horizontalMode t (s.cfg.verticalMode t (s.cfg.circularMode t m))) =
        m := by
    have hc : s.cfg.circularMode t m = m := if_neg fun h => h1 h.2.2.1
    have hv : s.cfg.verticalMode t m = m := if_neg fun h => h.1.elim h1 fun h => h2 h.1
    have hh : s.cfg.horizontalMode t m = m := if_neg fun h => h.1.elim h1 fun h => h3 h.1
    rw [hc, hv, hh]
    exact if_neg fun h => h1 h.1
  have hfinger' : s.fingerMode t = s.touchmode := by
    rcases hfinger with h | h
    · rw [h, ← hmode]
      change _ = s.cfg.moveMode t (s.cfg.horizontalMode t (s.cfg.verticalMode t
        (s.cfg.circularMode t (s.fingerMode t))))
      rw [h, hkeep (by decide) (by decide) (by decide)]
    · exact h
  have hcircular : s.cfg.circularMode t (s.fingerMode t) = s.touchmode := by
    rw [hfinger']
    exact if_neg fun h => hnone h.2.2.1
  have hend : s.cfg.moveMode t (s.cfg.horizontalMode t (s.cfg.verticalMode t s.touchmode)) =
      s.touchmode := by
    rw [← hcircular]
    exact hmode.trans hcircular.symm
  have hvertical : s.cfg.verticalMode t s.touchmode = s.touchmode := by
    by_contra hv
    have henters : s.cfg.entersVScroll t s.touchmode := by
      by_contra h
      exact hv (if_neg h)
    obtain ⟨hm, hy⟩ := henters.1.resolve_left hnone
    rw [Config.verticalMode, if_pos henters, hm] at hend
    have hh : s.cfg.horizontalMode t .vscroll = .vscroll :=
      if_neg fun h => absurd h.2.2.1 (not_lt.mpr hy)
    rw [hh] at hend
    exact absurd (show TouchMode.vscroll = .hscroll from hend) (by decide)
  refine ⟨hcircular, hvertical, ?_⟩
  rw [hvertical] at hend
  by_contra hh
  have henters : s.cfg.entersHScroll t s.touchmode := by
    by_contra h
    exact hh (if_neg h)
  obtain ⟨hm, -⟩ := henters.1.resolve_left hnone
  rw [Config.horizontalMode, if_pos henters, hm] at hend
  exact absurd (show TouchMode.hscroll = .vscroll from hend) (by decide)

/-- The remainder is kept when the mode stays in force. -/
theorem rest_switchModes (ch : Channel) {s : Pad} {t : Touch}
    (hmode : (s.switchModes t).touchmode = s.touchmode) (htouch : s.touchmode.isTouchMode = true) :
    ch.rest (s.switchModes t).place = ch.rest s.place := by
  obtain ⟨hc, hv, hh⟩ := modes_of_switchModes hmode htouch
  have hplace : (s.switchModes t).place = s.place := by
    have hrest : (s.switchModes t).motion.scrollrest = s.motion.scrollrest := by
      refine if_neg ?_
      rw [hc, hv]
      rintro (h | h)
      · rw [Config.verticalMode, if_pos h] at hv
        have hy := (h.1.resolve_left (fun h0 => absurd (hv.trans h0) (by decide))).1
        exact absurd (hv.trans hy) (by decide)
      · rw [Config.horizontalMode, if_pos h] at hh
        have hx := (h.1.resolve_left (fun h0 => absurd (hh.trans h0) (by decide))).1
        exact absurd (hh.trans hx) (by decide)
    exact congrArg (fun r => ({ s.place with scrollrest := r } : Place)) hrest
  rw [hplace]

/-- The arm keeps the mode. -/
theorem touchmode_of_takes {ch : Channel} {s : Pad} {t : Touch} (h : ch.Takes s t) (b : UInt32) :
    (s.track t b).pad.touchmode = s.touchmode := by
  obtain ⟨m, htracks, hsame⟩ := tracksTo_track s t b
  have hm : (s.track t b).pad.touchmode = m := congrArg TouchCore.touchmode hsame.touchCore
  have hmove (h : s.TakesMove t) : m = s.touchmode := by
    cases htracks with
    | stay => rfl
    | oneFinger h0 => exact absurd h.mode (by rw [h0]; decide)
    | leaveRight h0 _ => exact absurd h.mode (by rw [h0]; decide)
    | leaveBottom h0 _ => exact absurd h.mode (by rw [h0]; decide)
  have htwo (h : s.TakesTwo t) : (s.track t b).pad.touchmode = s.touchmode := by
    rw [takesTwo_track h]
    exact touchmode_wheelTwo _ _ _
  cases ch with
  | moveX => exact hm.trans (hmove h)
  | moveY => exact hm.trans (hmove h)
  | twoY => exact htwo h
  | twoX => exact htwo h
  | vertical =>
      rw [hm]
      cases htracks with
      | stay => rfl
      | oneFinger h0 => exact nomatch h0.symm.trans h.mode
      | leaveRight _ hl => exact absurd hl h.stays
      | leaveBottom h0 _ => exact nomatch h0.symm.trans h.mode
  | horizontal =>
      rw [hm]
      cases htracks with
      | stay => rfl
      | oneFinger h0 => exact nomatch h0.symm.trans h.mode
      | leaveRight h0 _ => exact nomatch h0.symm.trans h.mode
      | leaveBottom _ hl => exact absurd hl h.stays
  | circular =>
      rw [hm]
      cases htracks with
      | stay => rfl
      | oneFinger h0 => exact nomatch h0.symm.trans h.mode
      | leaveRight h0 _ => exact nomatch h0.symm.trans h.mode
      | leaveBottom h0 _ => exact nomatch h0.symm.trans h.mode

theorem isTouchMode_of_takes {ch : Channel} {s : Pad} {t : Touch} (h : ch.Takes s t) :
    s.touchmode.isTouchMode = true := by
  have hmove (h : s.TakesMove t) : s.touchmode.isTouchMode = true := by
    rcases h.mode with hm | hm | hm <;> rw [hm] <;> rfl
  have hmode {m : TouchMode} (h : s.touchmode = m) (hodd : m.isTouchMode = true) :
      s.touchmode.isTouchMode = true := h ▸ hodd
  cases ch with
  | moveX => exact hmove h
  | moveY => exact hmove h
  | twoY => exact hmode h.mode rfl
  | twoX => exact hmode h.mode rfl
  | vertical => exact hmode h.mode rfl
  | horizontal => exact hmode h.mode rfl
  | circular => exact hmode h.mode rfl

/-- What is dispatched is all of what has been measured. -/
theorem reported_deliver (ch : Channel) {s : Pad} {b : UInt32} (h : ¬ s.withholds b) (dx dy : ℤ) :
    ∃ b', ch.reported (s.deliver dx dy b).log = ch.reported s.log +
      ch.amount (.relative (dx.tdiv (s.cfg.int .divisorx)) (dy.tdiv (s.cfg.int .divisory)) b') := by
  have hmove (b : UInt32) : ch.reported (s.dispatchMove dx dy b).log = ch.reported s.log +
      ch.amount (.relative (dx.tdiv (s.cfg.int .divisorx)) (dy.tdiv (s.cfg.int .divisory)) b) := by
    refine (reported_append ch _ [.relative _ _ b]).trans ?_
    rw [← reported_motionsOf, (still_dividing s _).motions, reported_motionsOf]
    exact congrArg _ (add_zero _)
  rw [deliver]
  split
  · exact ⟨b, hmove b⟩
  · rename_i hthink
    rw [withholds, Bool.eq_true_of_not_eq_false hthink] at h
    split
    · rename_i hmiddle
      exact absurd ⟨rfl, .inl hmiddle⟩ h
    split
    · rename_i hpressed
      split
      · rename_i hscrolled
        exact absurd ⟨rfl, .inr ⟨hpressed, hscrolled⟩⟩ h
      · exact ⟨4, hmove 4⟩
    · exact ⟨b, hmove b⟩

/-- What the channel reports of a packet at its arm, and what it leaves. -/
theorem conserves_handleTouch {ch : Channel} {s : Pad} {t : Touch} {b : UInt32}
    (htakes : ch.Takes (s.beforeTrack t b) t)
    (hd : ch.divisor (s.beforeTrack t b).cfg ≠ 0) (hfits : ch.Fits (s.beforeTrack t b) t)
    (hmode : (s.handleTouch t b).touchmode = (s.beforeTrack t b).touchmode)
    (hgo : ch.IsPointer → ¬ (s.switched t b).withholds (s.progress t b).buttons) :
    ch.reported (s.handleTouch t b).log =
        ch.reported (s.beforeTrack t b).log + ch.quotient (s.beforeTrack t b) t ∧
      ch.rest (s.handleTouch t b).place = ch.left (s.beforeTrack t b) t := by
  let g := s.progress t b
  have hcaptured : Still g.pad (g.pad.captureTouch t) := still_captureTouch _ _
  have hrest : ch.rest (s.handleTouch t b).place = ch.rest g.pad.place := by
    have htracked := touchmode_of_takes htakes (s.release t b).2
    have hm : (g.pad.captureTouch t).touchmode = (s.beforeTrack t b).touchmode :=
      (touchmode_captureTouch _ _).trans htracked
    have hkept : ch.rest (s.handleTouch t b).place = ch.rest (s.switched t b).place := by
      rw [place_handleTouch]
      cases ch <;> rfl
    rw [hkept, ← hcaptured.place]
    refine rest_switchModes ch ?_ (hm ▸ isTouchMode_of_takes htakes)
    exact ((s.touchmode_handleTouch t b).symm.trans hmode).trans hm.symm
  have hlog : ch.reported (s.switched t b).log = ch.reported g.pad.log := by
    rw [log_switched, ← reported_motionsOf, hcaptured.motions, reported_motionsOf]
  have hcfg : (s.switched t b).cfg = (s.beforeTrack t b).cfg :=
    (s.cfg_captured t b).trans (s.cfg_beforeTrack t b).symm
  have hsaved : ch.reported (s.handleTouch t b).log =
      ch.reported ((s.switched t b).deliver g.dx g.dy g.buttons).log := rfl
  by_cases hch : ch.IsPointer
  · have hmove : (s.beforeTrack t b).TakesMove t := by
      rcases hch with rfl | rfl
      · exact htakes
      · exact htakes
    obtain ⟨b', hg⟩ : ∃ b', g = _ := by
      obtain ⟨b', hb⟩ := takesMove_track hmove (s.release t b).2
      exact ⟨b', hb.trans (moveDelta_of_notBogus hmove.notBogus b')⟩
    obtain ⟨b'', hdeliver⟩ := reported_deliver ch (hgo hch) g.dx g.dy
    have hdivide : ch.reported g.pad.log = ch.reported (s.beforeTrack t b).log := by
      rw [hg, ← reported_motionsOf]
      exact (congrArg ch.reported (still_dividing _ _).motions).trans (reported_motionsOf ch _)
    rw [hsaved, hdeliver, hlog, hdivide, hrest, hcfg, hg]
    rcases hch with rfl | rfl
    · refine ⟨congrArg _ ?_, rfl⟩
      exact (if_neg (not_lt.mpr (abs_nonneg _))).symm
    · refine ⟨congrArg _ ?_, rfl⟩
      exact (if_neg (not_lt.mpr (abs_nonneg _))).symm
  · have hscrolls := scrolls_track hch htakes hd hfits (s.release t b).2
    have hstill : ch.reported ((s.switched t b).deliver 0 0 g.buttons).log =
        ch.reported (s.switched t b).log := by
      rw [← reported_motionsOf, (still_deliver _ _).motions, reported_motionsOf]
    obtain ⟨hdx, hdy⟩ : g.dx = 0 ∧ g.dy = 0 := hscrolls.still
    rw [hsaved, hdx, hdy, hstill, hlog, hrest]
    exact ⟨hscrolls.reported, hscrolls.rest⟩

/-- A packet with as many fingers as before, when no deltas are ignored, finds the finger where it
was. -/
theorem still_atSwitch {s : Pad} {p : PadPacket} {now : UInt64}
    (hf : s.motion.lastf = (s.readTouch p now).f) (hi : s.motion.ignoredeltas = 0)
    (htouch : (s.atSwitch p now).touchmode.isTouchMode = true) : Still s (s.atSwitch p now) := by
  have hplace : (s.prepared p now).pad.place = s.place := by
    rw [place_prepared, Place.fingersChange_of_eq hf, Place.ignoreDeltas_of_zero hi]
  have hprepared : Still s (s.prepared p now).pad := ⟨hplace, s.motions_prepared p now⟩
  exact (hprepared.trans (still_watchZone _ _)).trans
    (still_beforeTrack (not_isRelease_of_beforeTrack htouch) _)

theorem cfg_zoned (s : Pad) (p : PadPacket) (now : UInt64) : (s.zoned p now).cfg = s.cfg :=
  (sameElse_watchZone _ _).cfg.trans (congrArg TouchCore.cfg (s.touchCore_prepared p now))

theorem cfg_atSwitch (s : Pad) (p : PadPacket) (now : UInt64) : (s.atSwitch p now).cfg = s.cfg :=
  (cfg_beforeTrack _ _ _).trans (s.cfg_zoned p now)

end Pad

namespace Channel

open Pad

/-! ### Runs -/

/-- The packet takes the channel's arm, which accumulates, with as many fingers as before, and the
mode stays in force. -/
@[mk_iff] structure Accumulates (ch : Channel) (s : Pad) (p : PadPacket) (now : UInt64) : Prop where
  handled : s.isHandled p now
  fingers : s.motion.lastf = (s.readTouch p now).f
  takes : ch.Takes (s.atSwitch p now) (s.prepared p now).touch
  stays : (s.dispatchEventsWithPacket p now).touchmode = (s.atSwitch p now).touchmode
  fits : ch.Fits (s.atSwitch p now) (s.prepared p now).touch

instance (ch : Channel) (s : Pad) (p : PadPacket) (now : UInt64) :
    Decidable (ch.Accumulates s p now) := decidable_of_iff' _ (ch.accumulates_iff s p now)

/-- What is measured of pointer motion is also dispatched. -/
def Dispatches (ch : Channel) (s : Pad) (p : PadPacket) (now : UInt64) : Prop :=
  ch.IsPointer →
    ¬ ((s.zoned p now).switched (s.prepared p now).touch (s.prepared p now).buttons).withholds
      ((s.zoned p now).progress (s.prepared p now).touch (s.prepared p now).buttons).buttons

instance (ch : Channel) (s : Pad) (p : PadPacket) (now : UInt64) :
    Decidable (ch.Dispatches s p now) := inferInstanceAs (Decidable (_ → _))

/-- The raw delta of a packet, as its arm has it. -/
def packetDelta (ch : Channel) (s : Pad) (p : PadPacket) (now : UInt64) : ℤ :=
  ch.raw (s.atSwitch p now).cfg (s.atSwitch p now).place (s.prepared p now).touch

/-- Events that are packets of the channel's arm. -/
def AccumulatesEvent (ch : Channel) (s : Pad) : PadEvent → Prop
  | .packet p now => ch.Accumulates { s with log := [] } p now
  | _ => False

def DispatchesEvent (ch : Channel) (s : Pad) : PadEvent → Prop
  | .packet p now => ch.Dispatches { s with log := [] } p now
  | _ => True

instance (ch : Channel) (s : Pad) : (e : PadEvent) → Decidable (ch.AccumulatesEvent s e)
  | .packet p now => inferInstanceAs (Decidable (ch.Accumulates { s with log := [] } p now))
  | .buttonTimer _ => .isFalse id
  | .dragTimer _ => .isFalse id
  | .scrollTimer => .isFalse id
  | .setDisableTouchpad _ => .isFalse id
  | .notifyKeyPressed _ _ _ => .isFalse id
  | .notification _ _ => .isFalse id
  | .setParamProperties _ => .isFalse id
  | .wake => .isFalse id

instance (ch : Channel) (s : Pad) : (e : PadEvent) → Decidable (ch.DispatchesEvent s e)
  | .packet p now => inferInstanceAs (Decidable (ch.Dispatches { s with log := [] } p now))
  | .buttonTimer _ => .isTrue trivial
  | .dragTimer _ => .isTrue trivial
  | .scrollTimer => .isTrue trivial
  | .setDisableTouchpad _ => .isTrue trivial
  | .notifyKeyPressed _ _ _ => .isTrue trivial
  | .notification _ _ => .isTrue trivial
  | .setParamProperties _ => .isTrue trivial
  | .wake => .isTrue trivial

/-- The displacement in an event. -/
def displacement (ch : Channel) (s : Pad) : PadEvent → ℤ
  | .packet p now => ch.packetDelta { s with log := [] } p now
  | _ => 0

/-- What the driver reports in an event, in units of the trackpad. -/
def output (ch : Channel) (s : Pad) (e : PadEvent) : ℤ :=
  ch.reported (s.handle e).log * ch.divisor s.cfg

/-- A packet of the channel's arm is conserved. -/
theorem conserves_packet {ch : Channel} {s : Pad} {p : PadPacket} {now : UInt64}
    (hd : ch.divisor s.cfg ≠ 0) (hi : s.motion.ignoredeltas = 0) (h : ch.Accumulates s p now)
    (hgo : ch.Dispatches s p now) :
    ((s.dispatchEventsWithPacket p now).cfg = s.cfg ∧
      (s.dispatchEventsWithPacket p now).motion.ignoredeltas = 0) ∧
      ch.reported (s.dispatchEventsWithPacket p now).log * ch.divisor s.cfg +
          ch.rest (s.dispatchEventsWithPacket p now).place =
        ch.reported s.log * ch.divisor s.cfg + (ch.packetDelta s p now + ch.rest s.place) := by
  have hstill := still_atSwitch h.fingers hi (isTouchMode_of_takes h.takes)
  have hcfg := s.cfg_atSwitch p now
  have hmode := h.stays
  have hkept : (s.zoned p now).place.ignoredeltas = 0 := by
    have hzoned : (s.zoned p now).place = s.place :=
      (still_beforeTrack (not_isRelease_of_beforeTrack
        (isTouchMode_of_takes h.takes)) _).place.symm.trans hstill.place
    rw [hzoned]
    exact hi
  rw [dispatch_of_isHandled h.handled] at hmode ⊢
  obtain ⟨hreported, hrest⟩ := conserves_handleTouch (s := s.zoned p now) h.takes
    (show ch.divisor (s.atSwitch p now).cfg ≠ 0 by rwa [hcfg]) h.fits hmode hgo
  have hbalance := ch.quotient_add_left (s.atSwitch p now) (s.prepared p now).touch
  have hlog : ch.reported (s.atSwitch p now).log = ch.reported s.log := by
    rw [← reported_motionsOf, hstill.motions, reported_motionsOf]
  rw [hstill.place, hcfg] at hbalance
  refine ⟨⟨?_, ?_⟩, ?_⟩
  · exact ((s.zoned p now).sameButtons_handleTouch _ _).cfg.trans (s.cfg_zoned p now)
  · change ((s.zoned p now).handleTouch _ _).place.ignoredeltas = 0
    rw [place_handleTouch, ← hkept]
    exact congrArg (fun o => o.2.2.2) ((s.zoned p now).origin_switched _ _)
  · rw [hreported, hrest]
    change (ch.reported (s.atSwitch p now).log + ch.quotient (s.atSwitch p now) _) * _ +
      ch.left (s.atSwitch p now) _ = _
    rw [hlog, packetDelta, hstill.place, hcfg, ← hbalance, add_mul, add_assoc]

/-- **Motion and scroll conservation.**  Over a run of packets that take the channel's arm, what is
reported and what is left are the displacement and what was left before. -/
theorem conserved (ch : Channel) (s s' : Pad) (es : List PadEvent)
    (hd : ch.divisor s.cfg ≠ 0) (hi : s.motion.ignoredeltas = 0)
    (hg : Transition.Guarded stepEvent ch.AccumulatesEvent s es)
    (hgo : Transition.Guarded stepEvent ch.DispatchesEvent s es)
    (hr : Transition.run stepEvent s es = some s') :
    Transition.total stepEvent ch.output s es + ch.rest s'.place =
      Transition.total stepEvent ch.displacement s es + ch.rest s.place := by
  have hstep (s : Pad) (e : PadEvent) (s' : Pad)
      (h : ch.divisor s.cfg ≠ 0 ∧ s.motion.ignoredeltas = 0)
      (hg : ch.AccumulatesEvent s e ∧ ch.DispatchesEvent s e) (hs : stepEvent s e = some s') :
      (ch.divisor s'.cfg ≠ 0 ∧ s'.motion.ignoredeltas = 0) ∧
        ch.output s e + ch.rest s'.place = ch.displacement s e + ch.rest s.place := by
    obtain rfl := Option.some.inj hs
    cases e with
    | packet p now =>
        obtain ⟨⟨hcfg, hi'⟩, hbalance⟩ :=
          conserves_packet (s := { s with log := [] }) h.1 h.2 hg.1 hg.2
        refine ⟨⟨?_, hi'⟩, hbalance.trans ?_⟩
        · exact ne_of_eq_of_ne (congrArg ch.divisor hcfg) h.1
        · have hempty : ch.reported [] = 0 := rfl
          rw [hempty, zero_mul, zero_add]
          rfl
    | _ => exact hg.1.elim
  exact Transition.total_balance hstep es ⟨hd, hi⟩ (hg.and hgo) hr

/-- `DivisorX` is three. -/
def divisorThree : Dictionary := fun name => if name = "DivisorX" then some (.number 3) else none

/-- A finger has been put down. -/
def fingerAt (cfg : Config) (caps : Capabilities) : Pad :=
  (Pad.initial cfg caps).run [.packet (padPacket 0 60 3000 3000) 1000000000]

/-- It moves to the right, then to the left. -/
def backAndForth : List PadEvent :=
  [.packet (padPacket 0 60 3010 3000) 1200000000, .packet (padPacket 0 60 2993 3000) 1212000000]

theorem conserved_backAndForth :
    Transition.total stepEvent moveX.output (fingerAt (Config.init.read divisorThree) plainCaps)
          backAndForth +
        moveX.rest ((fingerAt (Config.init.read divisorThree) plainCaps).run backAndForth).place =
      Transition.total stepEvent moveX.displacement
          (fingerAt (Config.init.read divisorThree) plainCaps) backAndForth +
        moveX.rest (fingerAt (Config.init.read divisorThree) plainCaps).place :=
  conserved moveX (fingerAt (Config.init.read divisorThree) plainCaps) _ backAndForth
    (by decide +kernel) (by decide +kernel) (by decide +kernel) (by decide +kernel) rfl

/-- A finger on a Thinkpad whose trackpad is a ClickPad. -/
def thinkpadFinger : Pad :=
  fingerAt (Config.init.read fun name => if name = "Thinkpad" then some (.boolean true) else none)
    ⟨false, false, false, 1, false, true⟩

/-- The finger moves while the middle button of the trackpoint is down. -/
def middleMotion : List PadEvent :=
  [.packet { padPacket 0 60 3010 3000 with byte3 := 0xc2 } 1200000000]

/-- A movement of ten is lost. -/
theorem motion_withheld :
    ¬ ∀ (ch : Channel) (s s' : Pad) (es : List PadEvent), ch.divisor s.cfg ≠ 0 →
      s.motion.ignoredeltas = 0 → Transition.Guarded stepEvent ch.AccumulatesEvent s es →
      Transition.run stepEvent s es = some s' →
        Transition.total stepEvent ch.output s es + ch.rest s'.place =
          Transition.total stepEvent ch.displacement s es + ch.rest s.place := by
  intro h
  have hlost := h moveX thinkpadFinger (thinkpadFinger.run middleMotion) middleMotion
    (by decide +kernel) (by decide +kernel) (by decide +kernel) rfl
  have htaken : Transition.total stepEvent moveX.displacement thinkpadFinger middleMotion = 10 := by
    decide +kernel
  have hgiven : Transition.total stepEvent moveX.output thinkpadFinger middleMotion = 0 := by
    decide +kernel
  have hrest : moveX.rest (thinkpadFinger.run middleMotion).place =
      moveX.rest thinkpadFinger.place := by decide +kernel
  rw [htaken, hgiven, hrest] at hlost
  exact absurd (add_right_cancel hlost) (by decide)

end Channel

end VoodooPS2.Synaptics
