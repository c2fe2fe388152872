import VoodooPS2.Synaptics.TouchModes

/-! # The secondary finger and the state of the primary one

`dispatchEventsWithPacketEW` is a copy of the primary path with variables of its own.  `Pad.primary`
is what it should leave alone.  It does so except where a delta of the secondary finger is bogus:
there it clears `xrest` and `yrest` in place of `xrest2` and `yrest2`.  `primary_untouched_iff` says
for every packet when this makes a difference. -/

namespace VoodooPS2.Synaptics

/-- What the driver knows of the primary finger. -/
structure Primary where
  motion : Motion
  touchmode : TouchMode
  touchtime : UInt64
  untouchtime : UInt64
  touchx : ℤ
  touchy : ℤ
  wasdouble : Bool
  wastriple : Bool
deriving DecidableEq, Repr

namespace Pad

def primary (s : Pad) : Primary :=
  ⟨s.motion, s.touchmode, s.touchtime, s.untouchtime, s.touchx, s.touchy, s.wasdouble, s.wastriple⟩

/-- A packet of the secondary finger after the filters on its position. -/
def filteredSecond (s : Pad) (p : PadPacket) (now : UInt64) : Pad × Touch :=
  (s.dividing s.cfg.scaleDivisors).smoothSecond (s.readSecond p now)

/-- The movement of the secondary finger, with what was left of it. -/
def secondDelta (s : Pad) (t : Touch) : ℤ × ℤ :=
  (t.x - s.second.lastx2 + s.second.xrest2, s.second.lasty2 - t.y + s.second.yrest2)

/-- The packet gets to the secondary finger. -/
def reachesSecond (s : Pad) (p : PadPacket) (now : UInt64) : Prop :=
  s.ignoreall = false ∧ p.packetCode = 1 ∧ s.isFingerTouch p.z2 ∧
    ¬ (s.filteredSecond p now).1.isOutsideZone (s.filteredSecond p now).2

instance (s : Pad) (p : PadPacket) (now : UInt64) : Decidable (s.reachesSecond p now) :=
  inferInstanceAs (Decidable (_ ∧ _))

/-- The secondary finger moves while the primary finger holds the ClickPad. -/
def tracksSecond (s : Pad) : Prop :=
  (s.cfg.bool .clickpadtrackboth = true ∨ s.second.clickedprimary = true) ∧ s.clickbuttons ≠ 0 ∧
    s.second.tracksecondary = true

instance (s : Pad) : Decidable s.tracksSecond := inferInstanceAs (Decidable (_ ∧ _))

/-- The delta of the secondary finger is bogus. -/
def isBogusSecond (s : Pad) (t : Touch) : Prop :=
  |(s.secondDelta t).1| > s.cfg.int .bogusdxthresh ∨
    |(s.secondDelta t).2| > s.cfg.int .bogusdythresh

instance (s : Pad) (t : Touch) : Decidable (s.isBogusSecond t) :=
  inferInstanceAs (Decidable (_ ∨ _))

/-- The packet's delta is judged bogus. -/
def judgesBogus (s : Pad) (p : PadPacket) (now : UInt64) : Prop :=
  s.reachesSecond p now ∧ (s.filteredSecond p now).1.tracksSecond ∧
    (s.filteredSecond p now).1.isBogusSecond (s.filteredSecond p now).2

instance (s : Pad) (p : PadPacket) (now : UInt64) : Decidable (s.judgesBogus p now) :=
  inferInstanceAs (Decidable (_ ∧ _))

/-- There is nothing left of any movement that could be lost or kept by mistake. -/
def nothingLeft (s : Pad) (t : Touch) : Prop :=
  s.motion.xrest = 0 ∧ s.motion.yrest = 0 ∧
    (s.secondDelta t).1.tmod (s.cfg.int .divisorx) = 0 ∧
    (s.secondDelta t).2.tmod (s.cfg.int .divisory) = 0

instance (s : Pad) (t : Touch) : Decidable (s.nothingLeft t) := inferInstanceAs (Decidable (_ ∧ _))

/-! ### The branches -/

theorem clickRule_primary : ClickRule fun s s' => s'.primary = s.primary where
  refl := fun _ => rfl
  trans := fun h h' => h'.trans h
  modeByte := fun s => by
    rw [setModeByte]
    split <;> rfl
  clickbuttons := fun _ _ => rfl
  buttonState := fun _ _ => rfl
  clickedprimary := fun _ _ => rfl
  lastbuttons := fun _ _ => rfl

theorem primary_dispatchButtons (s : Pad) (b : UInt32) :
    (s.dispatchButtons b).primary = s.primary := by
  rw [dispatchButtons]
  split <;> rfl

/-- What a movement of the secondary finger leaves. -/
theorem moveSecond_spec (s : Pad) (t : Touch) (b : UInt32) :
    (s.moveSecond t b).primary =
        { s.primary with
          motion :=
            { s.motion with
              xrest := if s.isBogusSecond t then 0 else s.motion.xrest
              yrest := if s.isBogusSecond t then 0 else s.motion.yrest } } ∧
      (s.moveSecond t b).second.xrest2 = (s.secondDelta t).1.tmod (s.cfg.int .divisorx) ∧
      (s.moveSecond t b).second.yrest2 = (s.secondDelta t).2.tmod (s.cfg.int .divisory) := by
  have hdispatch (r : Pad) (dx dy : ℤ) (b : UInt32) (c : Prop) [Decidable c] :
      (if c then r else r.dispatchMove dx dy b).primary = r.primary ∧
        (if c then r else r.dispatchMove dx dy b).second = r.second := by
    split <;> exact ⟨rfl, rfl⟩
  obtain ⟨hprimary, hsecond⟩ : (s.moveSecond t b).primary = _ ∧ (s.moveSecond t b).second = _ :=
    hdispatch _ _ _ _ _
  have hbogus (n : ℤ) : (if decide (s.isBogusSecond t) = true then 0 else n) =
      if s.isBogusSecond t then 0 else n := if_congr decide_eq_true_iff rfl rfl
  refine ⟨?_, congrArg Secondary.xrest2 hsecond, congrArg Secondary.yrest2 hsecond⟩
  rw [hprimary, ← hbogus, ← hbogus]
  rfl

/-- Unless the delta is bogus, what the packet is for leaves the primary finger alone. -/
theorem primary_trackSecond {s : Pad} {t : Touch} (h : ¬ (s.tracksSecond ∧ s.isBogusSecond t))
    (p : PadPacket) (b : UInt32) : (s.trackSecond p t b).primary = s.primary := by
  rw [trackSecond]
  split
  · rename_i hclick
    split
    · rename_i htrack
      have hbogus : ¬ s.isBogusSecond t := fun hb => h ⟨⟨hclick.1, hclick.2, htrack⟩, hb⟩
      rw [(s.moveSecond_spec t b).1, if_neg hbogus, if_neg hbogus]
      rfl
    · rfl
  split
  · rw [primary_dispatchButtons]
    exact clickRule_primary.clickSecond s p t b
  · exact s.primary_dispatchButtons b

theorem trackSecond_of_tracksSecond {s : Pad} (h : s.tracksSecond) (p : PadPacket) (t : Touch)
    (b : UInt32) : s.trackSecond p t b = s.moveSecond t b := by
  rw [trackSecond, if_pos ⟨h.1, h.2.1⟩, if_pos h.2.2]

/-! ### The packet -/

theorem primary_filteredSecond (s : Pad) (p : PadPacket) (now : UInt64) :
    (s.filteredSecond p now).1.primary = s.primary := rfl

/-- The packet is for the secondary finger, or returns early. -/
theorem dispatchEventsWithPacketEW_cases (s : Pad) (p : PadPacket) (now : UInt64) :
    (s.reachesSecond p now ∧ s.dispatchEventsWithPacketEW p now =
        let q := s.filteredSecond p now
        { q.1.trackSecond p q.2 (p.buttonsraw ||| q.1.passbuttons) with
          second := (q.1.trackSecond p q.2 (p.buttonsraw ||| q.1.passbuttons)).second.save q.2 }) ∨
      (¬ s.reachesSecond p now ∧ (s.dispatchEventsWithPacketEW p now).primary = s.primary) := by
  rw [dispatchEventsWithPacketEW]
  by_cases hignore : s.ignoreall = true
  · rw [if_pos hignore]
    exact .inr ⟨fun h => Bool.false_ne_true (h.1.symm.trans hignore), rfl⟩
  rw [if_neg hignore]
  by_cases hcode : p.packetCode ≠ 1
  · rw [if_pos hcode]
    exact .inr ⟨fun h => hcode h.2.1, rfl⟩
  rw [if_neg hcode]
  by_cases hfinger : ¬ (s.dividing s.cfg.scaleDivisors).isFingerTouch p.z2
  · refine .inr ⟨fun h => hfinger h.2.2.1, ?_⟩
    dsimp only
    rw [if_pos hfinger]
    rfl
  by_cases hzone : (s.filteredSecond p now).1.isOutsideZone (s.filteredSecond p now).2
  · refine .inr ⟨fun h => h.2.2.2 hzone, ?_⟩
    dsimp only
    rw [if_neg hfinger]
    exact (congrArg primary (if_pos hzone)).trans (s.primary_filteredSecond p now)
  · refine .inl ⟨⟨Bool.eq_false_of_not_eq_true hignore, not_not.mp hcode, not_not.mp hfinger,
      hzone⟩, ?_⟩
    dsimp only
    rw [if_neg hfinger]
    exact if_neg hzone

/-- A bogus delta clears the remainders of the primary finger, and keeps those of the secondary
one. -/
theorem dispatch_of_judgesBogus {s : Pad} {p : PadPacket} {now : UInt64}
    (h : s.judgesBogus p now) :
    (s.dispatchEventsWithPacketEW p now).primary =
        { s.primary with motion := { s.motion with xrest := 0, yrest := 0 } } ∧
      (s.dispatchEventsWithPacketEW p now).second.xrest2 =
        ((s.filteredSecond p now).1.secondDelta (s.filteredSecond p now).2).1.tmod
          (s.cfg.int .divisorx) ∧
      (s.dispatchEventsWithPacketEW p now).second.yrest2 =
        ((s.filteredSecond p now).1.secondDelta (s.filteredSecond p now).2).2.tmod
          (s.cfg.int .divisory) := by
  obtain ⟨hreach, htracks, hjudged⟩ := h
  obtain ⟨-, heq⟩ :=
    (s.dispatchEventsWithPacketEW_cases p now).resolve_right (fun hnot => hnot.1 hreach)
  dsimp only at heq
  rw [trackSecond_of_tracksSecond htracks] at heq
  obtain ⟨hprimary, hx, hy⟩ := moveSecond_spec (s.filteredSecond p now).1
    (s.filteredSecond p now).2 (p.buttonsraw ||| (s.filteredSecond p now).1.passbuttons)
  rw [if_pos hjudged, if_pos hjudged] at hprimary
  rw [heq]
  exact ⟨hprimary, hx, hy⟩

/-- Any other packet leaves the primary finger alone. -/
theorem dispatch_of_not_judgesBogus {s : Pad} {p : PadPacket} {now : UInt64}
    (h : ¬ s.judgesBogus p now) : (s.dispatchEventsWithPacketEW p now).primary = s.primary := by
  rcases s.dispatchEventsWithPacketEW_cases p now with ⟨hreach, heq⟩ | ⟨-, heq⟩
  · rw [heq]
    exact primary_trackSecond (s := (s.filteredSecond p now).1) (t := (s.filteredSecond p now).2)
      (fun ht => h ⟨hreach, ht.1, ht.2⟩) p _
  · exact heq

/-- **The secondary finger leaves the primary one alone**, and clears its own remainders when a
delta is bogus, exactly if no delta is bogus or nothing is left of any movement. -/
theorem primary_untouched_iff (s : Pad) (p : PadPacket) (now : UInt64) :
    ((s.dispatchEventsWithPacketEW p now).primary = s.primary ∧
        (s.judgesBogus p now →
          (s.dispatchEventsWithPacketEW p now).second.xrest2 = 0 ∧
            (s.dispatchEventsWithPacketEW p now).second.yrest2 = 0)) ↔
      (s.judgesBogus p now →
        (s.filteredSecond p now).1.nothingLeft (s.filteredSecond p now).2) := by
  by_cases hbogus : s.judgesBogus p now
  · rw [imp_iff_right hbogus, imp_iff_right hbogus]
    obtain ⟨hmoved, hx, hy⟩ := dispatch_of_judgesBogus hbogus
    rw [hmoved, hx, hy]
    constructor
    · rintro ⟨hkept, hleft⟩
      have hmotion : { s.motion with xrest := 0, yrest := 0 } = s.motion :=
        congrArg Primary.motion hkept
      exact ⟨(congrArg Motion.xrest hmotion).symm, (congrArg Motion.yrest hmotion).symm, hleft⟩
    · rintro ⟨hx0, hy0, hleft⟩
      have hmotion : { s.motion with xrest := 0, yrest := 0 } = s.motion :=
        congrArg₂ (fun x y => { s.motion with xrest := x, yrest := y }) hx0.symm hy0.symm
      exact ⟨congrArg (fun m => { s.primary with motion := m }) hmotion, hleft⟩
  · exact ⟨fun _ h => absurd h hbogus,
      fun _ => ⟨dispatch_of_not_judgesBogus hbogus, fun h => absurd h hbogus⟩⟩

/-- A ClickPad with extended W mode, and `DivisorX` three. -/
def extendedPad : Pad :=
  .initial (Config.init.read fun name => if name = "DivisorX" then some (.number 3) else none)
    ⟨false, false, false, 1, true, true⟩

/-- A packet of the secondary finger; its position is `256 + 512 * n`. -/
def secondPacket (n : UInt8) : PadPacket := ⟨0x84, 0x80, 0x80, 0x20, n, 0x10⟩

/-- A finger moves, clicks and stays while another one is put down. -/
def heldClick : List PadEvent :=
  [.packet (padPacket 0 60 3000 3000) 1000000000, .packet (padPacket 0 60 3010 3000) 1200000000,
    .packet { padPacket 0 60 3010 3000 with byte3 := 0xc1 } 1212000000,
    .packet (secondPacket 3) 1224000000]

/-- The other finger jumps, and what is left of the first one's movement is lost. -/
theorem primary_rest_lost :
    ¬ (((extendedPad.run heldClick).dispatchEventsWithPacketEW (secondPacket 5) 1236000000).primary =
          (extendedPad.run heldClick).primary ∧
        ((extendedPad.run heldClick).judgesBogus (secondPacket 5) 1236000000 →
          ((extendedPad.run heldClick).dispatchEventsWithPacketEW (secondPacket 5)
              1236000000).second.xrest2 = 0 ∧
            ((extendedPad.run heldClick).dispatchEventsWithPacketEW (secondPacket 5)
              1236000000).second.yrest2 = 0)) := by
  decide +kernel

end Pad

end VoodooPS2.Synaptics
