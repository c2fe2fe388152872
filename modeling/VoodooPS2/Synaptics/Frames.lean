import VoodooPS2.Synaptics.Dispatch

/-! # What the parts of a packet leave alone

`Aside` relates two states of the driver that differ only in the buttons of a ClickPad, the mode
byte and the position: all that `clickPad` changes.  `SameButtons` relates two states with the same
configuration and the same physical buttons: the state before `handleTouch` and the one after it.
`touchCore_prepared` and `same_prepared` say what a normal packet has left alone before its first
early return. -/

namespace VoodooPS2.Synaptics

theorem pointerMasks_append (l l' : List Effect) :
    pointerMasks (l ++ l') = pointerMasks l ++ pointerMasks l' := List.filterMap_append

theorem divisorsOf_append (l l' : List Effect) :
    divisorsOf (l ++ l') = divisorsOf l ++ divisorsOf l' := List.filterMap_append

@[simp]
theorem divisorsOf_divide (ds : List ℤ) : divisorsOf (ds.map .divide) = ds := by
  simp [divisorsOf, List.filterMap_map]

@[simp]
theorem pointerMasks_divide (ds : List ℤ) : pointerMasks (ds.map .divide) = [] := by
  simp [pointerMasks, List.filterMap_map]

@[simp]
theorem divisorsOf_relative (bs : List UInt32) :
    divisorsOf (bs.map (.relative 0 0)) = [] := by
  simp [divisorsOf, List.filterMap_map]

@[simp]
theorem pointerMasks_relative (bs : List UInt32) :
    pointerMasks (bs.map (.relative 0 0)) = bs := by
  simp [pointerMasks, List.filterMap_map]

/-- What is left alone until the disable zone is looked at. -/
structure TouchCore where
  cfg : Config
  caps : Capabilities
  ignoreall : Bool
  keytime : UInt64
  touchmode : TouchMode
  touchtime : UInt64
  dragArmed : Bool
  current : ℤ
  interval : UInt64

namespace Pad

def touchCore (s : Pad) : TouchCore :=
  ⟨s.cfg, s.caps, s.ignoreall, s.keytime, s.touchmode, s.touchtime, s.dragArmed,
    s.momentum.current, s.momentum.interval⟩

/-! ### ClickPads -/

/-- A relation that holds across every single write of the handling of a ClickPad's buttons. -/
structure ClickRule (R : Pad → Pad → Prop) : Prop where
  refl : ∀ s, R s s
  trans : ∀ {s s' s'' : Pad}, R s s' → R s' s'' → R s s''
  modeByte : ∀ s : Pad, R s s.setModeByte
  clickbuttons : ∀ (s : Pad) (b : UInt32), R s { s with clickbuttons := b }
  buttonState : ∀ (s : Pad) (b : UInt32),
    R s { s with thinkpad := { s.thinkpad with buttonState := b } }
  clickedprimary : ∀ (s : Pad) (on : Bool),
    R s { s with second := { s.second with clickedprimary := on } }
  lastbuttons : ∀ (s : Pad) (b : UInt32), R s { s with lastbuttons := b }

namespace ClickRule

variable {R : Pad → Pad → Prop}

theorem rel_ite {s a b : Pad} {c : Prop} [Decidable c] (ha : R s a) (hb : R s b) :
    R s (if c then a else b) := by
  split
  · exact ha
  · exact hb

variable (h : ClickRule R)
include h

theorem setClickButtons (s : Pad) (b : UInt32) : R s (s.setClickButtons b) :=
  rel_ite (h.trans (h.clickbuttons s b) (h.modeByte _)) (h.clickbuttons s b)

theorem readClickButtons (s : Pad) (p : PadPacket) (b : UInt32) :
    R s (s.readClickButtons p b).1 := by
  rw [Pad.readClickButtons]
  split
  · exact h.trans (h.buttonState s _) (h.setClickButtons _ _)
  · exact h.refl s

/-- The end of `clickPad` and of `clickSecond`. -/
theorem clickButtons (s : Pad) (c : UInt32) :
    R s (if c = 0 then s.setClickButtons 0 else s).keepThinkpadButtons := by
  have hkeep (r : Pad) : R r r.keepThinkpadButtons := rel_ite (h.clickbuttons r _) (h.refl r)
  exact h.trans (rel_ite (h.setClickButtons s 0) (h.refl s)) (hkeep _)

theorem clickPad (s : Pad) (p : PadPacket) (t : Touch) (b : UInt32) :
    R s (s.clickPad p t b).1 := by
  have hread := h.readClickButtons s p b
  rw [Pad.clickPad]
  generalize s.readClickButtons p b = x at hread ⊢
  obtain ⟨r, c, buttons⟩ := x
  have hdown (on : Bool) (b : UInt32) := h.trans (h.clickedprimary r on) (h.setClickButtons _ b)
  refine h.trans (?_ : R s (Pad.keepThinkpadButtons (if c = 0 then _ else _)))
    (h.lastbuttons _ _)
  by_cases hclick : r.clickbuttons = 0 ∧ c ≠ 0
  · rw [if_pos hclick]
    exact h.trans (h.trans hread (hdown _ _)) (h.clickButtons _ c)
  · rw [if_neg hclick]
    exact h.trans hread (h.clickButtons r c)

theorem clickSecond (s : Pad) (p : PadPacket) (t : Touch) (b : UInt32) :
    R s (s.clickSecond p t b).1 := by
  have hread := h.readClickButtons s p b
  rw [Pad.clickSecond]
  generalize s.readClickButtons p b = x at hread ⊢
  obtain ⟨r, c, buttons⟩ := x
  have hdown (b : UInt32) := h.trans (h.setClickButtons r b) (h.clickedprimary _ false)
  refine (?_ : R s (Pad.keepThinkpadButtons (if c = 0 then _ else _)))
  by_cases hclick : r.clickbuttons = 0 ∧ c ≠ 0
  · rw [if_pos hclick]
    exact h.trans (h.trans hread (hdown _)) (h.clickButtons _ c)
  · rw [if_neg hclick]
    exact h.trans hread (h.clickButtons r c)

end ClickRule

/-- The states differ only in the buttons of a ClickPad, the mode byte and the position. -/
structure Aside (s s' : Pad) : Prop where
  touchCore : s'.touchCore = s.touchCore
  machine : s'.machine = s.machine
  passbuttons : s'.passbuttons = s.passbuttons
  masks : pointerMasks s'.log = pointerMasks s.log
  divisors : divisorsOf s'.log = divisorsOf s.log

namespace Aside

variable {s s' s'' : Pad}

theorem refl (s : Pad) : Aside s s := ⟨rfl, rfl, rfl, rfl, rfl⟩

theorem trans (h : Aside s s') (h' : Aside s' s'') : Aside s s'' where
  touchCore := h'.touchCore.trans h.touchCore
  machine := h'.machine.trans h.machine
  passbuttons := h'.passbuttons.trans h.passbuttons
  masks := h'.masks.trans h.masks
  divisors := h'.divisors.trans h.divisors

/-- A part of the handling that is only done sometimes. -/
theorem ite {c : Prop} [Decidable c] (h : Aside s s') (h' : Aside s s'') :
    Aside s (if c then s' else s'') := by
  split
  · exact h
  · exact h'

end Aside

/-- The log grows by what is neither a pointer event nor a division. -/
theorem aside_of_log {s s' : Pad} {effects : List Effect} (ht : s'.touchCore = s.touchCore)
    (hmb : s'.machine = s.machine) (hp : s'.passbuttons = s.passbuttons)
    (hl : s'.log = s.log ++ effects) (hm : pointerMasks effects = [])
    (hd : divisorsOf effects = []) : Aside s s' where
  touchCore := ht
  machine := hmb
  passbuttons := hp
  masks := by rw [hl, pointerMasks_append, hm, List.append_nil]
  divisors := by rw [hl, divisorsOf_append, hd, List.append_nil]

theorem aside_setModeByte (s : Pad) : Aside s s.setModeByte := by
  rw [setModeByte]
  split
  · exact .refl s
  · exact aside_of_log rfl rfl rfl rfl rfl rfl

theorem clickRule_aside : ClickRule Aside where
  refl := Aside.refl
  trans := Aside.trans
  modeByte := aside_setModeByte
  clickbuttons := fun _ _ => ⟨rfl, rfl, rfl, rfl, rfl⟩
  buttonState := fun _ _ => ⟨rfl, rfl, rfl, rfl, rfl⟩
  clickedprimary := fun _ _ => ⟨rfl, rfl, rfl, rfl, rfl⟩
  lastbuttons := fun _ _ => ⟨rfl, rfl, rfl, rfl, rfl⟩

theorem aside_clickPad (s : Pad) (p : PadPacket) (t : Touch) (b : UInt32) :
    Aside s (s.clickPad p t b).1 := clickRule_aside.clickPad s p t b

/-! ### Before the first early return -/

theorem pointerMasks_dividing (s : Pad) (ds : List ℤ) :
    pointerMasks (s.dividing ds).log = pointerMasks s.log := by
  rw [dividing, emit, pointerMasks_append, pointerMasks_divide, List.append_nil]

theorem pointerMasks_smooth (s : Pad) (t : Touch) :
    pointerMasks (s.smooth t).1.log = pointerMasks s.log := by
  rw [smooth, pointerMasks_append, pointerMasks_divide, List.append_nil]

theorem touchCore_readButtons (s : Pad) (p : PadPacket) (now : UInt64) :
    (s.readButtons p now).1.touchCore = s.touchCore := by
  rw [readButtons]
  split <;> rfl

theorem touchCore_fingerDown (s : Pad) (p : PadPacket) (t : Touch) (b : UInt32) :
    (s.fingerDown p t b).1.touchCore = s.touchCore := by
  rw [fingerDown]
  split <;> rfl

theorem touchCore_position (s : Pad) (p : PadPacket) (now : UInt64) (b : UInt32) :
    (s.position p now b).pad.touchCore = s.touchCore :=
  ((s.dividing s.cfg.scaleDivisors).touchCore_fingerDown p (s.readTouch p now) b).trans rfl

theorem touchCore_prepare (s : Pad) (p : PadPacket) (now : UInt64) (b : UInt32) :
    (s.prepare p now b).pad.touchCore = s.touchCore := by
  rw [prepare]
  split
  · exact (aside_clickPad _ _ _ _).touchCore.trans (s.touchCore_position p now b)
  · exact s.touchCore_position p now b

theorem touchCore_prepared (s : Pad) (p : PadPacket) (now : UInt64) :
    (s.prepared p now).pad.touchCore = s.touchCore :=
  (touchCore_prepare _ _ _ _).trans (s.touchCore_readButtons p now)

end Pad

/-- Two readings of a packet that differ only in the filtered position. -/
structure Touch.Same (t t' : Touch) : Prop where
  w : t'.w = t.w
  z : t'.z = t.z
  f : t'.f = t.f
  now : t'.now = t.now

namespace Pad

theorem same_smooth (s : Pad) (t : Touch) : t.Same (s.smooth t).2 := by
  have havg (m : Motion) (u : Touch) : u.Same (m.average s.cfg u).2 := by
    rw [Motion.average]
    split <;> exact ⟨rfl, rfl, rfl, rfl⟩
  have hun (m : Motion) : t.Same (m.unsmooth s.cfg t).2 := by
    rw [Motion.unsmooth]
    split <;> exact ⟨rfl, rfl, rfl, rfl⟩
  have h1 := hun (s.motion.fingersChange s.cfg t.f)
  have h2 := havg ((s.motion.fingersChange s.cfg t.f).unsmooth s.cfg t).1
    ((s.motion.fingersChange s.cfg t.f).unsmooth s.cfg t).2
  exact ⟨h2.w.trans h1.w, h2.z.trans h1.z, h2.f.trans h1.f, h2.now.trans h1.now⟩

theorem readTouch_readButtons (s : Pad) (p : PadPacket) (now : UInt64) :
    (s.readButtons p now).1.readTouch p now = s.readTouch p now := by
  rw [readButtons]
  split <;> rfl

/-- Before the first early return the packet is as it was read, but for the position. -/
theorem same_prepared (s : Pad) (p : PadPacket) (now : UInt64) :
    (s.readTouch p now).Same (s.prepared p now).touch := by
  rw [← s.readTouch_readButtons p now, prepared, prepare]
  split
  · exact same_smooth _ _
  · exact same_smooth _ _

theorem now_prepared (s : Pad) (p : PadPacket) (now : UInt64) :
    (s.prepared p now).touch.now = now := (s.same_prepared p now).now

/-! ### After the last early return -/

/-- The states have the same configuration and the same physical buttons. -/
structure SameButtons (s s' : Pad) : Prop where
  cfg : s'.cfg = s.cfg
  caps : s'.caps = s.caps
  machine : s'.machine = s.machine
  lastbuttons : s'.lastbuttons = s.lastbuttons
  passbuttons : s'.passbuttons = s.passbuttons
  ignoreall : s'.ignoreall = s.ignoreall

namespace SameButtons

variable {s s' s'' : Pad}

theorem refl (s : Pad) : SameButtons s s := ⟨rfl, rfl, rfl, rfl, rfl, rfl⟩

theorem trans (h : SameButtons s s') (h' : SameButtons s' s'') : SameButtons s s'' where
  cfg := h'.cfg.trans h.cfg
  caps := h'.caps.trans h.caps
  machine := h'.machine.trans h.machine
  lastbuttons := h'.lastbuttons.trans h.lastbuttons
  passbuttons := h'.passbuttons.trans h.passbuttons
  ignoreall := h'.ignoreall.trans h.ignoreall

end SameButtons

/-- The states differ only in the position, the history and the log. -/
structure SameTouch (s s' : Pad) : Prop where
  touchCore : s'.touchCore = s.touchCore
  machine : s'.machine = s.machine
  lastbuttons : s'.lastbuttons = s.lastbuttons
  passbuttons : s'.passbuttons = s.passbuttons

namespace SameTouch

variable {s s' s'' : Pad}

theorem refl (s : Pad) : SameTouch s s := ⟨rfl, rfl, rfl, rfl⟩

theorem trans (h : SameTouch s s') (h' : SameTouch s' s'') : SameTouch s s'' where
  touchCore := h'.touchCore.trans h.touchCore
  machine := h'.machine.trans h.machine
  lastbuttons := h'.lastbuttons.trans h.lastbuttons
  passbuttons := h'.passbuttons.trans h.passbuttons

theorem ite {c : Prop} [Decidable c] (h : SameTouch s s') (h' : SameTouch s s'') :
    SameTouch s (if c then s' else s'') := by
  split
  · exact h
  · exact h'

theorem sameButtons (h : SameTouch s s') : SameButtons s s' :=
  ⟨congrArg TouchCore.cfg h.touchCore, congrArg TouchCore.caps h.touchCore, h.machine,
    h.lastbuttons, h.passbuttons, congrArg TouchCore.ignoreall h.touchCore⟩

end SameTouch

theorem sameTouch_dragClick (s : Pad) (b : UInt32) : SameTouch s (s.dragClick b).1 := by
  rw [dragClick]
  split
  · exact .refl s
  · dsimp only
    split <;> exact ⟨rfl, rfl, rfl, rfl⟩

theorem sameButtons_tap (s : Pad) (b : UInt32) : SameButtons s (s.tap b).1 := by
  rw [tap]
  split
  · exact (s.sameTouch_dragClick b).sameButtons.trans ⟨rfl, rfl, rfl, rfl, rfl, rfl⟩
  · exact ⟨rfl, rfl, rfl, rfl, rfl, rfl⟩
  · exact ⟨rfl, rfl, rfl, rfl, rfl, rfl⟩

theorem sameButtons_endTouch (s : Pad) : SameButtons s s.endTouch := by
  rw [endTouch]
  split <;> exact ⟨rfl, rfl, rfl, rfl, rfl, rfl⟩

theorem sameButtons_release (s : Pad) (t : Touch) (b : UInt32) :
    SameButtons s (s.release t b).1 := by
  rw [release]
  have hlift : SameButtons s (s.liftFinger t) := ⟨rfl, rfl, rfl, rfl, rfl, rfl⟩
  split
  · dsimp only
    split
    · exact (hlift.trans (sameButtons_tap _ b)).trans ⟨rfl, rfl, rfl, rfl, rfl, rfl⟩
    · exact (hlift.trans (sameButtons_endTouch _)).trans ⟨rfl, rfl, rfl, rfl, rfl, rfl⟩
  · exact .refl s

theorem sameTouch_moveDelta (s : Pad) (t : Touch) (b : UInt32) :
    SameTouch s (s.moveDelta t b).pad := by
  rw [moveDelta]
  dsimp only
  split <;> exact ⟨rfl, rfl, rfl, rfl⟩

theorem sameTouch_trackMove (s : Pad) (t : Touch) (b : UInt32) :
    SameTouch s (s.trackMove t b).pad := by
  rw [trackMove]
  split
  · exact s.sameTouch_moveDelta t b
  · exact .refl s

theorem momentum_turned (m : Momentum) (dy : ℤ) :
    (m.turned dy).current = m.current ∧ (m.turned dy).interval = m.interval := by
  rw [Momentum.turned]
  split <;> exact ⟨rfl, rfl⟩

theorem sameTouch_scrollTwo (s : Pad) (t : Touch) (dy dx : ℤ) :
    SameTouch s (s.scrollTwo t dy dx) := by
  have hrec : SameTouch s (s.recordTwo t dy dx) := by
    obtain ⟨hc, hi⟩ := momentum_turned s.momentum dy
    refine ⟨?_, rfl, rfl, rfl⟩
    exact congrArg₂ (TouchCore.mk _ _ _ _ _ _ _) hc hi
  exact .ite (hrec.trans ⟨rfl, rfl, rfl, rfl⟩) hrec

theorem sameTouch_trackThree (s : Pad) (t : Touch) : SameTouch s (s.trackThree t) :=
  .ite ⟨rfl, rfl, rfl, rfl⟩ (.ite ⟨rfl, rfl, rfl, rfl⟩ (.ite ⟨rfl, rfl, rfl, rfl⟩
    (.ite ⟨rfl, rfl, rfl, rfl⟩ ⟨rfl, rfl, rfl, rfl⟩)))

theorem sameTouch_scrollBy (s : Pad) (delta divisor thresh : ℤ) {dispatch : Pad → ℤ → Pad}
    (hd : ∀ s n, SameTouch s (dispatch s n)) :
    SameTouch s (s.scrollBy delta divisor thresh dispatch) := by
  have hrec : SameTouch s (s.recordOne delta divisor thresh) := ⟨rfl, rfl, rfl, rfl⟩
  have hdiv (r : Pad) : SameTouch r (r.dividing [divisor]) := ⟨rfl, rfl, rfl, rfl⟩
  rw [scrollBy]
  exact .ite ((hrec.trans (hdiv _)).trans (hd _ _)) hrec

theorem sameTouch_dispatchScroll (s : Pad) (n m : ℤ) : SameTouch s (s.dispatchScroll n m) :=
  ⟨rfl, rfl, rfl, rfl⟩

/-- What the switch over the modes does to the mode. -/
inductive Tracks (s : Pad) (t : Touch) : TouchMode → Prop
  | stay : Tracks s t s.touchmode
  | oneFinger (h : s.touchmode = .mtouch) : Tracks s t .move
  | leaveRight (h : s.touchmode = .vscroll) (hl : s.leavesVScroll t) : Tracks s t .notouch
  | leaveBottom (h : s.touchmode = .hscroll) (hl : s.leavesHScroll t) : Tracks s t .notouch

/-- The state after the switch over the modes: besides the mode, only the position, the history
and the log have changed. -/
def TracksTo (s : Pad) (t : Touch) (s' : Pad) : Prop :=
  ∃ m, Tracks s t m ∧ SameTouch { s with touchmode := m } s'

theorem SameTouch.tracksTo {s s' : Pad} {t : Touch} (h : SameTouch s s') : TracksTo s t s' :=
  ⟨s.touchmode, .stay, h⟩

theorem tracksTo_trackTwo {s : Pad} (t : Touch) (b : UInt32) (hm : s.touchmode = .mtouch) :
    TracksTo s t (s.trackTwo t b).pad := by
  rw [trackTwo]
  split
  · split
    · exact (s.sameTouch_moveDelta t b).tracksTo
    · exact (SameTouch.refl s).tracksTo
  split
  · exact (SameTouch.refl s).tracksTo
  split
  · exact (SameTouch.refl s).tracksTo
  split
  · exact ⟨.move, .oneFinger hm, ⟨rfl, rfl, rfl, rfl⟩⟩
  split
  · exact (SameTouch.refl s).tracksTo
  · exact (s.sameTouch_scrollTwo t _ _).tracksTo

theorem tracksTo_trackVScroll {s : Pad} (t : Touch) (hm : s.touchmode = .vscroll) :
    TracksTo s t (s.trackVScroll t) := by
  rw [trackVScroll]
  split
  · rename_i hl
    exact ⟨.notouch, .leaveRight hm hl, ⟨rfl, rfl, rfl, rfl⟩⟩
  split
  · exact (SameTouch.refl s).tracksTo
  · exact (s.sameTouch_scrollBy _ _ _
      (fun s n => s.sameTouch_dispatchScroll n 0)).tracksTo

theorem tracksTo_trackHScroll {s : Pad} (t : Touch) (hm : s.touchmode = .hscroll) :
    TracksTo s t (s.trackHScroll t) := by
  rw [trackHScroll]
  split
  · rename_i hl
    exact ⟨.notouch, .leaveBottom hm hl, ⟨rfl, rfl, rfl, rfl⟩⟩
  split
  · exact (SameTouch.refl s).tracksTo
  · exact (s.sameTouch_scrollBy _ _ _
      (fun s n => s.sameTouch_dispatchScroll 0 n)).tracksTo

theorem sameTouch_trackCScroll (s : Pad) (t : Touch) : SameTouch s (s.trackCScroll t) :=
  .ite (.refl s) (s.sameTouch_scrollBy _ _ _ (fun s n => s.sameTouch_dispatchScroll n 0))

theorem tracksTo_track (s : Pad) (t : Touch) (b : UInt32) : TracksTo s t (s.track t b).pad := by
  rw [track]
  split
  · exact (s.sameTouch_trackMove t _).tracksTo
  · exact (s.sameTouch_trackMove t _).tracksTo
  · exact (s.sameTouch_trackMove t _).tracksTo
  · rename_i hm
    split
    · exact (s.sameTouch_trackThree t).tracksTo
    · exact tracksTo_trackTwo t b hm
  · rename_i hm
    exact tracksTo_trackVScroll t hm
  · rename_i hm
    exact tracksTo_trackHScroll t hm
  · exact (s.sameTouch_trackCScroll t).tracksTo
  all_goals exact (SameTouch.refl s).tracksTo

theorem sameButtons_track (s : Pad) (t : Touch) (b : UInt32) :
    SameButtons s (s.track t b).pad := by
  obtain ⟨m, -, h⟩ := s.tracksTo_track t b
  have hm : SameButtons s { s with touchmode := m } := ⟨rfl, rfl, rfl, rfl, rfl, rfl⟩
  exact hm.trans h.sameButtons

theorem sameButtons_captureTouch (s : Pad) (t : Touch) : SameButtons s (s.captureTouch t) := by
  rw [captureTouch]
  split
  · exact ⟨rfl, rfl, rfl, rfl, rfl, rfl⟩
  · exact .refl s

theorem sameButtons_deliver (s : Pad) (dx dy : ℤ) (b : UInt32) :
    SameButtons s (s.deliver dx dy b) := by
  rw [deliver]
  dsimp only
  repeat' split
  all_goals exact ⟨rfl, rfl, rfl, rfl, rfl, rfl⟩

theorem sameButtons_handleTouch (s : Pad) (t : Touch) (b : UInt32) :
    SameButtons s (s.handleTouch t b) := by
  rw [handleTouch]
  have hrel := s.sameButtons_release t b
  generalize s.release t b = r at hrel
  obtain ⟨r, buttons⟩ := r
  dsimp only at hrel ⊢
  have hcancel : SameButtons s ((r.cancelPredrag t).cancelTap t) :=
    hrel.trans ⟨rfl, rfl, rfl, rfl, rfl, rfl⟩
  have htrack := hcancel.trans (sameButtons_track _ t buttons)
  have hmodes (q : Pad) : SameButtons q (q.switchModes t) := ⟨rfl, rfl, rfl, rfl, rfl, rfl⟩
  have hsave (q : Pad) : SameButtons q (q.saveLast t) := ⟨rfl, rfl, rfl, rfl, rfl, rfl⟩
  have hmode := (htrack.trans (sameButtons_captureTouch _ t)).trans (hmodes _)
  exact (hmode.trans (sameButtons_deliver _ _ _ _)).trans (hsave _)

/-! ### Other packets and events -/

theorem aside_clickSecond (s : Pad) (p : PadPacket) (t : Touch) (b : UInt32) :
    Aside s (s.clickSecond p t b).1 := clickRule_aside.clickSecond s p t b

theorem touchCore_ite {s a b : Pad} {c : Prop} [Decidable c] (ha : a.touchCore = s.touchCore)
    (hb : b.touchCore = s.touchCore) : (if c then a else b).touchCore = s.touchCore := by
  split
  · exact ha
  · exact hb

theorem touchCore_moveSecond (s : Pad) (t : Touch) (b : UInt32) :
    (s.moveSecond t b).touchCore = s.touchCore := touchCore_ite rfl rfl

theorem touchCore_dispatchButtons (s : Pad) (b : UInt32) :
    (s.dispatchButtons b).touchCore = s.touchCore := touchCore_ite rfl rfl

theorem touchCore_trackSecond (s : Pad) (p : PadPacket) (t : Touch) (b : UInt32) :
    (s.trackSecond p t b).touchCore = s.touchCore := by
  rw [trackSecond]
  refine touchCore_ite (touchCore_ite (s.touchCore_moveSecond t b) rfl) (touchCore_ite ?_ ?_)
  · exact (touchCore_dispatchButtons _ _).trans (s.aside_clickSecond p t b).touchCore
  · exact s.touchCore_dispatchButtons b

theorem touchCore_dispatchEventsWithPacketEW (s : Pad) (p : PadPacket) (now : UInt64) :
    (s.dispatchEventsWithPacketEW p now).touchCore = s.touchCore := by
  rw [dispatchEventsWithPacketEW]
  refine touchCore_ite rfl (touchCore_ite rfl ?_)
  exact touchCore_ite rfl (touchCore_ite rfl (touchCore_trackSecond _ _ _ _))

theorem touchCore_passMove (s : Pad) (dx dy : ℤ) (b : UInt32) :
    (s.passMove dx dy b).touchCore = s.touchCore := touchCore_ite rfl (touchCore_ite rfl rfl)

theorem touchCore_passThrough (s : Pad) (p : PadPacket) (b : UInt32) :
    (s.passThrough p b).touchCore = s.touchCore :=
  touchCore_ite (touchCore_passMove _ _ _ _) (s.touchCore_passMove _ _ _)

end Pad

end VoodooPS2.Synaptics
