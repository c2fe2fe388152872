import VoodooPS2.Lib.Transition
import VoodooPS2.Synaptics.TouchModes

/-! # Taps

A release is a tap if it comes soon after `touchtime`.  The driver takes the time of a finger touch
in a mode without touch; that is the beginning of the contact, or a later moment of it: a finger
that leaves an edge it was scrolling at goes through `MODE_NOTOUCH`, and a contact may begin with a
pressure that does not yet, or no longer, count as a finger.

`touchtime_handleTouch`: the time is kept, cleared, or taken anew.  `taps_are_short`: if it is not
taken anew in the middle of a contact, every tap ends a contact that was shorter than `maxtaptime`.
`tap_after_scrolling` is a tap that ends a contact of more than a second. -/

namespace VoodooPS2.Synaptics

namespace Pad

/-! ### The time of a touch -/

theorem touchtime_release (s : Pad) (t : Touch) (b : UInt32) :
    (s.release t b).1.touchtime = s.touchtime := by
  have htap (r : Pad) : (r.tap b).1.touchtime = r.touchtime := by
    rw [tap]
    split
    · exact congrArg TouchCore.touchtime (r.sameTouch_dragClick b).touchCore
    · rfl
    · rfl
  have hend (r : Pad) : r.endTouch.touchtime = r.touchtime := by
    rw [endTouch]
    split <;> rfl
  rw [release]
  split
  · dsimp only
    split
    · exact htap (s.liftFinger t)
    · exact hend (s.liftFinger t)
  · rfl

/-- The packet takes the time of a touch: a finger touches, taps count, and the mode is one without
touch, or the finger leaves the edge it was scrolling at. -/
def captures (s : Pad) (t : Touch) : Prop :=
  s.isFingerTouch t.z ∧ s.tapsCount t ∧
    (s.touchmode.isTouchMode = false ∨ (s.touchmode = .vscroll ∧ s.leavesVScroll t) ∨
      (s.touchmode = .hscroll ∧ s.leavesHScroll t))

instance (s : Pad) (t : Touch) : Decidable (s.captures t) := inferInstanceAs (Decidable (_ ∧ _))

/-- With pressure, the state before the switch over the modes: only the time may have been cleared
and a drag not waited for any more. -/
theorem beforeTrack_spec {s : Pad} {t : Touch} (b : UInt32) (hz : s.cfg.int .zFinger ≤ t.z) :
    (s.beforeTrack t b).cfg = s.cfg ∧ (s.beforeTrack t b).keytime = s.keytime ∧
      (s.beforeTrack t b).momentum.current = s.momentum.current := by
  rw [beforeTrack, release_of_not (not_isRelease hz)]
  exact ⟨rfl, rfl, rfl⟩

theorem touchtime_beforeTrack (s : Pad) (t : Touch) (b : UInt32) :
    (s.beforeTrack t b).touchtime = s.touchtime ∨ (s.beforeTrack t b).touchtime = 0 := by
  change (if _ then _ else _) = _ ∨ (if _ then _ else _) = _
  split
  · exact .inr rfl
  · exact .inl (s.touchtime_release t b)

theorem touchtime_tracked (s : Pad) (t : Touch) (b : UInt32) :
    (s.tracked t b).touchtime = s.touchtime ∨ (s.tracked t b).touchtime = 0 := by
  obtain ⟨m, -, h⟩ := tracksTo_track (s.beforeTrack t b) t (s.release t b).2
  have htime : (s.tracked t b).touchtime = (s.beforeTrack t b).touchtime :=
    congrArg TouchCore.touchtime h.touchCore
  rw [htime]
  exact s.touchtime_beforeTrack t b

/-- A time that is taken after the switch over the modes was to be taken before it. -/
theorem captures_of_tracked {s : Pad} {t : Touch} (b : UInt32) (hf : s.isFingerTouch t.z)
    (hc : (s.tracked t b).tapsCount t) (he : (s.tracked t b).touchmode.isTouchMode = false) :
    s.captures t := by
  obtain ⟨hcfg, hkey, hcur⟩ := beforeTrack_spec b hf.1.le
  obtain ⟨m, hm, h⟩ := tracksTo_track (s.beforeTrack t b) t (s.release t b).2
  have hcfg' : (s.tracked t b).cfg = s.cfg := s.cfg_tracked t b
  have hkey' : (s.tracked t b).keytime = s.keytime :=
    (congrArg TouchCore.keytime h.touchCore).trans hkey
  have hcur' : (s.tracked t b).momentum.current = s.momentum.current :=
    (congrArg TouchCore.current h.touchCore).trans hcur
  have hmode : (s.tracked t b).touchmode = m := congrArg TouchCore.touchmode h.touchCore
  refine ⟨hf, ?_, ?_⟩
  · rw [tapsCount, afterTyping, hcfg', hkey', hcur'] at hc
    exact hc
  · have hbefore := s.touchmode_beforeTrack t b
    rw [release_of_not (not_isRelease hf.1.le)] at hbefore
    rw [hmode] at he
    cases hm with
    | stay =>
        rcases hbefore with h | ⟨h, -⟩
        · rw [h] at he
          exact .inl he
        · exact .inl (by rw [show s.touchmode = _ by exact h]; rfl)
    | oneFinger _ => cases he
    | leaveRight hv hl =>
        rcases hbefore with h | ⟨-, h⟩
        · rw [leavesVScroll, hcfg] at hl
          exact .inr (.inl ⟨h.symm.trans hv, hl⟩)
        · rw [h] at hv
          cases hv
    | leaveBottom hv hl =>
        rcases hbefore with h | ⟨-, h⟩
        · rw [leavesHScroll, hcfg] at hl
          exact .inr (.inr ⟨h.symm.trans hv, hl⟩)
        · rw [h] at hv
          cases hv

/-- What a packet does to the time of the touch. -/
theorem touchtime_handleTouch (s : Pad) (t : Touch) (b : UInt32) :
    (s.handleTouch t b).touchtime = s.touchtime ∨ (s.handleTouch t b).touchtime = 0 ∨
      s.captures t ∧ (s.handleTouch t b).touchtime = t.now := by
  have hcore : (s.handleTouch t b).touchtime = ((s.tracked t b).captureTouch t).touchtime :=
    congrArg TouchCore.touchtime (s.touchCore_handleTouch t b)
  have hkept : (s.tracked t b).touchtime = s.touchtime ∨ (s.tracked t b).touchtime = 0 ∨
      s.captures t ∧ (s.tracked t b).touchtime = t.now :=
    (s.touchtime_tracked t b).imp_right .inl
  rw [hcore, captureTouch]
  split
  · rename_i hf
    rw [isFingerTouch, s.cfg_tracked t b] at hf
    dsimp only
    split
    · rename_i hfirst
      obtain ⟨hc, he⟩ := of_decide_eq_true hfirst
      exact .inr (.inr ⟨captures_of_tracked b hf hc he, rfl⟩)
    · exact hkept
  · exact hkept

/-- A release takes the tap arm, adding a button or dispatching a click. -/
def takesTapArm (s : Pad) (p : PadPacket) (now : UInt64) : Prop :=
  let q := s.prepared p now
  q.pad.isRelease q.touch ∧ q.pad.isTap q.touch ∧ q.pad.touchmode ≠ .draglock

instance (s : Pad) (p : PadPacket) (now : UInt64) : Decidable (s.takesTapArm p now) :=
  inferInstanceAs (Decidable (_ ∧ _))

/-- The disable zone is off, input is not ignored and no touch is rejected. -/
structure TapsOnly (s : Pad) : Prop where
  zone : ¬ s.zoneEnabled
  ignoreall : s.ignoreall = false
  outzoneWt : s.cfg.flag .outzoneWt = false

theorem TapsOnly.of_touchCore {s s' : Pad} (h : s.TapsOnly) (he : s'.touchCore = s.touchCore) :
    s'.TapsOnly := by
  have hcfg : s'.cfg = s.cfg := congrArg TouchCore.cfg he
  have hcaps : s'.caps = s.caps := congrArg TouchCore.caps he
  refine ⟨?_, (congrArg TouchCore.ignoreall he).trans h.ignoreall, ?_⟩
  · rw [zoneEnabled, hcfg, hcaps]
    exact h.zone
  · rw [hcfg]
    exact h.outzoneWt

/-- With the disable zone off, nothing ends a packet early. -/
theorem TapsOnly.dispatchTouch_eq {s : Pad} (h : s.TapsOnly) (t : Touch) (b : UInt32) :
    s.dispatchTouch t b = s.handleTouch t b := by
  have hwatch : s.watchZone t = s := if_neg h.zone
  have hout : ¬ s.isOutsideZone t := fun ho => Bool.false_ne_true (h.outzoneWt.symm.trans ho.1)
  rw [dispatchTouch, hwatch, if_neg hout, if_neg (fun hz => h.zone hz.1),
    if_neg (Bool.eq_false_iff.mp h.ignoreall)]

theorem TapsOnly.dispatch_eq {s : Pad} (h : s.TapsOnly) {p : PadPacket} (hn : s.isNormal p)
    (now : UInt64) :
    s.dispatchEventsWithPacket p now =
      (s.prepared p now).pad.handleTouch (s.prepared p now).touch (s.prepared p now).buttons := by
  rw [dispatch_of_isNormal hn]
  exact (h.of_touchCore (s.touchCore_prepared p now)).dispatchTouch_eq _ _

theorem TapsOnly.handleTouch {s : Pad} (h : s.TapsOnly) (t : Touch) (b : UInt32) :
    (s.handleTouch t b).TapsOnly := by
  have hsame := s.sameButtons_handleTouch t b
  refine ⟨?_, hsame.ignoreall.trans h.ignoreall, ?_⟩
  · rw [zoneEnabled, hsame.cfg, hsame.caps]
    exact h.zone
  · rw [hsame.cfg]
    exact h.outzoneWt

/-- The packet takes the time of a touch. -/
def capturesAt (s : Pad) (p : PadPacket) (now : UInt64) : Prop :=
  (s.prepared p now).pad.captures (s.prepared p now).touch

instance (s : Pad) (p : PadPacket) (now : UInt64) : Decidable (s.capturesAt p now) :=
  inferInstanceAs (Decidable (captures _ _))

/-- What a packet does to the time of the touch and to the parity of the mode. -/
theorem TapsOnly.dispatch_spec {s : Pad} (h : s.TapsOnly) {p : PadPacket} (hn : s.isNormal p)
    (now : UInt64) :
    (s.dispatchEventsWithPacket p now).TapsOnly ∧
      ((s.dispatchEventsWithPacket p now).touchtime = s.touchtime ∨
        (s.dispatchEventsWithPacket p now).touchtime = 0 ∨
        s.capturesAt p now ∧ (s.dispatchEventsWithPacket p now).touchtime = now) ∧
      ((s.readTouch p now).z < s.cfg.int .zFinger →
        (s.dispatchEventsWithPacket p now).touchmode.isTouchMode = false) := by
  have hcore := s.touchCore_prepared p now
  have htime := touchtime_handleTouch (s.prepared p now).pad (s.prepared p now).touch
    (s.prepared p now).buttons
  have hold : (s.prepared p now).pad.touchtime = s.touchtime := congrArg TouchCore.touchtime hcore
  have hcfg : (s.prepared p now).pad.cfg = s.cfg := congrArg TouchCore.cfg hcore
  rw [hold, s.now_prepared p now] at htime
  rw [h.dispatch_eq hn]
  refine ⟨(h.of_touchCore hcore).handleTouch _ _, htime, fun hz => even_handleTouch _ ?_⟩
  rw [(s.same_prepared p now).z, hcfg]
  exact hz

end Pad

/-! ### Contacts -/

/-- The driver, the time of the last packet and, while there is pressure, the time of the first
packet that had it. -/
structure Contact where
  pad : Pad
  last : UInt64
  since : Option UInt64

namespace Contact

open Pad

/-- A normal packet, not before the last one. -/
def Enabled (k : Contact) (a : PadPacket × UInt64) : Prop := k.pad.isNormal a.1 ∧ k.last ≤ a.2

instance (k : Contact) (a : PadPacket × UInt64) : Decidable (k.Enabled a) :=
  inferInstanceAs (Decidable (_ ∧ _))

/-- The contact after a packet. -/
def sinceAfter (k : Contact) (a : PadPacket × UInt64) : Option UInt64 :=
  if (k.pad.readTouch a.1 a.2).z < k.pad.cfg.int .zFinger then none else some (k.since.getD a.2)

def step (k : Contact) (a : PadPacket × UInt64) : Option Contact :=
  if k.Enabled a then some ⟨k.pad.dispatchEventsWithPacket a.1 a.2, a.2, k.sinceAfter a⟩ else none

/-- A tap ends a contact that began less than `maxtaptime` before. -/
def TapIsShort (k : Contact) (a : PadPacket × UInt64) : Prop :=
  k.pad.takesTapArm a.1 a.2 →
    ∃ start ∈ k.since, a.2.toNat < start.toNat + (k.pad.cfg.time .maxtaptime).toNat

instance (k : Contact) (a : PadPacket × UInt64) : Decidable (k.TapIsShort a) :=
  inferInstanceAs (Decidable (_ → _))

/-- The time of the touch is not taken in the middle of a contact. -/
def TakesTimeOnce (k : Contact) (a : PadPacket × UInt64) : Prop :=
  k.since ≠ none → ¬ k.pad.capturesAt a.1 a.2

instance (k : Contact) (a : PadPacket × UInt64) : Decidable (k.TakesTimeOnce a) :=
  inferInstanceAs (Decidable (_ → _))

/-- The time of the touch is not after the beginning of the contact, and a touch mode is a
contact. -/
structure Inv (k : Contact) : Prop where
  taps : k.pad.TapsOnly
  touched : k.pad.touchtime ≤ k.last
  began : ∀ start, k.since = some start → k.pad.touchtime ≤ start ∧ start ≤ k.last
  contact : k.pad.touchmode.isTouchMode = true → k.since ≠ none

theorem sinceAfter_eq_some {k : Contact} {a : PadPacket × UInt64} {start : UInt64}
    (h : k.sinceAfter a = some start) : k.since.getD a.2 = start := by
  rw [sinceAfter] at h
  split at h
  · cases h
  · exact Option.some.inj h

theorem inv_step {k k' : Contact} {a : PadPacket × UInt64} (hk : k.Inv) (hg : k.TakesTimeOnce a)
    (hs : k.step a = some k') : k'.Inv := by
  obtain ⟨hen, hs⟩ := Option.ite_none_right_eq_some.mp hs
  cases hs
  obtain ⟨htaps, htime, heven⟩ := hk.taps.dispatch_spec hen.1 a.2
  generalize k.pad.dispatchEventsWithPacket a.1 a.2 = pad at htaps htime heven
  have hnow : pad.touchtime ≤ a.2 := by
    rcases htime with h | h | ⟨-, h⟩
    · rw [h]
      exact UInt64.le_trans hk.touched hen.2
    · rw [h]
      exact UInt64.zero_le
    · rw [h]
      exact UInt64.le_refl _
  refine ⟨htaps, hnow, ?_, ?_⟩
  · intro start hstart
    have hget := sinceAfter_eq_some hstart
    cases hsince : k.since with
    | none =>
        rw [hsince] at hget
        obtain rfl : a.2 = start := hget
        exact ⟨hnow, UInt64.le_refl _⟩
    | some first =>
        rw [hsince] at hget
        obtain rfl : first = start := hget
        obtain ⟨hle, hlast⟩ := hk.began first hsince
        refine ⟨?_, UInt64.le_trans hlast hen.2⟩
        rcases htime with h | h | ⟨hcap, -⟩
        · change pad.touchtime ≤ first
          rw [h]
          exact hle
        · change pad.touchtime ≤ first
          rw [h]
          exact UInt64.zero_le
        · refine absurd hcap (hg ?_)
          rw [hsince]
          exact Option.some_ne_none first
  · intro hodd hnone
    have hz : (k.pad.readTouch a.1 a.2).z < k.pad.cfg.int .zFinger := by
      by_contra hz
      rw [sinceAfter, if_neg hz] at hnone
      cases hnone
    exact Bool.false_ne_true ((heven hz).symm.trans hodd)

/-- A short time since the touch is a short time since the beginning of the contact. -/
theorem short_of_le {touch start now limit : UInt64} (hts : touch ≤ start) (hsn : start ≤ now)
    (h : now - touch < limit) : now.toNat < start.toNat + limit.toNat := by
  have hsub := UInt64.toNat_sub_of_le now touch (UInt64.le_trans hts hsn)
  have hlt : (now - touch).toNat < limit.toNat := UInt64.lt_iff_toNat_lt.mp h
  have hle : touch.toNat ≤ start.toNat := UInt64.le_iff_toNat_le.mp hts
  omega

theorem tapIsShort {k : Contact} {a : PadPacket × UInt64} (hk : k.Inv) (hle : k.last ≤ a.2) :
    k.TapIsShort a := by
  intro htap
  obtain ⟨hrel, htap, -⟩ := htap
  have hcore := k.pad.touchCore_prepared a.1 a.2
  have hcfg : (k.pad.prepared a.1 a.2).pad.cfg = k.pad.cfg := congrArg TouchCore.cfg hcore
  have hmode : (k.pad.prepared a.1 a.2).pad.touchmode = k.pad.touchmode :=
    congrArg TouchCore.touchmode hcore
  have htime : (k.pad.prepared a.1 a.2).pad.touchtime = k.pad.touchtime :=
    congrArg TouchCore.touchtime hcore
  rw [isRelease, hmode] at hrel
  rw [isTap, hcfg, htime, k.pad.now_prepared a.1 a.2] at htap
  obtain ⟨start, hstart⟩ := Option.ne_none_iff_exists'.mp (hk.contact hrel.2)
  obtain ⟨htouch, hlast⟩ := hk.began start hstart
  exact ⟨start, hstart, short_of_le htouch (UInt64.le_trans hlast hle) htap.1⟩

/-- The driver before the first packet, in `MODE_NOTOUCH`. -/
structure Ready (pad : Pad) (last : UInt64) : Prop where
  taps : pad.TapsOnly
  notouch : pad.touchmode = .notouch
  touched : pad.touchtime ≤ last

theorem Ready.inv {pad : Pad} {last : UInt64} (h : Ready pad last) : Inv ⟨pad, last, none⟩ := by
  refine ⟨h.taps, h.touched, nofun, fun hodd => ?_⟩
  have hodd : pad.touchmode.isTouchMode = true := hodd
  rw [h.notouch] at hodd
  cases hodd

/-- **A tap is reported only for a short contact**, as long as the time of the touch is not taken
in the middle of one. -/
theorem taps_are_short (pad : Pad) (last : UInt64) (hready : Ready pad last)
    (packets : List (PadPacket × UInt64)) (k : Contact)
    (hr : Transition.run step ⟨pad, last, none⟩ packets = some k)
    (hg : Transition.Guarded step TakesTimeOnce ⟨pad, last, none⟩ packets) :
    Transition.Guarded step TapIsShort ⟨pad, last, none⟩ packets := by
  refine Transition.guarded_of_guarded (fun s a s' hi hg hs => inv_step hi hg hs) ?_ packets
    hready.inv hg hr
  intro s a s' hi _ hs
  obtain ⟨hen, -⟩ := Option.ite_none_right_eq_some.mp hs
  exact tapIsShort hi hen.2

/-- The touchpad as it is started, with the defaults. -/
def started : Contact := ⟨.initial .init plainCaps, 0, none⟩

theorem ready_started : Ready started.pad started.last :=
  ⟨⟨by decide +kernel, rfl, rfl⟩, rfl, UInt64.zero_le⟩

/-- A finger is down in the middle of the pad for 50 ms. -/
def tapRun : List (PadPacket × UInt64) :=
  [(padPacket 0 60 3000 3000, 1000000000), (padPacket 0 0 3000 3000, 1050000000)]

theorem taps_are_short_tap :
    Transition.Guarded step TapIsShort started tapRun ∧
      ¬ Transition.Guarded step (fun k a => ¬ k.pad.takesTapArm a.1 a.2) started tapRun := by
  have hex : (Transition.run step started tapRun).isSome = true := by decide +kernel
  obtain ⟨k, hk⟩ := Option.isSome_iff_exists.mp hex
  exact ⟨taps_are_short _ _ ready_started tapRun k hk (by decide +kernel), by decide +kernel⟩

/-- A finger scrolls at the right edge, moves to the middle of the pad after a second and is lifted
50 ms later. -/
def scrollRun : List (PadPacket × UInt64) :=
  [(padPacket 0 60 5500 3000, 1000000000), (padPacket 0 60 4000 3000, 2000000000),
    (padPacket 0 0 4000 3000, 2050000000)]

/-- The release is a tap, though the contact has lasted for more than a second. -/
theorem tap_after_scrolling :
    ¬ ∀ (pad : Pad) (last : UInt64), Ready pad last → ∀ (packets : List (PadPacket × UInt64))
      (k : Contact), Transition.run step ⟨pad, last, none⟩ packets = some k →
        Transition.Guarded step TapIsShort ⟨pad, last, none⟩ packets := by
  intro h
  have hex : (Transition.run step started scrollRun).isSome = true := by decide +kernel
  obtain ⟨k, hk⟩ := Option.isSome_iff_exists.mp hex
  have hbad : ¬ Transition.Guarded step TapIsShort started scrollRun := by decide +kernel
  exact hbad (h _ _ ready_started scrollRun k hk)

end Contact

end VoodooPS2.Synaptics
