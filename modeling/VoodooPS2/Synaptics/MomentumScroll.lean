import VoodooPS2.Lib.Descent
import VoodooPS2.Synaptics.Divisors
import VoodooPS2.Synaptics.Timers

/-! # Momentum scroll comes to rest

When several fingers are lifted in a movement, the driver goes on scrolling by itself.  Each tick of
the scroll timer scrolls by the current speed, sets the timer again and scales the speed by
`MomentumScrollMultiplier / MomentumScrollDivisor`; the remainder of the division is added at the
next tick.  Below `MomentumScrollThreshY` the speed is set to zero, and with a speed of zero the
timer is not set.

`momentum_stops`: from every start, if the multiplier is below the divisor, the speed is zero after
finitely many ticks, and no timer is set from then on. -/

namespace VoodooPS2.Synaptics

/-- Momentum scroll has just started, with any speed. -/
structure Momentum.Started (m : Momentum) : Prop where
  interval : m.interval ≠ 0
  rest1 : m.rest1 = 0
  rest2 : m.rest2 = 0

namespace Pad

/-! ### Starts and ticks -/

/-- When the driver sets the scroll timer for a release, momentum scroll has started. -/
theorem started_liftFinger {s : Pad} (h : .scroll ∈ s.momentumTimers) (t : Touch) :
    (s.liftFinger t).momentum.Started := by
  rw [momentumTimers] at h
  split at h
  · rename_i hc
    obtain ⟨hm, hf, ht, hd, hi⟩ := hc
    have hstart : s.startMomentum = _ := (if_pos ⟨hm, hf, ht, hd⟩).trans (if_pos hi)
    rw [liftFinger, hstart]
    exact ⟨hi, rfl, rfl⟩
  · cases h

/-- What `onScrollTimer` sets the scroll timer to. -/
def scrollTimeouts (s : Pad) : List UInt64 :=
  if s.scrollsOn then [s.cfg.time .momentumscrolltimer] else []

/-- `n` ticks of the scroll timer, with nothing in between. -/
def ticked (s : Pad) (n : ℕ) : Pad := s.run (List.replicate n .scrollTimer)

theorem ticked_eq_iterate (s : Pad) (n : ℕ) :
    s.ticked n = (fun s => s.handle .scrollTimer)^[n] s := by
  induction n generalizing s with
  | zero => rfl
  | succ n ih => exact ih (s.handle .scrollTimer)

/-- The speed before it is divided. -/
def scaled (s : Pad) : ℤ :=
  s.momentum.current * s.cfg.int .momentumscrollmultiplier + s.momentum.rest1

theorem onScrollTimer_current {s : Pad} (h : ¬ s.scrollsOn) : s.onScrollTimer.momentum.current = 0 := by
  by_cases h0 : s.momentum.current = 0
  · rw [onScrollTimer, if_pos h0]
    exact h0
  · rw [onScrollTimer_of_slow h0 h]

/-! ### The speed decreases -/

/-- The fraction is below one, and the speed and its remainder fit together. -/
structure Decays (s : Pad) : Prop where
  multiplier : 0 ≤ s.cfg.int .momentumscrollmultiplier
  divisor : s.cfg.int .momentumscrollmultiplier < s.cfg.int .momentumscrolldivisor
  sameSign : Descent.SameSign s.momentum.current s.momentum.rest1
  fits : s.scrollsOn → FitsInt64 s.scaled

/-- The speed and its remainder together. -/
def speedLeft (s : Pad) : ℕ :=
  (s.momentum.current * s.cfg.int .momentumscrolldivisor + s.momentum.rest1).natAbs

/-- A tick that goes on divides the scaled speed. -/
theorem tick_of_scrollsOn {s : Pad} (hs : s.scrollsOn) (hfit : FitsInt64 s.scaled) :
    (s.handle .scrollTimer).momentum.current =
        s.scaled.tdiv (s.cfg.int .momentumscrolldivisor) ∧
      (s.handle .scrollTimer).momentum.rest1 =
        s.scaled.tmod (s.cfg.int .momentumscrolldivisor) := by
  have htick : s.handle .scrollTimer = scrollMomentum _ _ :=
    onScrollTimer_of_scrollsOn (s := { s with log := [] }) hs
  rw [htick]
  constructor
  · exact congrArg (Int.tdiv · _) hfit.toInt64
  · exact congrArg (Int.tmod · _) hfit.toInt64

theorem tick_of_not_scrollsOn {s : Pad} (hs : ¬ s.scrollsOn) :
    (s.handle .scrollTimer).momentum.current = 0 :=
  onScrollTimer_current (s := { s with log := [] }) hs

theorem cfg_tick (s : Pad) : (s.handle .scrollTimer).cfg = s.cfg :=
  (sameMode_onScrollTimer { s with log := [] }).cfg

/-- What a tick that goes on leaves of the speed and its remainder is the scaled speed. -/
theorem left_tick {s : Pad} (hs : s.scrollsOn) (hfit : FitsInt64 s.scaled) :
    (s.handle .scrollTimer).momentum.current * s.cfg.int .momentumscrolldivisor +
      (s.handle .scrollTimer).momentum.rest1 = s.scaled := by
  obtain ⟨hcurrent, hrest⟩ := tick_of_scrollsOn hs hfit
  rw [hcurrent, hrest]
  exact Int.tdiv_mul_add_tmod _ _

theorem Decays.tick {s : Pad} (h : s.Decays) : (s.handle .scrollTimer).Decays := by
  have hcfg := s.cfg_tick
  have hsign : Descent.SameSign (s.handle .scrollTimer).momentum.current
      (s.handle .scrollTimer).momentum.rest1 := by
    by_cases hs : s.scrollsOn
    · obtain ⟨hcurrent, hrest⟩ := tick_of_scrollsOn hs (h.fits hs)
      rw [hcurrent, hrest]
      exact Descent.sameSign_scaled _ (h.multiplier.trans h.divisor.le)
    · rw [tick_of_not_scrollsOn hs]
      exact Descent.sameSign_zero_left _
  refine ⟨?_, ?_, hsign, fun hnext => ?_⟩
  · rw [hcfg]
    exact h.multiplier
  · rw [hcfg]
    exact h.divisor
  · have hs : s.scrollsOn := by
      by_contra hs
      exact hnext.1 (tick_of_not_scrollsOn hs)
    -- the scaled speed comes no further from zero
    have hbetween := Descent.scaled_between hsign h.multiplier h.divisor
    rw [left_tick hs (h.fits hs)] at hbetween
    obtain ⟨hle, hlt⟩ := h.fits hs
    rw [FitsInt64, scaled, hcfg]
    omega

/-- What is left gets smaller, or the speed is zero. -/
theorem Decays.descends {s : Pad} (h : s.Decays) (h0 : s.momentum.current ≠ 0) :
    (s.handle .scrollTimer).momentum.current = 0 ∨
      (s.handle .scrollTimer).speedLeft < s.speedLeft := by
  by_cases hs : s.scrollsOn
  · refine .inr ?_
    rw [speedLeft, cfg_tick, left_tick hs (h.fits hs)]
    exact Descent.natAbs_scaled_lt h.sameSign h.multiplier h.divisor h0
  · exact .inl (tick_of_not_scrollsOn hs)

/-- Finitely many ticks. -/
theorem Decays.stops {s : Pad} (h : s.Decays) :
    ∃ n, ∀ k, n ≤ k → (s.ticked k).momentum.current = 0 ∧ (s.ticked k).scrollTimeouts = [] := by
  obtain ⟨n, hn⟩ := Descent.exists_iterate speedLeft (fun s h => Decays.tick h)
    (fun s h h0 => h.descends h0) s h
  have hkeeps (s : Pad) (h0 : s.momentum.current = 0) :
      (s.handle .scrollTimer).momentum.current = 0 := tick_of_not_scrollsOn (fun hs => hs.1 h0)
  refine ⟨n, fun k hk => ?_⟩
  have hzero := Descent.iterate_of_le hkeeps hn hk
  rw [ticked_eq_iterate]
  exact ⟨hzero, if_neg (fun hs => hs.1 hzero)⟩

/-! ### Starts -/

section start

variable {s : Pad} (hm : 0 ≤ s.cfg.int .momentumscrollmultiplier)
  (hd : s.cfg.int .momentumscrollmultiplier < s.cfg.int .momentumscrolldivisor)

include hm hd

theorem decays_of_started (h : s.momentum.Started)
    (hfit : s.scrollsOn →
      FitsInt64 (s.momentum.current * s.cfg.int .momentumscrollmultiplier)) : s.Decays where
  multiplier := hm
  divisor := hd
  sameSign := by
    rw [h.rest1]
    exact Descent.sameSign_zero_right _
  fits := fun hs => by
    rw [scaled, h.rest1, add_zero]
    exact hfit hs

end start

/-- **Momentum scroll always stops**: whatever the speed is at the start, it is zero after finitely
many ticks if the multiplier is below the divisor, and the timer is not set again.  No product after
the first is larger than the first. -/
theorem momentum_stops (s : Pad) (h : s.momentum.Started)
    (hm : 0 ≤ s.cfg.int .momentumscrollmultiplier)
    (hd : s.cfg.int .momentumscrollmultiplier < s.cfg.int .momentumscrolldivisor)
    (hfit : s.scrollsOn →
      FitsInt64 (s.momentum.current * s.cfg.int .momentumscrollmultiplier)) :
    ∃ n, ∀ k, n ≤ k → (s.ticked k).momentum.current = 0 ∧ (s.ticked k).scrollTimeouts = [] :=
  (decays_of_started hm hd h hfit).stops

/-- Two fingers moving downwards by 60 in each of five packets, with the default properties. -/
def movingDown : Pad :=
  { initial .init plainCaps with
    touchmode := .mtouch
    momentum :=
      ⟨⟨[-60, -60, -60, -60, -60], -300⟩,
        ⟨[10000000, 20000000, 30000000, 40000000, 50000000], 150000000⟩, 0, 0, 0, 0, 0⟩ }

/-- They are lifted. -/
def scrollingDown : Pad := movingDown.liftFinger ⟨0, 0, 0, 0, 0, 0, 0, 60000000⟩

theorem momentum_stops_scrollingDown :
    scrollingDown.momentum.current = -3000000000 ∧
      ∃ n, ∀ k, n ≤ k → (scrollingDown.ticked k).momentum.current = 0 ∧
        (scrollingDown.ticked k).scrollTimeouts = [] :=
  ⟨by decide, momentum_stops scrollingDown (started_liftFinger (by decide) _) (by decide)
    (by decide) (fun _ => by decide)⟩

end Pad

end VoodooPS2.Synaptics
