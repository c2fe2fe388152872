import VoodooPS2.Keyboard.MacroHistory
import VoodooPS2.Keyboard.StuckKeys
import VoodooPS2.Lib.PrefixFree

/-! # Which macros are recognised (`invertMacros`)

`_macroBuffer` holds the beginning of one candidate.  A packet that does not continue it has the
packets held dispatched and is passed on itself, without being compared as the beginning of a macro,
and the packets held are not compared again either.  A packet that arrives late is compared.

`Move` is what the driver does with the macros, one packet or one look at the clock at a time;
`run_movesOf` takes a run apart into moves.  `recognised_iff`: whatever preceded it, a macro whose
keys arrive in time is recognised exactly if its first packet finds nothing held, or finds it too old,
or what is held and the macro's own keys begin with the macro. -/

namespace VoodooPS2.Keyboard.Macros

/-! ### Comparing with the macros -/

/-- The beginning of a macro is held: no macro ends there. -/
theorem search_of_begins {macros : List Macro} (hfree : PrefixFree Macro.keys macros)
    {buffered : List MacroPacket} (modifiers : UInt16) {m : Macro} (hm : m ∈ macros)
    (hpre : buffered.map MacroPacket.key <+: m.keys) (hlt : buffered.length < m.keys.length) :
    search buffered modifiers macros = .begun := by
  have hother : ∀ c ∈ macros, buffered.map MacroPacket.key <+: c.keys →
      buffered.length ≠ c.keys.length := by
    intro c hc hcpre heq
    have hkeys : buffered.map MacroPacket.key = c.keys :=
      hcpre.eq_of_length (by rw [List.length_map, heq])
    rw [hkeys] at hpre
    have hsame := hfree.eq_of_prefix hc hm hpre
    rw [hsame] at heq
    omega
  clear hfree
  induction macros with
  | nil => exact absurd hm List.not_mem_nil
  | cons c macros ih =>
      rw [search_cons]
      by_cases hcpre : buffered.map MacroPacket.key <+: c.keys
      · rw [if_pos hcpre, if_neg (hother c List.mem_cons_self hcpre)]
      · rw [if_neg hcpre]
        have hne : m ≠ c := fun h => hcpre (h ▸ hpre)
        exact ih (List.mem_of_ne_of_mem hne hm) (fun d hd => hother d (List.mem_cons_of_mem c hd))

/-- All of a macro is there, and the modifiers are as it wants them. -/
theorem search_of_keys {macros : List Macro} (hfree : PrefixFree Macro.keys macros)
    {buffered : List MacroPacket} {modifiers : UInt16} {m : Macro} (hm : m ∈ macros)
    (hkeys : buffered.map MacroPacket.key = m.keys) (hmod : m.modifiersMatch modifiers) :
    search buffered modifiers macros = .complete m := by
  have hother : ∀ c ∈ macros, buffered.map MacroPacket.key <+: c.keys → c = m := by
    intro c hc hcpre
    rw [hkeys] at hcpre
    exact (hfree.eq_of_prefix hm hc hcpre).symm
  clear hfree
  have hlen : buffered.length = m.keys.length := by rw [← hkeys, List.length_map]
  induction macros with
  | nil => exact absurd hm List.not_mem_nil
  | cons c macros ih =>
      rw [search_cons]
      by_cases hcpre : buffered.map MacroPacket.key <+: c.keys
      · obtain rfl := hother c List.mem_cons_self hcpre
        rw [if_pos hcpre, if_pos hlen, if_pos hmod]
      · rw [if_neg hcpre]
        have hne : m ≠ c := by
          rintro rfl
          exact hcpre (hkeys ▸ List.prefix_rfl)
        exact ih (List.mem_of_ne_of_mem hne hm) (fun d hd => hother d (List.mem_cons_of_mem c hd))

/-! ### Moves -/

/-- One packet given to `invertMacros`, or one look of `onMacroTimer` at the clock. -/
inductive Move where
  | offer (p : MacroPacket)
  | check (now : UInt64)
deriving DecidableEq, Repr

/-- The packets offered. -/
def packetsOf : List Move → List MacroPacket
  | [] => []
  | .offer p :: ms => p :: packetsOf ms
  | .check _ :: ms => packetsOf ms

/-- Every packet is offered, and the clock read, at most `max` after the packet before. -/
def Timely (max : UInt64) : Option MacroPacket → List Move → Prop
  | _, [] => True
  | last, .offer p :: ms => (∀ q ∈ last, p.time - q.time ≤ max) ∧ Timely max (some p) ms
  | last, .check now :: ms => (∀ q ∈ last, now - q.time ≤ max) ∧ Timely max last ms

instance decidableTimely (max : UInt64) :
    (last : Option MacroPacket) → (ms : List Move) → Decidable (Timely max last ms)
  | _, [] => .isTrue trivial
  | last, .offer p :: ms =>
      haveI := decidableTimely max (some p) ms
      inferInstanceAs (Decidable ((∀ q ∈ last, p.time - q.time ≤ max) ∧ _))
  | last, .check now :: ms =>
      haveI := decidableTimely max last ms
      inferInstanceAs (Decidable ((∀ q ∈ last, now - q.time ≤ max) ∧ _))

/-- With no packet before it, the first one may come at any time. -/
theorem Timely.forget {max : UInt64} {last : Option MacroPacket} {ms : List Move}
    (h : Timely max last ms) : Timely max none ms := by
  induction ms with
  | nil => trivial
  | cons move ms ih =>
      cases move with
      | offer p => exact ⟨nofun, h.2⟩
      | check now => exact ⟨nofun, ih h.2⟩

/-- The macro's output packet was dispatched. -/
def Inverted (m : Macro) (log : List Entry) : Prop :=
  ∃ absorbed out, Entry.inverted m absorbed out ∈ log ∧
    out.key = (m.byte kOutputBytesOffset, m.byte (kOutputBytesOffset + 1))

theorem inverted_append {m : Macro} {log log' : List Entry} :
    Inverted m (log ++ log') ↔ Inverted m log ∨ Inverted m log' := by
  unfold Inverted
  simp only [List.mem_append, or_and_right, exists_or]

theorem not_inverted_plain (m : Macro) (ps : List MacroPacket) :
    ¬ Inverted m (ps.map Entry.plain) := by
  rintro ⟨absorbed, out, hmem, -⟩
  obtain ⟨p, -, hp⟩ := List.mem_map.mp hmem
  cases hp

namespace State

variable {σ : Type} {dispatch : σ → MacroPacket → σ} {modifierState : σ → UInt16} {o : Settings}

variable (dispatch o) in
/-- `onMacroTimer`, once the ring is empty. -/
def check (s : State σ) (now : UInt64) : State σ :=
  if s.expired o now then s.dispatchInvertBuffer dispatch else s

section
variable (dispatch modifierState o)

def move (s : State σ) : Move → State σ
  | .offer p => s.offer dispatch modifierState o p
  | .check now => s.check dispatch o now

def moves (s : State σ) (ms : List Move) : State σ := ms.foldl (move dispatch modifierState o) s

end

/-! ### The moves of a run -/

/-- The moves of `packetReady` with these packets in the ring. -/
def readyMoves (ring : List MacroPacket) : List Move :=
  (ring.filter (fun p => p.key.1 ≠ 0)).map .offer

/-- The moves of a run that starts with these packets in the ring. -/
def movesOf : List MacroPacket → List Action → List Move
  | _, [] => []
  | ring, .arrive p :: actions => movesOf (ring ++ [p]) actions
  | ring, .packetReady :: actions => readyMoves ring ++ movesOf [] actions
  | ring, .notification arg time₁ time₂ :: actions =>
      (notified arg time₁ time₂).map .offer ++ movesOf ring actions
  | ring, .timer now :: actions => readyMoves ring ++ .check now :: movesOf [] actions

section ring
variable (s : State σ) (ring : List MacroPacket)

/-- The state with other packets in the ring. -/
def withRing : State σ := { s with ring := ring }

theorem check_withRing (now : UInt64) :
    (s.withRing ring).check dispatch o now = (s.check dispatch o now).withRing ring :=
  settle_framed ⟨[], [], []⟩ (fun _ => ring) s ⟨(0, 0), now⟩

theorem offer_withRing (p : MacroPacket) :
    (s.withRing ring).offer dispatch modifierState o p =
      (s.offer dispatch modifierState o p).withRing ring :=
  offer_framed ⟨[], [], []⟩ (fun _ => ring) s p

theorem moves_withRing (ms : List Move) :
    (s.withRing ring).moves dispatch modifierState o ms =
      (s.moves dispatch modifierState o ms).withRing ring := by
  induction ms generalizing s with
  | nil => rfl
  | cons e ms ih =>
      cases e with
      | offer p =>
          show ((s.withRing ring).offer dispatch modifierState o p).moves _ _ _ ms = _
          rw [offer_withRing, ih]
          rfl
      | check now =>
          show ((s.withRing ring).check dispatch o now).moves _ _ _ ms = _
          rw [check_withRing, ih]
          rfl

end ring

theorem moves_append (s : State σ) (ms ms' : List Move) :
    s.moves dispatch modifierState o (ms ++ ms') =
      (s.moves dispatch modifierState o ms).moves dispatch modifierState o ms' :=
  List.foldl_append

theorem moves_offers (s : State σ) (ps : List MacroPacket) :
    s.moves dispatch modifierState o (ps.map .offer) = s.offerAll dispatch modifierState o ps := by
  rw [moves, List.foldl_map]
  rfl

/-- `packetReady` makes its moves and empties the ring. -/
theorem packetReady_moves (s : State σ) :
    s.packetReady dispatch modifierState o =
      (s.moves dispatch modifierState o (readyMoves s.ring)).withRing [] := by
  rw [packetReady_eq, readyMoves, ← moves_withRing, moves_offers]
  rfl

/-- A run makes its moves, up to what is left in the ring. -/
theorem run_movesOf (actions : List Action) (s : State σ) :
    ∃ ring, run dispatch modifierState o s actions =
      (s.moves dispatch modifierState o (movesOf s.ring actions)).withRing ring := by
  induction actions generalizing s with
  | nil => exact ⟨s.ring, rfl⟩
  | cons a actions ih =>
      obtain ⟨ring, hring⟩ := ih (step dispatch modifierState o s a)
      refine ⟨ring, hring.trans ?_⟩
      cases a with
      | arrive p =>
          show ((s.withRing (s.ring ++ [p])).moves _ _ _ _).withRing ring = _
          rw [moves_withRing]
          rfl
      | packetReady =>
          have hready : step dispatch modifierState o s .packetReady =
              (s.moves dispatch modifierState o (readyMoves s.ring)).withRing [] :=
            packetReady_moves s
          rw [hready, moves_withRing, movesOf, moves_append]
          rfl
      | notification arg time₁ time₂ =>
          have hsame : (step dispatch modifierState o s (.notification arg time₁ time₂)).ring =
              s.ring := by
            rw [step, notification_eq]
            exact (offerAll_offered dispatch modifierState o s _).1
          rw [hsame, movesOf, moves_append, moves_offers, step, notification_eq]
      | timer now =>
          have hready : step dispatch modifierState o s (.timer now) =
              ((s.moves dispatch modifierState o (readyMoves s.ring)).check dispatch o now).withRing
                [] := by
            rw [← check_withRing, ← packetReady_moves]
            rfl
          rw [hready, moves_withRing, movesOf, moves_append]
          rfl

/-! ### What one packet does -/

section held
variable (s : State σ) (p : MacroPacket)

theorem held_of_current (h : s.macroCurrent = 0) : s.held = [] := by
  rw [held, h]
  rfl

theorem store_held : (s.store p).held = s.held := by
  refine List.map_congr_left (fun i hi => ?_)
  exact Function.update_of_ne (Nat.ne_of_lt (List.mem_range.mp hi)) _ _

/-- The time is compared with that of the last packet held. -/
theorem expired_iff (now : UInt64) :
    s.expired o now ↔ ∃ q ∈ s.held.getLast?, o.macroMaxTime < now - q.time := by
  unfold expired held
  cases s.macroCurrent with
  | zero => simp
  | succ n =>
      rw [List.range_succ, List.map_append, List.map_singleton, List.getLast?_concat]
      simp

theorem not_expired_of_timely {now : UInt64}
    (h : ∀ q ∈ s.held.getLast?, now - q.time ≤ o.macroMaxTime) : ¬ s.expired o now := by
  rw [expired_iff]
  rintro ⟨q, hq, hlt⟩
  exact absurd hlt (UInt64.not_lt.mpr (h q hq))

theorem dispatchInvertBuffer_held : (s.dispatchInvertBuffer dispatch).held = [] :=
  held_of_current _ rfl

theorem log_dispatchInvertBuffer :
    (s.dispatchInvertBuffer dispatch).log = s.log ++ s.held.map .plain := by
  rw [dispatchInvertBuffer, foldl_dispatch]

end held

/-- What offering a packet does when those held are not too old: they become a macro with it, they
are held on with it, or they are dispatched with it. -/
inductive Outcome (modifierState : σ → UInt16) (o : Settings) (s : State σ) (p : MacroPacket)
    (t : State σ) : Prop
  | complete (m : Macro) (out : MacroPacket)
      (found : search (s.held ++ [p]) (modifierState s.keyboard) o.macroInversion = .complete m)
      (held : t.held = []) (log : t.log = s.log ++ [.inverted m (s.held ++ [p]) out])
      (output : out.key = (m.byte kOutputBytesOffset, m.byte (kOutputBytesOffset + 1)))
  | begun
      (found : search (s.held ++ [p]) (modifierState s.keyboard) o.macroInversion = .begun)
      (held : t.held = s.held ++ [p]) (log : t.log = s.log) (keyboard : t.keyboard = s.keyboard)
  | nothing
      (found : search (s.held ++ [p]) (modifierState s.keyboard) o.macroInversion = .nothing)
      (held : t.held = []) (log : t.log = s.log ++ (s.held ++ [p]).map .plain)

variable (dispatch modifierState) in
theorem offer_outcome (ht : o.macroTimer = true) (hne : o.macroInversion ≠ []) {s : State σ}
    {p : MacroPacket} (hexp : ¬ s.expired o p.time) :
    Outcome modifierState o s p (s.offer dispatch modifierState o p) := by
  have hempty : ¬ o.macroInversion.isEmpty = true := fun h => hne (List.isEmpty_iff.mp h)
  have htimer : ¬ o.macroTimer = false := by
    rw [ht]
    decide
  obtain ⟨s₁, hs₁⟩ : ∃ s₁ : State σ, s₁ = { s with offered := s.offered ++ [p] } := ⟨_, rfl⟩
  have hheld : s₁.held = s.held := by rw [hs₁]; rfl
  have hlog : s₁.log = s.log := by rw [hs₁]
  have hkeyboard : s₁.keyboard = s.keyboard := by rw [hs₁]
  have hsettle : s₁.settle dispatch o p = s₁ := by
    rw [settle, if_neg]
    rw [hs₁]
    exact hexp
  have hinvert : s₁.invertMacros dispatch modifierState o p =
      (s₁.store p).conclude dispatch modifierState o := by
    rw [invertMacros_eq, if_neg htimer, hsettle]
  have hfind : search (s₁.held ++ [p]) (modifierState (s₁.store p).keyboard) o.macroInversion =
      search (s.held ++ [p]) (modifierState s.keyboard) o.macroInversion := by
    rw [hheld, ← hkeyboard]
    rfl
  unfold offer
  rw [if_neg hempty, ← hs₁, hinvert, conclude, store_buffered, hfind]
  cases hfound : search (s.held ++ [p]) (modifierState s.keyboard) o.macroInversion with
  | complete m =>
      refine .complete m
        ⟨(m.byte kOutputBytesOffset, m.byte (kOutputBytesOffset + 1)),
          ((s₁.store p).macroBuffer 0).time⟩
        hfound (held_of_current _ rfl) ?_ rfl
      rw [← hlog, ← hheld]
      rfl
  | begun =>
      refine .begun hfound ?_ hlog hkeyboard
      rw [← hheld]
      exact store_buffered s₁ p
  | nothing =>
      have hflush : (if 0 < (s₁.store p).macroCurrent then
          (s₁.store p).dispatchInvertBuffer dispatch else s₁.store p).held = [] ∧
          (if 0 < (s₁.store p).macroCurrent then
            (s₁.store p).dispatchInvertBuffer dispatch else s₁.store p).log =
              s.log ++ s.held.map .plain := by
        by_cases hcur : 0 < (s₁.store p).macroCurrent
        · rw [if_pos hcur, log_dispatchInvertBuffer, store_held, hheld, ← hlog]
          exact ⟨dispatchInvertBuffer_held _, rfl⟩
        · have hnil := held_of_current (s₁.store p) (Nat.eq_zero_of_not_pos hcur)
          rw [if_neg hcur]
          refine ⟨hnil, ?_⟩
          rw [store_held, hheld] at hnil
          rw [hnil, List.map_nil, List.append_nil, ← hlog]
          rfl
      refine .nothing hfound hflush.1 ?_
      rw [List.map_append, ← List.append_assoc, ← hflush.2]
      rfl

/-- A packet that comes too late finds nothing held. -/
theorem offer_settle (ht : o.macroTimer = true) (hne : o.macroInversion ≠ []) (s : State σ)
    (p : MacroPacket) :
    s.offer dispatch modifierState o p =
      (s.settle dispatch o p).offer dispatch modifierState o p := by
  have hempty : ¬ o.macroInversion.isEmpty = true := fun h => hne (List.isEmpty_iff.mp h)
  have htimer : ¬ o.macroTimer = false := by
    rw [ht]
    decide
  by_cases hexp : s.expired o p.time
  swap
  · rw [settle, if_neg hexp]
  rw [settle, if_pos hexp]
  unfold offer
  rw [if_neg hempty, if_neg hempty, invertMacros_eq, invertMacros_eq, if_neg htimer,
    if_neg htimer, settle, settle, if_pos]
  swap
  · exact hexp
  rw [if_neg (fun h => absurd h.1 (Nat.lt_irrefl 0)), dispatchInvertBuffer, dispatchInvertBuffer,
    foldl_dispatch, foldl_dispatch]
  rfl

/-! ### What is held begins a macro -/

/-- The packets held are the beginning of a macro, and not all of it. -/
def HoldsBeginning (o : Settings) (s : State σ) : Prop :=
  s.held = [] ∨ ∃ m ∈ o.macroInversion, s.held.map MacroPacket.key <+: m.keys ∧
    s.held.length < m.keys.length

theorem HoldsBeginning.check {s : State σ} (h : s.HoldsBeginning o) (now : UInt64) :
    (s.check dispatch o now).HoldsBeginning o := by
  unfold State.check
  split
  · exact .inl (dispatchInvertBuffer_held s)
  · exact h

theorem HoldsBeginning.offer {s : State σ} (h : s.HoldsBeginning o) (p : MacroPacket) :
    (s.offer dispatch modifierState o p).HoldsBeginning o := by
  by_cases hne : o.macroInversion = []
  · rw [State.offer, hne, List.isEmpty_nil, if_pos rfl]
    exact h
  by_cases ht : o.macroTimer = false
  · have hempty : ¬ o.macroInversion.isEmpty = true := fun h => hne (List.isEmpty_iff.mp h)
    unfold State.offer
    rw [if_neg hempty, invertMacros_eq, if_pos ht]
    exact h
  have ht' : o.macroTimer = true := Bool.eq_true_of_not_eq_false ht
  rw [offer_settle ht' hne]
  have hexp : ¬ (s.settle dispatch o p).expired o p.time := by
    unfold settle
    by_cases hexp : s.expired o p.time
    · rw [if_pos hexp]
      exact fun hlate => absurd hlate.1 (Nat.lt_irrefl 0)
    · rw [if_neg hexp]
      exact hexp
  cases offer_outcome dispatch modifierState ht' hne hexp with
  | complete m out found held log output => exact .inl held
  | nothing found held log => exact .inl held
  | begun found held log keyboard =>
      obtain ⟨m, hm, hbegins⟩ := search_begins found
      rw [← held] at hbegins
      exact .inr ⟨m, hm, hbegins⟩

variable (dispatch modifierState) in
theorem HoldsBeginning.moves {s : State σ} (h : s.HoldsBeginning o) (ms : List Move) :
    (s.moves dispatch modifierState o ms).HoldsBeginning o := by
  induction ms generalizing s with
  | nil => exact h
  | cons m ms ih =>
      cases m with
      | offer p => exact ih (h.offer p)
      | check now => exact ih (h.check now)

theorem holdsBeginning_initial (keyboard : σ) (macroBuffer : ℕ → MacroPacket) :
    (initial keyboard macroBuffer).HoldsBeginning o := .inl rfl

/-- A macro that begins with more than what is held is longer. -/
theorem HoldsBeginning.shorter {s : State σ} (h : s.HoldsBeginning o)
    (hfree : PrefixFree Macro.keys o.macroInversion) {m : Macro} (hm : m ∈ o.macroInversion)
    {tail : List (UInt8 × UInt8)} (hpre : m.keys <+: s.held.map MacroPacket.key ++ tail) :
    s.held.length < m.keys.length := by
  rcases h with hnil | ⟨c, hc, hbegins, hlt⟩
  · rw [hnil]
    exact List.length_pos_of_ne_nil m.keys_ne_nil
  · by_contra hle
    have hwithin : m.keys <+: s.held.map MacroPacket.key := by
      refine List.prefix_of_prefix_length_le hpre (List.prefix_append _ _) ?_
      rw [List.length_map]
      exact Nat.not_lt.mp hle
    obtain rfl := hfree.eq_of_prefix hm hc (hwithin.trans hbegins)
    exact hle hlt

/-! ### What becomes of a macro whose keys arrive -/

/-- A look at the clock in time changes nothing. -/
theorem moves_check {s : State σ} {now : UInt64}
    (h : ∀ q ∈ s.held.getLast?, now - q.time ≤ o.macroMaxTime) (ms : List Move) :
    s.moves dispatch modifierState o (.check now :: ms) = s.moves dispatch modifierState o ms := by
  have hsame : s.check dispatch o now = s := by
    rw [check, if_neg (not_expired_of_timely s h)]
  show (s.check dispatch o now).moves dispatch modifierState o ms = _
  rw [hsame]

variable (dispatch modifierState o) in
theorem moves_log (s : State σ) (ms : List Move) :
    s.log <+: (s.moves dispatch modifierState o ms).log := by
  induction ms generalizing s with
  | nil => exact List.prefix_rfl
  | cons m ms ih =>
      refine List.IsPrefix.trans ?_ (ih (s.move dispatch modifierState o m))
      cases m with
      | offer p => exact (blind_offer dispatch modifierState o p).log_extends s
      | check now =>
          unfold move State.check
          dsimp only
          split
          · rw [log_dispatchInvertBuffer]
            exact List.prefix_append _ _
          · exact List.prefix_rfl

section arrival
variable (dispatch modifierState)
variable (ht : o.macroTimer = true) {m : Macro} (hm : m ∈ o.macroInversion)
include ht hm

/-- What is held and what arrives begin with the macro: it is recognised. -/
theorem inverted_of_begins (hfree : PrefixFree Macro.keys o.macroInversion) (ms : List Move)
    {s : State σ} (hbegins : m.keys <+: (s.held ++ packetsOf ms).map MacroPacket.key)
    (hshort : s.held.length < m.keys.length) (hmod : m.modifiersMatch (modifierState s.keyboard))
    (htime : Timely o.macroMaxTime s.held.getLast? ms) :
    ∃ new, (s.moves dispatch modifierState o ms).log = s.log ++ new ∧ Inverted m new := by
  induction ms generalizing s with
  | nil =>
      have hle := hbegins.length_le
      rw [packetsOf, List.append_nil, List.length_map] at hle
      omega
  | cons e ms ih =>
      cases e with
      | check now =>
          rw [moves_check htime.1]
          exact ih hbegins hshort hmod htime.2
      | offer p =>
          have hne := List.ne_nil_of_mem hm
          have hexp := not_expired_of_timely s htime.1
          have hlen : (s.held ++ [p]).length = s.held.length + 1 := by
            rw [List.length_append, List.length_singleton]
          have hall : s.held ++ packetsOf (.offer p :: ms) = s.held ++ [p] ++ packetsOf ms := by
            rw [packetsOf, List.append_assoc, List.singleton_append]
          rw [hall] at hbegins
          -- the candidate is the macro as far as it goes
          have hpre : (s.held ++ [p]).map MacroPacket.key <+: m.keys := by
            refine List.prefix_of_prefix_length_le ?_ hbegins ?_
            · exact (List.prefix_append _ _).map _
            · rw [List.length_map]
              omega
          have houtcome := offer_outcome dispatch modifierState ht hne hexp
          by_cases hend : (s.held ++ [p]).length = m.keys.length
          · have hkeys : (s.held ++ [p]).map MacroPacket.key = m.keys :=
              hpre.eq_of_length (by rw [List.length_map, hend])
            have hsearch := search_of_keys hfree hm hkeys hmod
            cases houtcome with
            | complete m' out found held log output =>
                obtain rfl : m = m' := Match.complete.inj (hsearch.symm.trans found)
                obtain ⟨more, hmore⟩ := moves_log dispatch modifierState o
                  (s.offer dispatch modifierState o p) ms
                refine ⟨[.inverted m (s.held ++ [p]) out] ++ more, ?_, ?_⟩
                · rw [← List.append_assoc, ← log]
                  exact hmore.symm
                · exact inverted_append.mpr
                    (.inl ⟨_, out, List.mem_singleton.mpr rfl, output⟩)
            | begun found held log keyboard => cases hsearch.symm.trans found
            | nothing found held log => cases hsearch.symm.trans found
          · have hsearch := search_of_begins hfree (modifierState s.keyboard) hm hpre
              (by omega)
            cases houtcome with
            | complete m' out found held log output => cases hsearch.symm.trans found
            | nothing found held log => cases hsearch.symm.trans found
            | begun found held log keyboard =>
                obtain ⟨new, hnew, hinv⟩ := ih (s := s.offer dispatch modifierState o p)
                  (by rw [held]; exact hbegins) (by rw [held]; omega)
                  (by rw [keyboard]; exact hmod)
                  (by rw [held, List.getLast?_concat]; exact htime.2)
                rw [log] at hnew
                exact ⟨new, hnew, hinv⟩

/-- They do not begin with it, and there is nothing of them to spare: it is not. -/
theorem not_inverted (ms : List Move) {s : State σ}
    (hbegins : ¬ m.keys <+: (s.held ++ packetsOf ms).map MacroPacket.key)
    (hshort : (packetsOf ms).length ≤ m.keys.length)
    (htime : Timely o.macroMaxTime s.held.getLast? ms) :
    ∃ new, (s.moves dispatch modifierState o ms).log = s.log ++ new ∧ ¬ Inverted m new := by
  induction ms generalizing s with
  | nil =>
      refine ⟨[], (List.append_nil _).symm, ?_⟩
      exact not_inverted_plain m []
  | cons e ms ih =>
      cases e with
      | check now =>
          rw [moves_check htime.1]
          exact ih hbegins hshort htime.2
      | offer p =>
          have hne := List.ne_nil_of_mem hm
          have hexp := not_expired_of_timely s htime.1
          have hall : s.held ++ packetsOf (.offer p :: ms) = s.held ++ [p] ++ packetsOf ms := by
            rw [packetsOf, List.append_assoc, List.singleton_append]
          rw [hall] at hbegins
          rw [packetsOf, List.length_cons] at hshort
          -- once the candidate is given up, too few packets are left for the macro
          have hrest (held : (s.offer dispatch modifierState o p).held = []) :
              ∃ new, ((s.offer dispatch modifierState o p).moves dispatch modifierState o ms).log =
                (s.offer dispatch modifierState o p).log ++ new ∧ ¬ Inverted m new := by
            refine ih ?_ (Nat.le_of_succ_le hshort) ?_
            · intro hpre
              have hle := hpre.length_le
              rw [held, List.nil_append, List.length_map] at hle
              omega
            · rw [held]
              exact htime.2.forget
          cases offer_outcome dispatch modifierState ht hne hexp with
          | complete m' out found held log output =>
              obtain ⟨new, hnew, hinv⟩ := hrest held
              refine ⟨[.inverted m' (s.held ++ [p]) out] ++ new, ?_, ?_⟩
              · rw [← List.append_assoc, ← log]
                exact hnew
              · intro h
                rcases inverted_append.mp h with ⟨_, _, hmem, -⟩ | h
                · obtain ⟨rfl, -, -⟩ := Entry.inverted.inj (List.mem_singleton.mp hmem)
                  apply hbegins
                  rw [List.map_append, (search_complete found).2]
                  exact List.prefix_append _ _
                · exact hinv h
          | begun found held log keyboard =>
              obtain ⟨new, hnew, hinv⟩ := ih (s := s.offer dispatch modifierState o p)
                (by rw [held]; exact hbegins) (Nat.le_of_succ_le hshort)
                (by rw [held, List.getLast?_concat]; exact htime.2)
              rw [log] at hnew
              exact ⟨new, hnew, hinv⟩
          | nothing found held log =>
              obtain ⟨new, hnew, hinv⟩ := hrest held
              refine ⟨(s.held ++ [p]).map .plain ++ new, ?_, ?_⟩
              · rw [← List.append_assoc, ← log]
                exact hnew
              · intro h
                rcases inverted_append.mp h with h | h
                · exact not_inverted_plain m _ h
                · exact hinv h

end arrival

variable (dispatch modifierState) in
/-- Without a timer no macro is recognised. -/
theorem not_inverted_of_no_timer (ht : o.macroTimer = false) (m : Macro) (ms : List Move)
    (s : State σ) :
    ∃ new, (s.moves dispatch modifierState o ms).log = s.log ++ new ∧ ¬ Inverted m new := by
  have hstep : ∀ (e : Move) (s : State σ),
      ∃ ps : List MacroPacket, (s.move dispatch modifierState o e).log = s.log ++ ps.map .plain := by
    intro e s
    cases e with
    | check now =>
        by_cases hexp : s.expired o now
        · refine ⟨s.held, ?_⟩
          rw [move, check, if_pos hexp, log_dispatchInvertBuffer]
        · refine ⟨[], ?_⟩
          rw [move, check, if_neg hexp]
          exact (List.append_nil _).symm
    | offer p =>
        refine ⟨[p], ?_⟩
        unfold move offer
        dsimp only
        rw [invertMacros_eq, if_pos ht]
        split
        · rfl
        · rfl
  induction ms generalizing s with
  | nil => exact ⟨[], (List.append_nil _).symm, not_inverted_plain m []⟩
  | cons e ms ih =>
      obtain ⟨ps, hps⟩ := hstep e s
      obtain ⟨new, hnew, hinv⟩ := ih (s.move dispatch modifierState o e)
      refine ⟨ps.map .plain ++ new, ?_, ?_⟩
      · rw [← List.append_assoc, ← hps]
        exact hnew
      · intro h
        rcases inverted_append.mp h with h | h
        · exact not_inverted_plain m ps h
        · exact hinv h

/-- What was dispatched since the log was this long. -/
theorem inverted_drop {s t : State σ} {m : Macro} {new : List Entry} (h : t.log = s.log ++ new) :
    Inverted m (t.log.drop s.log.length) ↔ Inverted m new := by
  rw [h, List.drop_left]

end State

/-! ### Macros are recognised unless another one is begun -/

/-- The first packet of the macro is compared as such: nothing is held, or what is held is too old;
or else what is held begins the macro itself, and the macro's keys go on with it. -/
def Fresh {σ : Type} (o : Settings) (s : State σ) (p : MacroPacket) (m : Macro) : Prop :=
  s.expired o p.time ∨ m.keys <+: s.held.map MacroPacket.key ++ m.keys

instance {σ : Type} (o : Settings) (s : State σ) (p : MacroPacket) (m : Macro) :
    Decidable (Fresh o s p m) := inferInstanceAs (Decidable (_ ∨ _))

/-- **A macro whose keys arrive in time is recognised exactly if its first packet is not taken for the
next of another one.** -/
theorem recognised_iff {σ : Type} (dispatch : σ → MacroPacket → σ) (modifierState : σ → UInt16)
    (o : Settings) (keyboard : σ) (macroBuffer : ℕ → MacroPacket)
    (hfree : PrefixFree Macro.keys o.macroInversion) {m : Macro} (hm : m ∈ o.macroInversion)
    (history : List Move) (p : MacroPacket) (ms : List Move)
    (hkeys : (p :: packetsOf ms).map MacroPacket.key = m.keys)
    (htime : Timely o.macroMaxTime (some p) ms) :
    let s := (initial keyboard macroBuffer).moves dispatch modifierState o history
    m.modifiersMatch (modifierState (s.settle dispatch o p).keyboard) →
      (Inverted m ((s.moves dispatch modifierState o (.offer p :: ms)).log.drop s.log.length) ↔
        o.macroTimer = true ∧ Fresh o s p m) := by
  intro s hmod
  have hne := List.ne_nil_of_mem hm
  have hoffered : packetsOf (.offer p :: ms) = p :: packetsOf ms := rfl
  by_cases ht : o.macroTimer = true
  swap
  · obtain ⟨new, hnew, hinv⟩ := State.not_inverted_of_no_timer dispatch
      modifierState (Bool.eq_false_of_not_eq_true ht) m (.offer p :: ms) s
    rw [State.inverted_drop hnew]
    exact iff_of_false hinv (fun h => ht h.1)
  by_cases hexp : s.expired o p.time
  · have hsettle : s.settle dispatch o p = s.dispatchInvertBuffer dispatch := by
      rw [State.settle, if_pos hexp]
    have hmoves : s.moves dispatch modifierState o (.offer p :: ms) =
        (s.dispatchInvertBuffer dispatch).moves dispatch modifierState o (.offer p :: ms) := by
      rw [← hsettle]
      show (s.offer dispatch modifierState o p).moves dispatch modifierState o ms = _
      rw [State.offer_settle ht hne]
      rfl
    have hheld : (s.dispatchInvertBuffer dispatch).held = [] := s.dispatchInvertBuffer_held
    rw [hsettle] at hmod
    obtain ⟨new, hnew, hinv⟩ := State.inverted_of_begins dispatch modifierState
      ht hm hfree (.offer p :: ms)
      (s := s.dispatchInvertBuffer dispatch)
      (by rw [hheld, List.nil_append, hoffered, hkeys])
      (by rw [hheld]; exact List.length_pos_of_ne_nil m.keys_ne_nil) hmod
      (by rw [hheld]; exact ⟨fun _ hq => absurd hq (Option.not_mem_none _), htime⟩)
    rw [← hmoves, State.log_dispatchInvertBuffer, List.append_assoc] at hnew
    rw [State.inverted_drop hnew]
    exact iff_of_true (inverted_append.mpr (.inr hinv)) ⟨ht, .inl hexp⟩
  · rw [State.settle, if_neg hexp] at hmod
    have hall : (s.held ++ packetsOf (.offer p :: ms)).map MacroPacket.key =
        s.held.map MacroPacket.key ++ m.keys := by
      rw [List.map_append, hoffered, hkeys]
    have htimely : Timely o.macroMaxTime s.held.getLast? (.offer p :: ms) := by
      refine ⟨fun q hq => ?_, htime⟩
      rw [State.expired_iff] at hexp
      exact UInt64.not_lt.mp (fun hlt => hexp ⟨q, hq, hlt⟩)
    by_cases hpre : m.keys <+: s.held.map MacroPacket.key ++ m.keys
    · have hholds := (State.holdsBeginning_initial (o := o) keyboard macroBuffer).moves dispatch
        modifierState history
      have hshort := hholds.shorter hfree hm hpre
      obtain ⟨new, hnew, hinv⟩ := State.inverted_of_begins dispatch
        modifierState ht hm hfree (.offer p :: ms) (by rw [hall]; exact hpre)
        hshort hmod htimely
      rw [State.inverted_drop hnew]
      exact iff_of_true hinv ⟨ht, .inr hpre⟩
    · have hlen : (packetsOf (.offer p :: ms)).length ≤ m.keys.length := by
        rw [hoffered, ← hkeys, List.length_map]
      obtain ⟨new, hnew, hinv⟩ := State.not_inverted dispatch modifierState
        ht hm (.offer p :: ms) (by rw [hall]; exact hpre) hlen
        htimely
      rw [State.inverted_drop hnew]
      exact iff_of_false hinv (fun h => h.2.elim hexp hpre)

/-- The macros for Fn+F1 of a shipped profile: the key goes down, and it goes up in either order. -/
def fnF1Down : Macro :=
  ⟨[0xff, 0xff, 0x02, 0x6e, 0, 0, 0, 0, 0x02, 0x5b, 0x01, 0x19], by decide⟩

def fnF1Up : Macro := ⟨[0xff, 0xff, 0x02, 0xee, 0, 0, 0, 0, 0x02, 0xdb, 0x01, 0x99], by decide⟩

def fnF1UpLast : Macro :=
  ⟨[0xff, 0xff, 0x02, 0xee, 0, 0, 0, 0, 0x01, 0x99, 0x02, 0xdb], by decide⟩

def fnF1 : Settings := ⟨[fnF1Down, fnF1Up, fnF1UpLast], true, 35000000⟩

theorem fnF1UpLast_mem : fnF1UpLast ∈ fnF1.macroInversion :=
  List.mem_cons_of_mem _ (List.mem_cons_of_mem _ List.mem_cons_self)

/-- The keyboard of the driver, with no key down in the key bit vector. -/
def press (s : Dispatcher) (p : MacroPacket) : Dispatcher :=
  (dispatchKeyboardEventWithPacket Session.stockOptions s p.key .zero .zero).1

theorem recognised_fnF1Up :
    let s := (initial Session.initial.dispatcher fun _ => ⟨(0, 0), 0⟩).moves press
      Dispatcher.modifierState fnF1 [.offer ⟨(1, 0x1e), 0⟩]
    Inverted fnF1UpLast ((s.moves press Dispatcher.modifierState fnF1
      [.offer ⟨(1, 0x99), 10⟩, .check 15, .offer ⟨(2, 0xdb), 20⟩]).log.drop s.log.length) :=
  (recognised_iff press Dispatcher.modifierState fnF1 _ _ (by decide +kernel) fnF1UpLast_mem
    [.offer ⟨(1, 0x1e), 0⟩] ⟨(1, 0x99), 10⟩ [.check 15, .offer ⟨(2, 0xdb), 20⟩]
    (by decide +kernel) (by decide +kernel) (by decide +kernel)).mpr (by decide +kernel)

/-- The Windows key pressed while `P` is held, then `P` and the Windows key released: the first
packet is held as the beginning of Fn+F1, and the macro for its release is missed. -/
theorem unrecognised_fnF1Up :
    ¬ ∀ (σ : Type) (dispatch : σ → MacroPacket → σ) (modifierState : σ → UInt16) (o : Settings)
      (keyboard : σ) (macroBuffer : ℕ → MacroPacket), o.macroTimer = true →
      PrefixFree Macro.keys o.macroInversion → ∀ m ∈ o.macroInversion,
      ∀ (history : List Move) (p : MacroPacket) (ms : List Move),
        (p :: packetsOf ms).map MacroPacket.key = m.keys → Timely o.macroMaxTime (some p) ms →
        let s := (initial keyboard macroBuffer).moves dispatch modifierState o history
        m.modifiersMatch (modifierState (s.settle dispatch o p).keyboard) →
          (∀ c ∈ o.macroInversion, c.keys ≠ m.keys → ∀ old, old <:+ packetsOf history →
            ∀ new, new <+: p :: packetsOf ms → (old ++ new).map MacroPacket.key ≠ c.keys) →
          Inverted m ((s.moves dispatch modifierState o (.offer p :: ms)).log.drop s.log.length) := by
  intro h
  have hothers : ∀ c ∈ fnF1.macroInversion, c.keys ≠ fnF1UpLast.keys →
      ∀ old ∈ (packetsOf [.offer ⟨(2, 0x5b), 0⟩]).tails,
      ∀ new ∈ ([⟨(1, 0x99), 10⟩, ⟨(2, 0xdb), 20⟩] : List MacroPacket).inits,
        (old ++ new).map MacroPacket.key ≠ c.keys := by
    decide +kernel
  have hinverted := h Dispatcher press Dispatcher.modifierState fnF1 Session.initial.dispatcher
    (fun _ => ⟨(0, 0), 0⟩) rfl (by decide +kernel) fnF1UpLast fnF1UpLast_mem
    [.offer ⟨(2, 0x5b), 0⟩] ⟨(1, 0x99), 10⟩ [.offer ⟨(2, 0xdb), 20⟩] (by decide +kernel)
    (by decide +kernel) (by decide +kernel)
    (fun c hc hne old hold new hnew => hothers c hc hne old ((List.mem_tails _ _).mpr hold) new
      ((List.mem_inits _ _).mpr hnew))
  obtain ⟨new, hnew, hmissed⟩ := State.not_inverted press
    Dispatcher.modifierState (o := fnF1) rfl fnF1UpLast_mem
    [.offer ⟨(1, 0x99), 10⟩, .offer ⟨(2, 0xdb), 20⟩]
    (s := (initial Session.initial.dispatcher fun _ => ⟨(0, 0), 0⟩).moves press
      Dispatcher.modifierState fnF1 [.offer ⟨(2, 0x5b), 0⟩])
    (by decide +kernel) (by decide +kernel) (by decide +kernel)
  exact hmissed ((State.inverted_drop hnew).mp hinverted)

end VoodooPS2.Keyboard.Macros
