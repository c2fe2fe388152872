import VoodooPS2.Keyboard.Macros

/-! # Macro inversion over any stretch of a run

`Kept` relates the keyboard to all packets dispatched since `init`, so it holds only of runs in
which nothing but those packets touches the keyboard.  Bytes and a wake touch it as well.
`Accounted` is what is left of `Kept` then: the packets offered are those dispatched, with what the
macros absorbed, followed by those held.

The functions read nothing of the history (`Blind`), so each of them may be taken to start with an
empty one, where `Kept` holds.  `Accounted.of_blind` is this argument, and `Accounted.offer` and the
lemmas beside it are its instances.  `offers_progress` says that packets held do not stay held: if
packets keep being offered, they are dispatched or absorbed.

`invert_preserves`: in a run from `init` on, the packets that come in by the ring and by notifications
are those dispatched, with the packets a macro absorbed in the place of its output, followed by those
held. -/

namespace VoodooPS2.Keyboard.Macros

/-- A macro has a key. -/
theorem Macro.keys_ne_nil (m : Macro) : m.keys ≠ [] := by
  have hlen := m.two_le_length
  rw [← m.length_eq] at hlen
  rw [Macro.keys]
  rcases hseq : m.sequence with _ | ⟨a, _ | ⟨b, rest⟩⟩ <;> rw [hseq] at hlen
  · exact absurd hlen (by decide)
  · exact absurd hlen (by simp)
  · exact List.cons_ne_nil _ _

/-- What is dispatched stands for some packet. -/
theorem Entry.WellFormed.source_ne_nil {macros : List Macro} {e : Entry}
    (h : e.WellFormed macros) : e.source ≠ [] := by
  cases e with
  | plain p => exact List.cons_ne_nil _ _
  | inverted m absorbed out =>
      intro hnil
      have hkeys := h.2.1
      rw [show absorbed = [] from hnil] at hkeys
      exact m.keys_ne_nil hkeys.symm

/-- What a state remembers and no function reads. -/
structure Past where
  offered : List MacroPacket
  log : List Entry
  writes : List (ℕ × ℕ)

section

variable {σ : Type} {dispatch : σ → MacroPacket → σ} {modifierState : σ → UInt16} {o : Settings}

namespace State

/-! ### The parts of `invertMacros` -/

variable (dispatch o) in
/-- The packets held are dispatched if the next one arrives too late. -/
def settle (s : State σ) (p : MacroPacket) : State σ :=
  if s.expired o p.time then s.dispatchInvertBuffer dispatch else s

variable (dispatch modifierState o) in
/-- The comparison with the macros, once the packet is stored. -/
def conclude (s : State σ) : State σ × Bool :=
  let buffered := (List.range (s.macroCurrent + 1)).map s.macroBuffer
  match search buffered (modifierState s.keyboard) o.macroInversion with
  | .complete m => (s.invert dispatch m buffered, true)
  | .begun => ({ s with macroCurrent := s.macroCurrent + 1, timerArmed := true }, true)
  | .nothing => (if 0 < s.macroCurrent then s.dispatchInvertBuffer dispatch else s, false)

theorem invertMacros_eq (s : State σ) (p : MacroPacket) :
    s.invertMacros dispatch modifierState o p =
      if o.macroTimer = false then (s, false)
      else ((s.settle dispatch o p).store p).conclude dispatch modifierState o := rfl

/-! ### The history of a state -/

/-- The state with an older history before its own. -/
def after (past : Past) (s : State σ) : State σ :=
  { s with
    offered := past.offered ++ s.offered
    log := past.log ++ s.log
    writes := past.writes ++ s.writes }

/-- The state with no history but the packets it holds. -/
def recent (s : State σ) : State σ := { s with offered := s.held, log := [], writes := [] }

/-- The state with an older history, and with other packets in the ring. -/
def framed (past : Past) (f : List MacroPacket → List MacroPacket) (s : State σ) : State σ :=
  { s with
    ring := f s.ring
    offered := past.offered ++ s.offered
    log := past.log ++ s.log
    writes := past.writes ++ s.writes }

/-- A function of the driver that reads nothing of the history and adds to its end. -/
def Blind (f : State σ → State σ) : Prop := ∀ past s, f (s.after past) = (f s).after past

section blind
variable (past : Past) (f : List MacroPacket → List MacroPacket) (s : State σ) (p : MacroPacket)

theorem dispatch_framed (e : Entry) :
    (s.framed past f).dispatchKeyboardEventWithPacket dispatch e =
      (s.dispatchKeyboardEventWithPacket dispatch e).framed past f := by
  unfold dispatchKeyboardEventWithPacket framed
  dsimp only
  rw [List.append_assoc]

theorem dispatchInvertBuffer_framed :
    (s.framed past f).dispatchInvertBuffer dispatch =
      (s.dispatchInvertBuffer dispatch).framed past f := by
  rw [dispatchInvertBuffer, dispatchInvertBuffer, foldl_dispatch, foldl_dispatch]
  unfold framed held
  dsimp only
  rw [List.append_assoc]

theorem store_framed : (s.framed past f).store p = (s.store p).framed past f := by
  unfold store framed
  dsimp only
  rw [List.append_assoc]

theorem invert_framed (m : Macro) (absorbed : List MacroPacket) :
    (s.framed past f).invert dispatch m absorbed = (s.invert dispatch m absorbed).framed past f := by
  unfold invert dispatchKeyboardEventWithPacket framed
  dsimp only
  rw [List.append_assoc, List.append_assoc]

theorem settle_framed :
    (s.framed past f).settle dispatch o p = (s.settle dispatch o p).framed past f := by
  unfold settle
  by_cases h : s.expired o p.time
  · rw [if_pos h, if_pos (show (s.framed past f).expired o p.time from h)]
    exact dispatchInvertBuffer_framed past f s
  · rw [if_neg h, if_neg (show ¬ (s.framed past f).expired o p.time from h)]

theorem conclude_framed :
    (s.framed past f).conclude dispatch modifierState o =
      ((s.conclude dispatch modifierState o).1.framed past f,
        (s.conclude dispatch modifierState o).2) := by
  unfold conclude
  have hs : search ((List.range ((s.framed past f).macroCurrent + 1)).map (s.framed past f).macroBuffer)
      (modifierState (s.framed past f).keyboard) o.macroInversion =
        search ((List.range (s.macroCurrent + 1)).map s.macroBuffer) (modifierState s.keyboard)
          o.macroInversion := rfl
  dsimp only
  rw [hs]
  cases search ((List.range (s.macroCurrent + 1)).map s.macroBuffer) (modifierState s.keyboard)
    o.macroInversion with
  | complete m => exact congrArg (fun t => (t, true)) (invert_framed past f s m _)
  | begun => rfl
  | nothing =>
      refine congrArg (fun t => (t, false)) ?_
      by_cases h : 0 < s.macroCurrent
      · rw [if_pos h, if_pos (show 0 < (s.framed past f).macroCurrent from h)]
        exact dispatchInvertBuffer_framed past f s
      · rw [if_neg h, if_neg (show ¬ 0 < (s.framed past f).macroCurrent from h)]

theorem invertMacros_framed :
    (s.framed past f).invertMacros dispatch modifierState o p =
      ((s.invertMacros dispatch modifierState o p).1.framed past f,
        (s.invertMacros dispatch modifierState o p).2) := by
  rw [invertMacros_eq, invertMacros_eq]
  by_cases ht : o.macroTimer = false
  · rw [if_pos ht, if_pos ht]
  · rw [if_neg ht, if_neg ht, settle_framed, store_framed, conclude_framed]

/-- Offering a packet. -/
theorem offer_framed :
    (s.framed past f).offer dispatch modifierState o p =
      (s.offer dispatch modifierState o p).framed past f := by
  have hnew : ({ s.framed past f with offered := (s.framed past f).offered ++ [p] } : State σ) =
      ({ s with offered := s.offered ++ [p] } : State σ).framed past f := by
    unfold framed
    dsimp only
    rw [List.append_assoc]
  unfold offer
  dsimp only
  rw [hnew]
  by_cases hne : o.macroInversion.isEmpty = true
  · rw [if_pos hne, if_pos hne, dispatch_framed]
  · rw [if_neg hne, if_neg hne, invertMacros_framed]
    rcases invertMacros dispatch modifierState o { s with offered := s.offered ++ [p] } p with
      ⟨t, _ | _⟩
    · exact dispatch_framed past f t (.plain p)
    · rfl

variable (dispatch modifierState o) in
theorem blind_offer : Blind (fun s : State σ => s.offer dispatch modifierState o p) :=
  fun past s => offer_framed past id s p

variable (dispatch modifierState o) in
/-- Packets offered one after the other. -/
def offerAll (ps : List MacroPacket) (s : State σ) : State σ :=
  ps.foldl (fun s p => s.offer dispatch modifierState o p) s

variable (dispatch modifierState o) in
theorem blind_offerAll (ps : List MacroPacket) :
    Blind (fun s : State σ => s.offerAll dispatch modifierState o ps) := by
  intro past s
  induction ps generalizing s with
  | nil => rfl
  | cons p ps ih =>
      have hp := blind_offer dispatch modifierState o p past s
      have h := ih (s.offer dispatch modifierState o p)
      dsimp only at hp h
      rw [← hp] at h
      exact h

/-- `packetReady` offers the packets of the ring that are no reset packets. -/
theorem packetReady_eq :
    s.packetReady dispatch modifierState o =
      State.offerAll dispatch modifierState o (s.ring.filter (fun p => p.key.1 ≠ 0))
        { s with ring := [] } := by
  unfold packetReady offerAll
  rw [List.foldl_filter]
  simp only [decide_eq_true_eq]

variable (dispatch modifierState o) in
theorem blind_packetReady : Blind (fun s : State σ => s.packetReady dispatch modifierState o) := by
  intro past s
  dsimp only
  rw [packetReady_eq, packetReady_eq]
  exact blind_offerAll dispatch modifierState o _ past { s with ring := [] }

/-- The packets a notification makes. -/
def notified (arg : UInt32) (time₁ time₂ : UInt64) : List MacroPacket :=
  if arg &&& 0xFFFF0000 = 0 then
    let b₀ : UInt8 := (arg >>> 8).toUInt8
    let b₁ : UInt8 := arg.toUInt8
    if b₀ = 1 ∨ b₀ = 2 then [⟨(b₀, b₁), time₁⟩]
    else if b₀ = 3 ∨ b₀ = 4 then [⟨(b₀ - 2, b₁), time₁⟩, ⟨(b₀ - 2, b₁ ||| 0x80), time₂⟩]
    else []
  else []

theorem notification_eq (arg : UInt32) (time₁ time₂ : UInt64) :
    s.notification dispatch modifierState o arg time₁ time₂ =
      s.offerAll dispatch modifierState o (notified arg time₁ time₂) := by
  unfold notification notified
  dsimp only
  split_ifs <;> rfl

variable (dispatch modifierState o) in
theorem blind_onMacroTimer (now : UInt64) :
    Blind (fun s : State σ => s.onMacroTimer dispatch modifierState o now) := by
  intro past s
  have hp := blind_packetReady dispatch modifierState o past s
  unfold onMacroTimer
  dsimp only at hp ⊢
  rw [hp]
  by_cases h : (s.packetReady dispatch modifierState o).expired o now
  · rw [if_pos h, if_pos (show ((s.packetReady dispatch modifierState o).after past).expired o now
      from h)]
    exact dispatchInvertBuffer_framed past id _
  · rw [if_neg h, if_neg (show ¬ ((s.packetReady dispatch modifierState o).after past).expired o now
      from h)]

end blind

/-- The log grows at its end. -/
theorem Blind.log_extends {f : State σ → State σ} (hf : Blind f) (s : State σ) :
    s.log <+: (f s).log := by
  have hs : s = State.after ⟨s.offered, s.log, s.writes⟩
      { s with offered := [], log := [], writes := [] } := by
    simp [after]
  have hlog := hf ⟨s.offered, s.log, s.writes⟩ { s with offered := [], log := [], writes := [] }
  rw [← hs] at hlog
  rw [hlog]
  exact List.prefix_append _ _

/-! ### The packets are accounted for -/

/-- The packets offered are those dispatched, with what the macros absorbed, and those held. -/
structure Accounted (o : Settings) (s : State σ) : Prop where
  offered : s.offered = s.log.flatMap Entry.source ++ s.held
  entries : ∀ e ∈ s.log, e.WellFormed o.macroInversion
  current : s.macroCurrent = 0 ∨
    o.macroTimer = true ∧ (s.macroCurrent + 1) * 2 ≤ macroMax o.macroInversion

variable {s : State σ}

variable (dispatch) in
/-- With its history cut off the state is as after `init`. -/
theorem Accounted.kept_recent (h : s.Accounted o) : s.recent.Kept dispatch s.keyboard o [] where
  dispatched := rfl
  accounted := (List.append_nil _).symm
  entries _ he := absurd he List.not_mem_nil
  current := h.current
  writes _ hw := absurd hw List.not_mem_nil

variable (dispatch) in
/-- What is true of every stretch from `init` on is true of any stretch. -/
theorem Accounted.of_blind (h : s.Accounted o) {f : State σ → State σ} (hf : Blind f)
    (hk : ∀ k₀ t, t.Kept dispatch k₀ o [] → (f t).Kept dispatch k₀ o []) : (f s).Accounted o := by
  have hs : s = s.recent.after ⟨s.log.flatMap Entry.source, s.log, s.writes⟩ := by
    unfold after recent
    rw [← h.offered]
    simp
  have ht := hk _ _ (h.kept_recent dispatch)
  rw [hs, hf]
  generalize f s.recent = t at ht
  refine ⟨?_, ?_, ht.current⟩
  · show s.log.flatMap Entry.source ++ t.offered = (s.log ++ t.log).flatMap Entry.source ++ t.held
    rw [ht.accounted, List.append_nil, List.flatMap_append, List.append_assoc]
  · intro e he
    rcases List.mem_append.mp he with he | he
    · exact h.entries e he
    · exact ht.entries e he

/-- Between two states: what was held and what was offered since has been dispatched since, or is
held. -/
theorem Accounted.between (h : s.Accounted o) {t : State σ} (ht : t.Accounted o)
    {log : List Entry} {ps : List MacroPacket} (hlog : t.log = s.log ++ log)
    (hoff : t.offered = s.offered ++ ps) :
    s.held ++ ps = log.flatMap Entry.source ++ t.held := by
  have hall := ht.offered
  rw [hoff, h.offered, hlog, List.flatMap_append, List.append_assoc, List.append_assoc] at hall
  exact List.append_cancel_left hall

/-- If anything was dispatched since, the first packet held was. -/
theorem Accounted.first_dispatched (h : s.Accounted o) {t : State σ} (ht : t.Accounted o)
    {log : List Entry} {ps : List MacroPacket} (hlog : t.log = s.log ++ log)
    (hoff : t.offered = s.offered ++ ps) (hne : log ≠ []) {first : MacroPacket}
    {rest : List MacroPacket} (hheld : s.held = first :: rest) :
    first ∈ log.flatMap Entry.source := by
  have hrow := h.between ht hlog hoff
  obtain ⟨e, log', rfl⟩ := List.exists_cons_of_ne_nil hne
  have he : e ∈ t.log := by
    rw [hlog]
    exact List.mem_append_right _ List.mem_cons_self
  obtain ⟨x, xs, hsource⟩ := List.exists_cons_of_ne_nil (ht.entries e he).source_ne_nil
  rw [List.flatMap_cons, hsource] at hrow ⊢
  rw [hheld] at hrow
  rw [(List.cons.inj hrow).1]
  exact List.mem_cons_self

theorem Accounted.offerAll (h : s.Accounted o) (ps : List MacroPacket) :
    (s.offerAll dispatch modifierState o ps).Accounted o := by
  refine h.of_blind dispatch (blind_offerAll dispatch modifierState o ps) (fun k₀ t ht => ?_)
  unfold State.offerAll
  induction ps generalizing t with
  | nil => exact ht
  | cons p ps ih => exact ih _ (ht.offer p)

theorem Accounted.packetReady (h : s.Accounted o) :
    (s.packetReady dispatch modifierState o).Accounted o :=
  h.of_blind dispatch (blind_packetReady dispatch modifierState o) (fun _ _ ht => ht.packetReady)

theorem Accounted.onMacroTimer (h : s.Accounted o) (now : UInt64) :
    (s.onMacroTimer dispatch modifierState o now).Accounted o :=
  h.of_blind dispatch (blind_onMacroTimer dispatch modifierState o now)
    (fun _ _ ht => ht.onMacroTimer now)

/-! ### What is offered -/

/-- Neither the ring nor what was offered is changed. -/
def SameOffered (s t : State σ) : Prop := t.ring = s.ring ∧ t.offered = s.offered

section offered
variable (dispatch modifierState o)

theorem sameOffered_dispatchInvertBuffer (s : State σ) :
    s.SameOffered (s.dispatchInvertBuffer dispatch) := by
  rw [dispatchInvertBuffer, foldl_dispatch]
  exact ⟨rfl, rfl⟩

theorem sameOffered_settle (s : State σ) (p : MacroPacket) :
    s.SameOffered (s.settle dispatch o p) := by
  unfold settle
  split
  · exact sameOffered_dispatchInvertBuffer dispatch s
  · exact ⟨rfl, rfl⟩

theorem sameOffered_conclude (s : State σ) :
    s.SameOffered (s.conclude dispatch modifierState o).1 := by
  unfold conclude
  dsimp only
  cases search ((List.range (s.macroCurrent + 1)).map s.macroBuffer) (modifierState s.keyboard)
    o.macroInversion with
  | complete m => exact ⟨rfl, rfl⟩
  | begun => exact ⟨rfl, rfl⟩
  | nothing =>
      dsimp only
      split
      · exact sameOffered_dispatchInvertBuffer dispatch s
      · exact ⟨rfl, rfl⟩

theorem sameOffered_invertMacros (s : State σ) (p : MacroPacket) :
    s.SameOffered (s.invertMacros dispatch modifierState o p).1 := by
  rw [invertMacros_eq]
  by_cases ht : o.macroTimer = false
  · rw [if_pos ht]
    exact ⟨rfl, rfl⟩
  · rw [if_neg ht]
    obtain ⟨hr, ho⟩ := sameOffered_conclude dispatch modifierState o
      ((s.settle dispatch o p).store p)
    obtain ⟨hr', ho'⟩ := sameOffered_settle dispatch o s p
    exact ⟨hr.trans hr', ho.trans ho'⟩

theorem offer_offered (s : State σ) (p : MacroPacket) :
    (s.offer dispatch modifierState o p).ring = s.ring ∧
      (s.offer dispatch modifierState o p).offered = s.offered ++ [p] := by
  unfold offer
  dsimp only
  by_cases hne : o.macroInversion.isEmpty = true
  · rw [if_pos hne]
    exact ⟨rfl, rfl⟩
  · rw [if_neg hne]
    have h : State.SameOffered { s with offered := s.offered ++ [p] } _ :=
      sameOffered_invertMacros dispatch modifierState o _ p
    revert h
    rcases invertMacros dispatch modifierState o { s with offered := s.offered ++ [p] } p with
      ⟨t, _ | _⟩
    · exact fun h => h
    · exact fun h => h

theorem offerAll_offered (s : State σ) (ps : List MacroPacket) :
    (s.offerAll dispatch modifierState o ps).ring = s.ring ∧
      (s.offerAll dispatch modifierState o ps).offered = s.offered ++ ps := by
  induction ps generalizing s with
  | nil => exact ⟨rfl, (List.append_nil _).symm⟩
  | cons p ps ih =>
      obtain ⟨hr, ho⟩ := offer_offered dispatch modifierState o s p
      obtain ⟨hr', ho'⟩ := ih (s.offer dispatch modifierState o p)
      refine ⟨hr'.trans hr, ho'.trans ?_⟩
      rw [ho, List.append_assoc]
      rfl

theorem packetReady_offered (s : State σ) :
    (s.packetReady dispatch modifierState o).ring = [] ∧
      (s.packetReady dispatch modifierState o).offered =
        s.offered ++ s.ring.filter (fun p => p.key.1 ≠ 0) := by
  rw [packetReady_eq]
  exact offerAll_offered dispatch modifierState o _ _

theorem onMacroTimer_offered (s : State σ) (now : UInt64) :
    (s.onMacroTimer dispatch modifierState o now).ring = [] ∧
      (s.onMacroTimer dispatch modifierState o now).offered =
        s.offered ++ s.ring.filter (fun p => p.key.1 ≠ 0) := by
  have h := packetReady_offered dispatch modifierState o s
  unfold onMacroTimer
  dsimp only
  split
  · obtain ⟨hr, ho⟩ := sameOffered_dispatchInvertBuffer dispatch
      (s.packetReady dispatch modifierState o)
    exact ⟨hr.trans h.1, ho.trans h.2⟩
  · exact h

end offered

/-! ### Packets held do not stay held -/

theorem dispatchInvertBuffer_log (s : State σ) :
    (s.dispatchInvertBuffer dispatch).log.length = s.log.length + s.macroCurrent := by
  rw [dispatchInvertBuffer, foldl_dispatch, held]
  simp

/-- The comparison dispatches something, or one more packet is held. -/
theorem conclude_progress (s : State σ) (hcur : 0 < s.macroCurrent) :
    s.log.length < (s.conclude dispatch modifierState o).1.log.length ∨
      ((s.conclude dispatch modifierState o).2 = true ∧
        (s.conclude dispatch modifierState o).1.macroCurrent = s.macroCurrent + 1) := by
  unfold conclude
  dsimp only
  cases search ((List.range (s.macroCurrent + 1)).map s.macroBuffer) (modifierState s.keyboard)
    o.macroInversion with
  | complete m =>
      left
      show s.log.length < (s.log ++ [_]).length
      rw [List.length_append]
      exact Nat.lt_succ_self _
  | begun => exact .inr ⟨rfl, rfl⟩
  | nothing =>
      left
      dsimp only
      rw [if_pos hcur, dispatchInvertBuffer_log]
      exact Nat.lt_add_of_pos_right hcur

section progress
variable (dispatch modifierState)

variable (o) in
theorem conclude_log (s : State σ) :
    s.log.length ≤ (s.conclude dispatch modifierState o).1.log.length := by
  have hb : Blind (fun s : State σ => (s.conclude dispatch modifierState o).1) :=
    fun past s => congrArg Prod.fst (conclude_framed past id s)
  exact (hb.log_extends s).length_le

/-- A packet that arrives late has the packets held dispatched; any other is compared. -/
theorem invertMacros_progress (s : State σ) (p : MacroPacket) (ht : o.macroTimer = true)
    (hcur : 0 < s.macroCurrent) :
    s.log.length < (s.invertMacros dispatch modifierState o p).1.log.length ∨
      ((s.invertMacros dispatch modifierState o p).2 = true ∧
        (s.invertMacros dispatch modifierState o p).1.macroCurrent = s.macroCurrent + 1) := by
  have ht' : ¬ o.macroTimer = false := by
    rw [ht]
    decide
  rw [invertMacros_eq, if_neg ht']
  by_cases hexp : s.expired o p.time
  · left
    have hlog := conclude_log dispatch modifierState o
      ((s.settle dispatch o p).store p)
    have hsettle : (s.settle dispatch o p).log.length = s.log.length + s.macroCurrent := by
      rw [settle, if_pos hexp, dispatchInvertBuffer_log]
    refine lt_of_lt_of_le ?_ hlog
    show s.log.length < (s.settle dispatch o p).log.length
    omega
  · rw [settle, if_neg hexp]
    exact conclude_progress (s.store p) hcur

/-- A packet offered behind packets held dispatches something, or is held as well. -/
theorem Accounted.offer_progress (h : s.Accounted o) (hcur : 0 < s.macroCurrent)
    (p : MacroPacket) :
    s.log.length < (s.offer dispatch modifierState o p).log.length ∨
      (s.offer dispatch modifierState o p).macroCurrent = s.macroCurrent + 1 := by
  obtain ⟨ht, hmax⟩ : o.macroTimer = true ∧
      (s.macroCurrent + 1) * 2 ≤ macroMax o.macroInversion := by
    rcases h.current with h0 | hc
    · omega
    · exact hc
  have hne : ¬ o.macroInversion.isEmpty = true := by
    intro he
    rw [List.isEmpty_iff.mp he] at hmax
    exact absurd hmax (by simp [macroMax])
  have hinv := invertMacros_progress dispatch modifierState
    { s with offered := s.offered ++ [p] } p ht hcur
  unfold offer
  dsimp only
  rw [if_neg hne]
  rcases hr : invertMacros dispatch modifierState o { s with offered := s.offered ++ [p] } p with
    ⟨t, _ | _⟩
  · rw [hr] at hinv
    rcases hinv with hlt | ⟨hb, -⟩
    · left
      show s.log.length < (t.log ++ [_]).length
      rw [List.length_append]
      exact Nat.lt_succ_of_lt hlt
    · cases hb
  · rw [hr] at hinv
    exact hinv.imp_right And.right

/-- Packets offered in a row are held only until something is dispatched. -/
theorem Accounted.offerAll_progress (h : s.Accounted o) (hcur : 0 < s.macroCurrent)
    (ps : List MacroPacket) :
    s.log.length < (s.offerAll dispatch modifierState o ps).log.length ∨
      (s.offerAll dispatch modifierState o ps).macroCurrent = s.macroCurrent + ps.length := by
  induction ps generalizing s with
  | nil => exact .inr rfl
  | cons p ps ih =>
      have hmono := (blind_offerAll dispatch modifierState o ps).log_extends
        (s.offer dispatch modifierState o p)
      rcases h.offer_progress dispatch modifierState hcur p with
        hlt | heq
      · exact .inl (lt_of_lt_of_le hlt hmono.length_le)
      · have hs : (s.offer dispatch modifierState o p).Accounted o := h.offerAll [p]
        rcases ih hs (by omega) with hlt | heq'
        · have hpre := (blind_offer dispatch modifierState o p).log_extends s
          exact .inl (lt_of_le_of_lt hpre.length_le hlt)
        · right
          refine heq'.trans ?_
          rw [heq, List.length_cons]
          omega

/-- There is no room to hold more packets than the longest macro. -/
theorem offers_progress (h : s.Accounted o) (hcur : 0 < s.macroCurrent) (ps : List MacroPacket)
    (hps : macroMax o.macroInversion ≤ ps.length) :
    s.log.length < (s.offerAll dispatch modifierState o ps).log.length := by
  rcases h.offerAll_progress dispatch modifierState hcur ps with
    hlt | heq
  · exact hlt
  · have hs : (s.offerAll dispatch modifierState o ps).Accounted o := h.offerAll ps
    rcases hs.current with h0 | ⟨-, hmax⟩
    · omega
    · omega

end progress

end State

end

/-! ### The packets of a run -/

/-- The packets that a run offers when it starts with these packets in the ring: those that wait when
the ring is drained, less the reset packets, and those that notifications make. -/
def offeredOf : List MacroPacket → List Action → List MacroPacket
  | _, [] => []
  | ring, .arrive p :: actions => offeredOf (ring ++ [p]) actions
  | ring, .packetReady :: actions => ring.filter (fun p => p.key.1 ≠ 0) ++ offeredOf [] actions
  | ring, .notification arg time₁ time₂ :: actions =>
      State.notified arg time₁ time₂ ++ offeredOf ring actions
  | ring, .timer _ :: actions => ring.filter (fun p => p.key.1 ≠ 0) ++ offeredOf [] actions

section

variable {σ : Type} (dispatch : σ → MacroPacket → σ) (modifierState : σ → UInt16)

theorem run_offered (o : Settings) (actions : List Action) (s : State σ) :
    (run dispatch modifierState o s actions).offered = s.offered ++ offeredOf s.ring actions := by
  induction actions generalizing s with
  | nil => exact (List.append_nil _).symm
  | cons a actions ih =>
      refine (ih (step dispatch modifierState o s a)).trans ?_
      cases a with
      | arrive p => rfl
      | packetReady =>
          obtain ⟨hring, hoffered⟩ := State.packetReady_offered dispatch modifierState o s
          rw [step, hring, hoffered, List.append_assoc]
          rfl
      | notification arg time₁ time₂ =>
          obtain ⟨hring, hoffered⟩ :=
            State.offerAll_offered dispatch modifierState o s (State.notified arg time₁ time₂)
          rw [step, State.notification_eq, hring, hoffered, List.append_assoc]
          rfl
      | timer now =>
          obtain ⟨hring, hoffered⟩ := State.onMacroTimer_offered dispatch modifierState o s now
          rw [step, hring, hoffered, List.append_assoc]
          rfl

/-- In every run: the packets passed to `dispatchKeyboardEventWithPacket` are those of the log;
the packets that come in are the packets dispatched, with the packets that a macro absorbed in the
place of its output, followed by the packets held; in terms of keys, the output of a macro stands for
the sequence of the macro; and every write to `_macroBuffer` is inside its allocation. -/
theorem invert_preserves (entries : List (Option (List UInt8))) (macroTimer : Bool)
    (macroMaxTime : UInt64) (keyboard : σ) (macroBuffer : ℕ → MacroPacket) (actions : List Action) :
    let o : Settings := ⟨loadMacroData entries, macroTimer, macroMaxTime⟩
    let s := run dispatch modifierState o (initial keyboard macroBuffer) actions
    s.keyboard = (s.log.map Entry.packet).foldl dispatch keyboard ∧
      s.offered = offeredOf [] actions ∧
      s.offered = s.log.flatMap Entry.source ++ s.held ∧
      s.offered.map MacroPacket.key = s.log.flatMap Entry.expand ++ s.held.map MacroPacket.key ∧
      ∀ w ∈ s.writes, w.1 + w.2 ≤ bufferBytes o.macroInversion := by
  intro o s
  have h : s.Kept dispatch keyboard o [] := kept_run dispatch modifierState o actions
    (kept_initial dispatch o keyboard macroBuffer)
  have hacc : s.offered = s.log.flatMap Entry.source ++ s.held := by
    rw [h.accounted, List.append_nil]
  refine ⟨h.dispatched, run_offered dispatch modifierState o actions _, hacc, ?_, h.writes⟩
  rw [hacc, List.map_append, List.map_flatMap]
  congr 1
  rw [List.flatMap_def, List.flatMap_def]
  congr 1
  exact List.map_congr_left (fun e he => (expand_eq (h.entries e he)).symm)

/-- A macro of two keys is completed by a notification, with a reset packet between the keys; a key that
is no part of it follows. -/
theorem invert_preserves_completed :
    let o : Settings := ⟨loadMacroData [none, some [0xFF, 0xFF, 0x02, 0x6E, 0, 0, 0, 0, 2, 1, 2, 2]],
      true, 1000⟩
    let actions : List Action := [.arrive ⟨(2, 1), 5⟩, .arrive ⟨(0, 1), 6⟩, .packetReady,
      .notification 0x0202 7 8, .notification 0x0310 9 10, .timer 2000]
    let s := run (fun l p => l ++ [p]) (fun _ => 0) o (initial [] fun _ => ⟨(0, 0), 0⟩) actions
    s.keyboard = (s.log.map Entry.packet).foldl (fun l p => l ++ [p]) [] ∧
      s.offered = offeredOf [] actions ∧
      s.offered = s.log.flatMap Entry.source ++ s.held ∧
      s.offered.map MacroPacket.key = s.log.flatMap Entry.expand ++ s.held.map MacroPacket.key ∧
      ∀ w ∈ s.writes, w.1 + w.2 ≤ bufferBytes o.macroInversion :=
  invert_preserves _ _ _ _ _ _ _ _

end

end VoodooPS2.Keyboard.Macros
