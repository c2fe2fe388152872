import Mathlib.Tactic

/-! # Byte-at-a-time framing with an escape pair

A framer cuts a stream of symbols into frames of `len` symbols.  A symbol is accepted at its
position in the frame by `ok`; a symbol that is not accepted is dropped together with the
frame under construction.  Before that test the framer watches for an escape pair: a symbol
`second` right after the symbol `first` is taken out of the stream, whatever its position in
the frame, and restarts the frame.  The escaped symbol is not remembered as the last one
seen.

`emitted_iff` is the law of such a framer: on a list of frames, each accepted symbol by
symbol, it emits exactly these frames if and only if none of them contains the escape pair.
One direction follows a frame through the framer (`run_frame`); the other counts symbols:
every symbol adds at most one to `weight`, and adds one at every step only if no symbol was
dropped (`no_escape_of_weight`). -/

namespace Framing

variable {α : Type*} [DecidableEq α]

/-- A framer: frame length, acceptance by position, and the escape pair. -/
structure Format (α : Type*) where
  len : ℕ
  ok : ℕ → α → Bool
  first : α
  second : α

structure State (α : Type*) where
  last : α
  acc : List α
  emitted : List (List α)
  rejected : ℕ

variable (f : Format α)

/-- One symbol. -/
def step (s : State α) (b : α) : State α :=
  if s.last = f.first ∧ b = f.second then
    { s with acc := [], rejected := s.rejected + 1 }
  else if f.ok s.acc.length b then
    if s.acc.length + 1 = f.len then
      { s with last := b, acc := [], emitted := s.emitted ++ [s.acc ++ [b]] }
    else { s with last := b, acc := s.acc ++ [b] }
  else { s with last := b, acc := [], rejected := s.rejected + 1 }

def run (s : State α) (bs : List α) : State α := bs.foldl (step f) s

@[simp] theorem run_nil (s : State α) : run f s [] = s := rfl

@[simp] theorem run_cons (s : State α) (b : α) (bs : List α) :
    run f s (b :: bs) = run f (step f s b) bs := rfl

theorem run_append (s : State α) (bs bs' : List α) :
    run f s (bs ++ bs') = run f (run f s bs) bs' :=
  List.foldl_append

/-- A frame whose symbols are accepted at their positions. -/
structure WellFormed (frame : List α) : Prop where
  length_eq : frame.length = f.len
  ok_get : ∀ i (h : i < frame.length), f.ok i frame[i] = true

/-- The escape pair does not occur in the frame. -/
def EscapeFree (frame : List α) : Prop := ¬ [f.first, f.second] <:+: frame

variable {f}

/-! ### A frame without the escape pair -/

/-- Feeding the rest of a frame whose beginning is already accumulated. -/
theorem run_frame (hz : f.ok 0 f.second = false) {frame : List α} (hw : WellFormed f frame)
    (he : EscapeFree f frame) (post : List α) : ∀ (pre : List α) (s : State α),
    frame = pre ++ post → s.acc = pre → post ≠ [] → (∀ l, pre.getLast? = some l → s.last = l) →
    (run f s post).acc = [] ∧ (run f s post).emitted = s.emitted ++ [frame] ∧
      (run f s post).rejected = s.rejected := by
  induction post with
  | nil => intro pre s _ _ h; exact absurd rfl h
  | cons b post ih =>
      intro pre s hsplit hacc _ hlast
      have hlen : pre.length < frame.length := by rw [hsplit]; simp
      have hb : frame[pre.length] = b := by simp [hsplit]
      have hok : f.ok s.acc.length b = true := by
        rw [hacc, ← hb]; exact hw.ok_get _ hlen
      have hne : ¬ (s.last = f.first ∧ b = f.second) := by
        rintro ⟨h1, h2⟩
        rcases List.eq_nil_or_concat pre with rfl | ⟨pre', l, rfl⟩
        · rw [hacc, h2] at hok
          rw [List.length_nil, hz] at hok
          exact Bool.false_ne_true hok
        · have hl := hlast l (by simp)
          apply he
          refine ⟨pre', post, ?_⟩
          rw [hsplit, ← h1, ← h2, hl]
          simp
      have hstep : step f s b =
          if s.acc.length + 1 = f.len then
            { s with last := b, acc := [], emitted := s.emitted ++ [s.acc ++ [b]] }
          else { s with last := b, acc := s.acc ++ [b] } := by
        unfold step
        rw [if_neg hne, if_pos hok]
      rw [run_cons, hstep]
      have hfl : frame.length = pre.length + 1 + post.length := by rw [hsplit]; simp; omega
      by_cases hpost : post = []
      · have hfull : s.acc.length + 1 = f.len := by
          rw [hacc, ← hw.length_eq, hfl, hpost]; rfl
        rw [if_pos hfull, hpost, run_nil]
        refine ⟨rfl, ?_, rfl⟩
        show s.emitted ++ [s.acc ++ [b]] = s.emitted ++ [frame]
        rw [hacc, hsplit, hpost]
      · have hpos := List.length_pos_iff.mpr hpost
        have hnot : ¬ s.acc.length + 1 = f.len := by
          rw [hacc, ← hw.length_eq, hfl]; omega
        rw [if_neg hnot]
        exact ih (pre ++ [b]) _ (by rw [hsplit]; simp) (by simp [hacc]) hpost (by simp)

/-- Frames without the escape pair all come out, in order, and nothing is rejected. -/
theorem run_flatten (hlen : 0 < f.len) (hz : f.ok 0 f.second = false) :
    ∀ (frames : List (List α)) (s : State α), s.acc = [] →
      (∀ frame ∈ frames, WellFormed f frame) → (∀ frame ∈ frames, EscapeFree f frame) →
      (run f s frames.flatten).acc = [] ∧
      (run f s frames.flatten).emitted = s.emitted ++ frames ∧
      (run f s frames.flatten).rejected = s.rejected
  | [], s, hacc, _, _ => by simp [hacc]
  | frame :: frames, s, hacc, hw, he => by
      have hwf := hw frame List.mem_cons_self
      have hne : frame ≠ [] := by
        intro h0
        have := hwf.length_eq
        rw [h0, List.length_nil] at this
        omega
      obtain ⟨h1, h2, h3⟩ := run_frame hz hwf (he frame List.mem_cons_self) frame [] s rfl hacc hne
        (by simp)
      obtain ⟨g1, g2, g3⟩ := run_flatten hlen hz frames (run f s frame) h1
        (fun x hx => hw x (List.mem_cons_of_mem _ hx)) (fun x hx => he x (List.mem_cons_of_mem _ hx))
      rw [List.flatten_cons, run_append]
      refine ⟨g1, ?_, g3.trans h3⟩
      rw [g2, h2, List.append_assoc, List.singleton_append]

/-! ### Counting symbols -/

/-- Symbols accounted for: those of emitted frames and those of the open one. -/
def weight (f : Format α) (s : State α) : ℕ := f.len * s.emitted.length + s.acc.length

theorem weight_step_le (s : State α) (b : α) : weight f (step f s b) ≤ weight f s + 1 := by
  unfold weight step
  split_ifs with h1 h2 h3
  · simp only [List.length_nil]; omega
  · simp only [List.length_append, List.length_cons, List.length_nil, Nat.mul_add]; omega
  · simp only [List.length_append, List.length_cons, List.length_nil]; omega
  · simp only [List.length_nil]; omega

theorem weight_run_le (bs : List α) (s : State α) : weight f (run f s bs) ≤ weight f s + bs.length := by
  induction bs generalizing s with
  | nil => simp
  | cons b bs ih =>
      have h1 := ih (step f s b)
      have h2 := weight_step_le (f := f) s b
      simp only [run_cons, List.length_cons]
      omega

/-- What is emitted stays. -/
theorem emitted_grows (bs : List α) (s : State α) : s.emitted <+: (run f s bs).emitted := by
  induction bs generalizing s with
  | nil => exact List.prefix_rfl
  | cons b bs ih =>
      have hone : s.emitted <+: (step f s b).emitted := by
        unfold step
        split_ifs
        · exact List.prefix_rfl
        · exact List.prefix_append _ _
        · exact List.prefix_rfl
        · exact List.prefix_rfl
      exact hone.trans (ih (step f s b))

/-- Fewer symbols than a frame has complete none. -/
theorem emitted_of_short {s : State α} (hacc : s.acc = []) {bs : List α} (hlen : bs.length < f.len) :
    (run f s bs).emitted = s.emitted := by
  have hle := weight_run_le (f := f) bs s
  unfold weight at hle
  rw [hacc, List.length_nil] at hle
  refine ((emitted_grows bs s).eq_of_length_le ?_).symm
  by_contra hlonger
  have hmul := Nat.mul_le_mul_left f.len (Nat.succ_le_of_lt (Nat.lt_of_not_le hlonger))
  rw [Nat.mul_succ] at hmul
  omega

/-- A step that accounts for its symbol did not meet the escape pair. -/
theorem step_of_weight {s : State α} {b : α} (h : weight f (step f s b) = weight f s + 1) :
    ¬ (s.last = f.first ∧ b = f.second) ∧ (step f s b).last = b := by
  by_cases hesc : s.last = f.first ∧ b = f.second
  · exfalso
    unfold weight step at h
    rw [if_pos hesc] at h
    simp only [List.length_nil] at h
    omega
  · refine ⟨hesc, ?_⟩
    unfold step
    rw [if_neg hesc]
    split_ifs <;> rfl

/-- If every symbol is accounted for, the escape pair was not in the stream. -/
theorem no_escape_of_weight (bs : List α) (s : State α)
    (h : weight f (run f s bs) = weight f s + bs.length) :
    ¬ [f.first, f.second] <:+: s.last :: bs := by
  induction bs generalizing s with
  | nil =>
      intro hin
      have := hin.length_le
      simp at this
  | cons b bs ih =>
      have hle := weight_run_le (f := f) bs (step f s b)
      have hst := weight_step_le (f := f) s b
      rw [run_cons, List.length_cons] at h
      obtain ⟨hesc, hlast⟩ := step_of_weight (f := f) (s := s) (b := b) (by omega)
      have hrest := ih (step f s b) (by omega)
      rw [hlast] at hrest
      intro hin
      rcases List.infix_cons_iff.mp hin with hp | hi
      · apply hesc
        obtain ⟨t, ht⟩ := hp
        simp only [List.cons_append, List.nil_append, List.cons.injEq] at ht
        exact ⟨ht.1.symm, ht.2.1.symm⟩
      · exact hrest hi

omit [DecidableEq α] in
theorem flatten_length {frames : List (List α)} (hw : ∀ frame ∈ frames, WellFormed f frame) :
    frames.flatten.length = f.len * frames.length := by
  induction frames with
  | nil => simp
  | cons frame frames ih =>
      rw [List.flatten_cons, List.length_append, (hw frame List.mem_cons_self).length_eq,
        ih (fun x hx => hw x (List.mem_cons_of_mem _ hx)), List.length_cons]
      ring

/-- **Framing is lossless exactly on frames without the escape pair.** -/
theorem emitted_iff (hlen : 0 < f.len) (hz : f.ok 0 f.second = false) {frames : List (List α)}
    (hw : ∀ frame ∈ frames, WellFormed f frame) {s : State α} (hacc : s.acc = []) :
    (run f s frames.flatten).emitted = s.emitted ++ frames ↔
      ∀ frame ∈ frames, EscapeFree f frame := by
  constructor
  · intro hem frame hmem hin
    have hle := weight_run_le (f := f) frames.flatten s
    have hge : weight f s + frames.flatten.length ≤ weight f (run f s frames.flatten) := by
      unfold weight
      rw [hem, hacc, flatten_length hw, List.length_append, Nat.mul_add]
      simp only [List.length_nil]
      omega
    have hno := no_escape_of_weight (f := f) frames.flatten s (by omega)
    exact hno ((hin.trans (List.infix_of_mem_flatten hmem)).trans (List.suffix_cons _ _).isInfix)
  · intro he
    exact (run_flatten hlen hz frames s hacc hw he).2.1

end Framing
