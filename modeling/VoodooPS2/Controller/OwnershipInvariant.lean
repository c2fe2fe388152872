import VoodooPS2.Controller.OwnershipQueue

/-! # The invariant of ownership

`Inv` says what became of the memory of every request: it is freed when `processRequest` is done with
it, if it is on the heap, and not before.  Each step keeps it (`Inv.step`), unless a driver goes on
with a heap request after `submitRequestAndBlock`. -/

namespace VoodooPS2.Controller.Ownership

open Queue

/-! ### What a step can do -/

/-- What drivers and the controller can do, and when. -/
inductive Step (body : ℕ → PS2Request) (s : State) : Action → State → Prop
  | allocate {r : ℕ} (hr : s.style r = none) (style : Style) :
      Step body s (.allocate r style)
        { s with
          style := Function.update s.style r (some style)
          memory := s.memory ++ [if style.onHeap then .allocated r else .declared r, .accessed r] }
  | submitRequest {r : ℕ} {style : Style} {queue : Queue.State} (hs : s.style r = some style)
      (hb : style.blocks = false) (hq : s.queue.step body (.submit r) = some queue) :
      Step body s (.submitRequest r)
        { s with
          queue := queue
          memory := s.memory ++ (s.queue.requestQueue.getLast?.toList ++ [r]).map .accessed }
  | submitRequestAndBlock {b : ℕ} {style : Style} {queue : Queue.State}
      (hs : s.style b = some style) (hb : style.blocks = true)
      (hq : s.queue.step body (.call b) = some queue) :
      Step body s (.submitRequestAndBlock b) { s with queue := queue }
  | controller {a : Queue.Action} {queue : Queue.State} (hnew : queuedBy a = [] ∧ calledBy a = [])
      (hq : s.queue.step body a = some queue) :
      Step body s (.controller a)
        { s with queue := queue, memory := s.memory ++ effects s.style s.queue a }
  | readResults {b : ℕ} (hb : b ∈ Queue.returned s.queue.log) (hnot : b ∉ s.released) :
      Step body s (.readResults b) (s.remember [.accessed b])
  | release {b : ℕ} (hb : b ∈ Queue.returned s.queue.log) (hnot : b ∉ s.released) :
      Step body s (.release b)
        { s with
          released := b :: s.released
          memory := s.memory ++ [if (s.style b).any Style.onHeap then .freed b else .left b] }

theorem step_cases {body : ℕ → PS2Request} {s s' : State} {a : Action}
    (hs : s.step body a = some s') : Step body s a s' := by
  cases a with
  | allocate r style =>
      by_cases hr : s.style r = none
      · rw [State.step, if_pos hr] at hs
        cases hs
        exact .allocate hr style
      · rw [State.step, if_neg hr] at hs
        cases hs
  | submitRequest r =>
      simp only [State.step] at hs
      split_ifs at hs with hstyle
      obtain ⟨queue, hq, rfl⟩ := Option.map_eq_some_iff.mp hs
      obtain ⟨style, hst, hb⟩ := (Option.any_eq_true _ _).mp hstyle
      exact .submitRequest hst (by simpa using hb) hq
  | submitRequestAndBlock b =>
      simp only [State.step] at hs
      split_ifs at hs with hstyle
      obtain ⟨queue, hq, rfl⟩ := Option.map_eq_some_iff.mp hs
      obtain ⟨style, hst, hb⟩ := (Option.any_eq_true _ _).mp hstyle
      exact .submitRequestAndBlock hst hb hq
  | controller a =>
      simp only [State.step] at hs
      cases a with
      | submit r => cases hs
      | call b => cases hs
      | _ =>
          obtain ⟨queue, hq, rfl⟩ := Option.map_eq_some_iff.mp hs
          exact .controller ⟨rfl, rfl⟩ hq
  | readResults b =>
      simp only [State.step] at hs
      split_ifs at hs with hb
      cases hs
      exact .readResults hb.1 hb.2
  | release b =>
      by_cases hb : b ∈ Queue.returned s.queue.log ∧ b ∉ s.released
      · rw [State.step, if_pos hb] at hs
        cases hs
        exact .release hb.1 hb.2
      · rw [State.step, if_neg hb] at hs
        cases hs

/-! ### The invariant -/

/-- Where every request is and what became of its memory, as long as no driver has resumed with a
heap request that was submitted with `submitRequestAndBlock`. -/
structure Inv (s : State) : Prop where
  queue : Queue.Inv s.queue
  enqueued : ∀ r ∈ enqueued s.queue.log, ∃ style, s.style r = some style ∧ style.blocks = false
  called : ∀ b ∈ called s.queue.log, ∃ style, s.style b = some style ∧ style.blocks = true
  returned : ∀ b ∈ returned s.queue.log, Finished s.queue b
  made : ∀ r style, s.style r = some style →
    (if style.onHeap then MemEvent.allocated r else .declared r) ∈ s.memory
  /-- only finished requests on the heap are freed -/
  freed : ∀ r, .freed r ∈ s.memory → Finished s.queue r ∧ (s.style r).any Style.onHeap = true
  /-- and all of them -/
  finished : ∀ r style, Finished s.queue r → s.style r = some style → style.onHeap = true →
    .freed r ∈ s.memory
  left : ∀ r, .left r ∈ s.memory → r ∈ s.released
  released : ∀ b ∈ s.released, Finished s.queue b
  lawful : History.Lawful Law s.memory

theorem inv_initial (k : Kbc) : Inv (.initial k) where
  queue := Queue.inv_initial k
  enqueued := by intro r hr; cases hr
  called := by intro r hr; cases hr
  returned := by intro r hr; cases hr
  made := by intro r style h; cases h
  freed := by intro r hr; cases hr
  finished := by rintro r style ⟨hr, -⟩; cases hr
  left := by intro r hr; cases hr
  released := by intro b hb; cases hb
  lawful := History.lawful_nil

/-- Accesses to requests that are there, of which none is gone. -/
theorem lawful_accesses {log : List MemEvent} (h : History.Lawful Law log) (rs : List ℕ)
    (hrs : ∀ r ∈ rs, Law log (.accessed r)) :
    History.Lawful Law (log ++ rs.map .accessed) := by
  refine h.append _ fun pre e post hsplit => ?_
  have hall : ∀ x ∈ rs.map MemEvent.accessed, ∃ r ∈ rs, x = .accessed r := by
    intro x hx
    obtain ⟨r, hr, rfl⟩ := List.mem_map.mp hx
    exact ⟨r, hr, rfl⟩
  obtain ⟨r, hr, rfl⟩ := hall e (by rw [hsplit]; simp)
  have hpre : ∀ x ∈ pre, ∃ r ∈ rs, x = .accessed r := fun x hx =>
    hall x (by rw [hsplit]; simp [hx])
  obtain ⟨hmade, hfreed, hleft⟩ := hrs r hr
  refine ⟨?_, ?_, ?_⟩
  · exact hmade.imp (List.mem_append_left _) (List.mem_append_left _)
  · intro hm
    rcases List.mem_append.mp hm with hm | hm
    · exact hfreed hm
    · obtain ⟨r', -, hr'⟩ := hpre _ hm
      cases hr'
  · intro hm
    rcases List.mem_append.mp hm with hm | hm
    · exact hleft hm
    · obtain ⟨r', -, hr'⟩ := hpre _ hm
      cases hr'

theorem mem_complete {style : Style} {r : ℕ} {e : MemEvent} (h : e ∈ complete style r) :
    e = .accessed r ∨ (e = .freed r ∧ style.onHeap = true) := by
  cases style with
  | fireAndForget => exact .inr ⟨List.mem_singleton.mp h, rfl⟩
  | completion =>
      rcases List.mem_cons.mp h with h | h
      · exact .inl h
      · exact .inr ⟨List.mem_singleton.mp h, rfl⟩
  | blocking => exact .inr ⟨List.mem_singleton.mp h, rfl⟩
  | stack => cases h

theorem freed_mem_complete {style : Style} (r : ℕ) (h : style.onHeap = true) :
    .freed r ∈ complete style r := by
  cases style with
  | fireAndForget => exact List.mem_singleton.mpr rfl
  | completion => exact List.mem_cons_of_mem _ (List.mem_singleton.mpr rfl)
  | blocking => exact List.mem_singleton.mpr rfl
  | stack => cases h

/-- The end of a request that is still there. -/
theorem lawful_complete {log : List MemEvent} (h : History.Lawful Law log) {style : Style} {r : ℕ}
    (hr : Law log (.accessed r)) (hmade : style.onHeap = true → .allocated r ∈ log) :
    History.Lawful Law (log ++ complete style r) := by
  obtain ⟨hthere, hfreed, hleft⟩ := hr
  cases style with
  | fireAndForget => exact h.concat ⟨hmade rfl, hfreed⟩
  | completion =>
      have hread : History.Lawful Law (log ++ [.accessed r]) := h.concat ⟨hthere, hfreed, hleft⟩
      have hfree : Law (log ++ [.accessed r]) (.freed r) :=
        ⟨List.mem_append_left _ (hmade rfl), by simpa using hfreed⟩
      have hboth := hread.concat hfree
      rw [List.append_assoc] at hboth
      exact hboth
  | blocking => exact h.concat ⟨hmade rfl, hfreed⟩
  | stack =>
      have hnone : complete .stack r = [] := rfl
      rw [hnone, List.append_nil]
      exact h

theorem freed_not_mem_made (style : Style) (r x : ℕ) :
    .freed x ∉ [if style.onHeap then MemEvent.allocated r else .declared r, .accessed r] := by
  split <;> simp

theorem left_not_mem_made (style : Style) (r x : ℕ) :
    .left x ∉ [if style.onHeap then MemEvent.allocated r else .declared r, .accessed r] := by
  split <;> simp

/-- A new request is filled in. -/
theorem lawful_made {log : List MemEvent} (h : History.Lawful Law log) (style : Style) {r : ℕ}
    (hfreed : .freed r ∉ log) (hleft : .left r ∉ log) :
    History.Lawful Law
      (log ++ [if style.onHeap then .allocated r else .declared r, .accessed r]) := by
  have hfirst : History.Lawful Law
      (log ++ [if style.onHeap then .allocated r else .declared r]) := by
    refine h.concat ?_
    split <;> trivial
  have hsecond : Law (log ++ [if style.onHeap then .allocated r else .declared r])
      (.accessed r) := by
    split
    · exact ⟨.inl (by simp), by simpa using hfreed, by simpa using hleft⟩
    · exact ⟨.inr (by simp), by simpa using hfreed, by simpa using hleft⟩
  have hboth := hfirst.concat hsecond
  rw [List.append_assoc] at hboth
  exact hboth

namespace Inv

variable {body : ℕ → PS2Request} {s : State}

/-- The driver that submitted a request chose its style. -/
theorem style_of_submitted (h : Inv s) {r : ℕ}
    (hr : r ∈ Queue.enqueued s.queue.log ++ Queue.called s.queue.log) :
    ∃ style, s.style r = some style := by
  rcases List.mem_append.mp hr with hr | hr
  · exact (h.enqueued r hr).imp fun _ hs => hs.1
  · exact (h.called r hr).imp fun _ hs => hs.1

/-- No request is finished before it is made. -/
theorem not_finished_of_unknown (h : Inv s) {r : ℕ} (hr : s.style r = none) :
    ¬ Finished s.queue r := by
  intro hf
  obtain ⟨style, hs⟩ := h.style_of_submitted (submitted_of_handed h.queue hf.1)
  rw [hr] at hs
  cases hs

/-- No request is finished before it is submitted. -/
theorem not_finished_of_fresh (h : Inv s) {r : ℕ} (hr : s.queue.Fresh r) :
    ¬ Finished s.queue r := by
  intro hf
  rcases List.mem_append.mp (submitted_of_handed h.queue hf.1) with hm | hm
  · exact hr.1 hm
  · exact hr.2 hm

/-- A request that is not finished is not gone. -/
theorem not_gone (h : Inv s) {r : ℕ} (hf : ¬ Finished s.queue r) :
    .freed r ∉ s.memory ∧ .left r ∉ s.memory :=
  ⟨fun hm => hf (h.freed r hm).1, fun hm => hf (h.released r (h.left r hm))⟩

/-- A request that was made and is not finished is there. -/
theorem there_of_style (h : Inv s) {r : ℕ} {style : Style} (hs : s.style r = some style)
    (hf : ¬ Finished s.queue r) : Law s.memory (.accessed r) := by
  refine ⟨?_, h.not_gone hf⟩
  have hmade := h.made r style hs
  split at hmade
  · exact .inl hmade
  · exact .inr hmade

/-- A request that was submitted and is not finished is there. -/
theorem there (h : Inv s) {r : ℕ}
    (hr : r ∈ Queue.enqueued s.queue.log ++ Queue.called s.queue.log)
    (hf : ¬ Finished s.queue r) : Law s.memory (.accessed r) := by
  obtain ⟨style, hs⟩ := h.style_of_submitted hr
  exact h.there_of_style hs hf

/-- The request in the gate is there, and its style is known. -/
theorem completing (h : Inv s) {a : Actor} {q : List ℕ} {o : Origin} {r : ℕ}
    (hg : s.queue.gate = .completing a q o r) :
    (∃ style, s.style r = some style) ∧ ¬ Finished s.queue r := by
  have hcur : s.queue.gate.current = some r := by rw [hg]; rfl
  refine ⟨h.style_of_submitted ?_, fun hf => hf.2 hcur⟩
  exact submitted_of_handed h.queue (List.mem_of_getLast? (h.queue.current r hcur).1)

/-- The effects of a step of the controller. -/
theorem mem_effects (h : Inv s) {a : Queue.Action} {e : MemEvent}
    (he : e ∈ effects s.style s.queue a) :
    (∃ r, e = .accessed r) ∨ ∃ r y q o style, e = .freed r ∧ a = .gateStep ∧
      s.queue.gate = .completing y q o r ∧ s.style r = some style ∧ style.onHeap = true := by
  unfold effects at he
  cases a with
  | gateStep =>
      rcases List.mem_append.mp he with he | he
      · obtain ⟨r, -, rfl⟩ := List.mem_map.mp he
        exact .inl ⟨r, rfl⟩
      · split at he
        · rename_i y q o r hg
          obtain ⟨⟨style, hstyle⟩, -⟩ := h.completing hg
          rw [hstyle] at he
          rcases mem_complete he with rfl | ⟨rfl, hheap⟩
          · exact .inl ⟨r, rfl⟩
          · exact .inr ⟨r, y, q, o, style, rfl, rfl, hg, hstyle, hheap⟩
        · cases he
  | _ => cases he

theorem lawful_effects (h : Inv s) (a : Queue.Action) :
    History.Lawful Law (s.memory ++ effects s.style s.queue a) := by
  unfold effects
  cases a with
  | gateStep =>
      have haccess : History.Lawful Law (s.memory ++ (touched s.queue).map .accessed) :=
        lawful_accesses h.lawful _ fun r hr =>
          h.there (submitted_of_touched h.queue hr) (not_finished_of_touched h.queue hr)
      rw [← List.append_assoc]
      split
      · rename_i y q o r hg
        obtain ⟨⟨style, hstyle⟩, hf⟩ := h.completing hg
        rw [hstyle]
        have htouched : r ∈ touched s.queue := by
          unfold touched
          rw [hg]
          exact List.mem_singleton.mpr rfl
        obtain ⟨hthere, hfreed, hleft⟩ := h.there (submitted_of_touched h.queue htouched) hf
        refine lawful_complete haccess ⟨?_, ?_, ?_⟩ fun hheap => ?_
        · exact hthere.imp (List.mem_append_left _) (List.mem_append_left _)
        · simpa using hfreed
        · simpa using hleft
        · have hmade := h.made r style hstyle
          rw [if_pos hheap] at hmade
          exact List.mem_append_left _ hmade
      · rw [List.append_nil]
        exact haccess
  | _ =>
      dsimp only
      rw [List.append_nil]
      exact h.lawful

theorem controller (h : Inv s) {a : Queue.Action} {queue : Queue.State}
    (hq : s.queue.step body a = some queue) (hnew : queuedBy a = [] ∧ calledBy a = []) :
    Inv { s with queue := queue, memory := s.memory ++ effects s.style s.queue a } := by
  obtain ⟨hen, hca, hre⟩ := log_step hq
  rw [hnew.1, List.append_nil] at hen
  rw [hnew.2, List.append_nil] at hca
  have hfin := finished_step h.queue hq
  exact {
    queue := h.queue.step hq
    enqueued := by
      intro r hr
      rw [hen] at hr
      exact h.enqueued r hr
    called := by
      intro b hb
      rw [hca] at hb
      exact h.called b hb
    returned := by
      intro b hb
      refine (hfin b).mpr ?_
      rcases hre b hb with hb | hb
      · exact .inl (h.returned b hb)
      · exact .inr hb
    made := fun r style hs => List.mem_append_left _ (h.made r style hs)
    freed := by
      intro r hr
      rcases List.mem_append.mp hr with hr | hr
      · exact ⟨(hfin r).mpr (.inl (h.freed r hr).1), (h.freed r hr).2⟩
      · rcases h.mem_effects hr with ⟨r', he⟩ | ⟨r', y, q, o, style, he, ha, hg, hs, hheap⟩
        · cases he
        · cases he
          refine ⟨(hfin r).mpr (.inr ⟨ha, y, q, o, hg⟩), ?_⟩
          show (s.style r).any Style.onHeap = true
          rw [hs]
          exact hheap
    finished := by
      intro r style hf hs hheap
      rcases (hfin r).mp hf with hf | ⟨rfl, y, q, o, hg⟩
      · exact List.mem_append_left _ (h.finished r style hf hs hheap)
      · refine List.mem_append_right _ (List.mem_append_right _ ?_)
        rw [hg]
        dsimp only
        have hs : s.style r = some style := hs
        rw [hs]
        exact freed_mem_complete r hheap
    left := by
      intro r hr
      rcases List.mem_append.mp hr with hr | hr
      · exact h.left r hr
      · rcases h.mem_effects hr with ⟨r', he⟩ | ⟨r', y, q, o, style, he, -⟩
        · cases he
        · cases he
    released := fun b hb => (hfin b).mpr (.inl (h.released b hb))
    lawful := h.lawful_effects a }

theorem submitRequest (h : Inv s) {r : ℕ} {style : Style} (hs : s.style r = some style)
    (hb : style.blocks = false) {queue : Queue.State}
    (hq : s.queue.step body (.submit r) = some queue) :
    Inv { s with
      queue := queue
      memory := s.memory ++ (s.queue.requestQueue.getLast?.toList ++ [r]).map .accessed } := by
  obtain ⟨hen, hca, hre⟩ := log_step hq
  have hfin := finished_step h.queue hq
  have hfresh : s.queue.Fresh r := by
    cases Queue.step_cases body hq with
    | submit hr => exact hr
  exact {
    queue := h.queue.step hq
    enqueued := by
      intro x hx
      rw [hen] at hx
      rcases List.mem_append.mp hx with hx | hx
      · exact h.enqueued x hx
      · obtain rfl := List.mem_singleton.mp hx
        exact ⟨style, hs, hb⟩
    called := by
      intro b hb
      rw [hca] at hb
      exact h.called b (by simpa [calledBy] using hb)
    returned := by
      intro b hb
      rcases hre b hb with hb | ⟨ha, -⟩
      · exact (hfin b).mpr (.inl (h.returned b hb))
      · cases ha
    made := fun r style hs => List.mem_append_left _ (h.made r style hs)
    freed := by
      intro x hx
      rcases List.mem_append.mp hx with hx | hx
      · exact ⟨(hfin x).mpr (.inl (h.freed x hx).1), (h.freed x hx).2⟩
      · simp at hx
    finished := by
      intro x st hf hst hheap
      rcases (hfin x).mp hf with hf | ⟨ha, -⟩
      · exact List.mem_append_left _ (h.finished x st hf hst hheap)
      · cases ha
    left := by
      intro x hx
      rcases List.mem_append.mp hx with hx | hx
      · exact h.left x hx
      · simp at hx
    released := fun b hb => (hfin b).mpr (.inl (h.released b hb))
    lawful := by
      refine lawful_accesses h.lawful _ fun x hx => ?_
      rcases List.mem_append.mp hx with hx | hx
      · have hmem : x ∈ s.queue.requestQueue := List.mem_of_getLast? (Option.mem_toList.mp hx)
        have hqueued : x ∈ s.queue.gate.localQueue ++ s.queue.requestQueue :=
          List.mem_append_right _ hmem
        refine h.there (List.mem_append_left _ ?_)
          fun hf => not_handed_of_queued h.queue hqueued hf.1
        rw [← h.queue.fifo]
        exact List.mem_append_right _ hmem
      · obtain rfl := List.mem_singleton.mp hx
        exact h.there_of_style hs (h.not_finished_of_fresh hfresh) }

theorem submitRequestAndBlock (h : Inv s) {b : ℕ} {style : Style} (hs : s.style b = some style)
    (hb : style.blocks = true) {queue : Queue.State}
    (hq : s.queue.step body (.call b) = some queue) : Inv { s with queue := queue } := by
  obtain ⟨hen, hca, hre⟩ := log_step hq
  have hfin := finished_step h.queue hq
  exact {
    queue := h.queue.step hq
    enqueued := by
      intro r hr
      rw [hen] at hr
      exact h.enqueued r (by simpa [queuedBy] using hr)
    called := by
      intro x hx
      rw [hca] at hx
      rcases List.mem_append.mp hx with hx | hx
      · exact h.called x hx
      · obtain rfl := List.mem_singleton.mp hx
        exact ⟨style, hs, hb⟩
    returned := by
      intro x hx
      rcases hre x hx with hx | ⟨ha, -⟩
      · exact (hfin x).mpr (.inl (h.returned x hx))
      · cases ha
    made := h.made
    freed := fun r hr => ⟨(hfin r).mpr (.inl (h.freed r hr).1), (h.freed r hr).2⟩
    finished := by
      intro x st hf hst hheap
      rcases (hfin x).mp hf with hf | ⟨ha, -⟩
      · exact h.finished x st hf hst hheap
      · cases ha
    left := h.left
    released := fun x hx => (hfin x).mpr (.inl (h.released x hx))
    lawful := h.lawful }

theorem allocate (h : Inv s) {r : ℕ} (hr : s.style r = none) (style : Style) :
    Inv { s with
      style := Function.update s.style r (some style)
      memory := s.memory ++ [if style.onHeap then .allocated r else .declared r, .accessed r] } := by
  have hunknown : ¬ Finished s.queue r := h.not_finished_of_unknown hr
  have hne : ∀ {x}, Finished s.queue x → x ≠ r := fun hf he => hunknown (he ▸ hf)
  have hother : ∀ {x st}, s.style x = some st →
      Function.update s.style r (some style) x = some st := by
    intro x st hx
    have hxr : x ≠ r := by
      rintro rfl
      rw [hr] at hx
      cases hx
    rw [Function.update_of_ne hxr]
    exact hx
  exact {
    queue := h.queue
    enqueued := fun x hx => (h.enqueued x hx).imp fun _ hs => ⟨hother hs.1, hs.2⟩
    called := fun x hx => (h.called x hx).imp fun _ hs => ⟨hother hs.1, hs.2⟩
    returned := h.returned
    made := by
      intro x st hst
      have hst : Function.update s.style r (some style) x = some st := hst
      by_cases hx : x = r
      · subst hx
        rw [Function.update_self] at hst
        cases hst
        exact List.mem_append_right _ List.mem_cons_self
      · rw [Function.update_of_ne hx] at hst
        exact List.mem_append_left _ (h.made x st hst)
    freed := by
      intro x hx
      rcases List.mem_append.mp hx with hx | hx
      · refine ⟨(h.freed x hx).1, ?_⟩
        show (Function.update s.style r (some style) x).any Style.onHeap = true
        rw [Function.update_of_ne (hne (h.freed x hx).1)]
        exact (h.freed x hx).2
      · exact absurd hx (freed_not_mem_made style r x)
    finished := by
      intro x st hf hst hheap
      have hst : Function.update s.style r (some style) x = some st := hst
      rw [Function.update_of_ne (hne hf)] at hst
      exact List.mem_append_left _ (h.finished x st hf hst hheap)
    left := by
      intro x hx
      rcases List.mem_append.mp hx with hx | hx
      · exact h.left x hx
      · exact absurd hx (left_not_mem_made style r x)
    released := h.released
    lawful := lawful_made h.lawful style (h.not_gone hunknown).1 (h.not_gone hunknown).2 }

/-- A request whose call has returned is of one of the blocking styles. -/
theorem style_of_returned (h : Inv s) {b : ℕ} (hb : b ∈ Queue.returned s.queue.log) :
    s.style b = some .blocking ∨ s.style b = some .stack := by
  have hhanded : b ∈ handedBlocking s.queue.log :=
    h.queue.returns.mem_iff.mpr (List.mem_append_left _ hb)
  obtain ⟨style, hs, hblocks⟩ := h.called b (h.queue.calls.mem_iff.mpr (by simp [hhanded]))
  cases style with
  | fireAndForget => cases hblocks
  | completion => cases hblocks
  | blocking => exact .inl hs
  | stack => exact .inr hs

theorem readResults (h : Inv s) {b : ℕ} (hnot : b ∉ s.released)
    (hs : s.style b = some .stack) : Inv (s.remember [.accessed b]) where
  queue := h.queue
  enqueued := h.enqueued
  called := h.called
  returned := h.returned
  made := fun r style hs => List.mem_append_left _ (h.made r style hs)
  freed := fun r hr => h.freed r (by simpa [State.remember] using hr)
  finished := fun r style hf hs hheap => List.mem_append_left _ (h.finished r style hf hs hheap)
  left := fun r hr => h.left r (by simpa [State.remember] using hr)
  released := h.released
  lawful := by
    refine h.lawful.concat ⟨.inr (h.made b .stack hs), fun hm => ?_, fun hm => hnot (h.left b hm)⟩
    have hheap := (h.freed b hm).2
    rw [hs] at hheap
    cases hheap

theorem release (h : Inv s) {b : ℕ} (hb : b ∈ Queue.returned s.queue.log) :
    Inv { s with released := b :: s.released, memory := s.memory ++ [.left b] } where
  queue := h.queue
  enqueued := h.enqueued
  called := h.called
  returned := h.returned
  made := fun r style hs => List.mem_append_left _ (h.made r style hs)
  freed := fun r hr => h.freed r (by simpa using hr)
  finished := fun r style hf hs hheap => List.mem_append_left _ (h.finished r style hf hs hheap)
  left := by
    intro r hr
    rcases List.mem_append.mp hr with hr | hr
    · exact List.mem_cons_of_mem _ (h.left r hr)
    · cases List.mem_singleton.mp hr
      exact List.mem_cons_self
  released := by
    intro r hr
    rcases List.mem_cons.mp hr with rfl | hr
    · exact h.returned r hb
    · exact h.released r hr
  lawful := h.lawful.concat trivial

/-- Every step that does not resume a freed request keeps the invariant. -/
theorem step (h : Inv s) {a : Action} (ha : NotResumed s a) {s' : State}
    (hs : s.step body a = some s') : Inv s' := by
  cases step_cases hs with
  | allocate hr style => exact h.allocate hr style
  | submitRequest hst hb hq => exact h.submitRequest hst hb hq
  | submitRequestAndBlock hst hb hq => exact h.submitRequestAndBlock hst hb hq
  | controller hnew hq => exact h.controller hq hnew
  | readResults hb hnot => exact h.readResults hnot ((h.style_of_returned hb).resolve_left ha)
  | @release b hb hnot =>
      have hst : s.style b = some .stack := (h.style_of_returned hb).resolve_left ha
      have hheap : (s.style b).any Style.onHeap = false := by rw [hst]; rfl
      rw [hheap]
      exact h.release hb

end Inv

end VoodooPS2.Controller.Ownership
