import Mathlib.Tactic

/-! # Texts that are read with reduced numbers

A reader finds numbers in a text, reduces them to the width of its variables, and takes what is in
range then.  `reduced_iff`: it takes exactly what the text says if no text has numbers that are in
range only when they have been reduced.  `loadsExactly_iff` goes from the entry that is read to the
table that it is written to. -/

namespace Reading

variable {T W M : Type*}

/-- A table is changed by the entry that the text gives, and by no other. -/
def LoadsExactly (apply : W → M → M) (load : M → M) (Valid : W → Prop) : Prop :=
  (∀ w, Valid w → load = apply w) ∧ ((¬ ∃ w, Valid w) → load = id)

theorem loadsExactly_iff {apply : W → M → M} (hinj : Function.Injective apply)
    (hchange : ∀ w, apply w ≠ id) {entry : Option W} {Valid : W → Prop} :
    LoadsExactly apply (entry.elim id apply) Valid ↔ ∀ w, entry = some w ↔ Valid w := by
  have hsome {w : W} (h : entry.elim id apply = apply w) : entry = some w := by
    cases entry with
    | none => exact absurd h.symm (hchange w)
    | some v => exact congrArg some (hinj h)
  constructor
  · rintro ⟨hvalid, hnone⟩ w
    constructor
    · rintro rfl
      by_contra hw
      have hex : ∃ v, Valid v := by
        by_contra hex
        exact hchange w (hnone hex)
      obtain ⟨v, hv⟩ := hex
      obtain rfl : w = v := Option.some.inj (hsome (hvalid v hv))
      exact hw hv
    · exact fun hw => hsome (hvalid w hw)
  · intro h
    constructor
    · intro w hw
      rw [(h w).mpr hw]
      rfl
    · intro hnone
      cases entry with
      | none => rfl
      | some w => exact absurd ⟨w, (h w).mp rfl⟩ hnone

/-- A reader of reduced numbers reads what the text says. -/
theorem reduced_iff {Reads InRange : T → Prop} {reduce : T → T} {out : T → W}
    (hunique : ∀ t t', Reads t → Reads t' → t = t') (hkeep : ∀ t, InRange t → reduce t = t)
    {entry : Option W}
    (hentry : ∀ w, entry = some w ↔ ∃ t, Reads t ∧ InRange (reduce t) ∧ w = out (reduce t)) :
    (∀ w, entry = some w ↔ ∃ t, Reads t ∧ InRange t ∧ w = out t) ↔
      ∀ t, Reads t → InRange (reduce t) → InRange t := by
  constructor
  · intro h t ht hr
    obtain ⟨t', ht', hr', -⟩ := (h _).mp ((hentry _).mpr ⟨t, ht, hr, rfl⟩)
    exact hunique t' t ht' ht ▸ hr'
  · intro h w
    rw [hentry]
    constructor
    · rintro ⟨t, ht, hr, rfl⟩
      have hin := h t ht hr
      exact ⟨t, ht, hin, by rw [hkeep t hin]⟩
    · rintro ⟨t, ht, hin, rfl⟩
      exact ⟨t, ht, by rwa [hkeep t hin], by rw [hkeep t hin]⟩

end Reading
