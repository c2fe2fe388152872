import Mathlib.Data.List.Pairwise
import Mathlib.Data.List.Infix

/-! # Words of which none begins another

A list of things, each with its word.  If no word of the list is a prefix of another one, a word that
begins one of them is that one. -/

variable {W α : Type*} {word : W → List α} {ws : List W} {v w : W}

/-- No word of the list is a prefix of the word at another place of the list. -/
def PrefixFree (word : W → List α) (ws : List W) : Prop :=
  ws.Pairwise fun v w => ¬ word v <+: word w ∧ ¬ word w <+: word v

namespace PrefixFree

instance [DecidableEq α] (word : W → List α) (ws : List W) : Decidable (PrefixFree word ws) :=
  inferInstanceAs (Decidable (List.Pairwise _ ws))

/-- A word that begins one of the list is that one. -/
theorem eq_of_prefix (h : PrefixFree word ws) (hv : v ∈ ws) (hw : w ∈ ws)
    (hpre : word v <+: word w) : v = w := by
  by_contra hne
  have hsymm : Std.Symm fun v w => ¬ word v <+: word w ∧ ¬ word w <+: word v :=
    ⟨fun _ _ h => ⟨h.2, h.1⟩⟩
  exact (List.Pairwise.forall h hv hw hne).1 hpre

end PrefixFree
