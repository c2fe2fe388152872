import VoodooPS2.Controller.Profiles

/-! # Links in a profile (`_getConfigurationNode`)

A name in a profile stands for a dictionary, or for another name up to its first `;`.
`_getConfigurationNode` follows such links by recursion and keeps no record of the names it has been
at, so that a link that leads back keeps it going for ever.

`resolves_iff`: a name resolves if and only if its chain of links does not come to a name twice. -/

namespace VoodooPS2.Controller

/-- The lookup of a name ends at the end of its chain of links: with the dictionary of the profile
there, or with nothing. -/
structure Resolves (heap : Heap) (root : ℕ) (name : CString) (node : Option ℕ) : Prop where
  returned : _getConfigurationNode heap root name = some node
  ends : Chain.Ends (nodeOrLink heap root) name node
  found : ∀ n, node = some n → ∃ last, heap.getObject root last = some (.dictionary n)

/-- The links from a name come to a name twice, comments taken off. -/
def LeadsBack (heap : Heap) (root : ℕ) (name : CString) : Prop :=
  Chain.Returns (nodeOrLink heap root) name

variable {heap : Heap} {root : ℕ}

/-- What a chain ends with is one of the dictionaries of the profile. -/
theorem getObject_of_ends {name : CString} {node : Option ℕ}
    (h : Chain.Ends (nodeOrLink heap root) name node) (n : ℕ) (hn : node = some n) :
    ∃ last, heap.getObject root last = some (.dictionary n) := by
  induction h with
  | @here name node hs =>
      subst hn
      unfold nodeOrLink at hs
      split at hs
      · rename_i n' hget
        obtain rfl : n' = n := Option.some.inj (Sum.inr.inj hs)
        exact ⟨name, hget⟩
      · cases hs
      · cases hs
  | next _ _ ih => exact ih hn

/-- **A name resolves exactly if its links do not lead back.** -/
theorem resolves_iff (heap : Heap) (root : ℕ) (name : CString) :
    (∃ node, Resolves heap root name node) ↔ ¬ LeadsBack heap root name := by
  have hlaw := Chain.ends_iff_not_returns (@mem_keys_of_link heap root) name
  rw [Dictionary.keys, List.length_map] at hlaw
  rw [LeadsBack, ← hlaw]
  constructor
  · rintro ⟨node, h⟩
    exact ⟨node, h.returned, h.ends⟩
  · rintro ⟨node, hfollow, hends⟩
    exact ⟨node, hfollow, hends, getObject_of_ends hends⟩

def kOther : CString := ⟨text ['O', 't', 'h', 'e', 'r'], by decide⟩
def kOtherOld : CString := ⟨text ['O', 't', 'h', 'e', 'r', ';', 'o', 'l', 'd'], by decide⟩

/-- `Default` is a link to `Other`, with a comment, and `Other` one to `Default`. -/
def circularProfile : Heap :=
  [[(kDefault, .object (.string kOtherOld)), (kOther, .object (.string kDefault))]]

theorem circularProfile_endless :
    _getConfigurationNode circularProfile 0 kDefault = none ∧
      ¬ ∀ (heap : Heap) (root : ℕ) (name : CString), ∃ node, Resolves heap root name node := by
  have hnone : _getConfigurationNode circularProfile 0 kDefault = none := by decide +kernel
  refine ⟨hnone, fun h => ?_⟩
  obtain ⟨node, hnode⟩ := h circularProfile 0 kDefault
  cases hnone.symm.trans hnode.returned

end VoodooPS2.Controller
