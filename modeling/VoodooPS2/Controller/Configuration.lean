import VoodooPS2.Controller.Translate
import VoodooPS2.Lib.Chain

/-! # The configuration of a driver (`makeConfigurationNode`)

A driver asks the controller for its section of the configuration: the node `Default` of its platform
profile, covered by the node of this manufacturer and product, covered by the section of the
dictionary that the ACPI method `RMCF` returns.  The last is kept in `_rmcfCache` from the first
call on.

Dictionaries are objects that can be changed, so the model has a heap of them, and a dictionary that
holds another one holds its address.  `Denotes` connects an address with the tree that is found
there; the second part says in terms of trees what a driver is to get. -/

namespace VoodooPS2.Controller

/-! ### The heap -/

/-- What a dictionary holds under a key: the address of a dictionary, or another object. -/
inductive Value where
  | dictionary (node : ℕ)
  | object (o : OSObject)

abbrev Cell := List (CString × Value)

/-- The dictionaries, by address. -/
abbrev Heap := List Cell

namespace Heap

/-- The dictionary at an address. -/
def cells (heap : Heap) (node : ℕ) : Option Cell := heap[node]?

/-- `getObject` of the dictionary at an address. -/
def getObject (heap : Heap) (node : ℕ) (key : CString) : Option Value :=
  ((heap.cells node).getD []).lookup key

/-- `OSDictionary::withDictionary`: a new dictionary with the same entries. -/
def withDictionary (heap : Heap) (node : ℕ) : Heap × ℕ :=
  (heap ++ [(heap.cells node).getD []], heap.length)

/-- `node->merge(other)`. -/
def merge (heap : Heap) (node other : ℕ) : Heap :=
  heap.set node (Dictionary.merge ((heap.cells node).getD []) ((heap.cells other).getD []))

mutual

/-- A tree of objects, put on the heap. -/
def load (heap : Heap) : OSObject → Heap × Value
  | .dictionary entries =>
      let (heap, cell) := loadEntries heap entries
      (heap ++ [cell], .dictionary heap.length)
  | o => (heap, .object o)

def loadEntries (heap : Heap) : List (CString × OSObject) → Heap × Cell
  | [] => (heap, [])
  | (key, o) :: entries =>
      let (heap, value) := load heap o
      let (heap, cell) := loadEntries heap entries
      (heap, (key, value) :: cell)

end

end Heap

/-! ### The code -/

def kDefault : CString := ⟨text ['D', 'e', 'f', 'a', 'u', 'l', 't'], by decide⟩

/-- A link up to the first `;`. -/
def strip (link : CString) : CString where
  chars := link.chars.takeWhile (· ≠ ';'.toUInt8)
  no_nul := fun h => link.no_nul (List.takeWhile_subset _ h)

/-- One call of `_getConfigurationNode`: it goes on with another name, or has its answer. -/
def nodeOrLink (heap : Heap) (root : ℕ) (name : CString) : CString ⊕ Option ℕ :=
  match heap.getObject root name with
  | some (.dictionary node) => .inr (some node)
  | some (.object (.string link)) => .inl (strip link)
  | _ => .inr none

/-- `_getConfigurationNode`; no result stands for a recursion that does not end. -/
def _getConfigurationNode (heap : Heap) (root : ℕ) (name : CString) : Option (Option ℕ) :=
  Chain.follow (nodeOrLink heap root) (((heap.cells root).getD []).length + 1) name

/-- What the controller finds around it: the names of manufacturer and product, and what the ACPI
method `RMCF` returns, if it can be evaluated. -/
structure Platform where
  manufacturer : Option CString
  product : Option CString
  rmcf : Option OSObject

/-- `getConfigurationNode`: the product's node, or the manufacturer's default. -/
def getConfigurationNode (platform : Platform) (heap : Heap) (list : ℕ) : Option (Option ℕ) :=
  match platform.manufacturer.bind (heap.getObject list) with
  | some (.dictionary manufacturerNode) =>
      (match platform.product with
        | none => some none
        | some product => _getConfigurationNode heap manufacturerNode product).bind fun
      | some configuration => some (some configuration)
      | none => _getConfigurationNode heap manufacturerNode kDefault
  | _ => some none

/-- The part of `makeConfigurationNode` that merges the nodes of the profile. -/
def mergeNodes (heap : Heap) : Option ℕ → Option ℕ → Heap × Option ℕ
  | some defaultNode, some platformNode =>
      let (heap, result) := heap.withDictionary defaultNode
      (heap.merge result platformNode, some result)
  | some defaultNode, none => (heap.withDictionary defaultNode).map id some
  | none, some platformNode => (heap.withDictionary platformNode).map id some
  | none, none => (heap, none)

/-- The part that looks up the dictionary of `RMCF`, in the cache or with ACPI. -/
def findOverride (platform : Platform) (heap : Heap) (rmcfCache : Option ℕ) : Heap × Option ℕ :=
  match rmcfCache with
  | some rmcf => (heap, some rmcf)
  | none =>
      match getConfigurationOverride platform.rmcf with
      | none => (heap, none)
      | some entries =>
          let (heap, cell) := heap.loadEntries entries
          (heap ++ [cell], some heap.length)

/-- The part that merges the section of `RMCF`. -/
def mergeSection (heap : Heap) (result rmcf : Option ℕ) (name : CString) : Heap × Option ℕ :=
  match rmcf.bind (heap.getObject · name) with
  | some (.dictionary sect) =>
      match result with
      | none => (heap.withDictionary sect).map id some
      | some result => (heap.merge result sect, some result)
  | _ => (heap, result)

/-- The heap and `_rmcfCache`. -/
structure ConfigState where
  heap : Heap
  rmcfCache : Option ℕ

/-- `makeConfigurationNode(list, section)`. -/
def makeConfigurationNode (platform : Platform) (s : ConfigState) (list : Option ℕ)
    (name : CString) : Option (ConfigState × Option ℕ) :=
  match list with
  | none => some (s, none)
  | some list =>
      (_getConfigurationNode s.heap list kDefault).bind fun defaultNode =>
        (getConfigurationNode platform s.heap list).bind fun platformNode =>
          let (heap, result) := mergeNodes s.heap defaultNode platformNode
          let (heap, rmcf) := findOverride platform heap s.rmcfCache
          let (heap, result) := mergeSection heap result rmcf name
          some (⟨heap, rmcf⟩, result)

/-- The state after a sequence of calls, each with its list and its section. -/
def afterCalls (platform : Platform) (s : ConfigState) :
    List (Option ℕ × CString) → Option ConfigState
  | [] => some s
  | call :: calls =>
      (makeConfigurationNode platform s call.1 call.2).bind fun r => afterCalls platform r.1 calls

/-! ### Trees -/

/-- The cells of `g` are also in `h`. -/
def Kept (g h : ℕ → Option Cell) : Prop := ∀ node cell, g node = some cell → h node = some cell

/-- At this value the heap holds this tree. -/
inductive Denotes (cells : ℕ → Option Cell) : Value → OSObject → Prop
  | object {o : OSObject} (h : ∀ entries, o ≠ .dictionary entries) : Denotes cells (.object o) o
  | dictionary {node : ℕ} {cell : Cell} {entries : List (CString × OSObject)}
      (hcell : cells node = some cell)
      (hnone : ∀ key, cell.lookup key = none ↔ entries.lookup key = none)
      (hsome : ∀ key value o, cell.lookup key = some value → entries.lookup key = some o →
        Denotes cells value o) : Denotes cells (.dictionary node) (.dictionary entries)

/-- One step from a name in a tree. -/
def treeLink (root : List (CString × OSObject)) (name : CString) :
    CString ⊕ Option (List (CString × OSObject)) :=
  match root.lookup name with
  | some (.dictionary node) => .inr (some node)
  | some (.string link) => .inl (strip link)
  | _ => .inr none

/-- No chain of links is cyclic, in the profile list or in the dictionary of a manufacturer. -/
def AcyclicLinks (list : List (CString × OSObject)) : Prop :=
  Chain.Acyclic (treeLink list) ∧
    ∀ name node, list.lookup name = some (.dictionary node) → Chain.Acyclic (treeLink node)

/-- The dictionary of the manufacturer in a profile list. -/
def manufacturerNode (platform : Platform) (list : List (CString × OSObject)) :
    Option (List (CString × OSObject)) :=
  OSObject.asDictionary (platform.manufacturer.bind fun name => list.lookup name)

/-- The node of the platform in a profile list, if there is one. -/
inductive IsPlatformNode (platform : Platform) (list : List (CString × OSObject)) :
    Option (List (CString × OSObject)) → Prop
  | unknown (h : manufacturerNode platform list = none) :
      IsPlatformNode platform list none
  | product {manufacturer node : List (CString × OSObject)} {name : CString}
      (h : manufacturerNode platform list = some manufacturer)
      (hname : platform.product = some name)
      (hnode : Chain.Ends (treeLink manufacturer) name (some node)) :
      IsPlatformNode platform list (some node)
  | default {manufacturer : List (CString × OSObject)} {node : Option (List (CString × OSObject))}
      (h : manufacturerNode platform list = some manufacturer)
      (hname : ∀ name, platform.product = some name →
        Chain.Ends (treeLink manufacturer) name none)
      (hnode : Chain.Ends (treeLink manufacturer) kDefault node) : IsPlatformNode platform list node

/-- The section of `RMCF` with this name. -/
def rmcfSection (platform : Platform) (name : CString) : Option (List (CString × OSObject)) :=
  OSObject.asDictionary ((getConfigurationOverride platform.rmcf).bind (·.lookup name))

end VoodooPS2.Controller
