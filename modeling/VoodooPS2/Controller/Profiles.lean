import VoodooPS2.Controller.Configuration

/-! # Profiles on the heap

What the heap holds is connected with trees: `loads` puts any tree on the heap, and
`_getConfigurationNode_spec` and `getConfigurationNode_spec` find the nodes that the tree has, if
its links are not cyclic. -/

namespace VoodooPS2.Controller

/-! ### Trees on the heap -/

variable {heap : Heap} {cells : ℕ → Option Cell}

theorem getObject_of_cell {node : ℕ} {cell : Cell} (h : heap.cells node = some cell)
    (key : CString) : heap.getObject node key = cell.lookup key := by
  rw [Heap.getObject, h]
  rfl

theorem Denotes.mono {cells' : ℕ → Option Cell} (hk : Kept cells cells') {value : Value}
    {o : OSObject} (h : Denotes cells value o) : Denotes cells' value o := by
  induction h with
  | object h => exact .object h
  | dictionary hcell hnone _ ih => exact .dictionary (hk _ _ hcell) hnone ih

/-- A dictionary and its tree have the same under each key. -/
theorem Denotes.lookup {node : ℕ} {entries : List (CString × OSObject)}
    (h : Denotes cells (.dictionary node) (.dictionary entries)) :
    ∃ cell, cells node = some cell ∧
      ∀ key, Option.Rel (Denotes cells) (cell.lookup key) (entries.lookup key) := by
  cases h with
  | @dictionary _ cell _ hcell hnone hsome =>
      refine ⟨cell, hcell, fun key => ?_⟩
      cases hv : cell.lookup key with
      | none =>
          rw [(hnone key).mp hv]
          exact .none
      | some value =>
          cases ho : entries.lookup key with
          | none =>
              rw [(hnone key).mpr ho] at hv
              cases hv
          | some o => exact .some (hsome key value o hv ho)

/-- The cells put on the heap from this length on are among `cells`. -/
def FreshIn (heap heap' : Heap) (cells : ℕ → Option Cell) : Prop :=
  ∀ node cell, heap.length ≤ node → heap'[node]? = some cell → cells node = some cell

/-- Loading this object adds cells to the heap, and these are its tree. -/
def Loads (o : OSObject) : Prop :=
  ∀ heap : Heap, (∃ fresh, (heap.load o).1 = heap ++ fresh) ∧
    ∀ cells, FreshIn heap (heap.load o).1 cells → Denotes cells (heap.load o).2 o

/-- Loading these entries adds cells to the heap, and the cell returned has the trees in them. -/
def LoadsEntries (entries : List (CString × OSObject)) : Prop :=
  ∀ heap : Heap, (∃ fresh, (heap.loadEntries entries).1 = heap ++ fresh) ∧
    ∀ cells, FreshIn heap (heap.loadEntries entries).1 cells →
      (∀ key, (heap.loadEntries entries).2.lookup key = none ↔ entries.lookup key = none) ∧
      ∀ key value o, (heap.loadEntries entries).2.lookup key = some value →
        entries.lookup key = some o → Denotes cells value o

theorem loadsEntries {entries : List (CString × OSObject)} (h : ∀ e ∈ entries, Loads e.2) :
    LoadsEntries entries := by
  induction entries with
  | nil =>
      intro heap
      rw [Heap.loadEntries]
      exact ⟨⟨[], (List.append_nil heap).symm⟩,
        fun cells _ => ⟨fun key => by simp, fun key value o hv => by cases hv⟩⟩
  | cons e entries ih =>
      obtain ⟨key, o⟩ := e
      intro heap
      rw [Heap.loadEntries]
      dsimp only
      obtain ⟨⟨fresh₁, h₁⟩, hval⟩ := h (key, o) (by simp) heap
      obtain ⟨⟨fresh₂, h₂⟩, hrest⟩ := ih (fun e he => h e (by simp [he])) (heap.load o).1
      refine ⟨⟨fresh₁ ++ fresh₂, by rw [h₂, h₁, List.append_assoc]⟩, fun cells hfresh => ?_⟩
      have hfst : FreshIn heap (heap.load o).1 cells := by
        intro node cell hle hcell
        refine hfresh node cell hle ?_
        rw [h₂, List.getElem?_append_left (List.getElem?_eq_some_iff.mp hcell).1]
        exact hcell
      have hsnd : FreshIn (heap.load o).1 ((heap.load o).1.loadEntries entries).1 cells := by
        intro node cell hle hcell
        refine hfresh node cell (le_trans ?_ hle) hcell
        rw [h₁, List.length_append]
        omega
      obtain ⟨hnone, hsome⟩ := hrest cells hsnd
      constructor
      · intro k
        rw [Dictionary.lookup_cons, Dictionary.lookup_cons]
        split
        · simp
        · exact hnone k
      · intro k value o' hv ho
        rw [Dictionary.lookup_cons] at hv ho
        split at hv
        · rename_i hk
          rw [if_pos hk] at ho
          cases hv
          cases ho
          exact hval cells hfst
        · rename_i hk
          rw [if_neg hk] at ho
          exact hsome k value o' hv ho

theorem loads_dictionary {entries : List (CString × OSObject)} (h : LoadsEntries entries) :
    Loads (.dictionary entries) := by
  intro heap
  rw [Heap.load]
  dsimp only
  obtain ⟨⟨fresh, hf⟩, hcell⟩ := h heap
  refine ⟨⟨fresh ++ [(heap.loadEntries entries).2], by rw [hf, List.append_assoc]⟩,
    fun cells hfresh => ?_⟩
  have hle : heap.length ≤ (heap.loadEntries entries).1.length := by
    rw [hf, List.length_append]
    omega
  obtain ⟨hnone, hsome⟩ := hcell cells (fun node cell hle hc => by
    refine hfresh node cell hle ?_
    rw [List.getElem?_append_left (List.getElem?_eq_some_iff.mp hc).1]
    exact hc)
  exact .dictionary (hfresh _ _ hle (by simp)) hnone hsome

theorem load_object (heap : Heap) {o : OSObject} (h : ∀ entries, o ≠ .dictionary entries) :
    heap.load o = (heap, .object o) := by
  cases o with
  | dictionary entries => exact absurd rfl (h entries)
  | string s => rw [Heap.load]; simp
  | number n => rw [Heap.load]; simp
  | boolean b => rw [Heap.load]; simp
  | data bytes => rw [Heap.load]; simp
  | array objects => rw [Heap.load]; simp

theorem loads_object {o : OSObject} (h : ∀ entries, o ≠ .dictionary entries) : Loads o := by
  intro heap
  rw [load_object heap h]
  exact ⟨⟨[], (List.append_nil heap).symm⟩, fun cells _ => .object h⟩

/-- Every tree can be put on the heap. -/
theorem loads (o : OSObject) : Loads o := by
  cases o with
  | dictionary entries => exact loads_dictionary (loadsEntries fun e he => loads e.2)
  | string s => exact loads_object (by simp)
  | number n => exact loads_object (by simp)
  | boolean b => exact loads_object (by simp)
  | data bytes => exact loads_object (by simp)
  | array objects => exact loads_object (by simp)
termination_by sizeOf o
decreasing_by
  have hlt := List.sizeOf_lt_of_mem he
  obtain ⟨key, o'⟩ := e
  simp only [Prod.mk.sizeOf_spec, OSObject.dictionary.sizeOf_spec] at hlt ⊢
  omega

/-! ### Following links -/

/-- A node on the heap and in the tree: none in both, or the same dictionary. -/
abbrev SameNode (cells : ℕ → Option Cell) :
    Option ℕ → Option (List (CString × OSObject)) → Prop :=
  Option.Rel fun node entries => Denotes cells (.dictionary node) (.dictionary entries)

variable {root : ℕ} {tree : List (CString × OSObject)}

/-- One step on the heap is one step in the tree. -/
theorem nodeOrLink_treeLink
    (h : Denotes heap.cells (.dictionary root) (.dictionary tree)) (name : CString) :
    (∃ link, nodeOrLink heap root name = .inl link ∧ treeLink tree name = .inl link) ∨
      ∃ node entries, nodeOrLink heap root name = .inr node ∧
        treeLink tree name = .inr entries ∧ SameNode heap.cells node entries := by
  obtain ⟨cell, hcell, hlookup⟩ := h.lookup
  have hget := getObject_of_cell hcell name
  have hrel := hlookup name
  unfold nodeOrLink treeLink
  rw [hget]
  generalize cell.lookup name = value at hrel ⊢
  generalize tree.lookup name = o at hrel ⊢
  cases hrel with
  | none => exact .inr ⟨none, none, rfl, rfl, .none⟩
  | some hd =>
      cases hd with
      | @dictionary node cell' entries hcell' hnone hsome =>
          exact .inr ⟨some node, some entries, rfl, rfl, .some (.dictionary hcell' hnone hsome)⟩
      | object ho =>
          rename_i o
          cases o with
          | dictionary entries => exact absurd rfl (ho entries)
          | string s => exact .inl ⟨strip s, rfl, rfl⟩
          | number n => exact .inr ⟨none, none, rfl, rfl, .none⟩
          | boolean b => exact .inr ⟨none, none, rfl, rfl, .none⟩
          | data bytes => exact .inr ⟨none, none, rfl, rfl, .none⟩
          | array objects => exact .inr ⟨none, none, rfl, rfl, .none⟩

theorem treeLink_of_nodeOrLink
    (h : Denotes heap.cells (.dictionary root) (.dictionary tree))
    {name link : CString} (hl : nodeOrLink heap root name = .inl link) :
    treeLink tree name = .inl link := by
  rcases nodeOrLink_treeLink h name with ⟨link', h₁, h₂⟩ | ⟨node, entries, h₁, -, -⟩
  · cases h₁.symm.trans hl
    exact h₂
  · cases h₁.symm.trans hl

/-- A chain on the heap ends where it does in the tree. -/
theorem ends_of_ends
    (h : Denotes heap.cells (.dictionary root) (.dictionary tree)) {name : CString}
    {node : Option ℕ} (he : Chain.Ends (nodeOrLink heap root) name node) :
    ∃ entries, Chain.Ends (treeLink tree) name entries ∧
      SameNode heap.cells node entries := by
  induction he with
  | here hs =>
      rcases nodeOrLink_treeLink h _ with ⟨link, h₁, -⟩ | ⟨node', entries, h₁, h₂, hsame⟩
      · cases h₁.symm.trans hs
      · cases h₁.symm.trans hs
        exact ⟨entries, .here h₂, hsame⟩
  | next hs _ ih =>
      obtain ⟨entries, hends, hsame⟩ := ih
      exact ⟨entries, .next (treeLink_of_nodeOrLink h hs) hends, hsame⟩

/-- Only names of the dictionary are links. -/
theorem mem_keys_of_link (name link : CString) (h : nodeOrLink heap root name = .inl link) :
    name ∈ Dictionary.keys ((heap.cells root).getD []) := by
  unfold nodeOrLink Heap.getObject at h
  cases hl : ((heap.cells root).getD []).lookup name with
  | none =>
      rw [hl] at h
      cases h
  | some value => exact Dictionary.mem_keys_of_lookup hl

/-- Where no chain is cyclic, the node is found that the tree has. -/
theorem _getConfigurationNode_spec
    (h : Denotes heap.cells (.dictionary root) (.dictionary tree))
    (hacyclic : Chain.Acyclic (treeLink tree)) (name : CString) :
    ∃ node entries, _getConfigurationNode heap root name = some node ∧
      Chain.Ends (treeLink tree) name entries ∧
      SameNode heap.cells node entries := by
  have hlink : Chain.Link (nodeOrLink heap root) ≤ Chain.Link (treeLink tree) :=
    fun _ _ hl => treeLink_of_nodeOrLink h hl
  have hheap : Chain.Acyclic (nodeOrLink heap root) := fun a ha =>
    hacyclic a (Relation.TransGen.mono hlink a a ha)
  obtain ⟨node, hnode⟩ := Chain.follow_of_acyclic mem_keys_of_link hheap name
  obtain ⟨entries, hends, hsame⟩ := ends_of_ends h (Chain.ends_of_follow hnode)
  rw [Dictionary.keys, List.length_map] at hnode
  exact ⟨node, entries, hnode, hends, hsame⟩

theorem asDictionary_eq_some {o : Option OSObject} {entries : List (CString × OSObject)} :
    OSObject.asDictionary o = some entries ↔ o = some (.dictionary entries) := by
  constructor
  · intro h
    unfold OSObject.asDictionary at h
    split at h
    · cases h
      rfl
    · cases h
  · rintro rfl
    rfl

/-- A dictionary looked up in a dictionary, on the heap and in the tree. -/
theorem dictionary_cases (hk : Kept cells heap.cells) {node : Option ℕ}
    {entries : Option (List (CString × OSObject))} (h : SameNode cells node entries)
    (name : CString) :
    ((∀ n, node.bind (heap.getObject · name) ≠ some (.dictionary n)) ∧
        OSObject.asDictionary (entries.bind (·.lookup name)) = none) ∨
      ∃ n e, node.bind (heap.getObject · name) = some (.dictionary n) ∧
        OSObject.asDictionary (entries.bind (·.lookup name)) = some e ∧
        Denotes cells (.dictionary n) (.dictionary e) := by
  cases h with
  | none => exact .inl ⟨fun n => by simp, rfl⟩
  | @some node entries hd =>
      obtain ⟨cell, hcell, hlookup⟩ := hd.lookup
      have hget := getObject_of_cell (hk _ _ hcell) name
      have hrel := hlookup name
      rw [Option.bind_some, Option.bind_some, hget]
      generalize cell.lookup name = value at hrel ⊢
      generalize entries.lookup name = o at hrel ⊢
      cases hrel with
      | none => exact .inl ⟨fun n => by simp, rfl⟩
      | some hv =>
          cases hv with
          | @dictionary n _ e hcell' hnone hsome =>
              exact .inr ⟨n, e, rfl, rfl, .dictionary hcell' hnone hsome⟩
          | object hno =>
              rename_i o
              refine .inl ⟨fun n => by simp, ?_⟩
              cases o with
              | dictionary e => exact absurd rfl (hno e)
              | string s => rfl
              | number n => rfl
              | boolean b => rfl
              | data bytes => rfl
              | array objects => rfl

variable {platform : Platform} {list : ℕ}

/-- The node of the platform is found that the tree has. -/
theorem getConfigurationNode_spec
    (h : Denotes heap.cells (.dictionary list) (.dictionary tree))
    (hacyclic : AcyclicLinks tree) :
    ∃ node entries, getConfigurationNode platform heap list = some node ∧
      IsPlatformNode platform tree entries ∧ SameNode heap.cells node entries := by
  unfold getConfigurationNode
  cases hm : platform.manufacturer with
  | none => exact ⟨none, none, rfl, .unknown (by rw [manufacturerNode, hm]; rfl), .none⟩
  | some name =>
      have htree : manufacturerNode platform tree = OSObject.asDictionary (tree.lookup name) := by
        rw [manufacturerNode, hm]
        rfl
      have hself : Kept heap.cells heap.cells := fun _ _ hc => hc
      rcases dictionary_cases hself (Option.Rel.some h) name with
        ⟨hget, hnone⟩ | ⟨node, entries, hget, hsome, hd⟩
      · refine ⟨none, none, ?_, .unknown (htree.trans hnone), .none⟩
        split
        · rename_i node hn
          exact absurd hn (hget node)
        · rfl
      · rw [Option.bind_some] at hget hsome ⊢
        rw [hget]
        dsimp only
        have hac := hacyclic.2 name entries (asDictionary_eq_some.mp hsome)
        have hnode := htree.trans hsome
        obtain ⟨dnode, dentries, hdef, hdends, hdsame⟩ := _getConfigurationNode_spec hd hac kDefault
        cases hp : platform.product with
        | none =>
            refine ⟨dnode, dentries, hdef, .default hnode ?_ hdends, hdsame⟩
            intro name hname
            rw [hp] at hname
            cases hname
        | some product =>
            obtain ⟨pnode, pentries, hres, hends, hsame⟩ := _getConfigurationNode_spec hd hac product
            dsimp only
            rw [hres, Option.bind_some]
            cases hsame with
            | some hd' => exact ⟨_, _, rfl, .product hnode hp hends, .some hd'⟩
            | none =>
                refine ⟨dnode, dentries, hdef, .default hnode ?_ hdends, hdsame⟩
                intro name hname
                cases hp.symm.trans hname
                exact hends

end VoodooPS2.Controller
