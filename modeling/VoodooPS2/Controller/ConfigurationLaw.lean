import VoodooPS2.Controller.Profiles

/-! # What a driver gets (`makeConfigurationNode`)

A call makes one new dictionary and merges nodes into it; every other dictionary stays as it is, also
the one in `_rmcfCache`.  `makeConfigurationNode_spec`: whatever calls were made before, the
dictionary returned has under each key what the trees say. -/

namespace VoodooPS2.Controller

variable {heap : Heap} {cells : ℕ → Option Cell} {platform : Platform}

/-! ### Merging -/

/-- What the nodes of the profile have under a key: the platform's wins. -/
def profileLookup (platformNode defaultNode : Option (List (CString × OSObject))) (key : CString) :
    Option OSObject :=
  (platformNode.bind (·.lookup key)).or (defaultNode.bind (·.lookup key))

theorem rel_or {α β : Type*} {r : α → β → Prop} {a a' : Option α} {b b' : Option β}
    (h : Option.Rel r a b) (h' : Option.Rel r a' b') : Option.Rel r (a.or a') (b.or b') := by
  cases h with
  | none => exact h'
  | some hab => exact .some hab

/-- A node has under each key what its tree has. -/
theorem SameNode.lookup (hk : Kept cells heap.cells) {node : ℕ}
    {entries : List (CString × OSObject)} (h : SameNode cells (some node) (some entries))
    (key : CString) :
    Option.Rel (Denotes cells) (heap.getObject node key) (entries.lookup key) := by
  cases h with
  | some hd =>
      obtain ⟨cell, hcell, hlookup⟩ := hd.lookup
      rw [getObject_of_cell (hk _ _ hcell)]
      exact hlookup key

theorem merge_append (heap : Heap) (cell : Cell) (other : ℕ) (ho : other < heap.length) :
    Heap.merge (heap ++ [cell]) heap.length other =
      heap ++ [Dictionary.merge cell ((heap.cells other).getD [])] := by
  have hother : Heap.cells (heap ++ [cell]) other = heap.cells other :=
    List.getElem?_append_left ho
  have hnode : Heap.cells (heap ++ [cell]) heap.length = some cell := by simp [Heap.cells]
  rw [Heap.merge, hother, hnode, List.set_append_right _ _ le_rfl, Nat.sub_self]
  rfl

/-- Merging the nodes of the profile makes no dictionary, or a new one. -/
theorem mergeNodes_cases (heap : Heap) (defaultNode platformNode : Option ℕ) :
    mergeNodes heap defaultNode platformNode = (heap, none) ∨
      ∃ cell, mergeNodes heap defaultNode platformNode = (heap ++ [cell], some heap.length) := by
  cases defaultNode with
  | none =>
      cases platformNode with
      | none => exact .inl rfl
      | some p => exact .inr ⟨_, rfl⟩
  | some d =>
      cases platformNode with
      | none => exact .inr ⟨_, rfl⟩
      | some p =>
          have hset : ∀ c c' : Cell, (heap ++ [c]).set heap.length c' = heap ++ [c'] := by simp
          exact .inr ⟨_, by rw [mergeNodes, Heap.withDictionary]; dsimp only; rw [Heap.merge, hset]⟩

/-- The new dictionary has under each key what the nodes of the profile have. -/
theorem mergeNodes_lookup {defaultNode platformNode : Option ℕ}
    {defaultTree platformTree : Option (List (CString × OSObject))}
    (hd : SameNode heap.cells defaultNode defaultTree)
    (hp : SameNode heap.cells platformNode platformTree) :
    (mergeNodes heap defaultNode platformNode = (heap, none) ∧
        ∀ key, profileLookup platformTree defaultTree key = none) ∨
      ∃ cell, mergeNodes heap defaultNode platformNode = (heap ++ [cell], some heap.length) ∧
        ∀ key, Option.Rel (Denotes heap.cells) (cell.lookup key)
          (profileLookup platformTree defaultTree key) := by
  have hself : Kept heap.cells heap.cells := fun _ _ hc => hc
  cases hd with
  | none =>
      cases hp with
      | none => exact .inl ⟨rfl, fun key => rfl⟩
      | some hpt =>
          refine .inr ⟨_, rfl, fun key => ?_⟩
          have hrel := SameNode.lookup hself (Option.Rel.some hpt) key
          simpa [profileLookup, Heap.getObject] using hrel
  | some hdt =>
      cases hp with
      | none =>
          refine .inr ⟨_, rfl, fun key => ?_⟩
          exact SameNode.lookup hself (Option.Rel.some hdt) key
      | some hpt =>
          rename_i dnode dtree pnode ptree
          obtain ⟨cell, hcell, -⟩ := hpt.lookup
          have hlt : pnode < heap.length := (List.getElem?_eq_some_iff.mp hcell).1
          refine .inr ⟨Dictionary.merge ((heap.cells dnode).getD []) ((heap.cells pnode).getD []),
            ?_, fun key => ?_⟩
          · rw [mergeNodes, Heap.withDictionary]
            dsimp only
            rw [merge_append heap _ pnode hlt]
          · rw [Dictionary.lookup_merge]
            exact rel_or (SameNode.lookup hself (Option.Rel.some hpt) key)
              (SameNode.lookup hself (Option.Rel.some hdt) key)

/-- What is in the cache is the dictionary of `RMCF`. -/
def Cached (platform : Platform) (cells : ℕ → Option Cell) (rmcfCache : Option ℕ) : Prop :=
  ∀ node, rmcfCache = some node →
    SameNode cells (some node) (getConfigurationOverride platform.rmcf)

/-- The dictionary of `RMCF` is found, in cells that were there before or are new. -/
theorem findOverride_spec {rmcfCache : Option ℕ}
    (hcache : Cached platform heap.cells rmcfCache) (heap' : Heap) :
    ∃ fresh rmcf, findOverride platform heap' rmcfCache = (heap' ++ fresh, rmcf) ∧
      ∀ cells, Kept heap.cells cells → FreshIn heap' (heap' ++ fresh) cells →
        SameNode cells rmcf (getConfigurationOverride platform.rmcf) := by
  unfold findOverride
  cases hc : rmcfCache with
  | some node =>
      refine ⟨[], some node, by simp, fun cells hkc _ => ?_⟩
      have hsame := hcache node hc
      generalize getConfigurationOverride platform.rmcf = entries at hsame ⊢
      cases hsame with
      | some hd => exact .some (hd.mono hkc)
  | none =>
      cases getConfigurationOverride platform.rmcf with
      | none => exact ⟨[], none, by simp, fun _ _ _ => .none⟩
      | some entries =>
          have hload : heap'.load (.dictionary entries) =
              ((heap'.loadEntries entries).1 ++ [(heap'.loadEntries entries).2],
                .dictionary (heap'.loadEntries entries).1.length) := by
            rw [Heap.load]
          obtain ⟨⟨fresh, hf⟩, hden⟩ := loads (.dictionary entries) heap'
          rw [hload] at hf hden
          dsimp only at hf hden
          refine ⟨fresh, some (heap'.loadEntries entries).1.length, by dsimp only; rw [hf], ?_⟩
          intro cells _ hfresh
          rw [← hf] at hfresh
          exact .some (hden cells hfresh)

/-! ### A call -/

/-- The cells of the heap but the one at `result`. -/
def others (heap : Heap) (result : Option ℕ) (node : ℕ) : Option Cell :=
  if result = some node then none else heap.cells node

theorem kept_others (heap : Heap) (result : Option ℕ) : Kept (others heap result) heap.cells := by
  intro node cell h
  unfold others at h
  split at h
  · cases h
  · exact h

/-- Merging the section changes no other dictionary than the result. -/
theorem kept_mergeSection (heap : Heap) (result rmcf : Option ℕ) (name : CString) :
    Kept (others heap result) (mergeSection heap result rmcf name).1.cells := by
  unfold mergeSection
  split
  · cases result with
    | none =>
        intro node cell h
        have hcell : heap[node]? = some cell := h
        show (heap ++ _)[node]? = some cell
        rw [List.getElem?_append_left (List.getElem?_eq_some_iff.mp hcell).1]
        exact hcell
    | some r =>
        intro node cell h
        unfold others at h
        split at h
        · cases h
        · rename_i hne
          show (heap.set r _)[node]? = some cell
          rw [List.getElem?_set_ne (fun he => hne (congrArg some he))]
          exact h
  · exact kept_others heap result

/-- The result is none, or the one new dictionary. -/
def IsNew (heap heap' : Heap) (result : Option ℕ) : Prop :=
  (heap' = heap ∧ result = none) ∨ ∃ cell, heap' = heap ++ [cell] ∧ result = some heap.length

theorem isNew_mergeNodes (heap : Heap) (defaultNode platformNode : Option ℕ) :
    IsNew heap (mergeNodes heap defaultNode platformNode).1
      (mergeNodes heap defaultNode platformNode).2 := by
  rcases mergeNodes_cases heap defaultNode platformNode with h | ⟨cell, h⟩
  · rw [h]
    exact .inl ⟨rfl, rfl⟩
  · rw [h]
    exact .inr ⟨cell, rfl, rfl⟩

variable {heap' : Heap} {result : Option ℕ}

/-- The dictionaries there were are not the result. -/
theorem IsNew.kept (h : IsNew heap heap' result) (fresh : Heap) :
    Kept heap.cells (others (heap' ++ fresh) result) := by
  intro node cell hcell
  have hlt : node < heap.length := (List.getElem?_eq_some_iff.mp hcell).1
  have hne : result ≠ some node := by
    rcases h with ⟨-, rfl⟩ | ⟨c, -, rfl⟩
    · simp
    · simp only [ne_eq, Option.some.injEq]
      omega
  rw [others, if_neg hne]
  show (heap' ++ fresh)[node]? = some cell
  rcases h with ⟨rfl, -⟩ | ⟨c, rfl, -⟩
  · rw [List.getElem?_append_left hlt]
    exact hcell
  · rw [List.append_assoc, List.getElem?_append_left hlt]
    exact hcell

/-- Those added after the result are not the result either. -/
theorem IsNew.freshIn (h : IsNew heap heap' result) (fresh : Heap) :
    FreshIn heap' (heap' ++ fresh) (others (heap' ++ fresh) result) := by
  intro node cell hle hcell
  have hne : result ≠ some node := by
    rcases h with ⟨-, rfl⟩ | ⟨c, rfl, rfl⟩
    · simp
    · rw [List.length_append, List.length_singleton] at hle
      simp only [ne_eq, Option.some.injEq]
      omega
  rw [others, if_neg hne]
  exact hcell

/-- What a call does, from the nodes of the profile on. -/
theorem call_spec {rmcfCache : Option ℕ} (hcache : Cached platform heap.cells rmcfCache)
    (hnew : IsNew heap heap' result) :
    ∃ fresh rmcf, findOverride platform heap' rmcfCache = (heap' ++ fresh, rmcf) ∧
      Kept heap.cells (others (heap' ++ fresh) result) ∧
      SameNode (others (heap' ++ fresh) result) rmcf
        (getConfigurationOverride platform.rmcf) := by
  obtain ⟨fresh, rmcf, hfind, hsame⟩ := findOverride_spec hcache heap'
  exact ⟨fresh, rmcf, hfind, hnew.kept fresh, hsame _ (hnew.kept fresh) (hnew.freshIn fresh)⟩

theorem Kept.trans {f g h : ℕ → Option Cell} (hfg : Kept f g) (hgh : Kept g h) : Kept f h :=
  fun node cell hc => hgh node cell (hfg node cell hc)

theorem SameNode.mono {cells' : ℕ → Option Cell} (hk : Kept cells cells') {node : Option ℕ}
    {entries : Option (List (CString × OSObject))} (h : SameNode cells node entries) :
    SameNode cells' node entries := by
  cases h with
  | none => exact .none
  | some hd => exact .some (hd.mono hk)

/-- A call that returns changes no dictionary and leaves the right one in the cache. -/
theorem makeConfigurationNode_keeps {s s' : ConfigState} {list : Option ℕ} {name : CString}
    (hcache : Cached platform s.heap.cells s.rmcfCache)
    (h : makeConfigurationNode platform s list name = some (s', result)) :
    Kept s.heap.cells s'.heap.cells ∧ Cached platform s'.heap.cells s'.rmcfCache := by
  cases list with
  | none =>
      cases h
      exact ⟨fun _ _ hc => hc, hcache⟩
  | some list =>
      obtain ⟨defaultNode, -, h⟩ := Option.bind_eq_some_iff.mp h
      obtain ⟨platformNode, -, h⟩ := Option.bind_eq_some_iff.mp h
      obtain ⟨fresh, rmcf, hfind, hkept, hsame⟩ :=
        call_spec hcache (isNew_mergeNodes s.heap defaultNode platformNode)
      dsimp only at h
      rw [hfind] at h
      cases h
      have hmerge := kept_mergeSection ((mergeNodes s.heap defaultNode platformNode).1 ++ fresh)
        (mergeNodes s.heap defaultNode platformNode).2 rmcf name
      refine ⟨hkept.trans hmerge, fun node hnode => ?_⟩
      have hrmcf : rmcf = some node := hnode
      rw [← hrmcf]
      exact hsame.mono hmerge

/-- After any calls the dictionaries there were are the same. -/
theorem afterCalls_keeps {s s' : ConfigState} (calls : List (Option ℕ × CString))
    (hcache : Cached platform s.heap.cells s.rmcfCache)
    (h : afterCalls platform s calls = some s') :
    Kept s.heap.cells s'.heap.cells ∧ Cached platform s'.heap.cells s'.rmcfCache := by
  induction calls generalizing s with
  | nil =>
      cases h
      exact ⟨fun _ _ hc => hc, hcache⟩
  | cons call calls ih =>
      obtain ⟨⟨t, result⟩, hcall, h⟩ := Option.bind_eq_some_iff.mp h
      obtain ⟨hkept, hcached⟩ := makeConfigurationNode_keeps hcache hcall
      obtain ⟨hkept', hcached'⟩ := ih hcached h
      exact ⟨hkept.trans hkept', hcached'⟩

theorem rel_mono {cells' : ℕ → Option Cell} (hk : Kept cells cells') {value : Option Value}
    {o : Option OSObject} (h : Option.Rel (Denotes cells) value o) :
    Option.Rel (Denotes cells') value o := by
  cases h with
  | none => exact .none
  | some hd => exact .some (hd.mono hk)

theorem getObject_append (heap : Heap) (cell : Cell) (key : CString) :
    Heap.getObject (heap ++ [cell]) heap.length key = cell.lookup key :=
  getObject_of_cell (by simp [Heap.cells]) key

/-- What is under a key of the dictionary returned: the section wins over the profile. -/
theorem mergeSection_lookup {rmcf : Option ℕ} {name key : CString} {profile : Option OSObject}
    (hrmcf : SameNode (others heap result) rmcf (getConfigurationOverride platform.rmcf))
    (hprofile : Option.Rel (Denotes (others heap result))
      (result.bind (heap.getObject · key)) profile)
    (hlt : ∀ r, result = some r → r < heap.length) :
    Option.Rel (Denotes (mergeSection heap result rmcf name).1.cells)
      ((mergeSection heap result rmcf name).2.bind
        ((mergeSection heap result rmcf name).1.getObject · key))
      (((rmcfSection platform name).bind (·.lookup key)).or profile) := by
  refine rel_mono (kept_mergeSection heap result rmcf name) ?_
  have hk := kept_others heap result
  unfold mergeSection rmcfSection
  rcases dictionary_cases hk hrmcf name with ⟨hget, hnone⟩ | ⟨sect, entries, hget, hsome, hd⟩
  · rw [hnone]
    split
    · rename_i node hn
      exact absurd hn (hget node)
    · exact hprofile
  · rw [hget, hsome]
    have hsect := SameNode.lookup hk (Option.Rel.some hd) key
    cases result with
    | none =>
        cases hprofile
        rw [Option.or_none]
        show Option.Rel _ (Heap.getObject (heap ++ [_]) heap.length key) _
        rw [getObject_append]
        exact hsect
    | some r =>
        have hcell : Heap.cells (heap.merge r sect) r =
            some (Dictionary.merge ((heap.cells r).getD []) ((heap.cells sect).getD [])) :=
          List.getElem?_set_self (hlt r rfl)
        dsimp only
        rw [Option.bind_some, getObject_of_cell hcell, Dictionary.lookup_merge]
        exact rel_or hsect hprofile

theorem afterCalls_cons {platform : Platform} {s s' : ConfigState} {list result : Option ℕ}
    {name : CString} {calls : List (Option ℕ × CString)}
    (hcall : makeConfigurationNode platform s list name = some (s', result)) :
    afterCalls platform s ((list, name) :: calls) = afterCalls platform s' calls := by
  rw [afterCalls, hcall, Option.bind_some]

/-- The dictionary returned has under each key what the section of `RMCF` has, or else the platform's
node, or else `Default`; the dictionaries there were, and that of `RMCF`, are as they were.  The
calls made before make no difference. -/
theorem makeConfigurationNode_spec (platform : Platform) {heap : Heap} {s : ConfigState}
    (calls : List (Option ℕ × CString)) (hrun : afterCalls platform ⟨heap, none⟩ calls = some s)
    {list : ℕ} {tree : List (CString × OSObject)}
    (hlist : Denotes heap.cells (.dictionary list) (.dictionary tree))
    (hacyclic : AcyclicLinks tree) (name : CString) :
    ∃ s' result defaultNode platformNode,
      makeConfigurationNode platform s (some list) name = some (s', result) ∧
      Chain.Ends (treeLink tree) kDefault defaultNode ∧
      IsPlatformNode platform tree platformNode ∧
      (∀ key, Option.Rel (Denotes s'.heap.cells) (result.bind (s'.heap.getObject · key))
        (((rmcfSection platform name).bind (·.lookup key)).or
          (profileLookup platformNode defaultNode key))) ∧
      Kept heap.cells s'.heap.cells ∧
      ∀ node, s'.rmcfCache = some node →
        SameNode s'.heap.cells (some node) (getConfigurationOverride platform.rmcf) := by
  have hempty : Cached platform heap.cells none := fun node hnode => by cases hnode
  obtain ⟨hkept, hcached⟩ := afterCalls_keeps calls hempty hrun
  have hnow : Denotes s.heap.cells (.dictionary list) (.dictionary tree) := hlist.mono hkept
  obtain ⟨dnode, dtree, hdef, hdends, hdsame⟩ :=
    _getConfigurationNode_spec hnow hacyclic.1 kDefault
  obtain ⟨pnode, ptree, hplat, hpnode, hpsame⟩ :=
    @getConfigurationNode_spec _ _ platform _ hnow hacyclic
  have hnew := isNew_mergeNodes s.heap dnode pnode
  obtain ⟨fresh, rmcf, hfind, hothers, hrmcf⟩ := call_spec hcached hnew
  have hcall : makeConfigurationNode platform s (some list) name =
      some (⟨(mergeSection ((mergeNodes s.heap dnode pnode).1 ++ fresh)
          (mergeNodes s.heap dnode pnode).2 rmcf name).1, rmcf⟩,
        (mergeSection ((mergeNodes s.heap dnode pnode).1 ++ fresh)
          (mergeNodes s.heap dnode pnode).2 rmcf name).2) := by
    rw [makeConfigurationNode, hdef, hplat, Option.bind_some, Option.bind_some]
    dsimp only
    rw [hfind]
  obtain ⟨hkept', hcached'⟩ := makeConfigurationNode_keeps hcached hcall
  refine ⟨_, _, dtree, ptree, hcall, hdends, hpnode, fun key => ?_, hkept.trans hkept', hcached'⟩
  rcases mergeNodes_lookup hdsame hpsame with ⟨hm, hnone⟩ | ⟨cell, hm, hlookup⟩
  · rw [hm] at hrmcf ⊢
    refine mergeSection_lookup hrmcf ?_ (fun r hr => by cases hr)
    rw [hnone]
    exact .none
  · rw [hm] at hrmcf hothers ⊢
    refine mergeSection_lookup hrmcf ?_ (fun r hr => ?_)
    · have hcell : Heap.cells (s.heap ++ [cell] ++ fresh) s.heap.length = some cell := by
        simp [Heap.cells]
      rw [Option.bind_some, getObject_of_cell hcell]
      exact rel_mono hothers (hlookup key)
    · cases hr
      simp

/-! ### A profile with a link -/

/-- A tree that is loaded into an empty heap. -/
theorem denotes_load (entries : List (CString × OSObject)) :
    Denotes (Heap.load [] (.dictionary entries)).1.cells
      (.dictionary (Heap.loadEntries [] entries).1.length) (.dictionary entries) := by
  have h := (loads (.dictionary entries) []).2 (Heap.load [] (.dictionary entries)).1.cells
    (fun node cell _ hcell => hcell)
  rw [Heap.load] at h ⊢
  exact h

def acer : CString := ⟨text ['A', 'C', 'E', 'R'], by decide⟩
def aspire : CString := ⟨text ['A', 's', 'p', 'i', 'r', 'e'], by decide⟩
def aspireLink : CString := ⟨text ['X', ';', 'a'], by decide⟩
def linked : CString := ⟨text ['X'], by decide⟩

/-- The product of this manufacturer is a link with a comment. -/
def acerNode : List (CString × OSObject) :=
  [(aspire, .string aspireLink), (linked, .dictionary [(yes, .number 2)])]

def acerList : List (CString × OSObject) :=
  [(kDefault, .dictionary [(yes, .number 1), (no, .number 1)]), (acer, .dictionary acerNode)]

theorem acyclicLinks_acerList : AcyclicLinks acerList := by
  have hnode : Chain.Acyclic (treeLink acerNode) := by
    refine Chain.acyclic_of_rank (fun name => if name = aspire then 1 else 0) ?_
    intro a a' h
    simp only [treeLink, acerNode, Dictionary.lookup_cons] at h
    split_ifs at h with h₁ h₂
    · cases h
      subst h₁
      decide
    · cases h
  have hflat : ∀ entries : List (CString × OSObject),
      (∀ name link, entries.lookup name ≠ some (.string link)) →
        Chain.Acyclic (treeLink entries) := by
    intro entries hno
    refine Chain.acyclic_of_rank (fun _ => 0) ?_
    intro a a' h
    unfold treeLink at h
    split at h
    · cases h
    · rename_i link hl
      exact absurd hl (hno a link)
    · cases h
  refine ⟨hflat _ ?_, ?_⟩
  · intro name link h
    simp only [acerList, Dictionary.lookup_cons] at h
    split_ifs at h
    · cases h
    · cases h
    · cases h
  · intro name node h
    simp only [acerList, Dictionary.lookup_cons] at h
    split_ifs at h
    · cases h
      refine hflat _ fun name link h => ?_
      simp only [Dictionary.lookup_cons] at h
      split_ifs at h
      · cases h
      · cases h
      · cases h
    · cases h
      exact hnode
    · cases h

def keyboardSection : CString :=
  ⟨text ['K', 'e', 'y', 'b', 'o', 'a', 'r', 'd'], by decide⟩

def mouseSection : CString := ⟨text ['M', 'o', 'u', 's', 'e'], by decide⟩

/-- The method `RMCF` overrides one key of the keyboard's section. -/
def acerPlatform : Platform where
  manufacturer := some acer
  product := some aspire
  rmcf := some (.array [.string keyboardSection, .array [.string yes, .number 3]])

theorem rmcfSection_acerPlatform :
    rmcfSection acerPlatform keyboardSection = some [(yes, .number 3)] := by
  have hvalue : translateArray [.string yes, .number 3] =
      ([.string yes, .number 3], some (.dictionary [(yes, .number 3)])) := by
    simp [translateArray, translatePairs, translateEntry, Dictionary.set]
  have hrmcf : getConfigurationOverride acerPlatform.rmcf =
      some [(keyboardSection, .dictionary [(yes, .number 3)])] := by
    simp [getConfigurationOverride, acerPlatform, OSObject.asArray, OSObject.asDictionary,
      translateArray, translatePairs, translateEntry, hvalue, Dictionary.set]
  rw [rmcfSection, hrmcf]
  rfl

/-- The profile list in memory. -/
def acerHeap : Heap := (Heap.load [] (.dictionary acerList)).1

/-- Where the list itself is. -/
def acerAddress : ℕ := (Heap.loadEntries [] acerList).1.length

/-- The mouse's driver and the keyboard's asked before. -/
def acerCalls : List (Option ℕ × CString) :=
  [(some acerAddress, mouseSection), (some acerAddress, keyboardSection)]

theorem makeConfigurationNode_spec_acer :
    ∃ s s' result defaultNode platformNode,
      afterCalls acerPlatform ⟨acerHeap, none⟩ acerCalls = some s ∧
      makeConfigurationNode acerPlatform s (some acerAddress) keyboardSection =
        some (s', result) ∧
      Chain.Ends (treeLink acerList) kDefault defaultNode ∧
      IsPlatformNode acerPlatform acerList platformNode ∧
      (∀ key, Option.Rel (Denotes s'.heap.cells) (result.bind (s'.heap.getObject · key))
        ((([(yes, .number 3)] : List (CString × OSObject)).lookup key).or
          (profileLookup platformNode defaultNode key))) ∧
      Kept acerHeap.cells s'.heap.cells ∧
      ∀ node, s'.rmcfCache = some node → SameNode s'.heap.cells (some node)
        (getConfigurationOverride acerPlatform.rmcf) := by
  have hlist : Denotes acerHeap.cells (.dictionary acerAddress) (.dictionary acerList) :=
    denotes_load acerList
  -- the two calls before, one after the other
  obtain ⟨s₁, r₁, _, _, h₁, _⟩ := makeConfigurationNode_spec acerPlatform [] rfl hlist
    acyclicLinks_acerList mouseSection
  obtain ⟨s₂, r₂, _, _, h₂, _⟩ := makeConfigurationNode_spec acerPlatform
    [(some acerAddress, mouseSection)] (afterCalls_cons h₁) hlist acyclicLinks_acerList
    keyboardSection
  have hcalls : afterCalls acerPlatform ⟨acerHeap, none⟩ acerCalls = some s₂ :=
    (afterCalls_cons h₁).trans (afterCalls_cons h₂)
  obtain ⟨s', result, dnode, pnode, h⟩ := makeConfigurationNode_spec acerPlatform acerCalls hcalls
    hlist acyclicLinks_acerList keyboardSection
  rw [rmcfSection_acerPlatform] at h
  exact ⟨s₂, s', result, dnode, pnode, hcalls, h⟩

end VoodooPS2.Controller
