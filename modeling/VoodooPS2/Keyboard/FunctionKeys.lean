import VoodooPS2.OSObject
import VoodooPS2.Lib.Overlay

/-! # Switching the function keys (`loadCustomPS2Map`, `HIDFKeyMode`)

`probe` loads `Custom PS2 Map` and, when both arrays of function keys are configured,
`Function Keys Special`.  A change of `HIDFKeyMode` then loads one of the two arrays into the map as
it stands, so what the other array wrote stays wherever the new one says nothing.

`map_afterUpdates`: the map after any sequence of updates, as tables laid over one another.
`noResidue_iff`: it is the map of a fresh probe and at most one change, unless the mode went to
nonzero and back and `Function Keys Standard` remaps, to something else, a key that
`Function Keys Special` leaves alone. -/

namespace VoodooPS2.Keyboard

/-! ### Entries of a map -/

/-- The value of a hexadecimal digit. -/
def hexDigit (c : UInt8) : Option UInt32 :=
  if '0'.toUInt8 ≤ c ∧ c ≤ '9'.toUInt8 then some (c - '0'.toUInt8).toUInt32
  else if 'a'.toUInt8 ≤ c ∧ c ≤ 'f'.toUInt8 then some (c - 'a'.toUInt8 + 10).toUInt32
  else if 'A'.toUInt8 ≤ c ∧ c ≤ 'F'.toUInt8 then some (c - 'A'.toUInt8 + 10).toUInt32
  else none

/-- The loop of `parseHex`, with the number read so far. -/
def parseHexFrom (term1 term2 : UInt8) (n : UInt32) :
    List UInt8 → Option (List UInt8 × UInt32)
  | [] => some ([], n)
  | c :: psz =>
      if c = term1 ∨ c = term2 then some (c :: psz, n)
      else (hexDigit c).bind fun d => parseHexFrom term1 term2 ((n <<< 4) + d) psz

def parseHex (psz : List UInt8) (term1 term2 : UInt8) : Option (List UInt8 × UInt32) :=
  parseHexFrom term1 term2 0 psz

/-- `parseRemap`: the two scan codes of `scanfrom=scanto`. -/
def parseRemap (psz : List UInt8) : Option (UInt16 × UInt16) :=
  match parseHex psz '='.toUInt8 0 with
  | none => none
  | some (psz, scanFrom) =>
      if psz.head? ≠ some '='.toUInt8 ∨ 0xFFFF < scanFrom then none
      else
        match parseHex psz.tail '\n'.toUInt8 ';'.toUInt8 with
        | none => none
        | some (_, scanTo) =>
            if 0xFFFF < scanTo then none else some (scanFrom.toUInt16, scanTo.toUInt16)

def KBV_NUM_SCANCODES : ℕ := 256

/-- The slot and the code that one entry of a map array gives, if it is accepted. -/
def ps2MapEntry (entry : OSObject) : Option (ℕ × UInt16) :=
  match OSObject.asString (some entry) with
  | none => none
  | some psz =>
      if psz.chars.head? = some ';'.toUInt8 then none
      else
        match parseRemap psz.chars with
        | none => none
        | some (scanIn, scanOut) =>
            let exIn := (scanIn >>> 8).toUInt8
            let exOut := (scanOut >>> 8).toUInt8
            if (exIn ≠ 0 ∧ exIn ≠ 0xe0) ∨ (exOut ≠ 0 ∧ exOut ≠ 0xe0) then none
            else
              some ((scanIn &&& 0xff).toNat + (if exIn = 0xe0 then KBV_NUM_SCANCODES else 0),
                (scanOut &&& 0xff) + (if exOut = 0xe0 then KBV_NUM_SCANCODES.toUInt16 else 0))

/-- Every slot written is one of the map. -/
theorem ps2MapEntry_lt {entry : OSObject} {index : ℕ} {code : UInt16}
    (h : ps2MapEntry entry = some (index, code)) : index < 2 * KBV_NUM_SCANCODES := by
  unfold ps2MapEntry at h
  split at h
  · cases h
  · split at h
    · cases h
    · split at h
      · cases h
      · rename_i scanIn scanOut _
        dsimp only at h
        split at h
        · cases h
        · have hlow : (scanIn &&& 0xff).toNat ≤ 0xff := by
            rw [UInt16.toNat_and]
            exact Nat.and_le_right
          obtain ⟨rfl, -⟩ := Prod.mk.inj (Option.some.inj h)
          unfold KBV_NUM_SCANCODES
          split <;> omega

/-- The entries of an array that are accepted, in their order. -/
def ps2MapEntries (pArray : Option (List OSObject)) : List (ℕ × UInt16) :=
  (pArray.getD []).filterMap ps2MapEntry

def loadCustomPS2Map (map : ℕ → UInt16) (pArray : Option (List OSObject)) : ℕ → UInt16 :=
  match pArray with
  | none => map
  | some objects =>
      objects.foldl
        (fun map entry =>
          match ps2MapEntry entry with
          | none => map
          | some (index, code) => Function.update map index code) map

/-- What an array remaps: at each slot the code of its last accepted entry. -/
def remaps (pArray : Option (List OSObject)) : ℕ → Option UInt16 :=
  Overlay.written (ps2MapEntries pArray)

/-- Loading an array lays its table over the map. -/
theorem loadCustomPS2Map_eq (map : ℕ → UInt16) (pArray : Option (List OSObject)) :
    loadCustomPS2Map map pArray = Overlay.overlay (remaps pArray) map := by
  cases pArray with
  | none => rfl
  | some objects =>
      rw [remaps, ← Overlay.foldl_write]
      show objects.foldl _ map = (objects.filterMap ps2MapEntry).foldl _ map
      induction objects generalizing map with
      | nil => rfl
      | cons entry objects ih =>
          rw [List.foldl_cons, List.filterMap_cons]
          cases ps2MapEntry entry with
          | none => exact ih map
          | some w => exact ih (Function.update map w.1 w.2)

/-! ### The driver -/

/-- The entries of the merged configuration that the map depends on. -/
structure KeyboardConfig where
  customPS2Map : Option OSObject
  functionKeysStandard : Option OSObject
  functionKeysSpecial : Option OSObject
  hidFKeyMode : Option OSObject

/-- `_PS2ToPS2Map` and what decides how it changes. -/
structure FKeys where
  map : ℕ → UInt16
  fkeymode : UInt32
  fkeymodesupported : Bool
  keysStandard : Option (List OSObject)
  keysSpecial : Option (List OSObject)

namespace FKeys

/-- The state as `init` leaves it: each entry of the map is itself. -/
def init : FKeys := ⟨fun i => i.toUInt16, 0, false, none, none⟩

/-- The mode that a dictionary gives, from its entry `HIDFKeyMode`. -/
def givenMode (entry : Option OSObject) : Option UInt32 :=
  (OSObject.asNumber entry).map UInt64.toUInt32

/-- `setParamPropertiesGated`, as far as the map goes, for a dictionary with this entry
`HIDFKeyMode`. -/
def setParamPropertiesGated (s : FKeys) (entry : Option OSObject) : FKeys :=
  if s.fkeymodesupported then
    let oldfkeymode := s.fkeymode
    let s := { s with fkeymode := (givenMode entry).getD s.fkeymode }
    if oldfkeymode ≠ s.fkeymode then
      let keys := if s.fkeymode ≠ 0 then s.keysStandard else s.keysSpecial
      { s with map := loadCustomPS2Map s.map keys }
    else s
  else s

/-- The part of `probe` that loads the arrays of the configuration. -/
def loadArrays (s : FKeys) (config : KeyboardConfig) : FKeys :=
  let s := { s with map := loadCustomPS2Map s.map (OSObject.asArray config.customPS2Map) }
  match OSObject.asArray config.functionKeysStandard,
      OSObject.asArray config.functionKeysSpecial with
  | some standard, some special =>
      { s with
        fkeymodesupported := true
        keysStandard := some standard
        keysSpecial := some special
        map := loadCustomPS2Map s.map (some special) }
  | _, _ => { s with fkeymodesupported := false, keysStandard := none, keysSpecial := none }

/-- `probe`, after `init`. -/
def probe : Option KeyboardConfig → FKeys
  | none => init
  | some config => (init.loadArrays config).setParamPropertiesGated config.hidFKeyMode

/-- The state after `probe` and a sequence of dictionaries. -/
def afterUpdates (config : Option KeyboardConfig) (updates : List (Option OSObject)) : FKeys :=
  updates.foldl setParamPropertiesGated (probe config)

/-- The two arrays of function keys, when both are configured. -/
def arrays (config : KeyboardConfig) : Option (List OSObject × List OSObject) :=
  (OSObject.asArray config.functionKeysStandard).bind fun standard =>
    (OSObject.asArray config.functionKeysSpecial).map fun special => (standard, special)

/-- The modes given by `probe`'s configuration and by the updates after it. -/
def modes (config : KeyboardConfig) (updates : List (Option OSObject)) : List UInt32 :=
  (config.hidFKeyMode :: updates).filterMap givenMode

/-- The current mode after these have been given. -/
def lastMode (given : List UInt32) : UInt32 := given.getLast?.getD 0

/-- The map after these modes have been given, from the map that the arrays left. -/
def layered (standard special : ℕ → Option UInt16) (base : ℕ → UInt16) (given : List UInt32) :
    ℕ → UInt16 :=
  if lastMode given ≠ 0 then Overlay.overlay standard base
  else if ∃ mode ∈ given, mode ≠ 0 then
    Overlay.overlay special (Overlay.overlay standard base)
  else base

theorem lastMode_concat (given : List UInt32) (mode : UInt32) :
    lastMode (given ++ [mode]) = mode := by
  simp [lastMode]

theorem exists_ne_zero_of_lastMode {given : List UInt32} (h : lastMode given ≠ 0) :
    ∃ mode ∈ given, mode ≠ 0 := by
  cases hl : given.getLast? with
  | none => simp [lastMode, hl] at h
  | some mode =>
      refine ⟨mode, List.mem_of_getLast? hl, ?_⟩
      simpa [lastMode, hl] using h

section Layers

variable {standard special : ℕ → Option UInt16} {base : ℕ → UInt16}

theorem layered_of_ne_zero {given : List UInt32} (h : lastMode given ≠ 0) :
    layered standard special base given = Overlay.overlay standard base :=
  if_pos h

theorem layered_of_back {given : List UInt32} (h : lastMode given = 0)
    (hex : ∃ mode ∈ given, mode ≠ 0) :
    layered standard special base given =
      Overlay.overlay special (Overlay.overlay standard base) := by
  rw [layered, if_neg (not_not_intro h), if_pos hex]

theorem layered_of_never {given : List UInt32} (h : ¬ ∃ mode ∈ given, mode ≠ 0) :
    layered standard special base given = base := by
  have hlast : ¬ lastMode given ≠ 0 := fun hne => h (exists_ne_zero_of_lastMode hne)
  rw [layered, if_neg hlast, if_neg h]

/-- Laid over any map a switch can have left, the standard keys give the same map. -/
theorem overlay_standard_layered (hbase : Overlay.overlay special base = base)
    (given : List UInt32) :
    Overlay.overlay standard (layered standard special base given) =
      Overlay.overlay standard base := by
  unfold layered
  split
  · exact Overlay.overlay_self standard base
  · split
    · rw [Overlay.overlay_between, hbase]
    · rfl

/-- One more mode: the map is left alone, or the keys of the new mode are laid over it. -/
theorem layered_concat (hbase : Overlay.overlay special base = base) (given : List UInt32)
    (mode : UInt32) :
    layered standard special base (given ++ [mode]) =
      if lastMode given ≠ mode then
        Overlay.overlay (if mode ≠ 0 then standard else special)
          (layered standard special base given)
      else layered standard special base given := by
  by_cases hmode : mode = 0
  · subst hmode
    by_cases hlast : lastMode given = 0
    · rw [if_neg (not_not_intro hlast)]
      by_cases hex : ∃ mode ∈ given, mode ≠ 0
      · rw [layered_of_back hlast hex]
        obtain ⟨m, hm, hne⟩ := hex
        exact layered_of_back (lastMode_concat given 0) ⟨m, by simp [hm], hne⟩
      · rw [layered_of_never hex]
        refine layered_of_never ?_
        rintro ⟨m, hm, hne⟩
        rcases List.mem_append.mp hm with hm | hm
        · exact hex ⟨m, hm, hne⟩
        · exact hne (List.mem_singleton.mp hm)
    · rw [if_pos hlast, if_neg (by decide), layered_of_ne_zero hlast]
      obtain ⟨m, hm, hne⟩ := exists_ne_zero_of_lastMode hlast
      exact layered_of_back (lastMode_concat given 0) ⟨m, by simp [hm], hne⟩
  · have hlast : lastMode (given ++ [mode]) ≠ 0 := by rwa [lastMode_concat]
    rw [layered_of_ne_zero hlast]
    by_cases hsame : lastMode given = mode
    · rw [if_neg (not_not_intro hsame), layered_of_ne_zero (by rwa [hsame])]
    · rw [if_pos hsame, if_pos hmode, overlay_standard_layered hbase]

end Layers

/-- A driver with both arrays of function keys, after these modes have been given. -/
structure Layered (standard special : List OSObject) (base : ℕ → UInt16) (given : List UInt32)
    (s : FKeys) : Prop where
  supported : s.fkeymodesupported = true
  keysStandard : s.keysStandard = some standard
  keysSpecial : s.keysSpecial = some special
  fkeymode : s.fkeymode = lastMode given
  map : s.map = layered (remaps (some standard)) (remaps (some special)) base given

section Supported

variable {standard special : List OSObject} {base : ℕ → UInt16} {given : List UInt32} {s : FKeys}

theorem Layered.step (hbase : Overlay.overlay (remaps (some special)) base = base)
    (h : Layered standard special base given s) (entry : Option OSObject) :
    Layered standard special base (given ++ (givenMode entry).toList)
      (s.setParamPropertiesGated entry) := by
  unfold setParamPropertiesGated
  rw [if_pos h.supported]
  cases givenMode entry with
  | none => simpa using h
  | some mode =>
      have hlayer := @layered_concat (remaps (some standard)) _ _ hbase given mode
      simp only [Option.getD_some, Option.toList_some]
      rw [h.fkeymode]
      by_cases hsame : lastMode given = mode
      · rw [if_neg (not_not_intro hsame)] at hlayer ⊢
        exact ⟨h.supported, h.keysStandard, h.keysSpecial, (lastMode_concat given mode).symm,
          h.map.trans hlayer.symm⟩
      · rw [if_pos hsame] at hlayer ⊢
        refine ⟨h.supported, h.keysStandard, h.keysSpecial, (lastMode_concat given mode).symm, ?_⟩
        rw [hlayer, loadCustomPS2Map_eq, h.keysStandard, h.keysSpecial, h.map]
        split <;> rfl

theorem Layered.run (hbase : Overlay.overlay (remaps (some special)) base = base)
    (h : Layered standard special base given s) (updates : List (Option OSObject)) :
    Layered standard special base (given ++ updates.filterMap givenMode)
      (updates.foldl setParamPropertiesGated s) := by
  induction updates generalizing given s with
  | nil => simpa using h
  | cons entry updates ih =>
      have hrest := ih (h.step hbase entry)
      rw [List.foldl_cons, List.filterMap_cons]
      cases hg : givenMode entry with
      | none => simpa [hg] using hrest
      | some mode => simpa [hg] using hrest

end Supported

/-- The map as `Custom PS2 Map` leaves it. -/
def customMap (config : KeyboardConfig) : ℕ → UInt16 :=
  fun i => (remaps (OSObject.asArray config.customPS2Map) i).getD i.toUInt16

variable {config : KeyboardConfig} {standard special : List OSObject}

/-- With both arrays, `probe` lays the special keys over the map. -/
theorem loadArrays_of_arrays (h : arrays config = some (standard, special)) :
    init.loadArrays config =
      ⟨Overlay.overlay (remaps (some special)) (customMap config), 0, true, some standard,
        some special⟩ := by
  unfold arrays at h
  obtain ⟨st, hst, h⟩ := Option.bind_eq_some_iff.mp h
  obtain ⟨sp, hsp, h⟩ := Option.map_eq_some_iff.mp h
  obtain ⟨rfl, rfl⟩ := Prod.mk.inj h
  rw [loadArrays, hst, hsp]
  dsimp only
  rw [loadCustomPS2Map_eq, loadCustomPS2Map_eq]
  rfl

/-- The state after `probe` and any sequence of updates. -/
theorem map_afterUpdates (h : arrays config = some (standard, special))
    (updates : List (Option OSObject)) :
    Layered standard special (Overlay.overlay (remaps (some special)) (customMap config))
      (modes config updates) (afterUpdates (some config) updates) := by
  have hinit : Layered standard special
      (Overlay.overlay (remaps (some special)) (customMap config)) []
      (init.loadArrays config) := by
    rw [loadArrays_of_arrays h]
    exact ⟨rfl, rfl, rfl, rfl, rfl⟩
  exact hinit.run (Overlay.overlay_self _ _) (config.hidFKeyMode :: updates)

/-- Without both arrays an update does nothing. -/
theorem afterUpdates_of_no_arrays (h : arrays config = none) (updates : List (Option OSObject)) :
    afterUpdates (some config) updates = init.loadArrays config := by
  have hsupported : (init.loadArrays config).fkeymodesupported = false := by
    unfold arrays at h
    unfold loadArrays
    cases hst : OSObject.asArray config.functionKeysStandard with
    | none => rfl
    | some st =>
        cases hsp : OSObject.asArray config.functionKeysSpecial with
        | none => rfl
        | some sp =>
            rw [hst, hsp] at h
            cases h
  have hstep : ∀ entry, (init.loadArrays config).setParamPropertiesGated entry =
      init.loadArrays config := by
    intro entry
    rw [setParamPropertiesGated, hsupported]
    rfl
  show (config.hidFKeyMode :: updates).foldl setParamPropertiesGated (init.loadArrays config) = _
  induction config.hidFKeyMode :: updates with
  | nil => rfl
  | cons entry updates ih => rw [List.foldl_cons, hstep, ih]

theorem afterUpdates_of_no_config (updates : List (Option OSObject)) :
    afterUpdates none updates = init := by
  show updates.foldl setParamPropertiesGated init = init
  induction updates with
  | nil => rfl
  | cons entry updates ih => exact ih

/-! ### No residue -/

/-- The map is that of a fresh `probe` followed by at most one update, with the mode zero or not
as it is now. -/
def NoResidue (config : Option KeyboardConfig) (updates : List (Option OSObject)) : Prop :=
  ∃ change : Option (Option OSObject),
    ((afterUpdates config change.toList).fkeymode = 0 ↔
      (afterUpdates config updates).fkeymode = 0) ∧
    (afterUpdates config updates).map = (afterUpdates config change.toList).map

/-- `Function Keys Standard` remaps a key that `Function Keys Special` does not, to another code
than `Custom PS2 Map` does. -/
def Uncovered (config : KeyboardConfig) (standard special : List OSObject) : Prop :=
  ∃ index code, remaps (some standard) index = some code ∧ remaps (some special) index = none ∧
    code ≠ customMap config index

/-- The mode was zero after `probe` and is zero now, but was not between. -/
def WentAndCameBack (config : KeyboardConfig) (updates : List (Option OSObject)) : Prop :=
  (givenMode config.hidFKeyMode).getD 0 = 0 ∧ lastMode (updates.filterMap givenMode) = 0 ∧
    ∃ mode ∈ updates.filterMap givenMode, mode ≠ 0

/-- The maps with and without the standard keys between are the same. -/
theorem overlay_eq_iff_not_uncovered :
    Overlay.overlay (remaps (some special)) (Overlay.overlay (remaps (some standard))
        (Overlay.overlay (remaps (some special)) (customMap config))) =
      Overlay.overlay (remaps (some special)) (customMap config) ↔
    ¬ Uncovered config standard special := by
  rw [Overlay.overlay_between_iff]
  constructor
  · rintro h ⟨i, v, hst, hsp, hne⟩
    exact hne (h i v hsp hst)
  · intro h i v hsp hst
    by_contra hne
    exact h ⟨i, v, hst, hsp, hne⟩

theorem modes_eq (updates : List (Option OSObject)) :
    modes config updates =
      (givenMode config.hidFKeyMode).toList ++ updates.filterMap givenMode := by
  rw [modes, List.filterMap_cons]
  cases givenMode config.hidFKeyMode with
  | none => rfl
  | some mode => rfl

/-- One update to a given mode ends the list of modes. -/
theorem modes_singleton (mode : UInt32) :
    modes config [some (.number mode.toUInt64)] =
      (givenMode config.hidFKeyMode).toList ++ [mode] := by
  have hmode : givenMode (some (.number mode.toUInt64)) = some mode := by
    simp [givenMode, OSObject.asNumber]
  rw [modes_eq, List.filterMap_cons, hmode]
  rfl

theorem lastMode_append (given new : List UInt32) :
    lastMode (given ++ new) = (new.getLast?.or given.getLast?).getD 0 := by
  rw [lastMode, List.getLast?_append]

/-- The mode after `probe`. -/
theorem lastMode_modes_nil : lastMode (modes config []) = (givenMode config.hidFKeyMode).getD 0 := by
  rw [modes_eq, List.filterMap_nil, List.append_nil]
  cases givenMode config.hidFKeyMode with
  | none => rfl
  | some mode => rfl

/-- With a probe in mode zero, at most one update that ends in mode zero gives zeros only. -/
theorem never_of_change (hprobe : (givenMode config.hidFKeyMode).getD 0 = 0)
    (change : Option (Option OSObject)) (hlast : lastMode (modes config change.toList) = 0) :
    ¬ ∃ mode ∈ modes config change.toList, mode ≠ 0 := by
  have hlength : (change.toList.filterMap givenMode).length ≤ 1 :=
    le_trans (List.length_filterMap_le _ _) (by cases change <;> simp)
  rw [modes_eq] at hlast ⊢
  generalize change.toList.filterMap givenMode = new at hlast hlength ⊢
  rintro ⟨mode, hmem, hne⟩
  rcases List.mem_append.mp hmem with hmem | hmem
  · rw [Option.mem_toList.mp hmem] at hprobe
    exact hne hprobe
  · obtain ⟨m, rfl⟩ := List.length_eq_one_iff.mp
      (le_antisymm hlength (List.length_pos_of_mem hmem))
    rw [lastMode_concat] at hlast
    exact hne ((List.mem_singleton.mp hmem).trans hlast)

/-- After a probe in mode zero, modes that end in zero and are not all zero come from the
updates. -/
theorem wentAndCameBack_iff (hprobe : (givenMode config.hidFKeyMode).getD 0 = 0)
    (updates : List (Option OSObject)) :
    WentAndCameBack config updates ↔
      lastMode (modes config updates) = 0 ∧ ∃ mode ∈ modes config updates, mode ≠ 0 := by
  have hmem : (∃ mode ∈ modes config updates, mode ≠ 0) ↔
      ∃ mode ∈ updates.filterMap givenMode, mode ≠ 0 := by
    rw [modes_eq]
    constructor
    · rintro ⟨mode, hm, hne⟩
      rcases List.mem_append.mp hm with hm | hm
      · rw [Option.mem_toList.mp hm] at hprobe
        exact absurd hprobe hne
      · exact ⟨mode, hm, hne⟩
    · rintro ⟨mode, hm, hne⟩
      exact ⟨mode, List.mem_append_right _ hm, hne⟩
  have hlast : lastMode (modes config updates) = lastMode (updates.filterMap givenMode) := by
    rw [modes_eq, lastMode_append, lastMode]
    cases (updates.filterMap givenMode).getLast? with
    | some mode => rfl
    | none =>
        cases hg : givenMode config.hidFKeyMode with
        | none => rfl
        | some mode => simpa [hg] using hprobe
  rw [hmem, hlast]
  exact ⟨fun h => h.2, fun h => ⟨hprobe, h⟩⟩

/-- With both arrays: the modes given have to lead to the same map as those of one change. -/
theorem noResidue_iff_modes (h : arrays config = some (standard, special))
    (updates : List (Option OSObject)) :
    NoResidue (some config) updates ↔
      ∃ change : Option (Option OSObject),
        (lastMode (modes config change.toList) = 0 ↔ lastMode (modes config updates) = 0) ∧
        layered (remaps (some standard)) (remaps (some special))
            (Overlay.overlay (remaps (some special)) (customMap config)) (modes config updates) =
          layered (remaps (some standard)) (remaps (some special))
            (Overlay.overlay (remaps (some special)) (customMap config))
            (modes config change.toList) := by
  unfold NoResidue
  refine exists_congr fun change => ?_
  have hc := map_afterUpdates h change.toList
  have hu := map_afterUpdates h updates
  rw [hc.fkeymode, hc.map, hu.fkeymode, hu.map]

theorem noResidue_iff_of_arrays (h : arrays config = some (standard, special))
    (updates : List (Option OSObject)) :
    NoResidue (some config) updates ↔
      ¬ (WentAndCameBack config updates ∧ Uncovered config standard special) := by
  rw [noResidue_iff_modes h]
  constructor
  · rintro ⟨change, hzero, hmap⟩ ⟨hback, huncovered⟩
    have hprobe := hback.1
    obtain ⟨hnow, hex⟩ := (wentAndCameBack_iff hprobe updates).mp hback
    rw [layered_of_back hnow hex, layered_of_never (never_of_change hprobe change (hzero.mpr hnow)),
      overlay_eq_iff_not_uncovered] at hmap
    exact hmap huncovered
  · intro hcond
    by_cases hnow : lastMode (modes config updates) = 0
    · by_cases hprobe : (givenMode config.hidFKeyMode).getD 0 = 0
      · have hzero : lastMode (modes config (none : Option (Option OSObject)).toList) = 0 :=
          lastMode_modes_nil.trans hprobe
        refine ⟨none, iff_of_true hzero hnow, ?_⟩
        rw [layered_of_never (never_of_change hprobe none hzero)]
        by_cases hex : ∃ mode ∈ modes config updates, mode ≠ 0
        · rw [layered_of_back hnow hex, overlay_eq_iff_not_uncovered]
          exact fun hun => hcond ⟨(wentAndCameBack_iff hprobe updates).mpr ⟨hnow, hex⟩, hun⟩
        · exact layered_of_never hex
      · obtain ⟨mode, hmode⟩ : ∃ mode, givenMode config.hidFKeyMode = some mode := by
          cases hg : givenMode config.hidFKeyMode with
          | none => exact absurd (by rw [hg]; rfl) hprobe
          | some mode => exact ⟨mode, rfl⟩
        have hne : mode ≠ 0 := by simpa [hmode] using hprobe
        have hgiven : ∀ new, ∃ m ∈ modes config new, m ≠ 0 := by
          intro new
          refine ⟨mode, ?_, hne⟩
          rw [modes_eq, hmode]
          exact List.mem_append_left _ (by simp)
        have hzero : lastMode (modes config [some (.number (0 : UInt32).toUInt64)]) = 0 := by
          rw [modes_singleton, lastMode_concat]
        refine ⟨some (some (.number (0 : UInt32).toUInt64)), iff_of_true hzero hnow, ?_⟩
        rw [layered_of_back hnow (hgiven _)]
        exact (layered_of_back hzero (hgiven _)).symm
    · refine ⟨some (some (.number (lastMode (modes config updates)).toUInt64)), ?_, ?_⟩
      · rw [Option.toList_some, modes_singleton, lastMode_concat]
      · rw [Option.toList_some, modes_singleton, layered_of_ne_zero hnow, layered_of_ne_zero]
        rwa [lastMode_concat]

/-- The map is that of a fresh probe and at most one change, unless the mode came back to zero and
`Function Keys Standard` reaches beyond `Function Keys Special`. -/
theorem noResidue_iff (config : Option KeyboardConfig) (updates : List (Option OSObject)) :
    NoResidue config updates ↔
      ∀ cfg standard special, config = some cfg → arrays cfg = some (standard, special) →
        ¬ (WentAndCameBack cfg updates ∧ Uncovered cfg standard special) := by
  cases config with
  | none =>
      refine iff_of_true ⟨none, ?_, ?_⟩ (fun cfg _ _ hcfg => by cases hcfg)
      · rw [afterUpdates_of_no_config, afterUpdates_of_no_config]
      · rw [afterUpdates_of_no_config, afterUpdates_of_no_config]
  | some cfg =>
      cases h : arrays cfg with
      | none =>
          refine iff_of_true ⟨none, ?_, ?_⟩ (fun cfg' _ _ hcfg harr => ?_)
          · rw [afterUpdates_of_no_arrays h, afterUpdates_of_no_arrays h]
          · rw [afterUpdates_of_no_arrays h, afterUpdates_of_no_arrays h]
          · cases hcfg
            rw [h] at harr
            cases harr
      | some a =>
          obtain ⟨standard, special⟩ := a
          rw [noResidue_iff_of_arrays h]
          constructor
          · rintro hcond cfg' st sp hcfg harr
            cases hcfg
            rw [h] at harr
            cases harr
            exact hcond
          · intro hcond
            exact hcond cfg standard special rfl h

/-- An array with the single entry `3b=3c`, and an empty one. -/
def residueConfig : KeyboardConfig where
  customPS2Map := none
  functionKeysStandard :=
    some (.array [.string ⟨text ['3', 'b', '=', '3', 'c'], by decide⟩])
  functionKeysSpecial := some (.array [])
  hidFKeyMode := none

/-- Mode one and back to zero leaves slot `0x3b` remapped, which a fresh probe never does in mode
zero. -/
theorem residue_left :
    ¬ NoResidue (some residueConfig) [some (.number 1), some (.number 0)] := by
  have harrays : arrays residueConfig =
      some ([.string ⟨text ['3', 'b', '=', '3', 'c'], by decide⟩], []) := rfl
  rw [noResidue_iff_of_arrays harrays, not_not]
  exact ⟨⟨rfl, by decide, 1, by decide, by decide⟩, 0x3b, 0x3c, by decide, by decide, by decide⟩

end FKeys

end VoodooPS2.Keyboard
