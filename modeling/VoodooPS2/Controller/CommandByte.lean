import VoodooPS2.Controller.Request

/-! # Updating the command byte (`setCommandByteGated`, `kPS2C_ModifyCommandByte`)

Both ways of changing bits of the 8042's command byte ask for it with `kCP_GetCommandByte`,
take the first byte of the keyboard stream for the answer, and write the byte back with the
bits set and cleared; `setCommandByteGated` leaves the write out when nothing would change.
The byte read is the answer only if no key byte comes before it, and a read that times out
reads as zero.

`update_iff`: both leave the command byte as they should if and only if the controller's answer
is the first keyboard byte to arrive within the budget, or the byte taken for it happens to
lead to the command byte that was there. -/

namespace VoodooPS2.Controller

/-- `setCommandByteGated`: the old command byte as it was read. -/
def setCommandByteGated (setBits clearBits : UInt8) : Prog UInt8 := do
  beginIgnoring
  writeCommandPort kCPGetCommandByte
  let oldCommandByte ← readPort .keyboard
  endIgnoring
  let newCommandByte := (oldCommandByte ||| setBits) &&& ~~~clearBits
  if oldCommandByte ≠ newCommandByte then
    writeCommandPort kCPSetCommandByte
    writeDataPort newCommandByte
    return oldCommandByte
  else return oldCommandByte

/-- A `kPS2C_ModifyCommandByte` command; the last two bytes of the union are the caller's. -/
def modifyCommandByte (setBits clearBits byte2 byte3 : UInt8) : PS2Command :=
  ⟨.modifyCommandByte, setBits, clearBits, byte2, byte3⟩

/-! ### What is taken for the answer -/

/-- The first arrival on the keyboard stream before `n` looks have found nothing, once an
answer is owed. -/
def firstKeyboard : ℕ → List Arrival → Option Arrival
  | 0, _ => none
  | _, [] => none
  | n + 1, .quiet :: as => firstKeyboard n as
  | _ + 1, .device .keyboard b :: _ => some (.device .keyboard b)
  | n + 1, .device .mouse _ :: as => firstKeyboard (n + 1) as
  | _ + 1, .answer :: _ => some .answer

/-- The controller's answer is the first keyboard byte to arrive in time. -/
def Answered (k : Kbc) : Prop := firstKeyboard timeoutBudget k.arrivals = some .answer

instance (k : Kbc) : Decidable (Answered k) := inferInstanceAs (Decidable (_ = _))

/-- Otherwise: the key byte taken for it, or zero when there was none. -/
def mistaken (k : Kbc) : UInt8 :=
  match firstKeyboard timeoutBudget k.arrivals with
  | some (.device _ b) => b
  | _ => 0

/-- The byte both operations work with. -/
def byteRead (k : Kbc) : UInt8 := if Answered k then k.commandByte else mistaken k

/-- The value of an arrival, with `c` owed. -/
def Arrival.value (c : UInt8) : Arrival → UInt8
  | .quiet => 0
  | .device _ b => b
  | .answer => c

@[simp] theorem firstKeyboard_zero (as : List Arrival) : firstKeyboard 0 as = none := by
  cases as <;> rfl

theorem head?_window_resolve (c : UInt8) (as : List Arrival) (n : ℕ) :
    (onStream .keyboard (window (n + 1) (resolve (some c) as))).head? =
      (firstKeyboard (n + 1) as).map (Arrival.value c) := by
  induction as generalizing n with
  | nil => rfl
  | cons a as ih =>
      cases a with
      | quiet =>
          cases n with
          | zero => simp [resolve, window, firstKeyboard]
          | succ n => exact ih n
      | device s b =>
          cases s with
          | keyboard => rfl
          | mouse => exact ih n
      | answer => rfl

/-- What `readDataPort(kDT_Keyboard)` returns after `kCP_GetCommandByte`. -/
theorem readPort_after_get (k : Kbc) :
    (read .normal (.plain .keyboard timeoutBudget)
      (k.command kCPGetCommandByte).polls).value = byteRead k := by
  have hp : (k.command kCPGetCommandByte).polls = resolve (some k.commandByte) k.arrivals := rfl
  have hret : (read .normal (.plain .keyboard timeoutBudget)
      (resolve (some k.commandByte) k.arrivals)).returned =
        (firstKeyboard timeoutBudget k.arrivals).map (Arrival.value k.commandByte) :=
    (read_plain .keyboard _ 9999).trans (head?_window_resolve _ _ 9999)
  rw [hp, ReadResult.value, hret]
  by_cases ha : Answered k
  · rw [byteRead, if_pos ha, show firstKeyboard timeoutBudget k.arrivals = some .answer from ha]
    rfl
  · rw [byteRead, if_neg ha, mistaken]
    rcases h : firstKeyboard timeoutBudget k.arrivals with _ | _ | ⟨s, b⟩ | _
    · rfl
    · rfl
    · rfl
    · exact absurd h ha

/-! ### The two operations -/

theorem run_setCommandByteGated (k : Kbc) (setBits clearBits : UInt8) :
    (run .normal (setCommandByteGated setBits clearBits) k).value = byteRead k ∧
      (run .normal (setCommandByteGated setBits clearBits) k).kbc.commandByte =
        if byteRead k = (byteRead k ||| setBits) &&& ~~~clearBits then k.commandByte
        else (byteRead k ||| setBits) &&& ~~~clearBits := by
  have hr := readPort_after_get k
  simp only [setCommandByteGated, beginIgnoring, endIgnoring, writeCommandPort, writeDataPort,
    readPort, Prog.bind_eq, Prog.bind, run, hr, Run.after_value, Run.after_kbc, Prog.pure_eq]
  by_cases h : byteRead k = (byteRead k ||| setBits) &&& ~~~clearBits
  · rw [if_neg (not_not.mpr h), if_pos h]
    exact ⟨rfl, rfl⟩
  · rw [if_pos h, if_neg h]
    exact ⟨rfl, rfl⟩

theorem run_modifyCommandByte (m : Mode) (k : Kbc) (setBits clearBits byte2 byte3 : UInt8) :
    (exec .normal m k (modifyCommandByte setBits clearBits byte2 byte3)).value.command.oldBits =
        byteRead k ∧
      (exec .normal m k (modifyCommandByte setBits clearBits byte2 byte3)).kbc.commandByte =
        (byteRead k ||| setBits) &&& ~~~clearBits := by
  have hr := readPort_after_get k
  simp only [exec, execCommand, modifyCommandByte, writeCommandPort, writeDataPort, readPort,
    Prog.bind_eq, Prog.bind, run, hr, Run.after_value, Run.after_kbc, Prog.pure_eq]
  exact ⟨rfl, rfl⟩

/-! ### Only the requested bits -/

/-- What the command byte should be: updated if it was read, and left alone if not. -/
def updated (k : Kbc) (setBits clearBits : UInt8) : UInt8 :=
  if Answered k then (k.commandByte ||| setBits) &&& ~~~clearBits else k.commandByte

/-- The bits outside `mask` are the same. -/
def SameOutside (mask a b : UInt8) : Prop := a &&& ~~~mask = b &&& ~~~mask

/-- Both operations leave the command byte they should, change no other bit, and report the
same old value. -/
structure UpdateRight (k : Kbc) (setBits clearBits : UInt8) (gated : Run UInt8)
    (modified : Run Executed) : Prop where
  gated_eq : gated.kbc.commandByte = updated k setBits clearBits
  modified_eq : modified.kbc.commandByte = updated k setBits clearBits
  gated_frame : SameOutside (setBits ||| clearBits) gated.kbc.commandByte k.commandByte
  modified_frame : SameOutside (setBits ||| clearBits) modified.kbc.commandByte k.commandByte
  old_eq : gated.value = modified.value.command.oldBits

/-- Setting and clearing bits touches only these. -/
theorem sameOutside_update (c setBits clearBits : UInt8) :
    SameOutside (setBits ||| clearBits) ((c ||| setBits) &&& ~~~clearBits) c := by
  unfold SameOutside
  apply UInt8.toBitVec_inj.mp
  ext i hi
  simp only [UInt8.toBitVec_and, UInt8.toBitVec_or, UInt8.toBitVec_not, BitVec.getElem_and,
    BitVec.getElem_or, BitVec.getElem_not]
  cases c.toBitVec[i] <;> cases setBits.toBitVec[i] <;> cases clearBits.toBitVec[i] <;> rfl

theorem sameOutside_updated (k : Kbc) (setBits clearBits : UInt8) :
    SameOutside (setBits ||| clearBits) (updated k setBits clearBits) k.commandByte := by
  unfold updated
  split_ifs
  · exact sameOutside_update k.commandByte setBits clearBits
  · rfl

/-- **Both operations update the command byte as they should exactly when the answer was read,
or the byte taken for it leads back to the command byte.** -/
theorem update_iff (m : Mode) (k : Kbc) (setBits clearBits byte2 byte3 : UInt8) :
    UpdateRight k setBits clearBits (run .normal (setCommandByteGated setBits clearBits) k)
        (exec .normal m k (modifyCommandByte setBits clearBits byte2 byte3)) ↔
      Answered k ∨ (mistaken k ||| setBits) &&& ~~~clearBits = k.commandByte := by
  obtain ⟨hgv, hgc⟩ := run_setCommandByteGated k setBits clearBits
  obtain ⟨hmv, hmc⟩ := run_modifyCommandByte m k setBits clearBits byte2 byte3
  constructor
  · intro h
    by_cases ha : Answered k
    · exact .inl ha
    · right
      have hm := h.modified_eq
      rw [hmc, byteRead, updated, if_neg ha, if_neg ha] at hm
      exact hm
  · intro h
    have hnew : (byteRead k ||| setBits) &&& ~~~clearBits = updated k setBits clearBits := by
      unfold byteRead updated
      by_cases ha : Answered k
      · rw [if_pos ha, if_pos ha]
      · rw [if_neg ha, if_neg ha]
        exact h.resolve_left ha
    have hg : (run .normal (setCommandByteGated setBits clearBits) k).kbc.commandByte =
        updated k setBits clearBits := by
      rw [hgc, hnew]
      split_ifs with he
      · by_cases ha : Answered k
        · rw [← he, byteRead, if_pos ha]
        · rw [updated, if_neg ha]
      · rfl
    have hm := hmc.trans hnew
    have hframe := sameOutside_updated k setBits clearBits
    exact ⟨hg, hm, by rw [hg]; exact hframe, by rw [hm]; exact hframe, hgv.trans hmv.symm⟩

/-- A key byte is waiting when the command byte is asked for. -/
def keyWaiting : Kbc := ⟨0x47, false, none, [.device .keyboard 0x1e, .answer]⟩

/-- Enabling the mouse then writes the key byte back as the command byte, with translation and
the keyboard interrupt switched off. -/
theorem update_fails_keyWaiting :
    (exec .normal .start keyWaiting (modifyCommandByte 0x02 0x20 0 0)).kbc.commandByte = 0x1e ∧
    ¬ ∀ (m : Mode) (k : Kbc) (setBits clearBits byte2 byte3 : UInt8),
      UpdateRight k setBits clearBits (run .normal (setCommandByteGated setBits clearBits) k)
        (exec .normal m k (modifyCommandByte setBits clearBits byte2 byte3)) := by
  refine ⟨by decide +kernel, fun h => ?_⟩
  have := (h .start keyWaiting 0x02 0x20 0 0).modified_frame
  exact absurd this (by unfold SameOutside; decide +kernel)

end VoodooPS2.Controller
