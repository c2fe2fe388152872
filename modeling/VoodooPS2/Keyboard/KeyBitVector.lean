import Mathlib.Tactic
import Mathlib.Logic.Function.Basic

/-! # The key bit vector (`KBV_*` in `VoodooPS2Keyboard.h`)

One bit for each key code, in words of 32 bits: set while the key is down.  `isKeyDown_keyDown`
and `isKeyDown_keyUp` say that the word arithmetic of the macros is that of a set of codes. -/

namespace VoodooPS2.Keyboard

/-- `UInt32 _keyBitVector[KBV_NUNITS]`. -/
abbrev KeyBitVector := ℕ → BitVec 32

namespace KeyBitVector

def bitsMask : ℕ := 31
def bitsShift : ℕ := 5

/-- `KBV_KEYDOWN(n)`. -/
def keyDown (v : KeyBitVector) (n : ℕ) : KeyBitVector :=
  Function.update v (n >>> bitsShift) (v (n >>> bitsShift) ||| 1#32 <<< (n &&& bitsMask))

/-- `KBV_KEYUP(n)`. -/
def keyUp (v : KeyBitVector) (n : ℕ) : KeyBitVector :=
  Function.update v (n >>> bitsShift) (v (n >>> bitsShift) &&& ~~~(1#32 <<< (n &&& bitsMask)))

/-- `KBV_IS_KEYDOWN(n)`. -/
def isKeyDown (v : KeyBitVector) (n : ℕ) : Bool :=
  v (n >>> bitsShift) &&& 1#32 <<< (n &&& bitsMask) != 0#32

/-- `bzero(_keyBitVector, sizeof(_keyBitVector))`. -/
def zero : KeyBitVector := fun _ => 0#32

theorem and_bitsMask (n : ℕ) : n &&& bitsMask = n % 32 := Nat.and_two_pow_sub_one_eq_mod n 5

theorem shiftRight_bitsShift (n : ℕ) : n >>> bitsShift = n / 32 := Nat.shiftRight_eq_div_pow n 5

/-- Two codes share a bit only if they are the same. -/
theorem eq_of_word_bit {m n : ℕ} (hw : n >>> bitsShift = m >>> bitsShift)
    (hb : n &&& bitsMask = m &&& bitsMask) : n = m := by
  rw [shiftRight_bitsShift, shiftRight_bitsShift] at hw
  rw [and_bitsMask, and_bitsMask] at hb
  omega

theorem bit_lt (n : ℕ) : n &&& bitsMask < 32 := by
  rw [and_bitsMask]
  exact Nat.mod_lt n (by decide)

theorem one_shiftLeft (i : ℕ) : 1#32 <<< i = BitVec.twoPow 32 i := (BitVec.twoPow_eq 32 i).symm

/-- The test reads the bit of its code. -/
theorem isKeyDown_eq (v : KeyBitVector) (n : ℕ) :
    isKeyDown v n = (v (n >>> bitsShift)).getLsbD (n &&& bitsMask) := by
  have hlt := bit_lt n
  unfold isKeyDown
  rw [one_shiftLeft, BitVec.and_twoPow]
  cases hb : (v (n >>> bitsShift)).getLsbD (n &&& bitsMask) with
  | false => rfl
  | true =>
      rw [if_pos rfl, bne_iff_ne]
      intro h0
      have := congrArg (fun w => w.getLsbD (n &&& bitsMask)) h0
      simp [hlt] at this

theorem isKeyDown_keyDown (v : KeyBitVector) (m n : ℕ) :
    isKeyDown (keyDown v m) n = (decide (n = m) || isKeyDown v n) := by
  rw [isKeyDown_eq, isKeyDown_eq]
  unfold keyDown
  by_cases hw : n >>> bitsShift = m >>> bitsShift
  · rw [hw, Function.update_self, BitVec.getLsbD_or, one_shiftLeft, BitVec.getLsbD_twoPow,
      decide_eq_true (bit_lt m), Bool.true_and, Bool.or_comm]
    congr 1
    apply decide_eq_decide.mpr
    constructor
    · intro hb
      exact eq_of_word_bit hw hb.symm
    · rintro rfl
      rfl
  · have hne : n ≠ m := fun h => hw (by rw [h])
    rw [Function.update_of_ne hw, decide_eq_false hne, Bool.false_or]

theorem isKeyDown_keyUp (v : KeyBitVector) (m n : ℕ) :
    isKeyDown (keyUp v m) n = (!decide (n = m) && isKeyDown v n) := by
  rw [isKeyDown_eq, isKeyDown_eq]
  unfold keyUp
  by_cases hw : n >>> bitsShift = m >>> bitsShift
  · rw [hw, Function.update_self, BitVec.getLsbD_and, BitVec.getLsbD_not, one_shiftLeft,
      BitVec.getLsbD_twoPow, decide_eq_true (bit_lt m), decide_eq_true (bit_lt n), Bool.true_and,
      Bool.true_and, Bool.and_comm]
    congr 2
    apply decide_eq_decide.mpr
    constructor
    · intro hb
      exact eq_of_word_bit hw hb.symm
    · rintro rfl
      rfl
  · have hne : n ≠ m := fun h => hw (by rw [h])
    rw [Function.update_of_ne hw, decide_eq_false hne, Bool.not_false, Bool.true_and]

theorem isKeyDown_zero (n : ℕ) : isKeyDown zero n = false := by
  unfold isKeyDown zero
  simp

end KeyBitVector
end VoodooPS2.Keyboard
