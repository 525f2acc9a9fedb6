import Mathlib.Algebra.Group.Nat.Defs
import Mathlib.Data.Nat.Basic

/-!
# Fields of a word

A run of ones cuts a field out of a word, and fields that do not overlap are
put into a word by or as they would be by addition.
-/

set_option autoImplicit false

namespace Fields

/-- A run of ones cuts a field out of a number. -/
theorem and_field (v k s : Nat) : v &&& ((2 ^ k - 1) <<< s) = (v / 2 ^ s % 2 ^ k) <<< s := by
  rw [← Nat.shiftRight_eq_div_pow, ← Nat.and_two_pow_sub_one_eq_mod]
  apply Nat.eq_of_testBit_eq
  intro i
  rw [Nat.testBit_and, Nat.testBit_shiftLeft, Nat.testBit_shiftLeft, Nat.testBit_and,
    Nat.testBit_shiftRight]
  by_cases above : s ≤ i
  · rw [Nat.add_sub_cancel' above, decide_eq_true above, Bool.true_and, Bool.true_and]
  · rw [decide_eq_false above, Bool.false_and, Bool.false_and, Bool.and_false]

/-- What is put above everything that is there adds to it. -/
theorem or_field {a v s : Nat} (below : a < 2 ^ s) : a ||| (v <<< s) = a + v * 2 ^ s := by
  rw [Nat.or_comm, ← Nat.shiftLeft_add_eq_or_of_lt below, Nat.shiftLeft_eq, Nat.add_comm]

section Cut

variable {k s : Nat}

theorem field32 {w m v : UInt32} (mask : m.toNat = (2 ^ k - 1) <<< s) (shift : v.toNat = s)
    (small : s < 32) : ((w &&& m) >>> v).toNat = w.toNat / 2 ^ s % 2 ^ k := by
  rw [UInt32.toNat_shiftRight, UInt32.toNat_and, mask, and_field, shift, Nat.mod_eq_of_lt small,
    Nat.shiftLeft_shiftRight]

theorem clear32 {w m : UInt32} (mask : m.toNat = (2 ^ k - 1) <<< s) :
    w &&& m = 0 ↔ w.toNat / 2 ^ s % 2 ^ k = 0 := by
  rw [← UInt32.toNat_inj, UInt32.toNat_and, mask, and_field]
  exact Nat.shiftLeft_eq_zero_iff

theorem field16 {w m v : UInt16} (mask : m.toNat = (2 ^ k - 1) <<< s) (shift : v.toNat = s)
    (small : s < 16) : ((w &&& m) >>> v).toNat = w.toNat / 2 ^ s % 2 ^ k := by
  rw [UInt16.toNat_shiftRight, UInt16.toNat_and, mask, and_field, shift, Nat.mod_eq_of_lt small,
    Nat.shiftLeft_shiftRight]

theorem clear16 {w m : UInt16} (mask : m.toNat = (2 ^ k - 1) <<< s) :
    w &&& m = 0 ↔ w.toNat / 2 ^ s % 2 ^ k = 0 := by
  rw [← UInt16.toNat_inj, UInt16.toNat_and, mask, and_field]
  exact Nat.shiftLeft_eq_zero_iff

/-- A field that is moved down first and then cut. -/
theorem low32 {w m v : UInt32} (mask : m.toNat = 2 ^ k - 1) (shift : v.toNat = s)
    (small : s < 32) : ((w >>> v) &&& m).toNat = w.toNat / 2 ^ s % 2 ^ k := by
  rw [UInt32.toNat_and, UInt32.toNat_shiftRight, mask, shift, Nat.mod_eq_of_lt small,
    Nat.shiftRight_eq_div_pow, Nat.and_two_pow_sub_one_eq_mod]

end Cut

section Put

variable {a b s : Nat}

theorem or32 {w v n : UInt32} (low : w.toNat = a) (high : v.toNat = b) (shift : n.toNat = s)
    (small : s < 32) (below : a < 2 ^ s) (fits : b * 2 ^ s < 2 ^ 32) :
    (w ||| (v <<< n)).toNat = a + b * 2 ^ s := by
  rw [← Nat.shiftLeft_eq] at fits
  rw [UInt32.toNat_or, UInt32.toNat_shiftLeft, low, high, shift, Nat.mod_eq_of_lt small,
    Nat.mod_eq_of_lt fits, or_field below]

theorem or16 {w v n : UInt16} (low : w.toNat = a) (high : v.toNat = b) (shift : n.toNat = s)
    (small : s < 16) (below : a < 2 ^ s) (fits : b * 2 ^ s < 2 ^ 16) :
    (w ||| (v <<< n)).toNat = a + b * 2 ^ s := by
  rw [← Nat.shiftLeft_eq] at fits
  rw [UInt16.toNat_or, UInt16.toNat_shiftLeft, low, high, shift, Nat.mod_eq_of_lt small,
    Nat.mod_eq_of_lt fits, or_field below]

theorem or8 {w v n : UInt8} (low : w.toNat = a) (high : v.toNat = b) (shift : n.toNat = s)
    (small : s < 8) (below : a < 2 ^ s) (fits : b * 2 ^ s < 2 ^ 8) :
    (w ||| (v <<< n)).toNat = a + b * 2 ^ s := by
  rw [← Nat.shiftLeft_eq] at fits
  rw [UInt8.toNat_or, UInt8.toNat_shiftLeft, low, high, shift, Nat.mod_eq_of_lt small,
    Nat.mod_eq_of_lt fits, or_field below]

end Put

end Fields
