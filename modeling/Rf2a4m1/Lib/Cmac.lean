import Mathlib.Algebra.CharP.Two
import Mathlib.Algebra.Field.ZMod
import Mathlib.Data.Nat.Bitwise
import Mathlib.RingTheory.AdjoinRoot
import Mathlib.Tactic.IntervalCases
import Rf2a4m1.Lib.Ccm

/-!
# Cipher-based message authentication

The code over any cipher on blocks of sixteen octets. All blocks but the last
are chained as they are. The last one is put on the first subkey when it is
complete, and otherwise filled up with a one and zeros and put on the second.
-/

set_option autoImplicit false

namespace Cmac

open ByteString

/-- The number doubled in the field of 2^128 elements: one bit further, and reduced when a bit
falls out. -/
def doubleNat (v : Nat) : Nat := 2 * v % 2 ^ 128 ^^^ if v.testBit 127 then 0x87 else 0

def double (b : Octets 16) : Octets 16 := Octets.of 16 (be 16 (doubleNat (ofBe b.bytes)))

def pad (r : Bytes) : Octets 16 := Octets.of 16 (r ++ [0x80])

def lastBlock (k1 k2 : Octets 16) (r : Bytes) : Octets 16 :=
  if r.length = 16 then Octets.of 16 (Ccm.xor r k1.bytes)
  else Octets.of 16 (Ccm.xor (pad r).bytes k2.bytes)

section Mode

variable (cipher : Octets 16 → Octets 16)

def subkey1 : Octets 16 := double (cipher (Octets.zero 16))

def subkey2 : Octets 16 := double (subkey1 cipher)

/-- The empty message has one block, an incomplete one. -/
def mac (m : Bytes) : Octets 16 :=
  let full := 16 * ((m.length - 1) / 16)
  Ccm.chain cipher (Octets.zero 16)
    (Ccm.blocks (m.take full) ++ [lastBlock (subkey1 cipher) (subkey2 cipher) (m.drop full)])

end Mode

section Apart

variable {cipher : Octets 16 → Octets 16}

/-- Two messages that differ in one block, not the last one, differ in their codes. -/
theorem mac_block (inj : Function.Injective cipher) {a : Bytes} (whole : a.length % 16 = 0)
    {x y : Octets 16} {rest : Bytes} (more : rest ≠ [])
    (same : mac cipher (a ++ (x.bytes ++ rest)) = mac cipher (a ++ (y.bytes ++ rest))) : x = y := by
  have some : 0 < rest.length := List.length_pos_iff.2 more
  have full (z : Octets 16) : 16 * (((a ++ (z.bytes ++ rest)).length - 1) / 16) =
      a.length + (z.bytes.length + 16 * ((rest.length - 1) / 16)) := by
    rw [List.length_append, List.length_append, z.length_bytes]
    omega
  unfold mac at same
  dsimp only at same
  rw [full, full, List.take_length_add_append, List.take_length_add_append,
    List.take_length_add_append, List.take_length_add_append, List.drop_length_add_append,
    List.drop_length_add_append, List.drop_length_add_append, List.drop_length_add_append,
    Ccm.blocks_append whole, Ccm.blocks_append whole, Ccm.blocks_cons, Ccm.blocks_cons,
    List.append_assoc, List.append_assoc] at same
  exact Ccm.chain_block inj same

end Apart

section Double

theorem doubleNat_lt (v : Nat) : doubleNat v < 2 ^ 128 := by
  unfold doubleNat
  apply Nat.xor_lt_two_pow
  · exact Nat.mod_lt _ (by decide)
  · split <;> decide

theorem ofBe_double (b : Octets 16) : ofBe (double b).bytes = doubleNat (ofBe b.bytes) := by
  unfold double
  rw [Octets.of_bytes_of_length (be_length 16 _), ofBe_be]
  exact Nat.mod_eq_of_lt (doubleNat_lt _)

theorem testBit_doubleNat (v : Nat) {i : Nat} (within : i < 128) :
    (doubleNat v).testBit i =
      ((decide (1 ≤ i) && v.testBit (i - 1)) ^^ (v.testBit 127 && Nat.testBit 0x87 i)) := by
  unfold doubleNat
  have shifted : (2 * v % 2 ^ 128).testBit i = (decide (1 ≤ i) && v.testBit (i - 1)) := by
    rw [Nat.testBit_mod_two_pow, decide_eq_true within, Bool.true_and]
    have bit := Nat.testBit_two_pow_mul (a := v) (i := 1) (j := i)
    simpa using bit
  rw [Nat.testBit_xor, shifted]
  cases v.testBit 127 <;> simp

end Double

section Field

open Polynomial

/-- The bits of a number as coefficients over the field of two elements. -/
noncomputable def poly (v : Nat) : (ZMod 2)[X] :=
  ∑ i ∈ Finset.range 128, if v.testBit i then X ^ i else 0

/-- The polynomial by which the field of 2^128 elements is cut out. -/
noncomputable def modulus : (ZMod 2)[X] := X ^ 128 + X ^ 7 + X ^ 2 + X + 1

theorem poly_xor (v w : Nat) : poly (v ^^^ w) = poly v + poly w := by
  unfold poly
  rw [← Finset.sum_add_distrib]
  apply Finset.sum_congr rfl
  intro i _
  rw [Nat.testBit_xor]
  cases v.testBit i <;> cases w.testBit i <;> simp [CharTwo.add_self_eq_zero]

theorem poly_zero : poly 0 = 0 := by
  unfold poly
  apply Finset.sum_eq_zero
  intro i _
  rw [Nat.zero_testBit, if_neg Bool.false_ne_true]

theorem poly_reduction : poly 0x87 = X ^ 7 + X ^ 2 + X + 1 := by
  have high (i : Nat) (past : 8 ≤ i) : Nat.testBit 0x87 i = false :=
    Nat.testBit_lt_two_pow (Nat.lt_of_lt_of_le (by decide) (Nat.pow_le_pow_right (by decide) past))
  have cut : poly 0x87 = ∑ i ∈ Finset.range 8, if Nat.testBit 0x87 i then X ^ i else 0 := by
    symm
    apply Finset.sum_subset (Finset.range_mono (by decide))
    intro i _ outside
    rw [high i (by simpa using outside)]
    rfl
  rw [cut]
  simp +decide [Finset.sum_range_succ]
  ring

/-- Without reduction the highest bit is lost. -/
theorem poly_shift (v : Nat) :
    poly (2 * v % 2 ^ 128) + (if v.testBit 127 then X ^ 128 else 0) = X * poly v := by
  have bit (i : Nat) (within : i < 128) :
      (2 * v % 2 ^ 128).testBit i = (decide (1 ≤ i) && v.testBit (i - 1)) := by
    rw [Nat.testBit_mod_two_pow, decide_eq_true within, Bool.true_and]
    have bit := Nat.testBit_two_pow_mul (a := v) (i := 1) (j := i)
    simpa using bit
  have shifted : poly (2 * v % 2 ^ 128) =
      ∑ i ∈ Finset.range 127, if v.testBit i then X ^ (i + 1) else 0 := by
    unfold poly
    rw [Finset.sum_range_succ', bit 0 (by decide)]
    simp only [Nat.le_zero_eq, one_ne_zero, decide_false, Bool.false_and, Bool.false_eq_true,
      if_false, add_zero]
    apply Finset.sum_congr rfl
    intro i within
    rw [bit (i + 1) (by have := Finset.mem_range.1 within; omega)]
    simp
  have moved : X * poly v = ∑ i ∈ Finset.range 128, if v.testBit i then X ^ (i + 1) else 0 := by
    unfold poly
    rw [Finset.mul_sum]
    apply Finset.sum_congr rfl
    intro i _
    split
    · exact (pow_succ' X i).symm
    · exact mul_zero X
  have last (f : Nat → (ZMod 2)[X]) :
      ∑ i ∈ Finset.range 128, f i = ∑ i ∈ Finset.range 127, f i + f 127 :=
    Finset.sum_range_succ f 127
  rw [shifted, moved, last]

theorem poly_modulus : poly 0x87 + modulus = X ^ 128 := by
  have twice := CharTwo.add_self_eq_zero (X ^ 7 + X ^ 2 + X + 1 : (ZMod 2)[X])
  rw [poly_reduction]
  unfold modulus
  generalize (X : (ZMod 2)[X]) ^ 128 = top
  linear_combination twice

theorem poly_carry {carry : Bool} {high : (ZMod 2)[X]} (is : poly 0x87 + modulus = high) :
    poly (if carry then 0x87 else 0) + (if carry then modulus else 0) =
      if carry then high else 0 := by
  by_cases carried : carry = true
  · rw [if_pos carried, if_pos carried, if_pos carried]
    exact is
  · rw [if_neg carried, if_neg carried, if_neg carried, poly_zero, add_zero]

theorem poly_double (v : Nat) :
    X * poly v = poly (doubleNat v) + if v.testBit 127 then modulus else 0 := by
  unfold doubleNat
  rw [poly_xor, ← poly_shift, add_assoc, poly_carry poly_modulus]

/-- Doubling is multiplication by the root of the modulus. -/
theorem double_root (v : Nat) :
    AdjoinRoot.mk modulus (poly (doubleNat v)) =
      AdjoinRoot.root modulus * AdjoinRoot.mk modulus (poly v) := by
  rw [← AdjoinRoot.mk_X, ← map_mul, poly_double, map_add]
  split <;> simp

end Field

end Cmac
