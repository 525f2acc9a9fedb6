import Mathlib.Algebra.Group.Nat.Defs
import Mathlib.Data.List.Basic

/-!
# Byte strings and fixed-width byte arrays

Byte strings are lists of octets. Reads past the end give zero, slices past the
end are short. `Octets n` is an array of exactly `n` octets: the length is part
of the value, so a key or an address of the wrong size cannot be built.
-/

set_option autoImplicit false

namespace ByteString

abbrev Bytes := List UInt8

/-- The octet at index `i`, zero past the end. -/
def byteAt (b : Bytes) (i : Nat) : UInt8 := b.getD i 0

/-- At most `n` octets starting at offset `off`. -/
def slice (b : Bytes) (off n : Nat) : Bytes := (b.drop off).take n

/-- Exactly `n` octets: `b` cut or padded with zeros on the right. -/
def fit (n : Nat) (b : Bytes) : Bytes := (b ++ List.replicate (n - b.length) 0).take n

/-- Overwrite `b` with `d` at offset `off`. -/
def splice (b : Bytes) (off : Nat) (d : Bytes) : Bytes :=
  b.take off ++ d ++ b.drop (off + d.length)

@[simp] theorem fit_length (n : Nat) (b : Bytes) : (fit n b).length = n := by
  simp only [fit, List.length_take, List.length_append, List.length_replicate]
  omega

theorem fit_eq_self {n : Nat} {b : Bytes} (h : b.length = n) : fit n b = b := by
  subst h
  simp [fit]

theorem slice_length (b : Bytes) (off n : Nat) :
    (slice b off n).length = min n (b.length - off) := by
  simp [slice]

theorem slice_append_left {a b : Bytes} {n : Nat} (h : a.length = n) :
    slice (a ++ b) 0 n = a := by
  subst h
  simp [slice]

theorem slice_append_right {a b : Bytes} {off n : Nat} (h : a.length ≤ off) :
    slice (a ++ b) off n = slice b (off - a.length) n := by
  simp [slice, List.drop_append, List.drop_eq_nil_of_le h]

theorem byteAt_append_left {a b : Bytes} {i : Nat} (h : i < a.length) :
    byteAt (a ++ b) i = byteAt a i := by
  simp [byteAt, List.getElem?_append_left h]

theorem byteAt_append_right {a b : Bytes} {i : Nat} (h : a.length ≤ i) :
    byteAt (a ++ b) i = byteAt b (i - a.length) := by
  simp [byteAt, List.getElem?_append_right h]

theorem byteAt_drop (b : Bytes) (n i : Nat) : byteAt (b.drop n) i = byteAt b (n + i) := by
  simp [byteAt, List.getElem?_drop]

theorem slice_slice {b : Bytes} {off n o m : Nat} (within : o + m ≤ n) :
    slice (slice b off n) o m = slice b (off + o) m := by
  unfold slice
  rw [List.drop_take, List.take_take, List.drop_drop, Nat.min_eq_left (by omega)]

theorem byteAt_slice {b : Bytes} {off n o : Nat} (within : o < n) :
    byteAt (slice b off n) o = byteAt b (off + o) := by
  rw [← byteAt_drop, slice, byteAt, byteAt, List.getD_eq_getElem?_getD,
    List.getD_eq_getElem?_getD, List.getElem?_take_of_lt within]

theorem slice_append_drop (b : Bytes) (off n : Nat) :
    slice b off n ++ b.drop (off + n) = b.drop off := by
  rw [slice, ← List.drop_drop, List.take_append_drop]

theorem take_append_slice (b : Bytes) (off n : Nat) :
    b.take off ++ slice b off n = b.take (off + n) := by
  rw [slice, List.take_add]

theorem modify_eq_self {b : Bytes} {i : Nat} {f : UInt8 → UInt8}
    (fixed : f (byteAt b i) = byteAt b i) : b.modify i f = b := by
  apply List.ext_getElem?
  intro j
  rw [List.getElem?_modify]
  by_cases here : i = j
  · subst here
    cases at_ : b[i]? with
    | none => rfl
    | some x =>
      have value : byteAt b i = x := by simp [byteAt, at_]
      rw [value] at fixed
      simp [fixed]
  · simp [here]

theorem slice_congr {a b : Bytes} {n off k : Nat} (agree : a.take n = b.take n)
    (within : off + k ≤ n) : slice a off k = slice b off k := by
  have cut (c : Bytes) : slice c off k = slice (c.take n) off k := by
    simp only [slice, List.drop_take, List.take_take]
    congr 1
    omega
  rw [cut a, cut b, agree]

theorem byteAt_congr {a b : Bytes} {n i : Nat} (agree : a.take n = b.take n)
    (within : i < n) : byteAt a i = byteAt b i := by
  have cut (c : Bytes) : byteAt c i = byteAt (c.take n) i := by
    simp [byteAt, within]
  rw [cut a, cut b, agree]

section Numbers

/-- Value of a byte string read most significant octet first. -/
def ofBe (b : Bytes) : Nat := b.foldl (fun acc x => acc * 256 + x.toNat) 0

/-- Value of a byte string read least significant octet first. -/
def ofLe : Bytes → Nat
  | [] => 0
  | x :: rest => x.toNat + 256 * ofLe rest

/-- The `n` low octets of `v`, least significant first. -/
def le : Nat → Nat → Bytes
  | 0, _ => []
  | n + 1, v => UInt8.ofNat v :: le n (v / 256)

/-- The `n` low octets of `v`, most significant first. -/
def be (n v : Nat) : Bytes := (le n v).reverse

@[simp] theorem le_length (n v : Nat) : (le n v).length = n := by
  induction n generalizing v with
  | zero => rfl
  | succ n ih => simp [le, ih]

@[simp] theorem be_length (n v : Nat) : (be n v).length = n := by
  simp [be]

theorem ofLe_le (n v : Nat) : ofLe (le n v) = v % 256 ^ n := by
  induction n generalizing v with
  | zero => simp [le, ofLe, Nat.mod_one]
  | succ n ih =>
    have head : (UInt8.ofNat v).toNat = v % 256 := by simp
    rw [le, ofLe, ih, head, Nat.pow_succ, Nat.mul_comm (256 ^ n) 256, Nat.mod_mul]

theorem ofBe_reverse (b : Bytes) : ofBe b.reverse = ofLe b := by
  induction b with
  | nil => rfl
  | cons x rest ih =>
    simp only [ofBe, List.reverse_cons, List.foldl_append, List.foldl_cons, List.foldl_nil]
    simp only [ofBe] at ih
    rw [ih, ofLe]
    omega

/-- Big-endian encoding followed by decoding is reduction modulo the width. -/
theorem ofBe_be (n v : Nat) : ofBe (be n v) = v % 256 ^ n := by
  rw [be, ofBe_reverse, ofLe_le]

theorem le_ofLe (b : Bytes) : le b.length (ofLe b) = b := by
  induction b with
  | nil => rfl
  | cons x rest ih =>
    have head : UInt8.ofNat (x.toNat + 256 * ofLe rest) = x := by
      apply UInt8.toNat_inj.mp
      have := x.toNat_lt
      simp only [UInt8.toNat_ofNat']
      omega
    have tail : (x.toNat + 256 * ofLe rest) / 256 = ofLe rest := by
      have := x.toNat_lt
      omega
    rw [List.length_cons, le, ofLe, head, tail, ih]

/-- Only the octets that are written count. -/
theorem le_mod (n v : Nat) : le n (v % 256 ^ n) = le n v := by
  have back := le_ofLe (le n v)
  rwa [le_length, ofLe_le] at back

theorem ofLe_lt (b : Bytes) : ofLe b < 256 ^ b.length := by
  induction b with
  | nil => simp [ofLe]
  | cons x rest ih =>
    have := x.toNat_lt
    rw [ofLe, List.length_cons, Nat.pow_succ]
    omega

theorem ofLe_append (a b : Bytes) : ofLe (a ++ b) = ofLe a + 256 ^ a.length * ofLe b := by
  induction a with
  | nil => simp [ofLe]
  | cons x rest ih =>
    rw [List.cons_append, ofLe, ofLe, ih, List.length_cons, Nat.pow_succ,
      Nat.mul_comm (256 ^ rest.length) 256, Nat.mul_assoc]
    omega

theorem le_append (m n v : Nat) : le (m + n) v = le m v ++ le n (v / 256 ^ m) := by
  induction m generalizing v with
  | zero => simp [le]
  | succ m ih =>
    have tail : v / 256 / 256 ^ m = v / 256 ^ (m + 1) := by
      rw [Nat.div_div_eq_div_mul, Nat.pow_succ, Nat.mul_comm 256]
    rw [Nat.add_right_comm, le, ih, tail, le, List.cons_append]

theorem ofBe_append (a b : Bytes) : ofBe (a ++ b) = ofBe a * 256 ^ b.length + ofBe b := by
  have swap : ∀ c : Bytes, ofBe c = ofLe c.reverse := fun c => by
    rw [← ofBe_reverse, List.reverse_reverse]
  rw [swap, swap, swap, List.reverse_append, ofLe_append, List.length_reverse, Nat.mul_comm]
  omega

theorem ofBe_lt (b : Bytes) : ofBe b < 256 ^ b.length := by
  have lt := ofLe_lt b.reverse
  rwa [← ofBe_reverse, List.reverse_reverse, List.length_reverse] at lt

theorem be_ofBe (b : Bytes) : be b.length (ofBe b) = b := by
  have inverse := le_ofLe b.reverse
  rw [← ofBe_reverse, List.reverse_reverse, List.length_reverse] at inverse
  rw [be, inverse, List.reverse_reverse]

theorem be_append (m n v : Nat) : be (m + n) v = be n (v / 256 ^ m) ++ be m v := by
  rw [be, le_append, List.reverse_append]
  rfl

theorem slice_add (b : Bytes) (off m n : Nat) :
    slice b off (m + n) = slice b off m ++ slice b (off + m) n := by
  rw [slice, slice, slice, List.take_add, List.drop_drop]

/-- Every bit of a number stands in one octet. -/
theorem testBit_ofLe (b : Bytes) (j : Nat) {t : Nat} (octet : t < 8) :
    (ofLe b).testBit (8 * j + t) = (byteAt b j).toNat.testBit t := by
  induction b generalizing j with
  | nil => simp [ofLe, byteAt]
  | cons x rest ih =>
    have split := Nat.testBit_two_pow_mul_add (ofLe rest) x.toNat_lt (8 * j + t)
    rw [Nat.add_comm] at split
    rw [ofLe, split]
    cases j with
    | zero =>
      rw [if_pos (by omega), Nat.mul_zero, Nat.zero_add]
      rfl
    | succ j =>
      have behind : 8 * (j + 1) + t - 8 = 8 * j + t := by omega
      rw [if_neg (by omega), behind, ih]
      rfl

theorem testBit_ofBe {b : Bytes} {j t : Nat} (inside : j < b.length) (octet : t < 8) :
    (ofBe b).testBit (8 * (b.length - 1 - j) + t) = (byteAt b j).toNat.testBit t := by
  have mirror : byteAt b.reverse (b.length - 1 - j) = byteAt b j := by
    have back : b.length - 1 - (b.length - 1 - j) = j := by omega
    unfold byteAt
    rw [List.getD_eq_getElem?_getD, List.getD_eq_getElem?_getD,
      List.getElem?_reverse (by omega), back]
  have bit := testBit_ofLe b.reverse (b.length - 1 - j) octet
  rwa [← ofBe_reverse, List.reverse_reverse, mirror] at bit

end Numbers

/-- A byte array of exactly `n` octets. -/
structure Octets (n : Nat) where
  bytes : Bytes
  length_eq : bytes.length = n
deriving DecidableEq

namespace Octets

variable {n : Nat}

@[ext] theorem ext {a b : Octets n} (h : a.bytes = b.bytes) : a = b := by
  cases a
  cases b
  cases h
  rfl

@[simp] theorem length_bytes (a : Octets n) : a.bytes.length = n := a.length_eq

/-- The array holding `b`, cut or zero-padded to `n` octets. -/
def of (n : Nat) (b : Bytes) : Octets n := ⟨fit n b, fit_length n b⟩

/-- The all-zero array. -/
def zero (n : Nat) : Octets n := ⟨List.replicate n 0, by simp⟩

instance : Inhabited (Octets n) := ⟨zero n⟩

theorem of_bytes (a : Octets n) : of n a.bytes = a :=
  Octets.ext (fit_eq_self a.length_eq)

theorem of_bytes_of_length {b : Bytes} (h : b.length = n) : (of n b).bytes = b :=
  fit_eq_self h

end Octets

end ByteString
