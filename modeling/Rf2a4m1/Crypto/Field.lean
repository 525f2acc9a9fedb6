import Mathlib.NumberTheory.LegendreSymbol.Basic
import Rf2a4m1.Crypto.Limbs
import Rf2a4m1.Lib.Primality

/-!
# The prime field in Montgomery form

Limbs represent the field element that `2^256` takes to their number. Every
operation on limbs is the operation of the field on what they represent, and no
element has two representations.
-/

set_option autoImplicit false

namespace Rf2a4m1

/-- The order of the group of points. -/
@[irreducible] def p256Order : Nat := 0xffffffff00000000ffffffffffffffffbce6faada7179e84f3b9cac2fc632551

theorem limbsVal_p256N : limbsVal p256N = p256Order := by
  unfold p256Order
  simp [p256N]

/-- A certificate for the field's modulus and the group's order. -/
def p256Primes : List Primality.Line := [
  ⟨115792089210356248762697446949407573530086143415290314195533631308867097853951, 6,
    [2, 3, 5, 5, 17, 257, 641, 1531, 65537, 490463, 6700417,
     835945042244614951780389953367877943453916927241]⟩,
  ⟨115792089210356248762697446949407573529996955224135760342422259061068512044369, 7,
    [2, 2, 2, 2, 3, 71, 131, 373, 3407, 17449, 38189, 187019741, 622491383, 1002328039319,
     2624747550333869278416773953]⟩,
  ⟨835945042244614951780389953367877943453916927241, 11,
    [2, 2, 2, 3, 3, 3, 5, 774023187263532362759620327192479577272145303]⟩,
  ⟨774023187263532362759620327192479577272145303, 3,
    [2, 3, 3, 2411, 34282281433, 11290956913871, 46076956964474543]⟩,
  ⟨2624747550333869278416773953, 7, [2, 2, 2, 2, 2, 2, 3, 3, 1297, 16879, 208150935158385979]⟩,
  ⟨208150935158385979, 2, [2, 3, 11, 43, 127, 3023, 191039911]⟩,
  ⟨46076956964474543, 5, [2, 23, 18169, 78283, 704251]⟩,
  ⟨11290956913871, 13, [2, 5, 17, 66417393611]⟩,
  ⟨1002328039319, 19, [2, 126241, 3969899]⟩,
  ⟨66417393611, 6, [2, 5, 53, 173, 197, 3677]⟩,
  ⟨34282281433, 17, [2, 2, 2, 3, 7, 204061199]⟩,
  ⟨622491383, 5, [2, 311245691]⟩,
  ⟨311245691, 2, [2, 5, 7, 17, 29, 29, 311]⟩,
  ⟨204061199, 11, [2, 11, 23, 107, 3769]⟩,
  ⟨191039911, 3, [2, 3, 5, 41, 155317]⟩,
  ⟨187019741, 2, [2, 2, 5, 9350987]⟩,
  ⟨9350987, 2, [2, 17, 229, 1201]⟩,
  ⟨6700417, 5, [2, 2, 2, 2, 2, 2, 2, 3, 17449]⟩,
  ⟨3969899, 2, [2, 19, 104471]⟩,
  ⟨704251, 2, [2, 3, 3, 5, 5, 5, 313]⟩,
  ⟨490463, 14, [2, 7, 53, 661]⟩,
  ⟨155317, 5, [2, 2, 3, 7, 43, 43]⟩,
  ⟨126241, 7, [2, 2, 2, 2, 2, 3, 5, 263]⟩,
  ⟨104471, 11, [2, 5, 31, 337]⟩,
  ⟨78283, 3, [2, 3, 3, 4349]⟩]

theorem p256Primes_holds : Primality.holds 256 264 p256Primes = true := by decide +kernel

theorem p256Prime_prime : p256Prime.Prime := by
  apply Primality.prime_of_holds p256Primes_holds
  unfold p256Prime
  simp [p256Primes]

theorem p256Order_prime : p256Order.Prime := by
  apply Primality.prime_of_holds p256Primes_holds
  unfold p256Order
  simp [p256Primes]

instance : Fact p256Prime.Prime := ⟨p256Prime_prime⟩

abbrev Fp := ZMod p256Prime

theorem two_ne_zero_fp : (2 : Fp) ≠ 0 := by
  intro zero
  have divides := (ZMod.natCast_eq_zero_iff 2 p256Prime).1 (by exact_mod_cast zero)
  have large : 2 < p256Prime := by
    unfold p256Prime
    norm_num
  exact absurd (Nat.le_of_dvd Nat.two_pos divides) (Nat.not_le.2 large)

theorem radix_ne_zero : (2 : Fp) ^ 256 ≠ 0 := pow_ne_zero 256 two_ne_zero_fp

/-- The canonical number of a field element. -/
theorem val_lt_fp (x : Fp) : x.val < p256Prime := ZMod.val_lt x

/-- Limbs that represent a field element. -/
structure IsMont (a : Fe) (x : Fp) : Prop extends Reduced a where
  val : (limbsVal a : Fp) = x * 2 ^ 256

variable {a b : Fe} {x y : Fp}

theorem cast_injective {m n : Nat} (hm : m < p256Prime) (hn : n < p256Prime)
    (eq : (m : Fp) = n) : m = n := by
  have := (ZMod.natCast_eq_natCast_iff' m n p256Prime).1 eq
  rwa [Nat.mod_eq_of_lt hm, Nat.mod_eq_of_lt hn] at this

/-- An element has one representation. -/
theorem IsMont.unique (ha : IsMont a x) (hb : IsMont b x) : a = b :=
  ha.toReduced.ext hb.toReduced (cast_injective ha.lt hb.lt (ha.val.trans hb.val.symm))

/-- Limbs represent one element. -/
theorem IsMont.injective (ha : IsMont a x) (ha' : IsMont a y) : x = y :=
  mul_right_cancel₀ radix_ne_zero (ha.val.symm.trans ha'.val)

theorem isMont_iff (ha : IsMont a x) (hb : IsMont b y) : a = b ↔ x = y := by
  constructor
  · rintro rfl
    exact ha.injective hb
  · rintro rfl
    exact ha.unique hb

section Operations

theorem IsMont.add (ha : IsMont a x) (hb : IsMont b y) : IsMont (feAdd a b) (x + y) := by
  obtain ⟨reduced, val⟩ := feAdd_val ha.toReduced hb.toReduced
  refine ⟨reduced, ?_⟩
  rw [val, ZMod.natCast_mod, Nat.cast_add, ha.val, hb.val]
  ring

theorem IsMont.sub (ha : IsMont a x) (hb : IsMont b y) : IsMont (feSub a b) (x - y) := by
  obtain ⟨reduced, val⟩ := feSub_val ha.toReduced hb.toReduced
  have le : limbsVal b ≤ limbsVal a + p256Prime := Nat.le_add_left_of_le hb.lt.le
  refine ⟨reduced, ?_⟩
  rw [val, ZMod.natCast_mod, Nat.cast_sub le, Nat.cast_add, ZMod.natCast_self, ha.val, hb.val]
  ring

theorem feMul_cast (ha : Reduced a) (hb : Reduced b) :
    (limbsVal (feMul a b) : Fp) * 2 ^ 256 = limbsVal a * limbsVal b := by
  have val := (feMul_val ha hb).2
  have cast := (ZMod.natCast_eq_natCast_iff' _ _ p256Prime).2 val
  rwa [Nat.cast_mul, Nat.cast_mul, Nat.cast_pow, Nat.cast_ofNat] at cast

theorem IsMont.mul (ha : IsMont a x) (hb : IsMont b y) : IsMont (feMul a b) (x * y) := by
  refine ⟨(feMul_val ha.toReduced hb.toReduced).1, mul_right_cancel₀ radix_ne_zero ?_⟩
  rw [feMul_cast ha.toReduced hb.toReduced, ha.val, hb.val]
  ring

theorem IsMont.sqr (ha : IsMont a x) : IsMont (feSqr a) (x * x) := ha.mul ha

theorem feZero_reduced : Reduced feZero ∧ limbsVal feZero = 0 :=
  ⟨⟨rfl, p256Prime_pos⟩, rfl⟩

theorem isMont_zero : IsMont feZero 0 :=
  ⟨feZero_reduced.1, by rw [feZero_reduced.2, Nat.cast_zero, zero_mul]⟩

/-- Numbers that agree modulo the prime are one element. -/
theorem fp_eq {m n : Nat} (same : m % p256Prime = n % p256Prime) : (m : Fp) = n :=
  (ZMod.natCast_eq_natCast_iff m n p256Prime).2 same

theorem isMont_one : IsMont montOne 1 := by
  have below : limbsVal montOne < p256Prime := by
    unfold p256Prime
    simp [montOne]
  have radix : limbsVal montOne % p256Prime = 2 ^ 256 % p256Prime := by
    unfold p256Prime
    simp [montOne]
  refine ⟨⟨rfl, below⟩, ?_⟩
  rw [fp_eq radix, one_mul, Nat.cast_pow]
  rfl

/-- The curve's constant. -/
def curveB : Fp := 0x5ac635d8aa3a93e7b3ebbd55769886bc651d06b0cc53b0f63bce3c3e27d2604b

theorem isMont_b : IsMont montB curveB := by
  have below : limbsVal montB < p256Prime := by
    unfold p256Prime
    simp [montB]
  have product : limbsVal montB % p256Prime =
      0x5ac635d8aa3a93e7b3ebbd55769886bc651d06b0cc53b0f63bce3c3e27d2604b * 2 ^ 256 % p256Prime := by
    unfold p256Prime
    simp [montB]
  refine ⟨⟨rfl, below⟩, ?_⟩
  rw [fp_eq product, Nat.cast_mul, Nat.cast_pow]
  rfl

theorem IsMont.isZero (ha : IsMont a x) : feIsZero a = if x = 0 then 1 else 0 := by
  have zero : limbsVal a = 0 ↔ x = 0 := by
    have same := isMont_iff ha isMont_zero
    rw [← same]
    constructor
    · intro val
      exact ha.toReduced.ext isMont_zero.toReduced (val.trans feZero_reduced.2.symm)
    · rintro rfl
      exact feZero_reduced.2
  rw [feIsZero_eq]
  simp only [zero]

theorem IsMont.eq (ha : IsMont a x) (hb : IsMont b y) :
    feEq a b = if x = y then 1 else 0 := by
  rw [feEq_eq (ha.length.trans hb.length.symm)]
  simp only [isMont_iff ha hb]

/-- Into Montgomery form. -/
theorem IsMont.toMont (ha : Reduced a) : IsMont (feToMont a) (limbsVal a) := by
  have radix : Reduced montR2 := by
    refine ⟨rfl, ?_⟩
    unfold p256Prime
    simp [montR2]
  refine ⟨(feMul_val ha radix).1, mul_right_cancel₀ radix_ne_zero ?_⟩
  have square : (limbsVal montR2 : Fp) = 2 ^ 256 * 2 ^ 256 := by
    have same : limbsVal montR2 % p256Prime = 2 ^ 256 * 2 ^ 256 % p256Prime := by
      unfold p256Prime
      simp [montR2]
    rw [fp_eq same, Nat.cast_mul, Nat.cast_pow]
    rfl
  rw [feToMont, feMul_cast ha radix, square]
  ring

/-- Out of Montgomery form. -/
theorem IsMont.fromMont (ha : IsMont a x) :
    (feFromMont a).length = 8 ∧ limbsVal (feFromMont a) = x.val := by
  have unit : limbsVal (1 :: List.replicate 7 0) = 1 := rfl
  have one : Reduced (1 :: List.replicate 7 0) := by
    refine ⟨rfl, ?_⟩
    rw [unit]
    unfold p256Prime
    norm_num
  have reduced := (feMul_val ha.toReduced one).1
  refine ⟨reduced.length, cast_injective reduced.lt (val_lt_fp x) ?_⟩
  apply mul_right_cancel₀ radix_ne_zero
  rw [feFromMont, feMul_cast ha.toReduced one, unit, Nat.cast_one, ha.val, ZMod.natCast_zmod_val, mul_one]

end Operations

section Powers

/-- The exponent's bits are spread over its limbs. -/
theorem limbBit (exp : Fe) {i : Nat} (inside : i < 32 * exp.length) :
    ((exp.getD (i / 32) 0 >>> UInt32.ofNat (i % 32)) &&& 1).toNat =
      ((limbsVal exp).testBit i).toNat := by
  induction exp generalizing i with
  | nil => exact absurd inside (Nat.not_lt_zero i)
  | cons x xs ih =>
    have split := Nat.testBit_two_pow_mul_add (limbsVal xs) x.toNat_lt i
    rw [Nat.add_comm] at split
    rw [limbsVal_cons, split]
    by_cases low : i < 32
    · have small : (UInt32.ofNat (i % 32)).toNat % 32 = i := by
        rw [UInt32.toNat_ofNat']
        omega
      rw [if_pos low, Nat.div_eq_of_lt low, List.getD_cons_zero, UInt32.toNat_and,
        UInt32.toNat_shiftRight, small, Nat.toNat_testBit, Nat.shiftRight_eq_div_pow]
      exact Nat.and_one_is_mod _
    · have shifted : i / 32 = (i - 32) / 32 + 1 := by omega
      have same : i % 32 = (i - 32) % 32 := by omega
      rw [if_neg low, shifted, List.getD_cons_succ, same,
        ih (by rw [List.length_cons] at inside; omega)]

theorem mod_two_pow_succ (n i : Nat) :
    n % 2 ^ (i + 1) = 2 ^ i * (n.testBit i).toNat + n % 2 ^ i := by
  rw [Nat.mod_pow_succ, Nat.add_comm, Nat.toNat_testBit]

/-- Square-and-multiply appends the exponent's low bits to the power reached so far. -/
theorem IsMont.powLoop (ha : IsMont a x) {exp : Fe} {i e : Nat} (inside : i ≤ 32 * exp.length)
    {acc : Fe} (hacc : IsMont acc (x ^ e)) :
    IsMont (fePowLoop a exp i acc) (x ^ (e * 2 ^ i + limbsVal exp % 2 ^ i)) := by
  induction i generalizing e acc with
  | zero => simpa [fePowLoop, Nat.mod_one] using hacc
  | succ i ih =>
    have bit := limbBit exp (i := i) (by omega)
    have square : IsMont (feSqr acc) (x ^ (2 * e)) := by
      have squared := hacc.sqr
      rwa [← pow_add, ← Nat.two_mul] at squared
    have exponent : ∀ c, c = ((limbsVal exp).testBit i).toNat →
        (2 * e + c) * 2 ^ i + limbsVal exp % 2 ^ i =
          e * 2 ^ (i + 1) + limbsVal exp % 2 ^ (i + 1) := by
      rintro _ rfl
      rw [mod_two_pow_succ, Nat.pow_succ]
      ring
    unfold fePowLoop
    dsimp only
    split
    · rename_i zero
      rw [zero, UInt32.toNat_zero] at bit
      rw [← exponent 0 bit]
      exact ih (by omega) square
    · rename_i one
      have set : ((limbsVal exp).testBit i).toNat = 1 := by
        have le := Bool.toNat_le ((limbsVal exp).testBit i)
        rw [← bit] at le ⊢
        rcases eq_zero_or_one le with zero | one'
        · exact absurd zero one
        · rw [one']
          rfl
      rw [← exponent 1 set.symm]
      refine ih (by omega) ?_
      rw [pow_succ]
      exact square.mul ha

theorem IsMont.pow (ha : IsMont a x) {exp : Fe} (len : exp.length = 8) :
    IsMont (fePow a exp) (x ^ limbsVal exp) := by
  have loop := @IsMont.powLoop a x ha exp 256 0 (by omega) montOne
    (by rw [pow_zero]; exact isMont_one)
  rwa [Nat.zero_mul, Nat.zero_add, Nat.mod_eq_of_lt (limbsVal_lt_of_length len)] at loop

/-- The inverse by Fermat; zero is taken to zero. -/
theorem IsMont.inv (ha : IsMont a x) : IsMont (feInv a) x⁻¹ := by
  have power := @IsMont.pow a x ha
    [0xfffffffd, 0xffffffff, 0xffffffff, 0, 0, 0, 1, 0xffffffff] rfl
  have exponent : limbsVal [0xfffffffd, 0xffffffff, 0xffffffff, 0, 0, 0, 1, 0xffffffff] =
      p256Prime - 2 := by
    unfold p256Prime
    simp
  have large : 2 < p256Prime := by
    unfold p256Prime
    norm_num
  rw [exponent] at power
  have fermat : x ^ (p256Prime - 2) = x⁻¹ := by
    by_cases zero : x = 0
    · rw [zero, inv_zero, zero_pow (by omega)]
    · apply mul_right_cancel₀ zero
      have exponent : p256Prime - 2 + 1 = p256Prime - 1 := by omega
      rw [inv_mul_cancel₀ zero, ← pow_succ, exponent, ZMod.pow_card_sub_one_eq_one zero]
  rwa [fermat] at power

/-- Euler's criterion on limbs. -/
theorem IsMont.isSquare (ha : IsMont a x) : feIsSquare a = true ↔ IsSquare x := by
  unfold feIsSquare
  rw [ha.isZero]
  by_cases zero : x = 0
  · rw [if_pos zero, if_pos (by decide), zero]
    exact iff_of_true rfl (IsSquare.zero)
  · have power := @IsMont.pow a x ha
      [0xffffffff, 0xffffffff, 0x7fffffff, 0, 0, 0x80000000, 0x80000000, 0x7fffffff] rfl
    have exponent : limbsVal
        [0xffffffff, 0xffffffff, 0x7fffffff, 0, 0, 0x80000000, 0x80000000, 0x7fffffff] =
        p256Prime / 2 := by
      unfold p256Prime
      simp
    rw [exponent] at power
    rw [if_neg zero, if_neg (by decide)]
    dsimp only
    rw [ZMod.euler_criterion p256Prime zero, power.eq isMont_one]
    split <;> simp [*]

/-- The square root of a square. -/
theorem IsMont.sqrt (ha : IsMont a x) :
    ∃ y, IsMont (feSqrt a) y ∧ (IsSquare x → y * y = x) := by
  have power := @IsMont.pow a x ha
    [0, 0, 0x40000000, 0, 0, 0x40000000, 0xc0000000, 0x3fffffff] rfl
  have exponent : limbsVal [0, 0, 0x40000000, 0, 0, 0x40000000, 0xc0000000, 0x3fffffff] =
      (p256Prime + 1) / 4 := by
    unfold p256Prime
    simp
  have root : (p256Prime + 1) / 4 ≠ 0 ∧ (p256Prime + 1) / 4 + (p256Prime + 1) / 4 =
      p256Prime / 2 + 1 := by
    unfold p256Prime
    norm_num
  rw [exponent] at power
  refine ⟨_, power, fun square => ?_⟩
  by_cases zero : x = 0
  · rw [zero, zero_pow root.1, mul_zero]
  · have half := (ZMod.euler_criterion p256Prime zero).1 square
    rw [← pow_add, root.2, pow_succ, half, one_mul]

/-- The lowest bit of limbs is the parity of their number. -/
theorem headD_parity {a : Fe} (len : a.length = 8) :
    a.headD 0 &&& 1 = if limbsVal a % 2 = 1 then 1 else 0 := by
  cases a with
  | nil => cases len
  | cons low high =>
    have parity : (low &&& 1).toNat = limbsVal (low :: high) % 2 := by
      have one : (1 : UInt32).toNat = 1 := by decide
      rw [UInt32.toNat_and, one, Nat.and_one_is_mod, limbsVal_cons]
      omega
    rw [List.headD_cons]
    apply UInt32.toNat_inj.1
    rw [parity]
    split
    · assumption
    · have even : limbsVal (low :: high) % 2 = 0 := by omega
      exact even

/-- The sign is the parity of the canonical number. -/
theorem IsMont.sgn0 (ha : IsMont a x) : feSgn0 a = if x.val % 2 = 1 then 1 else 0 := by
  obtain ⟨len, val⟩ := ha.fromMont
  unfold feSgn0
  rw [headD_parity len, val]

/-- The modulus is odd, so a root and its negative differ in parity. -/
theorem neg_parity (nonzero : x ≠ 0) : (-x).val % 2 = 1 - x.val % 2 := by
  have lt := val_lt_fp x
  have odd : p256Prime % 2 = 1 := by
    unfold p256Prime
    norm_num
  have sum : (-x).val = p256Prime - x.val := by
    rw [ZMod.neg_val, if_neg nonzero]
  omega

end Powers

end Rf2a4m1
