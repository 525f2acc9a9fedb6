import Rf2a4m1.Crypto.Points

/-!
# The group law on limbs

Every triple of reduced limbs that satisfies the equation of the curve stands
for one point, infinity where the last coordinate is zero. Doubling, addition
and the ladder compute in the group whatever the operands are.
-/

set_option autoImplicit false

namespace Rf2a4m1

open ByteString Jacobian WeierstrassCurve

section Representation

/-- The field element of reduced limbs in Montgomery form. -/
def fpOf (a : Fe) : Fp := limbsVal a * (2 ^ 256)⁻¹

def coordsOf (p : Jac) : Coords Fp := { x := fpOf p.x, y := fpOf p.y, z := fpOf p.z }

structure ReducedJac (p : Jac) : Prop where
  x : Reduced p.x
  y : Reduced p.y
  z : Reduced p.z

/-- Reduced limbs stand for a point of the curve. -/
def Represents (p : Jac) (P : P256) : Prop := ReducedJac p ∧ Holds (coordsOf p) P

variable {p q : Jac} {P Q : P256}

theorem isMont_fpOf {a : Fe} (reduced : Reduced a) : IsMont a (fpOf a) := by
  refine ⟨reduced, ?_⟩
  rw [fpOf, mul_assoc, inv_mul_cancel₀ radix_ne_zero, mul_one]

theorem fpOf_eq {a : Fe} {x : Fp} (mont : IsMont a x) : fpOf a = x :=
  (isMont_fpOf mont.toReduced).injective mont

theorem ReducedJac.mont (reduced : ReducedJac p) : IsMontJac p (coordsOf p) :=
  ⟨isMont_fpOf reduced.x, isMont_fpOf reduced.y, isMont_fpOf reduced.z⟩

theorem represents_of_mont {c : Coords Fp} (mont : IsMontJac p c) (holds : Holds c P) :
    Represents p P := by
  have same : coordsOf p = c := by
    rw [coordsOf, fpOf_eq mont.x, fpOf_eq mont.y, fpOf_eq mont.z]
  refine ⟨⟨mont.x.toReduced, mont.y.toReduced, mont.z.toReduced⟩, ?_⟩
  rw [same]
  exact holds

/-- Reduced limbs that satisfy the equation stand for exactly one point. -/
theorem existsUnique_represents (reduced : ReducedJac p) (on : OnCurve curveB (coordsOf p)) :
    ∃! P, Represents p P := by
  obtain ⟨P, holds⟩ := on.exists_holds fun _ _ => nonsingular_of_equation
  refine ⟨P, ⟨reduced, holds⟩, ?_⟩
  intro Q other
  exact other.2.unique holds

end Representation

section Operations

variable {p q : Jac} {P Q : P256}

theorem Represents.double (hp : Represents p P) : Represents (jacDouble p) (P + P) :=
  represents_of_mont hp.1.mont.double (hp.2.double two_ne_zero_fp)

theorem Represents.add (hp : Represents p P) (hq : Represents q Q) :
    Represents (jacAdd p q) (P + Q) :=
  represents_of_mont (hp.1.mont.add hq.1.mont) (hp.2.add two_ne_zero_fp hq.2)

theorem Represents.mul (hp : Represents p P) (k : Octets 32) :
    Represents (jacMul k p) (scalarVal k • P) := by
  obtain ⟨d, mont, holds⟩ := jacMul_spec hp.1.mont hp.2 k
  exact represents_of_mont mont holds

end Operations

section Strings

variable {pt pt' : Octets 64}

/-- Two canonical coordinates of a point on the curve. -/
def ValidAffine (pt : Octets 64) : Prop :=
  ofBe (slice pt.bytes 0 32) < p256Prime ∧ ofBe (slice pt.bytes 32 32) < p256Prime ∧
    ((ofBe (slice pt.bytes 32 32) : Nat) : Fp) ^ 2 = curveCubic (ofBe (slice pt.bytes 0 32) : Nat)

/-- The strings of finite points. -/
theorem validAffine_iff (pt : Octets 64) : ValidAffine pt ↔ ∃ P, encodePoint P = some pt := by
  constructor
  · rintro ⟨ltX, ltY, on⟩
    have regular := nonsingular_of_equation ((equation_iff_cubic _ _).2 on)
    exact ⟨.some _ _ regular, congrArg some (eq_encode ltX ltY).symm⟩
  · rintro ⟨P, encoded⟩
    cases P with
    | zero => cases encoded
    | some x y h =>
      obtain rfl := Option.some.inj encoded
      unfold ValidAffine
      rw [encode_x, encode_y, ofBe_be_val, ofBe_be_val, ZMod.natCast_zmod_val, ZMod.natCast_zmod_val]
      exact ⟨val_lt_fp x, val_lt_fp y, (equation_iff_cubic x y).1 h.1⟩

theorem p256PointValid_false (invalid : ¬ValidAffine pt) : p256PointValid pt = false := by
  rw [validAffine_iff, ← p256PointValid_iff] at invalid
  simpa using invalid

/-- A multiple is refused for an invalid point and where it is infinity. -/
theorem p256PointMul_eq_none_iff (k : Octets 32) (pt : Octets 64) :
    p256PointMul k pt = none ↔
      ¬ValidAffine pt ∨ ∃ P, encodePoint P = some pt ∧ scalarVal k • P = 0 := by
  by_cases valid : ValidAffine pt
  · obtain ⟨P, encoded⟩ := (validAffine_iff pt).1 valid
    rw [p256PointMul_spec k encoded, encodePoint_eq_none_iff]
    constructor
    · intro infinite
      exact Or.inr ⟨P, encoded, infinite⟩
    · rintro (invalid | ⟨Q, encoded', infinite⟩)
      · exact absurd valid invalid
      · rw [encodePoint_injective encoded encoded']
        exact infinite
  · have refused : p256PointMul k pt = none := by
      unfold p256PointMul
      rw [p256PointValid_false valid]
      rfl
    exact iff_of_true refused (Or.inl valid)

/-- A sum is refused for an invalid operand and where it is infinity. -/
theorem p256PointAdd_eq_none_iff (pt pt' : Octets 64) :
    p256PointAdd pt pt' = none ↔
      ¬ValidAffine pt ∨ ¬ValidAffine pt' ∨
        ∃ P Q, encodePoint P = some pt ∧ encodePoint Q = some pt' ∧ P + Q = 0 := by
  by_cases valid : ValidAffine pt ∧ ValidAffine pt'
  · obtain ⟨P, encoded⟩ := (validAffine_iff pt).1 valid.1
    obtain ⟨Q, encoded'⟩ := (validAffine_iff pt').1 valid.2
    rw [p256PointAdd_spec encoded encoded', encodePoint_eq_none_iff]
    constructor
    · intro infinite
      exact Or.inr (Or.inr ⟨P, Q, encoded, encoded', infinite⟩)
    · rintro (invalid | invalid | ⟨P', Q', other, other', infinite⟩)
      · exact absurd valid.1 invalid
      · exact absurd valid.2 invalid
      · rw [encodePoint_injective encoded other, encodePoint_injective encoded' other']
        exact infinite
  · have invalid : ¬ValidAffine pt ∨ ¬ValidAffine pt' := not_and_or.1 valid
    have refused : p256PointAdd pt pt' = none := by
      unfold p256PointAdd
      rcases invalid with first | second
      · rw [p256PointValid_false first]
        rfl
      · rw [p256PointValid_false second, Bool.not_false, Bool.or_true]
        rfl
    refine iff_of_true refused ?_
    rcases invalid with first | second
    · exact Or.inl first
    · exact Or.inr (Or.inl second)

end Strings

/--
On limbs, doubling, addition and the ladder give the sum and the multiple of the
points in every case. On strings, multiplication and addition give the affine
result, and nothing exactly for an invalid operand or an infinite result.
-/
theorem p256_group_operations :
    (∀ p, ReducedJac p → OnCurve curveB (coordsOf p) → ∃! P, Represents p P) ∧
      (∀ p P, Represents p P → Represents (jacDouble p) (P + P)) ∧
      (∀ p q P Q, Represents p P → Represents q Q → Represents (jacAdd p q) (P + Q)) ∧
      (∀ k p P, Represents p P → Represents (jacMul k p) (scalarVal k • P)) ∧
      (∀ k pt, (∀ P, encodePoint P = some pt →
          p256PointMul k pt = encodePoint (scalarVal k • P)) ∧
        (p256PointMul k pt = none ↔
          ¬ValidAffine pt ∨ ∃ P, encodePoint P = some pt ∧ scalarVal k • P = 0)) ∧
      ∀ pt pt', (∀ P Q, encodePoint P = some pt → encodePoint Q = some pt' →
          p256PointAdd pt pt' = encodePoint (P + Q)) ∧
        (p256PointAdd pt pt' = none ↔
          ¬ValidAffine pt ∨ ¬ValidAffine pt' ∨
            ∃ P Q, encodePoint P = some pt ∧ encodePoint Q = some pt' ∧ P + Q = 0) := by
  refine ⟨fun p reduced on => existsUnique_represents reduced on, fun p P hp => hp.double,
    fun p q P Q hp hq => hp.add hq, fun k p P hp => hp.mul k, ?_, ?_⟩
  · intro k pt
    exact ⟨fun P encoded => p256PointMul_spec k encoded, p256PointMul_eq_none_iff k pt⟩
  · intro pt pt'
    exact ⟨fun P Q encoded encoded' => p256PointAdd_spec encoded encoded',
      p256PointAdd_eq_none_iff pt pt'⟩

/-- The base point doubled, and infinity added to itself. -/
theorem p256_group_operations_base :
    ∃ P, encodePoint P = some demoBase ∧
      p256PointMul (smallScalar 2) demoBase = encodePoint (scalarVal (smallScalar 2) • P) ∧
      p256PointAdd demoBase demoBase = encodePoint (P + P) ∧
      Represents (jacAdd jacInf jacInf) (0 + 0) := by
  have encoded : encodePoint (.some _ _ generator_on) = some demoBase := rfl
  have infinite : Represents jacInf 0 := represents_of_mont isMontJac_inf holds_inf
  refine ⟨_, encoded, ?_, ?_, ?_⟩
  · exact (p256_group_operations.2.2.2.2.1 _ _).1 _ encoded
  · exact (p256_group_operations.2.2.2.2.2 _ _).1 _ _ encoded encoded
  · exact p256_group_operations.2.2.1 _ _ _ _ infinite infinite

end Rf2a4m1
