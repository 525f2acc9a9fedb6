import Mathlib.AlgebraicGeometry.EllipticCurve.Affine.Point
import Mathlib.Tactic.FieldSimp
import Mathlib.Tactic.LinearCombination

/-!
# Jacobian coordinates on y² = x³ - 3x + b

The formulas compute with three coordinates and without divisions. A triple with
`z = 0` stands for infinity, any other for the affine point `(x / z², y / z³)`.
-/

set_option autoImplicit false

namespace Jacobian

structure Coords (F : Type) where
  x : F
  y : F
  z : F
deriving DecidableEq

section Formulas

variable {F : Type} [Add F] [Sub F] [Mul F] [Zero F] [DecidableEq F]

def inf : Coords F := { x := 0, y := 0, z := 0 }

/-- Doubling for a curve with `a = -3`. -/
def double (p : Coords F) : Coords F :=
  let delta := p.z * p.z
  let gamma := p.y * p.y
  let beta := p.x * gamma
  let tmp := (p.x - delta) * (p.x + delta)
  let alpha := tmp + tmp + tmp
  let fourbeta := (beta + beta) + (beta + beta)
  let x3 := alpha * alpha - (fourbeta + fourbeta)
  let g2 := gamma * gamma
  let g2 := g2 + g2
  let g2 := g2 + g2
  let g2 := g2 + g2
  { x := x3
    y := alpha * (fourbeta - x3) - g2
    z := (p.y + p.z) * (p.y + p.z) - gamma - delta }

/-- Addition of finite points with different x-coordinates. -/
def addGeneric (p q : Coords F) : Coords F :=
  let z1z1 := p.z * p.z
  let z2z2 := q.z * q.z
  let u1 := p.x * z2z2
  let u2 := q.x * z1z1
  let s1 := p.y * q.z * z2z2
  let s2 := q.y * p.z * z1z1
  let h := u2 - u1
  let i := (h + h) * (h + h)
  let j := h * i
  let d := s2 - s1
  let r := d + d
  let v := u1 * i
  let xg := r * r - j - (v + v)
  let s1j := s1 * j
  { x := xg
    y := r * (v - xg) - (s1j + s1j)
    z := ((p.z + q.z) * (p.z + q.z) - z1z1 - z2z2) * h }

def add (p q : Coords F) : Coords F :=
  if p.z = 0 then q
  else if q.z = 0 then p
  else if p.x * (q.z * q.z) = q.x * (p.z * p.z) then
    if p.y * q.z * (q.z * q.z) = q.y * p.z * (p.z * p.z) then double p else inf
  else addGeneric p q

/-- Double, and add where the bit says so. -/
def mulStep (p acc : Coords F) (bit : Bool) : Coords F :=
  if bit then add (double acc) p else double acc

def mul (bits : List Bool) (p : Coords F) : Coords F := bits.foldl (mulStep p) inf

end Formulas

section Group

variable {F : Type} [Field F] [DecidableEq F] {b : F}

open WeierstrassCurve

def curve (b : F) : WeierstrassCurve F := { a₁ := 0, a₂ := 0, a₃ := 0, a₄ := -3, a₆ := b }

abbrev Point (b : F) := (curve b).toAffine.Point

/-- A triple stands for a point. -/
inductive Holds (c : Coords F) : Point b → Prop where
  | infinite (z : c.z = 0) : Holds c 0
  | finite {x y : F} (h : (curve b).toAffine.Nonsingular x y) (z : c.z ≠ 0) (px : c.x = x * c.z ^ 2)
    (py : c.y = y * c.z ^ 3) : Holds c (.some x y h)

variable {p q : Coords F} {P Q : Point b}

omit [DecidableEq F] in
theorem negY_eq (x y : F) : (curve b).toAffine.negY x y = -y := by
  simp [Affine.negY, curve]

omit [DecidableEq F] in
theorem holds_inf : Holds (inf : Coords F) (0 : Point b) := .infinite rfl

omit [DecidableEq F] in
/-- With `z = 1` a triple is the affine point itself. -/
theorem holds_affine {x y : F} (h : (curve b).toAffine.Nonsingular x y) :
    Holds { x := x, y := y, z := 1 } (.some x y h : Point b) :=
  .finite h one_ne_zero (by rw [one_pow, mul_one]) (by rw [one_pow, mul_one])

omit [DecidableEq F] in
theorem Holds.z_eq_zero_iff (h : Holds p P) : p.z = 0 ↔ P = 0 := by
  cases h with
  | infinite z => exact iff_of_true z rfl
  | finite ns z px py => exact iff_of_false z (Affine.Point.some_ne_zero ns)

/-- The equation of the curve for a triple; at infinity it says nothing. -/
def OnCurve (b : F) (c : Coords F) : Prop :=
  c.z = 0 ∨ c.y ^ 2 = c.x ^ 3 - 3 * c.x * c.z ^ 4 + b * c.z ^ 6

omit [DecidableEq F] in
/-- A triple on a curve without singular points stands for one of its points. -/
theorem OnCurve.exists_holds
    (smooth : ∀ x y, (curve b).toAffine.Equation x y → (curve b).toAffine.Nonsingular x y)
    (on : OnCurve b p) : ∃ P : Point b, Holds p P := by
  by_cases z : p.z = 0
  · exact ⟨0, .infinite z⟩
  · have equation := on.resolve_left z
    have affine : (curve b).toAffine.Equation (p.x / p.z ^ 2) (p.y / p.z ^ 3) := by
      rw [Affine.equation_iff]
      simp only [curve]
      field_simp
      linear_combination equation
    refine ⟨_, .finite (smooth _ _ affine) z ?_ ?_⟩
    · field_simp
    · field_simp

omit [DecidableEq F] in
/-- A triple stands for no more than one point. -/
theorem Holds.unique (hp : Holds p P) (hq : Holds p Q) : P = Q := by
  cases hp with
  | infinite z => exact (hq.z_eq_zero_iff.1 z).symm
  | @finite x y ns z px py =>
    cases hq with
    | infinite z' => exact absurd z' z
    | @finite x' y' ns' z' px' py' =>
      obtain rfl := mul_right_cancel₀ (pow_ne_zero 2 z) (px.symm.trans px')
      obtain rfl := mul_right_cancel₀ (pow_ne_zero 3 z) (py.symm.trans py')
      rfl

theorem Holds.double (two : (2 : F) ≠ 0) (h : Holds p P) : Holds (double p) (P + P) := by
  cases h with
  | infinite z =>
    rw [add_zero]
    refine .infinite ?_
    simp only [Jacobian.double, z]
    ring
  | @finite x y ns z px py =>
    by_cases vertical : y = 0
    · rw [Affine.Point.add_self_of_Y_eq (by rw [negY_eq, vertical, neg_zero])]
      refine .infinite ?_
      simp only [Jacobian.double, py, vertical]
      ring
    · have ne : y ≠ (curve b).toAffine.negY x y := by
        rw [negY_eq]
        intro eq
        have twice : 2 * y = 0 := by linear_combination eq
        exact (mul_ne_zero two vertical) twice
      rw [Affine.Point.add_self_of_Y_ne ne]
      have z3 : (Jacobian.double p).z = 2 * y * p.z ^ 4 := by
        simp only [Jacobian.double, py]
        ring
      have slope : (curve b).toAffine.slope x x y y = (3 * x ^ 2 - 3) / (2 * y) := by
        rw [Affine.slope_of_Y_ne rfl ne, negY_eq]
        simp only [curve]
        congr 1 <;> ring
      refine .finite _ ?_ ?_ ?_
      · rw [z3]
        exact mul_ne_zero (mul_ne_zero two vertical) (pow_ne_zero 4 z)
      · rw [z3, slope]
        simp only [Jacobian.double, px, py, Affine.addX, curve]
        field_simp
        ring
      · rw [z3, slope]
        simp only [Jacobian.double, px, py, Affine.addY, Affine.negAddY, Affine.addX, Affine.negY,
          curve]
        field_simp
        ring

omit [DecidableEq F] in
/-- The x-coordinates of two finite points agree when the scaled triples do. -/
theorem scaled_x_iff {x₁ x₂ z₁ z₂ : F} (h₁ : z₁ ≠ 0) (h₂ : z₂ ≠ 0) :
    x₁ * z₁ ^ 2 * (z₂ * z₂) = x₂ * z₂ ^ 2 * (z₁ * z₁) ↔ x₁ = x₂ := by
  constructor
  · intro eq
    apply mul_right_cancel₀ (mul_ne_zero (pow_ne_zero 2 h₁) (pow_ne_zero 2 h₂))
    linear_combination eq
  · rintro rfl
    ring

omit [DecidableEq F] in
theorem scaled_y_iff {y₁ y₂ z₁ z₂ : F} (h₁ : z₁ ≠ 0) (h₂ : z₂ ≠ 0) :
    y₁ * z₁ ^ 3 * z₂ * (z₂ * z₂) = y₂ * z₂ ^ 3 * z₁ * (z₁ * z₁) ↔ y₁ = y₂ := by
  constructor
  · intro eq
    apply mul_right_cancel₀ (mul_ne_zero (pow_ne_zero 3 h₁) (pow_ne_zero 3 h₂))
    linear_combination eq
  · rintro rfl
    ring

theorem Holds.addGeneric (two : (2 : F) ≠ 0) {x₁ y₁ x₂ y₂ : F}
    {h₁ : (curve b).toAffine.Nonsingular x₁ y₁} {h₂ : (curve b).toAffine.Nonsingular x₂ y₂}
    (zp : p.z ≠ 0) (px : p.x = x₁ * p.z ^ 2) (py : p.y = y₁ * p.z ^ 3)
    (zq : q.z ≠ 0) (qx : q.x = x₂ * q.z ^ 2) (qy : q.y = y₂ * q.z ^ 3) (ne : x₁ ≠ x₂) :
    Holds (addGeneric p q) (.some x₁ y₁ h₁ + .some x₂ y₂ h₂ : Point b) := by
  have differ : x₂ - x₁ ≠ 0 := sub_ne_zero.2 ne.symm
  have differ' : x₁ - x₂ ≠ 0 := sub_ne_zero.2 ne
  rw [Affine.Point.add_of_X_ne ne]
  have z3 : (Jacobian.addGeneric p q).z = 2 * (x₂ - x₁) * p.z ^ 3 * q.z ^ 3 := by
    simp only [Jacobian.addGeneric, px, qx]
    ring
  have slope : (curve b).toAffine.slope x₁ x₂ y₁ y₂ = (y₂ - y₁) / (x₂ - x₁) := by
    rw [Affine.slope_of_X_ne ne, ← neg_sub x₂, ← neg_sub y₂, neg_div_neg_eq]
  refine .finite _ ?_ ?_ ?_
  · rw [z3]
    exact mul_ne_zero (mul_ne_zero (mul_ne_zero two differ) (pow_ne_zero 3 zp)) (pow_ne_zero 3 zq)
  · rw [z3, slope]
    simp only [Jacobian.addGeneric, px, py, qx, qy, Affine.addX, curve]
    field_simp
    ring
  · rw [z3, slope]
    simp only [Jacobian.addGeneric, px, py, qx, qy, Affine.addY, Affine.negAddY, Affine.addX,
      Affine.negY, curve]
    field_simp
    ring

/-- Addition holds the sum in every case: generic, equal, opposite or with infinity. -/
theorem Holds.add (two : (2 : F) ≠ 0) (hp : Holds p P) (hq : Holds q Q) :
    Holds (add p q) (P + Q) := by
  unfold Jacobian.add
  cases hp with
  | infinite z =>
    rw [if_pos z, zero_add]
    exact hq
  | @finite x₁ y₁ h₁ zp px py =>
  cases hq with
  | infinite z =>
    rw [if_neg zp, if_pos z, add_zero]
    exact .finite h₁ zp px py
  | @finite x₂ y₂ h₂ zq qx qy =>
  rw [if_neg zp, if_neg zq, px, py, qx, qy]
  simp only [scaled_x_iff zp zq, scaled_y_iff zp zq]
  by_cases same : x₁ = x₂
  · subst same
    rw [if_pos rfl]
    by_cases equal : y₁ = y₂
    · subst equal
      rw [if_pos rfl]
      exact (Holds.finite h₁ zp px py).double two
    · rw [if_neg equal]
      -- two points over one x-coordinate are equal or opposite
      have opposite := (Affine.Y_eq_of_X_eq h₁.1 h₂.1 rfl).resolve_left equal
      rw [Affine.Point.add_of_Y_eq rfl opposite]
      exact holds_inf
  · rw [if_neg same]
    exact .addGeneric two zp px py zq qx qy same

/-- The number that bits stand for, most significant first. -/
def bitsVal (bits : List Bool) : Nat := bits.foldl (fun n bit => 2 * n + bit.toNat) 0

theorem Holds.mulStep (two : (2 : F) ≠ 0) {acc : Coords F} {n : Nat} (hp : Holds p P)
    (hacc : Holds acc (n • P)) (bit : Bool) :
    Holds (mulStep p acc bit) ((2 * n + bit.toNat) • P) := by
  have doubled := hacc.double two
  rw [← two_nsmul, ← mul_nsmul'] at doubled
  cases bit with
  | false => exact doubled
  | true =>
    rw [Bool.toNat_true, succ_nsmul]
    exact doubled.add two hp

theorem Holds.mul (two : (2 : F) ≠ 0) (hp : Holds p P) (bits : List Bool) :
    Holds (mul bits p) (bitsVal bits • P) := by
  have start : ∀ (acc : Coords F) (n : Nat), Holds acc (n • P) →
      Holds (bits.foldl (Jacobian.mulStep p) acc)
        (bits.foldl (fun n bit => 2 * n + bit.toNat) n • P) := by
    induction bits with
    | nil => exact fun _ _ hacc => hacc
    | cons bit rest ih => exact fun acc n hacc => ih _ _ (hp.mulStep two hacc bit)
  exact start inf 0 (by rw [zero_nsmul]; exact holds_inf)

end Group

end Jacobian
