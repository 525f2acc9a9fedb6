import Mathlib.NumberTheory.LegendreSymbol.QuadraticChar.Basic
import Mathlib.Tactic.FieldSimp
import Mathlib.Tactic.LinearCombination

/-!
# The simplified map to a curve

The map sends every element of a finite field to the abscissa of a point of
`y ^ 2 = x ^ 3 + a * x + b`. It has two candidates; as its constant is no
square, one of them is an abscissa when the other is not.
-/

set_option autoImplicit false

namespace Sswu

section Field

variable {K : Type} [Field K]

/-- The right-hand side of the curve. -/
def rhs (a b x : K) : K := x ^ 3 + a * x + b

def denominator (z u : K) : K := z ^ 2 * u ^ 4 + z * u ^ 2

variable [DecidableEq K]

/-- The first candidate, with a constant where the denominator vanishes. -/
def first (a b z u : K) : K :=
  if (denominator z u)⁻¹ = 0 then b * (z * a)⁻¹ else -b * a⁻¹ * (1 + (denominator z u)⁻¹)

def second (a b z u : K) : K := z * u ^ 2 * first a b z u

variable {a b z u : K}

theorem first_exceptional (zero : denominator z u = 0) : first a b z u = b * (z * a)⁻¹ :=
  if_pos (by rw [zero, inv_zero])

/-- The right-hand sides of the candidates differ by a cube. -/
theorem rhs_second (ha : a ≠ 0) (nonzero : denominator z u ≠ 0) :
    rhs a b (second a b z u) = (z * u ^ 2) ^ 3 * rhs a b (first a b z u) := by
  have value : first a b z u = -b * a⁻¹ * (1 + (denominator z u)⁻¹) :=
    if_neg (inv_ne_zero nonzero)
  unfold second rhs
  rw [value]
  have split : denominator z u = z * u ^ 2 * (z * u ^ 2 + 1) := by
    unfold denominator
    ring
  rw [split] at nonzero ⊢
  set w := z * u ^ 2
  have factor : w ≠ 0 ∧ w + 1 ≠ 0 := mul_ne_zero_iff.1 nonzero
  obtain ⟨hw, hw'⟩ := factor
  field_simp
  ring

end Field

section Finite

variable {K : Type} [Field K] [Fintype K] [DecidableEq K] {a b z : K}

/-- A product of two elements that are no squares is a square. -/
theorem isSquare_mul {x y : K} (hx : ¬IsSquare x) (hy : ¬IsSquare y) : IsSquare (x * y) := by
  have nonzero : x * y ≠ 0 := by
    refine mul_ne_zero ?_ ?_
    · rintro rfl
      exact hx IsSquare.zero
    · rintro rfl
      exact hy IsSquare.zero
  rw [← quadraticChar_one_iff_isSquare nonzero, map_mul,
    quadraticChar_neg_one_iff_not_isSquare.2 hx, quadraticChar_neg_one_iff_not_isSquare.2 hy]
  norm_num

/-- One of the candidates is an abscissa. -/
theorem isSquare_rhs (ha : a ≠ 0) (nonsquare : ¬IsSquare z)
    (exceptional : IsSquare (rhs a b (b * (z * a)⁻¹))) {u : K}
    (other : ¬IsSquare (rhs a b (first a b z u))) : IsSquare (rhs a b (second a b z u)) := by
  by_cases zero : denominator z u = 0
  · rw [first_exceptional zero] at other
    exact absurd exceptional other
  · rw [rhs_second ha zero]
    have split : (z * u ^ 2) ^ 3 * rhs a b (first a b z u) =
        z * rhs a b (first a b z u) * (z * u ^ 3 * (z * u ^ 3)) := by
      ring
    rw [split]
    exact (isSquare_mul nonsquare other).mul ⟨z * u ^ 3, rfl⟩

open Classical in
/-- The element is sent to the first candidate that is an abscissa. -/
noncomputable def abscissa (a b z u : K) : K :=
  if IsSquare (rhs a b (first a b z u)) then first a b z u else second a b z u

theorem isSquare_abscissa (ha : a ≠ 0) (nonsquare : ¬IsSquare z)
    (exceptional : IsSquare (rhs a b (b * (z * a)⁻¹))) (u : K) :
    IsSquare (rhs a b (abscissa a b z u)) := by
  unfold abscissa
  split
  · assumption
  · exact isSquare_rhs ha nonsquare exceptional (by assumption)

/-- The point of an element: the ordinate is the root of the sign of the element. -/
structure Image (sgn : K → Nat) (a b z u x y : K) : Prop where
  abscissa : x = abscissa a b z u
  root : y ^ 2 = rhs a b x
  sign : sgn y = sgn u

/-- Where the sign tells a root from its negative, an element has no second point. -/
theorem Image.unique {sgn : K → Nat} {u x y x' y' : K} (image : Image sgn a b z u x y)
    (image' : Image sgn a b z u x' y') (signs : sgn (-y) ≠ sgn y) : x' = x ∧ y' = y := by
  obtain rfl := image'.abscissa.trans image.abscissa.symm
  refine ⟨rfl, ?_⟩
  rcases sq_eq_sq_iff_eq_or_eq_neg.1 (image'.root.trans image.root.symm) with same | opposite
  · exact same
  · have sign := image'.sign.trans image.sign.symm
    rw [opposite] at sign
    exact absurd sign signs

end Finite

end Sswu
