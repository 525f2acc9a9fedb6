import Mathlib.GroupTheory.Perm.Cycle.Type
import Rf2a4m1.Lib.Jacobian

/-!
# Curves of prime order

Over every x-coordinate lie at most two points, so a point of a large prime
order leaves its group no more room than a factor of two, and that factor would
be a point with `y = 0`. Without such a point the group has the prime order.
-/

set_option autoImplicit false

namespace Jacobian

open WeierstrassCurve

variable {F : Type} [Field F] {b : F}

/-- The x-coordinate, none at infinity. -/
def xCoord : Point b → Option F
  | .zero => none
  | .some x _ _ => some x

theorem eq_or_neg_of_xCoord {P Q : Point b} (same : xCoord P = xCoord Q) : P = Q ∨ P = -Q := by
  cases P with
  | zero =>
    cases Q with
    | zero => exact Or.inl rfl
    | some x y h => cases same
  | some x y h =>
    cases Q with
    | zero => cases same
    | some x' y' h' => exact Affine.Point.X_eq_iff.1 (Option.some.inj same)

instance [Finite F] : Finite (Point b) :=
  have : Finite (WithZero {xy : F × F // (curve b).toAffine.Nonsingular xy.1 xy.2}) :=
    inferInstanceAs (Finite (Option _))
  Finite.of_equiv _ (Affine.nonsingularPointEquiv (curve b).toAffine).symm

theorem card_point_le [Finite F] : Nat.card (Point b) ≤ 2 * (Nat.card F + 1) := by
  classical
  have := Fintype.ofFinite F
  have := Fintype.ofFinite (Point b)
  rw [Nat.card_eq_fintype_card, Nat.card_eq_fintype_card]
  have fibers := Finset.card_le_mul_card_image (f := xCoord) (Finset.univ : Finset (Point b)) 2 (by
    intro x member
    obtain ⟨P, -, rfl⟩ := Finset.mem_image.1 member
    refine (Finset.card_le_card ?_).trans (Finset.card_le_two (a := P) (b := -P))
    intro Q same
    rcases eq_or_neg_of_xCoord (Finset.mem_filter.1 same).2 with rfl | rfl
    · exact Finset.mem_insert_self ..
    · exact Finset.mem_insert_of_mem (Finset.mem_singleton_self _))
  refine fibers.trans (Nat.mul_le_mul_left 2 ?_)
  exact (Finset.card_le_univ _).trans (Fintype.card_option (α := F)).le

variable [DecidableEq F]

/-- A point of order two lies on the x-axis. -/
theorem root_of_order_two (two : (2 : F) ≠ 0) {T : Point b} (nonzero : T ≠ 0)
    (torsion : T + T = 0) : ∃ x : F, x ^ 3 - 3 * x + b = 0 := by
  cases T with
  | zero => exact absurd rfl nonzero
  | some x y h =>
    have axis : y = 0 := by
      by_contra off
      have ne : y ≠ (curve b).toAffine.negY x y := by
        rw [negY_eq]
        intro eq
        exact mul_ne_zero two off (by linear_combination eq)
      rw [Affine.Point.add_self_of_Y_ne ne] at torsion
      exact Affine.Point.some_ne_zero _ torsion
    refine ⟨x, ?_⟩
    have on := (Affine.equation_iff _ _).1 h.1
    simp only [axis, curve] at on
    linear_combination -on

variable [Finite F] {n : Nat} {G : Point b}

/-- A prime order that is more than a third of the bound is the order of the group. -/
theorem card_point_eq (two : (2 : F) ≠ 0) (prime : n.Prime) (nonzero : G ≠ 0)
    (order : n • G = 0) (large : 2 * (Nat.card F + 1) < 3 * n)
    (rootless : ∀ x : F, x ^ 3 - 3 * x + b ≠ 0) : Nat.card (Point b) = n := by
  have : Fact n.Prime := ⟨prime⟩
  have divides : n ∣ Nat.card (Point b) := by
    rw [← addOrderOf_eq_prime order nonzero]
    exact addOrderOf_dvd_natCard G
  obtain ⟨c, eq⟩ := divides
  have bound := (card_point_le (b := b)).trans_lt large
  rw [eq, Nat.mul_comm 3] at bound
  have small : c < 3 := Nat.lt_of_mul_lt_mul_left bound
  have positive : 0 < c := Nat.pos_of_ne_zero fun zero => by
    rw [zero, Nat.mul_zero] at eq
    exact Nat.card_pos.ne' eq
  have notTwo : c ≠ 2 := by
    rintro rfl
    obtain ⟨T, orderTwo⟩ := exists_prime_addOrderOf_dvd_card' 2 (Dvd.intro_left n eq.symm)
    have torsion : T + T = 0 := by
      rw [← two_nsmul, ← orderTwo]
      exact addOrderOf_nsmul_eq_zero T
    have nontrivial : T ≠ 0 := by
      rintro rfl
      rw [addOrderOf_zero] at orderTwo
      exact absurd orderTwo (by decide)
    obtain ⟨x, root⟩ := root_of_order_two two nontrivial torsion
    exact rootless x root
  rw [eq, show c = 1 by omega, Nat.mul_one]

omit [Finite F] in
/-- In a group of prime order every finite point has that order. -/
theorem nsmul_eq_zero_iff (prime : n.Prime) (card : Nat.card (Point b) = n) {P : Point b}
    (finite : P ≠ 0) (k : Nat) : k • P = 0 ↔ n ∣ k := by
  have : Fact n.Prime := ⟨prime⟩
  have order : n • P = 0 := by
    rw [← card]
    exact card_nsmul_eq_zero'
  rw [← addOrderOf_dvd_iff_nsmul_eq_zero, addOrderOf_eq_prime order finite]

end Jacobian
