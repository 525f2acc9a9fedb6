import Mathlib.FieldTheory.Finite.Basic
import Mathlib.Tactic.LinearCombination

/-!
# Cubics without roots

At a root of `x³ = a x + b` every power of `x` is a residue `c₀ + c₁ x + c₂ x²`.
In a field of `q` elements the residue of `x ^ q` takes the value `x`, so a
residue that inverts their difference leaves no room for a root.
-/

set_option autoImplicit false

namespace Cubic

structure Residue (F : Type) where
  c0 : F
  c1 : F
  c2 : F
deriving DecidableEq

section Operations

variable {F : Type} [Add F] [Sub F] [Mul F] [Zero F] [One F]

/-- The residue of a product, with `x³` and `x⁴` replaced. -/
def mul (a b : F) (p q : Residue F) : Residue F :=
  let d3 := p.c1 * q.c2 + p.c2 * q.c1
  let d4 := p.c2 * q.c2
  { c0 := p.c0 * q.c0 + b * d3
    c1 := p.c0 * q.c1 + p.c1 * q.c0 + a * d3 + b * d4
    c2 := p.c0 * q.c2 + p.c1 * q.c1 + p.c2 * q.c0 + a * d4 }

/-- The residue of `x ^ e`, for an exponent of at most `bits` bits. -/
def xPow (a b : F) : Nat → Nat → Residue F
  | 0, _ => { c0 := 1, c1 := 0, c2 := 0 }
  | bits + 1, e =>
    let r := xPow a b bits (e / 2)
    let s := mul a b r r
    if e % 2 = 1 then { c0 := b * s.c2, c1 := s.c0 + a * s.c2, c2 := s.c1 } else s

def subX (p : Residue F) : Residue F := { p with c1 := p.c1 - 1 }

end Operations

variable {F : Type} [Field F] {a b x : F}

def eval (x : F) (p : Residue F) : F := p.c0 + p.c1 * x + p.c2 * x ^ 2

theorem eval_mul (root : x ^ 3 = a * x + b) (p q : Residue F) :
    eval x (mul a b p q) = eval x p * eval x q := by
  simp only [eval, mul]
  linear_combination (-(p.c1 * q.c2 + p.c2 * q.c1) - p.c2 * q.c2 * x) * root

theorem eval_xPow (root : x ^ 3 = a * x + b) {bits e : Nat} (fits : e < 2 ^ bits) :
    eval x (xPow a b bits e) = x ^ e := by
  induction bits generalizing e with
  | zero =>
    obtain rfl : e = 0 := by omega
    simp [eval, xPow]
  | succ bits ih =>
    have square : eval x (mul a b (xPow a b bits (e / 2)) (xPow a b bits (e / 2))) =
        x ^ (2 * (e / 2)) := by
      rw [eval_mul root, ih (by omega), ← pow_add, Nat.two_mul]
    unfold xPow
    dsimp only
    split
    · rename_i odd
      have step : x ^ e = x ^ (2 * (e / 2)) * x := by
        rw [← pow_succ]
        congr 1
        omega
      rw [step, ← square]
      simp only [eval]
      linear_combination
        -(mul a b (xPow a b bits (e / 2)) (xPow a b bits (e / 2))).c2 * root
    · rw [square]
      congr 1
      omega

/-- The cubic has no root when `x ^ q - x` has an inverse residue. -/
theorem rootless [Finite F] {bits : Nat} (fits : Nat.card F < 2 ^ bits) (inverse : Residue F)
    (inverts : mul a b inverse (subX (xPow a b bits (Nat.card F))) = { c0 := 1, c1 := 0, c2 := 0 })
    (x : F) : x ^ 3 ≠ a * x + b := by
  intro root
  have := Fintype.ofFinite F
  have frobenius : eval x (xPow a b bits (Nat.card F)) = x := by
    rw [eval_xPow root fits, Nat.card_eq_fintype_card, FiniteField.pow_card]
  have vanishes : eval x (subX (xPow a b bits (Nat.card F))) = 0 := by
    have split : eval x (subX (xPow a b bits (Nat.card F))) =
        eval x (xPow a b bits (Nat.card F)) - x := by
      simp only [eval, subX]
      ring
    rw [split, frobenius, sub_self]
  have one := eval_mul root inverse (subX (xPow a b bits (Nat.card F)))
  rw [inverts, vanishes, mul_zero] at one
  simp [eval] at one

end Cubic
