import Rf2a4m1.Crypto.Field
import Rf2a4m1.Lib.Cubic
import Rf2a4m1.Lib.CurveOrder

/-!
# The curve P-256 and its ladder

The curve has a prime number of points, so every finite point has that order.
Triples of limbs represent points, and the ladder multiplies them by every
256-bit scalar.
-/

set_option autoImplicit false

namespace Rf2a4m1

open ByteString Jacobian WeierstrassCurve

abbrev P256 := Jacobian.Point curveB

section Order

/-- Inverts `x ^ p - x` modulo the curve's cubic. -/
def cubicInverse : Cubic.Residue Fp where
  c0 := 76626890310466861426869089647039036757962535851890885406097439786770458211455
  c1 := 74462945259064871768191128030512052509059297803194871526163573358218695456204
  c2 := 34768139465301476436978405170953382516735956999154666452188405812258086013549

theorem cubicInverse_inverts :
    Cubic.mul 3 (-curveB) cubicInverse (Cubic.subX (Cubic.xPow 3 (-curveB) 256 p256Prime)) =
      { c0 := 1, c1 := 0, c2 := 0 } := by
  decide +kernel

/-- No point lies on the x-axis. -/
theorem p256_rootless (x : Fp) : x ^ 3 - 3 * x + curveB ≠ 0 := by
  intro root
  have card : Nat.card Fp = p256Prime := Nat.card_zmod p256Prime
  refine @Cubic.rootless Fp _ 3 (-curveB) _ 256 (by rw [card]; decide +kernel) cubicInverse ?_ x ?_
  · rw [card]
    exact cubicInverse_inverts
  · linear_combination root

theorem equation_iff_p256 (x y : Fp) :
    (curve curveB).toAffine.Equation x y ↔ y * y = x * x * x - (x + x + x) + curveB := by
  rw [Affine.equation_iff]
  simp only [curve]
  constructor
  · intro on
    linear_combination on
  · intro on
    linear_combination on

theorem nonsingular_of_equation {x y : Fp} (on : (curve curveB).toAffine.Equation x y) :
    (curve curveB).toAffine.Nonsingular x y := by
  refine (Affine.nonsingular_iff _ _).2 ⟨on, Or.inr fun axis => ?_⟩
  have twice : 2 * y = 0 := by
    simp only [curve] at axis
    linear_combination axis
  have zero : y = 0 := (mul_eq_zero.1 twice).resolve_left two_ne_zero_fp
  rw [equation_iff_p256, zero] at on
  exact p256_rootless x (by linear_combination -on)

def generator : Coords Fp where
  x := 0x6b17d1f2e12c4247f8bce6e563a440f277037d812deb33a0f4a13945d898c296
  y := 0x4fe342e2fe1a7f9b8ee7eb4a7c0f9e162bce33576b315ececbb6406837bf51f5
  z := 1

theorem generator_on : (curve curveB).toAffine.Nonsingular generator.x generator.y :=
  nonsingular_of_equation ((equation_iff_p256 _ _).2 (by decide +kernel))

/-- The bits of a number below `2^256`, most significant first. -/
def bits256 (n : Nat) : List Bool := (List.range 256).map fun i => n.testBit (255 - i)

theorem generator_order : (mul (bits256 p256Order) generator).z = 0 := by decide +kernel

theorem bitsVal_order : bitsVal (bits256 p256Order) = p256Order := by decide +kernel

/-- The number of points is the prime order. -/
theorem p256_card : Nat.card P256 = p256Order := by
  obtain ⟨G, on, finite⟩ : ∃ G : P256, Holds generator G ∧ G ≠ 0 :=
    ⟨_, holds_affine generator_on, Affine.Point.some_ne_zero generator_on⟩
  have multiple := on.mul two_ne_zero_fp (bits256 p256Order)
  rw [bitsVal_order] at multiple
  refine card_point_eq two_ne_zero_fp p256Order_prime finite
    (multiple.z_eq_zero_iff.1 generator_order) ?_ p256_rootless
  have card : Nat.card Fp = p256Prime := Nat.card_zmod p256Prime
  rw [card]
  decide +kernel

/-- A multiple of a finite point is infinity exactly for multiples of the order. -/
theorem p256_nsmul_eq_zero_iff {P : P256} (finite : P ≠ 0) (k : Nat) :
    k • P = 0 ↔ p256Order ∣ k :=
  nsmul_eq_zero_iff p256Order_prime p256_card finite k

end Order

section Ladder

/-- Three elements of limbs represent three field elements. -/
structure IsMontJac (p : Jac) (c : Coords Fp) : Prop where
  x : IsMont p.x c.x
  y : IsMont p.y c.y
  z : IsMont p.z c.z

variable {p q : Jac} {c d : Coords Fp}

theorem isMontJac_inf : IsMontJac jacInf inf := ⟨isMont_zero, isMont_zero, isMont_zero⟩

theorem IsMontJac.double (h : IsMontJac p c) : IsMontJac (jacDouble p) (double c) := by
  have delta := h.z.sqr
  have gamma := h.y.sqr
  have beta := h.x.mul gamma
  have tmp := (h.x.sub delta).mul (h.x.add delta)
  have alpha := (tmp.add tmp).add tmp
  have twobeta := beta.add beta
  have fourbeta := twobeta.add twobeta
  have x3 := alpha.sqr.sub (fourbeta.add fourbeta)
  have g2 := gamma.sqr.add gamma.sqr
  have g4 := g2.add g2
  have y3 := (alpha.mul (fourbeta.sub x3)).sub (g4.add g4)
  have z3 := ((h.y.add h.z).sqr.sub gamma).sub delta
  refine ⟨?_, ?_, ?_⟩
  · unfold jacDouble Jacobian.double
    dsimp only
    exact x3
  · unfold jacDouble Jacobian.double
    dsimp only
    exact y3
  · unfold jacDouble Jacobian.double
    dsimp only
    exact z3

theorem feCmov_if {a r : Fe} {x y : Fp} (ha : IsMont a x) (hr : IsMont r y) (test : Prop)
    [Decidable test] : IsMont (feCmov r a (if test then 1 else 0)) (if test then x else y) := by
  have len := ha.length.trans hr.length.symm
  unfold feCmov
  split
  · rwa [selectLimbs_one len]
  · rwa [selectLimbs_zero len]

/-- A conditional move selects what its flag says. -/
theorem IsMontJac.cmov (hp : IsMontJac p c) (hq : IsMontJac q d) (test : Prop) [Decidable test] :
    IsMontJac (jacCmov p q (if test then 1 else 0)) (if test then d else c) := by
  have hx := feCmov_if hq.x hp.x test
  have hy := feCmov_if hq.y hp.y test
  have hz := feCmov_if hq.z hp.z test
  split
  · rename_i holds
    simp only [if_pos holds] at hx hy hz
    exact ⟨hx, hy, hz⟩
  · rename_i fails
    simp only [if_neg fails] at hx hy hz
    exact ⟨hx, hy, hz⟩

/-- Constant-time flags compute conjunctions and negations. -/
theorem flag_and (p q : Prop) [Decidable p] [Decidable q] :
    ((if p then 1 else 0 : UInt32) &&& if q then 1 else 0) = if p ∧ q then 1 else 0 := by
  by_cases hp : p <;> by_cases hq : q <;> simp [hp, hq]

theorem flag_not (p : Prop) [Decidable p] :
    (1 : UInt32) - (if p then 1 else 0) = if ¬p then 1 else 0 := by
  by_cases hp : p <;> simp [hp]

/-- The generic sum, before the flags select. -/
theorem IsMontJac.addGeneric (hp : IsMontJac p c) (hq : IsMontJac q d) :
    ∃ g, IsMontJac g (addGeneric c d) ∧
      jacAdd p q =
        jacCmov (jacCmov (jacCmov (jacCmov g (jacDouble p)
          ((((1 - feIsZero p.z) &&& (1 - feIsZero q.z)) &&&
            feEq (feMul p.x (feSqr q.z)) (feMul q.x (feSqr p.z))) &&&
            feEq (feMul (feMul p.y q.z) (feSqr q.z)) (feMul (feMul q.y p.z) (feSqr p.z))))
          jacInf ((((1 - feIsZero p.z) &&& (1 - feIsZero q.z)) &&&
            feEq (feMul p.x (feSqr q.z)) (feMul q.x (feSqr p.z))) &&&
            (1 - feEq (feMul (feMul p.y q.z) (feSqr q.z)) (feMul (feMul q.y p.z) (feSqr p.z)))))
          p (feIsZero q.z)) q (feIsZero p.z) := by
  have z1z1 := hp.z.sqr
  have z2z2 := hq.z.sqr
  have u1 := hp.x.mul z2z2
  have s1 := (hp.y.mul hq.z).mul z2z2
  have h := (hq.x.mul z1z1).sub u1
  have i := (h.add h).sqr
  have j := h.mul i
  have dy := ((hq.y.mul hp.z).mul z1z1).sub s1
  have r := dy.add dy
  have v := u1.mul i
  have x3 := (r.sqr.sub j).sub (v.add v)
  have s1j := s1.mul j
  have y3 := (r.mul (v.sub x3)).sub (s1j.add s1j)
  have z3 := (((hp.z.add hq.z).sqr.sub z1z1).sub z2z2).mul h
  refine ⟨_, ⟨?_, ?_, ?_⟩, rfl⟩
  · unfold Jacobian.addGeneric
    dsimp only
    exact x3
  · unfold Jacobian.addGeneric
    dsimp only
    exact y3
  · unfold Jacobian.addGeneric
    dsimp only
    exact z3

theorem IsMontJac.add (hp : IsMontJac p c) (hq : IsMontJac q d) :
    IsMontJac (jacAdd p q) (add c d) := by
  obtain ⟨g, generic, eq⟩ := hp.addGeneric hq
  have xeq := (hp.x.mul hq.z.sqr).eq (hq.x.mul hp.z.sqr)
  have yeq := ((hp.y.mul hq.z).mul hq.z.sqr).eq ((hq.y.mul hp.z).mul hp.z.sqr)
  rw [hp.z.isZero, hq.z.isZero, xeq, yeq] at eq
  simp only [flag_not, flag_and] at eq
  have cases : Jacobian.add c d =
      if c.z = 0 then d else if d.z = 0 then c
      else if ((¬c.z = 0 ∧ ¬d.z = 0) ∧ c.x * (d.z * d.z) = d.x * (c.z * c.z)) ∧
          ¬c.y * d.z * (d.z * d.z) = d.y * c.z * (c.z * c.z) then inf
      else if ((¬c.z = 0 ∧ ¬d.z = 0) ∧ c.x * (d.z * d.z) = d.x * (c.z * c.z)) ∧
          c.y * d.z * (d.z * d.z) = d.y * c.z * (c.z * c.z) then Jacobian.double c
      else Jacobian.addGeneric c d := by
    unfold Jacobian.add
    by_cases zc : c.z = 0
    · rw [if_pos zc, if_pos zc]
    by_cases zd : d.z = 0
    · rw [if_neg zc, if_neg zc, if_pos zd, if_pos zd]
    by_cases sameX : c.x * (d.z * d.z) = d.x * (c.z * c.z)
    · by_cases sameY : c.y * d.z * (d.z * d.z) = d.y * c.z * (c.z * c.z)
      · simp [zc, zd, sameX, sameY]
      · simp [zc, zd, sameX, sameY]
    · simp [zc, zd, sameX]
  rw [eq, cases]
  exact (((generic.cmov hp.double _).cmov isMontJac_inf _).cmov hp _).cmov hq _

/-- The scalar's bits, most significant first. -/
def scalarBits (k : Octets 32) : List Bool := (List.range 256).map fun i => scalarBit k i ≠ 0

theorem scalarBit_flag (k : Octets 32) (i : Nat) :
    scalarBit k i = if scalarBit k i ≠ 0 then 1 else 0 := by
  have le : (scalarBit k i).toNat ≤ 1 := by
    unfold scalarBit
    rw [UInt8.toNat_toUInt32, UInt8.toNat_and]
    exact Nat.and_le_right
  rcases eq_zero_or_one le with zero | one
  · simp [zero]
  · simp [one]

theorem IsMontJac.mulStep (hp : IsMontJac p c) {acc : Jac} {e : Coords Fp} (hacc : IsMontJac acc e)
    (k : Octets 32) (i : Nat) :
    IsMontJac (jacMulStep k p acc i) (mulStep c e (scalarBit k i ≠ 0)) := by
  have doubled := hacc.double
  have moved := doubled.cmov (doubled.add hp) (scalarBit k i ≠ 0)
  rw [← scalarBit_flag] at moved
  unfold jacMulStep Jacobian.mulStep
  dsimp only
  simpa only [decide_eq_true_eq] using moved

/-- The ladder on limbs is the ladder on field elements. -/
theorem IsMontJac.mul (hp : IsMontJac p c) (k : Octets 32) :
    IsMontJac (jacMul k p) (mul (scalarBits k) c) := by
  have loop : ∀ (is : List Nat) (acc : Jac) (e : Coords Fp), IsMontJac acc e →
      IsMontJac (is.foldl (jacMulStep k p) acc)
        ((is.map fun i => decide (scalarBit k i ≠ 0)).foldl (Jacobian.mulStep c) e) := by
    intro is
    induction is with
    | nil => exact fun _ _ hacc => hacc
    | cons i rest ih => exact fun acc e hacc => ih _ _ (hp.mulStep hacc k i)
  exact loop _ _ _ isMontJac_inf

/-- Dividing by the powers of `z` gives the affine coordinates. -/
theorem IsMontJac.toAffine (h : IsMontJac p c) :
    if c.z = 0 then jacToAffine p = none
    else ∃ xm ym, jacToAffine p = some (xm, ym) ∧ IsMont xm (c.x / c.z ^ 2) ∧
      IsMont ym (c.y / c.z ^ 3) := by
  unfold jacToAffine
  rw [h.z.isZero]
  by_cases zero : c.z = 0
  · rw [if_pos zero, if_pos zero, if_pos (by decide)]
  · rw [if_neg zero, if_neg zero, if_neg (by decide)]
    have zinv := h.z.inv
    refine ⟨_, _, rfl, ?_, ?_⟩
    · have x := h.x.mul zinv.sqr
      rwa [← sq, inv_pow, ← div_eq_mul_inv] at x
    · have y := h.y.mul (zinv.sqr.mul zinv)
      rwa [← pow_three', inv_pow, ← div_eq_mul_inv] at y

end Ladder

end Rf2a4m1
