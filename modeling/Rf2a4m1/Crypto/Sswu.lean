import Rf2a4m1.Crypto.GroupLaw
import Rf2a4m1.Crypto.SaeAgreement
import Rf2a4m1.Lib.Sswu

/-!
# Hashing to a point

The map on limbs is the simplified map for P-256 with the constant -10. Its
result is a point, with an ordinate of the parity of the argument.
-/

set_option autoImplicit false

namespace Rf2a4m1

open ByteString WeierstrassCurve Jacobian

section Constants

theorem isMont_three : IsMont (feAdd (feAdd montOne montOne) montOne) 3 := by
  have sum := (isMont_one.add isMont_one).add isMont_one
  have three : (1 + 1 + 1 : Fp) = 3 := by norm_num
  rwa [three] at sum

/-- The limbs the map has for -3. -/
theorem isMont_neg_three :
    IsMont (feSub feZero (feAdd (feAdd montOne montOne) montOne)) (-3) := by
  have difference := isMont_zero.sub isMont_three
  rwa [zero_sub] at difference

theorem isMont_neg_ten :
    IsMont (feSub feZero (feAdd (feAdd (feAdd (feAdd (feAdd montOne montOne) montOne)
      (feAdd (feAdd montOne montOne) montOne)) (feAdd (feAdd montOne montOne) montOne)) montOne))
      (-10) := by
  have difference :=
    isMont_zero.sub (((isMont_three.add isMont_three).add isMont_three).add isMont_one)
  have ten : (0 - (3 + 3 + 3 + 1) : Fp) = -10 := by norm_num
  rwa [ten] at difference

/-- A negative as a number. -/
theorem cast_prime_sub {n : Nat} (le : n ≤ p256Prime) : ((p256Prime - n : Nat) : Fp) = -(n : Fp) := by
  rw [Nat.cast_sub le, ZMod.natCast_self, zero_sub]

/-- The constant of the map is no square. -/
theorem neg_ten_nonsquare : ¬IsSquare (-10 : Fp) := by
  have number : ((p256Prime - 10 : Nat) : Fp) = -10 := cast_prime_sub (by decide +kernel)
  have half : Primality.powMod p256Prime (p256Prime - 10) 256 (p256Prime / 2) = p256Prime - 1 := by
    decide +kernel
  rw [Primality.powMod_eq (by decide +kernel)] at half
  have power : (-10 : Fp) ^ (p256Prime / 2) = -1 := by
    have cast := congrArg (Nat.cast : Nat → Fp) half
    rwa [ZMod.natCast_mod, Nat.cast_pow, number, cast_prime_sub p256Prime_pos, Nat.cast_one] at cast
  have nonzero : (-10 : Fp) ≠ 0 := by
    intro zero
    have positive : p256Prime / 2 ≠ 0 := by
      unfold p256Prime
      norm_num
    rw [zero, zero_pow positive] at power
    exact neg_ne_zero.2 one_ne_zero power.symm
  rw [ZMod.euler_criterion p256Prime nonzero, power]
  intro same
  have two : (2 : Fp) = 0 := by linear_combination -same
  exact two_ne_zero_fp two

theorem three_ne_zero_fp : (-3 : Fp) ≠ 0 := by
  intro zero
  have divides := (ZMod.natCast_eq_zero_iff 3 p256Prime).1 (by
    have three : (3 : Fp) = 0 := by linear_combination -zero
    exact_mod_cast three)
  have large : 3 < p256Prime := by
    unfold p256Prime
    norm_num
  exact absurd (Nat.le_of_dvd (by norm_num) divides) (Nat.not_le.2 large)

/-- Where the denominator of the map vanishes it has an abscissa too. -/
theorem exceptional_isSquare : IsSquare (Sswu.rhs (-3) curveB (curveB * (-10 * -3)⁻¹)) := by
  have inverse : (-10 * -3 : Fp)⁻¹ =
      ((0xf777777680000000f777777777777777777777786eeeeeeeeeeeeeeeeeeeeeee : Nat) : Fp) := by
    apply inv_eq_of_mul_eq_one_right
    have unit := @fp_eq (30 * 0xf777777680000000f777777777777777777777786eeeeeeeeeeeeeeeeeeeeeee) 1
      (by decide +kernel)
    have thirty : (-10 * -3 : Fp) = ((30 : Nat) : Fp) := by norm_num
    rw [thirty, ← Nat.cast_mul, unit, Nat.cast_one]
  have x : curveB * (-10 * -3)⁻¹ =
      ((0xa528bd8696bdaf996c65b982d94959d3146fe6a020693090bdba13132375f224 : Nat) : Fp) := by
    rw [inverse]
    exact (Nat.cast_mul _ _).symm.trans (fp_eq (by decide +kernel))
  have three : ((p256Prime - 3 : Nat) : Fp) = -3 := cast_prime_sub (by decide +kernel)
  have number := @fp_eq
    (0xa528bd8696bdaf996c65b982d94959d3146fe6a020693090bdba13132375f224 ^ 3 + (p256Prime - 3) *
      0xa528bd8696bdaf996c65b982d94959d3146fe6a020693090bdba13132375f224 +
      0x5ac635d8aa3a93e7b3ebbd55769886bc651d06b0cc53b0f63bce3c3e27d2604b)
    (0xe5fb73d16791ce358fb5adb2d33668a3b24099fd8d401f6685e0e994fb4d756 *
      0xe5fb73d16791ce358fb5adb2d33668a3b24099fd8d401f6685e0e994fb4d756) (by decide +kernel)
  rw [Nat.cast_add, Nat.cast_add, Nat.cast_mul, Nat.cast_pow, three, Nat.cast_mul, ← x] at number
  exact ⟨_, number⟩

end Constants

section Map

theorem ordinate_ne_zero {x y : Fp} (on : (curve curveB).toAffine.Nonsingular x y) : y ≠ 0 := by
  rintro rfl
  have equation := (equation_iff_p256 x 0).1 on.1
  apply p256_rootless x
  linear_combination -equation

def sswuA : Fe := feSub feZero (feAdd (feAdd montOne montOne) montOne)

def sswuZ : Fe :=
  feSub feZero (feAdd (feAdd (feAdd (feAdd (feAdd montOne montOne) montOne)
    (feAdd (feAdd montOne montOne) montOne)) (feAdd (feAdd montOne montOne) montOne)) montOne)

/-- The inverse of the denominator. -/
def sswuInverse (um : Fe) : Fe :=
  feInv (feAdd (feMul (feMul sswuZ sswuZ) (feSqr (feSqr um))) (feMul sswuZ (feSqr um)))

def sswuFirst (um : Fe) : Fe :=
  if feIsZero (sswuInverse um) ≠ 0 then feMul montB (feInv (feMul sswuZ sswuA))
  else feMul (feMul (feSub feZero montB) (feInv sswuA)) (feAdd montOne (sswuInverse um))

def sswuSecond (um : Fe) : Fe := feMul (feMul sswuZ (feSqr um)) (sswuFirst um)

/-- The candidate that is an abscissa. -/
def sswuX (um : Fe) : Fe :=
  if feIsSquare (curveRhs sswuA (sswuFirst um)) then sswuFirst um else sswuSecond um

/-- A root of its right-hand side. -/
def sswuRoot (um : Fe) : Fe :=
  if feIsSquare (curveRhs sswuA (sswuFirst um)) then feSqrt (curveRhs sswuA (sswuFirst um))
  else feSqrt (curveRhs sswuA (sswuSecond um))

/-- The root of the argument's parity. -/
def sswuY (u um : Fe) : Fe :=
  if u.headD 0 &&& 1 ≠ feSgn0 (sswuRoot um) then feSub feZero (sswuRoot um) else sswuRoot um

theorem p256Sswu_eq {uBe : Octets 32} (small : ¬u256Cmp (beToFe uBe.bytes 0) p256P ≥ 0) :
    p256Sswu uBe =
      some (Octets.of 64 (feToBe (feFromMont (sswuX (feToMont (beToFe uBe.bytes 0)))) ++
        feToBe (feFromMont (sswuY (beToFe uBe.bytes 0) (feToMont (beToFe uBe.bytes 0)))))) := by
  unfold p256Sswu
  exact if_neg small

variable {um : Fe} {u : Fp}

/-- The denominator of the map, inverted. -/
theorem sswuInverse_mont (mont : IsMont um u) :
    IsMont (sswuInverse um) (Sswu.denominator (-10) u)⁻¹ := by
  have inverse := ((isMont_neg_ten.mul isMont_neg_ten).mul mont.sqr.sqr).add
    (isMont_neg_ten.mul mont.sqr) |>.inv
  have same : (-10 * -10 * (u * u * (u * u)) + -10 * (u * u) : Fp) = Sswu.denominator (-10) u := by
    unfold Sswu.denominator
    ring
  rw [same] at inverse
  exact inverse

theorem sswuFirst_mont (mont : IsMont um u) :
    IsMont (sswuFirst um) (Sswu.first (-3) curveB (-10) u) := by
  have inverse := sswuInverse_mont mont
  unfold sswuFirst Sswu.first
  rw [inverse.isZero]
  by_cases zero : (Sswu.denominator (-10) u)⁻¹ = 0
  · rw [if_pos zero, if_pos zero, if_pos (by decide)]
    exact isMont_b.mul (isMont_neg_ten.mul isMont_neg_three).inv
  · rw [if_neg zero, if_neg zero, if_neg (by decide)]
    have value := ((isMont_zero.sub isMont_b).mul isMont_neg_three.inv).mul (isMont_one.add inverse)
    rw [zero_sub] at value
    exact value

theorem sswuSecond_mont (mont : IsMont um u) :
    IsMont (sswuSecond um) (Sswu.second (-3) curveB (-10) u) := by
  have value := (isMont_neg_ten.mul mont.sqr).mul (sswuFirst_mont mont)
  rw [← sq] at value
  exact value

theorem curveRhs_mont {x : Fe} {v : Fp} (mont : IsMont x v) :
    IsMont (curveRhs sswuA x) (Sswu.rhs (-3) curveB v) := by
  have value := ((mont.sqr.mul mont).add (isMont_neg_three.mul mont)).add isMont_b
  have cube : v * v * v = v ^ 3 := by ring
  rw [cube] at value
  exact value

theorem curve_rhs (x : Fp) : Sswu.rhs (-3) curveB x = x ^ 3 + -3 * x + curveB := rfl

/-- The abscissa an element is mapped to. -/
noncomputable def sswuAbscissa (u : Fp) : Fp := Sswu.abscissa (curve curveB).a₄ curveB (-10) u

theorem sswuAbscissa_eq (u : Fp) : sswuAbscissa u = Sswu.abscissa (-3) curveB (-10) u := rfl

/-- Abscissa and root of the map on limbs are those of the map. -/
theorem sswuX_mont (mont : IsMont um u) :
    IsMont (sswuX um) (sswuAbscissa u) ∧
      ∃ r, IsMont (sswuRoot um) r ∧
        r * r = sswuAbscissa u ^ 3 + -3 * sswuAbscissa u + curveB := by
  have first := sswuFirst_mont mont
  have second := sswuSecond_mont mont
  have square := Sswu.isSquare_abscissa three_ne_zero_fp neg_ten_nonsquare exceptional_isSquare u
  rw [← curve_rhs, sswuAbscissa_eq]
  unfold sswuX sswuRoot
  unfold Sswu.abscissa at square ⊢
  by_cases on : IsSquare (Sswu.rhs (-3) curveB (Sswu.first (-3) curveB (-10) u))
  · obtain ⟨r, root, value⟩ := (curveRhs_mont first).sqrt
    rw [(curveRhs_mont first).isSquare.2 on, if_pos rfl, if_pos rfl, if_pos on]
    exact ⟨first, r, root, value on⟩
  · rw [if_neg on] at square
    obtain ⟨r, root, value⟩ := (curveRhs_mont second).sqrt
    have off : ¬feIsSquare (curveRhs sswuA (sswuFirst um)) = true :=
      fun on' => on ((curveRhs_mont first).isSquare.1 on')
    rw [if_neg off, if_neg off, if_neg on]
    exact ⟨second, r, root, value square⟩

/-- A canonical string is mapped to a point, whose ordinate has the string's parity. -/
theorem p256Sswu_spec {uBe : Octets 32} (small : ofBe uBe.bytes < p256Prime) :
    ∃ y, (curve curveB).toAffine.Nonsingular (sswuAbscissa (ofBe uBe.bytes : Nat)) y ∧
      p256Sswu uBe = some (encode (sswuAbscissa (ofBe uBe.bytes : Nat)) y) ∧
      y.val % 2 = ofBe uBe.bytes % 2 := by
  have canonical : ¬u256Cmp (beToFe uBe.bytes 0) p256P ≥ 0 :=
    fun large => Nat.not_le.2 small ((u256Cmp_octets uBe).1 large)
  obtain ⟨abscissa, r, root, square⟩ := sswuX_mont (mont_octets small)
  generalize sswuAbscissa (ofBe uBe.bytes : Nat) = x at abscissa square ⊢
  have on (y : Fp) (same : y * y = r * r) : (curve curveB).toAffine.Nonsingular x y := by
    apply nonsingular_of_equation
    rw [equation_iff_p256]
    linear_combination same + square
  have nonzero : r ≠ 0 := ordinate_ne_zero (on r rfl)
  rw [p256Sswu_eq canonical, feToBe_fromMont abscissa]
  unfold sswuY
  rw [headD_parity (beToFe_length ..), root.sgn0, limbsVal_octets]
  by_cases same : r.val % 2 = ofBe uBe.bytes % 2
  · rw [same, if_neg (by simp), feToBe_fromMont root]
    exact ⟨r, on r rfl, rfl, same⟩
  · have differ : (if ofBe uBe.bytes % 2 = 1 then (1 : UInt32) else 0) ≠
        if r.val % 2 = 1 then 1 else 0 := by
      intro equal
      split at equal <;> split at equal <;> first | omega | cases equal
    rw [if_pos differ, feToBe_fromMont (isMont_zero.sub root), zero_sub]
    exact ⟨-r, on (-r) (by ring), rfl, by rw [neg_parity nonzero]; omega⟩

theorem p256Sswu_eq_none_iff (uBe : Octets 32) :
    p256Sswu uBe = none ↔ p256Prime ≤ ofBe uBe.bytes := by
  rw [← u256Cmp_octets]
  by_cases large : u256Cmp (beToFe uBe.bytes 0) p256P ≥ 0
  · have refused : p256Sswu uBe = none := by
      unfold p256Sswu
      exact if_pos large
    exact iff_of_true refused large
  · rw [p256Sswu_eq large]
    exact iff_of_false (by simp) large

/-- The sign of an element: the parity of its canonical number. -/
def sgn0 (x : Fp) : Nat := x.val % 2

theorem sgn0_neg {x : Fp} (nonzero : x ≠ 0) : sgn0 (-x) ≠ sgn0 x := by
  unfold sgn0
  rw [neg_parity nonzero]
  omega

/--
The map refuses what is no element of the field, and sends every other string to
its image under the simplified map: a point in canonical coordinates, of the
parity of the string, also where the denominator vanishes.
-/
theorem p256_sswu_image (uBe : Octets 32) :
    (p256Sswu uBe = none ↔ p256Prime ≤ ofBe uBe.bytes) ∧
      (ofBe uBe.bytes < p256Prime → ∃ x y, p256Sswu uBe = some (encode x y) ∧
        Sswu.Image sgn0 (-3) curveB (-10) (ofBe uBe.bytes : Nat) x y ∧
        (∀ x' y', Sswu.Image sgn0 (-3) curveB (-10) (ofBe uBe.bytes : Nat) x' y' →
          x' = x ∧ y' = y) ∧
        ValidAffine (encode x y) ∧ y.val % 2 = ofBe uBe.bytes % 2 ∧
        (Sswu.denominator (-10 : Fp) (ofBe uBe.bytes : Nat) = 0 → x = curveB * (-10 * -3)⁻¹)) := by
  refine ⟨p256Sswu_eq_none_iff uBe, fun small => ?_⟩
  obtain ⟨y, on, mapped, parity⟩ := p256Sswu_spec small
  have image : Sswu.Image sgn0 (-3) curveB (-10) (ofBe uBe.bytes : Nat)
      (sswuAbscissa (ofBe uBe.bytes : Nat)) y := by
    constructor
    · exact sswuAbscissa_eq _
    · have equation := (equation_iff_cubic _ _).1 on.1
      rw [equation, curveCubic, Sswu.rhs]
      ring
    · unfold sgn0
      rw [parity, ZMod.val_natCast_of_lt small]
  refine ⟨_, y, mapped, image, ?_, ?_, parity, ?_⟩
  · intro x' y' other
    exact image.unique other (sgn0_neg (ordinate_ne_zero on))
  · exact (validAffine_iff _).2 ⟨.some _ y on, rfl⟩
  · intro vanishes
    have square : IsSquare (Sswu.rhs (-3) curveB (Sswu.first (-3) curveB (-10)
        ((ofBe uBe.bytes : Nat) : Fp))) := by
      rw [Sswu.first_exceptional vanishes]
      exact exceptional_isSquare
    rw [sswuAbscissa_eq, Sswu.abscissa, if_pos square, Sswu.first_exceptional vanishes]

/-- Zero is one of the elements where the denominator vanishes. -/
theorem p256_sswu_image_zero :
    ∃ x y, p256Sswu (Octets.zero 32) = some (encode x y) ∧ x = curveB * (-10 * -3)⁻¹ := by
  have zero : ofBe (Octets.zero 32).bytes = 0 := by decide
  obtain ⟨x, y, mapped, -, -, -, -, exceptional⟩ :=
    (p256_sswu_image (Octets.zero 32)).2 (by rw [zero]; exact p256Prime_pos)
  refine ⟨x, y, mapped, exceptional ?_⟩
  rw [zero, Sswu.denominator, Nat.cast_zero]
  ring

end Map

section Point

/-- The password point of two strings of one parity is finite: they are not mapped to a point
and its negative. -/
theorem p256PointAdd_sswu {u1 u2 : Octets 32} (small1 : ofBe u1.bytes < p256Prime)
    (small2 : ofBe u2.bytes < p256Prime) (parity : ofBe u1.bytes % 2 = ofBe u2.bytes % 2) :
    ∃ p1 p2 pt, p256Sswu u1 = some p1 ∧ p256Sswu u2 = some p2 ∧ p256PointAdd p1 p2 = some pt ∧
      ∃ P : P256, P ≠ 0 ∧ encodePoint P = some pt := by
  obtain ⟨y1, on1, mapped1, parity1⟩ := p256Sswu_spec small1
  obtain ⟨y2, on2, mapped2, parity2⟩ := p256Sswu_spec small2
  let P : P256 := Affine.Point.some _ _ on1
  let Q : P256 := Affine.Point.some _ _ on2
  have sum := @p256PointAdd_spec P Q _ _ rfl rfl
  have finite : P + Q ≠ 0 := by
    intro zero
    have opposite : Q = -P := eq_neg_of_add_eq_zero_right zero
    have negative : y2 = -y1 := by
      have same := opposite.trans (Affine.Point.neg_some on1)
      rw [Affine.Point.some.injEq] at same
      exact same.2.trans (negY_eq _ _)
    have differ := neg_parity (ordinate_ne_zero on1)
    rw [negative, differ] at parity2
    omega
  cases found : encodePoint (P + Q) with
  | none => exact absurd ((encodePoint_eq_none_iff _).1 found) finite
  | some pt => exact ⟨_, _, pt, mapped1, mapped2, sum.trans found, _, finite, found⟩

/-- The field element a password and its label are hashed to. -/
def h2eElement (ssid secret label : Bytes) : Option (Octets 32) :=
  p256ReduceModP (hkdfSha256Expand (hkdfSha256Extract ssid secret).bytes label 48)

/-- A password whose two elements have one parity has a password point. -/
theorem saeDerivePtH2e_finite {ssid password : Bytes} {u1 u2 : Octets 32}
    (short : password.length ≤ 256)
    (first : h2eElement ssid password (ascii "SAE Hash to Element u1 P1") = some u1)
    (second : h2eElement ssid password (ascii "SAE Hash to Element u2 P2") = some u2)
    (small1 : ofBe u1.bytes < p256Prime) (small2 : ofBe u2.bytes < p256Prime)
    (parity : ofBe u1.bytes % 2 = ofBe u2.bytes % 2) :
    ∃ pt, saeDerivePtH2e ssid password [] = some pt ∧
      ∃ P : P256, P ≠ 0 ∧ encodePoint P = some pt := by
  obtain ⟨p1, p2, pt, mapped1, mapped2, sum, finite⟩ := p256PointAdd_sswu small1 small2 parity
  refine ⟨pt, ?_, finite⟩
  have point1 : h2ePoint (hkdfSha256Extract ssid (password ++ []))
      (ascii "SAE Hash to Element u1 P1") = some p1 := by
    rw [List.append_nil, h2ePoint]
    exact (congrArg (fun u => u.bind p256Sswu) first).trans mapped1
  have point2 : h2ePoint (hkdfSha256Extract ssid (password ++ []))
      (ascii "SAE Hash to Element u2 P2") = some p2 := by
    rw [List.append_nil, h2ePoint]
    exact (congrArg (fun u => u.bind p256Sswu) second).trans mapped2
  unfold saeDerivePtH2e
  rw [if_neg (by rw [List.length_nil]; omega)]
  dsimp only
  rw [point1, Option.bind_some, point2, Option.bind_some]
  exact sum

/-- The scalar a pair of addresses is hashed to. -/
def pweScalar (macA macB : MacAddr) : Octets 32 :=
  let hi := if bytesLt macA.bytes macB.bytes then macB else macA
  let lo := if bytesLt macA.bytes macB.bytes then macA else macB
  p256ScalarReduceModNm1Plus1 (hmacSha256 (Octets.zero 32).bytes (hi.bytes ++ lo.bytes))

/-- A commit on a password point succeeds for secrets in range. -/
theorem saeCommit_succeeds {pt : Octets 64} {P : P256} (finite : P ≠ 0)
    (encoded : encodePoint P = some pt) {macA macB : MacAddr}
    (scalar : scalarInRange (pweScalar macA macB) = true) (sae : Sae) {rnd mask : Octets 32}
    (rndOk : p256ScalarValid rnd = true) (maskOk : p256ScalarValid mask = true)
    (sumOk : p256ScalarValid (p256ScalarAddN rnd mask) = true)
    (large : (p256ScalarAddN rnd mask).bytes ≠ List.replicate 31 0 ++ [1]) :
    ∃ sae', saeCommit sae pt macA macB rnd mask = (sae', true) := by
  have multiple := p256PointMul_spec (pweScalar macA macB) encoded
  cases found : encodePoint (scalarVal (pweScalar macA macB) • P) with
  | none => exact absurd ((encodePoint_eq_none_iff _).1 found) (nsmul_ne_zero scalar finite)
  | some pwe =>
    have derived : saeDerivePweFromPt pt macA macB = some pwe := by
      unfold saeDerivePweFromPt
      rw [if_neg (by simp [(p256PointValid_iff pt).2 ⟨P, encoded⟩])]
      exact multiple.trans found
    obtain ⟨sae', commit, _⟩ := exists_commit sae ((p256PointValid_iff pwe).2 ⟨_, found⟩) rndOk
      maskOk sumOk large
    refine ⟨sae', ?_⟩
    unfold saeCommit
    rw [derived]
    exact commit

end Point

end Rf2a4m1
