import Rf2a4m1.Crypto.Curve

/-!
# Points as octet strings

A finite point is stored as its two canonical coordinates, 32 octets each. On
these strings the exported functions compute in the group of the curve and
refuse infinity, for which there is no string.
-/

set_option autoImplicit false

namespace Rf2a4m1

open ByteString Jacobian WeierstrassCurve

section Limbs

theorem beToFe_length (b : Bytes) (off : Nat) : (beToFe b off).length = 8 := by
  rw [beToFe, List.length_map, List.length_range]

theorem limb_toNat (b : Bytes) (off : Nat) :
    (UInt32.ofNat (ofBe (slice b off 4))).toNat = ofBe (slice b off 4) := by
  have lt := ofBe_lt (slice b off 4)
  have short : (slice b off 4).length ≤ 4 := by
    rw [slice_length]
    exact Nat.min_le_left ..
  have bound : 256 ^ (slice b off 4).length ≤ 256 ^ 4 := Nat.pow_le_pow_right (by decide) short
  rw [UInt32.toNat_ofNat']
  omega

/-- The limbs of 32 octets stand for the number that the octets do. -/
theorem limbsVal_beToFe {b : Bytes} {off : Nat} (long : off + 32 ≤ b.length) :
    limbsVal (beToFe b off) = ofBe (slice b off 32) := by
  have words : ∀ n, off + 4 * n ≤ b.length →
      limbsVal ((List.range n).map fun i => UInt32.ofNat (ofBe (slice b (off + (n - 1 - i) * 4) 4))) =
        ofBe (slice b off (4 * n)) := by
    intro n
    induction n with
    | zero => exact fun _ => rfl
    | succ n ih =>
      intro inside
      have last : (slice b (off + 4 * n) 4).length = 4 := by
        rw [slice_length]
        omega
      have shift : ∀ i, off + (n + 1 - 1 - (i + 1)) * 4 = off + (n - 1 - i) * 4 := fun i => by omega
      have first : off + (n + 1 - 1 - 0) * 4 = off + 4 * n := by omega
      rw [List.range_succ_eq_map, List.map_cons, List.map_map, limbsVal_cons, first, limb_toNat,
        Nat.mul_succ, slice_add, ofBe_append, last, ← ih (by omega)]
      simp only [Function.comp_def, Nat.succ_eq_add_one, shift]
      omega
  exact words 8 long

/-- The limbs of a string of 32 octets. -/
theorem limbsVal_octets (k : Octets 32) : limbsVal (beToFe k.bytes 0) = ofBe k.bytes := by
  rw [limbsVal_beToFe (by simp), slice, List.drop_zero, List.take_of_length_le (by simp)]

theorem reduced_octets {k : Octets 32} (small : ofBe k.bytes < p256Prime) :
    Reduced (beToFe k.bytes 0) :=
  ⟨beToFe_length .., by rw [limbsVal_octets]; exact small⟩

/-- Numbers from the modulus on are refused. -/
theorem u256Cmp_octets (k : Octets 32) :
    u256Cmp (beToFe k.bytes 0) p256P ≥ 0 ↔ p256Prime ≤ ofBe k.bytes := by
  have below := u256Cmp_lt_iff (beToFe_length k.bytes 0) (rfl : p256P.length = 8)
  rw [limbsVal_octets, limbsVal_p256P] at below
  rw [ge_iff_le, ← not_lt, below, not_lt]

theorem mont_octets {k : Octets 32} (small : ofBe k.bytes < p256Prime) :
    IsMont (feToMont (beToFe k.bytes 0)) (ofBe k.bytes : Nat) := by
  have mont := IsMont.toMont (reduced_octets small)
  rwa [limbsVal_octets] at mont

theorem feToBe_eq (a : Fe) : feToBe a = be (4 * a.length) (limbsVal a) := by
  induction a with
  | nil => rfl
  | cons x xs ih =>
    have limb := x.toNat_lt
    unfold feToBe at ih ⊢
    rw [List.reverse_cons, List.flatMap_append, ih, List.length_cons, Nat.mul_succ, Nat.add_comm,
      be_append, limbsVal_cons]
    have high : (x.toNat + 2 ^ 32 * limbsVal xs) / 256 ^ 4 = limbsVal xs := by omega
    have low : (x.toNat + 2 ^ 32 * limbsVal xs) % 256 ^ 4 = x.toNat := by omega
    rw [high, be, be, ← le_mod 4 (x.toNat + _), low, List.flatMap_singleton, be]

end Limbs

section Encoding

variable {x y : Fp} {pt : Octets 64}

/-- The string of a finite point. -/
def encode (x y : Fp) : Octets 64 := Octets.of 64 (be 32 x.val ++ be 32 y.val)

/-- The string of a point, none for infinity. -/
def encodePoint : P256 → Option (Octets 64)
  | .zero => none
  | .some x y _ => some (encode x y)

theorem encode_bytes (x y : Fp) : (encode x y).bytes = be 32 x.val ++ be 32 y.val :=
  Octets.of_bytes_of_length (by simp)

theorem encode_x (x y : Fp) : slice (encode x y).bytes 0 32 = be 32 x.val := by
  rw [encode_bytes, slice_append_left (be_length ..)]

theorem encode_y (x y : Fp) : slice (encode x y).bytes 32 32 = be 32 y.val := by
  rw [encode_bytes, slice_append_right (be_length ..).le, be_length, Nat.sub_self, slice,
    List.drop_zero, List.take_of_length_le (be_length ..).le]

theorem val_lt_256 (x : Fp) : x.val < 256 ^ 32 :=
  Nat.lt_trans (val_lt_fp x) (Nat.lt_of_lt_of_eq p256Prime_lt (by norm_num))

theorem ofBe_be_val (x : Fp) : ofBe (be 32 x.val) = x.val := by
  rw [ofBe_be, Nat.mod_eq_of_lt (val_lt_256 x)]

theorem encode_injective {x' y' : Fp} (same : encode x y = encode x' y') : x = x' ∧ y = y' := by
  have sameX := (encode_x x y).symm.trans ((congrArg (fun p => slice p.bytes 0 32) same).trans
    (encode_x x' y'))
  have sameY := (encode_y x y).symm.trans ((congrArg (fun p => slice p.bytes 32 32) same).trans
    (encode_y x' y'))
  constructor
  · apply ZMod.val_injective p256Prime
    rw [← ofBe_be_val x, sameX, ofBe_be_val]
  · apply ZMod.val_injective p256Prime
    rw [← ofBe_be_val y, sameY, ofBe_be_val]

/-- Different points have different strings. -/
theorem encodePoint_injective {P Q : P256} (hP : encodePoint P = some pt)
    (hQ : encodePoint Q = some pt) : P = Q := by
  cases P with
  | zero => cases hP
  | some x y h =>
    cases Q with
    | zero => cases hQ
    | some x' y' h' =>
      obtain ⟨rfl, rfl⟩ := encode_injective (Option.some.inj (hP.trans hQ.symm))
      rfl

theorem encodePoint_eq_none_iff (P : P256) : encodePoint P = none ↔ P = 0 := by
  cases P with
  | zero => exact iff_of_true rfl rfl
  | some x y h => exact iff_of_false (Option.some_ne_none _) (Affine.Point.some_ne_zero h)

/-- A coordinate of a string as limbs. -/
theorem coord_encode (x y : Fp) :
    (Reduced (beToFe (encode x y).bytes 0) ∧ limbsVal (beToFe (encode x y).bytes 0) = x.val) ∧
      Reduced (beToFe (encode x y).bytes 32) ∧
        limbsVal (beToFe (encode x y).bytes 32) = y.val := by
  have valX : limbsVal (beToFe (encode x y).bytes 0) = x.val := by
    rw [limbsVal_beToFe (by simp), encode_x, ofBe_be_val]
  have valY : limbsVal (beToFe (encode x y).bytes 32) = y.val := by
    rw [limbsVal_beToFe (by simp), encode_y, ofBe_be_val]
  exact ⟨⟨⟨beToFe_length .., by rw [valX]; exact val_lt_fp x⟩, valX⟩,
    ⟨beToFe_length .., by rw [valY]; exact val_lt_fp y⟩, valY⟩

/-- Canonical coordinates are those of an encoding. -/
theorem eq_encode (ltX : ofBe (slice pt.bytes 0 32) < p256Prime)
    (ltY : ofBe (slice pt.bytes 32 32) < p256Prime) :
    pt = encode (ofBe (slice pt.bytes 0 32) : Nat) (ofBe (slice pt.bytes 32 32) : Nat) := by
  have half : ∀ off, off + 32 ≤ 64 → ∀ lt : ofBe (slice pt.bytes off 32) < p256Prime,
      be 32 ((ofBe (slice pt.bytes off 32) : Nat) : Fp).val = slice pt.bytes off 32 := by
    intro off inside lt
    have len : (slice pt.bytes off 32).length = 32 := by
      rw [slice_length, Octets.length_bytes]
      omega
    have back := be_ofBe (slice pt.bytes off 32)
    rw [len] at back
    rw [ZMod.val_natCast_of_lt lt, back]
  apply Octets.ext
  rw [encode_bytes, half 0 (by decide) ltX, half 32 (by decide) ltY, slice, List.drop_zero]
  have rest : slice pt.bytes 32 32 = pt.bytes.drop 32 := by
    rw [slice, List.take_of_length_le (by simp)]
  rw [rest, List.take_append_drop]

theorem coordsCanonical_iff (pt : Octets 64) :
    coordsCanonical (beToFe pt.bytes 0) (beToFe pt.bytes 32) = true ↔
      ∃ x y, pt = encode x y := by
  have canonical : coordsCanonical (beToFe pt.bytes 0) (beToFe pt.bytes 32) = true ↔
      ofBe (slice pt.bytes 0 32) < p256Prime ∧ ofBe (slice pt.bytes 32 32) < p256Prime := by
    unfold coordsCanonical
    rw [Bool.and_eq_true, decide_eq_true_eq, decide_eq_true_eq,
      u256Cmp_lt_iff (beToFe_length ..) rfl, u256Cmp_lt_iff (beToFe_length ..) rfl,
      limbsVal_p256P, limbsVal_beToFe (by simp), limbsVal_beToFe (by simp)]
  rw [canonical]
  constructor
  · exact fun lt => ⟨_, _, eq_encode lt.1 lt.2⟩
  · rintro ⟨x, y, rfl⟩
    rw [encode_x, encode_y, ofBe_be_val, ofBe_be_val]
    exact ⟨val_lt_fp x, val_lt_fp y⟩

theorem isMont_encode (x y : Fp) :
    IsMont (feToMont (beToFe (encode x y).bytes 0)) x ∧
      IsMont (feToMont (beToFe (encode x y).bytes 32)) y := by
  obtain ⟨⟨reducedX, valX⟩, reducedY, valY⟩ := coord_encode x y
  have montX := IsMont.toMont reducedX
  have montY := IsMont.toMont reducedY
  rw [valX, ZMod.natCast_zmod_val] at montX
  rw [valY, ZMod.natCast_zmod_val] at montY
  exact ⟨montX, montY⟩

end Encoding

section Functions

variable {P Q : P256} {pt pt' : Octets 64}

theorem pointOnCurve_iff {xm ym : Fe} {x y : Fp} (hx : IsMont xm x) (hy : IsMont ym y) :
    pointOnCurve xm ym = true ↔ (curve curveB).toAffine.Equation x y := by
  have rhs := ((hx.sqr.mul hx).sub ((hx.add hx).add hx)).add isMont_b
  unfold pointOnCurve
  dsimp only
  rw [hy.sqr.eq rhs, equation_iff_p256]
  split
  · rename_i on
    exact iff_of_true (by decide) on
  · rename_i off
    exact iff_of_false (by decide) off

/-- The strings of finite points are the ones that pass validation. -/
theorem p256PointValid_iff (pt : Octets 64) :
    p256PointValid pt = true ↔ ∃ P, encodePoint P = some pt := by
  unfold p256PointValid
  dsimp only
  have canonical := coordsCanonical_iff pt
  constructor
  · intro valid
    split at valid
    · cases valid
    rename_i inside
    obtain ⟨x, y, rfl⟩ := canonical.1 (by simpa using inside)
    split at valid
    · cases valid
    have on := (pointOnCurve_iff (isMont_encode x y).1 (isMont_encode x y).2).1 valid
    exact ⟨.some x y (nonsingular_of_equation on), rfl⟩
  · rintro ⟨P, encoded⟩
    cases P with
    | zero => cases encoded
    | some x y h =>
    obtain rfl := Option.some.inj encoded
    rw [if_neg (by simpa using canonical.2 ⟨x, y, rfl⟩)]
    have valid := (pointOnCurve_iff (isMont_encode x y).1 (isMont_encode x y).2).2 h.1
    split
    · -- the origin is not on the curve
      rename_i origin
      obtain ⟨⟨-, valX⟩, -, valY⟩ := coord_encode x y
      rw [feIsZero_eq, feIsZero_eq, valX, valY] at origin
      have zero : ∀ z : Fp, (if z.val = 0 then 1 else 0 : UInt32) ≠ 0 → z = 0 := by
        intro z set
        split at set
        · rename_i none
          exact (ZMod.val_eq_zero z).1 none
        · exact absurd rfl set
      obtain ⟨rfl, rfl⟩ : x = 0 ∧ y = 0 := ⟨zero x origin.1, zero y origin.2⟩
      have on := (equation_iff_p256 0 0).1 h.1
      exact absurd on (by decide +kernel)
    · exact valid

theorem loadPoint_encode (x y : Fp) :
    ∃ p, loadPoint (encode x y) = some p ∧ IsMontJac p { x := x, y := y, z := 1 } := by
  obtain ⟨montX, montY⟩ := isMont_encode x y
  unfold loadPoint
  dsimp only
  rw [if_neg (by simpa using (coordsCanonical_iff (encode x y)).2 ⟨x, y, rfl⟩)]
  refine ⟨_, rfl, ?_, ?_, ?_⟩
  · dsimp only
    exact montX
  · dsimp only
    exact montY
  · dsimp only
    exact isMont_one

theorem loadPoint_spec (encoded : encodePoint P = some pt) :
    ∃ p c, loadPoint pt = some p ∧ IsMontJac p c ∧ Holds c P := by
  cases P with
  | zero => cases encoded
  | some x y h =>
  obtain rfl := Option.some.inj encoded
  obtain ⟨p, loaded, mont⟩ := loadPoint_encode x y
  exact ⟨p, _, loaded, mont, holds_affine h⟩

theorem feToBe_fromMont {a : Fe} {x : Fp} (h : IsMont a x) : feToBe (feFromMont a) = be 32 x.val := by
  obtain ⟨len, val⟩ := h.fromMont
  rw [feToBe_eq, len, val]

theorem storePoint_spec {p : Jac} {c : Coords Fp} (mont : IsMontJac p c) (holds : Holds c P) :
    storePoint p = encodePoint P := by
  have affine := mont.toAffine
  unfold storePoint
  cases holds with
  | infinite z =>
    rw [if_pos z] at affine
    rw [affine]
    rfl
  | @finite x y h z px py =>
    rw [if_neg z] at affine
    obtain ⟨xm, ym, stored, montX, montY⟩ := affine
    rw [px, mul_div_cancel_right₀ _ (pow_ne_zero 2 z)] at montX
    rw [py, mul_div_cancel_right₀ _ (pow_ne_zero 3 z)] at montY
    rw [stored, Option.map_some, feToBe_fromMont montX, feToBe_fromMont montY]
    rfl

/-- The number of a scalar. -/
def scalarVal (k : Octets 32) : Nat := ofBe k.bytes

theorem scalarVal_lt (k : Octets 32) : scalarVal k < 2 ^ 256 := by
  have lt := ofBe_lt k.bytes
  rwa [Octets.length_bytes] at lt

/-- The highest bits of a 256-bit number are its quotient. -/
theorem bitsVal_range {n : Nat} (lt : n < 2 ^ 256) {j : Nat} (le : j ≤ 256) :
    bitsVal ((List.range j).map fun i => n.testBit (255 - i)) = n / 2 ^ (256 - j) := by
  induction j with
  | zero => exact (Nat.div_eq_of_lt lt).symm
  | succ j ih =>
    have step : 256 - j = 255 - j + 1 := by omega
    have last : 256 - (j + 1) = 255 - j := by omega
    have rest := ih (by omega)
    unfold bitsVal at rest ⊢
    rw [List.range_succ, List.map_append, List.foldl_append, rest, step, last, Nat.pow_succ,
      ← Nat.div_div_eq_div_mul, List.map_singleton, List.foldl_cons, List.foldl_nil,
      Nat.toNat_testBit]
    omega

theorem scalarBit_iff (k : Octets 32) {i : Nat} (inside : i < 256) :
    scalarBit k i ≠ 0 ↔ (scalarVal k).testBit (255 - i) = true := by
  have position : 255 - i = 8 * (k.bytes.length - 1 - i / 8) + (7 - i % 8) := by
    rw [Octets.length_bytes]
    omega
  have octet : i / 8 < k.bytes.length := by
    rw [Octets.length_bytes]
    omega
  have amount : (UInt8.ofNat (7 - i % 8)).toNat % 8 = 7 - i % 8 := by
    rw [UInt8.toNat_ofNat']
    omega
  have bit : (scalarBit k i).toNat = ((byteAt k.bytes (i / 8)).toNat.testBit (7 - i % 8)).toNat := by
    unfold scalarBit
    rw [UInt8.toNat_toUInt32, UInt8.toNat_and, UInt8.toNat_shiftRight, amount, Nat.toNat_testBit,
      Nat.shiftRight_eq_div_pow]
    exact Nat.and_one_is_mod _
  have set : scalarBit k i = 0 ↔ (scalarBit k i).toNat = 0 := UInt32.toNat_inj.symm
  rw [position, scalarVal, testBit_ofBe octet (by omega), Ne, set, bit]
  cases (byteAt k.bytes (i / 8)).toNat.testBit (7 - i % 8) <;> simp

/-- The ladder's bits are those of the scalar. -/
theorem bitsVal_scalarBits (k : Octets 32) : bitsVal (scalarBits k) = scalarVal k := by
  have same : scalarBits k = (List.range 256).map fun i => (scalarVal k).testBit (255 - i) := by
    refine List.map_congr_left fun i member => ?_
    have iff := scalarBit_iff k (List.mem_range.1 member)
    by_cases set : scalarBit k i ≠ 0
    · rw [iff.1 set, decide_eq_true set]
    · rw [Bool.eq_false_iff.2 (fun bit => set (iff.2 bit)), decide_eq_false set]
  rw [same, bitsVal_range (scalarVal_lt k) (Nat.le_refl _), Nat.sub_self, Nat.pow_zero, Nat.div_one]

/-- The ladder multiplies by the scalar. -/
theorem jacMul_spec {p : Jac} {c : Coords Fp} (mont : IsMontJac p c) (holds : Holds c P)
    (k : Octets 32) :
    ∃ d, IsMontJac (jacMul k p) d ∧ Holds d (scalarVal k • P) := by
  have multiple := holds.mul two_ne_zero_fp (scalarBits k)
  rw [bitsVal_scalarBits] at multiple
  exact ⟨_, mont.mul k, multiple⟩

theorem p256PointMul_spec (k : Octets 32) (encoded : encodePoint P = some pt) :
    p256PointMul k pt = encodePoint (scalarVal k • P) := by
  have valid := (p256PointValid_iff pt).2 ⟨P, encoded⟩
  obtain ⟨p, c, loaded, mont, holds⟩ := loadPoint_spec encoded
  obtain ⟨d, mont', holds'⟩ := jacMul_spec mont holds k
  unfold p256PointMul
  rw [if_neg (by simp [valid]), loaded, Option.bind_some]
  exact storePoint_spec mont' holds'

theorem p256PointAdd_spec (encoded : encodePoint P = some pt) (encoded' : encodePoint Q = some pt') :
    p256PointAdd pt pt' = encodePoint (P + Q) := by
  have valid := (p256PointValid_iff pt).2 ⟨P, encoded⟩
  have valid' := (p256PointValid_iff pt').2 ⟨Q, encoded'⟩
  obtain ⟨p, c, loaded, mont, holds⟩ := loadPoint_spec encoded
  obtain ⟨q, d, loaded', mont', holds'⟩ := loadPoint_spec encoded'
  unfold p256PointAdd
  rw [if_neg (by simp [valid, valid']), loaded, loaded', Option.bind_some, Option.bind_some]
  exact storePoint_spec (mont.add mont') (holds.add two_ne_zero_fp holds')

theorem scalarInRange_iff (k : Octets 32) :
    scalarInRange k = true ↔ 0 < scalarVal k ∧ scalarVal k < p256Order := by
  have val : limbsVal (beToFe k.bytes 0) = scalarVal k := limbsVal_octets k
  unfold scalarInRange
  dsimp only
  rw [feIsZero_eq, val]
  by_cases zero : scalarVal k = 0
  · rw [if_pos zero, if_pos (by decide)]
    exact iff_of_false (by decide) (by omega)
  · rw [if_neg zero, if_neg (by decide), decide_eq_true_eq, u256Cmp_lt_iff (beToFe_length ..) rfl,
      val, limbsVal_p256N]
    omega

/-- A valid scalar takes no finite point to infinity. -/
theorem nsmul_ne_zero {k : Octets 32} (valid : scalarInRange k = true) (finite : P ≠ 0) :
    scalarVal k • P ≠ 0 := by
  obtain ⟨positive, lt⟩ := (scalarInRange_iff k).1 valid
  rw [Ne, p256_nsmul_eq_zero_iff finite]
  exact Nat.not_dvd_of_pos_of_lt positive lt

/-- The string of a point's x-coordinate, none at infinity. -/
def xString : P256 → Option (Octets 32)
  | .zero => none
  | .some x _ _ => some (Octets.of 32 (be 32 x.val))

theorem xString_neg (P : P256) : xString (-P) = xString P := by
  cases P with
  | zero => rfl
  | some x y h => rfl

theorem xString_isSome {P : P256} (finite : P ≠ 0) : ∃ z, xString P = some z := by
  cases P with
  | zero => exact absurd rfl finite
  | some x y h => exact ⟨_, rfl⟩

theorem p256Ecdh_spec {k : Octets 32} (inRange : scalarInRange k = true)
    (encoded : encodePoint P = some pt) : p256Ecdh k pt = xString (scalarVal k • P) := by
  have valid := (p256PointValid_iff pt).2 ⟨P, encoded⟩
  obtain ⟨p, c, loaded, mont, holds⟩ := loadPoint_spec encoded
  obtain ⟨d, mont', holds'⟩ := jacMul_spec mont holds k
  have same : p = { x := feToMont (beToFe pt.bytes 0), y := feToMont (beToFe pt.bytes 32),
                    z := montOne } := by
    unfold loadPoint at loaded
    dsimp only at loaded
    split at loaded
    · cases loaded
    · exact (Option.some.inj loaded).symm
  unfold p256Ecdh
  dsimp only
  rw [if_neg (by simp [inRange]), if_neg (by simp [valid]), ← same]
  have affine := mont'.toAffine
  cases product : scalarVal k • P with
  | zero =>
    rw [product] at holds'
    rw [if_pos (holds'.z_eq_zero_iff.2 rfl)] at affine
    rw [affine]
    rfl
  | some x y h =>
    rw [product] at holds'
    cases holds' with
    | finite _ z px py =>
      rw [if_neg z] at affine
      obtain ⟨xm, ym, stored, montX, -⟩ := affine
      rw [px, mul_div_cancel_right₀ _ (pow_ne_zero 2 z)] at montX
      rw [stored, Option.map_some, feToBe_fromMont montX]
      rfl

theorem p256Ecdh_invalid (k : Octets 32) (invalid : p256PointValid pt = false) :
    p256Ecdh k pt = none := by
  unfold p256Ecdh
  split
  · rfl
  · rw [if_pos (by simp [invalid])]

theorem p256PointNegate_encode (x y : Fp) : p256PointNegate (encode x y) = encode x (-y) := by
  obtain ⟨-, reduced, val⟩ := coord_encode x y
  obtain ⟨zero, zeroVal⟩ := feZero_reduced
  obtain ⟨reduced', val'⟩ := feSub_val zero reduced
  rw [zeroVal, val, Nat.zero_add] at val'
  have negated : (p256Prime - y.val) % p256Prime = (-y).val := by
    rw [ZMod.neg_val]
    have lt := val_lt_fp y
    split
    · rename_i none
      rw [none, ZMod.val_zero, Nat.sub_zero, Nat.mod_self]
    · rename_i some
      have positive : 0 < y.val := Nat.pos_of_ne_zero fun none => some ((ZMod.val_eq_zero y).1 none)
      exact Nat.mod_eq_of_lt (by omega)
  unfold p256PointNegate
  rw [feToBe_eq, reduced'.length, val', negated, encode_x]
  rfl

theorem p256PointNegate_spec (encoded : encodePoint P = some pt) :
    encodePoint (-P) = some (p256PointNegate pt) := by
  cases P with
  | zero => cases encoded
  | some x y h =>
    obtain rfl := Option.some.inj encoded
    have negY := negY_eq (b := curveB) x y
    rw [p256PointNegate_encode, Affine.Point.neg_some]
    simp only [encodePoint, negY]

/-- The right-hand side of the curve's equation. -/
def curveCubic (x : Fp) : Fp := x ^ 3 - 3 • x + curveB

theorem equation_iff_cubic (x y : Fp) :
    (curve curveB).toAffine.Equation x y ↔ y ^ 2 = curveCubic x := by
  rw [equation_iff_p256, curveCubic]
  constructor
  · intro on
    linear_combination on
  · intro on
    linear_combination on

/-- The right-hand side on limbs. -/
theorem curveCubic_mont {xm : Fe} {x : Fp} (mont : IsMont xm x) :
    IsMont (feAdd (feSub (feMul (feSqr xm) xm) (feAdd (feAdd xm xm) xm)) montB) (curveCubic x) := by
  have rhs := ((mont.sqr.mul mont).sub ((mont.add mont).add mont)).add isMont_b
  have same : x * x * x - (x + x + x) + curveB = curveCubic x := by
    unfold curveCubic
    ring
  rwa [same] at rhs

/-- The even one of a root and its negative. -/
theorem evenRoot_mont {ym : Fe} {r : Fp} (root : IsMont ym r) :
    ∃ y, IsMont (if feSgn0 ym ≠ 0 then feSub feZero ym else ym) y ∧ y ^ 2 = r ^ 2 ∧
      y.val % 2 = 0 := by
  rw [root.sgn0]
  by_cases odd : r.val % 2 = 1
  · have nonzero : r ≠ 0 := by
      rintro rfl
      rw [ZMod.val_zero] at odd
      omega
    rw [if_pos odd, if_pos (by decide)]
    refine ⟨0 - r, isMont_zero.sub root, by ring, ?_⟩
    rw [zero_sub, neg_parity nonzero, odd]
  · rw [if_neg odd, if_neg (by decide)]
    exact ⟨r, root, rfl, by omega⟩

/-- Decompression finds an even ordinate wherever there is one. -/
theorem p256PointFromX_square {k : Octets 32} (small : ofBe k.bytes < p256Prime)
    (square : IsSquare (curveCubic (ofBe k.bytes : Nat))) :
    ∃ y, p256PointFromX k = some (encode (ofBe k.bytes : Nat) y) ∧
      y ^ 2 = curveCubic (ofBe k.bytes : Nat) ∧ y.val % 2 = 0 := by
  have mont := mont_octets small
  have rhs := curveCubic_mont mont
  obtain ⟨r, root, squared⟩ := rhs.sqrt
  obtain ⟨y, even, same, parity⟩ := evenRoot_mont root
  have canonical : ¬u256Cmp (beToFe k.bytes 0) p256P ≥ 0 :=
    fun large => Nat.not_le.2 small ((u256Cmp_octets k).1 large)
  refine ⟨y, ?_, ?_, parity⟩
  · unfold p256PointFromX
    dsimp only
    rw [if_neg canonical, if_neg (by simp [rhs.isSquare.2 square]), feToBe_fromMont mont,
      feToBe_fromMont even]
    rfl
  · rw [same, sq, squared square]

/-- Decompression refuses what is no abscissa. -/
theorem p256PointFromX_none {k : Octets 32}
    (off : p256Prime ≤ ofBe k.bytes ∨ ¬IsSquare (curveCubic (ofBe k.bytes : Nat))) :
    p256PointFromX k = none := by
  unfold p256PointFromX
  dsimp only
  by_cases large : p256Prime ≤ ofBe k.bytes
  · rw [if_pos ((u256Cmp_octets k).2 large)]
  · have rhs := curveCubic_mont (mont_octets (Nat.lt_of_not_le large))
    have nonsquare := off.resolve_left large
    rw [if_neg (fun refused => large ((u256Cmp_octets k).1 refused)),
      if_pos (by simpa using fun square => nonsquare (rhs.isSquare.1 square))]

theorem ofBe_val_octets (x : Fp) : ofBe (Octets.of 32 (be 32 x.val)).bytes = x.val := by
  rw [Octets.of_bytes_of_length (be_length ..), ofBe_be_val]

/-- Decompression finds one of the two points over an x-coordinate. -/
theorem p256PointFromX_encode {x y : Fp} (h : (curve curveB).toAffine.Nonsingular x y) :
    ∃ y', p256PointFromX (Octets.of 32 (be 32 x.val)) = some (encode x y') ∧
      y' * y' = y * y ∧ y'.val % 2 = 0 := by
  have val := ofBe_val_octets x
  have on := (equation_iff_cubic x y).1 h.1
  have found := @p256PointFromX_square (Octets.of 32 (be 32 x.val)) (by rw [val]; exact val_lt_fp x)
    (by rw [val, ZMod.natCast_zmod_val, ← on]; exact IsSquare.sq y)
  rw [val, ZMod.natCast_zmod_val] at found
  obtain ⟨y', found, squared, even⟩ := found
  refine ⟨y', found, ?_, even⟩
  rw [← sq, ← sq, squared, on]

/-- Decompressing the first half of a string gives the point or its negative. -/
theorem p256PointFromX_spec (encoded : encodePoint P = some pt) :
    ∃ pt', p256PointFromX (Octets.of 32 (slice pt.bytes 0 32)) = some pt' ∧
      (encodePoint P = some pt' ∨ encodePoint (-P) = some pt') ∧
      slice pt'.bytes 0 32 = slice pt.bytes 0 32 := by
  cases P with
  | zero => cases encoded
  | some x y h =>
  obtain rfl := Option.some.inj encoded
  rw [encode_x]
  obtain ⟨y', found, square, -⟩ := p256PointFromX_encode h
  refine ⟨_, found, ?_, encode_x x y'⟩
  rcases mul_self_eq_mul_self_iff.1 square with rfl | rfl
  · exact Or.inl rfl
  · right
    have negY := negY_eq (b := curveB) x y
    rw [Affine.Point.neg_some]
    simp only [encodePoint, negY]

/--
Decompression succeeds exactly for the canonical abscissas of the curve. The
result has the abscissa as it was given and its even ordinate.
-/
theorem p256_decompression (k : Octets 32) :
    ((p256PointFromX k).isSome = true ↔
        ofBe k.bytes < p256Prime ∧ IsSquare (curveCubic (ofBe k.bytes : Nat))) ∧
      ∀ pt, p256PointFromX k = some pt →
        slice pt.bytes 0 32 = k.bytes ∧ ofBe (slice pt.bytes 32 32) < p256Prime ∧
          ((ofBe (slice pt.bytes 32 32) : Nat) : Fp) ^ 2 = curveCubic (ofBe k.bytes : Nat) ∧
          ofBe (slice pt.bytes 32 32) % 2 = 0 ∧ p256PointValid pt = true := by
  by_cases abscissa : ofBe k.bytes < p256Prime ∧ IsSquare (curveCubic (ofBe k.bytes : Nat))
  · obtain ⟨y, found, squared, even⟩ := p256PointFromX_square abscissa.1 abscissa.2
    have half : be 32 (((ofBe k.bytes : Nat) : Fp)).val = k.bytes := by
      have back := be_ofBe k.bytes
      rw [Octets.length_bytes] at back
      rw [ZMod.val_natCast_of_lt abscissa.1, back]
    rw [found]
    refine ⟨iff_of_true rfl abscissa, ?_⟩
    intro pt same
    obtain rfl := Option.some.inj same
    rw [encode_x, encode_y, ofBe_be_val, ZMod.natCast_zmod_val]
    refine ⟨half, val_lt_fp y, squared, even, ?_⟩
    exact (p256PointValid_iff _).2
      ⟨.some _ _ (nonsingular_of_equation ((equation_iff_cubic _ _).2 squared)), rfl⟩
  · have refused : p256PointFromX k = none := by
      apply p256PointFromX_none
      by_cases large : p256Prime ≤ ofBe k.bytes
      · exact Or.inl large
      · exact Or.inr fun square => abscissa ⟨Nat.lt_of_not_le large, square⟩
    rw [refused]
    exact ⟨iff_of_false (by decide) abscissa, fun pt found => by cases found⟩

/-- The abscissa of the base point decompresses, and to a valid point. -/
theorem p256_decompression_base :
    ∃ pt, p256PointFromX (Octets.of 32 (be 32 generator.x.val)) = some pt ∧
      p256PointValid pt = true := by
  obtain ⟨y, found, -⟩ := p256PointFromX_encode generator_on
  exact ⟨_, found, ((p256_decompression _).2 _ found).2.2.2.2⟩

end Functions

section Demo

/-- The standard base point. -/
def demoBase : Octets 64 := encode generator.x generator.y

theorem demoBase_valid : p256PointValid demoBase = true :=
  (p256PointValid_iff demoBase).2 ⟨.some _ _ generator_on, rfl⟩

def smallScalar (n : UInt8) : Octets 32 := Octets.of 32 (List.replicate 31 0 ++ [n])

end Demo

end Rf2a4m1
