import Rf2a4m1.Crypto.Points

/-!
# Reductions of scalars and of wide numbers

Every reduction is one conditional subtraction, of a number below twice the
modulus. Numbers of more than 32 octets are cut, and their upper part comes out
of the conversion to Montgomery form multiplied by the radix.
-/

set_option autoImplicit false

namespace Rf2a4m1

open ByteString

section Scalars

theorem scalar_val (k : Octets 32) : limbsVal (beToFe k.bytes 0) = scalarVal k := limbsVal_octets k

/-- Scalars are added modulo the order. -/
theorem p256ScalarAddN_spec {a b : Octets 32} (ltA : scalarVal a < p256Order)
    (ltB : scalarVal b < p256Order) :
    p256ScalarAddN a b = Octets.of 32 (be 32 ((scalarVal a + scalarVal b) % p256Order)) := by
  have lenA := beToFe_length a.bytes 0
  have len := lenA.trans (beToFe_length b.bytes 0).symm
  obtain ⟨val, carry⟩ := addCarryLoop_val len (c := 0) (by decide)
  have lenSum := (addCarryLoop_length len 0).trans lenA
  rw [lenA, UInt64.toNat_zero, scalar_val, scalar_val, Nat.add_zero] at val
  have flag : (addCarryLoop (beToFe a.bytes 0) (beToFe b.bytes 0) 0).2.toUInt32.toNat =
      (addCarryLoop (beToFe a.bytes 0) (beToFe b.bytes 0) 0).2.toNat := by
    rw [UInt64.toNat_toUInt32]
    omega
  have reduced := @feCondSubMod_val _ p256N lenSum rfl
    (addCarryLoop (beToFe a.bytes 0) (beToFe b.bytes 0) 0).2.toUInt32 (by omega)
    (by rw [flag, limbsVal_p256N]; omega)
  rw [flag, limbsVal_p256N, val] at reduced
  unfold p256ScalarAddN
  dsimp only
  rw [feToBe_eq, feCondSubMod_length lenSum rfl, reduced]

theorem p256ScalarAddN_val {a b : Octets 32} (ltA : scalarVal a < p256Order)
    (ltB : scalarVal b < p256Order) :
    scalarVal (p256ScalarAddN a b) = (scalarVal a + scalarVal b) % p256Order := by
  have small : p256Order < 256 ^ 32 := by decide +kernel
  have lt : (scalarVal a + scalarVal b) % p256Order < p256Order :=
    Nat.mod_lt _ (by decide +kernel)
  rw [p256ScalarAddN_spec ltA ltB, scalarVal, Octets.of_bytes_of_length (be_length ..), ofBe_be,
    Nat.mod_eq_of_lt (Nat.lt_trans lt small)]

theorem p256ScalarAddN_comm {a b : Octets 32} (ltA : scalarVal a < p256Order)
    (ltB : scalarVal b < p256Order) : p256ScalarAddN a b = p256ScalarAddN b a := by
  rw [p256ScalarAddN_spec ltA ltB, p256ScalarAddN_spec ltB ltA, Nat.add_comm]

/-- The modulus of the reduction of a hash: the order less one. -/
def p256NMinus1 : Fe :=
  [0xfc632550, 0xf3b9cac2, 0xa7179e84, 0xbce6faad, 0xffffffff, 0xffffffff, 0, 0xffffffff]

theorem limbsVal_p256NMinus1 : limbsVal p256NMinus1 = p256Order - 1 := by
  unfold p256Order
  simp [p256NMinus1]

theorem p256Order_bounds : 2 ^ 255 < p256Order - 1 ∧ p256Order < 2 ^ 256 := by
  unfold p256Order
  norm_num

/-- A hash is reduced to a scalar that is not zero. -/
theorem p256ScalarReduceModNm1Plus1_val (s : Octets 32) :
    scalarVal (p256ScalarReduceModNm1Plus1 s) = scalarVal s % (p256Order - 1) + 1 := by
  obtain ⟨large, small⟩ := p256Order_bounds
  have lt := scalarVal_lt s
  have len := beToFe_length s.bytes 0
  have reduced := @feCondSubMod_val _ p256NMinus1 len rfl 0 (by decide)
    (by rw [limbsVal_p256NMinus1, scalar_val, UInt32.toNat_zero]; omega)
  rw [limbsVal_p256NMinus1, scalar_val, UInt32.toNat_zero, Nat.mul_zero, Nat.add_zero] at reduced
  have lenV := feCondSubMod_length len (m := p256NMinus1) rfl 0
  have stored : p256ScalarReduceModNm1Plus1 s =
      Octets.of 32 (feToBe
        (addCarryLoop (feCondSubMod (beToFe s.bytes 0) 0 p256NMinus1) feZero 1).1) := rfl
  rw [stored]
  generalize feCondSubMod (beToFe s.bytes 0) 0 p256NMinus1 = v at reduced lenV ⊢
  obtain ⟨val, -⟩ := @addCarryLoop_val v feZero (lenV.trans rfl) 1 (by decide)
  have lenSum := (addCarryLoop_length (b := feZero) (lenV.trans rfl) 1).trans lenV
  have sum := limbsVal_lt_of_length lenSum
  have below : limbsVal v < p256Order - 1 := by
    rw [reduced]
    exact Nat.mod_lt _ (by omega)
  have one : (1 : UInt64).toNat = 1 := by decide
  rw [lenV, one, feZero_reduced.2, reduced] at val
  have whole : limbsVal (addCarryLoop v feZero 1).1 = scalarVal s % (p256Order - 1) + 1 := by
    omega
  rw [scalarVal, Octets.of_bytes_of_length (by rw [feToBe_eq, lenSum, be_length]), feToBe_eq, lenSum,
    ofBe_be, whole]
  apply Nat.mod_eq_of_lt
  omega

end Scalars

section Wide

theorem ofBe_zeros (n : Nat) : ofBe (List.replicate n 0) = 0 := by
  induction n with
  | zero => rfl
  | succ n ih =>
    rw [List.replicate_succ', ofBe_append, ih]
    rfl

/-- Zeros in front do not change a number. -/
theorem ofBe_padLeft (b : Bytes) : ofBe (padLeft b) = ofBe b := by
  rw [padLeft, ofBe_append, ofBe_zeros, Nat.zero_mul, Nat.zero_add]

theorem limbsVal_be32 {b : Bytes} (len : b.length = 32) : limbsVal (beToFe b 0) = ofBe b :=
  limbsVal_octets ⟨b, len⟩

theorem padLeft_length {b : Bytes} (short : b.length ≤ 32) : (padLeft b).length = 32 := by
  simp [padLeft]
  omega

theorem p256Prime_large : 2 ^ 255 < p256Prime := by
  unfold p256Prime
  norm_num

theorem feReduceOnce_val {a : Fe} (len : a.length = 8) :
    Reduced (feReduceOnce a) ∧ limbsVal (feReduceOnce a) = limbsVal a % p256Prime := by
  have lt := limbsVal_lt_of_length len
  have large := p256Prime_large
  have reduced := @feCondSubMod_val _ p256P len rfl 0 (by decide)
    (by rw [limbsVal_p256P, UInt32.toNat_zero]; omega)
  rw [limbsVal_p256P, UInt32.toNat_zero, Nat.mul_zero, Nat.add_zero] at reduced
  exact ⟨reduced_of_mod (feCondSubMod_length len rfl 0) reduced, reduced⟩

/-- A reduced element is stored as its number. -/
theorem ofBe_stored {a : Fe} (reduced : Reduced a) :
    ofBe (Octets.of 32 (feToBe a)).bytes = limbsVal a := by
  have lt := limbsVal_lt_of_length reduced.length
  rw [feToBe_eq, reduced.length, Octets.of_bytes_of_length (be_length ..), ofBe_be]
  apply Nat.mod_eq_of_lt
  omega

/-- Upper and lower part are put together again modulo the prime. -/
theorem feAdd_wide {hi lo : Fe} (rh : Reduced hi) (len : lo.length = 8) :
    Reduced (feAdd (feToMont hi) (feReduceOnce lo)) ∧
      limbsVal (feAdd (feToMont hi) (feReduceOnce lo)) =
        (limbsVal hi * 2 ^ 256 + limbsVal lo) % p256Prime := by
  have mont := IsMont.toMont rh
  obtain ⟨rl, val⟩ := feReduceOnce_val len
  obtain ⟨reduced, sum⟩ := feAdd_val mont.toReduced rl
  refine ⟨reduced, cast_injective reduced.lt (Nat.mod_lt _ p256Prime_pos) ?_⟩
  rw [sum, ZMod.natCast_mod, ZMod.natCast_mod, Nat.cast_add, mont.val, val, ZMod.natCast_mod,
    Nat.cast_add, Nat.cast_mul, Nat.cast_pow, Nat.cast_ofNat]

/-- A number of at most 16 octets is reduced. -/
theorem reduced_padLeft {b : Bytes} (short : b.length ≤ 16) :
    Reduced (beToFe (padLeft b) 0) ∧ limbsVal (beToFe (padLeft b) 0) = ofBe b := by
  have val : limbsVal (beToFe (padLeft b) 0) = ofBe b := by
    rw [limbsVal_be32 (padLeft_length (by omega)), ofBe_padLeft]
  have bound := ofBe_lt b
  have narrow : 256 ^ b.length ≤ 256 ^ 16 := Nat.pow_le_pow_right (by decide) short
  have large := p256Prime_large
  exact ⟨⟨beToFe_length .., by rw [val]; omega⟩, val⟩

theorem p256ReduceModP_val {inp : Bytes} (filled : 1 ≤ inp.length) (fits : inp.length ≤ 48) :
    ∃ out, p256ReduceModP inp = some out ∧ ofBe out.bytes = ofBe inp % p256Prime := by
  unfold p256ReduceModP
  rw [if_neg (by omega)]
  by_cases short : inp.length ≤ 32
  · obtain ⟨reduced, val⟩ := feReduceOnce_val (beToFe_length (padLeft inp) 0)
    rw [if_pos short]
    refine ⟨_, rfl, ?_⟩
    rw [ofBe_stored reduced, val, limbsVal_be32 (padLeft_length short), ofBe_padLeft]
  · rw [if_neg short]
    have lower : (inp.drop (inp.length - 32)).length = 32 := by
      simp
      omega
    obtain ⟨rh, hi⟩ := @reduced_padLeft (inp.take (inp.length - 32)) (by simp; omega)
    obtain ⟨reduced, val⟩ := feAdd_wide rh (beToFe_length (inp.drop (inp.length - 32)) 0)
    refine ⟨_, rfl, ?_⟩
    have split := ofBe_append (inp.take (inp.length - 32)) (inp.drop (inp.length - 32))
    rw [List.take_append_drop, lower] at split
    have radix : 256 ^ 32 = 2 ^ 256 := by norm_num
    rw [radix] at split
    rw [ofBe_stored reduced, val, hi, limbsVal_be32 lower, split]

end Wide

/-- Reduction of up to 48 octets modulo the prime, sums of scalars modulo the order, and the
reduction of a hash to a scalar in range. -/
theorem reductions_exact :
    (∀ inp : Bytes, 1 ≤ inp.length → inp.length ≤ 48 →
      ∃ out, p256ReduceModP inp = some out ∧ ofBe out.bytes = ofBe inp % p256Prime) ∧
    (∀ a b : Octets 32, scalarVal a < p256Order → scalarVal b < p256Order →
      scalarVal (p256ScalarAddN a b) = (scalarVal a + scalarVal b) % p256Order) ∧
    ∀ v : Octets 32,
      scalarVal (p256ScalarReduceModNm1Plus1 v) = scalarVal v % (p256Order - 1) + 1 ∧
        1 ≤ scalarVal (p256ScalarReduceModNm1Plus1 v) ∧
        scalarVal (p256ScalarReduceModNm1Plus1 v) ≤ p256Order - 1 := by
  refine ⟨fun inp filled fits => p256ReduceModP_val filled fits,
    fun a b ltA ltB => p256ScalarAddN_val ltA ltB, fun v => ?_⟩
  have val := p256ScalarReduceModNm1Plus1_val v
  obtain ⟨large, -⟩ := p256Order_bounds
  have lt : scalarVal v % (p256Order - 1) < p256Order - 1 := Nat.mod_lt _ (by omega)
  exact ⟨val, by omega, by omega⟩

theorem reductions_exact_small :
    (∃ out, p256ReduceModP (List.replicate 48 1) = some out ∧
      ofBe out.bytes = ofBe (List.replicate 48 1) % p256Prime) ∧
    scalarVal (p256ScalarAddN (smallScalar 2) (smallScalar 3)) =
      (scalarVal (smallScalar 2) + scalarVal (smallScalar 3)) % p256Order :=
  ⟨reductions_exact.1 _ (by decide) (by decide),
    reductions_exact.2.1 _ _ (by decide +kernel) (by decide +kernel)⟩

end Rf2a4m1
