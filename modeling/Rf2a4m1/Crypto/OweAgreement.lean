import Rf2a4m1.Crypto.Points
import Rf2a4m1.Crypto.Sae

/-!
# OWE over an X-only wire

A point that is rebuilt from its x-coordinate may be the negative of the one
that was sent. Neither the shared x-coordinate nor the key derivation sees the
difference, so client and AP derive the same keys.
-/

set_option autoImplicit false

namespace Rf2a4m1

open ByteString Jacobian WeierstrassCurve

/-- A private scalar with its multiple of a base point. -/
structure KeyPair (base : Octets 64) where
  priv : Octets 32
  pub : Octets 64
  inRange : p256ScalarValid priv = true
  multiple : p256PointMul priv base = some pub

section Negation

variable {pt : Octets 64}

theorem negate_x (pt : Octets 64) : slice (p256PointNegate pt).bytes 0 32 = slice pt.bytes 0 32 := by
  have len : (slice pt.bytes 0 32).length = 32 := by
    rw [slice_length, Octets.length_bytes]
    rfl
  have raw := (feSub_raw (a := feZero) rfl (beToFe_length pt.bytes 32)).1
  unfold p256PointNegate
  rw [Octets.of_bytes_of_length (by rw [List.length_append, len, feToBe_eq, be_length, raw]),
    slice_append_left len]

theorem negate_y (pt : Octets 64) :
    ofBe (slice (p256PointNegate pt).bytes 32 32) =
      if 0 < ofBe (slice pt.bytes 32 32) then
        (2 ^ 256 - ofBe (slice pt.bytes 32 32) + p256Prime) % 2 ^ 256
      else 0 := by
  have len : (slice pt.bytes 0 32).length = 32 := by
    rw [slice_length, Octets.length_bytes]
    rfl
  have val : limbsVal (beToFe pt.bytes 32) = ofBe (slice pt.bytes 32 32) :=
    limbsVal_beToFe (by simp)
  obtain ⟨raw, difference⟩ := feSub_raw (a := feZero) rfl (beToFe_length pt.bytes 32)
  have lt := (limbsVal_lt_of_length raw).trans_eq (by decide : 2 ^ 256 = 256 ^ (4 * 8))
  rw [feZero_reduced.2, val, Nat.zero_add, Nat.zero_sub] at difference
  unfold p256PointNegate
  rw [Octets.of_bytes_of_length (by rw [List.length_append, len, feToBe_eq, be_length, raw]),
    slice_append_right len.le, len, Nat.sub_self, slice, List.drop_zero, feToBe_eq, raw,
    List.take_of_length_le (by simp), ofBe_be, Nat.mod_eq_of_lt lt, difference]

/-- What validation accepts after a negation was valid before. -/
theorem encodePoint_of_negate {Q : P256} (encoded : encodePoint Q = some (p256PointNegate pt)) :
    encodePoint (-Q) = some pt := by
  cases Q with
  | zero => cases encoded
  | some x y h =>
  have eq := Option.some.inj encoded
  have sameX : slice pt.bytes 0 32 = be 32 x.val := by
    rw [← negate_x, ← eq, encode_x]
  have valY : ofBe (slice (p256PointNegate pt).bytes 32 32) = y.val := by
    rw [← eq, encode_y, ofBe_be_val]
  have ltX : ofBe (slice pt.bytes 0 32) < p256Prime := by
    rw [sameX, ofBe_be_val]
    exact val_lt_fp x
  -- the modulus itself would be taken to zero, and everything above it to no canonical number
  have ltY : ofBe (slice pt.bytes 32 32) < p256Prime := by
    have lt := val_lt_fp y
    have small : p256Prime < 2 ^ 256 := by decide +kernel
    have len : (slice pt.bytes 32 32).length = 32 := by
      rw [slice_length, Octets.length_bytes]
      rfl
    have bound := ofBe_lt (slice pt.bytes 32 32)
    rw [len] at bound
    rw [negate_y] at valY
    by_contra above
    have positive : 0 < ofBe (slice pt.bytes 32 32) := by
      have : 0 < p256Prime := by decide +kernel
      omega
    rw [if_pos positive] at valY
    rcases Nat.eq_or_lt_of_le (Nat.le_of_not_lt above) with same | beyond
    · have zero : y.val = 0 := by omega
      have on := (equation_iff_p256 x y).1 h.1
      rw [(ZMod.val_eq_zero y).1 zero] at on
      exact p256_rootless x (by linear_combination -on)
    · omega
  have canonical := eq_encode ltX ltY
  rw [canonical, p256PointNegate_encode] at eq
  obtain ⟨eqX, eqY⟩ := encode_injective eq
  rw [canonical, ← eqX, ← neg_eq_iff_eq_neg.2 eqY, Affine.Point.neg_some]
  simp only [encodePoint, negY_eq]

theorem negate_valid (pt : Octets 64) :
    p256PointValid (p256PointNegate pt) = true ↔ p256PointValid pt = true := by
  rw [p256PointValid_iff, p256PointValid_iff]
  constructor
  · rintro ⟨Q, encoded⟩
    exact ⟨-Q, encodePoint_of_negate encoded⟩
  · rintro ⟨P, encoded⟩
    exact ⟨-P, p256PointNegate_spec encoded⟩

/-- The shared x-coordinate does not see the sign of the peer's point. -/
theorem p256Ecdh_negate (k : Octets 32) (pt : Octets 64) :
    p256Ecdh k (p256PointNegate pt) = p256Ecdh k pt := by
  cases inRange : scalarInRange k with
  | false =>
    unfold p256Ecdh
    rw [if_pos (by simp [inRange]), if_pos (by simp [inRange])]
  | true =>
    cases valid : p256PointValid pt with
    | false =>
      have invalid : p256PointValid (p256PointNegate pt) = false := by
        rw [Bool.eq_false_iff, Ne, negate_valid, valid]
        exact Bool.false_ne_true
      rw [p256Ecdh_invalid k valid, p256Ecdh_invalid k invalid]
    | true =>
      obtain ⟨P, encoded⟩ := (p256PointValid_iff pt).1 valid
      rw [p256Ecdh_spec inRange encoded, p256Ecdh_spec inRange (p256PointNegate_spec encoded),
        smul_neg, xString_neg]

theorem oweDerive_negate (priv : Octets 32) (own peer : Octets 64) (ownIsClient : Bool) :
    oweDerive priv own (p256PointNegate peer) ownIsClient = oweDerive priv own peer ownIsClient := by
  unfold oweDerive
  rw [p256Ecdh_negate]
  cases ownIsClient with
  | false => simp only [Bool.false_eq_true, if_false, negate_x]
  | true => simp only [if_true, negate_x]

end Negation

section Agreement

variable {base : Octets 64}

/-- A public key is a finite multiple of the base point. -/
theorem KeyPair.point {G : P256} (encoded : encodePoint G = some base) (k : KeyPair base) :
    encodePoint (scalarVal k.priv • G) = some k.pub := by
  rw [← p256PointMul_spec k.priv encoded, k.multiple]

theorem KeyPair.shared {G : P256} (own peer : KeyPair base) {pt : Octets 64}
    (decompressed : encodePoint (scalarVal peer.priv • G) = some pt ∨
      encodePoint (-(scalarVal peer.priv • G)) = some pt) :
    p256Ecdh own.priv pt = xString ((scalarVal own.priv * scalarVal peer.priv) • G) := by
  have inRange : scalarInRange own.priv = true := own.inRange
  rcases decompressed with same | negative
  · rw [p256Ecdh_spec inRange same, ← mul_nsmul']
  · rw [p256Ecdh_spec inRange negative, smul_neg, xString_neg, ← mul_nsmul']

/--
Client and AP that rebuild each other's point from its x-coordinate derive the
same keys, and no derivation sees the sign of the peer's point.
-/
theorem owe_agreement (base : Octets 64) (valid : p256PointValid base = true)
    (client ap : KeyPair base) :
    (∃ apPub clientPub keys,
      p256PointFromX (Octets.of 32 (slice ap.pub.bytes 0 32)) = some apPub ∧
      p256PointFromX (Octets.of 32 (slice client.pub.bytes 0 32)) = some clientPub ∧
      oweDerive client.priv client.pub apPub true = some keys ∧
      oweDerive ap.priv ap.pub clientPub false = some keys) ∧
    ∀ (priv : Octets 32) (own peer : Octets 64) (ownIsClient : Bool),
      oweDerive priv own (p256PointNegate peer) ownIsClient =
        oweDerive priv own peer ownIsClient := by
  refine ⟨?_, oweDerive_negate⟩
  obtain ⟨G, encoded⟩ := (p256PointValid_iff base).1 valid
  have finite : G ≠ 0 := by
    rintro rfl
    cases encoded
  obtain ⟨apPub, apFound, apSame, apX⟩ := p256PointFromX_spec (ap.point encoded)
  obtain ⟨clientPub, clientFound, clientSame, clientX⟩ := p256PointFromX_spec (client.point encoded)
  have shared := KeyPair.shared client ap apSame
  have shared' := KeyPair.shared ap client clientSame
  have product : (scalarVal client.priv * scalarVal ap.priv) • G ≠ 0 := by
    rw [mul_nsmul']
    exact nsmul_ne_zero client.inRange (nsmul_ne_zero ap.inRange finite)
  obtain ⟨z, secret⟩ := xString_isSome product
  rw [secret] at shared
  rw [Nat.mul_comm, secret] at shared'
  refine ⟨apPub, clientPub, _, apFound, clientFound, by rw [oweDerive, shared]; rfl, ?_⟩
  rw [oweDerive, shared']
  simp only [Option.map_some, if_true, Bool.false_eq_true, if_false, apX, clientX]

/-- Every valid scalar has a key pair. -/
theorem exists_keyPair {k : Octets 32} (inRange : p256ScalarValid k = true)
    (valid : p256PointValid base = true) : ∃ pair : KeyPair base, pair.priv = k := by
  obtain ⟨G, encoded⟩ := (p256PointValid_iff base).1 valid
  have finite : G ≠ 0 := by
    rintro rfl
    cases encoded
  have multiple := p256PointMul_spec k encoded
  cases found : p256PointMul k base with
  | none =>
    rw [found] at multiple
    exact absurd ((encodePoint_eq_none_iff _).1 multiple.symm) (nsmul_ne_zero inRange finite)
  | some pub => exact ⟨⟨k, pub, inRange, found⟩, rfl⟩

/-- The key pairs of the scalars two and three agree. -/
theorem owe_agreement_demo :
    ∃ client ap : KeyPair demoBase, client.priv = smallScalar 2 ∧ ap.priv = smallScalar 3 ∧
      ∃ apPub clientPub keys,
        p256PointFromX (Octets.of 32 (slice ap.pub.bytes 0 32)) = some apPub ∧
        p256PointFromX (Octets.of 32 (slice client.pub.bytes 0 32)) = some clientPub ∧
        oweDerive client.priv client.pub apPub true = some keys ∧
        oweDerive ap.priv ap.pub clientPub false = some keys := by
  obtain ⟨client, two⟩ := @exists_keyPair demoBase (smallScalar 2) (by decide +kernel) demoBase_valid
  obtain ⟨ap, three⟩ := @exists_keyPair demoBase (smallScalar 3) (by decide +kernel) demoBase_valid
  exact ⟨client, ap, two, three, (owe_agreement demoBase demoBase_valid client ap).1⟩

end Agreement

end Rf2a4m1
