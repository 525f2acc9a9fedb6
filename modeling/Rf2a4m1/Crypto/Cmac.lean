import Rf2a4m1.Crypto.AesInverse
import Rf2a4m1.Lib.Cmac

/-!
# AES-CMAC, block by block

The code counts blocks and tells a complete last one from an incomplete one.
Its subkeys are shifted octet by octet, with the carry of the next one.
-/

set_option autoImplicit false

namespace Rf2a4m1

open ByteString

section Subkey

/-- An octet shifted by one bit, with the carry of the next one. -/
theorem testBit_carry (x y : UInt8) {t : Nat} (octet : t < 8) :
    ((x <<< 1) ||| (y >>> 7)).toNat.testBit t =
      if t = 0 then y.toNat.testBit 7 else x.toNat.testBit (t - 1) := by
  have low : (y >>> 7).toNat = y.toNat >>> 7 := rfl
  have shifted : (x <<< 1).toNat = x.toNat <<< 1 % 2 ^ 8 := UInt8.toNat_shiftLeft x 1
  rw [UInt8.toNat_or, Nat.testBit_or, shifted, low, Nat.testBit_mod_two_pow, Nat.testBit_shiftLeft,
    Nat.testBit_shiftRight, decide_eq_true octet, Bool.true_and]
  cases t with
  | zero => simp
  | succ t =>
    have above : y.toNat.testBit (7 + (t + 1)) = false :=
      Nat.testBit_lt_two_pow (Nat.lt_of_lt_of_le y.toNat_lt
        (Nat.pow_le_pow_right (by decide) (by omega)))
    simp [above]

variable (b : Octets 16)

theorem byteAt_lshift1 {j : Nat} (inside : j < 16) :
    byteAt (lshift1 b).bytes j = (byteAt b.bytes j <<< 1) ||| (byteAt b.bytes (j + 1) >>> 7) := by
  unfold lshift1
  rw [Octets.of_bytes_of_length (by simp)]
  simp [byteAt, inside]

theorem byteAt_cmacSubkey {j : Nat} (inside : j < 16) :
    byteAt (cmacSubkey b).bytes j = byteAt (lshift1 b).bytes j ^^^
      if byteAt b.bytes 0 &&& 0x80 ≠ 0 ∧ j = 15 then 0x87 else 0 := by
  unfold cmacSubkey
  dsimp only
  have sixteen : (lshift1 b).bytes.length = 16 := Octets.length_bytes _
  by_cases top : byteAt b.bytes 0 &&& 0x80 = 0
  · rw [if_pos top, if_neg fun carried => carried.1 top, UInt8.xor_zero]
  · rw [if_neg top, Octets.of_bytes_of_length (by simp)]
    by_cases last : j = 15
    · subst last
      rw [if_pos ⟨top, rfl⟩, byteAt_append_right (by simp)]
      simp [byteAt]
    · rw [if_neg fun carried => last carried.2, UInt8.xor_zero,
        byteAt_append_left (by simp; omega)]
      have before : j < 15 := by omega
      have within : j < (lshift1 b).bytes.length := by omega
      have kept : byteAt (lshift1 b).bytes.dropLast j = (lshift1 b).bytes[j] := by
        simp [byteAt, before]
      rw [kept, byteAt, List.getD_eq_getElem?_getD, List.getElem?_eq_getElem within,
        Option.getD_some]

theorem top_iff (x : UInt8) : (x &&& 0x80 ≠ 0) ↔ x.toNat.testBit 7 = true := by
  apply octet_cases (P := fun x => (x &&& 0x80 ≠ 0) ↔ x.toNat.testBit 7 = true)
  decide +kernel

/-- The reduction is within the last octet. -/
theorem reduction_bit {j t : Nat} (inside : j < 16) (octet : t < 8) :
    (decide (j = 15) && Nat.testBit 0x87 t) = Nat.testBit 0x87 (8 * (15 - j) + t) := by
  by_cases last : j = 15
  · subst last
    rw [decide_eq_true rfl, Bool.true_and, Nat.sub_self, Nat.mul_zero, Nat.zero_add]
  · have high : 8 ≤ 8 * (15 - j) + t := by omega
    rw [decide_eq_false last, Bool.false_and]
    symm
    exact Nat.testBit_lt_two_pow
      (Nat.lt_of_lt_of_le (by decide) (Nat.pow_le_pow_right (by decide) high))

theorem testBit_carried {j t : Nat} (inside : j < 16) (octet : t < 8) :
    (if byteAt b.bytes 0 &&& 0x80 ≠ 0 ∧ j = 15 then (0x87 : UInt8) else 0).toNat.testBit t =
      ((byteAt b.bytes 0).toNat.testBit 7 && Nat.testBit 0x87 (8 * (15 - j) + t)) := by
  rw [← reduction_bit inside octet]
  by_cases high : byteAt b.bytes 0 &&& 0x80 ≠ 0
  · rw [(top_iff _).1 high, Bool.true_and]
    by_cases last : j = 15
    · rw [if_pos ⟨high, last⟩, decide_eq_true last, Bool.true_and]
      rfl
    · rw [if_neg fun both => last both.2, decide_eq_false last, Bool.false_and]
      exact Nat.zero_testBit t
  · rw [if_neg fun both => high both.1, Bool.eq_false_iff.2 fun set => high ((top_iff _).2 set),
      Bool.false_and]
    exact Nat.zero_testBit t

/-- The subkey is the double of what it is made from. -/
theorem cmacSubkey_double : cmacSubkey b = Cmac.double b := by
  have bit {c : Octets 16} {j t : Nat} (inside : j < 16) (octet : t < 8) :
      (ofBe c.bytes).testBit (8 * (15 - j) + t) = (byteAt c.bytes j).toNat.testBit t := by
    have at' := @testBit_ofBe c.bytes j t (by rw [c.length_bytes]; exact inside) octet
    rwa [c.length_bytes] at at'
  have same : ofBe (cmacSubkey b).bytes = ofBe (Cmac.double b).bytes := by
    rw [Cmac.ofBe_double]
    apply Nat.eq_of_testBit_eq
    intro i
    by_cases within : i < 128
    · obtain ⟨j, t, inside, octet, rfl⟩ : ∃ j t, j < 16 ∧ t < 8 ∧ i = 8 * (15 - j) + t :=
        ⟨15 - i / 8, i % 8, by omega, by omega, by omega⟩
      rw [bit inside octet, byteAt_cmacSubkey b inside, byteAt_lshift1 b inside,
        Cmac.testBit_doubleNat _ within, UInt8.toNat_xor, Nat.testBit_xor, testBit_carry _ _ octet]
      have top : (ofBe b.bytes).testBit 127 = (byteAt b.bytes 0).toNat.testBit 7 :=
        @bit b 0 7 (by decide) (by decide)
      rw [testBit_carried b inside octet, top]
      congr 1
      by_cases lowest : t = 0
      · subst lowest
        rw [if_pos rfl]
        by_cases last : j = 15
        · subst last
          have nothing : byteAt b.bytes 16 = 0 := by simp [byteAt]
          rw [nothing]
          rfl
        · rw [decide_eq_true (by omega), Bool.true_and,
            ← @bit b (j + 1) 7 (by omega) (by decide)]
          congr 1
          omega
      · rw [if_neg lowest, decide_eq_true (by omega), Bool.true_and,
          ← @bit b j (t - 1) inside (by omega)]
        congr 1
        omega
    · have size := ofBe_lt (cmacSubkey b).bytes
      rw [Octets.length_bytes] at size
      have bound : 2 ^ 128 ≤ 2 ^ i := Nat.pow_le_pow_right (by decide) (Nat.not_lt.1 within)
      rw [Nat.testBit_lt_two_pow (Nat.lt_of_lt_of_le size bound),
        Nat.testBit_lt_two_pow (Nat.lt_of_lt_of_le (Cmac.doubleNat_lt _) bound)]
  have whole (c : Octets 16) : be 16 (ofBe c.bytes) = c.bytes := by
    have back := be_ofBe c.bytes
    rwa [c.length_bytes] at back
  apply Octets.ext
  rw [← whole, same, whole]

end Subkey

section Blocks

variable (rk : List UInt32) {msg : Bytes}

/-- The loop over the blocks before the last one. -/
theorem cmacBlocks_chain {i : Nat} (within : 16 * i ≤ msg.length) :
    cmacBlocks rk msg i = Ccm.chain (aes128EncryptBlock rk) (Octets.zero 16)
      (Ccm.blocks (msg.take (16 * i))) := by
  induction i with
  | zero =>
    rw [Nat.mul_zero, List.take_zero, Ccm.blocks_nil]
    rfl
  | succ i ih =>
    have block : (slice msg (16 * i) 16).length = 16 := by
      rw [slice_length]
      omega
    have cut : msg.take (16 * (i + 1)) =
        msg.take (16 * i) ++ (Octets.of 16 (slice msg (16 * i) 16)).bytes := by
      rw [Octets.of_bytes_of_length block, take_append_slice]
      rfl
    have whole : (msg.take (16 * i)).length % 16 = 0 := by
      rw [List.length_take]
      omega
    rw [cut, Ccm.blocks_concat whole]
    unfold cmacBlocks Ccm.chain
    rw [List.foldl_append, ih (by omega), Nat.mul_comm i 16]
    dsimp only [List.foldl_cons, List.foldl_nil]
    rw [Octets.of_bytes_of_length block]
    rfl

theorem cmacLast_lastBlock (k1 k2 : Octets 16) :
    Octets.of 16 (cmacLast msg k1 k2) =
      Cmac.lastBlock k1 k2 (msg.drop (16 * ((msg.length - 1) / 16))) := by
  have place : ((msg.length + 15) / 16 - 1) * 16 = 16 * ((msg.length - 1) / 16) := by omega
  have rest : (msg.drop (16 * ((msg.length - 1) / 16))).length =
      msg.length - 16 * ((msg.length - 1) / 16) := List.length_drop
  unfold cmacLast Cmac.lastBlock
  dsimp only
  rw [place]
  by_cases complete : (msg.length + 15) / 16 ≠ 0 ∧ msg.length % 16 = 0
  · have last : (msg.drop (16 * ((msg.length - 1) / 16))).length = 16 := by omega
    rw [if_pos complete, if_pos last, slice, List.take_of_length_le (Nat.le_of_eq last)]
    rfl
  · have last : ¬(msg.drop (16 * ((msg.length - 1) / 16))).length = 16 := by omega
    rw [if_neg complete, if_neg last]
    rfl

theorem cmacLast_length (k1 k2 : Octets 16) : (cmacLast msg k1 k2).length = 16 := by
  unfold cmacLast
  dsimp only
  split
  · rename_i complete
    have block : (slice msg (((msg.length + 15) / 16 - 1) * 16) 16).length = 16 := by
      rw [slice_length]
      omega
    rw [xorBytes, List.length_zipWith, block, k1.length_bytes]
    rfl
  · rw [xorBytes, List.length_zipWith, fit_length, k2.length_bytes]
    rfl

/-- The code is the one defined over the block cipher under the key. -/
theorem aes128Cmac_mac (key : Octets 16) (msg : Bytes) :
    aes128Cmac key msg = Cmac.mac (aes128EncryptBlock (aes128Init key)) msg := by
  have count : max 1 ((msg.length + 15) / 16) - 1 = (msg.length - 1) / 16 := by omega
  have within : 16 * ((msg.length - 1) / 16) ≤ msg.length := by omega
  unfold aes128Cmac Cmac.mac
  dsimp only
  rw [count, cmacBlocks_chain _ within, cmacSubkey_double, cmacSubkey_double]
  unfold Ccm.chain
  rw [List.foldl_append, List.foldl_cons, List.foldl_nil, ← cmacLast_lastBlock,
    Octets.of_bytes_of_length (cmacLast_length _ _)]
  rfl

open Cmac in
/-- The code has the structure specified for it, and each subkey is the root of the modulus times
what it is made from. -/
theorem aes128Cmac_conforms (key : Octets 16) (msg : Bytes) :
    aes128Cmac key msg = Cmac.mac (aes128EncryptBlock (aes128Init key)) msg ∧
      ∀ b : Octets 16, AdjoinRoot.mk modulus (poly (ofBe (cmacSubkey b).bytes)) =
        AdjoinRoot.root modulus * AdjoinRoot.mk modulus (poly (ofBe b.bytes)) := by
  refine ⟨aes128Cmac_mac key msg, fun b => ?_⟩
  rw [cmacSubkey_double, Cmac.ofBe_double]
  exact Cmac.double_root _

end Blocks

end Rf2a4m1
