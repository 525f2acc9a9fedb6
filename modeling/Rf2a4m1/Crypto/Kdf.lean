import Rf2a4m1.Crypto.ShaStream
import Rf2a4m1.Lib.KeyDerivation

/-!
# The key derivation functions against their standards

Every loop of the code puts blocks of HMAC output behind each other, with a
counter of its own width. The standards number their blocks without a width and
say up to which length they are defined.
-/

set_option autoImplicit false

namespace Rf2a4m1

open ByteString KeyDerivation

def sha256Hash : Hash where
  digest m := (sha256Digest m).bytes
  block := 64
  size := 32
  length_digest m := (sha256Digest m).length_eq
  positive := by decide
  fits := by decide

def sha1Hash : Hash where
  digest m := (sha1Digest m).bytes
  block := 64
  size := 20
  length_digest m := (sha1Digest m).length_eq
  positive := by decide
  fits := by decide

section Hmac

/-- The message may come in pieces. -/
theorem hmacSha256Pieces_eq (key : Bytes) (pieces : List Bytes) :
    (hmacSha256Pieces key pieces).bytes = hmac sha256Hash key pieces.flatten := by
  have k : hmacKey key = blockKey sha256Hash key := by
    rw [blockKey_eq_fit, hmacKey, sha256_eq]
    rfl
  have inner (pad : Bytes) : sha256Final (pieces.foldl sha256Update (sha256Update sha256Init pad)) =
      sha256Digest (pad ++ pieces.flatten) := sha256_pieces (pad :: pieces)
  have outer (pad data : Bytes) : sha256Final (sha256Update (sha256Update sha256Init pad) data) =
      sha256Digest (pad ++ data) := by
    have two := sha256_pieces [pad, data]
    rwa [List.flatten_cons, List.flatten_singleton] at two
  unfold hmacSha256Pieces
  dsimp only
  rw [inner, outer, k]
  rfl

theorem hmacSha1_eq (key msg : Bytes) : (hmacSha1 key msg).bytes = hmac sha1Hash key msg := by
  have k : fit 64 (if key.length > 64 then (sha1 key).bytes else key) = blockKey sha1Hash key := by
    rw [blockKey_eq_fit, sha1_eq]
    rfl
  have fed (pad data : Bytes) : sha1Final (sha1Update (sha1Update sha1Init pad) data) =
      sha1Digest (pad ++ data) := by
    have two := sha1_pieces [pad, data]
    rwa [List.flatten_cons, List.flatten_singleton] at two
  unfold hmacSha1
  dsimp only
  rw [fed, fed, k]
  rfl

end Hmac

section Hkdf

variable (prk info : Bytes)

theorem expandBlock_length (i : Nat) : (expandBlock sha256Hash prk info (i + 1)).length = 32 :=
  hmac_length ..

/-- The first turn has no block before it, and feeds no piece for it. -/
theorem hkdf_pieces (i : Nat) :
    (hmacSha256Pieces prk
      ((if (expandBlock sha256Hash prk info i).length = 0 then []
        else [expandBlock sha256Hash prk info i]) ++ [info, [UInt8.ofNat (i + 1)]])).bytes =
      expandBlock sha256Hash prk info (i + 1) := by
  rw [hmacSha256Pieces_eq, expandBlock]
  congr 1
  by_cases first : (expandBlock sha256Hash prk info i).length = 0
  · rw [if_pos first, List.length_eq_zero_iff.1 first]
    simp [be, le]
  · rw [if_neg first]
    simp [be, le]

theorem hkdfExpandLoop_eq (fuel i need : Nat) :
    hkdfExpandLoop prk info fuel (expandBlock sha256Hash prk info i) (UInt8.ofNat (i + 1)) need =
      takeBlocks (fun j => expandBlock sha256Hash prk info (j + 1)) 32 fuel i need := by
  induction fuel generalizing i need with
  | zero => rfl
  | succ fuel ih =>
    unfold hkdfExpandLoop takeBlocks
    dsimp only
    rw [hkdf_pieces, ← ih, UInt8.ofNat_add (i + 1) 1]
    rfl

theorem hkdfSha256Expand_eq (outLen : Nat) :
    hkdfSha256Expand prk info outLen =
      firstOctets (fun i => expandBlock sha256Hash prk info (i + 1)) 32 outLen := by
  have loop := hkdfExpandLoop_eq prk info outLen 0 outLen
  exact loop.trans (takeBlocks_all (expandBlock_length prk info) (by decide) outLen)

end Hkdf

section Kdf

variable (key label ctx : Bytes)

/-- The counter is written as two octets, which is all there is of it. -/
theorem kdf_counter (i : Nat) : le 2 (UInt16.ofNat i).toNat = le 2 i := by
  rw [UInt16.toNat_ofNat']
  exact le_mod 2 i

theorem kdf_pieces (outBits i : Nat) :
    (hmacSha256Pieces key
      [le 2 (UInt16.ofNat (i + 1)).toNat, label, ctx, le 2 outBits]).bytes =
      kdfBlock sha256Hash key label ctx outBits i := by
  rw [hmacSha256Pieces_eq, kdf_counter, kdfBlock]
  congr 1
  simp

theorem kdfLengthLoop_eq (outBits fuel i need : Nat) :
    kdfLengthLoop key label ctx (le 2 outBits) fuel (UInt16.ofNat (i + 1)) need =
      takeBlocks (kdfBlock sha256Hash key label ctx outBits) 32 fuel i need := by
  induction fuel generalizing i need with
  | zero => rfl
  | succ fuel ih =>
    unfold kdfLengthLoop takeBlocks
    dsimp only
    rw [kdf_pieces, ← ih, UInt16.ofNat_add (i + 1) 1]
    rfl

/-- The mask keeps the high bits of an octet. -/
theorem toNat_mask (x : UInt8) {unused : Nat} (octet : unused < 8) :
    (x &&& (0xff <<< UInt8.ofNat unused)).toNat = x.toNat / 2 ^ unused * 2 ^ unused := by
  rw [UInt8.toNat_and, UInt8.toNat_shiftLeft, UInt8.toNat_ofNat', ← Nat.shiftRight_eq_div_pow,
    ← Nat.shiftLeft_eq]
  apply Nat.eq_of_testBit_eq
  intro i
  have small : unused % 2 ^ 8 % 8 = unused := by omega
  rw [small, Nat.testBit_and, Nat.testBit_mod_two_pow, Nat.testBit_shiftLeft, Nat.testBit_shiftLeft,
    Nat.testBit_shiftRight]
  by_cases kept : unused ≤ i
  · have back : unused + (i - unused) = i := by omega
    by_cases inside : i < 8
    · have ones : (255 : Nat).testBit (i - unused) = true :=
        (Nat.testBit_two_pow_sub_one 8 (i - unused)).trans (decide_eq_true (by omega))
      simp [kept, back, inside, ones]
    · have wide : 2 ^ 8 ≤ 2 ^ i := Nat.pow_le_pow_right (by decide) (Nat.not_lt.1 inside)
      have none : x.toNat.testBit i = false :=
        Nat.testBit_lt_two_pow (Nat.lt_of_lt_of_le x.toNat_lt wide)
      simp [back, none]
  · simp [kept]

/-- Only the last octet has bits that are cleared. -/
theorem ofBe_masked (front : Bytes) (last : UInt8) {unused : Nat} (octet : unused < 8) :
    ofBe (front ++ [last &&& (0xff <<< UInt8.ofNat unused)]) =
      ofBe (front ++ [last]) / 2 ^ unused * 2 ^ unused := by
  have value (x : UInt8) : ofBe (front ++ [x]) = x.toNat + ofBe front * 256 := by
    rw [ofBe_append, Nat.add_comm]
    simp [ofBe]
  have octets : 256 = 2 ^ (8 - unused) * 2 ^ unused := by
    rw [← Nat.pow_add, Nat.sub_add_cancel (Nat.le_of_lt octet)]
  rw [value, value, toNat_mask last octet, octets, ← Nat.mul_assoc,
    Nat.add_mul_div_right _ _ (Nat.two_pow_pos unused), Nat.add_mul]

/-- Clearing the unused bits of the last octet leaves the first bits of the string. -/
theorem maskTail_eq {out : Bytes} {outBits : Nat} (len : out.length = (outBits + 7) / 8) :
    maskTail out outBits = firstBits outBits out := by
  unfold maskTail firstBits
  dsimp only
  rw [List.take_of_length_le (Nat.le_of_eq len), ← len]
  by_cases whole : outBits % 8 = 0
  · have none : 8 * out.length - outBits = 0 := by omega
    rw [if_pos whole, none, Nat.pow_zero, Nat.div_one, Nat.mul_one, be_ofBe]
  · have some_ : out ≠ [] := by
      rintro rfl
      rw [List.length_nil] at len
      omega
    have unused : 8 - outBits % 8 = 8 * out.length - outBits := by omega
    have octet : 8 * out.length - outBits < 8 := by omega
    rw [if_neg whole, unused]
    generalize 8 * out.length - outBits = n at octet
    obtain ⟨front, last, rfl⟩ := (List.eq_nil_or_concat' out).resolve_left some_
    have at_ : byteAt (front ++ [last]) ((front ++ [last]).length - 1) = last := by
      simp [byteAt]
    have back := be_ofBe (front ++ [last &&& (0xff <<< UInt8.ofNat n)])
    rw [List.length_append, List.length_singleton, ofBe_masked front last octet] at back
    rw [at_, List.dropLast_concat, List.length_append, List.length_singleton]
    exact back.symm

theorem ieee80211KdfLength_eq (outBits : Nat) :
    ieee80211KdfLength key label ctx outBits =
      firstBits outBits
        (firstOctets (kdfBlock sha256Hash key label ctx outBits) 32 ((outBits + 7) / 8)) := by
  have sized (i : Nat) : (kdfBlock sha256Hash key label ctx outBits i).length = 32 := hmac_length ..
  have loop := kdfLengthLoop_eq key label ctx outBits ((outBits + 7) / 8) 0 ((outBits + 7) / 8)
  have out : kdfLengthLoop key label ctx (le 2 outBits) ((outBits + 7) / 8) 1 ((outBits + 7) / 8) =
      firstOctets (kdfBlock sha256Hash key label ctx outBits) 32 ((outBits + 7) / 8) :=
    loop.trans (takeBlocks_all sized (by decide) _)
  rw [ieee80211KdfLength, out]
  exact maskTail_eq (firstOctets_length sized (by decide) _)

end Kdf

section Prf

variable (key label data : Bytes)

theorem prfLoop_eq (fuel i need : Nat) :
    prfLoop key (label ++ [0] ++ data) fuel (UInt8.ofNat i) need =
      takeBlocks (prfBlock sha1Hash key label data) 20 fuel i need := by
  induction fuel generalizing i need with
  | zero => rfl
  | succ fuel ih =>
    unfold prfLoop takeBlocks
    rw [hmacSha1_eq, ← ih, UInt8.ofNat_add i 1]
    rfl

/-- The PRF, where its input fits the octets it is put together in. -/
theorem ieee80211Prf_eq {outLen : Nat} (fits : label.length + data.length ≤ 126) :
    ieee80211Prf key label data outLen =
      some (firstOctets (prfBlock sha1Hash key label data) 20 outLen) := by
  have loop := prfLoop_eq key label data outLen 0 outLen
  rw [ieee80211Prf, if_neg (by omega)]
  exact congrArg some (loop.trans (takeBlocks_all (fun _ => hmac_length ..) (by decide) outLen))

end Prf

section Pbkdf2

variable (pw salt : Bytes)

/-- The value is hashed in place: after every iteration it is the next of the chain. -/
theorem pbkdf2Iterate_eq (msg : Bytes) (n j : Nat) :
    pbkdf2Iterate pw n (iterated sha1Hash pw msg j) (iteratedSum sha1Hash pw msg j) =
      iteratedSum sha1Hash pw msg (j + n) := by
  induction n generalizing j with
  | zero => rfl
  | succ n ih =>
    have next := ih (j + 1)
    rw [Nat.add_assoc, Nat.add_comm 1] at next
    rw [pbkdf2Iterate, hmacSha1_eq]
    exact next

/-- The counter is written as four octets, which is all there is of it. -/
theorem pbkdf2_counter (i : Nat) : be 4 (UInt32.ofNat i).toNat = be 4 i := by
  rw [UInt32.toNat_ofNat', be, be]
  exact congrArg List.reverse (le_mod 4 i)

theorem pbkdf2Block_eq (short : salt.length ≤ 64) (iter : UInt32) (i : Nat) :
    pbkdf2Block pw salt iter (UInt32.ofNat i) =
      iteratedSum sha1Hash pw (salt ++ be 4 i) (iter.toNat - 1) := by
  have chain := pbkdf2Iterate_eq pw (salt ++ be 4 i) (iter.toNat - 1) 0
  rw [Nat.zero_add] at chain
  rw [pbkdf2Block, List.take_of_length_le short, pbkdf2_counter, hmacSha1_eq]
  exact chain

theorem pbkdf2Loop_eq (short : salt.length ≤ 64) (iter : UInt32) (fuel i need : Nat) :
    pbkdf2Loop pw salt iter fuel (UInt32.ofNat (i + 1)) need =
      takeBlocks (fun j => iteratedSum sha1Hash pw (salt ++ be 4 (j + 1)) (iter.toNat - 1)) 20
        fuel i need := by
  induction fuel generalizing i need with
  | zero => rfl
  | succ fuel ih =>
    unfold pbkdf2Loop takeBlocks
    rw [pbkdf2Block_eq pw salt short, ← ih, UInt32.ofNat_add (i + 1) 1]
    rfl

theorem pbkdf2HmacSha1_eq (short : salt.length ≤ 64) (iter : UInt32) (dkLen : Nat) :
    pbkdf2HmacSha1 pw salt iter dkLen =
      firstOctets (fun i => iteratedSum sha1Hash pw (salt ++ be 4 (i + 1)) (iter.toNat - 1)) 20
        dkLen := by
  have loop := pbkdf2Loop_eq pw salt short iter dkLen 0 dkLen
  exact loop.trans (takeBlocks_all (fun _ => iteratedSum_length ..) (by decide) dkLen)

end Pbkdf2

/--
The four functions are those of their standards over the reference HMAC, for the
lengths the standards define them for.
-/
theorem key_derivation :
    (∀ prk info outLen, outLen ≤ 8160 →
      hkdfExpand sha256Hash prk info outLen = some (hkdfSha256Expand prk info outLen)) ∧
    (∀ key label ctx outBits, 1 ≤ outBits → outBits ≤ 65535 →
      kdfLength sha256Hash key label ctx outBits =
        some (ieee80211KdfLength key label ctx outBits)) ∧
    (∀ key label data outLen, label.length + data.length ≤ 126 → outLen ≤ 5120 →
      ∃ out, prf sha1Hash key label data outLen = some out ∧
        ieee80211Prf key label data outLen = some out) ∧
    (∀ pw salt (iter : UInt32) dkLen, salt.length ≤ 64 → 1 ≤ iter.toNat →
      dkLen ≤ 20 * (2 ^ 32 - 1) →
      pbkdf2 sha1Hash pw salt iter.toNat dkLen = some (pbkdf2HmacSha1 pw salt iter dkLen)) := by
  refine ⟨?hkdf, ?kdf, ?prf, ?pbkdf2⟩
  case hkdf =>
    intro prk info outLen held
    have defined : ¬255 * sha256Hash.size < outLen := Nat.not_lt.2 held
    rw [hkdfExpand, if_neg defined, hkdfSha256Expand_eq]
    rfl
  case kdf =>
    intro key label ctx outBits _ held
    rw [kdfLength_eq _ _ _ _ (Nat.lt_succ_of_le held), ieee80211KdfLength_eq]
    rfl
  case prf =>
    intro key label data outLen fits held
    have defined : ¬256 * sha1Hash.size < outLen := Nat.not_lt.2 held
    refine ⟨_, ?_, ieee80211Prf_eq key label data fits⟩
    rw [prf, if_neg defined]
    rfl
  case pbkdf2 =>
    intro pw salt iter dkLen short once held
    have defined : ¬(iter.toNat = 0 ∨ (2 ^ 32 - 1) * sha1Hash.size < dkLen) := by
      rintro (none | long)
      · omega
      · rw [Nat.mul_comm] at long
        exact Nat.not_lt.2 held long
    rw [pbkdf2, if_neg defined, pbkdf2HmacSha1_eq pw salt short]
    rfl

/-- A key longer than a block, a length of nine bits, a second block, three iterations. -/
theorem key_derivation_small :
    hkdfExpand sha256Hash (List.replicate 65 1) [] 33 =
        some (hkdfSha256Expand (List.replicate 65 1) [] 33) ∧
      kdfLength sha256Hash [1] [2] [3] 9 = some (ieee80211KdfLength [1] [2] [3] 9) ∧
      prf sha1Hash [1] [2] [3] 21 = ieee80211Prf [1] [2] [3] 21 ∧
      pbkdf2 sha1Hash [1] [2] 3 21 = some (pbkdf2HmacSha1 [1] [2] 3 21) := by
  obtain ⟨hkdf, kdf, short, pbkdf⟩ := key_derivation
  obtain ⟨out, expected, returned⟩ := short [1] [2] [3] 21 (by decide) (by decide)
  refine ⟨hkdf _ _ 33 (by decide), kdf _ _ _ 9 (by decide) (by decide),
    expected.trans returned.symm, ?_⟩
  exact pbkdf [1] [2] 3 21 (by decide) (by decide) (by decide)

end Rf2a4m1
