import Mathlib.Data.Finite.Prod
import Mathlib.Data.Fintype.Card
import Rf2a4m1.Crypto.Aes

/-!
# AES decryption inverts encryption

The steps of a round are inverted one by one. The S-box is inverted by a check
of all octets, the column map by the additivity of doubling.
-/

set_option autoImplicit false

namespace Rf2a4m1

open ByteString

section Strings

theorem byteAt_ext {a b : Bytes} (length : a.length = b.length)
    (same : ∀ i < a.length, byteAt a i = byteAt b i) : a = b := by
  apply List.ext_getElem length
  intro i here there
  simpa [byteAt, here, there] using same i here

/-- There are finitely many strings of one length. -/
instance {n : Nat} : Finite (Octets n) := by
  have : Finite UInt8 := Finite.of_injective UInt8.toFin fun x y same => UInt8.toFin_inj.1 same
  apply Finite.of_injective fun (b : Octets n) (i : Fin n) => byteAt b.bytes i
  intro a b same
  apply Octets.ext
  apply byteAt_ext (a.length_bytes.trans b.length_bytes.symm)
  intro i below
  rw [a.length_bytes] at below
  exact congrFun same ⟨i, below⟩

end Strings

section Octet

/-- What holds of each of the 256 octets holds. -/
theorem octet_cases {P : UInt8 → Prop} (all : ∀ i : Fin 256, P (UInt8.ofNat i.val)) (x : UInt8) :
    P x := by
  have one := all ⟨x.toNat, x.toNat_lt⟩
  rwa [UInt8.ofNat_toNat] at one

/-- Doubling in the field, on values. -/
def gfDoubleVal (a : Nat) : Nat := bif Nat.ble 128 a then Nat.xor (Nat.mul 2 a) 0x11b else Nat.mul 2 a

/-- The field multiplication on values: the same turns, on numbers that are quick to compute with. -/
def gfMulLoopVal : Nat → Nat → Nat → Nat → Nat
  | 0, r, _, _ => r
  | n + 1, r, a, b =>
    gfMulLoopVal n (bif Nat.beq (Nat.mod b 2) 1 then Nat.xor r a else r) (gfDoubleVal a) (Nat.div b 2)

def gfInvLoopVal : Nat → Nat → Nat → Nat
  | 0, r, _ => r
  | n + 1, r, b =>
    let b' := gfMulLoopVal 8 0 b b
    gfInvLoopVal n (gfMulLoopVal 8 0 r b') b'

theorem gfDouble_val (a : UInt8) :
    ((a <<< 1) ^^^ (((0 : UInt8) - (a >>> 7)) &&& 0x1b)).toNat = gfDoubleVal a.toNat := by
  revert a
  apply octet_cases
  decide +kernel

theorem gfMask_val (b : UInt8) :
    (0 : UInt8) - (b &&& 1) = bif Nat.beq (Nat.mod b.toNat 2) 1 then 0xff else 0 := by
  have low : (b &&& 1).toNat = b.toNat % 2 := Nat.and_one_is_mod _
  rcases Nat.mod_two_eq_zero_or_one b.toNat with even | odd
  · have zero : b &&& 1 = 0 := UInt8.toNat_inj.1 (low.trans even)
    have mod : Nat.mod b.toNat 2 = 0 := even
    rw [zero, mod]
    rfl
  · have one : b &&& 1 = 1 := UInt8.toNat_inj.1 (low.trans odd)
    have mod : Nat.mod b.toNat 2 = 1 := odd
    rw [one, mod]
    rfl

theorem gfHalf_val (b : UInt8) : (b >>> 1).toNat = Nat.div b.toNat 2 := by
  rw [UInt8.toNat_shiftRight]
  exact Nat.shiftRight_eq_div_pow _ 1

theorem gfMulLoop_val (n : Nat) (r a b : UInt8) :
    (gfMulLoop n r a b).toNat = gfMulLoopVal n r.toNat a.toNat b.toNat := by
  induction n generalizing r a b with
  | zero => rfl
  | succ n ih =>
    have turn : (r ^^^ (a &&& ((0 : UInt8) - (b &&& 1)))).toNat =
        bif Nat.beq (Nat.mod b.toNat 2) 1 then Nat.xor r.toNat a.toNat else r.toNat := by
      rw [gfMask_val]
      cases Nat.beq (Nat.mod b.toNat 2) 1 with
      | true =>
        have ones : (0xff : UInt8) = -1 := rfl
        have whole : a &&& 0xff = a := by
          rw [ones]
          simp
        rw [cond_true, cond_true, whole, UInt8.toNat_xor]
        rfl
      | false => rw [cond_false, cond_false, UInt8.and_zero, UInt8.xor_zero]
    rw [gfMulLoop, gfMulLoopVal, ih, turn, gfDouble_val, gfHalf_val]

theorem gfInv_val (x : UInt8) : (gfInv x).toNat = gfInvLoopVal 7 1 x.toNat := by
  have loop (n : Nat) (r b : UInt8) :
      (gfInvLoop n r b).toNat = gfInvLoopVal n r.toNat b.toNat := by
    induction n generalizing r b with
    | zero => rfl
    | succ n ih =>
      have product (a b : UInt8) : (gfMul a b).toNat = gfMulLoopVal 8 0 a.toNat b.toNat :=
        gfMulLoop_val 8 0 a b
      rw [gfInvLoop, gfInvLoopVal, ih, product, product]
  exact loop 7 1 x

/-- Inverting twice changes none of the values below `n`. -/
def gfInvCheck : Nat → Bool
  | 0 => true
  | n + 1 => Nat.beq (gfInvLoopVal 7 1 (gfInvLoopVal 7 1 n)) n && gfInvCheck n

theorem gfInvCheck_sound {n v : Nat} (check : gfInvCheck n = true) (below : v < n) :
    gfInvLoopVal 7 1 (gfInvLoopVal 7 1 v) = v := by
  induction n with
  | zero => omega
  | succ n ih =>
    obtain ⟨last, rest⟩ := Bool.and_eq_true_iff.1 check
    rcases Nat.lt_succ_iff_lt_or_eq.1 below with lt | rfl
    · exact ih rest lt
    · exact Nat.eq_of_beq_eq_true last

theorem gfInv_gfInv (x : UInt8) : gfInv (gfInv x) = x := by
  have checked : gfInvCheck 256 = true := by decide +kernel
  apply UInt8.toNat_inj.mp
  rw [gfInv_val, gfInv_val]
  exact gfInvCheck_sound checked x.toNat_lt

/-- The two affine maps around the field inverse. -/
def sboxAffine (x : UInt8) : UInt8 :=
  x ^^^ rotl8 x 1 ^^^ rotl8 x 2 ^^^ rotl8 x 3 ^^^ rotl8 x 4 ^^^ 0x63

def invSboxAffine (y : UInt8) : UInt8 := rotl8 y 1 ^^^ rotl8 y 3 ^^^ rotl8 y 6 ^^^ 0x05

theorem invSboxAffine_sboxAffine (x : UInt8) : invSboxAffine (sboxAffine x) = x := by
  revert x
  apply octet_cases
  decide +kernel

theorem invSbox_sbox (x : UInt8) : invSbox (sbox x) = x := by
  have undone := congrArg gfInv (invSboxAffine_sboxAffine (gfInv x))
  exact undone.trans (gfInv_gfInv x)

end Octet

section Columns

theorem xor_cancel (x y : UInt8) : x ^^^ (x ^^^ y) = y := by
  rw [← UInt8.xor_assoc, UInt8.xor_self, UInt8.zero_xor]

theorem xor_left_comm (x y z : UInt8) : x ^^^ (y ^^^ z) = y ^^^ (x ^^^ z) := by
  rw [← UInt8.xor_assoc, UInt8.xor_comm x, UInt8.xor_assoc]

/-- What doubling reduces by. -/
def xtimeCarry (top : Bool) : UInt8 := bif top then 0x1b else 0

theorem xtime_eq (x : UInt8) : xtime x = (x <<< 1) ^^^ xtimeCarry x.toBitVec[7] := by
  revert x
  apply octet_cases
  decide +kernel

/-- Doubling is additive. -/
theorem xtime_xor (x y : UInt8) : xtime (x ^^^ y) = xtime x ^^^ xtime y := by
  have top : (x ^^^ y).toBitVec[7] = (x.toBitVec[7] ^^ y.toBitVec[7]) := by simp
  have carry : xtimeCarry (x.toBitVec[7] ^^ y.toBitVec[7]) =
      xtimeCarry x.toBitVec[7] ^^^ xtimeCarry y.toBitVec[7] := by
    cases x.toBitVec[7] <;> cases y.toBitVec[7] <;> rfl
  rw [xtime_eq, xtime_eq x, xtime_eq y, top, carry, UInt8.shiftLeft_xor]
  ac_rfl

theorem gfMul_coeffs (x : UInt8) :
    gfMul x 9 = xtime (xtime (xtime x)) ^^^ x ∧
      gfMul x 11 = xtime (xtime (xtime x)) ^^^ xtime x ^^^ x ∧
      gfMul x 13 = xtime (xtime (xtime x)) ^^^ xtime (xtime x) ^^^ x ∧
      gfMul x 14 = xtime (xtime (xtime x)) ^^^ xtime (xtime x) ^^^ xtime x := by
  revert x
  apply octet_cases
  decide +kernel

section Row

variable {p q r s : UInt8 → UInt8}

/-- A map of octets that keeps sums. -/
def Additive (p : UInt8 → UInt8) : Prop := ∀ x y, p (x ^^^ y) = p x ^^^ p y

/-- One octet of a column that was mixed and is weighted by `p`, `q`, `r`, `s`: the sum over the
octets that were mixed. -/
theorem mixed_row (additive : Additive p ∧ Additive q ∧ Additive r ∧ Additive s)
    (a b c d : UInt8) :
    p (xtime a ^^^ (xtime b ^^^ b) ^^^ c ^^^ d) ^^^ q (a ^^^ xtime b ^^^ (xtime c ^^^ c) ^^^ d) ^^^
        r (a ^^^ b ^^^ xtime c ^^^ (xtime d ^^^ d)) ^^^ s ((xtime a ^^^ a) ^^^ b ^^^ c ^^^ xtime d) =
      (p (xtime a) ^^^ q a ^^^ r a ^^^ (s (xtime a) ^^^ s a)) ^^^
        (q (xtime b) ^^^ r b ^^^ s b ^^^ (p (xtime b) ^^^ p b)) ^^^
        (r (xtime c) ^^^ s c ^^^ p c ^^^ (q (xtime c) ^^^ q c)) ^^^
        (s (xtime d) ^^^ p d ^^^ q d ^^^ (r (xtime d) ^^^ r d)) := by
  obtain ⟨hp, hq, hr, hs⟩ := additive
  unfold Additive at hp hq hr hs
  simp only [hp, hq, hr, hs]
  ac_rfl

end Row

theorem gfMul_nine : Additive (gfMul · 9) := by
  intro x y
  dsimp only
  rw [(gfMul_coeffs _).1, (gfMul_coeffs x).1, (gfMul_coeffs y).1]
  simp only [xtime_xor]
  ac_rfl

theorem gfMul_eleven : Additive (gfMul · 11) := by
  intro x y
  dsimp only
  rw [(gfMul_coeffs _).2.1, (gfMul_coeffs x).2.1, (gfMul_coeffs y).2.1]
  simp only [xtime_xor]
  ac_rfl

theorem gfMul_thirteen : Additive (gfMul · 13) := by
  intro x y
  dsimp only
  rw [(gfMul_coeffs _).2.2.1, (gfMul_coeffs x).2.2.1, (gfMul_coeffs y).2.2.1]
  simp only [xtime_xor]
  ac_rfl

theorem gfMul_fourteen : Additive (gfMul · 14) := by
  intro x y
  dsimp only
  rw [(gfMul_coeffs _).2.2.2, (gfMul_coeffs x).2.2.2, (gfMul_coeffs y).2.2.2]
  simp only [xtime_xor]
  ac_rfl

/-- The four sums over one octet that was mixed: itself in its own row, nothing in the others. -/
theorem gfMul_row (x : UInt8) :
    gfMul (xtime x) 14 ^^^ gfMul x 11 ^^^ gfMul x 13 ^^^ (gfMul (xtime x) 9 ^^^ gfMul x 9) = x ∧
      gfMul (xtime x) 9 ^^^ gfMul x 14 ^^^ gfMul x 11 ^^^ (gfMul (xtime x) 13 ^^^ gfMul x 13) = 0 ∧
      gfMul (xtime x) 13 ^^^ gfMul x 9 ^^^ gfMul x 14 ^^^ (gfMul (xtime x) 11 ^^^ gfMul x 11) = 0 ∧
      gfMul (xtime x) 11 ^^^ gfMul x 13 ^^^ gfMul x 9 ^^^ (gfMul (xtime x) 14 ^^^ gfMul x 14) = 0 := by
  obtain ⟨nine, eleven, thirteen, fourteen⟩ := gfMul_coeffs x
  obtain ⟨nine', eleven', thirteen', fourteen'⟩ := gfMul_coeffs (xtime x)
  rw [nine, eleven, thirteen, fourteen, nine', eleven', thirteen', fourteen']
  generalize xtime (xtime (xtime (xtime x))) = x₄
  generalize xtime (xtime (xtime x)) = x₃
  generalize xtime (xtime x) = x₂
  generalize xtime x = x₁
  refine ⟨?_, ?_, ?_, ?_⟩ <;>
    simp only [UInt8.xor_comm, xor_left_comm, xor_cancel, UInt8.xor_self, UInt8.xor_zero]

theorem invMixColumn_mixColumn (a b c d : UInt8) :
    invMixColumn (mixColumn [a, b, c, d]) = [a, b, c, d] := by
  obtain ⟨a₀, a₁, a₂, a₃⟩ := gfMul_row a
  obtain ⟨b₀, b₁, b₂, b₃⟩ := gfMul_row b
  obtain ⟨c₀, c₁, c₂, c₃⟩ := gfMul_row c
  obtain ⟨d₀, d₁, d₂, d₃⟩ := gfMul_row d
  have row₀ := mixed_row ⟨gfMul_fourteen, gfMul_eleven, gfMul_thirteen, gfMul_nine⟩ a b c d
  have row₁ := mixed_row ⟨gfMul_nine, gfMul_fourteen, gfMul_eleven, gfMul_thirteen⟩ a b c d
  have row₂ := mixed_row ⟨gfMul_thirteen, gfMul_nine, gfMul_fourteen, gfMul_eleven⟩ a b c d
  have row₃ := mixed_row ⟨gfMul_eleven, gfMul_thirteen, gfMul_nine, gfMul_fourteen⟩ a b c d
  rw [a₀, b₃, c₂, d₁] at row₀
  rw [a₁, b₀, c₃, d₂] at row₁
  rw [a₂, b₁, c₀, d₃] at row₂
  rw [a₃, b₂, c₁, d₀] at row₃
  simp only [UInt8.xor_zero, UInt8.zero_xor] at row₀ row₁ row₂ row₃
  simp only [invMixColumn, mixColumn, byteAt, List.getD_cons_zero, List.getD_cons_succ]
  rw [row₀, row₁, row₂, row₃]

end Columns

section Rounds

theorem xorBytes_cancel {s k : Bytes} (long : s.length ≤ k.length) :
    xorBytes (xorBytes s k) k = s := by
  induction s generalizing k with
  | nil => rfl
  | cons x s ih =>
    cases k with
    | nil => cases long
    | cons y k =>
      have head : x ^^^ y ^^^ y = x := by
        rw [UInt8.xor_assoc, UInt8.xor_self, UInt8.xor_zero]
      have tail := ih (Nat.le_of_succ_le_succ long)
      unfold xorBytes at tail ⊢
      rw [List.zipWith_cons_cons, List.zipWith_cons_cons, head, tail]

theorem xorBytes_length {s k : Bytes} (same : s.length = k.length) :
    (xorBytes s k).length = s.length := by
  rw [xorBytes, List.length_zipWith, ← same, Nat.min_self]

/-- A state, octet by octet. -/
theorem state_cases {P : Bytes → Prop}
    (all : ∀ a b c d e f g h i j k l m n o p, P [a, b, c, d, e, f, g, h, i, j, k, l, m, n, o, p])
    {s : Bytes} (sixteen : s.length = 16) : P s := by
  match s, sixteen with
  | [a, b, c, d, e, f, g, h, i, j, k, l, m, n, o, p], _ => exact all a b c d e f g h i j k l m n o p

theorem invShiftRows_shiftRows {s : Bytes} (sixteen : s.length = 16) :
    invShiftRows (shiftRows s) = s := by
  apply state_cases _ sixteen
  intros
  rfl

theorem invMixColumns_mixColumns {s : Bytes} (sixteen : s.length = 16) :
    onColumns invMixColumn (onColumns mixColumn s) = s := by
  apply state_cases _ sixteen
  intro a b c d e f g h i j k l m n o p
  have columns : onColumns invMixColumn
      (onColumns mixColumn [a, b, c, d, e, f, g, h, i, j, k, l, m, n, o, p]) =
      invMixColumn (mixColumn [a, b, c, d]) ++ (invMixColumn (mixColumn [e, f, g, h]) ++
        (invMixColumn (mixColumn [i, j, k, l]) ++ (invMixColumn (mixColumn [m, n, o, p]) ++ []))) :=
    rfl
  rw [columns]
  simp only [invMixColumn_mixColumn]
  rfl

theorem shiftRows_length (s : Bytes) : (shiftRows s).length = 16 := by
  simp [shiftRows]

theorem mixColumns_length (s : Bytes) : (onColumns mixColumn s).length = 16 := by
  simp [onColumns, mixColumn]

theorem expandKey_length (n i : Nat) (w : List UInt32) :
    (expandKey n i w).length = n + w.length := by
  induction n generalizing i w with
  | zero => simp [expandKey]
  | succ n ih =>
    rw [expandKey, ih, List.length_cons]
    omega

theorem aes128Init_length (key : Octets 16) : (aes128Init key).length = 44 := by
  simp [aes128Init, expandKey_length]

variable {rk : List UInt32} (schedule : rk.length = 44)
include schedule

theorem roundKey_length {round : Nat} (last : round ≤ 10) : (roundKey rk round).length = 16 := by
  have words (ws : List UInt32) :
      (ws.flatMap fun w => be 4 w.toNat).length = 4 * ws.length := by
    induction ws with
    | nil => rfl
    | cons w ws ih =>
      rw [List.flatMap_cons, List.length_append, be_length, ih, List.length_cons]
      omega
  rw [roundKey, words, List.length_take, List.length_drop, schedule]
  omega

theorem addRoundKey_length {s : Bytes} (sixteen : s.length = 16) {round : Nat} (last : round ≤ 10) :
    (addRoundKey s rk round).length = 16 := by
  have key := roundKey_length schedule last
  unfold addRoundKey
  rw [xorBytes_length (by omega), sixteen]

theorem addRoundKey_cancel {s : Bytes} (sixteen : s.length = 16) {round : Nat}
    (last : round ≤ 10) : addRoundKey (addRoundKey s rk round) rk round = s := by
  have key := roundKey_length schedule last
  exact xorBytes_cancel (by omega)

/-- The state after `n` rounds of encryption. -/
def encryptedTo (rk : List UInt32) (block : Bytes) : Nat → Bytes
  | 0 => addRoundKey block rk 0
  | n + 1 => encryptRound rk (encryptedTo rk block n) (n + 1)

omit schedule in
theorem encryptedTo_eq (block : Bytes) (n : Nat) :
    (List.range' 1 n).foldl (encryptRound rk) (addRoundKey block rk 0) = encryptedTo rk block n := by
  induction n with
  | zero => rfl
  | succ n ih =>
    rw [List.range'_1_concat, List.foldl_append, ih, encryptedTo, Nat.add_comm 1 n]
    rfl

theorem encryptedTo_length {block : Bytes} (sixteen : block.length = 16) {n : Nat}
    (last : n ≤ 10) : (encryptedTo rk block n).length = 16 := by
  cases n with
  | zero => exact addRoundKey_length schedule sixteen last
  | succ n =>
    rw [encryptedTo, encryptRound]
    apply addRoundKey_length schedule _ last
    split
    · exact shiftRows_length _
    · exact mixColumns_length _

omit schedule in
/-- The substitution and the shift of a round, undone. -/
theorem invSubRows_subRows {s : Bytes} (sixteen : s.length = 16) :
    (invShiftRows (shiftRows (s.map sbox))).map invSbox = s := by
  rw [invShiftRows_shiftRows (by rw [List.length_map, sixteen]), List.map_map]
  have undone : invSbox ∘ sbox = id := funext invSbox_sbox
  rw [undone, List.map_id]

/-- Decryption, from a state before the last round key is added, undoes the rounds. -/
theorem decryptRounds_undo {block : Bytes} (sixteen : block.length = 16) {n : Nat} (last : n ≤ 9) :
    (List.range (n + 1)).reverse.foldl (decryptRound rk)
      (shiftRows ((encryptedTo rk block n).map sbox)) = block := by
  induction n with
  | zero =>
    have undone := invSubRows_subRows (encryptedTo_length schedule sixteen (Nat.zero_le 10))
    change decryptRound rk (shiftRows ((encryptedTo rk block 0).map sbox)) 0 = block
    unfold decryptRound
    rw [undone]
    exact addRoundKey_cancel schedule sixteen (Nat.zero_le 10)
  | succ n ih =>
    have undone := invSubRows_subRows (encryptedTo_length schedule sixteen
      (by omega : n + 1 ≤ 10))
    have round : encryptedTo rk block (n + 1) = addRoundKey (onColumns mixColumn
        (shiftRows ((encryptedTo rk block n).map sbox))) rk (n + 1) := by
      rw [encryptedTo, encryptRound, if_neg (by omega)]
    have step : decryptRound rk (shiftRows ((encryptedTo rk block (n + 1)).map sbox)) (n + 1) =
        shiftRows ((encryptedTo rk block n).map sbox) := by
      unfold decryptRound
      rw [undone, round, addRoundKey_cancel schedule (mixColumns_length _) (by omega)]
      dsimp only
      rw [if_neg (by omega), invMixColumns_mixColumns (shiftRows_length _)]
    rw [List.range_succ, List.reverse_append, List.reverse_singleton, List.singleton_append,
      List.foldl_cons, step]
    exact ih (by omega)

/-- Decryption inverts encryption under one key schedule. -/
theorem aes128Decrypt_encrypt (block : Octets 16) :
    aes128DecryptBlock rk (aes128EncryptBlock rk block) = block := by
  have encrypted := encryptedTo_length schedule block.length_bytes (Nat.le_refl 10)
  have last : encryptedTo rk block.bytes 10 =
      addRoundKey (shiftRows ((encryptedTo rk block.bytes 9).map sbox)) rk 10 := rfl
  unfold aes128DecryptBlock aes128EncryptBlock
  rw [encryptedTo_eq, Octets.of_bytes_of_length encrypted, last,
    addRoundKey_cancel schedule (shiftRows_length _) (Nat.le_refl 10),
    decryptRounds_undo schedule block.length_bytes (Nat.le_refl 9), Octets.of_bytes]

/-- Encryption inverts decryption: there are only so many blocks, and no two of them are
encrypted to one. -/
theorem aes128Encrypt_decrypt (block : Octets 16) :
    aes128EncryptBlock rk (aes128DecryptBlock rk block) = block := by
  have left : Function.LeftInverse (aes128DecryptBlock rk) (aes128EncryptBlock rk) :=
    aes128Decrypt_encrypt schedule
  have onto : Function.Surjective (aes128EncryptBlock rk) :=
    Finite.injective_iff_surjective.1 left.injective
  exact left.rightInverse_of_surjective onto block

end Rounds

/-- Under the schedule of a key the two directions undo each other. -/
theorem aes128_inverse (key block : Octets 16) :
    aes128DecryptBlock (aes128Init key) (aes128EncryptBlock (aes128Init key) block) = block ∧
      aes128EncryptBlock (aes128Init key) (aes128DecryptBlock (aes128Init key) block) = block :=
  ⟨aes128Decrypt_encrypt (aes128Init_length key) block,
    aes128Encrypt_decrypt (aes128Init_length key) block⟩

end Rf2a4m1
