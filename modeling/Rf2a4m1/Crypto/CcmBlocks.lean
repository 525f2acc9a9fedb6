import Rf2a4m1.Crypto.Codec
import Rf2a4m1.Crypto.AesInverse
import Rf2a4m1.Lib.Ccm

/-!
# AES-CCM, octet by octet and block by block

The code takes octets into the MAC and out of the key stream as they come. In
which block an octet falls is read off the number of octets before it.
-/

set_option autoImplicit false

namespace Rf2a4m1

open ByteString

section Strings

theorem byteAt_fit {n i : Nat} (b : Bytes) (within : i < n) : byteAt (fit n b) i = byteAt b i := by
  unfold byteAt fit
  rw [List.getD_eq_getElem?_getD, List.getD_eq_getElem?_getD, List.getElem?_take_of_lt within]
  by_cases inside : i < b.length
  · rw [List.getElem?_append_left inside]
  · rw [Nat.not_lt] at inside
    rw [List.getElem?_append_right inside, List.getElem?_eq_none inside, List.getElem?_replicate,
      if_pos (by omega)]
    rfl

theorem byteAt_xor {a b : Bytes} {i : Nat} (left : i < a.length) (right : i < b.length) :
    byteAt (Ccm.xor a b) i = byteAt a i ^^^ byteAt b i := by
  simp [byteAt, Ccm.xor, left, right]

theorem byteAt_modify {b : Bytes} {i j : Nat} (f : UInt8 → UInt8) (within : i < b.length) :
    byteAt (b.modify j f) i = if j = i then f (byteAt b i) else byteAt b i := by
  unfold byteAt
  rw [List.getD_eq_getElem?_getD, List.getD_eq_getElem?_getD, List.getElem?_modify,
    List.getElem?_eq_getElem within]
  split <;> rfl

end Strings

section Absorb

variable {rk : List UInt32}

/-- Up to a block of octets is put on the block in hand. -/
theorem cbcAbsorb_block {r : Bytes} (fits : r.length ≤ 16) (x : Octets 16) :
    r.foldl (cbcAbsorb rk) { block := x, blen := 0 } =
      { block := Octets.of 16 (Ccm.xor x.bytes (Octets.of 16 r).bytes), blen := r.length } := by
  have size (r : Bytes) : (Ccm.xor x.bytes (Octets.of 16 r).bytes).length = 16 := by
    simp [Ccm.xor]
  have octet (r : Bytes) {i : Nat} (within : i < 16) :
      byteAt (Ccm.xor x.bytes (Octets.of 16 r).bytes) i = byteAt x.bytes i ^^^ byteAt r i := by
    rw [byteAt_xor (by simpa using within) (by simpa using within)]
    exact congrArg (byteAt x.bytes i ^^^ ·) (byteAt_fit r within)
  induction r using List.reverseRecOn with
  | nil =>
    have unchanged : Ccm.xor x.bytes (Octets.of 16 []).bytes = x.bytes := by
      apply byteAt_ext ((size []).trans x.length_bytes.symm)
      intro i within
      rw [size] at within
      rw [octet [] within]
      simp [byteAt]
    rw [unchanged, Octets.of_bytes]
    rfl
  | append_singleton q y ih =>
    rw [List.length_append, List.length_singleton] at fits
    have partial' : ¬q.length = 16 := by omega
    rw [List.foldl_append, ih (by omega)]
    unfold cbcAbsorb
    simp only [List.foldl_cons, List.foldl_nil]
    rw [if_neg partial', List.length_append, List.length_singleton]
    congr 1
    apply congrArg (Octets.of 16)
    dsimp only
    rw [Octets.of_bytes_of_length (size q)]
    apply byteAt_ext (by rw [List.length_modify, size, size])
    intro i within
    rw [List.length_modify] at within
    rw [byteAt_modify _ within]
    rw [size] at within
    rw [octet q within, octet (q ++ [y]) within]
    split
    · rename_i here
      rw [byteAt_append_right (Nat.le_of_eq here), ← here, Nat.sub_self]
      have none : byteAt q q.length = 0 := by simp [byteAt]
      rw [none, UInt8.xor_zero]
      rfl
    · rename_i other
      by_cases before : i < q.length
      · rw [byteAt_append_left before]
      · rw [byteAt_append_right (by omega)]
        have nothing : byteAt q i = 0 ∧ byteAt [y] (i - q.length) = 0 := by
          constructor
          · simp [byteAt, List.getElem?_eq_none (by omega : q.length ≤ i)]
          · simp [byteAt, List.getElem?_eq_none (by simp; omega : [y].length ≤ i - q.length)]
        rw [nothing.1, nothing.2]

/-- A full block is enciphered when the next octet comes. -/
theorem cbcAbsorb_full {p : Bytes} (some : p ≠ []) (x : Octets 16) :
    p.foldl (cbcAbsorb rk) { block := x, blen := 16 } =
      p.foldl (cbcAbsorb rk) { block := aes128EncryptBlock rk x, blen := 0 } := by
  cases p with
  | nil => exact absurd rfl some
  | cons y p => rfl

/-- Octets taken in one by one, and the last block closed, are the chain of their blocks. -/
theorem cbcFlush_absorbed (p : Bytes) (x : Octets 16) :
    cbcFlush rk (p.foldl (cbcAbsorb rk) { block := x, blen := 0 }) =
      { block := Ccm.chain (aes128EncryptBlock rk) x (Ccm.blocks p), blen := 0 } := by
  induction len : p.length using Nat.strong_induction_on generalizing p x with
  | _ n ih =>
    by_cases none : p = []
    · rw [none]
      rfl
    have first : (p.take 16).length ≤ 16 := by
      rw [List.length_take]
      omega
    have split := List.take_append_drop 16 p
    rw [Ccm.blocks_step none]
    unfold Ccm.chain
    rw [List.foldl_cons]
    rw [← congrArg (List.foldl (cbcAbsorb rk) _) split, List.foldl_append, cbcAbsorb_block first]
    by_cases last : p.drop 16 = []
    · have some : ¬(p.take 16).length = 0 := by
        intro empty
        rw [List.length_eq_zero_iff.1 empty, last] at split
        exact none split.symm
      rw [last, List.foldl_nil, Ccm.blocks_nil, List.foldl_nil]
      unfold cbcFlush
      rw [if_neg some]
    · have long : 0 < (p.drop 16).length := List.length_pos_iff.2 last
      rw [List.length_drop] at long
      have full : (p.take 16).length = 16 := by
        rw [List.length_take]
        omega
      have shorter : (p.drop 16).length < n := by
        rw [List.length_drop]
        omega
      rw [full, cbcAbsorb_full last]
      exact ih _ shorter _ _ rfl

end Absorb

section Stream

variable {rk : List UInt32} {nonce : Octets 13}

theorem ctrBlock_eq (n : Nat) : ctrBlock nonce n = Ccm.counterBlock nonce n := rfl

/-- Where the key stream is after `k` octets. -/
structure StreamsAt (rk : List UInt32) (nonce : Octets 13) (k : Nat) (s : CcmState) : Prop where
  ctr : s.ctr = (k + 15) / 16
  ctrlen : s.ctrlen = if k % 16 = 0 then 16 else k % 16
  ctrpad : k % 16 ≠ 0 → s.ctrpad = aes128EncryptBlock rk (Ccm.counterBlock nonce ((k + 15) / 16))

/-- One octet: it is taken into the MAC, and comes out under the next octet of the stream. -/
theorem ccmByte_step {k : Nat} {s : CcmState} (at' : StreamsAt rk nonce k s) (x : UInt8) :
    StreamsAt rk nonce (k + 1) (ccmByte rk nonce true s x) ∧
      (ccmByte rk nonce true s x).out =
        s.out ++ [x ^^^ Ccm.keyOctet (aes128EncryptBlock rk) nonce k] ∧
      (ccmByte rk nonce true s x).cbc = cbcAbsorb rk s.cbc x := by
  unfold ccmByte Ccm.keyOctet
  by_cases fresh : k % 16 = 0
  · have used : s.ctrlen = 16 := by rw [at'.ctrlen, if_pos fresh]
    have block : (k + 15) / 16 + 1 = k / 16 + 1 := by omega
    have next : (k + 1 + 15) / 16 = k / 16 + 1 := by omega
    rw [if_pos used, at'.ctr, block, ctrBlock_eq]
    refine ⟨⟨next.symm, ?_, fun _ => ?_⟩, ?_, rfl⟩
    · rw [if_neg (by omega)]
      change 0 + 1 = (k + 1) % 16
      omega
    · rw [next]
    · rw [fresh]
  · have within : ¬s.ctrlen = 16 := by
      rw [at'.ctrlen, if_neg fresh]
      omega
    have block : (k + 15) / 16 = k / 16 + 1 := by omega
    have pad := at'.ctrpad fresh
    rw [block] at pad
    rw [if_neg within]
    dsimp only
    rw [pad]
    have offset : s.ctrlen = k % 16 := by rw [at'.ctrlen, if_neg fresh]
    refine ⟨⟨?_, ?_, fun partial' => ?_⟩, ?_, rfl⟩
    · change s.ctr = _
      rw [at'.ctr]
      omega
    · change s.ctrlen + 1 = _
      rw [offset]
      split <;> omega
    · have same : (k + 1 + 15) / 16 = k / 16 + 1 := by omega
      rw [same]
    · rw [offset]

/-- A string: the key stream goes on where it is, the MAC takes in the plaintext. -/
theorem ccmBytes_stream {k : Nat} {s : CcmState} (at' : StreamsAt rk nonce k s) (p : Bytes) :
    (p.foldl (ccmByte rk nonce true) s).out =
        s.out ++ p.mapIdx (fun i x => x ^^^ Ccm.keyOctet (aes128EncryptBlock rk) nonce (k + i)) ∧
      (p.foldl (ccmByte rk nonce true) s).cbc = p.foldl (cbcAbsorb rk) s.cbc := by
  induction p generalizing k s with
  | nil => exact ⟨(List.append_nil _).symm, rfl⟩
  | cons x p ih =>
    obtain ⟨next, out, cbc⟩ := ccmByte_step at' x
    obtain ⟨outs, cbcs⟩ := ih next
    have shift : (fun (i : Nat) (y : UInt8) =>
        y ^^^ Ccm.keyOctet (aes128EncryptBlock rk) nonce (k + 1 + i)) =
        fun i y => y ^^^ Ccm.keyOctet (aes128EncryptBlock rk) nonce (k + (i + 1)) := by
      funext i y
      rw [Nat.add_assoc, Nat.add_comm 1 i]
    constructor
    · rw [List.foldl_cons, outs, out, List.mapIdx_cons, shift, List.append_assoc]
      rfl
    · rw [List.foldl_cons, List.foldl_cons, cbcs, cbc]

end Stream

section Mode

variable {key : Octets 16} {nonce : Octets 13} {a : Bytes}

theorem ccmFlags_eq (a : Bytes) : (if a.length = 0 then (0x19 : UInt8) else 0x59) = Ccm.flags a := by
  unfold Ccm.flags
  split <;> rfl

theorem aesCcm_seals (short : a.length < 0xff00) (m : Bytes) :
    aesCcm key nonce a m true =
      (Ccm.crypt (aes128EncryptBlock (aes128Init key)) nonce m,
        Ccm.tag (aes128EncryptBlock (aes128Init key)) nonce a m) := by
  set cipher := aes128EncryptBlock (aes128Init key) with named
  have data (x : Octets 16) :
      (if a.length = 0 then ({ block := x, blen := 0 } : CbcState)
        else cbcFlush (aes128Init key)
          ((be 2 a.length ++ a).foldl (cbcAbsorb (aes128Init key)) { block := x, blen := 0 })) =
        { block := Ccm.chain cipher x (Ccm.blocks (Ccm.encodeData a)), blen := 0 } := by
    unfold Ccm.encodeData
    by_cases none : a.length = 0
    · rw [if_pos none, if_pos none]
      rfl
    · rw [if_neg none, if_neg none, if_pos short]
      exact cbcFlush_absorbed _ x
  have start (cbc : CbcState) : StreamsAt (aes128Init key) nonce 0
      { cbc := cbc, ctr := 0, ctrpad := Octets.zero 16, ctrlen := 16, out := [] } :=
    ⟨rfl, rfl, fun no => absurd rfl no⟩
  unfold aesCcm
  dsimp only
  rw [data, ccmFlags_eq]
  obtain ⟨out, cbc⟩ := ccmBytes_stream (start _) m
  rw [out, cbc, cbcFlush_absorbed, Ccm.crypt_eq]
  unfold Ccm.tag Ccm.mac
  have chained (x : Octets 16) (bs cs : List (Octets 16)) :
      Ccm.chain cipher (Ccm.chain cipher x bs) cs = Ccm.chain cipher x (bs ++ cs) :=
    (List.foldl_append ..).symm
  rw [chained]
  simp only [Nat.zero_add, List.nil_append]
  rfl

end Mode

/-- The code computes the mode, and in the other direction restores message and tag. -/
theorem aesCcm_blockwise (key : Octets 16) (nonce : Octets 13) (a m : Bytes)
    (short : a.length < 0xff00) :
    aesCcm key nonce a m true =
        (Ccm.crypt (aes128EncryptBlock (aes128Init key)) nonce m,
          Ccm.tag (aes128EncryptBlock (aes128Init key)) nonce a m) ∧
      aesCcm key nonce a (Ccm.crypt (aes128EncryptBlock (aes128Init key)) nonce m) false =
        (m, Ccm.tag (aes128EncryptBlock (aes128Init key)) nonce a m) := by
  have sealed := @aesCcm_seals key nonce a short m
  have restored := (aesCcm_inverse key nonce a m true).2
  rw [sealed] at restored
  exact ⟨sealed, restored⟩

theorem aesCcm_blockwise_demo :
    aesCcm (Octets.zero 16) (Octets.zero 13) [1, 2] [3] true =
      (Ccm.crypt (aes128EncryptBlock (aes128Init (Octets.zero 16))) (Octets.zero 13) [3],
        Ccm.tag (aes128EncryptBlock (aes128Init (Octets.zero 16))) (Octets.zero 13) [1, 2] [3]) :=
  (aesCcm_blockwise (Octets.zero 16) (Octets.zero 13) [1, 2] [3] (by decide)).1

end Rf2a4m1
