import Mathlib.Data.List.Basic
import Rf2a4m1.Lib.Octets

/-!
# Counter with CBC-MAC

The mode over any cipher on blocks of sixteen octets, with tags of eight octets
and a length field of two. Blocks are cut as the mode is specified: the first
one from flags, nonce and length, then those of the associated data behind its
length, then those of the message.
-/

set_option autoImplicit false

namespace Ccm

open ByteString

def xor (a b : Bytes) : Bytes := a.zipWith (· ^^^ ·) b

/-- The blocks of a string, the last one filled up with zeros. -/
def blocks (b : Bytes) : List (Octets 16) :=
  (List.range ((b.length + 15) / 16)).map fun i => Octets.of 16 (slice b (16 * i) 16)

/-- Associated data behind its length; no data is not encoded. -/
def encodeData (a : Bytes) : Bytes :=
  if a.length = 0 then []
  else if a.length < 0xff00 then be 2 a.length ++ a
  else if a.length < 2 ^ 32 then [0xff, 0xfe] ++ be 4 a.length ++ a
  else [0xff, 0xff] ++ be 8 a.length ++ a

/-- The flags: whether there is associated data, then half the tag length less one, then the
width of the length field less one. -/
def flags (a : Bytes) : UInt8 :=
  UInt8.ofNat (64 * (if a.length = 0 then 0 else 1) + 8 * ((8 - 2) / 2) + (2 - 1))

def firstBlock (nonce : Octets 13) (a m : Bytes) : Octets 16 :=
  Octets.of 16 (flags a :: nonce.bytes ++ be 2 m.length)

def counterBlock (nonce : Octets 13) (i : Nat) : Octets 16 :=
  Octets.of 16 (UInt8.ofNat (2 - 1) :: nonce.bytes ++ be 2 i)

section Mode

variable (cipher : Octets 16 → Octets 16) (nonce : Octets 13)

/-- Each block is put on the last cipher block and enciphered. -/
def chain (x : Octets 16) (bs : List (Octets 16)) : Octets 16 :=
  bs.foldl (fun x b => cipher (Octets.of 16 (xor x.bytes b.bytes))) x

def mac (a m : Bytes) : Octets 16 :=
  chain cipher (cipher (firstBlock nonce a m)) (blocks (encodeData a) ++ blocks m)

/-- The first `n` blocks of the key stream. -/
def keyStream (n : Nat) : Bytes :=
  (List.range n).flatMap fun i => (cipher (counterBlock nonce (i + 1))).bytes

def crypt (m : Bytes) : Bytes := xor m (keyStream cipher nonce ((m.length + 15) / 16))

/-- The first octets of the authentication value, under the block that no message uses. -/
def tag (a m : Bytes) : Octets 8 :=
  Octets.of 8 (xor (mac cipher nonce a m).bytes (cipher (counterBlock nonce 0)).bytes)

end Mode

section Xor

variable {a b : Bytes}

theorem xor_length (same : a.length = b.length) : (xor a b).length = a.length := by
  rw [xor, List.length_zipWith, ← same, Nat.min_self]

theorem xor_comm (a b : Bytes) : xor a b = xor b a := List.zipWith_comm_of_comm UInt8.xor_comm

theorem xor_append {a' b' : Bytes} (same : a.length = b.length) :
    xor (a ++ a') (b ++ b') = xor a b ++ xor a' b' := List.zipWith_append same

/-- Putting a string on another one twice. -/
theorem xor_xor (fits : a.length ≤ b.length) : xor (xor a b) b = a := by
  unfold xor
  induction a generalizing b with
  | nil => rfl
  | cons x a ih =>
    cases b with
    | nil => cases fits
    | cons y b =>
      rw [List.zipWith_cons_cons, List.zipWith_cons_cons, ih (Nat.le_of_succ_le_succ fits),
        UInt8.xor_assoc, UInt8.xor_self, UInt8.xor_zero]

end Xor

section Blocks

theorem blocks_nil : blocks [] = [] := rfl

/-- The blocks of a string that has some. -/
theorem blocks_step {b : Bytes} (some : b ≠ []) :
    blocks b = Octets.of 16 (b.take 16) :: blocks (b.drop 16) := by
  have long : 0 < b.length := List.length_pos_iff.2 some
  have count : (b.length + 15) / 16 = ((b.drop 16).length + 15) / 16 + 1 := by
    rw [List.length_drop]
    omega
  unfold blocks
  rw [count, List.range_succ_eq_map, List.map_cons, List.map_map]
  congr 1
  apply List.map_congr_left
  intro i _
  have behind : slice b (16 * (i + 1)) 16 = slice (b.drop 16) (16 * i) 16 := by
    unfold slice
    rw [List.drop_drop]
    congr 2
    omega
  exact congrArg (Octets.of 16) behind

/-- One block more at the end. -/
theorem blocks_concat {a : Bytes} (whole : a.length % 16 = 0) (b : Octets 16) :
    blocks (a ++ b.bytes) = blocks a ++ [b] := by
  have count : ((a ++ b.bytes).length + 15) / 16 = (a.length + 15) / 16 + 1 := by
    rw [List.length_append, b.length_bytes]
    omega
  have last : slice (a ++ b.bytes) (16 * ((a.length + 15) / 16)) 16 = b.bytes := by
    have place : 16 * ((a.length + 15) / 16) = a.length := by omega
    rw [place, slice_append_right (Nat.le_refl _), Nat.sub_self, slice, List.drop_zero,
      List.take_of_length_le (Nat.le_of_eq b.length_bytes)]
  unfold blocks
  rw [count, List.range_succ, List.map_append, List.map_singleton, last, Octets.of_bytes]
  congr 1
  apply List.map_congr_left
  intro i inside
  have before : 16 * i + 16 ≤ a.length := by
    have := List.mem_range.1 inside
    omega
  have same : slice (a ++ b.bytes) (16 * i) 16 = slice a (16 * i) 16 :=
    slice_congr (n := a.length) (by rw [List.take_left, List.take_length]) before
  rw [same]

theorem blocks_cons (b : Octets 16) (rest : Bytes) :
    blocks (b.bytes ++ rest) = b :: blocks rest := by
  have some : b.bytes ++ rest ≠ [] := by
    intro none
    have size := congrArg List.length none
    rw [List.length_append, b.length_bytes, List.length_nil] at size
    omega
  rw [blocks_step some, List.take_left' b.length_bytes, List.drop_left' b.length_bytes,
    Octets.of_bytes]

theorem blocks_append {a : Bytes} (whole : a.length % 16 = 0) (rest : Bytes) :
    blocks (a ++ rest) = blocks a ++ blocks rest := by
  obtain ⟨n, size⟩ := Nat.dvd_of_mod_eq_zero whole
  clear whole
  induction n generalizing a with
  | zero =>
    rw [List.eq_nil_of_length_eq_zero size, blocks_nil]
    rfl
  | succ n ih =>
    have first : (a.take 16).length = 16 := by
      rw [List.length_take]
      omega
    have split : a = (Octets.of 16 (a.take 16)).bytes ++ a.drop 16 := by
      rw [Octets.of_bytes_of_length first, List.take_append_drop]
    have later := @ih (a.drop 16) (by rw [List.length_drop]; omega)
    rw [split, List.append_assoc, blocks_cons, blocks_cons, later, List.cons_append]

theorem blocks_pair (a b : Octets 16) : blocks (a.bytes ++ b.bytes) = [a, b] := by
  have last := blocks_cons b []
  rw [List.append_nil] at last
  rw [blocks_cons, last, blocks_nil]

end Blocks

section Chain

variable {cipher : Octets 16 → Octets 16}

theorem xor_inj {b c d : Octets 16}
    (same : Octets.of 16 (xor b.bytes d.bytes) = Octets.of 16 (xor c.bytes d.bytes)) : b = c := by
  have bytes (x : Octets 16) :
      (Octets.of 16 (xor x.bytes d.bytes)).bytes = xor x.bytes d.bytes := by
    apply Octets.of_bytes_of_length
    rw [xor_length (by simp), x.length_bytes]
  have cut := congrArg (fun x : Octets 16 => xor x.bytes d.bytes) same
  rw [bytes, bytes, xor_xor (by simp), xor_xor (by simp)] at cut
  exact Octets.ext cut

/-- What goes in is not lost in the chain. -/
theorem chain_injective (inj : Function.Injective cipher) (bs : List (Octets 16)) :
    Function.Injective fun x => chain cipher x bs := by
  induction bs with
  | nil => exact fun _ _ same => same
  | cons b bs ih =>
    intro x y same
    exact xor_inj (inj (ih same))

/-- Two chains that differ in one block differ. -/
theorem chain_block (inj : Function.Injective cipher) {x : Octets 16} {pre post : List (Octets 16)}
    {b c : Octets 16}
    (same : chain cipher x (pre ++ b :: post) = chain cipher x (pre ++ c :: post)) : b = c := by
  unfold chain at same
  rw [List.foldl_append, List.foldl_append, List.foldl_cons, List.foldl_cons] at same
  have met := inj (chain_injective inj post same)
  rw [xor_comm, xor_comm _ c.bytes] at met
  exact xor_inj met

end Chain

section KeyStream

variable {cipher : Octets 16 → Octets 16} {nonce : Octets 13}

/-- Octet `k` of the key stream. -/
def keyOctet (cipher : Octets 16 → Octets 16) (nonce : Octets 13) (k : Nat) : UInt8 :=
  byteAt (cipher (counterBlock nonce (k / 16 + 1))).bytes (k % 16)

theorem keyStream_length (n : Nat) : (keyStream cipher nonce n).length = 16 * n := by
  induction n with
  | zero => rfl
  | succ n ih =>
    unfold keyStream at ih ⊢
    rw [List.range_succ, List.flatMap_append, List.length_append, ih, List.flatMap_singleton,
      Octets.length_bytes]
    omega

theorem byteAt_keyStream {n k : Nat} (within : k < 16 * n) :
    byteAt (keyStream cipher nonce n) k = keyOctet cipher nonce k := by
  induction n with
  | zero => exact absurd within (Nat.not_lt_zero k)
  | succ n ih =>
    have split : keyStream cipher nonce (n + 1) =
        keyStream cipher nonce n ++ (cipher (counterBlock nonce (n + 1))).bytes := by
      unfold keyStream
      rw [List.range_succ, List.flatMap_append, List.flatMap_singleton]
    rw [split]
    by_cases before : k < 16 * n
    · rw [byteAt_append_left (by rw [keyStream_length]; exact before)]
      exact ih before
    · have block : k / 16 = n := by omega
      have offset : k - 16 * n = k % 16 := by omega
      rw [byteAt_append_right (by rw [keyStream_length]; omega), keyStream_length, offset]
      unfold keyOctet
      rw [block]

/-- Octet by octet. -/
theorem crypt_eq (m : Bytes) :
    crypt cipher nonce m = m.mapIdx fun k x => x ^^^ keyOctet cipher nonce k := by
  have long : m.length ≤ 16 * ((m.length + 15) / 16) := by omega
  unfold crypt xor
  apply List.ext_getElem
  · rw [List.length_zipWith, keyStream_length, List.length_mapIdx]
    omega
  · intro k here there
    rw [List.length_mapIdx] at there
    have octet := @byteAt_keyStream cipher nonce _ k (Nat.lt_of_lt_of_le there long)
    rw [List.getElem_zipWith, List.getElem_mapIdx, ← octet]
    simp only [byteAt, List.getD_eq_getElem?_getD]
    rw [List.getElem?_eq_getElem, Option.getD_some]

end KeyStream

end Ccm
