import Rf2a4m1.Lib.Octets

/-!
# Key derivation over a hash function

The keyed hash and the functions that stretch it to as many octets as are asked
for: block after block, each numbered, the last one cut. A function is defined
where its counter and its length field can hold what they are given.
-/

set_option autoImplicit false

namespace KeyDerivation

open ByteString

/-- A hash function, with the octets of its block and of its digest. -/
structure Hash where
  digest : Bytes → Bytes
  block : Nat
  size : Nat
  length_digest (m : Bytes) : (digest m).length = size
  positive : 0 < size
  fits : size ≤ block

section Hmac

variable (h : Hash)

/-- The key of a block: hashed when it is longer, filled with zeros when it is shorter. -/
def blockKey (key : Bytes) : Bytes :=
  let k := if h.block < key.length then h.digest key else key
  k ++ List.replicate (h.block - k.length) 0

/-- RFC 2104. -/
def hmac (key msg : Bytes) : Bytes :=
  h.digest ((blockKey h key).map (· ^^^ 0x5c) ++
    h.digest ((blockKey h key).map (· ^^^ 0x36) ++ msg))

theorem hmac_length (key msg : Bytes) : (hmac h key msg).length = h.size := h.length_digest _

theorem blockKey_eq_fit (key : Bytes) :
    blockKey h key = fit h.block (if h.block < key.length then h.digest key else key) := by
  have short : (if h.block < key.length then h.digest key else key).length ≤ h.block := by
    by_cases long : h.block < key.length
    · rw [if_pos long, h.length_digest]
      exact h.fits
    · rw [if_neg long]
      omega
  unfold blockKey fit
  rw [List.take_of_length_le]
  rw [List.length_append, List.length_replicate]
  omega

end Hmac

section Blocks

variable {size : Nat}

/-- The first octets of a row of blocks: as many blocks as are needed, the last one cut. -/
def firstOctets (block : Nat → Bytes) (size len : Nat) : Bytes :=
  ((List.range ((len + size - 1) / size)).flatMap block).take len

/-- Block after block is put behind the others until there are enough octets. -/
def takeBlocks (block : Nat → Bytes) (size : Nat) : Nat → Nat → Nat → Bytes
  | 0, _, _ => []
  | fuel + 1, i, need =>
    if need = 0 then []
    else (block i).take need ++ takeBlocks block size fuel (i + 1) (need - size)

theorem firstOctets_zero (block : Nat → Bytes) : firstOctets block size 0 = [] := List.take_zero

/-- One block, then those behind it. -/
theorem firstOctets_step {block : Nat → Bytes} (sized : ∀ i, (block i).length = size)
    (positive : 0 < size) {len : Nat} (more : len ≠ 0) :
    firstOctets block size len =
      (block 0).take len ++ firstOctets (fun i => block (i + 1)) size (len - size) := by
  have count : (len + size - 1) / size = (len - size + size - 1) / size + 1 := by
    by_cases last : len ≤ size
    · have one : len + size - 1 = len - 1 + size := by omega
      rw [one, Nat.add_div_right _ positive, Nat.sub_eq_zero_of_le last, Nat.zero_add,
        Nat.div_eq_of_lt (by omega), Nat.div_eq_of_lt (by omega)]
    · have one : len + size - 1 = len - size + size - 1 + size := by omega
      rw [one, Nat.add_div_right _ positive]
  unfold firstOctets
  rw [count, List.range_succ_eq_map, List.flatMap_cons, List.flatMap_map, List.take_append, sized]

/-- The loop that counts its blocks gives the first octets of the row. -/
theorem takeBlocks_eq {block : Nat → Bytes} (sized : ∀ i, (block i).length = size)
    (positive : 0 < size) {fuel i need : Nat} (enough : need ≤ fuel) :
    takeBlocks block size fuel i need = firstOctets (fun j => block (i + j)) size need := by
  induction fuel generalizing i need with
  | zero =>
    obtain rfl := Nat.le_zero.1 enough
    exact (firstOctets_zero _).symm
  | succ fuel ih =>
    unfold takeBlocks
    by_cases done : need = 0
    · subst done
      exact (if_pos rfl).trans (firstOctets_zero _).symm
    · rw [if_neg done, firstOctets_step (fun j => sized (i + j)) positive done, ih (by omega)]
      have shift (j : Nat) : i + 1 + j = i + (j + 1) := by omega
      simp only [shift, Nat.add_zero]

theorem takeBlocks_all {block : Nat → Bytes} (sized : ∀ i, (block i).length = size)
    (positive : 0 < size) (len : Nat) :
    takeBlocks block size len 0 len = firstOctets block size len := by
  rw [takeBlocks_eq sized positive (Nat.le_refl len)]
  simp only [Nat.zero_add]

theorem firstOctets_length {block : Nat → Bytes} (sized : ∀ i, (block i).length = size)
    (positive : 0 < size) (len : Nat) : (firstOctets block size len).length = len := by
  induction len using Nat.strongRecOn generalizing block with
  | ind len ih =>
    by_cases none : len = 0
    · subst none
      rw [firstOctets_zero]
      rfl
    · rw [firstOctets_step sized positive none, List.length_append, List.length_take, sized,
        ih (len - size) (by omega) fun i => sized (i + 1)]
      omega

end Blocks

section Hkdf

variable (h : Hash)

/-- The chain of RFC 5869: every block is keyed over the one before it. -/
def expandBlock (prk info : Bytes) : Nat → Bytes
  | 0 => []
  | i + 1 => hmac h prk (expandBlock prk info i ++ info ++ be 1 (i + 1))

/-- RFC 5869, Expand. -/
def hkdfExpand (prk info : Bytes) (len : Nat) : Option Bytes :=
  if 255 * h.size < len then none
  else some (firstOctets (fun i => expandBlock h prk info (i + 1)) h.size len)

end Hkdf

section Kdf

variable (h : Hash)

/-- The first bits of a string, in whole octets; what is left of the last one is zero. -/
def firstBits (bits : Nat) (b : Bytes) : Bytes :=
  let len := (bits + 7) / 8
  let unused := 8 * len - bits
  be len (ofBe (b.take len) / 2 ^ unused * 2 ^ unused)

/-- A block of KDF-Hash-Length: number and length are two octets, least significant first. -/
def kdfBlock (key label ctx : Bytes) (bits i : Nat) : Bytes :=
  hmac h key (le 2 (i + 1) ++ label ++ ctx ++ le 2 bits)

/-- IEEE 802.11, KDF-Hash-Length. -/
def kdfLength (key label ctx : Bytes) (bits : Nat) : Option Bytes :=
  if 2 ^ 16 ≤ bits then none
  else
    some (firstBits bits
      ((List.range ((bits + 8 * h.size - 1) / (8 * h.size))).flatMap
        (kdfBlock h key label ctx bits)))

/-- What is cut to whole octets first has the same bits. -/
theorem firstBits_take (bits : Nat) (b : Bytes) :
    firstBits bits (b.take ((bits + 7) / 8)) = firstBits bits b := by
  unfold firstBits
  dsimp only
  rw [List.take_take, Nat.min_self]

example : firstBits 12 [0xff, 0xff, 0xff] = [0xff, 0xf0] := by decide

/-- As many blocks are needed for the bits as for the octets that hold them. -/
theorem blocks_of_bits {size : Nat} (positive : 0 < size) (bits : Nat) :
    (bits + 8 * size - 1) / (8 * size) = ((bits + 7) / 8 + size - 1) / size := by
  have octets : (bits + 8 * size - 1) / 8 = (bits + 7) / 8 + size - 1 := by omega
  rw [← Nat.div_div_eq_div_mul, octets]

theorem kdfLength_eq (key label ctx : Bytes) {bits : Nat} (held : bits < 2 ^ 16) :
    kdfLength h key label ctx bits =
      some (firstBits bits (firstOctets (kdfBlock h key label ctx bits) h.size ((bits + 7) / 8))) := by
  rw [kdfLength, if_neg (Nat.not_le.2 held), blocks_of_bits h.positive, firstOctets, firstBits_take]

end Kdf

section Prf

variable (h : Hash)

/-- A block of the PRF: label, a zero octet, the data, and the number of the block. -/
def prfBlock (key label data : Bytes) (i : Nat) : Bytes :=
  hmac h key (label ++ [0] ++ data ++ be 1 i)

/-- IEEE 802.11, PRF. -/
def prf (key label data : Bytes) (len : Nat) : Option Bytes :=
  if 256 * h.size < len then none
  else some (firstOctets (prfBlock h key label data) h.size len)

end Prf

section Pbkdf2

variable (h : Hash)

/-- The values of one block, each keyed over the one before it. -/
def iterated (pw msg : Bytes) : Nat → Bytes
  | 0 => hmac h pw msg
  | j + 1 => hmac h pw (iterated pw msg j)

/-- Their sum. -/
def iteratedSum (pw msg : Bytes) : Nat → Bytes
  | 0 => iterated h pw msg 0
  | j + 1 => (iteratedSum pw msg j).zipWith (· ^^^ ·) (iterated h pw msg (j + 1))

/-- RFC 2898, PBKDF2. -/
def pbkdf2 (pw salt : Bytes) (iter len : Nat) : Option Bytes :=
  if iter = 0 ∨ (2 ^ 32 - 1) * h.size < len then none
  else
    some (firstOctets (fun i => iteratedSum h pw (salt ++ be 4 (i + 1)) (iter - 1)) h.size len)

theorem iteratedSum_length (pw msg : Bytes) (j : Nat) :
    (iteratedSum h pw msg j).length = h.size := by
  have each (j : Nat) : (iterated h pw msg j).length = h.size := by
    cases j <;> exact hmac_length h ..
  induction j with
  | zero => exact each 0
  | succ j ih => rw [iteratedSum, List.length_zipWith, ih, each, Nat.min_self]

end Pbkdf2

end KeyDerivation
