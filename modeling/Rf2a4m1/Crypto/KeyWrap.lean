import Rf2a4m1.Crypto.AesInverse

/-!
# AES key wrap

Six passes over the blocks of eight octets; an integrity register goes through
all of them. A pass walks up the blocks, its undoing walks down.
-/

set_option autoImplicit false

namespace Rf2a4m1

open ByteString

section Walk

variable {α β : Type}

/-- From the first block up, the register `a` in hand; blocks are numbered from `i`. -/
def walkUp (f : Nat → α → β → α × β) : Nat → α → List β → α × List β
  | _, a, [] => (a, [])
  | i, a, r :: rest =>
    let here := f i a r
    let above := walkUp f (i + 1) here.1 rest
    (above.1, here.2 :: above.2)

/-- From the last block down. -/
def walkDown (g : Nat → α → β → α × β) : Nat → α → List β → α × List β
  | _, a, [] => (a, [])
  | i, a, r :: rest =>
    let above := walkDown g (i + 1) a rest
    let here := g i above.1 r
    (here.1, here.2 :: above.2)

theorem walkUp_length (f : Nat → α → β → α × β) (i : Nat) (a : α) (rs : List β) :
    (walkUp f i a rs).2.length = rs.length := by
  induction rs generalizing i a with
  | nil => rfl
  | cons r rest ih => rw [walkUp, List.length_cons, List.length_cons, ih]

theorem walkDown_walkUp {f g : Nat → α → β → α × β}
    (undo : ∀ i a r, g i (f i a r).1 (f i a r).2 = (a, r)) (i : Nat) (a : α) (rs : List β) :
    walkDown g i (walkUp f i a rs).1 (walkUp f i a rs).2 = (a, rs) := by
  induction rs generalizing i a with
  | nil => rfl
  | cons r rest ih =>
    have above := ih (i + 1) (f i a r).1
    rw [walkUp, walkDown]
    dsimp only
    rw [above]
    dsimp only
    rw [undo]

theorem walkDown_length (g : Nat → α → β → α × β) (i : Nat) (a : α) (rs : List β) :
    (walkDown g i a rs).2.length = rs.length := by
  induction rs generalizing i with
  | nil => rfl
  | cons r rest ih => rw [walkDown, List.length_cons, List.length_cons, ih]

theorem walkUp_walkDown {f g : Nat → α → β → α × β}
    (redo : ∀ i a r, f i (g i a r).1 (g i a r).2 = (a, r)) (i : Nat) (a : α) (rs : List β) :
    walkUp f i (walkDown g i a rs).1 (walkDown g i a rs).2 = (a, rs) := by
  induction rs generalizing i with
  | nil => rfl
  | cons r rest ih =>
    have above := ih (i + 1)
    rw [walkDown, walkUp]
    dsimp only
    rw [redo]
    dsimp only
    rw [above]

end Walk

section Octetwise

/-- Equality without an early exit: the differences are collected. -/
def cryptoCtEq (a b : Bytes) : Bool := (xorBytes a b).foldl (· ||| ·) 0 == 0

theorem cryptoCtEq_self (a : Bytes) : cryptoCtEq a a = true := by
  have none (b : Bytes) : (xorBytes b b).foldl (· ||| ·) 0 = 0 := by
    induction b with
    | nil => rfl
    | cons x b ih =>
      unfold xorBytes at ih ⊢
      rw [List.zipWith_cons_cons, UInt8.xor_self, List.foldl_cons, UInt8.or_zero, ih]
  rw [cryptoCtEq, none]
  rfl

/-- No difference is collected where there is none. -/
theorem cryptoCtEq_iff {a b : Bytes} (length : a.length = b.length) :
    cryptoCtEq a b = true ↔ a = b := by
  constructor
  · intro equal
    have kept (d : Bytes) (x : UInt8) (zero : d.foldl (· ||| ·) x = 0) : x = 0 ∧ ∀ y ∈ d, y = 0 := by
      induction d generalizing x with
      | nil => exact ⟨zero, fun _ none => absurd none List.not_mem_nil⟩
      | cons y d ih =>
        obtain ⟨both, rest⟩ := ih _ zero
        obtain ⟨first, second⟩ := UInt8.or_eq_zero_iff.1 both
        refine ⟨first, fun z mem => ?_⟩
        rcases List.mem_cons.1 mem with rfl | mem
        · exact second
        · exact rest z mem
    have none := (kept _ _ (beq_iff_eq.1 equal)).2
    clear equal
    induction a generalizing b with
    | nil => exact (List.length_eq_zero_iff.1 length.symm).symm
    | cons x a ih =>
      cases b with
      | nil => cases length
      | cons y b =>
        have first := none (x ^^^ y) List.mem_cons_self
        rw [UInt8.xor_eq_zero_iff.1 first,
          ih (Nat.succ.inj length) fun z mem => none z (List.mem_cons_of_mem _ mem)]
  · rintro rfl
    exact cryptoCtEq_self a

end Octetwise

/-- The first octets of `b` as `n` blocks. -/
def kwBlocks : Nat → Bytes → List (Octets 8)
  | 0, _ => []
  | n + 1, b => Octets.of 8 (slice b 0 8) :: kwBlocks n (b.drop 8)

def kwIv : Octets 8 := Octets.of 8 (List.replicate 8 0xa6)

/-- Step `t` of a wrap on the register and one block. -/
def kwStep (rk : List UInt32) (t : Nat) (a r : Octets 8) : Octets 8 × Octets 8 :=
  let enc := aes128EncryptBlock rk (Octets.of 16 (a.bytes ++ r.bytes))
  (Octets.of 8 (xorBytes (slice enc.bytes 0 8) (be 8 t)), Octets.of 8 (slice enc.bytes 8 8))

def kwUnstep (rk : List UInt32) (t : Nat) (a r : Octets 8) : Octets 8 × Octets 8 :=
  let dec := aes128DecryptBlock rk (Octets.of 16 (xorBytes a.bytes (be 8 t) ++ r.bytes))
  (Octets.of 8 (slice dec.bytes 0 8), Octets.of 8 (slice dec.bytes 8 8))

/-- Pass `j` over `n` blocks: the steps are counted through all passes. -/
def kwPass (rk : List UInt32) (n : Nat) (s : Octets 8 × List (Octets 8)) (j : Nat) :
    Octets 8 × List (Octets 8) :=
  walkUp (fun i => kwStep rk (n * j + i)) 1 s.1 s.2

def kwUnpass (rk : List UInt32) (n : Nat) (s : Octets 8 × List (Octets 8)) (j : Nat) :
    Octets 8 × List (Octets 8) :=
  walkDown (fun i => kwUnstep rk (n * j + i)) 1 s.1 s.2

/-- The wrapped key data, or nothing for an input or a buffer of the wrong size. -/
def aesKeyWrap (kek : Octets 16) (input : Bytes) (outCap : Nat) : Option Bytes :=
  if input.length < 16 ∨ input.length % 8 ≠ 0 then none
  else if outCap < input.length + 8 then none
  else
    let n := input.length / 8
    let out := (List.range 6).foldl (kwPass (aes128Init kek) n) (kwIv, kwBlocks n input)
    some (out.1.bytes ++ out.2.flatMap (·.bytes))

def aesKeyUnwrap (kek : Octets 16) (input : Bytes) (outCap : Nat) : Option Bytes :=
  if input.length < 24 ∨ input.length % 8 ≠ 0 then none
  else
    let n := input.length / 8 - 1
    if outCap < n * 8 then none
    else
      let out := (List.range 6).reverse.foldl (kwUnpass (aes128Init kek) n)
        (Octets.of 8 (slice input 0 8), kwBlocks n (input.drop 8))
      if cryptoCtEq out.1.bytes kwIv.bytes then some (out.2.flatMap (·.bytes)) else none

section Blocks

theorem kwBlocks_length (n : Nat) (b : Bytes) : (kwBlocks n b).length = n := by
  induction n generalizing b with
  | zero => rfl
  | succ n ih => rw [kwBlocks, List.length_cons, ih]

theorem flatMap_bytes_length (rs : List (Octets 8)) :
    (rs.flatMap (·.bytes)).length = 8 * rs.length := by
  induction rs with
  | nil => rfl
  | cons r rest ih =>
    rw [List.flatMap_cons, List.length_append, ih, r.length_bytes, List.length_cons]
    omega

/-- The blocks of a string of whole blocks. -/
theorem flatMap_kwBlocks {n : Nat} {b : Bytes} (whole : b.length = 8 * n) :
    (kwBlocks n b).flatMap (·.bytes) = b := by
  induction n generalizing b with
  | zero => exact (List.length_eq_zero_iff.1 whole).symm
  | succ n ih =>
    have first : (slice b 0 8).length = 8 := by
      rw [slice_length]
      omega
    rw [kwBlocks, List.flatMap_cons, Octets.of_bytes_of_length first,
      ih (by rw [List.length_drop]; omega)]
    exact slice_append_drop b 0 8

theorem kwBlocks_flatMap (rs : List (Octets 8)) :
    kwBlocks rs.length (rs.flatMap (·.bytes)) = rs := by
  induction rs with
  | nil => rfl
  | cons r rest ih =>
    have behind : (r.bytes ++ rest.flatMap (·.bytes)).drop 8 = rest.flatMap (·.bytes) := by
      exact List.drop_left' r.length_bytes
    rw [List.flatMap_cons, List.length_cons, kwBlocks, slice_append_left r.length_bytes,
      Octets.of_bytes, behind, ih]

end Blocks

section Inversion

/-- A step is undone: the counter is taken off the register again, and the block decrypted. -/
theorem kwUnstep_kwStep {rk : List UInt32} (schedule : rk.length = 44) (t : Nat)
    (a r : Octets 8) : kwUnstep rk t (kwStep rk t a r).1 (kwStep rk t a r).2 = (a, r) := by
  have both : (a.bytes ++ r.bytes).length = 16 := by simp
  unfold kwUnstep kwStep
  dsimp only
  generalize cipher : aes128EncryptBlock rk (Octets.of 16 (a.bytes ++ r.bytes)) = enc
  have high : (slice enc.bytes 0 8).length = 8 := by
    rw [slice_length, enc.length_bytes]
    rfl
  have low : (slice enc.bytes 8 8).length = 8 := by
    rw [slice_length, enc.length_bytes]
    rfl
  have register : (xorBytes (slice enc.bytes 0 8) (be 8 t)).length = 8 := by
    rw [xorBytes_length (by rw [high, be_length]), high]
  have halves : slice enc.bytes 0 8 ++ slice enc.bytes 8 8 = enc.bytes := by
    rw [← slice_add enc.bytes 0 8 8]
    exact List.take_of_length_le (Nat.le_of_eq enc.length_bytes)
  rw [Octets.of_bytes_of_length register, Octets.of_bytes_of_length low,
    xorBytes_cancel (Nat.le_of_eq (by rw [high, be_length])), halves, Octets.of_bytes, ← cipher,
    aes128Decrypt_encrypt schedule, Octets.of_bytes_of_length both,
    slice_append_left a.length_bytes, slice_append_right (Nat.le_of_eq a.length_bytes),
    a.length_bytes, Octets.of_bytes]
  have rest : slice r.bytes 0 8 = r.bytes := List.take_of_length_le (Nat.le_of_eq r.length_bytes)
  rw [rest, Octets.of_bytes]

/-- A step is done again: the block is encrypted, and the counter put on the register. -/
theorem kwStep_kwUnstep {rk : List UInt32} (schedule : rk.length = 44) (t : Nat)
    (a r : Octets 8) : kwStep rk t (kwUnstep rk t a r).1 (kwUnstep rk t a r).2 = (a, r) := by
  have counted : (xorBytes a.bytes (be 8 t)).length = 8 := by
    rw [xorBytes_length (by rw [a.length_bytes, be_length]), a.length_bytes]
  have both : (xorBytes a.bytes (be 8 t) ++ r.bytes).length = 16 := by
    rw [List.length_append, counted, r.length_bytes]
  unfold kwStep kwUnstep
  dsimp only
  generalize plain : aes128DecryptBlock rk (Octets.of 16 (xorBytes a.bytes (be 8 t) ++ r.bytes)) = dec
  have high : (slice dec.bytes 0 8).length = 8 := by
    rw [slice_length, dec.length_bytes]
    rfl
  have low : (slice dec.bytes 8 8).length = 8 := by
    rw [slice_length, dec.length_bytes]
    rfl
  have halves : slice dec.bytes 0 8 ++ slice dec.bytes 8 8 = dec.bytes := by
    rw [← slice_add dec.bytes 0 8 8]
    exact List.take_of_length_le (Nat.le_of_eq dec.length_bytes)
  have rest : slice r.bytes 0 8 = r.bytes := List.take_of_length_le (Nat.le_of_eq r.length_bytes)
  rw [Octets.of_bytes_of_length high, Octets.of_bytes_of_length low, halves, Octets.of_bytes, ← plain,
    aes128Encrypt_decrypt schedule, Octets.of_bytes_of_length both, slice_append_left counted,
    xorBytes_cancel (Nat.le_of_eq (by rw [a.length_bytes, be_length])),
    slice_append_right (Nat.le_of_eq counted), counted, Octets.of_bytes, Nat.sub_self, rest,
    Octets.of_bytes]

theorem kwUnpass_kwPass {rk : List UInt32} (schedule : rk.length = 44) (n : Nat)
    (s : Octets 8 × List (Octets 8)) (j : Nat) : kwUnpass rk n (kwPass rk n s j) j = s := by
  apply walkDown_walkUp
  intro i a r
  exact kwUnstep_kwStep schedule _ a r

/-- The passes, undone in the other order. -/
theorem kwUnpasses_kwPasses {rk : List UInt32} (schedule : rk.length = 44) (n k : Nat)
    (s : Octets 8 × List (Octets 8)) :
    (List.range k).reverse.foldl (kwUnpass rk n) ((List.range k).foldl (kwPass rk n) s) = s := by
  induction k with
  | zero => rfl
  | succ k ih =>
    rw [List.range_succ, List.foldl_append, List.reverse_append, List.reverse_singleton,
      List.singleton_append, List.foldl_cons]
    simp only [List.foldl_cons, List.foldl_nil]
    rw [kwUnpass_kwPass schedule, ih]

theorem kwPass_kwUnpass {rk : List UInt32} (schedule : rk.length = 44) (n : Nat)
    (s : Octets 8 × List (Octets 8)) (j : Nat) : kwPass rk n (kwUnpass rk n s j) j = s := by
  apply walkUp_walkDown
  intro i a r
  exact kwStep_kwUnstep schedule _ a r

theorem kwPasses_kwUnpasses {rk : List UInt32} (schedule : rk.length = 44) (n k : Nat)
    (s : Octets 8 × List (Octets 8)) :
    (List.range k).foldl (kwPass rk n) ((List.range k).reverse.foldl (kwUnpass rk n) s) = s := by
  induction k generalizing s with
  | zero => rfl
  | succ k ih =>
    rw [List.range_succ, List.foldl_append, List.reverse_append, List.reverse_singleton,
      List.singleton_append, List.foldl_cons, List.foldl_nil, List.foldl_cons, ih]
    exact kwPass_kwUnpass schedule n s k

theorem kwUnpasses_length (rk : List UInt32) (n k : Nat) (s : Octets 8 × List (Octets 8)) :
    ((List.range k).reverse.foldl (kwUnpass rk n) s).2.length = s.2.length := by
  induction k generalizing s with
  | zero => rfl
  | succ k ih =>
    rw [List.range_succ, List.reverse_append, List.reverse_singleton, List.singleton_append,
      List.foldl_cons, ih]
    exact walkDown_length _ _ _ _

theorem kwPasses_length (rk : List UInt32) (n k : Nat) (s : Octets 8 × List (Octets 8)) :
    ((List.range k).foldl (kwPass rk n) s).2.length = s.2.length := by
  induction k with
  | zero => rfl
  | succ k ih =>
    rw [List.range_succ, List.foldl_append]
    exact (walkUp_length _ _ _ _).trans ih

variable {kek : Octets 16} {input : Bytes} (long : 16 ≤ input.length)
  (whole : input.length % 8 = 0)
include long whole

/-- A wrap that has room succeeds, and its result is eight octets longer. -/
theorem aesKeyWrap_length {outCap : Nat} (room : input.length + 8 ≤ outCap) :
    ∃ out, aesKeyWrap kek input outCap = some out ∧ out.length = input.length + 8 := by
  unfold aesKeyWrap
  rw [if_neg (by omega), if_neg (by omega)]
  refine ⟨_, rfl, ?_⟩
  rw [List.length_append, Octets.length_bytes, flatMap_bytes_length, kwPasses_length,
    kwBlocks_length]
  omega

/-- Unwrapping gives back what was wrapped. -/
theorem aesKeyUnwrap_wrap {outCap backCap : Nat} {out : Bytes} (back : input.length ≤ backCap)
    (wrapped : aesKeyWrap kek input outCap = some out) :
    aesKeyUnwrap kek out backCap = some input := by
  have room : input.length + 8 ≤ outCap := by
    by_contra tight
    unfold aesKeyWrap at wrapped
    rw [if_neg (by omega), if_pos (by omega)] at wrapped
    cases wrapped
  obtain ⟨out', made, len⟩ := @aesKeyWrap_length kek _ long whole _ room
  obtain rfl : out' = out := Option.some.inj (made.symm.trans wrapped)
  have blocks : out'.length / 8 - 1 = input.length / 8 := by omega
  unfold aesKeyWrap at wrapped
  rw [if_neg (by omega), if_neg (by omega)] at wrapped
  have shape := (Option.some.inj wrapped).symm
  have count := kwPasses_length (aes128Init kek) (input.length / 8) 6
    (kwIv, kwBlocks (input.length / 8) input)
  have undone := kwUnpasses_kwPasses (aes128Init_length kek) (input.length / 8) 6
    (kwIv, kwBlocks (input.length / 8) input)
  revert shape count undone
  generalize (List.range 6).foldl (kwPass (aes128Init kek) (input.length / 8))
    (kwIv, kwBlocks (input.length / 8) input) = passed
  intro shape count undone
  rw [kwBlocks_length] at count
  have register : Octets.of 8 (slice out' 0 8) = passed.1 := by
    rw [shape, slice_append_left passed.1.length_bytes, Octets.of_bytes]
  have behind : kwBlocks (input.length / 8) (out'.drop 8) = passed.2 := by
    have tail : out'.drop 8 = passed.2.flatMap (·.bytes) := by
      rw [shape]
      exact List.drop_left' passed.1.length_bytes
    rw [tail, ← count]
    exact kwBlocks_flatMap passed.2
  unfold aesKeyUnwrap
  dsimp only
  rw [if_neg (by omega), blocks, if_neg (by omega), register, behind, undone]
  dsimp only
  rw [if_pos (cryptoCtEq_self _), flatMap_kwBlocks (by omega)]

omit long whole in
/-- Wrapping what was unwrapped gives back what it was unwrapped from. -/
theorem aesKeyWrap_unwrap {cap outCap : Nat} {out : Bytes} (room : input.length ≤ outCap)
    (unwrapped : aesKeyUnwrap kek input cap = some out) :
    aesKeyWrap kek out outCap = some input := by
  unfold aesKeyUnwrap at unwrapped
  split at unwrapped
  · cases unwrapped
  rename_i shape
  dsimp only at unwrapped
  split at unwrapped
  · cases unwrapped
  split at unwrapped
  case isFalse => cases unwrapped
  rename_i intact
  have count := kwUnpasses_length (aes128Init kek) (input.length / 8 - 1) 6
    (Octets.of 8 (slice input 0 8), kwBlocks (input.length / 8 - 1) (input.drop 8))
  have redone := kwPasses_kwUnpasses (aes128Init_length kek) (input.length / 8 - 1) 6
    (Octets.of 8 (slice input 0 8), kwBlocks (input.length / 8 - 1) (input.drop 8))
  revert intact unwrapped count redone
  generalize (List.range 6).reverse.foldl (kwUnpass (aes128Init kek) (input.length / 8 - 1))
    (Octets.of 8 (slice input 0 8), kwBlocks (input.length / 8 - 1) (input.drop 8)) = plain
  intro intact unwrapped count redone
  obtain rfl := Option.some.inj unwrapped
  rw [kwBlocks_length] at count
  have register : plain.1 = kwIv :=
    Octets.ext ((cryptoCtEq_iff (plain.1.length_bytes.trans kwIv.length_bytes.symm)).1 intact)
  have size : (plain.2.flatMap (·.bytes)).length = 8 * (input.length / 8 - 1) := by
    rw [flatMap_bytes_length, count]
  have blocks : (plain.2.flatMap (·.bytes)).length / 8 = input.length / 8 - 1 := by omega
  have first : (slice input 0 8).length = 8 := by
    rw [slice_length]
    omega
  unfold aesKeyWrap
  dsimp only
  rw [if_neg (by omega), if_neg (by omega), blocks, ← register, ← count, kwBlocks_flatMap, count,
    redone]
  dsimp only
  rw [Octets.of_bytes_of_length first, flatMap_kwBlocks (by rw [List.length_drop]; omega)]
  exact congrArg some (slice_append_drop input 0 8)

end Inversion

/-- Wrap and unwrap are inverse to each other on what they accept. -/
theorem aesKeyWrap_bijection (kek : Octets 16) :
    (∀ x outCap backCap, 16 ≤ x.length → x.length % 8 = 0 → x.length + 8 ≤ outCap →
      x.length ≤ backCap →
      ∃ c, aesKeyWrap kek x outCap = some c ∧ aesKeyUnwrap kek c backCap = some x) ∧
    ∀ c cap x outCap, aesKeyUnwrap kek c cap = some x → c.length ≤ outCap →
      aesKeyWrap kek x outCap = some c := by
  constructor
  · intro x outCap backCap long whole room back
    obtain ⟨c, wrapped, _⟩ := @aesKeyWrap_length kek x long whole outCap room
    exact ⟨c, wrapped, aesKeyUnwrap_wrap long whole back wrapped⟩
  · intro c cap x outCap unwrapped room
    exact aesKeyWrap_unwrap room unwrapped

theorem aesKeyWrap_bijection_demo :
    ∃ c, aesKeyWrap (Octets.zero 16) (List.replicate 16 0) 24 = some c ∧
      aesKeyUnwrap (Octets.zero 16) c 16 = some (List.replicate 16 0) :=
  (aesKeyWrap_bijection (Octets.zero 16)).1 _ 24 16 (by decide) (by decide) (by decide) (by decide)

end Rf2a4m1
