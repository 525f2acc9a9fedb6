import Rf2a4m1.Crypto.Sha1
import Rf2a4m1.Crypto.Sha256

/-!
# Streaming hashes

Both hashes may be fed in any pieces. The digest is that of the whole message,
padded as the standard says and folded through the block function.
-/

set_option autoImplicit false

namespace Rf2a4m1

open ByteString BlockHash

section Sha256

def Sha256Ctx.toCtx (c : Sha256Ctx) : Ctx ShaWords := { h := c.h, nbits := c.nbits, buf := c.buf }

theorem toCtx_absorb (fuel : Nat) (c : Sha256Ctx) (data : Bytes) :
    (sha256Absorb fuel c data).toCtx = absorb 64 sha256Block fuel c.toCtx data := by
  induction fuel generalizing c data with
  | zero => rfl
  | succ fuel ih =>
    unfold sha256Absorb absorb
    split
    · rfl
    · dsimp only
      rw [ih]
      congr 1
      by_cases full : (c.buf ++ data.take (min (64 - c.buf.length) data.length)).length = 64
      · rw [if_pos full]
        exact (if_pos full).symm
      · rw [if_neg full]
        exact (if_neg full).symm

theorem toCtx_update (c : Sha256Ctx) (data : Bytes) :
    (sha256Update c data).toCtx = update 64 sha256Block c.toCtx data :=
  toCtx_absorb _ _ _

theorem toCtx_updates (pieces : List Bytes) (c : Sha256Ctx) :
    (pieces.foldl sha256Update c).toCtx = pieces.foldl (update 64 sha256Block) c.toCtx := by
  induction pieces generalizing c with
  | nil => rfl
  | cons piece pieces ih => rw [List.foldl_cons, List.foldl_cons, ih, toCtx_update]

theorem toCtx_pad (fuel : Nat) (c : Sha256Ctx) :
    (sha256Pad fuel c).toCtx = pad 64 sha256Block 56 fuel c.toCtx := by
  induction fuel generalizing c with
  | zero => rfl
  | succ fuel ih =>
    unfold sha256Pad pad
    by_cases reached : c.buf.length = 56
    · rw [if_pos reached, if_pos (show c.toCtx.buf.length = 56 from reached)]
    · rw [if_neg reached, if_neg (show c.toCtx.buf.length ≠ 56 from reached), ih, toCtx_update]

/-- The digest of a string of octets, by its padding. -/
def sha256Digest (msg : Bytes) : Octets 32 :=
  Octets.of 32 (wordsBytes (digest 64 sha256Block sha256Init.h msg))

variable {msg : Bytes} {c : Sha256Ctx}

theorem after_sha256 (pieces : List Bytes) :
    After 64 sha256Block sha256Init.h pieces.flatten (pieces.foldl sha256Update sha256Init).toCtx := by
  have start : After 64 sha256Block sha256Init.h [] sha256Init.toCtx :=
    @after_nil _ 64 sha256Block sha256Init.toCtx rfl rfl
  have fed := start.updates (by decide) pieces
  rwa [List.nil_append, ← toCtx_updates] at fed

/-- The octets of the length are those of the number of bits modulo the word. -/
theorem be_nbits (len : Nat) : be 8 (UInt64.ofNat (8 * len)).toNat = be 8 (8 * len) := by
  rw [UInt64.toNat_ofNat', be, be]
  exact congrArg List.reverse (le_mod 8 (8 * len))

/-- The length is put into the open block and not counted. -/
theorem sha256Final_eq (after : After 64 sha256Block sha256Init.h msg c.toCtx) :
    sha256Final c = sha256Digest msg := by
  have filled := after.filled (by decide) (Nat.le_refl 64)
  rw [← toCtx_update, ← toCtx_pad] at filled
  have last := filled.last (by decide)
  rw [← be_nbits, ← after.nbits] at last
  unfold sha256Final sha256Digest
  exact congrArg (fun h => Octets.of 32 (wordsBytes h)) last

theorem sha256_pieces (pieces : List Bytes) :
    sha256Final (pieces.foldl sha256Update sha256Init) = sha256Digest pieces.flatten :=
  sha256Final_eq (after_sha256 pieces)

theorem sha256_eq (msg : Bytes) : sha256 msg = sha256Digest msg := by
  have one := sha256_pieces [msg]
  rwa [List.flatten_singleton] at one

end Sha256

section Sha1

def sha1Digest (msg : Bytes) : Octets 20 :=
  Octets.of 20 (sha1Bytes (digest 64 sha1Block sha1Init.h msg))

variable {msg : Bytes} {c : Sha1Ctx}

/-- The length goes through the update and completes the last block. -/
theorem sha1Final_eq (after : After 64 sha1Block sha1Init.h msg c) :
    sha1Final c = sha1Digest msg := by
  have filled := after.filled (by decide) (Nat.le_refl 64)
  have whole := filled.update (by decide) (be 8 (8 * msg.length))
  rw [List.append_assoc] at whole
  unfold sha1Final sha1Digest
  dsimp only
  rw [after.nbits, be_nbits]
  exact congrArg (fun h => Octets.of 20 (sha1Bytes h)) whole.h

theorem sha1_pieces (pieces : List Bytes) :
    sha1Final (pieces.foldl sha1Update sha1Init) = sha1Digest pieces.flatten := by
  have start : After 64 sha1Block sha1Init.h [] sha1Init :=
    @after_nil _ 64 sha1Block sha1Init rfl rfl
  exact sha1Final_eq (start.updates (by decide) pieces)

theorem sha1_eq (msg : Bytes) : sha1 msg = sha1Digest msg := by
  have one := sha1_pieces [msg]
  rwa [List.flatten_singleton] at one

end Sha1

/--
A message fed in any pieces has the digest of the one-shot function: the message
is padded in the one way there is, and its blocks are folded from the initial
state.
-/
theorem streaming_hashes (pieces : List Bytes) (short : pieces.flatten.length < 2 ^ 61) :
    ∃ m, (∀ m', Padded 64 pieces.flatten m' ↔ m' = m) ∧
      sha256Final (pieces.foldl sha256Update sha256Init) = sha256 pieces.flatten ∧
      sha256 pieces.flatten =
        Octets.of 32 (wordsBytes ((blocks 64 m).foldl sha256Block sha256Init.h)) ∧
      sha1Final (pieces.foldl sha1Update sha1Init) = sha1 pieces.flatten ∧
      sha1 pieces.flatten =
        Octets.of 20 (sha1Bytes ((blocks 64 m).foldl sha1Block sha1Init.h)) := by
  have padded := @padded_padding 64 (by decide) pieces.flatten short
  refine ⟨_, ?_, ?_, sha256_eq _, ?_, sha1_eq _⟩
  · intro m'
    constructor
    · intro other
      exact other.unique padded
    · rintro rfl
      exact padded
  · rw [sha256_pieces, sha256_eq]
  · rw [sha1_pieces, sha1_eq]

/-- Three pieces, one of them empty. -/
theorem streaming_hashes_pieces :
    sha256Final ([[97], [], [98, 99]].foldl sha256Update sha256Init) = sha256 [97, 98, 99] ∧
      sha1Final ([[97], [], [98, 99]].foldl sha1Update sha1Init) = sha1 [97, 98, 99] := by
  obtain ⟨m, -, sha256_, -, sha1_, -⟩ := streaming_hashes [[97], [], [98, 99]] (by decide)
  exact ⟨sha256_, sha1_⟩

end Rf2a4m1
