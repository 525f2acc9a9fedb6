import Rf2a4m1.Lib.Octets
import Rf2a4m1.Lib.Replay

/-!
# Inline helpers of the core header

Little-endian accessors, MAC addresses, the sticky-error read cursor and the
per-TID packet-number replay context.
-/

set_option autoImplicit false

namespace Rf2a4m1

open ByteString Replay

abbrev MacAddr := Octets 6

/-- 16-bit little-endian value at offset `off`. -/
def getLe16 (b : Bytes) (off : Nat) : UInt16 := UInt16.ofNat (ofLe (slice b off 2))

def getLe32 (b : Bytes) (off : Nat) : UInt32 := UInt32.ofNat (ofLe (slice b off 4))

def getBe16 (b : Bytes) (off : Nat) : UInt16 := UInt16.ofNat (ofBe (slice b off 2))

def getBe64 (b : Bytes) (off : Nat) : Nat := ofBe (slice b off 8)

def putLe16 (v : UInt16) : Bytes := le 2 v.toNat

def putLe32 (v : UInt32) : Bytes := le 4 v.toNat

def putBe16 (v : UInt16) : Bytes := be 2 v.toNat

def putBe64 (v : Nat) : Bytes := be 8 v

@[simp] theorem putLe16_length (v : UInt16) : (putLe16 v).length = 2 := le_length 2 _

@[simp] theorem putLe32_length (v : UInt32) : (putLe32 v).length = 4 := le_length 4 _

@[simp] theorem putBe16_length (v : UInt16) : (putBe16 v).length = 2 := be_length 2 _

@[simp] theorem putBe64_length (v : Nat) : (putBe64 v).length = 8 := be_length 8 _

def macAt (b : Bytes) (off : Nat) : MacAddr := Octets.of 6 (slice b off 6)

def macIsZero (m : MacAddr) : Bool := m = Octets.zero 6

def bcast : MacAddr := Octets.of 6 (List.replicate 6 0xff)

/-- Read cursor: the octets not yet consumed, or the sticky error. -/
structure Rd where
  rest : Bytes
  err : Bool

def rdInit (b : Bytes) : Rd := { rest := b, err := false }

def rdOk (r : Rd) : Bool := !r.err

def rdRemaining (r : Rd) : Nat := if r.err then 0 else r.rest.length

def rdBytes (r : Rd) (n : Nat) : Option Bytes × Rd :=
  if r.err ∨ n > r.rest.length then (none, { r with err := true })
  else (some (r.rest.take n), { r with rest := r.rest.drop n })

def rdU8 (r : Rd) : UInt8 × Rd :=
  let (q, r') := rdBytes r 1
  ((q.map fun b => byteAt b 0).getD 0, r')

def rdLe16 (r : Rd) : UInt16 × Rd :=
  let (q, r') := rdBytes r 2
  ((q.map fun b => getLe16 b 0).getD 0, r')

def rdLe32 (r : Rd) : UInt32 × Rd :=
  let (q, r') := rdBytes r 4
  ((q.map fun b => getLe32 b 0).getD 0, r')

def rdSkip (r : Rd) (n : Nat) : Rd := (rdBytes r n).2

section Cursor

variable {a rest : Bytes}

theorem rdBytes_append {n : Nat} (length : a.length = n) :
    rdBytes (rdInit (a ++ rest)) n = (some a, rdInit rest) := by
  subst length
  simp [rdBytes, rdInit]

@[simp] theorem rdU8_cons (x : UInt8) : rdU8 (rdInit (x :: rest)) = (x, rdInit rest) := by
  have one : rdBytes (rdInit ([x] ++ rest)) 1 = (some [x], rdInit rest) := rdBytes_append rfl
  unfold rdU8
  rw [List.singleton_append] at one
  rw [one]
  rfl

@[simp] theorem getLe16_put (v : UInt16) : getLe16 (putLe16 v) 0 = v := by
  have whole : slice (putLe16 v) 0 2 = le 2 v.toNat := by
    unfold slice
    rw [List.drop_zero, List.take_of_length_le (by simp)]
    rfl
  have small : v.toNat % 256 ^ 2 = v.toNat := Nat.mod_eq_of_lt v.toNat_lt
  rw [getLe16, whole, ofLe_le, small, UInt16.ofNat_toNat]

@[simp] theorem rdLe16_put (v : UInt16) :
    rdLe16 (rdInit (putLe16 v ++ rest)) = (v, rdInit rest) := by
  unfold rdLe16
  rw [rdBytes_append (putLe16_length v)]
  simp

theorem rdOk_rest {r : Rd} (ok : ¬(!rdOk r) = true) : ∃ rest, r = rdInit rest := by
  obtain ⟨rest, err⟩ := r
  cases err with
  | false => exact ⟨rest, rfl⟩
  | true => exact absurd rfl ok

theorem rdInit_inj {b : Bytes} (same : rdInit b = rdInit rest) : b = rest :=
  congrArg Rd.rest same

/-- A cursor without error has read what was in front of it. -/
theorem rdBytes_read {r : Rd} {n : Nat} (read : (rdBytes r n).2 = rdInit rest) :
    ∃ a, a.length = n ∧ r = rdInit (a ++ rest) := by
  unfold rdBytes at read
  split at read
  · cases read
  rename_i good
  obtain ⟨clean, within⟩ := not_or.1 good
  have ok : ¬(!rdOk r) = true := by
    rw [rdOk, Bool.not_not]
    exact clean
  obtain ⟨b, rfl⟩ := rdOk_rest ok
  have behind : b.drop n = rest := congrArg Rd.rest read
  refine ⟨b.take n, List.length_take_of_le (Nat.le_of_not_lt within), ?_⟩
  rw [← behind, List.take_append_drop]

theorem rdU8_read {r : Rd} (read : (rdU8 r).2 = rdInit rest) : ∃ x, r = rdInit (x :: rest) := by
  obtain ⟨a, size, front⟩ := rdBytes_read (r := r) (n := 1) read
  obtain ⟨x, rfl⟩ := List.length_eq_one_iff.1 size
  exact ⟨x, front⟩

theorem putLe16_get (size : a.length = 2) : putLe16 (getLe16 a 0) = a := by
  have whole : slice a 0 2 = a := List.take_of_length_le (Nat.le_of_eq size)
  have small : ofLe a < 2 ^ 16 := by
    have bound := ofLe_lt a
    rw [size] at bound
    exact bound
  have back := le_ofLe a
  rw [size] at back
  unfold getLe16 putLe16
  rw [whole, UInt16.toNat_ofNat_of_lt' small, back]

theorem rdLe16_read {r : Rd} (read : (rdLe16 r).2 = rdInit rest) :
    ∃ v, r = rdInit (putLe16 v ++ rest) := by
  obtain ⟨a, size, front⟩ := rdBytes_read (r := r) (n := 2) read
  exact ⟨getLe16 a 0, by rw [putLe16_get size, front]⟩

theorem getLe16_slice {b : Bytes} {off n o : Nat} (within : o + 2 ≤ n) :
    getLe16 (slice b off n) o = getLe16 b (off + o) := by
  rw [getLe16, getLe16, slice_slice within]

theorem getLe32_slice {b : Bytes} {off n o : Nat} (within : o + 4 ≤ n) :
    getLe32 (slice b off n) o = getLe32 b (off + o) := by
  rw [getLe32, getLe32, slice_slice within]

theorem rdSkip_append {n : Nat} (length : a.length = n) :
    rdSkip (rdInit (a ++ rest)) n = rdInit rest := by
  rw [rdSkip, rdBytes_append length]

@[simp] theorem rdRemaining_init (b : Bytes) : rdRemaining (rdInit b) = b.length := rfl

@[simp] theorem rdOk_init (b : Bytes) : rdOk (rdInit b) = true := rfl

end Cursor

section Words

variable {b : Bytes} {off : Nat}

theorem slice_succ (inside : off < b.length) (n : Nat) :
    slice b off (n + 1) = byteAt b off :: slice b (off + 1) n := by
  unfold slice byteAt
  rw [List.drop_eq_getElem_cons inside, List.take_succ_cons, List.getD_eq_getElem?_getD,
    List.getElem?_eq_getElem inside, Option.getD_some]

theorem getLe16_toNat (within : off + 2 ≤ b.length) :
    (getLe16 b off).toNat = (byteAt b off).toNat + 256 * (byteAt b (off + 1)).toNat := by
  have low := (byteAt b off).toNat_lt
  have high := (byteAt b (off + 1)).toNat_lt
  have octets : ofLe (slice b off 2) =
      (byteAt b off).toNat + 256 * (byteAt b (off + 1)).toNat := by
    rw [slice_succ (by omega), slice_succ (by omega)]
    simp [slice, ofLe]
  rw [getLe16, octets, UInt16.toNat_ofNat']
  exact Nat.mod_eq_of_lt (by omega)

theorem getLe32_toNat (within : off + 4 ≤ b.length) :
    (getLe32 b off).toNat = (byteAt b off).toNat + 256 * (byteAt b (off + 1)).toNat +
      65536 * (byteAt b (off + 2)).toNat + 16777216 * (byteAt b (off + 3)).toNat := by
  have first := (byteAt b off).toNat_lt
  have second := (byteAt b (off + 1)).toNat_lt
  have third := (byteAt b (off + 2)).toNat_lt
  have fourth := (byteAt b (off + 3)).toNat_lt
  have octets : ofLe (slice b off 4) = (byteAt b off).toNat + 256 * (byteAt b (off + 1)).toNat +
      65536 * (byteAt b (off + 2)).toNat + 16777216 * (byteAt b (off + 3)).toNat := by
    rw [slice_succ (by omega), slice_succ (by omega), slice_succ (by omega),
      slice_succ (by omega)]
    simp only [slice, ofLe, List.take_zero, Nat.add_assoc, Nat.reduceAdd]
    omega
  rw [getLe32, octets, UInt32.toNat_ofNat']
  exact Nat.mod_eq_of_lt (by omega)

@[simp] theorem getLe32_put (v : UInt32) (rest : Bytes) : getLe32 (putLe32 v ++ rest) 0 = v := by
  have front : slice (putLe32 v ++ rest) 0 4 = le 4 v.toNat := slice_append_left (le_length 4 _)
  have small : v.toNat % 256 ^ 4 = v.toNat := Nat.mod_eq_of_lt v.toNat_lt
  rw [getLe32, front, ofLe_le, small, UInt32.ofNat_toNat]

end Words

/-- Packet-number replay context: the highest number accepted in each slot. -/
@[ext] structure PnReplay where
  highest : Nat → Nat
  seen : Nat → Bool

def pnReplayNonQos : Nat := 16

def pnReplayTids : Nat := 17

def pnReplayPnMax : Nat := 0xffffffffffff

def pnReplayReset : PnReplay := { highest := fun _ => 0, seen := fun _ => false }

def pnReplayOk (r : PnReplay) (tid pn : Nat) : Bool :=
  if tid ≥ pnReplayTids then false
  else if pn > pnReplayPnMax then false
  else if !r.seen tid then true
  else pn > r.highest tid

def pnReplayCommit (r : PnReplay) (tid pn : Nat) : PnReplay :=
  if tid ≥ pnReplayTids then r
  else
    { highest := fun i => if i = tid then pn else r.highest i
      seen := fun i => if i = tid then true else r.seen i }

/-- The slot of a data frame: its TID, or the one that everything else shares. -/
def pnReplayTid (hdr : Bytes) : Nat :=
  if !((byteAt hdr 0 &&& 0x0c = 0x08) && (byteAt hdr 0 &&& 0x80 ≠ 0)) then pnReplayNonQos
  else (byteAt hdr (if byteAt hdr 1 &&& 0x03 = 0x03 then 30 else 24) &&& 0x0f).toNat

section Window

/-- The replay state as a window over slots. -/
def replayWindow (r : PnReplay) : Window Nat := fun slot =>
  if r.seen slot then some (r.highest slot) else none

variable {r : PnReplay} {slot pn : Nat}

theorem pnReplayOk_admits (ok : pnReplayOk r slot pn = true) :
    slot < pnReplayTids ∧ (replayWindow r).admits slot pn := by
  unfold pnReplayOk at ok
  split at ok
  · cases ok
  rename_i valid
  refine ⟨Nat.lt_of_not_le valid, fun m highest => ?_⟩
  unfold replayWindow at highest
  split at highest
  · rename_i seen
    obtain rfl := Option.some.inj highest
    rw [seen] at ok
    split at ok
    · cases ok
    · simpa using ok
  · cases highest

theorem replayWindow_commit (valid : slot < pnReplayTids) :
    replayWindow (pnReplayCommit r slot pn) = (replayWindow r).take slot pn := by
  funext k
  unfold replayWindow pnReplayCommit Window.take
  rw [if_neg (Nat.not_le.2 valid)]
  dsimp only
  by_cases same : k = slot
  · simp [same]
  · simp [same]

end Window

end Rf2a4m1
