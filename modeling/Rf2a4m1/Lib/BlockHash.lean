import Rf2a4m1.Lib.Octets

/-!
# Hash functions over blocks

A hash folds the blocks of a padded message through a compression function. The
streaming form keeps what does not fill a block yet, and counts the bits. The
message may come in any pieces: the context depends on their concatenation only.
-/

set_option autoImplicit false

namespace BlockHash

open ByteString

section Blocks

variable {n : Nat} {a b : Bytes}

/-- The whole blocks of a string. -/
def blocks (n : Nat) (b : Bytes) : List Bytes :=
  (List.range (b.length / n)).map fun i => slice b (n * i) n

/-- What is left behind the whole blocks. -/
def rest (n : Nat) (b : Bytes) : Bytes := b.drop (n * (b.length / n))

theorem rest_length (n : Nat) (b : Bytes) : (rest n b).length = b.length % n := by
  have split := Nat.div_add_mod b.length n
  rw [rest, List.length_drop]
  omega

theorem rest_length_lt (positive : 0 < n) (b : Bytes) : (rest n b).length < n := by
  rw [rest_length]
  exact Nat.mod_lt _ positive

theorem blocks_short (short : b.length < n) : blocks n b = [] := by
  rw [blocks, Nat.div_eq_of_lt short]
  rfl

theorem rest_short (short : b.length < n) : rest n b = b := by
  rw [rest, Nat.div_eq_of_lt short]
  rfl

theorem blocks_one (whole : b.length = n) (positive : 0 < n) : blocks n b = [b] := by
  subst whole
  simp [blocks, Nat.div_self positive, slice]

theorem rest_one (whole : b.length = n) : rest n b = [] := by
  apply List.length_eq_zero_iff.1
  rw [rest_length, whole, Nat.mod_self]

/-- The blocks of a string are those of its front, then those of what is left and the rest. -/
theorem count_append (positive : 0 < n) (a b : Bytes) :
    (a ++ b).length / n = a.length / n + (rest n a ++ b).length / n := by
  have split := Nat.div_add_mod a.length n
  have total : (a ++ b).length = (rest n a ++ b).length + n * (a.length / n) := by
    rw [List.length_append, List.length_append, rest_length]
    omega
  rw [total, Nat.add_mul_div_left _ _ positive, Nat.add_comm]

theorem drop_blocks (a b : Bytes) (i : Nat) :
    (a ++ b).drop (n * (a.length / n) + i) = (rest n a ++ b).drop i := by
  have inside := Nat.mul_div_le a.length n
  rw [← List.drop_drop, List.drop_append_of_le_length inside]
  rfl

theorem blocks_append (positive : 0 < n) (a b : Bytes) :
    blocks n (a ++ b) = blocks n a ++ blocks n (rest n a ++ b) := by
  unfold blocks
  rw [count_append positive, List.range_add, List.map_append, List.map_map]
  congr 1
  · apply List.map_congr_left
    intro i member
    have block : n * (i + 1) ≤ a.length :=
      Nat.le_trans (Nat.mul_le_mul_left n (List.mem_range.1 member)) (Nat.mul_div_le a.length n)
    rw [Nat.mul_succ] at block
    unfold slice
    rw [List.drop_append_of_le_length (by omega),
      List.take_append_of_le_length (by rw [List.length_drop]; omega)]
  · apply List.map_congr_left
    intro i _
    dsimp only [Function.comp]
    rw [slice, slice, Nat.mul_add, drop_blocks]

theorem rest_append (positive : 0 < n) (a b : Bytes) :
    rest n (a ++ b) = rest n (rest n a ++ b) := by
  rw [rest, count_append positive, Nat.mul_add, drop_blocks]
  rfl

end Blocks

/-- The streaming context: chaining value, count of bits, open block. -/
structure Ctx (σ : Type) where
  h : σ
  nbits : UInt64
  buf : Bytes

section Stream

variable {σ : Type} (n : Nat) (f : σ → Bytes → σ)

/-- The absorb loop: every turn takes as much as the open block still holds. -/
def absorb : Nat → Ctx σ → Bytes → Ctx σ
  | 0, c, _ => c
  | fuel + 1, c, data =>
    if data.length = 0 then c
    else
      let take := min (n - c.buf.length) data.length
      let buf := c.buf ++ data.take take
      let c' := if buf.length = n then { c with h := f c.h buf, buf := [] } else { c with buf := buf }
      absorb fuel c' (data.drop take)

def update (c : Ctx σ) (data : Bytes) : Ctx σ :=
  absorb n f data.length { c with nbits := c.nbits + UInt64.ofNat data.length * 8 } data

/-- Zeros are fed one at a time until the open block has a length. -/
def pad (stop : Nat) : Nat → Ctx σ → Ctx σ
  | 0, c => c
  | fuel + 1, c => if c.buf.length = stop then c else pad stop fuel (update n f c [0])

/-- The context after a message, from a chaining value. -/
structure After (iv : σ) (msg : Bytes) (c : Ctx σ) : Prop where
  h : c.h = (blocks n msg).foldl f iv
  buf : c.buf = rest n msg
  nbits : c.nbits = UInt64.ofNat (8 * msg.length)

variable {n f} {iv : σ} {msg : Bytes} {c : Ctx σ}

theorem after_nil (buf : c.buf = []) (nbits : c.nbits = 0) : After n f c.h [] c where
  h := by simp [blocks]
  buf := by simp [buf, rest]
  nbits := by simp [nbits]

/-- What a context is after some more of the message. -/
def more (n : Nat) (f : σ → Bytes → σ) (c : Ctx σ) (data : Bytes) : Ctx σ :=
  { c with h := (blocks n (c.buf ++ data)).foldl f c.h, buf := rest n (c.buf ++ data) }

theorem more_more (positive : 0 < n) (c : Ctx σ) (a b : Bytes) :
    more n f (more n f c a) b = more n f c (a ++ b) := by
  unfold more
  dsimp only
  rw [← List.append_assoc, blocks_append positive (c.buf ++ a) b, List.foldl_append,
    ← rest_append positive]

/-- One turn fills the open block or uses the data up. -/
theorem turn_eq_more (short : c.buf.length < n) {data : Bytes} {take : Nat}
    (fits : take ≤ n - c.buf.length) (inside : take ≤ data.length) :
    (if (c.buf ++ data.take take).length = n then
        { c with h := f c.h (c.buf ++ data.take take), buf := [] }
      else { c with buf := c.buf ++ data.take take }) = more n f c (data.take take) := by
  have len : (c.buf ++ data.take take).length = c.buf.length + take := by
    rw [List.length_append, List.length_take_of_le inside]
  unfold more
  by_cases full : (c.buf ++ data.take take).length = n
  · rw [if_pos full, blocks_one full (Nat.zero_lt_of_lt short), rest_one full]
    rfl
  · have open_ : (c.buf ++ data.take take).length < n := by omega
    rw [if_neg full, blocks_short open_, rest_short open_]
    rfl

/-- The loop absorbs all of its data. -/
theorem absorb_eq_more {fuel : Nat} {data : Bytes} (short : c.buf.length < n)
    (enough : data.length ≤ fuel) : absorb n f fuel c data = more n f c data := by
  have positive : 0 < n := Nat.zero_lt_of_lt short
  have nothing (c : Ctx σ) (short : c.buf.length < n) : more n f c [] = c := by
    unfold more
    rw [List.append_nil, blocks_short short, rest_short short]
    rfl
  induction fuel generalizing c data with
  | zero =>
    obtain rfl := List.length_eq_zero_iff.1 (Nat.le_zero.1 enough)
    exact (nothing c short).symm
  | succ fuel ih =>
    unfold absorb
    by_cases none : data.length = 0
    · obtain rfl := List.length_eq_zero_iff.1 none
      rw [if_pos none]
      exact (nothing c short).symm
    · have later : (more n f c (data.take (min (n - c.buf.length) data.length))).buf.length < n :=
        rest_length_lt positive _
      rw [if_neg none]
      dsimp only
      rw [turn_eq_more short (Nat.min_le_left ..) (Nat.min_le_right ..), ih later,
        more_more positive, List.take_append_drop]
      rw [List.length_drop]
      omega

/-- An update makes the message longer, whatever came before. -/
theorem After.update (positive : 0 < n) (after : After n f iv msg c) (data : Bytes) :
    After n f iv (msg ++ data) (update n f c data) := by
  have short : c.buf.length < n := by
    rw [after.buf]
    exact rest_length_lt positive msg
  have stream := absorb_eq_more (f := f)
    (c := { c with nbits := c.nbits + UInt64.ofNat data.length * 8 }) short (Nat.le_refl data.length)
  unfold BlockHash.update
  rw [stream]
  unfold more
  constructor
  · dsimp only
    rw [after.h, after.buf, ← List.foldl_append, ← blocks_append positive]
  · dsimp only
    rw [after.buf, ← rest_append positive]
  · dsimp only
    rw [after.nbits, List.length_append, Nat.mul_add, UInt64.ofNat_add, UInt64.ofNat_mul 8 data.length,
      UInt64.mul_comm]
    rfl

/-- Any pieces of a message. -/
theorem After.updates (positive : 0 < n) (pieces : List Bytes) {msg : Bytes} {c : Ctx σ}
    (after : After n f iv msg c) :
    After n f iv (msg ++ pieces.flatten) (pieces.foldl (BlockHash.update n f) c) := by
  induction pieces generalizing msg c with
  | nil => simpa using after
  | cons piece pieces ih =>
    have next := ih (after.update positive piece)
    rwa [List.append_assoc] at next

/-- The zeros that are fed bring the open block to the length for the first time. -/
theorem After.pad (positive : 0 < n) {stop k : Nat} (reached : (msg.length + k) % n = stop)
    (first : ∀ j < k, (msg.length + j) % n ≠ stop) {fuel : Nat} (enough : k ≤ fuel)
    (after : After n f iv msg c) :
    After n f iv (msg ++ List.replicate k 0) (pad n f stop fuel c) := by
  have len : c.buf.length = msg.length % n := by
    rw [after.buf, rest_length]
  induction fuel generalizing msg c k with
  | zero =>
    obtain rfl := Nat.le_zero.1 enough
    simpa [BlockHash.pad] using after
  | succ fuel ih =>
    unfold BlockHash.pad
    cases k with
    | zero =>
      rw [Nat.add_zero] at reached
      rw [if_pos (len.trans reached)]
      simpa using after
    | succ k =>
      have now := first 0 (Nat.succ_pos k)
      rw [Nat.add_zero, ← len] at now
      have shift (j : Nat) : (msg ++ [0]).length + j = msg.length + (j + 1) := by
        rw [List.length_append, List.length_singleton]
        omega
      have later := after.update positive [0]
      have zeros : msg ++ List.replicate (k + 1) 0 = (msg ++ [0]) ++ List.replicate k 0 := by
        rw [List.append_assoc, List.singleton_append, ← List.replicate_succ]
      rw [if_neg now, zeros]
      apply ih (by rw [shift]; exact reached) _ (Nat.le_of_succ_le_succ enough) later
      · rw [later.buf, rest_length]
      · intro j before
        rw [shift]
        exact first (j + 1) (Nat.succ_lt_succ before)

end Stream

section Padding

variable {n : Nat}

/-- The fewest zeros that leave room for the length in the last block. -/
def zeros (n len : Nat) : Nat := (n - (len + 9) % n) % n

/-- A one bit, zeros, and the length of the message in bits. -/
def padding (n len : Nat) : Bytes := [0x80] ++ List.replicate (zeros n len) 0 ++ be 8 (8 * len)

/-- The hash of a message before it is cut to octets. -/
def digest {σ : Type} (n : Nat) (f : σ → Bytes → σ) (iv : σ) (msg : Bytes) : σ :=
  (blocks n (msg ++ padding n msg.length)).foldl f iv

theorem zeros_whole (positive : 0 < n) (len : Nat) : (len + 9 + zeros n len) % n = 0 := by
  unfold zeros
  have lt := Nat.mod_lt (len + 9) positive
  rw [Nat.add_mod_mod, Nat.add_mod]
  by_cases whole : (len + 9) % n = 0
  · rw [whole, Nat.sub_zero, Nat.mod_self, Nat.add_zero, Nat.zero_mod]
  · rw [Nat.mod_eq_of_lt (a := n - (len + 9) % n) (by omega), Nat.add_sub_cancel' (Nat.le_of_lt lt), Nat.mod_self]

theorem zeros_least (positive : 0 < n) {len k : Nat} (whole : (len + 9 + k) % n = 0) :
    zeros n len ≤ k := by
  have lt := Nat.mod_lt (len + 9) positive
  unfold zeros
  by_cases none : (len + 9) % n = 0
  · rw [none, Nat.sub_zero, Nat.mod_self]
    exact Nat.zero_le k
  · rw [Nat.mod_eq_of_lt (a := n - (len + 9) % n) (by omega)]
    by_contra small
    have below : (len + 9) % n + k < n := by omega
    rw [Nat.add_mod, Nat.mod_eq_of_lt (a := k) (by omega), Nat.mod_eq_of_lt below] at whole
    omega

/--
A message as the standard pads it: a one bit, the fewest zeros with which the
whole is a number of blocks, and the number of its bits in eight octets.
-/
def Padded (n : Nat) (msg m : Bytes) : Prop :=
  ∃ k field, m = msg ++ ([0x80] ++ List.replicate k 0 ++ field) ∧ field.length = 8 ∧
    ofBe field = 8 * msg.length ∧ (msg.length + 9 + k) % n = 0 ∧
    ∀ j, (msg.length + 9 + j) % n = 0 → k ≤ j

theorem padded_padding (positive : 0 < n) {msg : Bytes} (short : msg.length < 2 ^ 61) :
    Padded n msg (msg ++ padding n msg.length) := by
  refine ⟨zeros n msg.length, be 8 (8 * msg.length), rfl, be_length .., ?_,
    zeros_whole positive _, fun j whole => zeros_least positive whole⟩
  rw [ofBe_be]
  exact Nat.mod_eq_of_lt (by omega)

/-- There is one way to pad a message. -/
theorem Padded.unique {msg m m' : Bytes} (padded : Padded n msg m) (padded' : Padded n msg m') :
    m = m' := by
  obtain ⟨k, field, rfl, len, value, whole, least⟩ := padded
  obtain ⟨k', field', rfl, len', value', whole', least'⟩ := padded'
  obtain rfl := Nat.le_antisymm (least k' whole') (least' k whole)
  have back := be_ofBe field
  have back' := be_ofBe field'
  rw [len, value] at back
  rw [len', value'] at back'
  rw [← back, ← back']

end Padding

section Final

variable {σ : Type} {n : Nat} {f : σ → Bytes → σ} {iv : σ} {msg : Bytes} {c : Ctx σ}

/-- Eight octets behind a string fill its last block. -/
theorem mod_eq_sub_eight (wide : 8 < n) (m : Nat) : m % n = n - 8 ↔ (m + 8) % n = 0 := by
  have lt := Nat.mod_lt m (Nat.zero_lt_of_lt wide)
  rw [Nat.add_mod, Nat.mod_eq_of_lt wide]
  constructor
  · intro stop
    rw [stop, Nat.sub_add_cancel (Nat.le_of_lt wide), Nat.mod_self]
  · intro whole
    by_contra other
    by_cases below : m % n + 8 < n
    · rw [Nat.mod_eq_of_lt below] at whole
      omega
    · rw [Nat.mod_eq_sub_mod (by omega), Nat.mod_eq_of_lt (by omega)] at whole
      omega

/-- The padding up to the length field: the open block has room for nothing else. -/
theorem After.filled (wide : 8 < n) {fuel : Nat} (enough : n ≤ fuel) (after : After n f iv msg c) :
    After n f iv (msg ++ ([0x80] ++ List.replicate (zeros n msg.length) 0))
      (BlockHash.pad n f (n - 8) fuel (BlockHash.update n f c [0x80])) := by
  have positive : 0 < n := Nat.zero_lt_of_lt wide
  have room (j : Nat) : ((msg ++ [0x80]).length + j) % n = n - 8 ↔ (msg.length + 9 + j) % n = 0 := by
    have shift : (msg ++ [0x80]).length + j + 8 = msg.length + 9 + j := by
      rw [List.length_append, List.length_singleton]
      omega
    rw [mod_eq_sub_eight wide, shift]
  have bound : zeros n msg.length < n := Nat.mod_lt _ positive
  rw [← List.append_assoc]
  refine (after.update positive [0x80]).pad positive ?_ ?_ (Nat.le_of_lt (Nat.lt_of_lt_of_le bound enough))
  · rw [room]
    exact zeros_whole positive _
  · intro j before stop
    rw [room] at stop
    exact Nat.not_le.2 before (zeros_least positive stop)

/-- The last block: what is open, and the length. -/
theorem After.last (wide : 8 < n)
    (after : After n f iv (msg ++ ([0x80] ++ List.replicate (zeros n msg.length) 0)) c) :
    f c.h (c.buf ++ be 8 (8 * msg.length)) = digest n f iv msg := by
  have positive : 0 < n := Nat.zero_lt_of_lt wide
  have len : (c.buf ++ be 8 (8 * msg.length)).length = n := by
    have total : (msg ++ ([0x80] ++ List.replicate (zeros n msg.length) 0)).length + 8 =
        msg.length + 9 + zeros n msg.length := by
      simp
      omega
    have stop := (mod_eq_sub_eight wide
      (msg ++ ([0x80] ++ List.replicate (zeros n msg.length) 0)).length).2
      (by rw [total]; exact zeros_whole positive _)
    rw [List.length_append, be_length, after.buf, rest_length, stop]
    omega
  unfold digest padding
  rw [← List.append_assoc msg, blocks_append positive, List.foldl_append, ← after.h, ← after.buf,
    blocks_one len positive]
  rfl

end Final

end BlockHash
