import Mathlib.Tactic.LinearCombination
import Mathlib.Tactic.Ring
import Rf2a4m1.Crypto.P256

/-!
# The numbers behind the limbs

Every loop over limbs computes on the numbers that the limbs stand for. A carry
or a borrow is the digit that does not fit.
-/

set_option autoImplicit false

namespace Rf2a4m1

/-- The number that limbs stand for, least significant limb first. -/
def limbsVal : Fe → Nat
  | [] => 0
  | x :: xs => x.toNat + 2 ^ 32 * limbsVal xs

@[simp] theorem limbsVal_nil : limbsVal [] = 0 := rfl

@[simp] theorem limbsVal_cons (x : UInt32) (xs : Fe) :
    limbsVal (x :: xs) = x.toNat + 2 ^ 32 * limbsVal xs := rfl

theorem limbsVal_lt (a : Fe) : limbsVal a < 2 ^ (32 * a.length) := by
  induction a with
  | nil => exact Nat.one_pos
  | cons x xs ih =>
    have limb := x.toNat_lt
    rw [limbsVal_cons, List.length_cons, Nat.mul_succ, Nat.pow_add, Nat.mul_comm (2 ^ _)]
    omega

theorem limbsVal_append (a b : Fe) :
    limbsVal (a ++ b) = limbsVal a + 2 ^ (32 * a.length) * limbsVal b := by
  induction a with
  | nil => simp
  | cons x xs ih =>
    rw [List.cons_append, limbsVal_cons, limbsVal_cons, ih, List.length_cons, Nat.mul_succ,
      Nat.pow_add]
    ring

/-- Limbs are determined by their number. -/
theorem limbsVal_inj {a b : Fe} (len : a.length = b.length) (val : limbsVal a = limbsVal b) :
    a = b := by
  induction a generalizing b with
  | nil => exact (List.length_eq_zero_iff.1 len.symm).symm
  | cons x xs ih =>
    cases b with
    | nil => cases len
    | cons y ys =>
      have limb := x.toNat_lt
      have limb' := y.toNat_lt
      rw [limbsVal_cons, limbsVal_cons] at val
      have head : x.toNat = y.toNat := by omega
      rw [UInt32.toNat_inj.1 head, ih (Nat.succ.inj len) (by omega)]

section Loops

/-- A sum below `2^32` in both halves splits into limb and carry. -/
theorem splitCarry (s : UInt64) : s.toUInt32.toNat + 2 ^ 32 * (s >>> 32).toNat = s.toNat := by
  rw [UInt64.toNat_toUInt32, UInt64.toNat_shiftRight]
  have : (32 : UInt64).toNat % 64 = 32 := by decide
  rw [this, Nat.shiftRight_eq_div_pow]
  omega

theorem addCarryLoop_length {a b : Fe} (len : a.length = b.length) (c : UInt64) :
    (addCarryLoop a b c).1.length = a.length := by
  induction a generalizing b c with
  | nil => rfl
  | cons x xs ih =>
    cases b with
    | nil => cases len
    | cons y ys =>
      dsimp only [addCarryLoop]
      rw [List.length_cons, List.length_cons, ih (Nat.succ.inj len)]

/-- The sum, with the outgoing carry as its highest digit. -/
theorem addCarryLoop_val {a b : Fe} (len : a.length = b.length) {c : UInt64} (carry : c.toNat ≤ 1) :
    limbsVal (addCarryLoop a b c).1 + 2 ^ (32 * a.length) * (addCarryLoop a b c).2.toNat =
        limbsVal a + limbsVal b + c.toNat ∧
      (addCarryLoop a b c).2.toNat ≤ 1 := by
  induction a generalizing b c with
  | nil =>
    obtain rfl := List.length_eq_zero_iff.1 len.symm
    simpa [addCarryLoop] using carry
  | cons x xs ih =>
    cases b with
    | nil => cases len
    | cons y ys =>
      have limb := x.toNat_lt
      have limb' := y.toNat_lt
      have sum : (c + (x.toUInt64 + y.toUInt64)).toNat = c.toNat + (x.toNat + y.toNat) := by
        rw [UInt64.toNat_add, UInt64.toNat_add, UInt32.toNat_toUInt64, UInt32.toNat_toUInt64]
        omega
      have split := splitCarry (c + (x.toUInt64 + y.toUInt64))
      rw [sum] at split
      obtain ⟨rest, bound⟩ := ih (Nat.succ.inj len)
        (c := (c + (x.toUInt64 + y.toUInt64)) >>> 32) (by omega)
      refine ⟨?_, bound⟩
      dsimp only [addCarryLoop]
      rw [limbsVal_cons, limbsVal_cons, limbsVal_cons, List.length_cons, Nat.mul_succ, Nat.pow_add]
      linear_combination 2 ^ 32 * rest + split

theorem subBorrowLoop_length {a b : Fe} (len : a.length = b.length) (c : UInt64) :
    (subBorrowLoop a b c).1.length = a.length := by
  induction a generalizing b c with
  | nil => rfl
  | cons x xs ih =>
    cases b with
    | nil => cases len
    | cons y ys =>
      dsimp only [subBorrowLoop]
      rw [List.length_cons, List.length_cons, ih (Nat.succ.inj len)]

/-- The difference of two limbs and a borrow, with the borrow it takes from the next limb. -/
theorem splitBorrow {x y : UInt32} {c : UInt64} (borrow : c.toNat ≤ 1) :
    (x.toUInt64 - y.toUInt64 - c).toUInt32.toNat + y.toNat + c.toNat =
        x.toNat + 2 ^ 32 * (((x.toUInt64 - y.toUInt64 - c) >>> 63) &&& 1).toNat ∧
      (((x.toUInt64 - y.toUInt64 - c) >>> 63) &&& 1).toNat ≤ 1 := by
  have limb := x.toNat_lt
  have limb' := y.toNat_lt
  have shift : (63 : UInt64).toNat % 64 = 63 := by decide
  have one : (1 : UInt64).toNat = 1 := by decide
  rw [UInt64.toNat_and, UInt64.toNat_shiftRight, shift, Nat.shiftRight_eq_div_pow, one,
    Nat.and_one_is_mod, UInt64.toNat_toUInt32, UInt64.toNat_sub, UInt64.toNat_sub,
    UInt32.toNat_toUInt64, UInt32.toNat_toUInt64]
  omega

/-- The difference, with the outgoing borrow as what was missing. -/
theorem subBorrowLoop_val {a b : Fe} (len : a.length = b.length) {c : UInt64}
    (borrow : c.toNat ≤ 1) :
    limbsVal (subBorrowLoop a b c).1 + limbsVal b + c.toNat =
        limbsVal a + 2 ^ (32 * a.length) * (subBorrowLoop a b c).2.toNat ∧
      (subBorrowLoop a b c).2.toNat ≤ 1 := by
  induction a generalizing b c with
  | nil =>
    obtain rfl := List.length_eq_zero_iff.1 len.symm
    simpa [subBorrowLoop] using borrow
  | cons x xs ih =>
    cases b with
    | nil => cases len
    | cons y ys =>
      obtain ⟨first, out⟩ := splitBorrow (x := x) (y := y) borrow
      obtain ⟨rest, bound⟩ := ih (Nat.succ.inj len) out
      refine ⟨?_, bound⟩
      dsimp only [subBorrowLoop]
      rw [limbsVal_cons, limbsVal_cons, limbsVal_cons, List.length_cons, Nat.mul_succ, Nat.pow_add]
      linear_combination 2 ^ 32 * rest + first

theorem mulAddLoop_length {t a : Fe} (len : t.length = a.length) (x c : UInt64) :
    (mulAddLoop x t a c).1.length = t.length := by
  induction t generalizing a c with
  | nil => rfl
  | cons y ys ih =>
    cases a with
    | nil => cases len
    | cons z zs =>
      dsimp only [mulAddLoop]
      rw [List.length_cons, List.length_cons, ih (Nat.succ.inj len)]

/-- A limb product with two more limbs added fits in 64 bits. -/
theorem mulAdd_toNat {x c : UInt64} (fits : x.toNat < 2 ^ 32) (carry : c.toNat < 2 ^ 32)
    (t a : UInt32) :
    (t.toUInt64 + a.toUInt64 * x + c).toNat = t.toNat + a.toNat * x.toNat + c.toNat := by
  have limb := t.toNat_lt
  have limb' := a.toNat_lt
  have product : a.toNat * x.toNat ≤ (2 ^ 32 - 1) * (2 ^ 32 - 1) :=
    Nat.mul_le_mul (by omega) (by omega)
  rw [UInt64.toNat_add, UInt64.toNat_add, UInt64.toNat_mul, UInt32.toNat_toUInt64,
    UInt32.toNat_toUInt64]
  omega

/-- The multiple added, with the outgoing carry as its highest digit. -/
theorem mulAddLoop_val {t a : Fe} (len : t.length = a.length) {x c : UInt64}
    (fits : x.toNat < 2 ^ 32) (carry : c.toNat < 2 ^ 32) :
    limbsVal (mulAddLoop x t a c).1 + 2 ^ (32 * t.length) * (mulAddLoop x t a c).2.toNat =
        limbsVal t + limbsVal a * x.toNat + c.toNat ∧
      (mulAddLoop x t a c).2.toNat < 2 ^ 32 := by
  induction t generalizing a c with
  | nil =>
    obtain rfl := List.length_eq_zero_iff.1 len.symm
    simpa [mulAddLoop] using carry
  | cons y ys ih =>
    cases a with
    | nil => cases len
    | cons z zs =>
      have split := splitCarry (y.toUInt64 + z.toUInt64 * x + c)
      have wide := (y.toUInt64 + z.toUInt64 * x + c).toNat_lt
      rw [mulAdd_toNat fits carry] at split
      rw [mulAdd_toNat fits carry] at wide
      obtain ⟨rest, bound⟩ := ih (Nat.succ.inj len)
        (c := (y.toUInt64 + z.toUInt64 * x + c) >>> 32) (by omega)
      refine ⟨?_, bound⟩
      dsimp only [mulAddLoop]
      rw [limbsVal_cons, limbsVal_cons, limbsVal_cons, List.length_cons, Nat.mul_succ, Nat.pow_add]
      linear_combination 2 ^ 32 * rest + split

end Loops

section Select

variable {a b t : Fe} {flag : UInt32}

theorem selectLimbs_length (len : a.length = b.length) : (selectLimbs flag a b).length = a.length := by
  rw [selectLimbs, List.length_zipWith, len, Nat.min_self]

/-- A flag of one selects the first operand. -/
theorem selectLimbs_one (len : a.length = b.length) : selectLimbs 1 a b = a := by
  unfold selectLimbs
  have mask : (0 : UInt32) - (1 &&& 1) = 0xffffffff := by decide
  dsimp only
  rw [mask]
  induction a generalizing b with
  | nil => rfl
  | cons x xs ih =>
    cases b with
    | nil => cases len
    | cons y ys =>
      have ones : (0xffffffff : UInt32) = -1 := by decide
      rw [List.zipWith_cons_cons, ih (Nat.succ.inj len), ones]
      simp

/-- A flag of zero selects the second. -/
theorem selectLimbs_zero (len : a.length = b.length) : selectLimbs 0 a b = b := by
  unfold selectLimbs
  have mask : (0 : UInt32) - (0 &&& 1) = 0 := by decide
  dsimp only
  rw [mask]
  induction a generalizing b with
  | nil => exact (List.length_eq_zero_iff.1 len.symm).symm
  | cons x xs ih =>
    cases b with
    | nil => cases len
    | cons y ys =>
      rw [List.zipWith_cons_cons, ih (Nat.succ.inj len)]
      simp

end Select

section Flags

theorem eq_zero_or_one {flag : UInt32} (h : flag.toNat ≤ 1) : flag = 0 ∨ flag = 1 := by
  rcases Nat.le_one_iff_eq_zero_or_eq_one.1 h with zero | one
  · exact Or.inl (UInt32.toNat_inj.1 zero)
  · exact Or.inr (UInt32.toNat_inj.1 one)

theorem foldl_or_eq_zero_iff (a : Fe) (acc : UInt32) :
    a.foldl (· ||| ·) acc = 0 ↔ acc = 0 ∧ limbsVal a = 0 := by
  induction a generalizing acc with
  | nil => simp
  | cons x xs ih =>
    have limb : x = 0 ↔ x.toNat = 0 := UInt32.toNat_inj.symm
    rw [List.foldl_cons, ih, UInt32.or_eq_zero_iff, limbsVal_cons, limb, and_assoc]
    refine and_congr_right fun _ => ?_
    omega

theorem feIsZero_eq (a : Fe) : feIsZero a = if limbsVal a = 0 then 1 else 0 := by
  unfold feIsZero
  simp only [foldl_or_eq_zero_iff, true_and]

theorem limbsVal_xor_eq_zero_iff {a b : Fe} (len : a.length = b.length) :
    limbsVal (a.zipWith (· ^^^ ·) b) = 0 ↔ a = b := by
  induction a generalizing b with
  | nil => simp [List.length_eq_zero_iff.1 len.symm]
  | cons x xs ih =>
    cases b with
    | nil => cases len
    | cons y ys =>
      have limb : (x ^^^ y).toNat = 0 ↔ x = y := by
        rw [← UInt32.xor_eq_zero_iff]
        exact (@UInt32.toNat_inj (x ^^^ y) 0)
      rw [List.zipWith_cons_cons, limbsVal_cons, List.cons.injEq, ← limb, ← ih (Nat.succ.inj len)]
      omega

theorem feEq_eq {a b : Fe} (len : a.length = b.length) : feEq a b = if a = b then 1 else 0 := by
  unfold feEq
  rw [feIsZero_eq]
  simp only [limbsVal_xor_eq_zero_iff len]

end Flags

section Words

variable {a b t m : Fe}

theorem limbsVal_lt_of_length (len : a.length = 8) : limbsVal a < 2 ^ 256 := by
  have bound := limbsVal_lt a
  rwa [len] at bound

theorem u256SubBorrow_length (lenA : a.length = 8) (lenB : b.length = 8) :
    (u256SubBorrow a b).1.length = 8 :=
  (subBorrowLoop_length (lenA.trans lenB.symm) 0).trans lenA

/-- What is left after a subtraction, and the borrow when there was not enough. -/
theorem u256SubBorrow_val (lenA : a.length = 8) (lenB : b.length = 8) :
    limbsVal (u256SubBorrow a b).1 + limbsVal b =
        limbsVal a + 2 ^ 256 * (if limbsVal a < limbsVal b then 1 else 0) ∧
      (u256SubBorrow a b).2 = if limbsVal a < limbsVal b then 1 else 0 := by
  have below := limbsVal_lt_of_length (u256SubBorrow_length lenA lenB)
  have lt := limbsVal_lt_of_length lenA
  have lt' := limbsVal_lt_of_length lenB
  obtain ⟨val, bound⟩ := subBorrowLoop_val (lenA.trans lenB.symm) (c := 0) (by decide)
  rw [lenA, UInt64.toNat_zero] at val
  have flag : (u256SubBorrow a b).2.toNat = (subBorrowLoop a b 0).2.toNat := by
    dsimp only [u256SubBorrow]
    rw [UInt64.toNat_toUInt32]
    omega
  dsimp only [u256SubBorrow] at below ⊢
  by_cases less : limbsVal a < limbsVal b
  · rw [if_pos less, if_pos less]
    have one : (subBorrowLoop a b 0).2.toNat = 1 := by omega
    exact ⟨by omega, UInt32.toNat_inj.1 (flag.trans one)⟩
  · rw [if_neg less, if_neg less]
    have zero : (subBorrowLoop a b 0).2.toNat = 0 := by omega
    exact ⟨by omega, UInt32.toNat_inj.1 (flag.trans zero)⟩

theorem u256Cmp_lt_iff (lenA : a.length = 8) (lenB : b.length = 8) :
    u256Cmp a b < 0 ↔ limbsVal a < limbsVal b := by
  unfold u256Cmp
  rw [(u256SubBorrow_val lenA lenB).2, (u256SubBorrow_val lenB lenA).2]
  by_cases less : limbsVal a < limbsVal b
  · rw [if_pos less, if_neg (Nat.lt_asymm less)]
    exact iff_of_true (by decide) less
  · rw [if_neg less]
    refine iff_of_false ?_ less
    split <;> decide

theorem feCondSubMod_length (lenT : t.length = 8) (lenM : m.length = 8) (extra : UInt32) :
    (feCondSubMod t extra m).length = 8 := by
  have len := u256SubBorrow_length lenT lenM
  exact (selectLimbs_length (len.trans lenT.symm)).trans len

/-- One conditional subtraction reduces what lies below twice the modulus. -/
theorem feCondSubMod_val (lenT : t.length = 8) (lenM : m.length = 8) {extra : UInt32}
    (flag : extra.toNat ≤ 1)
    (below : limbsVal t + 2 ^ 256 * extra.toNat < 2 * limbsVal m) :
    limbsVal (feCondSubMod t extra m) = (limbsVal t + 2 ^ 256 * extra.toNat) % limbsVal m := by
  have ltT := limbsVal_lt_of_length lenT
  have ltM := limbsVal_lt_of_length lenM
  have len := u256SubBorrow_length lenT lenM
  have ltS := limbsVal_lt_of_length len
  obtain ⟨val, borrow⟩ := u256SubBorrow_val lenT lenM
  unfold feCondSubMod
  dsimp only
  rw [borrow]
  rcases eq_zero_or_one flag with rfl | rfl
  · by_cases less : limbsVal t < limbsVal m
    · have keep : ((0 : UInt32) &&& 1) ||| (1 ^^^ 1) = 0 := by decide
      rw [if_pos less, keep, selectLimbs_zero (len.trans lenT.symm)]
      exact (Nat.mod_eq_of_lt less).symm
    · have take : ((0 : UInt32) &&& 1) ||| (0 ^^^ 1) = 1 := by decide
      rw [if_neg less] at val
      rw [if_neg less, take, selectLimbs_one (len.trans lenT.symm)]
      rw [UInt32.toNat_zero] at below ⊢
      rw [Nat.mod_eq_sub_mod (by omega), Nat.mod_eq_of_lt (by omega)]
      omega
  · have take : ∀ br : UInt32, br = 0 ∨ br = 1 → ((1 : UInt32) &&& 1) ||| (br ^^^ 1) = 1 := by
      rintro br (rfl | rfl) <;> decide
    have one : (1 : UInt32).toNat = 1 := by decide
    rw [one] at below ⊢
    rw [if_pos (by omega)] at val
    rw [take _ (by split <;> simp), selectLimbs_one (len.trans lenT.symm),
      Nat.mod_eq_sub_mod (by omega), Nat.mod_eq_of_lt (by omega)]
    omega

end Words

section Field

/-- The modulus as a number. -/
@[irreducible] def p256Prime : Nat := 2 ^ 256 - 2 ^ 224 + 2 ^ 192 + 2 ^ 96 - 1

theorem p256Prime_pos : 0 < p256Prime := by
  unfold p256Prime
  norm_num

theorem p256Prime_lt : p256Prime < 2 ^ 256 := by
  unfold p256Prime
  norm_num

theorem limbsVal_p256P : limbsVal p256P = p256Prime := by
  unfold p256Prime
  simp [p256P]

/-- A reduced field element: eight limbs below the modulus. -/
structure Reduced (a : Fe) : Prop where
  length : a.length = 8
  lt : limbsVal a < p256Prime

variable {a b : Fe}

theorem Reduced.ext (ra : Reduced a) (rb : Reduced b) (val : limbsVal a = limbsVal b) : a = b :=
  limbsVal_inj (ra.length.trans rb.length.symm) val

theorem reduced_of_mod {r : Fe} {n : Nat} (len : r.length = 8)
    (val : limbsVal r = n % p256Prime) : Reduced r :=
  ⟨len, by rw [val]; exact Nat.mod_lt _ p256Prime_pos⟩

theorem feAdd_val (ra : Reduced a) (rb : Reduced b) :
    Reduced (feAdd a b) ∧ limbsVal (feAdd a b) = (limbsVal a + limbsVal b) % p256Prime := by
  have ltA := ra.lt
  have ltB := rb.lt
  obtain ⟨val, carry⟩ :=
    addCarryLoop_val (ra.length.trans rb.length.symm) (c := 0) (by decide)
  have len := (addCarryLoop_length (ra.length.trans rb.length.symm) 0).trans ra.length
  rw [ra.length, UInt64.toNat_zero] at val
  have flag : (addCarryLoop a b 0).2.toUInt32.toNat = (addCarryLoop a b 0).2.toNat := by
    rw [UInt64.toNat_toUInt32]
    omega
  have reduced := @feCondSubMod_val _ p256P len rfl (addCarryLoop a b 0).2.toUInt32
    (by omega) (by rw [flag, limbsVal_p256P]; omega)
  rw [flag, limbsVal_p256P, val] at reduced
  exact ⟨reduced_of_mod (feCondSubMod_length len rfl _) reduced, reduced⟩

/-- A subtraction that borrows adds the modulus back, whatever the operands are. -/
theorem feSub_raw (lenA : a.length = 8) (lenB : b.length = 8) :
    (feSub a b).length = 8 ∧
      limbsVal (feSub a b) =
        if limbsVal a < limbsVal b then (limbsVal a + 2 ^ 256 - limbsVal b + p256Prime) % 2 ^ 256
        else limbsVal a - limbsVal b := by
  have len := u256SubBorrow_length lenA lenB
  obtain ⟨val, borrow⟩ := u256SubBorrow_val lenA lenB
  obtain ⟨sum, carry⟩ := addCarryLoop_val (a := (u256SubBorrow a b).1) (b := p256P)
    (len.trans rfl) (c := 0) (by decide)
  have lenSum := addCarryLoop_length (a := (u256SubBorrow a b).1) (b := p256P) (len.trans rfl) 0
  have ltSum := limbsVal_lt_of_length (lenSum.trans len)
  rw [len, limbsVal_p256P, UInt64.toNat_zero] at sum
  unfold feSub
  dsimp only
  rw [borrow]
  by_cases less : limbsVal a < limbsVal b
  · rw [if_pos less] at val ⊢
    rw [if_pos less, selectLimbs_one lenSum]
    exact ⟨lenSum.trans len, by omega⟩
  · rw [if_neg less] at val ⊢
    rw [if_neg less, selectLimbs_zero lenSum]
    exact ⟨len, by omega⟩

theorem feSub_val (ra : Reduced a) (rb : Reduced b) :
    Reduced (feSub a b) ∧
      limbsVal (feSub a b) = (limbsVal a + p256Prime - limbsVal b) % p256Prime := by
  have ltA := ra.lt
  have ltB := rb.lt
  have small := p256Prime_lt
  obtain ⟨len, val⟩ := feSub_raw ra.length rb.length
  have reduced : limbsVal (feSub a b) = (limbsVal a + p256Prime - limbsVal b) % p256Prime := by
    rw [val]
    split
    · rw [Nat.mod_eq_of_lt (a := limbsVal a + p256Prime - limbsVal b) (by omega)]
      omega
    · rw [Nat.mod_eq_sub_mod (by omega), Nat.mod_eq_of_lt (by omega)]
      omega
  exact ⟨reduced_of_mod len reduced, reduced⟩

/-- What the Montgomery loop carries: eight limbs and an overflow limb. -/
def montVal (acc : Fe × UInt32) : Nat := limbsVal acc.1 + 2 ^ 256 * acc.2.toNat

/--
One turn divides by `2^32` exactly: the low limb of the sum cancels against the
same multiple of the modulus, whose own low limb is `2^32 - 1`.
-/
theorem montStep_val (lenA : a.length = 8) {acc : Fe × UInt32} (len : acc.1.length = 8)
    (below : montVal acc < 2 * p256Prime) (bi : UInt32) :
    (montStep a acc bi).1.length = 8 ∧
      ∃ m < 2 ^ 32, 2 ^ 32 * montVal (montStep a acc bi) =
        montVal acc + limbsVal a * bi.toNat + m * p256Prime := by
  obtain ⟨first, carry⟩ := mulAddLoop_val (len.trans lenA.symm) (x := bi.toUInt64) (c := 0)
    (by rw [UInt32.toNat_toUInt64]; exact bi.toNat_lt) (by decide)
  have lenFirst := mulAddLoop_length (len.trans lenA.symm) bi.toUInt64 0
  unfold montStep
  dsimp only
  obtain ⟨⟨t, c⟩, loop⟩ : ∃ r, r = mulAddLoop bi.toUInt64 acc.1 a 0 := ⟨_, rfl⟩
  rw [← loop] at first carry lenFirst ⊢
  rw [len] at first lenFirst
  rw [UInt32.toNat_toUInt64, UInt64.toNat_zero, Nat.add_zero] at first
  dsimp only at first carry lenFirst ⊢
  cases t with
  | nil => cases lenFirst
  | cons low high =>
  have limb := low.toNat_lt
  have accLimb := limbsVal_lt_of_length len
  have overflow : acc.2.toNat ≤ 1 := by
    unfold montVal at below
    have small := p256Prime_lt
    omega
  have lenHigh : high.length = 7 := Nat.succ.inj lenFirst
  rw [List.headD_cons, List.tail_cons]
  -- the low limb times `2^32`, of which the shift keeps the low limb
  have cancel : ((low.toUInt64 + low.toUInt64 * 0xffffffff) >>> 32).toNat = low.toNat := by
    have shift : (32 : UInt64).toNat % 64 = 32 := by decide
    have ones : (0xffffffff : UInt64).toNat = 0xffffffff := by decide
    rw [UInt64.toNat_shiftRight, shift, Nat.shiftRight_eq_div_pow, UInt64.toNat_add,
      UInt64.toNat_mul, UInt32.toNat_toUInt64, ones]
    omega
  obtain ⟨second, carry'⟩ := mulAddLoop_val (t := high) (a := p256P.tail) lenHigh
    (x := low.toUInt64) (c := (low.toUInt64 + low.toUInt64 * 0xffffffff) >>> 32)
    (by rw [UInt32.toNat_toUInt64]; exact limb) (by rw [cancel]; exact limb)
  have lenSecond := mulAddLoop_length (t := high) (a := p256P.tail) lenHigh low.toUInt64
    ((low.toUInt64 + low.toUInt64 * 0xffffffff) >>> 32)
  obtain ⟨⟨r, c'⟩, loop'⟩ : ∃ r, r = mulAddLoop low.toUInt64 high p256P.tail
    ((low.toUInt64 + low.toUInt64 * 0xffffffff) >>> 32) := ⟨_, rfl⟩
  rw [← loop'] at second carry' lenSecond ⊢
  rw [lenHigh, cancel, UInt32.toNat_toUInt64] at second
  rw [lenHigh] at lenSecond
  dsimp only at second carry' lenSecond ⊢
  have tail : 2 ^ 32 * limbsVal p256P.tail + (2 ^ 32 - 1) = p256Prime := by
    unfold p256Prime
    simp [p256P]
  refine ⟨by rw [List.length_append, lenSecond]; rfl, low.toNat, limb, ?_⟩
  have s8 : (acc.2.toUInt64 + c).toNat = acc.2.toNat + c.toNat := by
    rw [UInt64.toNat_add, UInt32.toNat_toUInt64]
    omega
  have split := splitCarry (acc.2.toUInt64 + c)
  rw [s8] at split
  have se : ((acc.2.toUInt64 + c).toUInt32.toUInt64 + c').toNat =
      (acc.2.toUInt64 + c).toUInt32.toNat + c'.toNat := by
    have word := (acc.2.toUInt64 + c).toUInt32.toNat_lt
    rw [UInt64.toNat_add, UInt32.toNat_toUInt64]
    omega
  have split' := splitCarry ((acc.2.toUInt64 + c).toUInt32.toUInt64 + c')
  rw [se] at split'
  have word := (acc.2.toUInt64 + c).toUInt32.toNat_lt
  have top : (((acc.2.toUInt64 + c) >>> 32).toUInt32 +
      (((acc.2.toUInt64 + c).toUInt32.toUInt64 + c') >>> 32).toUInt32).toNat =
      ((acc.2.toUInt64 + c) >>> 32).toNat +
        (((acc.2.toUInt64 + c).toUInt32.toUInt64 + c') >>> 32).toNat := by
    rw [UInt32.toNat_add, UInt64.toNat_toUInt32, UInt64.toNat_toUInt32]
    omega
  unfold montVal
  dsimp only
  rw [top, limbsVal_append, lenSecond, limbsVal_cons, limbsVal_nil]
  rw [limbsVal_cons] at first
  linear_combination 2 ^ 32 * second + first + 2 ^ 256 * split + 2 ^ 256 * split' +
    low.toNat * tail

theorem montStep_lt (ra : Reduced a) {acc : Fe × UInt32} (len : acc.1.length = 8)
    (below : montVal acc < 2 * p256Prime) (bi : UInt32) :
    montVal (montStep a acc bi) < 2 * p256Prime := by
  obtain ⟨-, m, small, val⟩ := montStep_val ra.length len below bi
  have limb := bi.toNat_lt
  have ltA := ra.lt
  have product : limbsVal a * bi.toNat ≤ p256Prime * (2 ^ 32 - 1) :=
    Nat.mul_le_mul (by omega) (by omega)
  have multiple : m * p256Prime ≤ (2 ^ 32 - 1) * p256Prime := Nat.mul_le_mul_right _ (by omega)
  omega

/-- All turns together divide by the radix of the second factor, up to multiples of the modulus. -/
theorem montLoop_val (ra : Reduced a) (b : Fe) {acc : Fe × UInt32} (len : acc.1.length = 8)
    (below : montVal acc < 2 * p256Prime) :
    (b.foldl (montStep a) acc).1.length = 8 ∧
      montVal (b.foldl (montStep a) acc) < 2 * p256Prime ∧
      ∃ m, 2 ^ (32 * b.length) * montVal (b.foldl (montStep a) acc) =
        montVal acc + limbsVal a * limbsVal b + m * p256Prime := by
  induction b generalizing acc with
  | nil => exact ⟨len, below, 0, by simp⟩
  | cons bi bs ih =>
    obtain ⟨len', m, -, val⟩ := montStep_val ra.length len below bi
    obtain ⟨lenEnd, belowEnd, ms, rest⟩ := ih len' (montStep_lt ra len below bi)
    refine ⟨lenEnd, belowEnd, m + 2 ^ 32 * ms, ?_⟩
    rw [List.foldl_cons, List.length_cons, Nat.mul_succ, Nat.pow_add, limbsVal_cons]
    linear_combination 2 ^ 32 * rest + val

/-- Montgomery multiplication divides the product by `2^256` modulo the prime. -/
theorem feMul_val (ra : Reduced a) (rb : Reduced b) :
    Reduced (feMul a b) ∧
      (limbsVal (feMul a b) * 2 ^ 256) % p256Prime = (limbsVal a * limbsVal b) % p256Prime := by
  have start : montVal (feZero, 0) = 0 := rfl
  have positive := p256Prime_pos
  obtain ⟨len, below, m, val⟩ := @montLoop_val a ra b (feZero, 0) rfl (by omega)
  rw [rb.length, start, Nat.zero_add] at val
  have overflow : (b.foldl (montStep a) (feZero, 0)).2.toNat ≤ 1 := by
    have small := p256Prime_lt
    unfold montVal at below
    omega
  have reduced := feCondSubMod_val len (m := p256P) rfl overflow (by rw [limbsVal_p256P]; exact below)
  rw [limbsVal_p256P] at reduced
  refine ⟨reduced_of_mod (feCondSubMod_length len rfl _) reduced, ?_⟩
  calc (limbsVal (feMul a b) * 2 ^ 256) % p256Prime
      = (montVal (b.foldl (montStep a) (feZero, 0)) % p256Prime * 2 ^ 256) % p256Prime :=
        congrArg (· * 2 ^ 256 % p256Prime) reduced
    _ = (2 ^ (32 * 8) * montVal (b.foldl (montStep a) (feZero, 0))) % p256Prime := by
        rw [Nat.mod_mul_mod, Nat.mul_comm]
    _ = (limbsVal a * limbsVal b) % p256Prime := by
        rw [val, Nat.add_mul_mod_self_right]

end Field

end Rf2a4m1
