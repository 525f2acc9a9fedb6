import Rf2a4m1.Crypto.Field

/-!
# Field arithmetic in memory

The functions on field elements get three pointers, of which any two may be
equal. They compute on arrays of their own and write the result at the end, limb
by limb. The accumulators on the way never lose a carry.
-/

set_option autoImplicit false

namespace Rf2a4m1

/-- Field elements by their address; two pointers are one array or do not overlap. -/
abbrev FeMem := Nat → Fe

def writeLimb (m : FeMem) (r i : Nat) (x : UInt32) : FeMem :=
  Function.update m r ((m r).set i x)

/-- The loop at the end of a reduction: under the mask limbs of `s`, else of `t`. -/
def selectInto (m : FeMem) (r : Nat) (mask : UInt32) (s t : Fe) : FeMem :=
  (List.range 8).foldl
    (fun m i => writeLimb m r i ((s.getD i 0 &&& mask) ||| (t.getD i 0 &&& ~~~mask))) m

def feCondSubModInto (m : FeMem) (r : Nat) (t : Fe) (extraCarry : UInt32) (modulus : Fe) : FeMem :=
  let (s, br) := u256SubBorrow t modulus
  let doSub := (extraCarry &&& 1) ||| (br ^^^ 1)
  selectInto m r (0 - (doSub &&& 1)) s t

def feAddInto (m : FeMem) (r a b : Nat) : FeMem :=
  let (t, c) := addCarryLoop (m a) (m b) 0
  feCondSubModInto m r t c.toUInt32 p256P

def feSubInto (m : FeMem) (r a b : Nat) : FeMem :=
  let (t, borrow) := u256SubBorrow (m a) (m b)
  selectInto m r (0 - borrow) (addCarryLoop t p256P 0).1 t

/-- What `feMul` holds before its only subtraction: eight limbs and an overflow limb. -/
def feMulLoop (a b : Fe) : Fe × UInt32 := b.foldl (montStep a) (feZero, 0)

def feMulInto (m : FeMem) (r a b : Nat) : FeMem :=
  let (t, t8) := feMulLoop (m a) (m b)
  feCondSubModInto m r t t8 p256P

section Writes

variable {m : FeMem} {r a b : Nat} {s t : Fe}

/-- The turns so far have replaced that many limbs, and nothing else in memory. -/
theorem selectInto_steps (mask : UInt32) (lenR : (m r).length = 8) (lenS : s.length = 8)
    (lenT : t.length = 8) {n : Nat} (within : n ≤ 8) :
    (List.range n).foldl
        (fun m i => writeLimb m r i ((s.getD i 0 &&& mask) ||| (t.getD i 0 &&& ~~~mask))) m =
      Function.update m r
        ((s.zipWith (fun x y => (x &&& mask) ||| (y &&& ~~~mask)) t).take n ++ (m r).drop n) := by
  induction n with
  | zero => simp
  | succ n ih =>
    have hs : n < s.length := by omega
    have ht : n < t.length := by omega
    have hr : n < (m r).length := by omega
    have limbS : s.getD n 0 = s[n] := by simp [hs]
    have limbT : t.getD n 0 = t[n] := by simp [ht]
    have len : ((s.zipWith (fun x y => (x &&& mask) ||| (y &&& ~~~mask)) t).take n).length = n := by
      simp
      omega
    rw [List.range_succ, List.foldl_append, ih (by omega), List.foldl_cons, List.foldl_nil,
      writeLimb, Function.update_self, Function.update_idem,
      List.set_append_right _ _ (Nat.le_of_eq len), len, Nat.sub_self,
      List.drop_eq_getElem_cons hr, List.set_cons_zero]
    congr 1
    rw [List.take_succ_eq_append_getElem (by simp; omega), List.append_assoc, List.singleton_append,
      List.getElem_zipWith, limbS, limbT]

theorem selectInto_eq (flag : UInt32) (lenR : (m r).length = 8) (lenS : s.length = 8)
    (lenT : t.length = 8) :
    selectInto m r (0 - (flag &&& 1)) s t = Function.update m r (selectLimbs flag s t) := by
  unfold selectInto
  rw [selectInto_steps _ lenR lenS lenT (Nat.le_refl 8), List.drop_eq_nil_of_le (by omega),
    List.append_nil, List.take_of_length_le (by simp; omega)]
  rfl

theorem feCondSubModInto_eq (lenR : (m r).length = 8) (lenT : t.length = 8) {modulus : Fe}
    (lenM : modulus.length = 8) (extra : UInt32) :
    feCondSubModInto m r t extra modulus = Function.update m r (feCondSubMod t extra modulus) :=
  selectInto_eq _ lenR (u256SubBorrow_length lenT lenM) lenT

theorem feAddInto_eq (lenR : (m r).length = 8) (ra : Reduced (m a)) (rb : Reduced (m b)) :
    feAddInto m r a b = Function.update m r (feAdd (m a) (m b)) := by
  have len := (addCarryLoop_length (ra.length.trans rb.length.symm) 0).trans ra.length
  exact feCondSubModInto_eq lenR len rfl _

theorem feSubInto_eq (lenR : (m r).length = 8) (ra : Reduced (m a)) (rb : Reduced (m b)) :
    feSubInto m r a b = Function.update m r (feSub (m a) (m b)) := by
  have len := u256SubBorrow_length ra.length rb.length
  have sum := (addCarryLoop_length (a := (u256SubBorrow (m a) (m b)).1) (b := p256P)
    (len.trans rfl) 0).trans len
  have bit : (u256SubBorrow (m a) (m b)).2 &&& 1 = (u256SubBorrow (m a) (m b)).2 := by
    rw [(u256SubBorrow_val ra.length rb.length).2]
    split <;> decide
  have written := selectInto_eq (u256SubBorrow (m a) (m b)).2 lenR sum len
  rw [bit] at written
  exact written

/-- The loop stays below twice the modulus, so that one subtraction is enough. -/
theorem feMulLoop_lt {x y : Fe} (rx : Reduced x) :
    (feMulLoop x y).1.length = 8 ∧ montVal (feMulLoop x y) < 2 * p256Prime := by
  have start : montVal (feZero, 0) < 2 * p256Prime :=
    Nat.lt_of_lt_of_eq (Nat.mul_pos Nat.two_pos p256Prime_pos) rfl
  obtain ⟨len, below, -⟩ := @montLoop_val x rx y (feZero, 0) rfl start
  exact ⟨len, below⟩

theorem feMulInto_eq (lenR : (m r).length = 8) (ra : Reduced (m a)) :
    feMulInto m r a b = Function.update m r (feMul (m a) (m b)) :=
  feCondSubModInto_eq lenR (feMulLoop_lt ra).1 rfl _

end Writes

section Accumulators

/-- A sum in a 64-bit accumulator: the number, and the word that holds it. -/
structure Accumulator where
  sum : Nat
  word : UInt64

/-- No carry out of the accumulator was lost. -/
def Accumulator.Exact (s : Accumulator) : Prop := s.word.toNat = s.sum

/-- The sums of `mulAddLoop`, turn by turn. -/
def mulAddSums (x : UInt64) : Fe → Fe → UInt64 → List Accumulator
  | t :: ts, a :: as, c =>
    let s := t.toUInt64 + a.toUInt64 * x + c
    { sum := t.toNat + a.toNat * x.toNat + c.toNat, word := s } :: mulAddSums x ts as (s >>> 32)
  | _, _, _ => []

/-- The sums of one turn of the Montgomery loop, in the order they are made. -/
def montSums (a : Fe) (acc : Fe × UInt32) (bi : UInt32) : List Accumulator :=
  let (t, c) := mulAddLoop bi.toUInt64 acc.1 a 0
  let s8 := acc.2.toUInt64 + c
  let m := (t.headD 0).toUInt64
  let s0 := (t.headD 0).toUInt64 + m * 0xffffffff
  let (_, c') := mulAddLoop m t.tail p256P.tail (s0 >>> 32)
  mulAddSums bi.toUInt64 acc.1 a 0 ++
    [{ sum := acc.2.toNat + c.toNat, word := s8 },
     { sum := (t.headD 0).toNat + (t.headD 0).toNat * 0xffffffff, word := s0 }] ++
    mulAddSums m t.tail p256P.tail (s0 >>> 32) ++
    [{ sum := s8.toUInt32.toNat + c'.toNat, word := s8.toUInt32.toUInt64 + c' }]

def montLoopSums (a : Fe) : Fe → Fe × UInt32 → List Accumulator
  | [], _ => []
  | bi :: bs, acc => montSums a acc bi ++ montLoopSums a bs (montStep a acc bi)

def feMulSums (a b : Fe) : List Accumulator := montLoopSums a b (feZero, 0)

theorem mulAddSums_exact {t a : Fe} {x c : UInt64} (fits : x.toNat < 2 ^ 32)
    (carry : c.toNat < 2 ^ 32) : ∀ s ∈ mulAddSums x t a c, s.Exact := by
  induction t generalizing a c with
  | nil => simp [mulAddSums]
  | cons y ys ih =>
    cases a with
    | nil => simp [mulAddSums]
    | cons z zs =>
      have exact := mulAdd_toNat fits carry y z
      have split := splitCarry (y.toUInt64 + z.toUInt64 * x + c)
      have wide := (y.toUInt64 + z.toUInt64 * x + c).toNat_lt
      intro s member
      rcases List.mem_cons.1 member with rfl | later
      · exact exact
      · exact ih (by omega) s later

/-- A word and a carry. -/
theorem wordCarry_toNat {x : UInt32} {c : UInt64} (carry : c.toNat < 2 ^ 32) :
    (x.toUInt64 + c).toNat = x.toNat + c.toNat := by
  have limb := x.toNat_lt
  rw [UInt64.toNat_add, UInt32.toNat_toUInt64]
  omega

theorem lowCancel_toNat (x : UInt32) :
    (x.toUInt64 + x.toUInt64 * 0xffffffff).toNat = x.toNat + x.toNat * 0xffffffff := by
  have limb := x.toNat_lt
  have ones : (0xffffffff : UInt64).toNat = 0xffffffff := by decide
  rw [UInt64.toNat_add, UInt64.toNat_mul, UInt32.toNat_toUInt64, ones]
  omega

theorem montSums_exact {a : Fe} {acc : Fe × UInt32} (lenA : a.length = 8)
    (len : acc.1.length = 8) (bi : UInt32) : ∀ s ∈ montSums a acc bi, s.Exact := by
  have word : bi.toUInt64.toNat < 2 ^ 32 := by
    rw [UInt32.toNat_toUInt64]
    exact bi.toNat_lt
  obtain ⟨-, carry⟩ := mulAddLoop_val (len.trans lenA.symm) word (c := 0) (by decide)
  have first := @mulAddSums_exact acc.1 a bi.toUInt64 0 word (by decide)
  have lenFirst := (mulAddLoop_length (len.trans lenA.symm) bi.toUInt64 0).trans len
  unfold montSums
  obtain ⟨⟨t, c⟩, loop⟩ : ∃ r, r = mulAddLoop bi.toUInt64 acc.1 a 0 := ⟨_, rfl⟩
  rw [← loop] at carry lenFirst ⊢
  dsimp only at carry lenFirst ⊢
  have lenTail : t.tail.length = p256P.tail.length := by
    rw [List.length_tail, lenFirst]
    rfl
  have low : (t.headD 0).toUInt64.toNat < 2 ^ 32 := by
    rw [UInt32.toNat_toUInt64]
    exact (t.headD 0).toNat_lt
  have cancel := lowCancel_toNat (t.headD 0)
  have split := splitCarry ((t.headD 0).toUInt64 + (t.headD 0).toUInt64 * 0xffffffff)
  have wide := ((t.headD 0).toUInt64 + (t.headD 0).toUInt64 * 0xffffffff).toNat_lt
  have shifted : (((t.headD 0).toUInt64 + (t.headD 0).toUInt64 * 0xffffffff) >>> 32).toNat <
      2 ^ 32 := by
    omega
  obtain ⟨-, carry'⟩ := mulAddLoop_val lenTail low shifted
  have second := @mulAddSums_exact t.tail p256P.tail _ _ low shifted
  intro s member
  simp only [List.mem_append, List.mem_cons, List.not_mem_nil, or_false] at member
  rcases member with ((inFirst | rfl | rfl) | inSecond) | rfl
  · exact first s inFirst
  · exact wordCarry_toNat carry
  · exact cancel
  · exact second s inSecond
  · exact wordCarry_toNat carry'

theorem montLoopSums_exact {a : Fe} (ra : Reduced a) (b : Fe) {acc : Fe × UInt32}
    (len : acc.1.length = 8) (below : montVal acc < 2 * p256Prime) :
    ∀ s ∈ montLoopSums a b acc, s.Exact := by
  induction b generalizing acc with
  | nil => simp [montLoopSums]
  | cons bi bs ih =>
    obtain ⟨len', -⟩ := montStep_val ra.length len below bi
    intro s member
    rcases List.mem_append.1 member with now | later
    · exact montSums_exact ra.length len bi s now
    · exact ih len' (montStep_lt ra len below bi) s later

theorem feMulSums_exact {a : Fe} (ra : Reduced a) (b : Fe) : ∀ s ∈ feMulSums a b, s.Exact :=
  montLoopSums_exact ra b rfl
    (Nat.lt_of_lt_of_eq (Nat.mul_pos Nat.two_pos p256Prime_pos) rfl)

end Accumulators

/-- The quotient by the radix is the field's. -/
theorem feMul_div {a b : Fe} (ra : Reduced a) (rb : Reduced b) :
    (limbsVal (feMul a b) : Fp) = limbsVal a * limbsVal b * (2 ^ 256)⁻¹ := by
  apply mul_right_cancel₀ radix_ne_zero
  rw [feMul_cast ra rb, mul_assoc, inv_mul_cancel₀ radix_ne_zero, mul_one]

/-- The difference modulo the prime, as an integer. -/
theorem feSub_emod {a b : Fe} (ra : Reduced a) (rb : Reduced b) :
    (limbsVal (feSub a b) : Int) = ((limbsVal a : Int) - limbsVal b) % p256Prime := by
  have le : limbsVal b ≤ limbsVal a + p256Prime := Nat.le_add_left_of_le rb.lt.le
  rw [(feSub_val ra rb).2, Int.natCast_mod, Nat.cast_sub le, Nat.cast_add, add_sub_right_comm,
    Int.add_emod_right]

/--
Multiplication, addition and subtraction of reduced elements, wherever the three
pointers lead. The result is all that changes in memory.
-/
theorem field_arithmetic (m : FeMem) (r a b : Nat) (array : (m r).length = 8)
    (ra : Reduced (m a)) (rb : Reduced (m b)) :
    (∃ v, feMulInto m r a b = Function.update m r v ∧ Reduced v ∧
        (limbsVal v : Fp) = limbsVal (m a) * limbsVal (m b) * (2 ^ 256)⁻¹) ∧
      (∀ s ∈ feMulSums (m a) (m b), s.Exact) ∧
      montVal (feMulLoop (m a) (m b)) < 2 * p256Prime ∧
      (∃ v, feAddInto m r a b = Function.update m r v ∧ Reduced v ∧
        limbsVal v = (limbsVal (m a) + limbsVal (m b)) % p256Prime) ∧
      ∃ v, feSubInto m r a b = Function.update m r v ∧ Reduced v ∧
        (limbsVal v : Int) = ((limbsVal (m a) : Int) - limbsVal (m b)) % p256Prime := by
  refine ⟨⟨_, feMulInto_eq array ra, (feMul_val ra rb).1, feMul_div ra rb⟩,
    feMulSums_exact ra _, (feMulLoop_lt ra).2, ?_, ?_⟩
  · exact ⟨_, feAddInto_eq array ra rb, feAdd_val ra rb⟩
  · exact ⟨_, feSubInto_eq array ra rb, (feSub_val ra rb).1, feSub_emod ra rb⟩

/-- The square of the constant for one, in place. -/
theorem field_arithmetic_in_place :
    ∃ v, feMulInto (fun _ => montOne) 0 0 0 = Function.update (fun _ => montOne) 0 v ∧ Reduced v ∧
      (limbsVal v : Fp) = limbsVal montOne * limbsVal montOne * (2 ^ 256)⁻¹ :=
  (field_arithmetic (fun _ => montOne) 0 0 0 rfl isMont_one.toReduced isMont_one.toReduced).1

end Rf2a4m1
