import Mathlib.Algebra.BigOperators.Associated
import Mathlib.NumberTheory.LucasPrimality

/-!
# Certified primes

Lucas' test makes a prime of a number whose predecessor is factored into primes
and has a generator. A certificate lists such lines, the newest first; every
factor is small enough for trial division or established by a later line.
-/

set_option autoImplicit false

namespace Primality

/-- `a ^ e % m` by squaring, for an exponent of at most `bits` bits. -/
def powMod (m a : Nat) : Nat → Nat → Nat
  | 0, _ => 1 % m
  | bits + 1, e =>
    if e = 0 then 1 % m
    else
      let r := powMod m a bits (e / 2)
      if e % 2 = 1 then r * r % m * a % m else r * r % m

theorem powMod_eq {m a bits e : Nat} (fits : e < 2 ^ bits) : powMod m a bits e = a ^ e % m := by
  induction bits generalizing e with
  | zero =>
    obtain rfl : e = 0 := by omega
    rfl
  | succ bits ih =>
    have half : e / 2 < 2 ^ bits := by omega
    have square : powMod m a bits (e / 2) * powMod m a bits (e / 2) % m = a ^ (2 * (e / 2)) % m := by
      rw [ih half, ← Nat.mul_mod, ← Nat.pow_add, Nat.two_mul]
    unfold powMod
    dsimp only
    rw [square]
    split
    · rename_i zero
      rw [zero, Nat.pow_zero]
    split
    · rename_i odd
      rw [Nat.mod_mul_mod, ← Nat.pow_succ]
      congr 2
      omega
    · congr 2
      omega

/-- No divisor among the `steps` numbers from `m` on whose square is at most `q`, and no such
number behind them. -/
def trialFrom (q : Nat) : Nat → Nat → Bool
  | 0, _ => false
  | steps + 1, m => q < m * m || q % m ≠ 0 && trialFrom q steps (m + 1)

theorem indivisible_of_trialFrom {q steps m : Nat} (passes : trialFrom q steps m = true) {d : Nat}
    (ge : m ≤ d) (root : d * d ≤ q) : q % d ≠ 0 := by
  induction steps generalizing m with
  | zero => cases passes
  | succ steps ih =>
    rw [trialFrom, Bool.or_eq_true, Bool.and_eq_true, decide_eq_true_eq, decide_eq_true_eq] at passes
    rcases passes with beyond | ⟨indivisible, rest⟩
    · have square := Nat.mul_self_le_mul_self ge
      omega
    · rcases Nat.lt_or_eq_of_le ge with later | rfl
      · exact ih rest later
      · exact indivisible

/-- Trial division from two on, at most `steps` times. -/
def trial (steps q : Nat) : Bool := 2 ≤ q && trialFrom q steps 2

theorem prime_of_trial {steps q : Nat} (passes : trial steps q = true) : q.Prime := by
  rw [trial, Bool.and_eq_true, decide_eq_true_eq] at passes
  refine Nat.prime_def_le_sqrt.2 ⟨passes.1, fun d large root divides => ?_⟩
  exact indivisible_of_trialFrom passes.2 large (Nat.le_sqrt.1 root)
    (Nat.mod_eq_zero_of_dvd divides)

/-- A number, a generator modulo it, and the prime factors of its predecessor with their
multiplicity. -/
structure Line where
  prime : Nat
  generator : Nat
  factors : List Nat

def Line.holds (bits steps : Nat) (known : List Nat) (l : Line) : Bool :=
  1 < l.prime && l.prime < 2 ^ bits && l.factors.prod = l.prime - 1 &&
    powMod l.prime l.generator bits (l.prime - 1) = 1 &&
    l.factors.all fun q =>
      (trial steps q || known.contains q) && powMod l.prime l.generator bits ((l.prime - 1) / q) ≠ 1

/-- Every line holds over the primes of the lines behind it. -/
def holds (bits steps : Nat) : List Line → Bool
  | [] => true
  | l :: rest => l.holds bits steps (rest.map Line.prime) && holds bits steps rest

theorem pow_eq_one_iff {p a e : Nat} (one : 1 < p) : (a : ZMod p) ^ e = 1 ↔ a ^ e % p = 1 := by
  rw [← Nat.cast_pow, ← Nat.cast_one, ZMod.natCast_eq_natCast_iff', Nat.mod_eq_of_lt one]

theorem Line.prime_of_holds {bits steps : Nat} {known : List Nat} {l : Line}
    (primes : ∀ q ∈ known, q.Prime) (holds : l.holds bits steps known = true) : l.prime.Prime := by
  simp only [Line.holds, Bool.and_eq_true, decide_eq_true_eq, List.all_eq_true,
    Bool.or_eq_true, List.contains_iff_mem] at holds
  obtain ⟨⟨⟨⟨one, fits⟩, product⟩, generates⟩, factors⟩ := holds
  have below : ∀ e, e ≤ l.prime - 1 → e < 2 ^ bits := fun e le => by omega
  rw [powMod_eq (below _ (Nat.le_refl _))] at generates
  refine lucas_primality l.prime l.generator ((pow_eq_one_iff one).2 generates) ?_
  intro q prime divides trivial
  rw [← product] at divides
  obtain ⟨f, member, dividesF⟩ := (Prime.dvd_prod_iff prime.prime).1 divides
  obtain ⟨certified, nontrivial⟩ := factors f member
  have primeF : f.Prime := certified.elim prime_of_trial (primes f)
  obtain rfl := (Nat.prime_dvd_prime_iff_eq prime primeF).1 dividesF
  rw [powMod_eq (below _ (Nat.div_le_self _ _))] at nontrivial
  exact nontrivial ((pow_eq_one_iff one).1 trivial)

/-- Every number of a certificate that holds is prime. -/
theorem prime_of_holds {bits steps : Nat} {ls : List Line} (h : holds bits steps ls = true) :
    ∀ p ∈ ls.map Line.prime, p.Prime := by
  induction ls with
  | nil => exact fun p none => absurd none List.not_mem_nil
  | cons l rest ih =>
    obtain ⟨first, others⟩ := Bool.and_eq_true_iff.1 h
    intro p member
    rw [List.map_cons] at member
    rcases List.mem_cons.1 member with rfl | later
    · exact Line.prime_of_holds (ih others) first
    · exact ih others p later

end Primality
