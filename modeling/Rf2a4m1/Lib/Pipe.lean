import Mathlib.Data.List.Basic

/-!
# A pipe that keeps its order

What is sent waits, and the first in line is delivered or lost. A sender that
numbers its messages upwards and a receiver that takes what lies above the last
number it took are such a pipe.
-/

set_option autoImplicit false

namespace Pipes

variable {α μ : Type}

/-- What waits, and what was received, oldest first. -/
structure Pipe (α : Type) where
  waiting : List α
  got : List α

inductive Op (α : Type) where
  | send (a : α)
  | deliver
  | lose

namespace Pipe

def empty : Pipe α := { waiting := [], got := [] }

def step (p : Pipe α) : Op α → Pipe α
  | .send a => { p with waiting := p.waiting ++ [a] }
  | .deliver => { waiting := p.waiting.tail, got := p.got ++ p.waiting.head?.toList }
  | .lose => { p with waiting := p.waiting.tail }

/-- All that is left of what was sent. -/
def all (p : Pipe α) : List α := p.got ++ p.waiting

end Pipe

/-- What an operation sends. -/
def Op.sent : Op α → List α
  | .send a => [a]
  | .deliver => []
  | .lose => []

namespace Pipe

variable (p : Pipe α)

end Pipe

section Numbered

variable {reads : μ → Nat → α → Prop} {floor top n : Nat} {ms : List μ} {as : List α}

/-- Messages that carry some contents, in their order, under numbers that rise from above `floor`
up to `top`. -/
inductive Carried (reads : μ → Nat → α → Prop) (top : Nat) : Nat → List μ → List α → Prop where
  | nil {floor : Nat} (le : floor ≤ top) : Carried reads top floor [] []
  | cons {floor n : Nat} {m : μ} {a : α} {ms : List μ} {as : List α} (above : floor < n)
      (is : reads m n a) (rest : Carried reads top n ms as) :
      Carried reads top floor (m :: ms) (a :: as)

namespace Carried

theorem le (carried : Carried reads top floor ms as) : floor ≤ top := by
  induction carried with
  | nil le => exact le
  | cons above _ _ ih => exact Nat.le_trans (Nat.le_of_lt above) ih

theorem length (carried : Carried reads top floor ms as) : ms.length = as.length := by
  induction carried with
  | nil => rfl
  | cons _ _ _ ih => exact congrArg Nat.succ ih

/-- One more message under a number of its own. -/
theorem send {m : μ} {a : α} (carried : Carried reads top floor ms as) (above : top < n)
    (is : reads m n a) : Carried reads n floor (ms ++ [m]) (as ++ [a]) := by
  induction carried with
  | nil le => exact .cons (Nat.lt_of_le_of_lt le above) is (.nil (Nat.le_refl n))
  | cons above' is' _ ih => exact .cons above' is' ih

/-- Below a lower floor. -/
theorem lower {floor' : Nat} (carried : Carried reads top floor ms as) (le : floor' ≤ floor) :
    Carried reads top floor' ms as := by
  cases carried with
  | nil le' => exact .nil (Nat.le_trans le le')
  | cons above is rest => exact .cons (Nat.lt_of_le_of_lt le above) is rest

theorem eq_nil (carried : Carried reads top floor [] as) : as = [] := by
  cases carried with
  | nil => rfl

/-- The first message, its number and contents, and the others above it. -/
theorem head {m : μ} (carried : Carried reads top floor (m :: ms) as) :
    ∃ n a rest, as = a :: rest ∧ floor < n ∧ n ≤ top ∧ reads m n a ∧
      Carried reads top n ms rest := by
  cases carried with
  | cons above is rest => exact ⟨_, _, _, rfl, above, rest.le, is, rest⟩

theorem lose (carried : Carried reads top floor ms as) :
    Carried reads top floor ms.tail as.tail := by
  cases carried with
  | nil le => exact .nil le
  | cons above _ rest => exact rest.lower (Nat.le_of_lt above)

end Carried

end Numbered

end Pipes
