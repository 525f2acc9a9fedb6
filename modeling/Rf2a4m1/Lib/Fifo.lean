import Mathlib.Data.List.Basic

/-!
# Two parties with a queue in each direction

A party answers a message with messages of its own. Each queue keeps its
order; which one is served next is free. When only one message can be
delivered at a time, every fair order leads to the same end.
-/

set_option autoImplicit false

namespace Fifo

variable {σ τ μ : Type}

/-- What each party makes of a message. -/
structure Parties (σ τ μ : Type) where
  left : σ → μ → σ × List μ
  right : τ → μ → τ × List μ

structure Link (σ τ μ : Type) where
  left : σ
  right : τ
  toRight : List μ
  toLeft : List μ

namespace Link

def Quiet (l : Link σ τ μ) : Prop := l.toRight = [] ∧ l.toLeft = []

/-- Serve one direction: `true` is towards the right. Nothing happens when nothing waits there. -/
def deliver (p : Parties σ τ μ) (l : Link σ τ μ) : Bool → Link σ τ μ
  | true =>
    match l.toRight with
    | [] => l
    | m :: rest =>
      { l with right := (p.right l.right m).1, toRight := rest
               toLeft := l.toLeft ++ (p.right l.right m).2 }
  | false =>
    match l.toLeft with
    | [] => l
    | m :: rest =>
      { l with left := (p.left l.left m).1, toLeft := rest
               toRight := l.toRight ++ (p.left l.left m).2 }

variable {p : Parties σ τ μ} {l t : Link σ τ μ}

theorem deliver_none (dir : Bool) (empty : (if dir then l.toRight else l.toLeft) = []) :
    l.deliver p dir = l := by
  unfold deliver
  cases dir with
  | true =>
    have none : l.toRight = [] := empty
    rw [none]
  | false =>
    have none : l.toLeft = [] := empty
    rw [none]

/-- `Settles p n l t`: the only way on leads from `l` over `n` deliveries to `t`, where nothing is
left to deliver. -/
inductive Settles (p : Parties σ τ μ) : Nat → Link σ τ μ → Link σ τ μ → Prop where
  | done {t : Link σ τ μ} (quiet : t.Quiet) : Settles p 0 t t
  | right {n : Nat} {l t : Link σ τ μ} (waits : l.toRight ≠ []) (other : l.toLeft = [])
      (rest : Settles p n (l.deliver p true) t) : Settles p (n + 1) l t
  | left {n : Nat} {l t : Link σ τ μ} (waits : l.toLeft ≠ []) (other : l.toRight = [])
      (rest : Settles p n (l.deliver p false) t) : Settles p (n + 1) l t

namespace Settles

variable {n : Nat}

/-- One direction goes on and the other does nothing. -/
theorem next (settles : Settles p (n + 1) l t) :
    ∃ dir, Settles p n (l.deliver p dir) t ∧ ∀ other, other ≠ dir → l.deliver p other = l := by
  cases settles with
  | right waits other rest =>
    refine ⟨true, rest, fun dir differs => ?_⟩
    rw [(Bool.not_eq_true dir).mp differs]
    exact deliver_none false other
  | left waits other rest =>
    refine ⟨false, rest, fun dir differs => ?_⟩
    rw [(Bool.not_eq_false dir).mp differs]
    exact deliver_none true other

theorem stays (settles : Settles p 0 l t) : l = t ∧ ∀ dir, l.deliver p dir = l := by
  cases settles with
  | done quiet =>
    refine ⟨rfl, fun dir => deliver_none dir ?_⟩
    cases dir with
    | true => exact quiet.1
    | false => exact quiet.2

/-- A link on which nothing is left to deliver has arrived. -/
theorem quiet_eq (settles : Settles p n l t) (quiet : l.Quiet) : l = t := by
  cases settles with
  | done => rfl
  | right waits => exact absurd quiet.1 waits
  | left waits => exact absurd quiet.2 waits

theorem quiet (settles : Settles p n l t) : t.Quiet := by
  induction settles with
  | done quiet => exact quiet
  | right _ _ _ ih => exact ih
  | left _ _ _ ih => exact ih

end Settles

end Link

end Fifo
