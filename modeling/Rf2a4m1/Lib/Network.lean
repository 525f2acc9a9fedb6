import Mathlib.Logic.Function.Basic
import Mathlib.Data.List.Basic

/-!
# Parties over a network

A configuration holds the state of each party and everything that was ever
sent. Losing, repeating and reordering messages is choosing freely which of
them is delivered next, so nothing is taken out of the air.
-/

set_option autoImplicit false

namespace Network

variable {ι σ μ : Type}

/-- The parties and the messages sent so far, oldest first, each with its sender. -/
structure Config (ι σ μ : Type) where
  ends : ι → σ
  air : List (ι × μ)

namespace Config

variable [DecidableEq ι]

/-- Party `i` moves to state `s` and sends `out`. -/
def act (c : Config ι σ μ) (i : ι) (s : σ) (out : List μ) : Config ι σ μ where
  ends := Function.update c.ends i s
  air := c.air ++ out.map (Prod.mk i)

variable {c : Config ι σ μ} {i : ι} {s : σ} {out : List μ}

@[simp] theorem act_self : (c.act i s out).ends i = s := by
  simp [act]

theorem act_other {j : ι} (h : j ≠ i) : (c.act i s out).ends j = c.ends j := by
  simp [act, h]

/-- What holds of every party still does when it holds of the one that moved. -/
theorem act_all {P : ι → σ → Prop} (others : ∀ j, P j (c.ends j)) (moved : P i s) (j : ι) :
    P j ((c.act i s out).ends j) := by
  by_cases same : j = i
  · subst same
    rw [act_self]
    exact moved
  · rw [act_other same]
    exact others j

theorem mem_act {j : ι} {m : μ} :
    (j, m) ∈ (c.act i s out).air ↔ (j, m) ∈ c.air ∨ j = i ∧ m ∈ out := by
  simp only [act, List.mem_append, List.mem_map, Prod.mk.injEq]
  constructor
  · rintro (old | ⟨x, new, rfl, rfl⟩)
    · exact Or.inl old
    · exact Or.inr ⟨rfl, new⟩
  · rintro (old | ⟨rfl, new⟩)
    · exact Or.inl old
    · exact Or.inr ⟨m, new, rfl, rfl⟩

/-- Messages keep their place. -/
theorem get_act {k : Nat} {p : ι × μ} (h : c.air[k]? = some p) :
    (c.act i s out).air[k]? = some p := by
  have bound : k < c.air.length := by
    by_contra out
    rw [List.getElem?_eq_none (Nat.le_of_not_lt out)] at h
    cases h
  exact (List.getElem?_append_left bound).trans h

end Config

end Network
