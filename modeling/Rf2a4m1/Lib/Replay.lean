import Mathlib.Data.List.Pairwise

/-!
# Replay windows

A receiver numbers what it takes, in slots that do not know of each other. A
number is admitted to a slot when it lies above everything taken there before,
so the log of what was taken increases in every slot.
-/

set_option autoImplicit false

namespace Replay

variable {κ : Type} [DecidableEq κ]

/-- In every slot the numbers of a log, newest first, strictly increase with time. -/
def Increasing (log : List (κ × Nat)) : Prop := log.Pairwise fun new old => new.1 = old.1 → old.2 < new.2

/-- The highest number taken in each slot. -/
abbrev Window (κ : Type) := κ → Option Nat

namespace Window

def admits (w : Window κ) (slot : κ) (n : Nat) : Prop := ∀ m, w slot = some m → m < n

def take (w : Window κ) (slot : κ) (n : Nat) : Window κ := fun k => if k = slot then some n else w k

/-- Everything in the log is at most the highest number of its slot. -/
def Covers (w : Window κ) (log : List (κ × Nat)) : Prop := ∀ p ∈ log, ∃ m, w p.1 = some m ∧ p.2 ≤ m

variable {w : Window κ} {log : List (κ × Nat)} {slot : κ} {n : Nat}

omit [DecidableEq κ] in
theorem covers_nil (w : Window κ) : w.Covers [] := fun _ none => absurd none List.not_mem_nil

theorem Covers.take (covers : w.Covers log) (admitted : w.admits slot n) :
    (w.take slot n).Covers ((slot, n) :: log) := by
  intro p taken
  unfold Window.take
  rcases List.mem_cons.1 taken with rfl | old
  · exact ⟨n, if_pos rfl, Nat.le_refl n⟩
  obtain ⟨m, highest, le⟩ := covers p old
  by_cases same : p.1 = slot
  · rw [same] at highest
    exact ⟨n, if_pos same, Nat.le_trans le (Nat.le_of_lt (admitted m highest))⟩
  · exact ⟨m, (if_neg same).trans highest, le⟩

/-- What a window admits after it has taken a number it admitted before. -/
theorem admits_of_take (admitted : w.admits slot n) {slot' : κ} {n' : Nat}
    (later : (w.take slot n).admits slot' n') : w.admits slot' n' := by
  intro m highest
  by_cases same : slot' = slot
  · subst same
    exact Nat.lt_trans (admitted m highest) (later n (if_pos rfl))
  · exact later m ((if_neg same).trans highest)

omit [DecidableEq κ] in
/-- An admitted number extends an increasing log. -/
theorem Covers.increasing (covers : w.Covers log) (increasing : Increasing log)
    (admitted : w.admits slot n) : Increasing ((slot, n) :: log) := by
  refine List.pairwise_cons.2 ⟨fun p old same => ?_, increasing⟩
  obtain ⟨m, highest, le⟩ := covers p old
  have same : slot = p.1 := same
  rw [← same] at highest
  exact Nat.lt_of_le_of_lt le (admitted m highest)

end Window

end Replay
