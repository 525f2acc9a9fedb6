import Mathlib.Logic.Relation

/-!
# Runs of a deterministic system

A system is a step function on states and inputs. A run takes steps whose
pre-state and input meet a condition; the trivial condition gives all runs.
-/

set_option autoImplicit false

namespace Runs

variable {σ ι : Type}

/-- `Run step ok s t`: from `s` steps that meet `ok` lead to `t`. -/
inductive Run (step : σ → ι → σ) (ok : σ → ι → Prop) : σ → σ → Prop where
  | refl (s : σ) : Run step ok s s
  | tail {s t : σ} (i : ι) : Run step ok s t → ok t i → Run step ok s (step t i)

/-- Runs without a condition on their steps. -/
abbrev Reach (step : σ → ι → σ) : σ → σ → Prop := Run step fun _ _ => True

/-- Whether every input of a list passes a check at the state it is taken in. -/
def allAlong (step : σ → ι → σ) (check : σ → ι → Bool) : σ → List ι → Bool
  | _, [] => true
  | s, i :: rest => check s i && allAlong step check (step s i) rest

section Observed

variable {α : Type}

/-- What is seen along the inputs of a run, oldest first. -/
def observed (step : σ → ι → σ) (see : σ → ι → Option α) : σ → List ι → List α
  | _, [] => []
  | s, i :: rest => (see s i).toList ++ observed step see (step s i) rest

end Observed

namespace Run

variable {step : σ → ι → σ} {ok : σ → ι → Prop} {s t u : σ}

theorem single (i : ι) (h : ok s i) : Run step ok s (step s i) := tail i (refl s) h

theorem trans (first : Run step ok s t) (second : Run step ok t u) : Run step ok s u := by
  induction second with
  | refl => exact first
  | tail i _ hok ih => exact tail i ih hok

/-- A list of inputs that pass a check is a run under every condition the check implies. -/
theorem of_allAlong {check : σ → ι → Bool} {is : List ι}
    (sound : ∀ s i, check s i = true → ok s i) (h : allAlong step check s is = true) :
    Run step ok s (is.foldl step s) := by
  induction is generalizing s with
  | nil => exact refl s
  | cons i rest ih =>
    obtain ⟨first, others⟩ := Bool.and_eq_true_iff.1 h
    exact trans (single i (sound s i first)) (ih others)

theorem reach (is : List ι) : Reach step s (is.foldl step s) := by
  induction is generalizing s with
  | nil => exact refl s
  | cons i rest ih => exact trans (single i trivial) ih

/-- What every admitted step preserves holds at the end of every run. -/
theorem invariant (inv : σ → Prop) (start : inv s)
    (preserved : ∀ t i, inv t → ok t i → inv (step t i)) (run : Run step ok s t) : inv t := by
  induction run with
  | refl => exact start
  | tail i _ hok ih => exact preserved _ i ih hok

/-- When every admitted step is matched by steps of another system, so is every run. -/
theorem simulates {τ : Type} {next : τ → τ → Prop} {a : τ} (related : σ → τ → Prop)
    (start : related s a)
    (matched : ∀ t i b, Relation.ReflTransGen next a b → related t b → ok t i →
      ∃ b', Relation.ReflTransGen next b b' ∧ related (step t i) b')
    (run : Run step ok s t) : ∃ b, Relation.ReflTransGen next a b ∧ related t b := by
  induction run with
  | refl => exact ⟨a, .refl, start⟩
  | tail i _ hok ih =>
    obtain ⟨b, reach, rel⟩ := ih
    obtain ⟨b', steps, rel'⟩ := matched _ i b reach rel hok
    exact ⟨b', reach.trans steps, rel'⟩

end Run

section Spared

variable {step : σ → ι → σ} {spare : σ → ι → Bool} {ok : σ × σ → ι → Prop}

/-- A system beside itself; the second one is spared some of the inputs. -/
def spared (step : σ → ι → σ) (spare : σ → ι → Bool) (p : σ × σ) (i : ι) : σ × σ :=
  (step p.1 i, if spare p.1 i then p.2 else step p.2 i)

/-- Inputs that do nothing are not missed. -/
theorem Run.spared_eq (idle : ∀ p i, ok p i → spare p.1 i = true → step p.1 i = p.1) {s : σ}
    {p : σ × σ} (run : Run (spared step spare) ok (s, s) p) : p.2 = p.1 := by
  refine run.invariant (fun p => p.2 = p.1) rfl fun p i same admitted => ?_
  unfold spared
  by_cases dropped : spare p.1 i = true
  · rw [if_pos dropped, idle p i admitted dropped]
    exact same
  · rw [if_neg dropped, same]

end Spared

end Runs
