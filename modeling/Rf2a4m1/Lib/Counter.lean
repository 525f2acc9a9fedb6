import Mathlib.Data.List.Nodup

/-!
# Counter discipline of a keyed sender

A sender uses each of its keys with a counter that only rises. A new key starts
a new count. No pair of key and count is used twice as long as no key is taken
up again that was in use before.
-/

set_option autoImplicit false

namespace Counter

variable {κ : Type}

/-- The key in use, its count so far, and the pairs that were used. -/
structure Sender (κ : Type) where
  key : Option κ
  count : Nat
  used : List (κ × Nat)

namespace Sender

/-- Take the next count; it is used when something is really sent. -/
def advance (s : Sender κ) (k : κ) (sent : Bool) : Sender κ :=
  { s with count := s.count + 1
           used := if sent then (k, s.count + 1) :: s.used else s.used }

def rekey (s : Sender κ) (k : κ) : Sender κ := { s with key := some k, count := 0 }

/-- No pair twice, and the key in use is not ahead of its count. -/
structure Sound (s : Sender κ) : Prop where
  nodup : s.used.Nodup
  behind : ∀ k n, s.key = some k → (k, n) ∈ s.used → n ≤ s.count

variable {s : Sender κ} {k : κ}

theorem Sound.advance (h : s.Sound) (inUse : s.key = some k) (sent : Bool) :
    (s.advance k sent).Sound := by
  have ahead : (k, s.count + 1) ∉ s.used := by
    intro used
    have := h.behind k _ inUse used
    omega
  cases sent with
  | false =>
    refine ⟨h.nodup, fun k' n inUse' used => ?_⟩
    exact Nat.le_succ_of_le (h.behind k' n inUse' used)
  | true =>
    refine ⟨List.nodup_cons.2 ⟨ahead, h.nodup⟩, fun k' n inUse' used => ?_⟩
    rcases List.mem_cons.1 used with new | old
    · obtain ⟨rfl, rfl⟩ := Prod.mk.inj new
      exact Nat.le_refl _
    · exact Nat.le_succ_of_le (h.behind k' n inUse' old)

/-- A key without any use so far may be taken up. -/
theorem Sound.rekey (h : s.Sound) (fresh : ∀ n, (k, n) ∉ s.used) : (s.rekey k).Sound := by
  refine ⟨h.nodup, fun k' n inUse used => ?_⟩
  obtain rfl := Option.some.inj inUse
  exact absurd used (fresh n)

end Sender

/-- Of consecutive counts only the low digits are seen. They keep rising from the start as
long as no count reaches the modulus. -/
theorem truncated_pairwise {start m : Nat} (small : start < m) (n : Nat) :
    (start :: (List.range' (start + 1) n).map (· % m)).Pairwise (· < ·) ↔ start + n < m := by
  constructor
  · intro sorted
    apply Nat.lt_of_not_le
    intro reached
    have wraps : 0 ∈ (List.range' (start + 1) n).map (· % m) := by
      apply List.mem_map.2
      exact ⟨m, List.mem_range'_1.2 ⟨small, by omega⟩, Nat.mod_self m⟩
    exact absurd (List.rel_of_pairwise_cons sorted wraps) (Nat.not_lt_zero start)
  · intro below
    have whole : (List.range' (start + 1) n).map (· % m) = List.range' (start + 1) n := by
      refine (List.map_congr_left fun k mem => ?_).trans (List.map_id _)
      have inside := List.mem_range'_1.1 mem
      exact Nat.mod_eq_of_lt (by omega)
    rw [whole, ← List.range'_succ]
    exact List.pairwise_lt_range'

end Counter
