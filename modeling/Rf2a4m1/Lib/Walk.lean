import Mathlib.Data.List.Basic

/-!
# Walks over items

A cursor takes one item after the other until there is none. What it takes is a
list, whatever the cursor is made of. A loop over the items may return at one
of them, and a loop whose reads are checked fails at a read outside.
-/

set_option autoImplicit false

universe u v w

/-- How the next item is taken, and what gets smaller by it. -/
structure Walk (σ : Type u) (α : Type v) where
  next : σ → Option (α × σ)
  size : σ → Nat
  shrinks : ∀ {s t : σ} {a : α}, next s = some (a, t) → size t < size s

namespace Walk

variable {σ τ : Type u} {α : Type v} {β : Type w}

section Items

variable (walk : Walk σ α)

def takeItems : Nat → σ → List α
  | 0, _ => []
  | fuel + 1, s =>
    match walk.next s with
    | none => []
    | some (a, t) => a :: takeItems fuel t

/-- All that is taken from here on. -/
def items (s : σ) : List α := walk.takeItems (walk.size s) s

/-- Taking these items leads from one state to the other. -/
inductive Reads : σ → List α → σ → Prop where
  | nil (s : σ) : Reads s [] s
  | cons {s t r : σ} {a : α} {as : List α} :
      walk.next s = some (a, t) → Reads t as r → Reads s (a :: as) r

/-- Induction along the walk. -/
theorem induct {P : σ → Prop} (stopped : ∀ s, walk.next s = none → P s)
    (taken : ∀ s a t, walk.next s = some (a, t) → P t → P s) (s : σ) : P s := by
  induction size : walk.size s using Nat.strongRecOn generalizing s with
  | _ n ih =>
    cases next : walk.next s with
    | none => exact stopped s next
    | some p =>
      have smaller := walk.shrinks next
      exact taken s p.1 p.2 next (ih (walk.size p.2) (by omega) p.2 rfl)

variable {walk} {s t r : σ} {a : α} {as : List α}

theorem takeItems_stopped (stopped : walk.next s = none) (fuel : Nat) :
    walk.takeItems fuel s = [] := by
  cases fuel with
  | zero => rfl
  | succ fuel =>
    unfold takeItems
    rw [stopped]

theorem takeItems_enough {m n : Nat} (left : walk.size s ≤ m) (right : walk.size s ≤ n) :
    walk.takeItems m s = walk.takeItems n s := by
  induction s using walk.induct generalizing m n with
  | stopped s stopped => rw [takeItems_stopped stopped, takeItems_stopped stopped]
  | taken s a t next ih =>
    have smaller := walk.shrinks next
    obtain ⟨m, rfl⟩ : ∃ k, m = k + 1 := ⟨m - 1, by omega⟩
    obtain ⟨n, rfl⟩ : ∃ k, n = k + 1 := ⟨n - 1, by omega⟩
    unfold takeItems
    rw [next]
    exact congrArg (a :: ·) (ih (by omega) (by omega))

theorem items_stopped (stopped : walk.next s = none) : walk.items s = [] :=
  takeItems_stopped stopped _

theorem items_taken (next : walk.next s = some (a, t)) : walk.items s = a :: walk.items t := by
  have smaller := walk.shrinks next
  unfold items
  rw [takeItems_enough (Nat.le_refl _) (Nat.le_succ (walk.size s)), takeItems, next]
  exact congrArg (a :: ·) (takeItems_enough (by omega) (Nat.le_refl _))

/-- What holds of every item taken in a state that keeps the invariant. -/
theorem items_all {I : σ → Prop} {P : α → Prop}
    (step : ∀ s a t, I s → walk.next s = some (a, t) → P a ∧ I t) (start : I s) :
    ∀ a ∈ walk.items s, P a := by
  induction s using walk.induct with
  | stopped s stopped =>
    rw [items_stopped stopped]
    exact fun a none => absurd none List.not_mem_nil
  | taken s a t next ih =>
    rw [items_taken next]
    have here := step s a t start next
    intro b among
    cases List.mem_cons.1 among with
    | inl same => exact same ▸ here.1
    | inr later => exact ih here.2 b later

end Items

section Loops

/-- Looks at each item in turn, and may return at one; with the items looked at. -/
def scan (visit : β → α → β × Bool) : List α → β → List α × β
  | [], found => ([], found)
  | a :: as, found =>
    let (found, returns) := visit found a
    if returns then ([a], found)
    else
      let (seen, found) := scan visit as found
      (a :: seen, found)

/-- A loop whose reads are checked: nothing when one is outside, or when fuel runs out. -/
def loop (next : τ → Option (Option (α × τ))) (visit : β → α → Option (β × Bool)) :
    Nat → τ → β → Option (List α × β)
  | 0, _, _ => none
  | fuel + 1, t, found =>
    match next t with
    | none => none
    | some none => some ([], found)
    | some (some (a, t)) =>
      match visit found a with
      | none => none
      | some (found, true) => some ([a], found)
      | some (found, false) =>
        (loop next visit fuel t found).map fun (seen, found) => (a :: seen, found)

theorem scan_seen {visit : β → α → β × Bool} {returns : α → Bool}
    (only : ∀ found a, (visit found a).2 = returns a) (as : List α) (found : β) :
    (scan visit as found).1 = as.take (as.findIdx returns + 1) := by
  induction as generalizing found with
  | nil => rfl
  | cons a as ih =>
    unfold scan
    dsimp only
    rw [List.findIdx_cons, only found a]
    cases returns a with
    | true => rfl
    | false => exact congrArg (a :: ·) (ih _)

/-- A checked loop over another cursor of the same walk is the scan of the items. -/
theorem loop_scan {walk : Walk σ α} {next : τ → Option (Option (α × τ))}
    {visit : β → α → Option (β × Bool)} {plain : β → α → β × Bool} {cursor : σ → τ} {I : σ → Prop}
    (agree : ∀ s, I s → next (cursor s) = some ((walk.next s).map fun (a, t) => (a, cursor t)))
    (keeps : ∀ s a t, I s → walk.next s = some (a, t) → I t) {s : σ} (start : I s)
    (inside : ∀ a ∈ walk.items s, ∀ found, visit found a = some (plain found a))
    {fuel : Nat} (enough : walk.size s < fuel) (found : β) :
    loop next visit fuel (cursor s) found = some (scan plain (walk.items s) found) := by
  induction s using walk.induct generalizing fuel found with
  | stopped s stopped =>
    obtain ⟨fuel, rfl⟩ : ∃ k, fuel = k + 1 := ⟨fuel - 1, by omega⟩
    unfold loop
    rw [agree s start, stopped, items_stopped stopped]
    rfl
  | taken s a t step ih =>
    obtain ⟨fuel, rfl⟩ : ∃ k, fuel = k + 1 := ⟨fuel - 1, by omega⟩
    have smaller := walk.shrinks step
    rw [items_taken step] at inside ⊢
    have here := inside a List.mem_cons_self found
    have rest (found : β) : loop next visit fuel (cursor t) found =
        some (scan plain (walk.items t) found) :=
      ih (keeps s a t start step) (fun b later => inside b (List.mem_cons_of_mem a later))
        (by omega) found
    unfold loop scan
    rw [agree s start, step]
    dsimp only [Option.map_some]
    rw [here]
    cases plain found a with
    | mk found returns =>
      cases returns with
      | true => rfl
      | false =>
        dsimp only
        rw [rest found]
        rfl

end Loops

end Walk
