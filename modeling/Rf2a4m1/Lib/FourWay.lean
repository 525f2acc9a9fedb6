import Mathlib.Data.Set.Insert
import Mathlib.Logic.Relation

/-!
# Agreement in a handshake of four messages

An authenticator numbers its first and third messages from one counter and the
supplicant echoes the number. Messages may be lost, repeated and reordered, so
what was ever sent stays in the air. The authenticator may start over and may
derive another key at any time before it is up; the supplicant may do anything
before it is up.
-/

set_option autoImplicit false

namespace FourWay

variable {κ γ : Type}

inductive Phase where
  | idle
  | waiting
  | up
deriving DecidableEq

/-- An end with the counter, the pairwise key and the group keys it holds. -/
structure Party (κ γ : Type) where
  phase : Phase
  counter : Nat
  key : κ
  group : γ

/-- The third message delivers group keys under the pairwise key of its sender. -/
inductive Msg (κ γ : Type) where
  | first (n : Nat)
  | second (n : Nat)
  | third (n : Nat) (key : κ) (group : γ)
  | fourth (n : Nat)

structure State (κ γ : Type) where
  ap : Party κ γ
  sta : Party κ γ
  air : Set (Msg κ γ)

inductive Step : State κ γ → State κ γ → Prop where
  | apLeaves (s : State κ γ) (down : s.ap.phase ≠ .up) :
      Step s { s with ap := { s.ap with phase := .idle } }
  | apStarts (s : State κ γ) (down : s.ap.phase ≠ .up) (group : γ) :
      Step s { s with
        ap := { s.ap with phase := .waiting, counter := s.ap.counter + 1, group := group }
        air := insert (.first (s.ap.counter + 1)) s.air }
  | apDerives (s : State κ γ) (waiting : s.ap.phase = .waiting)
      (echoed : .second s.ap.counter ∈ s.air) (key : κ) (group : γ) :
      Step s { s with ap := { s.ap with key := key, group := group } }
  | apDelivers (s : State κ γ) (waiting : s.ap.phase = .waiting)
      (echoed : .second s.ap.counter ∈ s.air) (key : κ) (group : γ) :
      Step s { s with
        ap := { s.ap with counter := s.ap.counter + 1, key := key, group := group }
        air := insert (.third (s.ap.counter + 1) key group) s.air }
  | apConnects (s : State κ γ) (waiting : s.ap.phase = .waiting)
      (echoed : .fourth s.ap.counter ∈ s.air) :
      Step s { s with ap := { s.ap with phase := .up } }
  | staMoves (s : State κ γ) (down : s.sta.phase ≠ .up) (next : Party κ γ)
      (still : next.phase ≠ .up) :
      Step s { s with sta := next }
  | staAnswers (s : State κ γ) (n : Nat) (asked : .first n ∈ s.air) :
      Step s { s with air := insert (.second n) s.air }
  | staConnects (s : State κ γ) (down : s.sta.phase ≠ .up) (n : Nat) (group : γ)
      (delivered : .third n s.sta.key group ∈ s.air) :
      Step s { s with
        sta := { s.sta with phase := .up, counter := n, group := group }
        air := insert (.fourth n) s.air }

abbrev Reach : State κ γ → State κ γ → Prop := Relation.ReflTransGen Step

/-- Nothing has been sent and nobody is up. -/
structure Fresh (s : State κ γ) : Prop where
  down : s.ap.phase ≠ .up ∧ s.sta.phase ≠ .up
  silent : s.air = ∅

/-- The two ends hold the same keys. -/
def Agreed (s : State κ γ) : Prop := s.ap.key = s.sta.key ∧ s.ap.group = s.sta.group

/-- Numbers are used once, and the newest third message carries what the authenticator holds. -/
structure Inv (s : State κ γ) : Prop where
  first : ∀ n, .first n ∈ s.air → n ≤ s.ap.counter
  second : ∀ n, .second n ∈ s.air → .first n ∈ s.air
  third : ∀ n key group, .third n key group ∈ s.air →
    n ≤ s.ap.counter ∧ .first n ∉ s.air ∧ (n = s.ap.counter → s.ap.key = key ∧ s.ap.group = group)
  fourth : ∀ n, .fourth n ∈ s.air →
    s.sta.phase = .up ∧ .third n s.sta.key s.sta.group ∈ s.air
  agreed : s.ap.phase = .up → s.sta.phase = .up ∧ Agreed s

section Preservation

variable {s t : State κ γ}

theorem Fresh.inv (fresh : Fresh s) : Inv s where
  first n sent := by
    rw [fresh.silent] at sent
    cases sent
  second n sent := by
    rw [fresh.silent] at sent
    cases sent
  third n key group sent := by
    rw [fresh.silent] at sent
    cases sent
  fourth n sent := by
    rw [fresh.silent] at sent
    cases sent
  agreed up := absurd up fresh.down.1

/-- No third message has the number that a second message echoes. -/
theorem Inv.echoed (inv : Inv s) {n : Nat} (echoed : .second n ∈ s.air) {m : Nat} {key : κ}
    {group : γ} (sent : .third m key group ∈ s.air) : m ≠ n := by
  rintro rfl
  exact (inv.third m key group sent).2.1 (inv.second m echoed)

theorem Inv.apLeaves (inv : Inv s) : Inv { s with ap := { s.ap with phase := .idle } } where
  first := inv.first
  second := inv.second
  third := inv.third
  fourth := inv.fourth
  agreed up := by cases up

theorem Inv.apStarts (inv : Inv s) (group : γ) :
    Inv { s with
      ap := { s.ap with phase := .waiting, counter := s.ap.counter + 1, group := group }
      air := insert (.first (s.ap.counter + 1)) s.air } where
  first n sent := by
    rcases sent with new | old
    · cases new
      exact Nat.le_refl _
    · exact Nat.le_succ_of_le (inv.first n old)
  second n sent := by
    rcases sent with new | old
    · cases new
    · exact Or.inr (inv.second n old)
  third n key held sent := by
    rcases sent with new | old
    · cases new
    obtain ⟨le, unused, _⟩ := inv.third n key held old
    refine ⟨Nat.le_succ_of_le le, ?_, fun now => absurd now (Nat.ne_of_lt (Nat.lt_succ_of_le le))⟩
    rintro (new | used)
    · cases new
      exact Nat.not_succ_le_self _ le
    · exact unused used
  fourth n sent := by
    rcases sent with new | old
    · cases new
    · exact ⟨(inv.fourth n old).1, Or.inr (inv.fourth n old).2⟩
  agreed up := by cases up

theorem Inv.apDerives (inv : Inv s) (waiting : s.ap.phase = .waiting)
    (echoed : .second s.ap.counter ∈ s.air) (key : κ) (group : γ) :
    Inv { s with ap := { s.ap with key := key, group := group } } where
  first := inv.first
  second := inv.second
  third n key group sent := by
    obtain ⟨le, unused, _⟩ := inv.third n key group sent
    exact ⟨le, unused, fun now => absurd now (inv.echoed echoed sent)⟩
  fourth := inv.fourth
  agreed up := by
    rw [show s.ap.phase = Phase.up from up] at waiting
    cases waiting

theorem Inv.apDelivers (inv : Inv s) (waiting : s.ap.phase = .waiting) (key : κ) (group : γ) :
    Inv { s with
      ap := { s.ap with counter := s.ap.counter + 1, key := key, group := group }
      air := insert (.third (s.ap.counter + 1) key group) s.air } where
  first n sent := by
    rcases sent with new | old
    · cases new
    · exact Nat.le_succ_of_le (inv.first n old)
  second n sent := by
    rcases sent with new | old
    · cases new
    · exact Or.inr (inv.second n old)
  third n key' group' sent := by
    rcases sent with new | old
    · cases new
      refine ⟨Nat.le_refl _, ?_, fun _ => ⟨rfl, rfl⟩⟩
      rintro (new | used)
      · cases new
      · exact Nat.not_succ_le_self _ (inv.first _ used)
    · obtain ⟨le, unused, _⟩ := inv.third n key' group' old
      refine ⟨Nat.le_succ_of_le le, ?_,
        fun now => absurd now (Nat.ne_of_lt (Nat.lt_succ_of_le le))⟩
      rintro (new | used)
      · cases new
      · exact unused used
  fourth n sent := by
    rcases sent with new | old
    · cases new
    · exact ⟨(inv.fourth n old).1, Or.inr (inv.fourth n old).2⟩
  agreed up := by
    rw [show s.ap.phase = Phase.up from up] at waiting
    cases waiting

/-- The fourth message answers the newest third one, whose keys both ends hold. -/
theorem Inv.apConnects (inv : Inv s) (echoed : .fourth s.ap.counter ∈ s.air) :
    Inv { s with ap := { s.ap with phase := .up } } where
  first := inv.first
  second := inv.second
  third := inv.third
  fourth := inv.fourth
  agreed _ := by
    obtain ⟨up, delivered⟩ := inv.fourth _ echoed
    exact ⟨up, (inv.third _ _ _ delivered).2.2 rfl⟩

theorem Inv.staMoves (inv : Inv s) (down : s.sta.phase ≠ .up) (next : Party κ γ) :
    Inv { s with sta := next } where
  first := inv.first
  second := inv.second
  third := inv.third
  fourth n sent := absurd (inv.fourth n sent).1 down
  agreed up := absurd (inv.agreed up).1 down

theorem Inv.staAnswers (inv : Inv s) {n : Nat} (asked : .first n ∈ s.air) :
    Inv { s with air := insert (.second n) s.air } where
  first m sent := by
    rcases sent with new | old
    · cases new
    · exact inv.first m old
  second m sent := by
    rcases sent with new | old
    · cases new
      exact Or.inr asked
    · exact Or.inr (inv.second m old)
  third m key group sent := by
    rcases sent with new | old
    · cases new
    obtain ⟨le, unused, holds⟩ := inv.third m key group old
    refine ⟨le, ?_, holds⟩
    rintro (new | used)
    · cases new
    · exact unused used
  fourth m sent := by
    rcases sent with new | old
    · cases new
    · exact ⟨(inv.fourth m old).1, Or.inr (inv.fourth m old).2⟩
  agreed := inv.agreed

theorem Inv.staConnects (inv : Inv s) (down : s.sta.phase ≠ .up) {n : Nat} {group : γ}
    (delivered : .third n s.sta.key group ∈ s.air) :
    Inv { s with
      sta := { s.sta with phase := .up, counter := n, group := group }
      air := insert (.fourth n) s.air } where
  first m sent := by
    rcases sent with new | old
    · cases new
    · exact inv.first m old
  second m sent := by
    rcases sent with new | old
    · cases new
    · exact Or.inr (inv.second m old)
  third m key group sent := by
    rcases sent with new | old
    · cases new
    obtain ⟨le, unused, holds⟩ := inv.third m key group old
    refine ⟨le, ?_, holds⟩
    rintro (new | used)
    · cases new
    · exact unused used
  fourth m sent := by
    rcases sent with new | old
    · cases new
      exact ⟨rfl, Or.inr delivered⟩
    · exact absurd (inv.fourth m old).1 down
  agreed up := absurd (inv.agreed up).1 down

theorem Inv.step (inv : Inv s) (step : Step s t) : Inv t := by
  cases step with
  | apLeaves down => exact inv.apLeaves
  | apStarts down group => exact inv.apStarts group
  | apDerives waiting echoed key group => exact inv.apDerives waiting echoed key group
  | apDelivers waiting echoed key group => exact inv.apDelivers waiting key group
  | apConnects waiting echoed => exact inv.apConnects echoed
  | staMoves down next still => exact inv.staMoves down next
  | staAnswers n asked => exact inv.staAnswers asked
  | staConnects down n group delivered => exact inv.staConnects down delivered

theorem Inv.reach (inv : Inv s) (reach : Reach s t) : Inv t := by
  induction reach with
  | refl => exact inv
  | tail _ step ih => exact ih.step step

end Preservation

end FourWay
