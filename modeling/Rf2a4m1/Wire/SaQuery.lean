import Rf2a4m1.Lib.Runs
import Rf2a4m1.Wire.Pmf

/-!
# The SA Query transaction machine

A transaction is opened with a Request, repeated on a schedule of ticks, and
ends answered or timed out. `spent` counts the ticks a pending transaction has
used of its budget.
-/

set_option autoImplicit false

namespace Rf2a4m1

open ByteString Runs

/-- The calls after initialisation, with the room for a Request or the octets that arrived. -/
inductive SaqOp where
  | start (cap : Nat)
  | tick (cap : Nat)
  | response (inp : Bytes)

def SaqOp.starts : SaqOp → Bool
  | .start _ => true
  | _ => false

def SaqOp.ticks : SaqOp → Bool
  | .tick _ => true
  | _ => false

def saqStep (q : PmfSaQuery) : SaqOp → PmfSaQuery
  | .start cap => (pmfSaQueryStart q cap).1
  | .tick cap => (pmfSaQueryTick q cap).1
  | .response inp => (pmfSaQueryOnResponse q inp).1

/-- The Request a call writes. -/
def saqEmits (q : PmfSaQuery) : SaqOp → Option Bytes
  | .start cap => (pmfSaQueryStart q cap).2
  | .tick cap => (pmfSaQueryTick q cap).2
  | .response _ => none

/-- Octets that are a Response to the transaction. -/
def AnswersQuery (tid : UInt16) (inp : Bytes) : Prop :=
  pmfSaQueryParse inp = some (pmfSaQueryResponse, tid)

def saqRequest (tid : UInt16) : Bytes := [8, pmfSaQueryRequest] ++ putLe16 tid

theorem pmfSaQueryBuild_request {cap : Nat} {tid : UInt16} {body : Bytes}
    (built : pmfSaQueryBuild cap pmfSaQueryRequest tid = some body) : body = saqRequest tid := by
  unfold pmfSaQueryBuild at built
  split at built
  · cases built
  · exact (Option.some.inj built).symm

namespace PmfSaQuery

/-- Ticks a pending transaction has used. -/
def spent (q : PmfSaQuery) : Nat := (q.retries - 1) * q.timeoutTicks + q.elapsed

/-- Ticks after which a transaction is given up. -/
def budget (q : PmfSaQuery) : Nat := q.maxRetries * q.timeoutTicks

/-- The counters stay inside their limits and no identifier in use is zero. -/
structure Sound (q : PmfSaQuery) : Prop where
  attempts : 1 ≤ q.maxRetries
  window : 1 ≤ q.timeoutTicks
  next : q.nextTid ≠ 0
  tid : q.state ≠ .idle → q.transId ≠ 0
  retries : q.retries ≤ q.maxRetries
  pending : q.state = .pending → 1 ≤ q.retries ∧ q.elapsed < q.timeoutTicks

variable {q : PmfSaQuery}

theorem Sound.init (maxRetries timeoutTicks : Nat) :
    (pmfSaQueryInit maxRetries timeoutTicks).Sound where
  attempts := by
    unfold pmfSaQueryInit
    dsimp only
    split <;> omega
  window := by
    unfold pmfSaQueryInit
    dsimp only
    split <;> omega
  next := by
    intro zero
    cases zero
  tid := fun used => absurd rfl used
  retries := Nat.zero_le _
  pending := by
    intro pending
    cases pending

theorem Sound.start (sound : q.Sound) (cap : Nat) : (pmfSaQueryStart q cap).1.Sound where
  attempts := sound.attempts
  window := sound.window
  next := by
    unfold pmfSaQueryStart
    dsimp only
    split
    · decide
    · assumption
  tid := fun _ => sound.next
  retries := sound.attempts
  pending := fun _ => ⟨Nat.le_refl 1, sound.window⟩

/-- What a tick does to a pending transaction: it counts, repeats the Request, or gives up. -/
theorem tick_cases (cap : Nat) :
    (q.state ≠ .pending ∧ pmfSaQueryTick q cap = (q, none)) ∨
      q.state = .pending ∧
        ((q.elapsed + 1 < q.timeoutTicks ∧
            pmfSaQueryTick q cap = ({ q with elapsed := q.elapsed + 1 }, none)) ∨
          (q.timeoutTicks ≤ q.elapsed + 1 ∧ q.maxRetries ≤ q.retries ∧
            pmfSaQueryTick q cap = ({ q with elapsed := 0, state := .timeout }, none)) ∨
          q.timeoutTicks ≤ q.elapsed + 1 ∧ q.retries < q.maxRetries ∧
            pmfSaQueryTick q cap =
              ({ q with elapsed := 0, retries := q.retries + 1 },
                pmfSaQueryBuild cap pmfSaQueryRequest q.transId)) := by
  unfold pmfSaQueryTick
  by_cases pending : q.state = .pending
  · right
    refine ⟨pending, ?_⟩
    rw [if_neg (not_not.2 pending)]
    by_cases inside : q.elapsed + 1 < q.timeoutTicks
    · rw [if_pos inside]
      exact Or.inl ⟨inside, rfl⟩
    · rw [if_neg inside]
      by_cases over' : q.retries ≥ q.maxRetries
      · rw [if_pos over']
        exact Or.inr (Or.inl ⟨Nat.le_of_not_lt inside, over', rfl⟩)
      · rw [if_neg over']
        exact Or.inr (Or.inr ⟨Nat.le_of_not_lt inside, Nat.lt_of_not_le over', rfl⟩)
  · rw [if_pos pending]
    exact Or.inl ⟨pending, rfl⟩

theorem Sound.tick (sound : q.Sound) (cap : Nat) : (pmfSaQueryTick q cap).1.Sound := by
  rcases q.tick_cases cap with ⟨_, eq⟩ | ⟨pending, ⟨inside, eq⟩ | ⟨_, _, eq⟩ | ⟨_, more, eq⟩⟩
  · rw [eq]
    exact sound
  · rw [eq]
    exact { sound with pending := fun _ => ⟨(sound.pending pending).1, inside⟩ }
  · rw [eq]
    have used : q.transId ≠ 0 := sound.tid (by rw [pending]; decide)
    exact { sound with tid := fun _ => used, pending := nofun }
  · rw [eq]
    exact { sound with retries := more, pending := fun _ => ⟨Nat.le_add_left 1 _, sound.window⟩ }

/-- A response counts exactly when it answers the transaction that is pending. -/
theorem onResponse_eq (inp : Bytes) :
    (q.state = .pending ∧ AnswersQuery q.transId inp ∧
        pmfSaQueryOnResponse q inp = ({ q with state := .answered }, true)) ∨
      ¬(q.state = .pending ∧ AnswersQuery q.transId inp) ∧
        pmfSaQueryOnResponse q inp = (q, false) := by
  unfold pmfSaQueryOnResponse AnswersQuery
  by_cases pending : q.state = .pending
  · rw [if_neg (not_not.2 pending)]
    cases parsed : pmfSaQueryParse inp with
    | none => exact Or.inr ⟨fun h => (nomatch h.2), rfl⟩
    | some r =>
      obtain ⟨act, tid⟩ := r
      dsimp only
      by_cases other : act ≠ pmfSaQueryResponse ∨ tid ≠ q.transId
      · rw [if_pos other]
        refine Or.inr ⟨fun h => ?_, rfl⟩
        cases h.2
        exact other.elim (absurd rfl) (absurd rfl)
      · rw [if_neg other]
        rw [not_or, not_not, not_not] at other
        obtain ⟨rfl, rfl⟩ := other
        exact Or.inl ⟨pending, rfl, rfl⟩
  · rw [if_pos pending]
    exact Or.inr ⟨fun h => pending h.1, rfl⟩

theorem Sound.response (sound : q.Sound) (inp : Bytes) : (pmfSaQueryOnResponse q inp).1.Sound := by
  rcases q.onResponse_eq inp with ⟨pending, _, eq⟩ | ⟨_, eq⟩
  · rw [eq]
    have used : q.transId ≠ 0 := sound.tid (by rw [pending]; decide)
    exact { sound with tid := fun _ => used, pending := nofun }
  · rw [eq]
    exact sound

theorem Sound.step (sound : q.Sound) (op : SaqOp) : (saqStep q op).Sound := by
  cases op with
  | start cap => exact sound.start cap
  | tick cap => exact sound.tick cap
  | response inp => exact sound.response inp

/-- Limits are set once; within a transaction the identifier stays. -/
theorem step_fixed (op : SaqOp) :
    (saqStep q op).maxRetries = q.maxRetries ∧ (saqStep q op).timeoutTicks = q.timeoutTicks ∧
      (op.starts = false → (saqStep q op).transId = q.transId) := by
  cases op with
  | start cap => exact ⟨rfl, rfl, fun no => by cases no⟩
  | tick cap =>
    unfold saqStep
    dsimp only
    rcases q.tick_cases cap with ⟨_, eq⟩ | ⟨_, ⟨_, eq⟩ | ⟨_, _, eq⟩ | ⟨_, _, eq⟩⟩ <;>
      · rw [eq]
        exact ⟨rfl, rfl, fun _ => rfl⟩
  | response inp =>
    unfold saqStep
    dsimp only
    rcases q.onResponse_eq inp with ⟨_, _, eq⟩ | ⟨_, eq⟩ <;>
      · rw [eq]
        exact ⟨rfl, rfl, fun _ => rfl⟩

/-- A tick on a pending transaction uses up one of the ticks of its budget, or it is given up. -/
theorem Sound.tick_spends (sound : q.Sound) (pending : q.state = .pending) (cap : Nat) :
    (q.spent + 1 < q.budget ∧ (pmfSaQueryTick q cap).1.state = .pending ∧
        (pmfSaQueryTick q cap).1.spent = q.spent + 1) ∨
      q.spent + 1 = q.budget ∧ (pmfSaQueryTick q cap).1.state = .timeout := by
  obtain ⟨first, inWindow⟩ := sound.pending pending
  obtain ⟨r, retries⟩ : ∃ r, q.retries = r + 1 := ⟨q.retries - 1, by omega⟩
  have attempts := sound.retries
  unfold spent budget
  rw [retries] at attempts
  rcases q.tick_cases cap with ⟨no, _⟩ | ⟨_, ⟨inside, eq⟩ | ⟨last, spentAll, eq⟩ | ⟨last, more, eq⟩⟩
  · exact absurd pending no
  · left
    rw [eq, retries]
    have within := Nat.mul_le_mul_right q.timeoutTicks attempts
    rw [Nat.succ_mul] at within
    refine ⟨by simp only [Nat.add_sub_cancel]; omega, pending, rfl⟩
  · right
    rw [eq, retries]
    have all : q.maxRetries = r + 1 := by omega
    rw [all, Nat.succ_mul]
    exact ⟨by simp only [Nat.add_sub_cancel]; omega, rfl⟩
  · left
    rw [eq, retries]
    have window := sound.window
    have within : (r + 1 + 1) * q.timeoutTicks ≤ q.maxRetries * q.timeoutTicks :=
      Nat.mul_le_mul_right _ (by omega)
    rw [Nat.succ_mul, Nat.succ_mul] at within
    dsimp only
    simp only [Nat.add_sub_cancel, Nat.succ_mul]
    exact ⟨by omega, pending, by omega⟩

/-- The schedule is fresh when a transaction is opened. -/
theorem start_spent (cap : Nat) :
    (pmfSaQueryStart q cap).1.state = .pending ∧ (pmfSaQueryStart q cap).1.spent = 0 := by
  refine ⟨rfl, ?_⟩
  unfold spent pmfSaQueryStart
  simp

section Transaction

variable {ops : List SaqOp}

/-- A transaction that is not pending only changes when a new one is opened. -/
theorem settled_run (settled : q.state ≠ .pending) (same : ∀ op ∈ ops, op.starts = false) :
    ops.foldl saqStep q = q := by
  induction ops with
  | nil => rfl
  | cons op rest ih =>
    have kept : saqStep q op = q := by
      cases op with
      | start cap => cases same _ List.mem_cons_self
      | tick cap =>
        rcases q.tick_cases cap with ⟨_, eq⟩ | ⟨pending, _⟩
        · exact congrArg Prod.fst eq
        · exact absurd pending settled
      | response inp =>
        rcases q.onResponse_eq inp with ⟨pending, _⟩ | ⟨_, eq⟩
        · exact absurd pending settled
        · exact congrArg Prod.fst eq
    rw [List.foldl_cons, kept]
    exact ih fun op mem => same op (List.mem_cons_of_mem _ mem)

/-- Unanswered, a transaction is pending until its budget of ticks is used up. -/
theorem unanswered_run (sound : q.Sound) (pending : q.state = .pending)
    (same : ∀ op ∈ ops, op.starts = false)
    (unanswered : ∀ inp, SaqOp.response inp ∈ ops → ¬AnswersQuery q.transId inp) :
    (ops.foldl saqStep q).state =
      if q.spent + ops.countP SaqOp.ticks < q.budget then .pending else .timeout := by
  induction ops generalizing q with
  | nil =>
    obtain ⟨first, inWindow⟩ := sound.pending pending
    have below : q.spent < q.budget := by
      rcases sound.tick_spends pending 0 with ⟨lt, _⟩ | ⟨eq, _⟩ <;> omega
    rw [if_pos (by simpa using below)]
    exact pending
  | cons op rest ih =>
    have sameRest : ∀ op ∈ rest, op.starts = false :=
      fun op mem => same op (List.mem_cons_of_mem _ mem)
    obtain ⟨attempts, window, tid⟩ := q.step_fixed op
    have tid := tid (same op List.mem_cons_self)
    have unansweredRest : ∀ inp, SaqOp.response inp ∈ rest →
        ¬AnswersQuery (saqStep q op).transId inp := by
      rw [tid]
      exact fun inp mem => unanswered inp (List.mem_cons_of_mem _ mem)
    have sameBudget : (saqStep q op).budget = q.budget := by
      unfold budget
      rw [attempts, window]
    rw [List.foldl_cons]
    cases op with
    | start cap => cases same _ List.mem_cons_self
    | tick cap =>
      rw [List.countP_cons_of_pos rfl]
      rcases sound.tick_spends pending cap with ⟨_, still, spends⟩ | ⟨all, gone⟩
      · rw [ih (sound.step (.tick cap)) still sameRest unansweredRest, sameBudget]
        have spends : (saqStep q (.tick cap)).spent = q.spent + 1 := spends
        rw [spends, Nat.add_right_comm, Nat.add_assoc]
      · have gone : (saqStep q (.tick cap)).state = .timeout := gone
        rw [settled_run (by rw [gone]; decide) sameRest, gone, if_neg (by omega)]
    | response inp =>
      have kept : saqStep q (.response inp) = q := by
        rcases q.onResponse_eq inp with ⟨_, answers, _⟩ | ⟨_, eq⟩
        · exact absurd answers (unanswered inp List.mem_cons_self)
        · exact congrArg Prod.fst eq
      rw [List.countP_cons_of_neg Bool.false_ne_true, kept]
      rw [kept] at unansweredRest
      exact ih sound pending sameRest unansweredRest

/-- The Requests a transaction repeats carry its identifier, and are no more than it has left. -/
theorem repeats_run (sound : q.Sound) (same : ∀ op ∈ ops, op.starts = false) :
    (observed saqStep saqEmits q ops).length + q.retries ≤ q.maxRetries ∧
      ∀ body ∈ observed saqStep saqEmits q ops, body = saqRequest q.transId := by
  induction ops generalizing q with
  | nil =>
    refine ⟨?_, fun body mem => by cases mem⟩
    rw [observed, List.length_nil, Nat.zero_add]
    exact sound.retries
  | cons op rest ih =>
    obtain ⟨attempts, _, tid⟩ := q.step_fixed op
    have tid := tid (same op List.mem_cons_self)
    obtain ⟨count, carried⟩ := ih (sound.step op) fun op mem => same op (List.mem_cons_of_mem _ mem)
    rw [attempts] at count
    rw [tid] at carried
    have first : (saqEmits q op).toList.length + q.retries ≤ (saqStep q op).retries ∧
        ∀ body ∈ (saqEmits q op).toList, body = saqRequest q.transId := by
      cases op with
      | start cap => cases same _ List.mem_cons_self
      | tick cap =>
        unfold saqStep saqEmits
        dsimp only
        rcases q.tick_cases cap with ⟨_, eq⟩ | ⟨_, ⟨_, eq⟩ | ⟨_, _, eq⟩ | ⟨_, _, eq⟩⟩
        · rw [eq]
          exact ⟨by simp, fun body mem => by cases mem⟩
        · rw [eq]
          exact ⟨by simp, fun body mem => by cases mem⟩
        · rw [eq]
          exact ⟨by simp, fun body mem => by cases mem⟩
        · rw [eq]
          cases built : pmfSaQueryBuild cap pmfSaQueryRequest q.transId with
          | none => exact ⟨by simp, fun body mem => by cases mem⟩
          | some body =>
            refine ⟨by simp [Nat.add_comm], fun body' mem => ?_⟩
            rw [Option.toList_some, List.mem_singleton] at mem
            rw [mem]
            exact pmfSaQueryBuild_request built
      | response inp =>
        refine ⟨?_, fun body mem => by cases mem⟩
        unfold saqStep saqEmits
        dsimp only
        rcases q.onResponse_eq inp with ⟨_, _, eq⟩ | ⟨_, eq⟩ <;> simp [eq]
    rw [observed]
    constructor
    · rw [List.length_append]
      omega
    · intro body mem
      rcases List.mem_append.1 mem with now | later
      · exact first.2 body now
      · exact carried body later

end Transaction

/-- Only a response to the pending transaction makes it answered. -/
theorem answered_cases {op : SaqOp} (answered : (saqStep q op).state = .answered)
    (before : q.state ≠ .answered) :
    q.state = .pending ∧ ∃ inp, op = .response inp ∧ AnswersQuery q.transId inp := by
  cases op with
  | start cap => cases answered
  | tick cap =>
    unfold saqStep at answered
    dsimp only at answered
    rcases q.tick_cases cap with ⟨_, eq⟩ | ⟨pending, ⟨_, eq⟩ | ⟨_, _, eq⟩ | ⟨_, _, eq⟩⟩
    · rw [eq] at answered
      exact absurd answered before
    · rw [eq] at answered
      exact absurd answered before
    · rw [eq] at answered
      cases answered
    · rw [eq] at answered
      exact absurd answered before
  | response inp =>
    rcases q.onResponse_eq inp with ⟨pending, answers, _⟩ | ⟨_, eq⟩
    · exact ⟨pending, inp, rfl, answers⟩
    · unfold saqStep at answered
      dsimp only at answered
      rw [eq] at answered
      exact absurd answered before

end PmfSaQuery

section Machine

variable {maxRetries timeoutTicks : Nat} {q : PmfSaQuery}

theorem saqReach_sound (reach : Reach saqStep (pmfSaQueryInit maxRetries timeoutTicks) q) :
    q.Sound :=
  reach.invariant PmfSaQuery.Sound (.init _ _) fun _ op sound _ => sound.step op

/-- The limits are those of the initialisation, where zero counts as one. -/
theorem saqReach_limits (reach : Reach saqStep (pmfSaQueryInit maxRetries timeoutTicks) q) :
    q.maxRetries = max maxRetries 1 ∧ q.timeoutTicks = max timeoutTicks 1 := by
  refine reach.invariant (fun q => q.maxRetries = max maxRetries 1 ∧
    q.timeoutTicks = max timeoutTicks 1) ?_ ?_
  · unfold pmfSaQueryInit
    dsimp only
    constructor <;> split <;> omega
  · intro t op limits _
    obtain ⟨attempts, window, _⟩ := t.step_fixed op
    rw [attempts, window]
    exact limits

/-- Over every run: identifiers and counters stay in range, a transaction repeats one
identifier within its budget, it is pending for exactly that budget of unanswered ticks and
timed out afterwards, and only a response to the pending transaction answers it. -/
theorem saQuery_machine (maxRetries timeoutTicks : Nat) {q : PmfSaQuery}
    (reach : Reach saqStep (pmfSaQueryInit maxRetries timeoutTicks) q) :
    (q.maxRetries = max maxRetries 1 ∧ q.timeoutTicks = max timeoutTicks 1) ∧
      (q.state ≠ .idle → q.transId ≠ 0) ∧
      (q.state = .pending →
        1 ≤ q.retries ∧ q.retries ≤ q.maxRetries ∧ q.elapsed < q.timeoutTicks) ∧
      (∀ op, (saqStep q op).state = .answered → q.state ≠ .answered →
        q.state = .pending ∧ ∃ inp, op = .response inp ∧ AnswersQuery q.transId inp) ∧
      ∀ cap ops, (∀ op ∈ ops, op.starts = false) →
        (observed saqStep saqEmits q (.start cap :: ops)).length ≤ q.maxRetries ∧
        (∀ body ∈ observed saqStep saqEmits q (.start cap :: ops),
          body = saqRequest (saqStep q (.start cap)).transId) ∧
        ((∀ inp, SaqOp.response inp ∈ ops →
            ¬AnswersQuery (saqStep q (.start cap)).transId inp) →
          (ops.foldl saqStep (saqStep q (.start cap))).state =
            if ops.countP SaqOp.ticks < q.maxRetries * q.timeoutTicks then .pending
            else .timeout) := by
  have sound := saqReach_sound reach
  refine ⟨saqReach_limits reach, sound.tid, ?_, ?_, ?_⟩
  · intro pending
    exact ⟨(sound.pending pending).1, sound.retries, (sound.pending pending).2⟩
  · intro op answered before
    exact PmfSaQuery.answered_cases answered before
  · intro cap ops same
    have opened := sound.step (.start cap)
    obtain ⟨count, carried⟩ := PmfSaQuery.repeats_run opened same
    obtain ⟨pending, fresh⟩ := q.start_spent cap
    have first : (saqEmits q (.start cap)).toList.length ≤ 1 ∧
        ∀ body ∈ (saqEmits q (.start cap)).toList,
          body = saqRequest (saqStep q (.start cap)).transId := by
      cases built : saqEmits q (.start cap) with
      | none => exact ⟨Nat.zero_le 1, fun body mem => by cases mem⟩
      | some body =>
        refine ⟨Nat.le_refl 1, fun body' mem => ?_⟩
        rw [Option.toList_some, List.mem_singleton] at mem
        rw [mem]
        exact pmfSaQueryBuild_request built
    refine ⟨?_, ?_, ?_⟩
    · rw [observed, List.length_append]
      have used : (saqStep q (.start cap)).retries = 1 := rfl
      have attempts : (saqStep q (.start cap)).maxRetries = q.maxRetries := rfl
      rw [used, attempts] at count
      omega
    · intro body mem
      rw [observed] at mem
      rcases List.mem_append.1 mem with now | later
      · exact first.2 body now
      · exact carried body later
    · intro unanswered
      have state := PmfSaQuery.unanswered_run opened pending same unanswered
      have fresh : (saqStep q (.start cap)).spent = 0 := fresh
      rw [fresh, Nat.zero_add] at state
      exact state

/-- Two attempts of two ticks each: pending after three unanswered ticks, then timed out. -/
theorem saQuery_machine_demo :
    ([SaqOp.tick 4, .tick 4, .tick 4].foldl saqStep
        (saqStep (pmfSaQueryInit 2 2) (.start 4))).state = .pending ∧
      ([SaqOp.tick 4, .tick 4, .tick 4, .tick 4].foldl saqStep
        (saqStep (pmfSaQueryInit 2 2) (.start 4))).state = .timeout := by
  have run := (saQuery_machine 2 2 (Run.refl (pmfSaQueryInit 2 2))).2.2.2.2 4
  have three := (run [.tick 4, .tick 4, .tick 4] (by decide)).2.2 (by simp)
  have four := (run [.tick 4, .tick 4, .tick 4, .tick 4] (by decide)).2.2 (by simp)
  exact ⟨three, four⟩

end Machine

end Rf2a4m1
