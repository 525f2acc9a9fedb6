import Rf2a4m1.Glue.ScanSteps
import Mathlib.Tactic.Common

/-!
# A scan is completed exactly once

A request that was taken is in one hand at a time: in flight, with the thread
that took it out to report it, or reported. This holds as long as the call that
starts a scan and the calls that stop one do not overlap.
-/

set_option autoImplicit false

namespace Rf2a4m1

open Runs

/-- Between taking the request and returning. -/
def ScanCall.inProgress : ScanCall → Bool
  | took | up | told | unwinding _ => true
  | _ => false

/-- In progress, or returned with success. -/
def ScanCall.taken : ScanCall → Bool
  | took | up | told | unwinding _ | returned none => true
  | _ => false

namespace Sweep

/-- Running, and not yet past the section that takes the request out. -/
def active : Sweep → Bool
  | idle | report _ _ => false
  | _ => true

/-- The request that was read. -/
def holds : Sweep → Option Nat
  | read r _ | tune r _ | tuned r _ _ | probe r _ | rearm r | finish r _ => some r
  | _ => none

def reports : Sweep → Option Nat
  | report req _ => req
  | _ => none

end Sweep

namespace ScanEvent

def isDone (r : Nat) : ScanEvent → Bool
  | done r' _ => r' = r
  | _ => false

/-- An event in which a request is looked at or reported. -/
def about : ScanEvent → Nat
  | use r | setChannel r _ | done r _ => r

/-- The position an event tunes to for a request. -/
def tunes (r : Nat) : ScanEvent → Option Nat
  | setChannel r' idx => if r' = r then some idx else none
  | _ => none

end ScanEvent

/-- How often a request was reported. -/
def dones (r : Nat) (log : List ScanEvent) : Nat := log.countP (ScanEvent.isDone r)

/-- The positions tuned to for a request, oldest first. -/
def tunings (r : Nat) (log : List ScanEvent) : List Nat := (log.filterMap (ScanEvent.tunes r)).reverse

/-- Nothing is done with a request after it was reported. -/
def Ordered : List ScanEvent → Prop
  | [] => True
  | e :: rest => dones e.about rest = 0 ∧ Ordered rest

/-- No thread is on its way. -/
def ScanSys.Quiescent (s : ScanSys) : Prop :=
  s.scanReq = none ∧ s.sweep = .idle ∧ s.stops = [] ∧ ∀ r, (s.call r).inProgress = false

/-- The law of a scan. -/
structure ExactlyOnce (reqs : Nat → ScanRequest) (s : ScanSys) : Prop where
  once : ∀ r, dones r s.log ≤ 1
  completed : s.Quiescent → ∀ r, s.call r = .returned none → dones r s.log = 1
  refused : ∀ r e, s.call r = .returned (some e) → dones r s.log = 0
  unused : ∀ later r aborted earlier, s.log = later ++ .done r aborted :: earlier →
    ∀ e ∈ later, e.about ≠ r
  swept : ∀ later r earlier, s.log = later ++ .done r false :: earlier →
    tunings r earlier = List.range (reqs r).channels.length

/-- The calls that start and stop a scan do not overlap. -/
def Apart (s : ScanSys) : ScanOp → Prop
  | .take r => s.call r = .entered → s.scanReq = none → s.stops = []
  | .stopEnter => ∀ r, s.scanReq = some r → s.call r = .returned none
  | _ => True

/-- What a step is: nothing, or the next step of a thread. -/
inductive ScanMoves (reqs : Nat → ScanRequest) (s : ScanSys) : ScanOp → ScanSys → Prop where
  | idle (op : ScanOp) : ScanMoves reqs s op s
  | gone {r : Nat} (at' : s.call r = .fresh) :
    ScanMoves reqs s (.enter r) (s.setCall r (.returned (some .nodev)))
  | entered {r : Nat} (at' : s.call r = .fresh) :
    ScanMoves reqs s (.enter r) (s.setCall r .entered)
  | busy {r : Nat} (at' : s.call r = .entered) :
    ScanMoves reqs s (.take r) (s.setCall r (.returned (some .busy)))
  | took {r : Nat} (at' : s.call r = .entered) (free : s.scanReq = none) :
    ScanMoves reqs s (.take r)
      { s.setCall r .took with scanReq := some r, scanChanIdx := 0, scanCurFreq := 0
                               scanAborted := false }
  | up {r : Nat} (at' : s.call r = .took) : ScanMoves reqs s (.ensure r none) (s.setCall r .up)
  | unwinding {r : Nat} (at' : s.call r = .took) (e : Errno) :
    ScanMoves reqs s (.ensure r (some e)) (s.setCall r (.unwinding e))
  | unwound {r : Nat} {e : Errno} (at' : s.call r = .unwinding e) :
    ScanMoves reqs s (.unwind r) { s.setCall r (.returned (some e)) with scanReq := none }
  | told {r : Nat} (at' : s.call r = .up) :
    ScanMoves reqs s (.tell r) { s.setCall r .told with log := .use r :: s.log }
  | scheduled {r : Nat} (at' : s.call r = .told) :
    ScanMoves reqs s (.schedule r) { s.setCall r (.returned none) with scanWork := true }
  | started (at' : s.sweep = .idle) (due : s.scanWork = true) :
    ScanMoves reqs s .workStart { s with sweep := .started, scanWork := false }
  | missed (at' : s.sweep = .started) (none : s.scanReq = none) :
    ScanMoves reqs s .workRead { s with sweep := .idle }
  | read {r : Nat} (at' : s.sweep = .started) (some : s.scanReq = some r) :
    ScanMoves reqs s .workRead { s with sweep := .read r s.scanChanIdx }
  | aborts {r idx : Nat} (at' : s.sweep = .read r idx) :
    ScanMoves reqs s .workCheck { s with sweep := .finish r true }
  | ends {r idx : Nat} (at' : s.sweep = .read r idx) (past : (reqs r).channels.length ≤ idx) :
    ScanMoves reqs s .workCheck { s with sweep := .finish r false, log := .use r :: s.log }
  | next {r idx : Nat} (at' : s.sweep = .read r idx) (more : idx < (reqs r).channels.length) :
    ScanMoves reqs s .workCheck { s with sweep := .tune r idx, log := .use r :: s.log }
  | tuned {r idx : Nat} (at' : s.sweep = .tune r idx) (ok : Bool) :
    ScanMoves reqs s (.workTune ok)
      { s with sweep := .tuned r idx ok, log := .setChannel r idx :: s.log }
  | advanced {r idx : Nat} {ok : Bool} (at' : s.sweep = .tuned r idx ok) :
    ScanMoves reqs s .workAdvance
      { s with sweep := .probe r ok, scanCurFreq := sweepFreq reqs r idx ok
               scanChanIdx := idx + 1 }
  | probed {r : Nat} {ok : Bool} (at' : s.sweep = .probe r ok) :
    ScanMoves reqs s .workProbe
      { s with sweep := .rearm r, log := if ok then .use r :: s.log else s.log }
  | rearmed {r : Nat} (at' : s.sweep = .rearm r) :
    ScanMoves reqs s .workRearm { s with sweep := .idle, scanWork := true }
  | swapped {r : Nat} {aborted : Bool} (at' : s.sweep = .finish r aborted) :
    ScanMoves reqs s .workSwap
      { s with sweep := .report s.scanReq aborted, scanReq := none, scanCurFreq := 0 }
  | reported {req : Option Nat} {aborted : Bool} (at' : s.sweep = .report req aborted) :
    ScanMoves reqs s .workDone
      { s with sweep := .idle, log := ScanSys.reported req aborted s.log }
  | stopsNothing (none : s.scanReq = none) :
    ScanMoves reqs s .stopEnter { s with scanAborted := true }
  | stopsScan {r : Nat} (some : s.scanReq = some r) :
    ScanMoves reqs s .stopEnter { s with scanAborted := true, stops := .found :: s.stops }
  | cancelled (found : ScanStop.found ∈ s.stops) (at' : s.sweep = .idle) :
    ScanMoves reqs s .stopCancel
      { s with scanWork := false, stops := .cancelled :: s.stops.erase .found }
  | stopSwapped (cancelled : ScanStop.cancelled ∈ s.stops) :
    ScanMoves reqs s .stopSwap
      { s with scanReq := none, scanCurFreq := 0
               stops := .report s.scanReq :: s.stops.erase .cancelled }
  | stopReported {req : Option Nat} (holds : ScanStop.report req ∈ s.stops) :
    ScanMoves reqs s (.stopDone req)
      { s with stops := s.stops.erase (.report req), log := ScanSys.reported req true s.log }
  | removing : ScanMoves reqs s .remove { s with removing := true }

theorem scanStep_moves (reqs : Nat → ScanRequest) (s : ScanSys) (op : ScanOp) :
    ScanMoves reqs s op (scanStep reqs s op) := by
  cases op with
  | enter r =>
    simp only [scanStep, scanEnter]
    split
    · rename_i at'
      split
      · exact .gone at'
      · exact .entered at'
    · exact .idle _
  | take r =>
    simp only [scanStep, scanTake]
    split
    · rename_i at'
      split
      · exact .busy at'
      · rename_i free
        exact .took at' (by simpa using free)
    · exact .idle _
  | ensure r e =>
    simp only [scanStep, scanEnsure]
    split
    · rename_i at'
      cases e with
      | none => exact .up at'
      | some e => exact .unwinding at' e
    · exact .idle _
  | unwind r =>
    simp only [scanStep, scanUnwind]
    split
    · rename_i at'
      exact .unwound at'
    · exact .idle _
  | tell r =>
    simp only [scanStep, scanTell]
    split
    · rename_i at'
      exact .told at'
    · exact .idle _
  | schedule r =>
    simp only [scanStep, scanSchedule]
    split
    · rename_i at'
      exact .scheduled at'
    · exact .idle _
  | workStart =>
    simp only [scanStep, sweepStart]
    split
    · rename_i at'
      split
      · rename_i due
        exact .started at' due
      · exact .idle _
    · exact .idle _
  | workRead =>
    simp only [scanStep, sweepRead]
    split
    · rename_i at'
      split
      · rename_i none
        exact .missed at' none
      · rename_i r some
        exact .read at' some
    · exact .idle _
  | workCheck =>
    simp only [scanStep, sweepCheck]
    split
    · rename_i at'
      split
      · exact .aborts at'
      split
      · rename_i past
        exact .ends at' past
      · rename_i more
        exact .next at' (Nat.lt_of_not_le more)
    · exact .idle _
  | workTune ok =>
    simp only [scanStep, sweepTune]
    split
    · rename_i at'
      exact .tuned at' ok
    · exact .idle _
  | workAdvance =>
    simp only [scanStep, sweepAdvance]
    split
    · rename_i at'
      exact .advanced at'
    · exact .idle _
  | workProbe =>
    simp only [scanStep, sweepProbe]
    split
    · rename_i at'
      exact .probed at'
    · exact .idle _
  | workRearm =>
    simp only [scanStep, sweepRearm]
    split
    · rename_i at'
      exact .rearmed at'
    · exact .idle _
  | workSwap =>
    simp only [scanStep, sweepSwap]
    split
    · rename_i at'
      exact .swapped at'
    · exact .idle _
  | workDone =>
    simp only [scanStep, sweepDone]
    split
    · rename_i at'
      exact .reported at'
    · exact .idle _
  | stopEnter =>
    simp only [scanStep, stopEnter]
    split
    · rename_i flying
      obtain ⟨r, some⟩ := Option.isSome_iff_exists.1 flying
      exact .stopsScan some
    · rename_i none
      exact .stopsNothing (by simpa using none)
  | stopCancel =>
    simp only [scanStep, stopCancel]
    split
    · rename_i found
      exact .cancelled found.1 found.2
    · exact .idle _
  | stopSwap =>
    simp only [scanStep, stopSwap]
    split
    · rename_i cancelled
      exact .stopSwapped cancelled
    · exact .idle _
  | stopDone req =>
    simp only [scanStep, stopDone]
    split
    · rename_i holds
      exact .stopReported holds
    · exact .idle _
  | remove => exact .removing

/-- Which thread may be where. -/
structure ThreadInv (s : ScanSys) : Prop where
  busy : ∀ r, (s.call r).inProgress = true → s.scanReq = some r
  queued : s.scanWork = true → ∃ r, s.scanReq = some r ∧ s.call r = .returned none
  active : s.sweep.active = true → s.scanWork = false ∧
    ∃ r, s.scanReq = some r ∧ s.call r = .returned none ∧ ∀ x, s.sweep.holds = some x → x = r
  stopping : ∀ x ∈ s.stops, ∀ r, (s.call r).inProgress = false
  cancelled : ScanStop.cancelled ∈ s.stops → s.scanWork = false ∧ s.sweep = .idle

/-- The hands a request is in. -/
def ScanSys.owners (s : ScanSys) (r : Nat) : Nat :=
  (if s.scanReq = some r then 1 else 0) + (if s.sweep.reports = some r then 1 else 0) +
    s.stops.count (.report (some r)) + dones r s.log

/-- A request that was taken is in one hand, any other in none. -/
def OwnerInv (s : ScanSys) : Prop := ∀ r, s.owners r = if (s.call r).taken then 1 else 0

section Log

variable (r x idx : Nat) (aborted : Bool) (log : List ScanEvent)

@[simp] theorem dones_use : dones r (.use x :: log) = dones r log := rfl

@[simp] theorem dones_setChannel : dones r (.setChannel x idx :: log) = dones r log := rfl

theorem dones_done : dones r (.done x aborted :: log) = dones r log + if x = r then 1 else 0 := by
  unfold dones
  rw [List.countP_cons]
  simp [ScanEvent.isDone]

theorem dones_reported (req : Option Nat) :
    dones r (ScanSys.reported req aborted log) = dones r log + if req = some r then 1 else 0 := by
  cases req with
  | none => simp [ScanSys.reported]
  | some x => simp [ScanSys.reported, dones_done]

@[simp] theorem tunings_use : tunings r (.use x :: log) = tunings r log := rfl

@[simp] theorem tunings_done : tunings r (.done x aborted :: log) = tunings r log := rfl

theorem tunings_setChannel :
    tunings r (.setChannel x idx :: log) =
      if x = r then tunings r log ++ [idx] else tunings r log := by
  unfold tunings
  by_cases same : x = r
  · simp [ScanEvent.tunes, same]
  · simp [ScanEvent.tunes, same]

@[simp] theorem tunings_reported (req : Option Nat) :
    tunings r (ScanSys.reported req aborted log) = tunings r log := by
  cases req with
  | none => rfl
  | some x => rfl

end Log

section Step

variable {reqs : Nat → ScanRequest} {s t : ScanSys} {op : ScanOp}

/-- A request is taken when nothing is queued, swept or stopped. -/
theorem took_alone {r : Nat} (inv : ThreadInv s) (apart : Apart s (.take r))
    (at' : s.call r = .entered) (free : s.scanReq = none) :
    s.stops = [] ∧ s.scanWork = false ∧ s.sweep.active = false := by
  obtain ⟨_, queued, active, _, _⟩ := inv
  refine ⟨apart at' free, ?_, ?_⟩
  · grind
  · grind

/-- While a call is in progress no other thread has anything to do. -/
theorem inProgress_alone {r : Nat} (inv : ThreadInv s) (here : (s.call r).inProgress = true) :
    s.stops = [] ∧ s.scanWork = false ∧ s.sweep.active = false := by
  obtain ⟨busy, queued, active, stopping, _⟩ := inv
  have mine := busy r here
  refine ⟨?_, ?_, ?_⟩
  · refine List.eq_nil_iff_forall_not_mem.2 fun x mem => ?_
    rw [stopping x mem r] at here
    cases here
  · grind [ScanCall.inProgress]
  · grind [ScanCall.inProgress]

theorem moves_busy (moves : ScanMoves reqs s op t) (inv : ThreadInv s) (r : Nat)
    (here : (t.call r).inProgress = true) : t.scanReq = some r := by
  have busy := inv.busy
  cases moves with
  | unwound at' =>
    have mine := busy _ (by rw [at']; rfl)
    grind [ScanCall.inProgress]
  | took at' free => grind
  | swapped at' =>
    obtain ⟨_, x, mine, returned, _⟩ := inv.active (by rw [at']; rfl)
    grind [ScanCall.inProgress]
  | stopSwapped holds =>
    have nobody := inv.stopping _ holds
    grind
  | _ => grind [ScanCall.inProgress]

theorem moves_queued (moves : ScanMoves reqs s op t) (inv : ThreadInv s) (apart : Apart s op)
    (due : t.scanWork = true) : ∃ r, t.scanReq = some r ∧ t.call r = .returned none := by
  have queued := inv.queued
  cases moves with
  | took at' free =>
    have alone := took_alone inv apart at' free
    exact absurd (alone.2.1.symm.trans due) Bool.false_ne_true
  | unwound at' =>
    have alone := inProgress_alone inv (by rw [at']; rfl)
    exact absurd (alone.2.1.symm.trans due) Bool.false_ne_true
  | scheduled at' =>
    have mine := inv.busy _ (by rw [at']; rfl)
    exact ⟨_, mine, if_pos rfl⟩
  | rearmed at' =>
    obtain ⟨_, x, mine, returned, _⟩ := inv.active (by rw [at']; rfl)
    exact ⟨x, mine, returned⟩
  | swapped at' =>
    obtain ⟨unqueued, _⟩ := inv.active (by rw [at']; rfl)
    exact absurd (unqueued.symm.trans due) Bool.false_ne_true
  | stopSwapped holds =>
    exact absurd ((inv.cancelled holds).1.symm.trans due) Bool.false_ne_true
  | started at' => cases due
  | cancelled found at' => cases due
  | _ => grind

theorem moves_active (moves : ScanMoves reqs s op t) (inv : ThreadInv s) (apart : Apart s op)
    (runs : t.sweep.active = true) : t.scanWork = false ∧
      ∃ r, t.scanReq = some r ∧ t.call r = .returned none ∧ ∀ x, t.sweep.holds = some x → x = r := by
  have active := inv.active
  cases moves with
  | took at' free =>
    have alone := took_alone inv apart at' free
    exact absurd (alone.2.2.symm.trans runs) Bool.false_ne_true
  | unwound at' =>
    have alone := inProgress_alone inv (by rw [at']; rfl)
    exact absurd (alone.2.2.symm.trans runs) Bool.false_ne_true
  | scheduled at' =>
    have alone := inProgress_alone inv (by rw [at']; rfl)
    exact absurd (alone.2.2.symm.trans runs) Bool.false_ne_true
  | started at' due =>
    obtain ⟨r, mine, returned⟩ := inv.queued due
    exact ⟨rfl, r, mine, returned, fun x none => nomatch none⟩
  | stopSwapped holds =>
    rw [(inv.cancelled holds).2] at runs
    cases runs
  | missed => cases runs
  | rearmed => cases runs
  | swapped => cases runs
  | reported => cases runs
  | _ => grind [Sweep.active, Sweep.holds]

theorem moves_stopping (moves : ScanMoves reqs s op t) (inv : ThreadInv s) (apart : Apart s op)
    (x : ScanStop) (mem : x ∈ t.stops) (r : Nat) : (t.call r).inProgress = false := by
  have stopping := inv.stopping
  cases moves with
  | took at' free =>
    have alone := took_alone inv apart at' free
    have mem : x ∈ s.stops := mem
    rw [alone.1] at mem
    cases mem
  | stopsScan some =>
    have returned := apart _ some
    have busy := inv.busy
    grind [ScanCall.inProgress]
  | cancelled found at' => exact stopping _ found r
  | stopSwapped holds => exact stopping _ holds r
  | stopReported holds => exact stopping x (List.mem_of_mem_erase mem) r
  | _ => grind [ScanCall.inProgress]

theorem moves_cancelled (moves : ScanMoves reqs s op t) (inv : ThreadInv s) (apart : Apart s op)
    (mem : ScanStop.cancelled ∈ t.stops) : t.scanWork = false ∧ t.sweep = .idle := by
  have cancelled := inv.cancelled
  cases moves with
  | scheduled at' =>
    have alone := inProgress_alone inv (by rw [at']; rfl)
    have mem : ScanStop.cancelled ∈ s.stops := mem
    rw [alone.1] at mem
    cases mem
  | stopsScan some => exact cancelled (List.mem_of_ne_of_mem ScanStop.noConfusion mem)
  | cancelled found at' => exact ⟨rfl, at'⟩
  | stopSwapped holds => exact cancelled holds
  | stopReported holds => exact cancelled (List.mem_of_mem_erase mem)
  | _ => grind

/-- Where the calls do not overlap each thread stays where the others expect it. -/
theorem moves_threads (moves : ScanMoves reqs s op t) (inv : ThreadInv s) (apart : Apart s op) :
    ThreadInv t where
  busy := moves_busy moves inv
  queued := moves_queued moves inv apart
  active := moves_active moves inv apart
  stopping := moves_stopping moves inv apart
  cancelled := moves_cancelled moves inv apart

/-- A step passes a request on, or leaves it where it is. -/
theorem moves_owners (moves : ScanMoves reqs s op t) (threads : ThreadInv s) (inv : OwnerInv s) :
    OwnerInv t := by
  intro r
  have one := inv r
  unfold ScanSys.owners at one ⊢
  cases moves with
  | idle => exact one
  | took at' free =>
    simp only [ScanSys.setCall]
    grind [ScanCall.taken]
  | unwound at' =>
    have mine := threads.busy _ (by rw [at']; rfl)
    simp only [ScanSys.setCall]
    grind [ScanCall.taken]
  | swapped at' => grind [Sweep.reports]
  | reported at' =>
    have mine : s.sweep.reports = _ := congrArg Sweep.reports at'
    simp only [dones_reported]
    grind [Sweep.reports]
  | stopSwapped holds => grind
  | stopReported holds =>
    have some := List.count_pos_iff.2 holds
    simp only [dones_reported]
    grind
  | _ =>
    simp only [ScanSys.setCall]
    grind [ScanCall.taken, Sweep.reports, dones_use, dones_setChannel]

/-- A request that somebody still has was not reported. -/
theorem dones_of_flying {r : Nat} (inv : OwnerInv s) (flying : s.scanReq = some r) :
    dones r s.log = 0 := by
  have one := inv r
  unfold ScanSys.owners at one
  split at one <;> split at one <;> grind

theorem dones_of_sweep {r : Nat} (inv : OwnerInv s) (mine : s.sweep.reports = some r) :
    dones r s.log = 0 := by
  have one := inv r
  unfold ScanSys.owners at one
  grind

theorem dones_of_stop {r : Nat} (inv : OwnerInv s) (mine : ScanStop.report (some r) ∈ s.stops) :
    dones r s.log = 0 := by
  have one := inv r
  have positive := List.count_pos_iff.2 mine
  unfold ScanSys.owners at one
  grind

theorem ordered_reported {req : Option Nat} {aborted : Bool} {log : List ScanEvent}
    (ordered : Ordered log) (undone : ∀ r, req = some r → dones r log = 0) :
    Ordered (ScanSys.reported req aborted log) := by
  cases req with
  | none => exact ordered
  | some r => exact ⟨undone r rfl, ordered⟩

/-- The sweep looks at the request that is in flight. -/
theorem ThreadInv.holds (threads : ThreadInv s) {r : Nat} (mine : s.sweep.holds = some r) :
    s.scanReq = some r := by
  have active : s.sweep.active = true := by
    cases at' : s.sweep <;> rw [at'] at mine <;> first | rfl | cases mine
  obtain ⟨_, x, flying, _, same⟩ := threads.active active
  rw [flying, same r mine]

theorem moves_ordered (moves : ScanMoves reqs s op t) (threads : ThreadInv s) (inv : OwnerInv s)
    (ordered : Ordered s.log) : Ordered t.log := by
  have looks {r : Nat} (mine : s.sweep.holds = some r) : dones r s.log = 0 :=
    dones_of_flying inv (threads.holds mine)
  cases moves with
  | @told r at' =>
    have flying : s.scanReq = some r := threads.busy r (by rw [at']; rfl)
    exact ⟨dones_of_flying inv flying, ordered⟩
  | ends at' => exact ⟨looks (by rw [at']; rfl), ordered⟩
  | next at' => exact ⟨looks (by rw [at']; rfl), ordered⟩
  | tuned at' => exact ⟨looks (by rw [at']; rfl), ordered⟩
  | @probed r ok at' =>
    cases ok with
    | false => exact ordered
    | true => exact ⟨looks (by rw [at']; rfl), ordered⟩
  | reported at' =>
    exact ordered_reported ordered fun r mine => dones_of_sweep inv (by rw [at', mine]; rfl)
  | stopReported holds =>
    exact ordered_reported ordered fun r mine => dones_of_stop inv (mine ▸ holds)
  | _ => exact ordered

/-- How far the channels of the request in flight were tuned to. -/
def ScanSys.reached (s : ScanSys) : Nat :=
  match s.sweep with
  | .tuned _ idx _ => idx + 1
  | _ => s.scanChanIdx

/-- Every completion that was not aborted came after all channels. -/
def SweptLog (reqs : Nat → ScanRequest) : List ScanEvent → Prop
  | [] => True
  | e :: rest =>
    (∀ r, e = .done r false → tunings r rest = List.range (reqs r).channels.length) ∧
      SweptLog reqs rest

/-- The sweep visits the channels in order. -/
structure SweepInv (reqs : Nat → ScanRequest) (s : ScanSys) : Prop where
  unstarted : ∀ r, s.call r = .fresh ∨ s.call r = .entered → tunings r s.log = []
  bounded : ∀ r, s.scanReq = some r → s.scanChanIdx ≤ (reqs r).channels.length
  flying : ∀ r, s.scanReq = some r → tunings r s.log = List.range s.reached
  reads : ∀ r idx, s.sweep = .read r idx → idx = s.scanChanIdx
  tunes : ∀ r idx, s.sweep = .tune r idx →
    idx = s.scanChanIdx ∧ idx < (reqs r).channels.length
  advances : ∀ r idx ok, s.sweep = .tuned r idx ok →
    idx = s.scanChanIdx ∧ idx < (reqs r).channels.length
  finishes : ∀ r, s.sweep = .finish r false → s.scanChanIdx = (reqs r).channels.length
  reports : ∀ r, s.sweep = .report (some r) false →
    tunings r s.log = List.range (reqs r).channels.length

/-- A step of another thread. -/
theorem SweepInv.same (inv : SweepInv reqs s) (sweep : t.sweep = s.sweep)
    (idx : t.scanChanIdx = s.scanChanIdx) (req : ∀ r, t.scanReq = some r → s.scanReq = some r)
    (log : ∀ r, tunings r t.log = tunings r s.log)
    (call : ∀ r, t.call r = .fresh ∨ t.call r = .entered → s.call r = .fresh ∨ s.call r = .entered) :
    SweepInv reqs t := by
  have reached : t.reached = s.reached := by
    unfold ScanSys.reached
    rw [sweep, idx]
  refine ⟨fun r early => ?_, fun r mine => ?_, fun r mine => ?_, ?_, ?_, ?_, ?_, fun r last => ?_⟩
  · rw [log]
    exact inv.unstarted r (call r early)
  · rw [idx]
    exact inv.bounded r (req r mine)
  · rw [log, reached]
    exact inv.flying r (req r mine)
  · rw [sweep, idx]
    exact inv.reads
  · rw [sweep, idx]
    exact inv.tunes
  · rw [sweep, idx]
    exact inv.advances
  · rw [sweep, idx]
    exact inv.finishes
  · rw [log]
    exact inv.reports r (sweep ▸ last)

/-- A step of the sweep that neither tunes nor moves on. -/
theorem SweepInv.walks (inv : SweepInv reqs s) (idx : t.scanChanIdx = s.scanChanIdx)
    (req : ∀ r, t.scanReq = some r → s.scanReq = some r)
    (log : ∀ r, tunings r t.log = tunings r s.log) (call : t.call = s.call)
    (leaves : ∀ x i ok, s.sweep ≠ .tuned x i ok) (arrives : ∀ x i ok, t.sweep ≠ .tuned x i ok)
    (reads : ∀ r i, t.sweep = .read r i → i = s.scanChanIdx)
    (tunes : ∀ r i, t.sweep = .tune r i → i = s.scanChanIdx ∧ i < (reqs r).channels.length)
    (finishes : ∀ r, t.sweep = .finish r false → s.scanChanIdx = (reqs r).channels.length)
    (reports : ∀ r, t.sweep = .report (some r) false →
      tunings r s.log = List.range (reqs r).channels.length) :
    SweepInv reqs t := by
  have resting {u : ScanSys} (still : ∀ x i ok, u.sweep ≠ .tuned x i ok) :
      u.reached = u.scanChanIdx := by
    unfold ScanSys.reached
    split
    · rename_i at'
      exact absurd at' (still _ _ _)
    · rfl
  refine ⟨fun r early => ?_, fun r mine => ?_, fun r mine => ?_, ?_, ?_, ?_, ?_, fun r last => ?_⟩
  · rw [log]
    rw [call] at early
    exact inv.unstarted r early
  · rw [idx]
    exact inv.bounded r (req r mine)
  · rw [log, resting arrives, idx, ← resting leaves]
    exact inv.flying r (req r mine)
  · rw [idx]
    exact reads
  · rw [idx]
    exact tunes
  · exact fun r i ok at' => absurd at' (arrives r i ok)
  · rw [idx]
    exact finishes
  · rw [log]
    exact reports r last

/-- A request is taken with nothing tuned to and the sweep at rest. -/
theorem sweep_took {r : Nat} (threads : ThreadInv s) (inv : SweepInv reqs s)
    (at' : s.call r = .entered) (free : s.scanReq = none) :
    SweepInv reqs { s.setCall r .took with scanReq := some r, scanChanIdx := 0, scanCurFreq := 0
                                           scanAborted := false } := by
  have resting : s.sweep.active = false := by
    cases active : s.sweep.active with
    | false => rfl
    | true =>
      obtain ⟨_, x, flying, _⟩ := threads.active active
      rw [free] at flying
      cases flying
  have rest {w : Sweep} (going : w.active = true) : s.sweep ≠ w := by
    rintro rfl
    rw [resting] at going
    cases going
  refine ⟨fun x early => ?_, fun x mine => Nat.zero_le _, fun x mine => ?_, ?_, ?_, ?_, ?_,
    inv.reports⟩
  · dsimp only [ScanSys.setCall] at early ⊢
    split at early
    · rcases early with h | h <;> cases h
    · exact inv.unstarted x early
  · obtain rfl : r = x := Option.some.inj mine
    have reached : ScanSys.reached { s.setCall r .took with
        scanReq := some r, scanChanIdx := 0, scanCurFreq := 0, scanAborted := false } = 0 := by
      unfold ScanSys.reached
      split
      · rename_i going
        exact absurd going (rest rfl)
      · rfl
    rw [reached]
    exact inv.unstarted r (Or.inr at')
  · exact fun x i going => absurd going (rest rfl)
  · exact fun x i going => absurd going (rest rfl)
  · exact fun x i ok going => absurd going (rest rfl)
  · exact fun x going => absurd going (rest rfl)

/-- The next channel is tuned to. -/
theorem sweep_tuned {r idx : Nat} (ok : Bool) (threads : ThreadInv s) (inv : SweepInv reqs s)
    (at' : s.sweep = .tune r idx) :
    SweepInv reqs { s with sweep := .tuned r idx ok, log := .setChannel r idx :: s.log } := by
  have mine := threads.holds (r := r) (by rw [at']; rfl)
  obtain ⟨_, x, flying, returned, _⟩ := threads.active (by rw [at']; rfl)
  obtain rfl : x = r := Option.some.inj (flying.symm.trans mine)
  obtain ⟨here, more⟩ := inv.tunes x idx at'
  have before := inv.flying x mine
  have reached : s.reached = idx := by
    unfold ScanSys.reached
    rw [at', here]
  refine ⟨fun y early => ?_, inv.bounded, fun y flying => ?_, nofun, nofun, ?_, nofun, nofun⟩
  · rw [tunings_setChannel]
    split
    · rename_i same
      subst same
      rw [returned] at early
      rcases early with h | h <;> cases h
    · exact inv.unstarted y early
  · obtain rfl : x = y := Option.some.inj (mine.symm.trans flying)
    rw [tunings_setChannel, if_pos rfl, before, reached]
    exact List.range_succ.symm
  · rintro y i ok' ⟨⟩
    exact ⟨here, more⟩

/-- The sweep moves on to the next channel. -/
theorem sweep_advanced {r idx : Nat} {ok : Bool} (threads : ThreadInv s) (inv : SweepInv reqs s)
    (at' : s.sweep = .tuned r idx ok) :
    SweepInv reqs { s with sweep := .probe r ok, scanCurFreq := sweepFreq reqs r idx ok
                           scanChanIdx := idx + 1 } := by
  have mine := threads.holds (r := r) (by rw [at']; rfl)
  have more := (inv.advances r idx ok at').2
  have reached : s.reached = idx + 1 := by
    unfold ScanSys.reached
    rw [at']
  refine ⟨inv.unstarted, fun y flying => ?_, fun y flying => ?_, nofun, nofun, nofun, nofun,
    nofun⟩
  · obtain rfl : r = y := Option.some.inj (mine.symm.trans flying)
    exact more
  · rw [← reached]
    exact inv.flying y flying

theorem moves_sweep (moves : ScanMoves reqs s op t) (threads : ThreadInv s)
    (inv : SweepInv reqs s) : SweepInv reqs t := by
  have other {r : Nat} {c : ScanCall} (later : c ≠ .fresh)
      (entered : c = .entered → s.call r = .fresh) (x : Nat)
      (early : (s.setCall r c).call x = .fresh ∨ (s.setCall r c).call x = .entered) :
      s.call x = .fresh ∨ s.call x = .entered := by
    dsimp only [ScanSys.setCall] at early
    split at early
    · rename_i same
      rcases early with fresh | was
      · exact absurd fresh later
      · exact Or.inl (same ▸ entered was)
    · exact early
  have none {r : Nat} {p : Prop} (flying : Option.none = some r) : p := by cases flying
  cases moves with
  | idle => exact inv
  | gone => exact inv.same rfl rfl (fun _ => id) (fun _ => rfl) (other nofun nofun)
  | entered at' => exact inv.same rfl rfl (fun _ => id) (fun _ => rfl) (other nofun fun _ => at')
  | busy => exact inv.same rfl rfl (fun _ => id) (fun _ => rfl) (other nofun nofun)
  | took at' free => exact sweep_took threads inv at' free
  | up => exact inv.same rfl rfl (fun _ => id) (fun _ => rfl) (other nofun nofun)
  | unwinding => exact inv.same rfl rfl (fun _ => id) (fun _ => rfl) (other nofun nofun)
  | unwound => exact inv.same rfl rfl (fun _ => none) (fun _ => rfl) (other nofun nofun)
  | told => exact inv.same rfl rfl (fun _ => id) (fun _ => rfl) (other nofun nofun)
  | scheduled => exact inv.same rfl rfl (fun _ => id) (fun _ => rfl) (other nofun nofun)
  | stopsNothing => exact inv.same rfl rfl (fun _ => id) (fun _ => rfl) fun _ => id
  | stopsScan => exact inv.same rfl rfl (fun _ => id) (fun _ => rfl) fun _ => id
  | cancelled => exact inv.same rfl rfl (fun _ => id) (fun _ => rfl) fun _ => id
  | stopSwapped => exact inv.same rfl rfl (fun _ => none) (fun _ => rfl) fun _ => id
  | stopReported =>
    exact inv.same rfl rfl (fun _ => id) (fun r => tunings_reported r true s.log _) fun _ => id
  | removing => exact inv.same rfl rfl (fun _ => id) (fun _ => rfl) fun _ => id
  | started at' =>
    exact inv.walks rfl (fun _ => id) (fun _ => rfl) rfl (by simp [at']) nofun nofun nofun nofun
      nofun
  | missed at' =>
    exact inv.walks rfl (fun _ => id) (fun _ => rfl) rfl (by simp [at']) nofun nofun nofun nofun
      nofun
  | read at' =>
    refine inv.walks rfl (fun _ => id) (fun _ => rfl) rfl (by simp [at']) nofun ?_ nofun nofun nofun
    rintro x i ⟨⟩
    rfl
  | aborts at' =>
    exact inv.walks rfl (fun _ => id) (fun _ => rfl) rfl (by simp [at']) nofun nofun nofun nofun
      nofun
  | @ends r idx at' past =>
    refine inv.walks rfl (fun _ => id) (fun _ => rfl) rfl (by simp [at']) nofun nofun nofun ?_ nofun
    rintro x ⟨⟩
    have here := inv.reads r idx at'
    have below := inv.bounded r (threads.holds (by rw [at']; rfl))
    omega
  | @next r idx at' more =>
    refine inv.walks rfl (fun _ => id) (fun _ => rfl) rfl (by simp [at']) nofun nofun ?_ nofun nofun
    rintro x i ⟨⟩
    exact ⟨inv.reads r idx at', more⟩
  | tuned at' ok => exact sweep_tuned ok threads inv at'
  | advanced at' => exact sweep_advanced threads inv at'
  | @probed r ok at' =>
    refine inv.walks rfl (fun _ => id) (fun x => ?_) rfl (by simp [at']) nofun nofun nofun nofun
      nofun
    cases ok with
    | false => rfl
    | true => rfl
  | rearmed at' =>
    exact inv.walks rfl (fun _ => id) (fun _ => rfl) rfl (by simp [at']) nofun nofun nofun nofun
      nofun
  | @swapped r aborted at' =>
    have mine := threads.holds (r := r) (by rw [at']; rfl)
    refine inv.walks rfl (fun _ => none) (fun _ => rfl) rfl (by simp [at']) nofun nofun nofun nofun
      fun x last => ?_
    rw [mine] at last
    cases last
    have reached : s.reached = s.scanChanIdx := by
      unfold ScanSys.reached
      rw [at']
    rw [inv.flying r mine, reached, inv.finishes r at']
  | reported at' =>
    exact inv.walks rfl (fun _ => id) (fun r => tunings_reported r _ s.log _) rfl (by simp [at'])
      nofun nofun nofun nofun nofun

theorem moves_swept (moves : ScanMoves reqs s op t) (inv : SweepInv reqs s)
    (swept : SweptLog reqs s.log) : SweptLog reqs t.log := by
  cases moves with
  | told => exact ⟨nofun, swept⟩
  | ends => exact ⟨nofun, swept⟩
  | next => exact ⟨nofun, swept⟩
  | tuned => exact ⟨nofun, swept⟩
  | @probed r ok =>
    cases ok with
    | false => exact swept
    | true => exact ⟨nofun, swept⟩
  | @reported req aborted at' =>
    cases req with
    | none => exact swept
    | some r =>
      refine ⟨?_, swept⟩
      rintro x ⟨⟩
      exact inv.reports r at'
  | @stopReported req =>
    cases req with
    | none => exact swept
    | some r => exact ⟨nofun, swept⟩
  | _ => exact swept

end Step

/-- What holds in every state in which the calls did not overlap. -/
structure ScanInv (reqs : Nat → ScanRequest) (s : ScanSys) : Prop where
  threads : ThreadInv s
  owners : OwnerInv s
  ordered : Ordered s.log
  sweep : SweepInv reqs s
  swept : SweptLog reqs s.log

theorem scanInv_start (reqs : Nat → ScanRequest) : ScanInv reqs ScanSys.start where
  threads := ⟨nofun, nofun, nofun, nofun, nofun⟩
  owners _ := rfl
  ordered := trivial
  sweep := ⟨fun _ _ => rfl, nofun, nofun, nofun, nofun, nofun, nofun, nofun⟩
  swept := trivial

theorem scanInv_step {reqs : Nat → ScanRequest} {s : ScanSys} {op : ScanOp}
    (inv : ScanInv reqs s) (apart : Apart s op) : ScanInv reqs (scanStep reqs s op) := by
  have moves := scanStep_moves reqs s op
  exact
    { threads := moves_threads moves inv.threads apart
      owners := moves_owners moves inv.threads inv.owners
      ordered := moves_ordered moves inv.threads inv.owners inv.ordered
      sweep := moves_sweep moves inv.threads inv.sweep
      swept := moves_swept moves inv.sweep inv.swept }

section Reading

variable {reqs : Nat → ScanRequest} {log : List ScanEvent}

/-- What comes after a report is about other requests. -/
theorem Ordered.later {later earlier : List ScanEvent} {r : Nat} {aborted : Bool}
    (ordered : Ordered (later ++ .done r aborted :: earlier)) :
    ∀ e ∈ later, e.about ≠ r := by
  induction later with
  | nil => exact nofun
  | cons first later ih =>
    obtain ⟨undone, rest⟩ := ordered
    intro e here
    rcases List.mem_cons.1 here with rfl | here
    · rintro rfl
      have done : 0 < dones e.about (later ++ .done e.about aborted :: earlier) := by
        refine List.countP_pos_iff.2 ⟨.done e.about aborted, ?_, ?_⟩
        · exact List.mem_append_right _ List.mem_cons_self
        · simp [ScanEvent.isDone]
      exact absurd undone (Nat.ne_of_gt done)
    · exact ih rest e here

theorem SweptLog.at {later earlier : List ScanEvent} {r : Nat}
    (swept : SweptLog reqs (later ++ .done r false :: earlier)) :
    tunings r earlier = List.range (reqs r).channels.length := by
  induction later with
  | nil => exact swept.1 r rfl
  | cons first later ih => exact ih swept.2

end Reading

/-- Every scan is completed exactly once, where the call that starts it and the calls that stop one
do not overlap. -/
theorem scanOnce_run {reqs : Nat → ScanRequest} {s : ScanSys}
    (run : Run (scanStep reqs) Apart ScanSys.start s) : ExactlyOnce reqs s := by
  have inv : ScanInv reqs s :=
    run.invariant (ScanInv reqs) (scanInv_start reqs) fun s op inv apart => scanInv_step inv apart
  have bound (r : Nat) : dones r s.log ≤ if (s.call r).taken then 1 else 0 := by
    have one := inv.owners r
    unfold ScanSys.owners at one
    omega
  constructor
  · intro r
    have most := bound r
    split at most <;> omega
  · rintro ⟨free, idle, alone, _⟩ r accepted
    have one := inv.owners r
    unfold ScanSys.owners at one
    rw [free, idle, alone, accepted] at one
    simpa [Sweep.reports, ScanCall.taken] using one
  · intro r e refused
    have most := bound r
    rw [refused] at most
    exact Nat.le_zero.1 most
  · intro later r aborted earlier log
    have ordered := inv.ordered
    rw [log] at ordered
    exact ordered.later
  · intro later r earlier log
    have swept := inv.swept
    rw [log] at swept
    exact swept.at

/-- A request with one channel. -/
def demoRequest (_ : Nat) : ScanRequest :=
  { channels := [{ centerFreq := 2412, noIr := false }], ssids := [], ie := [] }

/-- A scan from its call to its completion. -/
def demoScanOps : List ScanOp :=
  [.enter 0, .take 0, .ensure 0 none, .tell 0, .schedule 0, .workStart, .workRead, .workCheck,
    .workTune true, .workAdvance, .workProbe, .workRearm, .workStart, .workRead, .workCheck,
    .workSwap, .workDone]

/-- No scan is stopped, and none is taken while one is being stopped. -/
def demoApart (s : ScanSys) : ScanOp → Bool
  | .take _ => s.stops = []
  | .stopEnter => false
  | _ => true

theorem demoApart_sound (s : ScanSys) (op : ScanOp) (checked : demoApart s op = true) :
    Apart s op := by
  cases op with
  | take => exact fun _ _ => of_decide_eq_true checked
  | stopEnter => cases checked
  | _ => trivial

theorem scanOnce_run_demo :
    dones 0 (demoScanOps.foldl (scanStep demoRequest) ScanSys.start).log = 1 ∧
      ExactlyOnce demoRequest (demoScanOps.foldl (scanStep demoRequest) ScanSys.start) :=
  ⟨by decide, scanOnce_run (Run.of_allAlong demoApart_sound (by decide))⟩

/-- A scan is stopped while the call that starts it is on its way. -/
def demoStopOps : List ScanOp :=
  [.enter 0, .take 0, .stopEnter, .stopCancel, .stopSwap, .stopDone (some 0), .ensure 0 none,
    .tell 0]

/-- The request is looked at after it was reported. -/
theorem scanOnce_stale :
    ¬∀ (reqs : Nat → ScanRequest) (s : ScanSys), Reach (scanStep reqs) ScanSys.start s →
      ExactlyOnce reqs s := by
  intro all
  have law := all demoRequest _ (Run.reach demoStopOps)
  have log : (demoStopOps.foldl (scanStep demoRequest) ScanSys.start).log =
      [.use 0] ++ .done 0 true :: [] := by decide
  exact law.unused [.use 0] 0 true [] log (.use 0) List.mem_cons_self rfl

end Rf2a4m1
