import Rf2a4m1.Glue.Frame

/-!
# A scan in its atomic steps

The call that starts a scan, the sweep and the calls that stop it run
interleaved. Each section under the scan lock is a step, and each call outside
of it. A request is known by a number.
-/

set_option autoImplicit false

namespace Rf2a4m1

open ByteString Runs

/-- Where the call that starts a scan is. -/
inductive ScanCall where
  | fresh
  | entered
  | took
  | up
  | told
  | unwinding (e : Errno)
  | returned (e : Option Errno)
deriving DecidableEq

/-- Where the sweep is: the request and position it read, and at last what it reports. -/
inductive Sweep where
  | idle
  | started
  | read (r idx : Nat)
  | tune (r idx : Nat)
  | tuned (r idx : Nat) (ok : Bool)
  | probe (r : Nat) (ok : Bool)
  | rearm (r : Nat)
  | finish (r : Nat) (aborted : Bool)
  | report (req : Option Nat) (aborted : Bool)
deriving DecidableEq

/-- Where a call that stops a scan is, once it found one. -/
inductive ScanStop where
  | found
  | cancelled
  | report (req : Option Nat)
deriving DecidableEq

/-- What is done with a request. -/
inductive ScanEvent where
  | use (r : Nat)
  | setChannel (r idx : Nat)
  | done (r : Nat) (aborted : Bool)
deriving DecidableEq

/-- The state under the scan lock, the threads, and the events, newest first. -/
structure ScanSys where
  scanReq : Option Nat
  scanChanIdx : Nat
  scanCurFreq : Nat
  scanAborted : Bool
  scanWork : Bool
  removing : Bool
  call : Nat → ScanCall
  sweep : Sweep
  stops : List ScanStop
  log : List ScanEvent

namespace ScanSys

/-- Nothing was called yet. -/
def start : ScanSys :=
  { scanReq := none, scanChanIdx := 0, scanCurFreq := 0, scanAborted := false, scanWork := false
    removing := false, call := fun _ => .fresh, sweep := .idle, stops := [], log := [] }

def setCall (s : ScanSys) (r : Nat) (c : ScanCall) : ScanSys :=
  { s with call := fun i => if i = r then c else s.call i }

section Calls

variable (s : ScanSys) (r i : Nat) (c : ScanCall)

@[simp, grind =] theorem setCall_call : (s.setCall r c).call i = if i = r then c else s.call i := rfl

@[simp, grind =] theorem setCall_scanReq : (s.setCall r c).scanReq = s.scanReq := rfl

@[simp, grind =] theorem setCall_scanWork : (s.setCall r c).scanWork = s.scanWork := rfl

@[simp, grind =] theorem setCall_sweep : (s.setCall r c).sweep = s.sweep := rfl

@[simp, grind =] theorem setCall_stops : (s.setCall r c).stops = s.stops := rfl

@[simp, grind =] theorem setCall_log : (s.setCall r c).log = s.log := rfl

end Calls

/-- A request that is in nobody's hands is not reported. -/
def reported (req : Option Nat) (aborted : Bool) (log : List ScanEvent) : List ScanEvent :=
  match req with
  | none => log
  | some r => .done r aborted :: log

end ScanSys

/-- The steps of the threads; the removal only sets the state of the device. -/
inductive ScanOp where
  | enter (r : Nat)
  | take (r : Nat)
  | ensure (r : Nat) (e : Option Errno)
  | unwind (r : Nat)
  | tell (r : Nat)
  | schedule (r : Nat)
  | workStart
  | workRead
  | workCheck
  | workTune (ok : Bool)
  | workAdvance
  | workProbe
  | workRearm
  | workSwap
  | workDone
  | stopEnter
  | stopCancel
  | stopSwap
  | stopDone (req : Option Nat)
  | remove
deriving DecidableEq

section Step

variable (reqs : Nat → ScanRequest) (s : ScanSys)

def scanEnter (r : Nat) : ScanSys :=
  match s.call r with
  | .fresh => s.setCall r (if s.removing then .returned (some .nodev) else .entered)
  | _ => s

def scanTake (r : Nat) : ScanSys :=
  match s.call r with
  | .entered =>
    if s.scanReq.isSome then s.setCall r (.returned (some .busy))
    else
      { s.setCall r .took with scanReq := some r, scanChanIdx := 0, scanCurFreq := 0
                               scanAborted := false }
  | _ => s

def scanEnsure (r : Nat) (e : Option Errno) : ScanSys :=
  match s.call r with
  | .took =>
    match e with
    | none => s.setCall r .up
    | some e => s.setCall r (.unwinding e)
  | _ => s

def scanUnwind (r : Nat) : ScanSys :=
  match s.call r with
  | .unwinding e => { s.setCall r (.returned (some e)) with scanReq := none }
  | _ => s

/-- The log line counts the channels of the request. -/
def scanTell (r : Nat) : ScanSys :=
  match s.call r with
  | .up => { s.setCall r .told with log := .use r :: s.log }
  | _ => s

def scanSchedule (r : Nat) : ScanSys :=
  match s.call r with
  | .told => { s.setCall r (.returned none) with scanWork := true }
  | _ => s

/-- The work item runs in one thread at a time. -/
def sweepStart : ScanSys :=
  match s.sweep with
  | .idle => if s.scanWork then { s with sweep := .started, scanWork := false } else s
  | _ => s

def sweepRead : ScanSys :=
  match s.sweep with
  | .started =>
    match s.scanReq with
    | none => { s with sweep := .idle }
    | some r => { s with sweep := .read r s.scanChanIdx }
  | _ => s

def sweepCheck : ScanSys :=
  match s.sweep with
  | .read r idx =>
    if s.removing ∨ s.scanAborted then { s with sweep := .finish r true }
    else if idx ≥ (reqs r).channels.length then
      { s with sweep := .finish r false, log := .use r :: s.log }
    else { s with sweep := .tune r idx, log := .use r :: s.log }
  | _ => s

def sweepTune (ok : Bool) : ScanSys :=
  match s.sweep with
  | .tune r idx => { s with sweep := .tuned r idx ok, log := .setChannel r idx :: s.log }
  | _ => s

/-- The frequency listened to, if the radio could be tuned to it. -/
def sweepFreq (r idx : Nat) (ok : Bool) : Nat :=
  if ok then (((reqs r).channels[idx]?).map ScanChannel.centerFreq).getD 0 else 0

def sweepAdvance : ScanSys :=
  match s.sweep with
  | .tuned r idx ok =>
    { s with sweep := .probe r ok, scanCurFreq := sweepFreq reqs r idx ok
             scanChanIdx := idx + 1 }
  | _ => s

def sweepProbe : ScanSys :=
  match s.sweep with
  | .probe r ok => { s with sweep := .rearm r, log := if ok then .use r :: s.log else s.log }
  | _ => s

def sweepRearm : ScanSys :=
  match s.sweep with
  | .rearm _ => { s with sweep := .idle, scanWork := true }
  | _ => s

/-- Whatever request is in flight is taken out, to be reported outside of the lock. -/
def sweepSwap : ScanSys :=
  match s.sweep with
  | .finish _ aborted =>
    { s with sweep := .report s.scanReq aborted, scanReq := none, scanCurFreq := 0 }
  | _ => s

def sweepDone : ScanSys :=
  match s.sweep with
  | .report req aborted => { s with sweep := .idle, log := ScanSys.reported req aborted s.log }
  | _ => s

def stopEnter : ScanSys :=
  if s.scanReq.isSome then { s with scanAborted := true, stops := .found :: s.stops }
  else { s with scanAborted := true }

/-- The work item is taken off the queue, and waited for if it runs. -/
def stopCancel : ScanSys :=
  if ScanStop.found ∈ s.stops ∧ s.sweep = .idle then
    { s with scanWork := false, stops := .cancelled :: s.stops.erase .found }
  else s

def stopSwap : ScanSys :=
  if ScanStop.cancelled ∈ s.stops then
    { s with scanReq := none, scanCurFreq := 0
             stops := .report s.scanReq :: s.stops.erase .cancelled }
  else s

def stopDone (req : Option Nat) : ScanSys :=
  if ScanStop.report req ∈ s.stops then
    { s with stops := s.stops.erase (.report req), log := ScanSys.reported req true s.log }
  else s

end Step

def scanStep (reqs : Nat → ScanRequest) (s : ScanSys) : ScanOp → ScanSys
  | .enter r => scanEnter s r
  | .take r => scanTake s r
  | .ensure r e => scanEnsure s r e
  | .unwind r => scanUnwind s r
  | .tell r => scanTell s r
  | .schedule r => scanSchedule s r
  | .workStart => sweepStart s
  | .workRead => sweepRead s
  | .workCheck => sweepCheck reqs s
  | .workTune ok => sweepTune s ok
  | .workAdvance => sweepAdvance reqs s
  | .workProbe => sweepProbe s
  | .workRearm => sweepRearm s
  | .workSwap => sweepSwap s
  | .workDone => sweepDone s
  | .stopEnter => stopEnter s
  | .stopCancel => stopCancel s
  | .stopSwap => stopSwap s
  | .stopDone req => stopDone s req
  | .remove => { s with removing := true }

/-- The scan state of the device in the words of the entry points. -/
def ScanSys.glue (reqs : Nat → ScanRequest) (s : ScanSys) : GlueScan :=
  { scanReq := s.scanReq.map reqs, scanChanIdx := s.scanChanIdx, scanCurFreq := s.scanCurFreq
    scanAborted := s.scanAborted, scanWork := s.scanWork }

/-- What the work item makes of the scan state, if it tunes the radio or not. -/
def GlueScan.tick (removing tuned : Bool) (g : GlueScan) : GlueScan :=
  match g.scanReq with
  | none => g
  | some req =>
    if removing ∨ g.scanAborted then { g with scanReq := none, scanCurFreq := 0 }
    else
      match req.channels[g.scanChanIdx]? with
      | none => { g with scanReq := none, scanCurFreq := 0 }
      | some chan =>
        { g with scanCurFreq := if tuned then chan.centerFreq else 0
                 scanChanIdx := g.scanChanIdx + 1, scanWork := true }

section Uninterrupted

variable {reqs : Nat → ScanRequest} {s : ScanSys}

theorem scanWorker_tick (ok : Bytes → Bool) (t : Tune) (d : GlueDev) :
    ∃ tuned, (d.scanWorker ok t).toGlueScan = d.toGlueScan.tick d.removing tuned := by
  unfold GlueDev.scanWorker GlueScan.tick
  cases flying : d.scanReq with
  | none => exact ⟨true, rfl⟩
  | some req =>
    dsimp only
    by_cases stops : d.removing = true ∨ d.scanAborted = true
    · exact ⟨true, by rw [if_pos stops, if_pos stops]; rfl⟩
    · rw [if_neg stops]
      cases req.channels[d.scanChanIdx]? with
      | none => exact ⟨true, by rw [if_neg stops]; rfl⟩
      | some chan =>
        refine ⟨(d.setChannel t chan.centerFreq).2.isNone, ?_⟩
        have kept : some req = (d.setChannel t chan.centerFreq).1.scanReq := flying.symm
        rw [if_neg stops, kept]
        dsimp only
        split
        · rfl
        · rfl

/-- The steps of a tick, once it is started, with nothing in between. -/
def sweepSteps (tuned : Bool) : List ScanOp :=
  [.workRead, .workCheck, .workTune tuned, .workAdvance, .workProbe, .workRearm, .workSwap,
    .workDone]

theorem sweepSteps_tick (started : s.sweep = .started) (tuned : Bool) :
    ((sweepSteps tuned).foldl (scanStep reqs) s).glue reqs = (s.glue reqs).tick s.removing tuned := by
  cases flying : s.scanReq with
  | none =>
    have read : sweepRead s = { s with sweep := .idle } := by simp only [sweepRead, started, flying]
    simp only [sweepSteps, List.foldl_cons, List.foldl_nil, scanStep, read]
    simp only [GlueScan.tick, flying, Option.map_none, sweepCheck, sweepTune, sweepAdvance,
      sweepProbe, sweepRearm, sweepSwap, sweepDone, ScanSys.glue]
  | some r =>
    have read : sweepRead s = { s with sweep := .read r s.scanChanIdx } := by
      simp only [sweepRead, started, flying]
    by_cases stops : s.removing = true ∨ s.scanAborted = true
    · have check : sweepCheck reqs { s with sweep := .read r s.scanChanIdx } =
          { s with sweep := .finish r true } := if_pos stops
      simp only [sweepSteps, List.foldl_cons, List.foldl_nil, scanStep, read, check]
      simp only [GlueScan.tick, flying, Option.map_some, if_pos stops, sweepTune, sweepAdvance,
        sweepProbe, sweepRearm, sweepSwap, sweepDone, ScanSys.glue, Option.map_none]
    · cases chan : (reqs r).channels[s.scanChanIdx]? with
      | none =>
        have past : s.scanChanIdx ≥ (reqs r).channels.length := List.getElem?_eq_none_iff.1 chan
        have check : sweepCheck reqs { s with sweep := .read r s.scanChanIdx } =
            { s with sweep := .finish r false, log := .use r :: s.log } :=
          (if_neg stops).trans (if_pos past)
        simp only [sweepSteps, List.foldl_cons, List.foldl_nil, scanStep, read, check]
        simp only [GlueScan.tick, flying, Option.map_some, if_neg stops, chan, sweepTune,
          sweepAdvance, sweepProbe, sweepRearm, sweepSwap, sweepDone, ScanSys.glue,
          Option.map_none]
      | some c =>
        have more : ¬s.scanChanIdx ≥ (reqs r).channels.length :=
          Nat.not_le.2 (List.getElem?_eq_some_iff.1 chan).1
        have check : sweepCheck reqs { s with sweep := .read r s.scanChanIdx } =
            { s with sweep := .tune r s.scanChanIdx, log := .use r :: s.log } :=
          (if_neg stops).trans (if_neg more)
        simp only [sweepSteps, List.foldl_cons, List.foldl_nil, scanStep, read, check]
        simp only [GlueScan.tick, flying, Option.map_some, if_neg stops, chan, sweepTune,
          sweepAdvance, sweepProbe, sweepRearm, sweepSwap, sweepDone, ScanSys.glue, sweepFreq,
          Option.getD_some]

/-- A tick that nothing comes between is the work item of the device. -/
theorem sweep_uninterrupted {d : GlueDev} (same : d.toGlueScan = s.glue reqs)
    (removing : d.removing = s.removing) (idle : s.sweep = .idle) (due : s.scanWork = true)
    (ok : Bytes → Bool) (t : Tune) :
    ∃ tuned, (glueStep d (.scanWork ok t)).toGlueScan =
      ((sweepSteps tuned).foldl (scanStep reqs) (scanStep reqs s .workStart)).glue reqs := by
  have start : scanStep reqs s .workStart = { s with sweep := .started, scanWork := false } := by
    simp only [scanStep, sweepStart, idle, due, if_pos]
  have work : d.scanWork = true := (congrArg GlueScan.scanWork same).trans due
  obtain ⟨tuned, tick⟩ := scanWorker_tick ok t { d with scanWork := false }
  refine ⟨tuned, ?_⟩
  rw [start, sweepSteps_tick rfl]
  simp only [glueStep, if_pos work]
  have taken : { d.toGlueScan with scanWork := false } = { s.glue reqs with scanWork := false } := by
    rw [same]
  exact tick.trans (congr (congrArg (fun b g => GlueScan.tick b tuned g) removing) taken)

end Uninterrupted

end Rf2a4m1
