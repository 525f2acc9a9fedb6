import Rf2a4m1.Glue.Demo
import Rf2a4m1.Glue.Frame

/-!
# The removal of the device is final

Reception is stopped before the device is unregistered, and a connect that
comes in between brings it up again: the connect alone does not ask whether the
device goes away.
-/

set_option autoImplicit false

namespace Rf2a4m1

open ByteString Runs

/-- The place of a stage in the removal. -/
def Stage.index : Stage → Nat
  | running => 0
  | removing => 1
  | rxStopped => 2
  | connectCancelled => 3
  | scanStopped => 4
  | statStopped => 5
  | unregistered => 6
  | freed => 7

namespace GlueDev

/-- No transfer has a buffer, nothing received waits and nothing sent is in flight. -/
structure RxDead (d : GlueDev) : Prop where
  rx : d.rx = List.replicate rxUrbs .empty
  rxRunning : d.rxRunning = false
  rxWork : d.rxWork = false
  txAnchor : d.txAnchor = []

/-- No transfer and no work item of the device is pending. -/
structure Settled (d : GlueDev) : Prop extends RxDead d where
  connectWork : d.connectWork = false
  scanWork : d.scanWork = false
  statWork : d.statWork = false

end GlueDev

/--
A connect during the removal finds reception still up; once it is stopped
nothing is sent by a disconnect or by the network stack.
-/
def Quiesces (d : GlueDev) : GlueOp → Prop
  | .connect _ _ t sel conn =>
    d.registered = true → d.removing = true → d.connects t sel conn = true → d.rxRunning = true
  | .disconnect _ _ =>
    2 ≤ d.stage.index →
      ¬(d.sme.state = .connected ∧ d.sme.mfpActive = true ∧ d.sme.igtk.installed = true)
  | .xmit _ _ eth => 2 ≤ d.stage.index → d.hwDataTx eth = none
  | _ => True

/-- What each stage of the removal leaves behind. -/
structure RemovalInv (d : GlueDev) : Prop where
  sweep : d.scanWork = true → d.scanReq.isSome = true
  rx : 2 ≤ d.stage.index → d.RxDead
  connect : 3 ≤ d.stage.index → d.connectWork = false
  scan : 4 ≤ d.stage.index → d.scanReq = none
  stat : 5 ≤ d.stage.index → d.statWork = false

section Step

variable {d u : GlueDev}

theorem removing_of_index (late : 2 ≤ d.stage.index) : d.removing = true := by
  unfold GlueDev.removing
  cases stage : d.stage with
  | running =>
    rw [stage] at late
    cases late
  | _ => rfl

theorem GlueDev.RxDead.same (dead : d.RxDead) (ring : u.toRxRing = d.toRxRing)
    (anchor : u.txAnchor = d.txAnchor) : u.RxDead where
  rx := (congrArg RxRing.rx ring).trans dead.rx
  rxRunning := (congrArg RxRing.rxRunning ring).trans dead.rxRunning
  rxWork := (congrArg RxRing.rxWork ring).trans dead.rxWork
  txAnchor := anchor.trans dead.txAnchor

/-- Until reception is stopped only the sweep is constrained. -/
theorem RemovalInv.early (early : ¬2 ≤ u.stage.index)
    (sweep : u.scanWork = true → u.scanReq.isSome = true) : RemovalInv u :=
  ⟨sweep, fun late => (early late).elim, fun late => (early (by omega)).elim,
    fun late => (early (by omega)).elim, fun late => (early (by omega)).elim⟩

/-- A step that starts nothing. -/
theorem RemovalInv.same (inv : RemovalInv d) (stage : u.stage = d.stage)
    (rx : d.RxDead → u.RxDead) (connect : d.connectWork = false → u.connectWork = false)
    (scanWork : u.scanWork = true → d.scanWork = true)
    (scanReq : u.scanReq = d.scanReq) (stat : d.statWork = false → u.statWork = false) :
    RemovalInv u := by
  refine ⟨fun due => ?_, fun late => ?_, fun late => ?_, fun late => ?_, fun late => ?_⟩
  · rw [scanReq]
    exact inv.sweep (scanWork due)
  · exact rx (inv.rx (stage ▸ late))
  · exact connect (inv.connect (stage ▸ late))
  · exact scanReq.trans (inv.scan (stage ▸ late))
  · exact stat (inv.stat (stage ▸ late))

theorem scanStop_removal (inv : RemovalInv d) : RemovalInv d.scanStop := by
  obtain ⟨scan, eq, none, queued⟩ := GlueDev.scanStop_frame d
  rw [eq]
  refine ⟨fun due => ?_, fun late => (inv.rx late).same rfl rfl, inv.connect, fun _ => none,
    inv.stat⟩
  obtain ⟨due, idle⟩ := queued due
  have flying := inv.sweep due
  rw [idle] at flying
  cases flying

theorem cfgConnect_removal (ok : Bytes → Bool) (up : Nat → GlueDev.UrbUp) (t : Tune)
    (sel : Option Bss) (conn : ConnectParams) (inv : RemovalInv d)
    (quiesces : d.removing = true → d.connects t sel conn = true → d.rxRunning = true) :
    RemovalInv (d.cfgConnect ok up t sel conn).1 := by
  cases starts : d.connects t sel conn with
  | false =>
    obtain ⟨bssid, eq⟩ := GlueDev.cfgConnect_refused ok up d starts
    rw [eq]
    exact inv.same rfl (fun dead => dead.same rfl rfl) id id rfl id
  | true =>
    obtain ⟨bssid, ring, anchor, stat, sme, eq, _⟩ :=
      GlueDev.cfgConnect_started ok up d starts
    have early : ¬2 ≤ d.stage.index := by
      intro late
      have running := quiesces (removing_of_index late) starts
      rw [(inv.rx late).rxRunning] at running
      cases running
    rw [eq]
    exact RemovalInv.early early inv.sweep

/-- Nothing is sent without a link, without protection or without the group key. -/
theorem smeTxProtectedDeauth_unsent {s : Sme} {reason : UInt16}
    (unable : ¬(s.state = .connected ∧ s.mfpActive = true ∧ s.igtk.installed = true)) :
    (smeTxProtectedDeauth s reason).1 = s := by
  unfold smeTxProtectedDeauth txProtectedGroupMgmt
  rw [if_pos]
  by_contra able
  simp only [not_or, ne_eq, not_not, Bool.not_eq_true', Bool.not_eq_false] at able
  exact unable ⟨able.1, able.2.1, able.2.2⟩

theorem cfgDisconnect_removal (ok : Bytes → Bool) (reason : UInt16) (inv : RemovalInv d)
    (quiesces : 2 ≤ d.stage.index →
      ¬(d.sme.state = .connected ∧ d.sme.mfpActive = true ∧ d.sme.igtk.installed = true)) :
    RemovalInv (d.cfgDisconnect ok reason) := by
  have quit : RemovalInv { d with connectPending := false, connectWork := false } :=
    inv.same rfl (fun dead => dead.same rfl rfl) (fun _ => rfl) id rfl id
  have stopped := scanStop_removal quit
  obtain ⟨scan, eq, _⟩ := GlueDev.scanStop_frame
    { d with connectPending := false, connectWork := false }
  rw [eq] at stopped
  unfold GlueDev.cfgDisconnect
  dsimp only
  rw [eq]
  by_cases late : 2 ≤ d.stage.index
  · refine stopped.same rfl (fun dead => dead.same rfl ?_) id id rfl id
    unfold GlueDev.setSme GlueDev.bulkOutAsync
    dsimp only
    rw [smeTxProtectedDeauth_unsent (quiesces late), newSent_same rfl]
    rfl
  · exact RemovalInv.early late stopped.sweep

theorem cfgScan_removal (up : Nat → GlueDev.UrbUp) (req : ScanRequest) (inv : RemovalInv d) :
    RemovalInv (d.cfgScan up req).1 := by
  rcases GlueDev.cfgScan_frame d up req with eq | ⟨present, idle, ring, anchor, stat, scan, eq, req⟩
  · rw [eq]
    exact inv
  have early : ¬2 ≤ d.stage.index := by
    intro late
    rw [removing_of_index late] at present
    cases present
  rw [eq]
  refine RemovalInv.early early fun due => ?_
  rcases req with ⟨_, kept⟩ | ⟨some, _⟩
  · have flying := inv.sweep (kept.symm.trans due)
    rw [idle] at flying
    cases flying
  · exact Option.isSome_iff_exists.2 ⟨_, some⟩

theorem scanWorker_removal (ok : Bytes → Bool) (t : Tune)
    (inv : RemovalInv d) (idle : d.scanWork = false) : RemovalInv (d.scanWorker ok t) := by
  have finish : RemovalInv d.scanFinish := by
    refine ⟨fun due => ?_, fun late => ?_, inv.connect, fun _ => rfl, inv.stat⟩
    · exact absurd (idle.symm.trans due) nofun
    · exact (inv.rx late).same rfl rfl
  unfold GlueDev.scanWorker
  cases flying : d.scanReq with
  | none => exact inv
  | some req =>
    dsimp only
    split
    · exact finish
    rename_i going
    have early : ¬2 ≤ d.stage.index := fun late => going (Or.inl (removing_of_index late))
    split
    · exact finish
    · have some : d.scanReq.isSome = true := Option.isSome_iff_exists.2 ⟨req, flying⟩
      split
      · exact RemovalInv.early early fun _ => some
      · exact RemovalInv.early early fun _ => some

theorem connectWorker_removal (ok : Bytes → Bool) (mem : Bool) (inv : RemovalInv d) :
    RemovalInv ({ d with connectWork := false }.connectWorker ok mem).1 := by
  by_cases late : 2 ≤ d.stage.index
  · have stopped : ({ d with connectWork := false }.connectWorker ok mem).1 =
        { d with connectWork := false } := by
      have gone : ({ d with connectWork := false } : GlueDev).removing = true :=
        removing_of_index (d := d) late
      unfold GlueDev.connectWorker
      rw [if_pos (Or.inl gone)]
    rw [stopped]
    exact inv.same rfl (fun dead => dead.same rfl rfl) (fun _ => rfl) id rfl id
  · obtain ⟨table, key, anchor, pending, polls, work, eq, _⟩ :=
      GlueDev.connectWorker_frame { d with connectWork := false } ok mem
    rw [eq]
    exact RemovalInv.early late inv.sweep

theorem statWorker_removal (inv : RemovalInv d) :
    RemovalInv { d with statWork := false }.statWorker := by
  have stopped : RemovalInv { d with statWork := false } :=
    inv.same rfl (fun dead => dead.same rfl rfl) id id rfl (fun _ => rfl)
  unfold GlueDev.statWorker
  split
  · exact stopped
  · rename_i going
    refine RemovalInv.early (fun late => going (Or.inr ?_)) inv.sweep
    exact removing_of_index (d := d) late

/-- Each stage of the removal ends what it is there to end. -/
theorem remove_removal (inv : RemovalInv d) : RemovalInv d.remove := by
  unfold GlueDev.remove
  cases stage : d.stage with
  | running => exact RemovalInv.early (fun late => absurd (show 2 ≤ 1 from late) (by decide)) inv.sweep
  | removing =>
    refine ⟨inv.sweep, fun _ => ⟨rfl, rfl, rfl, rfl⟩, fun late => ?_, fun late => ?_,
      fun late => ?_⟩
    · exact absurd (show 3 ≤ 2 from late) (by decide)
    · exact absurd (show 4 ≤ 2 from late) (by decide)
    · exact absurd (show 5 ≤ 2 from late) (by decide)
  | rxStopped =>
    have dead := inv.rx (by rw [stage]; decide)
    refine ⟨inv.sweep, fun _ => dead.same rfl rfl, fun _ => rfl, fun late => ?_, fun late => ?_⟩
    · exact absurd (show 4 ≤ 3 from late) (by decide)
    · exact absurd (show 5 ≤ 3 from late) (by decide)
  | connectCancelled =>
    have stopped := scanStop_removal inv
    obtain ⟨scan, eq, none, _⟩ := GlueDev.scanStop_frame d
    have dead := inv.rx (by rw [stage]; decide)
    dsimp only
    rw [eq] at stopped ⊢
    refine ⟨stopped.sweep, fun _ => dead.same rfl rfl,
      fun _ => inv.connect (by rw [stage]; decide), fun _ => none, fun late => ?_⟩
    exact absurd (show 5 ≤ 4 from late) (by decide)
  | scanStopped =>
    have dead := inv.rx (by rw [stage]; decide)
    exact ⟨inv.sweep, fun _ => dead.same rfl rfl,
      fun _ => inv.connect (by rw [stage]; decide), fun _ => inv.scan (by rw [stage]; decide),
      fun _ => rfl⟩
  | statStopped =>
    have dead := inv.rx (by rw [stage]; decide)
    exact ⟨inv.sweep, fun _ => dead.same rfl rfl,
      fun _ => inv.connect (by rw [stage]; decide), fun _ => inv.scan (by rw [stage]; decide),
      fun _ => inv.stat (by rw [stage]; decide)⟩
  | unregistered =>
    have dead := inv.rx (by rw [stage]; decide)
    exact ⟨inv.sweep, fun _ => dead.same rfl rfl,
      fun _ => inv.connect (by rw [stage]; decide), fun _ => inv.scan (by rw [stage]; decide),
      fun _ => inv.stat (by rw [stage]; decide)⟩
  | freed => exact inv

theorem moves_removal {op : GlueOp} (moves : GlueMoves d op u) (inv : RemovalInv d)
    (quiesces : Quiesces d op) : RemovalInv u := by
  cases moves with
  | idle => exact inv
  | connect registered ok up t sel conn =>
    exact cfgConnect_removal ok up t sel conn inv (quiesces registered)
  | disconnect _ ok reason => exact cfgDisconnect_removal ok reason inv quiesces
  | scan _ up req => exact cfgScan_removal up req inv
  | addKey _ pairwise cipher =>
    obtain ⟨table, key, eq⟩ := GlueDev.cfgAddKey_frame d pairwise cipher
    rw [eq]
    exact inv.same rfl (fun dead => dead.same rfl rfl) id id rfl id
  | xmit _ ok mem eth =>
    by_cases late : 2 ≤ d.stage.index
    · unfold GlueDev.ndoStartXmit
      rw [quiesces late]
      exact inv
    · obtain ⟨anchor, key, eq⟩ := GlueDev.ndoStartXmit_frame d ok mem eth
      rw [eq]
      exact RemovalInv.early late inv.sweep
  | connectWork _ ok mem => exact connectWorker_removal ok mem inv
  | scanWork _ ok t =>
    refine scanWorker_removal ok t ?_ rfl
    refine ⟨nofun, fun late => ?_, inv.connect, inv.scan, inv.stat⟩
    exact (inv.rx late).same rfl rfl
  | statWork => exact statWorker_removal inv
  | @rxComplete i flying mem again status =>
    have early : ¬2 ≤ d.stage.index := by
      intro late
      rw [(inv.rx late).rx] at flying
      have empty := List.mem_of_getElem? flying
      rw [List.mem_replicate] at empty
      cases empty.2
    obtain ⟨ring, eq⟩ := GlueDev.rxComplete_frame mem again d i status
    rw [eq]
    exact RemovalInv.early early inv.sweep
  | rxWork due env k alloc ok =>
    have early : ¬2 ≤ d.stage.index := by
      intro late
      rw [(inv.rx late).rxWork] at due
      cases due
    obtain ⟨dev, anchor, queue, work, eq, _⟩ := GlueDev.rxWorker_frame env k alloc ok d
    rw [eq]
    exact RemovalInv.early early inv.sweep
  | txComplete i =>
    refine inv.same rfl (fun dead => ⟨dead.rx, dead.rxRunning, dead.rxWork, ?_⟩) id id rfl id
    show d.txAnchor.eraseIdx i = []
    rw [dead.txAnchor, List.eraseIdx_nil]
  | remove => exact remove_removal inv

/-- During the removal no receive transfer is allocated or submitted, and reception stays down. -/
theorem moves_submits {op : GlueOp} (moves : GlueMoves d op u) (removing : d.removing = true)
    (quiesces : Quiesces d op) :
    u.rxSubmits = d.rxSubmits ∧ (u.rxRunning = true → d.rxRunning = true) := by
  have scanStop (d : GlueDev) : d.scanStop.toRxRing = d.toRxRing := by
    obtain ⟨scan, eq, _⟩ := GlueDev.scanStop_frame d
    rw [eq]
  have ring {u : GlueDev} (same : u.toRxRing = d.toRxRing) :
      u.rxSubmits = d.rxSubmits ∧ (u.rxRunning = true → d.rxRunning = true) := by
    rw [same]
    exact ⟨rfl, id⟩
  cases moves with
  | idle => exact ⟨rfl, id⟩
  | connect registered ok up t sel conn =>
    cases starts : d.connects t sel conn with
    | false =>
      obtain ⟨bssid, eq⟩ := GlueDev.cfgConnect_refused ok up d starts
      rw [eq]
      exact ⟨rfl, id⟩
    | true =>
      obtain ⟨bssid, armed, anchor, stat, sme, eq, _, kept⟩ :=
        GlueDev.cfgConnect_started ok up d starts
      rw [eq]
      exact ring (kept (quiesces registered removing starts))
  | disconnect _ ok reason =>
    exact ring (scanStop { d with connectPending := false, connectWork := false })
  | scan _ up req =>
    unfold GlueDev.cfgScan
    rw [if_pos removing]
    exact ⟨rfl, id⟩
  | addKey _ pairwise cipher =>
    obtain ⟨table, key, eq⟩ := GlueDev.cfgAddKey_frame d pairwise cipher
    rw [eq]
    exact ⟨rfl, id⟩
  | xmit _ ok mem eth =>
    obtain ⟨anchor, key, eq⟩ := GlueDev.ndoStartXmit_frame d ok mem eth
    rw [eq]
    exact ⟨rfl, id⟩
  | connectWork _ ok mem =>
    obtain ⟨table, key, anchor, pending, polls, work, eq, _⟩ :=
      GlueDev.connectWorker_frame { d with connectWork := false } ok mem
    rw [eq]
    exact ⟨rfl, id⟩
  | scanWork _ ok t =>
    obtain ⟨radio, scan, anchor, eq⟩ := GlueDev.scanWorker_frame { d with scanWork := false } ok t
    rw [eq]
    exact ⟨rfl, id⟩
  | statWork =>
    refine ring ?_
    unfold GlueDev.statWorker
    split
    · rfl
    · rfl
  | @rxComplete i _ mem again status =>
    have resubmit (u : GlueDev) (gone : u.removing = true) :
        (u.rxResubmit again i).rxSubmits = u.rxSubmits ∧
          (u.rxResubmit again i).rxRunning = u.rxRunning := by
      unfold GlueDev.rxResubmit
      rw [if_pos gone]
      exact ⟨rfl, rfl⟩
    cases status with
    | terminal => exact ⟨rfl, id⟩
    | error =>
      obtain ⟨submits, running⟩ := resubmit d removing
      exact ⟨submits, fun up => running.symm.trans up⟩
    | ok data =>
      have queued : (d.rxQueueSegments mem data).rxSubmits = d.rxSubmits ∧
          (d.rxQueueSegments mem data).rxRunning = d.rxRunning ∧
          (d.rxQueueSegments mem data).removing = d.removing := by
        unfold GlueDev.rxQueueSegments
        split
        · exact ⟨rfl, rfl, rfl⟩
        · exact ⟨rfl, rfl, rfl⟩
      obtain ⟨submits, running, gone⟩ := queued
      obtain ⟨submits', running'⟩ := resubmit _ (gone.trans removing)
      exact ⟨submits'.trans submits, fun up => (running'.trans running).symm.trans up⟩
  | rxWork _ env k alloc ok =>
    obtain ⟨dev, anchor, queue, work, eq, _⟩ := GlueDev.rxWorker_frame env k alloc ok d
    rw [eq]
    exact ⟨rfl, id⟩
  | txComplete i => exact ⟨rfl, id⟩
  | remove =>
    unfold GlueDev.remove
    split
    · exact ⟨rfl, id⟩
    · exact ⟨rfl, nofun⟩
    · exact ⟨rfl, id⟩
    · exact ring (scanStop d)
    · exact ⟨rfl, id⟩
    · exact ⟨rfl, id⟩
    · exact ⟨rfl, id⟩
    · exact ⟨rfl, id⟩

end Step

/-- During the removal reception is not brought up again, and nothing is pending when the device
is freed, where no connect and no frame comes after reception was stopped. -/
theorem teardownFinal_run {d₀ d : GlueDev} (start : d₀.Probed)
    (run : Run glueStep Quiesces d₀ d) :
    (d.removing = true → ∀ op, Quiesces d op →
      (glueStep d op).rxSubmits = d.rxSubmits ∧
        ((glueStep d op).rxRunning = true → d.rxRunning = true)) ∧
      (d.stage = .unregistered ∨ d.stage = .freed → d.Settled) := by
  have first : RemovalInv d₀ := by
    refine RemovalInv.early ?_ fun due => ?_
    · rw [start.stage]
      decide
    · rw [start.scanWork] at due
      cases due
  have inv : RemovalInv d :=
    run.invariant RemovalInv first fun d op inv quiesces =>
      moves_removal (glueStep_moves d op) inv quiesces
  refine ⟨fun removing op quiesces => moves_submits (glueStep_moves d op) removing quiesces,
    fun ends => ?_⟩
  have late : 5 ≤ d.stage.index := by
    rcases ends with unregistered | freed
    · rw [unregistered]
      decide
    · rw [freed]
      decide
  refine ⟨inv.rx (by omega), inv.connect (by omega), ?_, inv.stat late⟩
  cases due : d.scanWork with
  | false => rfl
  | true =>
    have flying := inv.sweep due
    rw [inv.scan (by omega)] at flying
    cases flying

/-- A device with a link that is removed. -/
def demoRemoval : List GlueOp :=
  demoLink ++ [.remove, demoConnect demoApMac .done 2437, .remove, .remove, .remove, .remove,
    .remove, .remove]

theorem teardownFinal_run_demo :
    (demoSteps demoRemoval).stage = .freed ∧ (demoSteps demoRemoval).Settled := by
  have freed : (demoSteps demoRemoval).stage = .freed := by decide +kernel
  refine ⟨freed, (teardownFinal_run demoGlue_probed ?_).2 (Or.inr freed)⟩
  refine demoSteps_run (fun d op =>
    match op with
    | .connect .. => !d.removing || d.rxRunning
    | .disconnect .. | .xmit .. => false
    | _ => true) (fun d op checked => ?_) (by decide +kernel)
  cases op with
  | connect =>
    intro _ removing _
    simpa [removing] using checked
  | disconnect => cases checked
  | xmit => cases checked
  | _ => trivial

/-- A connect after reception was stopped. -/
def demoRevived : GlueDev :=
  demoSteps [.remove, .remove, demoConnect demoApMac .done 2437, .remove, .remove, .remove,
    .remove, .remove]

/-- The receive transfers are up when the device is freed. -/
theorem teardown_revived :
    ¬∀ d₀ d : GlueDev, d₀.Probed → Reach glueStep d₀ d →
      (d.removing = true → ∀ op, (glueStep d op).rxSubmits = d.rxSubmits ∧
        ((glueStep d op).rxRunning = true → d.rxRunning = true)) ∧
      (d.stage = .unregistered ∨ d.stage = .freed → d.Settled) := by
  intro all
  have freed : demoRevived.stage = .freed := by decide +kernel
  have running : demoRevived.rxRunning = true := by decide +kernel
  have settled : demoRevived.Settled :=
    (all _ _ demoGlue_probed (demoSteps_reach _)).2 (Or.inr freed)
  rw [settled.rxRunning] at running
  cases running

end Rf2a4m1
