import Rf2a4m1.Glue.Demo
import Rf2a4m1.Glue.Frame

/-!
# A scan and the channel of the link

The sweep of a scan leaves the radio on the last channel it tuned to. The link
has its channel afterwards only where that is the channel of the connect.
-/

set_option autoImplicit false

namespace Rf2a4m1

open ByteString Runs

namespace GlueDev

/-- The radio stands on the channel that the current connect asked for, if it asked for one. -/
def OnChannel (d : GlueDev) : Prop :=
  match d.connectChan with
  | none => True
  | some mhz => d.toRadio.TunedTo mhz

instance (d : GlueDev) : Decidable d.OnChannel :=
  match h : d.connectChan with
  | none => isTrue (by simp [OnChannel, h])
  | some mhz => decidable_of_iff (d.toRadio.TunedTo mhz) (by simp [OnChannel, h])

/-- A connect is under way or the link is up. -/
def Linked (d : GlueDev) : Prop := d.connectPending = true ∨ d.sme.state = .connected

/-- Nothing is under way and the SME has failed, so that only a new connect revives it. -/
def Dead (d : GlueDev) : Prop := d.connectPending = false ∧ d.sme.state = .failed

instance (d : GlueDev) : Decidable d.Dead := inferInstanceAs (Decidable (_ ∧ _))

/-- A tick of the sweep ends it. -/
def sweepEnds (d : GlueDev) : Bool :=
  match d.scanReq with
  | none => false
  | some req => d.removing || d.scanAborted || d.scanChanIdx ≥ req.channels.length

/-- Setting the channel of a connect gets as far as a register. -/
def writesRadio (d : GlueDev) (t : Tune) (sel : Option Bss) (conn : ConnectParams) : Bool :=
  (conn.target sel).1.isSome && d.hwInited && d.eeValid &&
    ((conn.target sel).2.bind Radio.channelOf).isSome &&
    match t with
    | .rfFails i _ => i.val ≠ 0
    | _ => true

end GlueDev

/-- A scan ends where the link needs the radio, and no failed connect takes it from the link. -/
def KeepsChannel (d : GlueDev) : GlueOp → Prop
  | .connect _ _ t sel conn =>
    d.registered = true → d.connects t sel conn = false → d.writesRadio t sel conn = true →
      d.scanReq.isSome = true ∨ d.Dead ∨ d.connectChan = none
  | .disconnect _ _ =>
    d.registered = true → d.scanReq.isSome = true → d.sme.state = .failed ∨ d.OnChannel
  | .scanWork _ _ => d.scanWork = true → d.sweepEnds = true → d.Dead ∨ d.OnChannel
  | .remove => d.stage = .connectCancelled → d.scanReq.isSome = true → d.Dead ∨ d.OnChannel
  | _ => True

instance (d : GlueDev) (op : GlueOp) : Decidable (KeepsChannel d op) :=
  match op with
  | .connect .. => inferInstanceAs (Decidable (_ → _ → _ → _))
  | .disconnect .. => inferInstanceAs (Decidable (_ → _ → _))
  | .scanWork .. => inferInstanceAs (Decidable (_ → _ → _))
  | .remove => inferInstanceAs (Decidable (_ → _ → _))
  | .scan .. | .addKey .. | .xmit .. | .connectWork .. | .statWork | .rxComplete .. | .rxWork ..
  | .txComplete .. => isTrue trivial

/-- While no scan is in flight the radio is where the link needs it, or there is no link. -/
def LinkInv (d : GlueDev) : Prop := d.scanReq = none → d.Dead ∨ d.OnChannel

section Step

variable {d u : GlueDev}

/-- A step that leaves radio, scan and connect alone. -/
theorem LinkInv.same (inv : LinkInv d) (radio : u.toRadio = d.toRadio)
    (scan : u.scanReq = d.scanReq) (chan : u.connectChan = d.connectChan)
    (pending : d.connectPending = false → u.connectPending = false)
    (failed : d.sme.state = .failed → u.sme.state = .failed) : LinkInv u := by
  intro free
  rcases inv (scan.symm.trans free) with dead | on
  · exact Or.inl ⟨pending dead.1, failed dead.2⟩
  · refine Or.inr ?_
    unfold GlueDev.OnChannel at on ⊢
    rw [chan, radio]
    exact on

theorem LinkInv.of_scanning (scanning : u.scanReq.isSome = true) : LinkInv u := by
  intro free
  rw [free] at scanning
  cases scanning

/-- A frame does not revive a failed SME. -/
theorem rxWorker_failed {env : Env} {k : Ieee80211} {alloc : RxAlloc} {ok : Bytes → Bool}
    (failed : d.sme.state = .failed) : (d.rxWorker env k alloc ok).sme.state = .failed := by
  obtain ⟨dev, anchor, queue, work, eq, ⟨rp, sme⟩ | ⟨dev', frame, handed, sme⟩⟩ :=
    GlueDev.rxWorker_frame env k alloc ok d
  · rw [eq]
    show dev.sme.state = .failed
    rw [sme]
    exact failed
  · obtain ⟨rp, before⟩ := GlueDev.handsOn_sme k alloc d handed
    have stays : dev'.sme.state = .failed := by
      rw [before]
      exact failed
    have quiet := @smeEvent_failed dev'.sme (.rx soleSme frame) stays rfl
    have effect := smeStep_effect env dev'.sme (.rx soleSme frame)
    rw [quiet] at effect
    have core := effect.quiet_eq
    rw [eq]
    show dev.sme.core.state = .failed
    rw [sme, core]
    exact stays

theorem scanStop_inv (inv : LinkInv d)
    (ends : d.scanReq.isSome = true → d.Dead ∨ d.OnChannel) : LinkInv d.scanStop := by
  unfold GlueDev.scanStop
  dsimp only
  split
  · rename_i flying
    exact fun _ => ends flying
  · exact inv.same rfl rfl rfl id id

/-- A connect that fails before its first register write leaves the radio alone. -/
theorem connectRadio_untouched {t : Tune} {sel : Option Bss} {conn : ConnectParams}
    (refused : d.connects t sel conn = false) (untouched : d.writesRadio t sel conn = false) :
    d.connectRadio t sel conn = d.toRadio := by
  unfold GlueDev.connects at refused
  unfold GlueDev.writesRadio at untouched
  unfold GlueDev.connectRadio
  split
  · rename_i named
    rw [named, Bool.true_and] at refused untouched
    cases chan : (conn.target sel).2 with
    | none => rfl
    | some mhz =>
      rw [chan] at refused untouched
      show (d.toRadio.opSetChannel t mhz).1 = d.toRadio
      unfold Radio.opSetChannel
      split
      · rfl
      · rename_i ready
        simp only [not_or, Bool.not_eq_true, Bool.not_eq_false'] at ready
        rw [ready.1, ready.2] at untouched
        cases on : Radio.channelOf mhz with
        | none => rfl
        | some ch =>
          simp only [Option.bind_some, on, Option.isSome_some, Bool.true_and] at untouched
          dsimp only
          unfold Radio.doSetChannel
          split
          · rfl
          · cases t with
            | rfFails i e =>
              have first : i.val = 0 := by simpa using untouched
              simp [first]
            | filterFails e => simp at untouched
            | done => simp at untouched
  · rfl

theorem cfgConnect_linkInv (ok : Bytes → Bool) (up : Nat → GlueDev.UrbUp) (t : Tune)
    (sel : Option Bss) (conn : ConnectParams) (inv : LinkInv d)
    (keeps : d.connects t sel conn = false → d.writesRadio t sel conn = true →
      d.scanReq.isSome = true ∨ d.Dead ∨ d.connectChan = none) :
    LinkInv (d.cfgConnect ok up t sel conn).1 := by
  cases starts : d.connects t sel conn with
  | false =>
    obtain ⟨bssid, eq⟩ := GlueDev.cfgConnect_refused ok up d starts
    rw [eq]
    cases writes : d.writesRadio t sel conn with
    | false => exact inv.same (connectRadio_untouched starts writes) rfl rfl id id
    | true =>
      rcases keeps starts writes with flying | dead | free
      · exact LinkInv.of_scanning flying
      · exact fun _ => Or.inl dead
      · intro _
        refine Or.inr ?_
        unfold GlueDev.OnChannel
        dsimp only
        rw [free]
        trivial
  | true =>
    obtain ⟨bssid, ring, anchor, stat, sme, eq, core, _⟩ :=
      GlueDev.cfgConnect_started ok up d starts
    obtain ⟨named, tuned⟩ := Bool.and_eq_true_iff.1 starts
    rw [eq]
    intro _
    refine Or.inr ?_
    unfold GlueDev.OnChannel GlueDev.armConnect
    dsimp only
    cases chan : (conn.target sel).2 with
    | none => trivial
    | some mhz =>
      rw [chan] at tuned
      dsimp only
      have radio : d.connectRadio t sel conn = (d.toRadio.opSetChannel t mhz).1 := by
        unfold GlueDev.connectRadio
        rw [if_pos named, chan]
        rfl
      rw [radio]
      exact Radio.opSetChannel_tuned (Option.isNone_iff_eq_none.1 tuned)

theorem cfgDisconnect_linkInv (ok : Bytes → Bool) (reason : UInt16) (inv : LinkInv d)
    (keeps : d.scanReq.isSome = true → d.sme.state = .failed ∨ d.OnChannel) :
    LinkInv (d.cfgDisconnect ok reason) := by
  have quit : LinkInv { d with connectPending := false, connectWork := false } :=
    inv.same rfl rfl rfl (fun _ => rfl) id
  have stopped : LinkInv (GlueDev.scanStop { d with connectPending := false,
                                                    connectWork := false }) :=
    scanStop_inv quit fun flying => (keeps flying).imp (fun failed => ⟨rfl, failed⟩) id
  unfold GlueDev.cfgDisconnect
  dsimp only
  revert stopped
  generalize GlueDev.scanStop { d with connectPending := false, connectWork := false } = s
  intro stopped
  obtain ⟨ipn, sent⟩ := txProtectedGroupMgmt_core s.sme 12 reason
  refine stopped.same rfl rfl rfl id fun failed => ?_
  show (txProtectedGroupMgmt s.sme 12 reason).1.core.state = .failed
  rw [sent]
  exact failed

theorem cfgScan_linkInv (up : Nat → GlueDev.UrbUp) (req : ScanRequest) (inv : LinkInv d) :
    LinkInv (d.cfgScan up req).1 := by
  rcases GlueDev.cfgScan_frame d up req with
    eq | ⟨_, idle, ring, anchor, stat, scan, eq, ⟨none, _⟩ | ⟨some, _⟩⟩
  · rw [eq]
    exact inv
  · rw [eq]
    exact inv.same rfl (none.trans idle.symm) rfl id id
  · rw [eq]
    exact LinkInv.of_scanning (Option.isSome_iff_exists.2 ⟨req, some⟩)

theorem scanWorker_linkInv (ok : Bytes → Bool) (t : Tune) (inv : LinkInv d)
    (keeps : d.sweepEnds = true → d.Dead ∨ d.OnChannel) : LinkInv (d.scanWorker ok t) := by
  unfold GlueDev.sweepEnds at keeps
  unfold GlueDev.scanWorker
  cases flying : d.scanReq with
  | none => exact inv
  | some req =>
    rw [flying] at keeps
    dsimp only at keeps ⊢
    split
    · rename_i stops
      exact fun _ => keeps (by rcases stops with going | aborted <;> simp [*])
    split
    · rename_i last
      have past : d.scanChanIdx ≥ req.channels.length := by simpa using last
      exact fun _ => keeps (by simp [past])
    · split
      · exact LinkInv.of_scanning (Option.isSome_iff_exists.2 ⟨req, flying⟩)
      · exact LinkInv.of_scanning (Option.isSome_iff_exists.2 ⟨req, flying⟩)

theorem connectWorker_linkInv (ok : Bytes → Bool) (mem : Bool) (inv : LinkInv d) :
    LinkInv (d.connectWorker ok mem).1 := by
  obtain ⟨table, key, anchor, pending, polls, work, eq, settles⟩ :=
    GlueDev.connectWorker_frame d ok mem
  rw [eq]
  exact inv.same rfl rfl rfl settles id

theorem remove_linkInv (inv : LinkInv d)
    (keeps : d.stage = .connectCancelled → d.scanReq.isSome = true → d.Dead ∨ d.OnChannel) :
    LinkInv d.remove := by
  unfold GlueDev.remove
  cases stage : d.stage with
  | connectCancelled => exact (scanStop_inv inv (keeps stage)).same rfl rfl rfl id id
  | rxStopped => exact inv.same rfl rfl rfl (fun _ => rfl) id
  | _ => exact inv.same rfl rfl rfl id id

theorem moves_linkInv {op : GlueOp} (moves : GlueMoves d op u) (inv : LinkInv d)
    (keeps : KeepsChannel d op) : LinkInv u := by
  cases moves with
  | idle => exact inv
  | connect registered ok up t sel conn =>
    exact cfgConnect_linkInv ok up t sel conn inv (keeps registered)
  | disconnect registered ok reason => exact cfgDisconnect_linkInv ok reason inv (keeps registered)
  | scan _ up req => exact cfgScan_linkInv up req inv
  | addKey _ pairwise cipher =>
    obtain ⟨table, key, eq⟩ := GlueDev.cfgAddKey_frame d pairwise cipher
    rw [eq]
    exact inv.same rfl rfl rfl id id
  | xmit _ ok mem eth =>
    obtain ⟨anchor, key, eq⟩ := GlueDev.ndoStartXmit_frame d ok mem eth
    rw [eq]
    exact inv.same rfl rfl rfl id id
  | connectWork _ ok mem =>
    exact connectWorker_linkInv ok mem (inv.same rfl rfl rfl id id)
  | scanWork due ok t =>
    exact scanWorker_linkInv ok t (inv.same rfl rfl rfl id id) (keeps due)
  | statWork =>
    unfold GlueDev.statWorker
    split
    · exact inv.same rfl rfl rfl id id
    · exact inv.same rfl rfl rfl id id
  | rxComplete _ mem again status =>
    obtain ⟨ring, eq⟩ := GlueDev.rxComplete_frame mem again d _ status
    rw [eq]
    exact inv.same rfl rfl rfl id id
  | rxWork _ env k alloc ok =>
    have failed := @rxWorker_failed d env k alloc ok
    obtain ⟨dev, anchor, queue, work, eq, _⟩ := GlueDev.rxWorker_frame env k alloc ok d
    rw [eq] at failed ⊢
    exact inv.same rfl rfl rfl id failed
  | txComplete i => exact inv.same rfl rfl rfl id id
  | remove => exact remove_linkInv inv keeps

end Step

/-- While no scan is in flight a link has the channel of its connect, where every scan ends on it
and no failed connect moved the radio. -/
theorem linkChannel_run {d₀ d : GlueDev} (start : d₀.Probed)
    (run : Run glueStep KeepsChannel d₀ d) (free : d.scanReq = none) (linked : d.Linked) :
    d.OnChannel := by
  have first : LinkInv d₀ := by
    intro _
    refine Or.inr ?_
    unfold GlueDev.OnChannel
    rw [start.connectChan]
    trivial
  have inv : LinkInv d :=
    run.invariant LinkInv first fun d op inv keeps =>
      moves_linkInv (glueStep_moves d op) inv keeps
  rcases inv free with ⟨idle, failed⟩ | on
  · rcases linked with pending | up
    · rw [idle] at pending
      cases pending
    · rw [failed] at up
      cases up
  · exact on

/-- A scan over channels in steps, up to its end. -/
def demoScan (mhz : List Nat) : List GlueOp :=
  .scan demoUp { channels := mhz.map fun f => { centerFreq := f, noIr := false }, ssids := []
                 ie := [] } ::
    List.replicate (mhz.length + 1) (.scanWork demoTaken .done)

/-- A scan that ends on the channel of the link. -/
theorem linkChannel_run_demo :
    (demoSteps (demoLink ++ demoScan [2412, 2437])).scanReq = none ∧
      (demoSteps (demoLink ++ demoScan [2412, 2437])).Linked ∧
      (demoSteps (demoLink ++ demoScan [2412, 2437])).OnChannel := by
  have free : (demoSteps (demoLink ++ demoScan [2412, 2437])).scanReq.isNone = true := by
    decide +kernel
  have free := Option.isNone_iff_eq_none.1 free
  have up : (demoSteps (demoLink ++ demoScan [2412, 2437])).sme.state = .connected := by
    decide +kernel
  refine ⟨free, Or.inr up, linkChannel_run demoGlue_probed ?_ free (Or.inr up)⟩
  exact demoSteps_run (fun d op => KeepsChannel d op) (fun _ _ keeps => of_decide_eq_true keeps)
    (by decide +kernel)

/-- After a scan of another channel the radio stays there, with the link up. -/
theorem linkChannel_stolen :
    ¬∀ d₀ d : GlueDev, d₀.Probed → Reach glueStep d₀ d → d.scanReq = none → d.Linked →
      d.OnChannel := by
  intro all
  have free : (demoSteps (demoLink ++ demoScan [2412])).scanReq.isNone = true := by
    decide +kernel
  have up : (demoSteps (demoLink ++ demoScan [2412])).sme.state = .connected := by
    decide +kernel
  have off : ¬(demoSteps (demoLink ++ demoScan [2412])).OnChannel := by
    decide +kernel
  exact off (all _ _ demoGlue_probed (demoSteps_reach _) (Option.isNone_iff_eq_none.1 free)
    (Or.inr up))

end Rf2a4m1
