import Rf2a4m1.Glue.Cfg80211
import Rf2a4m1.Sme.Effect

/-!
# What an entry point of the glue leaves alone

For each function the parts of the device it writes, all others kept.
-/

set_option autoImplicit false

namespace Rf2a4m1.GlueDev

open ByteString

section Reception

variable (up : Nat → UrbUp) (d : GlueDev)

theorem rxStartFrom_frame (left : Nat) :
    ∃ ring anchor, (rxStartFrom up d left).1 =
      { d with toRxRing := ring, toTxAnchor := anchor } := by
  induction left generalizing d with
  | zero => exact ⟨d.toRxRing, d.toTxAnchor, rfl⟩
  | succ left ih =>
    unfold rxStartFrom
    dsimp only
    split
    · exact ⟨_, _, rfl⟩
    · exact ⟨_, _, rfl⟩
    · obtain ⟨ring, anchor, eq⟩ := ih { d with
        rx := d.rx.set (rxUrbs - (left + 1)) .submitted, rxSubmits := d.rxSubmits + 2 }
      exact ⟨ring, anchor, eq⟩

theorem statStart_frame : ∃ stat, d.statStart = { d with toStatPoll := stat } := by
  unfold statStart
  split
  · exact ⟨d.toStatPoll, rfl⟩
  · exact ⟨_, rfl⟩

/-- Bringing reception up touches the ring, the frames in flight and the status poll. -/
theorem rxEnsure_frame :
    ∃ ring anchor stat, (d.rxEnsure up).1 =
        { d with toRxRing := ring, toTxAnchor := anchor, toStatPoll := stat } ∧
      (d.rxRunning = true → ring = d.toRxRing) := by
  unfold rxEnsure
  split
  · exact ⟨d.toRxRing, d.toTxAnchor, d.toStatPoll, rfl, fun _ => rfl⟩
  · rename_i idle
    obtain ⟨stat, polled⟩ := statStart_frame d
    obtain ⟨ring, anchor, started⟩ := rxStartFrom_frame up d.statStart rxUrbs
    unfold rxStart
    cases result : rxStartFrom up d.statStart rxUrbs with
    | mk armed failure =>
      rw [result, polled] at started
      have armed_eq : armed = { d with toRxRing := ring, toTxAnchor := anchor, toStatPoll := stat } :=
        started
      cases failure with
      | some e => exact ⟨ring, anchor, stat, armed_eq, fun running => absurd running idle⟩
      | none =>
        dsimp only
        rw [armed_eq]
        exact ⟨_, anchor, stat, rfl, fun running => absurd running idle⟩

end Reception

section Connect

variable (ok : Bytes → Bool) (up : Nat → UrbUp) (d : GlueDev)

/-- The SME that a connect starts. -/
theorem startSme_frame (pmk : Octets 32) (peer : MacAddr) :
    ∃ ring anchor stat sme, d.startSme ok up pmk peer =
        { d with toRxRing := ring, toTxAnchor := anchor, toStatPoll := stat, sme := sme,
                 rxCb := true } ∧
      sme.core = { (smeInit .sta d.macaddr pmk 0).core with state := .scanning, peer := peer } ∧
      (d.rxRunning = true → ring = d.toRxRing) := by
  unfold startSme
  dsimp only
  obtain ⟨ring, anchor, stat, eq, kept⟩ :=
    rxEnsure_frame up { d with sme := smeBindHal (smeInit .sta d.macaddr pmk 0), rxCb := true }
  rw [eq]
  refine ⟨ring, _, stat, _, rfl, ?_, kept⟩
  exact txMgmtTo_core _ _ _ _

/-- A request names a network and the radio can be tuned to it. -/
def connects (t : Tune) (sel : Option Bss) (conn : ConnectParams) : Bool :=
  (conn.target sel).1.isSome && (d.tuneConnect t (conn.target sel).2).2.isNone

/-- The radio after a connect was asked for. -/
def connectRadio (t : Tune) (sel : Option Bss) (conn : ConnectParams) : Radio :=
  if (conn.target sel).1.isSome then (d.tuneConnect t (conn.target sel).2).1.toRadio else d.toRadio

theorem tuneConnect_eq (t : Tune) (chan : Option Nat) :
    d.tuneConnect t chan = ({ d with toRadio := (d.tuneConnect t chan).1.toRadio },
      (d.tuneConnect t chan).2) := by
  cases chan with
  | none => rfl
  | some mhz => rfl

theorem tuneConnect_bssid (t : Tune) (chan : Option Nat) (bssid : MacAddr) :
    ({ d with connectBssid := bssid }).tuneConnect t chan =
      ({ (d.tuneConnect t chan).1 with connectBssid := bssid }, (d.tuneConnect t chan).2) := by
  cases chan with
  | none => rfl
  | some mhz => rfl

/-- A connect that fails has noted the BSSID it found and moved the radio. -/
theorem cfgConnect_refused_eq {t : Tune} {sel : Option Bss} {conn : ConnectParams}
    (refused : d.connects t sel conn = false) :
    (d.cfgConnect ok up t sel conn).1 =
      { d with connectBssid := (conn.target sel).1.getD d.connectBssid
               toRadio := d.connectRadio t sel conn } := by
  unfold connects at refused
  unfold cfgConnect connectRadio
  split
  · rename_i unnamed
    rw [unnamed]
    rfl
  · rename_i bssid named
    rw [named] at refused ⊢
    dsimp only
    rw [tuneConnect_bssid]
    cases failed : (d.tuneConnect t (conn.target sel).2).2 with
    | none => simp [failed] at refused
    | some e =>
      dsimp only
      rw [tuneConnect_eq d]
      rfl

theorem cfgConnect_refused {t : Tune} {sel : Option Bss} {conn : ConnectParams}
    (refused : d.connects t sel conn = false) :
    ∃ bssid, (d.cfgConnect ok up t sel conn).1 =
      { d with connectBssid := bssid, toRadio := d.connectRadio t sel conn } :=
  ⟨_, cfgConnect_refused_eq ok up d refused⟩

/-- An error is returned only where no network is named or the radio cannot be tuned. -/
theorem connects_of_failed {t : Tune} {sel : Option Bss} {conn : ConnectParams} {e : Errno}
    (failed : (d.cfgConnect ok up t sel conn).2 = some e) : d.connects t sel conn = false := by
  unfold cfgConnect at failed
  unfold connects
  split at failed
  · rename_i unnamed
    rw [unnamed]
    rfl
  · rename_i bssid named
    dsimp only at failed
    rw [tuneConnect_bssid] at failed
    split at failed
    · rename_i tuned
      have error := (Prod.mk.inj tuned).2
      rw [error, Bool.and_eq_false_iff]
      exact Or.inr rfl
    · cases failed

/-- A connect that succeeds has tuned the radio, started the SME and armed the poll. -/
theorem cfgConnect_started {t : Tune} {sel : Option Bss} {conn : ConnectParams}
    (starts : d.connects t sel conn = true) :
    ∃ bssid ring anchor stat sme, (d.cfgConnect ok up t sel conn).1 =
        ({ d with toRadio := d.connectRadio t sel conn, connectBssid := bssid, toRxRing := ring,
                  toTxAnchor := anchor, toStatPoll := stat, sme := sme,
                  rxCb := true }).armConnect conn (conn.target sel).2 ∧
      sme.core = { (smeInit .sta d.macaddr (conn.pmk.getD (Octets.zero 32)) 0).core with
                   state := .scanning, peer := bssid } ∧
      (d.rxRunning = true → ring = d.toRxRing) := by
  obtain ⟨named, tuned⟩ := Bool.and_eq_true_iff.1 starts
  obtain ⟨bssid, bssidEq⟩ := Option.isSome_iff_exists.1 named
  unfold cfgConnect connectRadio
  rw [bssidEq]
  dsimp only
  rw [tuneConnect_bssid, Option.isNone_iff_eq_none.1 tuned]
  obtain ⟨ring, anchor, stat, sme, eq, started⟩ := startSme_frame ok up
    { d with toRadio := (d.tuneConnect t (conn.target sel).2).1.toRadio, connectBssid := bssid }
    (conn.pmk.getD (Octets.zero 32)) bssid
  refine ⟨bssid, ring, anchor, stat, sme, ?_, started⟩
  dsimp only
  rw [tuneConnect_eq d]
  dsimp only
  rw [eq]
  rfl

end Connect

section Scan

variable (d : GlueDev)

/-- Stopping a scan leaves no request and queues nothing. -/
theorem scanStop_frame :
    ∃ scan, d.scanStop = { d with toGlueScan := scan } ∧ scan.scanReq = none ∧
      (scan.scanWork = true → d.scanWork = true ∧ d.scanReq = none) := by
  unfold scanStop
  dsimp only
  split
  · exact ⟨_, rfl, rfl, nofun⟩
  · rename_i idle
    have none : d.scanReq = none := by simpa using idle
    exact ⟨_, rfl, none, fun due => ⟨due, none⟩⟩

theorem scanWorker_frame (ok : Bytes → Bool) (t : Tune) :
    ∃ radio scan anchor, d.scanWorker ok t =
      { d with toRadio := radio, toGlueScan := scan, toTxAnchor := anchor } := by
  unfold scanWorker
  split
  · exact ⟨d.toRadio, d.toGlueScan, d.toTxAnchor, rfl⟩
  split
  · exact ⟨d.toRadio, _, d.toTxAnchor, rfl⟩
  split
  · exact ⟨d.toRadio, _, d.toTxAnchor, rfl⟩
  dsimp only
  split
  · exact ⟨_, _, _, rfl⟩
  · exact ⟨_, _, d.toTxAnchor, rfl⟩

/-- A request for a scan that is turned down changes nothing; otherwise nothing was in flight. -/
theorem cfgScan_frame (up : Nat → UrbUp) (req : ScanRequest) :
    (d.cfgScan up req).1 = d ∨ d.removing = false ∧ d.scanReq = none ∧
      ∃ ring anchor stat scan, (d.cfgScan up req).1 =
          { d with toRxRing := ring, toTxAnchor := anchor, toStatPoll := stat
                   toGlueScan := scan } ∧
        (scan.scanReq = none ∧ scan.scanWork = d.scanWork ∨
          scan.scanReq = some req ∧ scan.scanWork = true) := by
  unfold cfgScan
  split
  · exact Or.inl rfl
  rename_i present
  split
  · exact Or.inl rfl
  rename_i idle
  refine Or.inr ⟨by simpa using present, by simpa using idle, ?_⟩
  dsimp only
  obtain ⟨ring, anchor, stat, eq, _⟩ := rxEnsure_frame up
    { d with scanReq := some req, scanChanIdx := 0, scanCurFreq := 0, scanAborted := false }
  split
  · rename_i result
    rw [result] at eq
    dsimp only at eq
    rw [eq]
    exact ⟨ring, anchor, stat, _, rfl, Or.inl ⟨rfl, rfl⟩⟩
  · rename_i result
    rw [result] at eq
    dsimp only at eq
    rw [eq]
    exact ⟨ring, anchor, stat, _, rfl, Or.inr ⟨rfl, rfl⟩⟩

end Scan

section Keys

variable (d : GlueDev)

theorem installHwKeys_frame :
    ∃ table key, d.installHwKeys = { d with toKeyTable := table, toHwKey := key } := by
  unfold installHwKeys
  split
  · exact ⟨d.toKeyTable, d.toHwKey, rfl⟩
  split
  · exact ⟨d.toKeyTable, d.toHwKey, rfl⟩
  · exact ⟨_, _, rfl⟩

theorem cfgAddKey_frame (pairwise : Bool) (cipher : UInt32) :
    ∃ table key, d.cfgAddKey pairwise cipher = { d with toKeyTable := table, toHwKey := key } := by
  unfold cfgAddKey
  split
  · exact installHwKeys_frame d
  · exact ⟨d.toKeyTable, d.toHwKey, rfl⟩

theorem bogusBssidProbe_frame (ok : Bytes → Bool) (mem : Bool) :
    ∃ anchor key, d.bogusBssidProbe ok mem = { d with toTxAnchor := anchor, toHwKey := key } := by
  unfold bogusBssidProbe
  split
  · exact ⟨d.toTxAnchor, d.toHwKey, rfl⟩
  split
  · exact ⟨d.toTxAnchor, _, rfl⟩
  · exact ⟨_, _, rfl⟩

theorem ndoStartXmit_frame (ok : Bytes → Bool) (mem : Bool) (eth : Bytes) :
    ∃ anchor key, d.ndoStartXmit ok mem eth = { d with toTxAnchor := anchor, toHwKey := key } := by
  unfold ndoStartXmit
  split
  · exact ⟨d.toTxAnchor, d.toHwKey, rfl⟩
  split
  · exact ⟨_, _, rfl⟩
  · exact ⟨d.toTxAnchor, d.toHwKey, rfl⟩

/-- The poll for the end of a connect touches the key table and its own state only. -/
theorem connectWorker_frame (ok : Bytes → Bool) (mem : Bool) :
    ∃ table key anchor pending polls work, (d.connectWorker ok mem).1 =
        { d with toKeyTable := table, toHwKey := key, toTxAnchor := anchor,
                 connectPending := pending, connectPolls := polls, connectWork := work } ∧
      (d.connectPending = false → pending = false) := by
  unfold connectWorker
  split
  · exact ⟨_, _, _, _, _, _, rfl, id⟩
  split
  · dsimp only
    split
    · obtain ⟨anchor, key, eq⟩ := bogusBssidProbe_frame { d with connectPending := false } ok mem
      rw [eq]
      exact ⟨_, _, _, _, _, _, rfl, fun _ => rfl⟩
    · obtain ⟨table, held, installed⟩ := installHwKeys_frame { d with connectPending := false }
      rw [installed]
      obtain ⟨anchor, key, eq⟩ := bogusBssidProbe_frame
        { d with connectPending := false, toKeyTable := table, toHwKey := held } ok mem
      rw [eq]
      exact ⟨_, _, _, _, _, _, rfl, fun _ => rfl⟩
  split
  · exact ⟨_, _, _, _, _, _, rfl, fun _ => rfl⟩
  split
  · exact ⟨_, _, _, _, _, _, rfl, fun _ => rfl⟩
  · exact ⟨_, _, _, _, _, _, rfl, id⟩

end Keys

section Receive

variable (env : Env) (k : Ieee80211) (alloc : RxAlloc) (ok : Bytes → Bool) (d : GlueDev)

/-- The frame of a segment that is not for the network stack, and the device that hands it on. -/
def rxHanded (dev : Dev) (seg : Bytes) : Option (Dev × Bytes) :=
  (rxSegment k seg).bind fun r =>
    match rxToNetdev k alloc dev r.frame r.hwDecrypted with
    | (true, _) => none
    | (false, dev) => some (dev, slice r.buf r.info.data r.info.len)

theorem rxHanded_sme {dev dev' : Dev} {seg frame : Bytes}
    (handed : rxHanded k alloc dev seg = some (dev', frame)) :
    ∃ rp, dev'.sme = { dev.sme with dataRxReplay := rp } := by
  obtain ⟨r, _, rest⟩ := Option.bind_eq_some_iff.1 handed
  obtain ⟨sme, _⟩ := @rxToNetdev_cases k alloc dev r.frame r.hwDecrypted
  cases result : rxToNetdev k alloc dev r.frame r.hwDecrypted with
  | mk consumed after =>
    rw [result] at rest sme
    cases consumed with
    | true => cases rest
    | false =>
      cases rest
      exact sme

theorem rxProcessSeg_handed (dev : Dev) (seg : Bytes) :
    (rxHanded k alloc dev seg = none ∧
      ∃ rp, (rxProcessSeg env k alloc soleSme dev seg).1.sme =
        { dev.sme with dataRxReplay := rp }) ∨
    ∃ dev' frame, rxHanded k alloc dev seg = some (dev', frame) ∧
      (rxProcessSeg env k alloc soleSme dev seg).1.sme =
        smeStep env dev'.sme (.rx soleSme frame) := by
  unfold rxProcessSeg rxHanded
  cases parsed : rxSegment k seg with
  | none => exact Or.inl ⟨rfl, dev.sme.dataRxReplay, rfl⟩
  | some r =>
    obtain ⟨sme, _⟩ := @rxToNetdev_cases k alloc dev r.frame r.hwDecrypted
    dsimp only [Option.bind]
    cases result : rxToNetdev k alloc dev r.frame r.hwDecrypted with
    | mk consumed after =>
      rw [result] at sme
      cases consumed with
      | true => exact Or.inl ⟨rfl, sme⟩
      | false => exact Or.inr ⟨after, _, rfl, rfl⟩

/-- What the worker is about to hand to the SME. -/
def handsOn : Option (Dev × Bytes) :=
  if d.removing ∨ !d.rxCb then none
  else
    match d.rxQueue with
    | [] => none
    | seg :: _ => rxHanded k alloc d.toDev seg

theorem handsOn_sme {dev : Dev} {frame : Bytes} (handed : d.handsOn k alloc = some (dev, frame)) :
    ∃ rp, dev.sme = { d.sme with dataRxReplay := rp } := by
  unfold handsOn at handed
  split at handed
  · cases handed
  split at handed
  · cases handed
  · exact rxHanded_sme k alloc handed

/-- The worker touches the interface, the SME and the frames in flight. -/
theorem rxWorker_frame :
    ∃ dev anchor queue work, d.rxWorker env k alloc ok =
        { d with toDev := dev, toTxAnchor := anchor, rxQueue := queue, rxWork := work } ∧
      ((∃ rp, dev.sme = { d.sme with dataRxReplay := rp }) ∨
        ∃ dev' frame, d.handsOn k alloc = some (dev', frame) ∧
          dev.sme = smeStep env dev'.sme (.rx soleSme frame)) := by
  unfold rxWorker handsOn
  cases queued : d.rxQueue with
  | nil => exact ⟨d.toDev, d.toTxAnchor, d.rxQueue, false, by rw [queued], Or.inl ⟨_, rfl⟩⟩
  | cons seg rest =>
    dsimp only
    by_cases removing : d.removing = true
    · refine ⟨d.toDev, d.toTxAnchor, rest, d.rxWork, ?_, Or.inl ⟨_, rfl⟩⟩
      exact if_pos removing
    · rw [if_neg (show ¬GlueDev.removing { d with rxQueue := rest } = true from removing)]
      unfold rxProcess
      by_cases registered : d.rxCb = true
      · rw [if_pos registered]
        refine ⟨_, _, rest, d.rxWork, rfl, ?_⟩
        have on : ¬(d.removing = true ∨ (!d.rxCb) = true) := by simp [removing, registered]
        rw [if_neg on]
        rcases rxProcessSeg_handed env k alloc d.toDev seg with ⟨_, kept⟩ | handed
        · exact Or.inl kept
        · exact Or.inr handed
      · rw [if_neg registered]
        split
        · exact ⟨d.toDev, d.toTxAnchor, rest, d.rxWork, rfl, Or.inl ⟨_, rfl⟩⟩
        · rename_i r _
          obtain ⟨sme, _⟩ := @rxToNetdev_cases k alloc d.toDev r.frame r.hwDecrypted
          exact ⟨_, d.toTxAnchor, rest, d.rxWork, rfl, Or.inl sme⟩

end Receive

/-- A completion touches the ring only. -/
theorem rxComplete_frame (mem : Bytes → Bool) (again : Bool) (d : GlueDev) (i : Nat)
    (status : UrbStatus) :
    ∃ ring, d.rxComplete mem again i status = { d with toRxRing := ring } := by
  have resubmit (d : GlueDev) : ∃ ring, d.rxResubmit again i = { d with toRxRing := ring } := by
    unfold rxResubmit
    split
    · exact ⟨_, rfl⟩
    · exact ⟨_, rfl⟩
  cases status with
  | terminal => exact ⟨_, rfl⟩
  | error => exact resubmit d
  | ok data =>
    obtain ⟨ring, eq⟩ := resubmit (d.rxQueueSegments mem data)
    have queued : ∃ ring, d.rxQueueSegments mem data = { d with toRxRing := ring } := by
      unfold rxQueueSegments
      split
      · exact ⟨d.toRxRing, rfl⟩
      · exact ⟨_, rfl⟩
    obtain ⟨queue, queued⟩ := queued
    exact ⟨ring, eq.trans (by rw [queued])⟩

end Rf2a4m1.GlueDev

namespace Rf2a4m1

open ByteString

/-- What a step is: nothing, or an entry point that is due. -/
inductive GlueMoves (d : GlueDev) : GlueOp → GlueDev → Prop where
  | idle (op : GlueOp) : GlueMoves d op d
  | connect (registered : d.registered = true) (ok : Bytes → Bool) (up : Nat → GlueDev.UrbUp)
    (t : Tune) (sel : Option Bss) (conn : ConnectParams) :
    GlueMoves d (.connect ok up t sel conn) (d.cfgConnect ok up t sel conn).1
  | disconnect (registered : d.registered = true) (ok : Bytes → Bool) (reason : UInt16) :
    GlueMoves d (.disconnect ok reason) (d.cfgDisconnect ok reason)
  | scan (registered : d.registered = true) (up : Nat → GlueDev.UrbUp) (req : ScanRequest) :
    GlueMoves d (.scan up req) (d.cfgScan up req).1
  | addKey (registered : d.registered = true) (pairwise : Bool) (cipher : UInt32) :
    GlueMoves d (.addKey pairwise cipher) (d.cfgAddKey pairwise cipher)
  | xmit (registered : d.registered = true) (ok : Bytes → Bool) (mem : Bool) (eth : Bytes) :
    GlueMoves d (.xmit ok mem eth) (d.ndoStartXmit ok mem eth)
  | connectWork (due : d.connectWork = true) (ok : Bytes → Bool) (mem : Bool) :
    GlueMoves d (.connectWork ok mem) ({ d with connectWork := false }.connectWorker ok mem).1
  | scanWork (due : d.scanWork = true) (ok : Bytes → Bool) (t : Tune) :
    GlueMoves d (.scanWork ok t) ({ d with scanWork := false }.scanWorker ok t)
  | statWork (due : d.statWork = true) : GlueMoves d .statWork { d with statWork := false }.statWorker
  | rxComplete {i : Nat} (flying : d.rx[i]? = some .submitted) (mem : Bytes → Bool) (again : Bool)
    (status : UrbStatus) :
    GlueMoves d (.rxComplete mem again i status) (d.rxComplete mem again i status)
  | rxWork (due : d.rxWork = true) (env : Env) (k : Ieee80211) (alloc : RxAlloc)
    (ok : Bytes → Bool) :
    GlueMoves d (.rxWork env k alloc ok) (d.rxWorker env k alloc ok)
  | txComplete (i : Nat) :
    GlueMoves d (.txComplete i) { d with txAnchor := d.txAnchor.eraseIdx i }
  | remove : GlueMoves d .remove d.remove

theorem glueStep_moves (d : GlueDev) (op : GlueOp) : GlueMoves d op (glueStep d op) := by
  have guarded {op : GlueOp} {b : Bool} {t : GlueDev} (moves : b = true → GlueMoves d op t) :
      GlueMoves d op (if b then t else d) := by
    cases b with
    | true => exact moves rfl
    | false => exact .idle op
  cases op with
  | connect ok up t sel conn => exact guarded fun registered => .connect registered ok up t sel conn
  | disconnect ok reason => exact guarded fun registered => .disconnect registered ok reason
  | scan up req => exact guarded fun registered => .scan registered up req
  | addKey pairwise cipher => exact guarded fun registered => .addKey registered pairwise cipher
  | xmit ok mem eth => exact guarded fun registered => .xmit registered ok mem eth
  | connectWork ok mem => exact guarded fun due => .connectWork due ok mem
  | scanWork ok t => exact guarded fun due => .scanWork due ok t
  | statWork => exact guarded fun due => .statWork due
  | rxComplete mem again i status =>
    simp only [glueStep]
    split
    · rename_i flying
      exact .rxComplete flying mem again status
    · exact .idle _
  | rxWork env k alloc ok => exact guarded fun due => .rxWork due env k alloc ok
  | txComplete i => exact .txComplete i
  | remove => exact .remove

end Rf2a4m1
