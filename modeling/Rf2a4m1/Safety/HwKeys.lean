import Rf2a4m1.Glue.Demo
import Rf2a4m1.Glue.Frame

/-!
# The key table of the chip follows the SME

The crypto engine encrypts with the key that was programmed when a connect
completed. A connect over a programmed key leaves it behind, and so does a
third message that brings another key into the SME of a link that is up.
-/

set_option autoImplicit false

namespace Rf2a4m1

open ByteString Runs

/-- What is sent through the crypto engine is for the peer of the SME and under its key. -/
def GlueDev.HwKeyFollows (d : GlueDev) : Prop :=
  ∀ eth frame, d.hwDataTx eth = some frame →
    slice frame 4 6 = d.sme.peer.bytes ∧ d.wcidAddr = d.sme.peer ∧ d.wcidTk = d.sme.installedTk

/-- A connect finds no key programmed, and a key that is programmed is not changed in the SME. -/
def KeepsHwKey (d : GlueDev) : GlueOp → Prop
  | .connect _ _ t sel conn =>
    d.registered = true → d.connects t sel conn = true → d.hwKeyInstalled = false
  | .rxWork env k alloc _ =>
    d.rxWork = true → d.hwKeyInstalled = true → ∀ dev frame inp,
      d.handsOn k alloc = some (dev, frame) →
      smeEvent dev.sme (.rx soleSme frame) = .handle .m3 inp →
      staAcceptsM3 env dev.sme (frameBody inp) = true → tk dev.sme.ptk = dev.sme.installedTk
  | _ => True

/-- The SME and what was programmed from it. -/
structure KeyView where
  core : SmeCore
  wcidAddr : MacAddr
  wcidTk : Octets 16
  hwPeer : MacAddr
  hwKeyInstalled : Bool

def GlueDev.keyView (d : GlueDev) : KeyView :=
  { core := d.sme.core, wcidAddr := d.wcidAddr, wcidTk := d.wcidTk, hwPeer := d.hwPeer
    hwKeyInstalled := d.hwKeyInstalled }

/-- A station without fast transition, which holds no key while it looks for its AP. -/
structure Plain (c : SmeCore) : Prop where
  role : c.role = .sta
  ftEnabled : c.ftEnabled = false
  scanning : c.state = .scanning → c.ptkInstalled = false

structure KeyInv (v : KeyView) : Prop where
  plain : Plain v.core
  installed : v.hwKeyInstalled = true → v.core.ptkInstalled = true
  addr : v.hwKeyInstalled = true → v.wcidAddr = v.core.peer
  peer : v.hwKeyInstalled = true → v.hwPeer = v.core.peer
  tk : v.hwKeyInstalled = true → v.wcidTk = v.core.installedTk

section Receive

variable {env : Env} {sib : Siblings} {s : Sme} {frame : Bytes}

/-- Without fast transition a Reassociation Response is not heard. -/
theorem smeRx_ftReassocResp {inp : Bytes} (role : s.role = .sta) (off : s.ftEnabled = false)
    (event : smeEvent s (.rx sib frame) = .handle .ftReassocResp inp) :
    (smeStep env s (.rx sib frame)).core = s.core := by
  obtain ⟨_, _, aid, eq, reads⟩ := smeEvent_handle event
  cases eq
  rw [sta_handles role reads nofun]
  simp only [staHandle, off, Bool.false_and]
  rfl

/-- What a frame does to the keys of a plain station that holds one. -/
theorem smeRx_plain (plain : Plain s.core) :
    Plain (smeStep env s (.rx sib frame)).core ∧
      (s.ptkInstalled = true →
        (smeStep env s (.rx sib frame)).core.ptkInstalled = true ∧
        (smeStep env s (.rx sib frame)).core.peer = s.peer ∧
        ((smeStep env s (.rx sib frame)).core.installedTk = s.installedTk ∨
          ∃ inp, smeEvent s (.rx sib frame) = .handle .m3 inp ∧
            staAcceptsM3 env s (frameBody inp) = true ∧
            (smeStep env s (.rx sib frame)).core.installedTk = tk s.ptk)) := by
  have role : s.role = .sta := plain.role
  have off : s.ftEnabled = false := plain.ftEnabled
  have keyless : s.state = .scanning → s.ptkInstalled = false := plain.scanning
  have holds (scanning : s.state = .scanning) (key : s.ptkInstalled = true) : False := by
    rw [keyless scanning] at key
    cases key
  have notAp (ap : s.role = .ap) : False := by
    rw [role] at ap
    cases ap
  have heard := @smeRx_ftReassocResp env sib s frame
  have effect := smeStep_effect env s (.rx sib frame)
  have received := @smeEvent_fromFrame s (.rx sib frame) rfl
  revert effect heard received
  generalize smeEvent s (.rx sib frame) = e
  generalize (smeStep env s (.rx sib frame)).core = c
  intro heard effect received
  have kept {d : SmeCore} (role' : d.role = s.role) (ft : d.ftEnabled = s.ftEnabled)
      (ptk : d.ptkInstalled = s.ptkInstalled) (peer : d.peer = s.peer)
      (tk' : d.installedTk = s.installedTk)
      (state : d.state = .scanning → s.state = .scanning) :
      Plain d ∧ (s.ptkInstalled = true → d.ptkInstalled = true ∧ d.peer = s.peer ∧
        (d.installedTk = s.installedTk ∨ ∃ inp, e = .handle .m3 inp ∧
          staAcceptsM3 env s (frameBody inp) = true ∧ d.installedTk = tk s.ptk)) :=
    ⟨⟨role'.trans role, ft.trans off, fun h => ptk.trans (keyless (state h))⟩,
      fun key => ⟨ptk.trans key, peer, Or.inl tk'⟩⟩
  cases effect with
  | announced _ scanning _ _ _ _ _ _ outcome =>
    exact ⟨⟨role, off, fun _ => keyless scanning⟩, fun key => (holds scanning key).elim⟩
  | staProbeResp _ scanning =>
    exact ⟨⟨role, off, fun _ => keyless scanning⟩, fun key => (holds scanning key).elim⟩
  | staM3 _ replay gtk kde igtk taken accepts =>
    refine ⟨⟨role, off, nofun⟩, fun _ => ⟨rfl, rfl, Or.inr ⟨_, rfl, accepts, rfl⟩⟩⟩
  | staFtReassoc =>
    have same := heard role off rfl
    rw [same]
    exact kept rfl rfl rfl rfl rfl id
  | apAuthReq ap => exact (notAp ap).elim
  | apAssocRefused ap => exact (notAp ap).elim
  | apAssocReq ap => exact (notAp ap).elim
  | apM2Refused ap => exact (notAp ap).elim
  | apM2 ap => exact (notAp ap).elim
  | apM4 ap => exact (notAp ap).elim
  | apFtAuth1Unnamed ap => exact (notAp ap).elim
  | apFtAuth1 ap => exact (notAp ap).elim
  | apFtReassocHeld ap => exact (notAp ap).elim
  | apFtReassoc ap => exact (notAp ap).elim
  | peerSet => cases received
  | pmfSet => cases received
  | ftSet => cases received
  | connectStart => cases received
  | sent => cases received
  | groupTx => cases received
  | ftEstablish => cases received
  | dsPush => cases received
  | unchanged => exact kept rfl rfl rfl rfl rfl id
  | groupSeen => exact kept rfl rfl rfl rfl rfl id
  | saeCommit => exact kept rfl rfl rfl rfl rfl id
  | staM3Refused => exact kept rfl rfl rfl rfl rfl id
  | answered => exact kept rfl rfl rfl rfl rfl id
  | staFtAuth2 => exact kept rfl rfl rfl rfl rfl id
  | staFtDsResp => exact kept rfl rfl rfl rfl rfl id
  | _ => exact kept rfl rfl rfl rfl rfl nofun

end Receive

section View

variable (d : GlueDev)

theorem scanStop_keyView : d.scanStop.keyView = d.keyView := by
  obtain ⟨scan, eq, _⟩ := GlueDev.scanStop_frame d
  rw [eq]
  rfl

theorem cfgScan_keyView (up : Nat → GlueDev.UrbUp) (req : ScanRequest) :
    (d.cfgScan up req).1.keyView = d.keyView := by
  rcases GlueDev.cfgScan_frame d up req with eq | ⟨_, _, ring, anchor, stat, scan, eq, _⟩
  · rw [eq]
  · rw [eq]
    rfl

theorem scanWorker_keyView (ok : Bytes → Bool) (t : Tune) :
    (d.scanWorker ok t).keyView = d.keyView := by
  obtain ⟨radio, scan, anchor, eq⟩ := GlueDev.scanWorker_frame d ok t
  rw [eq]
  rfl

theorem ndoStartXmit_keyView (ok : Bytes → Bool) (mem : Bool) (eth : Bytes) :
    (d.ndoStartXmit ok mem eth).keyView = d.keyView := by
  unfold GlueDev.ndoStartXmit
  split
  · rfl
  split
  · rfl
  · rfl

theorem bogusBssidProbe_keyView (ok : Bytes → Bool) (mem : Bool) :
    (d.bogusBssidProbe ok mem).keyView = d.keyView := by
  unfold GlueDev.bogusBssidProbe
  split
  · rfl
  split
  · rfl
  · rfl

theorem remove_keyView : d.remove.keyView = d.keyView := by
  unfold GlueDev.remove
  split
  case h_4 => exact scanStop_keyView d
  all_goals rfl

theorem statWorker_keyView : d.statWorker.keyView = d.keyView := by
  unfold GlueDev.statWorker
  split
  · rfl
  · rfl

end View

section Step

variable {d : GlueDev}

/-- What is programmed is taken from the SME. -/
theorem installHwKeys_keyInv (inv : KeyInv d.keyView) : KeyInv d.installHwKeys.keyView := by
  unfold GlueDev.installHwKeys
  split
  · exact inv
  split
  · exact inv
  · rename_i held
    have key : d.sme.ptkInstalled = true := by
      cases key : d.sme.ptkInstalled with
      | true => rfl
      | false => exact absurd (Or.inl (by rw [key]; rfl)) held
    exact ⟨inv.plain, fun _ => key, fun _ => rfl, fun _ => rfl, fun _ => rfl⟩

theorem connectWorker_keyInv (ok : Bytes → Bool) (mem : Bool) (inv : KeyInv d.keyView) :
    KeyInv (d.connectWorker ok mem).1.keyView := by
  unfold GlueDev.connectWorker
  split
  · exact inv
  split
  · dsimp only
    rw [bogusBssidProbe_keyView]
    split
    · exact inv
    · exact installHwKeys_keyInv (d := { d with connectPending := false }) inv
  split
  · exact inv
  split
  · exact inv
  · exact inv

theorem cfgAddKey_keyInv (pairwise : Bool) (cipher : UInt32) (inv : KeyInv d.keyView) :
    KeyInv (d.cfgAddKey pairwise cipher).keyView := by
  unfold GlueDev.cfgAddKey
  split
  · exact installHwKeys_keyInv inv
  · exact inv

/-- A connect starts over, on a key table that is not in use. -/
theorem cfgConnect_keyInv (ok : Bytes → Bool) (up : Nat → GlueDev.UrbUp) (t : Tune)
    (sel : Option Bss) (conn : ConnectParams) (inv : KeyInv d.keyView)
    (unused : d.connects t sel conn = true → d.hwKeyInstalled = false) :
    KeyInv (d.cfgConnect ok up t sel conn).1.keyView := by
  cases starts : d.connects t sel conn with
  | false =>
    obtain ⟨bssid, eq⟩ := GlueDev.cfgConnect_refused ok up d starts
    rw [eq]
    exact inv
  | true =>
    obtain ⟨bssid, ring, anchor, stat, sme, eq, core, _⟩ :=
      GlueDev.cfgConnect_started ok up d starts
    have free : d.hwKeyInstalled = false := unused starts
    have none {p : Prop} (used : d.hwKeyInstalled = true) : p := by
      rw [free] at used
      cases used
    rw [eq]
    refine ⟨?_, fun used => none used, fun used => none used, fun used => none used,
      fun used => none used⟩
    show Plain sme.core
    rw [core]
    exact ⟨rfl, rfl, fun _ => rfl⟩

/-- After a disconnect the crypto engine is not used. -/
theorem cfgDisconnect_keyInv (ok : Bytes → Bool) (reason : UInt16) (inv : KeyInv d.keyView) :
    KeyInv (d.cfgDisconnect ok reason).keyView := by
  unfold GlueDev.cfgDisconnect
  dsimp only
  have view := scanStop_keyView { d with connectPending := false, connectWork := false }
  revert view
  generalize GlueDev.scanStop { d with connectPending := false, connectWork := false } = stopped
  intro view
  have plain : Plain stopped.sme.core := by
    have same : stopped.sme.core = d.sme.core := congrArg KeyView.core view
    rw [same]
    exact inv.plain
  obtain ⟨ipn, sent⟩ := txProtectedGroupMgmt_core stopped.sme 12 reason
  refine ⟨?_, nofun, nofun, nofun, nofun⟩
  have core : (smeTxProtectedDeauth stopped.sme reason).1.core =
      { stopped.sme.core with igtk := { stopped.sme.igtk with ipnTx := ipn } } := sent
  show Plain (smeTxProtectedDeauth stopped.sme reason).1.core
  rw [core]
  exact ⟨plain.role, plain.ftEnabled, plain.scanning⟩

/-- The worker brings no other key into the SME while one is programmed. -/
theorem rxWorker_keyInv {env : Env} {k : Ieee80211} {alloc : RxAlloc} (ok : Bytes → Bool)
    (inv : KeyInv d.keyView)
    (kept : d.hwKeyInstalled = true → ∀ dev frame inp, d.handsOn k alloc = some (dev, frame) →
      smeEvent dev.sme (.rx soleSme frame) = .handle .m3 inp →
      staAcceptsM3 env dev.sme (frameBody inp) = true → tk dev.sme.ptk = dev.sme.installedTk) :
    KeyInv (d.rxWorker env k alloc ok).keyView := by
  obtain ⟨dev, anchor, queue, work, eq, ⟨rp, sme⟩ | ⟨dev', frame, handed, sme⟩⟩ :=
    GlueDev.rxWorker_frame env k alloc ok d
  · have core : dev.sme.core = d.sme.core := by
      rw [sme]
      rfl
    have view : (d.rxWorker env k alloc ok).keyView = d.keyView := by
      rw [eq]
      unfold GlueDev.keyView
      dsimp only
      rw [core]
    rw [view]
    exact inv
  · obtain ⟨rp, before⟩ := GlueDev.handsOn_sme k alloc d handed
    have core : dev'.sme.core = d.sme.core := by
      rw [before]
      rfl
    have plain : Plain dev'.sme.core := core ▸ inv.plain
    obtain ⟨stays, keeps⟩ := @smeRx_plain env soleSme dev'.sme frame plain
    rw [← sme] at stays keeps
    have key (used : d.hwKeyInstalled = true) : dev'.sme.ptkInstalled = true :=
      (congrArg (fun c : SmeCore => c.ptkInstalled) core).trans (inv.installed used)
    have peer : dev'.sme.peer = d.sme.peer := congrArg SmeCore.peer core
    have tk : dev'.sme.installedTk = d.sme.installedTk := congrArg SmeCore.installedTk core
    rw [eq]
    refine ⟨stays, fun used => (keeps (key used)).1, fun used => ?_, fun used => ?_,
      fun used => ?_⟩
    · exact ((inv.addr used).trans peer.symm).trans (keeps (key used)).2.1.symm
    · exact ((inv.peer used).trans peer.symm).trans (keeps (key used)).2.1.symm
    · obtain ⟨_, _, same | ⟨inp, event, accepts, installed⟩⟩ := keeps (key used)
      · exact ((inv.tk used).trans tk.symm).trans same.symm
      · have unchanged := kept used dev' frame inp handed event accepts
        exact ((inv.tk used).trans tk.symm).trans (unchanged.symm.trans installed.symm)

theorem moves_keyInv {op : GlueOp} {u : GlueDev} (moves : GlueMoves d op u) (inv : KeyInv d.keyView)
    (keeps : KeepsHwKey d op) : KeyInv u.keyView := by
  have same {v : KeyView} (eq : v = d.keyView) : KeyInv v := eq ▸ inv
  cases moves with
  | idle => exact inv
  | connect registered ok up t sel conn =>
    exact cfgConnect_keyInv ok up t sel conn inv (keeps registered)
  | disconnect _ ok reason => exact cfgDisconnect_keyInv ok reason inv
  | scan _ up req => exact same (cfgScan_keyView d up req)
  | addKey _ pairwise cipher => exact cfgAddKey_keyInv pairwise cipher inv
  | xmit _ ok mem eth => exact same (ndoStartXmit_keyView d ok mem eth)
  | connectWork _ ok mem => exact connectWorker_keyInv (d := { d with connectWork := false }) ok mem inv
  | scanWork _ ok t => exact same (scanWorker_keyView { d with scanWork := false } ok t)
  | statWork => exact same (statWorker_keyView { d with statWork := false })
  | rxComplete _ mem again status =>
    obtain ⟨ring, eq⟩ := GlueDev.rxComplete_frame mem again d _ status
    rw [eq]
    exact inv
  | rxWork due env k alloc ok => exact rxWorker_keyInv ok inv (keeps due)
  | txComplete i => exact inv
  | remove => exact same (remove_keyView d)

theorem KeyInv.follows (inv : KeyInv d.keyView) : d.HwKeyFollows := by
  intro eth frame sent
  unfold GlueDev.hwDataTx at sent
  split at sent
  · cases sent
  rename_i ready
  have used : d.hwKeyInstalled = true := by
    cases used : d.hwKeyInstalled with
    | true => rfl
    | false => exact absurd (Or.inr (by rw [used]; rfl)) ready
  split at sent
  · cases sent
  split at sent
  · cases sent
  cases sent
  refine ⟨?_, inv.addr used, inv.tk used⟩
  rw [← show d.hwPeer = d.sme.peer from inv.peer used]
  unfold GlueDev.hwDataFrame
  simp only [slice, List.append_assoc]
  rw [List.drop_left' (by rfl), List.take_left' d.hwPeer.length_eq]

end Step

/-- The key table follows the SME where no connect finds a key programmed and no other key comes
into the SME under one that is. -/
theorem hwKeyFollows_run {d₀ d : GlueDev} (start : d₀.Probed)
    (run : Run glueStep KeepsHwKey d₀ d) : d.HwKeyFollows := by
  have unused {p : Prop} (used : d₀.hwKeyInstalled = true) : p := by
    rw [start.hwKeyInstalled] at used
    cases used
  have plain : Plain d₀.sme.core :=
    ⟨start.role, start.ftEnabled, fun _ => start.ptkInstalled⟩
  have first : KeyInv d₀.keyView :=
    ⟨plain, fun used => unused used, fun used => unused used, fun used => unused used,
      fun used => unused used⟩
  have inv : KeyInv d.keyView :=
    run.invariant (fun d => KeyInv d.keyView) first fun d op inv keeps =>
      moves_keyInv (glueStep_moves d op) inv keeps
  exact inv.follows

/-- The first connect of a device, up to the key table. -/
theorem hwKeyFollows_run_demo :
    demoGlue.Probed ∧ (demoSteps demoLink).hwKeyInstalled = true ∧
      (demoSteps demoLink).HwKeyFollows := by
  refine ⟨demoGlue_probed, by decide +kernel, hwKeyFollows_run demoGlue_probed ?_⟩
  refine demoSteps_run (fun d _ => !d.hwKeyInstalled) (fun d op free => ?_) (by decide +kernel)
  have free : d.hwKeyInstalled = false := by simpa using free
  cases op with
  | connect => exact fun _ _ => free
  | rxWork =>
    intro _ used
    rw [free] at used
    cases used
  | _ => trivial

/-- Connected, and then connected to another AP without a disconnect. -/
def demoReconnect : GlueDev := demoSteps (demoLink ++ [demoConnect demoOtherAp .done 2412])

/-- After the second connect data frames still go to the first AP. -/
theorem hwKey_stale :
    ¬∀ d₀ d : GlueDev, d₀.Probed → Reach glueStep d₀ d → d.HwKeyFollows := by
  intro all
  have follows : demoReconnect.HwKeyFollows := all _ _ demoGlue_probed (demoSteps_reach _)
  have stale : (demoReconnect.hwDataTx (List.replicate 14 0)).any
      (fun frame => slice frame 4 6 != demoReconnect.sme.peer.bytes) = true := by
    decide +kernel
  cases sent : demoReconnect.hwDataTx (List.replicate 14 0) with
  | none =>
    rw [sent] at stale
    cases stale
  | some frame =>
    rw [sent] at stale
    have wrong : slice frame 4 6 ≠ demoReconnect.sme.peer.bytes := by simpa using stale
    exact wrong (follows _ frame sent).1

end Rf2a4m1
