import Rf2a4m1.Glue.Demo
import Rf2a4m1.Glue.Frame

/-!
# A connect that fails

A connect notes the BSSID before it tunes the radio. A failure of the tuning
leaves the BSSID behind, and by it the frames and the completion of the link
that is there are told apart.
-/

set_option autoImplicit false

namespace Rf2a4m1

open ByteString

/-- A unicast address other than zero. -/
def isValidEtherAddr (a : MacAddr) : Bool := byteAt a.bytes 0 &&& 1 = 0 && !macIsZero a

namespace GlueDev

/-- A received frame counts for signal and rate of the link. -/
def rxFromPeer (d : GlueDev) (frame : Bytes) : Bool :=
  frame.length ≥ 16 && isValidEtherAddr d.connectBssid && macAt frame 10 = d.connectBssid

/-- A management frame counts as one of the network that was asked for. -/
def rxFromTarget (d : GlueDev) (frame : Bytes) : Bool :=
  frame.length ≥ 16 && macAt frame 10 = d.connectBssid

/-- A beacon or probe response is kept for the completion of the connect. -/
def rxCapturesBss (d : GlueDev) (sub : UInt8) (frame : Bytes) : Bool :=
  (sub = 8 || sub = 5) && d.connectPending && d.rxFromTarget frame

def linkUp (d : GlueDev) : Bool := d.sme.state = .connected || d.sme.connected

/-- The one station there is: the AP of the link. -/
def cfgGetStation (d : GlueDev) (mac : MacAddr) : Bool := d.linkUp && mac = d.connectBssid

def cfgDumpStation (d : GlueDev) (idx : Nat) : Option MacAddr :=
  if idx ≠ 0 ∨ !d.linkUp then none else some d.connectBssid

/--
Connect, SME and keys are as they were, and so is what frames, stations and the
end of a connect are attributed to.
-/
structure KeepsLink (d u : GlueDev) : Prop where
  connectBssid : u.connectBssid = d.connectBssid
  connectSsid : u.connectSsid = d.connectSsid
  connectChan : u.connectChan = d.connectChan
  connectPending : u.connectPending = d.connectPending
  sme : u.sme = d.sme
  hwKey : u.toHwKey = d.toHwKey
  keyTable : u.toKeyTable = d.toKeyTable
  peer : u.rxFromPeer = d.rxFromPeer
  target : u.rxFromTarget = d.rxFromTarget
  bss : u.rxCapturesBss = d.rxCapturesBss
  station : u.cfgGetStation = d.cfgGetStation
  dump : u.cfgDumpStation = d.cfgDumpStation
  completion : ∀ ok mem, (u.connectWorker ok mem).2 = (d.connectWorker ok mem).2

theorem installHwKeys_connectBssid (d : GlueDev) :
    d.installHwKeys.connectBssid = d.connectBssid := by
  obtain ⟨table, key, eq⟩ := installHwKeys_frame d
  rw [eq]

/-- What the poll reports does not depend on the radio. -/
theorem connectWorker_radio (d : GlueDev) (r : Radio) (ok : Bytes → Bool) (mem : Bool) :
    ({ d with toRadio := r }.connectWorker ok mem).2 = (d.connectWorker ok mem).2 := by
  have removing : { d with toRadio := r }.removing = d.removing := rfl
  unfold connectWorker
  dsimp only
  rw [removing]
  split
  · rfl
  split
  · by_cases keyed : d.hwKeyInstalled
    · rw [if_pos keyed, if_pos keyed]
    · rw [if_neg keyed, if_neg keyed, installHwKeys_connectBssid, installHwKeys_connectBssid]
  split
  · rfl
  split <;> rfl

/-- Nothing that is attributed by looks at the radio. -/
theorem keepsLink_radio (d : GlueDev) (r : Radio) : KeepsLink d { d with toRadio := r } where
  connectBssid := rfl
  connectSsid := rfl
  connectChan := rfl
  connectPending := rfl
  sme := rfl
  hwKey := rfl
  keyTable := rfl
  peer := rfl
  target := rfl
  bss := rfl
  station := rfl
  dump := rfl
  completion := connectWorker_radio d r

end GlueDev

section Failure

variable {d : GlueDev} {ok : Bytes → Bool} {up : Nat → GlueDev.UrbUp} {t : Tune}
  {sel : Option Bss} {conn : ConnectParams} {e : Errno}

/-- The BSSID of a request: its own, else the hint, else that of the entry looked up. -/
theorem target_bssid :
    (conn.target sel).1 = (conn.bssid <|> conn.bssidHint <|> sel.map Bss.bssid) := by
  have assoc : ((conn.bssid <|> conn.bssidHint) <|> sel.map Bss.bssid) =
      (conn.bssid <|> conn.bssidHint <|> sel.map Bss.bssid) := by
    cases conn.bssid <;> rfl
  unfold ConnectParams.target
  dsimp only
  split
  · exact assoc
  · rename_i complete
    have named : (conn.bssid <|> conn.bssidHint).isNone = false :=
      Bool.eq_false_iff.2 fun unnamed => complete (Or.inl unnamed)
    rw [← assoc]
    cases found : (conn.bssid <|> conn.bssidHint) with
    | none => simp [found] at named
    | some bssid => rfl

/-- A failed connect keeps the link exactly where it finds no other BSSID than the one noted. -/
theorem failed_connect_keeps_iff (failed : (d.cfgConnect ok up t sel conn).2 = some e) :
    d.KeepsLink (d.cfgConnect ok up t sel conn).1 ↔
      ∀ bssid, (conn.bssid <|> conn.bssidHint <|> sel.map Bss.bssid) = some bssid →
        bssid = d.connectBssid := by
  have refused := GlueDev.connects_of_failed ok up d failed
  rw [GlueDev.cfgConnect_refused_eq ok up d refused, target_bssid]
  constructor
  · intro keeps bssid found
    have noted := keeps.connectBssid
    rw [found] at noted
    exact noted
  · intro same
    have kept : (conn.bssid <|> conn.bssidHint <|> sel.map Bss.bssid).getD d.connectBssid =
        d.connectBssid := by
      cases found : (conn.bssid <|> conn.bssidHint <|> sel.map Bss.bssid) with
      | none => rfl
      | some bssid => exact same bssid found
    rw [kept]
    exact d.keepsLink_radio _

/-- Another try at the AP of the link, on a channel there is not. -/
theorem failed_connect_keeps_iff_again :
    (demoSteps demoLink).KeepsLink ((demoSteps demoLink).cfgConnect demoTaken demoUp .done none
        { bssid := some demoApMac, bssidHint := none, channel := some 2484, channelHint := none,
          ssid := [], pmk := none }).1 ↔
      ∀ bssid, some demoApMac = some bssid → bssid = (demoSteps demoLink).connectBssid :=
  failed_connect_keeps_iff (e := .inval) (by decide +kernel)

/-- With the link up, a connect to another network on that channel leaves its BSSID behind: the
frames of the AP no longer count for the link, and the station that is reported is another. -/
theorem failed_connect_renames :
    let d := demoSteps demoLink
    let u := d.cfgConnect demoTaken demoUp .done none
      { bssid := some demoOtherAp, bssidHint := none, channel := some 2484, channelHint := none,
        ssid := [], pmk := none }
    let beacon : Bytes := List.replicate 10 0 ++ demoApMac.bytes
    d.linkUp = true ∧ u.2 = some .inval ∧ u.1.linkUp = true ∧ u.1.connectBssid ≠ d.connectBssid ∧
      d.rxFromPeer beacon = true ∧ u.1.rxFromPeer beacon = false ∧
      d.cfgDumpStation 0 = some demoApMac ∧ u.1.cfgDumpStation 0 = some demoOtherAp := by
  decide +kernel

end Failure

end Rf2a4m1
