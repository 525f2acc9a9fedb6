import Rf2a4m1.Glue.Hal
import Rf2a4m1.Wire.Mgmt

/-!
# The operations of the wireless subsystem, and the device in steps

Connect, disconnect and scan, the work items that carry them on, and the
removal of the device stage by stage. Each entry point is one step; what the
kernel and the hardware decide is an input of the step.
-/

set_option autoImplicit false

namespace Rf2a4m1

open ByteString Runs

/-- A connect request, with the PMK that comes with it or is derived from the passphrase. -/
structure ConnectParams where
  bssid : Option MacAddr
  bssidHint : Option MacAddr
  channel : Option Nat
  channelHint : Option Nat
  ssid : Bytes
  pmk : Option (Octets 32)

/-- An entry of the table of networks, with its channel. -/
structure Bss where
  bssid : MacAddr
  channel : Nat

/-- BSSID and channel of a request, what it leaves open taken from an entry that was looked up. -/
def ConnectParams.target (conn : ConnectParams) (sel : Option Bss) : Option MacAddr × Option Nat :=
  let bssid := conn.bssid <|> conn.bssidHint
  let chan := conn.channel <|> conn.channelHint
  if bssid.isNone ∨ chan.isNone then
    (bssid <|> sel.map Bss.bssid, chan <|> sel.map Bss.channel)
  else (bssid, chan)

/-- What a connect is reported as. -/
inductive ConnectResult where
  | success
  | failed
  | timeout
deriving DecidableEq

def connectMaxPolls : Nat := 200

def scanIeMax : Nat := 512

def scanProbeMax : Nat := 24 + 2 + 32 + 2 + 8 + scanIeMax

def scanSuppRates : Bytes := [0x82, 0x84, 0x8b, 0x96, 0x0c, 0x12, 0x18, 0x24]

/-- The probe for a network name with the elements of the request, where they fit. -/
def scanProbe (self : MacAddr) (ie ssid : Bytes) : Option Bytes :=
  (mgmtBuildProbeReq scanProbeMax bcast self bcast 0 ssid scanSuppRates).map fun f =>
    let ie := ie.take scanIeMax
    if ie ≠ [] ∧ f.length + ie.length ≤ scanProbeMax then f ++ ie else f

/-- A wildcard probe, then one for each network that is named. -/
def scanProbes (self : MacAddr) (req : ScanRequest) : List Bytes :=
  ([] :: req.ssids.filter fun ssid => ssid ≠ []).filterMap (scanProbe self req.ie)

namespace GlueDev

/-- The radio on a channel, as the connect and the sweep both set it. -/
def setChannel (t : Tune) (d : GlueDev) (mhz : Nat) : GlueDev × Option Errno :=
  (d.setRadio (d.toRadio.opSetChannel t mhz).1, (d.toRadio.opSetChannel t mhz).2)

/-- A connect without a channel leaves the radio where it is. -/
def tuneConnect (t : Tune) (d : GlueDev) : Option Nat → GlueDev × Option Errno
  | none => (d, none)
  | some mhz => d.setChannel t mhz

/-- The SME starts over; its HAL brings reception up, and nobody looks at whether it did. -/
def startSme (ok : Bytes → Bool) (up : Nat → UrbUp) (d : GlueDev) (pmk : Octets 32)
    (peer : MacAddr) : GlueDev :=
  let d := { d with sme := smeBindHal (smeInit .sta d.macaddr pmk 0), rxCb := true }
  let d := (d.rxEnsure up).1
  let d := { d with sme := smeSet d.sme (.peer peer) }
  d.setSme ok (smeConnectStart d.sme).1

/-- The poll for the end of the connect is armed. -/
def armConnect (d : GlueDev) (conn : ConnectParams) (chan : Option Nat) : GlueDev :=
  { d with connectPolls := 0, connectSsid := conn.ssid.take 32, connectChan := chan
           connectPending := true, connectWork := true }

/-- The BSSID is noted before the radio is tuned; whether the device goes away is not asked. -/
def cfgConnect (ok : Bytes → Bool) (up : Nat → UrbUp) (t : Tune) (sel : Option Bss)
    (d : GlueDev) (conn : ConnectParams) : GlueDev × Option Errno :=
  match (conn.target sel).1 with
  | none => (d, some .inval)
  | some bssid =>
    let chan := (conn.target sel).2
    match tuneConnect t { d with connectBssid := bssid } chan with
    | (d, some e) => (d, some e)
    | (d, none) =>
      ((d.startSme ok up (conn.pmk.getD (Octets.zero 32)) bssid).armConnect conn chan, none)

/-- Whoever clears the request reports the scan. -/
def scanFinish (d : GlueDev) : GlueDev := { d with scanReq := none, scanCurFreq := 0 }

/-- A scan in flight is aborted. -/
def scanStop (d : GlueDev) : GlueDev :=
  let d := { d with scanAborted := true }
  if d.scanReq.isSome then { d with scanWork := false }.scanFinish else d

def cfgDisconnect (ok : Bytes → Bool) (d : GlueDev) (reason : UInt16) : GlueDev :=
  let d := { d with connectPending := false, connectWork := false }.scanStop
  let d := { d with hwKeyInstalled := false }
  d.setSme ok (smeTxProtectedDeauth d.sme reason).1

/-- The poll for the end of the connect, with what it reports and for which BSSID. -/
def connectWorker (ok : Bytes → Bool) (mem : Bool) (d : GlueDev) :
    GlueDev × Option (ConnectResult × MacAddr) :=
  if d.removing ∨ !d.connectPending then (d, none)
  else if d.sme.state = .connected ∨ d.sme.connected then
    let d := { d with connectPending := false }
    let d := if d.hwKeyInstalled then d else d.installHwKeys
    (d.bogusBssidProbe ok mem, some (.success, d.connectBssid))
  else if d.sme.state = .failed then
    ({ d with connectPending := false }, some (.failed, d.connectBssid))
  else if d.connectPolls + 1 > connectMaxPolls then
    ({ d with connectPolls := d.connectPolls + 1, connectPending := false },
      some (.timeout, d.connectBssid))
  else ({ d with connectPolls := d.connectPolls + 1, connectWork := true }, none)

/-- One scan at a time, and reception is up before the sweep starts. -/
def cfgScan (up : Nat → UrbUp) (d : GlueDev) (req : ScanRequest) : GlueDev × Option Errno :=
  if d.removing then (d, some .nodev)
  else if d.scanReq.isSome then (d, some .busy)
  else
    let d := { d with scanReq := some req, scanChanIdx := 0, scanCurFreq := 0
                      scanAborted := false }
    match d.rxEnsure up with
    | (d, some e) => ({ d with scanReq := none }, some e)
    | (d, none) => ({ d with scanWork := true }, none)

/-- The next channel of the sweep; the channel it started from is not restored at its end. -/
def scanWorker (ok : Bytes → Bool) (t : Tune) (d : GlueDev) : GlueDev :=
  match d.scanReq with
  | none => d
  | some req =>
    if d.removing ∨ d.scanAborted then d.scanFinish
    else
      match req.channels[d.scanChanIdx]? with
      | none => d.scanFinish
      | some chan =>
        let tuned := (d.setChannel t chan.centerFreq).2.isNone
        let d := (d.setChannel t chan.centerFreq).1
        let d := { d with scanCurFreq := if tuned then chan.centerFreq else 0
                          scanChanIdx := d.scanChanIdx + 1, scanWork := true }
        if tuned ∧ req.ssids ≠ [] ∧ !chan.noIr then d.bulkOutAsync ok (scanProbes d.macaddr req)
        else d

def mtCipherAesCcmp : UInt32 := 4

/-- A pairwise CCMP key from outside has the key of the SME programmed. -/
def cfgAddKey (d : GlueDev) (pairwise : Bool) (cipher : UInt32) : GlueDev :=
  if pairwise ∧ cipher &&& 0xff = mtCipherAesCcmp ∧ d.sme.ptkInstalled then d.installHwKeys else d

/-- The next stage of the removal. -/
def remove (d : GlueDev) : GlueDev :=
  match d.stage with
  | .running => { d with stage := .removing }
  | .removing => { d.rxStop with stage := .rxStopped }
  | .rxStopped =>
    { d with connectPending := false, connectWork := false, stage := .connectCancelled }
  | .connectCancelled => { d.scanStop with stage := .scanStopped }
  | .scanStopped => { d.statStop with stage := .statStopped }
  | .statStopped => { d with ndev := false, stage := .unregistered }
  | .unregistered => { d with stage := .freed }
  | .freed => d

/-- Calls of the wireless subsystem and of the network stack get through. -/
def registered (d : GlueDev) : Bool := d.stage ≠ .unregistered && d.stage ≠ .freed

end GlueDev

/--
The entry points. `ok` says which frames the host controller takes, `up` how
bringing up each receive transfer ends, `mem` what there is memory for; a
reception comes with the plugged-in cryptography and the nonces it will draw.
-/
inductive GlueOp where
  | connect (ok : Bytes → Bool) (up : Nat → GlueDev.UrbUp) (t : Tune) (sel : Option Bss)
    (conn : ConnectParams)
  | disconnect (ok : Bytes → Bool) (reason : UInt16)
  | scan (up : Nat → GlueDev.UrbUp) (req : ScanRequest)
  | addKey (pairwise : Bool) (cipher : UInt32)
  | xmit (ok : Bytes → Bool) (mem : Bool) (eth : Bytes)
  | connectWork (ok : Bytes → Bool) (mem : Bool)
  | scanWork (ok : Bytes → Bool) (t : Tune)
  | statWork
  | rxComplete (mem : Bytes → Bool) (again : Bool) (i : Nat) (status : UrbStatus)
  | rxWork (env : Env) (k : Ieee80211) (alloc : RxAlloc) (ok : Bytes → Bool)
  | txComplete (i : Nat)
  | remove

/-- A step; an entry point that is not due leaves the device alone. -/
def glueStep (d : GlueDev) : GlueOp → GlueDev
  | .connect ok up t sel conn => if d.registered then (d.cfgConnect ok up t sel conn).1 else d
  | .disconnect ok reason => if d.registered then d.cfgDisconnect ok reason else d
  | .scan up req => if d.registered then (d.cfgScan up req).1 else d
  | .addKey pairwise cipher => if d.registered then d.cfgAddKey pairwise cipher else d
  | .xmit ok mem eth => if d.registered then d.ndoStartXmit ok mem eth else d
  | .connectWork ok mem =>
    if d.connectWork then ({ d with connectWork := false }.connectWorker ok mem).1 else d
  | .scanWork ok t => if d.scanWork then { d with scanWork := false }.scanWorker ok t else d
  | .statWork => if d.statWork then { d with statWork := false }.statWorker else d
  | .rxComplete mem again i status =>
    if d.rx[i]? = some .submitted then d.rxComplete mem again i status else d
  | .rxWork env k alloc ok => if d.rxWork then d.rxWorker env k alloc ok else d
  | .txComplete i => { d with txAnchor := d.txAnchor.eraseIdx i }
  | .remove => d.remove

/-- The device as it is registered: nothing runs, and the SME has never been started. -/
structure GlueDev.Probed (d : GlueDev) : Prop where
  role : d.sme.role = .sta
  ftEnabled : d.sme.ftEnabled = false
  ptkInstalled : d.sme.ptkInstalled = false
  smeState : d.sme.state = .init
  rxCb : d.rxCb = false
  hwKeyInstalled : d.hwKeyInstalled = false
  rx : d.rx = List.replicate GlueDev.rxUrbs .empty
  rxRunning : d.rxRunning = false
  rxQueue : d.rxQueue = []
  rxWork : d.rxWork = false
  txAnchor : d.txAnchor = []
  statPolling : d.statPolling = false
  statWork : d.statWork = false
  scanReq : d.scanReq = none
  scanWork : d.scanWork = false
  connectChan : d.connectChan = none
  connectPending : d.connectPending = false
  connectWork : d.connectWork = false
  stage : d.stage = .running

end Rf2a4m1
