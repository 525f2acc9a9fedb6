import Rf2a4m1.Glue.Netdev
import Rf2a4m1.Sme.DataPath
import Rf2a4m1.Sme.Ops

/-!
# The hardware side of the glue

The channel, the key table of the crypto engine, the bulk transfers in flight
and the ring of receive transfers, with what the glue remembers about each.
-/

set_option autoImplicit false

namespace Rf2a4m1

open ByteString

inductive Errno where
  | nodev
  | inval
  | busy
  | nomem
  | msgsize
  | timedout
  | io
deriving DecidableEq

/-- How far a channel gets programmed: the RF write that fails, or the bandwidth filter. -/
inductive Tune where
  | done
  | rfFails (i : Fin 4) (e : Errno)
  | filterFails (e : Errno)
deriving DecidableEq

/-- The channel programmed last and the four RF registers of the synthesizer. -/
structure Radio where
  hwInited : Bool
  eeValid : Bool
  curChannel : Nat
  rf : Bytes

/-- RF registers 17 to 20 for each channel. -/
def freqPlan : List Bytes :=
  [[0x99, 0x99, 0x09, 0x50], [0x46, 0x44, 0x0a, 0x50], [0xec, 0xee, 0x0a, 0x50],
   [0x99, 0x99, 0x0b, 0x50], [0x46, 0x44, 0x08, 0x51], [0xec, 0xee, 0x08, 0x51],
   [0x99, 0x99, 0x09, 0x51], [0x46, 0x44, 0x0a, 0x51], [0xec, 0xee, 0x0a, 0x51],
   [0x99, 0x99, 0x0b, 0x51], [0x46, 0x44, 0x08, 0x52], [0xec, 0xee, 0x08, 0x52],
   [0x99, 0x99, 0x09, 0x52], [0x33, 0x33, 0x0b, 0x52]]

def channelPlan (channel : Nat) : Bytes := freqPlan.getD (channel - 1) []

namespace Radio

/-- The channel is noted only after every register is written. -/
def doSetChannel (r : Radio) (t : Tune) (channel : Nat) : Radio × Option Errno :=
  if channel < 1 ∨ channel > 14 then (r, some .inval)
  else
    match t with
    | .rfFails i e => ({ r with rf := (channelPlan channel).take i ++ r.rf.drop i }, some e)
    | .filterFails e => ({ r with rf := channelPlan channel }, some e)
    | .done => ({ r with rf := channelPlan channel, curChannel := channel }, none)

/-- The channel of a centre frequency, by a division that truncates. -/
def channelOf (mhz : Nat) : Option Nat :=
  let ch := ((mhz : Int) - 2407).tdiv 5
  if ch < 1 ∨ ch > 13 then none else some ch.toNat

def opSetChannel (r : Radio) (t : Tune) (mhz : Nat) : Radio × Option Errno :=
  if !r.hwInited ∨ !r.eeValid then (r, some .nodev)
  else
    match channelOf mhz with
    | none => (r, some .inval)
    | some ch => r.doSetChannel t ch

/-- The radio stands on the channel of a frequency. -/
def TunedTo (r : Radio) (mhz : Nat) : Prop :=
  channelOf mhz = some r.curChannel ∧ r.rf = channelPlan r.curChannel

instance (r : Radio) (mhz : Nat) : Decidable (r.TunedTo mhz) := inferInstanceAs (Decidable (_ ∧ _))

theorem doSetChannel_done {r : Radio} {t : Tune} {ch : Nat}
    (success : (r.doSetChannel t ch).2 = none) :
    (r.doSetChannel t ch).1.curChannel = ch ∧ (r.doSetChannel t ch).1.rf = channelPlan ch := by
  unfold doSetChannel at success ⊢
  split at success
  · cases success
  · rename_i inside
    rw [if_neg inside]
    cases t with
    | done => exact ⟨rfl, rfl⟩
    | rfFails i e => cases success
    | filterFails e => cases success

/-- A channel is set with success only when the radio stands on it after. -/
theorem opSetChannel_tuned {r : Radio} {t : Tune} {mhz : Nat}
    (success : (r.opSetChannel t mhz).2 = none) : (r.opSetChannel t mhz).1.TunedTo mhz := by
  unfold opSetChannel at success ⊢
  split at success
  · cases success
  · rename_i ready
    rw [if_neg ready]
    cases on : channelOf mhz with
    | none =>
      rw [on] at success
      cases success
    | some ch =>
      rw [on] at success
      obtain ⟨channel, plan⟩ := doSetChannel_done success
      dsimp only
      exact ⟨by rw [channel, on], by rw [channel, plan]⟩

end Radio

/-- The key slot of the peer, both group key slots and the BSSID the crypto engine matches. -/
structure KeyTable where
  wcidAddr : MacAddr
  wcidTk : Octets 16
  skey1 : Octets 16
  skey2 : Octets 16
  macBssid : MacAddr

/-- What the glue remembers about the key table. -/
structure HwKey where
  hwKeyInstalled : Bool
  hwPeer : MacAddr
  dataSeq : UInt16
  bogusProbeDone : Bool

/-- A receive transfer: no buffer, given back, or with the host controller. -/
inductive RxUrb where
  | empty
  | idle
  | submitted
deriving DecidableEq

/--
The ring of receive transfers and the queue of segments they brought, with the
work item that consumes it; `rxSubmits` counts allocations and submissions.
-/
structure RxRing where
  rx : List RxUrb
  rxRunning : Bool
  rxQueue : List Bytes
  rxWork : Bool
  rxSubmits : Nat

/-- The frames of the transmit transfers in flight. -/
structure TxAnchor where
  txAnchor : List Bytes

structure StatPoll where
  statPolling : Bool
  statWork : Bool

structure ScanChannel where
  centerFreq : Nat
  noIr : Bool

structure ScanRequest where
  channels : List ScanChannel
  ssids : List Bytes
  ie : Bytes

/-- The channel sweep in flight, its position and the frequency that is listened to. -/
structure GlueScan where
  scanReq : Option ScanRequest
  scanChanIdx : Nat
  scanCurFreq : Nat
  scanAborted : Bool
  scanWork : Bool

/-- The connect in flight; the channel is that of the request, by its frequency. -/
structure GlueConnect where
  connectBssid : MacAddr
  connectSsid : Bytes
  connectChan : Option Nat
  connectPending : Bool
  connectPolls : Nat
  connectWork : Bool

/-- How far the removal of the device has come, each stage with what was done last. -/
inductive Stage where
  | running
  | removing
  | rxStopped
  | connectCancelled
  | scanStopped
  | statStopped
  | unregistered
  | freed
deriving DecidableEq

/--
The device. `rxCb` says whether the SME is registered for what is received; the
SME is zero until the first connect.
-/
structure GlueDev extends Dev, Radio, KeyTable, HwKey, RxRing, TxAnchor, StatPoll, GlueScan,
    GlueConnect where
  macaddr : MacAddr
  rxCb : Bool
  stage : Stage

namespace GlueDev

def removing (d : GlueDev) : Bool := d.stage ≠ .running

def setRadio (d : GlueDev) (r : Radio) : GlueDev := { d with toRadio := r }

/-- Frames for the bulk endpoint; `ok` says which of them the host controller takes. -/
def bulkOutAsync (ok : Bytes → Bool) (d : GlueDev) (frames : List Bytes) : GlueDev :=
  { d with txAnchor := frames.filter ok ++ d.txAnchor }

/-- The SME after a call, and the frames it sent. -/
def setSme (ok : Bytes → Bool) (d : GlueDev) (sme : Sme) : GlueDev :=
  { d.bulkOutAsync ok (newSent d.sme sme) with sme := sme }

/-- The pairwise key and the group key of the SME go into the key table under its peer. -/
def installHwKeys (d : GlueDev) : GlueDev :=
  if !d.hwInited then d
  else if !d.sme.ptkInstalled ∨ !d.sme.dataKeyValid then d
  else
    { d with wcidAddr := d.sme.peer, wcidTk := d.sme.installedTk, skey1 := d.sme.gtk,
             skey2 := d.sme.gtk, macBssid := d.sme.peer, hwPeer := d.sme.peer
             hwKeyInstalled := true }

def ethHlen : Nat := 14

def mt7601uTxwiSize : Nat := 20

def txBufSz : Nat := 2048

/-- A protected data frame towards the AP, before the chip encrypts it. -/
def hwDataFrame (d : GlueDev) (ra da : Bytes) (body : Bytes) : Bytes :=
  ([0x08, 0x41, 0, 0] : Bytes) ++ ra ++ d.macaddr.bytes ++ da ++ putLe16 (d.dataSeq <<< 4) ++
    [0xaa, 0xaa, 0x03, 0, 0, 0] ++ body

/-- The frame that carries an 802.3 frame, if one is sent. -/
def hwDataTx (d : GlueDev) (eth : Bytes) : Option Bytes :=
  if !d.hwInited ∨ !d.hwKeyInstalled then none
  else if eth.length < ethHlen then none
  else if 24 + 8 + (eth.length - ethHlen) + mt7601uTxwiSize + 8 > txBufSz then none
  else some (d.hwDataFrame d.hwPeer.bytes (slice eth 0 6) (slice eth 12 2 ++ eth.drop ethHlen))

/-- The network stack sends; `mem` says whether there is memory for the frame. -/
def ndoStartXmit (ok : Bytes → Bool) (mem : Bool) (d : GlueDev) (eth : Bytes) : GlueDev :=
  match d.hwDataTx eth with
  | none => d
  | some frame =>
    if mem then { d.bulkOutAsync ok [frame] with dataSeq := d.dataSeq + 1 } else d

def bogusBssid : Bytes := [0x02, 0x00, 0x00, 0xde, 0xad, 0x01]

/-- Once per device, frames to an address nobody owns. -/
def bogusBssidProbe (ok : Bytes → Bool) (mem : Bool) (d : GlueDev) : GlueDev :=
  if !d.hwInited ∨ !d.hwKeyInstalled ∨ d.bogusProbeDone then d
  else if !mem then { d with bogusProbeDone := true }
  else
    { d.bulkOutAsync ok (List.replicate 4 (d.hwDataFrame bogusBssid bogusBssid [0x08, 0x00])) with
      bogusProbeDone := true, dataSeq := d.dataSeq + 1 }

def statStart (d : GlueDev) : GlueDev :=
  if d.statPolling then d else { d with statPolling := true, statWork := true }

def statStop (d : GlueDev) : GlueDev := { d with statPolling := false, statWork := false }

/-- The periodic drain of the status reports. -/
def statWorker (d : GlueDev) : GlueDev :=
  if !d.statPolling ∨ d.removing then d else { d with statWork := true }

def rxUrbs : Nat := 4

/-- The ring is dismantled, then the worker, the frames it sent and the queue. -/
def rxStop (d : GlueDev) : GlueDev :=
  { d with rx := List.replicate rxUrbs .empty, rxRunning := false, rxQueue := [], rxWork := false
           txAnchor := [] }

/-- How bringing up one receive transfer ends. -/
inductive UrbUp where
  | noMemory
  | rejected (e : Errno)
  | submitted
deriving DecidableEq

/-- The last `left` transfers of the ring are allocated and submitted. -/
def rxStartFrom (up : Nat → UrbUp) (d : GlueDev) : Nat → GlueDev × Option Errno
  | 0 => (d, none)
  | left + 1 =>
    let i := rxUrbs - (left + 1)
    match up i with
    | .noMemory => ({ d with rxSubmits := d.rxSubmits + 1 }.rxStop, some .nomem)
    | .rejected e => ({ d with rxSubmits := d.rxSubmits + 2 }.rxStop, some e)
    | .submitted =>
      rxStartFrom up { d with rx := d.rx.set i .submitted, rxSubmits := d.rxSubmits + 2 } left

def rxStart (up : Nat → UrbUp) (d : GlueDev) : GlueDev × Option Errno := rxStartFrom up d rxUrbs

/-- Reception is brought up once; nothing here looks at the removal of the device. -/
def rxEnsure (up : Nat → UrbUp) (d : GlueDev) : GlueDev × Option Errno :=
  if d.rxRunning then (d, none)
  else
    match rxStart up d.statStart with
    | (d, some e) => (d, some e)
    | (d, none) => ({ d with rxRunning := true }, none)

end GlueDev

/-- The segments at the front of a transfer, up to one that is malformed. -/
def rxSegments : Nat → Bytes → List Bytes
  | 0, _ => []
  | fuel + 1, data =>
    if data.length < mtDmaHdrs then []
    else
      let dlen := (getLe16 data 0).toNat
      let slen := mtDmaHdrs + dlen
      if dlen = 0 ∨ dlen % 4 ≠ 0 ∨ slen > data.length then []
      else data.take slen :: rxSegments fuel (data.drop slen)

/-- The only SME of the device calls into no other. -/
def soleSme : Siblings := { ftDsTarget := none, tdlsRelay := none }

/-- How a receive transfer ends: torn down, with another error, or with data. -/
inductive UrbStatus where
  | terminal
  | error
  | ok (data : Bytes)

namespace GlueDev

/-- Segments for which there is memory are queued for the worker. -/
def rxQueueSegments (mem : Bytes → Bool) (d : GlueDev) (data : Bytes) : GlueDev :=
  if data.length < 40 then d
  else
    let segs := (rxSegments data.length data).filter mem
    { d with rxQueue := d.rxQueue ++ segs, rxWork := d.rxWork || !segs.isEmpty }

/-- A transfer is given back to the ring, `again` is whether the host controller takes it. -/
def rxResubmit (again : Bool) (d : GlueDev) (i : Nat) : GlueDev :=
  if d.removing then { d with rx := d.rx.set i .idle }
  else
    { d with rx := d.rx.set i (if again then .submitted else .idle), rxSubmits := d.rxSubmits + 1 }

def rxComplete (mem : Bytes → Bool) (again : Bool) (d : GlueDev) (i : Nat) :
    UrbStatus → GlueDev
  | .terminal => { d with rx := d.rx.set i .idle }
  | .error => d.rxResubmit again i
  | .ok data => (d.rxQueueSegments mem data).rxResubmit again i

/-- One segment: to the network stack, or to the SME where one is registered. -/
def rxProcess (env : Env) (k : Ieee80211) (alloc : RxAlloc) (ok : Bytes → Bool) (d : GlueDev)
    (seg : Bytes) : GlueDev :=
  if d.rxCb then
    let dev := (rxProcessSeg env k alloc soleSme d.toDev seg).1
    { d.bulkOutAsync ok (newSent d.sme dev.sme) with toDev := dev }
  else
    match rxSegment k seg with
    | none => d
    | some r => { d with toDev := (rxToNetdev k alloc d.toDev r.frame r.hwDecrypted).2 }

/-- The worker takes one segment off the queue; it runs until the queue is empty. -/
def rxWorker (env : Env) (k : Ieee80211) (alloc : RxAlloc) (ok : Bytes → Bool) (d : GlueDev) :
    GlueDev :=
  match d.rxQueue with
  | [] => { d with rxWork := false }
  | seg :: rest =>
    let d := { d with rxQueue := rest }
    if d.removing then d else d.rxProcess env k alloc ok seg

end GlueDev

end Rf2a4m1
