import Rf2a4m1.Glue.Cfg80211
import Rf2a4m1.Sme.Demo

/-!
# A device to compute with

The kernel's helpers, segments that carry the frames of an access point, and
the steps in which the device connects to it.
-/

set_option autoImplicit false

namespace Rf2a4m1

open ByteString Runs

/-- The kernel's helpers on the frames of a station or an AP. -/
def demoKernel : Ieee80211 where
  hdrSize := 30
  isData fc := fc &&& 0x0c = 0x08
  hasProtected fc := fc &&& 0x4000 ≠ 0
  hdrlen fc :=
    if fc &&& 0x0c = 0x08 then
      (if fc &&& 0x0300 = 0x0300 then 30 else 24) + (if fc &&& 0x0080 ≠ 0 then 2 else 0) +
        (if fc &&& 0x8080 = 0x8080 then 4 else 0)
    else if fc &&& 0x0c = 0x00 then 24 + (if fc &&& 0x8000 ≠ 0 then 4 else 0)
    else if fc &&& 0x0c = 0x04 then (if fc &&& 0xe0 = 0xc0 then 10 else 16)
    else 4
  da f := if byteAt f 1 &&& 0x01 ≠ 0 then macAt f 16 else macAt f 4
  sa f :=
    if byteAt f 1 &&& 0x03 = 0x03 then macAt f 24
    else if byteAt f 1 &&& 0x02 ≠ 0 then macAt f 16
    else macAt f 10

def demoDev (sme : Sme) : Dev where
  ndev := true
  sme := sme
  stats := { rxPackets := 0, rxBytes := 0, rxDropped := 0, rxErrors := 0 }
  stack := []

/-- A segment with an all-zero frame of a descriptor's length in a payload of 36 octets. -/
def demoSegment (mpduLen : UInt8) : Bytes :=
  [64, 0, 0, 0] ++ [0, 0, 0, 0] ++ [0, 0, mpduLen, 0] ++ List.replicate 20 0 ++
    List.replicate 36 0 ++ [0, 0, 0, 0]

def demoAlloc : RxAlloc where
  decbuf := true
  skb := true

/-- A segment that carries a frame, filled up to a multiple of four octets. -/
def demoCarry (frame : Bytes) : Bytes :=
  let payload : Bytes := frame ++ List.replicate ((4 - frame.length % 4) % 4) 0
  putLe16 (UInt16.ofNat (28 + payload.length)) ++ ([0, 0, 0, 0, 0, 0, 0, 0] : Bytes) ++
    putLe16 (UInt16.ofNat frame.length) ++ List.replicate 20 0 ++ payload ++
    ([0, 0, 0, 0] : Bytes)

/-- A device whose chip is up and that has done nothing yet. -/
def demoGlue : GlueDev :=
  { toDev := demoDev (smeInit .sta demoStaMac (Octets.zero 32) 0)
    hwInited := true, eeValid := true, curChannel := 1, rf := channelPlan 1
    wcidAddr := Octets.zero 6, wcidTk := Octets.zero 16, skey1 := Octets.zero 16,
    skey2 := Octets.zero 16, macBssid := Octets.zero 6
    hwKeyInstalled := false, hwPeer := Octets.zero 6, dataSeq := 0, bogusProbeDone := false
    rx := List.replicate GlueDev.rxUrbs .empty, rxRunning := false, rxQueue := [], rxWork := false,
    rxSubmits := 0
    txAnchor := [], statPolling := false, statWork := false
    scanReq := none, scanChanIdx := 0, scanCurFreq := 0, scanAborted := false, scanWork := false
    connectBssid := Octets.zero 6, connectSsid := [], connectChan := none,
    connectPending := false, connectPolls := 0, connectWork := false
    macaddr := demoStaMac, rxCb := false, stage := .running }

theorem demoGlue_probed : demoGlue.Probed := by
  constructor <;> rfl

def demoTaken (_ : Bytes) : Bool := true

def demoUp (_ : Nat) : GlueDev.UrbUp := .submitted

def demoOtherAp : MacAddr := Octets.of 6 [2, 0, 0, 0, 0, 9]

/-- A connect to a BSSID on a channel, with a PMK. -/
def demoConnect (bssid : MacAddr) (t : Tune) (mhz : Nat) : GlueOp :=
  .connect demoTaken demoUp t none
    { bssid := some bssid, bssidHint := none, channel := some mhz, channelHint := none, ssid := [],
      pmk := some demoPmk }

/-- A frame arrives in the first receive transfer, and the worker takes it. -/
def demoDeliver (frame : Bytes) : List GlueOp :=
  [.rxComplete demoTaken true 0 (.ok (demoCarry frame)),
    .rxWork demoEnv demoKernel demoAlloc demoTaken]

/-- What the AP sends up to the third message, oldest first. -/
def demoApFrames : List Bytes :=
  ((runOps demoApInit (demoApStart .disabled [] ++ [demoM2 .disabled []])).sent.map
    TxFrame.data).reverse

/-- The steps of a connect that is answered, without and with its completion. -/
def demoAssociate : List GlueOp :=
  demoConnect demoApMac .done 2437 :: demoApFrames.flatMap demoDeliver

def demoLink : List GlueOp := demoAssociate ++ [.connectWork demoTaken true]

@[irreducible] def demoSteps (ops : List GlueOp) : GlueDev := ops.foldl glueStep demoGlue

theorem demoSteps_run {ok : GlueDev → GlueOp → Prop} {ops : List GlueOp}
    (check : GlueDev → GlueOp → Bool) (sound : ∀ d op, check d op = true → ok d op)
    (h : allAlong glueStep check demoGlue ops = true) :
    Run glueStep ok demoGlue (demoSteps ops) := by
  unfold demoSteps
  exact Run.of_allAlong sound h

theorem demoSteps_reach (ops : List GlueOp) : Reach glueStep demoGlue (demoSteps ops) := by
  unfold demoSteps
  exact Run.reach ops

example : (demoSteps demoLink).hwKeyInstalled = true := by decide +kernel

end Rf2a4m1
