import Rf2a4m1.Lib.Runs
import Rf2a4m1.Sme.Rx

/-!
# Operations of the host and runs

The public operations, the calls other entities make into this one, and the
step an operation makes.
-/

set_option autoImplicit false

namespace Rf2a4m1

open ByteString

/-- What the host writes into the state before it starts. -/
structure SmeConfig where
  akm : SmeAkm
  saePw : Bytes
  ssid : Bytes
  channel : UInt8
  owePriv : Octets 32
  owePub : Octets 64
  oweKpOk : Bool

def SmeConfig.plain : SmeConfig :=
  { akm := .psk, saePw := [], ssid := [], channel := 0, owePriv := Octets.zero 32,
    owePub := Octets.zero 64, oweKpOk := false }

def smeConfigure (s : Sme) (c : SmeConfig) : Sme :=
  { s with akm := c.akm, saePw := c.saePw, ssid := c.ssid, channel := c.channel
           owePriv := c.owePriv, owePub := c.owePub, oweKpOk := c.oweKpOk }

def smeBindHal (s : Sme) : Sme := { s with halBound := true }

def smeConnectStart (s : Sme) : Sme × S8021xStatus :=
  if s.role ≠ .sta then (s, .errInval)
  else
    (txMgmtTo { s with state := .scanning } .probeReq
      (if macIsZero s.peer then bcast else s.peer) [], .ok)

def addtsAcUp (ac : UInt8) : UInt8 := if ac = 3 then 6 else 5

def addtsTspec (tsid ac direction : UInt8) (mediumTime : UInt16) : Tspec :=
  { Tspec.empty with
    ts := { TsInfo.empty with trafficType := true, tsid := tsid, direction := direction &&& 0x03
                              accessPolicy := 1, userPriority := addtsAcUp ac }
    mediumTime := mediumTime }

def smeAddtsRequest (s : Sme) (tsid ac direction : UInt8) (mediumTime : UInt16) :
    Sme × S8021xStatus :=
  if s.role ≠ .sta ∨ s.state ≠ .connected ∨ !s.qosEnabled then (s, .errState)
  else if tsid > 0x0f ∨ (ac ≠ 2 ∧ ac ≠ 3) then (s, .errInval)
  else
    let s := { s with addtsRespReceived := false, addtsLastStatus := 0
                      addtsDialog := s.addtsDialog + 1 }
    match addtsReqBuild 60 s.addtsDialog (addtsTspec tsid ac direction mediumTime) with
    | none => (s, .errInval)
    | some f => (txInt s .addtsReq f, .ok)

/-- Our own medium time is freed before the peer is told. -/
def smeDelts (s : Sme) (tsid : UInt8) : Sme × S8021xStatus :=
  if s.role ≠ .sta ∨ s.state ≠ .connected then (s, .errState)
  else if tsid > 0x0f then (s, .errInval)
  else
    let s := { s with admission := (qosAdmissionRelease s.admission tsid).1 }
    match deltsBuild 7 { TsInfo.empty with tsid := tsid } 0 with
    | none => (s, .errInval)
    | some f => (txInt s .delts f, .ok)

/-- A group-addressed teardown frame under the group management key. -/
def txProtectedGroupMgmt (s : Sme) (subtype : UInt8) (reason : UInt16) : Sme × S8021xStatus :=
  if s.state ≠ .connected ∨ !s.mfpActive ∨ !s.igtk.installed then (s, .errState)
  else
    match pmfBuildProtectedMgmt s.igtk 44 subtype bcast s.self s.peer (putLe16 reason) 0 with
    | none => (s, .errInval)
    | some (f, igtk) => (txRaw { s with igtk := igtk } f, .ok)

def smeTxProtectedDeauth (s : Sme) (reason : UInt16) : Sme × S8021xStatus :=
  txProtectedGroupMgmt s 12 reason

def smeTxProtectedDisassoc (s : Sme) (reason : UInt16) : Sme × S8021xStatus :=
  txProtectedGroupMgmt s 10 reason

def smeRxMgmt (s : Sme) (frame : Bytes) : Sme := if frame.length < 24 then s else rxRobustMgmt s frame

def smeSaQueryTick (s : Sme) : Sme :=
  if s.role ≠ .ap ∨ !s.mfpActive then s
  else
    let (q, req) := pmfSaQueryTick s.saQuery 4
    let s := { s with saQuery := q }
    match req with
    | none => s
    | some body => saQueryTx s body

/-- Names that are too long are cut. -/
def smeSetFt (s : Sme) (mdid : UInt16) (ssid r0khId : Bytes) : Sme :=
  { s with ftEnabled := true, ftMdid := mdid, ftSsid := ssid.take 32, ftR0khId := r0khId.take 48 }

def smeBaEstablish (s : Sme) (tid : UInt8) : Sme × S8021xStatus :=
  if s.state ≠ .connected then (s, .errState)
  else
    match baOriginatorAddba 16 { dialogToken := 1, tid := tid, amsdu := false, immediate := true,
                                 bufSize := 64, timeout := 0, ssn := 0 } with
    | none => (s, .errInval)
    | some (ba, body) =>
      ({ txActionDot11 { s with ba := ba } body with baTxReq := s.baTxReq + 1 }, .ok)

/-- Configuration calls. -/
inductive SmeSetting where
  | peer (m : MacAddr)
  | bindHal
  | qosAdvertise (on : Bool)
  | edcaAdvert (p : EdcaParam)
  | admissionLimit (ac : UInt8) (limit : UInt32)
  | pmf (mode : PmfMode)
  | beaconProtection (on : Bool)
  | transitionDisable (bitmap : UInt8)
  | ocv (on : Bool) (oci : PmfOci)
  | ft (mdid : UInt16) (ssid r0khId : Bytes)
  | ricRequest (t : Tspec)
  | ricDeny (deny : Bool)

def smeSet (s : Sme) : SmeSetting → Sme
  | .peer m => { s with peer := m }
  | .bindHal => smeBindHal s
  | .qosAdvertise on => { s with qosAdvertise := on }
  | .edcaAdvert p => { s with edcaAdvert := some p }
  | .admissionLimit ac limit => { s with admission := qosAdmissionSetLimit s.admission ac limit }
  | .pmf mode => { s with pmfMode := mode }
  | .beaconProtection on => { s with beaconProtEnabled := on }
  | .transitionDisable bitmap => { s with tdAdvertise := true, tdAdvertBitmap := bitmap }
  | .ocv on oci => { s with ocvEnabled := on, ociLocal := oci }
  | .ft mdid ssid r0khId => smeSetFt s mdid ssid r0khId
  | .ricRequest t => { s with ricRequest := some t }
  | .ricDeny deny => { s with ricApDeny := deny }

/--
The operations of the host, and the two calls other entities make: a PMK-R1
pushed to this AP over the DS, and a direct link frame relayed on this link.
-/
inductive SmeOp where
  | rx (sib : Siblings) (frame : Bytes)
  | rxMgmt (frame : Bytes)
  | rxSpuriousReassoc (src : MacAddr)
  | set (c : SmeSetting)
  | connectStart
  | dataTx (payload : Bytes)
  | dataTxQos (payload : Bytes) (up : UInt8)
  | addtsRequest (tsid ac direction : UInt8) (mediumTime : UInt16)
  | delts (tsid : UInt8)
  | txProtectedDeauth (reason : UInt16)
  | txProtectedDisassoc (reason : UInt16)
  | saQueryTick
  | ftEstablish
  | ftRoam (target : MacAddr)
  | ftRoamOverDs (target : MacAddr)
  | baEstablish (tid : UInt8)
  | dsPush (sta target : MacAddr) (snonce pmkR1 : Octets 32) (pmkR1Name : Octets 16)
  | relay (body : Bytes)

/-- Whether an operation is the reception of a frame. -/
def SmeOp.receives : SmeOp → Bool
  | .rx _ _ => true
  | _ => false

def smeStep (env : Env) (s : Sme) : SmeOp → Sme
  | .rx sib frame => (smeRx env sib s frame).1
  | .rxMgmt frame => smeRxMgmt s frame
  | .rxSpuriousReassoc src => pmfApOnSpuriousReassoc s src
  | .set c => smeSet s c
  | .connectStart => (smeConnectStart s).1
  | .dataTx payload => (smeDataTx env s payload).1
  | .dataTxQos payload up => (smeDataTxQos env s payload up).1
  | .addtsRequest tsid ac direction mediumTime =>
    (smeAddtsRequest s tsid ac direction mediumTime).1
  | .delts tsid => (smeDelts s tsid).1
  | .txProtectedDeauth reason => (smeTxProtectedDeauth s reason).1
  | .txProtectedDisassoc reason => (smeTxProtectedDisassoc s reason).1
  | .saQueryTick => smeSaQueryTick s
  | .ftEstablish => smeFtEstablish s
  | .ftRoam target => (smeFtRoam env s target).1
  | .ftRoamOverDs target => (smeFtRoamOverDs env s target).1
  | .baEstablish tid => (smeBaEstablish s tid).1
  | .dsPush sta target snonce pmkR1 pmkR1Name =>
    (ftDsTargetProcess env s sta target snonce pmkR1 pmkR1Name 260).1
  | .relay body => tdlsEncapTx env s body

end Rf2a4m1
