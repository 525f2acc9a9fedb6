import Rf2a4m1.Sme.State

/-!
# Transmission

Every function here rewrites the transmit part of the state and nothing else,
`txAssocReq` apart, which also counts the OWE parameters it sends.
-/

set_option autoImplicit false

namespace Rf2a4m1

open ByteString

/-- Frame types of the state machine, in the order of their codes. -/
inductive FrameType where
  | probeReq
  | probeResp
  | authReq
  | authResp
  | assocReq
  | assocResp
  | m1
  | m2
  | m3
  | m4
  | data
  | qosData
  | ftAuth1
  | ftAuth2
  | ftReassocReq
  | ftReassocResp
  | ftDsReq
  | ftDsResp
  | filsAuth1
  | filsAuth2
  | filsAssocReq
  | filsAssocResp
  | addbaReq
  | addbaRsp
  | twtSetup
  | twtResp
  | addtsReq
  | addtsRsp
  | delts
  | reassocReq
  | reassocResp
  | saQueryReq
  | saQueryResp
  | beacon
deriving DecidableEq

def frameTypes : List FrameType :=
  [.probeReq, .probeResp, .authReq, .authResp, .assocReq, .assocResp, .m1, .m2, .m3, .m4, .data,
    .qosData, .ftAuth1, .ftAuth2, .ftReassocReq, .ftReassocResp, .ftDsReq, .ftDsResp, .filsAuth1,
    .filsAuth2, .filsAssocReq, .filsAssocResp, .addbaReq, .addbaRsp, .twtSetup, .twtResp,
    .addtsReq, .addtsRsp, .delts, .reassocReq, .reassocResp, .saQueryReq, .saQueryResp, .beacon]

/-- Codes count from one. -/
def FrameType.code (t : FrameType) : UInt8 := UInt8.ofNat (frameTypes.idxOf t + 1)

def FrameType.ofCode (c : UInt8) : Option FrameType :=
  if c = 0 then none else frameTypes[c.toNat - 1]?

/-- First octet of an internal frame: the type above a two-bit tag. -/
def smeIntEnc (t : FrameType) : UInt8 := (t.code <<< 2) ||| 0x03

def smeIntIs (b : UInt8) : Bool := b &&& 0x03 = 0x03

def smeIntType (b : UInt8) : UInt8 := b >>> 2

/-- Length of the internal header: type octet and source address. -/
def smePfxLen : Nat := 7

def smePfx (t : FrameType) (src : MacAddr) : Bytes := smeIntEnc t :: src.bytes

@[simp] theorem smePfx_length (t : FrameType) (src : MacAddr) : (smePfx t src).length = 7 := by
  simp [smePfx]

def smeSuppRates : Bytes := [0x82, 0x84, 0x8b, 0x96, 0x0c, 0x12, 0x18, 0x24]

def smeCapInfo : UInt16 := 0x0031

namespace SmeTx

def nextSeq (l : SmeTx) : UInt16 × SmeTx := ((l.seq &&& 0x0fff) <<< 4, { l with seq := l.seq + 1 })

/-- Nothing leaves while no HAL is bound. -/
def push (l : SmeTx) (f : TxFrame) : SmeTx := if l.halBound then { l with sent := f :: l.sent } else l

def raw (l : SmeTx) (f : Bytes) : SmeTx := l.push { data := f, ac := 1, tid := 0xff, prot := none }

/-- Send a frame when there is one. -/
def rawOpt (l : SmeTx) : Option Bytes → SmeTx
  | none => l
  | some f => l.raw f

end SmeTx

def txRaw (s : Sme) (f : Bytes) : Sme := { s with toSmeTx := s.toSmeTx.raw f }

/-- Room for a management frame built here. -/
def smeMgmtMax : Nat := 314

/-- The management frame of a type, the elements only used by the association frames. -/
def mgmtFrame (s : Sme) (type : FrameType) (da : MacAddr) (sc : UInt16) (ie : Bytes) :
    Option Bytes :=
  match type with
  | .probeReq => mgmtBuildProbeReq smeMgmtMax da s.self da sc s.ssid smeSuppRates
  | .probeResp =>
    mgmtBuildProbeResp smeMgmtMax da s.self sc 0 100 smeCapInfo s.ssid s.channel smeSuppRates []
  | .beacon =>
    mgmtBuildBeacon smeMgmtMax s.self sc 0 100 smeCapInfo s.ssid s.channel smeSuppRates []
  | .authReq => mgmtBuildAuthOpen smeMgmtMax da s.self sc
  | .authResp => mgmtBuildAuthResp smeMgmtMax da s.self sc 0 0
  | .assocReq => mgmtBuildAssocReq smeMgmtMax da s.self sc smeCapInfo 10 s.ssid smeSuppRates [] ie
  | .assocResp => mgmtBuildAssocResp smeMgmtMax da s.self sc smeCapInfo 0 1 smeSuppRates ie
  | _ => none

/-- The sequence number is spent even when no frame results. -/
def txMgmtTo (s : Sme) (type : FrameType) (da : MacAddr) (ie : Bytes) : Sme :=
  let (sc, l) := s.toSmeTx.nextSeq
  { s with toSmeTx := l.rawOpt (if ie.length > 240 then none else mgmtFrame s type da sc ie) }

def txMgmtIe (s : Sme) (type : FrameType) (ie : Bytes) : Sme := txMgmtTo s type s.peer ie

def txMgmt (s : Sme) (type : FrameType) : Sme := txMgmtIe s type []

def smeAkmWpa3 (s : Sme) : Bool := s.akm = .sae || s.akm = .owe

def smeRsnAkm (s : Sme) : UInt8 :=
  match s.akm with
  | .sae => 8
  | .owe => 18
  | .psk => 2

def rsnxeH2e : Bytes := [0xf4, 0x01, 0x20]

def smeOweDhIeBuild (cap : Nat) (pubXy : Octets 64) : Option Bytes :=
  if cap < 5 + 32 then none
  else some ([255, 35, 32, 19, 0] ++ slice pubXy.bytes 0 32)

/-- Append what a builder gives for the room that is left, or nothing. -/
def appendIe (cap : Nat) (w : Bytes) (build : Nat → Option Bytes) : Bytes :=
  w ++ (build (cap - w.length)).getD []

/-- Whether the Association Request carries our OWE public key. -/
def sendsOweDh (s : Sme) : Bool := s.akm = .owe && s.oweKpOk

def assocReqIes (s : Sme) : Bytes :=
  let w := appendIe 240 [] fun c => pmfRsneBuild c (pmfModeCaps s.pmfMode) (smeRsnAkm s)
  let w := if s.akm = .sae then w ++ rsnxeH2e else w
  let w := if sendsOweDh s then appendIe 240 w fun c => smeOweDhIeBuild c s.owePub else w
  if s.qosAdvertise then appendIe 240 w fun c => wmmInfoBuild c 0x00 else w

def txAssocReq (s : Sme) : Sme :=
  txMgmtIe { s with oweDhTx := if sendsOweDh s then s.oweDhTx + 1 else s.oweDhTx } .assocReq
    (assocReqIes s)

def assocRespIes (s : Sme) : Bytes :=
  let w :=
    if s.qosEnabled then appendIe 240 [] fun c => wmmParamBuild c (s.edcaAdvert.getD edcaDefaults)
    else []
  if s.pmfMode ≠ .disabled then
    appendIe 240 w fun c => pmfRsneBuild c (pmfModeCaps s.pmfMode) 2
  else w

def txAssocResp (s : Sme) : Sme := txMgmtIe s .assocResp (assocRespIes s)

/-- Header of an Action frame to the peer. -/
def actionHdr (s : Sme) (sc : UInt16) : Bytes :=
  let bssid := if s.role = .ap then s.self else s.peer
  [0xd0, 0x00, 0x00, 0x00] ++ s.peer.bytes ++ s.self.bytes ++ bssid.bytes ++ putLe16 sc

/-- Under an active MFP association the body is encrypted with the next packet number. -/
def actionTx (s : Sme) (body : Bytes) : SmeTx :=
  let (sc, l) := s.toSmeTx.nextSeq
  if body.length = 0 ∨ body.length > 200 then l
  else
    let hdr := actionHdr s sc
    if s.mfpActive && s.ptkInstalled then
      { l with mgmtTxPn := l.mgmtTxPn + 1 }.rawOpt
        (ccmpEncrypt 256 hdr body (tk s.ptk) 0 (l.mgmtTxPn + 1))
    else if 24 + body.length > 256 then l
    else l.raw (hdr ++ body)

def txActionDot11 (s : Sme) (body : Bytes) : Sme := { s with toSmeTx := actionTx s body }

def saQueryTx (s : Sme) (body : Bytes) : Sme := if body.length > 4 then s else txActionDot11 s body

/-- A frame with the internal header. -/
def txInt (s : Sme) (type : FrameType) (payload : Bytes) : Sme :=
  txRaw s (smePfx type s.self ++ payload)

section Data

def smeDataMax : Nat := 64

/-- 48-bit packet number, most significant octet first. -/
def putPn48 (pn : Nat) : Bytes := be 6 pn

def getPn48 (b : Bytes) (off : Nat) : Nat := ofBe (slice b off 6)

/-- A data frame: header, packet number and payload under a MIC keyed by `key`. -/
def dataFrame (env : Env) (key : Octets 16) (hdr : Bytes) (pn : Nat) (payload : Bytes) : Bytes :=
  let msg := hdr ++ putPn48 pn ++ payload
  msg ++ (env.mic key msg).bytes

/-- Protect and send with the next packet number. -/
def txProt (env : Env) (s : Sme) (hdr payload : Bytes) (ac tid : UInt8) : Sme :=
  let pn := s.dataTxPn + 1
  let key := tk s.ptk
  { s with
    toSmeTx := { s.toSmeTx with dataTxPn := pn, dataFrames := s.dataFrames + 1 }.push
      { data := dataFrame env key hdr pn payload, ac := ac, tid := tid, prot := some (key, pn) } }

inductive S8021xStatus where
  | ok
  | errInval
  | errState
deriving DecidableEq

def smeDataTx (env : Env) (s : Sme) (payload : Bytes) : Sme × S8021xStatus :=
  if s.state ≠ .connected then (s, .errState)
  else if payload.length > smeDataMax then (s, .errInval)
  else (txProt env s (smePfx .data s.self) payload 1 0xff, .ok)

/-- QoS control field of a user priority. -/
def qosHdr (up : UInt8) : Bytes :=
  putLe16 (qosCtrlPack { tid := up &&& 0x07, eosp := false, ackPolicy := 0, amsdu := false,
                         hi := 0 })

/-- A peer without QoS gets an ordinary data frame. -/
def smeDataTxQos (env : Env) (s : Sme) (payload : Bytes) (up : UInt8) : Sme × S8021xStatus :=
  if s.state ≠ .connected then (s, .errState)
  else if payload.length > smeDataMax then (s, .errInval)
  else if !s.qosEnabled then smeDataTx env s payload
  else
    (txProt env s (smePfx .qosData s.self ++ qosHdr up) payload (qosUpToAc up) (up &&& 0x07), .ok)

def tdlsSnapHdr : Bytes := [0xaa, 0xaa, 0x03, 0x00, 0x00, 0x00, 0x89, 0x0d]

def tdlsBodyMax : Nat := 160

def tdlsEncapTx (env : Env) (s : Sme) (body : Bytes) : Sme :=
  if s.state ≠ .connected ∨ body.length = 0 ∨ body.length > tdlsBodyMax then s
  else txProt env s (smePfx .data s.self) (tdlsSnapHdr ++ body) 1 0xff

end Data

section Nonces

/-- Draw a nonce for a salt. -/
def genNonce (env : Env) (s : Sme) (salt : UInt64) : Octets 32 × Sme :=
  (env.genNonce s.draws s.pmk s.self salt, { s with draws := s.draws + 1 })

/-- The first `n` octets of a fresh nonce. -/
def smeGenMaterial (env : Env) (s : Sme) (n : Nat) (salt : UInt64) : Octets n × Sme :=
  let (nb, s) := genNonce env s salt
  (Octets.of n nb.bytes, s)

end Nonces

end Rf2a4m1
