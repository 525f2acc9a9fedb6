import Rf2a4m1.Crypto.Sae
import Rf2a4m1.Wire.Ht
import Rf2a4m1.Wire.Pmf
import Rf2a4m1.Wire.Qos
import Rf2a4m1.Wire.Tdls

/-!
# State of the station management entity

One record in parts, so that what a function leaves alone is a part it does
not mention. The plugged-in cryptography is a parameter of every function.
-/

set_option autoImplicit false

namespace Rf2a4m1

open ByteString

inductive SmeRole where
  | sta
  | ap
deriving DecidableEq

inductive SmeState where
  | init
  | scanning
  | authed
  | assoced
  | fourWay
  | connected
  | failed
deriving DecidableEq

def SmeState.code : SmeState → Nat
  | init => 0
  | scanning => 1
  | authed => 2
  | assoced => 3
  | fourWay => 4
  | connected => 5
  | failed => 6

inductive SmeAkm where
  | psk
  | sae
  | owe
deriving DecidableEq

/--
The functions the host plugs in. A nonce may depend on how many were drawn
before, a wrap or unwrap that fails is empty.
-/
structure SmeCrypto where
  genNonce : Nat → Octets 32 → MacAddr → UInt64 → Octets 32
  kdf : Octets 32 → Octets 32 → Octets 32 → MacAddr → MacAddr → Octets 48
  mic : Octets 16 → Bytes → Octets 16
  keyWrap : Nat → Octets 16 → Bytes → Bytes
  keyUnwrap : Nat → Octets 16 → Bytes → Bytes

/-- The plugged-in functions, and what a MIC buffer holds that nothing was written to. -/
structure Env extends SmeCrypto where
  stackMic : Nat → Octets 16

structure SmeAssoc where
  role : SmeRole
  self : MacAddr
  akm : SmeAkm
  state : SmeState
  connected : Bool
  peer : MacAddr
  aid : UInt16
deriving DecidableEq

structure SmeKeys where
  pmk : Octets 32
  anonce : Octets 32
  snonce : Octets 32
  ptk : Octets 48
  gtk : Octets 16
  replay : Nat
  ptkInstalled : Bool
  gtkInstalled : Bool
deriving DecidableEq

structure SmeDataKey where
  installedTk : Octets 16
  dataKeyValid : Bool
  dataRxReplay : PnReplay

structure SmePmf where
  pmfMode : PmfMode
  mfpActive : Bool
  pmfPeerCaps : UInt16
  igtk : PmfIgtk
deriving DecidableEq

/-- Beacon protection, operating channel validation and transition disable. -/
structure SmeWpa3 where
  beaconProtEnabled : Bool
  bigtk : PmfIgtk
  ocvEnabled : Bool
  ociLocal : PmfOci
  ocvFail : Nat
  tdAdvertise : Bool
  tdAdvertBitmap : UInt8
  tdBitmap : UInt8
  tdReceived : Bool
deriving DecidableEq

structure SmeSae where
  saePw : Bytes
  sae : Sae
  saePhase : Nat
  saeOk : Bool
  saeCommitTx : Nat
  saeCommitRx : Nat
  saeConfirmTx : Nat
  saeConfirmRx : Nat
deriving DecidableEq

structure SmeOwe where
  owePriv : Octets 32
  owePub : Octets 64
  oweKpOk : Bool
  oweOk : Bool
  oweDhTx : Nat
  oweDhRx : Nat
deriving DecidableEq

structure SmeQos where
  qosAdvertise : Bool
  qosEnabled : Bool
  edca : EdcaParam
  edcaAdvert : Option EdcaParam
  admission : QosAdmission
  addtsLastStatus : UInt16
  addtsRespReceived : Bool
  addtsDialog : UInt8
  addtsGrants : Nat
  addtsDenials : Nat

structure SmeSaQuery where
  saQuery : PmfSaQuery
  saQueryComebacks : Nat
  saQueryResolved : Nat
  saqRxRsp : Nat
  saqOk : Nat
deriving DecidableEq

structure SmeFt where
  ftEnabled : Bool
  ftMdid : UInt16
  ftSsid : Bytes
  ftR0khId : Bytes
  ftPmkR0 : Octets 32
  ftPmkR0Name : Octets 16
  ftR0Valid : Bool
  ftSnonce : Octets 32
  ftAnonce : Octets 32
  ftPmkR1 : Octets 32
  ftPmkR1Name : Octets 16
  ftTarget : MacAddr
  ftCompleted : Bool
  ftReassocs : Nat
deriving DecidableEq

structure SmeRic where
  ricRequest : Option Tspec
  ricGrantedTspec : Tspec
  ricGranted : Bool
  ricStatus : UInt16
  ricRespReceived : Bool
  ricApDeny : Bool
  ricApGrants : Nat
  ricApDenials : Nat
deriving DecidableEq

structure SmeBa where
  ba : BaAgreement
  baRecipient : Bool
  baRecipTid : UInt8
  baRecipBufsize : UInt16
  baTxReq : Nat
  baRxRsp : Nat
  baOk : Nat
deriving DecidableEq

structure SmeTdls where
  tdls : TdlsPeer
  tdlsActive : Bool
  tdlsRx : Nat
  tdlsRelayed : Nat
deriving DecidableEq

/-- The last data payload delivered, and the access category and TID of the last QoS one. -/
structure SmeRxData where
  dataRx : Nat
  rxData : Bytes
  rxTid : UInt8
  rxAc : UInt8
  dataReplay : Nat
deriving DecidableEq

structure SmeStats where
  badMic : Nat
  eapolM1Rx : Nat
  eapolM2Tx : Nat
  eapolM3Rx : Nat
  eapolM4Tx : Nat
  eapolM1Early : Nat
  mgmtUnprotDropped : Nat
  mgmtProtBadmic : Nat
  mgmtProtHonored : Nat
deriving DecidableEq

/-- What the lower MAC was last configured with. -/
structure LmacCfg where
  ac : Fin 4 → EdcaAc
  sifsUs : UInt16
  slotUs : UInt16
  autoResp : Bool

/-- A frame handed to the HAL; a data frame also notes the key and packet number it used. -/
structure TxFrame where
  data : Bytes
  ac : UInt8
  tid : UInt8
  prot : Option (Octets 16 × Nat)
deriving DecidableEq

/--
The transmit side: sequence number, packet number counters, announced SSID and
channel, salt and number of nonces drawn, number of data frames protected, and
the HAL with the frames it was handed, newest first.
-/
structure SmeTx where
  seq : UInt16
  dataTxPn : Nat
  mgmtTxPn : Nat
  ssid : Bytes
  channel : UInt8
  nonceSalt : UInt64
  draws : Nat
  dataFrames : Nat
  halBound : Bool
  sent : List TxFrame
  lmac : Option LmacCfg

structure Sme extends SmeAssoc, SmeKeys, SmeDataKey, SmePmf, SmeWpa3, SmeSae, SmeOwe, SmeQos,
    SmeSaQuery, SmeFt, SmeRic, SmeBa, SmeTdls, SmeRxData, SmeStats, SmeTx where
  earlyM1 : Option Bytes

/-- The entities this one calls into: the roam target of an AP and its relay link. -/
structure Siblings where
  ftDsTarget : Option Sme
  tdlsRelay : Option Sme

def kck (ptk : Octets 48) : Octets 16 := Octets.of 16 (slice ptk.bytes 0 16)

def kek (ptk : Octets 48) : Octets 16 := Octets.of 16 (slice ptk.bytes 16 16)

/-- The temporal key part of a PTK. -/
def tk (ptk : Octets 48) : Octets 16 := Octets.of 16 (slice ptk.bytes 32 16)

def smeInit (role : SmeRole) (self : MacAddr) (pmk : Octets 32) (nonceSalt : UInt64) : Sme :=
  { role := role, self := self, akm := .psk, state := .init, connected := false,
    peer := Octets.zero 6, aid := 0
    pmk := pmk, anonce := Octets.zero 32, snonce := Octets.zero 32, ptk := Octets.zero 48,
    gtk := Octets.zero 16, replay := 0, ptkInstalled := false, gtkInstalled := false
    installedTk := Octets.zero 16, dataKeyValid := false, dataRxReplay := pnReplayReset
    pmfMode := .disabled, mfpActive := false, pmfPeerCaps := 0, igtk := PmfIgtk.empty
    beaconProtEnabled := false, bigtk := PmfIgtk.empty, ocvEnabled := false,
    ociLocal := PmfOci.empty, ocvFail := 0, tdAdvertise := false, tdAdvertBitmap := 0,
    tdBitmap := 0, tdReceived := false
    saePw := [], sae := default, saePhase := 0, saeOk := false, saeCommitTx := 0,
    saeCommitRx := 0, saeConfirmTx := 0, saeConfirmRx := 0
    owePriv := Octets.zero 32, owePub := Octets.zero 64, oweKpOk := false, oweOk := false,
    oweDhTx := 0, oweDhRx := 0
    qosAdvertise := true, qosEnabled := false, edca := EdcaParam.empty, edcaAdvert := none,
    admission := qosAdmissionInit, addtsLastStatus := 0, addtsRespReceived := false,
    addtsDialog := 0, addtsGrants := 0, addtsDenials := 0
    saQuery := pmfSaQueryInit 3 1, saQueryComebacks := 0, saQueryResolved := 0, saqRxRsp := 0,
    saqOk := 0
    ftEnabled := false, ftMdid := 0, ftSsid := [], ftR0khId := [], ftPmkR0 := Octets.zero 32,
    ftPmkR0Name := Octets.zero 16, ftR0Valid := false, ftSnonce := Octets.zero 32,
    ftAnonce := Octets.zero 32, ftPmkR1 := Octets.zero 32, ftPmkR1Name := Octets.zero 16,
    ftTarget := Octets.zero 6, ftCompleted := false, ftReassocs := 0
    ricRequest := none, ricGrantedTspec := Tspec.empty, ricGranted := false, ricStatus := 0,
    ricRespReceived := false, ricApDeny := false, ricApGrants := 0, ricApDenials := 0
    ba := BaAgreement.empty, baRecipient := false, baRecipTid := 0, baRecipBufsize := 0,
    baTxReq := 0, baRxRsp := 0, baOk := 0
    tdls := TdlsPeer.empty, tdlsActive := false, tdlsRx := 0, tdlsRelayed := 0
    dataRx := 0, rxData := [], rxTid := 0, rxAc := 0, dataReplay := 0
    badMic := 0, eapolM1Rx := 0, eapolM2Tx := 0, eapolM3Rx := 0, eapolM4Tx := 0,
    eapolM1Early := 0, mgmtUnprotDropped := 0, mgmtProtBadmic := 0, mgmtProtHonored := 0
    seq := 0, dataTxPn := 0, mgmtTxPn := 0, ssid := [], channel := 0, nonceSalt := nonceSalt,
    draws := 0, dataFrames := 0, halBound := false, sent := [], lmac := none
    earlyM1 := none }

/-- The key that protects data is reset only when it really changes. -/
def smeInstallDataKey (s : Sme) : Sme :=
  if s.dataKeyValid && s.installedTk = tk s.ptk then s
  else
    { s with dataRxReplay := pnReplayReset, dataTxPn := 0, installedTk := tk s.ptk,
             dataKeyValid := true }

end Rf2a4m1
