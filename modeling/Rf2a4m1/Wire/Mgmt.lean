import Rf2a4m1.Base

/-!
# Management frames

Header, information elements, and the builders and parsers of the fixed bodies.
A builder returns nothing where the source returns length zero.
-/

set_option autoImplicit false

namespace Rf2a4m1

open ByteString

/-- Subtypes of management frames. -/
inductive MgmtStype where
  | assocReq
  | assocResp
  | reassocReq
  | reassocResp
  | probeReq
  | probeResp
  | beacon
  | disassoc
  | auth
  | deauth
  | action
deriving DecidableEq

def MgmtStype.code : MgmtStype → UInt8
  | assocReq => 0
  | assocResp => 1
  | reassocReq => 2
  | reassocResp => 3
  | probeReq => 4
  | probeResp => 5
  | beacon => 8
  | disassoc => 10
  | auth => 11
  | deauth => 12
  | action => 13

/-- One element off a list: id, data and the octets after it. -/
def ieReadNext (b : Bytes) : Option (UInt8 × Bytes × Bytes) :=
  if b.length < 2 then none
  else
    let elen := (byteAt b 1).toNat
    if b.length < 2 + elen then none
    else some (byteAt b 0, slice b 2 elen, b.drop (2 + elen))

/-- Append an element to what is already written, within the capacity. -/
def ieWrite (cap : Nat) (w : Bytes) (id : UInt8) (data : Bytes) : Option Bytes :=
  if w.length + 2 + data.length > cap then none
  else some (w ++ id :: UInt8.ofNat data.length :: data)

structure MgmtHdr where
  fc : UInt16
  subtype : UInt8
  addr1 : MacAddr
  addr2 : MacAddr
  addr3 : MacAddr
  seqCtrl : UInt16
  body : Bytes
deriving DecidableEq

def fcType (fc : UInt16) : UInt8 := ((fc >>> 2) &&& 0x3).toUInt8

def fcSubtype (fc : UInt16) : UInt8 := ((fc >>> 4) &&& 0xf).toUInt8

def mgmtParseHdr (f : Bytes) : Option MgmtHdr :=
  if f.length < 24 then none
  else
    let fc := getLe16 f 0
    if fc &&& 0x3 ≠ 0 then none
    else if fcType fc ≠ 0 then none
    else
      some { fc := fc, subtype := fcSubtype fc, addr1 := macAt f 4, addr2 := macAt f 10,
             addr3 := macAt f 16, seqCtrl := getLe16 f 22, body := f.drop 24 }

/-- A parsed header is one of a management frame. -/
theorem mgmtParseHdr_fc {f : Bytes} {h : MgmtHdr} (parsed : mgmtParseHdr f = some h) :
    h.fc = getLe16 f 0 ∧ h.subtype = fcSubtype h.fc ∧ h.fc &&& 0x3 = 0 ∧ fcType h.fc = 0 ∧
      24 ≤ f.length ∧ h.body = f.drop 24 := by
  unfold mgmtParseHdr at parsed
  split at parsed
  · cases parsed
  rename_i long
  dsimp only at parsed
  split at parsed
  · cases parsed
  rename_i version
  split at parsed
  · cases parsed
  rename_i type
  cases parsed
  exact ⟨rfl, rfl, not_not.1 version, not_not.1 type, Nat.le_of_not_lt long, rfl⟩

/-- The header is read from the first 24 octets. -/
theorem mgmtParseHdr_congr {f g : Bytes} {h : MgmtHdr} (agree : g.take 24 = f.take 24)
    (long : 24 ≤ g.length) (parsed : mgmtParseHdr f = some h) :
    mgmtParseHdr g = some { h with body := g.drop 24 } := by
  unfold mgmtParseHdr at parsed ⊢
  split at parsed
  · cases parsed
  rw [if_neg (Nat.not_lt.2 long)]
  have word (i : Nat) (within : i + 2 ≤ 24) : getLe16 g i = getLe16 f i := by
    unfold getLe16
    rw [slice_congr agree within]
  have mac (i : Nat) (within : i + 6 ≤ 24) : macAt g i = macAt f i := by
    unfold macAt
    rw [slice_congr agree within]
  dsimp only at parsed ⊢
  rw [word 0 (by omega), word 22 (by omega), mac 4 (by omega), mac 10 (by omega),
    mac 16 (by omega)]
  split at parsed
  · cases parsed
  rename_i version
  split at parsed
  · cases parsed
  rename_i type
  rw [if_neg version, if_neg type]
  cases parsed
  rfl

def putHdr (stype : MgmtStype) (da sa bssid : MacAddr) (seqCtrl : UInt16) : Bytes :=
  [stype.code <<< 4, 0, 0, 0] ++ da.bytes ++ sa.bytes ++ bssid.bytes ++ putLe16 seqCtrl

theorem putHdr_length (type : MgmtStype) (da sa bssid : MacAddr) (sc : UInt16) :
    (putHdr type da sa bssid sc).length = 24 := by
  simp [putHdr]

/-- The SSID element and, when there are any, the supported rates. -/
def writeSsidRates (cap : Nat) (ssid rates : Bytes) : Option Bytes :=
  (ieWrite cap [] 0 ssid).bind fun w =>
    if rates.length = 0 then some w else ieWrite cap w 1 rates

def mgmtBuildProbeReq (cap : Nat) (da sa bssid : MacAddr) (seqCtrl : UInt16)
    (ssid rates : Bytes) : Option Bytes :=
  if ssid.length > 32 ∨ cap < 24 then none
  else
    (writeSsidRates (cap - 24) ssid rates).map fun w =>
      putHdr .probeReq da sa bssid seqCtrl ++ w

/-- Fixed Authentication body: algorithm, transaction, status. -/
def authBody (algo txn status : UInt16) : Bytes := putLe16 algo ++ putLe16 txn ++ putLe16 status

def mgmtBuildAuthOpen (cap : Nat) (bssid sa : MacAddr) (seqCtrl : UInt16) : Option Bytes :=
  if cap < 24 + 6 then none
  else some (putHdr .auth bssid sa bssid seqCtrl ++ authBody 0 1 0)

def mgmtBuildAuthResp (cap : Nat) (da bssid : MacAddr) (seqCtrl algo status : UInt16) :
    Option Bytes :=
  if cap < 24 + 6 then none
  else some (putHdr .auth da bssid bssid seqCtrl ++ authBody algo 2 status)

def mgmtBuildAuthSaeCommit (cap : Nat) (bssid sa : MacAddr) (seqCtrl status group : UInt16)
    (scalar element : Bytes) : Option Bytes :=
  if cap < 24 + 6 + 2 + scalar.length + element.length then none
  else
    some (putHdr .auth bssid sa bssid seqCtrl ++ authBody 3 1 status ++ putLe16 group ++
      scalar ++ element)

def mgmtBuildAuthSaeConfirm (cap : Nat) (bssid sa : MacAddr) (seqCtrl sendConfirm : UInt16)
    (confirm : Bytes) : Option Bytes :=
  if cap < 24 + 6 + 2 + confirm.length then none
  else
    some (putHdr .auth bssid sa bssid seqCtrl ++ authBody 3 2 0 ++ putLe16 sendConfirm ++ confirm)

def appendExtra (cap : Nat) (f extra : Bytes) : Option Bytes :=
  if f.length + extra.length > cap then none else some (f ++ extra)

/-- The RSN element is only written when its body is not empty. -/
def mgmtBuildAssocReq (cap : Nat) (bssid sa : MacAddr) (seqCtrl capInfo listenInterval : UInt16)
    (ssid rates rsn extra : Bytes) : Option Bytes :=
  if ssid.length > 32 ∨ cap < 24 + 4 then none
  else
    (writeSsidRates (cap - 28) ssid rates).bind fun w =>
      (if rsn.length = 0 then some w else ieWrite (cap - 28) w 48 rsn).bind fun w =>
        appendExtra cap (putHdr .assocReq bssid sa bssid seqCtrl ++ putLe16 capInfo ++
          putLe16 listenInterval ++ w) extra

def mgmtBuildAssocResp (cap : Nat) (da bssid : MacAddr) (seqCtrl capInfo status aid : UInt16)
    (rates extra : Bytes) : Option Bytes :=
  if cap < 24 + 6 then none
  else
    (if rates.length = 0 then some [] else ieWrite (cap - 30) [] 1 rates).bind fun w =>
      appendExtra cap (putHdr .assocResp da bssid bssid seqCtrl ++ putLe16 capInfo ++
        putLe16 status ++ putLe16 (0xc000 ||| (aid &&& 0x3fff)) ++ w) extra

/-- Body of a Beacon or Probe Response: fixed fields, SSID, rates, DS, TIM, RSN. -/
def putBssBody (cap timestamp : Nat) (beaconInt capInfo : UInt16) (ssid : Bytes)
    (channel : UInt8) (rates rsn : Bytes) : Option Bytes :=
  if ssid.length > 32 ∨ cap < 12 then none
  else
    (writeSsidRates (cap - 12) ssid rates).bind fun w =>
      (ieWrite (cap - 12) w 3 [channel]).bind fun w =>
        (ieWrite (cap - 12) w 5 [0x00, 0x01, 0x00, 0x00]).bind fun w =>
          (if rsn.length = 0 then some w else ieWrite (cap - 12) w 48 rsn).map fun w =>
            le 8 timestamp ++ putLe16 beaconInt ++ putLe16 capInfo ++ w

def mgmtBuildBeacon (cap : Nat) (bssid : MacAddr) (seqCtrl : UInt16) (timestamp : Nat)
    (beaconInt capInfo : UInt16) (ssid : Bytes) (channel : UInt8) (rates rsn : Bytes) :
    Option Bytes :=
  if cap < 24 + 12 then none
  else
    (putBssBody (cap - 24) timestamp beaconInt capInfo ssid channel rates rsn).map fun b =>
      putHdr .beacon bcast bssid bssid seqCtrl ++ b

def mgmtBuildProbeResp (cap : Nat) (da bssid : MacAddr) (seqCtrl : UInt16) (timestamp : Nat)
    (beaconInt capInfo : UInt16) (ssid : Bytes) (channel : UInt8) (rates rsn : Bytes) :
    Option Bytes :=
  if cap < 24 + 12 then none
  else
    (putBssBody (cap - 24) timestamp beaconInt capInfo ssid channel rates rsn).map fun b =>
      putHdr .probeResp da bssid bssid seqCtrl ++ b

structure AuthFixed where
  algo : UInt16
  txn : UInt16
  status : UInt16
deriving DecidableEq

def mgmtParseAuth (body : Bytes) : Option AuthFixed :=
  if body.length < 6 then none
  else some { algo := getLe16 body 0, txn := getLe16 body 2, status := getLe16 body 4 }

structure SaeCommitBody where
  group : UInt16
  scalar : Octets 32
  element : Octets 64

def mgmtParseAuthSaeCommit (body : Bytes) : Option SaeCommitBody :=
  if body.length < 6 + 2 + 32 + 64 then none
  else
    some { group := getLe16 body 6, scalar := Octets.of 32 (slice body 8 32),
           element := Octets.of 64 (slice body 40 64) }

/-- Send-confirm counter and confirm value. -/
def mgmtParseAuthSaeConfirm (body : Bytes) : Option (UInt16 × Octets 32) :=
  if body.length < 6 + 2 + 32 then none
  else some (getLe16 body 6, Octets.of 32 (slice body 8 32))

structure AssocRespFixed where
  cap : UInt16
  status : UInt16
  aid : UInt16
deriving DecidableEq

def mgmtParseAssocResp (body : Bytes) : Option AssocRespFixed :=
  if body.length < 6 then none
  else
    some { cap := getLe16 body 0, status := getLe16 body 2, aid := getLe16 body 4 &&& 0x3fff }

structure BeaconInfo where
  cap : UInt16
  channel : UInt8
  ssid : Bytes
  hasRsn : Bool
deriving DecidableEq

def beaconElement (bi : BeaconInfo) (id : UInt8) (data : Bytes) : BeaconInfo :=
  if id = 0 then (if data.length ≤ 32 then { bi with ssid := data } else bi)
  else if id = 3 then (if data.length ≥ 1 then { bi with channel := byteAt data 0 } else bi)
  else if id = 48 then { bi with hasRsn := true }
  else bi

def parseBeaconLoop : Nat → BeaconInfo → Bytes → BeaconInfo
  | 0, bi, _ => bi
  | fuel + 1, bi, b =>
    match ieReadNext b with
    | none => bi
    | some (id, data, rest) => parseBeaconLoop fuel (beaconElement bi id data) rest

def mgmtParseBeacon (body : Bytes) : Option BeaconInfo :=
  if body.length < 12 then none
  else
    some (parseBeaconLoop body.length
      { cap := getLe16 body 10, channel := 0, ssid := [], hasRsn := false } (body.drop 12))

end Rf2a4m1
