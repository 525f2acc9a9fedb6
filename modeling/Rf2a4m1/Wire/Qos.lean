import Rf2a4m1.Base

/-!
# Quality of service

Traffic specifications, the ADDTS and DELTS actions, the admission table, the
QoS control field and the EDCA parameters.
-/

set_option autoImplicit false

namespace Rf2a4m1

open ByteString

structure TsInfo where
  trafficType : Bool
  tsid : UInt8
  direction : UInt8
  accessPolicy : UInt8
  aggregation : Bool
  apsd : Bool
  userPriority : UInt8
  ackPolicy : UInt8
  schedule : Bool
deriving DecidableEq

def TsInfo.empty : TsInfo :=
  { trafficType := false, tsid := 0, direction := 0, accessPolicy := 0, aggregation := false,
    apsd := false, userPriority := 0, ackPolicy := 0, schedule := false }

def bitIf (b : Bool) (n : UInt32) : UInt32 := if b then 1 <<< n else 0

def tsInfoPack (i : TsInfo) : UInt32 :=
  (bitIf i.trafficType 0 ||| (i.tsid &&& 0x0f).toUInt32 <<< 1 |||
    (i.direction &&& 0x03).toUInt32 <<< 5 ||| (i.accessPolicy &&& 0x03).toUInt32 <<< 7 |||
    bitIf i.aggregation 9 ||| bitIf i.apsd 10 ||| (i.userPriority &&& 0x07).toUInt32 <<< 11 |||
    (i.ackPolicy &&& 0x03).toUInt32 <<< 14 ||| bitIf i.schedule 16) &&& 0x00ffffff

def tsInfoUnpack (v : UInt32) : TsInfo :=
  { trafficType := v &&& 1 ≠ 0
    tsid := ((v >>> 1) &&& 0x0f).toUInt8
    direction := ((v >>> 5) &&& 0x03).toUInt8
    accessPolicy := ((v >>> 7) &&& 0x03).toUInt8
    aggregation := (v >>> 9) &&& 1 ≠ 0
    apsd := (v >>> 10) &&& 1 ≠ 0
    userPriority := ((v >>> 11) &&& 0x07).toUInt8
    ackPolicy := ((v >>> 14) &&& 0x03).toUInt8
    schedule := (v >>> 16) &&& 1 ≠ 0 }

structure Tspec where
  ts : TsInfo
  nominalMsdu : UInt16
  maxMsdu : UInt16
  minSi : UInt32
  maxSi : UInt32
  inactivity : UInt32
  suspension : UInt32
  serviceStart : UInt32
  minRate : UInt32
  meanRate : UInt32
  peakRate : UInt32
  burstSize : UInt32
  delayBound : UInt32
  minPhyRate : UInt32
  surplusBw : UInt16
  mediumTime : UInt16
deriving DecidableEq

def Tspec.empty : Tspec :=
  { ts := TsInfo.empty, nominalMsdu := 0, maxMsdu := 0, minSi := 0, maxSi := 0, inactivity := 0,
    suspension := 0, serviceStart := 0, minRate := 0, meanRate := 0, peakRate := 0,
    burstSize := 0, delayBound := 0, minPhyRate := 0, surplusBw := 0, mediumTime := 0 }

def tspecBodyPut (t : Tspec) : Bytes :=
  le 3 (tsInfoPack t.ts).toNat ++ putLe16 t.nominalMsdu ++ putLe16 t.maxMsdu ++
    putLe32 t.minSi ++ putLe32 t.maxSi ++ putLe32 t.inactivity ++ putLe32 t.suspension ++
    putLe32 t.serviceStart ++ putLe32 t.minRate ++ putLe32 t.meanRate ++ putLe32 t.peakRate ++
    putLe32 t.burstSize ++ putLe32 t.delayBound ++ putLe32 t.minPhyRate ++
    putLe16 t.surplusBw ++ putLe16 t.mediumTime

def tspecBodyGet (b : Bytes) : Tspec :=
  { ts := tsInfoUnpack (UInt32.ofNat (ofLe (slice b 0 3)))
    nominalMsdu := getLe16 b 3
    maxMsdu := getLe16 b 5
    minSi := getLe32 b 7
    maxSi := getLe32 b 11
    inactivity := getLe32 b 15
    suspension := getLe32 b 19
    serviceStart := getLe32 b 23
    minRate := getLe32 b 27
    meanRate := getLe32 b 31
    peakRate := getLe32 b 35
    burstSize := getLe32 b 39
    delayBound := getLe32 b 43
    minPhyRate := getLe32 b 47
    surplusBw := getLe16 b 51
    mediumTime := getLe16 b 53 }

def tspecBodyLen : Nat := 55

def tspecBuild (cap : Nat) (t : Tspec) : Option Bytes :=
  if cap < 2 + tspecBodyLen then none else some ([13, 55] ++ tspecBodyPut t)

def tspecParse (body : Bytes) : Option Tspec :=
  if body.length ≠ tspecBodyLen then none else some (tspecBodyGet body)

def addtsReqBuild (cap : Nat) (dialog : UInt8) (t : Tspec) : Option Bytes :=
  if cap < 3 + 2 + tspecBodyLen then none
  else (tspecBuild (cap - 3) t).map fun e => [1, 0, dialog] ++ e

def addtsReqParse (inp : Bytes) : Option (UInt8 × Tspec) :=
  if inp.length < 3 + 2 + tspecBodyLen then none
  else if byteAt inp 0 ≠ 1 ∨ byteAt inp 1 ≠ 0 then none
  else if byteAt inp 3 ≠ 13 ∨ byteAt inp 4 ≠ 55 then none
  else (tspecParse (slice inp 5 tspecBodyLen)).map fun t => (byteAt inp 2, t)

def addtsRspBuild (cap : Nat) (dialog : UInt8) (status : UInt16) (t : Tspec) : Option Bytes :=
  if cap < 5 + 2 + tspecBodyLen then none
  else (tspecBuild (cap - 5) t).map fun e => [1, 1, dialog] ++ putLe16 status ++ e

def addtsRspParse (inp : Bytes) : Option (UInt8 × UInt16 × Tspec) :=
  if inp.length < 5 + 2 + tspecBodyLen then none
  else if byteAt inp 0 ≠ 1 ∨ byteAt inp 1 ≠ 1 then none
  else if byteAt inp 5 ≠ 13 ∨ byteAt inp 6 ≠ 55 then none
  else (tspecParse (slice inp 7 tspecBodyLen)).map fun t => (byteAt inp 2, getLe16 inp 3, t)

def deltsBuild (cap : Nat) (ts : TsInfo) (reason : UInt16) : Option Bytes :=
  if cap < 7 then none
  else some ([1, 2] ++ le 3 (tsInfoPack ts).toNat ++ putLe16 reason)

def deltsParse (inp : Bytes) : Option (TsInfo × UInt16) :=
  if inp.length < 7 then none
  else if byteAt inp 0 ≠ 1 ∨ byteAt inp 1 ≠ 2 then none
  else some (tsInfoUnpack (UInt32.ofNat (ofLe (slice inp 2 3))), getLe16 inp 5)

section Admission

def qosAcCount : Nat := 4

/-- Access category of a user priority: BK = 0, BE = 1, VI = 2, VO = 3. -/
def qosUpToAc (up : UInt8) : UInt8 :=
  byteAt [1, 0, 0, 1, 2, 2, 3, 3] (up &&& 0x07).toNat

inductive QosAdmitResult where
  | ok
  | refusedLimit
  | refusedFull
  | refusedDup
  | refusedArg
deriving DecidableEq

structure TsAdmission where
  inUse : Bool
  tsid : UInt8
  ac : UInt8
  direction : UInt8
  mediumTime : UInt16
deriving DecidableEq

def TsAdmission.free : TsAdmission :=
  { inUse := false, tsid := 0, ac := 0, direction := 0, mediumTime := 0 }

structure QosAdmission where
  ts : List TsAdmission
  acTotal : Nat → UInt32
  acLimit : Nat → UInt32

def qosAdmissionInit : QosAdmission :=
  { ts := List.replicate 8 TsAdmission.free, acTotal := fun _ => 0, acLimit := fun _ => 0x8000 }

def QosAdmission.setTotal (a : QosAdmission) (ac : UInt8) (v : UInt32) : Nat → UInt32 :=
  fun i => if i = ac.toNat then v else a.acTotal i

def qosAdmissionSetLimit (a : QosAdmission) (ac : UInt8) (limit : UInt32) : QosAdmission :=
  if ac.toNat ≥ qosAcCount then a
  else { a with acLimit := fun i => if i = ac.toNat then limit else a.acLimit i }

def admFind (a : QosAdmission) (tsid : UInt8) : Option Nat :=
  a.ts.findIdx? fun e => e.inUse && e.tsid = tsid

/-- The limit may be lowered under the admitted total, so the room is clamped at zero. -/
def qosAdmissionRoom (a : QosAdmission) (ac : UInt8) : UInt32 :=
  if a.acLimit ac.toNat ≥ a.acTotal ac.toNat then a.acLimit ac.toNat - a.acTotal ac.toNat else 0

def qosAdmissionAdmit (a : QosAdmission) (tsid ac direction : UInt8) (mediumTime : UInt16) :
    QosAdmission × QosAdmitResult :=
  if tsid > 0x0f ∨ ac.toNat ≥ qosAcCount then (a, .refusedArg)
  else if (admFind a tsid).isSome then (a, .refusedDup)
  else if mediumTime.toUInt32 > qosAdmissionRoom a ac then (a, .refusedLimit)
  else
    match a.ts.findIdx? fun e => !e.inUse with
    | none => (a, .refusedFull)
    | some i =>
      let slot : TsAdmission :=
        { inUse := true, tsid := tsid, ac := ac, direction := direction, mediumTime := mediumTime }
      ({ a with ts := a.ts.set i slot
                acTotal := a.setTotal ac (a.acTotal ac.toNat + mediumTime.toUInt32) }, .ok)

def qosAdmissionAdmitTspec (a : QosAdmission) (granted : Tspec) : QosAdmission × QosAdmitResult :=
  qosAdmissionAdmit a granted.ts.tsid (qosUpToAc granted.ts.userPriority) granted.ts.direction
    granted.mediumTime

def qosAdmissionRelease (a : QosAdmission) (tsid : UInt8) : QosAdmission × Bool :=
  match admFind a tsid with
  | none => (a, false)
  | some i =>
    let e := a.ts.getD i TsAdmission.free
    let ac := e.ac &&& 0x03
    let total := a.acTotal ac.toNat
    let rest := if total ≥ e.mediumTime.toUInt32 then total - e.mediumTime.toUInt32 else 0
    ({ a with ts := a.ts.set i { e with inUse := false, mediumTime := 0 }
              acTotal := a.setTotal ac rest }, true)

def qosAdmissionReleaseTs (a : QosAdmission) (ts : TsInfo) : QosAdmission × Bool :=
  qosAdmissionRelease a ts.tsid

end Admission

structure QosCtrl where
  tid : UInt8
  eosp : Bool
  ackPolicy : UInt8
  amsdu : Bool
  hi : UInt8
deriving DecidableEq

def qosCtrlPack (q : QosCtrl) : UInt16 :=
  let eosp : UInt16 := if q.eosp then 0x0010 else 0
  let amsdu : UInt16 := if q.amsdu then 0x0080 else 0
  let ackPolicy : UInt16 := (q.ackPolicy &&& 0x03).toUInt16 <<< 5
  let hi : UInt16 := q.hi.toUInt16 <<< 8
  (q.tid &&& 0x0f).toUInt16 ||| eosp ||| ackPolicy ||| amsdu ||| hi

def qosCtrlUnpack (v : UInt16) : QosCtrl :=
  { tid := (v &&& 0x0f).toUInt8
    eosp := v &&& 0x0010 ≠ 0
    ackPolicy := ((v >>> 5) &&& 0x03).toUInt8
    amsdu := v &&& 0x0080 ≠ 0
    hi := (v >>> 8).toUInt8 }

def qosCtrlBuild (cap : Nat) (q : QosCtrl) : Option Bytes :=
  if cap < 2 then none else some (putLe16 (qosCtrlPack q))

def qosCtrlParse (inp : Bytes) : Option QosCtrl :=
  if inp.length < 2 then none else some (qosCtrlUnpack (getLe16 inp 0))

section Edca

structure EdcaAcRec where
  aciAifsn : UInt8
  ecw : UInt8
  txopLimit : UInt16
deriving DecidableEq

def acRecPut (r : EdcaAcRec) : Bytes := [r.aciAifsn, r.ecw] ++ putLe16 r.txopLimit

def acRecGet (b : Bytes) : EdcaAcRec :=
  { aciAifsn := byteAt b 0, ecw := byteAt b 1, txopLimit := getLe16 b 2 }

/-- QoS information and one record per ACI. -/
structure EdcaParam where
  qosInfo : UInt8
  ac : Fin 4 → EdcaAcRec

def EdcaParam.empty : EdcaParam :=
  { qosInfo := 0, ac := fun _ => { aciAifsn := 0, ecw := 0, txopLimit := 0 } }

def acRecsPut (ac : Fin 4 → EdcaAcRec) : Bytes := (List.finRange 4).flatMap fun i => acRecPut (ac i)

def acRecsGet (b : Bytes) : Fin 4 → EdcaAcRec := fun i => acRecGet (b.drop (4 * i.val))

def wmmParamBuild (cap : Nat) (p : EdcaParam) : Option Bytes :=
  if cap < 2 + 24 then none
  else some ([221, 24, 0x00, 0x50, 0xf2, 2, 1, 1, p.qosInfo, 0] ++ acRecsPut p.ac)

def wmmHdrOk (body : Bytes) (subtype : UInt8) (minLen : Nat) : Bool :=
  decide (body.length ≥ minLen) && slice body 0 6 = [0x00, 0x50, 0xf2, 2, subtype, 1]

def wmmParamParse (body : Bytes) : Option EdcaParam :=
  if body.length ≠ 24 ∨ !wmmHdrOk body 1 24 then none
  else some { qosInfo := byteAt body 6, ac := acRecsGet (body.drop 8) }

def wmmInfoBuild (cap : Nat) (qosInfo : UInt8) : Option Bytes :=
  if cap < 2 + 7 then none else some [221, 7, 0x00, 0x50, 0xf2, 2, 0, 1, qosInfo]

def wmmInfoParse (body : Bytes) : Option UInt8 :=
  if body.length ≠ 7 ∨ !wmmHdrOk body 0 7 then none else some (byteAt body 6)

def edcaParamParse (body : Bytes) : Option EdcaParam :=
  if body.length ≠ 18 then none
  else some { qosInfo := byteAt body 0, ac := acRecsGet (body.drop 2) }

/-- Contention parameters of one access category, as the hardware takes them. -/
structure EdcaAc where
  cwMin : UInt16
  cwMax : UInt16
  aifsn : UInt8
  txop : UInt16
deriving DecidableEq

def aciToAc (aci : UInt8) : Fin 4 :=
  if aci &&& 0x03 = 0 then 1 else if aci &&& 0x03 = 1 then 0
  else if aci &&& 0x03 = 2 then 2 else 3

def edcaCwFromEcw (e : UInt8) : UInt16 := UInt16.ofNat (2 ^ e.toNat - 1)

structure AcDefault where
  aifsn : UInt8
  ecwmin : UInt8
  ecwmax : UInt8
  txop : UInt16

/-- Default parameters by access category. -/
def acDefaults : Fin 4 → AcDefault
  | 0 => { aifsn := 7, ecwmin := 4, ecwmax := 10, txop := 0 }
  | 1 => { aifsn := 3, ecwmin := 4, ecwmax := 10, txop := 0 }
  | 2 => { aifsn := 2, ecwmin := 3, ecwmax := 4, txop := 94 }
  | 3 => { aifsn := 2, ecwmin := 2, ecwmax := 3, txop := 47 }

def edcaDefaults : EdcaParam :=
  { qosInfo := 0
    ac := fun aci =>
      let aciBits := UInt8.ofNat aci.val
      let d := acDefaults (aciToAc aciBits)
      let hi : UInt8 := aciBits <<< 5
      let ecwHi : UInt8 := (d.ecwmax &&& 0x0f) <<< 4
      { aciAifsn := (d.aifsn &&& 0x0f) ||| hi
        ecw := ecwHi ||| (d.ecwmin &&& 0x0f)
        txopLimit := d.txop } }

def edcaFillLmacDefaults : Fin 4 → EdcaAc := fun ac =>
  let d := acDefaults ac
  { cwMin := edcaCwFromEcw d.ecwmin, cwMax := edcaCwFromEcw d.ecwmax, aifsn := d.aifsn,
    txop := d.txop }

/-- Later records override earlier ones that name the same category. -/
def edcaApplyToLmac (p : EdcaParam) (out : Fin 4 → EdcaAc) : Fin 4 → EdcaAc :=
  (List.finRange 4).foldl (fun out i =>
    let r := p.ac i
    let a : EdcaAc :=
      { cwMin := edcaCwFromEcw (r.ecw &&& 0x0f), cwMax := edcaCwFromEcw (r.ecw >>> 4),
        aifsn := r.aciAifsn &&& 0x0f, txop := r.txopLimit }
    fun ac => if ac = aciToAc ((r.aciAifsn &&& 0x60) >>> 5) then a else out ac) out

end Edca

end Rf2a4m1
