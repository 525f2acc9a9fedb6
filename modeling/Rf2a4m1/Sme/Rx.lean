import Rf2a4m1.Sme.Data
import Rf2a4m1.Sme.Handshake

/-!
# Reception

A frame is an 802.11 management frame, an 802.11 data frame that carries
EAPOL, or a frame with the internal header. The first two are rewritten into
the internal form, and `smeDemux` acts on that.
-/

set_option autoImplicit false

namespace Rf2a4m1

open ByteString

section Demux

variable (env : Env)

/-- Types that still get through once the link is up. -/
def FrameType.whenConnected : FrameType → Bool
  | .data | .qosData => true
  | .ftAuth1 | .ftAuth2 | .ftReassocReq | .ftReassocResp | .ftDsReq | .ftDsResp => true
  | .addbaReq | .addbaRsp => true
  | .addtsReq | .addtsRsp | .delts => true
  | .reassocReq | .saQueryReq | .saQueryResp => true
  | _ => false

def saQueryRespond (s : Sme) (body : Bytes) : Sme :=
  if s.mfpActive then saQueryStaRespond s body else s

def apOnSaQueryResp (s : Sme) (body : Bytes) : Sme :=
  let (q, ok) := pmfSaQueryOnResponse s.saQuery body
  if s.mfpActive && ok then { s with saQuery := q, saQueryResolved := s.saQueryResolved + 1 } else s

def staOnSaQueryResp (s : Sme) (body : Bytes) : Sme :=
  let (q, ok) := pmfSaQueryOnResponse s.saQuery body
  if s.mfpActive && ok then { s with saQuery := q, saqRxRsp := s.saqRxRsp + 1, saqOk := s.saqOk + 1 }
  else s

/-- The AP's handlers that call into no other entity. -/
def apHandle (s : Sme) (type : FrameType) (src : MacAddr) (inp body : Bytes) : Sme :=
  match type with
  | .probeReq => txMgmt s .probeResp
  | .authReq => apOnAuthReq s src
  | .assocReq => apOnAssocReq env s body
  | .m2 => apOnM2 env s body
  | .m4 => apOnM4 env s body
  | .qosData => rxQosData env s inp
  | .ftAuth1 => if s.ftEnabled then ftApOnAuth1 env s src body else s
  | .ftReassocReq => if s.ftEnabled then ftApOnReassoc env s body else s
  | .addbaReq => baApOnAddbaReq s body
  | .addtsReq => addtsApOnReq s body
  | .delts => addtsOnDelts s body
  | .reassocReq => pmfApOnSpuriousReassoc s src
  | .saQueryResp => apOnSaQueryResp s body
  | .saQueryReq => saQueryRespond s body
  | _ => s

def apDemux (sib : Siblings) (s : Sme) (type : FrameType) (src : MacAddr) (inp body : Bytes) :
    Sme × Siblings :=
  match type with
  | .data => rxData env sib s inp
  | .ftDsReq => if s.ftEnabled then ftApOnDsRequest env sib s body else (s, sib)
  | _ => (apHandle env s type src inp body, sib)

/-- A BSS found through an internal Probe Response. -/
def staOnProbeResp (s : Sme) (src : MacAddr) : Sme :=
  if s.state ≠ .scanning then s else startAuth env { s with peer := src }

def staHandle (s : Sme) (type : FrameType) (src : MacAddr) (inp body : Bytes) : Sme :=
  match type with
  | .probeResp => staOnProbeResp env s src
  | .authResp => staOnAuthResp s
  | .assocResp => staOnAssocResp env s body
  | .m1 => staRxM1 env s body
  | .m3 => staOnM3 env s body
  | .qosData => rxQosData env s inp
  | .ftAuth2 => if s.ftEnabled && s.ftR0Valid then ftStaOnAuth2 env s body else s
  | .ftReassocResp => if s.ftEnabled && s.ftR0Valid then ftStaOnReassoc env s body else s
  | .ftDsResp => if s.ftEnabled && s.ftR0Valid then ftStaOnDsResponse env s body else s
  | .addbaRsp => staOnAddbaRsp s body
  | .addtsRsp => addtsStaOnResp s body
  | .delts => addtsOnDelts s body
  | .saQueryReq => saQueryRespond s body
  | .saQueryResp => staOnSaQueryResp s body
  | _ => s

def staDemux (sib : Siblings) (s : Sme) (type : FrameType) (src : MacAddr) (inp body : Bytes) :
    Sme × Siblings :=
  match type with
  | .data => rxData env sib s inp
  | _ => (staHandle env s type src inp body, sib)

/-- Act on a frame in internal form. -/
def smeDemux (sib : Siblings) (s : Sme) (type : FrameType) (inp : Bytes) : Sme × Siblings :=
  if inp.length < smePfxLen ∨ s.state = .failed then (s, sib)
  else if s.state = .connected ∧ !type.whenConnected then (s, sib)
  else if s.role = .ap then apDemux env sib s type (macAt inp 1) inp (inp.drop smePfxLen)
  else staDemux env sib s type (macAt inp 1) inp (inp.drop smePfxLen)

end Demux

section Dot11

variable (env : Env)

def smeRxViewMax : Nat := 307

/-- Rewrite into internal form and act on it, unless it is too long. -/
def demuxView (sib : Siblings) (s : Sme) (type : FrameType) (src : MacAddr) (body : Bytes) :
    Sme × Siblings :=
  if smePfxLen + body.length > smeRxViewMax then (s, sib)
  else smeDemux env sib s type (smePfx type src ++ body)

def protectedBit (frame : Bytes) : Bool := byteAt frame 1 &&& 0x40 ≠ 0

/-- What becomes of an Action frame before its category is looked at. -/
inductive ActionVerdict where
  | dropUnprotected
  | badMic
  | accept (body : Bytes)

/-- The whole frame first, then without a trailing frame check sequence. -/
def actionDecrypt (s : Sme) (frame : Bytes) : Option Bytes :=
  let whole := ccmpDecrypt frame 24 (tk s.ptk) 128
  let plain :=
    match whole with
    | some p => some p
    | none =>
      if frame.length ≥ 28 then ccmpDecrypt (frame.take (frame.length - 4)) 24 (tk s.ptk) 128
      else none
  plain.map Prod.fst

def actionVerdict (s : Sme) (frame : Bytes) (h : MgmtHdr) : ActionVerdict :=
  if s.mfpActive && s.ptkInstalled && protectedBit frame && decide (frame.length > 40) then
    match actionDecrypt s frame with
    | none => .badMic
    | some plain => .accept plain
  else if s.mfpActive && decide (h.body.length ≥ 2) && pmfIsRobustMgmt h.fc h.body &&
      !protectedBit frame then
    if !pmfRxUnprotectedOk h.fc h.body true then .dropUnprotected else .accept h.body
  else .accept h.body

/-- The frame type an Action body stands for. -/
def actionType (body : Bytes) : Option FrameType :=
  if body.length < 2 then none
  else if byteAt body 0 = 3 then
    if byteAt body 1 = 0 then some .addbaReq
    else if byteAt body 1 = 1 then some .addbaRsp
    else none
  else if byteAt body 0 = 8 then
    if byteAt body 1 = 0 then some .saQueryReq
    else if byteAt body 1 = 1 then some .saQueryResp
    else none
  else none

def rxAction (sib : Siblings) (s : Sme) (frame : Bytes) (h : MgmtHdr) : Sme × Siblings :=
  match actionVerdict s frame h with
  | .badMic => ({ s with mgmtProtBadmic := s.mgmtProtBadmic + 1 }, sib)
  | .dropUnprotected => ({ s with mgmtUnprotDropped := s.mgmtUnprotDropped + 1 }, sib)
  | .accept body =>
    match actionType body with
    | none => (s, sib)
    | some type => demuxView env sib s type h.addr2 body

/-- A refused Authentication fails the whole exchange. -/
def rxAuth (sib : Siblings) (s : Sme) (h : MgmtHdr) : Sme × Siblings :=
  match mgmtParseAuth h.body with
  | none => (s, sib)
  | some a =>
    if a.algo = 3 then (smeSaeRxAuth s h, sib)
    else if a.algo ≠ 0 then (s, sib)
    else if a.txn = 1 then demuxView env sib s .authReq h.addr2 (h.body.drop 6)
    else if a.txn = 2 then
      if a.status ≠ 0 then ({ s with state := .failed }, sib)
      else demuxView env sib s .authResp h.addr2 (h.body.drop 6)
    else (s, sib)

def rxAssocReq (sib : Siblings) (s : Sme) (h : MgmtHdr) (type : FrameType) : Sme × Siblings :=
  if h.body.length < 4 then (s, sib) else demuxView env sib s type h.addr2 (h.body.drop 4)

/-- The AID is taken over before the frame is acted on. -/
def rxAssocResp (sib : Siblings) (s : Sme) (h : MgmtHdr) (type : FrameType) : Sme × Siblings :=
  match mgmtParseAssocResp h.body with
  | none => (s, sib)
  | some r =>
    if r.status ≠ 0 then ({ s with state := .failed }, sib)
    else demuxView env sib { s with aid := r.aid } type h.addr2 (h.body.drop 6)

def rxDot11Mgmt (sib : Siblings) (s : Sme) (frame : Bytes) (h : MgmtHdr) : Sme × Siblings :=
  if h.subtype = 12 ∨ h.subtype = 10 then
    (if frame.length ≥ 24 then rxRobustMgmt s frame else s, sib)
  else if h.subtype = 13 ∨ h.subtype = 14 then rxAction env sib s frame h
  else if h.subtype = 8 ∨ h.subtype = 5 then (rxBssAnnounce env s h, sib)
  else if h.subtype = 4 then
    (if s.role = .ap then txMgmtTo s .probeResp h.addr2 [] else s, sib)
  else if h.subtype = 11 then rxAuth env sib s h
  else if h.subtype = 0 then rxAssocReq env sib s h .assocReq
  else if h.subtype = 2 then rxAssocReq env sib s h .reassocReq
  else if h.subtype = 1 then rxAssocResp env sib s h .assocResp
  else if h.subtype = 3 then rxAssocResp env sib s h .reassocResp
  else (s, sib)

/-- Message of the handshake a key information field stands for. -/
def eapolType (ki : UInt16) : Option FrameType :=
  let mic := ki &&& smeKiMic ≠ 0
  let ack := ki &&& smeKiAck ≠ 0
  let sec := ki &&& smeKiSecure ≠ 0
  if ¬mic ∧ ack then some .m1
  else if mic ∧ ¬sec then some .m2
  else if mic ∧ ack then some .m3
  else if mic then some .m4
  else none

/-- The 802.1X length field is preferred when it is sane. -/
def trimEapol (pdu : Bytes) : Bytes :=
  if pdu.length < 4 then pdu
  else
    let total := 4 + getBe16 pdu 2
    if total ≥ 95 ∧ total.toNat ≤ pdu.length then pdu.take total.toNat else pdu

/-- The EAPOL PDU of a data frame meant for us, and its transmitter. -/
def eapolOfDot11 (s : Sme) (frame : Bytes) : Option (MacAddr × Bytes) :=
  if protectedBit frame then none
  else if byteAt frame 4 &&& 0x01 = 0 ∧ macAt frame 4 ≠ s.self then none
  else if !macIsZero s.peer ∧ macAt frame 10 ≠ s.peer ∧ macAt frame 16 ≠ s.peer then none
  else
    let qos := (byteAt frame 0 >>> 4) &&& 0x08 ≠ 0
    let order := byteAt frame 1 &&& 0x80 ≠ 0
    let hdr := 24 + (if qos then 2 else 0) + (if order then 4 else 0)
    if frame.length < hdr + 8 then none
    else if slice frame hdr 8 ≠ eapolSnapHdr then none
    else some (macAt frame 10, trimEapol (frame.drop (hdr + 8)))

/-- Whether a frame is an 802.11 data frame at all. -/
def isDot11Data (frame : Bytes) : Bool :=
  decide (frame.length ≥ 24 + 8) && byteAt frame 0 &&& 0x03 = 0 && (byteAt frame 0 >>> 2) &&& 0x03 = 2

def rxDot11Data (sib : Siblings) (s : Sme) (frame : Bytes) : Sme × Siblings :=
  match eapolOfDot11 s frame with
  | none => (s, sib)
  | some (src, pdu) =>
    match (eapolKeyFields pdu).bind fun k => eapolType k.keyInfo with
    | none => (s, sib)
    | some type => demuxView env sib s type src pdu

def rxInternal (sib : Siblings) (s : Sme) (inp : Bytes) : Sme × Siblings :=
  if inp.length < smePfxLen ∨ !smeIntIs (byteAt inp 0) then (s, sib)
  else
    match FrameType.ofCode (smeIntType (byteAt inp 0)) with
    | none => (s, sib)
    | some type => smeDemux env sib s type inp

def smeRx (sib : Siblings) (s : Sme) (inp : Bytes) : Sme × Siblings :=
  if inp.length = 0 ∨ s.state = .failed then (s, sib)
  else
    match if inp.length ≤ 0xffff then mgmtParseHdr inp else none with
    | some h => rxDot11Mgmt env sib s inp h
    | none => if isDot11Data inp then rxDot11Data env sib s inp else rxInternal env sib s inp

end Dot11

end Rf2a4m1
