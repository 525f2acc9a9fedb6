import Rf2a4m1.Sme.Tx

/-!
# Scanning, authentication and association

The announcement of a BSS, the SAE exchange, the OWE key, and the negotiation
of management frame protection and QoS from an element list.
-/

set_option autoImplicit false

namespace Rf2a4m1

open ByteString

section Negotiate

/-- The first well-formed RSN element decides; a list without one decides nothing. -/
def pmfNegotiateLoop : Nat → Sme → Bytes → Sme × UInt16
  | 0, s, _ => (s, pmfStatusSuccess)
  | fuel + 1, s, ies =>
    if ies.length < 2 then (s, pmfStatusSuccess)
    else
      let elen := (byteAt ies 1).toNat
      if 2 + elen > ies.length then (s, pmfStatusSuccess)
      else
        match if byteAt ies 0 = 48 then pmfRsneParse (ies.take (2 + elen)) else none with
        | some i =>
          let (st, active) := pmfNegotiate s.pmfMode i.rsnCaps
          ({ s with pmfPeerCaps := i.rsnCaps, mfpActive := active }, st)
        | none => pmfNegotiateLoop fuel s (ies.drop (2 + elen))

def pmfNegotiateIes (s : Sme) (ies : Bytes) : Sme × UInt16 := pmfNegotiateLoop ies.length s ies

/-- What a scan of an element list found about QoS. -/
structure QosScan where
  sawWmmInfo : Bool
  edca : Option EdcaParam

/-- Later parameter sets override earlier ones. -/
def qosScanElement (r : QosScan) (eid : UInt8) (body : Bytes) : QosScan :=
  if eid = 221 then
    if body.length = 7 ∧ (wmmInfoParse body).isSome then { r with sawWmmInfo := true }
    else if body.length = 24 then { r with edca := (wmmParamParse body).orElse fun _ => r.edca }
    else r
  else if eid = 12 then { r with edca := (edcaParamParse body).orElse fun _ => r.edca }
  else r

def qosScanLoop : Nat → QosScan → Bytes → QosScan
  | 0, r, _ => r
  | fuel + 1, r, ies =>
    if ies.length < 2 then r
    else
      let elen := (byteAt ies 1).toNat
      if 2 + elen > ies.length then r
      else
        qosScanLoop fuel (qosScanElement r (byteAt ies 0) (slice ies 2 elen)) (ies.drop (2 + elen))

def qosScanIes (ies : Bytes) : QosScan :=
  qosScanLoop ies.length { sawWmmInfo := false, edca := none } ies

/-- Push the negotiated contention parameters down to the lower MAC. -/
def qosApplyLmac (s : Sme) : Sme :=
  if s.halBound then
    { s with lmac := some { ac := edcaApplyToLmac s.edca edcaFillLmacDefaults, sifsUs := 10,
                            slotUs := 9, autoResp := true } }
  else s

/-- The AP notes that the station is QoS-capable. -/
def apQosNegotiate (s : Sme) (ies : Bytes) : Sme :=
  if s.qosAdvertise && (qosScanIes ies).sawWmmInfo then { s with qosEnabled := true } else s

/-- The station takes the parameter set of the AP over. -/
def staQosNegotiate (s : Sme) (ies : Bytes) : Sme :=
  if !s.qosAdvertise then s
  else
    match (qosScanIes ies).edca with
    | none => s
    | some p => qosApplyLmac { s with edca := p, qosEnabled := true }

end Negotiate

section Owe

/-- Group and public X of the first OWE DH parameter element. -/
def oweDhFindLoop : Nat → Bytes → Option (UInt16 × Bytes)
  | 0, _ => none
  | fuel + 1, ies =>
    if ies.length < 2 then none
    else
      let ln := (byteAt ies 1).toNat
      if 2 + ln > ies.length then none
      else if byteAt ies 0 = 255 ∧ ln ≥ 35 ∧ byteAt ies 2 = 32 then
        some (getLe16 ies 3, slice ies 5 (ln - 3))
      else oweDhFindLoop fuel (ies.drop (2 + ln))

def smeOweDhFind (ies : Bytes) : Option (UInt16 × Bytes) := oweDhFindLoop ies.length ies

/-- PMK from the public key of the AP; the private key is spent on success. -/
def smeOweOnAssocResp (s : Sme) (ies : Bytes) : Sme × Bool :=
  if !s.oweKpOk then (s, false)
  else
    match smeOweDhFind ies with
    | none => (s, false)
    | some (grp, apX) =>
      let s := { s with oweDhRx := s.oweDhRx + 1 }
      if grp ≠ 19 ∨ apX.length ≠ 32 then (s, false)
      else
        match (p256PointFromX (Octets.of 32 apX)).bind fun apPub =>
            oweDerive s.owePriv s.owePub apPub true with
        | none => (s, false)
        | some (pmk, _) =>
          ({ s with pmk := pmk, owePriv := Octets.zero 32, oweKpOk := false, oweOk := true }, true)

end Owe

section SaeExchange

variable (env : Env)

/-- Draw secret and mask until a commit succeeds, at most `fuel` times. -/
def saeCommitLoop (pt : Octets 64) : Nat → UInt64 → Sme → Sme × Bool
  | 0, _, s => (s, false)
  | fuel + 1, attempt, s =>
    let (rnd, s) := genNonce env s (s.nonceSalt + attempt * 2)
    let (mask, s) := genNonce env s (s.nonceSalt + attempt * 2 + 1)
    let (sae, ok) := saeCommit s.sae pt s.self s.peer rnd mask
    let s := { s with sae := sae }
    if ok then (s, true) else saeCommitLoop pt fuel (attempt + 1) s

def smeSaeTxCommit (s : Sme) : Sme × Bool :=
  if s.saePw.length = 0 ∨ s.ssid.length = 0 then (s, false)
  else
    match saeDerivePtH2e s.ssid s.saePw [] with
    | none => (s, false)
    | some pt =>
      let (s, ok) := saeCommitLoop env pt 16 0 s
      if !ok then (s, false)
      else
        let (sc, l) := s.toSmeTx.nextSeq
        match mgmtBuildAuthSaeCommit 256 s.peer s.self sc 126 19 s.sae.commitScalar.bytes
            s.sae.commitElement.bytes with
        | none => ({ s with toSmeTx := l }, false)
        | some f =>
          ({ s with toSmeTx := l.raw f, saePhase := 1, saeCommitTx := s.saeCommitTx + 1 }, true)

def smeSaeTxConfirm (s : Sme) : Sme × Bool :=
  let (sc, l) := s.toSmeTx.nextSeq
  match mgmtBuildAuthSaeConfirm 128 s.peer s.self sc 1 (saeConfirm s.sae 1).bytes with
  | none => ({ s with toSmeTx := l }, false)
  | some f =>
    ({ s with toSmeTx := l.raw f, saePhase := 2, saeConfirmTx := s.saeConfirmTx + 1 }, true)

def smeSaeEnterAuthed (s : Sme) : Sme :=
  { txAssocReq { s with pmk := s.sae.pmk, saeOk := true, saePhase := 3
                        saeConfirmRx := s.saeConfirmRx + 1 } with
    state := .authed }

def smeSaeOnCommit (s : Sme) (body : Bytes) (status : UInt16) : Sme :=
  if status ≠ 0 ∧ status ≠ 126 then s
  else
    match mgmtParseAuthSaeCommit body with
    | none => s
    | some c =>
      let s := { s with saeCommitRx := s.saeCommitRx + 1 }
      match if c.group ≠ 19 then none else saeProcessCommit s.sae c.scalar c.element with
      | none => { s with state := .failed }
      | some sae =>
        let (s, ok) := smeSaeTxConfirm { s with sae := sae }
        if ok then s else { s with state := .failed }

def smeSaeOnConfirm (s : Sme) (body : Bytes) (status : UInt16) : Sme :=
  if status ≠ 0 then s
  else
    match mgmtParseAuthSaeConfirm body with
    | none => { s with state := .failed }
    | some (peerSc, confirm) =>
      if saeVerifyConfirm s.sae peerSc confirm then smeSaeEnterAuthed s
      else { s with state := .failed }

def smeSaeRxAuth (s : Sme) (h : MgmtHdr) : Sme :=
  if s.role ≠ .sta ∨ s.state ≠ .scanning then s
  else
    match mgmtParseAuth h.body with
    | none => s
    | some a =>
      if a.algo ≠ 3 then s
      else if a.txn = 1 ∧ s.saePhase = 1 then smeSaeOnCommit s h.body a.status
      else if a.txn = 2 ∧ s.saePhase = 2 then smeSaeOnConfirm s h.body a.status
      else s

/-- Authenticate with the BSS that was found, by the means the AKM asks for. -/
def startAuth (s : Sme) : Sme :=
  if s.akm = .sae then
    let (s, ok) := smeSaeTxCommit env s
    if ok then s else { s with state := .failed }
  else txMgmt s .authReq

/-- A configured SSID filters; without one the SSID of the BSS is adopted. -/
def announceSsid (s : Sme) (bi : BeaconInfo) : Option Sme :=
  if s.ssid.length ≠ 0 then (if bi.ssid = s.ssid then some s else none)
  else some { s with ssid := bi.ssid }

def rxBssAnnounce (s : Sme) (h : MgmtHdr) : Sme :=
  if s.role ≠ .sta ∨ s.state ≠ .scanning then s
  else if !macIsZero s.peer ∧ h.addr3 ≠ s.peer then s
  else
    match (mgmtParseBeacon h.body).bind fun bi => (announceSsid s bi).map fun s => (bi, s) with
    | none => s
    | some (bi, s) =>
      let s := { s with channel := if bi.channel ≠ 0 then bi.channel else s.channel
                        peer := h.addr3 }
      startAuth env
        (if s.pmfMode ≠ .disabled ∧ h.body.length > 12 then
          (pmfNegotiateIes s (h.body.drop 12)).1
        else s)

end SaeExchange

section Robust

/-- Whether a frame ends in a well-formed management MIC element. -/
def endsInMmie (frame : Bytes) : Bool :=
  decide (frame.length - 24 ≥ 18) && byteAt frame (frame.length - 18) = 76 &&
    byteAt frame (frame.length - 17) = 16

/-- A station without an association ignores the frame. -/
def teardown (s : Sme) : Sme :=
  if s.role = .sta ∧ s.state.code < SmeState.assoced.code then s
  else
    { s with mgmtProtHonored := s.mgmtProtHonored + 1, connected := false, state := .init }

/-- Unprotected frames are dropped under MFP, protected ones checked and replay-filtered. -/
def rxRobustMgmt (s : Sme) (frame : Bytes) : Sme :=
  let fc := getLe16 frame 0
  let body := frame.drop 24
  if !pmfIsRobustMgmt fc body then s
  else if s.mfpActive && !endsInMmie frame && !pmfRxUnprotectedOk fc body s.mfpActive then
    { s with mgmtUnprotDropped := s.mgmtUnprotDropped + 1 }
  else
    let honored (s : Sme) := if fcSubtype fc = 12 ∨ fcSubtype fc = 10 then teardown s else s
    if endsInMmie frame then
      let (r, igtk) := pmfGroupVerify s.igtk frame
      let s := { s with igtk := igtk }
      if r ≠ .ok then { s with mgmtProtBadmic := s.mgmtProtBadmic + 1 } else honored s
    else honored s

/-- Defend a live association: answer "come back later" and query the station. -/
def pmfApOnSpuriousReassoc (s : Sme) (src : MacAddr) : Sme :=
  if s.role ≠ .ap ∨ !s.mfpActive ∨ s.state ≠ .connected then s
  else if src ≠ s.peer then s
  else
    let s :=
      match pmfComebackIeBuild 8 1000 with
      | none => s
      | some ie =>
        { txInt s .reassocResp (putLe16 30 ++ ie) with
          saQueryComebacks := s.saQueryComebacks + 1 }
    let (q, req) := pmfSaQueryStart s.saQuery 4
    let s := { s with saQuery := q }
    match req with
    | none => s
    | some body => saQueryTx s body

def saQueryStaRespond (s : Sme) (body : Bytes) : Sme :=
  match pmfSaQueryRespond body 4 with
  | none => s
  | some r => saQueryTx s r

end Robust

section Actions

def baApOnAddbaReq (s : Sme) (body : Bytes) : Sme :=
  match baParseAddbaReq body with
  | none => s
  | some r =>
    let s := { s with baRecipient := true, baRecipTid := r.tid, baRecipBufsize := r.bufSize }
    match baBuildAddbaRsp 16 { dialogToken := r.dialogToken, status := 0, tid := r.tid,
                               amsdu := r.amsdu, immediate := r.immediate, bufSize := r.bufSize,
                               timeout := r.timeout } with
    | none => s
    | some rsp => txActionDot11 s rsp

/-- A refused request is answered with no medium time. -/
def addtsApOnReq (s : Sme) (body : Bytes) : Sme :=
  match addtsReqParse body with
  | none => s
  | some (dialog, req) =>
    let (adm, r) := qosAdmissionAdmitTspec s.admission req
    let ok := r = .ok
    let s := { s with admission := adm
                      addtsGrants := if ok then s.addtsGrants + 1 else s.addtsGrants
                      addtsDenials := if ok then s.addtsDenials else s.addtsDenials + 1 }
    let req := if ok then req else { req with mediumTime := 0 }
    match addtsRspBuild 62 dialog (if ok then 0 else 37) req with
    | none => s
    | some f => txInt s .addtsRsp f

def addtsStaOnResp (s : Sme) (body : Bytes) : Sme :=
  match addtsRspParse body with
  | none => s
  | some (_, status, granted) =>
    { s with addtsRespReceived := true, addtsLastStatus := status
             admission := if status = 0 then (qosAdmissionAdmitTspec s.admission granted).1
                          else s.admission }

def addtsOnDelts (s : Sme) (body : Bytes) : Sme :=
  match deltsParse body with
  | none => s
  | some (ts, _) => { s with admission := (qosAdmissionReleaseTs s.admission ts).1 }

def staOnAddbaRsp (s : Sme) (body : Bytes) : Sme :=
  if s.ba.state ≠ .pending then s
  else
    let (ba, st) := baOriginatorOnAddbaRsp s.ba body
    { s with baRxRsp := s.baRxRsp + 1, ba := ba
             baOk := if st = .ok ∨ ba.state = .established then s.baOk + 1 else s.baOk }

end Actions

end Rf2a4m1
