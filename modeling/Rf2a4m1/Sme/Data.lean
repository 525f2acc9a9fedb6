import Rf2a4m1.Sme.Keys

/-!
# Received data

The MIC is checked before the packet number. A payload that carries an
encapsulated direct link frame is relayed by an AP and handled by a station;
any other payload is delivered.
-/

set_option autoImplicit false

namespace Rf2a4m1

open ByteString

section Tdls

variable (env : Env)

def tdlsIsEncap (payload : Bytes) : Bool :=
  decide (payload.length ≥ 9) && slice payload 0 8 = tdlsSnapHdr && byteAt payload 8 = 0x02

def tdlsReset (s : Sme) : Sme := { s with tdls := TdlsPeer.empty, tdlsActive := false }

/-- Become the responder of a new link, unless one is in progress. -/
def tdlsRespond (s : Sme) (req : TdlsSetupReq) : Sme :=
  if !s.tdlsActive ∨ s.tdls.state = .idle ∨ s.tdls.state = .teardown then
    { s with tdls := tdlsPeerInit s.self req.lid.initAddr s.peer false req.dialogToken
                       req.keyLifetime
             tdlsActive := true }
  else s

/-- Keep the new link state and send what it answered. -/
def tdlsAnswer (s : Sme) (r : TdlsPeer × Option Bytes) : Sme :=
  match r.2 with
  | none => { s with tdls := r.1 }
  | some out => tdlsEncapTx env { s with tdls := r.1, tdlsRx := s.tdlsRx + 1 } out

def tdlsOnReq (s : Sme) (body : Bytes) : Sme :=
  match tdlsSetupReqParse body with
  | none => s
  | some req =>
    if req.lid.respAddr ≠ s.self ∨ req.lid.bssid ≠ s.peer then s
    else
      let s := tdlsRespond s req
      let (anonce, s) := smeGenMaterial env s 32 (s.nonceSalt ^^^ 0x7d15)
      tdlsAnswer env s (tdlsOnSetupReq s.tdls body anonce tdlsBodyMax)

def tdlsStaDeliver (s : Sme) (body : Bytes) : Sme :=
  if body.length < 3 then s
  else if byteAt body 2 = 0 then tdlsOnReq env s body
  else if byteAt body 2 = 1 then tdlsAnswer env s (tdlsOnSetupResp s.tdls body tdlsBodyMax)
  else if byteAt body 2 = 2 then
    let (p, ok) := tdlsOnSetupConfirm s.tdls body
    { s with tdls := p, tdlsRx := if ok then s.tdlsRx + 1 else s.tdlsRx }
  else if byteAt body 2 = 3 then
    let (p, ok) := tdlsOnTeardown s.tdls body
    if ok then tdlsReset { s with tdls := p, tdlsRx := s.tdlsRx + 1 } else { s with tdls := p }
  else s

end Tdls

section Receive

variable (env : Env)

/-- The message part of a protected frame. -/
def dataMsg (inp : Bytes) : Bytes := inp.take (inp.length - 16)

def dataMicOk (s : Sme) (inp : Bytes) : Bool :=
  (env.mic (tk s.ptk) (dataMsg inp)).bytes = inp.drop (inp.length - 16)

/-- Record a payload for the application. -/
def deliver (s : Sme) (payload : Bytes) : Sme :=
  { s with rxData := payload, dataRx := s.dataRx + 1 }

/-- What follows header and packet number goes to the direct link or to the application. -/
def routeData (sib : Siblings) (s : Sme) (payload : Bytes) : Sme × Siblings :=
  if tdlsIsEncap payload then
    if s.role = .ap then
      match sib.tdlsRelay with
      | none => (s, sib)
      | some r =>
        ({ s with tdlsRelayed := s.tdlsRelayed + 1 },
          { sib with tdlsRelay := some (tdlsEncapTx env r (payload.drop 8)) })
    else (tdlsStaDeliver env s (payload.drop 8), sib)
  else if payload.length > smeDataMax then (s, sib)
  else (deliver s payload, sib)

/-- Frames without QoS share one replay slot. -/
def rxData (sib : Siblings) (s : Sme) (inp : Bytes) : Sme × Siblings :=
  if s.state ≠ .connected ∨ inp.length < smePfxLen + 6 + 16 then (s, sib)
  else if !dataMicOk env s inp then ({ s with badMic := s.badMic + 1 }, sib)
  else
    let pn := getPn48 inp smePfxLen
    if !pnReplayOk s.dataRxReplay pnReplayNonQos pn then
      ({ s with dataReplay := s.dataReplay + 1 }, sib)
    else
      routeData env sib { s with dataRxReplay := pnReplayCommit s.dataRxReplay pnReplayNonQos pn }
        ((dataMsg inp).drop (smePfxLen + 6))

/-- The TID of a QoS frame selects its replay slot. -/
def rxQosData (s : Sme) (inp : Bytes) : Sme :=
  if s.state ≠ .connected ∨ inp.length < smePfxLen + 2 + 6 + 16 then s
  else
    let payload := (dataMsg inp).drop (smePfxLen + 2 + 6)
    if payload.length > smeDataMax then s
    else if !dataMicOk env s inp then { s with badMic := s.badMic + 1 }
    else
      let qc := qosCtrlUnpack (getLe16 inp smePfxLen)
      let pn := getPn48 inp (smePfxLen + 2)
      if !pnReplayOk s.dataRxReplay qc.tid.toNat pn then { s with dataReplay := s.dataReplay + 1 }
      else
        deliver { s with dataRxReplay := pnReplayCommit s.dataRxReplay qc.tid.toNat pn
                         rxTid := qc.tid, rxAc := qosUpToAc qc.tid } payload

end Receive

end Rf2a4m1
