import Rf2a4m1.Sme.Keys
import Rf2a4m1.Wire.Roam

/-!
# Fast transition

Over the air: Authentication, then Reassociation with a MIC over the fast
transition elements. Over the DS the first half is a request that the current
AP forwards to the target together with a pushed PMK-R1.
-/

set_option autoImplicit false

namespace Rf2a4m1

open ByteString

/-- Mobility domain element, FTE and what trails them. -/
structure FtParts where
  mdid : UInt16
  mde : Bytes
  fte : Bytes
  trailing : Bytes
deriving DecidableEq

def ftLocate (body : Bytes) : Option FtParts :=
  if body.length < 5 then none
  else
    (ftMdeParse body).bind fun (mdid, _) =>
      let fp := body.drop 5
      let felen := 2 + (byteAt fp 1).toNat
      if fp.length < 2 then none
      else if felen > fp.length then none
      else
        some { mdid := mdid, mde := body.take 5, fte := fp.take felen, trailing := fp.drop felen }

/-- The elements of a frame of our mobility domain, and the parsed FTE. -/
def ftLocateFte (s : Sme) (body : Bytes) (minTrailing : Nat) : Option (FtParts × FtFte) :=
  match ftLocate body with
  | none => none
  | some p =>
    if p.mdid ≠ s.ftMdid ∨ p.trailing.length < minTrailing then none
    else (ftFteParse p.fte).map fun f => (p, f)

section Build

def ftFillFte (s : Sme) (setAnonce setSnonce : Bool) (r1kh : Option MacAddr) : FtFte :=
  { elementCount := 3, mic := Octets.zero 16
    anonce := if setAnonce then s.ftAnonce else Octets.zero 32
    snonce := if setSnonce then s.ftSnonce else Octets.zero 32
    r1khId := r1kh
    r0khId := if s.ftR0khId.length = 0 then none else some s.ftR0khId }

def ftBuildMdeFte (s : Sme) (cap : Nat) (setAnonce setSnonce : Bool) (r1kh : Option MacAddr) :
    Option (Bytes × Bytes) :=
  (ftMdeBuild cap s.ftMdid 0x01).bind fun mde =>
    (ftFteBuild (cap - mde.length) (ftFillFte s setAnonce setSnonce r1kh)).map fun fte =>
      (mde, fte)

/-- OCI element, then RIC-Request; the first that does not fit ends the list. -/
def ftBuildReassocReqExtra (s : Sme) (cap : Nat) : Bytes :=
  match if s.ocvEnabled then pmfOciElementBuild cap s.ociLocal else some [] with
  | none => []
  | some w =>
    match s.ricRequest with
    | none => w
    | some t => w ++ (ricRequestBuild (cap - w.length) 1 [t]).getD []

end Build

section Send

def ftTx (s : Sme) (type : FrameType) (payload : Bytes) : Sme :=
  if payload.length > 300 then s else txInt s type payload

def ftTxAuth1 (s : Sme) : Sme :=
  match ftBuildMdeFte s 220 false true none with
  | none => s
  | some (mde, fte) =>
    if mde.length + fte.length + 16 > 220 then s
    else ftTx s .ftAuth1 (mde ++ fte ++ s.ftPmkR0Name.bytes)

def ftTxAuth2 (s : Sme) : Sme :=
  match ftBuildMdeFte s 220 true true (some s.self) with
  | none => s
  | some (mde, fte) => ftTx s .ftAuth2 (mde ++ fte)

/-- The MIC under the current PTK, or what the buffer held when the parts are out of scope. -/
def ftMic (env : Env) (s : Sme) (sta ap : MacAddr) (seq : UInt8) (mde fte extra : Bytes) :
    Octets 16 × Sme :=
  ((ftFteMic (kck s.ptk) sta ap seq mde fte s.ftPmkR1Name extra).getD (env.stackMic s.draws),
    { s with draws := s.draws + 1 })

def ftTxReassoc (env : Env) (s : Sme) (type : FrameType) (seq : UInt8) (r1kh : MacAddr)
    (extra : Bytes) : Sme :=
  match ftBuildMdeFte s 300 true true (some r1kh) with
  | none => s
  | some (mde, fte) =>
    if mde.length + fte.length + 16 + extra.length > 300 then s
    else
      let sta := if s.role = .sta then s.self else s.peer
      let (mic, s) := ftMic env s sta r1kh seq mde fte extra
      ftTx s type (mde ++ splice fte 4 mic.bytes ++ s.ftPmkR1Name.bytes ++ extra)

def ftTxReassocReq (env : Env) (s : Sme) : Sme :=
  ftTxReassoc env s .ftReassocReq 5 s.ftTarget (ftBuildReassocReqExtra s 220)

def ftTxDsRequest (s : Sme) : Sme :=
  match ftBuildMdeFte s 220 false true none with
  | none => s
  | some (mde, fte) =>
    if mde.length + fte.length + 16 > 220 then s
    else
      match ftActionReqBuild 280 s.self s.ftTarget (mde ++ fte ++ s.ftPmkR0Name.bytes) with
      | none => s
      | some body => txInt s .ftDsReq body

end Send

/-- PMK-R0 of the mobility domain; its holder is named by the station's address. -/
def smeFtEstablish (s : Sme) : Sme :=
  if !s.ftEnabled then s
  else
    match ftDerivePmkR0 s.pmk.bytes s.ftSsid s.ftMdid s.ftR0khId
        (if s.role = .sta then s.self else s.peer) with
    | none => s
    | some (r0, name) => { s with ftPmkR0 := r0, ftPmkR0Name := name, ftR0Valid := true }

section Ap

variable (env : Env)

/-- PMK-R1, a fresh ANonce and the PTK, once the name was found to match. -/
def ftApDerive (s : Sme) : Sme :=
  let (r1, r1Name) := ftDerivePmkR1 s.ftPmkR0 s.ftPmkR0Name s.self s.peer
  let (anonce, s) := smeGenMaterial env s 32 (s.nonceSalt + 10)
  { s with ftPmkR1 := r1, ftPmkR1Name := r1Name, ftAnonce := anonce
           ptk := ftDerivePtk r1 s.ftSnonce anonce s.self s.peer }

/-- The station is taken over as peer before its name is checked. -/
def ftApOnAuth1 (s : Sme) (src : MacAddr) (body : Bytes) : Sme :=
  match ftLocateFte s body 16 with
  | none => s
  | some (p, f) =>
    let s := { s with peer := src, ftSnonce := f.snonce }
    match ftDerivePmkR0 s.pmk.bytes s.ftSsid s.ftMdid s.ftR0khId s.peer with
    | none => s
    | some (r0, name) =>
      let s := { s with ftPmkR0 := r0, ftPmkR0Name := name, ftR0Valid := true }
      if name.bytes ≠ slice p.trailing 0 16 then s else ftTxAuth2 (ftApDerive env s)

/-- The first resource request element among the trailing ones. -/
def ricScan : Nat → Bytes → Option RicRequest
  | 0, _ => none
  | fuel + 1, region =>
    if region.length < 2 then none
    else
      let elen := (byteAt region 1).toNat
      if 2 + elen > region.length then none
      else if byteAt region 0 = 57 then
        (ricRequestParse region).filter fun rq => rq.tspecs.length ≥ 1
      else ricScan fuel (region.drop (2 + elen))

/-- Count the resources and build the answer, empty without a request. -/
def ftApRic (s : Sme) (region : Bytes) : Bytes × Sme :=
  match ricScan region.length region with
  | none => ([], s)
  | some rq =>
    let status := if s.ricApDeny then ricStatusDenied else ricStatusSuccess
    let n := rq.tspecs.length
    ((ricResponseBuild 128 rq.rdieId (rq.tspecs.map fun t => (t, status))).getD [],
      { s with ricApGrants := if s.ricApDeny then s.ricApGrants else s.ricApGrants + n
               ricApDenials := if s.ricApDeny then s.ricApDenials + n else s.ricApDenials })

/-- The keys are in place: the link is up without a 4-way handshake. -/
def ftConnect (s : Sme) : Sme :=
  { smeInstallKeys s with connected := true, ftCompleted := true, ftReassocs := s.ftReassocs + 1,
                          state := .connected }

/-- Answer an authenticated request: fresh group key, response, link up. -/
def ftApAccept (s : Sme) (region : Bytes) : Sme :=
  let (ricResp, s) := ftApRic s region
  let (gtk, s) := smeGenMaterial env s 16 (s.nonceSalt + 21)
  let s := { s with gtk := gtk }
  let wrapped := env.keyWrap smeKdeMax (kek s.ptk) (gtkKdeBuild s.gtk 1)
  if wrapped = [] then s
  else ftConnect (ftTxReassoc env s .ftReassocResp 6 s.self (ricResp ++ wrapped))

def ftApOcvOk (s : Sme) (region : Bytes) : Bool :=
  !s.ocvEnabled || ((pmfOciElementParse region).map fun oci => pmfOcvVerify oci s.ociLocal) = some true

def ftApOnReassoc (s : Sme) (body : Bytes) : Sme :=
  match ftLocateFte s body 16 with
  | none => s
  | some (p, f) =>
    if slice p.trailing 0 16 ≠ s.ftPmkR1Name.bytes then s
    else
      let region := p.trailing.drop 16
      let (mic, s) := ftMic env s s.peer s.self 5 p.mde p.fte region
      if mic ≠ f.mic then { s with badMic := s.badMic + 1 }
      else if !ftApOcvOk s region then { s with ocvFail := s.ocvFail + 1 }
      else ftApAccept env s region

/-- The target side of a push over the DS: take the PMK-R1 over and answer. -/
def ftDsTargetProcess (t : Sme) (sta target : MacAddr) (snonce pmkR1 : Octets 32)
    (pmkR1Name : Octets 16) (respCap : Nat) : Sme × Option Bytes :=
  if !t.ftEnabled ∨ target ≠ t.self then (t, none)
  else
    let t := { t with peer := sta, ftSnonce := snonce, ftPmkR1 := pmkR1, ftPmkR1Name := pmkR1Name }
    let (anonce, t) := smeGenMaterial env t 32 (t.nonceSalt + 12)
    let t := { t with ftAnonce := anonce, ptk := ftDerivePtk pmkR1 snonce anonce t.self sta }
    match ftBuildMdeFte t 220 true true (some t.self) with
    | none => (t, none)
    | some (mde, fte) =>
      if mde.length + fte.length + 16 > 220 then (t, none)
      else (t, ftActionRespBuild respCap sta t.self 0 (mde ++ fte ++ pmkR1Name.bytes))

/-- Push a PMK-R1 to the target and forward its answer to the station. -/
def ftApOnDsRequest (sib : Siblings) (s : Sme) (body : Bytes) : Sme × Siblings :=
  match ftActionReqParse body with
  | none => (s, sib)
  | some req =>
    match ftLocate req.elems with
    | none => (s, sib)
    | some p =>
      if p.mdid ≠ s.ftMdid ∨ p.trailing.length < 16 ∨ !s.ftR0Valid then (s, sib)
      else
        match sib.ftDsTarget with
        | none => (s, sib)
        | some t =>
          match ftFteParse p.fte with
          | none => (s, sib)
          | some f =>
            if slice p.trailing 0 16 ≠ s.ftPmkR0Name.bytes then (s, sib)
            else
              let (r1, r1Name) :=
                ftDerivePmkR1 s.ftPmkR0 s.ftPmkR0Name req.targetAddr req.staAddr
              let (t, resp) :=
                ftDsTargetProcess env t req.staAddr req.targetAddr f.snonce r1 r1Name 260
              let sib := { sib with ftDsTarget := some t }
              match resp with
              | none => (s, sib)
              | some resp => (ftTx s .ftDsResp resp, sib)

end Ap

section Sta

variable (env : Env)

/-- Derive the keys of the target from its ANonce and ask it to reassociate. -/
def ftStaDerive (s : Sme) (anonce : Octets 32) : Sme :=
  let (r1, r1Name) := ftDerivePmkR1 s.ftPmkR0 s.ftPmkR0Name s.ftTarget s.self
  ftTxReassocReq env
    { s with ftAnonce := anonce, ftPmkR1 := r1, ftPmkR1Name := r1Name
             ptk := ftDerivePtk r1 s.ftSnonce anonce s.ftTarget s.self }

/-- The AP must echo our SNonce. -/
def ftStaOnAuth2 (s : Sme) (body : Bytes) : Sme :=
  match ftLocateFte s body 0 with
  | none => s
  | some (_, f) => if f.snonce ≠ s.ftSnonce then s else ftStaDerive env s f.anonce

def ftStaOnDsResponse (s : Sme) (body : Bytes) : Sme :=
  match ftActionRespParse body with
  | none => s
  | some resp => if resp.status ≠ 0 then s else ftStaOnAuth2 env s resp.elems

/-- Take a leading RIC-Response off, when one was asked for. -/
def ftStaRic (s : Sme) (region : Bytes) : Bytes × Sme :=
  if s.ricRequest.isNone then (region, s)
  else
    match ricResponseParse region with
    | some ({ resources := (status, granted) :: _, .. }, rest) =>
      (rest, { s with ricRespReceived := true, ricStatus := status, ricGranted := granted.isSome
                      ricGrantedTspec := granted.getD s.ricGrantedTspec })
    | _ => (region, s)

def ftStaOnReassoc (s : Sme) (body : Bytes) : Sme :=
  match ftLocateFte s body 16 with
  | none => s
  | some (p, f) =>
    let region := p.trailing.drop 16
    let (mic, s) := ftMic env s s.self s.ftTarget 6 p.mde p.fte region
    if mic ≠ f.mic then { s with badMic := s.badMic + 1 }
    else
      let (wrapped, s) := ftStaRic s region
      let kde := env.keyUnwrap smeKdeMax (kek s.ptk) wrapped
      if kde = [] then { s with badMic := s.badMic + 1 }
      else
        match gtkKdeParse kde with
        | none => s
        | some gtk => ftConnect { s with gtk := gtk, peer := s.ftTarget }

/-- Start a roam: forget the last one and draw an SNonce. -/
def ftRoamStart (s : Sme) (target : MacAddr) (salt : UInt64) : Sme :=
  let s := { s with ftTarget := target, ftCompleted := false, ricRespReceived := false,
                    ricGranted := false }
  let (snonce, s) := smeGenMaterial env s 32 salt
  { s with ftSnonce := snonce }

def ftRoamAllowed (s : Sme) : Bool :=
  s.role = .sta && s.ftEnabled && s.ftR0Valid && s.state = .connected

def smeFtRoam (s : Sme) (target : MacAddr) : Sme × S8021xStatus :=
  if !ftRoamAllowed s then (s, .errState)
  else (ftTxAuth1 (ftRoamStart env s target (s.nonceSalt + 30)), .ok)

def smeFtRoamOverDs (s : Sme) (target : MacAddr) : Sme × S8021xStatus :=
  if !ftRoamAllowed s then (s, .errState)
  else (ftTxDsRequest (ftRoamStart env s target (s.nonceSalt + 40)), .ok)

end Sta

end Rf2a4m1
