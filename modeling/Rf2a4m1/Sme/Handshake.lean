import Rf2a4m1.Sme.Auth
import Rf2a4m1.Sme.Ft

/-!
# Association and the 4-way handshake
-/

set_option autoImplicit false

namespace Rf2a4m1

open ByteString

section Ocv

/-- The peer's operating channel in a key data field must match ours. -/
def ocvOk (s : Sme) (kd : Bytes) : Bool :=
  match pmfOciKdeFind kd with
  | none => false
  | some oci => pmfOcvVerify oci s.ociLocal

end Ocv

section Ap

variable (env : Env)

/-- Learn the station; its Authentication always succeeds. -/
def apOnAuthReq (s : Sme) (src : MacAddr) : Sme :=
  { txMgmt { s with peer := src } .authResp with state := .authed }

/-- Answer, draw an ANonce and send the first message. -/
def apStartHandshake (s : Sme) : Sme :=
  let (anonce, s) := genNonce env (txAssocResp s) s.nonceSalt
  let s := { s with anonce := anonce, replay := s.replay + 1 }
  { txEapol env s smeKiM1 16 s.replay s.anonce [] with state := .fourWay }

/-- A peer whose protection policy does not fit is refused for good. -/
def apOnAssocReq (s : Sme) (ies : Bytes) : Sme :=
  let (s, st) := pmfNegotiateIes (apQosNegotiate s ies) ies
  if st ≠ pmfStatusSuccess then { s with state := .failed } else apStartHandshake env s

/-- Fresh group keys for the third message. -/
def apGroupKeys (s : Sme) : Sme :=
  let (gtk, s) := smeGenMaterial env s 16 (s.nonceSalt + 1)
  let s := { s with gtk := gtk }
  if !s.mfpActive then s
  else
    let (igtk, s) := smeGenMaterial env s 16 (s.nonceSalt + 3)
    let s := { s with igtk := pmfIgtkInstall igtk 4 0 }
    if !s.beaconProtEnabled then s
    else
      let (bigtk, s) := smeGenMaterial env s 16 (s.nonceSalt + 5)
      { s with bigtk := pmfIgtkInstall bigtk 6 0 }

/-- Pad to a multiple of eight octets: a marker, then zeros. -/
def padKeyData (kd : Bytes) : Bytes :=
  if kd.length % 8 = 0 then kd
  else kd ++ 0xdd :: List.replicate (7 - kd.length % 8) 0x00

/-- Key data of the third message. -/
def m3KeyData (s : Sme) : Bytes :=
  let gtkKde := gtkKdeBuild s.gtk 1
  if !s.mfpActive then gtkKde
  else
    let w := gtkKde ++ igtkKdeBuild s.igtk.key 4 0
    let w :=
      if s.beaconProtEnabled then
        appendIe smeKdeMax w fun c => pmfBigtkKdeBuild c s.bigtk.key 6 0
      else w
    let w := if s.ocvEnabled then appendIe smeKdeMax w fun c => pmfOciKdeBuild c s.ociLocal else w
    padKeyData
      (if s.tdAdvertise then appendIe smeKdeMax w fun c => pmfTdKdeBuild c s.tdAdvertBitmap else w)

def apSendM3 (s : Sme) : Sme :=
  let s := apGroupKeys env s
  let wrapped := env.keyWrap smeKdeMax (kek s.ptk) (m3KeyData s)
  if wrapped = [] then s
  else
    let s := { s with replay := s.replay + 1 }
    txEapol env s smeKiM3 16 s.replay s.anonce wrapped

/-- The PTK is derived from the received nonce before the MIC is checked. -/
def apOnM2 (s : Sme) (pdu : Bytes) : Sme :=
  if s.state ≠ .fourWay ∨ eapolReplay pdu ≠ s.replay then s
  else
    match smeEapolKeyDecode pdu with
    | none => s
    | some k =>
      let s := smeDerivePtk env { s with snonce := k.nonce }
      if !eapolMicOk env s pdu then { s with badMic := s.badMic + 1 }
      else if s.ocvEnabled && s.mfpActive && !ocvOk s k.keyData then
        { s with ocvFail := s.ocvFail + 1 }
      else apSendM3 env s

/-- Keys in place, link up, and PMK-R0 established when FT is on. -/
def connectAndEstablish (s : Sme) : Sme :=
  smeFtEstablish { s with connected := true, state := .connected }

def apOnM4 (s : Sme) (pdu : Bytes) : Sme :=
  if s.state ≠ .fourWay ∨ eapolReplay pdu ≠ s.replay then s
  else if (smeEapolKeyDecode pdu).isNone ∨ !eapolMicOk env s pdu then
    { s with badMic := s.badMic + 1 }
  else connectAndEstablish (smeInstallKeys s)

end Ap

section Sta

variable (env : Env)

/-- Key data of the second message. -/
def m2KeyData (s : Sme) : Bytes :=
  let w := appendIe 96 [] fun c => pmfRsneBuild c (pmfModeCaps s.pmfMode) (smeRsnAkm s)
  let w := if s.akm = .sae then w ++ rsnxeH2e else w
  if s.ocvEnabled && s.mfpActive then appendIe 96 w fun c => pmfOciKdeBuild c s.ociLocal else w

/-- A first message while associated gets a fresh SNonce, a later one the same. -/
def staSnonce (s : Sme) : Sme :=
  if s.state ≠ .assoced then s
  else
    let (snonce, s) := genNonce env s s.nonceSalt
    { s with snonce := snonce }

def staOnM1 (s : Sme) (pdu : Bytes) : Sme :=
  match smeEapolKeyDecode pdu with
  | none => s
  | some k =>
    let s := { s with eapolM1Rx := s.eapolM1Rx + 1, anonce := k.nonce, replay := k.replay }
    let s := smeDerivePtk env (staSnonce env s)
    let s := txEapol env s (smeKiM2 s) 0 s.replay s.snonce (m2KeyData s)
    { s with eapolM2Tx := s.eapolM2Tx + 1, state := .fourWay }

def earlyM1Max : Nat := 227

/-- A first message that comes too early is kept for later. -/
def staRxM1 (s : Sme) (pdu : Bytes) : Sme :=
  if (smeEapolKeyDecode pdu).isNone then s
  else if s.state ≠ .assoced ∧ s.state ≠ .fourWay then
    if pdu.length > earlyM1Max then s
    else { s with earlyM1 := some pdu, eapolM1Early := s.eapolM1Early + 1 }
  else staOnM1 env s pdu

/-- Only the first answer advances the ladder. -/
def staOnAuthResp (s : Sme) : Sme :=
  if s.state ≠ .scanning ∧ s.state ≠ .init then s else { txAssocReq s with state := .authed }

/-- Wait for the first message, or answer the one that came early. -/
def staAssoced (s : Sme) : Sme :=
  let s := { s with state := .assoced }
  match s.earlyM1 with
  | none => s
  | some pdu => staOnM1 env { s with earlyM1 := none } pdu

def staOnAssocResp (s : Sme) (ies : Bytes) : Sme :=
  let (s, st) := pmfNegotiateIes (staQosNegotiate s ies) ies
  if st ≠ pmfStatusSuccess then { s with state := .failed }
  else
    let (s, ok) := if s.akm = .owe then smeOweOnAssocResp s ies else (s, true)
    if ok then staAssoced env s else { s with state := .failed }

/-- Group management keys and policy from the key data of the third message. -/
def staM3Mfp (s : Sme) (kde : Bytes) : Sme :=
  let s :=
    match igtkKdeFind kde with
    | none => s
    | some (igtk, kid, ipn) => { s with igtk := pmfIgtkInstall igtk kid ipn }
  let s :=
    match if s.beaconProtEnabled then pmfBigtkKdeFind kde else none with
    | none => s
    | some (bigtk, kid, bipn) => { s with bigtk := pmfIgtkInstall bigtk kid bipn }
  let s := if s.ocvEnabled && !ocvOk s kde then { s with ocvFail := s.ocvFail + 1 } else s
  match pmfTdKdeFind kde with
  | none => s
  | some bitmap => { s with tdBitmap := bitmap, tdReceived := true }

/-- Take the group key, install, answer with the fourth message. -/
def staAcceptM3 (s : Sme) (replay : Nat) (gtk : Octets 16) : Sme :=
  let s := smeInstallKeys { s with replay := replay, gtk := gtk }
  let s := txEapol env s (smeKiM4 s) 0 s.replay (Octets.zero 32) []
  connectAndEstablish { s with eapolM4Tx := s.eapolM4Tx + 1 }

/-- Group keys are taken over before the operating channel is found to differ. -/
def staM3Keys (s : Sme) (replay : Nat) (kde : Bytes) : Sme :=
  match gtkKdeFind kde with
  | none => s
  | some gtk =>
    if !s.mfpActive then staAcceptM3 env s replay gtk
    else
      let s := staM3Mfp s kde
      if s.ocvEnabled && !ocvOk s kde then s else staAcceptM3 env s replay gtk

def staOnM3 (s : Sme) (pdu : Bytes) : Sme :=
  if s.state ≠ .fourWay then s
  else
    match smeEapolKeyDecode pdu with
    | none => s
    | some k =>
      if k.replay ≤ s.replay then s
      else if !eapolMicOk env s pdu then { s with badMic := s.badMic + 1 }
      else
        let s := { s with eapolM3Rx := s.eapolM3Rx + 1 }
        let kde := env.keyUnwrap smeKdeMax (kek s.ptk) k.keyData
        if kde = [] then { s with badMic := s.badMic + 1 } else staM3Keys env s k.replay kde

end Sta

end Rf2a4m1
