import Rf2a4m1.Sme.Core

/-!
# What a handler accepts

The checks a handler makes before it commits to a message, as predicates of
the message and the state, and what the handler does to the core either way.
-/

set_option autoImplicit false

namespace Rf2a4m1

open ByteString

section Keys

variable (s : Sme)

@[simp] theorem smeInstallKeys_core : (smeInstallKeys s).core = s.core.install := by
  unfold smeInstallKeys smeInstallDataKey SmeCore.install
  have sameKey : s.core.ptk = s.ptk := rfl
  by_cases same : (s.dataKeyValid && decide (s.installedTk = tk s.ptk)) = true
  · obtain ⟨valid, key⟩ := Bool.and_eq_true_iff.1 same
    have key := of_decide_eq_true key
    have valid' : s.core.dataKeyValid = true := valid
    have key' : s.core.installedTk = tk s.core.ptk := key
    simp only [valid, key, decide_true, Bool.and_self, if_true, valid', key', sameKey]
    simp only [Sme.core, valid, key]
  · have same' : ¬(s.core.dataKeyValid && decide (s.core.installedTk = tk s.core.ptk)) = true := same
    rw [if_neg same']
    show Sme.core (if (s.dataKeyValid && decide (s.installedTk = tk s.ptk)) = true then _ else _) = _
    rw [if_neg same]
    rfl

/-- PMK-R0 may become valid, nothing else changes. -/
theorem smeFtEstablish_core :
    ∃ valid, (smeFtEstablish s).core = { s.core with ftR0Valid := valid } ∧
      (valid = s.ftR0Valid ∨ s.ftEnabled = true) := by
  unfold smeFtEstablish
  split
  · exact ⟨s.ftR0Valid, rfl, Or.inl rfl⟩
  · rename_i enabled
    have enabled : s.ftEnabled = true := by simpa using enabled
    split
    · exact ⟨s.ftR0Valid, rfl, Or.inl rfl⟩
    · exact ⟨true, rfl, Or.inr enabled⟩

theorem connectAndEstablish_core :
    ∃ valid, (connectAndEstablish s).core =
      { s.core with connected := true, state := .connected, ftR0Valid := valid } := by
  obtain ⟨valid, established, _⟩ :=
    smeFtEstablish_core { s with connected := true, state := .connected }
  exact ⟨valid, established⟩

end Keys

section Handshake

variable (env : Env) (s : Sme)

/-- The first or second half of a key exchange is bound to the counter in force. -/
def apTakes (pdu : Bytes) : Bool := s.state = .fourWay && eapolReplay pdu = s.replay

/-- The AP with the nonce of the station taken over and the key derived from it. -/
def withSnonce (k : EapolKey) : Sme := smeDerivePtk env { s with snonce := k.nonce }

/-- The key data of a second message that the AP looks at. -/
def apReadsM2 (pdu : Bytes) : Option EapolKey :=
  if apTakes s pdu then smeEapolKeyDecode pdu else none

def apOcvRefuses (k : EapolKey) : Bool := s.ocvEnabled && s.mfpActive && !ocvOk s k.keyData

def apAcceptsM2 (pdu : Bytes) : Bool :=
  match apReadsM2 s pdu with
  | none => false
  | some k => eapolMicOk env (withSnonce env s k) pdu && !apOcvRefuses s k

def apAcceptsM4 (pdu : Bytes) : Bool :=
  apTakes s pdu && (smeEapolKeyDecode pdu).isSome && eapolMicOk env s pdu

/-- The third message the station reads: the counter rises and the MIC verifies. -/
def staReadsM3 (pdu : Bytes) : Option EapolKey :=
  if s.state = .fourWay then
    (smeEapolKeyDecode pdu).filter fun k => decide (s.replay < k.replay) && eapolMicOk env s pdu
  else none

def m3Kde (k : EapolKey) : Bytes := env.keyUnwrap smeKdeMax (kek s.ptk) k.keyData

/-- Counter, group key and key data of a third message that gets as far as the group keys. -/
def staTakesM3 (pdu : Bytes) : Option (Nat × Octets 16 × Bytes) :=
  (staReadsM3 env s pdu).bind fun k =>
    (gtkKdeFind (m3Kde env s k)).map fun gtk => (k.replay, gtk, m3Kde env s k)

/-- Operating channel validation is the last check. -/
def staAcceptsM3 (pdu : Bytes) : Bool :=
  match staTakesM3 env s pdu with
  | none => false
  | some (_, _, kde) => !(s.mfpActive && s.ocvEnabled && !ocvOk s kde)

end Handshake

section ApHandshake

variable (env : Env) (s : Sme)

theorem apOnAuthReq_core (src : MacAddr) :
    (apOnAuthReq s src).core = { s.core with peer := src, state := .authed } :=
  congrArg (fun c : SmeCore => { c with state := .authed }) (txMgmt_core { s with peer := src } _)

theorem apStartHandshake_core :
    ∃ anonce, (apStartHandshake env s).core =
      { s.core with anonce := anonce, replay := s.replay + 1, state := .fourWay } := by
  refine ⟨(genNonce env (txAssocResp s) s.nonceSalt).1, ?_⟩
  have sent : (genNonce env (txAssocResp s) s.nonceSalt).2.core = s.core := txAssocResp_core s
  unfold apStartHandshake
  refine (congrArg (fun c : SmeCore => { c with state := .fourWay }) (txEapol_core _ env _ _ _ _ _)).trans
    ?_
  exact congrArg (fun c : SmeCore =>
    { c with anonce := (genNonce env (txAssocResp s) s.nonceSalt).1, replay := s.replay + 1,
             state := .fourWay }) sent

/-- The policy is negotiated first; then the AP refuses or starts the handshake. -/
theorem apOnAssocReq_core (ies : Bytes) :
    (apOnAssocReq env s ies).core =
        { s.core with toSmePmf := (s.toSmePmf.negotiate ies).1, state := .failed } ∨
      (s.toSmePmf.negotiate ies).2 = pmfStatusSuccess ∧
        ∃ anonce, (apOnAssocReq env s ies).core =
          { s.core with toSmePmf := (s.toSmePmf.negotiate ies).1, anonce := anonce,
                        replay := s.replay + 1, state := .fourWay } := by
  have same : (apQosNegotiate s ies).toSmePmf = s.toSmePmf := by
    unfold apQosNegotiate
    split <;> rfl
  have sameReplay : (apQosNegotiate s ies).replay = s.replay :=
    congrArg (fun c : SmeCore => c.replay) (apQosNegotiate_core s ies)
  unfold apOnAssocReq
  rw [pmfNegotiateIes_eq, same]
  have qos : Sme.core { apQosNegotiate s ies with toSmePmf := (s.toSmePmf.negotiate ies).1 } =
      { s.core with toSmePmf := (s.toSmePmf.negotiate ies).1 } :=
    congrArg (fun c : SmeCore => { c with toSmePmf := (s.toSmePmf.negotiate ies).1 })
      (apQosNegotiate_core s ies)
  dsimp only
  split
  · left
    exact congrArg (fun c : SmeCore => { c with state := .failed }) qos
  · rename_i success
    right
    refine ⟨not_not.1 success, ?_⟩
    obtain ⟨anonce, started⟩ := apStartHandshake_core env
      { apQosNegotiate s ies with toSmePmf := (s.toSmePmf.negotiate ies).1 }
    refine ⟨anonce, started.trans ?_⟩
    rw [qos]
    exact congrArg (fun n => { s.core with toSmePmf := (s.toSmePmf.negotiate ies).1,
                                           anonce := anonce, replay := n + 1, state := .fourWay })
      sameReplay

theorem apGroupKeys_core :
    ∃ gtk igtk, (apGroupKeys env s).core = { s.core with gtk := gtk, igtk := igtk } ∧
      (s.mfpActive = false → igtk = s.igtk) := by
  unfold apGroupKeys
  dsimp only
  split
  · exact ⟨_, s.igtk, rfl, fun _ => rfl⟩
  · rename_i active
    have active : s.mfpActive = true := by simpa [smeGenMaterial, genNonce] using active
    split <;> exact ⟨_, _, rfl, fun inactive => absurd inactive (by rw [active]; decide)⟩

theorem apSendM3_core :
    ∃ gtk igtk replay, (apSendM3 env s).core =
        { s.core with gtk := gtk, igtk := igtk, replay := replay } ∧
      (s.mfpActive = false → igtk = s.igtk) := by
  obtain ⟨gtk, igtk, drawn, kept⟩ := apGroupKeys_core env s
  unfold apSendM3
  dsimp only
  split
  · exact ⟨gtk, igtk, s.replay, drawn, kept⟩
  · refine ⟨gtk, igtk, (apGroupKeys env s).replay + 1, ?_, kept⟩
    refine (txEapol_core _ env _ _ _ _ _).trans ?_
    exact congrArg (fun c : SmeCore => { c with replay := (apGroupKeys env s).replay + 1 }) drawn

theorem apTakes_iff {s : Sme} {pdu : Bytes} :
    apTakes s pdu = true ↔ ¬(s.state ≠ .fourWay ∨ eapolReplay pdu ≠ s.replay) := by
  simp [apTakes]

theorem apOnM2_eq (pdu : Bytes) :
    apOnM2 env s pdu =
      match apReadsM2 s pdu with
      | none => s
      | some k =>
        if !eapolMicOk env (withSnonce env s k) pdu then
          { withSnonce env s k with badMic := s.badMic + 1 }
        else if apOcvRefuses s k then { withSnonce env s k with ocvFail := s.ocvFail + 1 }
        else apSendM3 env (withSnonce env s k) := by
  unfold apOnM2 apReadsM2
  by_cases takes : apTakes s pdu = true
  · rw [if_neg (apTakes_iff.1 takes), if_pos takes]
    cases smeEapolKeyDecode pdu <;> rfl
  · rw [if_pos (by_contra fun h => takes (apTakes_iff.2 h)), if_neg takes]

/-- The key is derived in either case; the group keys are drawn when the message is accepted. -/
theorem apOnM2_core (pdu : Bytes) :
    (apReadsM2 s pdu = none ∧ (apOnM2 env s pdu).core = s.core) ∨
      ∃ k, apReadsM2 s pdu = some k ∧
        (apAcceptsM2 env s pdu = false ∧ (apOnM2 env s pdu).core = (withSnonce env s k).core ∨
          apAcceptsM2 env s pdu = true ∧ ∃ gtk igtk replay, (apOnM2 env s pdu).core =
              { (withSnonce env s k).core with gtk := gtk, igtk := igtk, replay := replay } ∧
            (s.mfpActive = false → igtk = s.igtk)) := by
  rw [apOnM2_eq]
  unfold apAcceptsM2
  cases apReadsM2 s pdu with
  | none => exact Or.inl ⟨rfl, rfl⟩
  | some k =>
    refine Or.inr ⟨k, rfl, ?_⟩
    dsimp only
    cases mic : eapolMicOk env (withSnonce env s k) pdu with
    | false => exact Or.inl ⟨rfl, rfl⟩
    | true =>
      cases refused : apOcvRefuses s k with
      | true => exact Or.inl ⟨rfl, rfl⟩
      | false =>
        obtain ⟨gtk, igtk, replay, sent, kept⟩ := apSendM3_core env (withSnonce env s k)
        exact Or.inr ⟨rfl, gtk, igtk, replay, sent, kept⟩

/-- The fourth message connects with whatever key is held when it is accepted. -/
theorem apOnM4_core (pdu : Bytes) :
    (apOnM4 env s pdu).core = s.core ∨
      apAcceptsM4 env s pdu = true ∧
        ∃ valid, (apOnM4 env s pdu).core = { s.core.connect with ftR0Valid := valid } := by
  unfold apOnM4 apAcceptsM4
  by_cases takes : apTakes s pdu = true
  · rw [if_neg (apTakes_iff.1 takes)]
    cases decoded : smeEapolKeyDecode pdu with
    | none => exact Or.inl (by simp; rfl)
    | some k =>
      cases mic : eapolMicOk env s pdu with
      | false => exact Or.inl (by simp; rfl)
      | true =>
        right
        obtain ⟨valid, up⟩ := connectAndEstablish_core (smeInstallKeys s)
        rw [smeInstallKeys_core] at up
        refine ⟨by simp [takes], valid, ?_⟩
        rw [if_neg (by simp)]
        exact up
  · left
    rw [if_pos (by_contra fun h => takes (apTakes_iff.2 h))]

end ApHandshake

section StaHandshake

variable (env : Env) (s : Sme)

/-- The station with nonces and counter of a first message taken over and the key derived. -/
def withAnonce (k : EapolKey) : Sme :=
  smeDerivePtk env (staSnonce env
    { s with eapolM1Rx := s.eapolM1Rx + 1, anonce := k.nonce, replay := k.replay })

theorem withAnonce_core (k : EapolKey) :
    ∃ snonce ptk, (withAnonce env s k).core =
      { s.core with anonce := k.nonce, snonce := snonce, replay := k.replay, ptk := ptk } := by
  unfold withAnonce staSnonce
  split
  · exact ⟨s.snonce, _, rfl⟩
  · exact ⟨_, _, rfl⟩

/-- The first message is answered, and the handshake has begun. -/
theorem staOnM1_core (pdu : Bytes) :
    (staOnM1 env s pdu).core = s.core ∨
      ∃ anonce snonce replay ptk, (staOnM1 env s pdu).core =
        { s.core with anonce := anonce, snonce := snonce, replay := replay, ptk := ptk,
                      state := .fourWay } := by
  unfold staOnM1
  cases smeEapolKeyDecode pdu with
  | none => exact Or.inl rfl
  | some k =>
    right
    obtain ⟨snonce, ptk, taken⟩ := withAnonce_core env s k
    refine ⟨k.nonce, snonce, k.replay, ptk, Eq.trans ?_
      (congrArg (fun c : SmeCore => { c with state := .fourWay }) taken)⟩
    exact congrArg (fun c : SmeCore => { c with state := .fourWay }) (txEapol_core _ env _ _ _ _ _)

theorem staRxM1_core (pdu : Bytes) :
    (staRxM1 env s pdu).core = s.core ∨
      (s.state = .assoced ∨ s.state = .fourWay) ∧
        ∃ anonce snonce replay ptk, (staRxM1 env s pdu).core =
          { s.core with anonce := anonce, snonce := snonce, replay := replay, ptk := ptk,
                        state := .fourWay } := by
  unfold staRxM1
  split
  · exact Or.inl rfl
  split
  · split <;> exact Or.inl rfl
  · rename_i associated
    have associated : s.state = .assoced ∨ s.state = .fourWay :=
      (not_and_or.1 associated).imp not_not.1 not_not.1
    rcases staOnM1_core env s pdu with same | taken
    · exact Or.inl same
    · exact Or.inr ⟨associated, taken⟩

theorem staOnAuthResp_core :
    (staOnAuthResp s).core = s.core ∨
      (s.state = .scanning ∨ s.state = .init) ∧
        (staOnAuthResp s).core = { s.core with state := .authed } := by
  unfold staOnAuthResp
  split
  · exact Or.inl rfl
  · rename_i waiting
    right
    refine ⟨(not_and_or.1 waiting).imp not_not.1 not_not.1, ?_⟩
    exact congrArg (fun c : SmeCore => { c with state := .authed }) (txAssocReq_core s)

theorem smeOweOnAssocResp_core (ies : Bytes) :
    ∃ pmk, (smeOweOnAssocResp s ies).1.core = { s.core with pmk := pmk } := by
  unfold smeOweOnAssocResp
  split
  · exact ⟨s.pmk, rfl⟩
  split
  · exact ⟨s.pmk, rfl⟩
  dsimp only
  split
  · exact ⟨s.pmk, rfl⟩
  split
  · exact ⟨s.pmk, rfl⟩
  · exact ⟨_, rfl⟩

/-- Association ends in ASSOCED, or in 4WAY when a first message had come early. -/
theorem staAssoced_core :
    (staAssoced env s).core = { s.core with state := .assoced } ∨
      ∃ anonce snonce replay ptk, (staAssoced env s).core =
        { s.core with anonce := anonce, snonce := snonce, replay := replay, ptk := ptk,
                      state := .fourWay } := by
  unfold staAssoced
  dsimp only
  split
  · exact Or.inl rfl
  · rename_i pdu _
    exact staOnM1_core env { { s with state := .assoced } with earlyM1 := none } pdu

/-- After the negotiation the association fails or is entered with an OWE key taken over. -/
theorem staOnAssocResp_core (ies : Bytes) :
    (staOnAssocResp env s ies).core =
        { s.core with toSmePmf := (s.toSmePmf.negotiate ies).1, state := .failed } ∨
      (s.toSmePmf.negotiate ies).2 = pmfStatusSuccess ∧ ∃ pmk, (s.akm ≠ .owe → pmk = s.pmk) ∧
        ((staOnAssocResp env s ies).core =
            { s.core with toSmePmf := (s.toSmePmf.negotiate ies).1, pmk := pmk, state := .failed } ∨
          (staOnAssocResp env s ies).core =
            { s.core with toSmePmf := (s.toSmePmf.negotiate ies).1, pmk := pmk,
                          state := .assoced } ∨
          ∃ anonce snonce replay ptk, (staOnAssocResp env s ies).core =
            { s.core with toSmePmf := (s.toSmePmf.negotiate ies).1, pmk := pmk, anonce := anonce,
                          snonce := snonce, replay := replay, ptk := ptk, state := .fourWay }) := by
  have quiet := staQosNegotiate_core s ies
  have samePmf : (staQosNegotiate s ies).toSmePmf = s.toSmePmf :=
    congrArg (fun c : SmeCore => c.toSmePmf) quiet
  have sameAkm : (staQosNegotiate s ies).akm = s.akm := congrArg (fun c : SmeCore => c.akm) quiet
  have samePmk : (staQosNegotiate s ies).pmk = s.pmk := congrArg (fun c : SmeCore => c.pmk) quiet
  unfold staOnAssocResp
  rw [pmfNegotiateIes_eq, samePmf]
  set t : Sme := { staQosNegotiate s ies with toSmePmf := (s.toSmePmf.negotiate ies).1 } with ht
  have tCore : t.core = { s.core with toSmePmf := (s.toSmePmf.negotiate ies).1 } :=
    congrArg (fun c : SmeCore => { c with toSmePmf := (s.toSmePmf.negotiate ies).1 }) quiet
  dsimp only
  split
  · left
    exact congrArg (fun c : SmeCore => { c with state := .failed }) tCore
  rename_i success
  right
  refine ⟨not_not.1 success, ?_⟩
  have associated (u : Sme) (pmk : Octets 32) (h : u.core = { t.core with pmk := pmk }) :
      (staAssoced env u).core = { s.core with toSmePmf := (s.toSmePmf.negotiate ies).1, pmk := pmk,
                                              state := .assoced } ∨
        ∃ anonce snonce replay ptk, (staAssoced env u).core =
          { s.core with toSmePmf := (s.toSmePmf.negotiate ies).1, pmk := pmk, anonce := anonce,
                        snonce := snonce, replay := replay, ptk := ptk, state := .fourWay } := by
    rw [tCore] at h
    rcases staAssoced_core env u with wait | ⟨anonce, snonce, replay, ptk, answered⟩
    · left
      rw [wait, h]
    · right
      refine ⟨anonce, snonce, replay, ptk, ?_⟩
      rw [answered, h]
  by_cases owe : t.akm = .owe
  · rw [if_pos owe]
    obtain ⟨pmk, derived⟩ := smeOweOnAssocResp_core t ies
    have isOwe : s.akm = .owe := sameAkm.symm.trans owe
    refine ⟨pmk, fun other => absurd isOwe other, ?_⟩
    split
    · exact Or.inr (associated _ pmk derived)
    · left
      rw [tCore] at derived
      exact congrArg (fun c : SmeCore => { c with state := .failed }) derived
  · rw [if_neg owe]
    exact ⟨s.pmk, fun _ => rfl, Or.inr (associated t s.pmk (by rw [tCore]; rfl))⟩

theorem staM3Mfp_core (kde : Bytes) :
    ∃ igtk, (staM3Mfp s kde).core = { s.core with igtk := igtk } ∧
      ((igtkKdeFind kde).isNone → igtk = s.igtk) := by
  obtain ⟨fails, eq⟩ := staM3Mfp_eq s kde
  refine ⟨pmfKeyOr s.igtk (igtkKdeFind kde), ?_, fun unnamed => ?_⟩
  · rw [eq]
    rfl
  · rw [Option.isNone_iff_eq_none.1 unnamed]
    rfl

theorem staM3Mfp_ocv (kde : Bytes) :
    ((staM3Mfp s kde).ocvEnabled && !ocvOk (staM3Mfp s kde) kde) =
      (s.ocvEnabled && !ocvOk s kde) := by
  obtain ⟨fails, eq⟩ := staM3Mfp_eq s kde
  rw [eq]
  rfl

theorem staAcceptM3_core (replay : Nat) (gtk : Octets 16) :
    ∃ valid, (staAcceptM3 env s replay gtk).core =
      { SmeCore.connect { s.core with replay := replay, gtk := gtk } with ftR0Valid := valid } := by
  let t := smeInstallKeys { s with replay := replay, gtk := gtk }
  have sent : (txEapol env t (smeKiM4 t) 0 t.replay (Octets.zero 32) []).core =
      SmeCore.install { s.core with replay := replay, gtk := gtk } :=
    (txEapol_core t env _ _ _ _ _).trans (smeInstallKeys_core _)
  obtain ⟨valid, up⟩ := connectAndEstablish_core
    { txEapol env t (smeKiM4 t) 0 t.replay (Octets.zero 32) [] with eapolM4Tx := t.eapolM4Tx + 1 }
  refine ⟨valid, up.trans ?_⟩
  exact congrArg (fun c : SmeCore =>
    { c with connected := true, state := .connected, ftR0Valid := valid }) sent

/-- The checks of a third message up to the key data. -/
theorem staOnM3_eq (pdu : Bytes) :
    (staOnM3 env s pdu).core = s.core ∨
      ∃ k, staReadsM3 env s pdu = some k ∧
        staOnM3 env s pdu =
          staM3Keys env { s with eapolM3Rx := s.eapolM3Rx + 1 } k.replay (m3Kde env s k) := by
  unfold staOnM3 staReadsM3
  by_cases waiting : s.state = .fourWay
  · rw [if_neg (not_not.2 waiting), if_pos waiting]
    cases smeEapolKeyDecode pdu with
    | none => exact Or.inl rfl
    | some k =>
      dsimp only
      by_cases stale : k.replay ≤ s.replay
      · rw [if_pos stale]
        exact Or.inl rfl
      rw [if_neg stale]
      cases mic : eapolMicOk env s pdu with
      | false => exact Or.inl rfl
      | true =>
        by_cases unwrapped : env.keyUnwrap smeKdeMax (kek s.ptk) k.keyData = []
        · left
          rw [if_neg (by decide), if_pos unwrapped]
          rfl
        · right
          refine ⟨k, by simp [Nat.lt_of_not_le stale], ?_⟩
          rw [if_neg (by decide), if_neg unwrapped]
          rfl
  · rw [if_pos waiting]
    exact Or.inl rfl

/-- The group management key can be taken over from a message that is not accepted. -/
theorem staOnM3_core (pdu : Bytes) :
    (staOnM3 env s pdu).core = s.core ∨
      ∃ replay gtk kde igtk, staTakesM3 env s pdu = some (replay, gtk, kde) ∧
        (s.mfpActive = false ∨ (igtkKdeFind kde).isNone → igtk = s.igtk) ∧
        (staAcceptsM3 env s pdu = false ∧
            (staOnM3 env s pdu).core = { s.core with igtk := igtk } ∨
          staAcceptsM3 env s pdu = true ∧ ∃ valid, (staOnM3 env s pdu).core =
            { SmeCore.connect { s.core with igtk := igtk, replay := replay, gtk := gtk } with
              ftR0Valid := valid }) := by
  rcases staOnM3_eq env s pdu with same | ⟨k, reads, eq⟩
  · exact Or.inl same
  rw [eq]
  unfold staAcceptsM3 staTakesM3 staM3Keys
  rw [reads, Option.bind_some]
  cases group : gtkKdeFind (m3Kde env s k) with
  | none => exact Or.inl rfl
  | some gtk =>
    right
    simp only [Option.map_some]
    cases active : s.mfpActive with
    | false =>
      obtain ⟨valid, up⟩ := staAcceptM3_core env { s with eapolM3Rx := s.eapolM3Rx + 1 } k.replay gtk
      exact ⟨k.replay, gtk, m3Kde env s k, s.igtk, rfl, fun _ => rfl, Or.inr ⟨rfl, valid, up⟩⟩
    | true =>
      obtain ⟨igtk, taken, kept⟩ :=
        staM3Mfp_core { s with eapolM3Rx := s.eapolM3Rx + 1 } (m3Kde env s k)
      refine ⟨k.replay, gtk, m3Kde env s k, igtk, rfl, ?_, ?_⟩
      · rintro (inactive | absent)
        · cases inactive
        · exact kept absent
      rw [staM3Mfp_ocv]
      have sameOcv : ocvOk { s with eapolM3Rx := s.eapolM3Rx + 1 } (m3Kde env s k) =
          ocvOk s (m3Kde env s k) := rfl
      rw [sameOcv]
      cases refused : (s.ocvEnabled && !ocvOk s (m3Kde env s k)) with
      | true => exact Or.inl ⟨by simp [refused], taken⟩
      | false =>
        right
        obtain ⟨valid, up⟩ := staAcceptM3_core env
          (staM3Mfp { s with eapolM3Rx := s.eapolM3Rx + 1 } (m3Kde env s k)) k.replay gtk
        rw [taken] at up
        exact ⟨by simp [refused], valid, up⟩

end StaHandshake

end Rf2a4m1
