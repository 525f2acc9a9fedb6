import Rf2a4m1.Sme.Exchange

/-!
# What a step does to the core

An operation amounts to an event, and `Effect` lists what each event can do to
the core, with the checks passed on the way. `smeStep_effect` says that every
step of the state machine is in the list.
-/

set_option autoImplicit false

namespace Rf2a4m1

open ByteString

/-- What an operation amounts to for the core. -/
inductive SmeEvent where
  | quiet
  | robust (frame : Bytes)
  | announce (h : MgmtHdr)
  | sae (h : MgmtHdr)
  | refused
  | handle (type : FrameType) (inp : Bytes)
  | set (c : SmeSetting)
  | connectStart
  | send
  | groupTx
  | ftEstablish
  | dsPush (sta target : MacAddr) (snonce pmkR1 : Octets 32)

def RxKind.event (frame : Bytes) : RxKind → SmeEvent
  | .robust => .robust frame
  | .announce h => .announce h
  | .sae h => .sae h
  | .refused => .refused
  | .handle _ type inp => .handle type inp
  | _ => .quiet

def smeEvent (s : Sme) : SmeOp → SmeEvent
  | .rx _ frame => (rxKind s frame).event frame
  | .rxMgmt frame => if frame.length < 24 then .quiet else .robust frame
  | .set c => .set c
  | .connectStart => .connectStart
  | .dataTx _ | .dataTxQos _ _ | .relay _ => .send
  | .txProtectedDeauth _ | .txProtectedDisassoc _ => .groupTx
  | .ftEstablish => .ftEstablish
  | .dsPush sta target snonce pmkR1 _ => .dsPush sta target snonce pmkR1
  | _ => .quiet

/-- An event that carries nothing which would be taken over if it were read. -/
def Idle (s : Sme) : SmeEvent → Prop
  | .sae h => saeTakesCommit s h = none ∧ saeTakesConfirm s h = false
  | .handle .m2 inp => s.role = .ap → apReadsM2 s (frameBody inp) = none
  | .handle .ftAuth1 inp =>
    s.role = .ap → s.ftEnabled = true → ftApAuth1Names s (frameSrc inp) (frameBody inp) = none
  | .dsPush _ target _ _ => ¬(s.ftEnabled = true ∧ target = s.self)
  | _ => True

/-- The core after an event, by the checks that were passed. -/
inductive Effect (env : Env) (s : Sme) : SmeEvent → SmeCore → Prop where
  | unchanged (e : SmeEvent) (idle : Idle s e) : Effect env s e s.core
  | refused : Effect env s .refused { s.core with state := .failed }
  | groupSeen {frame : Bytes} (fresh : mmieFresh s frame = true) :
      Effect env s (.robust frame) { s.core with igtk := igtkSeen s frame }
  | tornProtected {frame : Bytes} (fresh : mmieFresh s frame = true) :
      Effect env s (.robust frame)
        { s.core with igtk := igtkSeen s frame, connected := false, state := .init }
  | tornPlain {frame : Bytes} (inactive : s.mfpActive = false ∧ endsInMmie frame = false) :
      Effect env s (.robust frame) { s.core with connected := false, state := .init }
  | announced {h : MgmtHdr} (role : s.role = .sta) (scanning : s.state = .scanning)
      (pmf : SmePmf) (peer : MacAddr) (sae : Sae) (phase : Nat) (state : SmeState)
      (policy : pmf = s.toSmePmf ∨ pmf = (s.toSmePmf.negotiate (h.body.drop 12)).1)
      (outcome : state = .scanning ∧ (s.akm = .sae → phase = 1) ∨ state = .failed) :
      Effect env s (.announce h)
        { s.core with toSmePmf := pmf, peer := peer, sae := sae, saePhase := phase,
                      state := state }
  | saeFailed {h : MgmtHdr} (scanning : s.state = .scanning)
      (idle : saeTakesCommit s h = none ∧ saeTakesConfirm s h = false) :
      Effect env s (.sae h) { s.core with state := .failed }
  | saeCommit {h : MgmtHdr} (scanning : s.state = .scanning) (sae : Sae)
      (taken : saeTakesCommit s h = some sae) :
      Effect env s (.sae h) { s.core with sae := sae, saePhase := 2 }
  | saeCommitFailed {h : MgmtHdr} (scanning : s.state = .scanning) (sae : Sae)
      (taken : saeTakesCommit s h = some sae) :
      Effect env s (.sae h) { s.core with sae := sae, state := .failed }
  | saeConfirm {h : MgmtHdr} (scanning : s.state = .scanning)
      (noCommit : saeTakesCommit s h = none) (verified : saeTakesConfirm s h = true) :
      Effect env s (.sae h)
        { s.core with pmk := s.sae.pmk, saeOk := true, saePhase := 3, state := .authed }
  | apAuthReq {inp : Bytes} (role : s.role = .ap) :
      Effect env s (.handle .authReq inp)
        { s.core with peer := frameSrc inp, state := .authed }
  | apAssocRefused {inp : Bytes} (role : s.role = .ap) :
      Effect env s (.handle .assocReq inp)
        { s.core with toSmePmf := (s.toSmePmf.negotiate (frameBody inp)).1, state := .failed }
  | apAssocReq {inp : Bytes} (role : s.role = .ap)
      (success : (s.toSmePmf.negotiate (frameBody inp)).2 = pmfStatusSuccess)
      (anonce : Octets 32) :
      Effect env s (.handle .assocReq inp)
        { s.core with toSmePmf := (s.toSmePmf.negotiate (frameBody inp)).1, anonce := anonce,
                      replay := s.replay + 1, state := .fourWay }
  | apM2Refused {inp : Bytes} (role : s.role = .ap) (k : EapolKey)
      (reads : apReadsM2 s (frameBody inp) = some k)
      (refused : apAcceptsM2 env s (frameBody inp) = false) :
      Effect env s (.handle .m2 inp) (withSnonce env s k).core
  | apM2 {inp : Bytes} (role : s.role = .ap) (k : EapolKey)
      (reads : apReadsM2 s (frameBody inp) = some k)
      (accepts : apAcceptsM2 env s (frameBody inp) = true)
      (gtk : Octets 16) (igtk : PmfIgtk) (replay : Nat)
      (kept : s.mfpActive = false → igtk = s.igtk) :
      Effect env s (.handle .m2 inp)
        { (withSnonce env s k).core with gtk := gtk, igtk := igtk, replay := replay }
  | apM4 {inp : Bytes} (role : s.role = .ap) (accepts : apAcceptsM4 env s (frameBody inp) = true)
      (valid : Bool) :
      Effect env s (.handle .m4 inp) { s.core.connect with ftR0Valid := valid }
  | apFtAuth1Unnamed {inp : Bytes} (role : s.role = .ap) (enabled : s.ftEnabled = true)
      (unnamed : ftApAuth1Names s (frameSrc inp) (frameBody inp) = none) (valid : Bool) :
      Effect env s (.handle .ftAuth1 inp)
        { s.core with peer := frameSrc inp, ftR0Valid := valid }
  | apFtAuth1 {inp : Bytes} (role : s.role = .ap) (enabled : s.ftEnabled = true)
      (r0 : Octets 32 × Octets 16) (snonce anonce : Octets 32)
      (named : ftApAuth1Names s (frameSrc inp) (frameBody inp) = some (r0, snonce)) :
      Effect env s (.handle .ftAuth1 inp)
        { s.core with peer := frameSrc inp, ftR0Valid := true
                      ptk := ftApAuth1Ptk s (frameSrc inp) r0 snonce anonce }
  | apFtReassocHeld {inp : Bytes} (role : s.role = .ap) (enabled : s.ftEnabled = true)
      (accepts : ftApAcceptsReassoc env s (frameBody inp) = true) (gtk : Octets 16) :
      Effect env s (.handle .ftReassocReq inp) { s.core with gtk := gtk }
  | apFtReassoc {inp : Bytes} (role : s.role = .ap) (enabled : s.ftEnabled = true)
      (accepts : ftApAcceptsReassoc env s (frameBody inp) = true) (gtk : Octets 16) :
      Effect env s (.handle .ftReassocReq inp) (SmeCore.connect { s.core with gtk := gtk })
  | staProbeResp {inp : Bytes} (role : s.role = .sta) (scanning : s.state = .scanning)
      (sae : Sae) (phase : Nat) (state : SmeState)
      (outcome : state = .scanning ∧ (s.akm = .sae → phase = 1) ∨ state = .failed) :
      Effect env s (.handle .probeResp inp)
        { s.core with peer := frameSrc inp, sae := sae, saePhase := phase, state := state }
  | staAuthResp {inp : Bytes} (role : s.role = .sta)
      (waiting : s.state = .scanning ∨ s.state = .init) :
      Effect env s (.handle .authResp inp) { s.core with state := .authed }
  | staAssocRefused {inp : Bytes} (role : s.role = .sta) (pmk : Octets 32)
      (kept : s.akm ≠ .owe → pmk = s.pmk) :
      Effect env s (.handle .assocResp inp)
        { s.core with toSmePmf := (s.toSmePmf.negotiate (frameBody inp)).1, pmk := pmk,
                      state := .failed }
  | staAssocResp {inp : Bytes} (role : s.role = .sta)
      (success : (s.toSmePmf.negotiate (frameBody inp)).2 = pmfStatusSuccess)
      (pmk : Octets 32) (kept : s.akm ≠ .owe → pmk = s.pmk) :
      Effect env s (.handle .assocResp inp)
        { s.core with toSmePmf := (s.toSmePmf.negotiate (frameBody inp)).1, pmk := pmk,
                      state := .assoced }
  | staAssocRespM1 {inp : Bytes} (role : s.role = .sta)
      (success : (s.toSmePmf.negotiate (frameBody inp)).2 = pmfStatusSuccess)
      (pmk : Octets 32) (kept : s.akm ≠ .owe → pmk = s.pmk)
      (anonce snonce : Octets 32) (replay : Nat) (ptk : Octets 48) :
      Effect env s (.handle .assocResp inp)
        { s.core with toSmePmf := (s.toSmePmf.negotiate (frameBody inp)).1, pmk := pmk,
                      anonce := anonce, snonce := snonce, replay := replay, ptk := ptk,
                      state := .fourWay }
  | staM1 {inp : Bytes} (role : s.role = .sta)
      (associated : s.state = .assoced ∨ s.state = .fourWay)
      (anonce snonce : Octets 32) (replay : Nat) (ptk : Octets 48) :
      Effect env s (.handle .m1 inp)
        { s.core with anonce := anonce, snonce := snonce, replay := replay, ptk := ptk,
                      state := .fourWay }
  | staM3Refused {inp : Bytes} (role : s.role = .sta) (replay : Nat) (gtk : Octets 16)
      (kde : Bytes) (igtk : PmfIgtk)
      (taken : staTakesM3 env s (frameBody inp) = some (replay, gtk, kde))
      (refused : staAcceptsM3 env s (frameBody inp) = false)
      (kept : s.mfpActive = false ∨ (igtkKdeFind kde).isNone → igtk = s.igtk) :
      Effect env s (.handle .m3 inp) { s.core with igtk := igtk }
  | staM3 {inp : Bytes} (role : s.role = .sta) (replay : Nat) (gtk : Octets 16)
      (kde : Bytes) (igtk : PmfIgtk)
      (taken : staTakesM3 env s (frameBody inp) = some (replay, gtk, kde))
      (accepts : staAcceptsM3 env s (frameBody inp) = true)
      (kept : s.mfpActive = false ∨ (igtkKdeFind kde).isNone → igtk = s.igtk) (valid : Bool) :
      Effect env s (.handle .m3 inp)
        { SmeCore.connect { s.core with igtk := igtk, replay := replay, gtk := gtk } with
          ftR0Valid := valid }
  | answered {inp : Bytes} (up : s.state = .connected) (direct : carriesTdls inp = true) :
      Effect env s (.handle .data inp) (s.core.send s.halBound)
  | staFtAuth2 {inp : Bytes} (role : s.role = .sta) (valid : s.ftR0Valid = true)
      (echoes : (ftStaAuth2Echoes s (frameBody inp)).isSome = true) (ptk : Octets 48) :
      Effect env s (.handle .ftAuth2 inp) { s.core with ptk := ptk }
  | staFtDsResp {inp : Bytes} (role : s.role = .sta) (valid : s.ftR0Valid = true)
      (echoes : (ftStaDsEchoes s (frameBody inp)).isSome = true) (ptk : Octets 48) :
      Effect env s (.handle .ftDsResp inp) { s.core with ptk := ptk }
  | staFtReassoc {inp : Bytes} (role : s.role = .sta) (valid : s.ftR0Valid = true)
      (mic : ftStaReassocMicOk env s (frameBody inp) = true) (gtk : Octets 16) :
      Effect env s (.handle .ftReassocResp inp)
        (SmeCore.connect { s.core with gtk := gtk, peer := s.ftTarget })
  | peerSet (m : MacAddr) : Effect env s (.set (.peer m)) { s.core with peer := m }
  | pmfSet (mode : PmfMode) : Effect env s (.set (.pmf mode)) { s.core with pmfMode := mode }
  | ftSet (mdid : UInt16) (ssid r0khId : Bytes) :
      Effect env s (.set (.ft mdid ssid r0khId)) { s.core with ftEnabled := true }
  | connectStart (role : s.role = .sta) :
      Effect env s .connectStart { s.core with state := .scanning }
  | sent (up : s.state = .connected) : Effect env s .send (s.core.send s.halBound)
  | groupTx (ipn : Nat) :
      Effect env s .groupTx { s.core with igtk := { s.igtk with ipnTx := ipn } }
  | ftEstablish (valid : Bool) (enabled : valid = s.ftR0Valid ∨ s.ftEnabled = true) :
      Effect env s .ftEstablish { s.core with ftR0Valid := valid }
  | dsPush {sta target : MacAddr} {snonce pmkR1 : Octets 32} (enabled : s.ftEnabled = true)
      (mine : target = s.self) (anonce : Octets 32) :
      Effect env s (.dsPush sta target snonce pmkR1)
        { s.core with peer := sta, ptk := ftDerivePtk pmkR1 snonce anonce s.self sta }

section Receive

variable (env : Env) (sib : Siblings) (s : Sme)

theorem Effect.of_eq {e : SmeEvent} {c d : SmeCore} (h : Effect env s e c) (eq : d = c) :
    Effect env s e d := eq ▸ h

theorem Effect.quiet_eq {c : SmeCore} (h : Effect env s .quiet c) : c = s.core := by
  cases h
  rfl

theorem apHandle_effect (role : s.role = .ap) (type : FrameType) (inp : Bytes) :
    Effect env s (.handle type inp)
      (apHandle env s type (frameSrc inp) inp (frameBody inp)).core := by
  have quiet {d : SmeCore} (idle : Idle s (.handle type inp)) (eq : d = s.core) :
      Effect env s (.handle type inp) d :=
    Effect.of_eq env s (Effect.unchanged _ idle) eq
  cases type with
  | probeReq => exact quiet trivial (txMgmt_core s _)
  | authReq => exact Effect.of_eq env s (Effect.apAuthReq role) (apOnAuthReq_core s _)
  | assocReq =>
    rcases apOnAssocReq_core env s (frameBody inp) with refused | ⟨success, anonce, started⟩
    · exact Effect.of_eq env s (Effect.apAssocRefused role) refused
    · exact Effect.of_eq env s (Effect.apAssocReq role success anonce) started
  | m2 =>
    rcases apOnM2_core env s (frameBody inp) with
      ⟨idle, same⟩ | ⟨k, reads, ⟨no, eq⟩ | ⟨yes, gtk, igtk, replay, eq, kept⟩⟩
    · exact quiet (fun _ => idle) same
    · exact Effect.of_eq env s (Effect.apM2Refused role k reads no) eq
    · exact Effect.of_eq env s (Effect.apM2 role k reads yes gtk igtk replay kept) eq
  | m4 =>
    rcases apOnM4_core env s (frameBody inp) with same | ⟨accepts, valid, eq⟩
    · exact quiet trivial same
    · exact Effect.of_eq env s (Effect.apM4 role accepts valid) eq
  | qosData => exact quiet trivial (rxQosData_core env s inp)
  | ftAuth1 =>
    unfold apHandle
    dsimp only
    split
    · rename_i enabled
      rcases ftApOnAuth1_core env s (frameSrc inp) (frameBody inp) with
        ⟨unnamed, same | ⟨valid, eq⟩⟩ | ⟨r0, snonce, anonce, named, eq⟩
      · exact quiet (fun _ _ => unnamed) same
      · exact Effect.of_eq env s (Effect.apFtAuth1Unnamed role enabled unnamed valid) eq
      · exact Effect.of_eq env s (Effect.apFtAuth1 role enabled r0 snonce anonce named) eq
    · rename_i disabled
      exact quiet (fun _ enabled => absurd enabled disabled) rfl
  | ftReassocReq =>
    unfold apHandle
    dsimp only
    split
    · rename_i enabled
      rcases ftApOnReassoc_core env s (frameBody inp) with same | ⟨accepts, gtk, eq | eq⟩
      · exact quiet trivial same
      · exact Effect.of_eq env s (Effect.apFtReassocHeld role enabled accepts gtk) eq
      · exact Effect.of_eq env s (Effect.apFtReassoc role enabled accepts gtk) eq
    · exact quiet trivial rfl
  | addbaReq => exact quiet trivial (baApOnAddbaReq_core s _)
  | addtsReq => exact quiet trivial (addtsApOnReq_core s _)
  | delts => exact quiet trivial (addtsOnDelts_core s _)
  | reassocReq => exact quiet trivial (pmfApOnSpuriousReassoc_core s _)
  | saQueryResp => exact quiet trivial (apOnSaQueryResp_core s _)
  | saQueryReq => exact quiet trivial (saQueryRespond_core s _)
  | _ => exact quiet trivial rfl

theorem staOnProbeResp_effect (role : s.role = .sta) (inp : Bytes) :
    Effect env s (.handle .probeResp inp) (staOnProbeResp env s (frameSrc inp)).core := by
  unfold staOnProbeResp
  split
  · exact Effect.unchanged _ trivial
  · rename_i scanning
    have scanning : s.state = .scanning := not_not.1 scanning
    obtain ⟨sae, phase, state, eq, outcome⟩ := startAuth_core env { s with peer := frameSrc inp }
    have outcome : state = .scanning ∧ (s.akm = .sae → phase = 1) ∨ state = .failed :=
      outcome.imp_left fun h => ⟨h.1.trans scanning, h.2⟩
    exact Effect.of_eq env s (Effect.staProbeResp role scanning sae phase state outcome) eq

theorem staOnAssocResp_effect (role : s.role = .sta) (inp : Bytes) :
    Effect env s (.handle .assocResp inp) (staOnAssocResp env s (frameBody inp)).core := by
  rcases staOnAssocResp_core env s (frameBody inp) with
    refused | ⟨success, pmk, kept, failed | waiting | ⟨anonce, snonce, replay, ptk, answered⟩⟩
  · exact Effect.of_eq env s (Effect.staAssocRefused role s.pmk fun _ => rfl) refused
  · exact Effect.of_eq env s (Effect.staAssocRefused role pmk kept) failed
  · exact Effect.of_eq env s (Effect.staAssocResp role success pmk kept) waiting
  · exact Effect.of_eq env s
      (Effect.staAssocRespM1 role success pmk kept anonce snonce replay ptk) answered

theorem staHandle_effect (role : s.role = .sta) (type : FrameType) (inp : Bytes) :
    Effect env s (.handle type inp)
      (staHandle env s type (frameSrc inp) inp (frameBody inp)).core := by
  have quiet {d : SmeCore} (idle : Idle s (.handle type inp)) (eq : d = s.core) :
      Effect env s (.handle type inp) d :=
    Effect.of_eq env s (Effect.unchanged _ idle) eq
  cases type with
  | probeResp => exact staOnProbeResp_effect env s role inp
  | authResp =>
    rcases staOnAuthResp_core s with same | ⟨waiting, eq⟩
    · exact quiet trivial same
    · exact Effect.of_eq env s (Effect.staAuthResp role waiting) eq
  | assocResp => exact staOnAssocResp_effect env s role inp
  | m1 =>
    rcases staRxM1_core env s (frameBody inp) with
      same | ⟨associated, anonce, snonce, replay, ptk, eq⟩
    · exact quiet trivial same
    · exact Effect.of_eq env s (Effect.staM1 role associated anonce snonce replay ptk) eq
  | m3 =>
    rcases staOnM3_core env s (frameBody inp) with
      same | ⟨replay, gtk, kde, igtk, taken, kept, ⟨no, eq⟩ | ⟨yes, valid, eq⟩⟩
    · exact quiet trivial same
    · exact Effect.of_eq env s (Effect.staM3Refused role replay gtk kde igtk taken no kept) eq
    · exact Effect.of_eq env s (Effect.staM3 role replay gtk kde igtk taken yes kept valid) eq
  | qosData => exact quiet trivial (rxQosData_core env s inp)
  | ftAuth2 =>
    unfold staHandle
    dsimp only
    split
    · rename_i allowed
      rcases ftStaOnAuth2_core env s (frameBody inp) with same | ⟨echoes, ptk, eq⟩
      · exact quiet trivial same
      · exact Effect.of_eq env s
          (Effect.staFtAuth2 role (Bool.and_eq_true_iff.1 allowed).2 echoes ptk) eq
    · exact quiet trivial rfl
  | ftReassocResp =>
    unfold staHandle
    dsimp only
    split
    · rename_i allowed
      rcases ftStaOnReassoc_core env s (frameBody inp) with same | ⟨mic, gtk, eq⟩
      · exact quiet trivial same
      · exact Effect.of_eq env s
          (Effect.staFtReassoc role (Bool.and_eq_true_iff.1 allowed).2 mic gtk) eq
    · exact quiet trivial rfl
  | ftDsResp =>
    unfold staHandle
    dsimp only
    split
    · rename_i allowed
      rcases ftStaOnDsResponse_core env s (frameBody inp) with same | ⟨echoes, ptk, eq⟩
      · exact quiet trivial same
      · exact Effect.of_eq env s
          (Effect.staFtDsResp role (Bool.and_eq_true_iff.1 allowed).2 echoes ptk) eq
    · exact quiet trivial rfl
  | addbaRsp => exact quiet trivial (staOnAddbaRsp_core s _)
  | addtsRsp => exact quiet trivial (addtsStaOnResp_core s _)
  | delts => exact quiet trivial (addtsOnDelts_core s _)
  | saQueryReq => exact quiet trivial (saQueryRespond_core s _)
  | saQueryResp => exact quiet trivial (staOnSaQueryResp_core s _)
  | m2 => exact quiet (fun ap => absurd (role.symm.trans ap) (by decide)) rfl
  | ftAuth1 => exact quiet (fun ap => absurd (role.symm.trans ap) (by decide)) rfl
  | _ => exact quiet trivial rfl

theorem rxData_effect (inp : Bytes) :
    Effect env s (.handle .data inp) (rxData env sib s inp).1.core := by
  rcases rxData_core env sib s inp with same | ⟨up, direct, eq⟩
  · exact Effect.of_eq env s (Effect.unchanged _ trivial) same
  · exact Effect.of_eq env s (Effect.answered up direct) eq

theorem smeHandle_effect (type : FrameType) (inp : Bytes) :
    Effect env s (.handle type inp) (smeHandle env sib s type inp).1.core := by
  unfold smeHandle
  split
  · rename_i role
    unfold apDemux
    split
    · exact rxData_effect env sib s inp
    · split
      · exact Effect.of_eq env s (Effect.unchanged _ trivial) (ftApOnDsRequest_core env s sib _)
      · exact Effect.unchanged _ trivial
    · exact apHandle_effect env s role type inp
  · rename_i role
    have role : s.role = .sta := by
      cases isRole : s.role with
      | sta => rfl
      | ap => exact absurd isRole role
    unfold staDemux
    split
    · exact rxData_effect env sib s inp
    · exact staHandle_effect env s role type inp

theorem rxRobustMgmt_effect (frame : Bytes) :
    Effect env s (.robust frame) (rxRobustMgmt s frame).core := by
  rcases rxRobustMgmt_core s frame with same | ⟨fresh, eq | eq⟩ | ⟨inactive, eq⟩
  · exact Effect.of_eq env s (Effect.unchanged _ trivial) same
  · exact Effect.of_eq env s (Effect.groupSeen fresh) eq
  · exact Effect.of_eq env s (Effect.tornProtected fresh) eq
  · exact Effect.of_eq env s (Effect.tornPlain inactive) eq

/-- No check and no effect depends on the AID. -/
theorem Effect.of_aid {aid : UInt16} {e : SmeEvent} {c : SmeCore}
    (h : Effect env { s with aid := aid } e c) : Effect env s e c := by
  cases h with
  | unchanged e idle =>
    have idle' : Idle s e := by
      unfold Idle at idle ⊢
      split at idle <;> exact idle
    exact Effect.unchanged e idle'
  | apM2Refused role k reads refused => exact @Effect.apM2Refused env s _ role k reads refused
  | _ => constructor <;> assumption

theorem rxAct_effect (frame : Bytes) (k : RxKind) :
    Effect env s (k.event frame) (rxAct env sib s frame k).1.core := by
  cases k with
  | ignored => exact Effect.unchanged _ trivial
  | aid a => exact Effect.unchanged _ trivial
  | badMic => exact Effect.unchanged _ trivial
  | unprotected => exact Effect.unchanged _ trivial
  | robust => exact rxRobustMgmt_effect env s frame
  | announce h =>
    rcases rxBssAnnounce_core env s h with
      same | ⟨role, scanning, pmf, peer, sae, phase, state, policy, eq, outcome⟩
    · exact Effect.of_eq env s (Effect.unchanged _ trivial) same
    · exact Effect.of_eq env s
        (Effect.announced role scanning pmf peer sae phase state policy outcome) eq
  | probed src => exact Effect.of_eq env s (Effect.unchanged _ trivial) (txMgmtTo_core s _ _ _)
  | sae h =>
    rcases smeSaeRxAuth_core s h with
      ⟨noCommit, noConfirm, same | ⟨scanning, failed⟩⟩ |
      ⟨scanning, ⟨sae, taken, eq | eq⟩ | ⟨noCommit, verified, eq⟩⟩
    · exact Effect.of_eq env s (Effect.unchanged (.sae h) ⟨noCommit, noConfirm⟩) same
    · exact Effect.of_eq env s (Effect.saeFailed scanning ⟨noCommit, noConfirm⟩) failed
    · exact Effect.of_eq env s (Effect.saeCommit scanning sae taken) eq
    · exact Effect.of_eq env s (Effect.saeCommitFailed scanning sae taken) eq
    · exact Effect.of_eq env s (Effect.saeConfirm scanning noCommit verified) eq
  | refused => exact Effect.refused
  | handle aid type inp =>
    exact Effect.of_aid env s (smeHandle_effect env sib { s with aid := aid.getD s.aid } type inp)

end Receive

section Handled

variable {env : Env} {sib : Siblings} {s : Sme} {frame inp : Bytes} {aid : Option UInt16}
  {type : FrameType}

theorem smeStep_rx_eq : smeStep env s (.rx sib frame) = (rxAct env sib s frame (rxKind s frame)).1 :=
  congrArg Prod.fst (smeRx_eq env sib s frame)

/-- What the AP does with a frame of a type that concerns no other entity. -/
theorem ap_handles (role : s.role = .ap) (reads : rxKind s frame = .handle aid type inp)
    (data : type ≠ .data) (ds : type ≠ .ftDsReq) :
    smeStep env s (.rx sib frame) =
      apHandle env { s with aid := aid.getD s.aid } type (frameSrc inp) inp (frameBody inp) := by
  rw [smeStep_rx_eq, reads, rxAct_ap env sib s role]
  cases type <;> first | rfl | exact absurd rfl data | exact absurd rfl ds

/-- What the station does with a frame of a type that concerns no other entity. -/
theorem sta_handles (role : s.role = .sta) (reads : rxKind s frame = .handle aid type inp)
    (data : type ≠ .data) :
    smeStep env s (.rx sib frame) =
      staHandle env { s with aid := aid.getD s.aid } type (frameSrc inp) inp (frameBody inp) := by
  rw [smeStep_rx_eq, reads, rxAct_sta env sib s role]
  cases type <;> first | rfl | exact absurd rfl data

end Handled

/-- Only a received frame reaches a handler. -/
theorem smeEvent_handle {s : Sme} {op : SmeOp} {type : FrameType} {inp : Bytes}
    (h : smeEvent s op = .handle type inp) :
    ∃ sib frame aid, op = .rx sib frame ∧ rxKind s frame = .handle aid type inp := by
  cases op with
  | rx sib frame =>
    simp only [smeEvent] at h
    cases kind : rxKind s frame with
    | handle aid type' inp' =>
      rw [kind] at h
      cases h
      exact ⟨sib, frame, aid, rfl, kind⟩
    | _ => rw [kind] at h; cases h
  | rxMgmt frame =>
    simp only [smeEvent] at h
    split at h <;> cases h
  | _ => cases h

/-- A frame handled on a live link is of a type that still gets through. -/
theorem smeEvent_gate {s : Sme} {op : SmeOp} {type : FrameType} {inp : Bytes}
    (h : smeEvent s op = .handle type inp) :
    s.state ≠ .failed ∧ (s.state = .connected → type.whenConnected = true) := by
  obtain ⟨sib, frame, aid, rfl, kind⟩ := smeEvent_handle h
  have gated := rxKind_gated (s := s) frame
  rw [kind] at gated
  exact demuxGate_state gated

/-- The events that a received frame can amount to. -/
def SmeEvent.fromFrame : SmeEvent → Bool
  | .quiet | .robust _ | .announce _ | .sae _ | .refused | .handle _ _ => true
  | _ => false

theorem smeEvent_fromFrame {s : Sme} {op : SmeOp} (received : op.receives = true) :
    (smeEvent s op).fromFrame = true := by
  cases op with
  | rx sib frame =>
    simp only [smeEvent]
    cases rxKind s frame <;> rfl
  | _ => cases received

/-- A failed entity takes no frame. -/
theorem smeEvent_failed {s : Sme} {op : SmeOp} (failed : s.state = .failed)
    (received : op.receives = true) : smeEvent s op = .quiet := by
  cases op with
  | rx sib frame =>
    have ignored : rxKind s frame = .ignored := by
      unfold rxKind
      rw [if_pos (Or.inr failed)]
    simp only [smeEvent, ignored, RxKind.event]
  | _ => cases received

/-- Every step has one of the effects of the event it amounts to. -/
theorem smeStep_effect (env : Env) (s : Sme) (op : SmeOp) :
    Effect env s (smeEvent s op) (smeStep env s op).core := by
  have quiet {e : SmeEvent} {d : SmeCore} (idle : Idle s e) (eq : d = s.core) : Effect env s e d :=
    Effect.of_eq env s (Effect.unchanged e idle) eq
  have sent {d : SmeCore} (h : d = s.core ∨ s.state = .connected ∧ d = s.core.send s.halBound) :
      Effect env s .send d := by
    rcases h with same | ⟨up, eq⟩
    · exact quiet trivial same
    · exact Effect.of_eq env s (Effect.sent up) eq
  have group (subtype : UInt8) (reason : UInt16) :
      Effect env s .groupTx (txProtectedGroupMgmt s subtype reason).1.core := by
    obtain ⟨ipn, eq⟩ := txProtectedGroupMgmt_core s subtype reason
    exact Effect.of_eq env s (Effect.groupTx ipn) eq
  cases op with
  | rx sib frame =>
    have acted := rxAct_effect env sib s frame (rxKind s frame)
    rw [← smeRx_eq] at acted
    exact acted
  | rxMgmt frame =>
    simp only [smeEvent, smeStep, smeRxMgmt]
    split
    · exact quiet trivial rfl
    · exact rxRobustMgmt_effect env s frame
  | rxSpuriousReassoc src => exact quiet trivial (pmfApOnSpuriousReassoc_core s src)
  | set c =>
    cases c with
    | peer m => exact Effect.peerSet m
    | pmf mode => exact Effect.pmfSet mode
    | ft mdid ssid r0khId => exact Effect.ftSet mdid ssid r0khId
    | _ => exact quiet trivial rfl
  | connectStart =>
    simp only [smeEvent, smeStep, smeConnectStart]
    split
    · exact quiet trivial rfl
    · rename_i role
      exact Effect.of_eq env s (Effect.connectStart (not_not.1 role)) (txMgmtTo_core _ _ _ _)
  | dataTx payload => exact sent (smeDataTx_core env s payload)
  | dataTxQos payload up => exact sent (smeDataTxQos_core env s payload up)
  | addtsRequest tsid ac direction mediumTime =>
    exact quiet trivial (smeAddtsRequest_core s tsid ac direction mediumTime)
  | delts tsid => exact quiet trivial (smeDelts_core s tsid)
  | txProtectedDeauth reason => exact group 12 reason
  | txProtectedDisassoc reason => exact group 10 reason
  | saQueryTick => exact quiet trivial (smeSaQueryTick_core s)
  | ftEstablish =>
    obtain ⟨valid, eq, enabled⟩ := smeFtEstablish_core s
    exact Effect.of_eq env s (Effect.ftEstablish valid enabled) eq
  | ftRoam target => exact quiet trivial (smeFtRoam_core env s target)
  | ftRoamOverDs target => exact quiet trivial (smeFtRoamOverDs_core env s target)
  | baEstablish tid => exact quiet trivial (smeBaEstablish_core s tid)
  | dsPush sta target snonce pmkR1 pmkR1Name =>
    rcases ftDsTargetProcess_core env s sta target snonce pmkR1 pmkR1Name 260 with
      ⟨other, same⟩ | ⟨enabled, mine, anonce, eq⟩
    · exact quiet other same
    · exact Effect.of_eq env s (Effect.dsPush enabled mine anonce) eq
  | relay body => exact sent (tdlsEncapTx_core env s body)

end Rf2a4m1
