import Rf2a4m1.Sme.Demo
import Rf2a4m1.Wire.TdlsCodec

/-!
# One end of a direct link

What each of the four messages does, and to what: the handshake leaves both
ends with one key, a keyed link changes on authenticated frames only, and a
refused message leaves the end as it was, but for answers that do not fit.
-/

set_option autoImplicit false

namespace Rf2a4m1

open ByteString

section Outcomes

/-- A Setup Request that an idle responder answers. -/
structure SetupReqPasses (p : TdlsPeer) (inp : Bytes) (req : TdlsSetupReq) : Prop where
  idle : p.state = .idle
  responder : p.isInitiator = false
  parsed : tdlsSetupReqParse inp = some req
  link : req.lid = p.lid

/-- The key between two nonces on the link of a peer. -/
def TdlsPeer.key (p : TdlsPeer) (snonce anonce : Octets 32) : Octets 32 :=
  tdlsDeriveTpk snonce anonce p.lid.initAddr p.lid.respAddr p.bssid

/-- The responder with the key of the link. -/
def TdlsPeer.requested (p : TdlsPeer) (req : TdlsSetupReq) (anonce : Octets 32) : TdlsPeer :=
  { p with snonce := req.ftie.snonce, anonce := anonce, tpk := p.key req.ftie.snonce anonce
           haveTpk := true, dialogToken := req.dialogToken }

/-- What a keyed responder answers. -/
def TdlsPeer.response (p : TdlsPeer) : TdlsSetupResp :=
  { status := 0, dialogToken := p.dialogToken, capInfo := 0, ftie := tdlsMicFtie p 2
    keyLifetime := p.keyLifetime, lid := p.lid }

/-- A Setup Response that an initiator confirms. -/
structure SetupRespPasses (p : TdlsPeer) (inp : Bytes) (resp : TdlsSetupResp) : Prop where
  sent : p.state = .reqSent
  parsed : tdlsSetupRespParse inp = some resp
  status : resp.status = 0
  token : resp.dialogToken = p.dialogToken
  link : resp.lid = p.lid
  echoed : resp.ftie.snonce = p.snonce
  mic : tdlsFrameMic (p.key p.snonce resp.ftie.anonce) p resp.ftie resp.lid resp.keyLifetime 2 =
    resp.ftie.mic

/-- The initiator with the key of the link. -/
def TdlsPeer.responded (p : TdlsPeer) (resp : TdlsSetupResp) : TdlsPeer :=
  { p with anonce := resp.ftie.anonce, tpk := p.key p.snonce resp.ftie.anonce, haveTpk := true }

/-- What a keyed initiator confirms with. -/
def TdlsPeer.confirm (p : TdlsPeer) : TdlsSetupConfirm :=
  { status := 0, dialogToken := p.dialogToken, ftie := tdlsMicFtie p 3
    keyLifetime := p.keyLifetime, lid := p.lid }

structure SetupConfirmPasses (p : TdlsPeer) (inp : Bytes) (conf : TdlsSetupConfirm) : Prop where
  setup : p.state = .setup
  keyed : p.haveTpk = true
  parsed : tdlsSetupConfirmParse inp = some conf
  status : conf.status = 0
  token : conf.dialogToken = p.dialogToken
  link : conf.lid = p.lid
  mic : tdlsFrameMic p.tpk p conf.ftie conf.lid conf.keyLifetime 3 = conf.ftie.mic

structure TeardownPasses (p : TdlsPeer) (inp : Bytes) (td : TdlsTeardown) : Prop where
  parsed : tdlsTeardownParse inp = some td
  link : td.lid = p.lid
  mic : tdlsTeardownMicOk p td = true

variable {p : TdlsPeer} {inp : Bytes}

theorem tdlsOnSetupReq_refused (refused : ¬∃ req, SetupReqPasses p inp req) (anonce : Octets 32)
    (cap : Nat) : tdlsOnSetupReq p inp anonce cap = (p, none) := by
  unfold tdlsOnSetupReq
  split
  · rfl
  rename_i role
  obtain ⟨idle, responder⟩ := not_or.1 role
  split
  · rfl
  rename_i req parsed
  split
  · rfl
  rename_i link
  exact absurd ⟨req, not_not.1 idle, Bool.eq_false_iff.2 responder, parsed, not_not.1 link⟩ refused

/-- The responder is keyed before its answer is known to fit. -/
theorem tdlsOnSetupReq_passes {req : TdlsSetupReq} (passes : SetupReqPasses p inp req)
    (anonce : Octets 32) (cap : Nat) :
    tdlsOnSetupReq p inp anonce cap =
      match tdlsSetupRespBuild cap (p.requested req anonce).response with
      | none => (p.requested req anonce, none)
      | some f => ({ p.requested req anonce with state := .setup }, some f) := by
  have role : ¬(p.state ≠ .idle ∨ p.isInitiator = true) :=
    not_or.2 ⟨not_not.2 passes.idle, Bool.eq_false_iff.1 passes.responder⟩
  unfold tdlsOnSetupReq
  rw [if_neg role, passes.parsed]
  dsimp only
  rw [if_neg (not_not.2 passes.link)]
  rfl

theorem tdlsOnSetupResp_refused (refused : ¬∃ resp, SetupRespPasses p inp resp) (cap : Nat) :
    tdlsOnSetupResp p inp cap = (p, none) := by
  unfold tdlsOnSetupResp
  split
  · rfl
  rename_i sent
  split
  · rfl
  rename_i resp parsed
  split
  · rfl
  rename_i answer
  obtain ⟨status, token⟩ := not_or.1 answer
  split
  · rfl
  rename_i link
  split
  · rfl
  rename_i echoed
  dsimp only
  split
  · rfl
  rename_i mic
  exact absurd ⟨resp, not_not.1 sent, parsed, not_not.1 status, not_not.1 token, not_not.1 link,
    not_not.1 echoed, not_not.1 mic⟩ refused

/-- The initiator is keyed before its confirmation is known to fit. -/
theorem tdlsOnSetupResp_passes {resp : TdlsSetupResp} (passes : SetupRespPasses p inp resp)
    (cap : Nat) :
    tdlsOnSetupResp p inp cap =
      match tdlsSetupConfirmBuild cap (p.responded resp).confirm with
      | none => (p.responded resp, none)
      | some f => ({ p.responded resp with state := .established }, some f) := by
  have answer : ¬(resp.status ≠ 0 ∨ resp.dialogToken ≠ p.dialogToken) :=
    not_or.2 ⟨not_not.2 passes.status, not_not.2 passes.token⟩
  have mic := passes.mic
  unfold TdlsPeer.key at mic
  unfold tdlsOnSetupResp
  rw [if_neg (not_not.2 passes.sent), passes.parsed]
  dsimp only
  rw [if_neg answer, if_neg (not_not.2 passes.link), if_neg (not_not.2 passes.echoed),
    if_neg (not_not.2 mic)]
  rfl

theorem tdlsOnSetupConfirm_refused (refused : ¬∃ conf, SetupConfirmPasses p inp conf) :
    tdlsOnSetupConfirm p inp = (p, false) := by
  unfold tdlsOnSetupConfirm
  split
  · rfl
  rename_i ready
  obtain ⟨setup, keyed⟩ := not_or.1 ready
  rw [Bool.not_eq_true', Bool.not_eq_false] at keyed
  split
  · rfl
  rename_i conf parsed
  split
  · rfl
  rename_i answer
  obtain ⟨status, token⟩ := not_or.1 answer
  split
  · rfl
  rename_i link
  split
  · rfl
  rename_i mic
  exact absurd ⟨conf, not_not.1 setup, keyed, parsed, not_not.1 status, not_not.1 token,
    not_not.1 link, not_not.1 mic⟩ refused

theorem tdlsOnSetupConfirm_passes {conf : TdlsSetupConfirm}
    (passes : SetupConfirmPasses p inp conf) :
    tdlsOnSetupConfirm p inp = ({ p with state := .established }, true) := by
  have ready : ¬(p.state ≠ .setup ∨ (!p.haveTpk) = true) := by
    rw [passes.keyed]
    exact not_or.2 ⟨not_not.2 passes.setup, Bool.false_ne_true⟩
  have answer : ¬(conf.status ≠ 0 ∨ conf.dialogToken ≠ p.dialogToken) :=
    not_or.2 ⟨not_not.2 passes.status, not_not.2 passes.token⟩
  unfold tdlsOnSetupConfirm
  rw [if_neg ready, passes.parsed]
  dsimp only
  rw [if_neg answer, if_neg (not_not.2 passes.link), if_neg (not_not.2 passes.mic)]

theorem tdlsOnTeardown_refused (refused : ¬∃ td, TeardownPasses p inp td) :
    tdlsOnTeardown p inp = (p, false) := by
  unfold tdlsOnTeardown
  split
  · rfl
  rename_i td parsed
  split
  · rfl
  rename_i link
  split
  · rfl
  rename_i mic
  rw [Bool.not_eq_true', Bool.not_eq_false] at mic
  exact absurd ⟨td, parsed, not_not.1 link, mic⟩ refused

theorem tdlsOnTeardown_passes {td : TdlsTeardown} (passes : TeardownPasses p inp td) :
    tdlsOnTeardown p inp = ({ p with state := .teardown }, true) := by
  unfold tdlsOnTeardown
  rw [passes.parsed]
  dsimp only
  rw [if_neg (not_not.2 passes.link), passes.mic]
  rfl

end Outcomes

section Agreement

variable {p q : TdlsPeer} {inp : Bytes}

/-- The identifier of the link names its BSS, as it does from the start. -/
def TdlsPeer.OnBss (p : TdlsPeer) : Prop := p.lid.bssid = p.bssid

theorem tdlsPeerInit_onBss (self peer bssid : MacAddr) (isInitiator : Bool) (dialogToken : UInt8)
    (keyLifetime : UInt32) :
    (tdlsPeerInit self peer bssid isInitiator dialogToken keyLifetime).OnBss := rfl

/-- Both ends of a link derive one key. -/
theorem TdlsPeer.key_eq (link : p.lid = q.lid) (left : p.OnBss) (right : q.OnBss)
    (snonce anonce : Octets 32) : p.key snonce anonce = q.key snonce anonce := by
  have bss : p.bssid = q.bssid := by
    rw [← left, ← right, link]
  unfold TdlsPeer.key
  rw [link, bss]

/-- The MIC of an answer is the one its receiver computes. -/
theorem tdlsMicFtie_mic (link : p.lid = q.lid) (transSeq : UInt8) :
    tdlsFrameMic p.tpk q (tdlsMicFtie p transSeq) p.lid p.keyLifetime transSeq =
      (tdlsMicFtie p transSeq).mic := by
  let blank : TdlsFtie := { mic := Octets.zero 16, anonce := p.anonce, snonce := p.snonce }
  have ignored := tdlsFrameMic_mic p.tpk q blank
    (tdlsFrameMic p.tpk p blank p.lid p.keyLifetime transSeq) p.lid p.keyLifetime transSeq
  exact ignored.trans (tdlsFrameMic_peer link.symm p.tpk blank p.lid p.keyLifetime transSeq)

/-- The answer of a keyed responder passes at the initiator that asked. -/
theorem response_passes {req : TdlsSetupReq} (sent : p.state = .reqSent) (link : p.lid = q.lid)
    (left : p.OnBss) (right : q.OnBss) (snonce : req.ftie.snonce = p.snonce)
    (token : req.dialogToken = p.dialogToken) (anonce : Octets 32) {f : Bytes}
    (parsed : tdlsSetupRespParse f = some (q.requested req anonce).response) :
    SetupRespPasses p f (q.requested req anonce).response where
  sent := sent
  parsed := parsed
  status := rfl
  token := token
  link := link.symm
  echoed := snonce
  mic := by
    have key : p.key p.snonce anonce = (q.requested req anonce).tpk := by
      rw [TdlsPeer.key_eq link left right, ← snonce]
      rfl
    have mic := tdlsMicFtie_mic (p := q.requested req anonce) (q := p) link.symm 2
    rw [← key] at mic
    exact mic

/-- The confirmation of a keyed initiator passes at the responder with its key. -/
theorem confirm_passes (setup : q.state = .setup) (keyed : q.haveTpk = true) (link : p.lid = q.lid)
    (token : p.dialogToken = q.dialogToken) (tpk : p.tpk = q.tpk) {f : Bytes}
    (parsed : tdlsSetupConfirmParse f = some p.confirm) : SetupConfirmPasses q f p.confirm where
  setup := setup
  keyed := keyed
  parsed := parsed
  status := rfl
  token := token
  link := link
  mic := by
    rw [← tpk]
    exact tdlsMicFtie_mic link 3

/-- The two ends of an established link with one key. -/
structure TdlsAgree (p q : TdlsPeer) : Prop where
  left : p.state = .established
  right : q.state = .established
  tpk : p.tpk = q.tpk
  snonce : p.snonce = q.snonce
  anonce : p.anonce = q.anonce

/-- An initiator that has asked and an idle responder on its link agree, whatever their lifetimes,
after the request of the initiator has gone to the responder, the answer back, and the
confirmation to the responder. -/
theorem tdls_handshake_agrees (p q : TdlsPeer) (req : TdlsSetupReq) (inp : Bytes)
    (anonce : Octets 32) (c d : Nat) (sent : p.state = .reqSent) (idle : q.state = .idle)
    (responder : q.isInitiator = false) (link : p.lid = q.lid) (left : p.OnBss) (right : q.OnBss)
    (parsed : tdlsSetupReqParse inp = some req) (snonce : req.ftie.snonce = p.snonce)
    (token : req.dialogToken = p.dialogToken) (named : req.lid = p.lid) (roomy : 160 ≤ c)
    (roomy' : 160 ≤ d) :
    ∃ resp q' conf p' q'', tdlsOnSetupReq q inp anonce c = (q', some resp) ∧
      tdlsOnSetupResp p resp d = (p', some conf) ∧
      tdlsOnSetupConfirm q' conf = (q'', true) ∧ TdlsAgree p' q'' := by
  have first : SetupReqPasses q inp req := ⟨idle, responder, parsed, named.trans link⟩
  have answer := tdlsOnSetupReq_passes first anonce c
  rw [tdlsSetupRespBuild_eq, if_pos (by omega)] at answer
  have second := response_passes sent link left right snonce token anonce
    (tdlsSetupRespParse_build (q.requested req anonce).response)
  have confirmed := tdlsOnSetupResp_passes second d
  rw [tdlsSetupConfirmBuild_eq, if_pos (by omega)] at confirmed
  have tpk : (p.responded (q.requested req anonce).response).tpk =
      (q.requested req anonce).tpk := by
    have key := TdlsPeer.key_eq link left right p.snonce anonce
    have nonce : q.key p.snonce anonce = q.key req.ftie.snonce anonce := by rw [snonce]
    exact key.trans nonce
  have third := confirm_passes (p := p.responded (q.requested req anonce).response)
    (q := { q.requested req anonce with state := .setup }) rfl rfl link token.symm tpk
    (tdlsSetupConfirmParse_build (p.responded (q.requested req anonce).response).confirm)
  exact ⟨_, _, _, _, _, answer, confirmed, tdlsOnSetupConfirm_passes third, rfl, rfl, tpk,
    snonce.symm, rfl⟩

/-- Two stations, with nonces of their own and lifetimes that differ. -/
theorem tdls_handshake_agrees_pair :
    let sta : MacAddr := Octets.of 6 [2, 0, 0, 0, 0, 1]
    let p := { tdlsPeerInit sta (Octets.zero 6) bcast true 7 100 with
      state := .reqSent, snonce := Octets.of 32 [1] }
    let q := tdlsPeerInit (Octets.zero 6) sta bcast false 0 200
    let req : TdlsSetupReq :=
      { dialogToken := 7, capInfo := 0, keyLifetime := 100, lid := p.lid
        ftie := { mic := Octets.zero 16, anonce := Octets.zero 32, snonce := Octets.of 32 [1] } }
    ∃ resp q' conf p' q'',
      tdlsOnSetupReq q (tdlsSetupReqOf req) (Octets.of 32 [2]) 160 = (q', some resp) ∧
      tdlsOnSetupResp p resp 160 = (p', some conf) ∧
      tdlsOnSetupConfirm q' conf = (q'', true) ∧ TdlsAgree p' q'' :=
  tdls_handshake_agrees _ _ _ _ _ 160 160 rfl rfl rfl rfl rfl rfl (tdlsSetupReqParse_of _) rfl rfl
    rfl (Nat.le_refl _) (Nat.le_refl _)

end Agreement

section Keyed

/-- A link with a key, being set up or established. -/
structure TdlsKeyed (s : Sme) : Prop where
  active : s.tdlsActive = true
  keyed : s.tdls.haveTpk = true
  state : s.tdls.state = .setup ∨ s.tdls.state = .established

/-- A confirmation or a teardown of the link that bears the MIC of the key held. -/
inductive TdlsAuthentic (p : TdlsPeer) (body : Bytes) : Prop where
  | confirm (conf : TdlsSetupConfirm) (parsed : tdlsSetupConfirmParse body = some conf)
      (link : conf.lid = p.lid)
      (mic : conf.ftie.mic = tdlsFrameMic p.tpk p conf.ftie conf.lid conf.keyLifetime 3)
  | teardown (td : TdlsTeardown) (f : TdlsFtie) (parsed : tdlsTeardownParse body = some td)
      (link : td.lid = p.lid) (bears : td.ftie = some f)
      (mic : f.mic = tdlsFrameMic p.tpk p f td.lid p.keyLifetime 4)

theorem SetupConfirmPasses.authentic {p : TdlsPeer} {body : Bytes} {conf : TdlsSetupConfirm}
    (passes : SetupConfirmPasses p body conf) : TdlsAuthentic p body :=
  .confirm conf passes.parsed passes.link passes.mic.symm

/-- With a key held, a teardown without an FTIE does not pass. -/
theorem TeardownPasses.bears {p : TdlsPeer} {body : Bytes} {td : TdlsTeardown}
    (passes : TeardownPasses p body td) (keyed : p.haveTpk = true) :
    ∃ f, td.ftie = some f ∧ tdlsFrameMic p.tpk p f td.lid p.keyLifetime 4 = f.mic := by
  have mic := passes.mic
  unfold tdlsTeardownMicOk at mic
  rw [keyed, Bool.not_true, if_neg Bool.false_ne_true] at mic
  split at mic
  · cases mic
  · rename_i f bears
    exact ⟨f, bears, of_decide_eq_true mic⟩

theorem TeardownPasses.authentic {p : TdlsPeer} {body : Bytes} {td : TdlsTeardown}
    (passes : TeardownPasses p body td) (keyed : p.haveTpk = true) : TdlsAuthentic p body := by
  obtain ⟨f, bears, mic⟩ := passes.bears keyed
  exact .teardown td f passes.parsed passes.link bears mic.symm

/-- The link is the one it was. -/
structure TdlsKept (s t : Sme) : Prop where
  active : t.tdlsActive = s.tdlsActive
  peer : t.tdls = s.tdls

theorem TdlsKept.keyed {s t : Sme} (kept : TdlsKept s t) (link : TdlsKeyed s) : TdlsKeyed t where
  active := kept.active.trans link.active
  keyed := by rw [kept.peer, link.keyed]
  state := by
    rw [kept.peer]
    exact link.state

variable (env : Env) {s : Sme}

theorem tdlsEncapTx_kept (body : Bytes) : TdlsKept s (tdlsEncapTx env s body) := by
  unfold tdlsEncapTx
  split
  · exact ⟨rfl, rfl⟩
  · exact ⟨rfl, rfl⟩

theorem tdlsAnswer_kept {r : TdlsPeer × Option Bytes} (same : r.1 = s.tdls) :
    TdlsKept s (tdlsAnswer env s r) := by
  unfold tdlsAnswer
  split
  · exact ⟨rfl, same⟩
  · rename_i out _
    have sent := tdlsEncapTx_kept env (s := { s with tdls := r.1, tdlsRx := s.tdlsRx + 1 }) out
    exact ⟨sent.active, sent.peer.trans same⟩

/-- A second request neither starts the link again nor is it answered. -/
theorem tdlsOnReq_kept (body : Bytes) (link : TdlsKeyed s) : TdlsKept s (tdlsOnReq env s body) := by
  have busy : s.tdls.state ≠ .idle ∧ s.tdls.state ≠ .teardown := by
    cases link.state with
    | inl setup =>
      rw [setup]
      exact ⟨nofun, nofun⟩
    | inr established =>
      rw [established]
      exact ⟨nofun, nofun⟩
  unfold tdlsOnReq
  split
  · exact ⟨rfl, rfl⟩
  rename_i req _
  split
  · exact ⟨rfl, rfl⟩
  have respond : tdlsRespond s req = s := by
    refine if_neg ?_
    rw [link.active]
    exact not_or.2 ⟨Bool.false_ne_true, not_or.2 busy⟩
  rw [respond]
  have refused (anonce : Octets 32) :
      (tdlsOnSetupReq s.tdls body anonce tdlsBodyMax).1 = s.tdls := by
    rw [tdlsOnSetupReq_refused fun ⟨_, passes⟩ => busy.1 passes.idle]
  let drawn := smeGenMaterial env s 32 (s.nonceSalt ^^^ 0x7d15)
  have answer := tdlsAnswer_kept env (s := drawn.2) (refused drawn.1)
  exact ⟨answer.active, answer.peer⟩

/-- Whatever comes in, a keyed link stays the one it was unless the frame is authentic. -/
theorem tdlsStaDeliver_kept (body : Bytes) (link : TdlsKeyed s) :
    TdlsKept s (tdlsStaDeliver env s body) ∨ TdlsAuthentic s.tdls body := by
  unfold tdlsStaDeliver
  split
  · exact .inl ⟨rfl, rfl⟩
  split
  · exact .inl (tdlsOnReq_kept env body link)
  split
  · have waiting : s.tdls.state ≠ .reqSent := by
      cases link.state with
      | inl setup => rw [setup]; exact nofun
      | inr established => rw [established]; exact nofun
    refine .inl (tdlsAnswer_kept env ?_)
    rw [tdlsOnSetupResp_refused fun ⟨_, passes⟩ => waiting passes.sent]
  split
  · by_cases passes : ∃ conf, SetupConfirmPasses s.tdls body conf
    · obtain ⟨conf, passes⟩ := passes
      exact .inr passes.authentic
    · rw [tdlsOnSetupConfirm_refused passes]
      exact .inl ⟨rfl, rfl⟩
  split
  · by_cases passes : ∃ td, TeardownPasses s.tdls body td
    · obtain ⟨td, passes⟩ := passes
      exact .inr (passes.authentic link.keyed)
    · rw [tdlsOnTeardown_refused passes]
      exact .inl ⟨rfl, rfl⟩
  · exact .inl ⟨rfl, rfl⟩

/-- A keyed link outlives any run of frames without an authentic one among them. -/
theorem tdls_keyed_link_kept (bodies : List Bytes) (link : TdlsKeyed s)
    (forged : ∀ body ∈ bodies, ¬TdlsAuthentic s.tdls body) :
    TdlsKept s (bodies.foldl (tdlsStaDeliver env) s) := by
  induction bodies generalizing s with
  | nil => exact ⟨rfl, rfl⟩
  | cons body bodies ih =>
    have first : TdlsKept s (tdlsStaDeliver env s body) :=
      (tdlsStaDeliver_kept env body link).resolve_right (forged body List.mem_cons_self)
    have rest := ih (first.keyed link) fun later among => by
      rw [first.peer]
      exact forged later (List.mem_cons_of_mem body among)
    exact ⟨rest.active.trans first.active, rest.peer.trans first.peer⟩

/-- A keyed link changes on authentic frames only, in one delivery and in any run of them. -/
theorem tdls_keyed_link_changes (s : Sme) (link : TdlsKeyed s) :
    (∀ body, TdlsKept s (tdlsStaDeliver env s body) ∨ TdlsAuthentic s.tdls body) ∧
      ∀ bodies : List Bytes, (∀ body ∈ bodies, ¬TdlsAuthentic s.tdls body) →
        TdlsKept s (bodies.foldl (tdlsStaDeliver env) s) := by
  constructor
  · intro body
    exact tdlsStaDeliver_kept env body link
  · intro bodies forged
    exact tdls_keyed_link_kept env bodies link forged

/-- A station whose link is being set up. -/
theorem tdls_keyed_link_changes_setup :
    let peer := { TdlsPeer.empty with state := .setup, haveTpk := true }
    let s := { smeInit .sta (Octets.zero 6) (Octets.zero 32) 0 with
      tdls := peer, tdlsActive := true }
    (∀ body, TdlsKept s (tdlsStaDeliver demoEnv s body) ∨ TdlsAuthentic s.tdls body) ∧
      ∀ bodies : List Bytes, (∀ body ∈ bodies, ¬TdlsAuthentic s.tdls body) →
        TdlsKept s (bodies.foldl (tdlsStaDeliver demoEnv) s) :=
  tdls_keyed_link_changes demoEnv _ ⟨rfl, rfl, .inl rfl⟩

end Keyed

section Refusals

/-- A message that comes in, with the nonce drawn and the room for the answer. -/
inductive TdlsCall where
  | setupReq (inp : Bytes) (anonce : Octets 32) (cap : Nat)
  | setupResp (inp : Bytes) (cap : Nat)
  | setupConfirm (inp : Bytes)
  | teardown (inp : Bytes)

/-- The peer after the message, and whether it was taken. -/
def TdlsCall.run (p : TdlsPeer) : TdlsCall → TdlsPeer × Bool
  | setupReq inp anonce cap =>
    let r := tdlsOnSetupReq p inp anonce cap
    (r.1, r.2.isSome)
  | setupResp inp cap =>
    let r := tdlsOnSetupResp p inp cap
    (r.1, r.2.isSome)
  | setupConfirm inp => tdlsOnSetupConfirm p inp
  | teardown inp => tdlsOnTeardown p inp

/-- No message takes a peer off the BSS of its link. -/
theorem TdlsCall.run_onBss {p : TdlsPeer} (on : p.OnBss) (call : TdlsCall) :
    (call.run p).1.OnBss := by
  cases call with
  | setupReq inp anonce cap =>
    dsimp only [TdlsCall.run]
    by_cases passes : ∃ req, SetupReqPasses p inp req
    · obtain ⟨req, passes⟩ := passes
      rw [tdlsOnSetupReq_passes passes]
      split
      · exact on
      · exact on
    · rw [tdlsOnSetupReq_refused passes]
      exact on
  | setupResp inp cap =>
    dsimp only [TdlsCall.run]
    by_cases passes : ∃ resp, SetupRespPasses p inp resp
    · obtain ⟨resp, passes⟩ := passes
      rw [tdlsOnSetupResp_passes passes]
      split
      · exact on
      · exact on
    · rw [tdlsOnSetupResp_refused passes]
      exact on
  | setupConfirm inp =>
    dsimp only [TdlsCall.run]
    by_cases passes : ∃ conf, SetupConfirmPasses p inp conf
    · obtain ⟨conf, passes⟩ := passes
      rw [tdlsOnSetupConfirm_passes passes]
      exact on
    · rw [tdlsOnSetupConfirm_refused passes]
      exact on
  | teardown inp =>
    dsimp only [TdlsCall.run]
    by_cases passes : ∃ td, TeardownPasses p inp td
    · obtain ⟨td, passes⟩ := passes
      rw [tdlsOnTeardown_passes passes]
      exact on
    · rw [tdlsOnTeardown_refused passes]
      exact on

/-- Whatever has come in at a peer since it was set up, it is on the BSS of its link. -/
theorem tdlsPeer_onBss (self peer bssid : MacAddr) (isInitiator : Bool) (dialogToken : UInt8)
    (keyLifetime : UInt32) (calls : List TdlsCall) :
    (calls.foldl (fun p call => (call.run p).1)
      (tdlsPeerInit self peer bssid isInitiator dialogToken keyLifetime)).OnBss := by
  have step (p : TdlsPeer) (on : p.OnBss) :
      (calls.foldl (fun p call => (call.run p).1) p).OnBss := by
    induction calls generalizing p with
    | nil => exact on
    | cons call calls ih => exact ih _ (call.run_onBss on)
  exact step _ (tdlsPeerInit_onBss self peer bssid isInitiator dialogToken keyLifetime)

/-- A refused message leaves the peer as it was. -/
def TdlsCall.RefusedUntouched (p : TdlsPeer) (call : TdlsCall) : Prop :=
  (call.run p).2 = false → (call.run p).1 = p

/-- The message passes all checks, its answer does not fit, and the peer does not hold yet what the
message brings. -/
def TdlsCall.Spills (p : TdlsPeer) : TdlsCall → Prop
  | setupReq inp anonce cap => cap < 119 ∧ ∃ req, SetupReqPasses p inp req ∧
      ¬(p.snonce = req.ftie.snonce ∧ p.anonce = anonce ∧ p.tpk = p.key req.ftie.snonce anonce ∧
        p.haveTpk = true ∧ p.dialogToken = req.dialogToken)
  | setupResp inp cap => cap < 117 ∧ ∃ resp, SetupRespPasses p inp resp ∧
      ¬(p.anonce = resp.ftie.anonce ∧ p.tpk = p.key p.snonce resp.ftie.anonce ∧ p.haveTpk = true)
  | setupConfirm _ => False
  | teardown _ => False

theorem TdlsPeer.requested_eq_self {p : TdlsPeer} {req : TdlsSetupReq} {anonce : Octets 32} :
    p.requested req anonce = p ↔ p.snonce = req.ftie.snonce ∧ p.anonce = anonce ∧
      p.tpk = p.key req.ftie.snonce anonce ∧ p.haveTpk = true ∧
        p.dialogToken = req.dialogToken := by
  constructor
  · intro same
    refine ⟨?_, ?_, ?_, ?_, ?_⟩
    · exact congrArg TdlsPeer.snonce same.symm
    · exact congrArg TdlsPeer.anonce same.symm
    · exact congrArg TdlsPeer.tpk same.symm
    · exact congrArg TdlsPeer.haveTpk same.symm
    · exact congrArg TdlsPeer.dialogToken same.symm
  · rintro ⟨snonce, anonce, tpk, keyed, token⟩
    unfold TdlsPeer.requested
    rw [← tpk, ← snonce, ← anonce, ← keyed, ← token]

theorem TdlsPeer.responded_eq_self {p : TdlsPeer} {resp : TdlsSetupResp} :
    p.responded resp = p ↔ p.anonce = resp.ftie.anonce ∧
      p.tpk = p.key p.snonce resp.ftie.anonce ∧ p.haveTpk = true := by
  constructor
  · intro same
    refine ⟨?_, ?_, ?_⟩
    · exact congrArg TdlsPeer.anonce same.symm
    · exact congrArg TdlsPeer.tpk same.symm
    · exact congrArg TdlsPeer.haveTpk same.symm
  · rintro ⟨anonce, tpk, keyed⟩
    unfold TdlsPeer.responded
    rw [← tpk, ← anonce, ← keyed]

/-- An answer of `n` octets, for a message that passes with what it brings. -/
theorem spill_iff {R : Type} {P H : R → Prop} {r : R} (passes : P r) (only : ∀ r', P r' → r' = r)
    {p k p' : TdlsPeer} (same : k = p ↔ H r) {f : Bytes} {n cap : Nat}
    {o : TdlsPeer × Option Bytes}
    (outcome : o = match if n ≤ cap then some f else none with
      | none => (k, none)
      | some f => (p', some f)) :
    (o.2.isSome = false → o.1 = p) ↔ ¬(cap < n ∧ ∃ r, P r ∧ ¬H r) := by
  by_cases fits : n ≤ cap
  · rw [if_pos fits] at outcome
    rw [outcome]
    constructor
    · rintro - ⟨short, -⟩
      omega
    · intro _ refused
      cases refused
  · rw [if_neg fits] at outcome
    rw [outcome]
    dsimp only
    rw [same]
    constructor
    · rintro held ⟨-, r', passes', spills⟩
      rw [only r' passes'] at spills
      exact spills (held rfl)
    · intro held _
      by_contra spills
      exact held ⟨by omega, r, passes, spills⟩

theorem setupReq_untouched_iff {p : TdlsPeer} (inp : Bytes) (anonce : Octets 32) (cap : Nat) :
    (TdlsCall.setupReq inp anonce cap).RefusedUntouched p ↔
      ¬(TdlsCall.setupReq inp anonce cap).Spills p := by
  by_cases passes : ∃ req, SetupReqPasses p inp req
  · obtain ⟨req, passes⟩ := passes
    have outcome := tdlsOnSetupReq_passes passes anonce cap
    rw [tdlsSetupRespBuild_eq] at outcome
    refine spill_iff passes ?_ TdlsPeer.requested_eq_self outcome
    intro req' passes'
    exact Option.some.inj (passes'.parsed.symm.trans passes.parsed)
  · unfold TdlsCall.RefusedUntouched TdlsCall.run
    dsimp only
    rw [tdlsOnSetupReq_refused passes]
    exact iff_of_true (fun _ => rfl) fun ⟨_, req, spills, _⟩ => passes ⟨req, spills⟩

theorem setupResp_untouched_iff {p : TdlsPeer} (inp : Bytes) (cap : Nat) :
    (TdlsCall.setupResp inp cap).RefusedUntouched p ↔
      ¬(TdlsCall.setupResp inp cap).Spills p := by
  by_cases passes : ∃ resp, SetupRespPasses p inp resp
  · obtain ⟨resp, passes⟩ := passes
    have outcome := tdlsOnSetupResp_passes passes cap
    rw [tdlsSetupConfirmBuild_eq] at outcome
    refine spill_iff passes ?_ TdlsPeer.responded_eq_self outcome
    intro resp' passes'
    exact Option.some.inj (passes'.parsed.symm.trans passes.parsed)
  · unfold TdlsCall.RefusedUntouched TdlsCall.run
    dsimp only
    rw [tdlsOnSetupResp_refused passes]
    exact iff_of_true (fun _ => rfl) fun ⟨_, resp, spills, _⟩ => passes ⟨resp, spills⟩

theorem setupConfirm_untouched (p : TdlsPeer) (inp : Bytes) :
    (TdlsCall.setupConfirm inp).RefusedUntouched p := by
  unfold TdlsCall.RefusedUntouched TdlsCall.run
  dsimp only
  by_cases passes : ∃ conf, SetupConfirmPasses p inp conf
  · obtain ⟨conf, passes⟩ := passes
    rw [tdlsOnSetupConfirm_passes passes]
    intro refused
    cases refused
  · rw [tdlsOnSetupConfirm_refused passes]
    exact fun _ => rfl

theorem teardown_untouched (p : TdlsPeer) (inp : Bytes) :
    (TdlsCall.teardown inp).RefusedUntouched p := by
  unfold TdlsCall.RefusedUntouched TdlsCall.run
  dsimp only
  by_cases passes : ∃ td, TeardownPasses p inp td
  · obtain ⟨td, passes⟩ := passes
    rw [tdlsOnTeardown_passes passes]
    intro refused
    cases refused
  · rw [tdlsOnTeardown_refused passes]
    exact fun _ => rfl

/-- A refused message leaves the peer untouched unless it spills: a confirmation or a teardown
always does, a request or a response exactly when its checks fail, its answer fits, or the peer
holds already what it brings. -/
theorem tdls_refused_untouched_iff (p : TdlsPeer) (call : TdlsCall) :
    call.RefusedUntouched p ↔ ¬call.Spills p := by
  cases call with
  | setupReq inp anonce cap => exact setupReq_untouched_iff inp anonce cap
  | setupResp inp cap => exact setupResp_untouched_iff inp cap
  | setupConfirm inp => exact iff_of_true (setupConfirm_untouched p inp) not_false
  | teardown inp => exact iff_of_true (teardown_untouched p inp) not_false

/-- A good request with no room for the answer leaves an idle responder keyed. -/
theorem tdls_refused_keyed :
    ¬∀ (p : TdlsPeer) (call : TdlsCall), call.RefusedUntouched p := by
  intro untouched
  let req : TdlsSetupReq :=
    { dialogToken := 1, capInfo := 0, keyLifetime := 0, lid := TdlsLinkId.empty
      ftie := { mic := Octets.zero 16, anonce := Octets.zero 32, snonce := Octets.zero 32 } }
  have passes : SetupReqPasses TdlsPeer.empty (tdlsSetupReqOf req) req :=
    ⟨rfl, rfl, tdlsSetupReqParse_of req, rfl⟩
  have outcome := tdlsOnSetupReq_passes passes (Octets.zero 32) 0
  rw [tdlsSetupRespBuild_eq, if_neg (by decide)] at outcome
  have same := untouched TdlsPeer.empty (.setupReq (tdlsSetupReqOf req) (Octets.zero 32) 0)
  unfold TdlsCall.RefusedUntouched TdlsCall.run at same
  dsimp only at same
  rw [outcome] at same
  have keyed := congrArg TdlsPeer.haveTpk (same rfl)
  cases keyed

end Refusals

end Rf2a4m1
