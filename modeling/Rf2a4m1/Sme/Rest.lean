import Rf2a4m1.Sme.Effect
import Rf2a4m1.Wire.SaQuery

/-!
# State outside the core that few handlers touch

The OWE key pair is spent by an association, the SA Query moves by its own
calls, and a first message that comes early is kept until the association.
Everything else leaves the three alone.
-/

set_option autoImplicit false

namespace Rf2a4m1

open ByteString Runs

structure SmeRest where
  oweKpOk : Bool
  saQuery : PmfSaQuery
  earlyM1 : Option Bytes

def Sme.rest (s : Sme) : SmeRest :=
  { oweKpOk := s.oweKpOk, saQuery := s.saQuery, earlyM1 := s.earlyM1 }

section Exchange

variable (env : Env) (s : Sme)

theorem saQueryTx_rest (body : Bytes) : (saQueryTx s body).rest = s.rest := by
  unfold saQueryTx
  split <;> rfl

theorem ftTx_rest (type : FrameType) (payload : Bytes) : (ftTx s type payload).rest = s.rest := by
  unfold ftTx
  split <;> rfl

theorem apQosNegotiate_rest (ies : Bytes) : (apQosNegotiate s ies).rest = s.rest := by
  unfold apQosNegotiate
  split <;> rfl

theorem staQosNegotiate_aside (ies : Bytes) : (staQosNegotiate s ies).rest = s.rest := by
  unfold staQosNegotiate qosApplyLmac
  split
  · rfl
  split
  · rfl
  · split <;> rfl

theorem saeCommitLoop_rest (pt : Octets 64) (fuel : Nat) (attempt : UInt64) :
    (saeCommitLoop env pt fuel attempt s).1.rest = s.rest := by
  induction fuel generalizing attempt s with
  | zero => rfl
  | succ fuel ih =>
    unfold saeCommitLoop
    dsimp only
    split
    · rfl
    · exact ih _ _

theorem smeSaeTxCommit_rest : (smeSaeTxCommit env s).1.rest = s.rest := by
  unfold smeSaeTxCommit
  split
  · rfl
  split
  · rfl
  rename_i pt _
  have drawn := saeCommitLoop_rest env s pt 16 0
  dsimp only
  split
  · exact drawn
  split
  · exact drawn
  · exact drawn

theorem startAuth_rest : (startAuth env s).rest = s.rest := by
  unfold startAuth
  split
  · dsimp only
    split
    · exact smeSaeTxCommit_rest env s
    · exact smeSaeTxCommit_rest env s
  · rfl

theorem rxBssAnnounce_rest (h : MgmtHdr) : (rxBssAnnounce env s h).rest = s.rest := by
  unfold rxBssAnnounce
  split
  · rfl
  split
  · rfl
  split
  · rfl
  rename_i bi t found
  have same : t.rest = s.rest := by
    obtain ⟨bi', _, announced⟩ := Option.bind_eq_some_iff.1 found
    obtain ⟨t', adopted, eq⟩ := Option.map_eq_some_iff.1 announced
    obtain ⟨rfl, rfl⟩ := Prod.mk.inj eq
    unfold announceSsid at adopted
    split at adopted
    · split at adopted
      · cases adopted
        rfl
      · cases adopted
    · cases adopted
      rfl
  dsimp only
  rw [startAuth_rest]
  split
  · rw [pmfNegotiateIes_eq]
    exact same
  · exact same

theorem smeSaeRxAuth_rest (h : MgmtHdr) : (smeSaeRxAuth s h).rest = s.rest := by
  unfold smeSaeRxAuth smeSaeOnCommit smeSaeOnConfirm smeSaeTxConfirm
  dsimp only
  repeat' split
  all_goals rfl

theorem rxRobustMgmt_rest (frame : Bytes) : (rxRobustMgmt s frame).rest = s.rest := by
  have torn (t : Sme) : (teardown t).rest = t.rest := by
    unfold teardown
    split <;> rfl
  unfold rxRobustMgmt
  dsimp only
  repeat' split
  all_goals first | rfl | exact torn _

end Exchange

section Keys

variable (env : Env) (s : Sme)

theorem smeFtEstablish_rest : (smeFtEstablish s).rest = s.rest := by
  unfold smeFtEstablish
  repeat' split
  all_goals rfl

theorem smeInstallKeys_rest : (smeInstallKeys s).rest = s.rest := by
  unfold smeInstallKeys smeInstallDataKey
  split <;> rfl

theorem connectAndEstablish_rest : (connectAndEstablish s).rest = s.rest :=
  smeFtEstablish_rest { s with connected := true, state := .connected }

theorem apGroupKeys_rest : (apGroupKeys env s).rest = s.rest := by
  unfold apGroupKeys
  dsimp only
  repeat' split
  all_goals rfl

theorem apOnAssocReq_rest (ies : Bytes) : (apOnAssocReq env s ies).rest = s.rest := by
  unfold apOnAssocReq
  rw [pmfNegotiateIes_eq]
  dsimp only
  split
  · exact apQosNegotiate_rest s ies
  · exact apQosNegotiate_rest s ies

theorem apOnM2_rest (pdu : Bytes) : (apOnM2 env s pdu).rest = s.rest := by
  have sent (t : Sme) : (apSendM3 env t).rest = t.rest := by
    unfold apSendM3
    dsimp only
    split
    · exact apGroupKeys_rest env t
    · exact apGroupKeys_rest env t
  unfold apOnM2
  dsimp only
  repeat' split
  all_goals first | rfl | exact sent _

theorem apOnM4_rest (pdu : Bytes) : (apOnM4 env s pdu).rest = s.rest := by
  unfold apOnM4
  split
  · rfl
  split
  · rfl
  · exact (connectAndEstablish_rest _).trans (smeInstallKeys_rest s)

theorem staOnM3_rest (pdu : Bytes) : (staOnM3 env s pdu).rest = s.rest := by
  have accept (t : Sme) (replay : Nat) (gtk : Octets 16) :
      (staAcceptM3 env t replay gtk).rest = t.rest := by
    unfold staAcceptM3
    exact (connectAndEstablish_rest _).trans
      (smeInstallKeys_rest { t with replay := replay, gtk := gtk })
  have mfp (t : Sme) (kde : Bytes) : (staM3Mfp t kde).rest = t.rest := by
    obtain ⟨fails, eq⟩ := staM3Mfp_eq t kde
    rw [eq]
    rfl
  have keys (t : Sme) (replay : Nat) (kde : Bytes) :
      (staM3Keys env t replay kde).rest = t.rest := by
    unfold staM3Keys
    dsimp only
    repeat' split
    all_goals first
      | rfl
      | exact mfp t kde
      | exact (accept _ replay _).trans (mfp t kde)
      | exact accept t replay _
  unfold staOnM3
  dsimp only
  repeat' split
  all_goals first | rfl | exact keys _ _ _

theorem staOnM1_rest (pdu : Bytes) : (staOnM1 env s pdu).rest = s.rest := by
  unfold staOnM1
  cases smeEapolKeyDecode pdu with
  | none => rfl
  | some k =>
    dsimp only
    unfold staSnonce
    split <;> rfl

theorem staOnAuthResp_rest : (staOnAuthResp s).rest = s.rest := by
  unfold staOnAuthResp
  split <;> rfl

theorem staOnProbeResp_rest (src : MacAddr) : (staOnProbeResp env s src).rest = s.rest := by
  unfold staOnProbeResp
  split
  · rfl
  · exact startAuth_rest env { s with peer := src }

end Keys

section Transition

variable (env : Env) (s : Sme)

theorem ftTxReassoc_rest (type : FrameType) (seq : UInt8) (r1kh : MacAddr) (extra : Bytes) :
    (ftTxReassoc env s type seq r1kh extra).rest = s.rest := by
  unfold ftTxReassoc
  dsimp only
  repeat' split
  all_goals first | rfl | exact ftTx_rest _ _ _

theorem ftConnect_rest : (ftConnect s).rest = s.rest := smeInstallKeys_rest s

theorem ftApOnAuth1_rest (src : MacAddr) (body : Bytes) :
    (ftApOnAuth1 env s src body).rest = s.rest := by
  have answered (t : Sme) : (ftTxAuth2 t).rest = t.rest := by
    unfold ftTxAuth2
    split
    · rfl
    · exact ftTx_rest _ _ _
  unfold ftApOnAuth1
  dsimp only
  repeat' split
  all_goals first | rfl | exact answered _

theorem ftApOnReassoc_rest (body : Bytes) : (ftApOnReassoc env s body).rest = s.rest := by
  have ric (t : Sme) (region : Bytes) : (ftApRic t region).2.rest = t.rest := by
    unfold ftApRic
    split <;> rfl
  have accept (t : Sme) (region : Bytes) : (ftApAccept env t region).rest = t.rest := by
    unfold ftApAccept
    dsimp only
    split
    · exact ric t region
    · exact (ftConnect_rest _).trans ((ftTxReassoc_rest env _ _ _ _ _).trans (ric t region))
  unfold ftApOnReassoc
  dsimp only
  repeat' split
  all_goals first | rfl | exact accept _ _

theorem ftApOnDsRequest_rest (sib : Siblings) (body : Bytes) :
    (ftApOnDsRequest env sib s body).1.rest = s.rest := by
  unfold ftApOnDsRequest
  dsimp only
  repeat' split
  all_goals first | rfl | exact ftTx_rest _ _ _

theorem ftDsTargetProcess_rest (sta target : MacAddr) (snonce pmkR1 : Octets 32)
    (name : Octets 16) (cap : Nat) :
    (ftDsTargetProcess env s sta target snonce pmkR1 name cap).1.rest = s.rest := by
  unfold ftDsTargetProcess
  dsimp only
  repeat' split
  all_goals rfl

theorem ftStaOnAuth2_rest (body : Bytes) : (ftStaOnAuth2 env s body).rest = s.rest := by
  unfold ftStaOnAuth2 ftStaDerive ftTxReassocReq
  dsimp only
  repeat' split
  all_goals first | rfl | exact ftTxReassoc_rest env _ _ _ _ _

theorem ftStaOnDsResponse_rest (body : Bytes) : (ftStaOnDsResponse env s body).rest = s.rest := by
  unfold ftStaOnDsResponse
  repeat' split
  all_goals first | rfl | exact ftStaOnAuth2_rest env s _

theorem ftStaOnReassoc_rest (body : Bytes) : (ftStaOnReassoc env s body).rest = s.rest := by
  have ric (t : Sme) (region : Bytes) : (ftStaRic t region).2.rest = t.rest := by
    unfold ftStaRic
    repeat' split
    all_goals rfl
  unfold ftStaOnReassoc
  dsimp only
  repeat' split
  all_goals first
    | rfl
    | exact ric _ _
    | exact (ftConnect_rest _).trans (ric _ _)

theorem smeFtRoam_rest (target : MacAddr) : (smeFtRoam env s target).1.rest = s.rest := by
  unfold smeFtRoam ftTxAuth1
  repeat' split
  all_goals first | rfl | exact ftTx_rest _ _ _

theorem smeFtRoamOverDs_rest (target : MacAddr) :
    (smeFtRoamOverDs env s target).1.rest = s.rest := by
  unfold smeFtRoamOverDs ftTxDsRequest
  repeat' split
  all_goals rfl

end Transition

section Link

variable (env : Env) (s : Sme) (body : Bytes)

theorem saQueryRespond_rest : (saQueryRespond s body).rest = s.rest := by
  unfold saQueryRespond saQueryStaRespond
  repeat' split
  all_goals first | rfl | exact saQueryTx_rest s _

theorem baApOnAddbaReq_rest : (baApOnAddbaReq s body).rest = s.rest := by
  unfold baApOnAddbaReq
  dsimp only
  repeat' split
  all_goals rfl

theorem staOnAddbaRsp_rest : (staOnAddbaRsp s body).rest = s.rest := by
  unfold staOnAddbaRsp
  split <;> rfl

theorem addtsApOnReq_rest : (addtsApOnReq s body).rest = s.rest := by
  unfold addtsApOnReq
  dsimp only
  repeat' split
  all_goals rfl

theorem addtsStaOnResp_rest : (addtsStaOnResp s body).rest = s.rest := by
  unfold addtsStaOnResp
  split <;> rfl

theorem addtsOnDelts_rest : (addtsOnDelts s body).rest = s.rest := by
  unfold addtsOnDelts
  split <;> rfl

theorem tdlsEncapTx_rest : (tdlsEncapTx env s body).rest = s.rest := by
  unfold tdlsEncapTx
  split <;> rfl

theorem tdlsStaDeliver_rest : (tdlsStaDeliver env s body).rest = s.rest := by
  have answer (t : Sme) (r : TdlsPeer × Option Bytes) : (tdlsAnswer env t r).rest = t.rest := by
    unfold tdlsAnswer
    split
    · rfl
    · exact tdlsEncapTx_rest env { t with tdls := r.1, tdlsRx := t.tdlsRx + 1 } _
  have respond (req : TdlsSetupReq) : (tdlsRespond s req).rest = s.rest := by
    unfold tdlsRespond
    split <;> rfl
  unfold tdlsStaDeliver tdlsOnReq
  dsimp only
  repeat' split
  all_goals first
    | rfl
    | exact answer s _
    | exact (answer _ _).trans (respond _)

theorem rxData_rest (sib : Siblings) (inp : Bytes) : (rxData env sib s inp).1.rest = s.rest := by
  unfold rxData routeData
  dsimp only
  repeat' split
  all_goals first | rfl | exact tdlsStaDeliver_rest env _ _

theorem rxQosData_rest (inp : Bytes) : (rxQosData env s inp).rest = s.rest := by
  unfold rxQosData
  dsimp only
  repeat' split
  all_goals rfl

end Link

/-- What an event can do to this part of the state. -/
inductive RestStep (s : Sme) : SmeEvent → SmeRest → Prop where
  | same (e : SmeEvent) : RestStep s e s.rest
  | query (e : SmeEvent) (q : SaqOp) :
      RestStep s e { s.rest with saQuery := saqStep s.saQuery q }
  | stash {inp : Bytes} (early : s.state ≠ .assoced ∧ s.state ≠ .fourWay) (pdu : Bytes) :
      RestStep s (.handle .m1 inp) { s.rest with earlyM1 := some pdu }
  | associate {inp : Bytes} (oweKpOk : Bool) (earlyM1 : Option Bytes)
      (spent : s.oweKpOk = false → oweKpOk = false) :
      RestStep s (.handle .assocResp inp) { s.rest with oweKpOk := oweKpOk, earlyM1 := earlyM1 }

section Step

variable (env : Env) (s : Sme)

theorem RestStep.of_eq {s : Sme} {e : SmeEvent} {r : SmeRest} (eq : r = s.rest) : RestStep s e r :=
  eq ▸ .same e

/-- The AID is not looked at. -/
theorem RestStep.of_aid {s : Sme} {aid : UInt16} {e : SmeEvent} {r : SmeRest}
    (h : RestStep { s with aid := aid } e r) : RestStep s e r := by
  cases h with
  | same => exact .same e
  | query _ q => exact .query e q
  | stash early pdu => exact @RestStep.stash s _ early pdu
  | associate ok early spent => exact @RestStep.associate s _ ok early spent

theorem pmfApOnSpuriousReassoc_rest (src : MacAddr) :
    (pmfApOnSpuriousReassoc s src).rest =
      if s.role ≠ .ap ∨ !s.mfpActive ∨ s.state ≠ .connected ∨ src ≠ s.peer then s.rest
      else { s.rest with saQuery := (pmfSaQueryStart s.saQuery 4).1 } := by
  unfold pmfApOnSpuriousReassoc
  by_cases outside : s.role ≠ .ap ∨ !s.mfpActive ∨ s.state ≠ .connected
  · rw [if_pos outside, if_pos (by tauto)]
  rw [if_neg outside]
  by_cases other : src ≠ s.peer
  · rw [if_pos other, if_pos (by tauto)]
  rw [if_neg other, if_neg (by tauto)]
  rfl

theorem smeSaQueryTick_rest :
    (smeSaQueryTick s).rest =
      if s.role ≠ .ap ∨ !s.mfpActive then s.rest
      else { s.rest with saQuery := (pmfSaQueryTick s.saQuery 4).1 } := by
  unfold smeSaQueryTick
  split
  · rfl
  dsimp only
  split
  · rfl
  · exact saQueryTx_rest _ _

theorem apOnSaQueryResp_rest (body : Bytes) :
    (apOnSaQueryResp s body).rest =
      if s.mfpActive then { s.rest with saQuery := (pmfSaQueryOnResponse s.saQuery body).1 }
      else s.rest := by
  unfold apOnSaQueryResp
  cases s.mfpActive with
  | false => rfl
  | true =>
    rcases s.saQuery.onResponse_eq body with ⟨_, _, eq⟩ | ⟨_, eq⟩
    · rw [eq]
      rfl
    · rw [eq]
      rfl

theorem staOnSaQueryResp_rest (body : Bytes) :
    (staOnSaQueryResp s body).rest =
      if s.mfpActive then { s.rest with saQuery := (pmfSaQueryOnResponse s.saQuery body).1 }
      else s.rest := by
  unfold staOnSaQueryResp
  cases s.mfpActive with
  | false => rfl
  | true =>
    rcases s.saQuery.onResponse_eq body with ⟨_, _, eq⟩ | ⟨_, eq⟩
    · rw [eq]
      rfl
    · rw [eq]
      rfl

theorem staRxM1_rest (pdu : Bytes) :
    (staRxM1 env s pdu).rest = s.rest ∨
      (s.state ≠ .assoced ∧ s.state ≠ .fourWay) ∧
        (staRxM1 env s pdu).rest = { s.rest with earlyM1 := some pdu } := by
  unfold staRxM1
  split
  · exact Or.inl rfl
  split
  · rename_i early
    split
    · exact Or.inl rfl
    · exact Or.inr ⟨early, rfl⟩
  · exact Or.inl (staOnM1_rest env s pdu)

/-- An association takes the early message over and may spend the OWE key pair. -/
theorem staOnAssocResp_rest (ies : Bytes) :
    ∃ oweKpOk earlyM1, (s.oweKpOk = false → oweKpOk = false) ∧
      (staOnAssocResp env s ies).rest =
        { s.rest with oweKpOk := oweKpOk, earlyM1 := earlyM1 } := by
  have taken (t : Sme) : ∃ early, (staAssoced env t).rest = { t.rest with earlyM1 := early } := by
    unfold staAssoced
    dsimp only
    split
    · exact ⟨t.earlyM1, rfl⟩
    · exact ⟨none, staOnM1_rest env _ _⟩
  have owe (t : Sme) : ∃ ok, (t.oweKpOk = false → ok = false) ∧
      (smeOweOnAssocResp t ies).1.rest = { t.rest with oweKpOk := ok } := by
    unfold smeOweOnAssocResp
    dsimp only
    repeat' split
    all_goals first
      | exact ⟨t.oweKpOk, id, rfl⟩
      | exact ⟨false, fun _ => rfl, rfl⟩
  have rest := staQosNegotiate_aside s ies
  unfold staOnAssocResp
  rw [pmfNegotiateIes_eq]
  dsimp only
  split
  · exact ⟨s.oweKpOk, s.earlyM1, id, rest⟩
  set u : Sme := { staQosNegotiate s ies with
    toSmePmf := ((staQosNegotiate s ies).toSmePmf.negotiate ies).1 }
  have uRest : u.rest = s.rest := rest
  split
  · obtain ⟨ok, spent, eq⟩ := owe u
    have spent : s.oweKpOk = false → ok = false := fun no =>
      spent ((congrArg SmeRest.oweKpOk uRest).trans no)
    rw [uRest] at eq
    split
    · obtain ⟨early, taken⟩ := taken (smeOweOnAssocResp u ies).1
      rw [eq] at taken
      exact ⟨ok, early, spent, taken⟩
    · exact ⟨ok, s.earlyM1, spent, eq⟩
  · obtain ⟨early, taken⟩ := taken u
    rw [uRest] at taken
    rw [if_pos rfl]
    exact ⟨s.oweKpOk, early, id, taken⟩

theorem apHandle_rest (type : FrameType) (src : MacAddr) (inp body : Bytes) (e : SmeEvent) :
    RestStep s e (apHandle env s type src inp body).rest := by
  unfold apHandle
  cases type with
  | assocReq => exact .of_eq (apOnAssocReq_rest env s body)
  | m2 => exact .of_eq (apOnM2_rest env s body)
  | m4 => exact .of_eq (apOnM4_rest env s body)
  | qosData => exact .of_eq (rxQosData_rest env s inp)
  | ftAuth1 =>
    dsimp only
    split
    · exact .of_eq (ftApOnAuth1_rest env s src body)
    · exact .same _
  | ftReassocReq =>
    dsimp only
    split
    · exact .of_eq (ftApOnReassoc_rest env s body)
    · exact .same _
  | addbaReq => exact .of_eq (baApOnAddbaReq_rest s body)
  | addtsReq => exact .of_eq (addtsApOnReq_rest s body)
  | delts => exact .of_eq (addtsOnDelts_rest s body)
  | reassocReq =>
    dsimp only
    rw [pmfApOnSpuriousReassoc_rest]
    split
    · exact .same _
    · exact .query _ (.start 4)
  | saQueryResp =>
    dsimp only
    rw [apOnSaQueryResp_rest]
    split
    · exact .query _ (.response body)
    · exact .same _
  | saQueryReq => exact .of_eq (saQueryRespond_rest s body)
  | _ => exact .same _

theorem staHandle_rest (type : FrameType) (src : MacAddr) (inp body : Bytes) :
    RestStep s (.handle type inp) (staHandle env s type src inp body).rest := by
  unfold staHandle
  cases type with
  | probeResp => exact .of_eq (staOnProbeResp_rest env s src)
  | authResp => exact .of_eq (staOnAuthResp_rest s)
  | assocResp =>
    obtain ⟨ok, early, spent, eq⟩ := staOnAssocResp_rest env s body
    dsimp only
    rw [eq]
    exact .associate ok early spent
  | m1 =>
    dsimp only
    rcases staRxM1_rest env s body with same | ⟨early, stashed⟩
    · exact .of_eq same
    · rw [stashed]
      exact .stash early body
  | m3 => exact .of_eq (staOnM3_rest env s body)
  | qosData => exact .of_eq (rxQosData_rest env s inp)
  | ftAuth2 =>
    dsimp only
    split
    · exact .of_eq (ftStaOnAuth2_rest env s body)
    · exact .same _
  | ftReassocResp =>
    dsimp only
    split
    · exact .of_eq (ftStaOnReassoc_rest env s body)
    · exact .same _
  | ftDsResp =>
    dsimp only
    split
    · exact .of_eq (ftStaOnDsResponse_rest env s body)
    · exact .same _
  | addbaRsp => exact .of_eq (staOnAddbaRsp_rest s body)
  | addtsRsp => exact .of_eq (addtsStaOnResp_rest s body)
  | delts => exact .of_eq (addtsOnDelts_rest s body)
  | saQueryReq => exact .of_eq (saQueryRespond_rest s body)
  | saQueryResp =>
    dsimp only
    rw [staOnSaQueryResp_rest]
    split
    · exact .query _ (.response body)
    · exact .same _
  | _ => exact .same _

theorem rxAct_rest (sib : Siblings) (frame : Bytes) (k : RxKind) :
    RestStep s (k.event frame) (rxAct env sib s frame k).1.rest := by
  cases k with
  | robust => exact .of_eq (rxRobustMgmt_rest s frame)
  | announce h => exact .of_eq (rxBssAnnounce_rest env s h)
  | sae h => exact .of_eq (smeSaeRxAuth_rest s h)
  | handle aid type inp =>
    unfold rxAct smeHandle
    dsimp only
    split
    · unfold apDemux
      split
      · exact .of_eq (rxData_rest env _ sib inp)
      · split
        · exact .of_eq (ftApOnDsRequest_rest env _ sib _)
        · exact .same _
      · exact (apHandle_rest env { s with aid := aid.getD s.aid } type _ _ _ _).of_aid
    · unfold staDemux
      split
      · exact .of_eq (rxData_rest env _ sib inp)
      · exact (staHandle_rest env { s with aid := aid.getD s.aid } type _ inp _).of_aid
  | _ => exact .same _

theorem smeStep_rest (op : SmeOp) :
    RestStep s (smeEvent s op) (smeStep env s op).rest := by
  have grouped (subtype : UInt8) (reason : UInt16) :
      (txProtectedGroupMgmt s subtype reason).1.rest = s.rest := by
    unfold txProtectedGroupMgmt
    repeat' split
    all_goals rfl
  cases op with
  | rx sib frame =>
    unfold smeStep
    dsimp only
    rw [smeRx_eq]
    exact rxAct_rest env s sib frame _
  | rxMgmt frame =>
    unfold smeStep smeRxMgmt
    dsimp only
    split
    · exact .same _
    · exact .of_eq (rxRobustMgmt_rest s frame)
  | rxSpuriousReassoc src =>
    unfold smeStep
    dsimp only
    rw [pmfApOnSpuriousReassoc_rest]
    split
    · exact .same _
    · exact .query _ (.start 4)
  | set c => cases c <;> exact .same _
  | connectStart =>
    unfold smeStep smeConnectStart
    dsimp only
    split <;> exact .same _
  | dataTx payload =>
    unfold smeStep smeDataTx
    dsimp only
    repeat' split
    all_goals exact .same _
  | dataTxQos payload up =>
    unfold smeStep smeDataTxQos smeDataTx
    dsimp only
    repeat' split
    all_goals exact .same _
  | addtsRequest tsid ac direction mediumTime =>
    unfold smeStep smeAddtsRequest
    dsimp only
    repeat' split
    all_goals exact .same _
  | delts tsid =>
    unfold smeStep smeDelts
    dsimp only
    repeat' split
    all_goals exact .same _
  | txProtectedDeauth reason => exact .of_eq (grouped 12 reason)
  | txProtectedDisassoc reason => exact .of_eq (grouped 10 reason)
  | saQueryTick =>
    unfold smeStep
    dsimp only
    rw [smeSaQueryTick_rest]
    split
    · exact .same _
    · exact .query _ (.tick 4)
  | ftEstablish => exact .of_eq (smeFtEstablish_rest s)
  | ftRoam target => exact .of_eq (smeFtRoam_rest env s target)
  | ftRoamOverDs target => exact .of_eq (smeFtRoamOverDs_rest env s target)
  | baEstablish tid =>
    unfold smeStep smeBaEstablish
    dsimp only
    repeat' split
    all_goals exact .same _
  | dsPush sta target snonce pmkR1 name =>
    exact .of_eq (ftDsTargetProcess_rest env s sta target snonce pmkR1 name 260)
  | relay body => exact .of_eq (tdlsEncapTx_rest env s body)

end Step

section Runs

variable {env : Env} {s t : Sme}

/-- A key pair that is spent stays spent. -/
theorem smeStep_oweKpOk (spent : s.oweKpOk = false) (op : SmeOp) :
    (smeStep env s op).oweKpOk = false := by
  have step := smeStep_rest env s op
  have here : (smeStep env s op).oweKpOk = (smeStep env s op).rest.oweKpOk := rfl
  rw [here]
  revert step
  generalize smeEvent s op = e
  generalize (smeStep env s op).rest = r
  intro step
  cases step with
  | associate ok early stays => exact stays spent
  | _ => exact spent

/-- The query of an SME only ever moves by the calls of the query itself. -/
theorem smeStep_saQuery (op : SmeOp) :
    (smeStep env s op).saQuery = s.saQuery ∨
      ∃ q, (smeStep env s op).saQuery = saqStep s.saQuery q := by
  have step := smeStep_rest env s op
  have here : (smeStep env s op).saQuery = (smeStep env s op).rest.saQuery := rfl
  rw [here]
  revert step
  generalize smeEvent s op = e
  generalize (smeStep env s op).rest = r
  intro step
  cases step with
  | query _ q => exact Or.inr ⟨q, rfl⟩
  | _ => exact Or.inl rfl

/-- In every reachable state the query is sound and has the limits it was set up with. -/
theorem smeReach_saQuery {role : SmeRole} {self : MacAddr} {pmk : Octets 32} {salt : UInt64}
    {config : SmeConfig}
    (reach : Reach (smeStep env) (smeConfigure (smeInit role self pmk salt) config) s) :
    s.saQuery.Sound ∧ s.saQuery.maxRetries = 3 ∧ s.saQuery.timeoutTicks = 1 := by
  refine reach.invariant
    (fun s => s.saQuery.Sound ∧ s.saQuery.maxRetries = 3 ∧ s.saQuery.timeoutTicks = 1)
    ⟨.init 3 1, rfl, rfl⟩ ?_
  intro t op inv _
  rcases @smeStep_saQuery env t op with same | ⟨q, eq⟩
  · rw [same]
    exact inv
  · obtain ⟨attempts, window, _⟩ := t.saQuery.step_fixed q
    rw [eq, attempts, window]
    exact ⟨inv.1.step q, inv.2⟩

end Runs

end Rf2a4m1
