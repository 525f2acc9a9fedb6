import Rf2a4m1.Sme.Demo
import Rf2a4m1.Sme.Stash

/-!
# Frames of other stations while connecting

Which Authentication, Association Response and announcement frames from
neither the peer nor its BSS a connecting station heeds all the same.
-/

set_option autoImplicit false

namespace Rf2a4m1

open ByteString Runs

/-- A station on its way to a known AP. -/
structure Connecting (s : Sme) : Prop where
  role : s.role = .sta
  state : s.state = .scanning ∨ s.state = .authed ∨ s.state = .assoced ∨ s.state = .fourWay
  peer : macIsZero s.peer = false

/-- An answer or announcement that is neither from the peer nor of its BSS. -/
structure Foreign (s : Sme) (frame : Bytes) (h : MgmtHdr) : Prop where
  parsed : mgmtParseHdr frame = some h
  subtype : h.subtype = 11 ∨ h.subtype = 1 ∨ h.subtype = 3 ∨ h.subtype = 8 ∨ h.subtype = 5
  transmitter : h.addr2 ≠ s.peer
  bssid : h.addr3 ≠ s.peer

/-- What a connection attempt is made of. -/
structure Unmoved (s t : Sme) : Prop where
  state : t.state = s.state
  peer : t.peer = s.peer
  aid : t.aid = s.aid
  pmk : t.pmk = s.pmk
  ptk : t.ptk = s.ptk
  sae : t.toSmeSae = s.toSmeSae
  owe : t.toSmeOwe = s.toSmeOwe
  mfpActive : t.mfpActive = s.mfpActive
  qosEnabled : t.qosEnabled = s.qosEnabled
  edca : t.edca = s.edca

theorem Unmoved.refl (s : Sme) : Unmoved s s := ⟨rfl, rfl, rfl, rfl, rfl, rfl, rfl, rfl, rfl, rfl⟩

/-- A frame body that fits the internal form. -/
def fitsView (body : Bytes) : Prop := smePfxLen + body.length ≤ smeRxViewMax

/-- An SAE message of the phase the station is in, which it does not drop. -/
def HeedsSae (s : Sme) (body : Bytes) (a : AuthFixed) : Prop :=
  s.state = .scanning ∧
    (a.txn = 1 ∧ s.saePhase = 1 ∧ (a.status = 0 ∨ a.status = 126) ∧
        (mgmtParseAuthSaeCommit body).isSome = true ∨
      a.txn = 2 ∧ s.saePhase = 2 ∧ a.status = 0)

/-- A refusal in any state, and an open-system answer while scanning. -/
def HeedsAuth (s : Sme) (body : Bytes) : Prop :=
  ∃ a, mgmtParseAuth body = some a ∧
    (a.algo = 0 ∧ a.txn = 2 ∧ (a.status ≠ 0 ∨ s.state = .scanning ∧ fitsView (body.drop 6)) ∨
      a.algo = 3 ∧ HeedsSae s body a)

/-- The elements repeat what the station agreed on when it associated. -/
structure Repeats (s : Sme) (ies : Bytes) : Prop where
  state : s.state = .assoced
  akm : s.akm ≠ .owe
  qos : s.qosAdvertise = true → ∀ p, (qosScanIes ies).edca = some p → s.edca = p ∧ s.qosEnabled = true
  pmf : ∀ i, firstRsne ies = some i →
    pmfNegotiate s.pmfMode i.rsnCaps = (pmfStatusSuccess, s.mfpActive)

/-- A refusal, another AID, and the elements of an Association Response that say anything new. -/
def HeedsAssocResp (s : Sme) (h : MgmtHdr) : Prop :=
  ∃ r, mgmtParseAssocResp h.body = some r ∧
    (r.status ≠ 0 ∨ r.aid ≠ s.aid ∨
      h.subtype = 1 ∧ fitsView (h.body.drop 6) ∧ ¬Repeats s (h.body.drop 6))

/-- The foreign frames that a connecting station heeds; the length is what the driver looks at. -/
def Heeds (s : Sme) (frame : Bytes) (h : MgmtHdr) : Prop :=
  frame.length ≤ 0xffff ∧
    (h.subtype = 11 ∧ HeedsAuth s h.body ∨
      (h.subtype = 1 ∨ h.subtype = 3) ∧ HeedsAssocResp s h)

section Receive

variable {env : Env} {sib : Siblings} {s : Sme} {frame : Bytes} {h : MgmtHdr}

theorem Connecting.live (connecting : Connecting s) : s.state ≠ .failed ∧ s.state ≠ .connected := by
  rcases connecting.state with here | here | here | here <;> rw [here] <;> decide

theorem smeRx_mgmt (parsed : mgmtParseHdr frame = some h) (live : s.state ≠ .failed)
    (short : frame.length ≤ 0xffff) :
    smeRx env sib s frame = rxDot11Mgmt env sib s frame h := by
  rw [smeRx_eq, rxKind_mgmt parsed live short, mgmtKind_act]

/-- A view that fits reaches the handlers of a connecting station. -/
theorem demuxView_connecting (connecting : Connecting s) {type : FrameType} (other : type ≠ .data)
    (src : MacAddr) (body : Bytes) :
    (demuxView env sib s type src body).1 =
      if smePfxLen + body.length > smeRxViewMax then s
      else staHandle env s type src (smePfx type src ++ body) body := by
  obtain ⟨live, down⟩ := connecting.live
  have notAp : s.role ≠ .ap := by
    rw [connecting.role]
    decide
  have src' := frameSrc_smePfx type src body
  have body' := frameBody_smePfx type src body
  unfold frameSrc at src'
  unfold frameBody at body'
  unfold demuxView
  split
  · rfl
  · have long : ¬((smePfx type src ++ body).length < smePfxLen ∨ s.state = .failed) := by
      rw [List.length_append, smePfx_length]
      unfold smePfxLen
      rintro (short | failed)
      · omega
      · exact live failed
    unfold smeDemux
    rw [if_neg long, if_neg (fun up => down up.1), if_neg notAp, src', body']
    unfold staDemux
    cases type <;> first | rfl | exact absurd rfl other

theorem Unmoved.of_ne {t : Sme} (moved : t.state ≠ s.state) : ¬Unmoved s t :=
  fun unmoved => moved unmoved.state

theorem rxBssAnnounce_foreign (connecting : Connecting s) (bssid : h.addr3 ≠ s.peer) :
    rxBssAnnounce env s h = s := by
  unfold rxBssAnnounce
  split
  · rfl
  rw [if_pos ⟨by rw [connecting.peer]; rfl, bssid⟩]

section Sae

theorem smeSaeOnCommit_unmoved_iff (body : Bytes) (status : UInt16) :
    Unmoved s (smeSaeOnCommit s body status) ↔
      ¬((status = 0 ∨ status = 126) ∧ (mgmtParseAuthSaeCommit body).isSome = true) := by
  unfold smeSaeOnCommit
  by_cases refused : status ≠ 0 ∧ status ≠ 126
  · rw [if_pos refused]
    exact iff_of_true (.refl s) (fun heeds => by tauto)
  rw [if_neg refused]
  cases mgmtParseAuthSaeCommit body with
  | none => exact iff_of_true (.refl s) (fun heeds => by cases heeds.2)
  | some c =>
    refine iff_of_false ?_ (not_not.2 ⟨by tauto, rfl⟩)
    intro unmoved
    have counted : ∀ t : Sme, t.saeCommitRx = s.saeCommitRx + 1 → ¬Unmoved s t := by
      intro t more same
      have same : t.saeCommitRx = s.saeCommitRx := congrArg SmeSae.saeCommitRx same.sae
      omega
    refine counted _ ?_ unmoved
    unfold smeSaeTxConfirm
    dsimp only
    repeat' split
    all_goals rfl

theorem smeSaeOnConfirm_unmoved_iff (scanning : s.state = .scanning) (body : Bytes)
    (status : UInt16) : Unmoved s (smeSaeOnConfirm s body status) ↔ status ≠ 0 := by
  unfold smeSaeOnConfirm
  by_cases refused : status ≠ 0
  · rw [if_pos refused]
    exact iff_of_true (.refl s) refused
  rw [if_neg refused]
  refine iff_of_false (fun unmoved => ?_) refused
  have left : ∀ t : Sme, t.state = .failed ∨ t.state = .authed → ¬Unmoved s t := by
    intro t gone same
    rcases gone with failed | authed
    · cases failed.symm.trans (same.state.trans scanning)
    · cases authed.symm.trans (same.state.trans scanning)
  refine left _ ?_ unmoved
  repeat' split
  all_goals first | exact Or.inl rfl | exact Or.inr rfl

theorem smeSaeRxAuth_unmoved_iff (sta : s.role = .sta) {a : AuthFixed}
    (parsed : mgmtParseAuth h.body = some a) (algo : a.algo = 3) :
    Unmoved s (smeSaeRxAuth s h) ↔ ¬HeedsSae s h.body a := by
  unfold smeSaeRxAuth HeedsSae
  by_cases scanning : s.state = .scanning
  · rw [if_neg (by simp [sta, scanning]), parsed]
    dsimp only
    rw [if_neg (not_not.2 algo)]
    by_cases commit : a.txn = 1 ∧ s.saePhase = 1
    · rw [if_pos commit, smeSaeOnCommit_unmoved_iff]
      have notTwo : ¬a.txn = 2 := by
        rw [commit.1]
        decide
      tauto
    rw [if_neg commit]
    by_cases confirm : a.txn = 2 ∧ s.saePhase = 2
    · rw [if_pos confirm, smeSaeOnConfirm_unmoved_iff scanning]
      tauto
    · rw [if_neg confirm]
      exact iff_of_true (.refl s) (by tauto)
  · rw [if_pos (Or.inr scanning)]
    exact iff_of_true (.refl s) (fun heeds => scanning heeds.1)

end Sae

theorem rxAuth_unmoved_iff (connecting : Connecting s) :
    Unmoved s (rxAuth env sib s h).1 ↔ ¬HeedsAuth s h.body := by
  unfold rxAuth HeedsAuth
  cases parsed : mgmtParseAuth h.body with
  | none => exact iff_of_true (.refl s) (by simp)
  | some a =>
    simp only [Option.some.injEq, exists_eq_left']
    by_cases sae : a.algo = 3
    · rw [if_pos sae, smeSaeRxAuth_unmoved_iff connecting.role parsed sae]
      have notOpen : ¬a.algo = 0 := by
        rw [sae]
        decide
      tauto
    rw [if_neg sae]
    by_cases other : a.algo ≠ 0
    · rw [if_pos other]
      exact iff_of_true (.refl s) (by tauto)
    rw [if_neg other]
    by_cases first : a.txn = 1
    · rw [if_pos first, demuxView_connecting connecting (by decide)]
      have notTwo : ¬a.txn = 2 := by
        rw [first]
        decide
      have same : (if smePfxLen + (h.body.drop 6).length > smeRxViewMax then s
          else staHandle env s .authReq h.addr2 (smePfx .authReq h.addr2 ++ h.body.drop 6)
            (h.body.drop 6)) = s := by
        split <;> rfl
      rw [same]
      exact iff_of_true (.refl s) (by tauto)
    rw [if_neg first]
    by_cases second : a.txn = 2
    · rw [if_pos second]
      by_cases refused : a.status ≠ 0
      · rw [if_pos refused]
        refine iff_of_false (Unmoved.of_ne ?_) (by tauto)
        exact fun same => connecting.live.1 same.symm
      rw [if_neg refused, demuxView_connecting connecting (by decide)]
      unfold fitsView
      by_cases long : smePfxLen + (h.body.drop 6).length > smeRxViewMax
      · rw [if_pos long]
        have noFit := Nat.not_le.2 long
        exact iff_of_true (.refl s) (by tauto)
      rw [if_neg long]
      have fits := Nat.le_of_not_lt long
      unfold staHandle staOnAuthResp
      dsimp only
      by_cases scanning : s.state = .scanning
      · rw [if_neg (by tauto)]
        refine iff_of_false (Unmoved.of_ne ?_) (by tauto)
        rw [scanning]
        exact fun no => by cases no
      · have begun : s.state ≠ .init := by
          rcases connecting.state with here | here | here | here <;> rw [here] <;> decide
        rw [if_pos ⟨scanning, begun⟩]
        exact iff_of_true (.refl s) (by tauto)
    · rw [if_neg second]
      exact iff_of_true (.refl s) (by tauto)

section AssocResp

theorem staQosNegotiate_rest (s : Sme) (ies : Bytes) :
    (staQosNegotiate s ies).toSmeAssoc = s.toSmeAssoc ∧
      (staQosNegotiate s ies).toSmeKeys = s.toSmeKeys ∧
      (staQosNegotiate s ies).toSmePmf = s.toSmePmf ∧
      (staQosNegotiate s ies).toSmeSae = s.toSmeSae ∧
      (staQosNegotiate s ies).toSmeOwe = s.toSmeOwe ∧
      (staQosNegotiate s ies).earlyM1 = s.earlyM1 := by
  unfold staQosNegotiate qosApplyLmac
  repeat' split
  all_goals exact ⟨rfl, rfl, rfl, rfl, rfl, rfl⟩

/-- The parameters stay when there are none to take over, or the same again. -/
theorem staQosNegotiate_same_iff (s : Sme) (ies : Bytes) :
    ((staQosNegotiate s ies).qosEnabled = s.qosEnabled ∧ (staQosNegotiate s ies).edca = s.edca) ↔
      (s.qosAdvertise = true → ∀ p, (qosScanIes ies).edca = some p →
        s.edca = p ∧ s.qosEnabled = true) := by
  unfold staQosNegotiate
  cases advertise : s.qosAdvertise with
  | false => exact iff_of_true ⟨rfl, rfl⟩ (fun no => by cases no)
  | true =>
    rw [if_neg (by decide)]
    cases found : (qosScanIes ies).edca with
    | none => exact iff_of_true ⟨rfl, rfl⟩ (fun _ p no => by cases no)
    | some p =>
      dsimp only
      have applied (t : Sme) : (qosApplyLmac t).qosEnabled = t.qosEnabled ∧
          (qosApplyLmac t).edca = t.edca := by
        unfold qosApplyLmac
        split <;> exact ⟨rfl, rfl⟩
      rw [(applied _).1, (applied _).2]
      constructor
      · intro same _ q eq
        cases eq
        exact ⟨same.2.symm, same.1.symm⟩
      · intro repeats
        obtain ⟨edca, enabled⟩ := repeats rfl p rfl
        exact ⟨enabled.symm, edca.symm⟩

/-- Protection stays when there is no RSN element, or one with the same outcome. -/
theorem negotiate_same_iff (p : SmePmf) (ies : Bytes) :
    ((p.negotiate ies).2 = pmfStatusSuccess ∧ (p.negotiate ies).1.mfpActive = p.mfpActive) ↔
      ∀ i, firstRsne ies = some i → pmfNegotiate p.pmfMode i.rsnCaps = (pmfStatusSuccess, p.mfpActive) := by
  unfold SmePmf.negotiate
  cases firstRsne ies with
  | none => exact iff_of_true ⟨rfl, rfl⟩ (fun i no => by cases no)
  | some i =>
    dsimp only
    constructor
    · intro same j eq
      cases eq
      exact Prod.ext same.1 same.2
    · intro repeats
      have same := repeats i rfl
      exact ⟨congrArg Prod.fst same, congrArg Prod.snd same⟩

/-- A station that associates waits for the first message or has answered it. -/
theorem staAssoced_state (t : Sme) :
    (staAssoced env t).state = .assoced ∨ (staAssoced env t).state = .fourWay := by
  unfold staAssoced
  dsimp only
  cases t.earlyM1 with
  | none => exact Or.inl rfl
  | some pdu =>
    dsimp only
    unfold staOnM1
    cases smeEapolKeyDecode pdu with
    | none => exact Or.inl rfl
    | some k => exact Or.inr rfl

theorem staAssoced_rest (t : Sme) :
    (staAssoced env t).aid = t.aid ∧ (staAssoced env t).toSmeOwe = t.toSmeOwe := by
  unfold staAssoced
  dsimp only
  cases t.earlyM1 with
  | none => exact ⟨rfl, rfl⟩
  | some pdu =>
    dsimp only
    unfold staOnM1
    cases smeEapolKeyDecode pdu with
    | none => exact ⟨rfl, rfl⟩
    | some k =>
      dsimp only
      unfold staSnonce
      split <;> exact ⟨rfl, rfl⟩

theorem staAssoced_clear {t : Sme} (clear : t.earlyM1 = none) :
    staAssoced env t = { t with state := .assoced } := by
  unfold staAssoced
  dsimp only
  rw [clear]

/-- OWE gives its key pair up, or fails. -/
theorem smeOweOnAssocResp_spends {ies : Bytes} (ok : (smeOweOnAssocResp s ies).2 = true) :
    (smeOweOnAssocResp s ies).1.oweKpOk = false ∧ s.oweKpOk = true := by
  unfold smeOweOnAssocResp at ok ⊢
  cases pair : s.oweKpOk with
  | false =>
    rw [pair] at ok
    cases ok
  | true =>
    rw [pair, if_neg (by decide)] at ok
    rw [if_neg (by decide)]
    refine ⟨?_, rfl⟩
    revert ok
    dsimp only
    repeat' split
    all_goals first | exact fun no => absurd no Bool.false_ne_true | exact fun _ => rfl

/-- An Association Response to a connecting station that keeps no message. -/
theorem staOnAssocResp_unmoved_iff (connecting : Connecting s)
    (clear : Associated s → s.earlyM1 = none) (ies : Bytes) :
    Unmoved s (staOnAssocResp env s ies) ↔ Repeats s ies := by
  obtain ⟨assoc, keys, pmf, sae, owe, early⟩ := staQosNegotiate_rest s ies
  have qos := staQosNegotiate_same_iff s ies
  have policy := negotiate_same_iff s.toSmePmf ies
  unfold staOnAssocResp
  rw [pmfNegotiateIes_eq, pmf]
  generalize staQosNegotiate s ies = q at assoc keys sae owe early qos
  dsimp only
  have failed : ∀ t : Sme, t.state = .failed → ¬Unmoved s t := by
    intro t gone same
    exact connecting.live.1 (same.state.symm.trans gone)
  by_cases refused : (s.toSmePmf.negotiate ies).2 ≠ pmfStatusSuccess
  · rw [if_pos refused]
    refine iff_of_false (failed _ rfl) (fun repeats => ?_)
    exact refused (policy.2 repeats.pmf).1
  rw [if_neg refused]
  have success := not_not.1 refused
  set u : Sme := { q with toSmePmf := (s.toSmePmf.negotiate ies).1 } with agreed
  have uAkm : u.akm = s.akm := congrArg SmeAssoc.akm assoc
  by_cases isOwe : u.akm = .owe
  · rw [if_pos isOwe]
    refine iff_of_false ?_ (fun repeats => repeats.akm (uAkm.symm.trans isOwe))
    split
    · rename_i ok
      obtain ⟨spent, had⟩ := smeOweOnAssocResp_spends ok
      intro same
      have kept : (staAssoced env (smeOweOnAssocResp u ies).1).oweKpOk = false :=
        (congrArg SmeOwe.oweKpOk (staAssoced_rest _).2).trans spent
      have before : u.oweKpOk = s.oweKpOk := congrArg SmeOwe.oweKpOk owe
      have after := congrArg SmeOwe.oweKpOk same.owe
      rw [kept, ← before, had] at after
      cases after
    · exact failed _ rfl
  rw [if_neg isOwe]
  dsimp only
  rw [if_pos rfl]
  by_cases associated : Associated s
  · have uClear : u.earlyM1 = none := early.trans (clear associated)
    rw [staAssoced_clear uClear]
    constructor
    · intro same
      constructor
      · exact same.state.symm
      · exact fun no => isOwe (uAkm.trans no)
      · exact qos.1 ⟨same.qosEnabled, same.edca⟩
      · exact policy.1 ⟨success, same.mfpActive⟩
    · intro repeats
      have sameQos := qos.2 repeats.qos
      have peer : q.peer = s.peer := congrArg SmeAssoc.peer assoc
      have aid : q.aid = s.aid := congrArg SmeAssoc.aid assoc
      constructor
      · exact repeats.state.symm
      · exact peer
      · exact aid
      · exact congrArg SmeKeys.pmk keys
      · exact congrArg SmeKeys.ptk keys
      · exact sae
      · exact owe
      · exact (policy.2 repeats.pmf).2
      · exact sameQos.1
      · exact sameQos.2
  · refine iff_of_false (fun same => ?_) (fun repeats => associated (Or.inl repeats.state))
    rcases @staAssoced_state env u with waiting | during
    · exact associated (Or.inl (same.state.symm.trans waiting))
    · exact associated (Or.inr (same.state.symm.trans during))

theorem staOnAssocResp_aid (ies : Bytes) : (staOnAssocResp env s ies).aid = s.aid := by
  obtain ⟨assoc, _, _, _, _, _⟩ := staQosNegotiate_rest s ies
  have kept : (staQosNegotiate s ies).aid = s.aid := congrArg SmeAssoc.aid assoc
  have owe (t : Sme) : (smeOweOnAssocResp t ies).1.aid = t.aid := by
    unfold smeOweOnAssocResp
    dsimp only
    repeat' split
    all_goals rfl
  unfold staOnAssocResp
  rw [pmfNegotiateIes_eq]
  dsimp only
  repeat' split
  all_goals first
    | exact kept
    | exact (staAssoced_rest _).1.trans kept
    | exact ((staAssoced_rest _).1.trans (owe _)).trans kept
    | exact (owe _).trans kept

theorem rxAssocResp_unmoved_iff (connecting : Connecting s)
    (clear : Associated s → s.earlyM1 = none) {type : FrameType}
    (kind : h.subtype = 1 ∧ type = .assocResp ∨ h.subtype ≠ 1 ∧ type = .reassocResp) :
    Unmoved s (rxAssocResp env sib s h type).1 ↔ ¬HeedsAssocResp s h := by
  unfold rxAssocResp HeedsAssocResp
  cases mgmtParseAssocResp h.body with
  | none => exact iff_of_true (.refl s) (by simp)
  | some r =>
    simp only [Option.some.injEq, exists_eq_left']
    by_cases refused : r.status ≠ 0
    · rw [if_pos refused]
      refine iff_of_false (Unmoved.of_ne ?_) (by tauto)
      exact fun same => connecting.live.1 same.symm
    rw [if_neg refused]
    have taken : Connecting { s with aid := r.aid } :=
      ⟨connecting.role, connecting.state, connecting.peer⟩
    have other : type ≠ .data := by
      rcases kind with ⟨_, rfl⟩ | ⟨_, rfl⟩ <;> decide
    rw [demuxView_connecting taken other]
    have moved : r.aid ≠ s.aid → ∀ t : Sme, t.aid = r.aid → ¬Unmoved s t := by
      intro new t aid same
      exact new (aid.symm.trans same.aid)
    by_cases new : r.aid ≠ s.aid
    · refine iff_of_false (moved new _ ?_) (by tauto)
      split
      · rfl
      · rcases kind with ⟨_, rfl⟩ | ⟨_, rfl⟩
        · exact staOnAssocResp_aid _
        · rfl
    · have same : { s with aid := r.aid } = s := by
        rw [not_not.1 new]
      rw [same]
      unfold fitsView
      by_cases long : smePfxLen + (h.body.drop 6).length > smeRxViewMax
      · rw [if_pos long]
        have noFit := Nat.not_le.2 long
        exact iff_of_true (.refl s) (by tauto)
      rw [if_neg long]
      have fits := Nat.le_of_not_lt long
      rcases kind with ⟨first, rfl⟩ | ⟨later, rfl⟩
      · have act : staHandle env s .assocResp h.addr2 (smePfx .assocResp h.addr2 ++ h.body.drop 6)
            (h.body.drop 6) = staOnAssocResp env s (h.body.drop 6) := rfl
        rw [act, staOnAssocResp_unmoved_iff connecting clear]
        tauto
      · exact iff_of_true (.refl s) (by tauto)

end AssocResp

/-- The foreign frames that leave a connecting station alone. -/
theorem foreign_unmoved_iff {role : SmeRole} {self : MacAddr} {pmk : Octets 32} {salt : UInt64}
    {config : SmeConfig}
    (reach : Reach (smeStep env) (smeConfigure (smeInit role self pmk salt) config) s)
    (connecting : Connecting s) (foreign : Foreign s frame h) (sib : Siblings) :
    Unmoved s (smeRx env sib s frame).1 ↔ ¬Heeds s frame h := by
  have clear : Associated s → s.earlyM1 = none := associated_earlyM1 reach connecting.role
  unfold Heeds
  by_cases short : frame.length ≤ 0xffff
  · rw [smeRx_mgmt foreign.parsed connecting.live.1 short]
    unfold rxDot11Mgmt
    rcases foreign.subtype with subtype | subtype | subtype | subtype | subtype
    · simpa [subtype, short] using rxAuth_unmoved_iff connecting
    · simpa [subtype, short] using rxAssocResp_unmoved_iff connecting clear (Or.inl ⟨subtype, rfl⟩)
    · have later : h.subtype ≠ 1 := by
        rw [subtype]
        decide
      simpa [subtype, short] using rxAssocResp_unmoved_iff connecting clear (Or.inr ⟨later, rfl⟩)
    · have kept := @rxBssAnnounce_foreign env _ _ connecting foreign.bssid
      simpa [subtype, kept] using Unmoved.refl s
    · have kept := @rxBssAnnounce_foreign env _ _ connecting foreign.bssid
      simpa [subtype, kept] using Unmoved.refl s
  · have ignored := rxKind_mgmt_ignored foreign.parsed (s := s) (Or.inr (Nat.lt_of_not_le short))
    rw [smeRx_eq, ignored]
    exact iff_of_true (.refl s) (fun heeds => short heeds.1)

end Receive

section Demo

def demoOtherMac : MacAddr := Octets.of 6 [2, 0, 0, 0, 0, 9]

/-- The station once it is authenticated with its AP. -/
@[irreducible] def demoConnecting : Sme := runOps demoStaInit ((demoStaStart .disabled []).take 5)

/-- An answer of a third station, with a status. -/
def demoForeign (status : UInt16) : Bytes := demoAuthFrame demoStaMac demoOtherMac 2 status

def demoForeignHdr (status : UInt16) : MgmtHdr :=
  (mgmtParseHdr (demoForeign status)).getD
    { fc := 0, subtype := 0, addr1 := bcast, addr2 := bcast, addr3 := bcast,
      seqCtrl := 0, body := [] }

theorem demoConnecting_reach :
    Reach (smeStep demoEnv) (smeConfigure (smeInit .sta demoStaMac demoPmk 9) .plain)
      demoConnecting := by
  unfold demoConnecting
  exact runOps_reach _ _

theorem demoConnecting_connecting : Connecting demoConnecting :=
  ⟨by decide +kernel, by decide +kernel, by decide +kernel⟩

theorem demoForeign_foreign (status : UInt16) (known : status = 0 ∨ status = 1) :
    Foreign demoConnecting (demoForeign status) (demoForeignHdr status) := by
  rcases known with rfl | rfl
  · exact ⟨by decide +kernel, by decide +kernel, by decide +kernel, by decide +kernel⟩
  · exact ⟨by decide +kernel, by decide +kernel, by decide +kernel, by decide +kernel⟩

theorem foreign_unmoved_iff_demo :
    Unmoved demoConnecting (smeRx demoEnv noSiblings demoConnecting (demoForeign 0)).1 := by
  refine (foreign_unmoved_iff demoConnecting_reach demoConnecting_connecting
    (demoForeign_foreign 0 (Or.inl rfl)) noSiblings).2 ?_
  have subtype : (demoForeignHdr 0).subtype = 11 := by decide +kernel
  have fields : mgmtParseAuth (demoForeignHdr 0).body = some { algo := 0, txn := 2, status := 0 } := by
    decide +kernel
  have state : demoConnecting.state = .authed := by decide +kernel
  rintro ⟨_, ⟨_, a, parsed, heeds⟩ | ⟨other, _⟩⟩
  · rw [fields] at parsed
    cases parsed
    rcases heeds with ⟨_, _, refused | ⟨scanning, _⟩⟩ | ⟨sae, _⟩
    · exact refused rfl
    · rw [state] at scanning
      cases scanning
    · exact absurd sae (by decide)
  · rw [subtype] at other
    exact absurd other (by decide)

/-- A refusal from a third station ends the attempt. -/
theorem foreign_refusal :
    ¬∀ s frame h, Reach (smeStep demoEnv) (smeConfigure (smeInit .sta demoStaMac demoPmk 9) .plain) s →
      Connecting s → Foreign s frame h → Unmoved s (smeRx demoEnv noSiblings s frame).1 := by
  intro all
  have unmoved := all _ _ _ demoConnecting_reach demoConnecting_connecting
    (demoForeign_foreign 1 (Or.inr rfl))
  have failed : (smeRx demoEnv noSiblings demoConnecting (demoForeign 1)).1.state ≠
      demoConnecting.state := by
    decide +kernel
  exact failed unmoved.state

end Demo

end Rf2a4m1
