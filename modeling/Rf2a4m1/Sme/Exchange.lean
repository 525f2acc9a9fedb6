import Rf2a4m1.Sme.Roaming

/-!
# The remaining handlers on the core

The announcement of a BSS and the SAE exchange, robust management frames,
received data, and the handlers that leave the core alone.
-/

set_option autoImplicit false

namespace Rf2a4m1

open ByteString

section SaeExchange

variable (env : Env) (s : Sme)

theorem saeCommitLoop_core (pt : Octets 64) (fuel : Nat) (attempt : UInt64) (s : Sme) :
    ∃ sae, (saeCommitLoop env pt fuel attempt s).1.core = { s.core with sae := sae } := by
  induction fuel generalizing attempt s with
  | zero => exact ⟨s.sae, rfl⟩
  | succ fuel ih =>
    unfold saeCommitLoop
    dsimp only
    split
    · exact ⟨_, rfl⟩
    · obtain ⟨sae, looped⟩ := ih (attempt + 1) _
      exact ⟨sae, looped⟩

/-- A commit that was sent leaves the exchange waiting for the peer's. -/
theorem smeSaeTxCommit_core :
    ∃ sae phase, (smeSaeTxCommit env s).1.core = { s.core with sae := sae, saePhase := phase } ∧
      ((smeSaeTxCommit env s).2 = true → phase = 1) := by
  unfold smeSaeTxCommit
  split
  · exact ⟨s.sae, s.saePhase, rfl, fun h => by cases h⟩
  split
  · exact ⟨s.sae, s.saePhase, rfl, fun h => by cases h⟩
  rename_i pt _
  obtain ⟨sae, looped⟩ := saeCommitLoop_core env pt 16 0 s
  generalize saeCommitLoop env pt 16 0 s = r at looped
  dsimp only
  split
  · exact ⟨sae, s.saePhase, looped, fun h => by cases h⟩
  split
  · exact ⟨sae, s.saePhase, looped, fun h => by cases h⟩
  · rename_i f _
    refine ⟨sae, 1, ?_, fun _ => rfl⟩
    have phase : Sme.core { r.1 with saePhase := 1, saeCommitTx := r.1.saeCommitTx + 1 } =
        { s.core with sae := sae, saePhase := 1 } :=
      congrArg (fun c : SmeCore => { c with saePhase := 1 }) looped
    exact (core_of_tx { r.1 with saePhase := 1, saeCommitTx := r.1.saeCommitTx + 1 }
      (SmeTx.raw_core r.1.nextSeq.2 f)).trans phase

theorem smeSaeTxConfirm_core :
    (smeSaeTxConfirm s).1.core = s.core ∧ (smeSaeTxConfirm s).2 = false ∨
      (smeSaeTxConfirm s).1.core = { s.core with saePhase := 2 } ∧
        (smeSaeTxConfirm s).2 = true := by
  unfold smeSaeTxConfirm
  dsimp only
  split
  · exact Or.inl ⟨rfl, rfl⟩
  · right
    refine ⟨?_, rfl⟩
    exact core_of_tx { s with saePhase := 2, saeConfirmTx := _ } (SmeTx.raw_core _ _)

/-- Authentication begins: under SAE a commit is out afterwards, or the exchange has failed. -/
theorem startAuth_core :
    ∃ sae phase state, (startAuth env s).core =
        { s.core with sae := sae, saePhase := phase, state := state } ∧
      (state = s.state ∧ (s.akm = .sae → phase = 1) ∨ state = .failed) := by
  unfold startAuth
  by_cases akm : s.akm = .sae
  · rw [if_pos akm]
    obtain ⟨sae, phase, sent, committed⟩ := smeSaeTxCommit_core env s
    dsimp only
    split
    · rename_i ok
      exact ⟨sae, phase, s.state, sent, Or.inl ⟨rfl, fun _ => committed ok⟩⟩
    · exact ⟨sae, phase, .failed, congrArg (fun c : SmeCore => { c with state := .failed }) sent,
        Or.inr rfl⟩
  · rw [if_neg akm]
    exact ⟨s.sae, s.saePhase, s.state, txMgmt_core s _, Or.inl ⟨rfl, fun h => absurd h akm⟩⟩

/-- The SAE state that the peer's commit leads to. -/
def saeCommitted (body : Bytes) (status : UInt16) : Option Sae :=
  if status ≠ 0 ∧ status ≠ 126 then none
  else
    (mgmtParseAuthSaeCommit body).bind fun c =>
      if c.group ≠ 19 then none else saeProcessCommit s.sae c.scalar c.element

theorem smeSaeOnCommit_core (body : Bytes) (status : UInt16) :
    (saeCommitted s body status = none ∧
        ((smeSaeOnCommit s body status).core = s.core ∨
          (smeSaeOnCommit s body status).core = { s.core with state := .failed })) ∨
      ∃ sae, saeCommitted s body status = some sae ∧
        ((smeSaeOnCommit s body status).core = { s.core with sae := sae, saePhase := 2 } ∨
          (smeSaeOnCommit s body status).core = { s.core with sae := sae, state := .failed }) := by
  unfold smeSaeOnCommit saeCommitted
  by_cases refused : status ≠ 0 ∧ status ≠ 126
  · rw [if_pos refused, if_pos refused]
    exact Or.inl ⟨rfl, Or.inl rfl⟩
  rw [if_neg refused, if_neg refused]
  cases mgmtParseAuthSaeCommit body with
  | none => exact Or.inl ⟨rfl, Or.inl rfl⟩
  | some c =>
    simp only [Option.bind_some]
    cases (if c.group ≠ 19 then none else saeProcessCommit s.sae c.scalar c.element) with
    | none => exact Or.inl ⟨rfl, Or.inr rfl⟩
    | some sae =>
      refine Or.inr ⟨sae, rfl, ?_⟩
      dsimp only
      rcases smeSaeTxConfirm_core { s with saeCommitRx := s.saeCommitRx + 1, sae := sae } with
        ⟨same, no⟩ | ⟨sent, yes⟩
      · right
        rw [no]
        exact congrArg (fun c : SmeCore => { c with state := .failed }) same
      · left
        rw [yes]
        exact sent

/-- Whether the peer's confirm verifies. -/
def saeConfirmed (body : Bytes) (status : UInt16) : Bool :=
  decide (status = 0) &&
    match mgmtParseAuthSaeConfirm body with
    | none => false
    | some (peerSc, confirm) => saeVerifyConfirm s.sae peerSc confirm

theorem smeSaeOnConfirm_core (body : Bytes) (status : UInt16) :
    (saeConfirmed s body status = false ∧
        ((smeSaeOnConfirm s body status).core = s.core ∨
          (smeSaeOnConfirm s body status).core = { s.core with state := .failed })) ∨
      saeConfirmed s body status = true ∧ (smeSaeOnConfirm s body status).core =
        { s.core with pmk := s.sae.pmk, saeOk := true, saePhase := 3, state := .authed } := by
  unfold smeSaeOnConfirm saeConfirmed
  by_cases success : status = 0
  · rw [if_neg (not_not.2 success)]
    cases mgmtParseAuthSaeConfirm body with
    | none => exact Or.inl ⟨by simp, Or.inr rfl⟩
    | some confirm =>
      obtain ⟨peerSc, confirm⟩ := confirm
      dsimp only
      cases verified : saeVerifyConfirm s.sae peerSc confirm with
      | false => exact Or.inl ⟨by simp, Or.inr rfl⟩
      | true =>
        right
        refine ⟨by simp [success], ?_⟩
        exact congrArg (fun c : SmeCore => { c with state := .authed }) (txAssocReq_core _)
  · rw [if_pos success]
    exact Or.inl ⟨by simp [success], Or.inl rfl⟩

/-- An SAE Authentication that a scanning station looks at. -/
def saeReads (h : MgmtHdr) : Option AuthFixed :=
  if s.role ≠ .sta ∨ s.state ≠ .scanning then none
  else (mgmtParseAuth h.body).filter fun a => a.algo = 3

def saeTakesCommit (h : MgmtHdr) : Option Sae :=
  ((saeReads s h).filter fun a => a.txn = 1 ∧ s.saePhase = 1).bind fun a =>
    saeCommitted s h.body a.status

def saeTakesConfirm (h : MgmtHdr) : Bool :=
  match (saeReads s h).filter fun a => a.txn = 2 ∧ s.saePhase = 2 with
  | none => false
  | some a => saeConfirmed s h.body a.status

theorem saeReads_scanning {h : MgmtHdr} {a : AuthFixed} (reads : saeReads s h = some a) :
    s.role = .sta ∧ s.state = .scanning := by
  unfold saeReads at reads
  split at reads
  · cases reads
  · rename_i open'
    rw [not_or, not_not, not_not] at open'
    exact open'

/-- What a scanning station does with an SAE Authentication it reads. -/
theorem smeSaeRxAuth_eq (h : MgmtHdr) :
    smeSaeRxAuth s h =
      match saeReads s h with
      | none => s
      | some a =>
        if a.txn = 1 ∧ s.saePhase = 1 then smeSaeOnCommit s h.body a.status
        else if a.txn = 2 ∧ s.saePhase = 2 then smeSaeOnConfirm s h.body a.status
        else s := by
  unfold smeSaeRxAuth saeReads
  by_cases other : s.role ≠ .sta ∨ s.state ≠ .scanning
  · rw [if_pos other, if_pos other]
  rw [if_neg other, if_neg other]
  cases mgmtParseAuth h.body with
  | none => rfl
  | some a =>
    by_cases isSae : a.algo = 3
    · have read : (some a).filter (fun a => decide (a.algo = 3)) = some a := by simp [isSae]
      rw [read]
      exact if_neg (not_not.2 isSae)
    · have unread : (some a).filter (fun a => decide (a.algo = 3)) = none := by simp [isSae]
      rw [unread]
      exact if_pos isSae

/-- The exchange stays, fails, takes a commit over, or ends with the derived PMK. -/
theorem smeSaeRxAuth_core (h : MgmtHdr) :
    (saeTakesCommit s h = none ∧ saeTakesConfirm s h = false ∧
        ((smeSaeRxAuth s h).core = s.core ∨
          s.state = .scanning ∧ (smeSaeRxAuth s h).core = { s.core with state := .failed })) ∨
      s.state = .scanning ∧
        ((∃ sae, saeTakesCommit s h = some sae ∧
            ((smeSaeRxAuth s h).core = { s.core with sae := sae, saePhase := 2 } ∨
              (smeSaeRxAuth s h).core = { s.core with sae := sae, state := .failed })) ∨
          saeTakesCommit s h = none ∧ saeTakesConfirm s h = true ∧ (smeSaeRxAuth s h).core =
            { s.core with pmk := s.sae.pmk, saeOk := true, saePhase := 3, state := .authed }) := by
  rw [smeSaeRxAuth_eq]
  unfold saeTakesCommit saeTakesConfirm
  cases reads : saeReads s h with
  | none => exact Or.inl ⟨rfl, rfl, Or.inl rfl⟩
  | some a =>
    have scanning := (saeReads_scanning s reads).2
    dsimp only
    by_cases commit : a.txn = 1 ∧ s.saePhase = 1
    · rw [if_pos commit]
      have first : (some a).filter (fun a => decide (a.txn = 1 ∧ s.saePhase = 1)) = some a := by
        simp [commit]
      have later : (some a).filter (fun a => decide (a.txn = 2 ∧ s.saePhase = 2)) = none := by
        simp [commit]
      rw [first, later, Option.bind_some]
      rcases smeSaeOnCommit_core s h.body a.status with ⟨no, same | failed⟩ | committed
      · exact Or.inl ⟨no, rfl, Or.inl same⟩
      · exact Or.inl ⟨no, rfl, Or.inr ⟨scanning, failed⟩⟩
      · exact Or.inr ⟨scanning, Or.inl committed⟩
    · rw [if_neg commit]
      have noFirst : (some a).filter (fun a => decide (a.txn = 1 ∧ s.saePhase = 1)) = none := by
        simp only [Option.filter_some, commit, decide_false]
        rfl
      rw [noFirst, Option.bind_none]
      by_cases confirm : a.txn = 2 ∧ s.saePhase = 2
      · rw [if_pos confirm]
        have second : (some a).filter (fun a => decide (a.txn = 2 ∧ s.saePhase = 2)) = some a := by
          simp [confirm]
        rw [second]
        rcases smeSaeOnConfirm_core s h.body a.status with ⟨no, same | failed⟩ | confirmed
        · exact Or.inl ⟨rfl, no, Or.inl same⟩
        · exact Or.inl ⟨rfl, no, Or.inr ⟨scanning, failed⟩⟩
        · exact Or.inr ⟨scanning, Or.inr ⟨rfl, confirmed⟩⟩
      · rw [if_neg confirm]
        have noSecond : (some a).filter (fun a => decide (a.txn = 2 ∧ s.saePhase = 2)) = none := by
          simp only [Option.filter_some, confirm, decide_false]
          rfl
        rw [noSecond]
        exact Or.inl ⟨rfl, rfl, Or.inl rfl⟩

/-- A station that scans takes the BSS over as peer and authenticates with it. -/
theorem rxBssAnnounce_core (h : MgmtHdr) :
    (rxBssAnnounce env s h).core = s.core ∨
      s.role = .sta ∧ s.state = .scanning ∧ ∃ pmf peer sae phase state,
        (pmf = s.toSmePmf ∨ pmf = (s.toSmePmf.negotiate (h.body.drop 12)).1) ∧
        (rxBssAnnounce env s h).core =
          { s.core with toSmePmf := pmf, peer := peer, sae := sae, saePhase := phase,
                        state := state } ∧
        (state = .scanning ∧ (s.akm = .sae → phase = 1) ∨ state = .failed) := by
  unfold rxBssAnnounce
  by_cases other : s.role ≠ .sta ∨ s.state ≠ .scanning
  · rw [if_pos other]
    exact Or.inl rfl
  rw [if_neg other]
  rw [not_or, not_not, not_not] at other
  split
  · exact Or.inl rfl
  split
  · exact Or.inl rfl
  rename_i bi t found
  have tCore : t.core = s.core := by
    obtain ⟨bi', _, announced⟩ := Option.bind_eq_some_iff.1 found
    obtain ⟨t', adopted, eq⟩ := Option.map_eq_some_iff.1 announced
    obtain ⟨rfl, rfl⟩ := Prod.mk.inj eq
    unfold announceSsid at adopted
    split at adopted
    · split at adopted
      · cases adopted
        rfl
      · cases adopted
    · cases adopted
      rfl
  right
  refine ⟨other.1, other.2, ?_⟩
  have started (u : Sme) (pmf : SmePmf) (hu : u.core =
      { s.core with toSmePmf := pmf, peer := h.addr3 }) :
      ∃ sae phase state, (startAuth env u).core =
          { s.core with toSmePmf := pmf, peer := h.addr3, sae := sae, saePhase := phase,
                        state := state } ∧
        (state = .scanning ∧ (s.akm = .sae → phase = 1) ∨ state = .failed) := by
    have sameState : u.state = s.state := congrArg (fun c : SmeCore => c.state) hu
    have sameAkm : u.akm = s.akm := congrArg (fun c : SmeCore => c.akm) hu
    obtain ⟨sae, phase, state, eq, outcome⟩ := startAuth_core env u
    rw [hu] at eq
    rw [sameState, sameAkm, other.2] at outcome
    exact ⟨sae, phase, state, eq, outcome⟩
  set u : Sme := { t with channel := if bi.channel ≠ 0 then bi.channel else t.channel,
                          peer := h.addr3 }
  have uCore : u.core = { s.core with peer := h.addr3 } :=
    congrArg (fun c : SmeCore => { c with peer := h.addr3 }) tCore
  have samePmf : u.toSmePmf = s.toSmePmf := congrArg (fun c : SmeCore => c.toSmePmf) uCore
  dsimp only
  split
  · rw [pmfNegotiateIes_eq, samePmf]
    obtain ⟨sae, phase, state, eq, outcome⟩ := started
      { u with toSmePmf := (s.toSmePmf.negotiate (h.body.drop 12)).1 } _
      (congrArg (fun c : SmeCore => { c with
        toSmePmf := (s.toSmePmf.negotiate (h.body.drop 12)).1 }) uCore)
    exact ⟨_, h.addr3, sae, phase, state, Or.inr rfl, eq, outcome⟩
  · obtain ⟨sae, phase, state, eq, outcome⟩ := started u s.toSmePmf uCore
    exact ⟨_, h.addr3, sae, phase, state, Or.inl rfl, eq, outcome⟩

end SaeExchange

section Robust

variable (s : Sme)

/-- Whether the MIC in the element that ends the frame verifies under the key. -/
def bipMicOk (frame : Bytes) (key : Octets 16) : Bool :=
  decide (frame.length ≥ 42) &&
    ((bipComputeMic frame (slice frame 24 (frame.length - 42)) (frame.drop (frame.length - 18)) key).map
        Octets.bytes = some (slice frame (frame.length - 8) 8))

/-- A frame honoured under the group key: it ends in a MIC element that verifies and is new. -/
def mmieFresh (frame : Bytes) : Bool :=
  endsInMmie frame && s.igtk.installed && bipMicOk frame s.igtk.key &&
    decide (s.igtk.ipnRx < mmieIpn frame)

/-- The group key after such a frame. -/
def igtkSeen (frame : Bytes) : PmfIgtk := { s.igtk with ipnRx := mmieIpn frame }

/-- Verification of a frame that ends in a MIC element: MIC first, then the packet number. -/
theorem bipMmieVerify_eq {frame : Bytes} {key : Octets 16} {ctr : Nat}
    (element : endsInMmie frame = true) :
    bipMmieVerify frame key ctr = (.ok, mmieIpn frame) ∧
        (bipMicOk frame key && decide (ctr < mmieIpn frame)) = true ∨
      (bipMmieVerify frame key ctr).1 ≠ .ok ∧ (bipMmieVerify frame key ctr).2 = ctr ∧
        (bipMicOk frame key && decide (ctr < mmieIpn frame)) = false := by
  simp only [endsInMmie, Bool.and_eq_true, decide_eq_true_eq] at element
  obtain ⟨⟨room, tag⟩, len⟩ := element
  have long : ¬frame.length < 24 + 18 := by omega
  have start : 24 + (frame.length - 24 - 18) = frame.length - 18 := by omega
  have elementAt (i : Nat) : byteAt (frame.drop (frame.length - 18)) i =
      byteAt frame (frame.length - 18 + i) := byteAt_drop _ _ _
  have mic : slice (frame.drop (frame.length - 18)) 10 8 = slice frame (frame.length - 8) 8 := by
    have shift : frame.length - 18 + 10 = frame.length - 8 := by omega
    simp only [slice, List.drop_drop, shift]
  have tagged : ¬(byteAt (frame.drop (frame.length - 18)) 0 ≠ 76 ∨
      byteAt (frame.drop (frame.length - 18)) 1 ≠ 16) := by
    rw [elementAt, elementAt]
    have second : frame.length - 18 + 1 = frame.length - 17 := by omega
    rw [second]
    simp [tag, len]
  unfold bipMmieVerify bipMicOk
  rw [if_neg long]
  dsimp only
  rw [start, if_neg tagged, mic, decide_eq_true (by omega : frame.length ≥ 42)]
  have body : frame.length - 24 - 18 = frame.length - 42 := by omega
  rw [body]
  cases bipComputeMic frame (slice frame 24 (frame.length - 42)) (frame.drop (frame.length - 18))
      key with
  | none => exact Or.inr ⟨by simp, rfl, by simp⟩
  | some computed =>
    dsimp only
    by_cases same : computed.bytes = slice frame (frame.length - 8) 8
    · rw [if_neg (not_not.2 same)]
      by_cases old : mmieIpn frame ≤ ctr
      · rw [if_pos old]
        exact Or.inr ⟨by simp, rfl, by simp [Nat.not_lt.2 old]⟩
      · rw [if_neg old]
        exact Or.inl ⟨rfl, by simp [same, Nat.lt_of_not_le old]⟩
    · rw [if_pos same]
      exact Or.inr ⟨by simp, rfl, by simp [same]⟩

/-- The group key filter: a frame passes exactly when it is fresh, and only then counts. -/
theorem pmfGroupVerify_eq (frame : Bytes) (element : endsInMmie frame = true) :
    (mmieFresh s frame = true ∧ pmfGroupVerify s.igtk frame = (.ok, igtkSeen s frame)) ∨
      (mmieFresh s frame = false ∧ (pmfGroupVerify s.igtk frame).1 ≠ .ok ∧
        (pmfGroupVerify s.igtk frame).2 = s.igtk) := by
  have test : mmieFresh s frame = (s.igtk.installed &&
      (bipMicOk frame s.igtk.key && decide (s.igtk.ipnRx < mmieIpn frame))) := by
    unfold mmieFresh
    rw [element, Bool.true_and, Bool.and_assoc]
  rw [test]
  unfold pmfGroupVerify igtkSeen
  cases installed : s.igtk.installed with
  | true =>
    rw [if_neg (by simp)]
    dsimp only
    rcases @bipMmieVerify_eq _ s.igtk.key s.igtk.ipnRx element with
      ⟨ok, fresh⟩ | ⟨bad, kept, stale⟩
    · left
      rw [ok, fresh, ← installed]
      exact ⟨by simp [installed], rfl⟩
    · right
      rw [stale, kept, ← installed]
      exact ⟨by simp [installed], bad, rfl⟩
  | false =>
    right
    rw [if_pos (by simp)]
    exact ⟨rfl, by simp, rfl⟩

theorem teardown_core :
    (teardown s).core = s.core ∨
      (teardown s).core = { s.core with connected := false, state := .init } := by
  unfold teardown
  split
  · exact Or.inl rfl
  · exact Or.inr rfl

/-- A teardown frame counts when it is fresh, or without MFP when it carries no MIC element. -/
theorem rxRobustMgmt_core (frame : Bytes) :
    (rxRobustMgmt s frame).core = s.core ∨
      mmieFresh s frame = true ∧
        ((rxRobustMgmt s frame).core = { s.core with igtk := igtkSeen s frame } ∨
          (rxRobustMgmt s frame).core =
            { s.core with igtk := igtkSeen s frame, connected := false, state := .init }) ∨
      (s.mfpActive = false ∧ endsInMmie frame = false) ∧
        (rxRobustMgmt s frame).core = { s.core with connected := false, state := .init } := by
  unfold rxRobustMgmt
  dsimp only
  by_cases robust : pmfIsRobustMgmt (getLe16 frame 0) (frame.drop 24) = true
  · rw [robust]
    rw [if_neg (by decide)]
    cases element : endsInMmie frame with
    | false =>
      cases active : s.mfpActive with
      | true =>
        left
        rw [if_pos (by simp [pmfRxUnprotectedOk, robust])]
        rfl
      | false =>
        rw [if_neg (by simp), if_neg (by decide)]
        split
        · rcases teardown_core s with same | torn
          · exact Or.inl same
          · exact Or.inr (Or.inr ⟨⟨rfl, rfl⟩, torn⟩)
        · exact Or.inl rfl
    | true =>
      rw [if_neg (by simp), if_pos rfl]
      rcases pmfGroupVerify_eq s frame element with ⟨fresh, verified⟩ | ⟨_, bad, kept⟩
      · rw [verified]
        dsimp only
        rw [if_neg (by simp)]
        right
        left
        refine ⟨fresh, ?_⟩
        split
        · rcases teardown_core { s with igtk := igtkSeen s frame } with same | torn
          · exact Or.inl same
          · exact Or.inr torn
        · exact Or.inl rfl
      · rw [if_pos bad]
        left
        rw [kept]
        rfl
  · rw [if_pos (by simpa using robust)]
    exact Or.inl rfl

end Robust

section Quiet

variable (env : Env) (s : Sme)

theorem saQueryStaRespond_core (body : Bytes) : (saQueryStaRespond s body).core = s.core := by
  unfold saQueryStaRespond
  split
  · rfl
  · exact saQueryTx_core s _

theorem saQueryRespond_core (body : Bytes) : (saQueryRespond s body).core = s.core := by
  unfold saQueryRespond
  split
  · exact saQueryStaRespond_core s body
  · rfl

theorem apOnSaQueryResp_core (body : Bytes) : (apOnSaQueryResp s body).core = s.core := by
  unfold apOnSaQueryResp
  dsimp only
  split <;> rfl

theorem staOnSaQueryResp_core (body : Bytes) : (staOnSaQueryResp s body).core = s.core := by
  unfold staOnSaQueryResp
  dsimp only
  split <;> rfl

theorem pmfApOnSpuriousReassoc_core (src : MacAddr) :
    (pmfApOnSpuriousReassoc s src).core = s.core := by
  unfold pmfApOnSpuriousReassoc
  split
  · rfl
  split
  · rfl
  dsimp only
  cases pmfComebackIeBuild 8 1000 with
  | none =>
    split
    · rfl
    · exact saQueryTx_core _ _
  | some ie =>
    have sent := txInt_core s .reassocResp (putLe16 30 ++ ie)
    split
    · exact sent
    · exact (saQueryTx_core _ _).trans sent

theorem baApOnAddbaReq_core (body : Bytes) : (baApOnAddbaReq s body).core = s.core := by
  unfold baApOnAddbaReq
  split
  · rfl
  dsimp only
  split
  · rfl
  · exact txActionDot11_core _ _

theorem staOnAddbaRsp_core (body : Bytes) : (staOnAddbaRsp s body).core = s.core := by
  unfold staOnAddbaRsp
  split <;> rfl

theorem addtsApOnReq_core (body : Bytes) : (addtsApOnReq s body).core = s.core := by
  unfold addtsApOnReq
  split
  · rfl
  dsimp only
  split
  · rfl
  · exact txInt_core _ _ _

theorem addtsStaOnResp_core (body : Bytes) : (addtsStaOnResp s body).core = s.core := by
  unfold addtsStaOnResp
  split <;> rfl

theorem addtsOnDelts_core (body : Bytes) : (addtsOnDelts s body).core = s.core := by
  unfold addtsOnDelts
  split <;> rfl

theorem rxQosData_core (inp : Bytes) : (rxQosData env s inp).core = s.core := by
  unfold rxQosData
  dsimp only
  split_ifs <;> rfl

theorem smeAddtsRequest_core (tsid ac direction : UInt8) (mediumTime : UInt16) :
    (smeAddtsRequest s tsid ac direction mediumTime).1.core = s.core := by
  unfold smeAddtsRequest
  split
  · rfl
  split
  · rfl
  dsimp only
  split
  · rfl
  · exact txInt_core _ _ _

theorem smeDelts_core (tsid : UInt8) : (smeDelts s tsid).1.core = s.core := by
  unfold smeDelts
  split
  · rfl
  split
  · rfl
  dsimp only
  split
  · rfl
  · exact txInt_core _ _ _

theorem smeSaQueryTick_core : (smeSaQueryTick s).core = s.core := by
  unfold smeSaQueryTick
  split
  · rfl
  dsimp only
  split
  · rfl
  · exact saQueryTx_core _ _

theorem smeBaEstablish_core (tid : UInt8) : (smeBaEstablish s tid).1.core = s.core := by
  unfold smeBaEstablish
  split
  · rfl
  split
  · rfl
  · rename_i ba body _
    exact txActionDot11_core { s with ba := ba } body

/-- A protected group frame uses up a packet number of the group key. -/
theorem txProtectedGroupMgmt_core (subtype : UInt8) (reason : UInt16) :
    ∃ ipn, (txProtectedGroupMgmt s subtype reason).1.core =
      { s.core with igtk := { s.igtk with ipnTx := ipn } } := by
  unfold txProtectedGroupMgmt
  split
  · exact ⟨s.igtk.ipnTx, rfl⟩
  split
  · exact ⟨s.igtk.ipnTx, rfl⟩
  · rename_i f igtk built
    refine ⟨s.igtk.ipnTx + 1, (txRaw_core _ _).trans ?_⟩
    have next : igtk = { s.igtk with ipnTx := s.igtk.ipnTx + 1 } := by
      unfold pmfBuildProtectedMgmt pmfGroupProtect at built
      dsimp only at built
      split at built
      · cases built
      · obtain ⟨f', _, eq⟩ := Option.map_eq_some_iff.1 built
        exact (Prod.mk.inj eq).2.symm
    rw [next]
    rfl

end Quiet

section Receive

variable (env : Env) (sib : Siblings) (s : Sme)

/-- An answer on the direct link is a data frame. -/
theorem tdlsAnswer_core (r : TdlsPeer × Option Bytes) :
    (tdlsAnswer env s r).core = s.core ∨
      s.state = .connected ∧ (tdlsAnswer env s r).core = s.core.send s.halBound := by
  unfold tdlsAnswer
  split
  · exact Or.inl rfl
  · rename_i out _
    exact tdlsEncapTx_core env { s with tdls := r.1, tdlsRx := s.tdlsRx + 1 } out

theorem tdlsOnReq_core (body : Bytes) :
    (tdlsOnReq env s body).core = s.core ∨
      s.state = .connected ∧ (tdlsOnReq env s body).core = s.core.send s.halBound := by
  unfold tdlsOnReq
  split
  · exact Or.inl rfl
  rename_i req _
  split
  · exact Or.inl rfl
  have same : (tdlsRespond s req).core = s.core ∧ (tdlsRespond s req).halBound = s.halBound := by
    unfold tdlsRespond
    split <;> exact ⟨rfl, rfl⟩
  have sameState : (tdlsRespond s req).state = s.state :=
    congrArg (fun c : SmeCore => c.state) same.1
  dsimp only
  rcases tdlsAnswer_core env
      (smeGenMaterial env (tdlsRespond s req) 32 ((tdlsRespond s req).nonceSalt ^^^ 0x7d15)).2
      (tdlsOnSetupReq (smeGenMaterial env (tdlsRespond s req) 32
        ((tdlsRespond s req).nonceSalt ^^^ 0x7d15)).2.tdls body
        (smeGenMaterial env (tdlsRespond s req) 32 ((tdlsRespond s req).nonceSalt ^^^ 0x7d15)).1
        tdlsBodyMax) with quiet | ⟨up, sent⟩
  · exact Or.inl (quiet.trans same.1)
  · right
    refine ⟨sameState.symm.trans up, sent.trans ?_⟩
    rw [smeGenMaterial_core, same.1]
    exact congrArg s.core.send same.2

theorem tdlsStaDeliver_core (body : Bytes) :
    (tdlsStaDeliver env s body).core = s.core ∨
      s.state = .connected ∧ (tdlsStaDeliver env s body).core = s.core.send s.halBound := by
  unfold tdlsStaDeliver
  split
  · exact Or.inl rfl
  split
  · exact tdlsOnReq_core env s body
  split
  · exact tdlsAnswer_core env s _
  split
  · exact Or.inl rfl
  split
  · dsimp only
    split <;> exact Or.inl rfl
  · exact Or.inl rfl

/-- A data frame whose payload is a direct link frame. -/
def carriesTdls (inp : Bytes) : Bool := tdlsIsEncap ((dataMsg inp).drop (smePfxLen + 6))

/-- Received data leaves the core alone, unless a direct link of a station answers it. -/
theorem rxData_core (inp : Bytes) :
    (rxData env sib s inp).1.core = s.core ∨
      s.state = .connected ∧ carriesTdls inp = true ∧
        (rxData env sib s inp).1.core = s.core.send s.halBound := by
  unfold rxData
  split
  · exact Or.inl rfl
  split
  · exact Or.inl rfl
  dsimp only
  split
  · exact Or.inl rfl
  unfold routeData
  split
  · rename_i encap
    split
    · split <;> exact Or.inl rfl
    · rcases tdlsStaDeliver_core env { s with dataRxReplay := _ } _ with same | ⟨up, sent⟩
      · exact Or.inl same
      · exact Or.inr ⟨up, encap, sent⟩
  split <;> exact Or.inl rfl

end Receive

end Rf2a4m1
