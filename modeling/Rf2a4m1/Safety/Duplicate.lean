import Rf2a4m1.Safety.ForeignFrames
import Rf2a4m1.Sme.Demo
import Rf2a4m1.Sme.Keyless

/-!
# A repeated Association Response

The handler of an Association Response looks at neither state nor history. A
copy of a response that succeeded sends the station back to the start of the
handshake, and under OWE it finds the key pair spent.
-/

set_option autoImplicit false

namespace Rf2a4m1

open ByteString Runs

section Reading

variable {s t : Sme} {frame inp : Bytes} {aid : Option UInt16}

theorem internalKind_stays {a : Option UInt16} {type : FrameType} {b : Bytes}
    (reads : internalKind s a type b = .handle aid .assocResp inp) (associated : Associated t) :
    internalKind t a type b = .handle aid .assocResp inp := by
  unfold internalKind at reads ⊢
  split at reads
  · rename_i gate
    cases reads
    have long : smePfxLen ≤ inp.length := by
      simp only [demuxGate, Bool.and_eq_true, decide_eq_true_eq] at gate
      exact gate.1.1
    have open' : demuxGate t .assocResp inp = true := by
      rcases associated with waiting | during
      · simp [demuxGate, long, waiting]
      · simp [demuxGate, long, during]
    rw [if_pos open']
  · cases a <;> cases reads

theorem viewKind_stays {a : Option UInt16} {type : FrameType} {src : MacAddr} {b : Bytes}
    (reads : viewKind s a type src b = .handle aid .assocResp inp) (associated : Associated t) :
    viewKind t a type src b = .handle aid .assocResp inp := by
  unfold viewKind at reads ⊢
  split at reads
  · cases a <;> cases reads
  · rename_i fits
    rw [if_neg fits]
    exact internalKind_stays reads associated

theorem viewKind_type {a : Option UInt16} {type read : FrameType} {src : MacAddr} {b : Bytes}
    (reads : viewKind s a type src b = .handle aid read inp) : read = type := by
  unfold viewKind internalKind at reads
  split at reads
  · cases a <;> cases reads
  · split at reads
    · cases reads
      rfl
    · cases a <;> cases reads

variable {h : MgmtHdr} {type : FrameType}

theorem assocReqKind_type {read : FrameType} (reads : assocReqKind s h type = .handle aid read inp) :
    read = type := by
  unfold assocReqKind at reads
  split at reads
  · cases reads
  · exact viewKind_type reads

theorem assocRespKind_stays (reads : assocRespKind s h type = .handle aid .assocResp inp)
    (associated : Associated t) : assocRespKind t h type = .handle aid .assocResp inp := by
  unfold assocRespKind at reads ⊢
  cases parsed : mgmtParseAssocResp h.body with
  | none =>
    rw [parsed] at reads
    cases reads
  | some r =>
    rw [parsed] at reads
    dsimp only at reads ⊢
    split at reads
    · cases reads
    · rename_i success
      rw [if_neg success]
      exact viewKind_stays reads associated

theorem actionKind_notResp : actionKind s frame h ≠ .handle aid .assocResp inp := by
  intro reads
  unfold actionKind at reads
  split at reads
  · cases reads
  · cases reads
  · split at reads
    · cases reads
    · rename_i type known
      have keyless := actionType_keyless known
      rw [← viewKind_type reads] at keyless
      cases keyless

theorem authKind_notResp : authKind s h ≠ .handle aid .assocResp inp := by
  intro reads
  unfold authKind at reads
  split at reads
  · cases reads
  split at reads
  · cases reads
  split at reads
  · cases reads
  split at reads
  · cases viewKind_type reads
  split at reads
  · split at reads
    · cases reads
    · cases viewKind_type reads
  · cases reads

/-- What the header of a management frame is read as, when that is an Association Response. -/
theorem mgmtKind_stays (reads : mgmtKind s frame h = .handle aid .assocResp inp)
    (associated : Associated t) : mgmtKind t frame h = .handle aid .assocResp inp := by
  unfold mgmtKind at reads ⊢
  split at reads
  · split at reads <;> cases reads
  rename_i c₁
  rw [if_neg c₁]
  split at reads
  · exact absurd reads actionKind_notResp
  rename_i c₂
  rw [if_neg c₂]
  split at reads
  · cases reads
  rename_i c₃
  rw [if_neg c₃]
  split at reads
  · split at reads <;> cases reads
  rename_i c₄
  rw [if_neg c₄]
  split at reads
  · exact absurd reads authKind_notResp
  rename_i c₅
  rw [if_neg c₅]
  split at reads
  · cases assocReqKind_type reads
  rename_i c₆
  rw [if_neg c₆]
  split at reads
  · cases assocReqKind_type reads
  rename_i c₇
  rw [if_neg c₇]
  split at reads
  · rename_i c₈
    rw [if_pos c₈]
    exact assocRespKind_stays reads associated
  rename_i c₈
  rw [if_neg c₈]
  split at reads
  · rename_i c₉
    rw [if_pos c₉]
    exact assocRespKind_stays reads associated
  · cases reads

/-- An Association Response is read the same by every station that is associated. -/
theorem rxKind_assocResp_stays (reads : rxKind s frame = .handle aid .assocResp inp)
    (associated : Associated t) : rxKind t frame = .handle aid .assocResp inp := by
  have data : dataKind s frame ≠ .handle aid .assocResp inp := by
    intro reads
    unfold dataKind at reads
    split at reads
    · cases reads
    split at reads
    · cases reads
    · rename_i type known
      obtain ⟨k, _, known⟩ := Option.bind_eq_some_iff.1 known
      rw [← viewKind_type reads] at known
      unfold eapolType at known
      dsimp only at known
      split_ifs at known <;> cases known
  have live : t.state ≠ .failed := by
    rcases associated with waiting | during
    · rw [waiting]
      decide
    · rw [during]
      decide
  unfold rxKind at reads ⊢
  split at reads
  · cases reads
  rename_i nonempty
  rw [if_neg (by simp [live, (not_or.1 nonempty).1])]
  cases header : (if frame.length ≤ 0xffff then mgmtParseHdr frame else none) with
  | some h =>
    rw [header] at reads
    exact mgmtKind_stays reads associated
  | none =>
    rw [header] at reads
    dsimp only at reads ⊢
    split at reads
    · exact absurd reads data
    rename_i noData
    rw [if_neg noData]
    split at reads
    · cases reads
    rename_i tagged
    rw [if_neg tagged]
    cases known : FrameType.ofCode (smeIntType (byteAt frame 0)) with
    | none =>
      rw [known] at reads
      cases reads
    | some type =>
      rw [known] at reads
      exact internalKind_stays reads associated

end Reading

/-- The station is not set back, has not failed, and takes every third message as before. -/
structure FinishesAlike (env : Env) (s t : Sme) : Prop where
  alive : t.state ≠ .failed
  forward : s.state.code ≤ t.state.code
  thirdMessage : ∀ op inp, smeEvent s op = .handle .m3 inp →
    (smeStep env s op).state = .connected → (smeStep env t op).state = .connected

section Response

variable {env : Env} {s : Sme} {ies : Bytes}

/-- Negotiation first; then the state it leads to decides. -/
theorem staOnAssocResp_tail : ∃ u : Sme, u.akm = s.akm ∧ u.oweKpOk = s.oweKpOk ∧
    u.earlyM1 = s.earlyM1 ∧
    staOnAssocResp env s ies =
      if (s.toSmePmf.negotiate ies).2 ≠ pmfStatusSuccess then { u with state := .failed }
      else if s.akm = .owe then
        if (smeOweOnAssocResp u ies).2 then staAssoced env (smeOweOnAssocResp u ies).1
        else { (smeOweOnAssocResp u ies).1 with state := .failed }
      else staAssoced env u := by
  obtain ⟨assoc, _, pmf, _, owe, early⟩ := staQosNegotiate_rest s ies
  refine ⟨{ staQosNegotiate s ies with toSmePmf := (s.toSmePmf.negotiate ies).1 },
    congrArg SmeAssoc.akm assoc, congrArg SmeOwe.oweKpOk owe, early, ?_⟩
  have akm : (staQosNegotiate s ies).akm = s.akm := congrArg SmeAssoc.akm assoc
  unfold staOnAssocResp
  rw [pmfNegotiateIes_eq, pmf]
  dsimp only
  rw [akm]
  by_cases isOwe : s.akm = .owe
  · simp only [isOwe, if_true]
  · simp only [isOwe, if_false, if_true]

/-- An associated station that keeps no message goes back to waiting, or fails. -/
theorem staOnAssocResp_again (clear : s.earlyM1 = none) (spent : s.akm = .owe → s.oweKpOk = false) :
    (staOnAssocResp env s ies).state =
      if s.akm ≠ .owe ∧ (s.toSmePmf.negotiate ies).2 = pmfStatusSuccess then .assoced
      else .failed := by
  obtain ⟨u, _, pair, early, eq⟩ := @staOnAssocResp_tail env s ies
  rw [eq]
  by_cases success : (s.toSmePmf.negotiate ies).2 = pmfStatusSuccess
  · rw [if_neg (not_not.2 success)]
    by_cases isOwe : s.akm = .owe
    · have refused : ¬(smeOweOnAssocResp u ies).2 = true := by
        intro ok
        have had := (smeOweOnAssocResp_spends ok).2
        rw [pair, spent isOwe] at had
        cases had
      have no : ¬(s.akm ≠ .owe ∧ (s.toSmePmf.negotiate ies).2 = pmfStatusSuccess) :=
        fun h => h.1 isOwe
      rw [if_pos isOwe, if_neg refused, if_neg no]
    · rw [if_neg isOwe, staAssoced_clear (early.trans clear)]
      exact (if_pos ⟨isOwe, success⟩).symm
  · rw [if_pos success]
    exact (if_neg (fun h => success h.2)).symm

/-- A successful response under OWE has spent the key pair. -/
theorem staOnAssocResp_spends (isOwe : s.akm = .owe)
    (alive : (staOnAssocResp env s ies).state ≠ .failed) :
    (staOnAssocResp env s ies).oweKpOk = false := by
  obtain ⟨u, _, _, _, eq⟩ := @staOnAssocResp_tail env s ies
  rw [eq, if_pos isOwe] at alive ⊢
  split at alive
  · exact absurd rfl alive
  rename_i success
  rw [if_neg success]
  split at alive
  · rename_i ok
    rw [if_pos ok]
    exact (congrArg SmeOwe.oweKpOk (staAssoced_rest _).2).trans (smeOweOnAssocResp_spends ok).1
  · exact absurd rfl alive

theorem staReadsM3_during {pdu : Bytes} {k : EapolKey} (reads : staReadsM3 env s pdu = some k) :
    s.state = .fourWay := by
  unfold staReadsM3 at reads
  split at reads
  · assumption
  · cases reads

/-- A third message is taken only during the handshake. -/
theorem m3_connects {op : SmeOp} {inp : Bytes}
    (reads : smeEvent s op = .handle .m3 inp) (before : s.state ≠ .connected)
    (connects : (smeStep env s op).state = .connected) : s.state = .fourWay := by
  have effect := smeStep_effect env s op
  have here : (smeStep env s op).core.state = .connected := connects
  rw [reads] at effect
  revert effect here
  generalize (smeStep env s op).core = c
  intro effect here
  cases effect with
  | unchanged => exact absurd here before
  | staM3Refused => exact absurd here before
  | staM3 _ replay gtk kde igtk taken =>
    obtain ⟨k, reads, _⟩ := Option.bind_eq_some_iff.1 taken
    exact staReadsM3_during reads

end Response

section Repeat

variable {env : Env} {role : SmeRole} {self : MacAddr} {pmk : Octets 32} {salt : UInt64}
  {config : SmeConfig} {s₀ s : Sme} {sib sib' : Siblings} {frame inp : Bytes}
  {aid : Option UInt16}

theorem smeStep_akm (op : SmeOp) : (smeStep env s op).akm = s.akm := by
  have effect := smeStep_effect env s op
  have same : (smeStep env s op).core.akm = s.core.akm := by
    revert effect
    generalize smeEvent s op = e
    generalize (smeStep env s op).core = c
    intro effect
    cases effect <;> rfl
  exact same

/-- A copy of an Association Response that succeeded leaves an associated station able to finish
exactly while it waits for the first message, not under OWE, and as long as its policy still
accepts the response. -/
theorem duplicateAssocResp_iff
    (reach : Reach (smeStep env) (smeConfigure (smeInit role self pmk salt) config) s₀)
    (sta : s₀.role = .sta) (first : rxKind s₀ frame = .handle aid .assocResp inp)
    (succeeded : Associated (smeStep env s₀ (.rx sib frame)))
    (later : Reach (smeStep env) (smeStep env s₀ (.rx sib frame)) s) (associated : Associated s) :
    FinishesAlike env s (smeStep env s (.rx sib' frame)) ↔
      s.state = .assoced ∧ s.akm ≠ .owe ∧
        (s.toSmePmf.negotiate (frameBody inp)).2 = pmfStatusSuccess := by
  have responds (t : Sme) (sib : Siblings) (isSta : t.role = .sta)
      (reads : rxKind t frame = .handle aid .assocResp inp) :
      smeStep env t (.rx sib frame) =
        staOnAssocResp env { t with aid := aid.getD t.aid } (frameBody inp) :=
    sta_handles isSta reads nofun
  have inv : s.role = .sta ∧ (s.akm = .owe → s.oweKpOk = false) := by
    refine later.invariant (fun t => t.role = .sta ∧ (t.akm = .owe → t.oweKpOk = false)) ?_ ?_
    · refine ⟨(smeStep_role _).trans sta, fun isOwe => ?_⟩
      have isOwe : s₀.akm = .owe := (smeStep_akm _).symm.trans isOwe
      rw [responds s₀ sib sta first] at succeeded ⊢
      refine staOnAssocResp_spends isOwe fun failed => ?_
      rcases succeeded with waiting | during
      · cases waiting.symm.trans failed
      · cases during.symm.trans failed
    · intro t op inv _
      refine ⟨(smeStep_role op).trans inv.1, fun isOwe => ?_⟩
      exact smeStep_oweKpOk (inv.2 ((smeStep_akm op).symm.trans isOwe)) op
  have reachS : Reach (smeStep env) (smeConfigure (smeInit role self pmk salt) config) s :=
    reach.trans ((Run.single _ trivial).trans later)
  have clear := associated_earlyM1 reachS inv.1 associated
  have state : (smeStep env s (.rx sib' frame)).state =
      if s.akm ≠ .owe ∧ (s.toSmePmf.negotiate (frameBody inp)).2 = pmfStatusSuccess then .assoced
      else .failed := by
    rw [responds s sib' inv.1 (rxKind_assocResp_stays first associated)]
    exact staOnAssocResp_again (s := { s with aid := aid.getD s.aid }) clear inv.2
  constructor
  · intro finishes
    by_cases accepted : s.akm ≠ .owe ∧
        (s.toSmePmf.negotiate (frameBody inp)).2 = pmfStatusSuccess
    · rw [if_pos accepted] at state
      have forward := finishes.forward
      rw [state] at forward
      rcases associated with waiting | during
      · exact ⟨waiting, accepted⟩
      · rw [during] at forward
        exact absurd forward (by decide)
    · rw [if_neg accepted] at state
      exact absurd state finishes.alive
  · rintro ⟨waiting, accepted⟩
    rw [if_pos accepted] at state
    constructor
    · rw [state]
      decide
    · simp only [state, waiting, Nat.le_refl]
    · intro op inp' reads connects
      have during := m3_connects reads (by rw [waiting]; decide) connects
      cases waiting.symm.trans during

end Repeat

section Demo

/-- The Association Response of the AP, its last frame but one. -/
def demoAssocResp : Bytes :=
  (((runOps demoApInit (demoApStart .disabled [])).sent.drop 1).head?.map TxFrame.data).getD []

/-- The station before the response, after it, and after it has answered the first message. -/
@[irreducible] def demoBefore : Sme := runOps demoStaInit ((demoStaStart .disabled []).take 5)

def demoWaiting : Sme := smeStep demoEnv demoBefore (.rx noSiblings demoAssocResp)

def demoDuring : Sme := smeStep demoEnv demoWaiting (demoM1 .disabled [])

theorem demoBefore_reach :
    Reach (smeStep demoEnv) (smeConfigure (smeInit .sta demoStaMac demoPmk 9) .plain)
      demoBefore := by
  unfold demoBefore
  exact runOps_reach _ _

theorem demoBefore_reads : demoBefore.role = .sta ∧
    (∃ aid inp, rxKind demoBefore demoAssocResp = .handle aid .assocResp inp ∧
      (demoWaiting.toSmePmf.negotiate (frameBody inp)).2 = pmfStatusSuccess) ∧
    demoWaiting.state = .assoced ∧ demoWaiting.akm = .psk ∧ demoDuring.state = .fourWay := by
  have facts : demoBefore.role = .sta ∧
      ((rxKind demoBefore demoAssocResp).body .assocResp).map (fun inp =>
        (demoWaiting.toSmePmf.negotiate (frameBody inp)).2) = some pmfStatusSuccess ∧
      demoWaiting.state = .assoced ∧ demoWaiting.akm = .psk ∧ demoDuring.state = .fourWay := by
    decide +kernel
  obtain ⟨sta, reads, rest⟩ := facts
  obtain ⟨inp, body, accepted⟩ := Option.map_eq_some_iff.1 reads
  obtain ⟨aid, kind⟩ := RxKind.of_body body
  exact ⟨sta, ⟨aid, inp, kind, accepted⟩, rest⟩

/-- While the station waits for the first message the copy does no harm. -/
theorem duplicateAssocResp_iff_demo :
    FinishesAlike demoEnv demoWaiting
      (smeStep demoEnv demoWaiting (.rx noSiblings demoAssocResp)) := by
  obtain ⟨sta, ⟨aid, inp, reads, accepts⟩, waiting, akm, _⟩ := demoBefore_reads
  exact (duplicateAssocResp_iff demoBefore_reach sta reads (Or.inl waiting) (Run.refl _)
    (Or.inl waiting)).2 ⟨waiting, fun isOwe => (nomatch akm.symm.trans isOwe), accepts⟩

/-- Once it has answered, the copy takes it back. -/
theorem duplicateAssocResp_restarts :
    ¬∀ s₀ s frame aid inp,
      Reach (smeStep demoEnv) (smeConfigure (smeInit .sta demoStaMac demoPmk 9) .plain) s₀ →
      s₀.role = .sta → rxKind s₀ frame = .handle aid .assocResp inp →
      Associated (smeStep demoEnv s₀ (.rx noSiblings frame)) →
      Reach (smeStep demoEnv) (smeStep demoEnv s₀ (.rx noSiblings frame)) s → Associated s →
      FinishesAlike demoEnv s (smeStep demoEnv s (.rx noSiblings frame)) := by
  intro all
  obtain ⟨sta, ⟨aid, inp, reads, _⟩, waiting, _, during⟩ := demoBefore_reads
  have finishes := all _ demoDuring _ _ _ demoBefore_reach sta reads (Or.inl waiting)
    (Run.single _ trivial) (Or.inr during)
  have back : (smeStep demoEnv demoDuring (.rx noSiblings demoAssocResp)).state = .assoced := by
    decide +kernel
  have forward := finishes.forward
  rw [during, back] at forward
  exact absurd forward (by decide)

end Demo

end Rf2a4m1
