import Rf2a4m1.Sme.Demo
import Rf2a4m1.Sme.Effect

/-!
# Required protection of management frames

With the policy set to required, an association whose element list decides the
negotiation is protected. A list without a readable RSN element decides nothing.
-/

set_option autoImplicit false

namespace Rf2a4m1

open ByteString Runs

/-- The states in which an association of this role stands. -/
def associatedStates : SmeRole → List SmeState
  | .sta => [.assoced, .fourWay, .connected]
  | .ap => [.fourWay, .connected]

/-- The policy is required, and every standing association is protected. -/
structure MfpEnforced (c : SmeCore) : Prop where
  mode : c.pmfMode = .required
  active : c.state ∈ associatedStates c.role → c.mfpActive = true

/--
Protection is decided: an association list has a readable RSN element, or
protection is active already; a fast transition only completes with it active;
and the policy is not changed.
-/
def DecidesMfp (env : Env) (s : Sme) (e : SmeEvent) : Prop :=
  match e with
  | .handle .assocReq inp =>
    s.role = .ap → s.mfpActive = true ∨ (firstRsne (frameBody inp)).isSome = true
  | .handle .assocResp inp =>
    s.role = .sta → s.mfpActive = true ∨ (firstRsne (frameBody inp)).isSome = true
  | .handle .ftReassocReq inp =>
    s.role = .ap → s.ftEnabled = true → ftApAcceptsReassoc env s (frameBody inp) = true →
      s.mfpActive = true
  | .handle .ftReassocResp inp =>
    s.role = .sta → s.ftR0Valid = true → ftStaReassocMicOk env s (frameBody inp) = true →
      s.mfpActive = true
  | .set (.pmf mode) => mode = .required
  | _ => True

section Negotiation

/-- Under the required policy a successful negotiation that decides switches protection on. -/
theorem negotiate_required {p : SmePmf} {ies : Bytes} (mode : p.pmfMode = .required)
    (success : (p.negotiate ies).2 = pmfStatusSuccess)
    (decided : p.mfpActive = true ∨ (firstRsne ies).isSome = true) :
    (p.negotiate ies).1.mfpActive = true := by
  unfold SmePmf.negotiate at success ⊢
  cases found : firstRsne ies with
  | none =>
    rw [found] at decided
    rcases decided with active | present
    · exact active
    · cases present
  | some i =>
    rw [found] at success
    simp only [mode] at success ⊢
    exact pmfNegotiate_required success

end Negotiation

section Step

variable {env : Env} {s : Sme} {e : SmeEvent} {c : SmeCore}

/-- Away from the associated states only the policy is asked for. -/
theorem MfpEnforced.of_off {c : SmeCore} (mode : c.pmfMode = .required)
    (off : c.state ∉ associatedStates c.role) : MfpEnforced c where
  mode := mode
  active := fun up => absurd up off

theorem MfpEnforced.of_active {c : SmeCore} (mode : c.pmfMode = .required)
    (active : c.mfpActive = true) : MfpEnforced c where
  mode := mode
  active := fun _ => active

/-- A change that keeps role, state and policy. -/
theorem MfpEnforced.congr {c d : SmeCore} (h : MfpEnforced c) (role : d.role = c.role)
    (state : d.state = c.state) (policy : d.pmfMode = c.pmfMode)
    (active : d.mfpActive = c.mfpActive) : MfpEnforced d where
  mode := policy.trans h.mode
  active := by rw [role, state, active]; exact h.active

theorem not_associated_early (role : SmeRole) {state : SmeState}
    (early : state = .init ∨ state = .scanning ∨ state = .authed ∨ state = .failed) :
    state ∉ associatedStates role := by
  rcases early with rfl | rfl | rfl | rfl <;> cases role <;> decide

theorem mfpEnforced_effect (inv : MfpEnforced s.core) (decides : DecidesMfp env s e)
    (effect : Effect env s e c) : MfpEnforced c := by
  have mode : s.core.pmfMode = .required := inv.mode
  have negotiated (ies : Bytes) : (s.toSmePmf.negotiate ies).1.pmfMode = .required :=
    (negotiate_pmfMode _ _).trans mode
  have atFourWay (up : s.state = .fourWay) : s.mfpActive = true :=
    inv.active (by
      have state : s.core.state = .fourWay := up
      rw [state]
      cases s.core.role <;> decide)
  have handshake {pdu : Bytes} (takes : apTakes s pdu = true) : s.mfpActive = true := by
    rw [apTakes_iff, not_or, not_not] at takes
    exact atFourWay takes.1
  cases effect with
  | unchanged => exact inv
  | refused => exact MfpEnforced.of_off mode (not_associated_early _ (by simp))
  | groupSeen => exact inv.congr rfl rfl rfl rfl
  | tornProtected => exact MfpEnforced.of_off mode (not_associated_early _ (by simp))
  | tornPlain => exact MfpEnforced.of_off mode (not_associated_early _ (by simp))
  | announced role scanning pmf peer sae phase state policy outcome =>
    refine MfpEnforced.of_off ?_ (not_associated_early _ ?_)
    · rcases policy with rfl | rfl
      · exact mode
      · exact negotiated _
    · rcases outcome with ⟨h, _⟩ | h <;> simp [h]
  | saeFailed => exact MfpEnforced.of_off mode (not_associated_early _ (by simp))
  | saeCommit => exact inv.congr rfl rfl rfl rfl
  | saeCommitFailed => exact MfpEnforced.of_off mode (not_associated_early _ (by simp))
  | saeConfirm => exact MfpEnforced.of_off mode (not_associated_early _ (by simp))
  | apAuthReq => exact MfpEnforced.of_off mode (not_associated_early _ (by simp))
  | apAssocRefused => exact MfpEnforced.of_off (negotiated _) (not_associated_early _ (by simp))
  | apAssocReq role success =>
    exact MfpEnforced.of_active (negotiated _) (negotiate_required mode success (decides role))
  | apM2Refused => exact inv.congr rfl rfl rfl rfl
  | apM2 => exact inv.congr rfl rfl rfl rfl
  | apM4 role accepts valid =>
    have takes := (Bool.and_eq_true_iff.1 (Bool.and_eq_true_iff.1 accepts).1).1
    exact MfpEnforced.of_active mode (handshake takes)
  | apFtAuth1Unnamed => exact inv.congr rfl rfl rfl rfl
  | apFtAuth1 => exact inv.congr rfl rfl rfl rfl
  | apFtReassocHeld => exact inv.congr rfl rfl rfl rfl
  | apFtReassoc role enabled accepts =>
    exact MfpEnforced.of_active mode (decides role enabled accepts)
  | staProbeResp role scanning sae phase state outcome =>
    refine MfpEnforced.of_off mode (not_associated_early _ ?_)
    rcases outcome with ⟨h, _⟩ | h <;> simp [h]
  | staAuthResp => exact MfpEnforced.of_off mode (not_associated_early _ (by simp))
  | staAssocRefused => exact MfpEnforced.of_off (negotiated _) (not_associated_early _ (by simp))
  | staAssocResp role success =>
    exact MfpEnforced.of_active (negotiated _) (negotiate_required mode success (decides role))
  | staAssocRespM1 role success =>
    exact MfpEnforced.of_active (negotiated _) (negotiate_required mode success (decides role))
  | staM1 role associated =>
    refine MfpEnforced.of_active mode (inv.active ?_)
    have isSta : s.core.role = .sta := role
    have state : s.core.state = .assoced ∨ s.core.state = .fourWay := associated
    rcases state with up | up <;> rw [up, isSta] <;> decide
  | staM3Refused => exact inv.congr rfl rfl rfl rfl
  | staM3 role replay gtk kde igtk taken =>
    refine MfpEnforced.of_active mode (atFourWay ?_)
    by_contra other
    simp [staTakesM3, staReadsM3, other] at taken
  | answered => exact inv.congr rfl rfl rfl rfl
  | staFtAuth2 => exact inv.congr rfl rfl rfl rfl
  | staFtDsResp => exact inv.congr rfl rfl rfl rfl
  | staFtReassoc role valid mic => exact MfpEnforced.of_active mode (decides role valid mic)
  | peerSet => exact inv.congr rfl rfl rfl rfl
  | pmfSet policy => exact ⟨decides, inv.active⟩
  | ftSet => exact inv.congr rfl rfl rfl rfl
  | connectStart => exact MfpEnforced.of_off mode (not_associated_early _ (by simp))
  | sent => exact inv.congr rfl rfl rfl rfl
  | groupTx => exact inv.congr rfl rfl rfl rfl
  | ftEstablish => exact inv.congr rfl rfl rfl rfl
  | dsPush => exact inv.congr rfl rfl rfl rfl

end Step

section Run

variable {env : Env}

theorem mfpEnforced_step {s : Sme} {op : SmeOp} (inv : MfpEnforced s.core)
    (decides : DecidesMfp env s (smeEvent s op)) : MfpEnforced (smeStep env s op).core :=
  mfpEnforced_effect inv decides (smeStep_effect env s op)

theorem mfpEnforced_init (role : SmeRole) (self : MacAddr) (pmk : Octets 32) (salt : UInt64)
    (config : SmeConfig) :
    MfpEnforced (smeSet (smeConfigure (smeInit role self pmk salt) config)
      (.pmf .required)).core :=
  MfpEnforced.of_off rfl (not_associated_early _ (Or.inl rfl))

/-- From a fresh entity with the policy set to required, no association stands unprotected. -/
theorem mfpEnforced_run {role : SmeRole} {self : MacAddr} {pmk : Octets 32} {salt : UInt64}
    {config : SmeConfig} {s : Sme}
    (run : Run (smeStep env) (fun s op => DecidesMfp env s (smeEvent s op))
      (smeSet (smeConfigure (smeInit role self pmk salt) config) (.pmf .required)) s) :
    MfpEnforced s.core :=
  run.invariant (fun t => MfpEnforced t.core) (mfpEnforced_init role self pmk salt config)
    fun _ _ inv decides => mfpEnforced_step inv decides

/-- A check that suffices for `DecidesMfp`. -/
def decidesMfpCheck (s : Sme) (op : SmeOp) : Bool :=
  match smeEvent s op with
  | .handle .assocReq inp | .handle .assocResp inp =>
    s.mfpActive || (firstRsne (frameBody inp)).isSome
  | .handle .ftReassocReq _ | .handle .ftReassocResp _ => s.mfpActive
  | .set (.pmf mode) => mode = .required
  | _ => true

theorem decidesMfp_of_check {s : Sme} {op : SmeOp} (h : decidesMfpCheck s op = true) :
    DecidesMfp env s (smeEvent s op) := by
  unfold decidesMfpCheck at h
  unfold DecidesMfp
  split at h
  · exact fun _ => by simpa using h
  · exact fun _ => by simpa using h
  · exact fun _ _ _ => h
  · exact fun _ _ _ => h
  · exact of_decide_eq_true h
  · exact trivial

/-- A station that requires protection gets it from an AP capable of it. -/
theorem mfpEnforced_run_demo :
    MfpEnforced (runOps (smeSet demoStaInit (.pmf .required)) (demoStaOps .required demoRsne)).core ∧
      (runOps (smeSet demoStaInit (.pmf .required)) (demoStaOps .required demoRsne)).state =
        .connected := by
  have run : Run (smeStep demoEnv) (fun s op => DecidesMfp demoEnv s (smeEvent s op))
      (smeSet demoStaInit (.pmf .required))
      (runOps (smeSet demoStaInit (.pmf .required)) (demoStaOps .required demoRsne)) := by
    apply runOps_run decidesMfpCheck
    · intro s op h
      exact decidesMfp_of_check h
    · decide +kernel
  exact ⟨mfpEnforced_run run, by decide +kernel⟩

/-- An Association Request without elements begins an unprotected handshake all the same. -/
theorem mfp_stripped :
    ¬∀ s, Run (smeStep demoEnv) (fun _ op => op.receives = true)
      (smeSet demoApInit (.pmf .required)) s → MfpEnforced s.core := by
  intro all
  let s := runOps (smeSet demoApInit (.pmf .required)) [rxInt .assocReq demoStaMac []]
  have state : s.state = .fourWay := by decide +kernel
  have role : s.role = .ap := by decide +kernel
  have inactive : s.mfpActive = false := by decide +kernel
  have enforced := all s (runOps_run (fun _ op => op.receives) (fun _ _ h => h) (by decide +kernel))
  have active : s.mfpActive = true := by
    apply enforced.active
    show s.state ∈ associatedStates s.role
    rw [state, role]
    decide
  rw [inactive] at active
  cases active

end Run

end Rf2a4m1
