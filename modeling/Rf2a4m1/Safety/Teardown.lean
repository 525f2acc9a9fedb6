import Rf2a4m1.Sme.Demo
import Rf2a4m1.Sme.Effect

/-!
# Teardown under management frame protection

With protection active a Deauthentication or Disassociation counts when it is
authentic under the group key and newer than the last one. The packet number
of the group key only rises while that key stays, so none counts twice.
-/

set_option autoImplicit false

namespace Rf2a4m1

open ByteString Runs

/-- What the group key demands of a frame: a MIC element that verifies, with a new packet number. -/
structure PmfIgtk.Authentic (k : PmfIgtk) (frame : Bytes) : Prop where
  installed : k.installed = true
  element : endsInMmie frame = true
  mic : bipMicOk frame k.key = true
  newer : k.ipnRx < mmieIpn frame

/-- A Deauthentication or a Disassociation by its header. -/
def isTeardown (frame : Bytes) : Bool :=
  match mgmtParseHdr frame with
  | none => false
  | some h => h.subtype = 12 || h.subtype = 10

/-- The teardown frame an operation receives. -/
def SmeOp.teardown : SmeOp → Option Bytes
  | .rx _ frame | .rxMgmt frame => if isTeardown frame then some frame else none
  | _ => none

/-- The link changed. -/
def Honoured (s t : Sme) : Prop := t.state ≠ s.state ∨ t.connected ≠ s.connected

/-- A teardown frame changes the link only when it is authentic, and is counted then. -/
structure TeardownStep (s t : Sme) (frame : Bytes) : Prop where
  changes : Honoured s t → s.igtk.Authentic frame ∧ t.igtk.ipnRx = mmieIpn frame
  counted : s.igtk.Authentic frame → s.state ≠ .failed → t.igtk.ipnRx = mmieIpn frame
  kept : ¬s.igtk.Authentic frame →
    t.state = s.state ∧ t.connected = s.connected ∧ t.igtk.ipnRx = s.igtk.ipnRx

/-- The steps that install a group management key. -/
def InstallsIgtk (env : Env) (s : Sme) (e : SmeEvent) : Prop :=
  match e with
  | .handle .m2 inp => s.role = .ap ∧ s.mfpActive = true ∧ apAcceptsM2 env s (frameBody inp) = true
  | .handle .m3 inp =>
    s.role = .sta ∧ s.mfpActive = true ∧ ∃ replay gtk kde,
      staTakesM3 env s (frameBody inp) = some (replay, gtk, kde) ∧ (igtkKdeFind kde).isSome = true
  | _ => False

section Frame

variable {s : Sme} {frame : Bytes}

theorem mmieFresh_iff : mmieFresh s frame = true ↔ s.igtk.Authentic frame := by
  unfold mmieFresh
  rw [Bool.and_eq_true, Bool.and_eq_true, Bool.and_eq_true, decide_eq_true_eq]
  constructor
  · rintro ⟨⟨⟨element, installed⟩, mic⟩, newer⟩
    exact ⟨installed, element, mic, newer⟩
  · rintro ⟨installed, element, mic, newer⟩
    exact ⟨⟨⟨element, installed⟩, mic⟩, newer⟩

theorem isTeardown_hdr (torn : isTeardown frame = true) :
    ∃ h, mgmtParseHdr frame = some h ∧ (h.subtype = 12 ∨ h.subtype = 10) ∧
      h.fc = getLe16 frame 0 ∧ h.subtype = fcSubtype h.fc ∧ fcType h.fc = 0 ∧
      24 ≤ frame.length := by
  unfold isTeardown at torn
  split at torn
  · cases torn
  rename_i h parsed
  obtain ⟨fc, subtype, _, type, long, _⟩ := mgmtParseHdr_fc parsed
  exact ⟨h, parsed, by simpa using torn, fc, subtype, type, long⟩

/-- A frame whose MIC verifies is short. -/
theorem bipMicOk_length {key : Octets 16} (mic : bipMicOk frame key = true) :
    frame.length ≤ 554 := by
  by_contra long
  have body : (slice frame 24 (frame.length - 42)).length > 512 := by
    simp only [slice, List.length_take, List.length_drop]
    omega
  unfold bipMicOk bipComputeMic at mic
  rw [if_pos body] at mic
  simp at mic

/-- An authentic teardown frame is counted, whatever the state. -/
theorem rxRobustMgmt_counted (torn : isTeardown frame = true)
    (authentic : s.igtk.Authentic frame) :
    (rxRobustMgmt s frame).igtk.ipnRx = mmieIpn frame := by
  obtain ⟨h, _, subtype, fc, code, type, _⟩ := isTeardown_hdr torn
  rw [code, fc] at subtype
  rw [fc] at type
  have robust : pmfIsRobustMgmt (getLe16 frame 0) (frame.drop 24) = true := by
    unfold pmfIsRobustMgmt
    rw [if_neg (not_not.2 type), if_pos subtype]
  have verified : pmfGroupVerify s.igtk frame = (.ok, igtkSeen s frame) := by
    rcases pmfGroupVerify_eq s frame authentic.element with ⟨_, verified⟩ | ⟨stale, _⟩
    · exact verified
    · rw [mmieFresh_iff.2 authentic] at stale
      cases stale
  unfold rxRobustMgmt
  dsimp only
  rw [robust, authentic.element, verified, if_neg (by decide), if_neg (by simp), if_pos rfl]
  dsimp only
  rw [if_neg (by simp), if_pos subtype]
  unfold teardown
  split <;> rfl

end Frame

section Step

variable {env : Env} {s : Sme} {op : SmeOp} {frame : Bytes}

theorem kept_of_core {t : Sme} (same : t.core = s.core) :
    t.state = s.state ∧ t.connected = s.connected ∧ t.igtk.ipnRx = s.igtk.ipnRx :=
  ⟨congrArg SmeCore.state same, congrArg SmeCore.connected same,
    congrArg (fun c : SmeCore => c.igtk.ipnRx) same⟩

theorem not_honoured_of_core {t : Sme} (same : t.core = s.core) : ¬Honoured s t := by
  obtain ⟨state, connected, _⟩ := kept_of_core same
  rintro (changed | changed)
  · exact changed state
  · exact changed connected

/-- Without an install a third message carries no group management key for us. -/
theorem not_installed_m3 {inp : Bytes} {replay : Nat} {gtk : Octets 16} {kde : Bytes}
    (stays : ¬InstallsIgtk env s (.handle .m3 inp)) (role : s.role = .sta)
    (taken : staTakesM3 env s (frameBody inp) = some (replay, gtk, kde)) :
    s.mfpActive = false ∨ (igtkKdeFind kde).isNone = true := by
  by_contra both
  rw [not_or] at both
  refine stays ⟨role, by simpa using both.1, replay, gtk, kde, taken, ?_⟩
  simpa [Option.isSome_iff_ne_none] using both.2

/-- Receiving a teardown frame is the robust management path, or nothing at all. -/
theorem smeEvent_teardown (torn : op.teardown = some frame) :
    smeEvent s op = .robust frame ∧ smeStep env s op = rxRobustMgmt s frame ∨
      smeEvent s op = .quiet ∧ (s.state = .failed ∨ frame.length > 0xffff) := by
  have parts {f : Bytes} (h : (if isTeardown f then some f else none) = some frame) :
      f = frame ∧ isTeardown frame = true := by
    split at h
    · rename_i is
      cases h
      exact ⟨rfl, is⟩
    · cases h
  cases op with
  | rx sib f =>
    obtain ⟨rfl, is⟩ := parts torn
    obtain ⟨h, parsed, subtype, _, _, _, long⟩ := isTeardown_hdr is
    have step : smeStep env s (.rx sib f) = (rxAct env sib s f (rxKind s f)).1 := smeStep_rx_eq
    have event : smeEvent s (.rx sib f) = (rxKind s f).event f := rfl
    by_cases out : s.state = .failed ∨ f.length > 0xffff
    · right
      refine ⟨?_, out⟩
      rw [event, rxKind_mgmt_ignored parsed out]
      rfl
    rw [not_or, Nat.not_lt] at out
    have kind : rxKind s f = .robust := by
      rw [rxKind_mgmt parsed out.1 out.2]
      unfold mgmtKind
      rw [if_pos subtype, if_pos long]
    left
    rw [event, step, kind]
    exact ⟨rfl, rfl⟩
  | rxMgmt f =>
    obtain ⟨rfl, is⟩ := parts torn
    obtain ⟨_, _, _, _, _, _, long⟩ := isTeardown_hdr is
    left
    exact ⟨if_neg (Nat.not_lt.2 long), if_neg (Nat.not_lt.2 long)⟩
  | _ => cases torn

theorem isTeardown_of_op (torn : op.teardown = some frame) : isTeardown frame = true := by
  unfold SmeOp.teardown at torn
  split at torn
  · split at torn
    · cases torn
      assumption
    · cases torn
  · split at torn
    · cases torn
      assumption
    · cases torn
  · cases torn

/-- The link stays up unless the frame is authentic or, without protection, has no MIC element. -/
theorem teardown_effect {c : SmeCore} (effect : Effect env s (.robust frame) c) :
    c.mfpActive = s.mfpActive ∧
      (c = s.core ∨ s.igtk.Authentic frame ∨ s.mfpActive = false ∧ endsInMmie frame = false) := by
  cases effect with
  | unchanged => exact ⟨rfl, Or.inl rfl⟩
  | groupSeen fresh => exact ⟨rfl, Or.inr (Or.inl (mmieFresh_iff.1 fresh))⟩
  | tornProtected fresh => exact ⟨rfl, Or.inr (Or.inl (mmieFresh_iff.1 fresh))⟩
  | tornPlain plain => exact ⟨rfl, Or.inr (Or.inr plain)⟩

theorem teardownStep (active : s.mfpActive = true) (torn : op.teardown = some frame) :
    TeardownStep s (smeStep env s op) frame ∧ (smeStep env s op).mfpActive = true := by
  have effect := smeStep_effect env s op
  rcases @smeEvent_teardown env _ _ _ torn with ⟨event, step⟩ | ⟨event, idle⟩
  · rw [event] at effect
    obtain ⟨policy, outcome⟩ := teardown_effect effect
    have outcome : (smeStep env s op).core = s.core ∨ s.igtk.Authentic frame := by
      refine outcome.imp_right fun h => h.resolve_right ?_
      simp [active]
    have counted (authentic : s.igtk.Authentic frame) :
        (smeStep env s op).igtk.ipnRx = mmieIpn frame := by
      rw [step]
      exact rxRobustMgmt_counted (isTeardown_of_op torn) authentic
    refine ⟨⟨fun changed => ?_, fun authentic _ => counted authentic, fun forged => ?_⟩,
      policy.trans active⟩
    · have authentic := outcome.resolve_left fun same => not_honoured_of_core same changed
      exact ⟨authentic, counted authentic⟩
    · exact kept_of_core (outcome.resolve_right forged)
  · rw [event] at effect
    have same := Effect.quiet_eq env s effect
    refine ⟨⟨fun changed => absurd changed (not_honoured_of_core same), fun authentic live => ?_,
      fun _ => kept_of_core same⟩, (congrArg (fun c : SmeCore => c.mfpActive) same).trans active⟩
    have short := bipMicOk_length authentic.mic
    rcases idle with failed | long
    · exact absurd failed live
    · omega

/-- A frame with a MIC element whose packet number was seen leaves the link alone. -/
theorem not_honoured_seen (torn : op.teardown = some frame) (element : endsInMmie frame = true)
    (seen : mmieIpn frame ≤ s.igtk.ipnRx) : ¬Honoured s (smeStep env s op) := by
  have effect := smeStep_effect env s op
  rcases @smeEvent_teardown env _ _ _ torn with ⟨event, _⟩ | ⟨event, _⟩
  · rw [event] at effect
    rcases (teardown_effect effect).2 with same | authentic | ⟨_, plain⟩
    · exact not_honoured_of_core same
    · exact absurd authentic.newer (Nat.not_lt.2 seen)
    · rw [element] at plain
      cases plain
  · rw [event] at effect
    exact not_honoured_of_core (Effect.quiet_eq env s effect)

/-- Unless a group key is installed its packet number only rises. -/
theorem ipnRx_effect {e : SmeEvent} {c : SmeCore} (stays : ¬InstallsIgtk env s e)
    (effect : Effect env s e c) : s.igtk.ipnRx ≤ c.igtk.ipnRx := by
  have negotiated (ies : Bytes) : (s.toSmePmf.negotiate ies).1.igtk.ipnRx = s.igtk.ipnRx := by
    rw [negotiate_igtk]
  cases effect with
  | groupSeen fresh => exact Nat.le_of_lt (mmieFresh_iff.1 fresh).newer
  | tornProtected fresh => exact Nat.le_of_lt (mmieFresh_iff.1 fresh).newer
  | announced role scanning pmf peer sae phase state policy =>
    rcases policy with rfl | rfl
    · exact Nat.le_refl _
    · exact Nat.le_of_eq (negotiated _).symm
  | apAssocRefused => exact Nat.le_of_eq (negotiated _).symm
  | apAssocReq => exact Nat.le_of_eq (negotiated _).symm
  | staAssocRefused => exact Nat.le_of_eq (negotiated _).symm
  | staAssocResp => exact Nat.le_of_eq (negotiated _).symm
  | staAssocRespM1 => exact Nat.le_of_eq (negotiated _).symm
  | apM2 role k reads accepts gtk igtk replay kept =>
    have inactive : s.mfpActive = false := by
      by_contra active
      exact stays ⟨role, by simpa using active, accepts⟩
    exact Nat.le_of_eq (congrArg _ (kept inactive)).symm
  | staM3Refused role replay gtk kde igtk taken refused kept =>
    exact Nat.le_of_eq (congrArg _ (kept (not_installed_m3 stays role taken))).symm
  | staM3 role replay gtk kde igtk taken accepts kept valid =>
    have same : igtk = s.igtk := kept (not_installed_m3 stays role taken)
    rw [same]
    exact Nat.le_refl _
  | _ => exact Nat.le_refl _

end Step

section Run

variable {env : Env}

/--
Along teardown frames each one that changes the link is authentic. While no
group key is installed, whatever else happens, the same frame counts only once.
-/
theorem teardown_authenticated {s t : Sme} (active : s.mfpActive = true)
    (run : Run (smeStep env) (fun _ op => op.teardown.isSome = true) s t)
    {op : SmeOp} {frame : Bytes} (torn : op.teardown = some frame) :
    TeardownStep t (smeStep env t op) frame ∧
      (Honoured t (smeStep env t op) → ∀ u op',
        Run (smeStep env) (fun s op => ¬InstallsIgtk env s (smeEvent s op)) (smeStep env t op) u →
          op'.teardown = some frame → ¬Honoured u (smeStep env u op')) := by
  have activeT : t.mfpActive = true := run.invariant (fun t => t.mfpActive = true) active
    fun v op active torn => by
      obtain ⟨f, torn⟩ := Option.isSome_iff_exists.1 torn
      exact (teardownStep active torn).2
  have first := (@teardownStep env _ _ _ activeT torn).1
  refine ⟨first, fun changed u op' later again => ?_⟩
  obtain ⟨authentic, counted⟩ := first.changes changed
  have seen : mmieIpn frame ≤ u.igtk.ipnRx := later.invariant
    (fun v => mmieIpn frame ≤ v.igtk.ipnRx) (Nat.le_of_eq counted.symm)
    fun v op seen stays => Nat.le_trans seen (ipnRx_effect stays (smeStep_effect env v op))
  exact not_honoured_seen again authentic.element seen

def plainDeauth : Bytes := putHdr .deauth demoApMac demoStaMac demoApMac 0 ++ putLe16 3

/-- A Deauthentication without a MIC leaves a protected link up, again and again. -/
theorem teardown_authenticated_demo :
    let s := runOps demoApInit (demoApOps .optional demoRsne)
    let t := smeStep demoEnv s (.rx noSiblings plainDeauth)
    s.state = .connected ∧ s.mfpActive = true ∧
      TeardownStep t (smeStep demoEnv t (.rxMgmt plainDeauth)) plainDeauth := by
  intro s t
  have up : s.state = .connected ∧ s.mfpActive = true := by
    decide +kernel
  have torn : (SmeOp.rx noSiblings plainDeauth).teardown = some plainDeauth := by
    decide
  have run : Run (smeStep demoEnv) (fun _ op => op.teardown.isSome = true) s t :=
    Run.single _ (by rw [torn]; rfl)
  have again : (SmeOp.rxMgmt plainDeauth).teardown = some plainDeauth := torn
  exact ⟨up.1, up.2, (teardown_authenticated up.2 run again).1⟩

end Run

end Rf2a4m1
