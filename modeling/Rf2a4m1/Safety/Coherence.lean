import Rf2a4m1.Sme.Demo
import Rf2a4m1.Sme.Effect

/-!
# State and keys agree

The link flag and the state say the same, and a connected entity protects data
with the key it installed. Both are kept by every step but those that drop out
of the connected state, or replace the pairwise key in it, without a teardown.
-/

set_option autoImplicit false

namespace Rf2a4m1

open ByteString Runs

/-- The link flag, the state and the keys tell the same story. -/
structure Coherent (c : SmeCore) : Prop where
  link : c.connected = true ↔ c.state = .connected
  keys : c.state = .connected → c.ptkInstalled = true ∧ c.gtkInstalled = true ∧
    c.dataKeyValid = true ∧ c.installedTk = tk c.ptk

namespace Coherent

variable {c d : SmeCore}

theorem of_connect : Coherent c.connect where
  link := by simp [SmeCore.connect]
  keys := fun _ => ⟨rfl, rfl, rfl, rfl⟩

/-- Away from the connected state, with the flag down, nothing is asked of the keys. -/
theorem of_down (flag : c.connected = false) (state : c.state ≠ .connected) : Coherent c where
  link := by simp [flag, state]
  keys := fun up => absurd up state

/-- Outside the connected state the flag is down. -/
theorem flag_down (h : Coherent c) (state : c.state ≠ .connected) : c.connected = false := by
  cases flag : c.connected with
  | false => rfl
  | true => exact absurd (h.link.1 flag) state

/-- A change that leaves flag, state and keys as they are. -/
theorem congr (h : Coherent c) (flag : d.connected = c.connected) (state : d.state = c.state)
    (ptkIn : d.ptkInstalled = c.ptkInstalled) (gtkIn : d.gtkInstalled = c.gtkInstalled)
    (valid : d.dataKeyValid = c.dataKeyValid) (key : d.installedTk = c.installedTk)
    (ptk : d.ptk = c.ptk) : Coherent d where
  link := by rw [flag, state]; exact h.link
  keys := by rw [state, ptkIn, gtkIn, valid, key, ptk]; exact h.keys

end Coherent

/--
On a live link: no refusal is received, the station does not start to connect
anew, and no fast transition message replaces the pairwise key.
-/
def KeepsLink (s : Sme) (e : SmeEvent) : Prop :=
  s.state = .connected →
    match e with
    | .refused => False
    | .connectStart => s.role ≠ .sta
    | .handle .ftAuth1 inp =>
      s.role = .ap → s.ftEnabled = true →
        ftApAuth1Names s (frameSrc inp) (frameBody inp) = none
    | .handle .ftAuth2 inp =>
      s.role = .sta → s.ftR0Valid = true → ftStaAuth2Echoes s (frameBody inp) = none
    | .handle .ftDsResp inp =>
      s.role = .sta → s.ftR0Valid = true → ftStaDsEchoes s (frameBody inp) = none
    | .dsPush _ target _ _ => s.ftEnabled = true → target ≠ s.self
    | _ => True

section Step

variable {env : Env} {s : Sme} {e : SmeEvent} {c : SmeCore}

/-- On a live link a handler only acts on some types of frames. -/
theorem coherent_effect (inv : Coherent s.core) (keeps : KeepsLink s e)
    (gate : ∀ type inp, e = .handle type inp → s.state = .connected → type.whenConnected = true)
    (effect : Effect env s e c) : Coherent c := by
  have down (state : s.state ≠ .connected) : s.core.connected = false := inv.flag_down state
  have offline (type : FrameType) (inp : Bytes) (is : e = .handle type inp)
      (shut : type.whenConnected = false) : s.state ≠ .connected := fun up => by
    rw [gate type inp is up] at shut
    cases shut
  cases effect with
  | unchanged => exact inv
  | refused => exact Coherent.of_down (down fun up => keeps up) (by simp)
  | groupSeen => exact inv.congr rfl rfl rfl rfl rfl rfl rfl
  | tornProtected => exact Coherent.of_down rfl (by simp)
  | tornPlain => exact Coherent.of_down rfl (by simp)
  | announced role scanning pmf peer sae phase state policy outcome =>
    refine Coherent.of_down (down (by rw [scanning]; decide)) ?_
    rcases outcome with ⟨h, _⟩ | h <;> simp [h]
  | saeFailed scanning => exact Coherent.of_down (down (by rw [scanning]; decide)) (by simp)
  | saeCommit scanning => exact inv.congr rfl rfl rfl rfl rfl rfl rfl
  | saeCommitFailed scanning => exact Coherent.of_down (down (by rw [scanning]; decide)) (by simp)
  | saeConfirm scanning => exact Coherent.of_down (down (by rw [scanning]; decide)) (by simp)
  | apAuthReq => exact Coherent.of_down (down (offline _ _ rfl rfl)) (by simp)
  | apAssocRefused => exact Coherent.of_down (down (offline _ _ rfl rfl)) (by simp)
  | apAssocReq => exact Coherent.of_down (down (offline _ _ rfl rfl)) (by simp)
  | apM2Refused => exact Coherent.of_down (down (offline _ _ rfl rfl)) (offline _ _ rfl rfl)
  | apM2 => exact Coherent.of_down (down (offline _ _ rfl rfl)) (offline _ _ rfl rfl)
  | apM4 role accepts valid => exact Coherent.of_connect.congr rfl rfl rfl rfl rfl rfl rfl
  | apFtAuth1Unnamed => exact inv.congr rfl rfl rfl rfl rfl rfl rfl
  | apFtAuth1 role enabled r0 snonce anonce named =>
    have offline : s.state ≠ .connected := fun up => by
      have unnamed := keeps up role enabled
      rw [named] at unnamed
      cases unnamed
    exact Coherent.of_down (down offline) offline
  | apFtReassocHeld => exact inv.congr rfl rfl rfl rfl rfl rfl rfl
  | apFtReassoc => exact Coherent.of_connect
  | staProbeResp role scanning sae phase state outcome =>
    refine Coherent.of_down (down (by rw [scanning]; decide)) ?_
    rcases outcome with ⟨h, _⟩ | h <;> simp [h]
  | staAuthResp => exact Coherent.of_down (down (offline _ _ rfl rfl)) (by simp)
  | staAssocRefused => exact Coherent.of_down (down (offline _ _ rfl rfl)) (by simp)
  | staAssocResp => exact Coherent.of_down (down (offline _ _ rfl rfl)) (by simp)
  | staAssocRespM1 => exact Coherent.of_down (down (offline _ _ rfl rfl)) (by simp)
  | staM1 => exact Coherent.of_down (down (offline _ _ rfl rfl)) (by simp)
  | staM3Refused => exact inv.congr rfl rfl rfl rfl rfl rfl rfl
  | staM3 => exact Coherent.of_connect.congr rfl rfl rfl rfl rfl rfl rfl
  | answered => exact inv.congr rfl rfl rfl rfl rfl rfl rfl
  | staFtAuth2 role valid echoes =>
    have offline : s.state ≠ .connected := fun up => by
      rw [keeps up role valid] at echoes
      cases echoes
    exact Coherent.of_down (down offline) offline
  | staFtDsResp role valid echoes =>
    have offline : s.state ≠ .connected := fun up => by
      rw [keeps up role valid] at echoes
      cases echoes
    exact Coherent.of_down (down offline) offline
  | staFtReassoc => exact Coherent.of_connect
  | peerSet => exact inv.congr rfl rfl rfl rfl rfl rfl rfl
  | pmfSet => exact inv.congr rfl rfl rfl rfl rfl rfl rfl
  | ftSet => exact inv.congr rfl rfl rfl rfl rfl rfl rfl
  | connectStart role => exact Coherent.of_down (down fun up => keeps up role) (by simp)
  | sent => exact inv.congr rfl rfl rfl rfl rfl rfl rfl
  | groupTx => exact inv.congr rfl rfl rfl rfl rfl rfl rfl
  | ftEstablish => exact inv.congr rfl rfl rfl rfl rfl rfl rfl
  | dsPush enabled mine =>
    have offline : s.state ≠ .connected := fun up => keeps up enabled mine
    exact Coherent.of_down (down offline) offline

end Step

section Run

variable {env : Env}

theorem coherent_step {s : Sme} {op : SmeOp} (inv : Coherent s.core)
    (keeps : KeepsLink s (smeEvent s op)) : Coherent (smeStep env s op).core :=
  coherent_effect inv keeps (fun _ _ is => (smeEvent_gate is).2) (smeStep_effect env s op)

theorem coherent_init (role : SmeRole) (self : MacAddr) (pmk : Octets 32) (salt : UInt64)
    (config : SmeConfig) : Coherent (smeConfigure (smeInit role self pmk salt) config).core :=
  Coherent.of_down rfl fun up => by cases up

/-- Every run that keeps live links alive stays coherent. -/
theorem coherent_run {role : SmeRole} {self : MacAddr} {pmk : Octets 32} {salt : UInt64}
    {config : SmeConfig} {s : Sme}
    (run : Run (smeStep env) (fun s op => KeepsLink s (smeEvent s op))
      (smeConfigure (smeInit role self pmk salt) config) s) : Coherent s.core :=
  run.invariant (fun t => Coherent t.core) (coherent_init role self pmk salt config)
    fun _ _ inv keeps => coherent_step inv keeps

/-- The exchange of the demonstration is such a run, and ends on a coherent live link. -/
theorem coherent_run_demo :
    Coherent (runOps demoStaInit (demoStaOps .disabled [])).core ∧
      (runOps demoStaInit (demoStaOps .disabled [])).state = .connected := by
  have run : Run (smeStep demoEnv) (fun s op => KeepsLink s (smeEvent s op)) demoStaInit
      (runOps demoStaInit (demoStaOps .disabled [])) := by
    apply runOps_run fun s _ => decide (s.state ≠ .connected)
    · intro s op offline up
      exact absurd up (of_decide_eq_true offline)
    · decide +kernel
  exact ⟨coherent_run run, by decide +kernel⟩

/-- A live link that received a refusal. -/
def refusedOps : List SmeOp :=
  demoStaOps .disabled [] ++ [.rx noSiblings (demoAuthFrame demoStaMac demoApMac 2 1)]

/-- A refusal received on a live link leaves the flag up in the failed state. -/
theorem incoherent_refusal :
    ¬∀ s, Reach (smeStep demoEnv) demoStaInit s → Coherent s.core := by
  intro all
  have flag : (runOps demoStaInit refusedOps).connected = true := by decide +kernel
  have state : (runOps demoStaInit refusedOps).state ≠ .connected := by decide +kernel
  have coherent := all _ (runOps_reach demoStaInit refusedOps)
  have down : (runOps demoStaInit refusedOps).connected = false := coherent.flag_down state
  rw [down] at flag
  cases flag

end Run

end Rf2a4m1
