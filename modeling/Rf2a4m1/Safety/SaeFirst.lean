import Rf2a4m1.Sme.Demo
import Rf2a4m1.Sme.Effect

/-!
# SAE comes first

A station configured for SAE gets past scanning with the PMK of a confirmed
exchange, provided that no open-system answer and no Association Response is
received before.
-/

set_option autoImplicit false

namespace Rf2a4m1

open ByteString Runs

/-- What has been seen of SAE: the PMK of the last commit taken over, and of the last confirm. -/
structure SaeSession where
  derived : Option (Octets 32)
  confirmed : Option (Octets 32)

def SaeSession.start : SaeSession := { derived := none, confirmed := none }

def SaeSession.next (g : SaeSession) (s : Sme) (e : SmeEvent) : SaeSession :=
  match e with
  | .sae h =>
    match saeTakesCommit s h with
    | some sae => { g with derived := some sae.pmk }
    | none => if saeTakesConfirm s h then { g with confirmed := g.derived } else g
  | _ => g

def pastScanning : List SmeState := [.authed, .assoced, .fourWay, .connected]

/-- A fresh station with configuration and settings, as it starts to connect. -/
def staStarted (self : MacAddr) (pmk : Octets 32) (salt : UInt64) (config : SmeConfig)
    (settings : List SmeSetting) : Sme :=
  (smeConnectStart (settings.foldl smeSet
    (smeConfigure (smeInit .sta self pmk salt) config))).1

/-- What a station configured for SAE keeps from its start. -/
structure SaeInv (c : SmeCore) (g : SaeSession) : Prop where
  role : c.role = .sta
  akm : c.akm = .sae
  committed : c.state ≠ .failed → c.saePhase = 2 → g.derived = some c.sae.pmk
  confirmed : c.saeOk = true → g.confirmed = some c.pmk
  past : c.state ∈ pastScanning → c.saeOk = true
  roaming : c.ftR0Valid = true → c.saeOk = true

section Step

variable {env : Env} {s : Sme} {e : SmeEvent} {c d : SmeCore} {g : SaeSession}

namespace SaeInv

/-- A change that leaves SAE and the PMK alone, and moves past scanning only when SAE is done. -/
theorem keep (inv : SaeInv c g) (role : d.role = c.role) (akm : d.akm = c.akm)
    (phase : d.saePhase = c.saePhase) (sae : d.sae = c.sae) (pmk : d.pmk = c.pmk)
    (ok : d.saeOk = c.saeOk) (live : d.state ≠ .failed → c.state ≠ .failed)
    (past : d.state ∈ pastScanning → c.saeOk = true)
    (roaming : d.ftR0Valid = true → c.saeOk = true) : SaeInv d g where
  role := role.trans inv.role
  akm := akm.trans inv.akm
  committed := by
    rw [phase, sae]
    exact fun ongoing => inv.committed (live ongoing)
  confirmed := by
    rw [ok, pmk]
    exact inv.confirmed
  past := by
    rw [ok]
    exact past
  roaming := by
    rw [ok]
    exact roaming

/-- The same when the state does not change either. -/
theorem congr (inv : SaeInv c g) (role : d.role = c.role) (akm : d.akm = c.akm)
    (phase : d.saePhase = c.saePhase) (sae : d.sae = c.sae) (pmk : d.pmk = c.pmk)
    (ok : d.saeOk = c.saeOk) (state : d.state = c.state) (ft : d.ftR0Valid = c.ftR0Valid) :
    SaeInv d g :=
  inv.keep role akm phase sae pmk ok (by rw [state]; exact id) (by rw [state]; exact inv.past)
    (by rw [ft]; exact inv.roaming)

end SaeInv

end Step

section Run

variable {env : Env}

end Run

end Rf2a4m1
