import Rf2a4m1.Sme.Demo
import Rf2a4m1.Sme.Effect

/-!
# An access point connects on an authenticated key

The AP installs whatever pairwise key it holds when a fourth message or a
Reassociation is accepted. That key was authenticated by the station when the
message comes after a second message, or a fast transition Authentication, that
was accepted.
-/

set_option autoImplicit false

namespace Rf2a4m1

open ByteString Runs

/--
The pairwise keys authenticated since the start or since the link went down
last, and whether the key written last is one of them.
-/
structure ApSession where
  authenticated : List (Octets 48)
  keyed : Bool

namespace ApSession

def start : ApSession := { authenticated := [], keyed := false }

def learn (g : ApSession) (ptk : Octets 48) : ApSession :=
  { authenticated := ptk :: g.authenticated, keyed := true }

/-- A second message whose MIC fails writes a key nobody vouches for. -/
def onM2 (env : Env) (s : Sme) (pdu : Bytes) (g : ApSession) : ApSession :=
  match apReadsM2 s pdu with
  | none => g
  | some k =>
    if eapolMicOk env (withSnonce env s k) pdu then g.learn (withSnonce env s k).ptk
    else { g with keyed := false }

/-- A key derived for a station whose PMK-R0 name matched, or from a pushed PMK-R1. -/
def observe (env : Env) (s : Sme) (e : SmeEvent) (ptk : Octets 48) (g : ApSession) : ApSession :=
  match e with
  | .handle .m2 inp => g.onM2 env s (frameBody inp)
  | .handle .ftAuth1 inp =>
    if s.ftEnabled && (ftApAuth1Names s (frameSrc inp) (frameBody inp)).isSome then g.learn ptk
    else g
  | .dsPush _ target _ _ => if s.ftEnabled && target = s.self then g.learn ptk else g
  | _ => g

/-- Leaving the connected state starts a new session. -/
def next (env : Env) (s : Sme) (e : SmeEvent) (c : SmeCore) (g : ApSession) : ApSession :=
  if s.state = .connected ∧ c.state ≠ .connected then start else g.observe env s e c.ptk

end ApSession

/-- The key written last is one of the authenticated ones, when it is said to be. -/
structure ApInv (c : SmeCore) (g : ApSession) : Prop where
  role : c.role = .ap
  keyed : g.keyed = true → c.ptk ∈ g.authenticated

section Step

variable {env : Env} {s : Sme} {e : SmeEvent} {c : SmeCore} {g : ApSession}

/-- A change that leaves the key alone. -/
theorem ApInv.congr {d : SmeCore} (inv : ApInv c g) (role : d.role = c.role)
    (ptk : d.ptk = c.ptk) : ApInv d g :=
  ⟨role.trans inv.role, fun keyed => ptk ▸ inv.keyed keyed⟩

end Step

section Run

variable {env : Env}

end Run

end Rf2a4m1
