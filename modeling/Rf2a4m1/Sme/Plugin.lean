import Rf2a4m1.Crypto.KeyWrap
import Rf2a4m1.Sme.Keys

/-!
# What plugged-in functions are relied on for

Key data is wrapped and unwrapped, both ends derive one pairwise key, and a
MIC tells the derived keys apart.
-/

set_option autoImplicit false

namespace Rf2a4m1

open ByteString

/-- What the plug-in has to do with key data: wrapping adds eight octets, unwrapping undoes it. -/
structure KeyWrapInverts (env : Env) : Prop where
  length : ∀ cap kek kd, 16 ≤ kd.length → kd.length % 8 = 0 → kd.length + 8 ≤ cap →
    (env.keyWrap cap kek kd).length = kd.length + 8
  unwrap : ∀ cap cap' kek kd, 16 ≤ kd.length → kd.length % 8 = 0 → kd.length + 8 ≤ cap →
    kd.length ≤ cap' → env.keyUnwrap cap' kek (env.keyWrap cap kek kd) = kd

/-- The plug-in with AES key wrap, as the host driver fills it in. -/
def withKeyWrap (env : Env) : Env :=
  { env with keyWrap := fun cap kek kd => (aesKeyWrap kek kd cap).getD []
             keyUnwrap := fun cap kek wrapped => (aesKeyUnwrap kek wrapped cap).getD [] }

/-- AES key wrap is such a plug-in. -/
theorem withKeyWrap_inverts (env : Env) : KeyWrapInverts (withKeyWrap env) where
  length cap kek kd long whole room := by
    obtain ⟨out, wrapped, len⟩ := @aesKeyWrap_length kek _ long whole _ room
    change ((aesKeyWrap kek kd cap).getD []).length = kd.length + 8
    rw [wrapped, Option.getD_some, len]
  unwrap cap cap' kek kd long whole room back := by
    obtain ⟨out, wrapped, _⟩ := @aesKeyWrap_length kek _ long whole _ room
    change (aesKeyUnwrap kek ((aesKeyWrap kek kd cap).getD []) cap').getD [] = kd
    rw [wrapped, Option.getD_some, aesKeyUnwrap_wrap long whole back wrapped, Option.getD_some]

/-- The derivation does not look at which end is which, and no two keys it derives for one pair
of ends give a message the same MIC. -/
structure HandshakeCrypto (env : Env) : Prop where
  symmetric : ∀ pmk anonce snonce self peer,
    env.kdf pmk anonce snonce self peer = env.kdf pmk anonce snonce peer self
  mic : ∀ pmk anonce snonce anonce' snonce' self peer m,
    env.mic (kck (env.kdf pmk anonce snonce self peer)) m =
        env.mic (kck (env.kdf pmk anonce' snonce' self peer)) m →
      env.kdf pmk anonce snonce self peer = env.kdf pmk anonce' snonce' self peer
  keyWrap : KeyWrapInverts env

end Rf2a4m1
