import Rf2a4m1.Crypto.Wpa
import Rf2a4m1.Glue.Cfg80211
import Rf2a4m1.Sme.Plugin

/-!
# The cryptography the host driver plugs in

Nonces come from the random number generator of the machine, the pairwise key
from the PRF, the MIC from HMAC-SHA1 and the wrapping of key data from AES.
-/

set_option autoImplicit false

namespace Rf2a4m1

open ByteString

section Impl

variable (getRandomBytes : MacAddr → Nat → Octets 32) (stackMic : Nat → Octets 16)

end Impl

end Rf2a4m1
