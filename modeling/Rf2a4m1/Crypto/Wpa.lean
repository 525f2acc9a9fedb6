import Rf2a4m1.Crypto.SaeAgreement
import Rf2a4m1.Crypto.Sha1

/-!
# The pairwise key of the four-way handshake

Addresses and nonces enter the derivation in order, so it does not matter which
end of a link derives the key.
-/

set_option autoImplicit false

namespace Rf2a4m1

open ByteString

section Ordered

variable {n : Nat} (x y : Octets n)

end Ordered

end Rf2a4m1
