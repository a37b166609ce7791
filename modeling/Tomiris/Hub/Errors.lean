/-!
# Hub errors

`tomiris_hub.core.errors`, which the agent runtime raises as well.
-/

namespace Tomiris

/-- `HubError`: the reason code and HTTP status of a rejected request. -/
structure HubError where
  code : String
  statusCode : Nat
deriving DecidableEq

end Tomiris
