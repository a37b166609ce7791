/-!
# HTTP outcomes

What the callers of `httpx` tell apart when a request fails.
-/

namespace Tomiris

/-- What `client.post` raises. -/
inductive HttpError where
  | timeout
  | network
  /-- Any other exception, such as a `RemoteProtocolError`. -/
  | other
deriving DecidableEq

end Tomiris
