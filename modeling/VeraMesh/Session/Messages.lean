import Mathlib.Data.Finset.Sort
import Mathlib.Data.String.Basic
import VeraMesh.Python.Value

/-!
# Session messages

The records of `hot_session.py`, and the error responses that all servers give.
-/

namespace VeraMesh

open Python

/-- A JSON object that is a request. -/
abbrev Request := Dict String PyValue

/-- A JSON object that is a response. -/
abbrev Response := Dict String PyValue

/-- `sorted(names)` of a set of names. -/
def sortedNames (names : Finset String) : List String := names.sort (· ≤ ·)

/-- The response to a request that failed. -/
def errorResponse (requestId : PyValue) (code message : String) : Response :=
  .ofList [("protocol_version", .str "veraport-v1"), ("request_id", requestId),
    ("ok", .bool false), ("error", .dict [("code", .str code), ("message", .str message)])]

/-- What a completed handshake binds. -/
structure SessionBinding where
  sessionId : String
  controllerPrincipal : String
  workstationPrincipal : String
  grantedCapabilities : Finset String
  expiresAtMs : ℤ
  deriving DecidableEq

end VeraMesh
