import Slipway.Bytes.Utf8
import Slipway.Http.Form
import Slipway.Http.Target
import Slipway.Json

/-
  Requests and responses.
-/

namespace Slipway.Http

inductive Method where
  | get
  | post
  | put
  | delete
  deriving DecidableEq, Repr

def Method.name : Method → String
  | get => "GET"
  | post => "POST"
  | put => "PUT"
  | delete => "DELETE"

/-- What is sent with a request. -/
inductive Content where
  | json (j : Json)
  | bytes (bs : Bytes)

structure Request where
  method : Method
  target : Target
  content : Option Content := none

structure Response where
  status : Nat
  text : String
  deriving DecidableEq, Repr

namespace Response

/-- Whether a response reports that the request failed. -/
def isFailure (r : Response) : Bool := 400 ≤ r.status && r.status < 600

end Response

end Slipway.Http
