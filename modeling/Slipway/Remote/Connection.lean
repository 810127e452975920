import Slipway.Remote.Query

/-
  A connection to the cluster API: the namespace it works in, what its requests will be answered
  with, and the requests that were sent.
-/

namespace Slipway

/-- What answers requests. -/
inductive Network where
  /-- The responses to come, one for each request; after the last, requests are not answered. -/
  | scripted (responses : List Http.Response)
  | unreachable

structure Connection where
  targetNamespace : String
  network : Network
  sent : List Http.Request := []

namespace Connection

/-- Sends a request. None if it is never answered. -/
def send (c : Connection) (r : Http.Request) :
    Option (Except ApiFault Http.Response) × Connection :=
  match c.network with
  | .unreachable => (some (.error .unreachable), c)
  | .scripted [] => (none, { c with sent := c.sent ++ [r] })
  | .scripted (response :: responses) =>
    (some (.ok response), { c with network := .scripted responses, sent := c.sent ++ [r] })

def perform (c : Connection) (q : Query α) : Option (Except ApiFault α) × Connection :=
  match q.request with
  | .error f => (some (.error f), c)
  | .ok r =>
    match c.send r with
    | (some (.ok response), c) => (some (q.result response), c)
    | (some (.error f), c) => (some (.error f), c)
    | (none, c) => (none, c)

/-- An upper bound for what the responses to come can tell. -/
def backlog (c : Connection) : Nat :=
  match c.network with
  | .unreachable => 0
  | .scripted responses => responses.foldl (fun n r => n + r.text.length + 1) 0

end Connection

end Slipway
