import Slipway.Http
import Slipway.Json.Reader
import Slipway.Json.Record
import Slipway.Failure
import Slipway.Resource

/-
  What the cluster API replies: objects, lists of objects, the events of a watch, one on a line,
  and statuses.
-/

namespace Slipway

def ApiStatus.read? (j : Json) : Option ApiStatus := do
  let f ← Json.record? ["status", "message", "reason", "code"] j
  pure {
    status := ← Json.required Json.string? (f "status")
    message := ← Json.defaulted "" Json.string? (f "message")
    reason := ← Json.defaulted "" Json.string? (f "reason")
    code := ← Json.required (Json.natBelow? UInt16.size) (f "code") }

/-- One page of the objects of a kind. -/
structure Listing (k : Kind) where
  items : List (Resource k)
  /-- The version of the whole list. -/
  version : Option String
  /-- Where the next page begins, if there is one. -/
  token : Option String

namespace Listing

variable {k : Kind}

/-- The version and the token; an empty one counts as none. -/
def readMetadata? (j : Json) : Option (Option String × Option String) := do
  let f ← Json.named? j
  let version ← Json.optional Json.string? (f "resourceVersion")
  let token ← Json.optional Json.string? (f "continue")
  let _ ← Json.optional Json.int64? (f "remainingItemCount")
  let _ ← Json.optional Json.string? (f "selfLink")
  pure (version.filter (· ≠ ""), token.filter (· ≠ ""))

/-- The objects of a list; null stands for none. -/
def readItems? (k : Kind) : Json → Option (List (Resource k))
  | .null => some []
  | j => Json.listOf? (Resource.read? k) j

def read? (k : Kind) (j : Json) : Option (Listing k) := do
  let f ← Json.named? j
  let (version, token) ← Json.defaulted (none, none) readMetadata? (f "metadata")
  pure { items := ← Json.required (readItems? k) (f "items"), version, token }

end Listing

/-- What one line of a watch tells. -/
inductive WatchLine (k : Kind) where
  | changed (r : Resource k)
  | deleted (r : Resource k)
  /-- The version that has been reached, without a change. -/
  | bookmark (version : String)
  | error (s : ApiStatus)
  | unreadable

namespace WatchLine

variable {k : Kind}

def readBookmark? (j : Json) : Option String := do
  let f ← Json.named? j
  let _ ← Json.required Json.string? (f "apiVersion")
  let _ ← Json.required Json.string? (f "kind")
  let m ← Json.required (Json.record? ["resourceVersion", "annotations"]) (f "metadata")
  let _ ← Json.defaulted ∅ Json.attributes? (m "annotations")
  Json.required Json.string? (m "resourceVersion")

def read? (k : Kind) (j : Json) : Option (WatchLine k) := do
  let f ← Json.record? ["type", "object"] j
  let object ← f "object"
  match ← f "type" with
  | .string "ADDED" => (Resource.read? k object).map changed
  | .string "MODIFIED" => (Resource.read? k object).map changed
  | .string "DELETED" => (Resource.read? k object).map deleted
  | .string "BOOKMARK" => (readBookmark? object).map bookmark
  | .string "ERROR" => (ApiStatus.read? object).map error
  | _ => none

/-- What a line tells. One that ends too early, as a blank one does, tells nothing. -/
def ofLine? (k : Kind) (line : String) : Option (WatchLine k) :=
  match Json.read line with
  | .ok j => some ((read? k j).getD unreadable)
  | .error .cut => none
  | .error .malformed => some unreadable

/-- The lines of a response. -/
def ofText (k : Kind) (text : String) : List (WatchLine k) :=
  (Text.split '\n' text).filterMap (ofLine? k)

end WatchLine

namespace Reply

/-- A cause in a status. Only its form counts here, as it does for the parts below. -/
def cause? (j : Json) : Option Unit := do
  let f ← Json.record? ["reason", "message", "field"] j
  ["reason", "message", "field"].forM fun name => do
    let _ ← Json.defaulted "" Json.string? (f name)

def detailNames : List String := ["name", "group", "kind", "uid", "causes", "retryAfterSeconds"]

/-- What a status says on the object that it is about. -/
def details? (j : Json) : Option Unit := do
  let f ← Json.record? detailNames j
  ["name", "group", "kind", "uid"].forM fun name => do
    let _ ← Json.defaulted "" Json.string? (f name)
  let _ ← Json.defaulted [] (Json.listOf? cause?) (f "causes")
  let _ ← Json.defaulted 0 (Json.natBelow? UInt32.size) (f "retryAfterSeconds")

/-- Whether a deletion was carried out. -/
def summary? (j : Json) : Option Unit := do
  match ← Json.variant? j with
  | "Success" => pure ()
  | "Failure" => pure ()
  | _ => none

def status? (j : Json) : Option Unit := do
  let f ← Json.record? ["status", "code", "message", "reason", "details"] j
  let _ ← Json.optional summary? (f "status")
  let _ ← Json.defaulted 0 (Json.natBelow? UInt16.size) (f "code")
  let _ ← Json.defaulted "" Json.string? (f "message")
  let _ ← Json.defaulted "" Json.string? (f "reason")
  let _ ← Json.optional details? (f "details")

/-- The reply to a deletion: a status, or the object that is being deleted. -/
def deletion? (k : Kind) (j : Json) : Option Unit :=
  match j.field "kind" with
  | .string "Status" => status? j
  | _ => (Resource.read? k j).map fun _ => ()

end Reply

end Slipway
