import Slipway.Remote.Reply

/-
  The requests to the cluster API: where each of them goes, what it carries, and how its reply is
  read.
-/

namespace Slipway

/-- A request, and how the reply to it is read. A request that cannot be made fails at once. -/
structure Query (α : Type) where
  request : Except ApiFault Http.Request
  read : Json → Option α

namespace Query

/-- The result of a query by the response to it. -/
def result (q : Query α) (r : Http.Response) : Except ApiFault α :=
  let json := Json.read? r.text
  if r.isFailure then
    match json.bind ApiStatus.read? with
    | some s => .error (.status s)
    | none => .error .unreadable
  else
    match json.bind q.read with
    | some a => .ok a
    | none => .error .unreadable

def requestTo (method : Http.Method) (target : String) (content : Option Http.Content) :
    Except ApiFault Http.Request :=
  match Target.parse? target with
  | some target => .ok { method, target, content }
  | none => .error .badUri

/-- The path of all objects of a kind. -/
def collection (ns : String) (k : Kind) : String :=
  (if k.group?.isSome then "/apis/" else "/api/") ++ k.apiVersion ++ "/namespaces/" ++ ns ++ "/" ++
    k.plural

/-- The path of one object, which needs a name. -/
def member (ns : String) (k : Kind) (name : String) : Except ApiFault String :=
  if name = "" then .error .noName else .ok (collection ns k ++ "/" ++ name)

def get (ns : String) (k : Kind) (name : String) : Query (Resource k) where
  request := do requestTo .get (← member ns k name) none
  read := Resource.read? k

def create (ns : String) {k : Kind} (r : Resource k) : Query (Resource k) where
  request := requestTo .post (collection ns k ++ "?") (some (.json r.toJson))
  read := Resource.read? k

def replace (ns : String) {k : Kind} (name : String) (r : Resource k) : Query (Resource k) where
  request := do requestTo .put ((← member ns k name) ++ "?") (some (.json r.toJson))
  read := Resource.read? k

def delete (ns : String) (k : Kind) (name : String) : Query Unit where
  request := do requestTo .delete ((← member ns k name) ++ "?") (some (.json (.object [])))
  read := Reply.deletion? k

def list (ns : String) (k : Kind) (parameters : List (String × String)) : Query (Listing k) where
  request := requestTo .get (collection ns k ++ "?" ++ Form.following parameters) none
  read := Listing.read? k

/-- Asks for something to be made of an object. -/
def instantiate (ns : String) (k made : Kind) (name : String) (order : List (String × Json)) :
    Query (Resource made) where
  request := do
    requestTo .post ((← member ns k name) ++ "/instantiate?") (some (.json (.object order)))
  read := Resource.read? made

def build (ns name : String) : Query Build :=
  instantiate ns .buildConfig .build name [
    ("kind", .string "BuildRequest"),
    ("apiVersion", .string Kind.build.apiVersion),
    ("metadata", .object [("name", .string name)])]

def rollout (ns name : String) : Query DeploymentConfig :=
  instantiate ns .deploymentConfig .deploymentConfig name [
    ("kind", .string "DeploymentRequest"),
    ("apiVersion", .string Kind.deploymentConfig.apiVersion),
    ("name", .string name),
    ("latest", .bool true),
    ("force", .bool true)]

/-- A build from an uploaded file. Here the name may be empty. -/
def binaryBuild (ns name fileName : String) (content : Bytes) : Query Build where
  request := requestTo .post
    (collection ns .buildConfig ++ "/" ++ name ++ "/instantiatebinary?" ++
      Form.pair ("asFile", fileName)) (some (.bytes content))
  read := Resource.read? .build

end Query

/-- What a list or a watch is restricted to. -/
inductive Selection where
  | labels (selector : String)
  | named (name : String)
  deriving DecidableEq, Repr

namespace Selection

def parameter : Selection → String × String
  | labels selector => ("labelSelector", selector)
  | named name => ("fieldSelector", "metadata.name=" ++ name)

/-- The parameters for a page of a list that a watch begins with. -/
def page (s : Selection) (token : Option String) : List (String × String) :=
  s.parameter :: ("limit", "500") :: (token.map fun t => ("continue", t)).toList

/-- The parameters for a watch from a version on. -/
def watch (s : Selection) (version : String) : List (String × String) :=
  [("watch", "true"), ("timeoutSeconds", "290"), s.parameter, ("allowWatchBookmarks", "true"),
    ("resourceVersion", version)]

end Selection

end Slipway
