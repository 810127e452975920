import Slipway.Resource.Details

/-
  How pods are reached: services inside the cluster and routes from outside.
-/

namespace Slipway

structure ServicePort where
  appProtocol : Option String := none
  name : Option String := none
  nodePort : Option Int32 := none
  port : Int32 := 0
  protocol : Option String := none
  targetPort : Option PortReference := none
  deriving DecidableEq, Repr

namespace ServicePort

def read? (j : Json) : Option ServicePort := do
  let f ← Json.named? j
  pure {
    appProtocol := ← Json.optional Json.string? (f "appProtocol")
    name := ← Json.optional Json.string? (f "name")
    nodePort := ← Json.optional Json.int32? (f "nodePort")
    port := ← Json.lenient 0 Json.int32? (f "port")
    protocol := ← Json.optional Json.string? (f "protocol")
    targetPort := ← Json.optional PortReference.read? (f "targetPort") }

def toJson (p : ServicePort) : Json := Json.ofMembers [
  Json.memberOf "appProtocol" .string p.appProtocol,
  Json.memberOf "name" .string p.name,
  Json.memberOf "nodePort" Json.ofInt32 p.nodePort,
  Json.member "port" (Json.ofInt32 p.port),
  Json.memberOf "protocol" .string p.protocol,
  Json.memberOf "targetPort" PortReference.toJson p.targetPort]

end ServicePort

structure ServiceSpec where
  ports : Option (List ServicePort) := none
  selector : Option Attributes := none
  serviceType : Option String := none
  others : Schema.serviceFields.Values := Schema.serviceFields.blank

namespace ServiceSpec

def read? (j : Json) : Option ServiceSpec := do
  let f ← Json.named? j
  pure {
    ports := ← Json.optional (Json.listOf? ServicePort.read?) (f "ports")
    selector := ← Json.optional Json.attributes? (f "selector")
    serviceType := ← Json.optional Json.string? (f "type")
    others := ← Schema.serviceFields.read? f }

/-- The fields that are looked into. -/
def ownMembers (s : ServiceSpec) : List Json.Member := [
  Json.memberOf "ports" (Json.ofList ServicePort.toJson) s.ports,
  Json.memberOf "selector" Json.ofAttributes s.selector,
  Json.memberOf "type" .string s.serviceType]

def toJson (s : ServiceSpec) : Json :=
  Json.ofMembers (Schema.serviceFields.members s.others ++ s.ownMembers)

end ServiceSpec

/-- The object that a route leads to. -/
structure RouteTarget where
  kind : String
  name : String
  deriving DecidableEq, Repr

namespace RouteTarget

def read? (j : Json) : Option RouteTarget := do
  let f ← Json.record? ["kind", "name"] j
  pure {
    kind := ← Json.required Json.string? (f "kind")
    name := ← Json.required Json.string? (f "name") }

def toJson (t : RouteTarget) : Json := .object [("kind", .string t.kind), ("name", .string t.name)]

end RouteTarget

structure RouteSpec where
  host : Option String := none
  target : RouteTarget
  port : Option PortReference := none
  deriving DecidableEq, Repr

namespace RouteSpec

def readPort? (j : Json) : Option PortReference := do
  let f ← Json.record? ["targetPort"] j
  Json.required PortReference.read? (f "targetPort")

def read? (j : Json) : Option RouteSpec := do
  let f ← Json.record? ["host", "to", "port"] j
  pure {
    host := ← Json.optional Json.string? (f "host")
    target := ← Json.required RouteTarget.read? (f "to")
    port := ← Json.optional readPort? (f "port") }

def toJson (s : RouteSpec) : Json := Json.ofMembers [
  Json.memberOf "host" .string s.host,
  Json.member "to" s.target.toJson,
  Json.memberOf "port" (fun p => .object [("targetPort", p.toJson)]) s.port]

end RouteSpec

end Slipway
