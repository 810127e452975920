import Slipway.Failure
import Slipway.Labels

/-
  How a request is spread over instances. An indexed request of count `n` has `n` instances with
  one replica each; any other has one instance with `n` replicas.
-/

namespace Slipway

/-- What has to be known to make the objects of one instance. -/
structure Instance where
  id : AppId
  /-- The index among the instances of an indexed request. -/
  index : Option UInt32
  labels : Attributes
  replicas : Int32
  environment : Attributes
  deriving DecidableEq, Repr

structure FanOut where
  id : AppId
  labels : Attributes
  environment : Attributes
  indexed : Bool
  count : UInt32

namespace FanOut

/-- The `i`-th instance of an indexed request. -/
def indexedInstance (f : FanOut) (i : UInt32) : Instance :=
  let id := f.id.instanceId i
  let index := id.instanceIndex
  { id
    index := some index
    labels := Labels.forInstance f.labels id
    replicas := 1
    environment :=
      f.environment.insert Labels.instanceIndexVariable (Text.decimal index.toNat) }

/-- The count must fit the number of replicas that a deployment can have. -/
def instances (f : FanOut) : Result (List Instance) :=
  if 2147483647 < f.count.toNat then .error (.config (.tooManyInstances f.count f.id.text))
  else if f.indexed then
    .ok ((List.range f.count.toNat).map fun i => f.indexedInstance (UInt32.ofNat i))
  else
    .ok [{
      id := f.id
      index := none
      labels := f.labels
      replicas := Int32.ofNat f.count.toNat
      environment := f.environment }]

end FanOut

end Slipway
