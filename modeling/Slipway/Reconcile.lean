import Slipway.Platform

/-
  Bringing one object to the state that is wanted. Some kinds are written over in place; others
  are deleted and created anew.
-/

namespace Slipway

inductive ReplaceStrategy where
  | update
  | recreate
  deriving DecidableEq, Repr

/-- Services, routes and pods cannot be relied on to take an update. -/
def Kind.replaceStrategy : Kind → ReplaceStrategy
  | .service | .route | .pod => .recreate
  | .buildConfig | .build | .imageStream | .deploymentConfig => .update

namespace Reconcile

/-- Deletes an object and waits until its name is free again. -/
def deleteAndWait {k : Kind} (existing : Resource k) : Action Unit := do
  match ← Action.attempt (.delete k existing.name) with
  | .error (.notFound _ _) => pure ()
  | .error e => throw e
  | .ok () =>
    match existing.metadata.uid with
    | some uid => Action.ask (.awaitDeleted k existing.name uid)
    | none => pure ()

/-- Creates an object. Where objects are recreated, a name that is taken meanwhile is freed and
    the object created once more. -/
def create {k : Kind} (name : String) (desired : Resource k) : Action (Resource k) := do
  match ← Action.attempt (.create k desired) with
  | .ok created => pure created
  | .error e =>
    if e.isConflict ∧ k.replaceStrategy = .recreate then
      if let some existing ← Action.get k name then deleteAndWait existing
      Action.ask (.create k desired)
    else throw e

/-- Creates or replaces an object, and gives it as the platform has it then. -/
def reconcile {k : Kind} (desired : Resource k) : Action (Resource k) := do
  let name := desired.name
  match ← Action.get k name with
  | none => create name desired
  | some existing =>
    match k.replaceStrategy with
    | .update =>
      let version := existing.metadata.resourceVersion
      Action.ask (.replace k name
        { desired with metadata := { desired.metadata with resourceVersion := version } })
    | .recreate =>
      deleteAndWait existing
      create name desired

end Reconcile

end Slipway
