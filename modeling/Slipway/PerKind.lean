import Slipway.Kind

/-
  A value for each kind of object, whose type may depend on the kind.
-/

namespace Slipway

structure PerKind (β : Kind → Type) where
  buildConfig : β .buildConfig
  build : β .build
  imageStream : β .imageStream
  deploymentConfig : β .deploymentConfig
  route : β .route
  service : β .service
  pod : β .pod

namespace PerKind

variable {β : Kind → Type}

def ofFun (f : (k : Kind) → β k) : PerKind β :=
  ⟨f _, f _, f _, f _, f _, f _, f _⟩

def of (s : PerKind β) : (k : Kind) → β k
  | .buildConfig => s.buildConfig
  | .build => s.build
  | .imageStream => s.imageStream
  | .deploymentConfig => s.deploymentConfig
  | .route => s.route
  | .service => s.service
  | .pod => s.pod

def put (s : PerKind β) : (k : Kind) → β k → PerKind β
  | .buildConfig, v => { s with buildConfig := v }
  | .build, v => { s with build := v }
  | .imageStream, v => { s with imageStream := v }
  | .deploymentConfig, v => { s with deploymentConfig := v }
  | .route, v => { s with route := v }
  | .service, v => { s with service := v }
  | .pod, v => { s with pod := v }

@[simp] theorem of_put_self (s : PerKind β) (k : Kind) (v : β k) : (s.put k v).of k = v := by
  cases k <;> rfl

theorem of_put_of_ne (s : PerKind β) {j k : Kind} (v : β k) (h : j ≠ k) :
    (s.put k v).of j = s.of j := by
  cases j <;> cases k <;> first | rfl | exact absurd rfl h

@[simp] theorem of_ofFun (f : (k : Kind) → β k) (k : Kind) : (ofFun f).of k = f k := by
  cases k <;> rfl

end PerKind

end Slipway
