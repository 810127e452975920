import Slipway.Proofs.Cluster.Sources

/-
  The deployments that a platform in memory holds, as far as labels and replicas go. The platform
  changes neither when it stamps an object (`Resource.shape_unstamped`). A property of shapes that
  every deployment has which is written is one that all deployments keep (`shapes_answer`).
-/

namespace Slipway

/-- The labels and the number of replicas of a deployment. -/
structure Shape where
  labels : Attributes
  replicas : Int32

/-- What is wanted of a deployment, as far as labels and replicas go. -/
def Resource.shape (dc : DeploymentConfig) : Shape :=
  ⟨dc.labels, (dc.spec : DeploymentSpec).replicas⟩

theorem Resource.shape_unstamped (dc : DeploymentConfig) : dc.unstamped.shape = dc.shape := rfl

namespace Cluster

variable {s s' : Cluster}

/-- The shape of the deployment of a name, if there is one. -/
def shape? (s : Cluster) (name : String) : Option Shape :=
  (s.find? .deploymentConfig name).map Resource.shape

theorem shape?_of_find? {name : String}
    (h : s'.find? .deploymentConfig name = s.find? .deploymentConfig name) :
    s'.shape? name = s.shape? name :=
  congrArg (fun dc : Option DeploymentConfig => dc.map Resource.shape) h

theorem shape?_congr (h : s'.objects.of .deploymentConfig = s.objects.of .deploymentConfig)
    (name : String) : s'.shape? name = s.shape? name := shape?_of_find? (find?_congr h name)

end Cluster

/-! ## What is written -/

/-- What a call writes of deployments has a property of names and shapes. -/
def Call.Shapes (P : String → Shape → Prop) : Call → Prop
  | create .deploymentConfig x => P x.name x.shape
  | replace .deploymentConfig name x => P name x.shape
  | _ => True

namespace Cluster

variable {s : Cluster} {P : String → Shape → Prop}

/-- Every deployment there is has a property of names and shapes. -/
def AllShapes (P : String → Shape → Prop) (s : Cluster) : Prop :=
  ∀ name sh, s.shape? name = some sh → P name sh

theorem AllShapes.congr {s' : Cluster} (hs : s.AllShapes P)
    (h : ∀ name, s'.shape? name = s.shape? name) : s'.AllShapes P :=
  fun name sh hsh => hs name sh ((h name).symm.trans hsh)

/-- Deployments have what every deployment has that is written. -/
theorem shapes_answer {c : Call} (hc : c.Shapes P) (hs : s.AllShapes P) :
    (answer c s).2.AllShapes P := by
  intro name sh hsh
  obtain ⟨dc, hdc, rfl⟩ := Option.map_eq_some_iff.1 hsh
  have hbefore : ∀ {name : String} {y : DeploymentConfig},
      s.find? .deploymentConfig name = some y → P name y.shape := fun {name y} hy =>
    hs name y.shape (by rw [shape?, hy, Option.map_some])
  cases source_of_find? hdc with
  | before hdc => exact hbefore hdc
  | created r hcall =>
    subst hcall
    exact hc
  | replaced r hcall hy =>
    subst hcall
    exact hc
  | @marked _ _ y hcall hy => exact hbefore (y := y) hy
  | @rolledOut _ y hcall hy => exact hbefore (y := y) hy

end Cluster

end Slipway
