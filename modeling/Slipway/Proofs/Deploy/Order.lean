import Slipway.Proofs.Program.Run
import Slipway.Task

/-
  What a request comes down to before anything is done: it is checked as a whole, and all that is
  wrong with it shows here (`DeployOrder.ofRequest_eq_ok`, `TaskOrder.ofRequest_eq_ok`).
-/

namespace Slipway

variable {c : Config} {r : Request}

/-- The order of a request that can be deployed. -/
structure DeployOrder.IsOf (o : DeployOrder) (c : Config) (r : Request) : Prop where
  settings : ContainerSettings.ofRequest c r = .ok o.settings
  exposure : Exposure.ofRequest r = .ok o.exposure
  id : o.fanOut.id = r.appId
  labels : o.fanOut.labels = Labels.base r.appId r
  environment : r.environmentVariables = .ok o.fanOut.environment
  indexed : r.isIndexed = .ok o.fanOut.indexed
  count : r.count = .ok o.fanOut.count

theorem DeployOrder.ofRequest_eq_ok {o : DeployOrder} (h : DeployOrder.ofRequest c r = .ok o) :
    o.IsOf c r := by
  obtain ⟨settings, hs, h⟩ := Result.bind_eq_ok.1 h
  obtain ⟨exposure, he, h⟩ := Result.bind_eq_ok.1 h
  obtain ⟨environment, hv, h⟩ := Result.bind_eq_ok.1 h
  obtain ⟨indexed, hi, h⟩ := Result.bind_eq_ok.1 h
  obtain ⟨count, hc, h⟩ := Result.bind_eq_ok.1 h
  obtain ⟨forced, -, h⟩ := Result.bind_eq_ok.1 h
  obtain rfl := Except.ok.inj h
  exact ⟨hs, he, rfl, rfl, hv, hi, hc⟩

theorem TaskOrder.ofRequest_eq_ok {o : TaskOrder} (h : TaskOrder.ofRequest c r = .ok o) :
    o.id = r.appId ∧ o.labels = Labels.base r.appId r := by
  obtain ⟨settings, -, h⟩ := Result.bind_eq_ok.1 h
  obtain ⟨environment, -, h⟩ := Result.bind_eq_ok.1 h
  obtain ⟨forced, -, h⟩ := Result.bind_eq_ok.1 h
  obtain rfl := Except.ok.inj h
  exact ⟨rfl, rfl⟩

end Slipway
