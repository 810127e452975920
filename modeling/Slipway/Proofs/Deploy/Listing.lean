import Slipway.Proofs.Pipeline.Age
import Slipway.Proofs.Session.Runs

/-
  The order in which a platform lists builds. It does not matter as long as the builds are of
  different ages: the same one is used again, and the state that is told of an application or of a
  task is the same (`told_by_age`). Two runs of one question are compared here, on any two platforms
  that answer alike but for this order (`ListsAlike`).
-/

namespace Slipway

open BuildHistory

variable {α β σ τ : Type} [Platform σ] [Platform τ] {s : σ} {t : τ} {id : AppId}

/-! ## Two runs -/

/-- Two sequences have the same result if their first parts have, and their second parts after
    these. -/
theorem Action.run_bind_congr {a : Action α} {f g : α → Action β}
    (ha : (a.run s).1 = (a.run t).1) (hf : ∀ x, (a.run s).1 = some (.ok x) →
      ((f x).run (a.run s).2).1 = ((g x).run (a.run t).2).1) :
    ((a >>= f).run s).1 = ((a >>= g).run t).1 := by
  rw [run_bind, run_bind]
  rcases hs : a.run s with ⟨x, s'⟩
  rcases ht : a.run t with ⟨y, t'⟩
  rw [hs, ht] at ha hf
  obtain rfl : x = y := ha
  rcases x with _ | e | x
  · rfl
  · rfl
  · exact hf x rfl

/-- Two answers to the same listing: the same answer, or the same builds, which are of different
    ages, in another order. -/
inductive Relisted : Option (Result (List Build)) → Option (Result (List Build)) → Prop
  | same (answer : Option (Result (List Build))) : Relisted answer answer
  | moved {builds builds' : List Build} (h : builds.Perm builds')
    (hages : (builds.map age).Nodup) : Relisted (some (.ok builds)) (some (.ok builds'))

/-- Two platforms that answer a call alike and list the builds of an application after it, perhaps
    in another order. -/
structure ListsAlike (c : Call) (id : AppId) (s : σ) (t : τ) : Prop where
  answers : (Platform.answer c s).1 = (Platform.answer c t).1
  relisted : Relisted
    (Platform.answer (.list .build (Labels.appSelector id)) (Platform.answer c s).2).1
    (Platform.answer (.list .build (Labels.appSelector id)) (Platform.answer c t).2).1

theorem Action.run_list (k : Kind) (selector : String) (s : σ) :
    (Action.list k selector).run s = Platform.answer (.list k selector) s := run_ask _ s

theorem Action.run_get (k : Kind) (name : String) (s : σ) :
    (Action.get k name).run s = Platform.answer (.get k name) s := run_ask _ s

/-- What is told of listed builds is the same if it does not depend on their order. -/
theorem run_list_bind_congr {selector : String} {f : List Build → α}
    (h : Relisted (Platform.answer (.list .build selector) s).1
      (Platform.answer (.list .build selector) t).1)
    (hf : ∀ builds builds', builds.Perm builds' → (builds.map age).Nodup → f builds = f builds') :
    ((Action.list .build selector >>= fun builds => pure (f builds)).run s).1 =
      ((Action.list .build selector >>= fun builds => pure (f builds)).run t).1 := by
  rw [Action.run_bind, Action.run_bind, Action.run_list, Action.run_list]
  rcases hs : Platform.answer (.list .build selector) s with ⟨x, s'⟩
  rcases ht : Platform.answer (.list .build selector) t with ⟨y, t'⟩
  rw [hs, ht] at h
  cases h with
  | same => rcases x with _ | e | builds <;> rfl
  | moved h hages => exact congrArg (fun told => some (Except.ok told)) (hf _ _ h hages)

namespace Deployer

theorem latestPhase_eq_of_perm {builds builds' : List Build} (h : builds.Perm builds')
    (hages : (builds.map age).Nodup) : latestPhase builds = latestPhase builds' := by
  rw [latestPhase, latestPhase, sort_eq_of_perm h hages]

theorem status_of_listsAlike
    (h : ListsAlike (.list .deploymentConfig (Labels.appSelector id)) id s t) :
    ((status id).run s).1 = ((status id).run t).1 := by
  refine Action.run_bind_congr ?_ fun dcs _ => ?_
  · rw [Action.run_list, Action.run_list]
    exact h.answers
  · rw [Action.run_list, Action.run_list]
    refine run_list_bind_congr h.relisted fun builds builds' hperm hages => ?_
    rw [latestPhase_eq_of_perm hperm hages]

theorem taskStatus_of_listsAlike (h : ListsAlike (.get .pod id.text) id s t) :
    ((taskStatus id).run s).1 = ((taskStatus id).run t).1 := by
  refine Action.run_bind_congr ?_ fun pod _ => ?_
  · rw [Action.run_get, Action.run_get]
    exact h.answers
  · cases pod with
    | some pod => rfl
    | none =>
      rw [Action.run_get, Action.run_get]
      refine run_list_bind_congr h.relisted fun builds builds' hperm hages => ?_
      rw [latestPhase_eq_of_perm hperm hages]

/-- A sorted history has the builds that it was given, by their ages. A build can be used again
    exactly if one is found, which is then listed, did not fail, carries the fingerprint and is not
    older than another one of which this is true. Hence, as long as the builds that are listed are
    of different ages, neither the build that is used again nor the state of an application or of a
    task depends on the order in which a platform lists them. -/
theorem told_by_age :
    (∀ builds : List Build, (sort builds).Perm builds ∧
      (sort builds).Pairwise fun a b => age a ≤ age b) ∧
    (∀ (builds : List Build) (fp : Fingerprint),
      (reusable? builds fp).isSome = isReusable builds fp ∧
      ∀ b ∈ reusable? builds fp, b ∈ builds ∧ b.phase ≠ .failed ∧
        b.strategy.envValue Labels.fingerprintVariable = some fp.text ∧
        ∀ b' ∈ builds, b'.phase ≠ .failed →
          b'.strategy.envValue Labels.fingerprintVariable = some fp.text → age b' ≤ age b) ∧
    (∀ (builds builds' : List Build), builds.Perm builds' → (builds.map age).Nodup →
      ∀ (r : Request) (c : Config) (fp : Fingerprint),
        toReuse? r c builds fp = toReuse? r c builds' fp) ∧
    ∀ {σ τ : Type} [Platform σ] [Platform τ] (id : AppId) (s : σ) (t : τ),
      (ListsAlike (.list .deploymentConfig (Labels.appSelector id)) id s t →
        ((status id).run s).1 = ((status id).run t).1) ∧
      (ListsAlike (.get .pod id.text) id s t →
        ((taskStatus id).run s).1 = ((taskStatus id).run t).1) := by
  refine ⟨fun builds => ⟨sortBy_perm notYounger builds, pairwise_sort builds⟩,
    fun builds fp => ⟨isSome_reusable? builds fp, fun b hb => ?_⟩,
    fun builds builds' hperm hages r c fp => toReuse?_eq_of_perm hperm hages r c fp,
    fun id s t => ⟨status_of_listsAlike, taskStatus_of_listsAlike⟩⟩
  obtain ⟨hmem, hcarries, hyoungest⟩ := reusable?_eq_some hb
  obtain ⟨hphase, hmarker⟩ := carries_iff.1 hcarries
  refine ⟨hmem, hphase, hmarker, fun b' hb' hphase' hmarker' => ?_⟩
  exact notYounger_iff_age.1 (hyoungest b' hb' (carries_iff.2 ⟨hphase', hmarker'⟩))

/-! ## A platform with three builds -/

/-- A platform that lists what it holds in the order in which it holds it. -/
structure Shelf where
  deployments : List DeploymentConfig
  builds : List Build

instance : Platform Shelf where
  answer c s := match c with
    | .list .deploymentConfig _ => (some (.ok s.deployments), s)
    | .list .build _ => (some (.ok s.builds), s)
    | .list _ _ => (some (.ok []), s)
    | .get _ _ => (some (.ok none), s)
    | .create _ object => (some (.ok object), s)
    | .replace k name _ => (some (.error (.notFound k name)), s)
    | .delete k name => (some (.error (.notFound k name)), s)
    | .awaitDeleted _ _ _ => (some (.ok ()), s)
    | .watch _ _ => (some (.ok ⟨0⟩), s)
    | .instantiateBuild name => (some (.error (.notFound .buildConfig name)), s)
    | .submitBinaryBuild name _ _ => (some (.error (.notFound .buildConfig name)), s)
    | .rollout name => (some (.error (.notFound .deploymentConfig name)), s)
  poll _ s := (.ended, s)
  close _ s := s
  backlog _ := 0

/-- What the content of the builds is known by. -/
def shelvedContent : Fingerprint := ⟨"fingerprint"⟩

def shelved (number : String) (created : Option Timestamp) (phase : BuildPhase) : Build where
  metadata := {
    name := some ("ticker-" ++ number)
    annotations := some (Dict.ofList [( numberAnnotation, number)])
    creationTimestamp := created }
  spec := { strategy := { source := some {
    env := [{ name := Labels.fingerprintVariable, value := some shelvedContent.text }] } } }
  status := some { phase := phase }

/-- A build without a time and with a number that cannot be read. -/
def unreadable : Build := shelved "x" none .complete

def ninth : Build := shelved "9" (some (.in2025 60 (by decide))) .running

/-- A build of the same time as the ninth, and younger by its number. -/
def tenth : Build := shelved "10" (some (.in2025 60 (by decide))) .failed

def waiting : DeploymentConfig := ⟨{ name := some "ticker" }, { replicas := 1 }, none⟩

/-- The tenth build is the latest in either order, and the ninth is used again. -/
theorem told_by_age_shelf :
    ([ninth, unreadable, tenth].map age).Nodup ∧
    (∀ builds, builds = [ninth, unreadable, tenth] ∨ builds = [tenth, ninth, unreadable] →
      toReuse? (.ticker []) {} builds shelvedContent = .ok (some ninth) ∧
      ((status ⟨"ticker"⟩).run (Shelf.mk [waiting] builds)).1 =
        some (.ok ⟨.failed, [⟨"ticker", 1, 0⟩]⟩) ∧
      ((taskStatus ⟨"ticker"⟩).run (Shelf.mk [waiting] builds)).1 = some (.ok .failed)) := by
  have hages : ([ninth, unreadable, tenth].map age).Nodup := by decide +kernel
  have hperm : [ninth, unreadable, tenth].Perm [tenth, ninth, unreadable] :=
    @List.perm_append_comm _ [ninth, unreadable] [tenth]
  obtain ⟨-, -, hreuse, htold⟩ := told_by_age
  obtain ⟨hstatus, htask⟩ := htold ⟨"ticker"⟩ (Shelf.mk [waiting] [ninth, unreadable, tenth])
    (Shelf.mk [waiting] [tenth, ninth, unreadable])
  refine ⟨hages, ?_⟩
  rintro builds (rfl | rfl)
  · exact ⟨rfl, rfl, rfl⟩
  · rw [← hreuse _ _ hperm hages, ← hstatus ⟨rfl, .moved hperm hages⟩,
      ← htask ⟨rfl, .moved hperm hages⟩]
    exact ⟨rfl, rfl, rfl⟩

end Deployer

end Slipway
