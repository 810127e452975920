import Slipway.Proofs.Cluster.Kept
import Slipway.Proofs.Deploy.Attempts
import Slipway.Proofs.Deploy.Failures
import Slipway.Proofs.Pipeline.Followed

/-
  From a plan to the builds that follow it. The configuration of a plan says all of the plan, so
  that it can be read back (`follows_of_buildConfig`, `BuildRecipe.plan?`) and different plans have
  different configurations. A platform that holds the configuration starts builds of its recipe and
  labels (`HoldsConfig.exists_startBuild`), which is also what comes of copying the parts of the
  configuration as JSON (`read?_newBuildJson`). Whatever phases a build goes through, it keeps both
  (`exists_moveBuild`), so that it carries the fingerprint of the configuration and no other until
  it fails (`BuildRecipe.Follows.carries_iff`).
-/

namespace Slipway

open Cluster Json

variable {plan : BuildPlan} {id : AppId} {labels : Attributes} {fp : Fingerprint} {tag : String}
  {r : Request} {bc y : BuildConfig} {b : Build} {s s' : Cluster}

/-! ## The configuration of a plan -/

namespace BuildRecipe

/-- The plan that a recipe comes of. -/
def plan? (recipe : BuildRecipe) : Option BuildPlan :=
  match recipe.source.sourceType with
  | some .git => do
    let git ← recipe.source.git
    pure (.git git.uri (← git.branch) (← recipe.source.contextDir)
      (recipe.source.sourceSecret.map (·.name)))
  | some .dockerfile => recipe.source.dockerfile.map .dockerfile
  | some .binary => do pure (.upload (← (← recipe.strategy.source).image.name))
  | some .other | none => none

/-- A recipe for the builds of a plan, which carry a fingerprint and push to a tag. -/
structure Follows (recipe : BuildRecipe) (plan : BuildPlan) (fp : Fingerprint) (tag : String) :
    Prop where
  sourceType_eq : recipe.source.sourceType = plan.sourceType?
  strategyType_eq : recipe.strategy.strategyType = plan.strategyType?
  /-- There is exactly one strategy. -/
  one_strategy : recipe.strategy.docker = none ↔ recipe.strategy.source.isSome
  plan?_eq : recipe.plan? = some plan
  envValue_eq : recipe.strategy.envValue Labels.fingerprintVariable = some fp.text
  target_eq : recipe.output.target = some (ObjectReference.imageStreamTag tag)

/-- A build of the recipe carries the fingerprint and no other, unless it failed. -/
theorem Follows.carries_iff {recipe : BuildRecipe} (h : recipe.Follows plan fp tag)
    (hb : b.spec = recipe) (g : Fingerprint) :
    BuildHistory.carries g b = true ↔ b.phase ≠ .failed ∧ g = fp := by
  have hvalue : b.strategy.envValue Labels.fingerprintVariable = some fp.text := by
    rw [Resource.strategy, hb, h.envValue_eq]
  rw [BuildHistory.carries_iff, hvalue]
  constructor
  · rintro ⟨hphase, htext⟩
    exact ⟨hphase, congrArg Fingerprint.mk (Option.some.inj htext).symm⟩
  · rintro ⟨hphase, rfl⟩
    exact ⟨hphase, rfl⟩

end BuildRecipe

namespace BuildPlan

theorem follows_of_sourceAndStrategy {fileName : String} {source : BuildSource}
    {strategy : BuildStrategy} (h : plan.sourceAndStrategy fileName fp = .ok (source, strategy)) :
    BuildRecipe.Follows ⟨source, strategy, ⟨some (ObjectReference.imageStreamTag tag)⟩⟩ plan fp
      tag := by
  have hmarker := envValue_of_sourceAndStrategy h
  cases plan with
  | image reference => cases h
  | git uri branch contextDir secret =>
    cases h
    refine ⟨rfl, rfl, by simp [dockerStrategy], ?_, hmarker, rfl⟩
    -- only a secret may be left out
    cases secret <;> rfl
  | dockerfile contents =>
    cases h
    exact ⟨rfl, rfl, by simp [dockerStrategy], rfl, hmarker, rfl⟩
  | upload baseImage =>
    cases h
    exact ⟨rfl, rfl, by simp, rfl, hmarker, rfl⟩

theorem follows_of_buildConfig (h : plan.buildConfig id labels fp tag r = .ok bc) :
    (bc.spec : BuildConfigSpec).recipe.Follows plan fp tag := by
  obtain ⟨⟨source, strategy⟩, hs, h⟩ := Result.bind_eq_ok.1 h
  obtain ⟨selector, -, h⟩ := Result.bind_eq_ok.1 h
  obtain rfl := Except.ok.inj h
  exact follows_of_sourceAndStrategy hs

end BuildPlan

/-! ## Keeping the configuration -/

namespace Cluster

/-- The platform holds a build configuration under its name as it was made. -/
def HoldsConfig (s : Cluster) (bc : BuildConfig) : Prop :=
  ∃ y, s.find? .buildConfig bc.name = some y ∧ y.unstamped = bc.stored.unstamped

theorem holdsConfig_of_objects_eq {y : BuildConfig} (hy : y.unstamped = bc.stored.unstamped)
    (h : s'.objects = s.objects.put .buildConfig ((s.objects.of .buildConfig).insert bc.name y)) :
    s'.HoldsConfig bc := by
  have hinsert : s'.objects.of .buildConfig = (s.objects.of .buildConfig).insert bc.name y := by
    rw [h, PerKind.of_put_self]
  refine ⟨y, ?_, hy⟩
  rw [find?_of_insert hinsert, if_pos rfl]

theorem holdsConfig_insert (s : Cluster) (bc : BuildConfig) : (s.insert bc).HoldsConfig bc :=
  holdsConfig_of_objects_eq (unstamped_stamp s bc) rfl

theorem holdsConfig_of_create (h : s.create bc = (.ok y, s')) : s'.HoldsConfig bc := by
  obtain ⟨hy, ho⟩ := create_eq_ok h
  exact holdsConfig_of_objects_eq hy ho

theorem holdsConfig_of_reconcile (h : s.perform (Reconcile.reconcile bc) = (.ok y, s')) :
    s'.HoldsConfig bc := by
  obtain ⟨hy, ho⟩ := Reconcile.reconcile_update rfl h
  exact holdsConfig_of_objects_eq hy ho

/-! ## Starting a build -/

/-- The build that a configuration starts, under the version and the number that it gets. -/
def startedBuild (s : Cluster) (bc : BuildConfig) : Build :=
  (s.stamp (newBuild bc bc.name (s.nextBuildNumber bc.name))).1

theorem HoldsConfig.exists_startBuild (h : s.HoldsConfig bc) (op : Operation) :
    ∃ s', s.startBuild bc.name op = (.ok (s.startedBuild bc), s') ∧
      s'.find? .build (s.startedBuild bc).name = some (s.startedBuild bc) := by
  obtain ⟨y, hy, hunstamped⟩ := h
  have hnew : newBuild y bc.name (s.nextBuildNumber bc.name) =
      newBuild bc bc.name (s.nextBuildNumber bc.name) :=
    newBuild_congr hunstamped bc.name (s.nextBuildNumber bc.name)
  obtain ⟨s', hs'⟩ : ∃ s', s.startBuild bc.name op = (.ok (s.startedBuild bc), s') := by
    unfold startBuild startedBuild
    rw [hy, ← hnew]
    exact ⟨_, rfl⟩
  obtain ⟨_, -, hstarted⟩ := startBuild_eq_ok hs'
  exact ⟨s', hs', hstarted.find?_self⟩

/-! ### In JSON -/

/-- A new build with labels and a recipe. -/
def buildJson (labels recipe : Json) (base : String) (number : Nat) : Json := .object [
  ("apiVersion", .string Kind.build.apiVersion),
  ("kind", .string Kind.build.name),
  ("metadata", .object [
    ("name", .string (base ++ "-" ++ Text.decimal number)),
    ("labels", labels),
    ("annotations", .object [(BuildHistory.numberAnnotation, .string (Text.decimal number))])]),
  ("spec", recipe),
  ("status", .object [("phase", .string BuildPhase.new.name)])]

/-- The build that a build configuration starts, made of the JSON of the configuration: its labels
    and the parts of its recipe are copied. -/
def newBuildJson (bc : Json) (base : String) (number : Nat) : Json :=
  let spec := bc.field "spec"
  buildJson ((bc.field "metadata").field "labels") (.object [
    ("source", spec.field "source"),
    ("strategy", spec.field "strategy"),
    ("output", spec.field "output")]) base number

/-- What is copied is the same under every version of the configuration. -/
theorem newBuildJson_stampJson (version : Nat) (hlabels : bc.metadata.labels = some labels)
    (base : String) (number : Nat) :
    newBuildJson (Resource.stampJson version bc.toJson) base number =
      buildJson (ofAttributes labels) (bc.spec : BuildConfigSpec).recipe.toJson base number := by
  have hfields := field_set_object (bc.members.filterMap id) "metadata"
    (Metadata.stampJson version (bc.toJson.field "metadata"))
  have hmetadata : (Resource.stampJson version bc.toJson).field "metadata" =
      Metadata.stampJson version bc.metadata.toJson := hfields "metadata"
  have hspec : (Resource.stampJson version bc.toJson).field "spec" =
      (bc.spec : BuildConfigSpec).toJson := hfields "spec"
  have hcopied : (Metadata.stampJson version bc.metadata.toJson).field "labels" =
      ofAttributes labels := by
    rw [(Metadata.sameFields_stampJson version bc.metadata).field_eq]
    simp [Metadata.toJson, stampMetadata, hlabels]
  unfold newBuildJson
  rw [hmetadata, hspec, hcopied]
  rfl

/-- The metadata of a new build stand in another order than a record writes them. -/
theorem sameFields_newBuild (hlabels : bc.metadata.labels = some labels) (base : String)
    (number : Nat) :
    SameFields (.object [
      ("name", .string (base ++ "-" ++ Text.decimal number)),
      ("labels", ofAttributes labels),
      ("annotations", .object [(BuildHistory.numberAnnotation, .string (Text.decimal number))])])
      (newBuild bc base number).metadata.toJson := by
  have hannotations : ofAttributes (Dict.empty.insert BuildHistory.numberAnnotation
      (Text.decimal number)) =
        .object [(BuildHistory.numberAnnotation, .string (Text.decimal number))] := rfl
  refine .intro fun name => ?_
  show _ = memberValue? _ name
  by_cases hname : name = "name"
  · subst hname
    simp [newBuild]
  · by_cases hlabel : name = "labels"
    · subst hlabel
      simp [newBuild, hlabels, Dict.lookup_cons_ite]
    · simp [newBuild, hname, hlabel, hannotations, Dict.lookup_cons_ite]

/-- What is read of the build that is made of JSON is the build that the configuration starts. -/
theorem read?_newBuildJson (version : Nat) (hlabels : bc.metadata.labels = some labels)
    (s : Cluster) :
    Resource.read? .build (Resource.stampJson (s.version + 1) (newBuildJson
      (Resource.stampJson version bc.toJson) bc.name (s.nextBuildNumber bc.name))) =
        some (s.startedBuild bc) := by
  have hfields := sameFields_newBuild hlabels bc.name (s.nextBuildNumber bc.name)
  have htimes : ∀ t ∈ (newBuild bc bc.name (s.nextBuildNumber bc.name)).metadata.times,
      t.IsProper := by
    simp [newBuild, Metadata.times]
  rw [newBuildJson_stampJson version hlabels]
  exact Resource.read?_stampJson_object (s.version + 1) rfl rfl rfl hfields htimes
    (BuildRecipe.readsAs bc.spec.recipe).read_eq rfl

/-! ## The phases of a build -/

/-- Moves a build from phase to phase, each with the image that it has pushed by then. -/
def moveBuild (s : Cluster) (name : String) (moves : List (BuildPhase × Option String)) :
    Option Cluster :=
  moves.foldlM (fun s m => s.setBuildPhase name m.1 m.2) s

/-- A build may be moved from any phase to any other, and stays what it is. -/
theorem exists_moveBuild {name : String} (moves : List (BuildPhase × Option String))
    (h : s.find? .build name = some b) :
    ∃ t b', s.moveBuild name moves = some t ∧ t.find? .build name = some b' ∧
      b'.spec = b.spec ∧ b'.labels = b.labels ∧
      b'.phase = (moves.getLast?.map (·.1)).getD b.phase := by
  -- the build stands under its name in every cluster of the run, with the same recipe and labels
  induction moves generalizing s b with
  | nil => exact ⟨s, b, rfl, h, rfl, rfl, rfl⟩
  | cons m moves ih =>
    obtain ⟨s', hs', hmoved, -, -⟩ := exists_setBuildPhase h m.1 m.2
    obtain ⟨t, b', ht, hfind, hspec, hlabels, hphase⟩ := ih hmoved.find?_self
    refine ⟨t, b', ?_, hfind, hspec.trans hmoved.spec_eq, hlabels.trans hmoved.labels_eq, ?_⟩
    · rw [moveBuild, List.foldlM_cons, hs']
      exact ht
    · rw [hphase, List.getLast?_cons]
      cases moves.getLast? <;> rfl

end Cluster

/-! ## From the plan to the build -/

/-- The configuration of a plan says all of the plan, and the builds that are started of it, however
    they are started and whatever phases they go through, follow it: each carries the fingerprint of
    the configuration and no other, unless it failed. -/
theorem BuildPlan.buildConfig_faithful (hplan : ∀ reference, plan ≠ .image reference)
    (hselector : ∃ selector, r.nodeSelector = .ok selector) (id : AppId) (labels : Attributes)
    (fp : Fingerprint) (tag : String) :
    ∃ bc recipe, plan.buildConfig id labels fp tag r = .ok bc ∧
      (bc.spec : BuildConfigSpec).recipe = recipe ∧ recipe.Follows plan fp tag ∧
      (∀ plan' bc', plan' ≠ plan → plan'.buildConfig id labels fp tag r = .ok bc' → bc' ≠ bc) ∧
      (∀ s : Cluster, (s.insert bc).HoldsConfig bc) ∧
      (∀ (s s' : Cluster) y, s.create bc = (.ok y, s') → s'.HoldsConfig bc) ∧
      (∀ (s s' : Cluster) y, s.perform (Reconcile.reconcile bc) = (.ok y, s') → s'.HoldsConfig bc) ∧
      ∀ s : Cluster, s.HoldsConfig bc → ∀ (file : String) (content : Bytes),
        ∀ started ∈ ([answer (.instantiateBuild bc.name) s,
          answer (.submitBinaryBuild bc.name file content) s] : List (Result Build × Cluster)),
        ∃ b s', started = (.ok b, s') ∧ b.spec = recipe ∧ b.labels = labels ∧
          (∀ version, Resource.read? .build (Resource.stampJson (s.version + 1) (newBuildJson
            (Resource.stampJson version bc.toJson) bc.name (s.nextBuildNumber bc.name))) =
              some b) ∧
          ∀ moves : List (BuildPhase × Option String), ∃ t b',
            s'.moveBuild b.name moves = some t ∧ t.find? .build b.name = some b' ∧
            b'.spec = recipe ∧ b'.labels = labels ∧
            b'.phase = (moves.getLast?.map (·.1)).getD .new ∧
            ∀ g, BuildHistory.carries g b' = true ↔ b'.phase ≠ .failed ∧ g = fp := by
  obtain ⟨bc, hbc⟩ := exists_buildConfig_of_nodeSelector hplan hselector id labels fp tag
  have hfollows := follows_of_buildConfig hbc
  have hlabels : bc.metadata.labels = some labels := by rw [(buildConfig_eq_ok hbc).1]; rfl
  refine ⟨bc, _, hbc, rfl, hfollows, fun plan' bc' hne hbc' heq => hne ?_,
    fun s => holdsConfig_insert s bc, fun s s' y => holdsConfig_of_create,
    fun s s' y => holdsConfig_of_reconcile, fun s hs file content started hstarted => ?_⟩
  · -- the plan is read back from what the two share
    subst heq
    exact Option.some.inj ((follows_of_buildConfig hbc').plan?_eq.symm.trans hfollows.plan?_eq)
  · obtain ⟨op, rfl⟩ : ∃ op, started = s.startBuild bc.name op := by
      rcases List.mem_pair.1 hstarted with rfl | rfl
      · exact ⟨_, rfl⟩
      · exact ⟨_, rfl⟩
    obtain ⟨s', hs', hfind⟩ := hs.exists_startBuild op
    have hbuild : (s.startedBuild bc).labels = labels := by
      show bc.metadata.labels.getD ∅ = labels
      rw [hlabels, Option.getD_some]
    refine ⟨_, s', hs', rfl, hbuild, fun version => read?_newBuildJson version hlabels s,
      fun moves => ?_⟩
    obtain ⟨t, b', ht, hfind', hspec, hlabels', hphase⟩ := exists_moveBuild moves hfind
    exact ⟨t, b', ht, hfind', hspec, hlabels'.trans hbuild, hphase, hfollows.carries_iff hspec⟩

/-- A source that a secret opens. -/
def BuildPlan.gitTicker : BuildPlan :=
  .git "ssh://git@example.org/ticker" "main" "deploy" (some "deploy-key")

/-- The plan is read back with its secret. A build that is instantiated carries its fingerprint when
    it is complete, and no longer when it failed. -/
theorem BuildPlan.buildConfig_faithful_gitTicker :
    ∃ bc recipe, gitTicker.buildConfig ⟨"ticker"⟩ ∅ ⟨"a1"⟩ "ticker:latest" (.ticker []) = .ok bc ∧
      (bc.spec : BuildConfigSpec).recipe = recipe ∧ recipe.plan? = some gitTicker ∧
      ∃ b s', answer (.instantiateBuild bc.name) (({} : Cluster).insert bc) = (.ok b, s') ∧
        (∃ t b', s'.moveBuild b.name [(.running, none), (.complete, none)] = some t ∧
          t.find? .build b.name = some b' ∧ BuildHistory.carries ⟨"a1"⟩ b' = true ∧
          ¬ BuildHistory.carries ⟨"a2"⟩ b' = true) ∧
        ∃ t b', s'.moveBuild b.name [(.running, none), (.failed, none)] = some t ∧
          t.find? .build b.name = some b' ∧ ¬ BuildHistory.carries ⟨"a1"⟩ b' = true := by
  have hplan : ∀ reference, gitTicker ≠ .image reference := fun reference => by
    unfold gitTicker
    exact nofun
  obtain ⟨bc, recipe, hbc, hrecipe, hfollows, -, hkept, -, -, hstart⟩ :=
    buildConfig_faithful (r := .ticker []) hplan ⟨∅, rfl⟩ ⟨"ticker"⟩ ∅ ⟨"a1"⟩ "ticker:latest"
  obtain ⟨b, s', hb, -, -, -, hmoves⟩ := hstart _ (hkept {}) "" [] _ List.mem_cons_self
  obtain ⟨t, b', ht, hfind, -, -, hphase, hcarries⟩ := hmoves [(.running, none), (.complete, none)]
  obtain ⟨u, c, hu, hc, -, -, hfailed, hlost⟩ := hmoves [(.running, none), (.failed, none)]
  refine ⟨bc, recipe, hbc, hrecipe, hfollows.plan?_eq, b, s', hb, ⟨t, b', ht, hfind, ?_, ?_⟩,
    u, c, hu, hc, ?_⟩
  · rw [hcarries, hphase]
    decide
  · rw [hcarries, hphase]
    decide
  · rw [hlost, hfailed]
    decide

end Slipway
