import Slipway.BuildPlan
import Slipway.Proofs.Text.Numbering

/-
  The rules by which the image of a request is made (`IsChosen`), in their order, and that the
  choice follows them for every request, configuration and resolver (`choose_follows_rules`). An
  image and a source that is given are decided without a question (`asked_of_settled`). What stands
  before an `@` in a stamped source has no part in the result (`normalizeGitUri_append`).
-/

namespace Slipway

/-! ## What an inquiry asks -/

/-- A question that a resolver is asked about an artifact. -/
inductive Question where
  | sourceControl
  | file (path : String)
  deriving DecidableEq, Repr

namespace Inquiry

variable {α : Type} {R R' : Resolver} {a : ArtifactRef}

/-- The questions of an inquiry in the order in which they are asked. -/
def asked (R : Resolver) (a : ArtifactRef) : Inquiry α → List Question
  | done _ => []
  | sourceControl next =>
    .sourceControl :: match R.sourceControl a with
      | .ok answer => (next answer).asked R a
      | .error _ => []
  | file path next =>
    .file path :: match R.file a path with
      | .ok answer => (next answer).asked R a
      | .error _ => []

theorem run_snd (i : Inquiry α) : (i.run R a).2 = (i.asked R a).length := by
  induction i with
  | done result => rfl
  | sourceControl next ih =>
    rcases h : R.sourceControl a with e | answer
    · simp only [run, asked, h, List.length_singleton]
    · simp only [run, asked, h, List.length_cons, ih answer]
  | file path next ih =>
    rcases h : R.file a path with e | answer
    · simp only [run, asked, h, List.length_singleton]
    · simp only [run, asked, h, List.length_cons, ih answer]

end Inquiry

/-! ## What a property says -/

namespace Request

variable {r : Request} {key default v : String}

/-- The value `v` stands in a property, perhaps among blanks. -/
def Says (r : Request) (key v : String) : Prop :=
  v ≠ "" ∧ ∃ raw, r.properties.get? key = some raw ∧ Text.trim raw = v

/-- A property says `v`, or it says nothing and `v` is the default. -/
def SaysOr (r : Request) (key default v : String) : Prop :=
  r.Says key v ∨ (∀ w, ¬ r.Says key w) ∧ v = default

theorem property_eq_some : r.property key = some v ↔
    ∃ raw, r.properties.get? key = some raw ∧ Text.trim raw = v :=
  Option.map_eq_some_iff

theorem nonEmptyProperty_eq_some : r.nonEmptyProperty key = some v ↔ r.Says key v := by
  unfold nonEmptyProperty Says
  rw [Option.filter_eq_some_iff, property_eq_some, decide_eq_true_iff, and_comm]

theorem nonEmptyProperty_eq_none : r.nonEmptyProperty key = none ↔ ∀ v, ¬ r.Says key v := by
  rw [Option.eq_none_iff_forall_ne_some]
  exact forall_congr' fun v => not_congr nonEmptyProperty_eq_some

theorem saysOr_iff : r.SaysOr key default v ↔ (r.nonEmptyProperty key).getD default = v := by
  unfold SaysOr
  rcases h : r.nonEmptyProperty key with _ | w
  · have hsilent := nonEmptyProperty_eq_none.1 h
    rw [or_iff_right (hsilent v), and_iff_right hsilent, Option.getD_none, eq_comm]
  · have hsays := nonEmptyProperty_eq_some.1 h
    have hnot : ¬ ((∀ w, ¬ r.Says key w) ∧ v = default) := fun hn => hn.1 w hsays
    rw [or_iff_left hnot, ← nonEmptyProperty_eq_some, h, Option.some.injEq, Option.getD_some]

end Request

/-! ## Texts cut at a separator -/

namespace Text

variable {sep : Char} {cs : List Char}

theorem cutLast_eq_none_iff : cutLast sep cs = none ↔ sep ∉ cs := by
  rw [cutLast, Option.map_eq_none_iff, cutFirst_eq_none_iff, List.mem_reverse]

theorem cutLast_eq_some_iff {a b : List Char} :
    cutLast sep cs = some (a, b) ↔ cs = a ++ sep :: b ∧ sep ∉ b := by
  constructor
  · intro h
    obtain ⟨⟨x, y⟩, hcut, heq⟩ := Option.map_eq_some_iff.1 h
    obtain ⟨rfl, rfl⟩ := Prod.mk.inj heq
    obtain ⟨hcs, hx⟩ := cutFirst_eq_some hcut
    refine ⟨?_, fun hm => hx (List.mem_reverse.1 hm)⟩
    rw [← List.reverse_reverse cs, hcs]
    simp
  · rintro ⟨rfl, hb⟩
    exact cutLast_append hb

end Text

namespace BuildPlan

variable {files : Files} {c : Config} {r : Request} {R R' : Resolver}

/-! ## Sources -/

/-- The uri of a source that was stamped into an artifact, as it is built: the user of the secure
    shell takes the place of what stands before the last `@`. -/
inductive IsNormal : String → String → Prop where
  | user (before place : String) : '@' ∉ place.toList →
      IsNormal (before ++ "@" ++ place) ("ssh://git@" ++ place)
  | bare (uri : String) : '@' ∉ uri.toList → IsNormal uri uri

theorem isNormal_iff {given uri : String} : IsNormal given uri ↔ normalizeGitUri given = uri := by
  constructor
  · rintro (⟨before, place, h⟩ | ⟨uri, h⟩)
    · have hcut : Text.cutLast '@' (before ++ "@" ++ place).toList =
          some (before.toList, place.toList) :=
        Text.cutLast_eq_some_iff.2 ⟨by simp [String.toList_append], h⟩
      rw [normalizeGitUri, hcut]
      exact congrArg ("ssh://git@" ++ ·) String.ofList_toList
    · rw [normalizeGitUri, Text.cutLast_eq_none_iff.2 h]
  · rintro rfl
    unfold normalizeGitUri
    split
    next before place hcut =>
      obtain ⟨hgiven, hplace⟩ := Text.cutLast_eq_some_iff.1 hcut
      have heq : given = String.ofList before ++ "@" ++ String.ofList place := by
        rw [← String.toList_inj, hgiven]
        simp [String.toList_append]
      rw [heq]
      exact .user _ _ (by rwa [String.toList_ofList])
    next hcut => exact .bare given (Text.cutLast_eq_none_iff.1 hcut)

/-- A source with a user has one user when it is built. -/
theorem IsNormal.count_at {given uri : String} (h : IsNormal given uri) (ha : '@' ∈ given.toList) :
    uri.toList.count '@' = 1 := by
  cases h with
  | user before place hplace =>
    rw [String.toList_append, List.count_append, List.count_eq_zero_of_not_mem hplace]
    rfl
  | bare uri h => exact absurd ha h

/-- What stands before an `@` is not kept. -/
theorem exists_isNormal_append (rest : String) : ∃ place, ∀ user,
    IsNormal (user ++ "@" ++ rest) ("ssh://git@" ++ place) := by
  rcases hcut : Text.cutLast '@' rest.toList with _ | ⟨before, place⟩
  · exact ⟨rest, fun user => .user user rest (Text.cutLast_eq_none_iff.1 hcut)⟩
  · obtain ⟨hrest, hplace⟩ := Text.cutLast_eq_some_iff.1 hcut
    refine ⟨String.ofList place, fun user => ?_⟩
    have heq : user ++ "@" ++ rest =
        user ++ "@" ++ String.ofList before ++ "@" ++ String.ofList place := by
      rw [← String.toList_inj]
      simp [String.toList_append, hrest]
    rw [heq]
    exact .user _ _ (by rwa [String.toList_ofList])

theorem normalizeGitUri_append (user user' rest : String) :
    normalizeGitUri (user ++ "@" ++ rest) = normalizeGitUri (user' ++ "@" ++ rest) := by
  obtain ⟨place, h⟩ := exists_isNormal_append rest
  rw [isNormal_iff.1 (h user), isNormal_iff.1 (h user')]

/-- The secret for a source: the request's own, else the one of the configuration. -/
inductive IsSecret (c : Config) (r : Request) : Option String → Prop where
  | requested (name : String) : r.Says Keys.gitSecret name → IsSecret c r (some name)
  | configured : (∀ name, ¬ r.Says Keys.gitSecret name) → IsSecret c r c.gitSourceSecret

theorem isSecret_iff {s : Option String} : IsSecret c r s ↔ secret c r = s := by
  unfold secret
  rcases h : r.nonEmptyProperty Keys.gitSecret with _ | name
  · have hsilent := Request.nonEmptyProperty_eq_none.1 h
    constructor
    · rintro (⟨name, hsays⟩ | -)
      · exact absurd hsays (hsilent name)
      · rfl
    · rintro rfl
      exact .configured hsilent
  · have hsays := Request.nonEmptyProperty_eq_some.1 h
    constructor
    · rintro (⟨name', hsays'⟩ | hsilent)
      · rw [← h, Request.nonEmptyProperty_eq_some.2 hsays']
        rfl
      · exact absurd hsays (hsilent name)
    · rintro rfl
      exact .requested name hsays

/-- The Dockerfile below a directory, whose path may end in slashes. -/
def IsPackedBelow (dir path : String) : Prop :=
  ∃ base n, dir.toList = base ++ List.replicate n '/' ∧ base.getLast? ≠ some '/' ∧
    path = String.ofList base ++ "/Dockerfile"

theorem isPackedBelow_iff {path : String} :
    IsPackedBelow c.defaultContextDir path ↔ packedDockerfile c = path := by
  unfold packedDockerfile
  constructor
  · rintro ⟨base, n, hdir, hlast, rfl⟩
    refine congrArg (fun cs => String.ofList cs ++ "/Dockerfile") (Text.stripEnd_eq_iff.2 ⟨?_, ?_⟩)
    · exact fun d hd => beq_eq_false_iff_ne.2 fun he => hlast (he ▸ hd)
    · exact ⟨_, fun d hd => beq_iff_eq.2 (List.eq_of_mem_replicate hd), hdir⟩
  · rintro rfl
    obtain ⟨hlast, slashes, hall, hdir⟩ :=
      Text.stripEnd_eq_iff.1 (rfl : Text.stripEnd (· == '/') c.defaultContextDir.toList = _)
    refine ⟨_, slashes.length, ?_, fun he => ?_, rfl⟩
    · rwa [← List.eq_replicate_iff.2 ⟨rfl, fun d hd => beq_iff_eq.1 (hall d hd)⟩]
    · exact absurd (hlast '/' he) (by decide)

/-! ## The rules -/

/-- The plan where nothing is known of the source. A property that asks for a Dockerfile is blank,
    for the configured one, or the path of a file, or the text itself. -/
inductive IsUnsourced (files : Files) (c : Config) (r : Request) : Result BuildPlan → Prop where
  | blank (raw : String) : r.properties.get? Keys.dockerfile = some raw → Text.trim raw = "" →
      IsUnsourced files c r (.ok (dockerfile c.defaultDockerfile))
  | text (raw : String) : r.properties.get? Keys.dockerfile = some raw → Text.trim raw ≠ "" →
      files.isFile (Text.trim raw) = false →
      IsUnsourced files c r (.ok (dockerfile (Text.trim raw)))
  | file (raw contents : String) : r.properties.get? Keys.dockerfile = some raw →
      Text.trim raw ≠ "" → files.isFile (Text.trim raw) = true →
      files.readText (Text.trim raw) = .ok contents →
      IsUnsourced files c r (.ok (dockerfile contents))
  | unreadable (raw : String) (cause : FileError) : r.properties.get? Keys.dockerfile = some raw →
      Text.trim raw ≠ "" → files.isFile (Text.trim raw) = true →
      files.readText (Text.trim raw) = .error cause →
      IsUnsourced files c r (.error (.dockerfileUnreadable (Text.trim raw) cause))
  | upload : r.properties.get? Keys.dockerfile = none →
      IsUnsourced files c r (.ok (upload c.binaryBaseImage))

theorem isUnsourced_iff {result : Result BuildPlan} :
    IsUnsourced files c r result ↔ withoutSource files c r = result := by
  unfold withoutSource ofDockerfileProperty Request.property
  constructor
  · rintro (⟨raw, hraw, hv⟩ | ⟨raw, hraw, hv, hf⟩ | ⟨raw, contents, hraw, hv, hf, hread⟩ |
      ⟨raw, cause, hraw, hv, hf, hread⟩ | hraw)
    · simp [hraw, hv]
    · simp [hraw, hv, hf]
    · simp [hraw, hv, hf, hread]
    · simp [hraw, hv, hf, hread]
    · simp [hraw]
  · rintro rfl
    rcases hraw : r.properties.get? Keys.dockerfile with _ | raw
    · exact .upload hraw
    · dsimp only [Option.map_some]
      split
      next hv => exact .blank raw hraw hv
      next hv =>
        split
        next hf =>
          split
          next contents hread => exact .file raw contents hraw hv hf hread
          next cause hread => exact .unreadable raw cause hraw hv hf hread
        next hf => exact .text raw hraw hv (Bool.eq_false_iff.2 hf)

/-- Neither the artifact nor the request says what the image is made from, so that the artifact is
    asked. -/
def IsSilent (r : Request) : Prop :=
  (∀ reference, r.artifact ≠ .image reference) ∧ ∀ uri, ¬ r.Says Keys.gitUri uri

/-- The rules in their order, with the questions that each takes to decide and the result. A rule
    applies where those before it do not, and none is tried after a question without an answer. -/
inductive IsChosen (files : Files) (c : Config) (r : Request) (R : Resolver) :
    List Question → Result BuildPlan → Prop where
  | image (reference : String) : r.artifact = .image reference →
      IsChosen files c r R [] (.ok (image reference))
  | given (uri branch contextDir : String) (secret : Option String) :
      (∀ reference, r.artifact ≠ .image reference) → r.Says Keys.gitUri uri →
      r.SaysOr Keys.gitRef c.defaultGitRef branch →
      r.SaysOr Keys.gitDockerfilePath c.defaultContextDir contextDir → IsSecret c r secret →
      IsChosen files c r R [] (.ok (git uri branch contextDir secret))
  | sourceUnknown (e : Failure) : IsSilent r → R.sourceControl r.artifact = .error e →
      IsChosen files c r R [.sourceControl] (.error e)
  | unstamped (result : Result BuildPlan) : IsSilent r → R.sourceControl r.artifact = .ok none →
      IsUnsourced files c r result → IsChosen files c r R [.sourceControl] result
  | fileUnknown (source : SourceControl) (path : String) (e : Failure) : IsSilent r →
      R.sourceControl r.artifact = .ok (some source) → IsPackedBelow c.defaultContextDir path →
      R.file r.artifact path = .error e →
      IsChosen files c r R [.sourceControl, .file path] (.error e)
  | unpacked (source : SourceControl) (path : String) (result : Result BuildPlan) : IsSilent r →
      R.sourceControl r.artifact = .ok (some source) → IsPackedBelow c.defaultContextDir path →
      R.file r.artifact path = .ok none → IsUnsourced files c r result →
      IsChosen files c r R [.sourceControl, .file path] result
  | stamped (source : SourceControl) (path : String) (content : Bytes) (uri : String)
      (secret : Option String) : IsSilent r → R.sourceControl r.artifact = .ok (some source) →
      IsPackedBelow c.defaultContextDir path → R.file r.artifact path = .ok (some content) →
      IsNormal source.uri uri → IsSecret c r secret →
      IsChosen files c r R [.sourceControl, .file path]
        (.ok (git uri (source.tag.getD c.defaultGitRef) c.defaultContextDir secret))

/-! ## The choice by the rules -/

theorem choose_of_image {reference : String} (h : r.artifact = .image reference) :
    choose files c r = .done (.ok (image reference)) := by
  unfold choose
  rw [h]

theorem choose_of_given {uri : String} (hi : ∀ reference, r.artifact ≠ .image reference)
    (h : r.Says Keys.gitUri uri) : choose files c r =
      .done (.ok (git uri ((r.nonEmptyProperty Keys.gitRef).getD c.defaultGitRef)
        ((r.nonEmptyProperty Keys.gitDockerfilePath).getD c.defaultContextDir) (secret c r))) := by
  unfold choose
  split
  next reference heq => exact absurd heq (hi reference)
  next => rw [Request.nonEmptyProperty_eq_some.2 h]

theorem choose_of_isSilent (h : IsSilent r) : choose files c r =
    .sourceControl fun
      | none => .done (withoutSource files c r)
      | some source => .file (packedDockerfile c) fun
        | none => .done (withoutSource files c r)
        | some _ => .done (.ok (git (normalizeGitUri source.uri)
            (source.tag.getD c.defaultGitRef) c.defaultContextDir (secret c r))) := by
  unfold choose
  split
  next reference heq => exact absurd heq (h.1 reference)
  next =>
    split
    next uri hg => exact absurd (Request.nonEmptyProperty_eq_some.1 hg) (h.2 uri)
    next => rfl

/-- What the choice asks and its result are as the rules say. -/
theorem isChosen_choose (files : Files) (c : Config) (r : Request) (R : Resolver) :
    IsChosen files c r R ((choose files c r).asked R r.artifact)
      ((choose files c r).run R r.artifact).1 := by
  by_cases hi : ∃ reference, r.artifact = .image reference
  · obtain ⟨reference, h⟩ := hi
    rw [choose_of_image h]
    exact .image reference h
  have hi' := not_exists.1 hi
  by_cases hg : ∃ uri, r.Says Keys.gitUri uri
  · obtain ⟨uri, h⟩ := hg
    rw [choose_of_given hi' h]
    exact .given _ _ _ _ hi' h (Request.saysOr_iff.2 rfl) (Request.saysOr_iff.2 rfl)
      (isSecret_iff.2 rfl)
  have hsilent : IsSilent r := ⟨hi', not_exists.1 hg⟩
  rw [choose_of_isSilent hsilent, Inquiry.asked, Inquiry.run]
  rcases hs : R.sourceControl r.artifact with e | _ | source
  · exact .sourceUnknown e hsilent hs
  · exact .unstamped _ hsilent hs (isUnsourced_iff.2 rfl)
  · have hpath : IsPackedBelow c.defaultContextDir (packedDockerfile c) := isPackedBelow_iff.2 rfl
    dsimp only
    rw [Inquiry.asked, Inquiry.run]
    rcases hf : R.file r.artifact (packedDockerfile c) with e | _ | content
    · exact .fileUnknown source _ e hsilent hs hpath hf
    · exact .unpacked source _ _ hsilent hs hpath hf (isUnsourced_iff.2 rfl)
    · exact .stamped source _ content _ _ hsilent hs hpath hf (isNormal_iff.2 rfl)
        (isSecret_iff.2 rfl)

/-- The rules leave nothing open. -/
theorem IsChosen.eq_choose {questions : List Question} {result : Result BuildPlan}
    (h : IsChosen files c r R questions result) :
    (choose files c r).asked R r.artifact = questions ∧
      ((choose files c r).run R r.artifact).1 = result := by
  cases h with
  | image reference hi =>
    rw [choose_of_image hi]
    exact ⟨rfl, rfl⟩
  | given uri branch contextDir secret hi hg hbranch hdir hsecret =>
    rw [choose_of_given hi hg, Request.saysOr_iff.1 hbranch, Request.saysOr_iff.1 hdir,
      isSecret_iff.1 hsecret]
    exact ⟨rfl, rfl⟩
  | sourceUnknown e hsilent hs =>
    rw [choose_of_isSilent hsilent]
    simp only [Inquiry.asked, Inquiry.run, hs, and_self]
  | unstamped result hsilent hs hu =>
    rw [choose_of_isSilent hsilent]
    simp only [Inquiry.asked, Inquiry.run, hs, isUnsourced_iff.1 hu, and_self]
  | fileUnknown source path e hsilent hs hpath hf =>
    obtain rfl := isPackedBelow_iff.1 hpath
    rw [choose_of_isSilent hsilent]
    simp only [Inquiry.asked, Inquiry.run, hs, hf, and_self]
  | unpacked source path result hsilent hs hpath hf hu =>
    obtain rfl := isPackedBelow_iff.1 hpath
    rw [choose_of_isSilent hsilent]
    simp only [Inquiry.asked, Inquiry.run, hs, hf, isUnsourced_iff.1 hu, and_self]
  | stamped source path content uri secret hsilent hs hpath hf huri hsecret =>
    obtain rfl := isPackedBelow_iff.1 hpath
    rw [choose_of_isSilent hsilent]
    simp only [Inquiry.asked, Inquiry.run, hs, hf, isNormal_iff.1 huri, isSecret_iff.1 hsecret,
      and_self]

theorem isChosen_iff {questions : List Question} {result : Result BuildPlan} :
    IsChosen files c r R questions result ↔
      (choose files c r).asked R r.artifact = questions ∧
        ((choose files c r).run R r.artifact).1 = result := by
  constructor
  · exact IsChosen.eq_choose
  · rintro ⟨rfl, rfl⟩
    exact isChosen_choose files c r R

/-- An image and a source that is given need no question. -/
theorem exists_choose_eq_done (files : Files) (c : Config) (h : ¬ IsSilent r) :
    ∃ result, choose files c r = .done result := by
  by_cases hi : ∃ reference, r.artifact = .image reference
  · obtain ⟨reference, hi⟩ := hi
    exact ⟨_, choose_of_image hi⟩
  · have hi' := not_exists.1 hi
    obtain ⟨uri, hg⟩ := not_forall_not.1 fun hn => h ⟨hi', hn⟩
    exact ⟨_, choose_of_given hi' hg⟩

/-- Where the artifact is asked, a git source is the one that is stamped into it. -/
theorem isNormal_of_choose {source : SourceControl} {uri branch contextDir : String}
    {secret : Option String} (hsilent : IsSilent r)
    (hs : R.sourceControl r.artifact = .ok (some source))
    (h : ((choose files c r).run R r.artifact).1 = .ok (git uri branch contextDir secret)) :
    IsNormal source.uri uri := by
  have hchosen := isChosen_choose files c r R
  rw [h] at hchosen
  generalize (choose files c r).asked R r.artifact = questions at hchosen
  cases hchosen with
  | given uri branch contextDir secret hi hg => exact absurd hg (hsilent.2 uri)
  | unstamped result _ _ hu => nomatch hu
  | unpacked source path result _ _ _ _ hu => nomatch hu
  | stamped source' path content uri secret _ hs' _ _ huri =>
    rw [hs] at hs'
    cases hs'
    exact huri

/-- Two resolvers that tell of the same source but for what stands before an `@`. -/
theorem choose_congr_user {user user' rest : String} {tag : Option String}
    (hs : R.sourceControl r.artifact = .ok (some ⟨user ++ "@" ++ rest, tag⟩))
    (hs' : R'.sourceControl r.artifact = .ok (some ⟨user' ++ "@" ++ rest, tag⟩))
    (hf : R.file r.artifact = R'.file r.artifact) :
    (choose files c r).run R r.artifact = (choose files c r).run R' r.artifact := by
  by_cases hsilent : IsSilent r
  · rw [choose_of_isSilent hsilent]
    simp only [Inquiry.run, hs, hs', hf, normalizeGitUri_append user user' rest]
    rcases R'.file r.artifact (packedDockerfile c) with e | _ | content <;> rfl
  · obtain ⟨result, h⟩ := exists_choose_eq_done files c hsilent
    rw [h]
    rfl

/-- The choice is by the rules, with as many questions as the rule that decides takes. An image and
    a given source are decided alike for any two resolvers, which are asked nothing. A stamped
    source whose uri holds an `@` is built from one that holds one, and two that differ in what
    stands before an `@` are built alike. -/
theorem choose_follows_rules (files : Files) (c : Config) (r : Request) :
    (∀ R questions result, IsChosen files c r R questions result ↔
      (choose files c r).asked R r.artifact = questions ∧
        (choose files c r).run R r.artifact = (result, questions.length)) ∧
    (∀ R R', ((∃ reference, r.artifact = .image reference) ∨ ∃ uri, r.Says Keys.gitUri uri) →
      (choose files c r).asked R r.artifact = [] ∧
        (choose files c r).run R r.artifact = (choose files c r).run R' r.artifact) ∧
    (∀ R source uri branch contextDir secret, IsSilent r →
      R.sourceControl r.artifact = .ok (some source) → '@' ∈ source.uri.toList →
      ((choose files c r).run R r.artifact).1 = .ok (git uri branch contextDir secret) →
      uri.toList.count '@' = 1) ∧
    ∀ R R' user user' rest tag,
      R.sourceControl r.artifact = .ok (some ⟨user ++ "@" ++ rest, tag⟩) →
      R'.sourceControl r.artifact = .ok (some ⟨user' ++ "@" ++ rest, tag⟩) →
      R.file r.artifact = R'.file r.artifact →
      (choose files c r).run R r.artifact = (choose files c r).run R' r.artifact := by
  refine ⟨fun R questions result => ?_, fun R R' hsettled => ?_, ?_, fun R R' user user' rest tag =>
    choose_congr_user⟩
  · rw [isChosen_iff, Prod.ext_iff, Inquiry.run_snd]
    refine and_congr_right fun hasked => ?_
    rw [hasked, and_iff_left rfl]
  · have hn : ¬ IsSilent r := fun hsilent =>
      hsettled.elim (fun ⟨_, hi⟩ => hsilent.1 _ hi) fun ⟨_, hg⟩ => hsilent.2 _ hg
    obtain ⟨result, h⟩ := exists_choose_eq_done files c hn
    rw [h]
    exact ⟨rfl, rfl⟩
  · intro R source uri branch contextDir secret hsilent hs hat hrun
    exact (isNormal_of_choose hsilent hs hrun).count_at hat

/-- An artifact with a Dockerfile that was built from a source whose uri names a user. -/
def stampedBy (user : String) : Resolver :=
  .constant [] (some ⟨user ++ "@" ++ "example.org/a.git", none⟩)
    (Dict.ofList [("src/main/docker/Dockerfile", [])])

/-- A request that asks for a Dockerfile and gives a secret. -/
def secretive : Request where
  name := "ticker"
  artifact := .file "ticker.jar"
  properties := Dict.ofList [(Keys.dockerfile, "FROM scratch"), (Keys.gitSecret, " key ")]

/-- The stamped source comes before the Dockerfile, and its password is left out. -/
theorem choose_follows_rules_secretive :
    (choose (.ofReadings []) {} secretive).run (stampedBy "https://me:word") secretive.artifact =
        (.ok (git "ssh://git@example.org/a.git" "master" "src/main/docker" (some "key")), 2) ∧
      "ssh://git@example.org/a.git".toList.count '@' = 1 ∧
      (choose (.ofReadings []) {} secretive).run (stampedBy "https://me:word") secretive.artifact =
        (choose (.ofReadings []) {} secretive).run (stampedBy "git") secretive.artifact := by
  obtain ⟨hrules, -, hcount, huser⟩ := choose_follows_rules (.ofReadings []) {} secretive
  have hsilent : IsSilent secretive :=
    ⟨fun _ => ArtifactRef.noConfusion, Request.nonEmptyProperty_eq_none.1 (by decide +kernel)⟩
  have hpath : IsPackedBelow "src/main/docker" "src/main/docker/Dockerfile" :=
    ⟨"src/main/docker".toList, 0, by decide +kernel, by decide +kernel, by decide +kernel⟩
  have hnormal : IsNormal ("https://me:word" ++ "@" ++ "example.org/a.git")
      ("ssh://git@" ++ "example.org/a.git") := .user _ _ (by decide +kernel)
  have hsecret : IsSecret {} secretive (some "key") :=
    .requested "key" (Request.nonEmptyProperty_eq_some.1 (by decide +kernel))
  have hchosen : IsChosen (.ofReadings []) {} secretive (stampedBy "https://me:word") _ _ :=
    .stamped _ _ [] _ _ hsilent rfl hpath (by decide +kernel) hnormal hsecret
  have hrun := ((hrules _ _ _).1 hchosen).2
  refine ⟨hrun, hcount _ _ _ _ _ _ hsilent rfl (by decide +kernel) (congrArg Prod.fst hrun), ?_⟩
  exact huser _ _ _ _ _ _ rfl rfl rfl

end BuildPlan

end Slipway
