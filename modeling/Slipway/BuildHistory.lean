import Slipway.Config
import Slipway.Fingerprint
import Slipway.Labels
import Slipway.Resource
import Slipway.Sorting

/-
  What the builds of an application tell: how far each has come, which came first, and whether
  one of them can be used again. Builds of equal age are ordered by number.
-/

namespace Slipway

namespace Resource

def phase (b : Build) : BuildPhase :=
  match (b.status : Option BuildStatus) with
  | some s => s.phase
  | none => .new

/-- The image that a build reports to have made. -/
def outputImage? (b : Build) : Option String :=
  match (b.status : Option BuildStatus) with
  | some s => s.outputImage.filter (· ≠ "")
  | none => none

/-- The image that a build made, or the one expected of it. -/
def builtImage (b : Build) (expected : String) : String := b.outputImage?.getD expected

def strategy (b : Build) : BuildStrategy := (b.spec : BuildRecipe).strategy

end Resource

namespace BuildHistory

/-- The annotation in which the platform numbers the builds of a configuration. -/
def numberAnnotation : String := "openshift.io/build.number"

/-- The number of a build; 0 if it has none that can be read. -/
def number (b : Build) : Nat :=
  ((b.metadata.annotationSet.get? numberAnnotation).bind
    (Text.unsigned? (UInt64.size - 1))).getD 0

/-- Nothing comes before any time. -/
def compareTimes : Option Timestamp → Option Timestamp → Ordering
  | none, none => .eq
  | none, some _ => .lt
  | some _, none => .gt
  | some a, some b => a.compare b

/-- The order of age: by time of creation, then by number. -/
def compareAge (a b : Build) : Ordering :=
  (compareTimes a.metadata.creationTimestamp b.metadata.creationTimestamp).then
    (compare (number a) (number b))

def notYounger (a b : Build) : Bool := compareAge a b != .gt

/-- Oldest first; builds of equal age keep their order. -/
def sort (builds : List Build) : List Build := sortBy notYounger builds

/-- Whether a build that did not fail was made from content with a fingerprint. -/
def carries (fp : Fingerprint) (b : Build) : Bool :=
  b.phase ≠ .failed && b.strategy.envValue Labels.fingerprintVariable == some fp.text

def isReusable (builds : List Build) (fp : Fingerprint) : Bool := builds.any (carries fp)

/-- The youngest build that can be used again. -/
def reusable? (builds : List Build) (fp : Fingerprint) : Option Build :=
  (sort (builds.filter (carries fp))).getLast?

/-- Whether to build in any case. What the request says comes before the configuration. -/
def forcesBuild (r : Request) (c : Config) : Result Bool := do
  pure ((← r.boolProperty Keys.forceBuild).getD c.forceBuild)

/-- The build that a request uses again, if any. -/
def toReuse? (r : Request) (c : Config) (builds : List Build) (fp : Fingerprint) :
    Result (Option Build) := do
  if ← forcesBuild r c then pure none else pure (reusable? builds fp)

end BuildHistory

end Slipway
