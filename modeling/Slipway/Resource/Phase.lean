/-
  The phases of a build. The platform owns them; the deployer only observes.
-/

namespace Slipway

inductive BuildPhase where
  | new
  | pending
  | running
  | complete
  | failed
  | error
  | cancelled
  deriving DecidableEq, Repr, Inhabited

namespace BuildPhase

def all : List BuildPhase := [new, pending, running, complete, failed, error, cancelled]

def name : BuildPhase → String
  | new => "New"
  | pending => "Pending"
  | running => "Running"
  | complete => "Complete"
  | failed => "Failed"
  | error => "Error"
  | cancelled => "Cancelled"

def ofName? (s : String) : Option BuildPhase := all.find? fun p => p.name == s

/-- The phases that end a build without an image. -/
def isFailure : BuildPhase → Bool
  | failed | error | cancelled => true
  | _ => false

def isTerminal (p : BuildPhase) : Bool := p = complete || p.isFailure

theorem ofName?_name (p : BuildPhase) : ofName? p.name = some p := by cases p <;> decide

end BuildPhase

end Slipway
