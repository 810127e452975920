import Slipway.Failure

/-
  How a failure is reported: what could not be done, then the causes below it, numbered if there
  are several.
-/

namespace Slipway

structure Report where
  /-- What could not be done; without it the failure speaks for itself. -/
  context : Option String
  failure : Failure
  deriving DecidableEq, Repr

namespace Report

def chain (r : Report) : List String := r.context.toList ++ r.failure.chain

/-- A text whose lines after the first keep a margin. -/
def hanging (margin s : String) : String :=
  String.intercalate ("\n" ++ margin) (Text.split '\n' s)

/-- The number of a cause, to the right of a margin five wide. -/
def number (n : Nat) : String :=
  let digits := Text.decimal n
  String.ofList (List.replicate (5 - digits.length) ' ') ++ digits ++ ": "

def numbered : Nat → List String → List String
  | _, [] => []
  | n, cause :: causes => (number n ++ hanging "       " cause) :: numbered (n + 1) causes

def causes : List String → List String
  | [] => []
  | [cause] => ["", "Caused by:", "    " ++ hanging "    " cause]
  | several => "" :: "Caused by:" :: numbered 0 several

/-- The text of a report, without an end of line after it. -/
def text (r : Report) : String :=
  match r.chain with
  | [] => "Error: "
  | top :: below => String.intercalate "\n" (("Error: " ++ top) :: causes below)

end Report

end Slipway
