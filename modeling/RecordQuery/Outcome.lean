import RecordQuery.Failure

/-!
Tests that can fail, and their short-circuit combinations.

The tests of a list are run from left to right up to the first one that decides or fails.
-/

namespace RecordQuery

/-- The result of a test. -/
abbrev Outcome := Except Failure Bool

namespace Outcome

/-- The opposite result. -/
def negate (outcome : Outcome) : Outcome := outcome.map not

def all : List (Unit → Outcome) → Outcome
  | [] => .ok true
  | test :: rest =>
      match test () with
      | .ok true => all rest
      | decided => decided

def any : List (Unit → Outcome) → Outcome
  | [] => .ok false
  | test :: rest =>
      match test () with
      | .ok false => any rest
      | decided => decided

end Outcome

end RecordQuery
