import RecordQuery.Failure
import RecordQuery.Operator

/-!
The operators that occur in a filter.

An operator occurs in the conditions on a field. Operands of combinators are searched only on
demand.
-/

namespace RecordQuery.Filter

mutual

/-- Whether an operator occurs in a filter; `deep` searches operands too. -/
def occursIn (deep : Bool) (operator : Value) : List (Value × Value) → Bool
  | [] => false
  | (key, value) :: rest =>
      occursUnder deep operator (Combinator.ofValue? key).isSome value ||
        occursIn deep operator rest

/-- Whether an operator occurs in the value of a combinator or of another key. -/
def occursUnder (deep : Bool) (operator : Value) (combined : Bool) : Value → Bool
  | .list items => combined && deep && occursInItems deep operator items
  | .tuple items => combined && deep && occursInItems deep operator items
  | .mapping entries => !combined && (Entries.valueOf? entries operator).isSome
  | _ => false

def occursInItems (deep : Bool) (operator : Value) : List Value → Bool
  | [] => false
  | .mapping entries :: rest =>
      occursIn deep operator entries || occursInItems deep operator rest
  | _ :: rest => occursInItems deep operator rest

end

def occurring (deep : Bool) (operators : List Value) (filter : Entries) :
    Except Failure (List Value) :=
  if operators.all Value.isKey then
    .ok (operators.filter fun operator => occursIn deep operator filter)
  else .error .mismatch

end RecordQuery.Filter
