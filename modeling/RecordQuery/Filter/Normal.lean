import RecordQuery.Failure
import RecordQuery.Operator

/-!
Filters in normal form.

A filter names fields with their conditions and combinators with their operands. `normalize` writes
the short form of equality in full: `a: 1` becomes `a: $eq: 1`, also where the value is a mapping
whose keys are not all operators.
-/

namespace RecordQuery.Filter

def isConditions : Value → Bool
  | .mapping entries => !entries.isEmpty && entries.all fun entry => isOperator entry.1
  | _ => false

def conditions (value : Value) : Value :=
  if isConditions value then value
  else .mapping [(.text FieldOperator.equals.key, value)]

/-- The value of a key that is no combinator: operators keep their argument. -/
def fieldValue (key value : Value) : Value :=
  if isOperator key then value else conditions value

mutual

def normalize : Value → Except Failure Entries
  | .mapping entries => normalizeEntries entries
  | _ => .error (.query .filterNotObject)

def normalizeEntries : List (Value × Value) → Except Failure Entries
  | [] => .ok []
  | (key, value) :: rest =>
      match normalizeValue key value with
      | .error failure => .error failure
      | .ok normal => (normalizeEntries rest).map ((key, normal) :: ·)

/-- The value of one key in full: operands of a combinator are filters themselves. -/
def normalizeValue (key : Value) : Value → Except Failure Value
  | .list items =>
      if (Combinator.ofValue? key).isSome then (normalizeItems items).map .list
      else .ok (fieldValue key (.list items))
  | .tuple items =>
      if (Combinator.ofValue? key).isSome then (normalizeItems items).map .list
      else .ok (fieldValue key (.tuple items))
  | value =>
      match Combinator.ofValue? key with
      | some combinator => .error (.query (.notFilterArray combinator.key))
      | none => .ok (fieldValue key value)

def normalizeItems : List Value → Except Failure (List Value)
  | [] => .ok []
  | item :: rest =>
      match normalize item with
      | .error failure => .error failure
      | .ok normal => (normalizeItems rest).map (.mapping normal :: ·)

end

end RecordQuery.Filter
