import RecordQuery.Failure
import RecordQuery.Operator

/-!
Filters made ready for matching.

The options of a regular expression stand beside it in a filter. `prepare` writes both into one text
`/pattern/options`, under the fields of the filter and of the operands of its combinators.
-/

namespace RecordQuery.Matching

def slashed (source options : Value) : Value :=
  .text (String.ofList ('/' :: source.plain ++ '/' :: options.plain))

def foldOptions (conditions : Entries) : Entries :=
  match conditions.get? FieldOperator.regex.key with
  | none => conditions
  | some source =>
      let rest := conditions.erase FieldOperator.regexOptions.key
      match (conditions.get? FieldOperator.regexOptions.key).filter Value.isTruthy with
      | some options => rest.set FieldOperator.regex.key (slashed source options)
      | none => rest

/-- Whether a pattern and its options, where both are there, can be written as one text. -/
def optionsShown (conditions : Entries) : Bool :=
  match conditions.get? FieldOperator.regex.key,
      (conditions.get? FieldOperator.regexOptions.key).filter Value.isTruthy with
  | some source, some options => source.isShown && options.isShown
  | _, _ => true

mutual

def prepareEntries : List (Value × Value) → Entries
  | [] => []
  | (key, value) :: rest =>
      (key, prepareValue (Combinator.ofValue? key).isSome value) :: prepareEntries rest

/-- The value of one key; under a combinator the items of a list are filters. -/
def prepareValue (combined : Bool) : Value → Value
  | .list items => if combined then .list (prepareItems items) else .list items
  | .tuple items => if combined then .list (prepareItems items) else .tuple items
  | .mapping conditions => .mapping (foldOptions conditions)
  | value => value

def prepareItems : List Value → List Value
  | [] => []
  | .mapping entries :: rest => .mapping (prepareEntries entries) :: prepareItems rest
  | item :: rest => item :: prepareItems rest

end

/-- A filter made ready for matching; only a mapping is a filter. -/
def prepare : Value → Except Failure Entries
  | .mapping entries => .ok (prepareEntries entries)
  | _ => .error .noMember

mutual

/-- Whether all patterns with options in a filter can be written as one text. -/
def areFolded : List (Value × Value) → Bool
  | [] => true
  | (key, value) :: rest => isFolded (Combinator.ofValue? key).isSome value && areFolded rest

def isFolded (combined : Bool) : Value → Bool
  | .list items => !combined || operandsFolded items
  | .tuple items => !combined || operandsFolded items
  | .mapping conditions => optionsShown conditions
  | _ => true

def operandsFolded : List Value → Bool
  | [] => true
  | .mapping entries :: rest => areFolded entries && operandsFolded rest
  | _ :: rest => operandsFolded rest

end

def build : Value → Except Failure Entries
  | .mapping entries =>
      if areFolded entries then .ok (prepareEntries entries) else .error .invalidValue
  | _ => .error .noMember

end RecordQuery.Matching
