import RecordQuery.Argument
import RecordQuery.Pattern.Reader
import RecordQuery.Query.Tree

/-!
Operations that put a condition on a field.

`FieldOperation.edits` checks the arguments of an operation and says what it writes into the field's
mapping of operators; `Slots.applyEdits` writes it. All checks come before the first edit. What an
operation writes belongs to this one place: a live node or a record that others hold is no value.
-/

namespace RecordQuery

/-- The options of a pattern. A part that is null leaves the choice to the pattern's own modes. -/
structure PatternOptions where
  ignoreCase : Value
  multiline : Value
  extended : Value
  dotMatchesAll : Value

namespace PatternOptions

def inherited : PatternOptions := ⟨.null, .null, .null, .null⟩

def names : List String := ["ignore_case", "multiline", "extended", "dot_matches_all"]

/-- The keys of a mapping that name no option. -/
def unknown (entries : Entries) : List Value :=
  (entries.map Prod.fst).filter fun key => !(names.any fun name => key.equal (.text name))

/-- Options from a mapping; missing ones are null and unknown keys are ignored. -/
def ofEntries (entries : Entries) : PatternOptions where
  ignoreCase := (entries.get? "ignore_case").getD .null
  multiline := (entries.get? "multiline").getD .null
  extended := (entries.get? "extended").getD .null
  dotMatchesAll := (entries.get? "dot_matches_all").getD .null

/-- Options from a mapping without unknown keys. -/
def ofEntries? (entries : Entries) : Option PatternOptions :=
  if (unknown entries).isEmpty then some (ofEntries entries) else none

def ascending (texts : List String) : List String :=
  texts.mergeSort fun left right => decide (left ≤ right)

def ofValue : Value → Except Failure PatternOptions
  | .null => .ok inherited
  | .mapping entries =>
      match unknown entries with
      | [] => .ok (ofEntries entries)
      | keys =>
          match Argument.texts? keys with
          | some names => .error (.query (.unknownPatternOptions (ascending names)))
          | none => .error .mismatch
  | _ => .error (.query .patternOptionsNotObject)

def toEntries (options : PatternOptions) : Entries :=
  [(.text "ignore_case", options.ignoreCase), (.text "multiline", options.multiline),
    (.text "extended", options.extended), (.text "dot_matches_all", options.dotMatchesAll)]

end PatternOptions

/-- The options argument of a pattern operation: a value, or options that were made before. -/
inductive OptionsArgument where
  | value (value : Value)
  | made (options : PatternOptions)

namespace OptionsArgument

def resolve : OptionsArgument → Except Failure PatternOptions
  | .value given => PatternOptions.ofValue given
  | .made options => .ok options

end OptionsArgument

/-- An operation on the conditions of a field. Unless they are told otherwise, a field has to exist,
a remainder is zero, a pattern keeps its own modes, and a distance has no bound. -/
inductive FieldOperation where
  | condition (operator argument : Value)
  | equalTo (value : Value)
  | notEqualTo (value : Value)
  | contains (values : Value)
  | notContainedIn (values : Value)
  | containsAll (values : Value)
  | greaterThan (value : Value)
  | greaterThanOrEqualTo (value : Value)
  | lessThan (value : Value)
  | lessThanOrEqualTo (value : Value)
  | exists (flag : Value := .bool true)
  | mod (divisor : Value) (remainder : Value := .int 0)
  | matches (pattern : Value) (options : OptionsArgument := .value .null)
  | near (coordinate : Value) (maxDistance : Value := .null)
  | withinBox (bottomLeft upperRight : Value)
  | withinPolygon (coordinates : Value)
  | size (size : Value)

inductive Edit where
  | write (operator argument : Value)
  | clear (operator : FieldOperator)

namespace Edit

def put (operator : FieldOperator) (argument : Value) : Edit := .write (.text operator.key) argument

end Edit

namespace FieldOperation

/-- A number or text, as order conditions take it. -/
def comparable (value : Value) : Except Failure Value :=
  if value.isNumber || value.text?.isSome then .ok value else .error (.query .notComparable)

def putChecked (operator : FieldOperator) (checked : Except Failure Value) :
    Except Failure (List Edit) :=
  checked.map fun argument => [.put operator argument]

def modEdits (divisor remainder : Value) : Except Failure (List Edit) := do
  let divisor ← Argument.number divisor "divisor"
  if divisor.equal (.int 0) then throw (.query .zeroDivisor)
  let remainder ← Argument.number remainder "remainder"
  return [.put .mod (.list [divisor, remainder])]

def patternOf : Value → Except Failure (String × Pattern.Flags)
  | .pattern source flags => .ok (source, flags)
  | .text source =>
      match Pattern.compile source .none with
      | .ok compiled => .ok (source, compiled.flags)
      | .error (.malformed reason) => .error (.query (.invalidPattern reason))
      | .error fault => .error (.pattern fault)
  | _ => .error (.query .notPattern)

def isOn (own : Bool) (option : Value) : Bool :=
  (own || option.isTruthy) && !(match option with
    | .bool false => true
    | _ => false)

def optionLetters (flags : Pattern.Flags) (options : PatternOptions) : String :=
  String.ofList
    ((if isOn flags.multiline options.multiline then ['m'] else []) ++
      (if isOn flags.extended options.extended then ['x'] else []) ++
      (if isOn flags.dotAll options.dotMatchesAll then ['s'] else []))

/-- The pattern and its modes; modes of an earlier pattern are removed. -/
def matchesEdits (pattern : Value) (argument : OptionsArgument) : Except Failure (List Edit) := do
  let options ← argument.resolve
  let (source, flags) ← patternOf pattern
  if isOn flags.ignoreCase options.ignoreCase then throw (.query .ignoresCase)
  if source.toList.head? != some '^' then throw (.query .notAnchored)
  let letters := optionLetters flags options
  return [.put .regex (.text source),
    if letters.isEmpty then .clear .regexOptions else .put .regexOptions (.text letters)]

def nearEdits (coordinate maxDistance : Value) : Except Failure (List Edit) := do
  let (x, y) ← match coordinate.items? with
    | some (x :: y :: _) =>
        if x.isNumber && y.isNumber then .ok (x, y)
        else .error (.query (.notCoordinate "coord"))
    | _ => .error (.query (.notCoordinate "coord"))
  let distance ← match maxDistance with
    | .null => .ok .null
    | value => Argument.number value "max_distance"
  return .put .nearSphere (.list [x, y]) ::
    if distance.isTruthy then [.put .maxDistance distance] else []

def shape (operator : FieldOperator) (corners : List (Binary64 × Binary64)) : Value :=
  .mapping [(.text operator.key, .list (corners.map Argument.coordinateValue))]

def boxEdits (bottomLeft upperRight : Value) : Except Failure (List Edit) := do
  let low ← Argument.coordinate bottomLeft "bottom_left_coord"
  let high ← Argument.coordinate upperRight "upper_right_coord"
  return [.put .within (shape .box [low, high])]

def polygonEdits (limit : Int) (coordinates : Value) : Except Failure (List Edit) := do
  let points ← match coordinates.items? with
    | some points =>
        if limit < points.length then .error (.query (.tooManyPoints limit)) else .ok points
    | none => .error (.query (.tooManyPoints limit))
  let corners ← points.mapM fun point => Argument.coordinate point "coords"
  return [.put .within (shape .polygon corners)]

def usesPointLimit : FieldOperation → Bool
  | .withinPolygon _ => true
  | _ => false

def edits (limit : Int) : FieldOperation → Except Failure (List Edit)
  | .condition operator argument => .ok [.write operator argument]
  | .equalTo value => .ok [.put .equals value]
  | .notEqualTo value => .ok [.put .notEquals value]
  | .contains values => .ok [.put .isIn (.list (Argument.choices values))]
  | .notContainedIn values => .ok [.put .notIn (.list (Argument.choices values))]
  | .containsAll values => .ok [.put .all (.list (Argument.choices values))]
  | .greaterThan value => putChecked .greaterThan (comparable value)
  | .greaterThanOrEqualTo value => putChecked .greaterOrEqual (comparable value)
  | .lessThan value => putChecked .lessThan (comparable value)
  | .lessThanOrEqualTo value => putChecked .lessOrEqual (comparable value)
  | .exists flag => .ok [.put .exists (.bool flag.isTruthy)]
  | .mod divisor remainder => modEdits divisor remainder
  | .matches pattern options => matchesEdits pattern options
  | .near coordinate maxDistance => nearEdits coordinate maxDistance
  | .withinBox bottomLeft upperRight => boxEdits bottomLeft upperRight
  | .withinPolygon coordinates => polygonEdits limit coordinates
  | .size given => (Argument.whole given "size").map fun count => [.put .size (.int count)]

def fieldName (field : Value) : Except Failure String :=
  match field with
  | .text name => if name.isEmpty then .error (.query .emptyField) else .ok name
  | _ => .error (.query .emptyField)

end FieldOperation

namespace Slots

/-- Makes one edit under a field. An operator that cannot be a key leaves the mapping as it is. -/
def applyEdit (slots : Slots) (field : String) : Edit → Slots × Option Failure
  | .write operator argument =>
      let conditions := slots.conditions field
      if operator.isKey then
        (slots.set field (.mapping (conditions.insert operator argument)), none)
      else (slots.set field (.mapping conditions), some .mismatch)
  | .clear operator =>
      (slots.set field (.mapping ((slots.conditions field).erase operator.key)), none)

def applyEdits (slots : Slots) (field : String) : List Edit → Slots × Option Failure
  | [] => (slots, none)
  | edit :: rest =>
      match slots.applyEdit field edit with
      | (changed, none) => changed.applyEdits field rest
      | (changed, some failure) => (changed, some failure)

end Slots

end RecordQuery
