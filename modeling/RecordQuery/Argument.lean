import RecordQuery.Failure
import RecordQuery.Number.Numeral
import RecordQuery.Value.Equality

/-!
Numeric arguments of query operations.

Numbers often arrive as text. `Argument.number` reads such text, first as a whole number and then
as a floating-point value, and refuses all that is not a finite number. The other readers narrow
its results.
-/

namespace RecordQuery.Argument

/-- The number that a text spells, with white space of any kind around it. -/
def ofText? (text : String) : Option Value :=
  let body := Text.trim Text.isBlank text.toList
  match Numeral.integer? body with
  | some value => some (.int value)
  | none => (Numeral.real? body).map .float

/-- A number as it is, if it is finite. A whole number beyond the floating-point range overflows. -/
def finite (value : Value) (name : String) : Except Failure Value :=
  match value with
  | .int whole => if (Binary64.ofInt? whole).isSome then .ok value else .error .overflow
  | .float real => if real.isFinite then .ok value else .error (.query (.notNumber name))
  | _ => .error (.query (.notNumber name))

def number (value : Value) (name : String) : Except Failure Value :=
  match value with
  | .text text =>
      match ofText? text with
      | some found => finite found name
      | none => .error (.query (.notNumber name))
  | _ => finite value name

def natural? (value : Value) : Option Nat :=
  match value.point?.bind Extended.whole? with
  | some whole => if 0 ≤ whole then some whole.toNat else none
  | none => none

def whole (value : Value) (name : String) : Except Failure Nat :=
  match number value name with
  | .error failure => .error failure
  | .ok found =>
      match natural? found with
      | some result => .ok result
      | none => .error (.query (.notWhole name))

def real (value : Value) (name : String) : Except Failure Binary64 :=
  match number value name with
  | .error failure => .error failure
  | .ok (.float found) => .ok found
  | .ok (.int found) =>
      match Binary64.ofInt? found with
      | some result => .ok result
      | none => .error .overflow
  | .ok _ => .error (.query (.notNumber name))

/-- The first two items of a coordinate as floating-point values. -/
def coordinate (value : Value) (name : String) : Except Failure (Binary64 × Binary64) :=
  match value.items? with
  | some (.null :: _) | some (_ :: .null :: _) => .error (.query (.notCoordinate name))
  | some (first :: second :: _) =>
      match real first name with
      | .error failure => .error failure
      | .ok x => (real second name).map fun y => (x, y)
  | _ => .error (.query (.notCoordinate name))

def coordinateValue (point : Binary64 × Binary64) : Value :=
  .list [.float point.1, .float point.2]

def choices : Value → List Value
  | .list items | .tuple items | .set items => items
  | value => [value]

/-- The members of a value in a loop over it: items, characters, or keys. -/
def members? : Value → Option (List Value)
  | .list items | .tuple items | .set items => some items
  | .text text => some (text.toList.map fun character => .text (String.singleton character))
  | .mapping entries => some (entries.map Prod.fst)
  | _ => none

def texts? : List Value → Option (List String)
  | [] => some []
  | .text text :: rest => (texts? rest).map (text :: ·)
  | _ :: _ => none

def allTexts (value : Value) : Except Failure Bool :=
  match members? value with
  | some members => .ok (members.all fun member => member.text?.isSome)
  | none => .error .mismatch

end RecordQuery.Argument
