import RecordQuery.Value.Equality

/-!
The names of the query language: combinators over filters, operators on fields, and directions.
-/

namespace RecordQuery

/-- The boolean combinators. A filter lists the operands under the combinator's key. -/
inductive Combinator where
  | and
  | nor
  | or
deriving DecidableEq

namespace Combinator

def key : Combinator → String
  | .and => "$and"
  | .nor => "$nor"
  | .or => "$or"

def all : List Combinator := [.and, .nor, .or]

def ofKey? (key : String) : Option Combinator :=
  all.find? fun combinator => combinator.key == key

def ofValue? (key : Value) : Option Combinator := key.text?.bind ofKey?

@[simp]
theorem ofValue?_key (combinator : Combinator) :
    ofValue? (.text combinator.key) = some combinator := by
  cases combinator <;> rfl

end Combinator

/-- The operators that conditions on a field are written with. -/
inductive FieldOperator where
  | equals
  | notEquals
  | isIn
  | notIn
  | all
  | greaterThan
  | greaterOrEqual
  | lessThan
  | lessOrEqual
  | exists
  | mod
  | regex
  | regexOptions
  | size
  | nearSphere
  | maxDistance
  | within
  | box
  | polygon
deriving DecidableEq

namespace FieldOperator

def key : FieldOperator → String
  | .equals => "$eq"
  | .notEquals => "$ne"
  | .isIn => "$in"
  | .notIn => "$nin"
  | .all => "$all"
  | .greaterThan => "$gt"
  | .greaterOrEqual => "$gte"
  | .lessThan => "$lt"
  | .lessOrEqual => "$lte"
  | .exists => "$exists"
  | .mod => "$mod"
  | .regex => "$regex"
  | .regexOptions => "$options"
  | .size => "$size"
  | .nearSphere => "$nearSphere"
  | .maxDistance => "$maxDistance"
  | .within => "$within"
  | .box => "$box"
  | .polygon => "$polygon"

end FieldOperator

/-- Operator keys start with a dollar sign; all other text keys are field names. -/
def isOperatorText (key : String) : Bool := key.toList.head? == some '$'

def isOperator (key : Value) : Bool := (key.text?.map isOperatorText).getD false

/-- The direction of a sort field. -/
inductive Direction where
  | ascending
  | descending
deriving DecidableEq

namespace Direction

def toInt : Direction → Int
  | .ascending => 1
  | .descending => -1

def ofValue? (value : Value) : Option Direction :=
  if value.isNumber then
    if value.equal (.int 1) then some .ascending
    else if value.equal (.int (-1)) then some .descending
    else none
  else none

end Direction

end RecordQuery
