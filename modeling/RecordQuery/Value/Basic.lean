import RecordQuery.Calendar
import RecordQuery.Pattern.Flags

/-!
Record values: what fields of records, filters and settings hold.

A mapping keeps its entries in the order in which their keys were first written. Keys are values;
two keys are one if they are equal as values, so `1`, `1.0` and `true` name one entry. A value is
contents, as read from a text: it shares no part with another value, a record or a query.
-/

namespace RecordQuery

/-- A value of a record, a filter or a setting. -/
inductive Value where
  | null
  | bool (value : Bool)
  | int (value : Int)
  | float (value : Binary64)
  | text (value : String)
  | list (items : List Value)
  | tuple (items : List Value)
  | set (items : List Value)
  | mapping (entries : List (Value × Value))
  | date (value : Date)
  | datetime (value : DateTime)
  | pattern (source : String) (flags : Pattern.Flags)

abbrev Entries := List (Value × Value)

namespace Value

instance : Inhabited Value := ⟨.null⟩

def text? : Value → Option String
  | .text value => some value
  | _ => none

def items? : Value → Option (List Value)
  | .list items => some items
  | .tuple items => some items
  | _ => none

def entries? : Value → Option Entries
  | .mapping entries => some entries
  | _ => none

/-- The point of the extended line that a number or truth value denotes. A truth value counts as
zero or one; not-a-number denotes none. -/
def point? : Value → Option Extended
  | .bool value => some (.rational (if value then 1 else 0))
  | .int value => some (.rational (value : Rat))
  | .float value => value.extended?
  | _ => none

def isNumeric : Value → Bool
  | .bool _ | .int _ | .float _ => true
  | _ => false

def isNumber : Value → Bool
  | .int _ | .float _ => true
  | _ => false

/-- Whether a condition on the value counts as met: not null, zero, false or empty. -/
def isTruthy : Value → Bool
  | .null => false
  | .bool value => value
  | .int value => value != 0
  | .float value => !value.isZero
  | .text value => !value.isEmpty
  | .list items | .tuple items | .set items => !items.isEmpty
  | .mapping entries => !entries.isEmpty
  | .date _ | .datetime _ | .pattern _ _ => true

/-- Values that change in place cannot be keys or members of a set. -/
def isKey : Value → Bool
  | .list _ | .set _ | .mapping _ => false
  | .tuple items => areKeys items
  | _ => true
where
  areKeys : List Value → Bool
    | [] => true
    | item :: rest => isKey item && areKeys rest

end Value

end RecordQuery
