import RecordQuery.Matching.Reached
import RecordQuery.Outcome

/-!
Conditions on the type of a value.

Types are named or numbered. Several names stand for one class of values, and a value may be of
several classes.
-/

namespace RecordQuery.Matching

/-- The kinds of values that a type condition names. -/
inductive TypeClass where
  | real
  | text
  | mapping
  | sequence
  | nothing
  | truth
  | null
  | pattern
  | whole
  | numeric

namespace TypeClass

/-- The type names and numbers, in the order of their definition. -/
def table : List (Option Int × String × TypeClass) :=
  [(some 1, "double", .real), (some 2, "string", .text), (some 3, "object", .mapping),
    (some 4, "array", .sequence), (some 5, "binData", .nothing), (some 7, "objectId", .text),
    (some 8, "bool", .truth), (some 9, "date", .text), (some 10, "null", .null),
    (some 11, "regex", .pattern), (some 13, "javascript", .text),
    (some 15, "javascriptWithScope", .text), (some 16, "int", .whole),
    (some 17, "timestamp", .whole), (some 18, "long", .whole), (none, "number", .numeric)]

def ofValue? (type : Value) : Option TypeClass :=
  (table.find? fun (number?, name, _) =>
    type.equal (.text name) || (number?.map fun number => type.equal (.int number)).getD false).map
      fun entry => entry.2.2

def holds : TypeClass → Reached → Bool
  | .sequence, .fan _ => true
  | .real, .value (.float _) => true
  | .text, .value (.text _) => true
  | .mapping, .value (.mapping _) => true
  | .sequence, .value (.list _) => true
  | .sequence, .value (.tuple _) => true
  | .sequence, .value (.text _) => true
  | .truth, .value (.bool _) => true
  | .null, .value .null => true
  | .pattern, .value (.pattern _ _) => true
  | .whole, .value (.int _) => true
  | .whole, .value (.bool _) => true
  | .numeric, .value found => found.isNumeric
  | _, _ => false

end TypeClass

def isOfType (type : Value) (entry : Reached) : Outcome :=
  if !type.isKey then .error .mismatch
  else
    match TypeClass.ofValue? type with
    | some name => .ok (name.holds entry)
    | none => .error (.untestable (.unknownType type))

end RecordQuery.Matching
