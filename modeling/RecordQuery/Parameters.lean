import RecordQuery.Argument
import RecordQuery.Json.Encode

/-!
Queries as parameters of a request.

Empty parts of the query are left out. The filter and the sort are written as compact JSON text and
the fields are joined by commas; text stands for itself.
-/

namespace RecordQuery.Parameters

def encodeValue : Value → Except Failure String
  | .text text => .ok text
  | value => (Json.encode Json.Layout.compact value).map String.ofList

/-- A part of a query, unless it is missing or empty. -/
def present? (query : Entries) (key : String) : Option Value :=
  (query.get? key).filter Value.isTruthy

def joinFields (fields : Value) : Except Failure String :=
  match (Argument.members? fields).bind Argument.texts? with
  | some texts => .ok (Text.join "," texts)
  | none => .error .mismatch

/-- Whether a number is above zero. -/
def isPositive (value : Value) : Except Failure Bool :=
  match (Value.int 0).less? value with
  | some result => .ok result
  | none => .error .mismatch

/-- One parameter, if its part of the query is there. -/
def part (name : String) (value? : Option Value) : Except Failure (List (String × String)) :=
  match value? with
  | some value => (encodeValue value).map fun text => [(name, text)]
  | none => .ok []

def ofQuery (query : Entries) : Except Failure (List (String × String)) := do
  let fields? ← match present? query "fields" with
    | some fields => (joinFields fields).map fun text => some (Value.text text)
    | none => .ok none
  let skip? ← match present? query "skip" with
    | some skip => (isPositive skip).map fun positive => if positive then some skip else none
    | none => .ok none
  let filterPart ← part "query" (present? query "filter")
  let fieldsPart ← part "fields" fields?
  let limitPart ← part "limit" (present? query "limit")
  let skipPart ← part "skip" skip?
  let sortPart ← part "sort" (present? query "sort")
  return filterPart ++ fieldsPart ++ limitPart ++ skipPart ++ sortPart

def toEntries (parameters : List (String × String)) : Entries :=
  parameters.map fun entry => (.text entry.1, .text entry.2)

def text (query : Entries) : Except Failure String := do
  let parameters ← ofQuery query
  let encoded ← Json.encode Json.Layout.compact (.mapping (toEntries parameters))
  return String.ofList encoded

end RecordQuery.Parameters
