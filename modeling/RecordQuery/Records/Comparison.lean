import RecordQuery.Json.Encode
import RecordQuery.Number.Numeral

/-!
The order of record values and of records.

`compareValues` ranks values by kind and orders each kind by its own order; values of one kind
without an order are compared by their JSON text. `compareRecords` goes through sort fields in
turn: a record that lacks a field comes after one that has it, whatever the direction.
-/

namespace RecordQuery.Records

def isIndex (part : String) : Bool := !part.isEmpty && part.toList.all Text.isDigit

/-- One step of a look-up: a key of a mapping, or a position in a list. -/
def stepInto (current : Value) (part : String) : Except Failure (Option Value) :=
  match current with
  | .mapping entries => .ok (Entries.get? entries part)
  | .list items | .tuple items =>
      if isIndex part then
        match Numeral.integer? part.toList with
        | some index => .ok items[index.toNat]?
        | none => .error .invalidValue
      else .ok none
  | _ => .ok none

def lookupParts (current : Value) : List String → Except Failure (Option Value)
  | [] => .ok (some current)
  | part :: rest =>
      match stepInto current part with
      | .error failure => .error failure
      | .ok none => .ok none
      | .ok (some next) => lookupParts next rest

def lookup (record : Value) (path : String) : Except Failure (Option Value) :=
  lookupParts record (Text.pathParts path)

/-- The rank of a value's kind: null, numbers, texts, mappings, sequences, truth values, times. -/
def rank : Value → Nat
  | .null => 0
  | .int _ | .float _ => 1
  | .text _ => 2
  | .mapping _ => 3
  | .list _ | .tuple _ => 4
  | .bool _ => 5
  | .date _ | .datetime _ => 6
  | .set _ | .pattern _ _ => 7

def compareTexts (left right : List Char) : Int :=
  let first := String.ofList left
  let second := String.ofList right
  if first < second then -1 else if second < first then 1 else 0

def compareEncoded (left right : Value) : Except Failure Int :=
  match Json.encode Json.Layout.sorted left, Json.encode Json.Layout.sorted right with
  | .ok first, .ok second => .ok (compareTexts first second)
  | .error failure, _ => .error failure
  | _, .error failure => .error failure

def compareValues (left right : Value) : Except Failure Int :=
  if rank left ≠ rank right then .ok (if rank left < rank right then -1 else 1)
  else if left.equal right then .ok 0
  else
    match left.less? right with
    | some below => .ok (if below then -1 else 1)
    | none => compareEncoded left right

/-- A comparison on one path, apart from its direction. A missing value comes last, which direction
does not change. -/
inductive Verdict where
  | tied
  | fixed (sign : Int)
  | directed (sign : Int)
deriving DecidableEq

def comparePath (left right : Value) (path : String) : Except Failure Verdict :=
  match lookup left path, lookup right path with
  | .error failure, _ => .error failure
  | _, .error failure => .error failure
  | .ok none, .ok none => .ok .tied
  | .ok (some _), .ok none => .ok (.fixed (-1))
  | .ok none, .ok (some _) => .ok (.fixed 1)
  | .ok (some first), .ok (some second) =>
      (compareValues first second).map fun sign => if sign = 0 then .tied else .directed sign

def repeated {α : Type} (sign : Int) (members : List α) : List α :=
  if sign < 0 then [] else members

def directed (sign : Int) : Value → Except Failure Value
  | .int factor => .ok (.int (sign * factor))
  | .bool factor => .ok (.int (if factor then sign else 0))
  | .float factor => .ok (.float (if sign < 0 then factor.negate else factor))
  | .text factor => .ok (.text (String.ofList (repeated sign factor.toList)))
  | .list factor => .ok (.list (repeated sign factor))
  | .tuple factor => .ok (.tuple (repeated sign factor))
  | _ => .error .mismatch

/-- What orders two records by paths, each with the factor of its direction: a negative value if the
left one comes first. -/
def compareRecords (left right : Value) : Entries → Except Failure Value
  | [] => .ok (.int 0)
  | (.text path, factor) :: rest =>
      match comparePath left right path with
      | .error failure => .error failure
      | .ok .tied => compareRecords left right rest
      | .ok (.fixed sign) => .ok (.int sign)
      | .ok (.directed sign) => directed sign factor
  | _ :: _ => .error .noMember

end RecordQuery.Records
