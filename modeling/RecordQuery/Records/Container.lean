import RecordQuery.Records.Page
import RecordQuery.Records.Projection
import RecordQuery.Records.Sorting

/-!
Sorting, projection and pages of any container of records.

Records come in a list as a rule. A loop also takes the items of a tuple or set, the characters of a
text and the keys of a mapping; positions count in lists, tuples and texts only. An operation gives
back a new value or the container itself.
-/

namespace RecordQuery.Records

structure Returned where
  value : Value
  isContainer : Bool
  container : Value

namespace Container

def rebuilt (container : Value) (items : List Value) : Value :=
  match container with
  | .tuple _ => .tuple items
  | _ => .list items

def kept (container : Value) : Returned := ⟨container, true, container⟩

/-- The records in order; a sort that counts as empty keeps the container. What is no mapping of
paths fails at the first comparison. -/
def sorted (container sort : Value) : Except Failure Returned :=
  if !sort.isTruthy then .ok (kept container)
  else
    match Argument.members? container, sort.entries? with
    | none, _ => .error .mismatch
    | some records, some order =>
        (sortRecords order records).map fun sorted => ⟨.list sorted, false, container⟩
    | some records, none =>
        if records.length < 2 then .ok ⟨.list records, false, container⟩ else .error .noMember

/-- The container with its records cut down to fields; fields that count as empty keep them whole.
Keys and characters are never changed. -/
def projected (container fields : Value) : Except Failure Returned :=
  if !fields.isTruthy then .ok (kept container)
  else
    match Argument.members? fields, Argument.members? container with
    | none, _ => .error .mismatch
    | some keep, records? =>
        if !keep.all Value.isKey then .error .mismatch
        else
          match records? with
          | none => .error .mismatch
          | some records =>
              let changed := project keep records
              match changed.failure?, container.items? with
              | some failure, _ => .error failure
              | none, some _ => .ok (kept (rebuilt container changed.result))
              | none, none => .ok (kept container)

def bound : Value → Except Failure Int
  | .int value => .ok value
  | .bool value => .ok (if value then 1 else 0)
  | _ => .error .mismatch

/-- The bounds of a page; a limit that counts as empty is none, and then nothing to skip is zero. -/
def bounds (skip limit : Value) : Except Failure (Int × Option Int) :=
  match skip, limit.isTruthy with
  | .null, false => .ok (0, none)
  | _, false => (bound skip).map fun start => (start, none)
  | _, true =>
      match bound skip, bound limit with
      | .ok start, .ok count => .ok (start, some count)
      | _, _ => .error .mismatch

def page (container skip limit : Value) : Except Failure Returned :=
  match bounds skip limit with
  | .error failure => .error failure
  | .ok (start, count?) =>
      match container with
      | .list items => .ok ⟨.list (paginate items start count?), false, container⟩
      | .tuple items =>
          let found := paginate items start count?
          .ok ⟨.tuple found, found.length == items.length, container⟩
      | .text text =>
          let found := paginate text.toList start count?
          .ok ⟨.text (String.ofList found), found.length == text.length, container⟩
      | _ => .error .mismatch

end Container

end RecordQuery.Records
