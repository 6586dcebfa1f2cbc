import RecordQuery.Filter.Operators
import RecordQuery.Parameters
import RecordQuery.Settings.Loading

/-!
Operations on queries in a session.

The changes themselves are those of `QueryStore`; here they meet the settings, which bound polygons
and name the operators that cannot be evaluated, and the log, which records every join.
-/

namespace RecordQuery.Session

def component : String := "query"

inductive Options where
  | value (value : Value)
  | snapshot (snapshot : Snapshot)

def Options.resolve : Options → Except Failure Snapshot
  | .value given => Snapshot.parse given
  | .snapshot given => .ok given

def modifyStore (revise : QueryStore → QueryStore) : Action Unit :=
  modify fun session => { session with queries := revise session.queries }

def create (options : Options) : Action Mark := do
  let snapshot ← Action.lift options.resolve
  let (store, mark) := (← get).queries.create snapshot
  modifyStore fun _ => store
  return mark

def constrain (mark : Mark) (field : Value) (operation : FieldOperation) : Action Mark := do
  let limit ←
    if operation.usesPointLimit then do
      let settings ← Settings.shared
      Action.lift settings.pointLimit
    else pure 0
  let edits ← Action.lift (operation.edits limit)
  let name ← Action.lift (FieldOperation.fieldName field)
  let (store, failure?) := (← get).queries.edit mark name edits
  modifyStore fun _ => store
  match failure? with
  | some failure => throw failure
  | none => return mark

/-- Sorts by a field, after the fields that are sorted by already. -/
def order (mark : Mark) (field : Value) (direction : Direction) : Action Mark := do
  let name ← Action.lift (FieldOperation.fieldName field)
  modifyStore fun store => store.setDirection mark name direction
  return mark

/-- Changes the state that all scopes of a query share. -/
def assign (mark : Mark) (setting : Setting) : Action Unit := do
  let store ← Action.lift ((← get).queries.assign mark setting)
  modifyStore fun _ => store

def recordJoin (mark : Mark) (combinator : Combinator) (operands : Nat) : Action Unit := do
  let inScope := (← get).queries.isScoped mark
  Log.record component .debug "criteria_joined"
    [(.text "operator", .text combinator.key), (.text "operands", .count operands),
      (.text "scoped", .bool inScope)]

/-- Joins with operands and gives the query whose node was changed. -/
def joinWith (mark : Mark) (combinator : Combinator) (operands : List Operand) : Action Mark := do
  let store := (← get).queries
  let target := store.target combinator mark
  let filters ← Action.lift (store.operandFilters operands)
  modifyStore fun store => store.join target combinator filters
  recordJoin target combinator (filters.length + 1)
  return target

def openScope (mark : Mark) (combinator : Combinator) : Action Mark := do
  let store := (← get).queries
  let target := store.target combinator mark
  let (opened, scope) := store.openScope target combinator
  modifyStore fun _ => opened
  recordJoin target combinator 2
  return scope

def join (mark : Mark) (combinator : Combinator) : List Operand → Action Mark
  | [] => openScope mark combinator
  | operands => joinWith mark combinator operands

/-- The operators of a query that cannot be evaluated here, as the settings name them. -/
def unsupportedOperators (mark : Mark) : Action (List Value) := do
  let settings ← Settings.shared
  let operators ← Action.lift settings.unsupportedOperators
  let filter := ((← get).queries.snapshot mark).filter
  Action.lift (Filter.occurring settings.recursiveCheck operators filter)

/-- Whether a query can be evaluated here. -/
def isSupported (mark : Mark) : Action Bool := do
  return (← unsupportedOperators mark).isEmpty

/-- The canonical state of the query that a mark belongs to. -/
def snapshot (mark : Mark) : Action Snapshot := do
  return (← get).queries.snapshot mark

def snapshotNotice : String := "to_json() is deprecated, use to_plain_object() instead"

def parameters (mark : Mark) : Action (List (String × String)) := do
  Action.lift (Parameters.ofQuery (← snapshot mark).toEntries)

def text (mark : Mark) : Action String := do
  Action.lift (Parameters.text (← snapshot mark).toEntries)

def display (mark : Mark) : Action String := do
  let shown := (Value.mapping (← snapshot mark).toEntries).display
  return String.ofList ("Criteria(".toList ++ shown ++ [')'])

end RecordQuery.Session
