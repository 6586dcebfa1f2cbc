import RecordQuery.Argument
import RecordQuery.Filter.Normal

/-!
The canonical state of a query: fields, filter, sort, skip and limit.

`Snapshot.parse` accepts any mapping with these parts. It checks them in their order; a fault of
`fields`, of `sort` or of a key is kept back until all parts are checked, every other fault is
reported at once.
-/

namespace RecordQuery

/-- The order of records by several fields, the first one first. -/
abbrev SortOrder := List (String × Direction)

namespace SortOrder

/-- Sets the direction of a field; a field that is there keeps its place. -/
def set : SortOrder → String → Direction → SortOrder
  | [], field, direction => [(field, direction)]
  | (other, old) :: rest, field, direction =>
      if other == field then (other, direction) :: rest
      else (other, old) :: set rest field direction

def toEntries (sort : SortOrder) : Entries :=
  sort.map fun entry => (.text entry.1, .int entry.2.toInt)

end SortOrder

structure Snapshot where
  fields : List String
  filter : Entries
  sort : SortOrder
  skip : Nat
  limit : Option Nat

namespace Snapshot

def empty : Snapshot := ⟨[], [], [], 0, none⟩

def toEntries (snapshot : Snapshot) : Entries :=
  [(.text "fields", .list (snapshot.fields.map .text)),
    (.text "filter", .mapping snapshot.filter),
    (.text "sort", .mapping snapshot.sort.toEntries),
    (.text "skip", .int snapshot.skip),
    (.text "limit", match snapshot.limit with
      | some limit => .int limit
      | none => .null)]

/-- A part that was checked: its value, or a fault that is kept back. -/
abbrev Checked (α : Type) := Except QueryFault α

def checkFields : Option Value → Checked (List String)
  | none | some .null => .ok []
  | some value =>
      match value.items?.bind Argument.texts? with
      | some fields => .ok fields
      | none => .error .fieldsNotTexts

def checkKeys (entries : Entries) : Checked Entries :=
  if entries.all fun entry => entry.1.text?.isSome then .ok entries else .error .keyNotText

def checkFilter : Option Value → Except Failure (Checked Entries)
  | none | some .null => .ok (.ok [])
  | some value => (Filter.normalize value).map checkKeys

def undirected? (entries : Entries) : Option Value :=
  (entries.find? fun entry => (Direction.ofValue? entry.2).isNone).map Prod.fst

def sortOf? : Entries → Option SortOrder
  | [] => some []
  | (key, value) :: rest =>
      match key.text?, Direction.ofValue? value, sortOf? rest with
      | some field, some direction, some sort => some ((field, direction) :: sort)
      | _, _, _ => none

def checkSort : Option Value → Checked SortOrder
  | none | some .null => .ok []
  | some (.mapping entries) =>
      match undirected? entries with
      | some key => .error (.invalidDirection key)
      | none =>
          match sortOf? entries with
          | some sort => .ok sort
          | none => .error .keyNotText
  | some _ => .error .sortNotObject

def checkSkip : Option Value → Except Failure Nat
  | none | some .null => .ok 0
  | some value => Argument.whole value "skip"

/-- The largest number of records to give. -/
def checkLimit : Option Value → Except Failure (Option Nat)
  | none | some .null => .ok none
  | some value => (Argument.whole value "limit").map some

/-- Reports a fault that was kept back. -/
def release {α : Type} : Checked α → Except Failure α
  | .ok value => .ok value
  | .error fault => .error (.query fault)

/-- A snapshot from the parts of a mapping; other keys are ignored. -/
def ofEntries (options : Entries) : Except Failure Snapshot := do
  let fields := checkFields (options.get? "fields")
  let filter ← checkFilter (options.get? "filter")
  let sort := checkSort (options.get? "sort")
  let skip ← checkSkip (options.get? "skip")
  let limit ← checkLimit (options.get? "limit")
  return {
    fields := ← release fields
    filter := ← release filter
    sort := ← release sort
    skip
    limit }

def parse : Value → Except Failure Snapshot
  | .null => .ok empty
  | .mapping entries => ofEntries entries
  | _ => .error (.query .optionsNotObject)

end Snapshot

end RecordQuery
