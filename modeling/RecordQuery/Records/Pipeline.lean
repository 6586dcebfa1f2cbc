import RecordQuery.Matching.Condition
import RecordQuery.Records.Page
import RecordQuery.Records.Projection
import RecordQuery.Records.Sorting
import RecordQuery.Snapshot

/-!
The evaluation of a query on records: filter, project, sort, paginate.

Projection changes the records themselves, so `Pipeline.run` also says what becomes of the given
ones.
-/

namespace RecordQuery.Records

structure Evaluation where
  records : List Value
  result : Except Failure (List Value)

namespace Pipeline

def marks (filter : Value) : List Value → Except Failure (List Bool)
  | [] => .ok []
  | record :: rest =>
      match Matching.satisfies filter record with
      | .error failure => .error failure
      | .ok mark => (marks filter rest).map (mark :: ·)

def marked {α : Type} : List Bool → List α → List α
  | true :: marks, member :: rest => member :: marked marks rest
  | false :: marks, _ :: rest => marked marks rest
  | _, _ => []

def replaceMarked {α : Type} : List Bool → List α → List α → List α
  | true :: marks, _ :: rest, new :: others => new :: replaceMarked marks rest others
  | false :: marks, member :: rest, others => member :: replaceMarked marks rest others
  | _, rest, _ => rest

/-- Sorts and cuts out the page. -/
def arrange (snapshot : Snapshot) (records : List Value) : Except Failure (List Value) :=
  (sortRecords snapshot.sort.toEntries records).map fun sorted =>
    paginate sorted snapshot.skip (snapshot.limit.map Int.ofNat)

/-- Builds the matcher of a query and tests the records. -/
def test (snapshot : Snapshot) (records : List Value) : Except Failure (List Bool) := do
  let _ ← Matching.build (.mapping snapshot.filter)
  marks (.mapping snapshot.filter) records

def run (snapshot : Snapshot) (records : List Value) : Evaluation :=
  match test snapshot records with
  | .error failure => ⟨records, .error failure⟩
  | .ok marks =>
      let changed := project (snapshot.fields.map .text) (marked marks records)
      let after := replaceMarked marks records changed.result
      match changed.failure? with
      | some failure => ⟨after, .error failure⟩
      | none => ⟨after, arrange snapshot changed.result⟩

end Pipeline

end RecordQuery.Records
