import RecordQuery.Query.Building
import RecordQuery.Records.Container
import RecordQuery.Records.Pipeline

/-!
Evaluating a query of a session on records, under the eyes of the log.
-/

namespace RecordQuery.Session

def evaluator : String := "evaluator"

structure Processed where
  records : Value
  result : Except Failure Value

/-- Stops if the query has operators that cannot be evaluated. -/
def requireSupport (mark : Mark) : Action Unit := do
  match ← unsupportedOperators mark with
  | [] => return ()
  | operators =>
      Log.record evaluator .error "offline_query_unsupported" [(.text "operators", .list operators)]
      match Argument.texts? operators with
      | some names => throw (.query (.unsupportedOffline names))
      | none => throw .mismatch

def evaluate (snapshot : Snapshot) (records : List Value) (session : Session) :
    Records.Evaluation × Option Failure × Session :=
  let evaluation := Records.Pipeline.run snapshot records
  match evaluation.result with
  | .error failure => (evaluation, some failure, session)
  | .ok found =>
      let entry : Action Unit :=
        Log.record evaluator .debug "local_query_processed"
          [(.text "records_in", .count records.length), (.text "records_out", .count found.length)]
      match Action.perform entry session with
      | (.error failure, after) => (evaluation, some failure, after)
      | (.ok _, after) => (evaluation, none, after)

def processOperation (count : Nat) (seconds : Binary64) : Log.Operation where
  component := evaluator
  name := "process"
  correlation := ""
  context := [(.text "records_in", .count count)]
  seconds

def processItems (mark : Mark) (container : Value) (items : List Value) (session : Session) :
    Processed × Session :=
  let snapshot := session.queries.snapshot mark
  let (completed, after) :=
    (processOperation items.length session.seconds).run (evaluate snapshot items) session
  let records := (completed.payload?.map Records.Evaluation.records).getD items
  let result : Except Failure Value :=
    match completed.failure?, completed.payload?.map Records.Evaluation.result with
    | some failure, _ => .error failure
    | none, some (.ok found) => .ok (.list found)
    | none, some (.error failure) => .error failure
    | none, none => .error .mismatch
  (⟨Records.Container.rebuilt container records, result⟩, after)

/-- Evaluates a query on records; null stands for no records at all. -/
def process (mark : Mark) (records : Value) (session : Session) : Processed × Session :=
  match Action.perform (requireSupport mark) session with
  | (.error failure, after) => (⟨records, .error failure⟩, after)
  | (.ok _, after) =>
      match records, records.items? with
      | .null, _ => (⟨.null, .ok .null⟩, after)
      | _, some items => processItems mark records items after
      | _, none => (⟨records, .error (.query .recordsNotArray)⟩, after)

end RecordQuery.Session
