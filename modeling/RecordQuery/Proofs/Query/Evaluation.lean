import RecordQuery.Proofs.Log.Following
import RecordQuery.Proofs.Query.Sharing
import RecordQuery.Proofs.Records.Pipeline

/-!
# Failed evaluations

An evaluation that fails before records are cut leaves them as they were. Its entries in the log
come after the start entry, which carries all that they carry, so writing them cannot fail any more
once the records were evaluated.
-/

namespace RecordQuery.Session

open RecordQuery.Action Records

theorem rebuilt_items {container : Value} {items : List Value}
    (held : container.items? = some items) : Container.rebuilt container items = container := by
  cases container with
  | list others | tuple others =>
      obtain rfl := Option.some.inj held
      rfl
  | _ => contradiction

theorem recorded_of_enter {operation : Log.Operation} {session entered : Session}
    {identifier : String}
    (performed : perform operation.enter session = (.ok identifier, entered)) :
    ∃ before, perform (Log.record operation.component .debug ("operation_start_" ++ operation.name)
      []) before = (.ok (), entered) := by
  obtain ⟨correlation, _, -, performed⟩ := perform_bind_ok performed
  obtain ⟨_, before, -, performed⟩ := perform_bind_ok performed
  obtain ⟨_, after, recorded, performed⟩ := perform_bind_ok performed
  obtain rfl : after = entered := congrArg Prod.snd performed
  exact ⟨before, recorded⟩

/-- After the start entry, entries of the evaluation with numbers and truth values are recorded, and
leave the way open for further ones. -/
theorem recorded_after_start (message : String) {start : String} {before session : Session}
    (started : (perform (Log.record evaluator .debug start []) before).1 = .ok ())
    (carried : session.carried = before.carried)
    (logger : Log.loggerFor session = Log.loggerFor before) {fields : Entries}
    (recordable : Log.Recordable fields) (free : fields.get? "component" = none) :
    ∃ after, perform (Log.record evaluator .debug message fields) session = (.ok (), after) ∧
      after.carried = before.carried ∧ Log.loggerFor after = Log.loggerFor before := by
  refine ⟨_, Prod.ext (Log.record_follows started carried logger recordable free) rfl, ?_, ?_⟩
  · exact ((Log.apart_record _ _ _ _).carried session).trans carried
  · exact (Log.loggerFor_record _ _ _ _ session).trans logger

theorem evaluate_succeeds {snapshot : Snapshot} {records found : List Value}
    {start : String} {before session : Session}
    (started : perform (Log.record evaluator .debug start []) before = (.ok (), session))
    (result : (Pipeline.run snapshot records).result = .ok found) :
    ∃ after, evaluate snapshot records session = (Pipeline.run snapshot records, none, after) ∧
      ∀ count seconds,
        (perform ((processOperation count seconds).finish none) after).1 = .ok () := by
  have recorded : (perform (Log.record evaluator .debug start []) before).1 = .ok () := by
    rw [started]
  have carried : session.carried = before.carried := by
    rw [← (Log.apart_record evaluator .debug start []).carried before, started]
  have logger : Log.loggerFor session = Log.loggerFor before := by
    rw [← Log.loggerFor_record evaluator start .debug [] before, started]
  have counts : Log.Recordable [(.text "records_in", .count records.length),
      (.text "records_out", .count found.length)] := by
    refine Log.Recordable.of_texts fun field member => ?_
    simp only [List.mem_cons, List.not_mem_nil, or_false] at member
    rcases member with rfl | rfl <;>
      exact ⟨_, rfl, by simp [Log.reserved], Json.exists_encode_count _⟩
  obtain ⟨after, performed, afterCarried, afterLogger⟩ :=
    recorded_after_start "local_query_processed" recorded carried logger counts
      (by simp [Entries.get?, Entries.valueOf?, Value.same])
  refine ⟨after, ?_, fun count seconds => ?_⟩
  · simp only [evaluate, result, performed]
  · exact Log.record_follows recorded afterCarried afterLogger
      (Log.Operation.recordable_completion seconds)
      (by simp [Entries.get?, Entries.valueOf?, Value.same])

theorem run_completed {α : Type} (operation : Log.Operation)
    (body : Session → α × Option Failure × Session) (session : Session) :
    (∃ failure, (operation.run body session).1 = ⟨some failure, "", none⟩) ∨
      ∃ identifier entered failure?,
        (operation.run body session).1 = ⟨failure?, identifier, some (body entered).1⟩ := by
  rw [Log.Operation.run]
  rcases perform operation.enter session with ⟨refused | identifier, entered⟩
  · exact .inl ⟨refused, rfl⟩
  · right
    simp only
    cases (perform (operation.finish (body entered).2.1) (body entered).2.2).1 with
    | error refused => exact ⟨identifier, entered, some refused, rfl⟩
    | ok _ => exact ⟨identifier, entered, (body entered).2.1, rfl⟩

theorem evaluate_evaluation (snapshot : Snapshot) (records : List Value) (session : Session) :
    (evaluate snapshot records session).1 = Pipeline.run snapshot records := by
  rw [evaluate]
  split
  · rfl
  · simp only
    split <;> rfl

theorem processItems_succeeded {mark : Mark} {container found : Value} {items : List Value}
    {session : Session}
    (succeeded : (processItems mark container items session).1.result = .ok found) :
    ∃ listed, (Pipeline.run (session.queries.snapshot mark) items).result = .ok listed ∧
      (processItems mark container items session).1 =
        ⟨Container.rebuilt container (Pipeline.run (session.queries.snapshot mark) items).records,
          .ok (.list listed)⟩ := by
  rw [processItems] at succeeded ⊢
  rcases run_completed (processOperation items.length session.seconds)
    (evaluate (session.queries.snapshot mark) items) session with
    ⟨failure, completed⟩ | ⟨identifier, entered, failure?, completed⟩
  · simp [completed] at succeeded
  · simp only [completed, Option.map_some, evaluate_evaluation, Option.getD_some] at succeeded ⊢
    cases failure? with
    | some failure => contradiction
    | none =>
        cases result : (Pipeline.run (session.queries.snapshot mark) items).result with
        | error failure => simp [result] at succeeded
        | ok listed => exact ⟨listed, rfl, rfl⟩

/-- A successful evaluation gives and leaves what the pipeline does; without any records it gives
none. -/
theorem process_succeeded {mark : Mark} {records found : Value} {session : Session}
    (succeeded : (process mark records session).1.result = .ok found) :
    (records = .null ∧ (process mark records session).1 = ⟨.null, .ok .null⟩) ∨
      ∃ items listed, records.items? = some items ∧
        (Pipeline.run (session.queries.snapshot mark) items).result = .ok listed ∧
        (process mark records session).1 =
          ⟨Container.rebuilt records (Pipeline.run (session.queries.snapshot mark) items).records,
            .ok (.list listed)⟩ := by
  have queries := (requireSupport_keeps mark session).1
  rw [process] at succeeded ⊢
  rcases checked : perform (requireSupport mark) session with ⟨refused | _, after⟩
  · simp [checked] at succeeded
  · rw [checked] at queries
    simp only [checked] at succeeded ⊢
    split at succeeded
    · exact .inl ⟨rfl, rfl⟩
    · rename_i items _ held
      obtain ⟨listed, result, left⟩ := processItems_succeeded succeeded
      rw [queries] at result left
      simp only [held]
      exact .inr ⟨items, listed, rfl, result, left⟩
    · contradiction

theorem run_of_process {mark : Mark} {items : List Value} {found : Value} {session : Session}
    (succeeded : (process mark (.list items) session).1.result = .ok found) :
    ∃ listed, (Pipeline.run (session.queries.snapshot mark) items).result = .ok listed ∧
      found = .list listed := by
  rcases process_succeeded succeeded with ⟨absent, -⟩ | ⟨others, listed, held, result, outcome⟩
  · contradiction
  · obtain rfl := Option.some.inj held
    rw [outcome] at succeeded
    exact ⟨listed, result, (Except.ok.inj succeeded).symm⟩

/-- A failed evaluation of listed records leaves them as they were, unless they had been cut. -/
theorem processItems_failed {mark : Mark} {container : Value} {items : List Value}
    {session : Session} {failure : Failure} (held : container.items? = some items)
    (failed : (processItems mark container items session).1.result = .error failure) :
    (processItems mark container items session).1.records = container ∨
      Pipeline.FailsAfterCut (session.queries.snapshot mark) items := by
  rw [processItems, Log.Operation.run] at failed ⊢
  rcases entered : perform (processOperation items.length session.seconds).enter session with
    ⟨refused | identifier, later⟩
  · exact .inl (rebuilt_items held)
  · obtain ⟨before, started⟩ := recorded_of_enter entered
    simp only [entered] at failed ⊢
    cases result : (Pipeline.run (session.queries.snapshot mark) items).result with
    | ok found =>
        obtain ⟨after, evaluated, finished⟩ := evaluate_succeeds started result
        have ended := finished items.length session.seconds
        rcases performed : perform
          ((processOperation items.length session.seconds).finish none) after with
          ⟨refused | _, last⟩
        · simp [performed] at ended
        · simp [evaluated, performed, result] at failed
    | error other =>
        refine (Pipeline.records_of_failed_run result).imp_left fun kept => ?_
        have evaluated : evaluate (session.queries.snapshot mark) items later =
            (Pipeline.run (session.queries.snapshot mark) items, some other, later) := by
          rw [evaluate, result]
        simp only [evaluated]
        rcases perform
          ((processOperation items.length session.seconds).finish (some other)) later with
          ⟨refused | _, last⟩ <;>
          simpa only [Option.map_some, Option.getD_some, kept] using rebuilt_items held

/-- A failed evaluation leaves the records as they were. The one exception are records that were cut
down to fields, after which one that is no mapping could not be cut or two could not be compared
under a sort path. -/
theorem failed_evaluation_leaves_records {session : Session} {mark : Mark} {records : Value}
    {failure : Failure} (failed : (process mark records session).1.result = .error failure) :
    (process mark records session).1.records = records ∨
      ∃ items, records.items? = some items ∧
        Pipeline.FailsAfterCut (session.queries.snapshot mark) items := by
  rw [process] at failed ⊢
  rcases checked : perform (requireSupport mark) session with ⟨refused | _, after⟩
  · exact .inl rfl
  · have kept : after.queries = session.queries := by
      rw [← (requireSupport_keeps mark session).1, checked]
    simp only [checked] at failed ⊢
    split at failed
    · contradiction
    · rename_i items _ held
      simp only [held]
      rw [← kept]
      exact (processItems_failed held failed).imp id fun cut => ⟨items, rfl, cut⟩
    · rename_i held
      simp only [held, true_or]

theorem finish_succeeds (operation : Log.Operation) (failure? : Option Failure) {session : Session}
    (context : Log.Recordable session.context) :
    (perform (operation.finish failure?) session).1 = .ok () := by
  cases failure? with
  | none =>
      refine Log.record_succeeds _ _ _ (Log.Operation.recordable_completion _) ?_ context
      simp [Entries.get?, Entries.valueOf?, Value.same]
  | some failure =>
      by_cases exits : failure.isExit = true
      · simp only [Log.Operation.finish, exits, if_true]
        rfl
      · simp only [Log.Operation.finish, exits, Bool.false_eq_true, if_false]
        refine Log.record_succeeds _ _ _ (Log.Recordable.of_texts ?_) ?_ context
        · intro field member
          simp only [List.mem_cons, List.not_mem_nil, or_false] at member
          rcases member with rfl | rfl | rfl | rfl <;>
            exact ⟨_, rfl, by simp [Log.reserved], _, rfl⟩
        · simp [Entries.get?, Entries.valueOf?, Value.same]

variable (count : Nat) (seconds : Binary64)

def innerContext (context : Entries) : Entries :=
  (processOperation count seconds).additions.foldl
    (fun entries entry => entries.insert entry.1 entry.2) context

theorem recordable_innerContext {context : Entries} (recordable : Log.Recordable context) :
    Log.Recordable (innerContext count seconds context) := by
  have additions : (processOperation count seconds).additions =
      [(.text "operation", .text "process"), (.text "records_in", .count count)] := by
    simp [Log.Operation.additions, processOperation, Entries.insert, Value.same]
  obtain ⟨text, written⟩ : ∃ text, Json.encode Json.Layout.spaced (.count count) = .ok text :=
    Json.exists_encode_count count
  rw [innerContext, additions]
  refine Log.Recordable.insert (Log.Recordable.insert recordable ?_ rfl) ?_ written <;>
    simp [Log.reserved]

def inside (session : Session) : Session :=
  let identifier := Log.Operation.identifier session.issued.length
  { session with
    issued := identifier :: session.issued
    correlation? := some identifier
    context := innerContext count seconds session.context }

theorem perform_enter (session : Session) :
    perform (processOperation count seconds).enter session =
      match perform (Log.record (processOperation count seconds).component .debug
          ("operation_start_" ++ (processOperation count seconds).name) [])
          (inside count seconds session) with
      | (.ok _, after) => (.ok (Log.Operation.identifier session.issued.length), after)
      | (.error failure, after) => (.error failure, after) := by
  have correlated : perform
      (Log.Operation.correlationFor (processOperation count seconds).correlation) session =
        (.ok (Log.Operation.identifier session.issued.length), { session with
          issued := Log.Operation.identifier session.issued.length :: session.issued }) := rfl
  simp only [Log.Operation.enter, perform_bind, correlated, perform_modify, perform_pure, inside,
    innerContext]
  rcases perform (Log.record (processOperation count seconds).component _ _ _) _ with
    ⟨_ | _, after⟩ <;> rfl

theorem enter_succeeds {session : Session} (context : Log.Recordable session.context) :
    ∃ identifier entered,
      perform (processOperation count seconds).enter session = (.ok identifier, entered) ∧
        Log.Recordable entered.context := by
  have inner := recordable_innerContext count seconds context
  have nothing : Log.Recordable [] := Log.Recordable.of_texts (by simp)
  let start := Log.record (processOperation count seconds).component .debug
    ("operation_start_" ++ (processOperation count seconds).name) []
  have started : (perform start (inside count seconds session)).1 = .ok () :=
    Log.record_succeeds _ _ _ nothing rfl inner
  have kept := (Log.apart_record (processOperation count seconds).component .debug
    ("operation_start_" ++ (processOperation count seconds).name) []).context
      (inside count seconds session)
  rw [perform_enter]
  rcases outcome : perform start (inside count seconds session) with ⟨refused | _, after⟩
  · simp [outcome] at started
  · rw [outcome] at kept
    exact ⟨_, after, rfl, kept.symm ▸ inner⟩

/-- Where its entries can be recorded, an evaluation gives what the pipeline gives. -/
theorem process_eq {session : Session} {mark : Mark} (items : List Value)
    (context : Log.Recordable session.context)
    (supported : (perform (requireSupport mark) session).1 = .ok ()) :
    (process mark (.list items) session).1 =
      ⟨.list (Pipeline.run (session.queries.snapshot mark) items).records,
        (Pipeline.run (session.queries.snapshot mark) items).result.map .list⟩ := by
  obtain ⟨queries, carried⟩ := requireSupport_keeps mark session
  rw [process]
  rcases checked : perform (requireSupport mark) session with ⟨refused | _, after⟩
  · rw [checked] at supported
    contradiction
  · rw [checked] at queries carried
    have kept : after.context = session.context := congrArg Prod.snd carried
    obtain ⟨identifier, entered, performed, inner⟩ :=
      enter_succeeds items.length after.seconds (kept.symm ▸ context)
    rw [← queries]
    simp only [Value.items?, processItems, Log.Operation.run, performed]
    cases result : (Pipeline.run (after.queries.snapshot mark) items).result with
    | error failure =>
        have finished := finish_succeeds (processOperation items.length after.seconds)
          (some failure) inner
        rw [evaluate, result]
        rcases ended : perform
          ((processOperation items.length after.seconds).finish (some failure)) entered with
          ⟨refused | _, last⟩
        · simp [ended] at finished
        · rfl
    | ok found =>
        obtain ⟨before, started⟩ := recorded_of_enter performed
        obtain ⟨evaluated, same, finishes⟩ := evaluate_succeeds started result
        have finished := finishes items.length after.seconds
        rw [same]
        rcases ended : perform
          ((processOperation items.length after.seconds).finish none) evaluated with
          ⟨refused | _, last⟩
        · simp [ended] at finished
        · simp only [Option.map_some, result]
          rfl

/-- A session with loaded settings and a logger that drops all entries of evaluations. -/
def quiet : Session :=
  { start "" with
    settings? := some ⟨Settings.defaultFile, Settings.defaults⟩
    logger? := some (Log.Logger.make "logs" 50) }

def refusing : Session :=
  (Call.create (.value (.mapping [(.text "fields", .list [.text "a"]),
    (.text "filter", .mapping [(.text "$or", .list [.mapping [(.text "a", .int 1)],
      .mapping [(.text "b", .mapping [(.text "$unknown", .int 1)])]])])]))).after quiet

def numbered (first second : Value) : List Value :=
  [.mapping [(.text "a", first), (.text "b", .int 1)],
    .mapping [(.text "a", second), (.text "b", .int 2)]]

theorem refused_second_record_leaves_both :
    (process 0 (.list (numbered (.int 1) (.int 2))) refusing).1.result =
      .error (.untestable (.unknownOperator (.text "$unknown"))) ∧
    (process 0 (.list (numbered (.int 1) (.int 2))) refusing).1.records =
      .list (numbered (.int 1) (.int 2)) := by
  have context : Log.Recordable refusing.context := ⟨by cbv, by cbv; simp⟩
  have supported : (perform (requireSupport 0) refusing).1 = .ok () := by cbv
  have refused : (Pipeline.run (refusing.queries.snapshot 0) (numbered (.int 1) (.int 2))).result =
      .error (.untestable (.unknownOperator (.text "$unknown"))) := by cbv
  have failed : (process 0 (.list (numbered (.int 1) (.int 2))) refusing).1.result =
      .error (.untestable (.unknownOperator (.text "$unknown"))) := by
    rw [process_eq _ context supported, refused]
    rfl
  refine ⟨failed, ?_⟩
  rcases failed_evaluation_leaves_records failed with kept | ⟨items, held, -, found, tested, -⟩
  · exact kept
  · obtain rfl := Option.some.inj held
    have untested : Pipeline.marks (.mapping (refusing.queries.snapshot 0).filter)
        (numbered (.int 1) (.int 2)) =
        .error (.untestable (.unknownOperator (.text "$unknown"))) := by cbv
    rw [untested] at tested
    contradiction

/-- A query that lists `a` and sorts by a part of it that is a digit but no numeral. -/
def superscripted : Session :=
  (Call.create (.value (.mapping [(.text "fields", .list [.text "a"]),
    (.text "sort", .mapping [(.text "a.²", .int 1)])]))).after quiet

/-- The records are cut down to the listed field, then the sort fails and they stay cut. -/
theorem failed_sort_leaves_cut_records :
    Reachable (fun _ => True) superscripted ∧
    (process 0 (.list (numbered (.list [.int 1]) (.list [.int 2]))) superscripted).1.result =
      .error .invalidValue ∧
    (process 0 (.list (numbered (.list [.int 1]) (.list [.int 2]))) superscripted).1.records =
      .list [.mapping [(.text "a", .list [.int 1])], .mapping [(.text "a", .list [.int 2])]] := by
  have context : Log.Recordable superscripted.context := ⟨by cbv, by cbv; simp⟩
  have supported : (perform (requireSupport 0) superscripted).1 = .ok () := by cbv
  rw [process_eq _ context supported]
  exact ⟨.call (.start rfl) trivial trivial, by cbv, by cbv⟩

end RecordQuery.Session
