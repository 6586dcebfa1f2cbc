import RecordQuery.Proofs.Log.Handlers
import RecordQuery.Proofs.Query.Evaluation
import RecordQuery.Proofs.Session.Effects

/-!
# Evaluations one after another

Whether an evaluation gets as far as the records depends on the filter of the query, the settings
and what its start entry carries. None of this is changed by an evaluation: once one has succeeded,
every query with the same filter can be evaluated on as many records, in the same session and in
every session that further evaluations lead to.
-/

namespace RecordQuery

open RecordQuery.Action

/-- Settings that were asked for are there afterwards. -/
theorem Settings.settings_of_shared {session after : Session} {settings : Settings}
    (performed : perform shared session = (.ok settings, after)) :
    after.settings? = some settings := by
  simp only [shared, perform_bind, perform_get] at performed
  cases held : session.settings? with
  | some loaded =>
      rw [held] at performed
      obtain ⟨same, rfl⟩ := Prod.mk.inj performed
      rw [held, Except.ok.inj same]
  | none =>
      rw [held] at performed
      obtain ⟨found, later, -, performed⟩ := perform_bind_ok performed
      obtain ⟨_, kept, modified, performed⟩ := perform_bind_ok performed
      obtain ⟨_, configured, applied, performed⟩ := perform_bind_ok performed
      obtain ⟨same, rfl⟩ := Prod.mk.inj performed
      have unchanged :=
        (Log.sources_configure (.text found.logDirectory) found.logLevel kept).2
      rw [applied] at unchanged
      obtain ⟨-, rfl⟩ := Prod.mk.inj modified
      rw [unchanged, ← Except.ok.inj same]

theorem Settings.perform_shared_of_loaded {session : Session} {settings : Settings}
    (loaded : session.settings? = some settings) :
    perform shared session = (.ok settings, session) := by
  simp only [shared, perform_bind, perform_get, loaded, perform_pure]

namespace Session

open Records

theorem queries_enter (count : Nat) (seconds : Binary64) (session : Session) :
    (perform (processOperation count seconds).enter session).2.queries = session.queries := by
  have kept := (Log.apart_record (processOperation count seconds).component .debug
    ("operation_start_" ++ (processOperation count seconds).name) []).queries
      (inside count seconds session)
  rw [perform_enter]
  split <;> rename_i started <;> rw [started] at kept <;> exact kept

theorem queries_finish (operation : Log.Operation) (failure? : Option Failure) (session : Session) :
    (perform (operation.finish failure?) session).2.queries = session.queries := by
  cases failure? with
  | none => exact (Log.apart_record _ _ _ _).queries session
  | some failure =>
      simp only [Log.Operation.finish]
      split
      · rfl
      · exact (Log.apart_record _ _ _ _).queries session

theorem queries_evaluate (snapshot : Snapshot) (records : List Value) (session : Session) :
    (evaluate snapshot records session).2.2.queries = session.queries := by
  unfold evaluate
  cases result : (Records.Pipeline.run snapshot records).result with
  | error failure => simp only [result]
  | ok found =>
      simp only [result]
      have kept := (Log.apart_record evaluator .debug "local_query_processed"
        [(.text "records_in", .count records.length),
          (.text "records_out", .count found.length)]).queries session
      rcases recorded : perform (Log.record evaluator .debug "local_query_processed"
        [(.text "records_in", .count records.length), (.text "records_out", .count found.length)])
        session with ⟨_ | _, after⟩ <;> rw [recorded] at kept <;> exact kept

/-- An operation around an evaluation changes no query if its body changes none. -/
theorem queries_run {α : Type} (count : Nat) (seconds : Binary64)
    {body : Session → α × Option Failure × Session}
    (keeps : ∀ session, (body session).2.2.queries = session.queries) (session : Session) :
    ((processOperation count seconds).run body session).2.queries = session.queries := by
  have entered := queries_enter count seconds session
  unfold Log.Operation.run
  rcases started : perform (processOperation count seconds).enter session with
    ⟨refused | identifier, inner⟩
  · rw [started] at entered
    exact entered
  · rw [started] at entered
    have ended := queries_finish (processOperation count seconds) (body inner).2.1 (body inner).2.2
    simp only
    split <;> exact (ended.trans (keeps inner)).trans entered

theorem queries_process (mark : Mark) (records : Value) (session : Session) :
    (process mark records session).2.queries = session.queries := by
  have supported := (requireSupport_keeps mark session).1
  unfold process
  rcases checked : perform (requireSupport mark) session with ⟨refused | _, after⟩
  · rw [checked] at supported
    exact supported
  · rw [checked] at supported
    simp only
    split
    · exact supported
    · rw [← supported]
      exact queries_run _ _ (queries_evaluate _ _) after
    · exact supported

theorem steady_inside (count : Nat) (seconds : Binary64) (session : Session) :
    Steady session (inside count seconds session) :=
  ⟨.of_parts rfl rfl rfl, rfl⟩

/-- The settings let queries with a filter be evaluated here. -/
def Supports (settings : Settings) (filter : Entries) : Prop :=
  (settings.unsupportedOperators.bind fun operators =>
    Filter.occurring settings.recursiveCheck operators filter) = .ok []

theorem requireSupport_eq_ok {mark : Mark} {session after : Session} :
    perform (requireSupport mark) session = (.ok (), after) ↔
      ∃ settings, perform Settings.shared session = (.ok settings, after) ∧
        Supports settings (session.queries.snapshot mark).filter := by
  rw [requireSupport, perform_bind, perform_unsupportedOperators]
  rcases perform Settings.shared session with ⟨failure | settings, later⟩
  · simp
  · simp only [Supports, Prod.mk.injEq, Except.ok.injEq]
    constructor
    · intro supported
      cases found : settings.unsupportedOperators.bind fun operators =>
          Filter.occurring settings.recursiveCheck operators
            (session.queries.snapshot mark).filter with
      | error failure => simp [found] at supported
      | ok operators =>
          rw [found] at supported
          cases operators with
          | nil =>
              obtain ⟨-, rfl⟩ := Prod.mk.inj supported
              exact ⟨settings, ⟨rfl, rfl⟩, found⟩
          | cons operator rest =>
              obtain ⟨_, _, -, refused⟩ := perform_bind_ok supported
              cases named : Argument.texts? (operator :: rest) <;> simp [named] at refused
    · rintro ⟨_, ⟨rfl, rfl⟩, none⟩
      rw [none]
      rfl

def startMessage : String := "operation_start_process"

/-- Queries with a filter can be evaluated on so many records: the settings allow it, and the start
entry can be recorded. -/
def Evaluates (session : Session) (filter : Entries) (count : Nat) : Prop :=
  ∃ settings ready, perform Settings.shared session = (.ok settings, ready) ∧
    Supports settings filter ∧
      (perform (Log.record evaluator .debug startMessage [])
        (inside count ready.seconds ready)).1 = .ok ()

namespace Evaluates

variable {session : Session} {filter : Entries} {count : Nat}

theorem withQueries (evaluates : session.Evaluates filter count) (store : QueryStore) :
    (session.withQueries store).Evaluates filter count := by
  obtain ⟨settings, ready, loaded, supported, started⟩ := evaluates
  refine ⟨settings, ready.withQueries store, ?_, supported, ?_⟩
  · rw [Settings.apart_shared.frame, loaded]
  · have frame := (Log.apart_record evaluator .debug startMessage []).frame
      (inside count ready.seconds ready) store
    change (perform _ ((inside count ready.seconds ready).withQueries store)).1 = _
    rw [frame]
    exact started

theorem of_succeeded {mark : Mark} {items : List Value} {found : Value}
    (succeeded : (process mark (.list items) session).1.result = .ok found) :
    session.Evaluates (session.queries.snapshot mark).filter items.length := by
  rw [process] at succeeded
  rcases checked : perform (requireSupport mark) session with ⟨refused | _, ready⟩
  · simp [checked] at succeeded
  · obtain ⟨settings, loaded, supported⟩ := requireSupport_eq_ok.mp checked
    refine ⟨settings, ready, loaded, supported, ?_⟩
    simp only [checked, Value.items?, processItems, Log.Operation.run, perform_enter] at succeeded
    change (perform (Log.record (processOperation items.length ready.seconds).component .debug
      ("operation_start_" ++ (processOperation items.length ready.seconds).name) [])
      (inside items.length ready.seconds ready)).1 = _
    rcases started : perform
        (Log.record (processOperation items.length ready.seconds).component .debug
          ("operation_start_" ++ (processOperation items.length ready.seconds).name) [])
        (inside items.length ready.seconds ready) with ⟨refused | _, entered⟩
    · simp [started] at succeeded
    · rfl

/-- A query can be evaluated again after an operation that leaves settings, logger and context. -/
theorem later (evaluates : session.Evaluates filter count) {ready after : Session}
    {settings : Settings} (loaded : perform Settings.shared session = (.ok settings, ready))
    (steady : Steady ready after) (context : after.context = ready.context) :
    after.Evaluates filter count := by
  obtain ⟨_, _, again, supported, started⟩ := evaluates
  obtain ⟨same, rfl⟩ := Prod.mk.inj (again.symm.trans loaded)
  obtain rfl := Except.ok.inj same
  have held := steady.settings.trans (Settings.settings_of_shared loaded)
  refine ⟨_, after, Settings.perform_shared_of_loaded held, supported, ?_⟩
  refine Log.record_follows_correlated started ?_ (fun _ => rfl) ?_ ?_ rfl
  · exact congrArg (innerContext count after.seconds) context
  · exact (steady_inside count after.seconds after).logger.trans
      (steady.logger.trans (steady_inside count _ _).logger.symm)
  · exact Log.Recordable.of_texts (by simp)

theorem exists_of_started {ready : Session} {seconds : Binary64}
    (started : (perform (Log.record evaluator .debug startMessage [])
      (inside count seconds ready)).1 = .ok ()) :
    ∃ identifier entered,
      perform (processOperation count seconds).enter ready = (.ok identifier, entered) := by
  have recorded : perform (Log.record (processOperation count seconds).component .debug
      ("operation_start_" ++ (processOperation count seconds).name) [])
      (inside count seconds ready) =
      (.ok (), (perform (Log.record evaluator .debug startMessage [])
        (inside count seconds ready)).2) :=
    Prod.ext started rfl
  rw [perform_enter, recorded]
  exact ⟨_, _, rfl⟩

/-- Where queries with its filter can be evaluated, a query does what the pipeline does, if that
succeeds; the queries stay as they were, and those with the filter can be evaluated again. -/
theorem process {mark : Mark} {items found : List Value}
    (evaluates : session.Evaluates (session.queries.snapshot mark).filter items.length)
    (result : (Pipeline.run (session.queries.snapshot mark) items).result = .ok found) :
    (process mark (.list items) session).1 =
        ⟨.list (Pipeline.run (session.queries.snapshot mark) items).records, .ok (.list found)⟩ ∧
      (Session.process mark (.list items) session).2.queries = session.queries ∧
      (Session.process mark (.list items) session).2.Evaluates
        (session.queries.snapshot mark).filter items.length := by
  obtain ⟨settings, ready, loaded, supported, started⟩ := id evaluates
  have checked := requireSupport_eq_ok.mpr ⟨settings, loaded, supported⟩
  have queries : ready.queries = session.queries := by
    rw [← (requireSupport_keeps mark session).1, checked]
  obtain ⟨identifier, entered, performed⟩ := exists_of_started started
  obtain ⟨before, recorded⟩ := recorded_of_enter performed
  obtain ⟨evaluated, outcome, finishes⟩ := evaluate_succeeds recorded result
  have finished := finishes items.length ready.seconds
  have inner := trans_of Steady ((Log.Operation.steady_enter _).of_perform performed)
    (steady_evaluate (session.queries.snapshot mark) items entered)
  have steady := trans_of Steady inner
    (Log.Operation.steady_finish (processOperation items.length ready.seconds) none _)
  rw [outcome] at steady
  rcases ended : perform ((processOperation items.length ready.seconds).finish none) evaluated with
    ⟨refused | _, last⟩
  · simp [ended] at finished
  · simp only [ended] at steady
    let restored : Session :=
      { last with correlation? := ready.correlation?, context := ready.context }
    have restoring : Steady last restored := ⟨.of_parts rfl rfl rfl, rfl⟩
    have run : Session.process mark (.list items) session =
        (⟨.list (Pipeline.run (session.queries.snapshot mark) items).records, .ok (.list found)⟩,
          restored) := by
      rw [Session.process, checked]
      simp only [Value.items?, processItems, Log.Operation.run, performed, queries, outcome, ended,
        Option.map_some, result]
      rfl
    rw [run]
    exact ⟨rfl, steady.queries.trans queries,
      evaluates.later loaded (trans_of Steady steady restoring) rfl⟩

end Evaluates

end Session

end RecordQuery
