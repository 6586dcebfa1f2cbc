import RecordQuery.Settings.Loading

/-!
# Operations apart from the queries

An operation is performed step by step: what a sequence leaves is what its second part leaves after
the first one. Writing to the log and loading settings happen apart from the queries: they neither
look at the queries nor change them, and they leave what every entry carries as it is.
-/

namespace RecordQuery

namespace Session

/-- The session with other queries. -/
def withQueries (session : Session) (store : QueryStore) : Session :=
  { session with queries := store }

@[simp]
theorem queries_withQueries (session : Session) (store : QueryStore) :
    (session.withQueries store).queries = store := rfl

@[simp]
theorem context_withQueries (session : Session) (store : QueryStore) :
    (session.withQueries store).context = session.context := rfl

/-- What every entry of the log carries: the correlation identifier and the context. -/
def carried (session : Session) : Option String × Entries := (session.correlation?, session.context)

end Session

namespace Action

variable {α β : Type}

@[simp]
theorem perform_pure (result : α) (session : Session) :
    perform (pure result) session = (.ok result, session) := rfl

@[simp]
theorem perform_throw (failure : Failure) (session : Session) :
    perform (throw failure : Action α) session = (.error failure, session) := rfl

@[simp]
theorem perform_get (session : Session) : perform get session = (.ok session, session) := rfl

@[simp]
theorem perform_modify (revise : Session → Session) (session : Session) :
    perform (modify revise) session = (.ok (), revise session) := rfl

@[simp]
theorem perform_lift (result : Except Failure α) (session : Session) :
    perform (lift result) session = (result, session) := by cases result <;> rfl

theorem perform_bind (first : Action α) (next : α → Action β) (session : Session) :
    perform (first >>= next) session = match perform first session with
      | (.ok result, after) => perform (next result) after
      | (.error failure, after) => (.error failure, after) := by
  change (match perform first session with
    | (result, after) => perform (ExceptT.mk (ExceptT.bindCont next result)) after) = _
  rcases perform first session with ⟨_ | _, after⟩ <;> rfl

/-- A sequence that succeeds consists of parts that do. -/
theorem perform_bind_ok {first : Action α} {next : α → Action β} {session last : Session}
    {result : β} (performed : perform (first >>= next) session = (.ok result, last)) :
    ∃ value middle, perform first session = (.ok value, middle) ∧
      perform (next value) middle = (.ok result, last) := by
  rw [perform_bind] at performed
  rcases outcome : perform first session with ⟨failure | value, middle⟩ <;>
    rw [outcome] at performed
  · simp at performed
  · exact ⟨value, middle, rfl, performed⟩

/-- An operation that neither looks at the queries nor changes them, and keeps what entries of the
log carry. -/
structure Apart (action : Action α) : Prop where
  frame : ∀ (session : Session) (store : QueryStore),
    perform action (session.withQueries store) =
      ((perform action session).1, (perform action session).2.withQueries store)
  carried : ∀ session, (perform action session).2.carried = session.carried

theorem Apart.queries {action : Action α} (apart : Apart action) (session : Session) :
    (perform action session).2.queries = session.queries :=
  congrArg (fun outcome : Except Failure α × Session => outcome.2.queries)
    (apart.frame session session.queries)

theorem Apart.context {action : Action α} (apart : Apart action) (session : Session) :
    (perform action session).2.context = session.context :=
  congrArg Prod.snd (apart.carried session)

namespace Apart

theorem pure (result : α) : Apart (pure result) := ⟨fun _ _ => rfl, fun _ => rfl⟩

theorem throw (failure : Failure) : Apart (throw failure : Action α) :=
  ⟨fun _ _ => rfl, fun _ => rfl⟩

theorem lift (result : Except Failure α) : Apart (lift result) :=
  ⟨fun _ _ => by simp only [perform_lift], fun _ => by simp only [perform_lift]⟩

theorem modify {revise : Session → Session}
    (frame : ∀ (session : Session) (store : QueryStore),
      revise (session.withQueries store) = (revise session).withQueries store)
    (carried : ∀ session, (revise session).carried = session.carried) : Apart (modify revise) :=
  ⟨fun session store => congrArg (Prod.mk (Except.ok ())) (frame session store), carried⟩

theorem bind {first : Action α} {next : α → Action β} (before : Apart first)
    (after : ∀ result, Apart (next result)) : Apart (first >>= next) := by
  constructor
  · intro session store
    simp only [perform_bind, before.frame session store]
    rcases perform first session with ⟨failure | result, later⟩
    · rfl
    · exact (after result).frame later store
  · intro session
    rw [perform_bind, ← before.carried session]
    rcases perform first session with ⟨failure | result, later⟩
    · rfl
    · exact (after result).carried later

/-- What follows a look at the session must not depend on the queries. -/
theorem get_bind {next : Session → Action α}
    (blind : ∀ (session : Session) (store : QueryStore),
      next (session.withQueries store) = next session)
    (after : ∀ session, Apart (next session)) : Apart (get >>= next) := by
  constructor
  · intro session store
    simp only [perform_bind, perform_get, blind]
    exact (after session).frame session store
  · intro session
    simp only [perform_bind, perform_get]
    exact (after session).carried session

theorem ite {condition : Prop} [Decidable condition] {first second : Action α}
    (one : Apart first) (other : Apart second) : Apart (if condition then first else second) := by
  split
  · exact one
  · exact other

end Apart

end Action

open RecordQuery.Action

namespace Log

theorem apart_applySettings (directory? : Option String) (level : Value) :
    Apart (modify (applySettings directory? level)) := by
  refine .modify (fun session store => ?_) (fun session => ?_) <;>
    rcases session with ⟨_, _, _, _ | logger, _⟩ <;> rfl

theorem apart_currentLogger : Apart currentLogger := by
  refine .bind (.modify (fun session store => ?_) (fun session => ?_)) fun _ =>
    .get_bind (fun _ _ => rfl) fun _ => .pure _
  all_goals rcases session with ⟨_, _, _ | settings, _ | logger, _⟩ <;> rfl

theorem apart_configure (directory level : Value) : Apart (configure directory level) := by
  refine .bind apart_currentLogger fun _ => .bind (apart_applySettings none level) fun _ => ?_
  cases directory with
  | null => exact .pure ()
  | text path => exact apart_applySettings (some path) .null
  | _ => exact .throw .mismatch

theorem apart_route (severity : Severity) (message : String) (fields : Entries) :
    Apart (route severity message fields) := by
  have written (logger : Logger) : Apart (if logger.isEnabledFor severity.level then do
      let text ← lift (line (← get).time (.int severity.level) (.text message) fields)
      let paths ← lift (logger.destinations ((fields.get? "component").getD .null) severity.level)
      modify fun session => { session with files := writeLine text paths session.files }
      else pure ()) :=
    .ite (.get_bind (fun _ _ => rfl) fun _ => .bind (.lift _) fun _ => .bind (.lift _) fun _ =>
      .modify (fun _ _ => rfl) fun _ => rfl) (.pure ())
  refine .bind apart_currentLogger fun logger => ?_
  exact .ite (.bind (.throw .mismatch) fun _ => written logger) (written logger)

theorem apart_record (component : String) (severity : Severity) (message : String)
    (fields : Entries) : Apart (record component severity message fields) := by
  have routed : Apart (do
      route severity message (completeFields (← get) component fields)) :=
    .get_bind (fun _ _ => rfl) fun _ => apart_route severity message _
  exact .ite (.bind (.throw .mismatch) fun _ => routed) routed

end Log

namespace Settings

theorem apart_loadFile (file : String) : Apart (loadFile file) := by
  have logged (severity : Log.Severity) (message : String) (fields values : Entries) :
      Apart (do log severity message fields; return values) :=
    .bind (Log.apart_record _ _ _ _) fun _ => .pure _
  refine .get_bind (fun _ _ => rfl) fun session => ?_
  dsimp only
  split
  · exact .ite (logged _ _ _ _) (logged _ _ _ _)
  · refine .ite (.throw _) ?_
    split
    · exact logged _ _ _ _
    · exact .throw _
    · exact logged _ _ _ _
    · exact .throw _

theorem apart_applyOverrides (values : Entries) (overrides : List Override) :
    Apart (applyOverrides values overrides) := by
  induction overrides generalizing values with
  | nil => exact .pure values
  | cons override rest inductionHypothesis =>
      refine .get_bind (fun _ _ => rfl) fun session => ?_
      cases session.environmentText? override.variableName with
      | none => exact inductionHypothesis values
      | some text =>
          exact .bind (.lift _) fun changed => .bind (Log.apart_record _ _ _ _) fun _ =>
            inductionHypothesis changed

theorem apart_load (file : String) : Apart (load file) :=
  .get_bind (fun _ _ => rfl) fun _ => .bind (apart_loadFile _) fun _ =>
    .bind (apart_applyOverrides _ _) fun _ => .bind (Log.apart_record _ _ _ _) fun _ => .pure _

/-- The shared settings do not depend on the queries. -/
theorem apart_shared : Apart shared := by
  refine .get_bind (fun _ _ => rfl) fun session => ?_
  cases session.settings? with
  | some settings => exact .pure settings
  | none =>
      exact .bind (apart_load "") fun _ => .bind (.modify (fun _ _ => rfl) fun _ => rfl) fun _ =>
        .bind (Log.apart_configure _ _) fun _ => .pure _

end Settings

end RecordQuery
