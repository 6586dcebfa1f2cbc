import RecordQuery.Proofs.Log.Files
import RecordQuery.Proofs.Log.Handlers

/-!
# Loggers that a host gives

Where a host refuses neither the directory of a logger nor one of its files, everything is done as
if nothing could be refused: making the logger, configuring it, and writing an entry. A logger that
is complete has a handler for every component and one for errors, as every logger has that was made
without a refusal.
-/

namespace RecordQuery.Log

open RecordQuery.Action

namespace Logger

/-- A logger with the handlers that entries fall back on: that of the system and that of errors. -/
structure Complete (logger : Logger) : Prop where
  system : ∃ handler, logger.handler? systemComponent = some handler
  errors : ∃ handler, logger.handler? errorsKey = some handler

theorem complete_make (directory : String) (level : Int) : (make directory level).Complete :=
  ⟨⟨_, handler?_systemComponent directory level⟩, _, handler?_errorsKey directory level⟩

theorem Complete.handlerOf? {logger : Logger} (complete : logger.Complete) {component : Value}
    {handler? : Option Handler} (found : logger.handlerOf? component = .ok handler?) :
    ∃ handler, handler? = some handler := by
  obtain ⟨system, held⟩ := complete.system
  rw [Logger.handlerOf?] at found
  split at found
  · exact ⟨system, (Except.ok.inj found).symm.trans held⟩
  · split at found
    · contradiction
    · obtain rfl := Except.ok.inj found
      rw [held]
      cases component.text?.bind logger.handler? <;> exact ⟨_, rfl⟩

def Opened (logger : Logger) (files : Files) : Prop :=
  ∀ entry ∈ logger.handlers, (files.get? entry.2.file).isSome = true

theorem opened_openFiles (logger : Logger) (files : Files) :
    logger.Opened (logger.openFiles files) := by
  rw [Opened, openFiles]
  induction logger.handlers generalizing files with
  | nil => simp
  | cons entry rest inductionHypothesis =>
      refine List.forall_mem_cons.mpr ⟨?_, inductionHypothesis _⟩
      refine (opens_foldl_touch rest _).there _ ?_
      rw [Files.get?_touch, if_pos rfl]
      rfl

/-- Files that exist are not changed by being opened. -/
theorem Opened.openFiles_eq {logger : Logger} {files : Files} (opened : logger.Opened files) :
    logger.openFiles files = files := by
  rw [Opened] at opened
  rw [openFiles]
  generalize logger.handlers = handlers at opened ⊢
  induction handlers with
  | nil => rfl
  | cons entry rest inductionHypothesis =>
      obtain ⟨here, later⟩ := List.forall_mem_cons.mp opened
      rw [List.foldl_cons, Files.touch_of_get? here, inductionHypothesis later]

theorem Opened.setLevel {logger : Logger} {files : Files} (opened : logger.Opened files)
    (level : Int) : (logger.setLevel level).Opened files := by
  intro entry member
  obtain ⟨⟨key, handler⟩, held, rfl⟩ := List.mem_map.mp member
  have there := opened _ held
  by_cases errors : key = errorsKey
  · simpa [errors] using there
  · simpa [errors] using there

theorem setLevel_setLevel (logger : Logger) (level : Int) :
    (logger.setLevel level).setLevel level = logger.setLevel level := by
  simp only [setLevel, List.map_map, mk.injEq, true_and]
  refine List.map_congr_left ?_
  rintro ⟨key, handler⟩ -
  by_cases errors : key = errorsKey <;> simp [errors]

end Logger

variable {host : Host} {session : Session}

/-- A directory is applied after a threshold as it is with it. -/
theorem applySettings_applySettings {logger : Logger} (there : session.logger? = some logger)
    (opened : logger.Opened session.files) (path : String) (level : Value) :
    applySettings (some path) .null (applySettings none level session) =
      applySettings (some path) level session := by
  have leveled := (opened.setLevel (logger.requestedLevel level)).openFiles_eq
  have again : (logger.setLevel (logger.requestedLevel level)).setLevel
      ((logger.setLevel (logger.requestedLevel level)).requestedLevel .null) =
        logger.setLevel (logger.requestedLevel level) := Logger.setLevel_setLevel _ _
  simp only [applySettings, there, Option.elim_none, Option.elim_some, leveled, again]

/-- A host that does not refuse to move the logger lets it move. -/
theorem moveOn_of_ok {path : String} (moved : (perform (moveOn host path) session).1 = .ok ()) :
    perform (moveOn host path) session = (.ok (), applySettings (some path) .null session) := by
  simp only [moveOn, perform_bind, perform_get] at moved ⊢
  cases there : session.logger? with
  | none => simp only [applySettings, there, perform_pure]
  | some logger =>
      rw [there] at moved
      dsimp only at moved ⊢
      generalize obtainable host session.files (logger.setDirectory path) = obtained at moved ⊢
      rcases obtained with ⟨handlers, _ | failure⟩
      · rfl
      · dsimp only at moved ⊢
        split
        · rfl
        · rename_i apart
          rw [if_neg apart] at moved
          contradiction

theorem makeOn_of_ok (made : (perform (makeOn host) session).1 = .ok ()) :
    perform (makeOn host) session = (.ok (), ensureLogger session) := by
  simp only [makeOn, perform_bind, perform_get] at made ⊢
  cases there : session.logger? with
  | some logger => simp only [ensureLogger, there, perform_pure]
  | none =>
      rw [there] at made
      dsimp only at made ⊢
      generalize obtainable host session.files (ofEnvironment session) = obtained at made ⊢
      rcases obtained with ⟨handlers, _ | failure⟩
      · simp only [perform_bind, perform_modify, ensureLogger, there] at made ⊢
        cases loaded : session.settings? with
        | none => rfl
        | some settings =>
            have opened := Logger.opened_openFiles (ofEnvironment session) session.files
            simp only [loaded, perform_bind, perform_modify] at made ⊢
            rw [moveOn_of_ok made, applySettings_applySettings rfl opened]
      · contradiction

theorem openable_of_free {files : Files} {handlers : List (String × Handler)}
    (free : ∀ entry ∈ handlers, host.file? files entry.2.file = none) :
    openable host files handlers = (handlers, none) := by
  induction handlers with
  | nil => rfl
  | cons entry rest inductionHypothesis =>
      obtain ⟨here, later⟩ := List.forall_mem_cons.mp free
      rw [openable, here, inductionHypothesis later]

theorem makeOn_ok (absent : session.logger? = none) (unloaded : session.settings? = none)
    (given : host.directory? session.files (ofEnvironment session).directory = none)
    (free : ∀ entry ∈ (ofEnvironment session).handlers,
      host.file? session.files entry.2.file = none) :
    (perform (makeOn host) session).1 = .ok () := by
  have obtained : obtainable host session.files (ofEnvironment session) =
      ((ofEnvironment session).handlers, none) := by
    rw [obtainable, given]
    exact openable_of_free free
  simp only [makeOn, perform_bind, perform_get, absent, obtained, perform_modify, unloaded,
    perform_pure]

theorem perform_deliver (text : String) {logger : Logger} (complete : logger.Complete)
    {component : Value} {handler? : Option Handler}
    (found : logger.handlerOf? component = .ok handler?) (level : Int) (session : Session) :
    ∃ handlers, logger.destinations component level = .ok handlers ∧
      perform (deliver text logger handler? level) session =
        (.ok (), { session with files := writeLine text handlers session.files }) := by
  obtain ⟨handler, rfl⟩ := complete.handlerOf? found
  obtain ⟨errors, held⟩ := complete.errors
  refine ⟨_, congrArg (Except.map _) found, ?_⟩
  rw [deliver, held]
  by_cases reached : handler.level ≤ level <;> by_cases error : errorLevel ≤ level <;>
    simp [reached, error, perform_bind] <;> rfl

theorem routeOn_eq (made : (perform (makeOn host) session).1 = .ok ())
    (complete : (loggerFor session).Complete) (severity : Severity) (message : String)
    (fields : Entries) :
    perform (routeOn host severity message fields) session =
      perform (route severity message fields) session := by
  by_cases clash : clashes fields = true
  · simp only [routeOn, route, perform_bind, makeOn_of_ok made, perform_currentLogger, clash,
      if_true, perform_throw]
  · have free : clashes fields = false := by simpa using clash
    rw [perform_route free]
    simp only [routeOn, perform_bind, makeOn_of_ok made, free, Bool.false_eq_true, if_false,
      perform_get]
    have logger : ((ensureLogger session).logger?).getD (Logger.make "logs" infoLevel) =
        loggerFor session := rfl
    rw [logger]
    split
    · simp only [perform_bind, perform_get, perform_lift]
      cases line (ensureLogger session).time (.int severity.level) (.text message) fields with
      | error failure => rfl
      | ok text =>
          dsimp only
          cases found : (loggerFor session).handlerOf? ((fields.get? "component").getD .null) with
          | error failure =>
              rw [Logger.destinations, found]
              rfl
          | ok handler? =>
              obtain ⟨handlers, listed, delivered⟩ :=
                perform_deliver text complete found severity.level (ensureLogger session)
              rw [listed]
              exact delivered
    · rfl

theorem recordOn_eq (made : (perform (makeOn host) session).1 = .ok ())
    (complete : (loggerFor session).Complete) (component : String) (severity : Severity)
    (message : String) (fields : Entries) :
    perform (recordOn host component severity message fields) session =
      perform (record component severity message fields) session := by
  rw [recordOn, record]
  split
  · rfl
  · simp only [perform_bind, perform_get]
    exact routeOn_eq made complete severity message (completeFields session component fields)

/-- Without the logger nothing is written: what making it ends in is what the entry ends in. -/
theorem recordOn_of_refused {failure : Failure} {left : Session}
    (refused : perform (makeOn host) session = (.error failure, left)) {component message : String}
    {severity : Severity} {fields : Entries} (own : clashes fields = false) :
    perform (recordOn host component severity message fields) session = (.error failure, left) := by
  simp only [recordOn, routeOn, own, Bool.false_eq_true, if_false, perform_bind, perform_get,
    refused]

theorem makeOn_of_configureOn {directory level : Value}
    (configured : (perform (configureOn host directory level) session).1 = .ok ()) :
    (perform (makeOn host) session).1 = .ok () := by
  unfold configureOn at configured
  rw [perform_bind] at configured
  rcases made : perform (makeOn host) session with ⟨failure | _, _⟩
  · rw [made] at configured
    contradiction
  · rfl

/-- Settings are applied as usual where no refusal comes between. -/
theorem configureOn_eq {directory level : Value} (made : (perform (makeOn host) session).1 = .ok ())
    (moved : ∀ path, directory = .text path →
      (perform (configureOn host directory level) session).1 = .ok ()) :
    perform (configureOn host directory level) session =
      perform (configure directory level) session := by
  cases directory with
  | text path =>
      have configured := moved path rfl
      simp only [configureOn, configure, perform_bind, makeOn_of_ok made, perform_modify,
        perform_currentLogger] at configured ⊢
      exact moveOn_of_ok configured
  | _ =>
      simp only [configureOn, configure, perform_bind, makeOn_of_ok made, perform_modify,
        perform_currentLogger]

end RecordQuery.Log
