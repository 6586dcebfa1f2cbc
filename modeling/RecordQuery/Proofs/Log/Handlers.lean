import RecordQuery.Proofs.Log.Files
import RecordQuery.Proofs.Log.Recording

/-!
# Loggers and their handlers

Every logger that comes about is made for a directory and a threshold: another threshold or another
directory gives the logger that would be made for it.
-/

namespace RecordQuery.Log

open RecordQuery.Action

namespace Logger

theorem directory_make (directory : String) (level : Int) :
    (make directory level).directory = plainPath directory := rfl

theorem componentFiles_ne_errorsKey : ∀ entry ∈ componentFiles, entry.1 ≠ errorsKey := by decide

theorem setLevel_make (directory : String) (level other : Int) :
    (make directory level).setLevel other = make directory other := by
  simp only [make, setLevel, makeHandlers, List.map_append, List.map_map, Logger.mk.injEq, true_and]
  apply congrArg₂ (· ++ ·)
  · apply List.map_congr_left
    intro entry member
    simp [componentFiles_ne_errorsKey entry member]
  · simp

theorem setDirectory_make (directory other : String) (level : Int) :
    (make directory level).setDirectory other = make other level := by
  rw [setDirectory]
  split
  · rename_i same
    simp only [make] at same ⊢
    rw [same]
  · rfl

/-- What a setting asks for does not depend on the logger, but for one that asks for nothing. -/
theorem requestedLevel_of_ne_null {value : Value} (given : value ≠ .null) (one other : Logger) :
    one.requestedLevel value = other.requestedLevel value := by
  cases value <;> first | contradiction | rfl

/-- A setting that is applied once more changes nothing. -/
theorem requestedLevel_of_requested {one other : Logger} {value : Value}
    (requested : one.level = other.requestedLevel value) :
    one.requestedLevel value = other.requestedLevel value := by
  by_cases given : value = .null
  · rw [given] at requested ⊢
    exact requested
  · exact requestedLevel_of_ne_null given one other

section Make

variable (directory : String) (level : Int)

def fileHandler (file : String) : Handler := ⟨pathIn (plainPath directory) file, level, 5⟩

def errorsHandler : Handler := ⟨pathIn (plainPath directory) errorsFile, errorLevel, 10⟩

theorem handler?_errorsKey :
    (make directory level).handler? errorsKey = some (errorsHandler directory) := by
  simp [handler?, make, makeHandlers, componentFiles, errorsKey, errorsHandler]

theorem handler?_systemComponent : (make directory level).handler? systemComponent =
    some (fileHandler directory level "system.log") := by
  simp [handler?, make, makeHandlers, componentFiles, systemComponent, fileHandler]

end Make

/-- The handlers of a logger: one for each component, under the threshold, and one for errors. -/
theorem mem_handlers_make {directory key : String} {level : Int} {handler : Handler}
    (member : (key, handler) ∈ (make directory level).handlers) :
    (∃ file, (key, file) ∈ componentFiles ∧
      handler = ⟨pathIn (plainPath directory) file, level, 5⟩) ∨
      key = errorsKey ∧ handler = ⟨pathIn (plainPath directory) errorsFile, errorLevel, 10⟩ := by
  rcases List.mem_append.mp member with listed | last
  · obtain ⟨⟨component, file⟩, held, same⟩ := List.mem_map.mp listed
    obtain ⟨rfl, rfl⟩ := Prod.mk.inj same
    exact .inl ⟨file, held, rfl⟩
  · obtain ⟨rfl, rfl⟩ := Prod.mk.inj (List.mem_singleton.mp last)
    exact .inr ⟨rfl, rfl⟩

end Logger

/-- Settings applied to a logger give the one that would be made for them. -/
theorem applySettings_of_make {session : Session} {directory : String} {level : Int}
    (made : session.logger? = some (Logger.make directory level)) (directory? : Option String)
    (value : Value) : (applySettings directory? value session).logger? =
      some (Logger.make (directory?.getD directory)
        ((Logger.make directory level).requestedLevel value)) := by
  simp only [applySettings, made, Logger.setLevel_make]
  cases directory? with
  | none => rfl
  | some other => exact congrArg some (Logger.setDirectory_make _ _ _)

/-- A logger that is made beside loaded settings is made for them. -/
theorem loggerFor_of_settings {session : Session} {settings : Settings}
    (none : session.logger? = none) (loaded : session.settings? = some settings) :
    loggerFor session = Logger.make settings.logDirectory
      ((ofEnvironment session).requestedLevel settings.logLevel) := by
  let ensured := { session with
    logger? := some (ofEnvironment session)
    files := (ofEnvironment session).openFiles session.files }
  have made : (applySettings (some settings.logDirectory) settings.logLevel ensured).logger? = _ :=
    applySettings_of_make rfl (some settings.logDirectory) settings.logLevel
  simp only [ensured, loaded] at made
  rw [loggerFor, ensureLogger, none]
  simp only [loaded, made]
  rfl

theorem loggerFor_of_none {session : Session} (none : session.logger? = none)
    (unloaded : session.settings? = .none) : loggerFor session = ofEnvironment session := by
  rw [loggerFor, ensureLogger, none]
  simp only [unloaded]
  rfl

theorem loggerFor_of_some {session : Session} {logger : Logger}
    (made : session.logger? = some logger) : loggerFor session = logger := by
  rw [loggerFor, ensureLogger, made]
  simp only [made]
  rfl

theorem logger_ensureLogger (session : Session) :
    (ensureLogger session).logger? = some (loggerFor session) := by
  rcases session with ⟨_, _, _ | settings, _ | logger, _⟩ <;> rfl

theorem opens_foldl_touch (handlers : List (String × Handler)) (files : Files) :
    files.Opens (handlers.foldl (fun files entry => files.touch entry.2.file) files) := by
  induction handlers generalizing files with
  | nil => exact .refl files
  | cons entry rest inductionHypothesis =>
      exact (Files.Opens.touch files _).trans (inductionHypothesis _)

theorem Logger.opens_openFiles (logger : Logger) (files : Files) :
    files.Opens (logger.openFiles files) :=
  opens_foldl_touch logger.handlers files

theorem opens_applySettings (directory? : Option String) (level : Value) (session : Session) :
    session.files.Opens (applySettings directory? level session).files := by
  rw [applySettings]
  split
  · exact .refl _
  · exact Logger.opens_openFiles _ _

/-- Making the logger only opens files. -/
theorem opens_ensureLogger (session : Session) :
    session.files.Opens (ensureLogger session).files := by
  rw [ensureLogger]
  split
  · exact .refl _
  · dsimp only
    split
    · have opened := Logger.opens_openFiles (ofEnvironment session) session.files
      exact opened.trans (opens_applySettings _ _ { session with
        logger? := some (ofEnvironment session)
        files := (ofEnvironment session).openFiles session.files })
    · exact Logger.opens_openFiles _ _

theorem textOf_ensureLogger (session : Session) :
    (ensureLogger session).files.textOf = session.files.textOf :=
  (opens_ensureLogger session).texts

/-- What a logger is made from is not changed by making it. -/
theorem sources_ensureLogger (session : Session) :
    (ensureLogger session).environment = session.environment ∧
      (ensureLogger session).settings? = session.settings? := by
  rcases session with ⟨_, _, _ | settings, _ | logger, _⟩ <;> exact ⟨rfl, rfl⟩

theorem sources_applySettings (directory? : Option String) (level : Value) (session : Session) :
    (applySettings directory? level session).environment = session.environment ∧
      (applySettings directory? level session).settings? = session.settings? := by
  rcases session with ⟨_, _, _, _ | logger, _⟩ <;> exact ⟨rfl, rfl⟩

/-- The session after settings are applied. Only a text names a directory. -/
theorem perform_configure (place value : Value) (session : Session) :
    (perform (configure place value) session).2 =
      let leveled := applySettings none value (ensureLogger session)
      place.text?.elim leveled fun path => applySettings (some path) .null leveled := by
  cases place <;> rfl

theorem sources_configure (place value : Value) (session : Session) :
    (perform (configure place value) session).2.environment = session.environment ∧
      (perform (configure place value) session).2.settings? = session.settings? := by
  rw [perform_configure]
  cases place.text? <;>
    simp only [Option.elim_none, Option.elim_some, sources_applySettings, sources_ensureLogger,
      and_self]

/-- Settings applied to the logger that entries go through give the one that is made for them. -/
theorem logger_configure {session : Session} {directory : String} {level : Int}
    (made : loggerFor session = Logger.make directory level) (place value : Value) :
    (perform (configure place value) session).2.logger? =
      some (Logger.make (place.text?.getD directory)
        ((Logger.make directory level).requestedLevel value)) := by
  have leveled := applySettings_of_make
    ((logger_ensureLogger session).trans (congrArg some made)) none value
  rw [perform_configure]
  cases place.text? with
  | none => exact leveled
  | some path => exact applySettings_of_make leveled (some path) .null

end RecordQuery.Log
