import RecordQuery.Log.Recording

/-!
Loggers on a file system that may refuse.

A host can refuse to make a directory or to open a file. The functions here do what those of the
same names do where nothing is refused, up to the first refusal. A logger whose files were refused
stays in its new directory, with the handlers that were made before.
-/

namespace RecordQuery

/-- The failure that a request for a directory ends in: a file stands there or above it. -/
def Files.directoryFault? (files : Files) (path : String) : Option Failure :=
  if (files.get? path).isSome then some (.other "FileExistsError" path)
  else if files.any fun entry => (entry.1 ++ "/").toList.isPrefixOf path.toList then
    some (.other "NotADirectoryError" path)
  else none

/-- The failure that a request for a file ends in: a directory stands there. -/
def Files.fileFault? (files : Files) (path : String) : Option Failure :=
  if files.isDirectory path then some (.other "IsADirectoryError" path) else none

/-- What a host refuses: directories, files, and texts that are nested too deep to be followed.
It also has variables for an environment that lacks them. -/
structure Host where
  directory? : Files → String → Option Failure
  file? : Files → String → Option Failure
  exhausts : String → Bool
  presets : List (String × String)

def Host.usual : Host := ⟨Files.directoryFault?, Files.fileFault?, fun _ => false, []⟩

namespace Log

def openable (host : Host) (files : Files) :
    List (String × Handler) → List (String × Handler) × Option Failure
  | [] => ([], none)
  | (key, handler) :: rest =>
      match host.file? files handler.file with
      | some failure => ([], some failure)
      | none =>
          let (others, failure?) := openable host files rest
          ((key, handler) :: others, failure?)

def obtainable (host : Host) (files : Files) (logger : Logger) :
    List (String × Handler) × Option Failure :=
  match host.directory? files logger.directory with
  | some failure => ([], some failure)
  | none => openable host files logger.handlers

def moveOn (host : Host) (path : String) : Action Unit := do
  let session ← get
  match session.logger? with
  | none => return ()
  | some logger =>
      let moved := logger.setDirectory path
      match obtainable host session.files moved with
      | (_, none) => modify (applySettings (some path) .null)
      | (handlers, some failure) =>
          if moved.directory = logger.directory then modify (applySettings (some path) .null)
          else
            let left := { moved with handlers }
            modify fun session =>
              { session with logger? := some left, files := left.openFiles session.files }
            throw failure

def makeOn (host : Host) : Action Unit := do
  let session ← get
  match session.logger? with
  | some _ => return ()
  | none =>
      let logger := ofEnvironment session
      match obtainable host session.files logger with
      | (handlers, some failure) =>
          modify fun session =>
            { session with files := { logger with handlers }.openFiles session.files }
          throw failure
      | (_, none) =>
          modify fun session =>
            { session with logger? := some logger, files := logger.openFiles session.files }
          match session.settings? with
          | none => return ()
          | some settings =>
              modify (applySettings none settings.logLevel)
              moveOn host settings.logDirectory

/-- Applies settings to the logger; only a text names a directory. -/
def configureOn (host : Host) (directory level : Value) : Action Unit := do
  makeOn host
  modify (applySettings none level)
  match directory with
  | .null => return ()
  | .text path => moveOn host path
  | _ => throw .mismatch

def emitBy (text : String) : Option Handler → Action Unit
  | none => throw .missingKey
  | some handler => modify fun session => { session with files := emit text session.files handler }

def deliver (text : String) (logger : Logger) (handler? : Option Handler) (level : Int) :
    Action Unit :=
  match handler? with
  | none => throw .missingKey
  | some handler => do
      if handler.level ≤ level then emitBy text (some handler)
      if errorLevel ≤ level then emitBy text (logger.handler? errorsKey)

def routeOn (host : Host) (severity : Severity) (message : String) (fields : Entries) :
    Action Unit := do
  makeOn host
  if clashes fields then throw .mismatch
  let logger := ((← get).logger?).getD (Logger.make "logs" infoLevel)
  if logger.isEnabledFor severity.level then
    let text ← Action.lift (line (← get).time (.int severity.level) (.text message) fields)
    let handler? ← Action.lift (logger.handlerOf? ((fields.get? "component").getD .null))
    deliver text logger handler? severity.level

def recordOn (host : Host) (component : String) (severity : Severity) (message : String)
    (fields : Entries) : Action Unit := do
  if clashes fields then throw .mismatch
  routeOn host severity message (completeFields (← get) component fields)

end Log

end RecordQuery
