import RecordQuery.Files
import RecordQuery.Log.Entry

/-!
Routing of log entries to files.

A logger has a directory, a threshold and one handler per component. Components share the files of
their group; a further handler takes all errors.
-/

namespace RecordQuery.Log

/-- The way of entries into a file, from a level on. Earlier files of that name are kept up to a
number of them. -/
structure Handler where
  file : String
  level : Int
  backups : Nat
deriving DecidableEq

/-- A logger; the handlers are found by component. -/
structure Logger where
  directory : String
  level : Int
  handlers : List (String × Handler)

def componentFiles : List (String × String) :=
  [("query", "query.log"), ("evaluator", "query.log"), ("serializer", "query.log"),
    ("system", "system.log"), ("config", "system.log")]

def errorsKey : String := "_errors"

def errorsFile : String := "errors.log"

namespace Logger

def makeHandlers (directory : String) (level : Int) : List (String × Handler) :=
  componentFiles.map (fun (component, file) => (component, ⟨pathIn directory file, level, 5⟩)) ++
    [(errorsKey, ⟨pathIn directory errorsFile, errorLevel, 10⟩)]

def make (directory : String) (level : Int) : Logger :=
  let plain := plainPath directory
  ⟨plain, level, makeHandlers plain level⟩

def handler? (logger : Logger) (key : String) : Option Handler :=
  (logger.handlers.find? fun entry => entry.1 == key).map Prod.snd

/-- The handler of a component; an unknown one belongs to the system. -/
def handlerOf? (logger : Logger) (component : Value) : Except Failure (Option Handler) :=
  if !component.isTruthy then .ok (logger.handler? systemComponent)
  else if !component.isKey then .error .mismatch
  else
    .ok ((component.text?.bind logger.handler?).or (logger.handler? systemComponent))

def openFiles (logger : Logger) (files : Files) : Files :=
  logger.handlers.foldl (fun files entry => files.touch entry.2.file) files

def setLevel (logger : Logger) (level : Int) : Logger :=
  { logger with
    level
    handlers := logger.handlers.map fun (key, handler) =>
      if key = errorsKey then (key, handler) else (key, { handler with level }) }

def setDirectory (logger : Logger) (directory : String) : Logger :=
  let plain := plainPath directory
  if plain = logger.directory then logger
  else { logger with directory := plain, handlers := makeHandlers plain logger.level }

/-- The threshold that a setting asks for; without one it stays. -/
def requestedLevel (logger : Logger) : Value → Int
  | .null => logger.level
  | .int level => level
  | .bool level => if level then 1 else 0
  | value => resolveLevel value

def isEnabledFor (logger : Logger) (level : Int) : Bool := decide (logger.level ≤ level)

/-- The handlers that an entry of a level goes to, once for each time it is written. -/
def destinations (logger : Logger) (component : Value) (level : Int) :
    Except Failure (List Handler) :=
  (logger.handlerOf? component).map fun handler? =>
    (handler?.toList.filter fun handler => handler.level ≤ level) ++
      (if errorLevel ≤ level then (logger.handler? errorsKey).toList else [])

end Logger

end RecordQuery.Log
