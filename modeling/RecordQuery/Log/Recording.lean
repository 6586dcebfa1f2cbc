import RecordQuery.Session

/-!
Writing to the log, and operations that add to what is written.

The logger is made when it is first needed, from the environment and then from loaded settings.
Every entry carries the component, the current correlation identifier and the context of the
enclosing operations.
-/

namespace RecordQuery.Log

inductive Severity where
  | debug
  | info
  | error
deriving DecidableEq

def Severity.level : Severity → Int
  | .debug => 10
  | .info => infoLevel
  | .error => errorLevel

def applySettings (directory? : Option String) (level : Value) (session : Session) : Session :=
  match session.logger? with
  | none => session
  | some logger =>
      let leveled := logger.setLevel (logger.requestedLevel level)
      let moved := directory?.elim leveled leveled.setDirectory
      { session with logger? := some moved, files := moved.openFiles session.files }

def ofEnvironment (session : Session) : Logger :=
  Logger.make ((session.environmentText? "LOG_DIR").getD "logs")
    (resolveLevel (((session.environmentText? "LOG_LEVEL").map Value.text).getD .null))

def ensureLogger (session : Session) : Session :=
  match session.logger? with
  | some _ => session
  | none =>
      let logger := ofEnvironment session
      let made := { session with logger? := some logger, files := logger.openFiles session.files }
      match session.settings? with
      | some settings => applySettings (some settings.logDirectory) settings.logLevel made
      | none => made

def currentLogger : Action Logger := do
  modify ensureLogger
  return ((← get).logger?).getD (Logger.make "logs" infoLevel)

/-- Applies settings to the logger; only a text names a directory. -/
def configure (directory level : Value) : Action Unit := do
  let _ ← currentLogger
  modify (applySettings none level)
  match directory with
  | .null => return ()
  | .text path => modify (applySettings (some path) .null)
  | _ => throw .mismatch

def reset : Action Unit := modify fun session => { session with logger? := none }

/-- Whether entries of a level are written; what has no order with numbers is no level. -/
def isEnabledFor (level : Value) : Action Bool := do
  match Value.atMost? (.int (← currentLogger).level) level with
  | some enabled => return enabled
  | none => throw .mismatch

/-- The fields of an entry: those of the call, the component, the correlation identifier, which
replaces one of the call, and what the context adds. -/
def completeFields (session : Session) (component : String) (fields : Entries) : Entries :=
  let withComponent := withDefault fields (.text "component") (.text component)
  let withCorrelation :=
    match session.correlation? with
    | some correlation => withComponent.set "correlation_id" (.text correlation)
    | none => withComponent
  session.context.foldl (fun found entry => withDefault found entry.1 entry.2) withCorrelation

def maxBytes : Nat := 10485760

def backup (path : String) (number : Nat) : String :=
  path ++ "." ++ String.ofList (digitsOf number)

def shiftBackups (path : String) : Nat → Files → Files
  | 0, files => files
  | number + 1, files =>
      shiftBackups path number (files.rename (backup path (number + 1)) (backup path (number + 2)))

def rollOver (handler : Handler) (files : Files) : Files :=
  ((shiftBackups handler.file (handler.backups - 1) files).rename handler.file
    (backup handler.file 1)).touch handler.file

def emit (text : String) (files : Files) (handler : Handler) : Files :=
  let line := text ++ "\n"
  let size := ((files.get? handler.file).getD "").utf8ByteSize
  let ready := if maxBytes ≤ size + line.length then rollOver handler files else files
  ready.append handler.file line

def writeLine (text : String) (handlers : List Handler) (files : Files) : Files :=
  handlers.foldl (emit text) files

def route (severity : Severity) (message : String) (fields : Entries) : Action Unit := do
  let logger ← currentLogger
  if clashes fields then throw .mismatch
  if logger.isEnabledFor severity.level then
    let text ← Action.lift (line (← get).time (.int severity.level) (.text message) fields)
    let component := (fields.get? "component").getD .null
    let handlers ← Action.lift (logger.destinations component severity.level)
    modify fun session => { session with files := writeLine text handlers session.files }

def record (component : String) (severity : Severity) (message : String) (fields : Entries) :
    Action Unit := do
  if clashes fields then throw .mismatch
  route severity message (completeFields (← get) component fields)

structure Operation where
  component : String
  name : String
  correlation : String
  context : Entries
  seconds : Binary64

namespace Operation

/-- The correlation identifier after a number of others: eight hexadecimal digits. -/
def identifier (count : Nat) : String :=
  String.ofList (Text.hexDigits 8 ((2654435769 * (count + 1)) % 4294967296))

def correlationFor (given : String) : Action String := do
  if given.isEmpty then
    let fresh := identifier (← get).issued.length
    modify fun session => { session with issued := fresh :: session.issued }
    return fresh
  else return given

def additions (operation : Operation) : Entries :=
  operation.context.foldl (fun entries entry => entries.insert entry.1 entry.2)
    [(.text "operation", .text operation.name)]

/-- Installs the operation's identifier and context and writes the start entry. -/
def enter (operation : Operation) : Action String := do
  let correlation ← correlationFor operation.correlation
  modify fun session =>
    { session with
      correlation? := some correlation
      context := operation.additions.foldl (fun entries entry => entries.insert entry.1 entry.2)
        session.context }
  record operation.component .debug ("operation_start_" ++ operation.name) []
  return correlation

/-- Writes the entry for the end of an operation. The end of the whole program writes none. -/
def finish (operation : Operation) (failure? : Option Failure) : Action Unit :=
  let duration : Value := .float operation.seconds
  match failure? with
  | none =>
      record operation.component .debug ("operation_complete_" ++ operation.name)
        [(.text "duration_seconds", duration), (.text "success", .bool true)]
  | some failure =>
      if failure.isExit then return ()
      else
        record operation.component .error ("operation_error_" ++ operation.name)
          [(.text "duration_seconds", duration), (.text "success", .bool false),
            (.text "error", .text failure.message), (.text "error_type", .text failure.kind)]

/-- The result of an operation's body: a failure or none, and what the body leaves behind. -/
structure Completed (α : Type) where
  failure? : Option Failure
  identifier : String
  payload? : Option α

/-- Runs a body inside an operation. The identifier and context from before are put back after the
entry for its end, whether the body or that entry fails or not. -/
def run {α : Type} (operation : Operation) (body : Session → α × Option Failure × Session)
    (session : Session) : Completed α × Session :=
  match Action.perform (enter operation) session with
  | (.error failure, entered) => (⟨some failure, "", none⟩, entered)
  | (.ok identifier, entered) =>
      let (payload, failure?, after) := body entered
      let (ended, left) := Action.perform (finish operation failure?) after
      let restored := { left with correlation? := session.correlation?, context := session.context }
      match ended with
      | .error failure => (⟨some failure, identifier, some payload⟩, restored)
      | .ok _ => (⟨failure?, identifier, some payload⟩, restored)

end Operation

end RecordQuery.Log
