import RecordQuery.Failure
import RecordQuery.Number.Numeral
import RecordQuery.Value.Equality

/-!
Settings: nested mappings with defaults and overrides.

A value is found under a dotted path. Overrides come from a file and, above it, from variables of
the environment, whose text is read as a truth value or a number where it spells one.
-/

namespace RecordQuery

/-- Settings and the file that they were asked from. -/
structure Settings where
  file : String
  values : Entries

namespace Settings

/-- The file that is read unless another one is named. -/
def defaultFile : String := "query_config.json"

def fileVariable : String := "DOCQUERY_CONFIG_FILE"

def defaultOperators : List Value := [.text "$nearSphere"]

def defaultPointLimit : Int := 3

/-- The values that hold without any file or variable. -/
def defaults : Entries :=
  [(.text "query", .mapping
      [(.text "unsupported_offline_operators", .list defaultOperators),
        (.text "recursive_offline_check", .bool false),
        (.text "max_polygon_points", .int defaultPointLimit)]),
    (.text "logging", .mapping
      [(.text "level", .text "INFO"), (.text "external_logs_dir", .text "logs")])]

mutual

def mergeValue (base? : Option Value) : Value → Value
  | .mapping entries =>
      match base? with
      | some (.mapping base) => .mapping (merge base entries)
      | _ => .mapping entries
  | value => value

def merge (base : Entries) : List (Value × Value) → Entries
  | [] => base
  | (key, value) :: rest => merge (base.insert key (mergeValue (base.valueOf? key) value)) rest

end

/-- The value of a variable: a truth value, a whole number, a floating-point value, or the text. -/
def convert (text : String) : Value :=
  let characters := text.toList
  let lower := String.ofList (characters.map Char.toLower)
  if lower = "true" then .bool true
  else if lower = "false" then .bool false
  else
    match if characters.contains '.' then none else Numeral.integer? characters with
    | some value => .int value
    | none =>
        match Numeral.real? characters with
        | some value => .float value
        | none => .text text

structure Override where
  variableName : String
  sectionName : String
  valueName : String

def Override.path (override : Override) : String :=
  override.sectionName ++ "." ++ override.valueName

def overrides : List Override :=
  [⟨"QUERY_RECURSIVE_OFFLINE_CHECK", "query", "recursive_offline_check"⟩,
    ⟨"QUERY_MAX_POLYGON_POINTS", "query", "max_polygon_points"⟩,
    ⟨"LOG_LEVEL", "logging", "level"⟩,
    ⟨"LOG_DIR", "logging", "external_logs_dir"⟩]

def writeInto (values : Entries) (sectionName name : String) (value : Value) :
    Except Failure Entries :=
  match values.get? sectionName with
  | none => .ok (values.set sectionName (.mapping [(.text name, value)]))
  | some (.mapping entries) =>
      .ok (values.set sectionName (.mapping (Entries.set entries name value)))
  | some _ => .error .mismatch

def getParts? (value : Value) : List String → Option Value
  | [] => some value
  | part :: rest =>
      match value with
      | .mapping entries => (Entries.get? entries part).bind fun next => getParts? next rest
      | _ => none

def valueAt? (settings : Settings) (path : String) : Option Value :=
  getParts? (.mapping settings.values) (Text.pathParts path)

def valueAt (settings : Settings) (path : String) (default : Value) : Value :=
  (settings.valueAt? path).getD default

/-- The operators that queries cannot be evaluated with. A single one stands for a list. -/
def unsupportedOperators (settings : Settings) : Except Failure (List Value) :=
  match settings.valueAt "query.unsupported_offline_operators" (.list defaultOperators) with
  | .text operator => .ok [.text operator]
  | .list operators | .tuple operators => .ok operators
  | _ => .error (.settings .operatorsNotList)

/-- Whether operands of combinators are searched for unsupported operators. -/
def recursiveCheck (settings : Settings) : Bool :=
  (settings.valueAt "query.recursive_offline_check" (.bool false)).isTruthy

def pointLimit (settings : Settings) : Except Failure Int :=
  match settings.valueAt "query.max_polygon_points" (.int defaultPointLimit) with
  | .int limit =>
      if limit < 1 then .error (.settings (.invalidPointLimit (.int limit))) else .ok limit
  | value => .error (.settings (.invalidPointLimit value))

def logLevel (settings : Settings) : Value := settings.valueAt "logging.level" (.text "INFO")

def logDirectory (settings : Settings) : String :=
  String.ofList (settings.valueAt "logging.external_logs_dir" (.text "logs")).plain

end Settings

end RecordQuery
