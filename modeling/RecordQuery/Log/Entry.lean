import RecordQuery.Json.Encode
import RecordQuery.Matching.Presence

/-!
Entries of the log.

An entry is one line of JSON text: a time, the name of a level, a message, and further fields in the
order in which they were given.
-/

namespace RecordQuery.Log

def levels : List (String × Int) :=
  [("CRITICAL", 50), ("FATAL", 50), ("ERROR", 40), ("WARNING", 30), ("WARN", 30), ("INFO", 20),
    ("DEBUG", 10), ("NOTSET", 0)]

def infoLevel : Int := 20

def errorLevel : Int := 40

def unnamedTag (level : Value) : Except Failure Value :=
  if level.isShown then .ok (.text ("Level " ++ String.ofList level.plain))
  else .error .invalidValue

/-- What an entry gives as its level: the name of a number that has one, the number of a name, and
anything else as it is. What cannot be a key is no level, nor is a tuple of more or less than one
item. -/
def levelTag (level : Value) : Except Failure Value :=
  if !level.isKey then .error .mismatch
  else
    match levels.find? fun entry => level.equal (.int entry.2), level with
    | some (name, _), _ => .ok (.text name)
    | none, .text name =>
        match levels.find? fun entry => entry.1 == name with
        | some (_, number) => .ok (.int number)
        | none => unnamedTag level
    | none, .tuple [only] => unnamedTag only
    | none, .tuple _ => .error .mismatch
    | none, _ => unnamedTag level

/-- The upper case of a letter, as far as level names can tell it apart: the dotless `i` and the
long `s` have upper cases in ASCII too. -/
def upper (character : Char) : Char :=
  if character.toNat = 305 then 'I' else if character.toNat = 383 then 'S' else character.toUpper

/-- The number of a level name in any case; anything else is the level of ordinary messages. -/
def resolveLevel : Value → Int
  | .text name =>
      let wanted := String.ofList (name.toList.map upper)
      ((levels.find? fun entry => entry.1 == wanted).map Prod.snd).getD infoLevel
  | _ => infoLevel

/-- The fields that no call can give, as they name parts of every entry. -/
def reserved : List String := ["self", "level", "message"]

def clashes (fields : Entries) : Bool :=
  fields.any fun entry =>
    match entry.1.text? with
    | some name => reserved.contains name
    | none => true

def withDefault (fields : Entries) (key value : Value) : Entries :=
  if (fields.valueOf? key).isSome then fields else fields.insert key value

def parts (time : String) (tag message : Value) (fields : Entries) : Entries :=
  fields.foldl (fun entry field => entry.insert field.1 field.2)
    [(.text "timestamp", .text time), (.text "level", tag), (.text "message", message)]

def line (time : String) (level message : Value) (fields : Entries) : Except Failure String :=
  if clashes fields then .error .mismatch
  else
    match levelTag level with
    | .error failure => .error failure
    | .ok tag =>
        (Json.encode Json.Layout.spaced (.mapping (parts time tag message fields))).map
          String.ofList

/-- The components by parts of the names of modules, the most specific one first. -/
def componentTable : List (String × String) :=
  [("utils.config", "config"), ("query.evaluator", "evaluator"),
    ("query.serializer", "serializer"), ("docquery.query", "query")]

def systemComponent : String := "system"

def componentOf (moduleName : Value) : Except Failure String :=
  go componentTable
where
  go : List (String × String) → Except Failure String
    | [] => .ok systemComponent
    | (part, component) :: rest =>
        match Matching.isPresent (.text part) (.value moduleName) with
        | .error failure => .error failure
        | .ok true => .ok component
        | .ok false => go rest

end RecordQuery.Log
