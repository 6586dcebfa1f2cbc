import RecordQuery.Log.Logger
import RecordQuery.Query.Store
import RecordQuery.Settings.Values

/-!
The state that operations share, and operations that can fail.

An operation that fails keeps what it changed before the failure.
-/

namespace RecordQuery

structure Session where
  environment : List (String × String)
  files : Files
  settings? : Option Settings
  logger? : Option Log.Logger
  correlation? : Option String
  context : Entries
  /-- Correlation identifiers that were made up, the latest one first. -/
  issued : List String
  time : String
  seconds : Binary64
  queries : QueryStore

namespace Session

/-- Nothing is set, loaded or written. -/
def start (time : String) : Session where
  environment := []
  files := []
  settings? := none
  logger? := none
  correlation? := none
  context := []
  issued := []
  time
  seconds := Binary64.zero
  queries := .empty

def environmentText? (session : Session) (name : String) : Option String :=
  (session.environment.find? fun entry => entry.1 == name).map Prod.snd

def setVariable (session : Session) (name : String) (value? : Option String) : Session :=
  let others := session.environment.filter fun entry => entry.1 != name
  { session with environment := others ++ (value?.map fun value => (name, value)).toList }

def lines? (session : Session) (directory file : String) : Option (List String) :=
  (session.files.get? (pathIn directory file)).map fun text =>
    (Text.split '\n' text).filter fun line => line != ""

end Session

abbrev Action := ExceptT Failure (StateM Session)

namespace Action

def lift {α : Type} : Except Failure α → Action α
  | .ok value => pure value
  | .error failure => throw failure

/-- The result of an operation on a state, and the state that it leaves. -/
def perform {α : Type} (action : Action α) (session : Session) : Except Failure α × Session :=
  action.run.run session

end Action

end RecordQuery
