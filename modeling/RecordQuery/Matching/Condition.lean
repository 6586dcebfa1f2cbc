import RecordQuery.Matching.Prepared
import RecordQuery.Matching.Presence
import RecordQuery.Matching.Remainder
import RecordQuery.Matching.TypeClass
import RecordQuery.Matching.Wording

/-!
Conditions on record values.

`holds` is the meaning of a condition as a test of what a path leads to. A mapping asks for all of
its entries: an operator tests the value itself, a field name tests what lies under it. Any other
condition asks for an equal value or item.
-/

namespace RecordQuery.Matching

/-- Whether numeric and array operators check the kind of the value first. The plain mode is the one
inside a condition on a size. -/
inductive Mode where
  | guarded
  | plain
deriving DecidableEq

abbrev Test := Mode → Reached → Outcome

inductive Operation where
  | equal
  | notEqual
  | related (relation : Relation)
  | among
  | notAmong
  | combined (combinator : Combinator)
  | opposite
  | accepting
  | unavailable
  | ofType
  | remainder
  | size
  | all
  | pattern
  | element
deriving DecidableEq

def operations : List (String × Operation) :=
  [("$eq", .equal), ("$ne", .notEqual), ("$gt", .related .above), ("$gte", .related .atLeast),
    ("$lt", .related .below), ("$lte", .related .atMost), ("$in", .among), ("$nin", .notAmong),
    ("$and", .combined .and), ("$or", .combined .or), ("$nor", .combined .nor),
    ("$not", .opposite), ("$exists", .accepting), ("$comment", .accepting),
    ("$options", .unavailable), ("$text", .unavailable), ("$where", .unavailable),
    ("$type", .ofType), ("$mod", .remainder), ("$size", .size), ("$all", .all),
    ("$regex", .pattern), ("$elemMatch", .element)]

def Operation.ofKey? (key : String) : Option Operation :=
  (operations.find? fun entry => entry.1 == key).map Prod.snd

/-- Whether a value under a path equals a value, or has an item that does. -/
def equalsOrHolds (wanted : Value) (entry : Reached) : Bool :=
  entry.equals wanted || (entry.items?.map fun items => items.any (·.equals wanted)).getD false

/-- Whether a value under a path is one of the choices or, if it is a list, has one as an item. -/
def isAmong (choices : Value) (entry : Reached) : Outcome :=
  match choices.items? with
  | none => .error (.wrongKind .choicesNotList)
  | some values =>
      match entry.items? with
      | some items => .ok (values.any fun wanted => items.any (·.equals wanted))
      | none => .ok (values.any entry.equals)

/-- Whether a size fits a condition on sizes: a condition is tested on the size itself. What has no
size fits no number. -/
def hasSize (argument : Value) (test : Test) (length? : Option Nat) : Outcome :=
  match argument, length? with
  | .mapping _, some length => test .plain (.value (.int length))
  | .mapping _, none => .error .mismatch
  | .int wanted, some length => .ok (wanted == length)
  | .bool wanted, some length => .ok ((if wanted then 1 else 0) == length)
  | .int _, none | .bool _, none => .ok false
  | _, _ => .error (.untestable (.wrongArgument FieldOperator.size.key argument))

/-- Whether some element meets a condition that is a mapping. -/
def hasElement (argument : Value) (test : Test) (mode : Mode) (entry : Reached) : Outcome :=
  match entry.sequence?, argument.entries? with
  | none, _ => .ok false
  | some [], _ => .ok false
  | some elements, some _ => Outcome.any (elements.map fun element _ => test mode element)
  | some _, none => .error (.untestable (.unknownOperator (.text "$elemMatch")))

def operands (combinator : Combinator) (argument : Value) (members? : Option (List Test)) :
    Except Failure (List Test) :=
  let fault := Failure.untestable (.wrongArgument combinator.key argument)
  match argument with
  | .list _ | .tuple _ | .text _ => members?.elim (.error fault) .ok
  | _ => .error fault

def runs (tests : List Test) (mode : Mode) (entry : Reached) : List (Unit → Outcome) :=
  tests.map fun test _ => test mode entry

def combine (combinator : Combinator) (tests : List (Unit → Outcome)) : Outcome :=
  match combinator with
  | .and => Outcome.all tests
  | .or => Outcome.any tests
  | .nor => (Outcome.any tests).negate

def meetsAll (members? : Option (List Test)) (mode : Mode) (entry : Reached) : Outcome :=
  match members? with
  | some members => Outcome.all (runs members mode entry)
  | none => .error .mismatch

/-- The meaning of an operator, given its argument, the argument as a condition, and the argument's
members as conditions. -/
def Operation.apply (operation : Operation) (argument : Value) (test : Test)
    (members? : Option (List Test)) (mode : Mode) (entry : Reached) : Outcome :=
  match operation with
  | .equal => .ok (entry.equals argument)
  | .notEqual => .ok (!entry.equals argument)
  | .related relation => .ok ((entry.relates? relation argument).getD false)
  | .among => isAmong argument entry
  | .notAmong => (isAmong argument entry).negate
  | .combined combinator =>
      match operands combinator argument members? with
      | .ok tests => combine combinator (runs tests mode entry)
      | .error failure => .error failure
  | .opposite => (test mode entry).negate
  | .accepting => .ok true
  | .unavailable => .error .notImplemented
  | .ofType => isOfType argument entry
  | .remainder =>
      match mode with
      | .guarded => hasRemainder argument entry
      | .plain => hasRemainderPlain argument entry
  | .size =>
      match mode, entry.items? with
      | .guarded, none => .ok false
      | .guarded, some items => hasSize argument test (some items.length)
      | .plain, items? => hasSize argument test (items?.map List.length)
  | .all =>
      match mode, entry.items? with
      | .guarded, none => .ok false
      | _, _ => meetsAll members? mode entry
  | .pattern => matchesPattern argument entry
  | .element => hasElement argument test mode entry

def underKey (key : Value) (entry : Reached) : Except Failure Reached :=
  let index? : Option Int :=
    match numeral? key with
    | some (.inl index) => some index
    | _ => none
  match entry, entry.items?, index? with
  | .value (.mapping entries), _, _ =>
      match Entries.valueOf? entries key with
      | some found => .ok (.value found)
      | none => .error .missingKey
  | _, some items, some index =>
      match (Reached.position? items.length index).bind fun place => items[place]? with
      | some item => .ok item
      | none => .error .outOfRange
  | _, _, _ => .error .mismatch

/-- What a demand for presence says: the outcome, or that the rest of the condition decides. -/
def presence? (key argument : Value) (entry : Reached) : Except Failure (Option Bool) :=
  match argument.entries?, argument.entries?.bind (Entries.get? · FieldOperator.exists.key) with
  | some entries, some flag =>
      match key.text?.filter fun path => path.toList.contains '.' with
      | some path => (pathPresence path flag entry).map some
      | none =>
          (isPresent key entry).map fun present =>
            if !flag.equal (.bool present) then some false
            else if entries.length = 1 then some true
            else none
  | _, _ => .ok none

/-- The meaning of an entry of a condition apart from a demand for presence. -/
def entryTest (key argument : Value) (test : Test) (members? : Option (List Test)) : Test :=
  fun mode entry =>
    match key with
    | .text name =>
        if isOperatorText name then
          match Operation.ofKey? name with
          | some operation => operation.apply argument test members? mode entry
          | none => .error (.untestable (.unknownOperator key))
        else test mode (entry.reach name)
    | _ =>
        match isPresent key entry with
        | .error failure => .error failure
        | .ok false => .ok false
        | .ok true =>
            match underKey key entry with
            | .ok found => test mode found
            | .error failure => .error failure

def step (key argument : Value) (test : Test) (members? : Option (List Test)) : Test :=
  fun mode entry =>
    match presence? key argument entry with
    | .error failure => .error failure
    | .ok (some decided) => .ok decided
    | .ok none => entryTest key argument test members? mode entry

def plainTest (wanted : Value) : Test := fun _ entry => .ok (equalsOrHolds wanted entry)

mutual

def holds : Value → Test
  | .mapping entries =>
      let steps := stepTests entries
      fun mode entry => Outcome.all (runs steps mode entry)
  | wanted => plainTest wanted

def stepTests : List (Value × Value) → List Test
  | [] => []
  | (key, argument) :: rest =>
      step key argument (holds argument) (memberTests? argument) :: stepTests rest

def memberTests? : Value → Option (List Test)
  | .list items => some (itemTests items)
  | .tuple items => some (itemTests items)
  | .set items => some (itemTests items)
  | .text text =>
      some (text.toList.map fun character => plainTest (.text (String.singleton character)))
  | .mapping entries => some (entries.map fun entry => plainTest entry.1)
  | _ => none

def itemTests : List Value → List Test
  | [] => []
  | item :: rest => holds item :: itemTests rest

end

def satisfies (filter record : Value) : Outcome :=
  match prepare filter with
  | .ok entries => holds (.mapping entries) .guarded (.value record)
  | .error failure => .error failure

def accepts (filter record : Value) : Outcome := do
  let _ ← build filter
  satisfies filter record

end RecordQuery.Matching
