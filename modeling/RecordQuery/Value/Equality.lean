import RecordQuery.Value.Basic

/-!
Equality of values, and mappings as finite maps.

`Value.same` compares numbers and truth values by the point that they denote, sequences of one kind
item by item, and mappings as maps, without regard to the order of entries. Not-a-number is the same
only as itself. `Value.equal` is sameness, except that not-a-number equals nothing.
-/

namespace RecordQuery

namespace Value

mutual

def same : Value → Value → Bool
  | .null, .null => true
  | .text left, .text right => left == right
  | .list left, .list right => sameItems left right
  | .tuple left, .tuple right => sameItems left right
  | .set left, .set right => left.length == right.length && allWithin left right
  | .mapping left, .mapping right => left.length == right.length && allEntriesWithin left right
  | .date left, .date right => left.number == right.number
  | .datetime left, .datetime right => left.same right
  | .pattern left leftFlags, .pattern right rightFlags => left == right && leftFlags == rightFlags
  | .float (.nan left), .float (.nan right) => left == right
  | left, right =>
      match left.point?, right.point? with
      | some first, some second => first == second
      | _, _ => false

/-- Item by item, with equal lengths. -/
def sameItems : List Value → List Value → Bool
  | [], [] => true
  | left :: lefts, right :: rights => same left right && sameItems lefts rights
  | _, _ => false

def allWithin : List Value → List Value → Bool
  | [], _ => true
  | item :: rest, others => others.any (fun other => same item other) && allWithin rest others

def allEntriesWithin : List (Value × Value) → List (Value × Value) → Bool
  | [], _ => true
  | (key, value) :: rest, others =>
      others.any (fun (otherKey, other) => same key otherKey && same value other) &&
        allEntriesWithin rest others

end

def isNan : Value → Bool
  | .float (.nan _) => true
  | _ => false

def equal (left right : Value) : Bool := !left.isNan && same left right

def isIn (value : Value) (items : List Value) : Bool := items.any fun item => item.same value

end Value

namespace Entries

def valueOf? (entries : Entries) (key : Value) : Option Value :=
  (entries.find? fun entry => entry.1.same key).map Prod.snd

def get? (entries : Entries) (key : String) : Option Value := entries.valueOf? (.text key)

def has (entries : Entries) (key : String) : Bool := (entries.get? key).isSome

/-- Writes a value; an existing key keeps its place and its first form. -/
def insert : Entries → Value → Value → Entries
  | [], key, value => [(key, value)]
  | (other, old) :: rest, key, value =>
      if other.same key then (other, value) :: rest else (other, old) :: insert rest key value

/-- Writes the value of a text key. -/
def set (entries : Entries) (key : String) (value : Value) : Entries :=
  entries.insert (.text key) value

def erase (entries : Entries) (key : String) : Entries :=
  entries.filter fun entry => !entry.1.equal (.text key)

/-- The entries of a list in which a later value of a key replaces the earlier one in its place. -/
def ofList (pairs : List (Value × Value)) : Entries :=
  pairs.foldl (fun entries pair => entries.insert pair.1 pair.2) []

end Entries

end RecordQuery
