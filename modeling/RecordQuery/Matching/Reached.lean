import RecordQuery.Number.Numeral
import RecordQuery.Text.Pieces
import RecordQuery.Value.Order

/-!
What a path leads to in a record.

A path follows keys of mappings and positions of lists. At a list whose next part is no position it
fans out over the items, and an item that it cannot enter leaves a gap. `Reached` holds such
results; comparisons look through it as through a value, and a gap equals nothing.
-/

namespace RecordQuery

/-- What a path leads to: a value, a gap, or the results of a fan over a list. -/
inductive Reached where
  | gap
  | value (value : Value)
  | fan (items : List Reached)

inductive Relation where
  | above
  | atLeast
  | below
  | atMost
deriving DecidableEq

namespace Relation

def holds? : Relation → Value → Value → Option Bool
  | .above, left, right => right.less? left
  | .atLeast, left, right => right.atMost? left
  | .below, left, right => left.less? right
  | .atMost, left, right => left.atMost? right

def holdsLength : Relation → Nat → Nat → Bool
  | .above, left, right => decide (right < left)
  | .atLeast, left, right => decide (right ≤ left)
  | .below, left, right => decide (left < right)
  | .atMost, left, right => decide (left ≤ right)

end Relation

namespace Reached

def items? : Reached → Option (List Reached)
  | .value found => found.items?.map fun items => items.map .value
  | .fan items => some items
  | .gap => none

def sequence? : Reached → Option (List Reached)
  | .value (.text text) =>
      some (text.toList.map fun character => .value (.text (String.singleton character)))
  | reached => reached.items?

def text? : Reached → Option String
  | .value found => found.text?
  | _ => none

def entries? : Reached → Option Entries
  | .value found => found.entries?
  | _ => none

mutual

def equals : Reached → Value → Bool
  | .gap, _ => false
  | .value left, right => left.equal right
  | .fan items, .list others => equalsItems items others
  | .fan _, _ => false

def equalsItems : List Reached → List Value → Bool
  | [], [] => true
  | item :: rest, other :: others => equals item other && equalsItems rest others
  | _, _ => false

end

mutual

/-- Whether a relation to a value holds, where there is an order between them. -/
def relates? (relation : Relation) : Reached → Value → Option Bool
  | .gap, _ => none
  | .value left, right => relation.holds? left right
  | .fan items, .list others => relatesItems? relation items others
  | .fan _, _ => none

def relatesItems? (relation : Relation) : List Reached → List Value → Option Bool
  | item :: rest, other :: others =>
      if equals item other then relatesItems? relation rest others
      else relates? relation item other
  | items, others => some (relation.holdsLength items.length others.length)

end

/-- Following a path fails at a position that a list does not have. -/
abbrev Walk := List String → Option Reached

/-- The position in a list that an index counts to; a negative one counts from the end. -/
def position? (length : Nat) (index : Int) : Option Nat :=
  if 0 ≤ index then (if index < length then some index.toNat else none)
  else if 0 ≤ index + length then some (index + length).toNat
  else none

def entryWalk? (walks : List (Value × Walk)) (key : String) : Option Walk :=
  (walks.find? fun entry => entry.1.equal (.text key)).map Prod.snd

/-- Enters a list: a part that is an index picks one item, any other part fans out. -/
def walkItems (walks : List Walk) (part : String) (rest : List String) : Option Reached :=
  match Numeral.integer? part.toList with
  | some index => (position? walks.length index).bind fun place =>
      (walks[place]?).bind fun (step : Walk) => step rest
  | none => (walks.mapM fun (step : Walk) => step (part :: rest)).map .fan

mutual

/-- Follows a path from a value. Null takes any path and stays null. -/
def walk : Value → Walk
  | .null => fun _ => some (.value .null)
  | .list items =>
      let walks := listWalks items
      fun path =>
        match path with
        | [] => some (.value (.list items))
        | part :: rest => walkItems walks part rest
  | .tuple items =>
      let walks := listWalks items
      fun path =>
        match path with
        | [] => some (.value (.tuple items))
        | part :: rest => walkItems walks part rest
  | .mapping entries =>
      let walks := mappingWalks entries
      fun path =>
        match path with
        | [] => some (.value (.mapping entries))
        | part :: rest =>
            match entryWalk? walks part with
            | some step => step rest
            | none => some .gap
  | found => fun path =>
      match path with
      | [] => some (.value found)
      | _ :: _ => some .gap

def listWalks : List Value → List Walk
  | [] => []
  | item :: rest => walk item :: listWalks rest

def mappingWalks : List (Value × Value) → List (Value × Walk)
  | [] => []
  | (key, found) :: rest => (key, walk found) :: mappingWalks rest

end

mutual

def follow : Reached → Walk
  | .value found => walk found
  | .gap => fun _ => some .gap
  | .fan items =>
      let walks := follows items
      fun path =>
        match path with
        | [] => some (.fan items)
        | part :: rest => walkItems walks part rest

def follows : List Reached → List Walk
  | [] => []
  | item :: rest => follow item :: follows rest

end

/-- What a dotted path leads to. A position that a list does not have leads to a gap. -/
def reach (reached : Reached) (path : String) : Reached :=
  (follow reached (Text.pathParts path)).getD .gap

end Reached

end RecordQuery
