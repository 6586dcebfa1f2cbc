/-!
The marks that groups leave in a text.

A group is marked where it was last entered and where it was last left, so group `i + 1` has the
marks `2 * i` and `2 * i + 1`. A failed attempt leaves its marks behind, save those that
`Marks.restore` takes back.
-/

namespace RecordQuery.Pattern

/-- Places by number of mark; marks that were passed over have none. -/
abbrev Marks := List (Option Nat)

namespace Marks

def put (marks : Marks) (index place : Nat) : Marks :=
  if index < marks.length then marks.set index (some place)
  else marks ++ List.replicate (index - marks.length) none ++ [some place]

def place? (marks : Marks) (index : Nat) : Option Nat := (marks[index]?).bind id

def group? (marks : Marks) (index : Nat) : Option (Nat × Nat) :=
  match marks.place? (2 * index - 2), marks.place? (2 * index - 1) with
  | some start, some stop => if start ≤ stop then some (start, stop) else none
  | _, _ => none

/-- The marks with which the next attempt starts, from those before a failed one and those after it.
Inside a loop they are those from before; elsewhere marks that the attempt added are dropped, and
those that it moved stay moved. -/
def restore (looping : Bool) (before after : Marks) : Marks :=
  if looping then before else after.take before.length

def reversed : Marks → Bool
  | some start :: some stop :: rest => decide (stop < start) || reversed rest
  | _ :: _ :: rest => reversed rest
  | _ => false

end Marks

end RecordQuery.Pattern
