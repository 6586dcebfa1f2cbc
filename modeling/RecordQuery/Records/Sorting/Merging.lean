import RecordQuery.Records.Sorting.Leading

/-!
Merging two ordered runs into one.

Members are taken from the fronts of both runs by turns. When one run gives many members in a row,
the merge leaps: it counts how many more that run gives at once. `patience` is how many members in a
row start the leaps; it sinks while leaps pay and rises when they do not, over all merges of a sort.
-/

namespace RecordQuery.Records

variable {α ε : Type}

structure Merging (α : Type) where
  merged : List α
  guarded : List α
  other : List α

namespace Merging

def isSettled (merging : Merging α) : Bool :=
  merging.other.isEmpty || decide (merging.guarded.length ≤ 1)

def result (merging : Merging α) : List α :=
  merging.merged.reverse ++ merging.other ++ merging.guarded

def takeGuarded (merging : Merging α) (count : Nat) : Merging α where
  merged := (merging.guarded.take count).reverse ++ merging.merged
  guarded := merging.guarded.drop count
  other := merging.other

def takeOther (merging : Merging α) (count : Nat) : Merging α where
  merged := (merging.other.take count).reverse ++ merging.merged
  guarded := merging.guarded
  other := merging.other.drop count

/-- Takes members by turns until one run gave as many in a row as `patience` says. `comesFirst` says
whether a member of the other run goes before one of the guarded run. -/
def byTurns (comesFirst : α → α → Except ε Bool) (patience : Nat) :
    Nat → Nat → Nat → Merging α → Except ε (Merging α)
  | 0, _, _, merging => .ok merging
  | fuel + 1, guardedWins, otherWins, merging =>
      match merging.guarded.head?, merging.other.head? with
      | some front, some other =>
          match comesFirst front other with
          | .error failure => .error failure
          | .ok true =>
              let next := merging.takeOther 1
              if next.isSettled || decide (patience ≤ otherWins + 1) then .ok next
              else byTurns comesFirst patience fuel 0 (otherWins + 1) next
          | .ok false =>
              let next := merging.takeGuarded 1
              if next.isSettled || decide (patience ≤ guardedWins + 1) then .ok next
              else byTurns comesFirst patience fuel (guardedWins + 1) 0 next
      | _, _ => .ok merging

/-- Takes all members of the guarded run that go before the front of the other one, then that
front; with the count of the leap. -/
def leapGuarded (comesFirst : α → α → Except ε Bool) (mirrored : Bool) (merging : Merging α) :
    Except ε (Nat × Merging α) :=
  match merging.other.head? with
  | none => .ok (0, merging)
  | some other =>
      let staysBefore := fun (front : α) => (comesFirst front other).map not
      (countLeading staysBefore mirrored merging.guarded).map fun count =>
        let moved := merging.takeGuarded count
        (count, if moved.isSettled then moved else moved.takeOther 1)

/-- Takes all members of the other run that go before the front of the guarded one, then that
front; with the count of the leap. -/
def leapOther (comesFirst : α → α → Except ε Bool) (mirrored : Bool) (merging : Merging α) :
    Except ε (Nat × Merging α) :=
  match merging.guarded.head? with
  | none => .ok (0, merging)
  | some front =>
      (countLeading (comesFirst front) mirrored merging.other).map fun count =>
        let moved := merging.takeOther count
        (count, if moved.isSettled then moved else moved.takeGuarded 1)

def leapBoth (comesFirst : α → α → Except ε Bool) (mirrored : Bool) (merging : Merging α) :
    Except ε (Nat × Merging α) := do
  let leapFirst := if mirrored then leapOther else leapGuarded
  let leapSecond := if mirrored then leapGuarded else leapOther
  let (count, merging) ← leapFirst comesFirst mirrored merging
  if merging.isSettled then return (count, merging)
  else
    let (otherCount, merging) ← leapSecond comesFirst mirrored merging
    return (max count otherCount, merging)

def longLeap : Nat := 7

def leaps (comesFirst : α → α → Except ε Bool) (mirrored : Bool) :
    Nat → Nat → Merging α → Except ε (Nat × Merging α)
  | 0, patience, merging => .ok (patience, merging)
  | fuel + 1, patience, merging => do
      let patience := max (patience - 1) 1
      let (count, merging) ← leapBoth comesFirst mirrored merging
      if merging.isSettled then return (patience, merging)
      else if longLeap ≤ count then leaps comesFirst mirrored fuel patience merging
      else return (patience + 1, merging)

def settle (comesFirst : α → α → Except ε Bool) (mirrored : Bool) :
    Nat → Nat → Merging α → Except ε (Nat × Merging α)
  | 0, patience, merging => .ok (patience, merging)
  | fuel + 1, patience, merging => do
      if merging.isSettled then return (patience, merging)
      else
        let merging ← byTurns comesFirst patience (fuel + 1) 0 0 merging
        if merging.isSettled then return (patience, merging)
        else
          let (patience, merging) ← leaps comesFirst mirrored (fuel + 1) (patience + 1) merging
          settle comesFirst mirrored fuel patience merging

end Merging

def blend (comesFirst : α → α → Except ε Bool) (mirrored : Bool) (patience : Nat)
    (guarded other : List α) : Except ε (Nat × List α) :=
  let start : Merging α := (Merging.mk [] guarded other).takeOther 1
  (Merging.settle comesFirst mirrored (guarded.length + other.length) patience start).map
    fun (patience, merging) => (patience, merging.result)

/-- Merges two neighbouring runs, with the patience after it. Members of the left one that go before
all of the right one stay, and so do members of the right one that go after all of the left one. The
shorter one of what is left is guarded; the right one is merged from its end. -/
def mergeRuns (less : α → α → Except ε Bool) (patience : Nat) (left right : List α) :
    Except ε (Nat × List α) := do
  match right.head? with
  | none => return (patience, left)
  | some first =>
      let settledFirst ← countLeading (fun item => (less first item).map not) false left
      let before := left.take settledFirst
      let left := left.drop settledFirst
      match left.getLast? with
      | none => return (patience, before ++ right)
      | some last =>
          let settledLast ←
            countLeading (fun item => (less item last).map not) true right.reverse
          let after := right.drop (right.length - settledLast)
          let right := right.take (right.length - settledLast)
          if right.isEmpty then return (patience, before ++ left ++ after)
          else if left.length ≤ right.length then
            let (patience, merged) ←
              blend (fun item other => less other item) false patience left right
            return (patience, before ++ merged ++ after)
          else
            let (patience, merged) ← blend less true patience right.reverse left.reverse
            return (patience, before ++ merged.reverse ++ after)

end RecordQuery.Records
