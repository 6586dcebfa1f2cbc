/-!
Ordered runs at the start of a list.

`ascendingStart` splits off the longest ordered start of a list, reversed if it descends strictly.
`insertAll` adds members to a run one by one, each found its place by halving and put after its
equals. Comparisons can fail; their number and order are fixed.
-/

namespace RecordQuery.Records

variable {α ε : Type}

def insertHalving (less : α → α → Except ε Bool) (pivot : α) :
    Nat → List α → Except ε (List α)
  | 0, sorted => .ok (pivot :: sorted)
  | fuel + 1, sorted =>
      let below := sorted.take (sorted.length / 2)
      match sorted.drop (sorted.length / 2) with
      | [] => .ok (pivot :: below)
      | middle :: above =>
          match less pivot middle with
          | .error failure => .error failure
          | .ok true => (insertHalving less pivot fuel below).map (· ++ middle :: above)
          | .ok false => (insertHalving less pivot fuel above).map (below ++ middle :: ·)

def insertAll (less : α → α → Except ε Bool) : List α → List α → Except ε (List α)
  | sorted, [] => .ok sorted
  | sorted, pivot :: rest =>
      match insertHalving less pivot sorted.length sorted with
      | .error failure => .error failure
      | .ok longer => insertAll less longer rest

/-- Splits off the longest start in which each member compares with the one before it as `below`
says. The start is given last member first and is never empty. -/
def splitRun (less : α → α → Except ε Bool) (below : Bool) :
    α → List α → List α → Except ε (List α × List α)
  | last, found, [] => .ok (last :: found, [])
  | last, found, next :: rest =>
      match less next last with
      | .error failure => .error failure
      | .ok result =>
          if result = below then splitRun less below next (last :: found) rest
          else .ok (last :: found, next :: rest)

def ascendingStart (less : α → α → Except ε Bool) : List α → Except ε (List α × List α)
  | [] => .ok ([], [])
  | [only] => .ok ([only], [])
  | first :: second :: rest =>
      match less second first with
      | .error failure => .error failure
      | .ok true => splitRun less true second [first] rest
      | .ok false =>
          (splitRun less false second [first] rest).map fun (run, after) => (run.reverse, after)

/-- A run of a least length, and the rest: the ordered start, with as many further members inserted
as it lacks. -/
def startRun (less : α → α → Except ε Bool) (least : Nat) (items : List α) :
    Except ε (List α × List α) :=
  match ascendingStart less items with
  | .error failure => .error failure
  | .ok (run, rest) =>
      let lacking := least - run.length
      (insertAll less run (rest.take lacking)).map fun longer => (longer, rest.drop lacking)

end RecordQuery.Records
