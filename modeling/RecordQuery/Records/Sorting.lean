import RecordQuery.Records.Comparison
import RecordQuery.Records.Sorting.Merging
import RecordQuery.Records.Sorting.Run

/-!
Stable sorting by a comparison that can fail.

The list is cut into ordered runs, which wait on a stack and are merged with their neighbours. The
depth of the boundary between two runs in a halving of the whole list says when: a boundary is
merged away before one that lies less deep is added. The number and order of comparisons are fixed,
so a failing comparison fails at one place, and a comparison without transitivity still gives one
result.
-/

namespace RecordQuery.Records

variable {α ε : Type}

/-- The least length of runs: the size halved until it is below 64, and one more if a rest was
dropped on the way. -/
def leastRun (size : Nat) : Nat :=
  halved size 0
where
  halved (size dropped : Nat) : Nat :=
    if _large : 64 ≤ size then halved (size / 2) (max dropped (size % 2)) else size + dropped

/-- The number of halvings of a range of some size at which two places of it, both doubled, first
fall apart. -/
def boundaryDepth (size : Nat) : Nat → Nat → Nat → Nat
  | 0, _, _ => 0
  | fuel + 1, left, right =>
      if size ≤ left then boundaryDepth size fuel (2 * (left - size)) (2 * (right - size)) + 1
      else if size ≤ right then 1
      else boundaryDepth size fuel (2 * left) (2 * right) + 1

structure Waiting (α : Type) where
  run : List α
  depth : Nat

structure Runs (α : Type) where
  last : List α
  before : List (Waiting α)

namespace Runs

def collapse (less : α → α → Except ε Bool) (depth : Nat) :
    Nat → List α → List (Waiting α) → Except ε (Nat × Runs α)
  | patience, last, [] => .ok (patience, ⟨last, []⟩)
  | patience, last, next :: rest =>
      if depth < next.depth then
        match mergeRuns less patience next.run last with
        | .error failure => .error failure
        | .ok (patience, merged) => collapse less depth patience merged rest
      else .ok (patience, ⟨last, next :: rest⟩)

def push (less : α → α → Except ε Bool) (size patience : Nat) (runs : Runs α) (run : List α) :
    Except ε (Nat × Runs α) :=
  if runs.last.isEmpty then .ok (patience, ⟨run, []⟩)
  else
    let start := runs.before.foldl (fun total waiting => total + waiting.run.length) 0
    let left := 2 * start + runs.last.length
    let right := left + runs.last.length + run.length
    let depth := boundaryDepth size (size + 1) left right
    (collapse less depth patience runs.last runs.before).map fun (patience, found) =>
      (patience, ⟨run, ⟨found.last, depth⟩ :: found.before⟩)

/-- Merges all runs, the shorter neighbour of the last run but one first. -/
def mergeAll (less : α → α → Except ε Bool) (patience : Nat) (last : List α)
    (before : List (Waiting α)) : Except ε (List α) :=
  match before with
  | [] => .ok last
  | [only] => (mergeRuns less patience only.run last).map Prod.snd
  | next :: second :: rest =>
      if second.run.length < last.length then
        match mergeRuns less patience second.run next.run with
        | .error failure => .error failure
        | .ok (patience, merged) => mergeAll less patience last (⟨merged, second.depth⟩ :: rest)
      else
        match mergeRuns less patience next.run last with
        | .error failure => .error failure
        | .ok (patience, merged) => mergeAll less patience merged (second :: rest)
termination_by before.length

def cut (less : α → α → Except ε Bool) (size : Nat) :
    Nat → Nat → Runs α → List α → Except ε (Nat × Runs α)
  | 0, patience, runs, _ => .ok (patience, runs)
  | _, patience, runs, [] => .ok (patience, runs)
  | fuel + 1, patience, runs, items =>
      match startRun less (leastRun size) items with
      | .error failure => .error failure
      | .ok (run, rest) =>
          match runs.push less size patience run with
          | .error failure => .error failure
          | .ok (patience, runs) => cut less size fuel patience runs rest

end Runs

def sortBy (less : α → α → Except ε Bool) (items : List α) : Except ε (List α) :=
  match Runs.cut less items.length items.length Merging.longLeap ⟨[], []⟩ items with
  | .error failure => .error failure
  | .ok (patience, runs) => Runs.mergeAll less patience runs.last runs.before

def precedes (order : Entries) (left right : Value) : Except Failure Bool :=
  match compareRecords left right order with
  | .error failure => .error failure
  | .ok sign =>
      match sign.less? (.int 0) with
      | some below => .ok below
      | none => .error .mismatch

/-- Records in the order of their sort paths; without any they stay as they are. -/
def sortRecords (order : Entries) (records : List Value) : Except Failure (List Value) :=
  if order.isEmpty then .ok records else sortBy (precedes order) records

end RecordQuery.Records
