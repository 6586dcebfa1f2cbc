import RecordQuery.Pattern.Flags

/-!
Regular expressions as trees.

A pattern is a sequence of nodes. Repetitions, groups and looks hold sequences of their own.
Characters are given by code points, as a pattern can name code points that no text holds.
-/

namespace RecordQuery.Pattern

inductive Anchor where
  | lineStart
  | lineEnd
  | textStart
  | textEnd
  | wordEdge
  | notWordEdge
deriving DecidableEq

inductive Kind where
  | digit
  | space
  | word
deriving DecidableEq

inductive Member where
  | one (point : Nat)
  | range (first last : Nat)
  | kind (name : Kind) (negated : Bool)
deriving DecidableEq

/-- How a repetition chooses its count: as many as possible, as few as possible, or as many as
possible without giving any back. -/
inductive Greed where
  | greedy
  | reluctant
  | possessive
deriving DecidableEq

def Greed.operatorName : Greed → String
  | .greedy => "MAX_REPEAT"
  | .reluctant => "MIN_REPEAT"
  | .possessive => "POSSESSIVE_REPEAT"

structure Switch where
  on : Flags
  off : Flags
  unicode : Bool
deriving DecidableEq

namespace Switch

def none : Switch := ⟨.none, .none, false⟩

def apply (switch : Switch) (flags : Flags) : Flags :=
  let base := if switch.unicode then { flags with ascii := false } else flags
  (base.union switch.on).without switch.off

end Switch

/-- A part of a pattern. A look behind has the width of its text, if that is one number. -/
inductive Node where
  | one (negated : Bool) (point : Nat)
  | any
  | set (negated : Bool) (members : List Member)
  | anchor (place : Anchor)
  | group (index? : Option Nat) (switch : Switch) (body : List Node)
  | atomic (body : List Node)
  | ahead (negated : Bool) (body : List Node)
  | behind (negated : Bool) (width? : Option Nat) (body : List Node)
  | repetition (greed : Greed) (least : Nat) (most? : Option Nat) (body : List Node)
  | choice (branches : List (List Node))
  | reference (index : Nat)
  | conditional (index : Nat) (present absent : List Node)

/-- A pattern ready for searching: its tree and the modes that hold from its start. -/
structure Compiled where
  body : List Node
  flags : Flags

end RecordQuery.Pattern
