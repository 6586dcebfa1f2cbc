import RecordQuery.Pattern.Basic

/-!
How many characters a part of a pattern can match.

A look behind needs a text of one width. Widths end at the largest repetition count: no larger one
is told from it.
-/

namespace RecordQuery.Pattern

/-- The count of a repetition without a bound, and the largest width. -/
def maxRepeat : Nat := 4294967295

/-- The least and the largest number of characters that a part can match. -/
structure Width where
  least : Nat
  most : Nat
deriving DecidableEq

namespace Width

def zero : Width := ⟨0, 0⟩

def add (first second : Width) : Width :=
  ⟨first.least + second.least, first.most + second.most⟩

def join (first second : Width) : Width :=
  ⟨min first.least second.least, max first.most second.most⟩

/-- A part repeated between two counts. -/
def times (width : Width) (least : Nat) (most? : Option Nat) : Width :=
  ⟨width.least * least, width.most * most?.getD maxRepeat⟩

def clamp (width : Width) : Width :=
  ⟨min width.least (maxRepeat - 1), min width.most maxRepeat⟩

/-- The one number of characters, if there is only one. -/
def fixed? (width : Width) : Option Nat :=
  if width.least = width.most then some width.least else none

end Width

mutual

def Node.width (groups : List (Option Width)) : Node → Width
  | .one _ _ | .any | .set _ _ => ⟨1, 1⟩
  | .anchor _ | .ahead _ _ | .behind _ _ _ => .zero
  | .group _ _ body => (sequenceWidth groups body).clamp
  | .atomic body => (sequenceWidth groups body).clamp
  | .repetition _ least most? body => (sequenceWidth groups body).clamp.times least most?
  | .choice branches => choiceWidth groups branches
  | .reference index => ((groups[index - 1]?).bind id).getD .zero
  | .conditional _ present absent =>
      (sequenceWidth groups present).clamp.join (sequenceWidth groups absent).clamp

def sequenceWidth (groups : List (Option Width)) : List Node → Width
  | [] => .zero
  | node :: rest => (Node.width groups node).add (sequenceWidth groups rest)

def choiceWidth (groups : List (Option Width)) : List (List Node) → Width
  | [] => ⟨maxRepeat - 1, 0⟩
  | branch :: rest => (sequenceWidth groups branch).clamp.join (choiceWidth groups rest)

end

def widthOf (groups : List (Option Width)) (nodes : List Node) : Width :=
  (sequenceWidth groups nodes).clamp

end RecordQuery.Pattern
