import RecordQuery.Pattern.Basic

/-!
Choices in their shortest form.

`choiceOf` takes the parts that all branches begin with out of a choice, and writes a choice between
single characters as a set.
-/

namespace RecordQuery.Pattern

def setOf (negated : Bool) (members : List Member) : Node :=
  match members.eraseDups with
  | [.one point] => .one negated point
  | distinct => .set negated distinct

/-- Whether two nodes are the same; nodes that hold sequences are told apart always. -/
def Node.sameLeaf : Node → Node → Bool
  | .one negated point, .one otherNegated otherPoint =>
      negated == otherNegated && point == otherPoint
  | .any, .any => true
  | .set negated members, .set otherNegated otherMembers =>
      negated == otherNegated && members == otherMembers
  | .anchor place, .anchor otherPlace => place == otherPlace
  | .reference index, .reference otherIndex => index == otherIndex
  | _, _ => false

def splitHeads : List Node → List (List Node) → List Node × List (List Node)
  | [], others => ([], [] :: others)
  | head :: rest, others =>
      if others.all fun branch => branch.head?.any head.sameLeaf then
        let (heads, branches) := splitHeads rest (others.map List.tail)
        (head :: heads, branches)
      else ([], (head :: rest) :: others)

def setMembers? : List Node → Option (List Member)
  | [.one false point] => some [.one point]
  | [.set false members] => some members
  | _ => none

def choiceOf (first : List Node) (others : List (List Node)) : List Node :=
  let (heads, branches) := splitHeads first others
  match branches.mapM setMembers? with
  | some members => heads ++ [.set false members.flatten.eraseDups]
  | none => heads ++ [.choice branches]

/-- A sequence in which groups that only hold nodes together are replaced by these nodes. -/
def ungrouped (nodes : List Node) : List Node :=
  nodes.flatMap fun node =>
    match node with
    | .group none switch body => if switch = Switch.none then body else [node]
    | _ => [node]

end RecordQuery.Pattern
