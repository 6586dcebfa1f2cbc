import RecordQuery.Pattern.Matcher
import RecordQuery.Pattern.Reader

/-!
Searching a text for a regular expression.

`search` asks whether the pattern of a source and modes matches from some place of a text; the first
place decides.
-/

namespace RecordQuery.Pattern

def firstMatch? (attempt : Nat → Result) : List Nat → Option State
  | [] => none
  | start :: rest =>
      match attempt start with
      | .ok found => some found
      | .error _ => firstMatch? attempt rest

def Compiled.search (pattern : Compiled) (text : String) : Except Fault Bool :=
  let subject : Subject := text.toList.toArray
  let run := sequenceMatcher pattern.flags subject false pattern.body
  let places := List.range (subject.size + 1)
  let starts :=
    match sequenceLeadingTest? pattern.flags pattern.flags pattern.body with
    | some test => places.filter fun start => (subject[start]?).any test
    | none => places
  match firstMatch? (fun start => run ⟨start, []⟩ .ok) starts with
  | some found => if found.marks.reversed then .error .groupReversed else .ok true
  | none => .ok false

/-- Whether the pattern of a source and modes matches somewhere in a text. -/
def search (source : String) (flags : Flags) (text : String) : Except Fault Bool := do
  (← compile source flags).search text

end RecordQuery.Pattern
