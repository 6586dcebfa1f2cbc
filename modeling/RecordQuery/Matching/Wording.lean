import RecordQuery.Matching.Reached
import RecordQuery.Outcome
import RecordQuery.Pattern.Search

/-!
Conditions on the wording of a text: regular expressions.

A pattern is compiled before, a text `/pattern/modes`, or any other text, which is a pattern without
modes.
-/

namespace RecordQuery.Matching

/-- The pattern and modes of a text `/pattern/modes`; the last slash ends the pattern. -/
def unslashed? (text : List Char) : Option (List Char × Pattern.Flags) :=
  let letters := (text.reverse.takeWhile (· != '/')).reverse
  match text with
  | '/' :: rest =>
      let source := rest.take (rest.length - (letters.length + 1))
      if letters.length ≤ 4 ∧ letters.all (fun letter => (Pattern.Flags.ofLetter? letter).isSome) ∧
          letters.length + 2 ≤ rest.length then
        some (source, Pattern.Flags.ofLetters letters)
      else none
  | _ => none

def searchPattern (condition : Value) (source : String) (flags : Pattern.Flags) (text : String) :
    Outcome :=
  match Pattern.search source flags text with
  | .ok found => .ok found
  | .error fault => .error (.untestable (.invalidPattern condition fault))

def matchesPattern (condition : Value) (entry : Reached) : Outcome :=
  match entry.text? with
  | none => .ok false
  | some text =>
      match condition with
      | .pattern source flags => (Pattern.search source flags text).mapError Failure.pattern
      | .text given =>
          match unslashed? given.toList with
          | some (source, flags) => searchPattern condition (String.ofList source) flags text
          | none => searchPattern condition given .none text
      | _ => .error (.untestable (.patternNotText condition))

end RecordQuery.Matching
