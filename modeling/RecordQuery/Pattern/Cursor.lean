import RecordQuery.Number.Shortest
import RecordQuery.Pattern.Fault
import RecordQuery.Pattern.Width

/-!
A place in the text of a pattern that is being read.

Reading goes by tokens: a backslash and the character after it are one. A fault is reported with its
place, counted in characters from zero, and with line and column if the pattern has more than one
line.
-/

namespace RecordQuery.Pattern

/-- A unit of the pattern's text: a character, or a backslash with the character after it. -/
inductive Token where
  | plain (character : Char)
  | escape (character : Char)
deriving DecidableEq

namespace Token

def text : Token → List Char
  | .plain character => [character]
  | .escape character => ['\\', character]

def length : Token → Nat
  | .plain _ => 1
  | .escape _ => 2

def is (token : Token) (character : Char) : Bool := token == .plain character

end Token

/-- The state of reading. -/
structure Cursor where
  source : List Char
  rest : List Char
  position : Nat
  flags : Flags
  unicode : Bool
  groups : List (Option Width)
  names : List (List Char × Nat)
  behind? : Option Nat
  conditions : List (Nat × Nat)

abbrev Reading := StateT Cursor (Except Fault)

def placed (source : List Char) (position : Nat) (reason : List Char) : Fault :=
  let before := source.take position
  let line := before.count '\n' + 1
  let column := (before.reverse.takeWhile (· != '\n')).length + 1
  let suffix :=
    if source.contains '\n' then
      " (line ".toList ++ digitsOf line ++ ", column ".toList ++ digitsOf column ++ [')']
    else []
  .malformed (String.ofList (reason ++ " at position ".toList ++ digitsOf position ++ suffix))

/-- Stops with a reason, placed a number of characters before the next token. -/
def failAt {α : Type} (reason : List Char) (back : Nat) : Reading α := fun cursor =>
  .error (placed cursor.source (cursor.position - back) reason)

def failHere {α : Type} (reason : String) : Reading α := failAt reason.toList 0

def peek : Reading (Option Token) := do
  match (← get).rest with
  | [] => return none
  | '\\' :: character :: _ => return some (.escape character)
  | character :: _ => return some (.plain character)

/-- A backslash at the end of the pattern is no token. -/
def checkNext : Reading Unit := do
  let cursor ← get
  if cursor.rest == ['\\'] then
    throw (placed cursor.source (cursor.source.length - 1) "bad escape (end of pattern)".toList)

/-- Moves past the next token. -/
def advance : Reading Unit := do
  match ← peek with
  | none => return ()
  | some token =>
      modify fun cursor =>
        { cursor with
          rest := cursor.rest.drop token.length
          position := cursor.position + token.length }
      checkNext

def take : Reading (Option Token) := do
  let token ← peek
  advance
  return token

def takeIf (character : Char) : Reading Bool := do
  if (← peek) == some (.plain character) then
    advance
    return true
  else return false

def takeWhile (test : Char → Bool) : Nat → Reading (List Char)
  | 0 => return []
  | limit + 1 => do
      match ← peek with
      | some (.plain character) =>
          if test character then
            advance
            return character :: (← takeWhile test limit)
          else return []
      | _ => return []

/-- Takes a name up to a closing character; `fuel` is at least the length of the rest. -/
def takeName (close : Char) (what : String) (fuel : Nat) (found : List Char) :
    Reading (List Char) := do
  match fuel with
  | 0 => return found
  | fuel + 1 =>
      match ← take with
      | none =>
          if found.isEmpty then failHere ("missing " ++ what)
          else
            failAt ("missing ".toList ++ close :: ", unterminated name".toList) found.length
      | some token =>
          if token.is close then
            if found.isEmpty then failAt ("missing " ++ what).toList 1 else return found
          else takeName close what fuel (found ++ token.text)

def isOctal (character : Char) : Bool := '0' ≤ character && character ≤ '7'

def isHex (character : Char) : Bool :=
  character.isDigit || ('a' ≤ character && character ≤ 'f') ||
    ('A' ≤ character && character ≤ 'F')

def numberOf (base : Nat) (digits : List Char) : Nat :=
  digits.foldl (fun value digit =>
    let point := digit.toLower.toNat
    base * value + (if point < 58 then point - 48 else point - 87)) 0

end RecordQuery.Pattern
