import RecordQuery.Pattern.Choice
import RecordQuery.Pattern.Cursor
import RecordQuery.Text.CharacterName
import RecordQuery.Text.Quoted

/-!
Escapes and sets of characters in patterns.

`nodeEscape` reads an escape on its own, `readSet` a set in brackets, in which some escapes mean
something else.
-/

namespace RecordQuery.Pattern

def control? : Char → Option Char
  | 'a' => some '\x07'
  | 'b' => some '\x08'
  | 'f' => some '\x0c'
  | 'n' => some '\n'
  | 'r' => some '\r'
  | 't' => some '\t'
  | 'v' => some '\x0b'
  | '\\' => some '\\'
  | _ => none

def kind? : Char → Option (Kind × Bool)
  | 'd' => some (.digit, false)
  | 'D' => some (.digit, true)
  | 's' => some (.space, false)
  | 'S' => some (.space, true)
  | 'w' => some (.word, false)
  | 'W' => some (.word, true)
  | _ => none

def anchor? : Char → Option Anchor
  | 'A' => some .textStart
  | 'Z' => some .textEnd
  | 'b' => some .wordEdge
  | 'B' => some .notWordEdge
  | _ => none

def pointLimit : Nat := 0x110000

/-- Code points from here on are not even looked at. -/
def wordLimit : Nat := 2147483648

/-- An escape of a fixed number of hexadecimal digits. -/
def hexEscape (letter : Char) (count : Nat) : Reading Nat := do
  let digits ← takeWhile isHex count
  if digits.length = count then
    let value := numberOf 16 digits
    if value < pointLimit then return value
    else if value < wordLimit then
      failAt ("bad escape \\".toList ++ letter :: digits) (count + 2)
    else throw .pointTooLarge
  else
    failAt ("incomplete escape \\".toList ++ letter :: digits) (digits.length + 2)

def namedEscape : Reading Nat := do
  if ← takeIf '\x7b' then
    let name ← takeName '\x7d' "character name" ((← get).rest.length + 1) []
    match Text.namedPoint? name with
    | some point => return point
    | none =>
        failAt ("undefined character name ".toList ++ Text.quoted name) (name.length + 4)
  else failHere "missing \x7b"

def octalEscape (digits : List Char) : Reading Nat := do
  let value := numberOf 8 digits
  if 255 < value then
    failAt ("octal escape value \\".toList ++ digits ++ " outside of range 0-0o377".toList)
      (digits.length + 1)
  else return value

def badEscape {α : Type} (letter : Char) : Reading α :=
  failAt ("bad escape \\".toList ++ [letter]) 2

def setEscape (letter : Char) : Reading Member := do
  match control? letter, kind? letter with
  | some character, _ => return .one character.toNat
  | none, some (name, negated) => return .kind name negated
  | none, none =>
      if letter == 'x' then return .one (← hexEscape letter 2)
      else if letter == 'u' then return .one (← hexEscape letter 4)
      else if letter == 'U' then return .one (← hexEscape letter 8)
      else if letter == 'N' then return .one (← namedEscape)
      else if isOctal letter then
        return .one (← octalEscape (letter :: (← takeWhile isOctal 2)))
      else if letter.isDigit || letter.isAlpha then badEscape letter
      else return .one letter.toNat

def isClosed (cursor : Cursor) (index : Nat) : Bool :=
  match index with
  | 0 => false
  | before + 1 => ((cursor.groups[before]?).bind id).isSome

/-- Inside a look behind only groups from before it can be referred to. -/
def checkBehind (index : Nat) : Reading Unit := do
  let cursor ← get
  match cursor.behind? with
  | none => return ()
  | some count =>
      if !isClosed cursor index then failHere "cannot refer to an open group"
      else if count ≤ index then
        failHere "cannot refer to group defined in the same lookbehind subpattern"

def numberedReference (digits : List Char) : Reading Node := do
  let index := numberOf 10 digits
  let cursor ← get
  if index ≤ cursor.groups.length then
    if !isClosed cursor index then
      failAt "cannot refer to an open group".toList (digits.length + 1)
    else
      checkBehind index
      return .reference index
  else
    failAt ("invalid group reference ".toList ++ digitsOf index) digits.length

/-- An escape outside sets, after its backslash and letter. -/
def nodeEscape (letter : Char) : Reading Node := do
  match anchor? letter, kind? letter, control? letter with
  | some place, _, _ => return .anchor place
  | none, some (name, negated), _ => return .set false [.kind name negated]
  | none, none, some character => return .one false character.toNat
  | none, none, none =>
      if letter == 'x' then return .one false (← hexEscape letter 2)
      else if letter == 'u' then return .one false (← hexEscape letter 4)
      else if letter == 'U' then return .one false (← hexEscape letter 8)
      else if letter == 'N' then return .one false (← namedEscape)
      else if letter == '0' then
        return .one false (numberOf 8 (← takeWhile isOctal 2))
      else if letter.isDigit then
        match ← takeWhile Char.isDigit 1 with
        | [] => numberedReference [letter]
        | second :: _ =>
            if isOctal letter && isOctal second then
              match ← takeWhile isOctal 1 with
              | [] => numberedReference [letter, second]
              | third :: _ => return .one false (← octalEscape [letter, second, third])
            else numberedReference [letter, second]
      else if letter.isAlpha then badEscape letter
      else return .one false letter.toNat

/-- The character or class that starts a range or stands alone in a set. -/
def setItem : Token → Reading Member
  | .plain character => return .one character.toNat
  | .escape letter => setEscape letter

def readMembers (start : Nat) : Nat → List Member → Reading (List Member)
  | 0, found => return found
  | fuel + 1, found => do
      match ← take with
      | none => failAt "unterminated character set".toList ((← get).position - start)
      | some token =>
          if token.is ']' && !found.isEmpty then return found
          else
            let item ← setItem token
            if ← takeIf '-' then
              match ← take with
              | none => failAt "unterminated character set".toList ((← get).position - start)
              | some other =>
                  if other.is ']' then return .one '-'.toNat :: item :: found
                  else
                    let last ← setItem other
                    let bad : Reading (List Member) :=
                      failAt ("bad character range ".toList ++ token.text ++ '-' :: other.text)
                        (token.length + 1 + other.length)
                    match item, last with
                    | .one low, .one high =>
                        if high < low then bad
                        else readMembers start fuel (.range low high :: found)
                    | _, _ => bad
            else readMembers start fuel (item :: found)

def readSet : Reading Node := do
  let start := (← get).position - 1
  let negated ← takeIf '^'
  let members ← readMembers start ((← get).rest.length + 1) []
  return setOf negated members.reverse

end RecordQuery.Pattern
