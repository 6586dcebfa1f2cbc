import RecordQuery.Number.Shortest
import RecordQuery.Text.Blank
import RecordQuery.Text.Digit

/-!
Numerals in text, as people type them.

`Numeral.integer?` and `Numeral.real?` allow white space around the numeral, digits of any script
and single low lines between digits. `Numeral.unsigned` is the value of a digit list, which the
integer numerals of `JSON` text share.
-/

namespace RecordQuery.Numeral

/-- The longest integer numeral that is read or written, in digits. -/
def maxDigits : Nat := 4300

def isShort (value : Int) : Bool := decide ((digitsOf value.natAbs).length ≤ maxDigits)

def unsigned (digits : List Nat) : Nat := digits.foldl (fun value digit => 10 * value + digit) 0

/-- Digits, each after the first with at most one low line before it. -/
def groupedDigits? : List Char → Option (List Nat)
  | [] => none
  | [last] => (Text.decimalDigit? last).map fun digit => [digit]
  | first :: '_' :: rest =>
      match Text.decimalDigit? first with
      | some digit => (groupedDigits? rest).map (digit :: ·)
      | none => none
  | first :: next :: rest =>
      match Text.decimalDigit? first with
      | some digit => (groupedDigits? (next :: rest)).map (digit :: ·)
      | none => none

def splitSign : List Char → Bool × List Char
  | '-' :: rest => (true, rest)
  | '+' :: rest => (false, rest)
  | rest => (false, rest)

def integer? (text : List Char) : Option Int :=
  let (negative, body) := splitSign (Text.trim Text.isNumeralBlank text)
  match groupedDigits? body with
  | none => none
  | some digits =>
      if maxDigits < digits.length then none
      else if negative then some (-(unsigned digits : Int)) else some (unsigned digits)

def joinGroups? : Bool → List Char → Option (List Char)
  | _, [] => some []
  | afterDigit, '_' :: rest =>
      match rest with
      | next :: _ =>
          if afterDigit && Text.isDecimal next then joinGroups? false rest else none
      | [] => none
  | _, character :: rest =>
      (joinGroups? (Text.isDecimal character) rest).map (character :: ·)

def spanDigits : List Char → List Nat × List Char
  | [] => ([], [])
  | character :: rest =>
      match Text.decimalDigit? character with
      | some digit => ((digit :: (spanDigits rest).1), (spanDigits rest).2)
      | none => ([], character :: rest)

def exponent? : List Char → Option Int
  | [] => some 0
  | mark :: rest =>
      if mark == 'e' || mark == 'E' then
        let (negative, body) := splitSign rest
        match spanDigits body with
        | ([], _) => none
        | (digits, []) => some (if negative then -(unsigned digits : Int) else unsigned digits)
        | (_, _ :: _) => none
      else none

/-- Digits with an optional fraction and exponent, of which one part before the exponent is there.
-/
def decimal? (negative : Bool) (text : List Char) : Option Binary64 :=
  let (whole, afterWhole) := spanDigits text
  let (fraction, rest) :=
    match afterWhole with
    | '.' :: afterPoint => spanDigits afterPoint
    | _ => ([], afterWhole)
  let digits := whole ++ fraction
  if digits.isEmpty then none
  else
    (exponent? rest).map fun exponent =>
      Binary64.ofDecimal negative (unsigned digits) (exponent - fraction.length)

def named? (negative : Bool) (text : List Char) : Option Binary64 :=
  match text.map Char.toLower with
  | ['i', 'n', 'f'] => some (.infinite negative)
  | ['i', 'n', 'f', 'i', 'n', 'i', 't', 'y'] => some (.infinite negative)
  | ['n', 'a', 'n'] => some (.nan 0)
  | _ => none

/-- The floating-point value that a text spells, rounded once. -/
def real? (text : List Char) : Option Binary64 :=
  match joinGroups? false (Text.trim Text.isNumeralBlank text) with
  | none => none
  | some joined =>
      let (negative, body) := splitSign joined
      match named? negative body with
      | some value => some value
      | none => decimal? negative body

end RecordQuery.Numeral
