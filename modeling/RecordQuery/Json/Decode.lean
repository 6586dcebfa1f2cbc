import RecordQuery.Number.Numeral
import RecordQuery.Value.Equality

/-!
Values from JSON text.

`Json.decode` reads one value with blanks around it. Objects become mappings in which a later value
of a key replaces the earlier one in its place. A number with a fraction or an exponent is a
floating-point value, and the names `NaN` and `Infinity` are read as well.
-/

namespace RecordQuery.Json

inductive DecodeFault where
  | malformed
  | oversized
deriving DecidableEq

/-- A step of reading: a result and the text after it. -/
abbrev Reading (α : Type) := Except DecodeFault (α × List Char)

def isSpace (character : Char) : Bool :=
  character == ' ' || character == '\t' || character == '\n' || character == '\r'

def skipSpaces (text : List Char) : List Char := text.dropWhile isSpace

def hexValue? (character : Char) : Option Nat :=
  let point := character.toNat
  if 48 ≤ point ∧ point ≤ 57 then some (point - 48)
  else if 65 ≤ point ∧ point ≤ 70 then some (point - 55)
  else if 97 ≤ point ∧ point ≤ 102 then some (point - 87)
  else none

/-- The UTF-16 unit of four hexadecimal digits. -/
def unitValue? (first second third fourth : Char) : Option Nat := do
  let a ← hexValue? first
  let b ← hexValue? second
  let c ← hexValue? third
  let d ← hexValue? fourth
  return 4096 * a + 256 * b + 16 * c + d

def escapeValue? : Char → Option Char
  | '"' => some '"'
  | '\\' => some '\\'
  | '/' => some '/'
  | 'b' => some '\x08'
  | 'f' => some '\x0c'
  | 'n' => some '\n'
  | 'r' => some '\r'
  | 't' => some '\t'
  | _ => none

/-- A string up to its closing quote, as code units: escapes give units, other characters their code
points. -/
def readUnits? : List Char → Option (List Nat × List Char)
  | [] => none
  | '"' :: rest => some ([], rest)
  | '\\' :: 'u' :: a :: b :: c :: d :: rest =>
      match unitValue? a b c d with
      | none => none
      | some unit => (readUnits? rest).map fun (units, after) => (unit :: units, after)
  | '\\' :: letter :: rest =>
      match escapeValue? letter with
      | none => none
      | some character =>
          (readUnits? rest).map fun (units, after) => (character.toNat :: units, after)
  | character :: rest =>
      if character.toNat < 32 || character == '\\' then none
      else (readUnits? rest).map fun (units, after) => (character.toNat :: units, after)

/-- Code units as characters: a high surrogate and the low one after it are one character. -/
def joinUnits : List Nat → List Char
  | [] => []
  | [unit] => [Char.ofNat unit]
  | high :: low :: rest =>
      if 55296 ≤ high ∧ high < 56320 ∧ 56320 ≤ low ∧ low < 57344 then
        Char.ofNat (65536 + 1024 * (high - 55296) + (low - 56320)) :: joinUnits rest
      else Char.ofNat high :: joinUnits (low :: rest)

def readText (text : List Char) : Reading String :=
  match readUnits? text with
  | some (units, rest) => .ok (String.ofList (joinUnits units), rest)
  | none => .error .malformed

def spanDigits : List Char → List Nat × List Char
  | [] => ([], [])
  | character :: rest =>
      if character.isDigit then
        ((character.toNat - 48) :: (spanDigits rest).1, (spanDigits rest).2)
      else ([], character :: rest)

def readFraction? : List Char → Option (List Nat × List Char)
  | '.' :: rest =>
      match spanDigits rest with
      | ([], _) => none
      | found => some found
  | _ => none

def readExponent? : List Char → Option (Int × List Char)
  | mark :: rest =>
      if mark == 'e' || mark == 'E' then
        let (negative, body) := Numeral.splitSign rest
        match spanDigits body with
        | ([], _) => none
        | (digits, after) =>
            let magnitude : Int := Numeral.unsigned digits
            some (if negative then -magnitude else magnitude, after)
      else none
  | [] => none

/-- The digits before the point: a single zero, or digits that do not start with one. -/
def readWhole : List Char → Reading (List Nat)
  | '0' :: rest => .ok ([0], rest)
  | text =>
      match spanDigits text with
      | ([], _) => .error .malformed
      | found => .ok found

/-- A number from the digits before its point and the text after them. -/
def readTail (negative : Bool) (whole : List Nat) (text : List Char) : Reading Value :=
  let fraction? := readFraction? text
  let afterFraction := (fraction?.map Prod.snd).getD text
  let exponent? := readExponent? afterFraction
  let rest := (exponent?.map Prod.snd).getD afterFraction
  if fraction?.isNone && exponent?.isNone then
    if Numeral.maxDigits < whole.length then .error .oversized
    else
      let magnitude : Int := Numeral.unsigned whole
      .ok (.int (if negative then -magnitude else magnitude), rest)
  else
    let fraction := (fraction?.map Prod.fst).getD []
    let exponent := (exponent?.map Prod.fst).getD 0
    .ok (.float (Binary64.ofDecimal negative (Numeral.unsigned (whole ++ fraction))
      (exponent - fraction.length)), rest)

def readNumber (negative : Bool) (text : List Char) : Reading Value :=
  match readWhole text with
  | .error fault => .error fault
  | .ok (whole, rest) => readTail negative whole rest

def names : List (List Char × Value) :=
  [("null".toList, .null), ("true".toList, .bool true), ("false".toList, .bool false),
    ("NaN".toList, .float (.nan 0)), ("Infinity".toList, .float (.infinite false)),
    ("-Infinity".toList, .float (.infinite true))]

def readScalar (text : List Char) : Reading Value :=
  match names.find? fun (name, _) => name.isPrefixOf text with
  | some (name, value) => .ok (value, text.drop name.length)
  | none =>
      match text with
      | '-' :: rest => readNumber true rest
      | _ => readNumber false text

mutual

/-- A value without blanks before it. Every second step takes a character, so fuel of twice the
length of the text never runs out. -/
def readValue : Nat → List Char → Reading Value
  | 0, _ => .error .malformed
  | fuel + 1, text =>
      match text with
      | '"' :: rest => (readText rest).map fun (value, after) => (.text value, after)
      | '[' :: rest =>
          match skipSpaces rest with
          | ']' :: after => .ok (.list [], after)
          | first => (readItems fuel first).map fun (items, after) => (.list items, after)
      | '\x7b' :: rest =>
          match skipSpaces rest with
          | '\x7d' :: after => .ok (.mapping [], after)
          | first =>
              (readEntries fuel first).map fun (entries, after) =>
                (.mapping (Entries.ofList entries), after)
      | _ => readScalar text

def readItems : Nat → List Char → Reading (List Value)
  | 0, _ => .error .malformed
  | fuel + 1, text =>
      match readValue fuel text with
      | .error fault => .error fault
      | .ok (item, after) =>
          match skipSpaces after with
          | ']' :: rest => .ok ([item], rest)
          | ',' :: rest =>
              (readItems fuel (skipSpaces rest)).map fun (items, final) => (item :: items, final)
          | _ => .error .malformed

def readEntries : Nat → List Char → Reading (List (Value × Value))
  | 0, _ => .error .malformed
  | fuel + 1, text =>
      match text with
      | '"' :: rest =>
          match readText rest with
          | .error fault => .error fault
          | .ok (key, afterKey) =>
              match skipSpaces afterKey with
              | ':' :: beforeValue =>
                  match readValue fuel (skipSpaces beforeValue) with
                  | .error fault => .error fault
                  | .ok (value, after) =>
                      match skipSpaces after with
                      | '\x7d' :: final => .ok ([(.text key, value)], final)
                      | ',' :: more =>
                          (readEntries fuel (skipSpaces more)).map fun (entries, final) =>
                            ((.text key, value) :: entries, final)
                      | _ => .error .malformed
              | _ => .error .malformed
      | _ => .error .malformed

end

def decode (text : String) : Except DecodeFault Value :=
  let characters := text.toList
  match readValue (2 * characters.length + 2) (skipSpaces characters) with
  | .error fault => .error fault
  | .ok (value, rest) => if (skipSpaces rest).isEmpty then .ok value else .error .malformed

end RecordQuery.Json
