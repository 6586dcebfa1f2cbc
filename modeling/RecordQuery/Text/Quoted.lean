import RecordQuery.Text.Printable

/-!
Text in quotes, as messages show it: printable characters stand for themselves, the others for an
escape with their code point in hexadecimal digits.
-/

namespace RecordQuery.Text

/-- A hexadecimal digit in lower case. -/
def hexDigit (value : Nat) : Char :=
  if value < 10 then Char.ofNat (48 + value) else Char.ofNat (87 + value)

def hexDigits : Nat → Nat → List Char
  | 0, _ => []
  | width + 1, value => hexDigits width (value / 16) ++ [hexDigit (value % 16)]

/-- Double quotes are used for text that holds single quotes and no double ones. -/
def quoteFor (text : List Char) : Char :=
  if text.contains '\'' && !text.contains '"' then '"' else '\''

def escaped (quote character : Char) : List Char :=
  if character == quote || character == '\\' then ['\\', character]
  else if character == '\n' then ['\\', 'n']
  else if character == '\t' then ['\\', 't']
  else if character == '\r' then ['\\', 'r']
  else if isPrintable character then [character]
  else
    let point := character.toNat
    if point < 256 then '\\' :: 'x' :: hexDigits 2 point
    else if point < 65536 then '\\' :: 'u' :: hexDigits 4 point
    else '\\' :: 'U' :: hexDigits 8 point

def quoted (text : List Char) : List Char :=
  let quote := quoteFor text
  quote :: (text.flatMap (escaped quote) ++ [quote])

end RecordQuery.Text
