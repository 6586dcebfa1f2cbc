import RecordQuery.Failure
import RecordQuery.Value.Order

/-!
Values as JSON text in ASCII.

Characters outside ASCII are written as escapes of their UTF-16 units. Values that JSON does not
have are written as the text that shows them on their own. Keys that have no spelling are refused,
and so are integers of too many digits.
-/

namespace RecordQuery.Json

/-- The spellings of the floating-point values that have no digits. -/
def floatNames : Binary64.Names := ⟨['N', 'a', 'N'], ['I', 'n', 'f', 'i', 'n', 'i', 't', 'y']⟩

def unitEscape (unit : Nat) : List Char := '\\' :: 'u' :: Text.hexDigits 4 unit

def escaped (character : Char) : List Char :=
  if character == '"' then ['\\', '"']
  else if character == '\\' then ['\\', '\\']
  else if character == '\n' then ['\\', 'n']
  else if character == '\r' then ['\\', 'r']
  else if character == '\t' then ['\\', 't']
  else if character == '\x0c' then ['\\', 'f']
  else if character == '\x08' then ['\\', 'b']
  else
    let point := character.toNat
    if 32 ≤ point ∧ point < 127 then [character]
    else if point < 65536 then unitEscape point
    else
      unitEscape (55296 + (point - 65536) / 1024) ++ unitEscape (56320 + (point - 65536) % 1024)

def encodeText (text : List Char) : List Char := '"' :: (text.flatMap escaped ++ ['"'])

/-- How the parts of arrays and objects are set apart, and whether keys are sorted. -/
structure Layout where
  itemSeparator : List Char
  keySeparator : List Char
  sortKeys : Bool

def Layout.compact : Layout := ⟨[','], [':'], false⟩

/-- Blanks after separators, and keys in their own order. -/
def Layout.spaced : Layout := ⟨[',', ' '], [':', ' '], false⟩

/-- Blanks after separators, and keys in ascending order. -/
def Layout.sorted : Layout := ⟨[',', ' '], [':', ' '], true⟩

def wholeText (value : Int) : Except Failure (List Char) :=
  if Numeral.isShort value then .ok (intText value) else .error .invalidValue

def keyText : Value → Except Failure (List Char)
  | .null => .ok "null".toList
  | .bool value => .ok (if value then "true".toList else "false".toList)
  | .int value => wholeText value
  | .float value => .ok (value.text floatNames)
  | .text value => .ok value.toList
  | _ => .error .mismatch

def insertByKey {α : Type} (key : Value) (payload : α) :
    List (Value × α) → Except Failure (List (Value × α))
  | [] => .ok [(key, payload)]
  | (other, current) :: rest =>
      match key.less? other with
      | none => .error .mismatch
      | some true => .ok ((key, payload) :: (other, current) :: rest)
      | some false => (insertByKey key payload rest).map ((other, current) :: ·)

/-- Entries in ascending order of their keys. Keys of unlike kinds have no order. -/
def sortByKey {α : Type} : List (Value × α) → Except Failure (List (Value × α))
  | [] => .ok []
  | (key, payload) :: rest =>
      match sortByKey rest with
      | .ok sorted => insertByKey key payload sorted
      | .error failure => .error failure

def encodeObject (layout : Layout) (entries : List (Value × Except Failure (List Char))) :
    Except Failure (List Char) := do
  let ordered ← if layout.sortKeys then sortByKey entries else .ok entries
  let parts ← ordered.mapM fun (key, encoded) =>
    return encodeText (← keyText key) ++ layout.keySeparator ++ (← encoded)
  return '\x7b' :: (Text.joined layout.itemSeparator parts ++ ['\x7d'])

mutual

def encode (layout : Layout) : Value → Except Failure (List Char)
  | .null => .ok "null".toList
  | .bool value => .ok (if value then "true".toList else "false".toList)
  | .int value => wholeText value
  | .float value => .ok (value.text floatNames)
  | .text value => .ok (encodeText value.toList)
  | .list items => (encodeItems layout items).map fun parts =>
      '[' :: (Text.joined layout.itemSeparator parts ++ [']'])
  | .tuple items => (encodeItems layout items).map fun parts =>
      '[' :: (Text.joined layout.itemSeparator parts ++ [']'])
  | .mapping entries => encodeObject layout (encodeEntries layout entries)
  | value => if value.isShown then .ok (encodeText value.plain) else .error .invalidValue

def encodeItems (layout : Layout) : List Value → Except Failure (List (List Char))
  | [] => .ok []
  | item :: rest =>
      match encode layout item with
      | .error failure => .error failure
      | .ok part => (encodeItems layout rest).map (part :: ·)

def encodeEntries (layout : Layout) :
    List (Value × Value) → List (Value × Except Failure (List Char))
  | [] => []
  | (key, value) :: rest => (key, encode layout value) :: encodeEntries layout rest

end

end RecordQuery.Json
