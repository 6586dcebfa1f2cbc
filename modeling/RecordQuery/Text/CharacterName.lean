import RecordQuery.Text.CharacterName.Abugidas
import RecordQuery.Text.CharacterName.Aliases
import RecordQuery.Text.CharacterName.Alphabets
import RecordQuery.Text.CharacterName.Ancient
import RecordQuery.Text.CharacterName.EastAsian
import RecordQuery.Text.CharacterName.Pictures
import RecordQuery.Text.CharacterName.Signs
import RecordQuery.Text.CharacterName.Symbols

/-!
Characters by name.

Names stand in rows `point;stem;ending,ending.`: the endings complete the stem to the names of the
code points from the row's hexadecimal one on. Line breaks in rows, and blanks after them, mean
nothing. Syllables of Hangul and unified ideographs have names
by rule. `namedPoint?` is the code point of a name.
-/

namespace RecordQuery.Text

def upperHexValue? (digit : Char) : Option Nat :=
  if digit.isDigit then some (digit.toNat - 48)
  else if 'A' ≤ digit ∧ digit ≤ 'F' then some (digit.toNat - 55)
  else none

inductive NameField where
  | point
  | stem
  | ending

/-- Where a scan of rows for a name has come to. Texts are held last character first. -/
structure NameScan where
  field : NameField
  point : Nat
  stem : List Char
  text : List Char
  found? : Option Nat

namespace NameScan

def start : NameScan := ⟨.point, 0, [], [], none⟩

/-- The scan after an ending: the name is complete. -/
def close (wanted : List Char) (scan : NameScan) : NameScan :=
  let isWanted := scan.found?.isNone && scan.text ++ scan.stem == wanted
  { scan with text := [], found? := if isWanted then some scan.point else scan.found? }

def step (wanted : List Char) (scan : NameScan) (character : Char) : NameScan :=
  match scan.field, character with
  | _, '\n' | .point, ' ' => scan
  | .point, ';' => { scan with field := .stem }
  | .point, digit =>
      { scan with point := 16 * scan.point + (upperHexValue? digit).getD 0 }
  | .stem, ';' => { scan with field := .ending, stem := scan.text, text := [] }
  | .ending, ',' => { scan.close wanted with point := scan.point + 1 }
  | .ending, '.' => { scan.close wanted with field := .point, point := 0 }
  | _, other =>
      if other == ' ' && scan.text.isEmpty then scan
      else { scan with text := other :: scan.text }

end NameScan

def rowPoint? (rows : String) (name : List Char) : Option Nat :=
  (rows.toList.foldl (NameScan.step name.reverse) NameScan.start).found?

def nameRows : List String :=
  [alphabetNames, symbolNames, abugidaNames, eastAsianNames, pictureNames, signNames,
    ancientNames, aliasNames]

def firstConsonants : List String :=
  ["G", "GG", "N", "D", "DD", "R", "M", "B", "BB", "S", "SS", "", "J", "JJ", "C", "K", "T", "P",
    "H"]

def syllableVowels : List String :=
  ["A", "AE", "YA", "YAE", "EO", "E", "YEO", "YE", "O", "WA", "WAE", "OE", "YO", "U", "WEO", "WE",
    "WI", "YU", "EU", "YI", "I"]

def lastConsonants : List String :=
  ["", "G", "GG", "GS", "N", "NJ", "NH", "D", "L", "LG", "LM", "LB", "LS", "LT", "LP", "LH", "M",
    "B", "BS", "S", "SS", "NG", "J", "C", "K", "T", "P", "H"]

def longestPart? (parts : List String) (text : List Char) : Option (Nat × List Char) :=
  let fitting := parts.zipIdx.filter fun (part, _) => part.toList.isPrefixOf text
  let longest := (fitting.map fun (part, _) => part.length).foldl max 0
  (fitting.find? fun (part, _) => part.length == longest).map fun (_, index) =>
    (index, text.drop longest)

def syllablePoint? (name : List Char) : Option Nat := do
  let stem := "HANGUL SYLLABLE ".toList
  if !stem.isPrefixOf name then none
  else
    let (first, rest) ← longestPart? firstConsonants (name.drop stem.length)
    let (vowel, rest) ← longestPart? syllableVowels rest
    let (last, rest) ← longestPart? lastConsonants rest
    if rest.isEmpty then some (0xAC00 + (first * 21 + vowel) * 28 + last) else none

/-- The code points of unified ideographs, as closed ranges in order. -/
def ideographRanges : List (Nat × Nat) := [
  (0x3400, 0x4DBF), (0x4E00, 0x9FFF), (0x20000, 0x2A6DF), (0x2A700, 0x2B738), (0x2B740, 0x2B81D),
  (0x2B820, 0x2CEA1), (0x2CEB0, 0x2EBE0), (0x30000, 0x3134A)]

/-- The code point of a unified ideograph, which its name spells in four or five digits. -/
def ideographPoint? (name : List Char) : Option Nat := do
  let stem := "CJK UNIFIED IDEOGRAPH-".toList
  if !stem.isPrefixOf name then none
  else
    let digits ← (name.drop stem.length).mapM upperHexValue?
    let point := digits.foldl (fun value digit => 16 * value + digit) 0
    if (digits.length = 4 ∨ digits.length = 5) ∧
        ideographRanges.any fun (first, last) => decide (first ≤ point ∧ point ≤ last) then
      some point
    else none

/-- The code point of a name; the case of its letters counts in names by rule only. -/
def namedPoint? (name : List Char) : Option Nat :=
  match syllablePoint? name, ideographPoint? name with
  | some point, _ => some point
  | none, some point => some point
  | none, none =>
      let upper := name.map Char.toUpper
      nameRows.findSome? fun rows => rowPoint? rows upper

end RecordQuery.Text
