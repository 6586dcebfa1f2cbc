import Mathlib.Data.List.Basic
import Mathlib.Tactic.SplitIfs
import RecordQuery.Json.Decode
import RecordQuery.Json.Encode

/-!
# Strings in JSON text

Every text is read back from its JSON string. Characters are written as they are, as one-letter
escapes or as escapes of their UTF-16 units. A character is no surrogate, so that the units of a
text are joined to its characters and to no others.
-/

namespace RecordQuery.Json

/-- The units that a character is read as: a pair of surrogates above `0xffff`. -/
def unitsOf (character : Char) : List Nat :=
  let point := character.toNat
  if point < 65536 then [point]
  else [55296 + (point - 65536) / 1024, 56320 + (point - 65536) % 1024]

/-- No character is a surrogate. -/
theorem toNat_range (character : Char) :
    character.toNat < 55296 ∨ 57343 < character.toNat ∧ character.toNat < 1114112 :=
  character.valid

/-- The units of a character become the character again. -/
theorem joinUnits_unitsOf (character : Char) (units : List Nat) :
    joinUnits (unitsOf character ++ units) = character :: joinUnits units := by
  have valid := toNat_range character
  have back : Char.ofNat character.toNat = character := Char.ofNat_toNat character
  dsimp only [unitsOf]
  split
  · cases units with
    | nil => simp [joinUnits, back]
    | cons next rest =>
        rw [List.singleton_append, joinUnits, if_neg (by omega), back]
  · rw [List.cons_append, List.singleton_append, joinUnits, if_pos (by omega)]
    have point : 65536 + 1024 * (55296 + (character.toNat - 65536) / 1024 - 55296) +
        (56320 + (character.toNat - 65536) % 1024 - 56320) = character.toNat := by omega
    rw [point, back]

theorem joinUnits_flatMap (characters : List Char) :
    joinUnits (characters.flatMap unitsOf) = characters := by
  induction characters with
  | nil => rfl
  | cons character rest inductionHypothesis =>
      rw [List.flatMap_cons, joinUnits_unitsOf, inductionHypothesis]

theorem hexValue?_hexDigit {digit : Nat} (small : digit < 16) :
    hexValue? (Text.hexDigit digit) = some digit := by
  have all : ∀ digit < 16, hexValue? (Text.hexDigit digit) = some digit := by decide
  exact all digit small

theorem readUnits?_unitEscape {unit : Nat} (small : unit < 65536) (text : List Char) :
    readUnits? (unitEscape unit ++ text) =
      (readUnits? text).map fun (units, after) => (unit :: units, after) := by
  have digits : unitEscape unit =
      ['\\', 'u', Text.hexDigit (unit / 16 / 16 / 16 % 16), Text.hexDigit (unit / 16 / 16 % 16),
        Text.hexDigit (unit / 16 % 16), Text.hexDigit (unit % 16)] := rfl
  have value : unitValue? (Text.hexDigit (unit / 16 / 16 / 16 % 16))
      (Text.hexDigit (unit / 16 / 16 % 16)) (Text.hexDigit (unit / 16 % 16))
      (Text.hexDigit (unit % 16)) = some unit := by
    have small (number : Nat) : number % 16 < 16 := Nat.mod_lt _ (by decide)
    simp only [unitValue?, hexValue?_hexDigit (small _), Option.pure_def, Option.bind_eq_bind,
      Option.bind_some]
    congr 1
    omega
  simp only [digits, List.cons_append, List.nil_append, readUnits?, value]

theorem readUnits?_letter {letter character : Char} (other : letter ≠ 'u')
    (value : escapeValue? letter = some character) (text : List Char) :
    readUnits? ('\\' :: letter :: text) =
      (readUnits? text).map fun (units, after) => (character.toNat :: units, after) := by
  rw [readUnits?, value]
  rintro _ _ _ _ _ rfl
  exact absurd rfl other

theorem readUnits?_plain {character : Char} (printable : 32 ≤ character.toNat)
    (quote : character ≠ '"') (escape : character ≠ '\\') (text : List Char) :
    readUnits? (character :: text) =
      (readUnits? text).map fun (units, after) => (character.toNat :: units, after) := by
  rw [readUnits?]
  · simp [escape, Nat.not_lt.mpr printable]
  · exact quote
  · exact fun _ _ _ _ _ same => absurd same escape
  · exact fun _ _ same => absurd same escape

theorem readUnits?_escaped (character : Char) (text : List Char) :
    readUnits? (escaped character ++ text) =
      (readUnits? text).map fun (units, after) => (unitsOf character ++ units, after) := by
  simp only [escaped, beq_iff_eq]
  split_ifs with quote escape newline carriage tab feed back printable small
  · subst quote
    exact readUnits?_letter (by decide) rfl text
  · subst escape
    exact readUnits?_letter (by decide) rfl text
  · subst newline
    exact readUnits?_letter (by decide) rfl text
  · subst carriage
    exact readUnits?_letter (by decide) rfl text
  · subst tab
    exact readUnits?_letter (by decide) rfl text
  · subst feed
    exact readUnits?_letter (by decide) rfl text
  · subst back
    exact readUnits?_letter (by decide) rfl text
  · rw [unitsOf, if_pos (by omega)]
    exact readUnits?_plain printable.1 quote escape text
  · rw [unitsOf, if_pos small]
    exact readUnits?_unitEscape small text
  · have valid := toNat_range character
    rw [unitsOf, if_neg small, List.append_assoc, readUnits?_unitEscape (by omega),
      readUnits?_unitEscape (by omega), Option.map_map]
    rfl

theorem readUnits?_flatMap (characters rest : List Char) :
    readUnits? (characters.flatMap escaped ++ '"' :: rest) =
      some (characters.flatMap unitsOf, rest) := by
  induction characters with
  | nil => simp [readUnits?]
  | cons character others inductionHypothesis =>
      rw [List.flatMap_cons, List.append_assoc, readUnits?_escaped, inductionHypothesis]
      rfl

/-- A text is read back from its JSON string. -/
theorem readText_escaped (text : String) (rest : List Char) :
    readText (text.toList.flatMap escaped ++ '"' :: rest) = .ok (text, rest) := by
  rw [readText, readUnits?_flatMap]
  simp [joinUnits_flatMap]

end RecordQuery.Json
