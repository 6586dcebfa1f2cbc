import RecordQuery.Log.Logger
import RecordQuery.Proofs.Number.Spelling
import RecordQuery.Settings.Values

/-!
# Texts that name a level

The settings read a text of the environment as a truth value or a number where it spells one; the
log reads it as the name of a level in any case. No text is both: a name of a level is made of
letters, and no number or truth value has a name of a level for its upper case.
-/

namespace RecordQuery

theorem toNat_toLower (character : Char) : character.toLower.toNat =
    if 65 ≤ character.toNat ∧ character.toNat ≤ 90 then character.toNat + 32
    else character.toNat := by
  have range : (character.val ≥ 'A'.val ∧ character.val ≤ 'Z'.val) ↔
      65 ≤ character.toNat ∧ character.toNat ≤ 90 := by
    rw [ge_iff_le, UInt32.le_iff_toNat_le, UInt32.le_iff_toNat_le]
    rfl
  rw [Char.toLower]
  split
  · rename_i letter
    rw [if_pos (range.mp letter)]
    have bounds := range.mp letter
    have added : (character.val + ('a'.val - 'A'.val)).toNat =
        (character.val.toNat + 32) % 4294967296 := UInt32.toNat_add ..
    have code : character.val.toNat = character.toNat := rfl
    exact added.trans (by omega)
  · rename_i other
    rw [if_neg (mt range.mpr other)]

theorem toNat_toUpper (character : Char) : character.toUpper.toNat =
    if 97 ≤ character.toNat ∧ character.toNat ≤ 122 then character.toNat - 32
    else character.toNat := by
  have range : ('a'.val ≤ character.val ∧ character.val ≤ 'z'.val) ↔
      97 ≤ character.toNat ∧ character.toNat ≤ 122 := by
    rw [UInt32.le_iff_toNat_le, UInt32.le_iff_toNat_le]
    rfl
  rw [Char.toUpper]
  split
  · rename_i letter
    rw [if_pos (range.mp letter)]
    have bounds := range.mp letter
    have added : (character.val + ('A'.val - 'a'.val)).toNat =
        (character.val.toNat + 4294967264) % 4294967296 := UInt32.toNat_add ..
    have code : character.val.toNat = character.toNat := rfl
    exact added.trans (by omega)
  · rename_i other
    rw [if_neg (mt range.mpr other)]

namespace Log

/-- The characters whose upper case is a letter of ASCII. -/
theorem toNat_of_upper {character : Char}
    (letter : 65 ≤ (upper character).toNat ∧ (upper character).toNat ≤ 90) :
    65 ≤ character.toNat ∧ character.toNat ≤ 90 ∨ 97 ≤ character.toNat ∧ character.toNat ≤ 122 ∨
      character.toNat = 305 ∨ character.toNat = 383 := by
  by_cases special : character.toNat = 305 ∨ character.toNat = 383
  · exact .inr (.inr special)
  · rw [not_or] at special
    rw [upper, if_neg special.1, if_neg special.2, toNat_toUpper] at letter
    split at letter <;> omega

theorem isLetter_of_upper {character : Char}
    (letter : 65 ≤ (upper character).toNat ∧ (upper character).toNat ≤ 90) :
    Numeral.IsLetter character := by
  have place := toNat_of_upper letter
  refine ⟨?_, ?_, ?_⟩
  · have apart : ∀ first ∈ Text.decimalZeros, first + 10 ≤ 65 ∨ 383 < first := by decide
    rw [Text.decimalDigit?, Option.map_eq_none_iff, List.find?_eq_none]
    intro first member
    have := apart first member
    simp only [Bool.and_eq_true, decide_eq_true_eq]
    omega
  · simp only [Text.isNumeralBlank, Text.isBlank, Bool.and_eq_false_iff, Bool.or_eq_false_iff,
      decide_eq_false_iff_not, beq_eq_false_iff_ne]
    omega
  · rintro member
    simp only [List.mem_cons, List.not_mem_nil, or_false] at member
    rcases member with rfl | rfl | rfl | rfl <;> simp at place

/-- Lower case of ASCII determines the upper case. -/
theorem upper_of_toLower {character : Char}
    (letter : 97 ≤ character.toLower.toNat ∧ character.toLower.toNat ≤ 122) :
    upper character = character.toLower.toUpper := by
  have lower := toNat_toLower character
  have plain : upper character = character.toUpper := by
    rw [upper, if_neg, if_neg] <;> split at lower <;> omega
  rw [plain]
  apply Char.toNat_inj.mp
  rw [toNat_toUpper, toNat_toUpper, if_pos letter]
  split at lower <;> split <;> omega

theorem map_upper_of_map_toLower {text word : List Char}
    (letters : ∀ letter ∈ word, 97 ≤ letter.toNat ∧ letter.toNat ≤ 122)
    (lower : text.map Char.toLower = word) : text.map upper = word.map Char.toUpper := by
  subst lower
  rw [List.map_map]
  refine List.map_congr_left fun character member => ?_
  exact upper_of_toLower (letters _ (List.mem_map_of_mem member))

theorem letters_of_levels : ∀ entry ∈ levels, ∀ letter ∈ entry.1.toList,
    65 ≤ letter.toNat ∧ letter.toNat ≤ 90 := by
  have checked : levels.all (fun entry => entry.1.toList.all fun letter =>
      decide (65 ≤ letter.toNat ∧ letter.toNat ≤ 90)) = true := by decide
  simpa only [List.all_eq_true, decide_eq_true_eq] using checked

/-- The words that stand for values other than texts. -/
def words : List String := ["true", "false", "inf", "infinity", "nan"]

theorem not_word_of_level {text : List Char} {entry : String × Int} (listed : entry ∈ levels)
    (named : text.map upper = entry.1.toList) {word : String} (member : word ∈ words) :
    text.map Char.toLower ≠ word.toList := by
  have checked : words.all (fun word => word.toList.all fun letter =>
      decide (97 ≤ letter.toNat ∧ letter.toNat ≤ 122)) = true := by decide
  have letters : ∀ word ∈ words, ∀ letter ∈ word.toList,
      97 ≤ letter.toNat ∧ letter.toNat ≤ 122 := by
    simpa only [List.all_eq_true, decide_eq_true_eq] using checked
  have apart : ∀ entry ∈ levels, ∀ word ∈ words,
      word.toList.map Char.toUpper ≠ entry.1.toList := by decide
  intro lower
  exact apart entry listed word member
    ((map_upper_of_map_toLower (letters word member) lower).symm.trans named)

end Log

namespace Settings

theorem convert_cases (text : String) :
    (∃ value, convert text = .bool value ∧
      ∃ word ∈ ["true", "false"], text.toList.map Char.toLower = word.toList) ∨
    (∃ value, convert text = .int value ∧ Numeral.integer? text.toList = some value) ∨
    (∃ value, convert text = .float value ∧ Numeral.real? text.toList = some value) ∨
    convert text = .text text := by
  rw [convert]
  split
  · rename_i lower
    exact .inl ⟨true, rfl, "true", by simp, by simp [← lower]⟩
  · split
    · rename_i lower
      exact .inl ⟨false, rfl, "false", by simp, by simp [← lower]⟩
    · split
      · rename_i value whole
        refine .inr (.inl ⟨value, rfl, ?_⟩)
        split at whole
        · contradiction
        · exact whole
      · split
        · rename_i value real
          exact .inr (.inr (.inl ⟨value, rfl, real⟩))
        · exact .inr (.inr (.inr rfl))

theorem convert_of_level {text : String} {entry : String × Int} (listed : entry ∈ Log.levels)
    (named : text.toList.map Log.upper = entry.1.toList) : convert text = .text text := by
  have letters : ∀ character ∈ text.toList, Numeral.IsLetter character := by
    intro character member
    exact Log.isLetter_of_upper
      (Log.letters_of_levels entry listed _ (named ▸ List.mem_map_of_mem member))
  have noWord (word : String) (member : word ∈ Log.words) :
      text.toList.map Char.toLower ≠ word.toList :=
    Log.not_word_of_level listed named member
  have noName : Numeral.named? false text.toList = none := by
    rw [Numeral.named?]
    split
    · exact absurd ‹_› (noWord "inf" (by simp [Log.words]))
    · exact absurd ‹_› (noWord "infinity" (by simp [Log.words]))
    · exact absurd ‹_› (noWord "nan" (by simp [Log.words]))
    · rfl
  rcases convert_cases text with
    ⟨_, -, word, member, lower⟩ | ⟨_, -, whole⟩ | ⟨_, -, real⟩ | same
  · refine absurd lower (noWord _ ?_)
    rcases List.mem_cons.mp member with rfl | member
    · simp [Log.words]
    · simp [List.mem_singleton.mp member, Log.words]
  · simp [Numeral.integer?_of_letters letters] at whole
  · simp [Numeral.real?_of_letters letters, noName] at real
  · exact same

/-- A text that stands for another value names no level. -/
theorem resolveLevel_of_convert_ne {text : String} (other : convert text ≠ .text text) :
    Log.resolveLevel (.text text) = Log.infoLevel := by
  rw [Log.resolveLevel]
  cases found : Log.levels.find? fun entry =>
      entry.1 == String.ofList (text.toList.map Log.upper) with
  | none => rfl
  | some entry =>
      have same : entry.1 = String.ofList (text.toList.map Log.upper) := by
        simpa using List.find?_some found
      exact absurd (convert_of_level (List.mem_of_find?_eq_some found) (by rw [same]; simp)) other

end Settings

end RecordQuery
