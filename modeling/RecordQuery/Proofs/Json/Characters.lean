import RecordQuery.Proofs.Json.Layouts
import RecordQuery.Proofs.Number.Spelling
import RecordQuery.Proofs.Value.Sameness

/-!
# Characters of JSON text

JSON text is plain: it is made of printable ASCII characters, whatever the value holds. Texts escape
all other characters, and no number or name has any. So a JSON text breaks no line.
-/

namespace RecordQuery.Json

/-- A printable character of ASCII. -/
def IsPlain (character : Char) : Prop := 32 ≤ character.toNat ∧ character.toNat < 127

instance : DecidablePred IsPlain := fun _ => inferInstanceAs (Decidable (_ ∧ _))

/-- A text of printable ASCII characters. -/
def Plain (text : List Char) : Prop := ∀ character ∈ text, IsPlain character

/-- The characters of the text are tested, not all characters that there are. -/
instance : DecidablePred Plain := fun text =>
  decidable_of_iff (text.all fun character => decide (IsPlain character)) (by simp [Plain])

namespace Plain

variable {first second : List Char}

theorem nil : Plain [] := by
  simp [Plain]

theorem cons {character : Char} (head : IsPlain character) (tail : Plain first) :
    Plain (character :: first) :=
  List.forall_mem_cons.mpr ⟨head, tail⟩

theorem append (before : Plain first) (after : Plain second) : Plain (first ++ second) :=
  List.forall_mem_append.mpr ⟨before, after⟩

theorem joined {separator : List Char} (between : Plain separator) {parts : List (List Char)}
    (all : ∀ part ∈ parts, Plain part) : Plain (Text.joined separator parts) := by
  induction parts with
  | nil => exact nil
  | cons head rest inductionHypothesis =>
      obtain ⟨here, later⟩ := List.forall_mem_cons.mp all
      cases rest with
      | nil => exact here
      | cons next more =>
          rw [Text.joined]
          · exact (here.append between).append (inductionHypothesis later)
          · simp

end Plain

theorem isPlain_hexDigit {digit : Nat} (small : digit < 16) : IsPlain (Text.hexDigit digit) := by
  have all : ∀ digit < 16, IsPlain (Text.hexDigit digit) := by decide
  exact all digit small

theorem plain_hexDigits (width value : Nat) : Plain (Text.hexDigits width value) := by
  induction width generalizing value with
  | zero => exact .nil
  | succ width inductionHypothesis =>
      exact (inductionHypothesis (value / 16)).append
        (.cons (isPlain_hexDigit (Nat.mod_lt _ (by decide))) .nil)

theorem plain_unitEscape (unit : Nat) : Plain (unitEscape unit) :=
  .cons (by decide) (.cons (by decide) (plain_hexDigits 4 unit))

/-- A character is plain or it is escaped. -/
theorem plain_escaped (character : Char) : Plain (escaped character) := by
  have letter {letter : Char} (plain : IsPlain letter) : Plain ['\\', letter] :=
    .cons (by decide) (.cons plain .nil)
  rw [escaped]
  split_ifs with quote escape newline carriage tab feed back
  · exact letter (by decide)
  · exact letter (by decide)
  · exact letter (by decide)
  · exact letter (by decide)
  · exact letter (by decide)
  · exact letter (by decide)
  · exact letter (by decide)
  · dsimp only
    split_ifs with printable small
    · exact .cons printable .nil
    · exact plain_unitEscape _
    · exact (plain_unitEscape _).append (plain_unitEscape _)

theorem plain_encodeText (text : List Char) : Plain (encodeText text) := by
  refine .cons (by decide) (.append ?_ (.cons (by decide) .nil))
  intro character member
  obtain ⟨source, -, written⟩ := List.mem_flatMap.mp member
  exact plain_escaped source character written

theorem isPlain_of_isFigure {character : Char} (figure : IsFigure character) :
    IsPlain character := by
  rcases figure with digit | mark
  · obtain ⟨least, most⟩ := Numeral.toNat_of_isDigit digit
    exact ⟨by omega, by omega⟩
  · simp only [List.mem_cons, List.not_mem_nil, or_false] at mark
    rcases mark with rfl | rfl | rfl | rfl <;> decide

theorem plain_intText (value : Int) : Plain (intText value) := fun character member =>
  isPlain_of_isFigure (isFigure_intText value character member)

theorem plain_floatText (value : Binary64) : Plain (value.text floatNames) := by
  have names : Plain floatNames.nan ∧ Plain floatNames.infinity := by decide
  intro character member
  rcases Binary64.mem_text member with figure | name | name
  · exact isPlain_of_isFigure figure
  · exact names.1 character name
  · exact names.2 character name

theorem plain_spaced : Plain Layout.spaced.itemSeparator ∧ Plain Layout.spaced.keySeparator := by
  decide

/-- The JSON text of any value is plain, if the separators of the layout are. -/
theorem plain_of_encode {layout : Layout} (unsorted : layout.sortKeys = false)
    (items : Plain layout.itemSeparator) (keys : Plain layout.keySeparator) {value : Value}
    {text : List Char} (encoded : encode layout value = .ok text) : Plain text := by
  induction value using Value.induct generalizing text with
  | whole value inductionHypothesis =>
      cases held : value.items? with
      | some members =>
          obtain ⟨texts, written, rfl⟩ := (encode_items_eq_ok held).mp encoded
          refine .cons (by decide) (.append (.joined items fun part listed => ?_)
            (.cons (by decide) .nil))
          obtain ⟨item, member, encodes⟩ := (Matched.of_forall₂ written).back part listed
          exact inductionHypothesis item (Value.mem_parts held member) encodes
      | none =>
          cases value with
          | mapping entries =>
              obtain ⟨members, written, rfl⟩ := (encode_mapping_eq_ok unsorted).mp encoded
              refine .cons (by decide) (.append (.joined items fun part listed => ?_)
                (.cons (by decide) .nil))
              obtain ⟨member, named, rfl⟩ := List.mem_map.mp listed
              obtain ⟨entry, there, -, encodes⟩ := (Matched.of_forall₂ written).back member named
              exact ((plain_encodeText _).append keys).append
                (inductionHypothesis entry.2 (Value.value_mem_parts there) encodes)
          | list | tuple => contradiction
          | null =>
              obtain rfl := Except.ok.inj encoded
              decide
          | bool value =>
              obtain rfl := Except.ok.inj encoded
              cases value <;> decide
          | int value =>
              obtain ⟨-, rfl⟩ := wholeText_eq_ok encoded
              exact plain_intText value
          | float value =>
              obtain rfl := Except.ok.inj encoded
              exact plain_floatText value
          | text value =>
              obtain rfl := Except.ok.inj encoded
              exact plain_encodeText _
          | _ =>
              simp only [encode] at encoded
              split at encoded
              · obtain rfl := Except.ok.inj encoded
                exact plain_encodeText _
              · contradiction

end RecordQuery.Json
