import RecordQuery.Proofs.Number.Numeral

/-!
# Characters of numbers

A number is shown by digits, points, signs and marks of exponents, unless it is shown by its name.
No text that is read as a number, and no text that a number is shown as, holds a slash. A text of
letters is no whole number, and a floating-point value only if it is one of the names of values that
have no digits.
-/

namespace RecordQuery

theorem Text.mem_trim {drop : Char → Bool} {character : Char} {text : List Char}
    (kept : drop character = false) (member : character ∈ text) :
    character ∈ Text.trim drop text := by
  have stays (others : List Char) (member : character ∈ others) :
      character ∈ others.dropWhile drop := by
    induction others with
    | nil => contradiction
    | cons first rest inductionHypothesis =>
        rw [List.dropWhile_cons]
        split
        · rename_i dropped
          rcases List.mem_cons.mp member with rfl | later
          · simp [kept] at dropped
          · exact inductionHypothesis later
        · exact member
  exact List.mem_reverse.mpr (stays _ (List.mem_reverse.mpr (stays text member)))

namespace Numeral

theorem mem_splitSign {character : Char} {text : List Char} (minus : character ≠ '-')
    (plus : character ≠ '+') (member : character ∈ text) : character ∈ (splitSign text).2 := by
  rw [splitSign.eq_def]
  split
  · exact (List.mem_cons.mp member).resolve_left minus
  · exact (List.mem_cons.mp member).resolve_left plus
  · exact member

theorem slash_not_mem_of_integer? {text : List Char} {value : Int}
    (read : integer? text = some value) : '/' ∉ text := by
  obtain ⟨front, whole, back⟩ := integer?_eq_some_iff.mp read
  simp only [List.mem_append, not_or]
  refine ⟨⟨fun member => ?_, fun member => ?_⟩, fun member => ?_⟩
  · exact absurd (front _ member) (by decide)
  · exact absurd (whole.mem _ member) (by decide)
  · exact absurd (back _ member) (by decide)

theorem mem_of_joinGroups? {character : Char} (apart : character ≠ '_') {afterDigit : Bool}
    {text joined : List Char} (read : joinGroups? afterDigit text = some joined)
    (member : character ∈ text) : character ∈ joined := by
  fun_induction joinGroups? afterDigit text generalizing joined with
  | case1 => contradiction
  | case2 afterDigit next rest grouped inductionHypothesis =>
      exact inductionHypothesis read ((List.mem_cons.mp member).resolve_left apart)
  | case3 => contradiction
  | case4 => contradiction
  | case5 afterDigit first rest line inductionHypothesis =>
      obtain ⟨others, later, rfl⟩ := Option.map_eq_some_iff.mp read
      rcases List.mem_cons.mp member with rfl | member
      · exact List.mem_cons_self
      · exact List.mem_cons_of_mem _ (inductionHypothesis later member)

theorem mem_spanDigits {character : Char} (other : Text.decimalDigit? character = none)
    {text : List Char} (member : character ∈ text) : character ∈ (spanDigits text).2 := by
  induction text with
  | nil => contradiction
  | cons first rest inductionHypothesis =>
      rw [spanDigits]
      split
      · rename_i digit value
        rcases List.mem_cons.mp member with rfl | later
        · simp [other] at value
        · exact inductionHypothesis later
      · exact member

theorem slash_not_mem_of_exponent? {text : List Char} {value : Int}
    (read : exponent? text = some value) : '/' ∉ text := by
  cases text with
  | nil => exact List.not_mem_nil
  | cons mark rest =>
      rw [exponent?] at read
      split at read
      · rename_i marked
        intro member
        have later : '/' ∈ rest := by
          rcases List.mem_cons.mp member with rfl | later
          · simp at marked
          · exact later
        have stays := mem_spanDigits (by rfl) (mem_splitSign (by decide) (by decide) later)
        dsimp only at read
        split at read
        · contradiction
        · rename_i digits _ spanned
          simp [spanned] at stays
        · contradiction
      · contradiction

theorem slash_not_mem_of_decimal? {negative : Bool} {text : List Char} {value : Binary64}
    (read : decimal? negative text = some value) : '/' ∉ text := by
  intro member
  have afterWhole := mem_spanDigits (by rfl) member
  rw [decimal?] at read
  rcases spanned : spanDigits text with ⟨whole, rest⟩
  rw [spanned] at read afterWhole
  dsimp only at read afterWhole
  split at read
  · rename_i afterPoint
    have stays := mem_spanDigits (by rfl)
      ((List.mem_cons.mp afterWhole).resolve_left (by decide))
    split at read
    · contradiction
    · obtain ⟨exponent, found, -⟩ := Option.map_eq_some_iff.mp read
      exact slash_not_mem_of_exponent? found stays
  · split at read
    · contradiction
    · obtain ⟨exponent, found, -⟩ := Option.map_eq_some_iff.mp read
      exact slash_not_mem_of_exponent? found afterWhole

theorem slash_not_mem_of_named? {negative : Bool} {text : List Char} {value : Binary64}
    (read : named? negative text = some value) : '/' ∉ text := by
  intro member
  have lower : '/' ∈ text.map Char.toLower := List.mem_map.mpr ⟨'/', member, rfl⟩
  rw [named?] at read
  split at read
  · rename_i name
    simp [name] at lower
  · rename_i name
    simp [name] at lower
  · rename_i name
    simp [name] at lower
  · contradiction

theorem slash_not_mem_of_real? {text : List Char} {value : Binary64}
    (read : real? text = some value) : '/' ∉ text := by
  intro member
  have trimmed : '/' ∈ Text.trim Text.isNumeralBlank text := Text.mem_trim rfl member
  rw [real?] at read
  split at read
  · contradiction
  · rename_i joined grouped
    have body := mem_splitSign (by decide) (by decide)
      (mem_of_joinGroups? (by decide) grouped trimmed)
    dsimp only at read
    split at read
    · rename_i named
      exact slash_not_mem_of_named? named body
    · exact slash_not_mem_of_decimal? read body

/-- A character that numerals hold in names only. -/
structure IsLetter (character : Char) : Prop where
  digit : Text.decimalDigit? character = none
  blank : Text.isNumeralBlank character = false
  mark : character ∉ ['-', '+', '_', '.']

section Letters

variable {text : List Char} (letters : ∀ character ∈ text, IsLetter character)

include letters

theorem trim_of_letters : Text.trim Text.isNumeralBlank text = text :=
  Text.trim_of_forall fun character member => (letters character member).blank

theorem splitSign_of_letters : splitSign text = (false, text) := by
  cases text with
  | nil => rfl
  | cons first rest =>
      have mark := (letters first List.mem_cons_self).mark
      rw [splitSign]
      · rintro _ same
        simp [(List.cons.inj same).1] at mark
      · rintro _ same
        simp [(List.cons.inj same).1] at mark

theorem joinGroups?_of_letters (afterDigit : Bool) : joinGroups? afterDigit text = some text := by
  induction text generalizing afterDigit with
  | nil => rfl
  | cons first rest inductionHypothesis =>
      obtain ⟨here, later⟩ := List.forall_mem_cons.mp letters
      rw [joinGroups?, inductionHypothesis later]
      · rfl
      · rintro rfl
        simpa using here.mark

theorem integer?_of_letters : integer? text = none := by
  have digits : groupedDigits? text = none := by
    have head (first : Char) (member : first ∈ text) := (letters first member).digit
    clear letters
    fun_cases groupedDigits? text with
    | case1 => rfl
    | case2 last => rw [head last List.mem_cons_self]; rfl
    | case3 first rest digit value => simp [head] at value
    | case4 => rfl
    | case5 first next rest line digit value => simp [head] at value
    | case6 => rfl
  simp only [integer?, trim_of_letters letters, splitSign_of_letters letters, digits]

theorem real?_of_letters : real? text = named? false text := by
  have decimal : decimal? false text = none := by
    cases text with
    | nil => rfl
    | cons first rest =>
        obtain ⟨digit, -, mark⟩ := letters first List.mem_cons_self
        have spanned : spanDigits (first :: rest) = ([], first :: rest) := by
          rw [spanDigits, digit]
        rw [decimal?, spanned]
        dsimp only
        split
        · rename_i same
          simp [(List.cons.inj same).1] at mark
        · rfl
  rw [real?, trim_of_letters letters, joinGroups?_of_letters letters]
  dsimp only
  rw [splitSign_of_letters letters]
  dsimp only
  rw [decimal]
  cases named? false text <;> rfl

end Letters

end Numeral

/-- A character that shown numbers have: a digit, a point, a sign or the mark of an exponent. -/
def IsFigure (character : Char) : Prop :=
  character.isDigit = true ∨ character ∈ ['.', '-', '+', 'e']

theorem IsFigure.ne_slash {character : Char} (figure : IsFigure character) : character ≠ '/' := by
  rintro rfl
  simp [IsFigure] at figure

theorem isFigure_digitsOf (value : Nat) : ∀ digit ∈ digitsOf value, IsFigure digit :=
  fun digit member => .inl ((Json.isNumeral_digitsOf value).all digit member)

theorem isFigure_intText (value : Int) : ∀ character ∈ intText value, IsFigure character := by
  have digits := isFigure_digitsOf value.natAbs
  rw [intText]
  split
  · exact List.forall_mem_cons.mpr ⟨.inr (by simp), digits⟩
  · exact digits

namespace Decimal

theorem isFigure_zeros (count : Nat) : ∀ digit ∈ List.replicate count '0', IsFigure digit :=
  fun _ member => .inl (by rw [List.eq_of_mem_replicate member]; rfl)

theorem isFigure_positional {digits : List Char} (all : ∀ digit ∈ digits, IsFigure digit)
    (whole : Nat) : ∀ character ∈ positional digits whole, IsFigure character := by
  let padded := digits ++ List.replicate (whole - digits.length) '0'
  have figures : ∀ digit ∈ padded, IsFigure digit :=
    List.forall_mem_append.mpr ⟨all, isFigure_zeros _⟩
  change ∀ character ∈ padded.take whole ++
    '.' :: if (padded.drop whole).isEmpty then ['0'] else padded.drop whole, IsFigure character
  refine List.forall_mem_append.mpr
    ⟨fun digit member => figures digit (List.mem_of_mem_take member),
      List.forall_mem_cons.mpr ⟨.inr (by simp), ?_⟩⟩
  split
  · exact List.forall_mem_singleton.mpr (.inl rfl)
  · exact fun digit member => figures digit (List.mem_of_mem_drop member)

theorem isFigure_layout (decimal : Decimal) :
    ∀ character ∈ layout decimal, IsFigure character := by
  have digits := isFigure_digitsOf decimal.coefficient
  have exponent : ∀ digit ∈ exponentDigits decimal.exponent.natAbs, IsFigure digit := by
    rw [exponentDigits]
    split
    · exact List.forall_mem_cons.mpr ⟨.inl rfl, isFigure_digitsOf _⟩
    · exact isFigure_digitsOf _
  rw [layout]
  dsimp only
  split
  · split
    · exact isFigure_positional digits _
    · exact List.forall_mem_cons.mpr ⟨.inl rfl, List.forall_mem_cons.mpr
        ⟨.inr (by simp), List.forall_mem_append.mpr ⟨isFigure_zeros _, digits⟩⟩⟩
  · have sign : IsFigure (if decimal.exponent < 0 then '-' else '+') := by
      split <;> exact .inr (by simp)
    refine List.forall_mem_append.mpr ⟨?_, List.forall_mem_cons.mpr
      ⟨.inr (by simp), List.forall_mem_cons.mpr ⟨sign, exponent⟩⟩⟩
    split
    · simp
    · rename_i first spelled
      exact spelled ▸ digits
    · rename_i first rest spelled
      obtain ⟨here, later⟩ := List.forall_mem_cons.mp (spelled ▸ digits)
      exact List.forall_mem_cons.mpr ⟨here, List.forall_mem_cons.mpr ⟨.inr (by simp), later⟩⟩

end Decimal

/-- The characters of a shown value are figures, unless the value is shown by its name. -/
theorem Binary64.mem_text {names : Names} {value : Binary64} {character : Char}
    (member : character ∈ value.text names) :
    IsFigure character ∨ character ∈ names.nan ∨ character ∈ names.infinity := by
  cases value with
  | nan => exact .inr (.inl member)
  | infinite negative =>
      rcases List.mem_append.mp member with sign | name
      · cases negative
        · contradiction
        · exact .inl (.inr (by simp [List.mem_singleton.mp sign]))
      · exact .inr (.inr name)
  | finite negative significand exponent _ =>
      have layout := (Decimal.shortest significand exponent).isFigure_layout
      have zero : ∀ character ∈ ['0', '.', '0'], IsFigure character := by simp [IsFigure]
      rcases List.mem_append.mp member with sign | number
      · cases negative
        · contradiction
        · exact .inl (.inr (by simp [List.mem_singleton.mp sign]))
      · left
        split at number
        · exact zero character number
        · exact layout character number

theorem slash_not_mem_intText (value : Int) : '/' ∉ intText value := fun member =>
  (isFigure_intText value '/' member).ne_slash rfl

theorem Binary64.slash_not_mem_text (value : Binary64) : '/' ∉ value.text displayNames := by
  intro member
  rcases mem_text member with figure | name | name
  · exact figure.ne_slash rfl
  · simp [displayNames] at name
  · simp [displayNames] at name

end RecordQuery
