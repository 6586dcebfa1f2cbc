import Mathlib.Data.List.Basic
import RecordQuery.Json.Decode
import RecordQuery.Value.Display

/-!
# Integers in JSON text

A numeral of decimal digits is read as the integer that it spells, unless it is longer than integers
may be. So an integer is read back from its own text, if that is not too long.
-/

namespace RecordQuery.Json

/-- What can follow a value: nothing, or the end of the value or of the list that it stands in. -/
def Ends (rest : List Char) : Prop :=
  ∀ character ∈ rest.head?, character = ',' ∨ character = ']' ∨ character = '\x7d'

namespace Ends

theorem nil : Ends [] := by
  simp [Ends]

variable {rest : List Char} (ends : Ends rest)

include ends

theorem isDigit : ∀ character ∈ rest.head?, character.isDigit = false := by
  intro character member
  rcases ends character member with rfl | rfl | rfl <;> rfl

theorem readFraction? : readFraction? rest = none := by
  cases rest with
  | nil => rfl
  | cons first more =>
      rcases ends first rfl with rfl | rfl | rfl <;> rfl

theorem readExponent? : readExponent? rest = none := by
  cases rest with
  | nil => rfl
  | cons first more =>
      rcases ends first rfl with rfl | rfl | rfl <;> rfl

end Ends

/-- A numeral: digits without a zero in front. -/
structure IsNumeral (digits : List Char) : Prop where
  nonempty : digits ≠ []
  all : ∀ digit ∈ digits, digit.isDigit = true
  lead : digits.head? = some '0' → digits = ['0']

/-- The value of a digit. -/
def digitValue (digit : Char) : Nat := digit.toNat - 48

theorem spanDigits_append {digits rest : List Char}
    (all : ∀ digit ∈ digits, digit.isDigit = true)
    (ends : ∀ character ∈ rest.head?, character.isDigit = false) :
    spanDigits (digits ++ rest) = (digits.map digitValue, rest) := by
  induction digits with
  | nil =>
      cases rest with
      | nil => rfl
      | cons first more => rw [List.nil_append, spanDigits, if_neg (by simp [ends first rfl]),
          List.map_nil]
  | cons digit others inductionHypothesis =>
      obtain ⟨head, tail⟩ := List.forall_mem_cons.mp all
      rw [List.cons_append, spanDigits, if_pos head, inductionHypothesis tail]
      rfl

theorem readWhole_append {digits rest : List Char} (numeral : IsNumeral digits)
    (ends : ∀ character ∈ rest.head?, character.isDigit = false) :
    readWhole (digits ++ rest) = .ok (digits.map digitValue, rest) := by
  unfold readWhole
  split
  · rename_i more found
    have zero : digits = ['0'] := by
      refine numeral.lead ?_
      cases digits with
      | nil => exact absurd rfl numeral.nonempty
      | cons first others => rw [(List.cons.inj found).1]; rfl
    subst zero
    obtain rfl := (List.cons.inj found).2
    rfl
  · rw [spanDigits_append numeral.all ends]
    cases digits with
    | nil => exact absurd rfl numeral.nonempty
    | cons first others => rfl

/-- A numeral with its sign is an integer, or it is too long. -/
theorem readNumber_append {digits rest : List Char} (numeral : IsNumeral digits) (ends : Ends rest)
    (negative : Bool) :
    readNumber negative (digits ++ rest) =
      if Numeral.maxDigits < digits.length then .error .oversized
      else
        let magnitude : Int := Numeral.unsigned (digits.map digitValue)
        .ok (.int (if negative then -magnitude else magnitude), rest) := by
  rw [readNumber, readWhole_append numeral ends.isDigit]
  simp [readTail, ends.readFraction?, ends.readExponent?]

theorem head?_digitsOf_ne {value : Nat} (positive : 0 < value) :
    (digitsOf value).head? ≠ some '0' := by
  induction value using Nat.strongRecOn with
  | ind value inductionHypothesis =>
      rw [digitsOf]
      rcases Nat.lt_or_ge value 10 with small | large
      · rw [Nat.toDigits_of_lt_base small, List.head?_cons, ne_eq, Option.some.injEq]
        have nonzero : ∀ digit < 10, 0 < digit → Nat.digitChar digit ≠ '0' := by decide
        exact nonzero value small positive
      · rw [Nat.toDigits_of_base_le (by decide) large,
          List.head?_append_of_ne_nil _ Nat.toDigits_ne_nil]
        exact inductionHypothesis (value / 10) (by omega) (by omega)

theorem isNumeral_digitsOf (value : Nat) : IsNumeral (digitsOf value) := by
  refine ⟨Nat.toDigits_ne_nil, fun digit member =>
    Nat.isDigit_of_mem_toDigits (by decide) (by decide) member, fun zero => ?_⟩
  obtain rfl | positive := Nat.eq_zero_or_pos value
  · rfl
  · exact absurd zero (head?_digitsOf_ne positive)

theorem unsigned_digitsOf (value : Nat) :
    Numeral.unsigned ((digitsOf value).map digitValue) = value := by
  rw [Numeral.unsigned, List.foldl_map]
  exact Nat.ofDigitChars_ten_toDigits

theorem ne_of_isDigit {first other : Char} (digit : first.isDigit = true)
    (none : other.isDigit = false) : first ≠ other := by
  rintro rfl
  simp [none] at digit

theorem isSpace_of_isDigit {first : Char} (digit : first.isDigit = true) :
    isSpace first = false := by
  have apart (other : Char) (none : other.isDigit = false) : first ≠ other :=
    ne_of_isDigit digit none
  simp [isSpace, apart ' ' rfl, apart '\t' rfl, apart '\n' rfl, apart '\r' rfl]

/-- No literal name starts with a digit, or with a minus sign before a digit. -/
theorem find?_names_digit {first : Char} (digit : first.isDigit = true) (rest : List Char) :
    (names.find? fun entry => entry.1.isPrefixOf (first :: rest)) = none ∧
      (names.find? fun entry => entry.1.isPrefixOf ('-' :: first :: rest)) = none := by
  have apart (letter : Char) (none : letter.isDigit = false) : (letter == first) = false :=
    beq_eq_false_iff_ne.mpr (ne_of_isDigit digit none).symm
  constructor <;>
    simp [names, List.isPrefixOf, apart 'n' rfl, apart 't' rfl, apart 'f' rfl, apart 'N' rfl,
      apart 'I' rfl, apart '-' rfl]

theorem readScalar_numeral {digits : List Char} (numeral : IsNumeral digits) (rest : List Char) :
    readScalar (digits ++ rest) = readNumber false (digits ++ rest) ∧
      readScalar ('-' :: (digits ++ rest)) = readNumber true (digits ++ rest) := by
  cases digits with
  | nil => exact absurd rfl numeral.nonempty
  | cons first others =>
      have digit := numeral.all first List.mem_cons_self
      obtain ⟨unsigned, signed⟩ := find?_names_digit digit (others ++ rest)
      have notMinus : first ≠ '-' := ne_of_isDigit digit rfl
      constructor
      · rw [readScalar, List.cons_append, unsigned]
        simp [notMinus]
      · rw [readScalar, List.cons_append, signed]

/-- The text of an integer starts with a digit or with a minus sign. -/
theorem exists_intText_eq_cons (value : Int) : ∃ first rest,
    intText value = first :: rest ∧ (first = '-' ∨ first.isDigit = true) := by
  have numeral := isNumeral_digitsOf value.natAbs
  rw [intText]
  split
  · exact ⟨'-', _, rfl, .inl rfl⟩
  · obtain ⟨first, rest, digits⟩ := List.exists_cons_of_ne_nil numeral.nonempty
    exact ⟨first, rest, digits, .inr (numeral.all first (digits ▸ List.mem_cons_self))⟩

/-- The text of an integer is read as the integer, if it is not too long. -/
theorem readScalar_intText {value : Int}
    (short : (digitsOf value.natAbs).length ≤ Numeral.maxDigits) {rest : List Char}
    (ends : Ends rest) : readScalar (intText value ++ rest) = .ok (.int value, rest) := by
  have numeral := isNumeral_digitsOf value.natAbs
  obtain ⟨unsigned, signed⟩ := readScalar_numeral numeral rest
  rw [intText]
  split
  · rw [List.cons_append, signed, readNumber_append numeral ends, if_neg (Nat.not_lt.mpr short),
      unsigned_digitsOf]
    have magnitude : -(value.natAbs : Int) = value := by omega
    exact congrArg (fun whole : Int => Except.ok (Value.int whole, rest)) magnitude
  · rw [unsigned, readNumber_append numeral ends, if_neg (Nat.not_lt.mpr short),
      unsigned_digitsOf]
    have magnitude : (value.natAbs : Int) = value := by omega
    exact congrArg (fun whole : Int => Except.ok (Value.int whole, rest)) magnitude

end RecordQuery.Json
