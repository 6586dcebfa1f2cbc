import RecordQuery.Proofs.Json.Numbers
import RecordQuery.Proofs.Number.Grammar

/-!
# Whole numbers as text

A numeric argument may be the text of a number. The decimal digits of a natural number in the
floating-point range are such a text: they spell the number, and are not too many.
-/

namespace RecordQuery

open Json (digitValue)

namespace Binary64

theorem div_le_roundQuotient (numerator denominator : Nat) :
    numerator / denominator ≤ roundQuotient numerator denominator := by
  dsimp only [roundQuotient]
  split
  · exact Nat.le_refl _
  · split <;> omega

theorem isFinite_ofScaled_beyond (negative : Bool) {significand : Nat} {exponent : Int}
    (reached : minExponent ≤ exponent) (nonzero : significand ≠ 0)
    (beyond : maxExponent < exponent) :
    (ofScaled negative significand exponent reached).isFinite = false := by
  rw [ofScaled, if_neg nonzero]
  split
  · rw [dif_neg (by omega)]
    rfl
  · rw [dif_neg (by omega)]
    rfl

/-- A number of too many bits has no finite value nearest to it. -/
theorem log2_lt_of_isFinite {negative : Bool} {numerator : Nat}
    (finite : (ofRatio negative numerator 1).isFinite = true) : numerator.log2 < 1024 := by
  by_contra wide
  have nonzero : numerator ≠ 0 := by
    rintro rfl
    exact wide (by decide)
  have exponent := fittingExponent_one nonzero
  have beyond : maxExponent < fittingExponent numerator 1 := by
    rw [exponent, maxExponent]
    omega
  have positive :
      roundQuotient numerator (1 * Nat.pow 2 (fittingExponent numerator 1).toNat) ≠ 0 := by
    refine Nat.ne_of_gt (Nat.lt_of_lt_of_le ?_ (div_le_roundQuotient _ _))
    rw [Nat.one_mul]
    refine Nat.div_pos (Nat.le_trans ?_ (Nat.log2_self_le nonzero)) (Nat.two_pow_pos _)
    exact Nat.pow_le_pow_right (by decide) (by omega)
  rw [ofRatio, if_neg nonzero] at finite
  simp only [if_pos (show 0 ≤ fittingExponent numerator 1 by omega)] at finite
  rw [isFinite_ofScaled_beyond negative _ positive beyond] at finite
  contradiction

/-- A whole number in the floating-point range has no more digits than a numeral may have. -/
theorem isShort_of_isSome_ofInt? {number : Int} (inRange : (ofInt? number).isSome = true) :
    Numeral.isShort number = true := by
  have finite : (ofRatio (decide (number < 0)) number.natAbs 1).isFinite = true := by
    by_contra infinite
    rw [ofInt?, if_neg infinite] at inRange
    contradiction
  have narrow : number.natAbs.log2 + 1 ≤ Numeral.maxDigits :=
    (log2_lt_of_isFinite finite).trans_le (by decide)
  rw [Numeral.isShort, decide_eq_true_eq, digitsOf,
    Nat.length_toDigits_le_iff (by decide) (by decide)]
  calc number.natAbs < 2 ^ (number.natAbs.log2 + 1) := Nat.lt_log2_self
    _ ≤ 10 ^ (number.natAbs.log2 + 1) := Nat.pow_le_pow_left (by decide) _
    _ ≤ 10 ^ Numeral.maxDigits := Nat.pow_le_pow_right (by decide) narrow

theorem length_digitsOf_le {number : Nat} (inRange : (ofInt? number).isSome = true) :
    (digitsOf number).length ≤ Numeral.maxDigits := by
  simpa [Numeral.isShort] using isShort_of_isSome_ofInt? inRange

end Binary64

namespace Numeral

theorem toNat_of_isDigit {digit : Char} (decimal : digit.isDigit = true) :
    48 ≤ digit.toNat ∧ digit.toNat ≤ 57 :=
  Char.isDigit_iff_toNat.mp decimal

theorem decimalDigit?_of_isDigit {digit : Char} (decimal : digit.isDigit = true) :
    Text.decimalDigit? digit = some (digitValue digit) := by
  obtain ⟨least, most⟩ := toNat_of_isDigit decimal
  have below : digit.toNat < 48 + 10 := by omega
  simp [Text.decimalDigit?, Text.decimalZeros, least, below, digitValue]

theorem grouped_digits {digits : List Char} (nonempty : digits ≠ [])
    (all : ∀ digit ∈ digits, digit.isDigit = true) : Grouped digits (digits.map digitValue) := by
  induction digits with
  | nil => exact absurd rfl nonempty
  | cons first rest inductionHypothesis =>
      obtain ⟨here, later⟩ := List.forall_mem_cons.mp all
      have value := decimalDigit?_of_isDigit here
      cases rest with
      | nil => exact .last value
      | cons next more => exact .next value (inductionHypothesis (List.cons_ne_nil _ _) later)

/-- The digits of a number are its numeral. -/
theorem natural_digitsOf {number : Nat} (short : (digitsOf number).length ≤ maxDigits) :
    Natural (digitsOf number) number := by
  have numeral := Json.isNumeral_digitsOf number
  have natural := Natural.intro (grouped_digits numeral.nonempty numeral.all) (by simpa using short)
  rwa [← unsigned_eq_ofDigits, Json.unsigned_digitsOf] at natural

end Numeral

namespace Argument

/-- The digits of a natural number in the floating-point range are a whole number. -/
theorem whole_digitsOf {value : Nat} (inRange : (Binary64.ofInt? value).isSome = true)
    (name : String) : whole (.text (String.ofList (digitsOf value))) name = .ok value := by
  have natural := Numeral.natural_digitsOf (Binary64.length_digitsOf_le inRange)
  have spells : Numeral.Spells Text.isBlank (String.ofList (digitsOf value)).toList value := by
    rw [String.toList_ofList]
    exact (Numeral.Whole.unsigned natural).spells
  rw [← whole_int inRange name, whole, whole, number_of_spells spells]

end Argument

end RecordQuery
