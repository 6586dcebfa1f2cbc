import Mathlib
import RecordQuery.Argument

/-!
# Whole numbers in the floating-point range

No finite value is larger than `(2 ^ 53 - 1) * 2 ^ 971`, and every natural number up to it has a
nearest finite value. So a natural number that a numeric argument equals is a numeric argument
itself.
-/

namespace RecordQuery

namespace Binary64

def largest (exponent : Nat) : Nat := (2 ^ precision - 1) * 2 ^ exponent

theorem largest_lt (exponent : Nat) : largest exponent < 2 ^ (precision + exponent) := by
  rw [largest, Nat.pow_add]
  exact Nat.mul_lt_mul_of_pos_right (by decide) (Nat.two_pow_pos _)

theorem roundQuotient_le {numerator denominator bound : Nat} (positive : 0 < denominator)
    (below : numerator ≤ bound * denominator) : roundQuotient numerator denominator ≤ bound := by
  have split := Nat.div_add_mod numerator denominator
  have quotient : numerator / denominator ≤ bound := Nat.div_le_of_le_mul (by rwa [Nat.mul_comm])
  rw [roundQuotient]
  rcases Nat.lt_or_eq_of_le quotient with less | same
  · split
    · exact quotient
    · split
      · exact quotient
      · exact less
  · have rest : numerator % denominator = 0 := by
      rw [same, Nat.mul_comm denominator bound] at split
      omega
    rw [if_pos (by omega)]
    exact quotient

theorem isFinite_ofScaled (negative : Bool) {significand : Nat} {exponent : Int}
    (reached : minExponent ≤ exponent)
    (bounded : significand < 2 ^ precision ∧ exponent ≤ maxExponent ∨ exponent < maxExponent) :
    (ofScaled negative significand exponent reached).isFinite = true := by
  unfold ofScaled
  split
  · rfl
  · split
    · split
      · rfl
      · exact absurd (bounded.elim And.right Int.le_of_lt) ‹_›
    · split
      · rfl
      · rename_i full low
        exact absurd (bounded.resolve_left fun fits => full fits.1) low

theorem fittingExponent_one {numerator : Nat} (nonzero : numerator ≠ 0) :
    fittingExponent numerator 1 = (numerator.log2 : Int) - 52 := by
  have least : ¬ numerator < 1 * Nat.pow 2 numerator.log2 := by
    rw [Nat.one_mul]
    exact Nat.not_lt.mpr (Nat.log2_self_le nonzero)
  have estimate : (numerator.log2 : Int) - (Nat.log2 1 : Nat) - precision =
      (numerator.log2 : Int) - 53 := by
    have unit : Nat.log2 1 = 0 := by decide
    rw [unit, precision]
    omega
  have bound : (numerator.log2 : Int) - 53 + precision = numerator.log2 := by
    rw [precision]
    omega
  simp only [fittingExponent, estimate, bound, Int.natCast_nonneg, if_true, Int.toNat_natCast,
    least, decide_false, Bool.false_eq_true, if_false, minExponent]
  omega

/-- Every natural number up to the largest value has a finite value nearest to it. -/
theorem isFinite_ofRatio (negative : Bool) {numerator exponent : Nat}
    (top : (exponent : Int) = maxExponent) (bounded : numerator ≤ largest exponent) :
    (ofRatio negative numerator 1).isFinite = true := by
  by_cases zero : numerator = 0
  · rw [ofRatio, if_pos zero]
    rfl
  have width : numerator.log2 < precision + exponent :=
    (Nat.log2_lt zero).mpr (Nat.lt_of_le_of_lt bounded (largest_lt exponent))
  have bits : precision = 53 := rfl
  rw [ofRatio, if_neg zero]
  apply isFinite_ofScaled
  rw [fittingExponent_one zero, ← top]
  by_cases full : (numerator.log2 : Int) - 52 = exponent
  · left
    rw [full, if_pos (Int.natCast_nonneg _), Nat.one_mul, Int.toNat_natCast]
    have rounded : roundQuotient numerator (Nat.pow 2 exponent) ≤ 2 ^ precision - 1 :=
      roundQuotient_le (Nat.two_pow_pos _) bounded
    exact ⟨Nat.lt_of_le_of_lt rounded (by decide), Int.le_refl _⟩
  · right
    omega

theorem scale_nonneg (exponent : Int) : 0 ≤ scale exponent := by
  rw [scale]
  split
  · exact Nat.cast_nonneg _
  · rw [Rat.mkRat_eq_div]
    positivity

theorem scale_le {exponent : Int} {highest : Nat} (bounded : exponent ≤ highest) :
    scale exponent ≤ ((2 ^ highest : Nat) : Rat) := by
  rw [scale]
  split
  · have power : 2 ^ exponent.toNat ≤ 2 ^ highest :=
      Nat.pow_le_pow_right (by decide) (by omega)
    exact_mod_cast power
  · have least : (1 : Rat) ≤ (2 ^ highest : Nat) := by exact_mod_cast Nat.one_le_two_pow
    have fraction : mkRat 1 (Nat.pow 2 (-exponent).toNat) ≤ 1 := by
      rw [Rat.mkRat_eq_div]
      have power : (1 : Rat) ≤ (Nat.pow 2 (-exponent).toNat : Nat) := by
        exact_mod_cast Nat.one_le_two_pow
      exact (div_le_one (by linarith)).mpr (by simpa using power)
    exact fraction.trans least

theorem natAbs_le_largest {value : Binary64} {point : Extended} {whole : Int} {exponent : Nat}
    (top : (exponent : Int) = maxExponent) (denoted : value.extended? = some point)
    (number : point.whole? = some whole) : whole.natAbs ≤ largest exponent := by
  cases value with
  | nan payload => contradiction
  | infinite negative => cases negative <;> (obtain rfl := Option.some.inj denoted; contradiction)
  | finite negative significand power inFormat =>
      obtain rfl := Option.some.inj denoted
      rw [Extended.whole?] at number
      split at number
      · rename_i integral
        obtain rfl := Option.some.inj number
        have whole := Rat.coe_int_num_of_den_eq_one integral
        have size : (significand : Rat) ≤ (2 ^ precision - 1 : Nat) := by
          exact_mod_cast Nat.le_pred_of_lt inFormat.significand_lt
        have scaled : scale power ≤ (2 ^ exponent : Nat) :=
          scale_le (by rw [top]; exact inFormat.exponent_le)
        have nonnegative : 0 ≤ scale power := scale_nonneg power
        have magnitude : (significand : Rat) * scale power ≤ (largest exponent : Nat) := by
          rw [largest, Nat.cast_mul]
          gcongr
        have size : |ratio negative significand power| = (significand : Rat) * scale power := by
          rw [ratio]
          split
          · rw [abs_neg, abs_of_nonneg (by positivity)]
          · exact abs_of_nonneg (by positivity)
        rw [← size, ← whole, ← Int.cast_abs, Int.abs_eq_natAbs] at magnitude
        exact_mod_cast magnitude
      · contradiction

theorem isSome_ofInt?_of_le {value : Int} {exponent : Nat} (top : (exponent : Int) = maxExponent)
    (bounded : value.natAbs ≤ largest exponent) : (ofInt? value).isSome = true := by
  rw [ofInt?, if_pos (isFinite_ofRatio _ top bounded)]
  rfl

/-- Every whole number that a finite value denotes is in the floating-point range. -/
theorem isSome_ofInt?_of_whole? {value : Binary64} {point : Extended} {whole : Int}
    (denoted : value.extended? = some point) (number : point.whole? = some whole) :
    (ofInt? whole).isSome = true :=
  have top : ((971 : Nat) : Int) = maxExponent := rfl
  isSome_ofInt?_of_le top (natAbs_le_largest top denoted number)

/-- Every natural number that a finite value denotes is in the floating-point range. -/
theorem isSome_ofInt?_of_extended? {value : Binary64} {point : Extended} {whole : Int}
    (denoted : value.extended? = some point) (number : point.whole? = some whole) :
    (ofInt? whole.toNat).isSome = true :=
  have top : ((971 : Nat) : Int) = maxExponent := rfl
  have natural : (whole.toNat : Int).natAbs ≤ whole.natAbs := by omega
  isSome_ofInt?_of_le top (natural.trans (natAbs_le_largest top denoted number))

end Binary64

namespace Argument

/-- A whole number that no floating-point value is nearest to. -/
def IsBeyond (value : Value) : Prop := ∃ whole, value = .int whole ∧ Binary64.ofInt? whole = none

theorem finite_eq_ok {value found : Value} {name : String}
    (accepted : finite value name = .ok found) :
    found = value ∧ ((∃ whole, value = .int whole ∧ (Binary64.ofInt? whole).isSome = true) ∨
      ∃ real, value = .float real) := by
  cases value with
  | int whole =>
      by_cases inRange : (Binary64.ofInt? whole).isSome = true
      · rw [finite, if_pos inRange] at accepted
        exact ⟨(Except.ok.inj accepted).symm, .inl ⟨whole, rfl, inRange⟩⟩
      · rw [finite, if_neg inRange] at accepted
        contradiction
  | float real =>
      by_cases number : real.isFinite = true
      · rw [finite, if_pos number] at accepted
        exact ⟨(Except.ok.inj accepted).symm, .inr ⟨real, rfl⟩⟩
      · rw [finite, if_neg number] at accepted
        contradiction
  | _ => contradiction

theorem natural?_int (whole : Int) :
    natural? (.int whole) = if 0 ≤ whole then some whole.toNat else none := by
  simp [natural?, Value.point?, Extended.whole?]

theorem number_eq_ok {value found : Value} {name : String}
    (accepted : number value name = .ok found) :
    (∃ whole, found = .int whole ∧ (Binary64.ofInt? whole).isSome = true) ∨
      ∃ real, found = .float real := by
  have checked {source : Value} (accepted : finite source name = .ok found) :
      (∃ whole, found = .int whole ∧ (Binary64.ofInt? whole).isSome = true) ∨
        ∃ real, found = .float real := by
    obtain ⟨rfl, kinds⟩ := finite_eq_ok accepted
    exact kinds
  unfold number at accepted
  split at accepted
  · split at accepted
    · exact checked accepted
    · contradiction
  · exact checked accepted

theorem whole?_eq_some_iff {point : Extended} {whole : Int} :
    point.whole? = some whole ↔ point = .rational (whole : Rat) := by
  cases point with
  | rational value =>
      simp only [Extended.whole?]
      split
      · rename_i integral
        rw [Option.some.injEq, Extended.rational.injEq]
        constructor
        · rintro rfl
          exact ((Rat.den_eq_one_iff value).mp integral).symm
        · rintro rfl
          rfl
      · rename_i fractional
        simp only [reduceCtorEq, Extended.rational.injEq, false_iff]
        rintro rfl
        exact fractional rfl
  | _ => simp [Extended.whole?]

/-- The natural number that a value equals is the point that it denotes. -/
theorem natural?_eq_some_iff {value : Value} {count : Nat} :
    natural? value = some count ↔ value.point? = some (.rational ((count : Int) : Rat)) := by
  constructor
  · intro read
    rw [natural?] at read
    split at read
    · rename_i whole denoted
      split at read
      · rename_i positive
        obtain rfl := Option.some.inj read
        obtain ⟨point, same, integral⟩ := Option.bind_eq_some_iff.mp denoted
        rw [same, whole?_eq_some_iff.mp integral, Int.toNat_of_nonneg positive]
      · contradiction
    · contradiction
  · intro denoted
    have integral : Extended.whole? (.rational ((count : Int) : Rat)) = some (count : Int) :=
      whole?_eq_some_iff.mpr rfl
    simp only [natural?, denoted, Option.bind_some, integral, Int.natCast_nonneg, if_true,
      Int.toNat_natCast]

theorem whole_eq_ok_iff {value : Value} {name : String} {count : Nat} :
    whole value name = .ok count ↔
      ∃ found, number value name = .ok found ∧ natural? found = some count := by
  rw [whole]
  cases number value name with
  | error failure => simp
  | ok found =>
      simp only [Except.ok.injEq, exists_eq_left']
      cases natural? found <;> simp

/-- A whole number that an argument gives is in the floating-point range. -/
theorem isSome_ofInt?_of_whole {value : Value} {name : String} {result : Nat}
    (read : whole value name = .ok result) : (Binary64.ofInt? result).isSome = true := by
  obtain ⟨found, accepted, reached⟩ := whole_eq_ok_iff.mp read
  have denoted := natural?_eq_some_iff.mp reached
  rcases number_eq_ok accepted with ⟨number, rfl, inRange⟩ | ⟨real, rfl⟩
  · simp only [Value.point?, Option.some.injEq, Extended.rational.injEq, Int.cast_inj] at denoted
    exact denoted ▸ inRange
  · exact Binary64.isSome_ofInt?_of_extended? denoted (whole?_eq_some_iff.mpr rfl)

/-- A whole number in the floating-point range is accepted as it is. -/
theorem number_int {value : Int} (inRange : (Binary64.ofInt? value).isSome = true)
    (name : String) : number (.int value) name = .ok (.int value) := by
  rw [number, finite, if_pos inRange]
  simp

/-- A natural number in the floating-point range is a whole number as it is. -/
theorem whole_int {number : Nat} (inRange : (Binary64.ofInt? number).isSome = true)
    (name : String) : whole (.int number) name = .ok number := by
  rw [whole, number_int inRange]
  simp [natural?_int]

end Argument

end RecordQuery
