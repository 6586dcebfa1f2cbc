/-!
Binary floating point with a 53-bit significand, in exact arithmetic.

`Binary64.extended?` is the point of the extended real line that a value denotes; `Binary64.ofRatio`
is the nearest value to a quotient, a tie going to the even significand. Every operation here is the
exact operation followed by one rounding, so no law about it needs the hardware's arithmetic.
-/

namespace RecordQuery

namespace Binary64

def precision : Nat := 53

def minExponent : Int := -1074

def maxExponent : Int := 971

structure InFormat (significand : Nat) (exponent : Int) : Prop where
  significand_lt : significand < Nat.pow 2 precision
  minExponent_le : minExponent ≤ exponent
  exponent_le : exponent ≤ maxExponent

end Binary64

/-- A value of the 64-bit binary format. A finite value denotes `± significand * 2 ^ exponent`;
values that are no number are told apart by their payload. -/
inductive Binary64 where
  | nan (payload : Nat)
  | infinite (negative : Bool)
  | finite (negative : Bool) (significand : Nat) (exponent : Int)
      (inFormat : Binary64.InFormat significand exponent)
deriving DecidableEq

instance : Inhabited Binary64 := ⟨.nan 0⟩

/-- The rational line with its two ends, on which all numbers other than not-a-number lie. -/
inductive Extended where
  | minusInfinity
  | rational (value : Rat)
  | plusInfinity
deriving DecidableEq

namespace Extended

def less : Extended → Extended → Bool
  | .minusInfinity, .minusInfinity => false
  | .minusInfinity, _ => true
  | .rational _, .minusInfinity => false
  | .rational left, .rational right => decide (left < right)
  | .rational _, .plusInfinity => true
  | .plusInfinity, _ => false

def whole? : Extended → Option Int
  | .rational value => if value.den = 1 then some value.num else none
  | _ => none

end Extended

namespace Binary64

def signedZero (negative : Bool) : Binary64 := .finite negative 0 0 ⟨by decide, by decide, by decide⟩

def zero : Binary64 := signedZero false

def scale (exponent : Int) : Rat :=
  if 0 ≤ exponent then (Nat.pow 2 exponent.toNat : Rat) else mkRat 1 (Nat.pow 2 (-exponent).toNat)

def ratio (negative : Bool) (significand : Nat) (exponent : Int) : Rat :=
  let magnitude := (significand : Rat) * scale exponent
  if negative then -magnitude else magnitude

/-- The point that a value denotes; not-a-number denotes none. -/
def extended? : Binary64 → Option Extended
  | .nan _ => none
  | .infinite true => some .minusInfinity
  | .infinite false => some .plusInfinity
  | .finite negative significand exponent _ =>
      some (.rational (ratio negative significand exponent))

def isFinite : Binary64 → Bool
  | .finite _ _ _ _ => true
  | _ => false

def isZero : Binary64 → Bool
  | .finite _ significand _ _ => significand == 0
  | _ => false

def negate : Binary64 → Binary64
  | .nan payload => .nan payload
  | .infinite negative => .infinite !negative
  | .finite negative significand exponent inFormat =>
      .finite (!negative) significand exponent inFormat

def roundQuotient (numerator denominator : Nat) : Nat :=
  let quotient := numerator / denominator
  let rest := numerator % denominator
  if 2 * rest < denominator then quotient
  else if 2 * rest = denominator ∧ quotient % 2 = 0 then quotient
  else quotient + 1

def fittingExponent (numerator denominator : Nat) : Int :=
  let estimate : Int := (numerator.log2 : Int) - denominator.log2 - precision
  let fits : Bool :=
    let bound := estimate + precision
    if 0 ≤ bound then numerator < denominator * Nat.pow 2 bound.toNat
    else numerator * Nat.pow 2 (-bound).toNat < denominator
  max (if fits then estimate else estimate + 1) minExponent

theorem minExponent_le_fittingExponent (numerator denominator : Nat) :
    minExponent ≤ fittingExponent numerator denominator := by
  unfold fittingExponent
  exact Int.le_max_right _ _

/-- The value `± significand * 2 ^ exponent` for a significand that may be one too large for the
format; beyond the largest finite value it is the infinity of that sign. -/
def ofScaled (negative : Bool) (significand : Nat) (exponent : Int)
    (reached : minExponent ≤ exponent) : Binary64 :=
  if significand = 0 then signedZero negative
  else if fits : significand < Nat.pow 2 precision then
    if low : exponent ≤ maxExponent then
      .finite negative significand exponent ⟨fits, reached, low⟩
    else .infinite negative
  else if low : exponent < maxExponent then
    .finite negative (Nat.pow 2 (precision - 1)) (exponent + 1)
      ⟨by decide, by omega, by omega⟩
  else .infinite negative

/-- The value nearest to `± numerator / denominator`, a tie going to the even significand; beyond
the largest finite value it is the infinity of that sign. -/
def ofRatio (negative : Bool) (numerator denominator : Nat) : Binary64 :=
  if numerator = 0 then signedZero negative
  else
    let exponent := fittingExponent numerator denominator
    let significand :=
      if 0 ≤ exponent then roundQuotient numerator (denominator * Nat.pow 2 exponent.toNat)
      else roundQuotient (numerator * Nat.pow 2 (-exponent).toNat) denominator
    ofScaled negative significand exponent (minExponent_le_fittingExponent numerator denominator)

def ofRat (value : Rat) : Binary64 :=
  ofRatio (decide (value < 0)) value.num.natAbs value.den

/-- The nearest finite value to a whole number, if the number is not beyond the format. -/
def ofInt? (value : Int) : Option Binary64 :=
  let nearest := ofRatio (decide (value < 0)) value.natAbs 1
  if nearest.isFinite then some nearest else none

/-- The digits `± coefficient * 10 ^ exponent`, rounded once. Exponents far outside the format are
decided by the number of digits, so that no huge power is formed. -/
def ofDecimal (negative : Bool) (coefficient : Nat) (exponent : Int) : Binary64 :=
  if coefficient = 0 then signedZero negative
  else
    let size : Int := (coefficient.log2 : Int) * 3 / 10
    if 400 < size + exponent then .infinite negative
    else if (coefficient.log2 : Int) + 1 + exponent < -400 then signedZero negative
    else if 0 ≤ exponent then ofRatio negative (coefficient * Nat.pow 10 exponent.toNat) 1
    else ofRatio negative coefficient (Nat.pow 10 (-exponent).toNat)

/-- The remainder of exact division toward zero, which every pair of finite values has exactly. -/
def truncatedRemainder (dividend divisor : Rat) : Rat :=
  let quotient := dividend / divisor
  let whole : Int := quotient.num.tdiv quotient.den
  dividend - divisor * whole

def remainder : Binary64 → Binary64 → Binary64
  | .nan payload, _ => .nan payload
  | _, .nan payload => .nan payload
  | .infinite _, _ => .nan 0
  | .finite negative significand exponent inFormat, .infinite divisorNegative =>
      if significand = 0 then signedZero divisorNegative
      else if negative = divisorNegative then .finite negative significand exponent inFormat
      else .infinite divisorNegative
  | .finite negative significand exponent _, .finite divisorNegative divisor divisorExponent _ =>
      let modulus := ratio divisorNegative divisor divisorExponent
      let rest := truncatedRemainder (ratio negative significand exponent) modulus
      if rest = 0 then signedZero divisorNegative
      else if decide (rest < 0) = divisorNegative then ofRat rest
      else ofRat (rest + modulus)

end Binary64

end RecordQuery
