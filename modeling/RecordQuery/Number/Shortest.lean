import RecordQuery.Number.Binary64

/-!
The shortest decimal text of a binary floating-point value.

`Decimal.shortest` takes the fewest digits whose decimal reads back as the value, and of those the
nearest to it. `Binary64.text` lays the digits out: positional while the decimal exponent is at
least -4 and below 16, else with an exponent of at least two digits; a positional text always shows
a point.
-/

namespace RecordQuery

structure Decimal where
  coefficient : Nat
  exponent : Int
deriving DecidableEq, Inhabited

def digitsOf (value : Nat) : List Char := Nat.toDigits 10 value

namespace Decimal

/-- An interval of positive rational numbers over one denominator, with a distinguished point. -/
structure Neighbourhood where
  lower : Nat
  centre : Nat
  upper : Nat
  denominator : Nat
  closed : Bool

/-- The numbers that round to a given finite value: half the gap to each neighbour, the ends
included when the significand is even. Below a power of two the gap is half as wide. -/
def Neighbourhood.ofBinary (significand : Nat) (exponent : Int) : Neighbourhood :=
  let factor := Nat.pow 2 exponent.toNat
  let narrow : Bool :=
    significand = Nat.pow 2 (Binary64.precision - 1) ∧ Binary64.minExponent < exponent
  { lower := (4 * significand - if narrow then 1 else 2) * factor
    centre := 4 * significand * factor
    upper := (4 * significand + 2) * factor
    denominator := 4 * Nat.pow 2 (-exponent).toNat
    closed := significand % 2 = 0 }

def Neighbourhood.holds (around : Neighbourhood) (coefficient : Nat) (power : Int) : Bool :=
  let point := coefficient * around.denominator * Nat.pow 10 power.toNat
  let widen := Nat.pow 10 (-power).toNat
  let lower := around.lower * widen
  let upper := around.upper * widen
  if around.closed then decide (lower ≤ point ∧ point ≤ upper)
  else decide (lower < point ∧ point < upper)

def Neighbourhood.distance (around : Neighbourhood) (coefficient : Nat) (power : Int) : Nat :=
  let point := coefficient * around.denominator * Nat.pow 10 power.toNat
  let centre := around.centre * Nat.pow 10 (-power).toNat
  if point ≤ centre then centre - point else point - centre

def Neighbourhood.reaches (around : Neighbourhood) (power : Int) : Bool :=
  decide (around.denominator * Nat.pow 10 power.toNat ≤ around.centre * Nat.pow 10 (-power).toNat)

/-- The exponent of the centre's first digit. The binary logarithm fixes it up to two steps. -/
def Neighbourhood.leading (around : Neighbourhood) : Int :=
  let estimate : Int :=
    ((around.centre.log2 : Int) - around.denominator.log2 - 1) * 30103 / 100000 - 1
  if around.reaches (estimate + 2) then estimate + 2
  else if around.reaches (estimate + 1) then estimate + 1
  else estimate

/-- The largest point at or below the centre on the grid of `10 ^ power`, in units of the grid. -/
def Neighbourhood.below (around : Neighbourhood) (power : Int) : Nat :=
  around.centre * Nat.pow 10 (-power).toNat / (around.denominator * Nat.pow 10 power.toNat)

/-- The better of the two neighbours of the centre on the grid of `10 ^ power`, if one of them lies
in the interval: the nearer one, the even one of a tie. -/
def Neighbourhood.onGrid? (around : Neighbourhood) (power : Int) : Option Nat :=
  let below := around.below power
  let above := below + 1
  match around.holds below power, around.holds above power with
  | true, false => some below
  | false, true => some above
  | false, false => none
  | true, true =>
      let down := around.distance below power
      let up := around.distance above power
      if down < up then some below
      else if up < down then some above
      else if below % 2 = 0 then some below else some above

def Neighbourhood.search (around : Neighbourhood) : Nat → Int → Nat × Int
  | 0, power => (around.below power, power)
  | fuel + 1, power =>
      match around.onGrid? power with
      | some coefficient => (coefficient, power)
      | none => search around fuel (power - 1)

def dropZeros : Nat → Nat → Int → Nat × Int
  | 0, coefficient, power => (coefficient, power)
  | fuel + 1, coefficient, power =>
      if coefficient ≠ 0 ∧ coefficient % 10 = 0 then dropZeros fuel (coefficient / 10) (power + 1)
      else (coefficient, power)

def shortest (significand : Nat) (exponent : Int) : Decimal :=
  let around := Neighbourhood.ofBinary significand exponent
  let (found, power) := around.search 17 around.leading
  let (coefficient, power) := dropZeros 18 found power
  { coefficient, exponent := power + (digitsOf coefficient).length - 1 }

def positionalFrom : Int := -4

def positionalBelow : Int := 16

def exponentDigits (magnitude : Nat) : List Char :=
  if magnitude < 10 then '0' :: digitsOf magnitude else digitsOf magnitude

/-- Digits with a point after `whole` of them; a number without a fraction ends in `.0`. -/
def positional (digits : List Char) (whole : Nat) : List Char :=
  let padded := digits ++ List.replicate (whole - digits.length) '0'
  let fraction := padded.drop whole
  padded.take whole ++ '.' :: (if fraction.isEmpty then ['0'] else fraction)

def layout (decimal : Decimal) : List Char :=
  let digits := digitsOf decimal.coefficient
  if positionalFrom ≤ decimal.exponent ∧ decimal.exponent < positionalBelow then
    if 0 ≤ decimal.exponent then positional digits (decimal.exponent.toNat + 1)
    else '0' :: '.' :: (List.replicate ((-decimal.exponent).toNat - 1) '0' ++ digits)
  else
    let significand :=
      match digits with
      | [] => []
      | [first] => [first]
      | first :: rest => first :: '.' :: rest
    let sign := if decimal.exponent < 0 then '-' else '+'
    significand ++ 'e' :: sign :: exponentDigits decimal.exponent.natAbs

end Decimal

namespace Binary64

structure Names where
  nan : List Char
  infinity : List Char

def displayNames : Names := ⟨['n', 'a', 'n'], ['i', 'n', 'f']⟩

def text (names : Names) : Binary64 → List Char
  | .nan _ => names.nan
  | .infinite negative => (if negative then ['-'] else []) ++ names.infinity
  | .finite negative significand exponent _ =>
      (if negative then ['-'] else []) ++
        if significand = 0 then ['0', '.', '0'] else (Decimal.shortest significand exponent).layout

end Binary64

end RecordQuery
