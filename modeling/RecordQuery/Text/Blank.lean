/-!
White space, and text without its ends.
-/

namespace RecordQuery.Text

def isBlank (character : Char) : Bool :=
  let point := character.toNat
  (decide (9 ≤ point) && decide (point ≤ 13)) || (decide (28 ≤ point) && decide (point ≤ 32)) ||
    point == 133 || point == 160 || point == 5760 ||
    (decide (8192 ≤ point) && decide (point ≤ 8202)) || point == 8232 || point == 8233 ||
    point == 8239 || point == 8287 || point == 12288

/-- White space around a numeral: the information separators are not part of it. -/
def isNumeralBlank (character : Char) : Bool :=
  isBlank character && !(decide (28 ≤ character.toNat) && decide (character.toNat ≤ 31))

def trim (drop : Char → Bool) (characters : List Char) : List Char :=
  ((characters.dropWhile drop).reverse.dropWhile drop).reverse

end RecordQuery.Text
