import RecordQuery.Pattern.Basic
import RecordQuery.Text.Blank
import RecordQuery.Text.Casing
import RecordQuery.Text.Digit

/-!
Single characters and the parts of a pattern that take one.

`Node.test?` is the test of a part that takes exactly one character. Without case, characters are
compared by their lower case, which takes letters of one upper case for the same.
-/

namespace RecordQuery.Pattern

def isSkipped (character : Char) : Bool :=
  character == ' ' || character == '\t' || character == '\n' || character == '\r' ||
    character == '\x0b' || character == '\x0c'

/-- Whether a character is in a class; under `ascii` the classes end at the first 128 characters. -/
def Kind.holds (kind : Kind) (ascii : Bool) (character : Char) : Bool :=
  match kind with
  | .digit => if ascii then character.isDigit else Text.isDecimal character
  | .space => if ascii then isSkipped character else Text.isBlank character
  | .word =>
      if ascii then character.isAlphanum || character == '_' else Text.isWord character

def lowered (ascii : Bool) (point : Nat) : Nat :=
  if ascii then if 65 ≤ point ∧ point ≤ 90 then point + 32 else point
  else Text.lowerPoint point

/-- A lower-case letter with the other ones that match it without case. -/
def alike (ascii : Bool) (point : Nat) : List Nat :=
  if ascii then [point] else point :: Text.twinPoints point

def raisedForms (ascii : Bool) (point : Nat) : List Nat :=
  if ascii then
    if 65 ≤ point ∧ point ≤ 90 then []
    else if 97 ≤ point ∧ point ≤ 122 then [point, point - 32]
    else [point]
  else Text.raisedPoints point

def isCased (ascii : Bool) (point : Nat) : Bool :=
  if ascii then (65 ≤ point ∧ point ≤ 90) ∨ (97 ≤ point ∧ point ≤ 122) else Text.isCased point

def sameCharacter (flags : Flags) (wanted : Nat) (character : Char) : Bool :=
  if flags.ignoreCase then
    (alike flags.ascii (lowered flags.ascii wanted)).contains
      (lowered flags.ascii character.toNat)
  else wanted == character.toNat

/-- The largest code point of the first plane. Sets compare further ones with the lower case of a
character as they are. -/
def firstPlane : Nat := 0xFFFF

def within (first last point : Nat) : Bool := decide (first ≤ point) && decide (point ≤ last)

def Member.holds (flags : Flags) (character : Char) : Member → Bool
  | .one wanted =>
      if flags.ignoreCase ∧ firstPlane < wanted then
        wanted == lowered flags.ascii character.toNat
      else sameCharacter flags wanted character
  | .range first last =>
      if flags.ignoreCase then
        let form := lowered flags.ascii character.toNat
        let near :=
          (alike flags.ascii form).any fun twin =>
            (raisedForms flags.ascii twin).any (within first (min last firstPlane))
        near || (decide (firstPlane < last) &&
          (within first last form || within first last (Text.upperPoint form)))
      else within first last character.toNat
  | .kind name negated => name.holds flags.ascii character != negated

def inSet (flags : Flags) (negated : Bool) (members : List Member) (character : Char) : Bool :=
  (members.any (Member.holds flags character)) != negated

mutual

def Node.test? (flags : Flags) : Node → Option (Char → Bool)
  | .one negated wanted => some fun character => sameCharacter flags wanted character != negated
  | .any => some fun character => flags.dotAll || character != '\n'
  | .set negated members => some (inSet flags negated members)
  | .group none switch body => sequenceTest? (switch.apply flags) body
  | _ => none

def sequenceTest? (flags : Flags) : List Node → Option (Char → Bool)
  | [] => none
  | node :: rest => if rest.isEmpty then Node.test? flags node else none

end

/-- Whether a member has a form in the other case; ranges past the first plane count as such. -/
def Member.isCased (ascii : Bool) : Member → Bool
  | .one point => Pattern.isCased ascii point
  | .range first last =>
      decide (firstPlane < last) ||
        (List.range (last + 1 - first)).any fun step => Pattern.isCased ascii (first + step)
  | .kind _ _ => false

mutual

/-- The set that a part begins with, when its members have no case under the flags there. Classes in
it go by the modes of the whole pattern, so the test is made under these. -/
def Node.leadingTest? (whole flags : Flags) : Node → Option (Char → Bool)
  | .group _ switch body => sequenceLeadingTest? whole (switch.apply flags) body
  | .set negated members =>
      if whole.ascii == flags.ascii ||
          (flags.ignoreCase && members.any (Member.isCased flags.ascii)) then none
      else some (inSet { whole with ignoreCase := false } negated members)
  | _ => none

def sequenceLeadingTest? (whole flags : Flags) : List Node → Option (Char → Bool)
  | [] => none
  | node :: _ => Node.leadingTest? whole flags node

end

end RecordQuery.Pattern
