import RecordQuery.Matching.Reached
import RecordQuery.Outcome

/-!
Conditions on the remainder of a division.

The remainder has the sign of the divisor. The guarded test holds of numbers and of lists with such
a number; the plain one divides whatever it is given.
-/

namespace RecordQuery.Matching

def numeral? : Value → Option (Int ⊕ Binary64)
  | .int value => some (.inl value)
  | .bool value => some (.inl (if value then 1 else 0))
  | .float value => some (.inr value)
  | _ => none

def toReal : Int ⊕ Binary64 → Except Failure Binary64
  | .inr value => .ok value
  | .inl value =>
      match Binary64.ofInt? value with
      | some found => .ok found
      | none => .error .overflow

def modulo (dividend divisor : Value) : Except Failure Value :=
  match numeral? dividend, numeral? divisor with
  | some (.inl left), some (.inl right) =>
      if right = 0 then .error .divisionByZero else .ok (.int (left.fmod right))
  | some left, some right =>
      match toReal left, toReal right with
      | .error failure, _ => .error failure
      | _, .error failure => .error failure
      | .ok first, .ok second =>
          if second.isZero then .error .divisionByZero
          else .ok (.float (first.remainder second))
  | _, _ => .error .mismatch

def leaves (divisor remainder : Value) (entry : Reached) : Outcome :=
  match entry with
  | .value found =>
      if found.isNumber then (modulo found divisor).map fun rest => rest.equal remainder
      else .ok false
  | _ => .ok false

/-- Whether a number, or an item of a list, leaves a remainder. -/
def hasRemainder (argument : Value) (entry : Reached) : Outcome :=
  match argument.items? with
  | some [divisor, remainder] =>
      if !divisor.isNumber || divisor.equal (.int 0) then .ok false
      else
        match entry.items? with
        | some items => Outcome.any (items.map fun item _ => leaves divisor remainder item)
        | none => leaves divisor remainder entry
  | _ => .error (.query .modulusNotPair)

def itemAt (container : Value) (position : Nat) : Except Failure Value :=
  match container with
  | .list items | .tuple items =>
      match items[position]? with
      | some item => .ok item
      | none => .error .outOfRange
  | .text text =>
      match text.toList[position]? with
      | some character => .ok (.text (String.singleton character))
      | none => .error .outOfRange
  | .mapping entries =>
      match Entries.valueOf? entries (.int position) with
      | some value => .ok value
      | none => .error .missingKey
  | _ => .error .mismatch

/-- Whether a value leaves a remainder, without a check of kinds. -/
def hasRemainderPlain (argument : Value) (entry : Reached) : Outcome :=
  do
    let divisor ← itemAt argument 0
    let rest ←
      match entry with
      | .value found => modulo found divisor
      | _ => .error .mismatch
    let remainder ← itemAt argument 1
    return rest.equal remainder

end RecordQuery.Matching
