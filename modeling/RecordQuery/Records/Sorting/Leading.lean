/-!
Counting the leading members of a list that satisfy a test, with few tests.

`countLeading` tests the members at the offsets 0, 1, 3, 7 and so on up to one that fails, then
halves the range that is left. If the members that satisfy the test all come first, it is their
number.
-/

namespace RecordQuery.Records

variable {α ε : Type}

/-- Two bounds on the count: the member before the lower one satisfies the test, and the member at
the upper one does not, unless that is the end. -/
def leadingBounds (holds : α → Except ε Bool) (items : List α) :
    Nat → Nat → Nat → Except ε (Nat × Nat)
  | 0, low, _ => .ok (low, items.length)
  | fuel + 1, low, offset =>
      match items[offset]? with
      | none => .ok (low, items.length)
      | some item =>
          match holds item with
          | .error failure => .error failure
          | .ok true => leadingBounds holds items fuel (offset + 1) (2 * offset + 1)
          | .ok false => .ok (low, offset)

def meetBounds (holds : α → Except ε Bool) (mirrored : Bool) (items : List α) :
    Nat → Nat → Nat → Except ε Nat
  | 0, low, _ => .ok low
  | fuel + 1, low, high =>
      let middle := low + (if mirrored then high - low - 1 else high - low) / 2
      match items[middle]? with
      | none => .ok low
      | some item =>
          if high ≤ low then .ok low
          else
            match holds item with
            | .error failure => .error failure
            | .ok true => meetBounds holds mirrored items fuel (middle + 1) high
            | .ok false => meetBounds holds mirrored items fuel low middle

def countLeading (holds : α → Except ε Bool) (mirrored : Bool) (items : List α) :
    Except ε Nat :=
  match leadingBounds holds items (items.length + 1) 0 0 with
  | .error failure => .error failure
  | .ok (low, high) => meetBounds holds mirrored items (items.length + 1) low high

end RecordQuery.Records
