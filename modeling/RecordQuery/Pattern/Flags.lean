/-!
The modes of a regular expression, with their one-letter names.
-/

namespace RecordQuery.Pattern

/-- The modes under which a pattern is read and searched. -/
structure Flags where
  ignoreCase : Bool
  multiline : Bool
  extended : Bool
  dotAll : Bool
  ascii : Bool
  template : Bool
deriving DecidableEq, Inhabited

namespace Flags

def none : Flags := ⟨false, false, false, false, false, false⟩

def union (left right : Flags) : Flags where
  ignoreCase := left.ignoreCase || right.ignoreCase
  multiline := left.multiline || right.multiline
  extended := left.extended || right.extended
  dotAll := left.dotAll || right.dotAll
  ascii := left.ascii || right.ascii
  template := left.template || right.template

def without (left right : Flags) : Flags where
  ignoreCase := left.ignoreCase && !right.ignoreCase
  multiline := left.multiline && !right.multiline
  extended := left.extended && !right.extended
  dotAll := left.dotAll && !right.dotAll
  ascii := left.ascii && !right.ascii
  template := left.template && !right.template

def ofLetter? : Char → Option Flags
  | 'i' => some { none with ignoreCase := true }
  | 'm' => some { none with multiline := true }
  | 'x' => some { none with extended := true }
  | 's' => some { none with dotAll := true }
  | _ => Option.none

/-- The flags that a run of letters names; other letters name none. -/
def ofLetters (letters : List Char) : Flags :=
  letters.foldl (fun flags letter => (ofLetter? letter).elim flags flags.union) none

end Flags

end RecordQuery.Pattern
