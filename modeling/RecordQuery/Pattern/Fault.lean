/-!
Why a regular expression cannot be used.

`Fault.kind` names the kind of a fault and `Fault.reason` words it, as messages about a pattern do.
-/

namespace RecordQuery.Pattern

/-- Why a pattern cannot be read or searched for. -/
inductive Fault where
  | malformed (reason : String)
  | countTooLarge
  | countTooLong (digits : String)
  | pointTooLarge
  | classesClash
  | groupReversed
deriving DecidableEq

namespace Fault

def kind : Fault → String
  | .malformed _ => "error"
  | .countTooLarge | .pointTooLarge => "OverflowError"
  | .countTooLong _ | .classesClash => "ValueError"
  | .groupReversed => "SystemError"

def reason : Fault → String
  | .malformed reason => reason
  | .countTooLarge => "the repetition number is too large"
  | .countTooLong digits =>
      "Exceeds the limit (4300 digits) for integer string conversion: value has " ++ digits ++
        " digits; use sys.set_int_max_str_digits() to increase the limit"
  | .pointTooLarge => "Python int too large to convert to C int"
  | .classesClash => "ASCII and UNICODE flags are incompatible"
  | .groupReversed =>
      "The span of capturing group is wrong, please report a bug for the re module."

end Fault

end RecordQuery.Pattern
