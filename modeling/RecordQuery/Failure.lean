import RecordQuery.Pattern.Fault
import RecordQuery.Value.Display

/-!
The ways in which an operation can fail.

`QueryFault` and `SettingsFault` are the refusals that the query engine words itself; the other
failures come from an operation on a value of a kind that does not have it. `Failure.message` holds
all wording.
-/

namespace RecordQuery

/-- Why a filter cannot be tested on a record. -/
inductive MatchFault where
  | unknownOperator (operator : Value)
  | wrongArgument (operator : String) (argument : Value)
  | unknownType (type : Value)
  | patternNotText (argument : Value)
  | invalidPattern (argument : Value) (fault : Pattern.Fault)

inductive QueryFault where
  | notNumber (name : String)
  | notWhole (name : String)
  | notCoordinate (name : String)
  | filterNotObject
  | notFilterArray (combinator : String)
  | fieldsNotTexts
  | fieldsNotArray
  | sortNotObject
  | invalidDirection (field : Value)
  | keyNotText
  | optionsNotObject
  | emptyField
  | unknownPatternOptions (names : List String)
  | patternOptionsNotObject
  | zeroDivisor
  | notComparable
  | ignoresCase
  | notAnchored
  | invalidPattern (reason : String)
  | notPattern
  | tooManyPoints (limit : Int)
  | invalidOperand
  | unsupportedOffline (operators : List String)
  | recordsNotArray
  | modulusNotPair
  | untestable (fault : MatchFault)
  | stated (reason : String)

inductive SettingsFault where
  | notObject (file : String)
  | operatorsNotList
  | invalidPointLimit (value : Value)

inductive KindFault where
  | choicesNotList
  | other

inductive Failure where
  | query (fault : QueryFault)
  | settings (fault : SettingsFault)
  | pattern (fault : Pattern.Fault)
  | wrongKind (fault : KindFault)
  | invalidValue
  | overflow
  | noMember
  | outOfRange
  | missingKey
  | divisionByZero
  | notImplemented
  | endless
  | other (kind message : String)
  | exit (kind message : String)

namespace MatchFault

/-- Whether the fault can be worded: what it is about has to be shown. -/
def isShown : MatchFault → Bool
  | .unknownOperator value | .wrongArgument _ value | .unknownType value | .patternNotText value
  | .invalidPattern value _ => value.isShown

def message : MatchFault → String
  | .unknownOperator operator =>
      String.ofList operator.display ++ " operator isn't supported"
  | .wrongArgument operator argument =>
      operator ++ " has been attributed incorrect argument " ++ String.ofList argument.display
  | .unknownType type => "$type has been used with unknown type " ++ String.ofList type.display
  | .patternNotText argument =>
      String.ofList argument.display ++ " is not a regular expression and should be a string"
  | .invalidPattern argument fault =>
      String.ofList argument.display ++ " failed to execute with error " ++ fault.kind ++ "(" ++
        String.ofList (Text.quoted fault.reason.toList) ++ ")"

end MatchFault

namespace QueryFault

def message : QueryFault → String
  | .notNumber name => name ++ " must be a number"
  | .notWhole name => name ++ " must be a non-negative whole number"
  | .notCoordinate name => name ++ " must be a [number, number]"
  | .filterNotObject => "filter must be an object"
  | .notFilterArray combinator => combinator ++ " must be an array of filters"
  | .fieldsNotTexts => "fields must be an Array of strings"
  | .fieldsNotArray => "fields must be an Array"
  | .sortNotObject => "sort must be an Object"
  | .invalidDirection field =>
      "sort direction for " ++ String.ofList field.display ++ " must be 1 or -1"
  | .keyNotText => "Input should be a valid string"
  | .optionsNotObject => "query options must be an Object"
  | .emptyField => "field must be a non-empty string"
  | .unknownPatternOptions names => "Unknown regex options: " ++ Text.join ", " names
  | .patternOptionsNotObject => "options must be a RegexOptions or an Object"
  | .zeroDivisor => "divisor must not be zero"
  | .notComparable => "You must supply a number or string."
  | .ignoresCase => "ignore_case flag is not supported."
  | .notAnchored =>
      "reg_exp must have `^` at the beginning of the expression " ++
        "to make it an anchored expression."
  | .invalidPattern reason => "reg_exp is not a valid regular expression: " ++ reason
  | .notPattern => "reg_exp must be a string or a compiled pattern"
  | .tooManyPoints limit =>
      "coords must be [[number, number]] with at most " ++ String.ofList (intText limit) ++
        " points"
  | .invalidOperand => "query argument must be of type: Criteria[] or Object[]."
  | .unsupportedOffline operators =>
      "This query is not able to run locally. The following filters are not supported locally: " ++
        Text.join " " operators
  | .recordsNotArray => "data argument must be of type: Array."
  | .modulusNotPair => "$mod must be [divisor, remainder]"
  | .untestable fault => "This query is not able to run locally: " ++ fault.message
  | .stated reason => reason

end QueryFault

namespace SettingsFault

def message : SettingsFault → String
  | .notObject file => file ++ " must contain a JSON object"
  | .operatorsNotList =>
      "query.unsupported_offline_operators must be a list of operator names"
  | .invalidPointLimit value =>
      "query.max_polygon_points must be a positive integer, got " ++ String.ofList value.display

end SettingsFault

namespace KindFault

def message : KindFault → String
  | .choicesNotList => "condition must be a list"
  | .other => "unsupported operand type"

end KindFault

namespace Failure

/-- An operation on a value of the wrong kind. -/
def mismatch : Failure := .wrongKind .other

/-- A filter that cannot be tested on a record, or that cannot even be shown. -/
def untestable (fault : MatchFault) : Failure :=
  if fault.isShown then .query (.untestable fault) else .invalidValue

/-- The name of the kind of failure, as entries of the log give it. -/
def kind : Failure → String
  | .query _ => "QueryError"
  | .settings _ => "ConfigError"
  | .pattern fault => fault.kind
  | .wrongKind _ => "TypeError"
  | .invalidValue => "ValueError"
  | .overflow => "OverflowError"
  | .noMember => "AttributeError"
  | .outOfRange => "IndexError"
  | .missingKey => "KeyError"
  | .divisionByZero => "ZeroDivisionError"
  | .notImplemented => "NotImplementedError"
  | .endless => "RecursionError"
  | .other kind _ | .exit kind _ => kind

def message : Failure → String
  | .query fault => fault.message
  | .settings fault => fault.message
  | .pattern fault => fault.reason
  | .wrongKind fault => fault.message
  | .invalidValue => "invalid value"
  | .overflow => "int too large to convert to float"
  | .noMember => "no such member"
  | .outOfRange => "index out of range"
  | .missingKey => "no such key"
  | .divisionByZero => "division by zero"
  | .notImplemented => "not implemented"
  | .endless => "maximum recursion depth exceeded"
  | .other _ message | .exit _ message => message

def isExit : Failure → Bool
  | .exit _ _ => true
  | _ => false

end Failure

end RecordQuery
