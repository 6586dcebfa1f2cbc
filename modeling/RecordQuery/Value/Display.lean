import RecordQuery.Number.Numeral
import RecordQuery.Text.Pieces
import RecordQuery.Text.Quoted
import RecordQuery.Value.Basic

/-!
Values as messages show them.

`Value.display` shows a value inside another one or in a message, text in quotes. `Value.plain`
shows a value on its own: text and times as they are, all else as `display` does. Both are shown
only where `Value.isShown` holds: an integer of too many digits has no numeral.
-/

namespace RecordQuery

/-- The digits of a whole number with its sign. -/
def intText (value : Int) : List Char :=
  if value < 0 then '-' :: digitsOf value.natAbs else digitsOf value.natAbs

namespace Value

/-- The longest quoted source that the display of a pattern shows. -/
def maxSource : Nat := 200

def displayPattern (source : String) (flags : Pattern.Flags) : List Char :=
  let named : List (Bool × String) :=
    [(flags.template, "re.TEMPLATE"), (flags.ignoreCase, "re.IGNORECASE"),
      (flags.multiline, "re.MULTILINE"), (flags.dotAll, "re.DOTALL"),
      (flags.extended, "re.VERBOSE"), (flags.ascii, "re.ASCII")]
  let names := (named.filter Prod.fst).map fun entry => entry.2.toList
  "re.compile(".toList ++ (Text.quoted source.toList).take maxSource ++
    (if names.isEmpty then [] else ',' :: ' ' :: Text.joined ['|'] names) ++ [')']

def displayOffset (offset : Int) : List Char :=
  let days := offset.fdiv 86400
  let seconds := offset.fmod 86400
  if offset = 0 then "datetime.timezone.utc".toList
  else
    "datetime.timezone(datetime.timedelta(".toList ++
      Text.joined [',', ' ']
        ((if days = 0 then [] else ["days=".toList ++ intText days]) ++
          (if seconds = 0 then [] else ["seconds=".toList ++ intText seconds])) ++
      "))".toList

def displayDateTime (time : DateTime) : List Char :=
  let always := [time.date.year, time.date.month, time.date.day, time.hour, time.minute]
  let further :=
    if time.microsecond ≠ 0 then [time.second, time.microsecond]
    else if time.second ≠ 0 then [time.second] else []
  let zone :=
    match time.zone?, time.offset? with
    | some zone, _ =>
        ["tzinfo=zoneinfo.ZoneInfo(key=".toList ++ Text.quoted zone.name.toList ++ [')']]
    | none, some offset => ["tzinfo=".toList ++ displayOffset offset]
    | none, none => []
  "datetime.datetime(".toList ++
    Text.joined [',', ' '] ((always ++ further).map digitsOf ++
      (if time.repeated then ["fold=1".toList] else []) ++ zone) ++ [')']

def displayDate (date : Date) : List Char :=
  "datetime.date(".toList ++
    Text.joined [',', ' '] ([date.year, date.month, date.day].map digitsOf) ++ [')']

mutual

/-- A value as part of a message. -/
def display : Value → List Char
  | .null => "None".toList
  | .bool value => if value then "True".toList else "False".toList
  | .int value => intText value
  | .float value => value.text Binary64.displayNames
  | .text value => Text.quoted value.toList
  | .list items => '[' :: (Text.joined [',', ' '] (displayItems items) ++ [']'])
  | .tuple items =>
      '(' :: (Text.joined [',', ' '] (displayItems items) ++
        (if items.length = 1 then [',', ')'] else [')']))
  | .set items =>
      if items.isEmpty then "set()".toList
      else '\x7b' :: (Text.joined [',', ' '] (displayItems items) ++ ['\x7d'])
  | .mapping entries => '\x7b' :: (Text.joined [',', ' '] (displayEntries entries) ++ ['\x7d'])
  | .date value => displayDate value
  | .datetime value => displayDateTime value
  | .pattern source flags => displayPattern source flags

def displayItems : List Value → List (List Char)
  | [] => []
  | item :: rest => display item :: displayItems rest

def displayEntries : List (Value × Value) → List (List Char)
  | [] => []
  | (key, value) :: rest => (display key ++ ':' :: ' ' :: display value) :: displayEntries rest

end

mutual

def isShown : Value → Bool
  | .int value => Numeral.isShort value
  | .list items => areShown items
  | .tuple items => areShown items
  | .set items => areShown items
  | .mapping entries => entriesShown entries
  | _ => true

def areShown : List Value → Bool
  | [] => true
  | item :: rest => isShown item && areShown rest

def entriesShown : List (Value × Value) → Bool
  | [] => true
  | (key, value) :: rest => isShown key && isShown value && entriesShown rest

end

/-- A number of members as a value. No list has more than a machine word counts. -/
def count (members : Nat) : Value := .int (min members 9223372036854775807 : Nat)

def plain : Value → List Char
  | .text value => value.toList
  | .date value => value.text
  | .datetime value => value.text
  | value => value.display

end Value

end RecordQuery
