import RecordQuery.Number.Shortest

/-!
Dates and times of the proleptic Gregorian calendar.

`Date.number` counts days, `DateTime.clock` the microseconds that a clock shows, and
`DateTime.instant` those of universal time. Two times of one zone are compared by its clock, other
times by their instants. A time that the clock of its zone skips or shows twice equals none of
another zone. A time without an offset is ordered only with times of its own kind.
-/

namespace RecordQuery

structure Date where
  year : Nat
  month : Nat
  day : Nat
deriving DecidableEq, Inhabited

namespace Date

def isLeap (year : Nat) : Bool := year % 4 = 0 ∧ (year % 100 ≠ 0 ∨ year % 400 = 0)

def daysBefore (month : Nat) : Nat :=
  [0, 0, 31, 59, 90, 120, 151, 181, 212, 243, 273, 304, 334].getD month 334

def number (date : Date) : Nat :=
  let past := date.year - 1
  365 * past + past / 4 - past / 100 + past / 400 + daysBefore date.month +
    (if 2 < date.month ∧ isLeap date.year then 1 else 0) + date.day

end Date

/-- No two changes of a zone are so close that the clock skips or repeats a time for both. -/
def Zone.Spaced (current : Int) : List (Int × Int) → Prop
  | (moment, next) :: (later, last) :: rest =>
      moment + max current next ≤ later + min next last ∧ Spaced next ((later, last) :: rest)
  | _ => True

/-- A zone whose offset changes, in seconds: each moment of universal time at which it changes comes
with the offset from then on. -/
structure Zone where
  name : String
  first : Int
  changes : List (Int × Int)
  spaced : Zone.Spaced first changes
deriving DecidableEq

namespace Zone

/-- The clock reaches the earlier of its readings at a change when it repeats times, and a time
that it skips still counts by the offset from before the change. -/
def offsetFrom (current : Int) : List (Int × Int) → (clock : Int) → (repeated : Bool) → Int
  | [], _, _ => current
  | (moment, next) :: rest, clock, repeated =>
      if clock < 1000000 * (moment + if repeated then min current next else max current next)
      then current else offsetFrom next rest clock repeated

def offset (zone : Zone) (clock : Int) (repeated : Bool) : Int :=
  offsetFrom zone.first zone.changes clock repeated

end Zone

/-- A time of day on a date. Its distance from universal time in seconds is `offset?`, if known, or
comes from its zone; a time that the clock shows twice is meant the second time if `repeated`. -/
structure DateTime where
  date : Date
  hour : Nat
  minute : Nat
  second : Nat
  microsecond : Nat
  offset? : Option Int
  zone? : Option Zone := none
  repeated : Bool := false
deriving DecidableEq, Inhabited

namespace DateTime

def clock (time : DateTime) : Int :=
  let seconds : Int :=
    86400 * (time.date.number : Int) + 3600 * time.hour + 60 * time.minute + time.second
  1000000 * seconds + time.microsecond

def offsetAs? (time : DateTime) (repeated : Bool) : Option Int :=
  match time.zone? with
  | some zone => some (zone.offset time.clock repeated)
  | none => time.offset?

def currentOffset? (time : DateTime) : Option Int := time.offsetAs? time.repeated

/-- Microseconds from the start of the calendar, in universal time where the offset is known. -/
def instant (time : DateTime) : Int := time.clock - 1000000 * time.currentOffset?.getD 0

def comparable (left right : DateTime) : Bool :=
  left.currentOffset?.isSome == right.currentOffset?.isSome

/-- The clock shows the time exactly once. -/
def isSettled (time : DateTime) : Bool := time.offsetAs? false == time.offsetAs? true

def sharesZone (left right : DateTime) : Bool := left.zone?.isSome && left.zone? == right.zone?

def same (left right : DateTime) : Bool :=
  left.comparable right &&
    if left.sharesZone right then left.clock == right.clock
    else left.isSettled && right.isSettled && left.instant == right.instant

def isBefore (left right : DateTime) : Bool :=
  if left.sharesZone right then decide (left.clock < right.clock)
  else decide (left.instant < right.instant)

end DateTime

def paddedDigits (width value : Nat) : List Char :=
  let digits := digitsOf value
  List.replicate (width - digits.length) '0' ++ digits

def Date.text (date : Date) : List Char :=
  paddedDigits 4 date.year ++ '-' :: paddedDigits 2 date.month ++ '-' :: paddedDigits 2 date.day

/-- An offset as `+02:00`, with seconds only where it has some. -/
def offsetText (offset : Int) : List Char :=
  let magnitude := offset.natAbs
  let seconds := magnitude % 60
  (if offset < 0 then '-' else '+') :: paddedDigits 2 (magnitude / 3600) ++
    ':' :: paddedDigits 2 (magnitude / 60 % 60) ++
    (if seconds = 0 then [] else ':' :: paddedDigits 2 seconds)

/-- The text `2024-01-02 03:04:05.000600+00:00`, with a fraction only where it is not zero. -/
def DateTime.text (time : DateTime) : List Char :=
  time.date.text ++ ' ' :: paddedDigits 2 time.hour ++ ':' :: paddedDigits 2 time.minute ++
    ':' :: paddedDigits 2 time.second ++
    (if time.microsecond = 0 then [] else '.' :: paddedDigits 6 time.microsecond) ++
    (match time.currentOffset? with
      | some offset => offsetText offset
      | none => [])

end RecordQuery
