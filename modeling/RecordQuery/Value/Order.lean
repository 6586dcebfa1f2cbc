import RecordQuery.Value.Equality

/-!
Order of values.

`Value.less?` is the strict order between values of like kind: numbers by their points, text by code
points, sequences by their first unequal items, dates and times by their counts, sets by inclusion.
It is `none` where the kinds have no order in common.
-/

namespace RecordQuery

namespace Value

mutual

def less? : Value → Value → Option Bool
  | .text left, .text right => some (decide (left < right))
  | .list left, .list right => lessItems? left right
  | .tuple left, .tuple right => lessItems? left right
  | .set left, .set right =>
      some (decide (left.length < right.length) && allWithin left right)
  | .date left, .date right => some (decide (left.number < right.number))
  | .datetime left, .datetime right =>
      if left.comparable right then some (left.isBefore right) else none
  | left, right =>
      if left.isNumeric && right.isNumeric then
        match left.point?, right.point? with
        | some first, some second => some (first.less second)
        | _, _ => some false
      else none

/-- The first pair of unequal items decides; a proper start comes first. -/
def lessItems? : List Value → List Value → Option Bool
  | _, [] => some false
  | [], _ :: _ => some true
  | left :: lefts, right :: rights =>
      if same left right then lessItems? lefts rights else less? left right

end

def atMost? (left right : Value) : Option Bool :=
  match left, right with
  | .list lefts, .list rights => atMostItems? lefts rights
  | .tuple lefts, .tuple rights => atMostItems? lefts rights
  | _, _ => (less? left right).map fun below => below || equal left right
where
  atMostItems? : List Value → List Value → Option Bool
    | [], _ => some true
    | _ :: _, [] => some false
    | left :: lefts, right :: rights =>
        if same left right then atMostItems? lefts rights else atMost? left right

end Value

end RecordQuery
