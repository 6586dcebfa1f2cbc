import Mathlib.Data.List.Basic
import RecordQuery.Records.Sorting

/-!
# Sorting sees its members only through comparisons

A sort moves members by what comparisons say about them and by nothing else. So a list whose members
were all changed by a function is sorted like the list as it was, if the comparison says of changed
members what another one says of the members before: the steps and their failures are the same, and
the result is the old one with each member changed.
-/

namespace RecordQuery.Records

variable {α β ε : Type} {f : α → β}

section Counting

variable {test : β → Except ε Bool} {holds : α → Except ε Bool}

theorem leadingBounds_map (agrees : ∀ item, test (f item) = holds item) (items : List α)
    (fuel low offset : Nat) :
    leadingBounds test (items.map f) fuel low offset =
      leadingBounds holds items fuel low offset := by
  induction fuel generalizing low offset with
  | zero => rw [leadingBounds, leadingBounds, List.length_map]
  | succ fuel inductionHypothesis =>
      rw [leadingBounds, leadingBounds, List.getElem?_map, List.length_map]
      cases items[offset]? with
      | none => rfl
      | some item => simp only [Option.map_some, agrees, inductionHypothesis]

theorem meetBounds_map (agrees : ∀ item, test (f item) = holds item) (mirrored : Bool)
    (items : List α) (fuel low high : Nat) :
    meetBounds test mirrored (items.map f) fuel low high =
      meetBounds holds mirrored items fuel low high := by
  induction fuel generalizing low high with
  | zero => rfl
  | succ fuel inductionHypothesis =>
      rw [meetBounds, meetBounds, List.getElem?_map]
      cases items[low + (if mirrored then high - low - 1 else high - low) / 2]? with
      | none => rfl
      | some item => simp only [Option.map_some, agrees, inductionHypothesis]

theorem countLeading_map (agrees : ∀ item, test (f item) = holds item) (mirrored : Bool)
    (items : List α) :
    countLeading test mirrored (items.map f) = countLeading holds mirrored items := by
  simp only [countLeading, List.length_map, leadingBounds_map agrees, meetBounds_map agrees]

theorem countLeading_map_not (test : β → Except ε Bool) (holds : α → Except ε Bool)
    (agrees : ∀ item, test (f item) = holds item) (mirrored : Bool) (items : List α) :
    countLeading (fun item => (test item).map not) mirrored (items.map f) =
      countLeading (fun item => (holds item).map not) mirrored items := by
  refine countLeading_map ?_ mirrored items
  exact fun item => congrArg (Except.map not) (agrees item)

end Counting

namespace Merging

/-- A merge of changed members. -/
def map (f : α → β) (merging : Merging α) : Merging β where
  merged := merging.merged.map f
  guarded := merging.guarded.map f
  other := merging.other.map f

@[simp]
theorem isSettled_map (merging : Merging α) : (merging.map f).isSettled = merging.isSettled := by
  simp [isSettled, map]

@[simp]
theorem takeGuarded_map (merging : Merging α) (count : Nat) :
    (merging.map f).takeGuarded count = (merging.takeGuarded count).map f := by
  simp [takeGuarded, map, List.map_take, List.map_drop]

@[simp]
theorem takeOther_map (merging : Merging α) (count : Nat) :
    (merging.map f).takeOther count = (merging.takeOther count).map f := by
  simp [takeOther, map, List.map_take, List.map_drop]

@[simp]
theorem result_map (merging : Merging α) : (merging.map f).result = merging.result.map f := by
  simp [result, map]

/-- Two steps in turn, the second one only where the merge is not settled. -/
theorem inTurn_map {firstLarge secondLarge : Merging β → Except ε (Nat × Merging β)}
    {firstSmall secondSmall : Merging α → Except ε (Nat × Merging α)}
    (first : ∀ merging, firstLarge (merging.map f) =
      (firstSmall merging).map (Prod.map id (Merging.map f)))
    (second : ∀ merging, secondLarge (merging.map f) =
      (secondSmall merging).map (Prod.map id (Merging.map f))) (merging : Merging α) :
    (do
      let (count, merging) ← firstLarge (merging.map f)
      if merging.isSettled then return (count, merging)
      else
        let (otherCount, merging) ← secondLarge merging
        return (max count otherCount, merging)) =
    Except.map (Prod.map id (Merging.map f)) (do
      let (count, merging) ← firstSmall merging
      if merging.isSettled then return (count, merging)
      else
        let (otherCount, merging) ← secondSmall merging
        return (max count otherCount, merging)) := by
  rw [first]
  rcases firstSmall merging with failure | ⟨count, moved⟩
  · rfl
  · simp only [Except.map, Prod.map, id, bind, Except.bind, isSettled_map, second]
    split
    · rfl
    · cases secondSmall moved <;> rfl

end Merging

/-- A run of changed members, with the same boundary after it. -/
def Waiting.map (f : α → β) (waiting : Waiting α) : Waiting β :=
  ⟨waiting.run.map f, waiting.depth⟩

/-- The runs of changed members. -/
def Runs.map (f : α → β) (runs : Runs α) : Runs β :=
  ⟨runs.last.map f, runs.before.map (Waiting.map f)⟩

section Comparisons

variable {large : β → β → Except ε Bool} {small : α → α → Except ε Bool}
  (agrees : ∀ left right, large (f left) (f right) = small left right)

include agrees

theorem insertHalving_map (pivot : α) (fuel : Nat) (sorted : List α) :
    insertHalving large (f pivot) fuel (sorted.map f) =
      (insertHalving small pivot fuel sorted).map (List.map f) := by
  induction fuel generalizing sorted with
  | zero => rfl
  | succ fuel inductionHypothesis =>
      rw [insertHalving, insertHalving, List.length_map, ← List.map_take, ← List.map_drop]
      cases sorted.drop (sorted.length / 2) with
      | nil => rfl
      | cons middle above =>
          simp only [List.map_cons, agrees, inductionHypothesis]
          cases small pivot middle with
          | error failure => rfl
          | ok result =>
              cases result with
              | true =>
                  cases insertHalving small pivot fuel (sorted.take (sorted.length / 2)) <;>
                    simp [Except.map]
              | false =>
                  cases insertHalving small pivot fuel above <;> simp [Except.map, List.map_take]

theorem insertAll_map (sorted pivots : List α) :
    insertAll large (sorted.map f) (pivots.map f) =
      (insertAll small sorted pivots).map (List.map f) := by
  induction pivots generalizing sorted with
  | nil => rfl
  | cons pivot rest inductionHypothesis =>
      rw [List.map_cons, insertAll, insertAll, List.length_map, insertHalving_map agrees]
      cases insertHalving small pivot sorted.length sorted with
      | error failure => rfl
      | ok longer => exact inductionHypothesis longer

theorem splitRun_map (below : Bool) (last : α) (found items : List α) :
    splitRun large below (f last) (found.map f) (items.map f) =
      (splitRun small below last found items).map (Prod.map (List.map f) (List.map f)) := by
  induction items generalizing last found with
  | nil => rfl
  | cons next rest inductionHypothesis =>
      rw [List.map_cons, splitRun, splitRun, agrees]
      cases small next last with
      | error failure => rfl
      | ok result =>
          dsimp only
          split
          · exact inductionHypothesis next (last :: found)
          · rfl

theorem ascendingStart_map (items : List α) :
    ascendingStart large (items.map f) =
      (ascendingStart small items).map (Prod.map (List.map f) (List.map f)) := by
  match items with
  | [] => rfl
  | [only] => rfl
  | first :: second :: rest =>
      have split (below : Bool) := splitRun_map agrees below second [first] rest
      simp only [List.map_cons, List.map_nil] at split
      simp only [List.map_cons, ascendingStart, agrees, split]
      cases small second first with
      | error failure => rfl
      | ok descends =>
          cases descends with
          | true => rfl
          | false => cases splitRun small false second [first] rest <;> simp [Except.map, Prod.map]

theorem startRun_map (least : Nat) (items : List α) :
    startRun large least (items.map f) =
      (startRun small least items).map (Prod.map (List.map f) (List.map f)) := by
  rw [startRun, startRun, ascendingStart_map agrees]
  rcases ascendingStart small items with failure | ⟨run, rest⟩
  · rfl
  · simp only [Except.map, Prod.map, List.length_map, ← List.map_take, ← List.map_drop,
      insertAll_map agrees]
    cases insertAll small run (rest.take (least - run.length)) <;> rfl

namespace Merging

theorem byTurns_map (patience fuel guardedWins otherWins : Nat) (merging : Merging α) :
    byTurns large patience fuel guardedWins otherWins (merging.map f) =
      (byTurns small patience fuel guardedWins otherWins merging).map (Merging.map f) := by
  induction fuel generalizing guardedWins otherWins merging with
  | zero => rfl
  | succ fuel inductionHypothesis =>
      have fronts : (merging.map f).guarded.head? = merging.guarded.head?.map f ∧
          (merging.map f).other.head? = merging.other.head?.map f := by simp [map]
      rw [byTurns, byTurns, fronts.1, fronts.2]
      cases merging.guarded.head? with
      | none => rfl
      | some front =>
          cases merging.other.head? with
          | none => rfl
          | some other =>
              simp only [Option.map_some, agrees, takeOther_map, takeGuarded_map, isSettled_map,
                inductionHypothesis]
              cases small front other with
              | error failure => rfl
              | ok result => cases result <;> dsimp only <;> split <;> rfl

theorem leapGuarded_map (mirrored : Bool) (merging : Merging α) :
    leapGuarded large mirrored (merging.map f) =
      (leapGuarded small mirrored merging).map (Prod.map id (Merging.map f)) := by
  have front : (merging.map f).other.head? = merging.other.head?.map f := by simp [map]
  rw [leapGuarded, leapGuarded, front]
  cases merging.other.head? with
  | none => rfl
  | some other =>
      have counts := countLeading_map_not (large · (f other)) (small · other)
        (fun front => agrees front other) mirrored merging.guarded
      simp only [Option.map_some, takeGuarded_map, isSettled_map, takeOther_map]
      rw [show (merging.map f).guarded = merging.guarded.map f from rfl, counts]
      cases countLeading (fun front => (small front other).map not) mirrored merging.guarded with
      | error failure => rfl
      | ok count =>
          simp only [Except.map, Prod.map, id]
          split <;> rfl

theorem leapOther_map (mirrored : Bool) (merging : Merging α) :
    leapOther large mirrored (merging.map f) =
      (leapOther small mirrored merging).map (Prod.map id (Merging.map f)) := by
  have front : (merging.map f).guarded.head? = merging.guarded.head?.map f := by simp [map]
  rw [leapOther, leapOther, front]
  cases merging.guarded.head? with
  | none => rfl
  | some front =>
      have counts := countLeading_map (agrees front) mirrored merging.other
      simp only [Option.map_some, takeGuarded_map, isSettled_map, takeOther_map]
      rw [show (merging.map f).other = merging.other.map f from rfl, counts]
      cases countLeading (small front) mirrored merging.other with
      | error failure => rfl
      | ok count =>
          simp only [Except.map, Prod.map, id]
          split <;> rfl

theorem leapBoth_map (mirrored : Bool) (merging : Merging α) :
    leapBoth large mirrored (merging.map f) =
      (leapBoth small mirrored merging).map (Prod.map id (Merging.map f)) := by
  cases mirrored with
  | true => exact inTurn_map (leapOther_map agrees true) (leapGuarded_map agrees true) merging
  | false => exact inTurn_map (leapGuarded_map agrees false) (leapOther_map agrees false) merging

theorem leaps_map (mirrored : Bool) (fuel patience : Nat) (merging : Merging α) :
    leaps large mirrored fuel patience (merging.map f) =
      (leaps small mirrored fuel patience merging).map (Prod.map id (Merging.map f)) := by
  induction fuel generalizing patience merging with
  | zero => rfl
  | succ fuel inductionHypothesis =>
      rw [leaps, leaps, leapBoth_map agrees]
      rcases leapBoth small mirrored merging with failure | ⟨count, moved⟩
      · rfl
      · simp only [Except.map, Prod.map, id, bind, Except.bind, isSettled_map,
          inductionHypothesis]
        split
        · rfl
        · split <;> rfl

theorem settle_map (mirrored : Bool) (fuel patience : Nat) (merging : Merging α) :
    settle large mirrored fuel patience (merging.map f) =
      (settle small mirrored fuel patience merging).map (Prod.map id (Merging.map f)) := by
  induction fuel generalizing patience merging with
  | zero => rfl
  | succ fuel inductionHypothesis =>
      rw [settle, settle, isSettled_map, byTurns_map agrees]
      split
      · rfl
      · rcases byTurns small patience (fuel + 1) 0 0 merging with failure | moved
        · rfl
        · simp only [Except.map, bind, Except.bind, isSettled_map, leaps_map agrees]
          split
          · rfl
          · rcases leaps small mirrored (fuel + 1) (patience + 1) moved with failure | ⟨rest, last⟩
            · rfl
            · exact inductionHypothesis rest last

end Merging

theorem blend_map (mirrored : Bool) (patience : Nat) (guarded other : List α) :
    blend large mirrored patience (guarded.map f) (other.map f) =
      (blend small mirrored patience guarded other).map (Prod.map id (List.map f)) := by
  have start : (Merging.mk [] (guarded.map f) (other.map f)).takeOther 1 =
      ((Merging.mk [] guarded other).takeOther 1).map f :=
    Merging.takeOther_map ⟨[], guarded, other⟩ 1
  rw [blend, blend, start]
  simp only [List.length_map, Merging.settle_map agrees]
  cases Merging.settle small mirrored (guarded.length + other.length) patience
    ((Merging.mk [] guarded other).takeOther 1) <;> simp [Except.map, Prod.map]

theorem mergeRuns_map (patience : Nat) (left right : List α) :
    mergeRuns large patience (left.map f) (right.map f) =
      (mergeRuns small patience left right).map (Prod.map id (List.map f)) := by
  rw [mergeRuns, mergeRuns, List.head?_map]
  cases right.head? with
  | none => rfl
  | some first =>
      have leading := countLeading_map_not (large (f first)) (small first) (agrees first)
        false left
      simp only [Option.map_some, leading, ← List.map_take, ← List.map_drop, List.getLast?_map]
      cases countLeading (fun item => (small first item).map not) false left with
      | error failure => rfl
      | ok settledFirst =>
          simp only [bind, Except.bind]
          cases (left.drop settledFirst).getLast? with
          | none => simp [Except.map, Prod.map, pure, Except.pure, List.map_take]
          | some last =>
              have trailing := countLeading_map_not (large · (f last)) (small · last)
                (fun item => agrees item last) true right.reverse
              simp only [Option.map_some, ← List.map_reverse, trailing]
              cases countLeading (fun item => (small item last).map not) true right.reverse with
              | error failure => rfl
              | ok settledLast =>
                  -- The shorter part is set aside, so the merge runs from either end.
                  have forwards : blend (fun item other => large other item) false patience
                      ((left.drop settledFirst).map f)
                      ((right.take (right.length - settledLast)).map f) = _ :=
                    blend_map (fun item other => agrees other item) false patience _ _
                  have backwards := blend_map agrees true patience
                    (right.take (right.length - settledLast)).reverse
                    (left.drop settledFirst).reverse
                  simp only [List.length_map, List.isEmpty_map, forwards, backwards]
                  split
                  · simp [Except.map, Prod.map, pure, Except.pure, List.map_take]
                  · split
                    · cases blend (fun item other => small other item) false patience
                        (left.drop settledFirst) (right.take (right.length - settledLast)) <;>
                        simp [Except.map, Prod.map, pure, Except.pure]
                    · cases blend small true patience
                        (right.take (right.length - settledLast)).reverse
                        (left.drop settledFirst).reverse <;>
                        simp [Except.map, Prod.map, pure, Except.pure]

namespace Runs

theorem collapse_map (depth patience : Nat) (last : List α) (before : List (Waiting α)) :
    collapse large depth patience (last.map f) (before.map (Waiting.map f)) =
      (collapse small depth patience last before).map (Prod.map id (Runs.map f)) := by
  induction before generalizing patience last with
  | nil => rfl
  | cons next rest inductionHypothesis =>
      simp only [List.map_cons, collapse, Waiting.map, mergeRuns_map agrees]
      split
      · rcases mergeRuns small patience next.run last with failure | ⟨later, merged⟩
        · rfl
        · exact inductionHypothesis later merged
      · rfl

theorem push_map (size patience : Nat) (runs : Runs α) (run : List α) :
    (runs.map f).push large size patience (run.map f) =
      (runs.push small size patience run).map (Prod.map id (Runs.map f)) := by
  have lengths (total : Nat) (before : List (Waiting α)) :
      (before.map (Waiting.map f)).foldl (fun total waiting => total + waiting.run.length) total =
        before.foldl (fun total waiting => total + waiting.run.length) total := by
    simp [List.foldl_map, Waiting.map]
  simp only [push, map, lengths, List.isEmpty_map, List.length_map, collapse_map agrees]
  split
  · rfl
  · cases collapse small _ patience runs.last runs.before <;> rfl

theorem mergeAll_map (patience : Nat) (last : List α) (before : List (Waiting α)) :
    mergeAll large patience (last.map f) (before.map (Waiting.map f)) =
      (mergeAll small patience last before).map (List.map f) := by
  fun_induction mergeAll small patience last before with
  | case1 patience last => simp [mergeAll, Except.map]
  | case2 patience last only =>
      simp only [List.map_cons, List.map_nil, mergeAll, Waiting.map, mergeRuns_map agrees]
      cases mergeRuns small patience only.run last <;> rfl
  | case3 patience last next second rest shorter failure step =>
      simp [mergeAll, Waiting.map, mergeRuns_map agrees, shorter, step, Except.map]
  | case4 patience last next second rest shorter later merged step inductionHypothesis =>
      simpa [mergeAll, Waiting.map, mergeRuns_map agrees, shorter, step, Except.map]
        using inductionHypothesis
  | case5 patience last next second rest shorter failure step =>
      simp [mergeAll, Waiting.map, mergeRuns_map agrees, shorter, step, Except.map]
  | case6 patience last next second rest shorter later merged step inductionHypothesis =>
      simpa [mergeAll, Waiting.map, mergeRuns_map agrees, shorter, step, Except.map]
        using inductionHypothesis

theorem cut_map (size fuel patience : Nat) (runs : Runs α) (items : List α) :
    cut large size fuel patience (runs.map f) (items.map f) =
      (cut small size fuel patience runs items).map (Prod.map id (Runs.map f)) := by
  induction fuel generalizing patience runs items with
  | zero => rfl
  | succ fuel inductionHypothesis =>
      cases items with
      | nil => rfl
      | cons item others =>
          have start := startRun_map agrees (leastRun size) (item :: others)
          rw [List.map_cons] at start
          simp only [List.map_cons, cut, start]
          rcases startRun small (leastRun size) (item :: others) with failure | ⟨run, rest⟩
          · rfl
          · simp only [Except.map, Prod.map, push_map agrees]
            rcases runs.push small size patience run with failure | ⟨later, longer⟩
            · rfl
            · exact inductionHypothesis later longer rest

end Runs

/-- A sort of changed members is the sort of the members, each one changed, if the comparison of
changed members says what the comparison of the members says. -/
theorem sortBy_map (items : List α) :
    sortBy large (items.map f) = (sortBy small items).map (List.map f) := by
  have runs :
      Runs.cut large items.length items.length Merging.longLeap ⟨[], []⟩ (items.map f) = _ :=
    Runs.cut_map agrees items.length items.length Merging.longLeap ⟨[], []⟩ items
  rw [sortBy, sortBy, List.length_map, runs]
  rcases Runs.cut small items.length items.length Merging.longLeap ⟨[], []⟩ items with
    failure | ⟨patience, found⟩
  · rfl
  · exact Runs.mergeAll_map agrees patience found.last found.before

end Comparisons

end RecordQuery.Records
