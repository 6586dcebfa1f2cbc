import RecordQuery.Matching.Condition
import RecordQuery.Proofs.Filter.Reading
import RecordQuery.Proofs.Matching.Literals
import RecordQuery.Proofs.Query.Locality

/-!
# Joins are the connectives of evaluation

After a join, the filter of the target is one combinator over the target's old filter and the
filters of the operands. On a record it gives what the combinator's connective gives on the results
of these filters, tested from left to right up to the first one that decides or fails.
-/

namespace RecordQuery

open FilterNode

namespace Combinator

def connect : Combinator → List Bool → Bool
  | .and, values => values.all id
  | .or, values => values.any id
  | .nor, values => !values.any id

/-- The result of an operand that decides a join. -/
def deciding : Combinator → Bool
  | .and => false
  | .or => true
  | .nor => true

end Combinator

namespace Outcome

theorem all_singleton (test : Unit → Outcome) : Outcome.all [test] = test () := by
  rw [Outcome.all]
  rcases test () with failure | _ | _ <;> rfl

theorem all_append (reached : List Bool) (others : List (Unit → Outcome)) :
    Outcome.all (reached.map (fun value _ => .ok value) ++ others) =
      if reached.contains false then .ok false else Outcome.all others := by
  induction reached with
  | nil => simp
  | cons value rest inductionHypothesis =>
      cases value with
      | false => simp [Outcome.all]
      | true => simpa [Outcome.all] using inductionHypothesis

theorem any_append (reached : List Bool) (others : List (Unit → Outcome)) :
    Outcome.any (reached.map (fun value _ => .ok value) ++ others) =
      if reached.contains true then .ok true else Outcome.any others := by
  induction reached with
  | nil => simp
  | cons value rest inductionHypothesis =>
      cases value with
      | true => simp [Outcome.any]
      | false => simpa [Outcome.any] using inductionHypothesis

end Outcome

namespace Matching

theorem combine_append (combinator : Combinator) (reached : List Bool)
    (others : List (Unit → Outcome)) :
    combine combinator (reached.map (fun value _ => .ok value) ++ others) =
      if reached.contains combinator.deciding then .ok (combinator == .or)
      else combine combinator others := by
  cases combinator with
  | and => exact Outcome.all_append reached others
  | or => exact Outcome.any_append reached others
  | nor =>
      rw [combine, Outcome.any_append, combine, apply_ite Outcome.negate]
      rfl

theorem connect_eq (combinator : Combinator) (reached : List Bool) :
    combinator.connect reached =
      if reached.contains combinator.deciding then combinator == .or else combinator != .or := by
  have listed : reached.all id = !reached.contains false ∧
      reached.any id = reached.contains true := by
    induction reached with
    | nil => exact ⟨rfl, rfl⟩
    | cons value rest inductionHypothesis =>
        cases value with
        | false => simpa using inductionHypothesis.2
        | true => simpa using inductionHypothesis.1
  cases combinator with
  | and =>
      rw [Combinator.connect, listed.1, Combinator.deciding]
      cases reached.contains false <;> rfl
  | or =>
      rw [Combinator.connect, listed.2, Combinator.deciding]
      cases reached.contains true <;> rfl
  | nor =>
      rw [Combinator.connect, listed.2, Combinator.deciding]
      cases reached.contains true <;> rfl

/-- The results that are reached decide: all of them are there, or one of them ends the tests. -/
theorem combine_reached (combinator : Combinator) (reached : List Bool)
    (unreached : List (Unit → Outcome)) (decided : unreached = [] ∨ combinator.deciding ∈ reached) :
    combine combinator (reached.map (fun value _ => .ok value) ++ unreached) =
      .ok (combinator.connect reached) := by
  rw [combine_append, connect_eq]
  split
  · rfl
  · rename_i undecided
    obtain rfl := decided.resolve_right fun member =>
      undecided (List.contains_iff_mem.mpr member)
    cases combinator <;> rfl

/-- A failure that is reached before any result that decides is the failure of the whole. -/
theorem combine_failure (combinator : Combinator) (reached : List Bool) (failure : Failure)
    (unreached : List (Unit → Outcome)) (undecided : combinator.deciding ∉ reached) :
    combine combinator
        (reached.map (fun value _ => .ok value) ++ (fun _ => .error failure) :: unreached) =
      .error failure := by
  rw [combine_append, if_neg fun found => undecided (List.contains_iff_mem.mp found)]
  cases combinator <;> rfl

theorem itemTests_eq_map (items : List Value) : itemTests items = items.map holds := by
  induction items with
  | nil => rfl
  | cons item rest inductionHypothesis => simp [itemTests, inductionHypothesis]

/-- A combinator over conditions is its connective over their results. -/
theorem step_combined (combinator : Combinator) (items : List Value) (test : Test) (mode : Mode)
    (entry : Reached) :
    step (.text combinator.key) (.list items) test (memberTests? (.list items)) mode entry =
      combine combinator (runs (items.map holds) mode entry) := by
  have operator : isOperatorText combinator.key = true := by cases combinator <;> rfl
  have operation : Operation.ofKey? combinator.key = some (.combined combinator) := by
    cases combinator <;> rfl
  simp only [step, presence?, Value.entries?, entryTest, operator, if_true, operation,
    Operation.apply, operands, memberTests?, itemTests_eq_map, Option.elim_some]

/-- A combinator over filters is its connective over their results. -/
theorem satisfies_combined (combinator : Combinator) (filters : List Entries) (record : Value) :
    satisfies (.mapping [(.text combinator.key, .list (filters.map .mapping))]) record =
      combine combinator (filters.map fun filter _ => satisfies (.mapping filter) record) := by
  simp only [satisfies, prepare, prepareEntries, Combinator.ofValue?_key, Option.isSome_some,
    prepareValue, if_true, prepareItems_eq_map, holds, stepTests, runs, List.map_cons, List.map_nil,
    Outcome.all_singleton, step_combined, List.map_map]
  rfl

/-- A matcher can be made for a combinator over filters exactly if one can be made for each. -/
theorem areFolded_combined (combinator : Combinator) (filters : List Entries) :
    areFolded [(.text combinator.key, .list (filters.map .mapping))] = filters.all areFolded := by
  rw [areFolded, areFolded, Combinator.ofValue?_key, Option.isSome_some, isFolded,
    operandsFolded_eq_all, List.all_map, Bool.and_true]
  rfl

end Matching

/-- One item of a list is replaced by another one that has the same results. -/
theorem forall₂_replace {α β : Type} {first second : α → β → Prop} {before after : List α}
    {item : α} {results : List β} (all : List.Forall₂ first (before ++ item :: after) results)
    (kept : ∀ item result, first item result → second item result) (other : α)
    (replaced : ∀ result, first item result → second other result) :
    List.Forall₂ second (before ++ other :: after) results := by
  induction before generalizing results with
  | nil =>
      cases all with
      | cons head tail => exact .cons (replaced _ head) (tail.imp kept)
  | cons next rest inductionHypothesis =>
      cases all with
      | cons head tail => exact .cons (kept _ _ head) (inductionHypothesis tail)

namespace QueryStore

inductive Describes (store : QueryStore) : Operand → Entries → Prop where
  | query {mark : Mark} : mark < store.next → Describes store (.query mark) (store.ownFilter mark)
  | snapshot {options : Value} {snapshot : Snapshot} :
      Snapshot.parse options = .ok snapshot →
      Describes store (.snapshot snapshot) snapshot.filter
  | mapping {entries : Entries} {snapshot : Snapshot} :
      Snapshot.parse (.mapping entries) = .ok snapshot →
      Describes store (.value (.mapping entries)) snapshot.filter

theorem toValue_ofEntries {options : Value} {snapshot : Snapshot}
    (read : Snapshot.parse options = .ok snapshot) :
    (FilterNode.filter none (Slots.ofEntries snapshot.filter)).toValue =
      .mapping snapshot.filter := by
  obtain ⟨_, read⟩ := Snapshot.parse_eq_ok read
  rw [toValue]
  exact congrArg Value.mapping (Slots.toEntries_ofEntries (Snapshot.text_keys read))

theorem Describes.operandFilter {store : QueryStore} {operand : Operand} {filter : Entries}
    (described : store.Describes operand filter) :
    ∃ node, store.operandFilter operand = .ok node ∧ node.toValue = .mapping filter := by
  cases described with
  | query _ => exact ⟨_, rfl, by rw [toValue_unmarked]; rfl⟩
  | snapshot read => exact ⟨_, rfl, toValue_ofEntries read⟩
  | @mapping entries snapshot read =>
      refine ⟨_, ?_, toValue_ofEntries read⟩
      rw [Snapshot.parse] at read
      rw [QueryStore.operandFilter, read]
      rfl

theorem operandFilters_of_describes {store : QueryStore} {operands : List Operand}
    {filters : List Entries} (described : List.Forall₂ store.Describes operands filters) :
    ∃ nodes, store.operandFilters operands = .ok nodes ∧
      nodes.map toValue = filters.map .mapping := by
  induction described with
  | nil => exact ⟨[], rfl, rfl⟩
  | cons head _ inductionHypothesis =>
      obtain ⟨node, copied, value⟩ := head.operandFilter
      obtain ⟨nodes, others, values⟩ := inductionHypothesis
      refine ⟨node :: nodes, ?_, by rw [List.map_cons, value, values, List.map_cons]⟩
      rw [operandFilters, copied, others]
      rfl

theorem Tracked.ownFilter_join {store : QueryStore} (tracked : store.Tracked) {mark : Mark}
    (live : mark < store.next) (combinator : Combinator) {nodes : List FilterNode}
    {filters : List Entries} (values : nodes.map toValue = filters.map .mapping) :
    (store.join mark combinator nodes).ownFilter mark =
      [(.text combinator.key, .list ((store.ownFilter mark :: filters).map .mapping))] := by
  rw [ownFilter, QueryStore.join, tracked.ownSlots_update live, Slots.join, Slots.toEntries]
  simp only [slotsToEntries, slotToEntry, nodesToValues, nodesToValues_eq_map, values, toValue]
  rfl

theorem Describes.create {store : QueryStore} (tracked : store.Tracked) {operand : Operand}
    {filter : Entries} (described : store.Describes operand filter) (snapshot : Snapshot) :
    (store.create snapshot).1.Describes operand filter := by
  cases described with
  | @query mark live =>
      have same : (store.create snapshot).1.ownFilter mark = store.ownFilter mark := by
        rw [ownFilter, ownFilter, (tracked.unchanged_create live snapshot).slots]
      rw [← same]
      exact .query (Nat.lt_succ_of_lt live)
  | snapshot read => exact .snapshot read
  | mapping read => exact .mapping read

theorem Tracked.target_create {store : QueryStore} (tracked : store.Tracked) {mark : Mark}
    (live : mark < store.next) (combinator : Combinator) (snapshot : Snapshot) :
    (store.create snapshot).1.target combinator mark = store.target combinator mark := by
  have owners {mark : Mark} (live : mark < store.next) :=
    (tracked.unchanged_create live snapshot).owners
  cases combinator with
  | and => rfl
  | or => exact rootOf_congr (owners live)
  | nor =>
      refine tracked.induct (motive := fun mark =>
        (store.create snapshot).1.target .nor mark = store.target .nor mark)
        ?_ ?_ live
      · intro mark live root
        simp only [target, owners live, root, norTargetFrom]
      · intro mark live owner ownerLive scope above
        simp only [target, owners live, owners ownerLive, scope, norTargetFrom,
          (tracked.unchanged_create ownerLive snapshot).slots] at above ⊢
        rw [above]

theorem Tracked.ownFilter_create {store : QueryStore} (tracked : store.Tracked) {options : Value}
    {snapshot : Snapshot} (read : Snapshot.parse options = .ok snapshot) :
    (store.create snapshot).1.ownFilter store.next = snapshot.filter := by
  obtain ⟨_, read⟩ := Snapshot.parse_eq_ok read
  rw [ownFilter, tracked.ownSlots_create]
  exact Slots.toEntries_ofEntries (Snapshot.text_keys read)

end QueryStore

namespace Session

theorem ownFilter_after_join {session : Session} (tracked : session.queries.Tracked) {mark : Mark}
    (live : mark < session.queries.next) (combinator : Combinator) {operands : List Operand}
    {filters : List Entries}
    (described : List.Forall₂ session.queries.Describes operands filters)
    (nonempty : operands ≠ []) :
    ((Call.join mark combinator operands).after session).queries.ownFilter
        (session.queries.target combinator mark) =
      [(.text combinator.key, .list ((session.queries.ownFilter
        (session.queries.target combinator mark) :: filters).map .mapping))] := by
  obtain ⟨nodes, copied, values⟩ := QueryStore.operandFilters_of_describes described
  have joined : ((Call.join mark combinator operands).after session).queries =
      session.queries.join (session.queries.target combinator mark) combinator nodes := by
    rw [Call.after, Session.join, perform_joinWith, copied]
    · exact queries_recordJoin _ _ _ _
    · exact nonempty
  rw [joined, tracked.ownFilter_join (tracked.target_lt combinator live) combinator values]

/-- A new query beside the others does not change what a join gives. -/
theorem ownFilter_after_create_and_join {session : Session} (tracked : session.queries.Tracked)
    {mark : Mark} (live : mark < session.queries.next) (combinator : Combinator)
    {options : Value} {snapshot : Snapshot} (read : Snapshot.parse options = .ok snapshot)
    {operands : List Operand} {filters : List Entries}
    (described : List.Forall₂ (session.queries.create snapshot).1.Describes operands filters)
    (nonempty : operands ≠ []) :
    ((Call.join mark combinator operands).after
        ((Call.create (.value options)).after session)).queries.ownFilter
        (session.queries.target combinator mark) =
      [(.text combinator.key, .list ((session.queries.ownFilter
        (session.queries.target combinator mark) :: filters).map .mapping))] := by
  have made : ((Call.create (.value options)).after session).queries =
      (session.queries.create snapshot).1 := by
    rw [Call.after, perform_create, Options.resolve, read]
    rfl
  have sameTarget := tracked.target_create live combinator snapshot
  have sameFilter : (session.queries.create snapshot).1.ownFilter
      (session.queries.target combinator mark) =
        session.queries.ownFilter (session.queries.target combinator mark) := by
    rw [QueryStore.ownFilter, QueryStore.ownFilter,
      (tracked.unchanged_create (tracked.target_lt combinator live) snapshot).slots]
  have trackedAfter := tracked.create snapshot
  have liveAfter : mark < (session.queries.create snapshot).1.next := Nat.lt_succ_of_lt live
  rw [← made] at described sameTarget sameFilter trackedAfter liveAfter
  have joined := ownFilter_after_join trackedAfter liveAfter combinator described nonempty
  rwa [sameTarget, sameFilter] at joined

def onlyOnes : Session :=
  (Call.create (.value (.mapping
    [(.text "filter", .mapping [(.text "a", .int 1)])]))).after (Session.start "")

/-- Options whose filter cannot be tested. -/
def untestable : Entries :=
  [(.text "filter", .mapping [(.text "b", .mapping [(.text "$unknown", .int 1)])])]

end Session

end RecordQuery
