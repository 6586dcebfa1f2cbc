import RecordQuery.Proofs.Number.Largest
import RecordQuery.Proofs.Store.Embedded
import RecordQuery.Proofs.Store.Entrywise
import RecordQuery.Proofs.Tree.Normal

/-!
# Stored queries come back

The canonical state of a query is written as a mapping. A query that is made from that mapping has
the same canonical state, as long as all conditions are written with operators and no combinator is
used as the name of a field: then the filter is in normal form and the numbers are in range, in all
queries and after every change.
-/

namespace RecordQuery

open FilterNode Session RecordQuery.Action

/-- Whether a call that names its operator names one. -/
def Session.Call.UsesOperators : Call → Prop
  | .constrain _ _ operation => operation.UsesOperator
  | _ => True

theorem Argument.texts?_map (texts : List String) :
    Argument.texts? (texts.map .text) = some texts := by
  induction texts with
  | nil => rfl
  | cons text rest inductionHypothesis => simp [Argument.texts?, inductionHypothesis]

theorem Direction.ofValue?_toInt (direction : Direction) :
    Direction.ofValue? (.int direction.toInt) = some direction := by
  cases direction with
  | ascending => simp [Direction.ofValue?, Direction.toInt, Value.isNumber, Value.equal, Value.isNan]
  | descending =>
      simp [Direction.ofValue?, Direction.toInt, Value.isNumber, Value.equal, Value.same,
        Value.isNan, Value.point?]
      decide

theorem Snapshot.sortOf?_toEntries (sort : SortOrder) :
    Snapshot.sortOf? sort.toEntries = some sort := by
  induction sort with
  | nil => rfl
  | cons entry rest inductionHypothesis =>
      have tail : Snapshot.sortOf? (SortOrder.toEntries rest) = some rest := inductionHypothesis
      simp only [SortOrder.toEntries, List.map_cons, Snapshot.sortOf?, Value.text?,
        Direction.ofValue?_toInt]
      rw [← SortOrder.toEntries, tail]

namespace Snapshot

/-- A canonical state that comes back as it was written. -/
structure Canonical (snapshot : Snapshot) : Prop where
  normal : Filter.Normal snapshot.filter
  texts : ∀ entry ∈ snapshot.filter, ∃ name, entry.1 = .text name
  skip : (Binary64.ofInt? snapshot.skip).isSome = true
  limit : ∀ limit, snapshot.limit = some limit → (Binary64.ofInt? limit).isSome = true

theorem canonical_empty : empty.Canonical := by
  refine ⟨by simp [empty, Filter.Normal], by simp [empty], ?_, by simp [empty]⟩
  rfl

/-- A state that options describe is canonical. -/
theorem canonical_of_ofEntries {options : Entries} {snapshot : Snapshot}
    (read : ofEntries options = .ok snapshot) : snapshot.Canonical := by
  obtain ⟨-, filter, -, skip, limit⟩ := ofEntries_eq_ok read
  refine ⟨?_, text_keys read, ?_, ?_⟩
  · rcases checkFilter_eq_ok filter with none | ⟨value, -, normalized, -⟩
    · simp [none, Filter.Normal]
    · exact Filter.normal_of_normalize value normalized
  · unfold checkSkip at skip
    split at skip
    · rw [← Except.ok.inj skip]
      rfl
    · rw [← Except.ok.inj skip]
      rfl
    · exact Argument.isSome_ofInt?_of_whole skip
  · intro bound bounded
    unfold checkLimit at limit
    rw [bounded] at limit
    split at limit
    · simp at limit
    · simp at limit
    · rename_i value _ _
      cases read : Argument.whole value "limit" with
      | error failure => simp [read, Except.map] at limit
      | ok found =>
          rw [read] at limit
          obtain rfl := Option.some.inj (Except.ok.inj limit)
          exact Argument.isSome_ofInt?_of_whole read

theorem canonical_of_parse {value : Value} {snapshot : Snapshot}
    (read : parse value = .ok snapshot) : snapshot.Canonical := by
  obtain ⟨options, read⟩ := parse_eq_ok read
  exact canonical_of_ofEntries read

/-- The filter of a canonical state is read as it is. -/
theorem Canonical.filter_checked {snapshot : Snapshot} (canonical : snapshot.Canonical) :
    checkFilter (some (.mapping snapshot.filter)) = .ok (.ok snapshot.filter) := by
  simp only [checkFilter, canonical.normal.fixed, Except.map, checkKeys_of_texts canonical.texts]

theorem checkSort_toEntries (sort : SortOrder) :
    checkSort (some (.mapping sort.toEntries)) = .ok sort := by
  have directed : undirected? sort.toEntries = none := by
    simp [undirected?, SortOrder.toEntries, Direction.ofValue?_toInt]
  simp only [checkSort, directed, sortOf?_toEntries]

/-- A canonical state is what its parts describe. -/
theorem Canonical.ofEntries_toEntries {snapshot : Snapshot} (canonical : snapshot.Canonical) :
    ofEntries snapshot.toEntries = .ok snapshot := by
  have fields : checkFields (snapshot.toEntries.get? "fields") = .ok snapshot.fields := by
    simp [checkFields, Value.items?, Argument.texts?_map]
  have filter : checkFilter (snapshot.toEntries.get? "filter") = .ok (.ok snapshot.filter) := by
    rw [get?_filter]
    exact canonical.filter_checked
  have sort : checkSort (snapshot.toEntries.get? "sort") = .ok snapshot.sort := by
    rw [get?_sort]
    exact checkSort_toEntries snapshot.sort
  have skip : checkSkip (snapshot.toEntries.get? "skip") = .ok snapshot.skip := by
    rw [get?_skip]
    exact Argument.whole_int canonical.skip "skip"
  have limit : checkLimit (snapshot.toEntries.get? "limit") = .ok snapshot.limit := by
    rw [get?_limit]
    cases bounded : snapshot.limit with
    | none => rfl
    | some bound =>
        simp only [checkLimit, Argument.whole_int (canonical.limit bound bounded) "limit"]
        rfl
  simp only [ofEntries, fields, filter, sort, skip, limit]
  rfl

end Snapshot

/-- A query whose trees are normal and whose numbers are in range. -/
structure Query.Canonical (query : Query) : Prop where
  tree : query.tree.Normal
  detached : ∀ node ∈ query.detached, node.Normal
  skip : (Binary64.ofInt? query.skip).isSome = true
  limit : ∀ limit, query.limit = some limit → (Binary64.ofInt? limit).isSome = true

namespace Query.Canonical

variable {query : Query}

theorem toSnapshot (canonical : query.Canonical) : query.toSnapshot.Canonical := by
  refine ⟨canonical.tree, ?_, canonical.skip, canonical.limit⟩
  intro entry member
  obtain ⟨slot, -, rfl⟩ : ∃ slot ∈ query.tree.slots, slotToEntry slot = entry := by
    simpa [Query.toSnapshot, Slots.toEntries] using member
  cases slot <;> exact ⟨_, rfl⟩

theorem ofSnapshot {snapshot : Snapshot} (canonical : snapshot.Canonical) (root : Mark) :
    (Query.ofSnapshot root snapshot).Canonical :=
  ⟨.ofEntries canonical.normal canonical.texts, by simp [Query.ofSnapshot], canonical.skip,
    canonical.limit⟩

theorem each (canonical : query.Canonical) : query.Each Filter.NormalEntry :=
  ⟨canonical.tree, canonical.detached⟩

theorem update (canonical : query.Canonical) {mark : Mark} {revise : Slots → Slots}
    (preserves : ∀ slots : Slots, slots.Normal → (revise slots).Normal) :
    (query.update mark revise).Canonical := by
  obtain ⟨tree, detached⟩ := canonical.each.update Filter.entrywise_normal preserves
  exact ⟨tree, detached, canonical.skip, canonical.limit⟩

theorem assign (canonical : query.Canonical) {setting : Setting} {revise : Query → Query}
    (checked : QueryStore.settingChange setting = .ok revise) : (revise query).Canonical := by
  obtain ⟨options, snapshot, read, shape⟩ := QueryStore.settingChange_cases checked
  have described := Snapshot.canonical_of_ofEntries read
  rcases shape with rfl | rfl | rfl | rfl
  · exact { canonical with }
  · exact { canonical with }
  · exact { canonical with skip := described.skip }
  · exact { canonical with limit := described.limit }

end Query.Canonical

namespace QueryStore

theorem Tracked.snapshot_create {store : QueryStore} (tracked : store.Tracked) {snapshot : Snapshot}
    (texts : ∀ entry ∈ snapshot.filter, ∃ name, entry.1 = .text name) :
    (store.create snapshot).1.snapshot store.next = snapshot := by
  rw [QueryStore.snapshot, tracked.rootOf_create, tracked.query?_create_next]
  simp [Query.toSnapshot, Query.ofSnapshot, FilterNode.slots, Slots.toEntries_ofEntries texts]

def Canonical (store : QueryStore) : Prop := ∀ query ∈ store.queries, query.Canonical

namespace Canonical

variable {store : QueryStore}

theorem snapshot (canonical : store.Canonical) (mark : Mark) :
    (store.snapshot mark).Canonical :=
  snapshot_of_forall _ Snapshot.canonical_empty
    (fun query member => (canonical query member).toSnapshot) mark

theorem brings_of_isThere {operand : Operand} (there : IsThere store operand) :
    Session.Brings Filter.NormalEntry operand := by
  cases operand with
  | query mark => trivial
  | snapshot given =>
      obtain ⟨options, read⟩ := there
      exact (Snapshot.canonical_of_parse read).normal
  | value given => exact fun snapshot read => (Snapshot.canonical_of_parse read).normal

theorem operandFilters (canonical : store.Canonical) {operands : List Operand}
    (there : ∀ operand ∈ operands, IsThere store operand) {filters : List FilterNode}
    (copied : store.operandFilters operands = .ok filters) :
    ∀ filter ∈ filters, filter.Normal := by
  have each : store.Each Filter.NormalEntry := fun query member => (canonical query member).each
  exact each.operandFilters Filter.entrywise_normal
    (fun operand member => brings_of_isThere (there operand member)) copied

/-- Every change keeps all queries canonical if conditions are written with operators and no
combinator is used as the name of a field. -/
theorem of_change (canonical : store.Canonical) {call : Call} {later : QueryStore}
    (proper : call.Proper store) (fields : call.NamesFields) (operators : call.UsesOperators)
    (change : Change store call later) : later.Canonical := by
  cases change with
  | @created options snapshot resolved =>
      refine forall_create canonical (.ofSnapshot ?_ _)
      cases options with
      | value value => exact Snapshot.canonical_of_parse resolved
      | snapshot given =>
          obtain rfl := Except.ok.inj resolved
          obtain ⟨value, read⟩ := proper
          exact Snapshot.canonical_of_parse read
  | @constrained mark field operation limit edits written =>
      have named := Call.NamesFields.key_ne fields
      rw [store.edit_of_field mark named edits]
      exact forall_change canonical mark fun query kept => kept.update fun slots normal =>
        normal.applyEdits named written operators
  | ordered => exact forall_change canonical _ fun query kept => { kept with }
  | assigned checked => exact forall_change canonical _ fun query kept => kept.assign checked
  | @joined mark combinator operands filters _ copied =>
      have others := canonical.operandFilters proper.2 copied
      exact forall_change canonical _ fun query kept => kept.update fun slots normal =>
        normal.join combinator others
  | @opened mark combinator =>
      refine forall_change canonical _ fun query kept => kept.update ?_
      intro slots normal
      apply normal.join combinator
      intro operand member
      obtain rfl := List.mem_singleton.mp member
      simp [FilterNode.Normal, FilterNode.slots, Slots.normal_iff]

end Canonical

end QueryStore

namespace Session

theorem Reachable.canonical {session : Session}
    (reachable : Reachable (fun call => call.NamesFields ∧ call.UsesOperators) session) :
    session.queries.Canonical := by
  refine reachable.invariant QueryStore.Canonical ?_ ?_
  · simp [QueryStore.Canonical, QueryStore.empty]
  · intro store call later canonical proper allowed change
    exact canonical.of_change proper allowed.1 allowed.2 change

/-- A query that is made from the plain form of another one has the same canonical state and is not
scoped, whatever calls have led to the other one: operations with operators on fields that are no
combinators, settings, orders, and joins of all kinds. The filter is what normalizing it gives, and
the numbers are whole numbers as they are. -/
theorem plain_queries_round_trip {session : Session}
    (reachable : Reachable (fun call => call.NamesFields ∧ call.UsesOperators) session)
    (mark : Mark) :
    let stored := session.queries.snapshot mark
    (∃ later, perform (create (.value (.mapping stored.toEntries))) session =
        (.ok session.queries.next, later) ∧
      later.queries.isScoped session.queries.next = false ∧
      later.queries.snapshot session.queries.next = stored) ∧
    Filter.normalize (.mapping stored.filter) = .ok stored.filter ∧
    Argument.whole (.int stored.skip) "skip" = .ok stored.skip ∧
    ∀ limit, stored.limit = some limit → Argument.whole (.int limit) "limit" = .ok limit := by
  intro stored
  have tracked := reachable.tracked
  have canonical : stored.Canonical := reachable.canonical.snapshot mark
  refine ⟨?_, canonical.normal.fixed, Argument.whole_int canonical.skip "skip", ?_⟩
  · refine ⟨session.withQueries (session.queries.create stored).1, ?_, ?_, ?_⟩
    · have resolved : Options.resolve (.value (.mapping stored.toEntries)) = .ok stored :=
        canonical.ofEntries_toEntries
      rw [perform_create, resolved]
    · rw [queries_withQueries, QueryStore.isScoped, tracked.ownersOf_create, if_pos rfl]
      rfl
    · exact tracked.snapshot_create canonical.texts
  · intro limit bounded
    exact Argument.whole_int (canonical.limit limit bounded) "limit"

/-- A query with a scope that a joint denial opened. -/
def deniedScope : Session :=
  (Call.constrain 1 (.text "b") (.condition (.text "$gt") (.int 2))).after
    ((Call.join 0 .nor []).after
      ((Call.create (.value (.mapping [(.text "filter", .mapping [(.text "a", .int 1)])]))).after
        (Session.start "")))

theorem scope_of_denied_query_round_trips : ∃ later,
    perform (create (.value (.mapping (deniedScope.queries.snapshot 1).toEntries))) deniedScope =
      (.ok 2, later) ∧
    later.queries.isScoped 2 = false ∧
    later.queries.snapshot 2 =
      ⟨[], [(.text "$nor", .list [.mapping [(.text "a", .mapping [(.text "$eq", .int 1)])],
        .mapping [(.text "b", .mapping [(.text "$gt", .int 2)])]])], [], 0, none⟩ := by
  have reachable : Reachable (fun call => call.NamesFields ∧ call.UsesOperators) deniedScope := by
    refine .call (.call (.call (.start rfl) trivial ⟨trivial, trivial⟩) ⟨?_, by simp⟩
      ⟨trivial, trivial⟩) ?_ ⟨?_, rfl⟩
    · decide +kernel
    · change 1 < _
      decide +kernel
    · intro combinator
      cases combinator <;> simp [Combinator.key]
  have stored : deniedScope.queries.snapshot 1 =
      ⟨[], [(.text "$nor", .list [.mapping [(.text "a", .mapping [(.text "$eq", .int 1)])],
        .mapping [(.text "b", .mapping [(.text "$gt", .int 2)])]])], [], 0, none⟩ := by
    cbv
  have next : deniedScope.queries.next = 2 := by cbv
  have copied := (plain_queries_round_trip reachable 1).1
  rw [next] at copied
  obtain ⟨later, performed, root, same⟩ := copied
  exact ⟨later, performed, root, same.trans stored⟩

end Session

end RecordQuery
