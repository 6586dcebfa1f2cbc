import RecordQuery.Proofs.Store.Changes

/-!
# Embedded scopes

As long as no combinator is used as the name of a field, nothing is pushed out of a query: the tree
of a query holds all of its marks, and the marks around the node of a mark are exactly the mark's
owners. `QueryStore.Embeds` says so about one query; every change keeps it.
-/

namespace RecordQuery

open FilterNode Session

def Session.Call.NamesFields : Call → Prop
  | .constrain _ field _ => ∀ combinator : Combinator, field ≠ .text combinator.key
  | _ => True

theorem Session.Call.NamesFields.key_ne {mark : Mark} {field : String} {operation : FieldOperation}
    (fields : (Call.constrain mark (.text field) operation).NamesFields) (combinator : Combinator) :
    combinator.key ≠ field :=
  fun same => fields combinator (by rw [same])

theorem FilterNode.mark?_update (mark : Mark) (revise : Slots → Slots) (node : FilterNode) :
    (node.update mark revise).mark? = node.mark? := by
  rcases node with ⟨mark?, slots⟩
  by_cases own : mark? = some mark <;> simp [FilterNode.update, own, FilterNode.mark?]

namespace QueryStore

theorem snapshot_filter {store : QueryStore} {mark : Mark} {query : Query}
    (found : store.query? (store.rootOf mark) = some query) :
    .mapping (store.snapshot mark).filter = query.tree.toValue := by
  rw [QueryStore.snapshot, found]
  rcases shape : query.tree with ⟨mark?, slots⟩
  simp [Query.toSnapshot, shape, FilterNode.slots, Slots.toEntries, toValue]

/-- An edit where no join stands pushes nothing out. -/
theorem edit_of_plain {store : QueryStore} {mark : Mark} {field : String}
    (plain : (store.ownSlots mark).PlainUnder field) (edits : List Edit) :
    (store.edit mark field edits).1 = store.change mark fun query =>
      query.update mark fun found => (found.applyEdits field edits).1 := by
  simp [edit, Slots.displaced_eq_nil plain, Query.detach, Query.update]

theorem edit_of_field (store : QueryStore) (mark : Mark) {field : String}
    (named : ∀ combinator : Combinator, combinator.key ≠ field) (edits : List Edit) :
    (store.edit mark field edits).1 = store.change mark fun query =>
      query.update mark fun found => (found.applyEdits field edits).1 :=
  edit_of_plain (Slots.plainUnder_of_field named) edits

/-- The tree of a query holds all its marks, each of them inside the nodes of its owners. -/
structure Embeds (store : QueryStore) (query : Query) : Prop where
  whole : query.detached = []
  rooted : query.tree.mark? = some query.root
  chains : ∀ entry ∈ query.tree.chains [], store.ownersOf entry.1 = entry.2

namespace Embeds

variable {store : QueryStore} {mark : Mark} {query : Query}

theorem marks_eq (embeds : store.Embeds query) : query.marks = query.tree.marks := by
  rw [Query.marks_eq, embeds.whole, List.flatMap_nil, List.append_nil]

/-- The layers around the node of a mark are those of the mark's owners. -/
theorem of_fill (embeds : store.Embeds query) (tracked : store.Tracked)
    (found : store.query? (store.rootOf mark) = some query) {layers : Surroundings} {slots : Slots}
    (shape : query.tree = layers.fill (.filter (some mark) slots)) :
    layers.enclosing = store.ownersOf mark ∧ mark ∉ layers.marks ∧
      store.ownSlots mark = slots := by
  have single := tracked.single _ _ found
  rw [embeds.marks_eq, shape] at single
  have absent := Surroundings.not_mem_marks_of_nodup single
  obtain ⟨beside, chains⟩ := layers.chains_fill []
  have listed : (mark, layers.enclosing) ∈ query.tree.chains [] := by
    rw [shape, (chains _).mem_iff]
    simp [FilterNode.chains]
  refine ⟨(embeds.chains _ listed).symm, absent, ?_⟩
  simp [ownSlots, found, Query.find?, shape, Surroundings.find?_own absent]

theorem exists_fill (embeds : store.Embeds query) (tracked : store.Tracked)
    (live : mark < store.next) (found : store.query? (store.rootOf mark) = some query) :
    ∃ layers : Surroundings,
      query.tree = layers.fill (.filter (some mark) (store.ownSlots mark)) ∧
        layers.enclosing = store.ownersOf mark ∧ mark ∉ layers.marks := by
  have held : mark ∈ query.marks :=
    Query.find?_isSome_iff.mp (by rw [tracked.find?_of_query? live found]; rfl)
  rw [embeds.marks_eq, ← map_fst_chains []] at held
  obtain ⟨⟨other, chain⟩, member, own⟩ := List.mem_map.mp held
  obtain rfl : other = mark := own
  obtain ⟨layers, slots, shape, -⟩ := exists_fill_of_mem member
  obtain ⟨around, absent, contents⟩ := embeds.of_fill tracked found shape
  exact ⟨layers, by rw [contents, shape], around, absent⟩

/-- A change of one node leaves the chains of the tree as they are, but for what it adds there. -/
theorem chains_update (embeds : store.Embeds query) (tracked : store.Tracked)
    (live : mark < store.next) (found : store.query? (store.rootOf mark) = some query)
    {revise : Slots → Slots} {added : List Mark → List (Mark × List Mark)}
    (contents : ∀ above, (chainsOfSlots above (revise (store.ownSlots mark))).Perm
      (chainsOfSlots above (store.ownSlots mark) ++ added above)) :
    ((query.tree.update mark revise).chains []).Perm
      (query.tree.chains [] ++ added (mark :: store.ownersOf mark)) := by
  obtain ⟨layers, shape, around, absent⟩ := embeds.exists_fill tracked live found
  obtain ⟨beside, chains⟩ := layers.chains_fill []
  have after := chains (.filter (some mark) (revise (store.ownSlots mark)))
  have before := chains (.filter (some mark) (store.ownSlots mark))
  rw [← shape] at before
  rw [shape, Surroundings.update_own revise absent, ← shape]
  refine after.trans (.trans ?_ (before.symm.append_right _))
  simp only [FilterNode.chains, Option.toList_some, List.map_cons, List.map_nil, List.append_nil,
    List.append_assoc, around, List.singleton_append]
  exact ((contents _).cons _).append_left beside

theorem of_owners (embeds : store.Embeds query) (tracked : store.Tracked) {root : Mark}
    (found : store.query? root = some query) {later : QueryStore}
    (owners : ∀ mark < store.next, later.ownersOf mark = store.ownersOf mark) :
    later.Embeds query := by
  refine ⟨embeds.whole, embeds.rooted, ?_⟩
  intro entry member
  have held : entry.1 ∈ query.marks := by
    rw [embeds.marks_eq, ← map_fst_chains []]
    exact List.mem_map_of_mem member
  rw [owners _ (tracked.given root query found _ held), embeds.chains entry member]

/-- A change of one node keeps the query embedded if what it adds there has the right owners. -/
theorem of_update (embeds : store.Embeds query) (tracked : store.Tracked)
    (live : mark < store.next) (found : store.query? (store.rootOf mark) = some query)
    {revise : Slots → Slots} {added : List Mark → List (Mark × List Mark)}
    (contents : ∀ above, (chainsOfSlots above (revise (store.ownSlots mark))).Perm
      (chainsOfSlots above (store.ownSlots mark) ++ added above))
    {later : QueryStore} (owners : ∀ mark < store.next, later.ownersOf mark = store.ownersOf mark)
    (new : ∀ entry ∈ added (mark :: store.ownersOf mark), later.ownersOf entry.1 = entry.2) :
    later.Embeds (query.update mark revise) := by
  refine ⟨?_, ?_, ?_⟩
  · simp [Query.update, embeds.whole]
  · rw [Query.update, mark?_update, embeds.rooted]
  · intro entry member
    have chains := embeds.chains_update tracked live found contents
    rcases List.mem_append.mp (chains.mem_iff.mp member) with old | member
    · exact (embeds.of_owners tracked found owners).chains entry old
    · exact new entry member

theorem of_state (embeds : store.Embeds query) (tracked : store.Tracked) {root : Mark}
    (found : store.query? root = some query) {revise : Query → Query} (sets : SetsState revise) :
    ∃ after, (store.change mark revise).query? root = some after ∧
      (store.change mark revise).Embeds after := by
  rw [query?_change store mark revise fun query => (sets query).1]
  split
  · refine ⟨revise query, by rw [found]; rfl, ?_, ?_, ?_⟩
    · rw [(sets query).2.2, embeds.whole]
    · rw [(sets query).2.1, (sets query).1, embeds.rooted]
    · rw [(sets query).2.1]
      exact embeds.chains
  · exact ⟨query, found, embeds.of_owners tracked found fun _ _ => rfl⟩

theorem of_node_change (embeds : store.Embeds query) (tracked : store.Tracked) {root : Mark}
    (found : store.query? root = some query) (live : mark < store.next) (revise : Slots → Slots)
    (added : List Mark → List (Mark × List Mark))
    (contents : ∀ above, (chainsOfSlots above (revise (store.ownSlots mark))).Perm
      (chainsOfSlots above (store.ownSlots mark) ++ added above))
    {later : QueryStore}
    (queries : later.query? root = (store.change mark fun query =>
      query.update mark revise).query? root)
    (owners : ∀ mark < store.next, later.ownersOf mark = store.ownersOf mark)
    (new : ∀ entry ∈ added (mark :: store.ownersOf mark), later.ownersOf entry.1 = entry.2) :
    ∃ after, later.query? root = some after ∧ later.Embeds after := by
  rw [query?_update, found] at queries
  by_cases own : store.rootOf mark = root
  · rw [if_pos own] at queries
    subst own
    exact ⟨_, queries, embeds.of_update tracked live found contents owners new⟩
  · rw [if_neg own] at queries
    exact ⟨query, queries, embeds.of_owners tracked found owners⟩

theorem of_change (embeds : store.Embeds query) (tracked : store.Tracked) {root : Mark}
    (found : store.query? root = some query) {call : Call} {later : QueryStore}
    (proper : call.Proper store) (fields : call.NamesFields) (change : Change store call later) :
    ∃ after, later.query? root = some after ∧ later.Embeds after := by
  cases change with
  | @created options snapshot _ =>
      have old : root ≠ store.next := Nat.ne_of_lt (tracked.rooted root query found)
      refine ⟨query, by rw [tracked.query?_create, if_neg old, found], ?_⟩
      apply embeds.of_owners tracked found
      intro mark live
      exact tracked.ownersOf_create_of_lt snapshot live
  | @constrained mark field operation limit edits written =>
      have named := Call.NamesFields.key_ne fields
      rw [store.edit_of_field mark named edits]
      refine embeds.of_node_change tracked found proper _ (fun _ => []) ?_ rfl (fun _ _ => rfl)
        (by simp)
      intro above
      rw [Slots.applyEdits_eq_set _ _ (FieldOperation.edits_ne_nil written),
        Slots.chainsOfSlots_set (Slots.plainUnder_of_field named), List.append_nil]
  | ordered => exact embeds.of_state tracked found (setsState_direction _ _)
  | assigned checked => exact embeds.of_state tracked found (settingChange_setsState checked)
  | @joined mark combinator operands filters _ copied =>
      refine embeds.of_node_change tracked found (tracked.target_lt combinator proper.1)
        (Slots.join combinator filters) (fun _ => []) ?_ rfl (fun _ _ => rfl) (by simp)
      intro above
      rw [Slots.chainsOfSlots_join, chainsOfNodes_eq_nil (marks_operandFilters copied)]
  | @opened mark combinator =>
      refine embeds.of_node_change tracked found (tracked.target_lt combinator proper.1)
        (Slots.join combinator [.filter (some store.next) []]) (fun above => [(store.next, above)])
        ?_ rfl ?_ ?_
      · intro above
        rw [Slots.chainsOfSlots_join]
        simp [FilterNode.chains]
      · intro other live
        exact tracked.ownersOf_openScope_of_lt _ combinator live
      · simp [tracked.ownersOf_openScope]

theorem after_change (embeds : store.Embeds query) (tracked : store.Tracked) {root : Mark}
    (found : store.query? root = some query) {call : Call} {later : QueryStore}
    (proper : call.Proper store) (fields : call.NamesFields) (change : Change store call later)
    {after : Query} (foundAfter : later.query? root = some after) : later.Embeds after := by
  obtain ⟨other, same, kept⟩ := embeds.of_change tracked found proper fields change
  rwa [Option.some.inj (foundAfter.symm.trans same)]

theorem ofSnapshot (tracked : store.Tracked) (snapshot : Snapshot) :
    (store.create snapshot).1.Embeds (Query.ofSnapshot store.next snapshot) := by
  refine ⟨rfl, rfl, ?_⟩
  intro entry member
  have only : entry = (store.next, []) := by
    simpa [Query.ofSnapshot, FilterNode.chains, ← chainsOfSlots_eq_flatMap,
      chainsOfSlots_eq_nil (marksOfSlots_ofEntries _)] using member
  rw [only, tracked.ownersOf_create, if_pos rfl]

end Embeds

/-- A query after a change was there before, unless it is new. -/
theorem query?_of_change {store later : QueryStore} (tracked : store.Tracked) {call : Call}
    (change : Change store call later) {root : Mark} {after : Query}
    (found : later.query? root = some after) :
    (∃ query, store.query? root = some query) ∨
      root = store.next ∧ ∃ snapshot, later = (store.create snapshot).1 := by
  have changed {mark : Mark} {revise : Query → Query}
      (rootKept : ∀ query, (revise query).root = query.root)
      (found : (store.change mark revise).query? root = some after) :
      ∃ query, store.query? root = some query := by
    rw [query?_change store mark revise rootKept] at found
    split at found
    · obtain ⟨query, before, -⟩ := Option.map_eq_some_iff.mp found
      exact ⟨query, before⟩
    · exact ⟨after, found⟩
  cases change with
  | @created _ snapshot _ =>
      rw [tracked.query?_create] at found
      split at found
      · exact .inr ⟨‹_›, snapshot, rfl⟩
      · exact .inl ⟨after, found⟩
  | constrained _ => exact .inl (changed (fun _ => by rfl) found)
  | ordered => exact .inl (changed (fun _ => by rfl) found)
  | assigned checked =>
      exact .inl (changed (fun query => (settingChange_setsState checked query).1) found)
  | joined _ _ => exact .inl (changed (fun _ => by rfl) found)
  | opened => exact .inl (changed (fun _ => by rfl) found)

end QueryStore

/-- In a reachable session every query embeds its scopes if no combinator was used as the name of a
field. -/
theorem Session.Reachable.embeds {allowed : Call → Prop}
    (fields : ∀ call, allowed call → call.NamesFields) {session : Session}
    (reachable : Reachable allowed session) : ∀ root query,
      session.queries.query? root = some query → session.queries.Embeds query := by
  refine (reachable.invariant (fun store => store.Tracked ∧
    ∀ root query, store.query? root = some query → store.Embeds query) ⟨.empty, ?_⟩ ?_).2
  · simp [QueryStore.empty, QueryStore.query?]
  · intro store call later before proper permitted change
    obtain ⟨tracked, embeds⟩ := before
    refine ⟨tracked.of_change proper change, ?_⟩
    intro root after found
    rcases QueryStore.query?_of_change tracked change found with ⟨query, old⟩ | ⟨rfl, snapshot, rfl⟩
    · exact (embeds root query old).after_change tracked old proper (fields call permitted) change
        found
    · rw [tracked.query?_create_next] at found
      obtain rfl := Option.some.inj found
      exact .ofSnapshot tracked snapshot

end RecordQuery
