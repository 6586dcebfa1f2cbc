import RecordQuery.Proofs.Store.Embedded

/-!
# Scopes stay embedded and calls are local

The node of a scope stands inside the node of each of its owners, as an operand and only once,
however often the owners were joined later. An operation on a field and a join rewrite the contents
of one node: what stands around it stays, and so do the contents of all nodes that do not enclose
it. Queries with another root do not notice. The nodes of the scopes are the only parts that can be
reached in two ways, from the scope and from its owners: the values of conditions are contents.
-/

namespace RecordQuery

open FilterNode

theorem Layer.find?_congr {layer : Layer} {other : Mark} {node changed : FilterNode}
    (outside : layer.mark? ≠ some other) (same : changed.find? other = node.find? other) :
    (layer.fill changed).find? other = (layer.fill node).find? other := by
  simp [Layer.fill, Layer.slots, FilterNode.find?, outside, List.findSome?_cons, findInSlot?, same]

/-- What is found at a mark that does not enclose a node depends only on what is found inside. -/
theorem Surroundings.find?_congr {layers : Surroundings} {other : Mark} {node changed : FilterNode}
    (outside : other ∉ layers.enclosing) (same : changed.find? other = node.find? other) :
    (layers.fill changed).find? other = (layers.fill node).find? other := by
  induction layers with
  | nil => exact same
  | cons layer rest inductionHypothesis =>
      rw [enclosing_cons, List.mem_append, not_or, Option.mem_toList] at outside
      exact layer.find?_congr outside.2 (inductionHypothesis outside.1)

theorem Surroundings.exists_split_of_mem {layers : Surroundings} {owner : Mark}
    (encloses : owner ∈ layers.enclosing) : ∃ (outer : Surroundings) (layer : Layer)
      (inner : Surroundings), layers = outer ++ layer :: inner ∧ layer.mark? = some owner := by
  simp only [enclosing, List.mem_reverse, List.mem_filterMap] at encloses
  obtain ⟨layer, member, own⟩ := encloses
  obtain ⟨outer, inner, rfl⟩ := List.append_of_mem member
  exact ⟨outer, layer, inner, rfl, own⟩

namespace QueryStore

variable {store later : QueryStore}

/-- The node of a scope is an operand inside the node of an owner, and it is there once. -/
def StandsInside (store : QueryStore) (scope owner : Mark) : Prop :=
  ∃ layers : Surroundings, layers ≠ [] ∧
    FilterNode.filter (some owner) (store.ownSlots owner) =
      layers.fill (.filter (some scope) (store.ownSlots scope)) ∧
    (FilterNode.filter (some owner) (store.ownSlots owner)).marks.count scope = 1

/-- The contents of one node are rewritten: what stands around the node in the filter of its query
stays, and so do the contents of all nodes that do not enclose it. -/
def RewritesOnly (store later : QueryStore) (node : Mark) : Prop :=
  (∃ layers : Surroundings, layers.enclosing = store.ownersOf node ∧
    .mapping (store.snapshot node).filter =
      (layers.fill (.filter (some node) (store.ownSlots node))).toValue ∧
    .mapping (later.snapshot node).filter =
      (layers.fill (.filter (some node) (later.ownSlots node))).toValue) ∧
  ∀ other < store.next, other ≠ node → other ∉ store.ownersOf node →
    later.ownSlots other = store.ownSlots other

/-- A query keeps its place, the contents of its node and its canonical state. -/
structure Unchanged (store later : QueryStore) (mark : Mark) : Prop where
  owners : later.ownersOf mark = store.ownersOf mark
  slots : later.ownSlots mark = store.ownSlots mark
  snapshot : later.snapshot mark = store.snapshot mark

theorem Unchanged.of_query? {mark : Mark}
    (owners : later.ownersOf mark = store.ownersOf mark)
    (query : later.query? (store.rootOf mark) = store.query? (store.rootOf mark)) :
    Unchanged store later mark := by
  have root : later.rootOf mark = store.rootOf mark := rootOf_congr owners
  refine ⟨owners, ?_, ?_⟩
  · rw [ownSlots, ownSlots, root, query]
  · rw [QueryStore.snapshot, QueryStore.snapshot, root, query]

theorem Tracked.unchanged_create (tracked : store.Tracked) {mark : Mark} (live : mark < store.next)
    (snapshot : Snapshot) : Unchanged store (store.create snapshot).1 mark := by
  apply Unchanged.of_query?
  · exact tracked.ownersOf_create_of_lt snapshot live
  · rw [tracked.query?_create, if_neg (Nat.ne_of_lt (tracked.rootOf_lt live))]

theorem Tracked.lt_of_owner (tracked : store.Tracked) {mark owner : Mark}
    (owns : owner ∈ store.ownersOf mark) : mark < store.next := by
  rw [ownersOf] at owns
  cases found : store.owners.find? (fun entry => entry.1 == mark) with
  | none => simp [found] at owns
  | some entry =>
      obtain rfl : entry.1 = mark := by simpa using List.find?_some found
      exact tracked.known entry (List.mem_of_find?_eq_some found)

theorem Tracked.rootOf_owner (tracked : store.Tracked) {mark : Mark} (live : mark < store.next) :
    ∀ owner ∈ store.ownersOf mark, store.rootOf owner = store.rootOf mark := by
  refine tracked.induct (motive := fun mark => ∀ owner ∈ store.ownersOf mark,
    store.rootOf owner = store.rootOf mark) ?_ ?_ live
  · intro mark _ root
    simp [root]
  · intro mark _ owner _ scope above
    rw [scope, rootOf_of_scope scope]
    simpa using above

theorem Embeds.standsInside {query : Query} {scope owner : Mark} (embeds : store.Embeds query)
    (tracked : store.Tracked) (live : scope < store.next)
    (found : store.query? (store.rootOf scope) = some query)
    (owns : owner ∈ store.ownersOf scope) : store.StandsInside scope owner := by
  obtain ⟨layers, shape, around, -⟩ := embeds.exists_fill tracked live found
  have owns' := owns
  rw [← around] at owns'
  obtain ⟨outer, layer, inner, rfl, own⟩ := Surroundings.exists_split_of_mem owns'
  have single := tracked.single _ _ found
  rw [embeds.marks_eq, shape, Surroundings.fill_append, (outer.marks_fill _).nodup_iff] at single
  have node : Surroundings.fill (layer :: inner) (.filter (some scope) (store.ownSlots scope)) =
      .filter (some owner) (store.ownSlots owner) := by
    have outside : owner ∉ outer.marks := fun beside =>
      single.disjoint beside (by simp [Layer.fill, own, FilterNode.marks])
    have read : query.find? owner = some (store.ownSlots owner) := by
      refine tracked.find?_of_query? (tracked.ownersOf_lt live owner owns) ?_
      rw [tracked.rootOf_owner live owner owns, found]
    rw [Query.find?, shape, Surroundings.fill_append, outer.find?_fill outside] at read
    have contents : layer.slots (inner.fill (.filter (some scope) (store.ownSlots scope))) =
        store.ownSlots owner := by
      simpa [Layer.fill, own, FilterNode.find?] using read
    rw [Surroundings.fill_cons, Layer.fill, own, contents]
  refine ⟨layer :: inner, by simp, node.symm, ?_⟩
  rw [node] at single
  refine List.count_eq_one_of_mem (List.Nodup.of_append_right single) ?_
  rw [← node, ((Surroundings.marks_fill _ _)).mem_iff]
  simp [FilterNode.marks]

theorem Embeds.rewritesOnly {query : Query} {node : Mark} (embeds : store.Embeds query)
    (tracked : store.Tracked) (live : node < store.next)
    (found : store.query? (store.rootOf node) = some query) {revise : Slots → Slots}
    (inside : ∀ other < store.next, findInSlots? other (revise (store.ownSlots node)) =
      findInSlots? other (store.ownSlots node))
    (queries : ∀ root, later.query? root =
      (store.change node fun query => query.update node revise).query? root)
    (owners : ∀ mark < store.next, later.ownersOf mark = store.ownersOf mark) :
    RewritesOnly store later node := by
  obtain ⟨layers, shape, around, absent⟩ := embeds.exists_fill tracked live found
  have root {mark : Mark} (markLive : mark < store.next) : later.rootOf mark = store.rootOf mark :=
    rootOf_congr (owners mark markLive)
  have after : later.query? (later.rootOf node) = some (query.update node revise) := by
    rw [root live, queries, query?_update, if_pos rfl, found]
    rfl
  have tree : (query.update node revise).tree =
      layers.fill (.filter (some node) (revise (store.ownSlots node))) := by
    simp [Query.update, shape, Surroundings.update_own revise absent]
  have own : later.ownSlots node = revise (store.ownSlots node) := by
    simp [ownSlots, after, Query.find?, tree, Surroundings.find?_own absent]
  constructor
  · refine ⟨layers, around, ?_, ?_⟩
    · rw [snapshot_filter found, shape]
    · rw [snapshot_filter after, own, tree]
  · intro other otherLive different outside
    rw [ownSlots, ownSlots, root otherLive, queries, query?_update]
    split
    · rename_i same
      rw [← same, found]
      have found' : (query.update node revise).find? other = query.find? other := by
        rw [← around] at outside
        have kept : (FilterNode.filter (some node) (revise (store.ownSlots node))).find? other =
            (FilterNode.filter (some node) (store.ownSlots node)).find? other := by
          simpa [FilterNode.find?, Ne.symm different] using inside other otherLive
        rw [Query.find?, Query.find?, tree, shape, Surroundings.find?_congr outside kept]
        simp [Query.update, embeds.whole]
      simp [found']
    · rfl

theorem RewritesOnly.of_same {query : Query} {node : Mark} (embeds : store.Embeds query)
    (tracked : store.Tracked) (live : node < store.next)
    (found : store.query? (store.rootOf node) = some query)
    (slots : ∀ other, later.ownSlots other = store.ownSlots other)
    (filter : (later.snapshot node).filter = (store.snapshot node).filter) :
    RewritesOnly store later node := by
  obtain ⟨layers, shape, around, -⟩ := embeds.exists_fill tracked live found
  have place := (snapshot_filter found).trans (by rw [shape])
  constructor
  · refine ⟨layers, around, place, ?_⟩
    rw [filter, slots, place]
  · intro other _ _ _
    exact slots other

end QueryStore

namespace Session

/-- The one node whose contents a call may rewrite: the query's own one for a call on a field, the
target of the combinator for a join. -/
def Call.rewritten? (store : QueryStore) : Call → Option Mark
  | .constrain mark _ _ => some mark
  | .order mark _ _ => some mark
  | .join mark combinator _ => some (store.target combinator mark)
  | _ => none

def Call.Concerns (store : QueryStore) (other : Mark) : Call → Prop
  | .create _ => False
  | .constrain mark _ _ => store.rootOf other = store.rootOf mark
  | .order mark _ _ => store.rootOf other = store.rootOf mark
  | .assign mark _ => store.rootOf other = store.rootOf mark
  | .join mark _ _ => store.rootOf other = store.rootOf mark

theorem Call.rewritten_lt {store : QueryStore} {call : Call} (tracked : store.Tracked)
    (proper : call.Proper store) {node : Mark} (rewritten : call.rewritten? store = some node) :
    node < store.next := by
  cases call with
  | constrain mark field operation =>
      obtain rfl := Option.some.inj rewritten
      exact proper
  | order mark field direction =>
      obtain rfl := Option.some.inj rewritten
      exact proper
  | join mark combinator operands =>
      obtain rfl := Option.some.inj rewritten
      exact tracked.target_lt combinator proper.1
  | _ => contradiction

theorem Change.rewritesOnly {store later : QueryStore} {call : Call} (tracked : store.Tracked)
    (embeds : ∀ root query, store.query? root = some query → store.Embeds query)
    (proper : call.Proper store) (fields : call.NamesFields) (change : Change store call later)
    {node : Mark} (rewritten : call.rewritten? store = some node) :
    QueryStore.RewritesOnly store later node := by
  cases change with
  | created _ => contradiction
  | assigned _ => contradiction
  | @ordered mark field direction =>
      obtain rfl : mark = node := Option.some.inj rewritten
      obtain ⟨query, found, -⟩ := tracked.held mark proper
      have sets := QueryStore.setsState_direction field direction
      exact .of_same (embeds _ _ found) tracked proper found (store.ownSlots_setState mark sets)
        (store.filter_setState mark sets mark)
  | @constrained mark field operation limit edits written =>
      obtain rfl : mark = node := Option.some.inj rewritten
      have named := Call.NamesFields.key_ne fields
      obtain ⟨query, found, -⟩ := tracked.held mark proper
      rw [store.edit_of_field mark named edits]
      refine (embeds _ _ found).rewritesOnly tracked proper found ?_ (fun _ => rfl)
        (fun _ _ => rfl)
      intro other _
      rw [Slots.applyEdits_eq_set _ _ (FieldOperation.edits_ne_nil written),
        Slots.findInSlots?_set (Slots.plainUnder_of_field named)]
  | @joined mark combinator operands filters _ copied =>
      obtain rfl := Option.some.inj rewritten
      have live := tracked.target_lt combinator proper.1
      obtain ⟨query, found, -⟩ := tracked.held _ live
      refine (embeds _ _ found).rewritesOnly tracked live found ?_ (fun _ => rfl) (fun _ _ => rfl)
      intro other _
      apply Slots.findInSlots?_join
      rw [QueryStore.marks_operandFilters copied]
      exact List.not_mem_nil
  | @opened mark combinator =>
      obtain rfl := Option.some.inj rewritten
      have live := tracked.target_lt combinator proper.1
      obtain ⟨query, found, -⟩ := tracked.held _ live
      refine (embeds _ _ found).rewritesOnly tracked live found ?_ (fun _ => rfl) ?_
      · intro other old
        apply Slots.findInSlots?_join
        simpa [FilterNode.marks] using Nat.ne_of_lt old
      · intro other old
        exact tracked.ownersOf_openScope_of_lt _ combinator old

theorem Change.unchanged {store later : QueryStore} {call : Call} (tracked : store.Tracked)
    (proper : call.Proper store) (change : Change store call later) {other : Mark}
    (live : other < store.next) (apart : ¬ call.Concerns store other) :
    QueryStore.Unchanged store later other := by
  have elsewhere {mark : Mark} (revise : Query → Query)
      (rootKept : ∀ query, (revise query).root = query.root)
      (apart : ¬ store.rootOf other = store.rootOf mark) :
      (store.change mark revise).query? (store.rootOf other) =
        store.query? (store.rootOf other) := by
    rw [QueryStore.query?_change store mark revise rootKept, if_neg (Ne.symm apart)]
  cases change with
  | @created options snapshot _ => exact tracked.unchanged_create live snapshot
  | constrained _ => exact .of_query? rfl (elsewhere _ (fun _ => rfl) apart)
  | ordered => exact .of_query? rfl (elsewhere _ (fun _ => rfl) apart)
  | assigned checked =>
      exact .of_query? rfl
        (elsewhere _ (fun query => (QueryStore.settingChange_setsState checked query).1) apart)
  | @joined mark combinator _ _ _ _ =>
      refine .of_query? rfl (elsewhere _ (fun _ => rfl) ?_)
      rwa [tracked.rootOf_target combinator proper.1]
  | @opened mark combinator =>
      refine .of_query? ?_ (elsewhere _ (fun _ => rfl) ?_)
      · exact tracked.ownersOf_openScope_of_lt _ combinator live
      · rwa [tracked.rootOf_target combinator proper.1]

/-- A query with a scope that a conjunction opened; then the query itself was joined. -/
def joinedAround : Session :=
  (Call.join 0 .or [.query 1]).after
    ((Call.join 0 .and []).after ((Call.create (.value .null)).after (Session.start "")))

end Session

end RecordQuery
