import RecordQuery.Proofs.Query.Connectives
import RecordQuery.Proofs.Query.Support
import RecordQuery.Proofs.Tree.Normal

/-!
# Reports on whole queries

The operators that are reported for a query are those in use in its whole filter, and if there are
any, an evaluation stops before it looks at the records. A join adds what is in use in its operands
and hides nothing, as long as the node that it changes stands in the filter of the query.
-/

namespace RecordQuery

open FilterNode RecordQuery.Action RecordQuery.Filter

namespace FilterNode

/-- Whether an operator occurs in a node's plain filter or below it. -/
def occurs (operator : Value) (node : FilterNode) : Bool :=
  occursIn true operator node.slots.toEntries

theorem occursIn_toEntries (operator : Value) (slots : Slots) :
    occursIn true operator slots.toEntries = slots.any fun slot => occursUnder true operator
      (Combinator.ofValue? (slotToEntry slot).1).isSome (slotToEntry slot).2 := by
  rw [Slots.toEntries, slotsToEntries_eq_map, occursIn_eq_any, List.any_map]
  rfl

theorem occursIn_append (operator : Value) (before after : Slots) :
    occursIn true operator (Slots.toEntries (before ++ after)) =
      (occursIn true operator before.toEntries || occursIn true operator after.toEntries) := by
  rw [occursIn_toEntries, List.any_append, ← occursIn_toEntries, ← occursIn_toEntries]

theorem occursIn_joined (operator : Value) (combinator : Combinator) (operands : List FilterNode) :
    occursIn true operator (Slots.toEntries [.joined combinator operands]) =
      operands.any (occurs operator) := by
  have value : occursInOperand true operator ∘ toValue = occurs operator := by
    funext node
    rw [Function.comp, toValue_eq]
    rfl
  rw [occursIn_toEntries, List.any_cons, List.any_nil, Bool.or_false, slotToEntry,
    Combinator.ofValue?_key, Option.isSome_some, occursUnder, occursInItems_eq_any,
    nodesToValues_eq_map, List.any_map, value]
  rfl

theorem occursIn_join (operator : Value) (combinator : Combinator) (operands : List FilterNode)
    (slots : Slots) :
    occursIn true operator (slots.join combinator operands).toEntries =
      (occursIn true operator slots.toEntries || operands.any (occurs operator)) := by
  rw [Slots.join, occursIn_joined, List.any_cons]
  rfl

end FilterNode

theorem Layer.exists_occurs_fill (layer : Layer) (operator : Value) :
    ∃ beside : Bool, ∀ node, occurs operator (layer.fill node) =
      (beside || occurs operator node) := by
  refine ⟨occursIn true operator (Slots.toEntries layer.before) ||
    layer.left.any (occurs operator) || layer.right.any (occurs operator) ||
    occursIn true operator (Slots.toEntries layer.after), fun node => ?_⟩
  have around := List.append_cons layer.before
    (.joined layer.combinator (layer.left ++ node :: layer.right)) layer.after
  rw [occurs, Layer.fill, FilterNode.slots, Layer.slots, around, occursIn_append, occursIn_append,
    occursIn_joined, List.any_append, List.any_cons]
  ac_rfl

theorem Surroundings.exists_occurs_fill (layers : Surroundings) (operator : Value) :
    ∃ beside : Bool, ∀ node, occurs operator (layers.fill node) =
      (beside || occurs operator node) := by
  induction layers with
  | nil => exact ⟨false, fun node => rfl⟩
  | cons layer rest inductionHypothesis =>
      obtain ⟨outer, around⟩ := layer.exists_occurs_fill operator
      obtain ⟨inner, inside⟩ := inductionHypothesis
      refine ⟨outer || inner, fun node => ?_⟩
      rw [Surroundings.fill_cons, around, inside, Bool.or_assoc]

theorem FilterNode.occurs_update {node : FilterNode} {mark : Mark} (single : node.marks.Nodup)
    (stands : mark ∈ node.marks) {revise : Slots → Slots} {operator : Value} {added : Bool}
    (adds : ∀ slots : Slots, occursIn true operator (revise slots).toEntries =
      (occursIn true operator slots.toEntries || added)) :
    occurs operator (node.update mark revise) = (occurs operator node || added) := by
  rw [← map_fst_chains []] at stands
  obtain ⟨⟨other, chain⟩, member, own⟩ := List.mem_map.mp stands
  obtain rfl : other = mark := own
  obtain ⟨layers, slots, shape, -⟩ := exists_fill_of_mem member
  rw [shape] at single
  obtain ⟨beside, occurs⟩ := layers.exists_occurs_fill operator
  have absent := Surroundings.not_mem_marks_of_nodup single
  rw [shape, Surroundings.update_own revise absent, occurs, occurs, Bool.or_assoc]
  exact congrArg _ (adds slots)

namespace QueryStore

variable {store : QueryStore} {mark target : Mark}

def Stands (store : QueryStore) (mark : Mark) : Prop :=
  ∃ query, store.query? (store.rootOf mark) = some query ∧ mark ∈ query.tree.marks

theorem snapshot_filter_eq {query : Query}
    (found : store.query? (store.rootOf mark) = some query) :
    (store.snapshot mark).filter = query.tree.slots.toEntries := by
  rw [QueryStore.snapshot, found]
  rfl

theorem Tracked.occursIn_join (tracked : store.Tracked) (stands : store.Stands target)
    {later : QueryStore} {combinator : Combinator} {nodes : List FilterNode}
    (joined : ∀ query, store.query? (store.rootOf target) = some query →
      later.query? (later.rootOf mark) = some (query.update target (Slots.join combinator nodes)))
    (same : store.rootOf target = store.rootOf mark) (operator : Value) :
    occursIn true operator (later.snapshot mark).filter =
      (occursIn true operator (store.snapshot mark).filter || nodes.any (occurs operator)) := by
  obtain ⟨query, found, member⟩ := stands
  have single := tracked.single _ _ found
  rw [Query.marks_eq] at single
  rw [snapshot_filter_eq (joined query found), snapshot_filter_eq (same ▸ found)]
  exact FilterNode.occurs_update (List.Nodup.of_append_left single) member
    fun slots => FilterNode.occursIn_join operator combinator nodes slots

/-- A join of a node that was pushed out of the tree leaves the whole filter as it is. -/
theorem filter_join_of_not_stands (apart : ¬ store.Stands target) {query : Query}
    (found : store.query? (store.rootOf target) = some query) {later : QueryStore}
    {combinator : Combinator} {nodes : List FilterNode}
    (joined : later.query? (later.rootOf mark) =
      some (query.update target (Slots.join combinator nodes)))
    (same : store.rootOf target = store.rootOf mark) :
    (later.snapshot mark).filter = (store.snapshot mark).filter := by
  have absent : target ∉ query.tree.marks := fun member => apart ⟨query, found, member⟩
  rw [snapshot_filter_eq joined, snapshot_filter_eq (same ▸ found), Query.update,
    update_of_not_mem _ absent]

/-- The node of every root is the tree of its query. -/
def Anchored (store : QueryStore) : Prop :=
  ∀ root query, store.query? root = some query → query.tree.mark? = some root

theorem Anchored.of_change {later : QueryStore} (anchored : store.Anchored)
    (tracked : store.Tracked) {call : Session.Call} (change : Session.Change store call later) :
    later.Anchored := by
  have revised (mark : Mark) (revise : Query → Query)
      (rootKept : ∀ query, (revise query).root = query.root)
      (markKept : ∀ query, (revise query).tree.mark? = query.tree.mark?) :
      (store.change mark revise).Anchored := by
    intro root after found
    rw [query?_change store mark revise rootKept] at found
    split at found
    · obtain ⟨query, before, rfl⟩ := Option.map_eq_some_iff.mp found
      rw [markKept, anchored root query before]
    · exact anchored root after found
  cases change with
  | @created _ snapshot _ =>
      intro root after found
      rw [tracked.query?_create] at found
      split at found
      · rename_i own
        obtain rfl := Option.some.inj found
        rw [own]
        rfl
      · exact anchored root after found
  | constrained _ => exact revised _ _ (fun _ => rfl) fun _ => mark?_update _ _ _
  | ordered => exact revised _ _ (fun _ => rfl) fun _ => rfl
  | assigned checked =>
      have sets := settingChange_setsState checked
      exact revised _ _ (fun query => (sets query).1) fun query => by rw [(sets query).2.1]
  | joined _ _ => exact revised _ _ (fun _ => rfl) fun _ => mark?_update _ _ _
  | @opened mark combinator =>
      exact revised (store.target combinator mark) (fun query =>
        query.update (store.target combinator mark)
          (Slots.join combinator [.filter (some store.next) []])) (fun _ => rfl)
        fun _ => mark?_update _ _ _

/-- The node of a root stands in the filter of its query. -/
theorem Anchored.stands (anchored : store.Anchored) (tracked : store.Tracked)
    (live : mark < store.next) : store.Stands (store.rootOf mark) := by
  obtain ⟨query, found, -⟩ := tracked.held mark live
  refine ⟨query, by rw [tracked.rootOf_rootOf live, found], ?_⟩
  have own := anchored _ _ found
  rcases shape : query.tree with ⟨mark?, slots⟩
  rw [shape] at own
  obtain rfl : mark? = some (store.rootOf mark) := own
  simp [FilterNode.marks]

theorem Anchored.filter_join_root (anchored : store.Anchored) {later : QueryStore}
    {combinator : Combinator} {nodes : List FilterNode} {query : Query}
    (found : store.query? (store.rootOf mark) = some query)
    (joined : later.query? (later.rootOf mark) =
      some (query.update (store.rootOf mark) (Slots.join combinator nodes))) :
    ∃ operands, (later.snapshot mark).filter =
      [(.text combinator.key, .list (nodesToValues operands))] := by
  have own := anchored _ _ found
  rw [snapshot_filter_eq joined, Query.update]
  rcases shape : query.tree with ⟨mark?, slots⟩
  rw [shape] at own
  obtain rfl : mark? = some (store.rootOf mark) := own
  refine ⟨.filter none slots :: nodes, ?_⟩
  simp [FilterNode.update, FilterNode.slots, Slots.join, Slots.toEntries, slotToEntry]

end QueryStore

theorem Session.Reachable.anchored {allowed : Call → Prop} {session : Session}
    (reachable : Reachable allowed session) : session.queries.Anchored :=
  (reachable.invariant (fun store => store.Anchored ∧ store.Tracked)
    ⟨by simp [QueryStore.Anchored, QueryStore.empty, QueryStore.query?], .empty⟩
    fun _ _ _ before proper _ change => ⟨before.1.of_change before.2 change,
      before.2.of_change proper change⟩).1

namespace Session

variable {allowed : Call → Prop} {session : Session} {mark : Mark} {settings : Settings}
  {names : List String}

theorem exists_joined {mark : Mark} (tracked : session.queries.Tracked)
    (live : mark < session.queries.next) (combinator : Combinator) {operands : List Operand}
    {filters : List Entries}
    (described : List.Forall₂ session.queries.Describes operands filters) :
    ∃ nodes : List FilterNode,
      (∀ query, session.queries.query? (session.queries.rootOf mark) = some query →
        ((Call.join mark combinator operands).after session).queries.query?
            (((Call.join mark combinator operands).after session).queries.rootOf mark) =
          some (query.update (session.queries.target combinator mark)
            (Slots.join combinator nodes))) ∧
      ∀ operator, nodes.any (occurs operator) = filters.any (occursIn true operator) := by
  have same := tracked.rootOf_target combinator live
  cases described with
  | nil =>
      refine ⟨[.filter (some session.queries.next) []], fun query found => ?_, fun _ => rfl⟩
      have kept := QueryStore.rootOf_congr
        (tracked.ownersOf_openScope_of_lt (session.queries.target combinator mark) combinator live)
      rw [Call.after, join, perform_openScope, queries_recordJoin, queries_withQueries, kept,
        QueryStore.Tracked.query?_openScope, if_pos same, found]
      rfl
  | @cons operand filter others rest head tail =>
      obtain ⟨nodes, copied, values⟩ := QueryStore.operandFilters_of_describes (.cons head tail)
      refine ⟨nodes, fun query found => ?_, fun operator => ?_⟩
      · have joined : ((Call.join mark combinator (operand :: others)).after session).queries =
            session.queries.join (session.queries.target combinator mark) combinator nodes := by
          rw [Call.after, Session.join, perform_joinWith, copied]
          · exact queries_recordJoin _ _ _ _
          · simp
        have kept : (session.queries.join (session.queries.target combinator mark) combinator
            nodes).rootOf mark = session.queries.rootOf mark := rfl
        rw [joined, kept, QueryStore.join, QueryStore.query?_update, if_pos same, found]
        rfl
      · have filtered : nodes.map (·.slots.toEntries) = filter :: rest := by
          apply List.map_injective_iff.mpr fun _ _ => Value.mapping.inj
          rw [← values, List.map_map]
          exact List.map_congr_left fun node _ => (toValue_eq node).symm
        rw [← filtered, List.any_map]
        rfl

/-- What a join with filters does to reports. A node that stands in the filter of its query adds all
that is reported for the filters and hides nothing; one that was pushed out changes nothing. A join
of the root hides everything from the shallow check. -/
structure JoinReports (before after : QueryStore) (mark target : Mark) (filters : List Entries)
    (names : List String) : Prop where
  adds : before.Stands target → report true names (after.snapshot mark).filter =
    names.filter fun name => (report true names (before.snapshot mark).filter).contains name ||
      filters.any fun own => (report true names own).contains name
  apart : ¬ before.Stands target → (after.snapshot mark).filter = (before.snapshot mark).filter
  root : before.Stands (before.rootOf mark) ∧
    (target = before.rootOf mark → report false names (after.snapshot mark).filter = [])

theorem joinReports {mark : Mark} (reachable : Reachable allowed session)
    (live : mark < session.queries.next) (combinator : Combinator) {operands : List Operand}
    {filters : List Entries}
    (described : List.Forall₂ session.queries.Describes operands filters) (names : List String) :
    JoinReports session.queries ((Call.join mark combinator operands).after session).queries mark
      (session.queries.target combinator mark) filters names := by
  have tracked := reachable.tracked
  have same := tracked.rootOf_target combinator live
  obtain ⟨query, found, -⟩ := tracked.held mark live
  obtain ⟨nodes, joined, added⟩ := exists_joined tracked live combinator described
  refine ⟨fun stands => ?_, fun apart => ?_, reachable.anchored.stands tracked live, fun root => ?_⟩
  · have occurs := tracked.occursIn_join stands (same ▸ joined) same
    apply List.filter_congr
    intro name listed
    rw [occurs, added, contains_report listed]
    simp only [contains_report listed]
  · exact QueryStore.filter_join_of_not_stands apart (same ▸ found) (joined query found) same
  · rw [root] at joined
    obtain ⟨operands, shape⟩ := reachable.anchored.filter_join_root found (joined query found)
    rw [shape]
    apply report_shallow_of_combined
    intro entry member
    obtain rfl := List.mem_singleton.mp member
    simp

/-- Nothing is pushed out of a query if no combinator is used as the name of a field. -/
theorem Reachable.stands (reachable : Reachable allowed session)
    (fields : ∀ call, allowed call → call.NamesFields) {mark : Mark}
    (live : mark < session.queries.next) : session.queries.Stands mark := by
  obtain ⟨query, found, member⟩ := reachable.tracked.held mark live
  have embeds := reachable.embeds fields _ query found
  exact ⟨query, found, embeds.marks_eq ▸ member⟩

/-- The operators that are reported for a query are the listed ones, in the order of the list, that
are in use in its filter: with the deep check in any filter that lists under combinators lead to,
with the shallow one in the filter itself. For a filter of combinators they are those of its
operands, and the shallow check finds no others. If there are any, then an evaluation fails without
a look at the records and leaves them. A join adds what is reported for the operands' own filters
and hides nothing, unless the node that it changes was pushed out of the query, which takes a
combinator that was used as the name of a field. -/
theorem reports_are_exact (reachable : Reachable allowed session)
    (live : mark < session.queries.next) (lists : session.Lists settings names) :
    let filter := (session.queries.snapshot mark).filter
    let reported := report settings.recursiveCheck names filter
    (perform (unsupportedOperators mark) session).1 = .ok (reported.map .text) ∧
    (∀ tree name, (name ∈ report true names tree ↔
        name ∈ names ∧ ∃ part, Filter.Reaches tree part ∧ Filter.Uses part name) ∧
      (name ∈ report false names tree ↔ name ∈ names ∧ Filter.Uses tree name)) ∧
    (∀ tree, report false names tree ⊆ report true names tree ∧
      ((∀ entry ∈ tree, (Combinator.ofValue? entry.1).isSome = true) →
        ∀ name, name ∈ report true names tree ↔
          ∃ operand, IsOperand tree operand ∧ name ∈ report true names operand)) ∧
    (reported ≠ [] → ∃ failure,
      (∀ records, (process mark records session).1 = ⟨records, .error failure⟩) ∧
        (Log.Recordable session.context →
          failure = .query (.unsupportedOffline reported))) ∧
    ∀ combinator operands filters, List.Forall₂ session.queries.Describes operands filters →
      let target := session.queries.target combinator mark
      let after := (Call.join mark combinator operands).after session
      JoinReports session.queries after.queries mark target filters names ∧
        ((∀ call, allowed call → call.NamesFields) → session.queries.Stands target) ∧
        (after.Lists settings names → (perform (unsupportedOperators mark) after).1 =
          .ok ((report settings.recursiveCheck names
            (after.queries.snapshot mark).filter).map .text)) := by
  intro filter reported
  refine ⟨lists.reported mark, fun tree name => ⟨mem_report_deep, mem_report_shallow⟩,
    fun tree => ⟨report_shallow_subset, fun combined name => mem_report_of_combined combined⟩,
    lists.refuses, fun combinator operands filters described => ⟨?_, ?_, ?_⟩⟩
  · exact joinReports reachable live combinator described names
  · intro fields
    exact reachable.stands fields (reachable.tracked.target_lt combinator live)
  · intro listed
    exact listed.reported mark

/-- Settings under which the operands of combinators are searched. -/
def deepSettings : Settings where
  file := Settings.defaultFile
  values := Settings.merge Settings.defaults
    [(.text "query", .mapping [(.text "recursive_offline_check", .bool true)])]

/-- A query with a condition, under such settings. -/
def searched : Session :=
  (Call.constrain 0 (.text "a") (.equalTo (.int 1))).after
    ((Call.create (.value .null)).after { quiet with settings? := some deepSettings })

def sphere : Entries := [(.text "loc", .mapping [(.text "$nearSphere", .list [.int 1, .int 2])])]

def sphereOptions : Entries := [(.text "filter", .mapping sphere)]

theorem lists_of_loaded {session : Session} (loaded : session.settings? = some deepSettings) :
    session.Lists deepSettings ["$nearSphere"] :=
  ⟨by rw [Settings.perform_shared_of_loaded loaded], by cbv⟩

def widened : Session := (Call.join 0 .or [.value (.mapping sphereOptions)]).after searched

theorem nested_operator_is_reported :
    (perform (unsupportedOperators 0) searched).1 = .ok [] ∧
      report true ["$nearSphere"] (widened.queries.snapshot 0).filter = ["$nearSphere"] ∧
      ∀ records, (process 0 records widened).1 =
        ⟨records, .error (.query (.unsupportedOffline ["$nearSphere"]))⟩ := by
  have reachable : Reachable (fun _ => True) searched := by
    refine .call (.call (.start rfl) trivial trivial) ?_ trivial
    change 0 < _
    cbv
  have live : 0 < searched.queries.next := by cbv
  have lists : searched.Lists deepSettings ["$nearSphere"] := lists_of_loaded (by cbv)
  have described : List.Forall₂ searched.queries.Describes [.value (.mapping sphereOptions)]
      [sphere] := by
    have read : Snapshot.parse (.mapping sphereOptions) =
        .ok { Snapshot.empty with filter := sphere } := by cbv
    exact .cons (.mapping read) .nil
  obtain ⟨before, -, -, -, joins⟩ := reports_are_exact reachable live lists
  have joined : JoinReports searched.queries widened.queries 0 0 [sphere] ["$nearSphere"] :=
    (joins .or _ _ described).1
  have reported : report true ["$nearSphere"] (widened.queries.snapshot 0).filter =
      ["$nearSphere"] := by
    rw [joined.adds joined.root.1]
    cbv
  have after : Reachable (fun _ => True) widened :=
    .call reachable ⟨live, by simp [IsThere]⟩ trivial
  have loaded : widened.Lists deepSettings ["$nearSphere"] := lists_of_loaded (by cbv)
  have context : Log.Recordable widened.context := ⟨by cbv, by cbv; simp⟩
  have deep : deepSettings.recursiveCheck = true := by cbv
  have there : 0 < widened.queries.next := by cbv
  obtain ⟨-, -, -, refuses, -⟩ := reports_are_exact after there loaded
  rw [deep, reported] at refuses
  obtain ⟨failure, refused, named⟩ := refuses (by simp)
  refine ⟨before.trans (by cbv), reported, fun records => ?_⟩
  rw [refused, named context]

/-- A scope that a condition on the key of its combinator has pushed out of its query. -/
def pushedOut : Session :=
  (Call.constrain 0 (.text "$and") (.equalTo (.int 5))).after
    ((Call.join 0 .and []).after searched)

/-- What is joined to the scope is reported on its own but not for the query. -/
theorem pushed_out_operator_is_hidden :
    let joined := perform (join 1 .and [.value (.mapping sphereOptions)]) pushedOut
    deepSettings.recursiveCheck = true ∧ joined.1 = .ok 1 ∧
      report true ["$nearSphere"] sphere = ["$nearSphere"] ∧
      (perform (unsupportedOperators 1) joined.2).1 = .ok [] := by
  cbv

end Session

end RecordQuery
