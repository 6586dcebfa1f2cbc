import RecordQuery.Proofs.Store.Changes

/-!
# Queries and their roots

No two queries have one root, so that a change through a mark is a change of one query, and depends
on nothing but that query. Two changes of one node in turn are one change.
-/

namespace RecordQuery

open FilterNode Session

namespace FilterNode

theorem update_update_and (mark : Mark) (first second : Slots → Slots) :
    (∀ node : FilterNode, (node.update mark first).update mark second =
      node.update mark (second ∘ first)) ∧
    ∀ slot : Slot, updateSlot mark second (updateSlot mark first slot) =
      updateSlot mark (second ∘ first) slot := by
  apply induct
  case filter =>
    intro mark? slots inductionHypothesis
    by_cases own : mark? = some mark
    · simp [update, own]
    · have same : ∀ slot ∈ slots, (updateSlot mark second ∘ updateSlot mark first) slot =
          updateSlot mark (second ∘ first) slot := inductionHypothesis
      simp [update, own, List.map_congr_left same]
  case plain => simp [updateSlot]
  case joined =>
    intro combinator operands inductionHypothesis
    have same : ∀ operand ∈ operands, (update mark second ∘ update mark first) operand =
        update mark (second ∘ first) operand := inductionHypothesis
    simp [updateSlot, List.map_congr_left same]

end FilterNode

namespace Query

/-- Changes of one node in turn are one change. -/
theorem update_update (query : Query) (mark : Mark) (first second : Slots → Slots) :
    (query.update mark first).update mark second = query.update mark (second ∘ first) := by
  have nodes := (FilterNode.update_update_and mark first second).1
  simp only [update, updateNodes_eq_map, List.map_map, nodes]
  congr 1
  apply List.map_congr_left
  intro node _
  exact nodes node

/-- A change of one node depends on its contents only. -/
theorem update_congr {query : Query} {mark : Mark} {slots : Slots} (single : query.marks.Nodup)
    (found : query.find? mark = some slots) {first second : Slots → Slots}
    (same : first slots = second slots) : query.update mark first = query.update mark second := by
  obtain ⟨layers, shape, absent⟩ := exists_forest_eq single found
  have forests : (query.update mark first).forest = (query.update mark second).forest := by
    rw [forest_update, forest_update, shape, Surroundings.update_own _ absent,
      Surroundings.update_own _ absent, same]
  simp only [forest, FilterNode.filter.injEq, List.cons.injEq, Slot.joined.injEq, true_and,
    and_true] at forests
  simp only [update] at forests ⊢
  rw [forests.1, forests.2]

end Query

namespace QueryStore

structure OwnRoots (store : QueryStore) : Prop where
  apart : (store.queries.map Query.root).Nodup
  known : ∀ query ∈ store.queries, query.root < store.next

namespace OwnRoots

variable {store : QueryStore}

theorem query?_of_mem (roots : store.OwnRoots) {query : Query} (member : query ∈ store.queries) :
    store.query? query.root = some query := by
  have apart := roots.apart
  unfold query?
  generalize store.queries = queries at member apart
  induction queries with
  | nil => contradiction
  | cons head rest inductionHypothesis =>
      obtain ⟨new, others⟩ := List.nodup_cons.mp apart
      rcases List.mem_cons.mp member with rfl | member
      · rw [List.find?_cons_of_pos (by simp)]
      · have differs : (head.root == query.root) = false := by
          rw [beq_eq_false_iff_ne]
          intro same
          exact new (same ▸ List.mem_map_of_mem member)
        rw [List.find?_cons_of_neg (by simp [differs])]
        exact inductionHypothesis member others

theorem change (roots : store.OwnRoots) (mark : Mark) {revise : Query → Query}
    (rootKept : ∀ query, (revise query).root = query.root) :
    (store.change mark revise).OwnRoots := by
  have kept (query : Query) :
      (if query.root = store.rootOf mark then revise query else query).root = query.root := by
    split
    · exact rootKept query
    · rfl
  constructor
  · have same : (store.change mark revise).queries.map Query.root =
        store.queries.map Query.root := by
      simp only [QueryStore.change, List.map_map]
      apply List.map_congr_left
      intro query _
      exact kept query
    rw [same]
    exact roots.apart
  · intro query member
    obtain ⟨old, held, rfl⟩ := List.mem_map.mp member
    rw [kept]
    exact roots.known old held

theorem of_change (roots : store.OwnRoots) {call : Call} {later : QueryStore}
    (change : Change store call later) : later.OwnRoots := by
  cases change with
  | @created _ snapshot _ =>
      constructor
      · have apart : store.next ∉ store.queries.map Query.root := by
          intro member
          obtain ⟨query, held, same⟩ := List.mem_map.mp member
          exact Nat.lt_irrefl _ (same ▸ roots.known query held)
        simp only [create, List.map_append, List.map_cons, List.map_nil, Query.ofSnapshot]
        exact List.nodup_append.mpr ⟨roots.apart, List.nodup_singleton _, by
          rintro root member _ listed rfl
          exact apart (List.mem_singleton.mp listed ▸ member)⟩
      · intro query member
        rcases List.mem_append.mp member with old | new
        · exact Nat.lt_succ_of_lt (roots.known query old)
        · obtain rfl := List.mem_singleton.mp new
          exact Nat.lt_succ_self _
  | constrained => exact roots.change _ fun _ => rfl
  | ordered => exact roots.change _ fun _ => rfl
  | assigned checked => exact roots.change _ fun query => (settingChange_setsState checked query).1
  | joined => exact roots.change _ fun _ => rfl
  | @opened mark combinator =>
      have joined : (store.join (store.target combinator mark) combinator
          [.filter (some store.next) []]).OwnRoots := roots.change _ fun _ => rfl
      exact ⟨joined.apart, fun query member => Nat.lt_succ_of_lt (joined.known query member)⟩

/-- A change of a query depends on the query of the mark only. -/
theorem change_congr (roots : store.OwnRoots) {mark : Mark} {first second : Query → Query}
    (same : ∀ query, store.query? (store.rootOf mark) = some query → first query = second query) :
    store.change mark first = store.change mark second := by
  simp only [QueryStore.change, QueryStore.mk.injEq, true_and]
  apply List.map_congr_left
  intro query member
  split
  · rename_i own
    exact same query (own ▸ roots.query?_of_mem member)
  · rfl

end OwnRoots

/-- Changes of one node in turn are one change. -/
theorem change_update_update (store : QueryStore) (mark : Mark) (first second : Slots → Slots) :
    (store.change mark fun query => query.update mark first).change mark
        (fun query => query.update mark second) =
      store.change mark fun query => query.update mark (second ∘ first) := by
  have root : (store.change mark fun query => query.update mark first).rootOf mark =
      store.rootOf mark := rfl
  rw [QueryStore.change, root]
  simp only [QueryStore.change, List.map_map, QueryStore.mk.injEq, true_and]
  apply List.map_congr_left
  intro query _
  rw [Function.comp]
  by_cases own : query.root = store.rootOf mark
  · have kept : (query.update mark first).root = store.rootOf mark := own
    rw [if_pos own, if_pos kept, if_pos own, Query.update_update]
  · rw [if_neg own, if_neg own, if_neg own]

end QueryStore

theorem Session.Reachable.ownRoots {allowed : Call → Prop} {session : Session}
    (reachable : Reachable allowed session) : session.queries.OwnRoots :=
  reachable.invariant QueryStore.OwnRoots ⟨List.nodup_nil, List.forall_mem_nil _⟩
    fun _ _ _ roots _ _ change => roots.of_change change

end RecordQuery
