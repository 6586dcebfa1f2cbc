import Mathlib.Data.List.Nodup
import RecordQuery.Proofs.Session.Calls
import RecordQuery.Proofs.Tree.Edits

/-!
# Tracked marks

Every mark that was given out is held by the query of its root, in the tree or among the trees that
were pushed out of it, and no mark is there twice. `QueryStore.Tracked` says so; every change keeps
it.
-/

namespace RecordQuery

open FilterNode

namespace Query

/-- All trees of a query as operands of one node. -/
def forest (query : Query) : FilterNode :=
  .filter none [.joined .and (query.tree :: query.detached)]

/-- The marks that a query holds. -/
def marks (query : Query) : List Mark := query.forest.marks

theorem marks_eq (query : Query) :
    query.marks = query.tree.marks ++ query.detached.flatMap FilterNode.marks := by
  simp [marks, forest, FilterNode.marks, marksOfSlot]

theorem find?_eq (query : Query) (mark : Mark) : query.find? mark = query.forest.find? mark := by
  cases found : query.tree.find? mark <;>
    cases others : query.detached.findSome? (FilterNode.find? mark) <;>
      simp [find?, forest, FilterNode.find?, findInSlot?, found, others]

theorem forest_update (query : Query) (mark : Mark) (revise : Slots → Slots) :
    (query.update mark revise).forest = query.forest.update mark revise := by
  simp [update, forest, FilterNode.update, updateSlot]

theorem find?_isSome_iff {query : Query} {mark : Mark} :
    (query.find? mark).isSome ↔ mark ∈ query.marks := by
  rw [find?_eq, FilterNode.find?_isSome_iff, marks]

theorem find?_update (query : Query) (mark : Mark) (revise : Slots → Slots) :
    (query.update mark revise).find? mark = (query.find? mark).map revise := by
  rw [find?_eq, find?_eq, forest_update, FilterNode.find?_update]

theorem marks_detach (query : Query) (operands : List FilterNode) :
    (query.detach operands).marks = query.marks ++ marksOfNodes operands := by
  simp [marks_eq, detach]

/-- Trees that are kept beside a query hide nothing. -/
theorem find?_detach {query : Query} {mark : Mark} {slots : Slots}
    (found : query.find? mark = some slots) (operands : List FilterNode) :
    (query.detach operands).find? mark = some slots := by
  rw [find?, findInNodes?_eq_findSome?] at found
  rw [find?, findInNodes?_eq_findSome?, detach, List.findSome?_append, ← Option.or_assoc, found]
  rfl

/-- What is found in a query is found in one of its trees. -/
theorem exists_of_find? {query : Query} {mark : Mark} {slots : Slots}
    (found : query.find? mark = some slots) :
    ∃ node, (node = query.tree ∨ node ∈ query.detached) ∧ node.find? mark = some slots := by
  rw [find?, Option.or_eq_some_iff] at found
  rcases found with inside | ⟨-, pushedOut⟩
  · exact ⟨query.tree, .inl rfl, inside⟩
  · rw [findInNodes?_eq_findSome?] at pushedOut
    obtain ⟨node, present, inside⟩ := List.exists_of_findSome?_eq_some pushedOut
    exact ⟨node, .inr present, inside⟩

theorem forall_detached_update {query : Query} {holds : FilterNode → Prop}
    (all : ∀ node ∈ query.detached, holds node) {mark : Mark} {revise : Slots → Slots}
    (preserves : ∀ node, holds node → holds (node.update mark revise)) :
    ∀ node ∈ (query.update mark revise).detached, holds node := by
  intro node member
  rw [update, updateNodes_eq_map] at member
  obtain ⟨old, present, rfl⟩ := List.mem_map.mp member
  exact preserves old (all old present)

/-- A held mark is a node of the forest, and the layers around it do not have the mark. -/
theorem exists_forest_eq {query : Query} {mark : Mark} {slots : Slots}
    (single : query.marks.Nodup) (found : query.find? mark = some slots) :
    ∃ layers : Surroundings,
      query.forest = layers.fill (.filter (some mark) slots) ∧ mark ∉ layers.marks := by
  have held : mark ∈ query.forest.marks := find?_isSome_iff.mp (by simp [found])
  rw [← map_fst_chains []] at held
  obtain ⟨⟨other, chain⟩, member, same⟩ := List.mem_map.mp held
  obtain rfl : other = mark := same
  obtain ⟨layers, contents, shape, -⟩ := exists_fill_of_mem member
  rw [marks, shape] at single
  have absent := Surroundings.not_mem_marks_of_nodup single
  rw [find?_eq, shape, Surroundings.find?_own absent] at found
  exact ⟨layers, by rw [shape, Option.some.inj found], absent⟩

/-- The marks of a query before and after a change of one node differ in that node only. -/
theorem marks_update {query : Query} {mark : Mark} {slots : Slots} (single : query.marks.Nodup)
    (found : query.find? mark = some slots) :
    ∃ others : List Mark, query.marks.Perm (others ++ marksOfSlots slots) ∧
      ∀ revise, (query.update mark revise).marks.Perm (others ++ marksOfSlots (revise slots)) := by
  obtain ⟨layers, shape, absent⟩ := exists_forest_eq single found
  refine ⟨layers.marks ++ [mark], ?_, ?_⟩
  · rw [marks, shape]
    simpa [FilterNode.marks] using layers.marks_fill (.filter (some mark) slots)
  · intro revise
    rw [marks, forest_update, shape, Surroundings.update_own revise absent]
    simpa [FilterNode.marks] using layers.marks_fill (.filter (some mark) (revise slots))

end Query

namespace QueryStore

theorem root_of_query? {store : QueryStore} {root : Mark} {query : Query}
    (found : store.query? root = some query) : query.root = root := by
  simpa using List.find?_some found

theorem query?_change (store : QueryStore) (mark : Mark) (revise : Query → Query)
    (rootKept : ∀ query, (revise query).root = query.root) (root : Mark) :
    (store.change mark revise).query? root =
      if store.rootOf mark = root then (store.query? root).map revise else store.query? root := by
  have sameRoot : ((fun query : Query => query.root == root) ∘ fun query =>
      if query.root = store.rootOf mark then revise query else query) =
        fun query => query.root == root := by
    funext query
    by_cases own : query.root = store.rootOf mark <;> simp [own, rootKept]
  rw [query?, change, List.find?_map, sameRoot]
  cases found : store.query? root with
  | none =>
      rw [query?] at found
      simp [found]
  | some query =>
      have own := root_of_query? found
      rw [query?] at found
      by_cases same : store.rootOf mark = root
      · simp [found, own, same]
      · simp [found, own, same, Ne.symm same]

theorem query?_update (store : QueryStore) (mark : Mark) (revise : Slots → Slots) (root : Mark) :
    (store.change mark fun query => query.update mark revise).query? root =
      if store.rootOf mark = root then (store.query? root).map fun query => query.update mark revise
      else store.query? root :=
  query?_change store mark (fun query => query.update mark revise) (fun _ => rfl) root

theorem rootOf_congr {store later : QueryStore} {mark : Mark}
    (same : later.ownersOf mark = store.ownersOf mark) : later.rootOf mark = store.rootOf mark := by
  rw [rootOf, rootOf, same]

theorem rootOf_of_root {store : QueryStore} {mark : Mark} (root : store.ownersOf mark = []) :
    store.rootOf mark = mark := by simp [rootOf, root]

theorem rootOf_of_scope {store : QueryStore} {mark owner : Mark}
    (scope : store.ownersOf mark = owner :: store.ownersOf owner) :
    store.rootOf mark = store.rootOf owner := by
  simp [rootOf, scope, List.getLast?_cons]

theorem ownersOf_append (store : QueryStore) {mark : Mark} (chain : List Mark) (next : Mark)
    (queries : List Query) (new : ∀ entry ∈ store.owners, entry.1 ≠ mark) (other : Mark) :
    (QueryStore.mk next (store.owners ++ [(mark, chain)]) queries).ownersOf other =
      if other = mark then chain else store.ownersOf other := by
  by_cases same : other = mark
  · have none : store.owners.find? (fun entry => entry.1 == mark) = none :=
      List.find?_eq_none.mpr fun entry member => by simpa using new entry member
    simp [ownersOf, List.find?_append, same, none]
  · have skipped : (mark == other) = false := by simpa using Ne.symm same
    simp [ownersOf, List.find?_append, same, skipped]

/-- Every mark that was given out is held by the query of its root, once. -/
structure Tracked (store : QueryStore) : Prop where
  known : ∀ entry ∈ store.owners, entry.1 < store.next
  linked : ∀ mark < store.next, ∀ owner rest, store.ownersOf mark = owner :: rest →
    owner < store.next ∧ store.ownersOf owner = rest
  rooted : ∀ root query, store.query? root = some query → root < store.next
  held : ∀ mark < store.next, ∃ query, store.query? (store.rootOf mark) = some query ∧
    mark ∈ query.marks
  single : ∀ root query, store.query? root = some query → query.marks.Nodup
  given : ∀ root query, store.query? root = some query → ∀ mark ∈ query.marks, mark < store.next

namespace Tracked

variable {store : QueryStore}

/-- Induction from a mark over its owners to its root. -/
theorem induct (tracked : store.Tracked) {motive : Mark → Prop}
    (root : ∀ mark < store.next, store.ownersOf mark = [] → motive mark)
    (scope : ∀ mark < store.next, ∀ owner < store.next,
      store.ownersOf mark = owner :: store.ownersOf owner → motive owner → motive mark)
    {mark : Mark} (live : mark < store.next) : motive mark := by
  induction chain : store.ownersOf mark generalizing mark with
  | nil => exact root mark live chain
  | cons owner rest inductionHypothesis =>
      obtain ⟨ownerLive, above⟩ := tracked.linked mark live owner rest chain
      exact scope mark live owner ownerLive (by rw [chain, above])
        (inductionHypothesis ownerLive above)

theorem query?_next (tracked : store.Tracked) : store.query? store.next = none := by
  cases found : store.query? store.next with
  | none => rfl
  | some query => exact absurd (tracked.rooted _ query found) (Nat.lt_irrefl _)

theorem ownersOf_lt (tracked : store.Tracked) {mark : Mark} (live : mark < store.next) :
    ∀ owner ∈ store.ownersOf mark, owner < store.next := by
  refine tracked.induct (motive := fun mark => ∀ owner ∈ store.ownersOf mark, owner < store.next)
    ?_ ?_ live
  · intro mark _ root
    simp [root]
  · intro mark _ owner ownerLive scope above
    simpa [scope] using ⟨ownerLive, above⟩

theorem rootOf_lt (tracked : store.Tracked) {mark : Mark} (live : mark < store.next) :
    store.rootOf mark < store.next := by
  refine tracked.induct (motive := fun mark => store.rootOf mark < store.next) ?_ ?_ live
  · intro mark live root
    rwa [rootOf_of_root root]
  · intro mark _ owner _ scope above
    rwa [rootOf_of_scope scope]

theorem ownersOf_rootOf (tracked : store.Tracked) {mark : Mark} (live : mark < store.next) :
    store.ownersOf (store.rootOf mark) = [] := by
  refine tracked.induct (motive := fun mark => store.ownersOf (store.rootOf mark) = []) ?_ ?_ live
  · intro mark _ root
    rwa [rootOf_of_root root]
  · intro mark _ owner _ scope above
    rwa [rootOf_of_scope scope]

theorem rootOf_rootOf (tracked : store.Tracked) {mark : Mark} (live : mark < store.next) :
    store.rootOf (store.rootOf mark) = store.rootOf mark :=
  rootOf_of_root (tracked.ownersOf_rootOf live)

theorem target_lt_and (tracked : store.Tracked) (combinator : Combinator) {mark : Mark}
    (live : mark < store.next) :
    store.target combinator mark < store.next ∧
      store.rootOf (store.target combinator mark) = store.rootOf mark := by
  cases combinator with
  | and => exact ⟨live, rfl⟩
  | or => exact ⟨tracked.rootOf_lt live, tracked.rootOf_rootOf live⟩
  | nor =>
      refine tracked.induct (motive := fun mark => store.target .nor mark < store.next ∧
          store.rootOf (store.target .nor mark) = store.rootOf mark)
        ?_ ?_ live
      · intro mark live root
        simp only [target, root, norTargetFrom, live, true_and]
      · intro mark live owner _ scope above
        simp only [target, scope, norTargetFrom] at above ⊢
        split
        · rwa [rootOf_of_scope scope]
        · exact ⟨live, rfl⟩

theorem target_lt (tracked : store.Tracked) (combinator : Combinator) {mark : Mark}
    (live : mark < store.next) : store.target combinator mark < store.next :=
  (tracked.target_lt_and combinator live).1

/-- The node that a join changes belongs to the same query. -/
theorem rootOf_target (tracked : store.Tracked) (combinator : Combinator) {mark : Mark}
    (live : mark < store.next) :
    store.rootOf (store.target combinator mark) = store.rootOf mark :=
  (tracked.target_lt_and combinator live).2

end Tracked

end QueryStore

end RecordQuery
