import RecordQuery.Proofs.Query.Grammar
import RecordQuery.Proofs.Store.Embedded

/-!
# Trees that spell expressions

A join without operands wraps the contents of a node and opens a scope beside them. In the middle of
a chain of such joins the layers around the latest scope are the operands that wait in a reading of
an expression from left to right. `Spells` relates the two: a join starts at the node that the
operands it closes build, and the whole tree is the expression that all waiting operands build.
-/

namespace RecordQuery

open FilterNode Session

def Layer.Waits (layer : Layer) (entry : Combinator × Expression) : Prop :=
  ∃ owner left, layer = ⟨some owner, [], entry.1, [left], [], []⟩ ∧
    left.toValue = .mapping entry.2.toEntries

namespace QueryStore

/-- The tree of a query in the middle of a chain: the layers around a node are the operands that
wait, and the node is the expression that was read last. -/
structure Spells (store : QueryStore) (mark : Mark) (pending : Expression.Pending)
    (expression : Expression) (query : Query) (layers : Surroundings) (slots : Slots) : Prop where
  live : mark < store.next
  found : store.query? (store.rootOf mark) = some query
  embeds : store.Embeds query
  shape : query.tree = layers.fill (.filter (some mark) slots)
  node : slots.toEntries = expression.toEntries
  waits : List.Forall₂ Layer.Waits layers.reverse pending

namespace Spells

variable {store : QueryStore} {mark : Mark} {pending : Expression.Pending}
  {expression : Expression} {query : Query} {layers : Surroundings} {slots : Slots}

theorem ownersOf_nil (tracked : store.Tracked)
    (spells : store.Spells mark [] expression query layers slots) : store.ownersOf mark = [] := by
  obtain rfl : layers = [] := by simpa using spells.waits
  exact (spells.embeds.of_fill tracked spells.found spells.shape).1.symm

theorem pop (tracked : store.Tracked) {waiting : Combinator} {left : Expression}
    (spells : store.Spells mark ((waiting, left) :: pending) expression query layers slots) :
    ∃ owner outer operands, store.ownersOf mark = owner :: store.ownersOf owner ∧
      store.Spells owner pending (.joined waiting left expression) query outer
        [.joined waiting operands] := by
  obtain ⟨layer, rest, head, tail, reversed⟩ :=
    List.forall₂_cons_right_iff.mp spells.waits
  obtain ⟨owner, operand, rfl, value⟩ := head
  obtain rfl : layers = rest.reverse ++ [⟨some owner, [], waiting, [operand], [], []⟩] := by
    rw [← List.reverse_reverse layers, reversed, List.reverse_cons]
  have around := (spells.embeds.of_fill tracked spells.found spells.shape).1
  rw [Surroundings.enclosing_append] at around
  have owners : store.ownersOf mark = owner :: Surroundings.enclosing rest.reverse := by
    simpa [Surroundings.enclosing] using around.symm
  obtain ⟨ownerLive, above⟩ := tracked.linked mark spells.live _ _ owners
  rw [← above] at owners
  refine ⟨owner, rest.reverse, [operand, .filter (some mark) slots], owners, ownerLive, ?_,
    spells.embeds, ?_, ?_, by rwa [List.reverse_reverse]⟩
  · rw [← rootOf_of_scope owners, spells.found]
  · rw [spells.shape, Surroundings.fill_append]
    rfl
  · have node : slotsToEntries slots = expression.toEntries := spells.node
    simp only [Slots.toEntries, slotsToEntries, slotToEntry, nodesToValues, value,
      toValue, node, Expression.toEntries]

/-- A join without operands starts at the node that the operands it closes build. -/
theorem target (tracked : store.Tracked) (next : Combinator)
    (spells : store.Spells mark pending expression query layers slots) :
    ∃ outer contents, store.Spells (store.target next mark)
      (Expression.close next pending expression).1 (Expression.close next pending expression).2
      query outer contents := by
  induction pending generalizing mark expression layers slots with
  | nil =>
      have root := spells.ownersOf_nil tracked
      have same : store.target next mark = mark := by
        cases next <;> simp [QueryStore.target, norTargetFrom, root, rootOf_of_root root]
      rw [same]
      exact ⟨_, _, spells⟩
  | cons entry rest inductionHypothesis =>
      rcases entry with ⟨waiting, left⟩
      obtain ⟨owner, outer, operands, owners, whole⟩ := spells.pop tracked
      have contents := (whole.embeds.of_fill tracked whole.found whole.shape).2.2
      have step : store.target next mark =
          if Expression.closes next waiting then store.target next owner else mark := by
        cases next with
        | and => rfl
        | or => exact rootOf_of_scope owners
        | nor =>
            rw [QueryStore.target, owners, norTargetFrom, contents]
            cases waiting <;> rfl
      rw [step, Expression.close]
      split
      · exact inductionHypothesis whole
      · exact ⟨_, _, spells⟩

theorem toValue_tree (tracked : store.Tracked)
    (spells : store.Spells mark pending expression query layers slots) :
    query.tree.toValue = .mapping (Expression.finish pending expression).toEntries := by
  induction pending generalizing mark expression layers slots with
  | nil =>
      obtain rfl : layers = [] := by simpa using spells.waits
      rw [spells.shape, Surroundings.fill_nil, toValue]
      exact congrArg Value.mapping spells.node
  | cons entry rest inductionHypothesis =>
      obtain ⟨owner, outer, operands, -, whole⟩ := spells.pop tracked
      exact inductionHypothesis whole

theorem rewrite (tracked : store.Tracked)
    (spells : store.Spells mark pending expression query layers slots) {later : QueryStore}
    {revise : Slots → Slots} (live : mark < later.next)
    (root : later.rootOf mark = store.rootOf mark)
    (found : later.query? (store.rootOf mark) = some (query.update mark revise))
    (embeds : later.Embeds (query.update mark revise)) :
    later.Spells mark pending (.filter (revise slots).toEntries) (query.update mark revise) layers
      (revise slots) := by
  have absent := (spells.embeds.of_fill tracked spells.found spells.shape).2.1
  refine ⟨live, by rw [root, found], embeds, ?_, rfl, spells.waits⟩
  rw [Query.update, spells.shape, Surroundings.update_own revise absent]

/-- A join without operands closes the waiting operands that it binds less tightly than, and lets
what they build wait for the new scope. -/
theorem openScope (tracked : store.Tracked) (next : Combinator)
    (spells : store.Spells mark pending expression query layers slots) :
    let closed := Expression.close next pending expression
    ∃ query layers, (store.openScope (store.target next mark) next).1.Spells store.next
      ((next, closed.2) :: closed.1) (.filter []) query layers [] := by
  obtain ⟨outer, contents, starts⟩ := spells.target tracked next
  generalize reached : store.target next mark = node at starts
  have change : Change store (.join mark next []) (store.openScope node next).1 := by
    rw [← reached]
    exact .opened
  have proper : (Call.join mark next []).Proper store := ⟨spells.live, by simp⟩
  have found := Tracked.query?_openScope store node next (store.rootOf node)
  rw [if_pos rfl, starts.found] at found
  have embeds := starts.embeds.after_change tracked starts.found proper trivial change found
  have absent := (starts.embeds.of_fill tracked starts.found starts.shape).2.1
  refine ⟨_, outer ++ [⟨some node, [], next, [.filter none contents], [], []⟩],
    Nat.lt_succ_self _, ?_, embeds, ?_, rfl, ?_⟩
  · rw [tracked.rootOf_openScope starts.live]
    exact found
  · simp only [Query.update]
    rw [starts.shape, Surroundings.update_own _ absent, Surroundings.fill_append]
    rfl
  · rw [List.reverse_append]
    exact .cons ⟨node, _, rfl, congrArg Value.mapping starts.node⟩ starts.waits

end Spells

end QueryStore

end RecordQuery
