import RecordQuery.Proofs.Store.Changes
import RecordQuery.Proofs.Tree.Proper

/-!
# Queries with proper filters

Mappings never have one key twice, nor sets one member. Where this is so for what the calls of a
session are given, it is so for the filters of all queries after every change.
-/

namespace RecordQuery

open FilterNode Session

/-- A query whose trees are proper. -/
structure Query.Proper (query : Query) : Prop where
  tree : query.tree.Proper
  detached : ∀ node ∈ query.detached, node.Proper

namespace Query.Proper

variable {query : Query}

theorem ofSnapshot {snapshot : Snapshot} (proper : snapshot.Proper) (root : Mark) :
    (Query.ofSnapshot root snapshot).Proper :=
  ⟨Slots.proper_ofEntries proper, List.forall_mem_nil _⟩

theorem update (proper : query.Proper) {mark : Mark} {revise : Slots → Slots}
    (preserves : ∀ slots : Slots, slots.Proper → (revise slots).Proper) :
    (query.update mark revise).Proper := by
  have kept (node : FilterNode) (proper : node.Proper) : (node.update mark revise).Proper :=
    proper.update preserves
  exact ⟨kept query.tree proper.tree, forall_detached_update proper.detached kept⟩

theorem find? (proper : query.Proper) {mark : Mark} {slots : Slots}
    (found : query.find? mark = some slots) : slots.Proper := by
  obtain ⟨node, rfl | pushedOut, inside⟩ := exists_of_find? found
  · exact proper.tree.find? inside
  · exact (proper.detached node pushedOut).find? inside

theorem detach (proper : query.Proper) {operands : List FilterNode}
    (others : ∀ operand ∈ operands, operand.Proper) : (query.detach operands).Proper :=
  ⟨proper.tree, List.forall_mem_append.mpr ⟨proper.detached, others⟩⟩

end Query.Proper

namespace Session

def Options.GivesProper : Options → Prop
  | .value given => given.Proper
  | .snapshot given => given.Proper

/-- An operand whose mappings and sets are proper. -/
def GivesProper : Operand → Prop
  | .query _ => True
  | .snapshot given => given.Proper
  | .value given => given.Proper

/-- A call that is given proper values, as far as they get into filters. -/
def Call.GivesProper : Call → Prop
  | .create options => options.GivesProper
  | .constrain _ _ operation => ∀ value ∈ operation.kept, value.Proper
  | .join _ _ operands => ∀ operand ∈ operands, Session.GivesProper operand
  | _ => True

end Session

namespace QueryStore

def Proper (store : QueryStore) : Prop := ∀ query ∈ store.queries, query.Proper

namespace Proper

variable {store : QueryStore}

theorem snapshot (proper : store.Proper) (mark : Mark) : (store.snapshot mark).Proper :=
  snapshot_of_forall _ Snapshot.proper_empty (fun query member => (proper query member).tree) mark

theorem ownSlots (proper : store.Proper) (mark : Mark) : (store.ownSlots mark).Proper :=
  ownSlots_of_forall Slots.proper_nil mark fun query member _ found =>
    (proper query member).find? found

theorem displaced (proper : store.Proper) (mark : Mark) (field : String) :
    ∀ operand ∈ (store.ownSlots mark).displaced field, operand.Proper := by
  intro operand member
  rw [Slots.displaced] at member
  split at member
  · rename_i combinator operands held
    have slot := (proper.ownSlots mark).value (List.mem_of_find?_eq_some held)
    exact Slots.proper_joined.mp slot operand member
  · contradiction

theorem operandFilters (proper : store.Proper) {operands : List Operand}
    (given : ∀ operand ∈ operands, GivesProper operand) {filters : List FilterNode}
    (copied : store.operandFilters operands = .ok filters) :
    ∀ filter ∈ filters, filter.Proper := by
  refine forall_operandFilters copied fun operand member filter source => ?_
  have gives := given operand member
  rcases operandFilter_cases source with
    ⟨mark, rfl, rfl⟩ | ⟨snapshot, rfl, rfl | ⟨entries, rfl, read⟩⟩
  · exact FilterNode.Proper.unmarked (proper.ownSlots mark)
  · exact Slots.proper_ofEntries gives
  · exact Slots.proper_ofEntries (Snapshot.proper_of_ofEntries gives read)

/-- Every change keeps all queries proper if the call is given proper values. -/
theorem of_change (proper : store.Proper) {call : Call} {later : QueryStore}
    (given : call.GivesProper) (change : Change store call later) : later.Proper := by
  cases change with
  | @created options snapshot resolved =>
      refine forall_create proper (.ofSnapshot ?_ _)
      cases options with
      | value value => exact Snapshot.proper_of_parse given resolved
      | snapshot snapshot =>
          obtain rfl := Except.ok.inj resolved
          exact given
  | @constrained mark field operation limit edits written =>
      have edited := FieldOperation.allProper_of_edits written given
      refine forall_change proper mark fun query kept => ?_
      exact (kept.update fun slots contents => contents.applyEdits field edited).detach
        (proper.displaced mark field)
  | ordered => exact forall_change proper _ fun query kept => ⟨kept.tree, kept.detached⟩
  | assigned checked =>
      refine forall_change proper _ fun query kept => ?_
      obtain ⟨-, tree, detached⟩ := settingChange_setsState checked query
      exact ⟨tree ▸ kept.tree, detached ▸ kept.detached⟩
  | @joined mark combinator operands filters _ copied =>
      have others := proper.operandFilters given copied
      exact forall_change proper _ fun query kept => kept.update fun slots contents =>
        contents.join combinator others
  | @opened mark combinator =>
      exact forall_change proper _ fun query kept => kept.update fun slots contents =>
        contents.join combinator (List.forall_mem_singleton.mpr Slots.proper_nil)

end Proper

end QueryStore

/-- In a session whose calls were given proper values, all queries are proper. -/
theorem Session.Reachable.proper {session : Session}
    (reachable : Reachable Call.GivesProper session) : session.queries.Proper :=
  reachable.invariant QueryStore.Proper (List.forall_mem_nil _)
    fun _ _ _ proper _ given change => proper.of_change given change

end RecordQuery
