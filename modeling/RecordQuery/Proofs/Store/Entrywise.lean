import RecordQuery.Proofs.Store.Changes
import RecordQuery.Proofs.Tree.Entrywise

/-!
# Queries entry by entry

A property of entries that combinators pass on holds throughout the filters of all queries of a
session, if it holds of the filters that come in and if edits keep it in the contents of a node.
-/

namespace RecordQuery

open FilterNode Session

variable {holds : Value × Value → Prop}

/-- A query with a property throughout its trees. -/
structure Query.Each (holds : Value × Value → Prop) (query : Query) : Prop where
  tree : query.tree.Each holds
  detached : ∀ node ∈ query.detached, node.Each holds

namespace Query.Each

variable {query : Query}

theorem ofSnapshot {snapshot : Snapshot} (each : ∀ entry ∈ snapshot.filter, holds entry)
    (root : Mark) : (Query.ofSnapshot root snapshot).Each holds :=
  ⟨Slots.Each.ofEntries each, List.forall_mem_nil _⟩

theorem update (entrywise : Filter.Entrywise holds) (each : query.Each holds) {mark : Mark}
    {revise : Slots → Slots}
    (preserves : ∀ slots : Slots, slots.Each holds → (revise slots).Each holds) :
    (query.update mark revise).Each holds := by
  have kept (node : FilterNode) (each : node.Each holds) : (node.update mark revise).Each holds :=
    each.update entrywise preserves
  exact ⟨kept query.tree each.tree, forall_detached_update each.detached kept⟩

theorem find? (entrywise : Filter.Entrywise holds) (each : query.Each holds) {mark : Mark}
    {slots : Slots} (found : query.find? mark = some slots) : slots.Each holds := by
  obtain ⟨node, rfl | pushedOut, inside⟩ := exists_of_find? found
  · exact each.tree.find? entrywise inside
  · exact (each.detached node pushedOut).find? entrywise inside

theorem detach (each : query.Each holds) {operands : List FilterNode}
    (others : ∀ operand ∈ operands, operand.Each holds) : (query.detach operands).Each holds :=
  ⟨each.tree, List.forall_mem_append.mpr ⟨each.detached, others⟩⟩

end Query.Each

namespace Session

def Options.Brings (holds : Value × Value → Prop) (options : Options) : Prop :=
  ∀ snapshot, options.resolve = .ok snapshot → ∀ entry ∈ snapshot.filter, holds entry

def Brings (holds : Value × Value → Prop) : Operand → Prop
  | .query _ => True
  | .snapshot given => ∀ entry ∈ given.filter, holds entry
  | .value given => Options.Brings holds (.value given)

/-- A call that brings in filters with the property only, and whose edits keep it. -/
def Call.Brings (holds : Value × Value → Prop) : Call → Prop
  | .create options => options.Brings holds
  | .constrain _ field operation => ∀ name limit edits, field = .text name →
      operation.edits limit = .ok edits →
        ∀ slots : Slots, slots.Each holds → (slots.applyEdits name edits).1.Each holds
  | .join _ _ operands => ∀ operand ∈ operands, Session.Brings holds operand
  | _ => True

end Session

namespace QueryStore

def Each (holds : Value × Value → Prop) (store : QueryStore) : Prop :=
  ∀ query ∈ store.queries, query.Each holds

namespace Each

variable {store : QueryStore}

theorem snapshot (each : store.Each holds) (mark : Mark) :
    ∀ entry ∈ (store.snapshot mark).filter, holds entry :=
  snapshot_of_forall (fun state => ∀ entry ∈ state.filter, holds entry) (List.forall_mem_nil _)
    (fun query member => (each query member).tree) mark

theorem ownSlots (entrywise : Filter.Entrywise holds) (each : store.Each holds) (mark : Mark) :
    (store.ownSlots mark).Each holds :=
  ownSlots_of_forall (List.forall_mem_nil _) mark fun query member _ found =>
    (each query member).find? entrywise found

/-- What is copied into a join has the property. -/
theorem operandFilters (entrywise : Filter.Entrywise holds) (each : store.Each holds)
    {operands : List Operand} (brings : ∀ operand ∈ operands, Session.Brings holds operand)
    {filters : List FilterNode} (copied : store.operandFilters operands = .ok filters) :
    ∀ filter ∈ filters, filter.Each holds := by
  refine forall_operandFilters copied fun operand member filter source => ?_
  have given := brings operand member
  rcases operandFilter_cases source with
    ⟨mark, rfl, rfl⟩ | ⟨snapshot, rfl, rfl | ⟨entries, rfl, read⟩⟩
  · exact FilterNode.Each.unmarked (each.ownSlots entrywise mark)
  · exact Slots.Each.ofEntries given
  · exact Slots.Each.ofEntries (given snapshot read)

/-- Every change keeps the property if the call brings in filters with it and keeps it. -/
theorem of_change (entrywise : Filter.Entrywise holds) (each : store.Each holds) {call : Call}
    {later : QueryStore} (brings : call.Brings holds) (change : Change store call later) :
    later.Each holds := by
  cases change with
  | created resolved => exact forall_create each (.ofSnapshot (brings _ resolved) _)
  | @constrained mark field operation limit edits written =>
      refine forall_change each mark fun query kept => ?_
      exact (kept.update entrywise (brings field limit edits rfl written)).detach
        ((each.ownSlots entrywise mark).displaced entrywise field)
  | ordered => exact forall_change each _ fun query kept => ⟨kept.tree, kept.detached⟩
  | assigned checked =>
      refine forall_change each _ fun query kept => ?_
      obtain ⟨-, tree, detached⟩ := settingChange_setsState checked query
      exact ⟨tree ▸ kept.tree, detached ▸ kept.detached⟩
  | @joined mark combinator operands filters _ copied =>
      have others := each.operandFilters entrywise brings copied
      exact forall_change each _ fun query kept => kept.update entrywise fun slots contents =>
        contents.join entrywise combinator others
  | @opened mark combinator =>
      exact forall_change each _ fun query kept => kept.update entrywise fun slots contents =>
        contents.join entrywise combinator
          (List.forall_mem_singleton.mpr (List.forall_mem_nil _))

end Each

end QueryStore

/-- In a session whose calls bring in filters with the property only, all queries have it. -/
theorem Session.Reachable.each (entrywise : Filter.Entrywise holds) {session : Session}
    (reachable : Reachable (Call.Brings holds) session) : session.queries.Each holds :=
  reachable.invariant (QueryStore.Each holds) (List.forall_mem_nil _)
    fun _ _ _ each _ brings change => each.of_change entrywise brings change

end RecordQuery
