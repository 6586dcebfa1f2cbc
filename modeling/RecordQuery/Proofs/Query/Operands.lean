import RecordQuery.Proofs.Query.Atomicity
import RecordQuery.Proofs.Query.Evaluation
import RecordQuery.Proofs.Store.Embedded

/-!
# Operations beside joined operands

An operation on a field leaves all that a query's own node holds under other keys. Operands are
held under the key of their combinator, so they stay, and every scope among them keeps its place in
the filter of the query. The exception is a field that names a combinator whose operands the node
holds: conditions take their place, and what is written to the scopes among them no longer reaches
the query.
-/

namespace RecordQuery

open FilterNode Session RecordQuery.Action

/-- An entry with the operands of a combinator, whether they were joined or came with the filter
that the query was made from. -/
def Slot.ListsOperands : Slot → Prop
  | .joined _ _ => True
  | .plain key value => (∃ combinator : Combinator, combinator.key = key) ∧
      ∃ operands, value = .list operands

namespace Slots

def HoldsOperands (slots : Slots) (key : String) : Prop :=
  ∃ slot, slots.get? key = some slot ∧ slot.ListsOperands

theorem plainUnder_of_free {slots : Slots} {key : String} (free : ¬ slots.HoldsOperands key) :
    slots.PlainUnder key := by
  intro combinator operands held
  apply free
  exact ⟨_, held, trivial⟩

theorem filter_set (slots : Slots) (key : String) (value : Value) :
    (slots.set key value).filter (fun slot => slot.key ≠ key) =
      slots.filter fun slot => slot.key ≠ key := by
  rcases set_cases slots key value with ⟨before, slot, after, parts, held, shape⟩ | ⟨-, shape⟩
  · rw [shape, parts]
    simp [key_of_get? held]
  · rw [shape]
    simp

theorem mem_set_of_listsOperands {slots : Slots} {key : String} (free : ¬ slots.HoldsOperands key)
    (value : Value) {slot : Slot} (lists : slot.ListsOperands) (member : slot ∈ slots) :
    slot ∈ slots.set key value := by
  rcases set_cases slots key value with ⟨before, old, after, parts, held, shape⟩ | ⟨-, shape⟩
  · have differs : slot ≠ old := by
      rintro rfl
      exact free ⟨slot, held, lists⟩
    rw [parts, List.mem_append, List.mem_cons] at member
    rw [shape, List.mem_append, List.mem_cons]
    rcases member with earlier | same | later
    · exact .inl earlier
    · exact absurd same differs
    · exact .inr (.inr later)
  · rw [shape]
    exact List.mem_append_left _ member

end Slots

namespace FilterNode

theorem chains_update {node : FilterNode} {mark : Mark} {slots : Slots}
    (single : node.marks.Nodup) (found : node.find? mark = some slots) {revise : Slots → Slots}
    (contents : ∀ above, chainsOfSlots above (revise slots) = chainsOfSlots above slots) :
    ((node.update mark revise).chains []).Perm (node.chains []) := by
  have held : mark ∈ node.marks := find?_isSome_iff.mp (by rw [found]; rfl)
  rw [← map_fst_chains []] at held
  obtain ⟨⟨other, chain⟩, member, own⟩ := List.mem_map.mp held
  obtain rfl : other = mark := own
  obtain ⟨layers, inside, shape, -⟩ := exists_fill_of_mem member
  rw [shape] at single
  have absent := Surroundings.not_mem_marks_of_nodup single
  rw [shape, Surroundings.find?_own absent] at found
  obtain rfl := Option.some.inj found
  obtain ⟨beside, chains⟩ := layers.chains_fill []
  rw [shape, Surroundings.update_own revise absent]
  refine (chains _).trans (.trans ?_ (chains _).symm)
  apply List.Perm.append_left
  rw [FilterNode.chains, FilterNode.chains, contents]

end FilterNode

namespace QueryStore

variable {store : QueryStore} {mark : Mark} {field : String} {edits : List Edit}

/-- Edits under a field leave what a node holds under other keys. -/
theorem Tracked.filter_edit (tracked : store.Tracked) (live : mark < store.next)
    (written : edits ≠ []) :
    ((store.edit mark field edits).1.ownSlots mark).filter (fun slot => slot.key ≠ field) =
      (store.ownSlots mark).filter fun slot => slot.key ≠ field := by
  rw [tracked.ownSlots_edit live, Slots.applyEdits_eq_set _ _ written, Slots.filter_set]

theorem Tracked.get?_edit (tracked : store.Tracked) (live : mark < store.next)
    (written : edits ≠ []) :
    ∃ conditions, ((store.edit mark field edits).1.ownSlots mark).get? field =
      some (.plain field (.mapping conditions)) := by
  rw [tracked.ownSlots_edit live, Slots.applyEdits_eq_set _ _ written, Slots.get?_set]
  exact ⟨_, rfl⟩

/-- The operands of a node are kept: their entries, the scopes among them, and the places of all
scopes in the filter of the query. -/
structure KeepsOperands (store later : QueryStore) (mark : Mark) : Prop where
  entries : ∀ slot ∈ store.ownSlots mark, slot.ListsOperands → slot ∈ later.ownSlots mark
  scopes : ∀ scope, findInSlots? scope (later.ownSlots mark) =
    findInSlots? scope (store.ownSlots mark)
  places : ∀ query, store.query? (store.rootOf mark) = some query →
    ∃ changed, later.query? (later.rootOf mark) = some changed ∧
      (changed.tree.chains []).Perm (query.tree.chains [])

theorem KeepsOperands.of_same {later : QueryStore} (same : later = store) :
    store.KeepsOperands later mark := by
  subst same
  exact ⟨fun _ member _ => member, fun _ => rfl, fun query found => ⟨query, found, .refl _⟩⟩

theorem Tracked.keepsOperands_edit (tracked : store.Tracked) (live : mark < store.next)
    (written : edits ≠ []) (free : ¬ (store.ownSlots mark).HoldsOperands field) :
    store.KeepsOperands (store.edit mark field edits).1 mark := by
  have plain := Slots.plainUnder_of_free free
  have own := tracked.ownSlots_edit live field edits
  rw [Slots.applyEdits_eq_set _ _ written] at own
  refine ⟨?_, ?_, ?_⟩
  · intro slot member lists
    rw [own]
    exact Slots.mem_set_of_listsOperands free _ lists member
  · intro scope
    rw [own, Slots.findInSlots?_set plain]
  · intro query found
    have root : (store.edit mark field edits).1.rootOf mark = store.rootOf mark := rfl
    refine ⟨query.update mark fun held => (held.applyEdits field edits).1, ?_, ?_⟩
    · rw [root, edit_of_plain plain, query?_update, if_pos rfl, found]
      rfl
    · have single := tracked.single _ _ found
      have contents := tracked.find?_of_query? live found
      rw [Query.marks_eq] at single
      by_cases inside : mark ∈ query.tree.marks
      · obtain ⟨slots, read⟩ := Option.isSome_iff_exists.mp (find?_isSome_iff.mpr inside)
        rw [Query.find?, read, Option.some_or] at contents
        obtain rfl := Option.some.inj contents
        apply FilterNode.chains_update (List.Nodup.of_append_left single) read
        intro above
        rw [Slots.applyEdits_eq_set _ _ written, Slots.chainsOfSlots_set plain]
      -- A node that was pushed out of the tree earlier is not part of it.
      · rw [Query.update, update_of_not_mem _ inside]

end QueryStore

namespace Session

theorem Change.exists_edits {store later : QueryStore} {mark : Mark} {field : String}
    {operation : FieldOperation}
    (change : Change store (.constrain mark (.text field) operation) later) :
    ∃ edits, edits ≠ [] ∧ later = (store.edit mark field edits).1 := by
  cases change with
  | constrained written => exact ⟨_, FieldOperation.edits_ne_nil written, rfl⟩

/-- An operation on a field leaves all that the node of its query holds under other keys. If it is
accepted, then conditions stand under the field. If the field does not name a combinator whose
operands the node holds, then the operands stay, and so do the scopes in the filter of the query. -/
theorem operations_on_fields_keep_operands {allowed : Call → Prop} {session : Session}
    (reachable : Reachable allowed session) {mark : Mark} (live : mark < session.queries.next)
    (field : String) (operation : FieldOperation) :
    let after := (Call.constrain mark (.text field) operation).after session
    (after.queries.ownSlots mark).filter (fun slot => slot.key ≠ field) =
        (session.queries.ownSlots mark).filter (fun slot => slot.key ≠ field) ∧
      (∀ given, (perform (constrain mark (.text field) operation) session).1 = .ok given →
        ∃ conditions, (after.queries.ownSlots mark).get? field =
          some (.plain field (.mapping conditions))) ∧
      (¬ (session.queries.ownSlots mark).HoldsOperands field →
        session.queries.KeepsOperands after.queries mark) := by
  intro after
  have tracked := reachable.tracked
  have conditioned (given : Mark)
      (accepted : (perform (constrain mark (.text field) operation) session).1 = .ok given) :
      ∃ conditions, (after.queries.ownSlots mark).get? field =
        some (.plain field (.mapping conditions)) := by
    obtain ⟨limit, edits, ready, -, edited, -, shape⟩ :=
      constrain_eq_ok (Prod.ext accepted rfl : _ = (_, after))
    rw [shape]
    exact tracked.get?_edit live (FieldOperation.edits_ne_nil edited)
  rcases (Call.constrain mark (.text field) operation).after_queries session with same | change
  · change after.queries = session.queries at same
    refine ⟨?_, conditioned, ?_⟩ <;> rw [same]
    intro _
    exact .of_same rfl
  · obtain ⟨edits, written, shape⟩ := change.exists_edits
    change after.queries = _ at shape
    refine ⟨?_, conditioned, ?_⟩ <;> rw [shape]
    · exact tracked.filter_edit live written
    · intro free
      exact tracked.keepsOperands_edit live written free

def conjoined : Session :=
  (Call.join 0 .and []).after ((Call.constrain 0 (.text "a") (.equalTo (.int 1))).after
    ((Call.create (.value .null)).after quiet))

def conjunction : Slot :=
  .joined .and [.filter none [.plain "a" (.mapping [(.text "$eq", .int 1)])], .filter (some 1) []]

/-- A condition beside the operands leaves them, and the scope is found among them. -/
theorem condition_keeps_operands :
    let after := (Call.constrain 0 (.text "b") (.equalTo (.int 2))).after conjoined
    conjunction ∈ after.queries.ownSlots 0 ∧
      findInSlots? 1 (after.queries.ownSlots 0) = some [] := by
  intro after
  have reachable : Reachable (fun _ => True) conjoined := by
    refine .call (.call (.call (.start rfl) trivial trivial) ?_ trivial) ⟨?_, by simp⟩ trivial
    · change 0 < _
      cbv
    · cbv
  have live : 0 < conjoined.queries.next := by cbv
  have held : conjoined.queries.ownSlots 0 = [conjunction] := by cbv
  have lists : conjunction.ListsOperands := trivial
  have free : ¬ (conjoined.queries.ownSlots 0).HoldsOperands "b" := by
    rintro ⟨slot, found, -⟩
    have none : (conjoined.queries.ownSlots 0).get? "b" = none := by cbv
    rw [none] at found
    contradiction
  have kept := (operations_on_fields_keep_operands reachable live "b" (.equalTo (.int 2))).2.2 free
  constructor
  · apply kept.entries conjunction ?_ lists
    rw [held]
    exact List.mem_singleton_self _
  · rw [kept.scopes, held]
    cbv

/-- A condition on the combinator takes the place of its operands, and the scope among them does not
reach the query any longer. -/
theorem condition_replaces_operands :
    let replaced := (Call.constrain 0 (.text "$and") (.equalTo (.int 5))).after conjoined
    let written := (Call.constrain 1 (.text "b") (.equalTo (.int 2))).after replaced
    conjoined.queries.ownFilter 0 =
        [(.text "$and", .list [.mapping [(.text "a", .mapping [(.text "$eq", .int 1)])],
          .mapping []])] ∧
      (perform (constrain 0 (.text "$and") (.equalTo (.int 5))) conjoined).1 = .ok 0 ∧
      replaced.queries.ownFilter 0 = [(.text "$and", .mapping [(.text "$eq", .int 5)])] ∧
      written.queries.ownFilter 1 = [(.text "b", .mapping [(.text "$eq", .int 2)])] ∧
      (written.queries.snapshot 1).filter =
        [(.text "$and", .mapping [(.text "$eq", .int 5)])] := by
  refine ⟨?_, ?_, ?_, ?_, ?_⟩ <;> cbv

end Session

end RecordQuery
