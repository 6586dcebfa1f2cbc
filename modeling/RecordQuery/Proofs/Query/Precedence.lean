import RecordQuery.Proofs.Log.Recording
import RecordQuery.Proofs.Query.Spelling

/-!
# The precedence of scope chains

A chain of scopes makes calls on the fields of a query and then, again and again, joins without
operands and makes calls on the fields of the scope that the join gives. The filter of the query is
the tree of the infix expression that the chain writes: its operands are the filters that the calls
give to queries of their own.
-/

namespace RecordQuery

open Session

namespace Session

open RecordQuery.Action

inductive FieldCall where
  | constrain (field : Value) (operation : FieldOperation)
  | order (field : Value) (direction : Direction)

namespace FieldCall

def on (mark : Mark) : FieldCall → Call
  | .constrain field operation => .constrain mark field operation
  | .order field direction => .order mark field direction

def NamesField (call : FieldCall) : Prop := ∀ mark, (call.on mark).NamesFields

/-- What a call writes: the change of the queries, and the change of the contents of the query's own
node. -/
inductive Writes : FieldCall → (Mark → QueryStore → QueryStore) → (Slots → Slots) → Prop where
  | nothing {call : FieldCall} : Writes call (fun _ store => store) id
  | edited {field : String} {operation : FieldOperation} {limit : Int} {edits : List Edit} :
      operation.edits limit = .ok edits →
      Writes (.constrain (.text field) operation) (fun mark store => (store.edit mark field edits).1)
        fun slots => (slots.applyEdits field edits).1
  | ordered {field : String} {direction : Direction} :
      Writes (.order (.text field) direction)
        (fun mark store => store.setDirection mark field direction) id

/-- A call writes the same on any query, whatever other queries there are. -/
theorem exists_writes (call : FieldCall) (session : Session) :
    ∃ write revise left, call.Writes write revise ∧ left.context = session.context ∧
      ∀ mark store, (call.on mark).after (session.withQueries store) =
        Session.withQueries left (write mark store) := by
  cases call with
  | constrain field operation =>
      have frame := (apart_checkedEdits field operation).frame session
      have context := (apart_checkedEdits field operation).context session
      rcases checked : Action.perform (checkedEdits field operation) session with
        ⟨failure | ⟨name, edits⟩, left⟩ <;> rw [checked] at context
      · refine ⟨_, _, left, .nothing, context, ?_⟩
        intro mark store
        rw [on, Call.after, perform_constrain, frame, checked]
      · obtain ⟨rfl, limit, edited⟩ := checkedEdits_eq_ok checked
        refine ⟨_, _, left, .edited edited, context, ?_⟩
        intro mark store
        rw [on, Call.after, perform_constrain, frame, checked]
        rfl
  | order field direction =>
      cases named : FieldOperation.fieldName field with
      | error failure =>
          refine ⟨_, _, session, .nothing, rfl, ?_⟩
          intro mark store
          rw [on, Call.after, perform_order, named]
      | ok name =>
          obtain rfl := fieldName_eq_ok named
          refine ⟨_, _, session, .ordered, rfl, ?_⟩
          intro mark store
          rw [on, Call.after, perform_order, named]
          rfl

namespace Writes

variable {call : FieldCall} {write : Mark → QueryStore → QueryStore} {revise : Slots → Slots}
  {store : QueryStore} {mark : Mark}

theorem tracked (writes : call.Writes write revise) (tracked : store.Tracked)
    (live : mark < store.next) : (write mark store).Tracked := by
  cases writes with
  | nothing => exact tracked
  | edited written => exact tracked.edit live _ (FieldOperation.edits_ne_nil written)
  | ordered => exact tracked.setState _ fun _ => ⟨rfl, rfl, rfl⟩

theorem next_eq (writes : call.Writes write revise) : (write mark store).next = store.next := by
  cases writes <;> rfl

theorem rootOf_eq (writes : call.Writes write revise) (other : Mark) :
    (write mark store).rootOf other = store.rootOf other := by
  cases writes <;> rfl

theorem ownSlots (writes : call.Writes write revise) (named : call.NamesField)
    (tracked : store.Tracked) (live : mark < store.next) :
    (write mark store).ownSlots mark = revise (store.ownSlots mark) := by
  cases writes with
  | nothing => rfl
  | edited written => exact tracked.ownSlots_edit live _ _
  | ordered => exact store.ownSlots_setState _ (QueryStore.setsState_direction _ _) _

/-- A call on the latest scope leaves the operands that wait as they are. -/
theorem spells (writes : call.Writes write revise) (named : call.NamesField)
    (tracked : store.Tracked) {pending : Expression.Pending} {filter : Entries} {query : Query}
    {layers : Surroundings} {slots : Slots}
    (spells : store.Spells mark pending (.filter filter) query layers slots) :
    ∃ query, (write mark store).Spells mark pending (.filter (revise slots).toEntries) query layers
      (revise slots) := by
  cases writes with
  | nothing => exact ⟨query, { spells with node := rfl }⟩
  | @edited field operation limit edits written =>
      have proper : (Call.constrain mark (.text field) operation).Proper store := spells.live
      have found : (store.edit mark field edits).1.query? (store.rootOf mark) =
          some (query.update mark fun slots => (slots.applyEdits field edits).1) := by
        rw [store.edit_of_field mark (Call.NamesFields.key_ne (named mark)),
          QueryStore.query?_update, if_pos rfl, spells.found]
        rfl
      have embeds := spells.embeds.after_change tracked spells.found proper (named mark)
        (.constrained written) found
      have live : mark < (store.edit mark field edits).1.next := spells.live
      exact ⟨_, spells.rewrite tracked live rfl found embeds⟩
  | @ordered field direction =>
      have proper : (Call.order mark (.text field) direction).Proper store := spells.live
      have found := QueryStore.query?_change store mark
        (fun query => { query with sort := query.sort.set field direction }) (fun _ => rfl)
        (store.rootOf mark)
      rw [if_pos rfl, spells.found] at found
      have embeds := spells.embeds.after_change tracked spells.found proper trivial .ordered found
      exact ⟨_, spells.live, found, embeds, spells.shape, rfl, spells.waits⟩

end Writes

end FieldCall

/-- The session after calls on one query in turn, whether they fail or not. -/
def afterAll (mark : Mark) (calls : List FieldCall) (session : Session) : Session :=
  calls.foldl (fun session call => (call.on mark).after session) session

/-- The filter that calls give to a query of their own. -/
def alone (calls : List FieldCall) (session : Session) : Entries :=
  let created := (Call.create (.value .null)).after session
  (afterAll session.queries.next calls created).queries.ownFilter session.queries.next

/-- Calls give nodes with the same contents the same filter, whatever other queries there are. -/
theorem ownFilter_afterAll {calls : List FieldCall} (named : ∀ call ∈ calls, call.NamesField)
    (session : Session) {store beside : QueryStore} {mark other : Mark}
    (tracked : store.Tracked) (live : mark < store.next)
    (trackedBeside : beside.Tracked) (liveBeside : other < beside.next)
    (same : store.ownSlots mark = beside.ownSlots other) :
    (afterAll mark calls (session.withQueries store)).queries.ownFilter mark =
      (afterAll other calls (session.withQueries beside)).queries.ownFilter other := by
  induction calls generalizing session store beside with
  | nil => exact congrArg Slots.toEntries same
  | cons call rest inductionHypothesis =>
      have own := named call List.mem_cons_self
      obtain ⟨write, revise, left, writes, -, performed⟩ := call.exists_writes session
      rw [afterAll, afterAll, List.foldl_cons, List.foldl_cons, performed, performed]
      refine inductionHypothesis (fun next member => named next (List.mem_cons_of_mem _ member))
        left (writes.tracked tracked live) ?_ (writes.tracked trackedBeside liveBeside) ?_ ?_
      · rwa [writes.next_eq]
      · rwa [writes.next_eq]
      · rw [writes.ownSlots own tracked live, writes.ownSlots own trackedBeside liveBeside, same]

/-- Joins without operands, each on the scope that the last one gave and followed by calls on its
own scope. The result lists the combinators, with the filters that the calls give to queries of
their own. -/
def chain (mark : Mark) : List (Combinator × List FieldCall) → Action (List (Combinator × Entries))
  | [] => return []
  | (combinator, calls) :: steps => do
      let scope ← join mark combinator []
      let filter := alone calls (← get)
      modify (afterAll scope calls)
      let links ← chain scope steps
      return (combinator, filter) :: links

/-- Calls on a new query and then a chain of scopes. The result is the query, and the filters and
combinators that the chain writes. -/
def scopeChain (calls : List FieldCall) (steps : List (Combinator × List FieldCall)) :
    Action (Mark × Entries × List (Combinator × Entries)) := do
  let filter := alone calls (← get)
  let root ← create (.value .null)
  modify (afterAll root calls)
  let links ← chain root steps
  return (root, filter, links)

/-- The latest scope of a chain: operands wait for what its node holds. -/
structure Reaches (store : QueryStore) (root mark : Mark) (pending : Expression.Pending)
    (slots : Slots) : Prop where
  tracked : store.Tracked
  root : store.rootOf mark = root
  spells : ∃ query layers, store.Spells mark pending (.filter slots.toEntries) query layers slots

namespace Reaches

variable {session : Session} {root mark : Mark} {pending : Expression.Pending} {slots : Slots}

theorem live {store : QueryStore} (reaches : Reaches store root mark pending slots) :
    mark < store.next := by
  obtain ⟨query, layers, spells⟩ := reaches.spells
  exact spells.live

theorem ownSlots_eq {store : QueryStore} (reaches : Reaches store root mark pending slots) :
    store.ownSlots mark = slots := by
  obtain ⟨query, layers, spells⟩ := reaches.spells
  exact (spells.embeds.of_fill reaches.tracked spells.found spells.shape).2.2

theorem filter_root {store : QueryStore} (reaches : Reaches store root mark pending slots) :
    (store.snapshot root).filter =
      (Expression.finish pending (.filter slots.toEntries)).toEntries := by
  obtain ⟨query, layers, spells⟩ := reaches.spells
  have found : store.query? (store.rootOf root) = some query := by
    rw [← reaches.root, reaches.tracked.rootOf_rootOf spells.live, spells.found]
  have tree := (QueryStore.snapshot_filter found).trans (spells.toValue_tree reaches.tracked)
  exact Value.mapping.inj tree

theorem after (reaches : Reaches session.queries root mark pending slots) {call : FieldCall}
    (named : call.NamesField) :
    ∃ slots, Reaches ((call.on mark).after session).queries root mark pending slots := by
  obtain ⟨query, layers, spells⟩ := reaches.spells
  obtain ⟨write, revise, left, writes, -, performed⟩ := call.exists_writes session
  obtain ⟨later, spellsAfter⟩ := writes.spells named reaches.tracked spells
  have queries : ((call.on mark).after session).queries = write mark session.queries :=
    congrArg Session.queries (performed mark session.queries)
  rw [queries]
  exact ⟨_, writes.tracked reaches.tracked spells.live, by rw [writes.rootOf_eq, reaches.root],
    later, layers, spellsAfter⟩

theorem exists_afterAll {calls : List FieldCall} (named : ∀ call ∈ calls, call.NamesField)
    (reaches : Reaches session.queries root mark pending slots) :
    ∃ slots, Reaches (afterAll mark calls session).queries root mark pending slots := by
  induction calls generalizing session slots with
  | nil => exact ⟨slots, reaches⟩
  | cons call rest inductionHypothesis =>
      obtain ⟨changed, after⟩ := reaches.after (named call List.mem_cons_self)
      exact inductionHypothesis (fun next member => named next (List.mem_cons_of_mem _ member)) after

/-- Calls on an empty scope leave the filter that they give to a query of their own. -/
theorem afterAll {calls : List FieldCall} (named : ∀ call ∈ calls, call.NamesField)
    (reaches : Reaches session.queries root mark pending []) :
    ∃ slots, slots.toEntries = alone calls session ∧
      Reaches (afterAll mark calls session).queries root mark pending slots := by
  obtain ⟨slots, after⟩ := reaches.exists_afterAll named
  refine ⟨slots, ?_, after⟩
  have tracked := reaches.tracked
  have same := ownFilter_afterAll named session tracked reaches.live (tracked.create .empty)
    (Nat.lt_succ_self _) (by rw [reaches.ownSlots_eq, tracked.ownSlots_create]; rfl)
  rw [← after.ownSlots_eq]
  exact same

theorem create {store : QueryStore} (tracked : store.Tracked) :
    Reaches (store.create .empty).1 store.next store.next [] [] := by
  refine ⟨tracked.create .empty, tracked.rootOf_create .empty, Query.ofSnapshot store.next .empty,
    [], Nat.lt_succ_self _, ?_, .ofSnapshot tracked .empty, rfl, rfl, .nil⟩
  rw [tracked.rootOf_create, tracked.query?_create_next]

theorem join {store : QueryStore} (reaches : Reaches store root mark pending slots)
    (next : Combinator) :
    let closed := Expression.close next pending (.filter slots.toEntries)
    Reaches (store.openScope (store.target next mark) next).1 root store.next
      ((next, closed.2) :: closed.1) [] := by
  obtain ⟨query, layers, spells⟩ := reaches.spells
  have live := reaches.tracked.target_lt next spells.live
  refine ⟨reaches.tracked.openScope live next, ?_, spells.openScope reaches.tracked next⟩
  rw [reaches.tracked.rootOf_openScope live, reaches.tracked.rootOf_target next spells.live,
    reaches.root]

end Reaches

theorem join_eq_ok {session opened : Session} {mark scope : Mark} {combinator : Combinator}
    (joined : perform (join mark combinator []) session = (.ok scope, opened)) :
    scope = session.queries.next ∧ opened.queries =
      (session.queries.openScope (session.queries.target combinator mark) combinator).1 := by
  have queries := queries_recordJoin (session.queries.target combinator mark) combinator 2
    (session.withQueries
      (session.queries.openScope (session.queries.target combinator mark) combinator).1)
  rw [join, perform_openScope] at joined
  obtain ⟨result, rfl⟩ := Prod.mk.inj joined
  refine ⟨?_, queries⟩
  rcases recorded : perform (recordJoin _ combinator 2) _ with ⟨failure | _, after⟩ <;>
    rw [recorded] at result
  · contradiction
  · exact (Except.ok.inj result).symm

theorem chain_reaches {steps : List (Combinator × List FieldCall)}
    (named : ∀ step ∈ steps, ∀ call ∈ step.2, call.NamesField) {session last : Session}
    {root mark : Mark} {pending : Expression.Pending} {slots : Slots}
    (reaches : Reaches session.queries root mark pending slots)
    {links : List (Combinator × Entries)}
    (performed : perform (chain mark steps) session = (.ok links, last)) :
    let read := Expression.advance pending slots.toEntries links
    ∃ scope slots, slots.toEntries = read.2 ∧ Reaches last.queries root scope read.1 slots := by
  induction steps generalizing session mark pending slots links with
  | nil =>
      obtain ⟨rfl, rfl⟩ : links = [] ∧ session = last := by
        simpa [chain, eq_comm] using performed
      exact ⟨mark, slots, rfl, reaches⟩
  | cons step rest inductionHypothesis =>
      rcases step with ⟨combinator, calls⟩
      obtain ⟨scope, opened, joined, performed⟩ := perform_bind_ok performed
      obtain ⟨_, _, observed, performed⟩ := perform_bind_ok performed
      obtain ⟨rfl, rfl⟩ : opened = _ ∧ opened = _ := by simpa using observed
      obtain ⟨_, written, called, performed⟩ := perform_bind_ok performed
      obtain rfl : afterAll scope calls opened = written := by simpa using called
      obtain ⟨others, after, chained, performed⟩ := perform_bind_ok performed
      obtain ⟨rfl, rfl⟩ : _ = links ∧ after = last := by simpa using performed
      obtain ⟨rfl, queries⟩ := join_eq_ok joined
      have opening := reaches.join combinator
      rw [← queries] at opening
      obtain ⟨contents, same, reachesScope⟩ :=
        opening.afterAll (named (combinator, calls) List.mem_cons_self)
      have rest := inductionHypothesis
        (fun other member => named other (List.mem_cons_of_mem _ member)) reachesScope chained
      rwa [same] at rest

theorem context_afterAll (mark : Mark) (calls : List FieldCall) (session : Session) :
    (afterAll mark calls session).context = session.context := by
  induction calls generalizing session with
  | nil => rfl
  | cons call rest inductionHypothesis =>
      obtain ⟨write, revise, left, -, context, performed⟩ := call.exists_writes session
      have after := congrArg Session.context (performed mark session.queries)
      exact (inductionHypothesis _).trans (after.trans context)

theorem recordJoin_succeeds {session : Session} (recordable : Log.Recordable session.context)
    (mark : Mark) (combinator : Combinator) (operands : Nat) :
    ∃ after, perform (recordJoin mark combinator operands) session = (.ok (), after) ∧
      after.context = session.context := by
  rw [perform_recordJoin]
  exact ⟨_, Prod.ext (joinFields_recorded recordable _ _ _) rfl,
    (Log.apart_record _ _ _ _).context session⟩

/-- A join without operands fails only if the context of log entries cannot be recorded. -/
theorem join_succeeds {session : Session} (recordable : Log.Recordable session.context)
    (mark : Mark) (combinator : Combinator) :
    ∃ opened, perform (join mark combinator []) session = (.ok session.queries.next, opened) ∧
      opened.context = session.context := by
  obtain ⟨after, recorded, context⟩ :=
    @recordJoin_succeeds (session.withQueries (session.queries.openScope
      (session.queries.target combinator mark) combinator).1) recordable
      (session.queries.target combinator mark) combinator 2
  rw [join, perform_openScope]
  simp only [recorded]
  exact ⟨after, rfl, context⟩

theorem chain_succeeds {session : Session} (recordable : Log.Recordable session.context)
    (mark : Mark) (steps : List (Combinator × List FieldCall)) :
    ∃ links last, perform (chain mark steps) session = (.ok links, last) := by
  induction steps generalizing session mark with
  | nil => exact ⟨[], session, rfl⟩
  | cons step rest inductionHypothesis =>
      rcases step with ⟨combinator, calls⟩
      obtain ⟨opened, joined, context⟩ := join_succeeds recordable mark combinator
      have kept : (afterAll session.queries.next calls opened).context = session.context :=
        (context_afterAll _ _ _).trans context
      rw [← kept] at recordable
      obtain ⟨links, last, chained⟩ := inductionHypothesis recordable session.queries.next
      refine ⟨(combinator, alone calls opened) :: links, last, ?_⟩
      simp only [chain, perform_bind, joined, perform_get, perform_modify, chained, perform_pure]

/-- The filter of a query after a chain of scopes is the tree of the infix expression that the chain
writes, in which the conjunction binds tighter than the joint denial and the latter tighter than the
disjunction. No chain fails, unless the context of log entries cannot be recorded. -/
theorem scope_chains_write_expressions {session : Session}
    (reachable : Reachable (fun _ => True) session) {calls : List FieldCall}
    {steps : List (Combinator × List FieldCall)} (named : ∀ call ∈ calls, call.NamesField)
    (stepsNamed : ∀ step ∈ steps, ∀ call ∈ step.2, call.NamesField) :
    (∀ root filter links last,
      perform (scopeChain calls steps) session = (.ok (root, filter, links), last) →
      ∃ tree, (∀ other, Expression.Reads .or filter links other ↔ other = tree) ∧
        (last.queries.snapshot root).filter = tree.toEntries) ∧
    (Log.Recordable session.context →
      ∃ written last, perform (scopeChain calls steps) session = (.ok written, last)) := by
  have created : perform (create (.value .null)) session = (.ok session.queries.next,
      session.withQueries (session.queries.create .empty).1) := perform_create _ _
  constructor
  · intro root filter links last performed
    simp only [scopeChain, perform_bind, perform_get, created, perform_modify] at performed
    have new : Reaches (session.withQueries (session.queries.create .empty).1).queries
      session.queries.next session.queries.next [] [] := .create reachable.tracked
    obtain ⟨slots, written⟩ := new.exists_afterAll named
    have own : slots.toEntries = alone calls session := by
      rw [← written.ownSlots_eq]
      rfl
    rcases chained : perform (chain session.queries.next steps) (afterAll session.queries.next calls
      (session.withQueries (session.queries.create .empty).1)) with ⟨failure | others, after⟩ <;>
        rw [chained] at performed
    · simp at performed
    · obtain ⟨⟨rfl, rfl, rfl⟩, rfl⟩ : (session.queries.next = root ∧ alone calls session = filter ∧
          others = links) ∧ after = last := by simpa using performed
      obtain ⟨scope, contents, latest, reaches⟩ := chain_reaches stepsNamed written chained
      refine ⟨Expression.built (alone calls session) others, ?_, ?_⟩
      · intro other
        rw [Expression.reads_iff, eq_comm]
      · rw [reaches.filter_root, latest, own]
        rfl
  · intro recordable
    have kept := context_afterAll session.queries.next calls
      (session.withQueries (session.queries.create .empty).1)
    rw [context_withQueries] at kept
    rw [← kept] at recordable
    obtain ⟨links, last, chained⟩ := chain_succeeds recordable session.queries.next steps
    refine ⟨(session.queries.next, alone calls session, links), last, ?_⟩
    simp only [scopeChain, perform_bind, perform_get, created, perform_modify, chained,
      perform_pure]

def FieldCall.isOne (field : String) : FieldCall :=
  .constrain (.text field) (.equalTo (.int 1))

theorem FieldCall.namesField_isOne {field : String} (plain : field.toList.head? ≠ some '$') :
    (isOne field).NamesField := by
  intro mark combinator same
  rw [Value.text.inj same] at plain
  cases combinator <;> exact plain rfl

def oneAt (field : String) : Entries := [(.text field, .mapping [(.text "$eq", .int 1)])]

def mixedSteps : List (Combinator × List FieldCall) :=
  [(.or, [.isOne "b"]), (.and, [.isOne "c"]), (.nor, [.isOne "d"])]

theorem disjunction_holds_denied_conjunction : ∃ root links last,
    perform (scopeChain [.isOne "a"] mixedSteps) (Session.start "") =
      (.ok (root, oneAt "a", links), last) ∧
    (last.queries.snapshot root).filter =
      [(.text "$or", .list [.mapping (oneAt "a"), .mapping [(.text "$nor", .list [
        .mapping [(.text "$and", .list [.mapping (oneAt "b"), .mapping (oneAt "c")])],
        .mapping (oneAt "d")])]])] := by
  have plain {field : String} (listed : field ∈ ["a", "b", "c", "d"]) :
      (FieldCall.isOne field).NamesField := by
    refine FieldCall.namesField_isOne ?_
    simp only [List.mem_cons, List.not_mem_nil, or_false] at listed
    rcases listed with rfl | rfl | rfl | rfl <;> simp
  have spelled := @scope_chains_write_expressions (Session.start "") (.start rfl) [.isOne "a"]
    mixedSteps (by simpa using plain (by simp))
    (by simpa [mixedSteps] using ⟨plain (by simp), plain (by simp), plain (by simp)⟩)
  have performed : (perform (scopeChain [.isOne "a"] mixedSteps) (Session.start "")).1 =
      .ok (0, oneAt "a", [(.or, oneAt "b"), (.and, oneAt "c"), (.nor, oneAt "d")]) := by
    cbv
  obtain ⟨tree, unique, filter⟩ := spelled.1 _ _ _ _ (Prod.ext performed rfl)
  refine ⟨0, _, _, Prod.ext performed rfl, filter.trans ?_⟩
  have reads : Expression.Reads .or (oneAt "a")
      [(.or, oneAt "b"), (.and, oneAt "c"), (.nor, oneAt "d")]
      (.joined .or (.filter (oneAt "a")) (.joined .nor
        (.joined .and (.filter (oneAt "b")) (.filter (oneAt "c"))) (.filter (oneAt "d")))) :=
    @Expression.Reads.or _ _ [] _ _ _ (.ofNor (.ofAnd .alone))
      (@Expression.Reads.nor _ _ [(.and, oneAt "c")] _ _ _ (.and .alone) (.ofAnd .alone))
  rw [← (unique _).mp reads]
  rfl

end Session

end RecordQuery
