import RecordQuery.Proofs.Store.Embedded
import RecordQuery.Proofs.Value.Sameness
import RecordQuery.Query.Processing

/-!
# Scopes share the whole query

The owners of a mark lead step by step to one root, and of all the marks on the way only the root
holds a query. What is read from a mark or set at it, apart from the contents of its own node, is
read from the root or set there: two marks with the same root cannot be told apart in this way.
-/

namespace RecordQuery

open RecordQuery.Action

namespace QueryStore

variable {store later : QueryStore}

/-- A walk from a mark along owners. A scope is younger than its owner and holds no query; the walk
ends at a mark that has no owner and holds a query. -/
inductive LeadsTo (store : QueryStore) : Mark → Mark → Prop where
  | root {mark : Mark} :
      store.owner? mark = none → (store.query? mark).isSome → LeadsTo store mark mark
  | scope {mark owner root : Mark} :
      store.owner? mark = some owner → owner < mark → store.query? mark = none →
      LeadsTo store owner root → LeadsTo store mark root

/-- Owners are older than their scopes, and what holds a query has no owner. -/
structure Rooted (store : QueryStore) : Prop where
  older : ∀ mark < store.next, ∀ owner ∈ store.ownersOf mark, owner < mark
  unowned : ∀ root query, store.query? root = some query → store.ownersOf root = []

/-- A change gives out no mark and leaves all owners, or it gives out one mark that only older ones
own. -/
theorem Tracked.owners_of_change (tracked : store.Tracked) {call : Session.Call}
    (proper : call.Proper store) (change : Session.Change store call later) :
    (later.next = store.next ∧ ∀ mark, later.ownersOf mark = store.ownersOf mark) ∨
      later.next = store.next + 1 ∧ ∃ chain, (∀ owner ∈ chain, owner < store.next) ∧
        ∀ mark, later.ownersOf mark =
          if mark = store.next then chain else store.ownersOf mark := by
  cases change with
  | @created _ snapshot _ => exact .inr ⟨rfl, [], by simp, tracked.ownersOf_create snapshot⟩
  | constrained _ => exact .inl ⟨rfl, fun _ => rfl⟩
  | ordered => exact .inl ⟨rfl, fun _ => rfl⟩
  | assigned _ => exact .inl ⟨rfl, fun _ => rfl⟩
  | joined _ _ => exact .inl ⟨rfl, fun _ => rfl⟩
  | @opened mark combinator =>
      have live := tracked.target_lt combinator proper.1
      refine .inr ⟨rfl, _, ?_, tracked.ownersOf_openScope _ combinator⟩
      exact List.forall_mem_cons.mpr ⟨live, tracked.ownersOf_lt live⟩

theorem Rooted.of_change (rooted : store.Rooted) (tracked : store.Tracked) {call : Session.Call}
    (proper : call.Proper store) (change : Session.Change store call later) : later.Rooted := by
  have kept {mark : Mark} (live : mark < store.next) :
      later.ownersOf mark = store.ownersOf mark := by
    rcases tracked.owners_of_change proper change with ⟨-, same⟩ | ⟨-, chain, -, extended⟩
    · exact same mark
    · rw [extended, if_neg (Nat.ne_of_lt live)]
  constructor
  · intro mark live owner owns
    rcases tracked.owners_of_change proper change with ⟨next, -⟩ | ⟨next, chain, old, extended⟩
    · rw [next] at live
      rw [kept live] at owns
      exact rooted.older mark live owner owns
    · rcases Nat.lt_succ_iff_lt_or_eq.mp (next ▸ live) with live | rfl
      · rw [kept live] at owns
        exact rooted.older mark live owner owns
      · rw [extended, if_pos rfl] at owns
        exact old owner owns
  · intro root query found
    rcases query?_of_change tracked change found with ⟨before, held⟩ | ⟨rfl, snapshot, rfl⟩
    · rw [kept (tracked.rooted root before held)]
      exact rooted.unowned root before held
    · rw [tracked.ownersOf_create, if_pos rfl]

theorem Rooted.empty : QueryStore.empty.Rooted := by
  constructor <;> simp [QueryStore.empty, query?]

theorem owner?_of_root {mark : Mark} (root : store.ownersOf mark = []) :
    store.owner? mark = none := by rw [owner?, root, List.head?_nil]

theorem owner?_of_scope {mark owner : Mark} {rest : List Mark}
    (scope : store.ownersOf mark = owner :: rest) : store.owner? mark = some owner := by
  rw [owner?, scope, List.head?_cons]

/-- Every walk from a mark ends at its root. -/
theorem Rooted.leadsTo (rooted : store.Rooted) (tracked : store.Tracked) {mark : Mark}
    (live : mark < store.next) : store.LeadsTo mark (store.rootOf mark) := by
  refine tracked.induct (motive := fun mark => store.LeadsTo mark (store.rootOf mark)) ?_ ?_ live
  · intro mark live root
    obtain ⟨query, found, -⟩ := tracked.held mark live
    rw [rootOf_of_root root] at found ⊢
    exact .root (owner?_of_root root) (by simp [found])
  · intro mark live owner _ scope walk
    rw [rootOf_of_scope scope]
    refine .scope (owner?_of_scope scope) (rooted.older mark live owner (by simp [scope])) ?_ walk
    refine Option.eq_none_iff_forall_ne_some.mpr fun query found => ?_
    simp [rooted.unowned mark query found] at scope

theorem LeadsTo.unique {mark root other : Mark} (walk : store.LeadsTo mark root)
    (second : store.LeadsTo mark other) : root = other := by
  induction walk with
  | root none _ =>
      cases second with
      | root _ _ => rfl
      | scope owner _ _ _ => simp [none] at owner
  | scope owner _ _ _ inductionHypothesis =>
      cases second with
      | root none _ => simp [owner] at none
      | scope same _ _ rest =>
          obtain rfl := Option.some.inj (owner.symm.trans same)
          exact inductionHypothesis rest

end QueryStore

theorem Session.Reachable.rooted {allowed : Call → Prop} {session : Session}
    (reachable : Reachable allowed session) : session.queries.Rooted :=
  (reachable.invariant (fun store => store.Rooted ∧ store.Tracked) ⟨.empty, .empty⟩
    fun _ _ _ before proper _ change => ⟨before.1.of_change before.2 proper change,
      before.2.of_change proper change⟩).1

namespace QueryStore

variable {store : QueryStore} {mark other : Mark}

theorem snapshot_congr (same : store.rootOf mark = store.rootOf other) :
    store.snapshot mark = store.snapshot other := by rw [snapshot, snapshot, same]

theorem change_congr (same : store.rootOf mark = store.rootOf other) (revise : Query → Query) :
    store.change mark revise = store.change other revise := by rw [change, change, same]

end QueryStore

namespace Session

variable {session : Session} {mark other : Mark}

theorem perform_unsupportedOperators (mark : Mark) (session : Session) :
    perform (unsupportedOperators mark) session =
      match perform Settings.shared session with
      | (.ok settings, after) =>
          (settings.unsupportedOperators.bind fun operators =>
            Filter.occurring settings.recursiveCheck operators
              (session.queries.snapshot mark).filter, after)
      | (.error failure, after) => (.error failure, after) := by
  rw [unsupportedOperators, perform_bind]
  rcases loaded : perform Settings.shared session with ⟨_ | settings, after⟩
  · rfl
  · have kept : after.queries = session.queries := by
      rw [← Settings.apart_shared.queries session, loaded]
    rw [← kept]
    cases listed : settings.unsupportedOperators <;>
      simp only [perform_bind, perform_lift, perform_get, listed] <;> rfl

theorem state_unsupportedOperators (mark : Mark) (session : Session) :
    (perform (unsupportedOperators mark) session).2 = (perform Settings.shared session).2 := by
  rw [perform_unsupportedOperators]
  rcases perform Settings.shared session with ⟨_ | settings, after⟩ <;> rfl

theorem apart_refusal (operators : List Value) : Apart (do
    Log.record evaluator .error "offline_query_unsupported" [(.text "operators", .list operators)]
    match Argument.texts? operators with
    | some names => throw (.query (.unsupportedOffline names))
    | none => throw .mismatch : Action Unit) := by
  refine .bind (Log.apart_record _ _ _ _) fun _ => ?_
  split <;> exact .throw _

/-- Asking for support changes no query and nothing that entries of the log carry. -/
theorem requireSupport_keeps (mark : Mark) (session : Session) :
    (perform (requireSupport mark) session).2.queries = session.queries ∧
      (perform (requireSupport mark) session).2.carried = session.carried := by
  have asked := state_unsupportedOperators mark session
  rw [requireSupport, perform_bind, ← Settings.apart_shared.queries session,
    ← Settings.apart_shared.carried session, ← asked]
  rcases perform (unsupportedOperators mark) session with ⟨_ | _ | ⟨operator, rest⟩, after⟩
  · exact ⟨rfl, rfl⟩
  · exact ⟨rfl, rfl⟩
  · have refused := apart_refusal (operator :: rest)
    exact ⟨refused.queries after, refused.carried after⟩

/-- What is read from two marks is the same, the outcome of an evaluation and all that it leaves
included, and the marks are equal as queries. -/
structure AnswersAlike (session : Session) (mark other : Mark) : Prop where
  snapshot : perform (snapshot mark) session = perform (snapshot other) session
  parameters : perform (parameters mark) session = perform (parameters other) session
  text : perform (text mark) session = perform (text other) session
  display : perform (display mark) session = perform (display other) session
  unsupported : perform (unsupportedOperators mark) session =
    perform (unsupportedOperators other) session
  process : ∀ records, process mark records session = process other records session
  same : session.queries.same mark other = true
  equal : (Value.mapping (session.queries.snapshot mark).toEntries).equal
    (.mapping (session.queries.snapshot other).toEntries) = true

/-- What is set at two marks, or joined by the loosest combinator, is set at the root of both. A
scope that is opened in this way belongs to the root. -/
structure ActsAlike (session : Session) (mark other : Mark) : Prop where
  assign : ∀ setting, perform (assign mark setting) session = perform (assign other setting) session
  order : ∀ field direction,
    (Call.order mark field direction).after session =
      (Call.order other field direction).after session
  join : ∀ operands, perform (join mark .or operands) session =
    perform (join other .or operands) session
  opened : ((Call.join mark .or []).after session).queries.ownersOf session.queries.next =
    [session.queries.rootOf mark]

theorem unsupportedOperators_congr
    (same : session.queries.rootOf mark = session.queries.rootOf other) :
    perform (unsupportedOperators mark) session = perform (unsupportedOperators other) session := by
  rw [perform_unsupportedOperators, perform_unsupportedOperators, QueryStore.snapshot_congr same]

theorem process_congr (same : session.queries.rootOf mark = session.queries.rootOf other)
    (records : Value) : process mark records session = process other records session := by
  have required : perform (requireSupport mark) session =
      perform (requireSupport other) session := by
    rw [requireSupport, requireSupport, perform_bind, perform_bind, unsupportedOperators_congr same]
  rw [process, process, required]
  rcases checked : perform (requireSupport other) session with ⟨_ | _, after⟩
  · rfl
  · have kept : after.queries = session.queries := by
      rw [← (requireSupport_keeps other session).1, checked]
    rw [← kept] at same
    have evaluated (container : Value) (items : List Value) :
        processItems mark container items after = processItems other container items after := by
      rw [processItems, processItems, QueryStore.snapshot_congr same]
    simp only [evaluated]

theorem answersAlike (same : session.queries.rootOf mark = session.queries.rootOf other) :
    AnswersAlike session mark other := by
  have snapshots : perform (snapshot mark) session = perform (snapshot other) session := by
    simp only [snapshot, perform_bind, perform_get, perform_pure, QueryStore.snapshot_congr same]
  have through {α : Type} (next : Snapshot → Action α) :
      perform (snapshot mark >>= next) session = perform (snapshot other >>= next) session := by
    rw [perform_bind, perform_bind, snapshots]
  refine ⟨snapshots, through _, through _, through _, unsupportedOperators_congr same,
    process_congr same, ?_, ?_⟩
  · rw [QueryStore.same, same, beq_self_eq_true, Bool.true_or]
  · rw [QueryStore.snapshot_congr same]
    exact Value.same_refl _

theorem actsAlike (tracked : session.queries.Tracked) (live : mark < session.queries.next)
    (same : session.queries.rootOf mark = session.queries.rootOf other) :
    ActsAlike session mark other := by
  have target : session.queries.target .or mark = session.queries.target .or other := same
  constructor
  · intro setting
    rw [perform_assign, perform_assign]
    cases QueryStore.settingChange setting with
    | error failure => rfl
    | ok revise => simp only [QueryStore.change_congr same]
  · intro field direction
    rw [Call.after, Call.after, perform_order, perform_order]
    cases FieldOperation.fieldName field with
    | error failure => rfl
    | ok name => simp only [QueryStore.setDirection, QueryStore.change_congr same]
  · intro operands
    cases operands with
    | nil =>
        simp only [join]
        rw [perform_openScope, perform_openScope, target]
    | cons operand rest =>
        have joined (mark : Mark) :
            join mark .or (operand :: rest) = joinWith mark .or (operand :: rest) := rfl
        rw [joined, joined, perform_joinWith, perform_joinWith, target]
  · rw [Call.after, join, perform_openScope, queries_recordJoin]
    change ((session.queries.openScope _ _).1).ownersOf session.queries.next = _
    rw [tracked.ownersOf_openScope, if_pos rfl]
    exact congrArg _ (tracked.ownersOf_rootOf live)

/-- A scope is the whole query for everything but its own node. The owners of a mark lead to one
root, which alone holds the query; marks with the same root answer alike and act alike. -/
theorem scopes_share_whole_query {session : Session}
    (reachable : Reachable (fun _ => True) session) :
    (∀ mark < session.queries.next, ∀ root,
      session.queries.LeadsTo mark root ↔ root = session.queries.rootOf mark) ∧
    ∀ mark < session.queries.next, ∀ other < session.queries.next,
      session.queries.rootOf mark = session.queries.rootOf other →
        AnswersAlike session mark other ∧ ActsAlike session mark other := by
  have tracked := reachable.tracked
  constructor
  · intro mark live root
    have walk := reachable.rooted.leadsTo tracked live
    constructor
    · intro second
      exact second.unique walk
    · rintro rfl
      exact walk
  · intro mark live other _ same
    exact ⟨answersAlike same, actsAlike tracked live same⟩

/-- A query with a scope that a conjunction opened, and a scope of that scope. -/
def scopedTwice : Session :=
  (Call.join 1 .and []).after
    ((Call.join 0 .and []).after ((Call.create (.value .null)).after (Session.start "")))

theorem scope_of_scope_shares_query_with_root :
    scopedTwice.queries.ownersOf 2 = [1, 0] ∧ scopedTwice.queries.LeadsTo 2 0 ∧
      AnswersAlike scopedTwice 2 0 ∧ ActsAlike scopedTwice 2 0 := by
  have reachable : Reachable (fun _ => True) scopedTwice := by
    refine .call (.call (.call (.start rfl) ?_ trivial) ⟨?_, by simp⟩ trivial) ⟨?_, by simp⟩ trivial
    · trivial
    · decide +kernel
    · decide +kernel
  have all := scopes_share_whole_query reachable
  have alike := all.2 2 (by decide +kernel) 0 (by decide +kernel) (by decide +kernel)
  have owners : scopedTwice.queries.ownersOf 2 = [1, 0] := by decide +kernel
  exact ⟨owners, (all.1 2 (by decide +kernel) 0).mpr (by decide +kernel), alike⟩

end Session

end RecordQuery
