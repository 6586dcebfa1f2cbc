import RecordQuery.Proofs.Json.Layouts
import RecordQuery.Query.Building

/-!
# Calls on the queries of a session

`Call` lists the operations that can change queries. A call leaves the queries as they are or makes
the `Change` that it stands for, whatever else happens to the session. What holds without queries
and is kept by every change holds of the queries of every `Reachable` session.
-/

namespace RecordQuery.Session

open RecordQuery.Action

/-- A call that can change the queries of a session. -/
inductive Call where
  | create (options : Options)
  | constrain (mark : Mark) (field : Value) (operation : FieldOperation)
  | order (mark : Mark) (field : Value) (direction : Direction)
  | assign (mark : Mark) (setting : Setting)
  | join (mark : Mark) (combinator : Combinator) (operands : List Operand)

/-- The session after a call, whether the call fails or not. -/
def Call.after (session : Session) : Call → Session
  | .create options => (perform (Session.create options) session).2
  | .constrain mark field operation => (perform (Session.constrain mark field operation) session).2
  | .order mark field direction => (perform (Session.order mark field direction) session).2
  | .assign mark setting => (perform (Session.assign mark setting) session).2
  | .join mark combinator operands => (perform (Session.join mark combinator operands) session).2

/-- What a call does to queries when it changes them. -/
inductive Change (store : QueryStore) : Call → QueryStore → Prop where
  | created {options : Options} {snapshot : Snapshot} :
      options.resolve = .ok snapshot →
      Change store (.create options) (store.create snapshot).1
  | constrained {mark : Mark} {field : String} {operation : FieldOperation} {limit : Int}
      {edits : List Edit} :
      operation.edits limit = .ok edits →
      Change store (.constrain mark (.text field) operation) (store.edit mark field edits).1
  | ordered {mark : Mark} {field : String} {direction : Direction} :
      Change store (.order mark (.text field) direction) (store.setDirection mark field direction)
  | assigned {mark : Mark} {setting : Setting} {revise : Query → Query} :
      QueryStore.settingChange setting = .ok revise →
      Change store (.assign mark setting) (store.change mark revise)
  | joined {mark : Mark} {combinator : Combinator} {operands : List Operand}
      {filters : List FilterNode} :
      operands ≠ [] → store.operandFilters operands = .ok filters →
      Change store (.join mark combinator operands)
        (store.join (store.target combinator mark) combinator filters)
  | opened {mark : Mark} {combinator : Combinator} :
      Change store (.join mark combinator [])
        (store.openScope (store.target combinator mark) combinator).1

theorem perform_create (options : Options) (session : Session) :
    perform (create options) session = match options.resolve with
      | .ok snapshot =>
          (.ok session.queries.next, session.withQueries (session.queries.create snapshot).1)
      | .error failure => (.error failure, session) := by
  simp only [create, perform_bind, perform_lift]
  cases options.resolve <;> rfl

theorem fieldName_eq_ok {field : Value} {name : String}
    (named : FieldOperation.fieldName field = .ok name) : field = .text name := by
  cases field with
  | text text =>
      by_cases empty : text.isEmpty = true
      · simp [FieldOperation.fieldName, empty] at named
      · simpa [FieldOperation.fieldName, empty] using named
  | _ => simp [FieldOperation.fieldName] at named

/-- The bound on polygons, for an operation that needs it. -/
def limitFor (operation : FieldOperation) : Action Int :=
  if operation.usesPointLimit then do
    let settings ← Settings.shared
    lift settings.pointLimit
  else pure 0

/-- The first part of putting a condition on a field: all checks. It gives the name of the field and
what is to be written. -/
def checkedEdits (field : Value) (operation : FieldOperation) : Action (String × List Edit) := do
  let limit ← limitFor operation
  let edits ← lift (operation.edits limit)
  let name ← lift (FieldOperation.fieldName field)
  return (name, edits)

theorem apart_checkedEdits (field : Value) (operation : FieldOperation) :
    Apart (checkedEdits field operation) :=
  .bind (.ite (.bind Settings.apart_shared fun _ => .lift _) (.pure 0)) fun _ =>
    .bind (.lift _) fun _ => .bind (.lift _) fun _ => .pure _

theorem checkedEdits_eq_ok {field : Value} {operation : FieldOperation} {session after : Session}
    {name : String} {edits : List Edit}
    (checked : perform (checkedEdits field operation) session = (.ok (name, edits), after)) :
    field = .text name ∧ ∃ limit, operation.edits limit = .ok edits := by
  obtain ⟨limit, middle, _, checked⟩ := perform_bind_ok checked
  obtain ⟨written, _, edited, checked⟩ := perform_bind_ok checked
  obtain ⟨text, _, named, checked⟩ := perform_bind_ok checked
  simp only [perform_lift, perform_pure, Prod.mk.injEq, Except.ok.injEq] at edited named checked
  obtain ⟨⟨rfl, rfl⟩, _⟩ := checked
  exact ⟨fieldName_eq_ok named.1, limit, edited.1⟩

theorem constrain_eq (mark : Mark) (field : Value) (operation : FieldOperation) :
    constrain mark field operation = (do
      let checked ← checkedEdits field operation
      let (store, failure?) := (← get).queries.edit mark checked.1 checked.2
      modifyStore fun _ => store
      match failure? with
      | some failure => throw failure
      | none => return mark) := by
  simp only [constrain, checkedEdits, limitFor, bind_assoc, pure_bind]
  cases operation.usesPointLimit
  · rfl
  · exact (bind_assoc Settings.shared _ _).symm

theorem perform_constrain (mark : Mark) (field : Value) (operation : FieldOperation)
    (session : Session) :
    perform (constrain mark field operation) session =
      match perform (checkedEdits field operation) session with
      | (.ok checked, after) =>
          (match (after.queries.edit mark checked.1 checked.2).2 with
            | none => .ok mark
            | some failure => .error failure,
            after.withQueries (after.queries.edit mark checked.1 checked.2).1)
      | (.error failure, after) => (.error failure, after) := by
  rw [constrain_eq, perform_bind]
  rcases perform (checkedEdits field operation) session with ⟨failure | checked, after⟩
  · rfl
  · simp only [perform_bind, perform_get, modifyStore, perform_modify]
    cases (after.queries.edit mark checked.1 checked.2).2 <;> rfl

theorem perform_order (mark : Mark) (field : Value) (direction : Direction) (session : Session) :
    perform (order mark field direction) session =
      match FieldOperation.fieldName field with
      | .ok name =>
          (.ok mark, session.withQueries (session.queries.setDirection mark name direction))
      | .error failure => (.error failure, session) := by
  simp only [order, perform_bind, perform_lift]
  cases FieldOperation.fieldName field <;> rfl

theorem perform_assign (mark : Mark) (setting : Setting) (session : Session) :
    perform (assign mark setting) session =
      match QueryStore.settingChange setting with
      | .ok revise => (.ok (), session.withQueries (session.queries.change mark revise))
      | .error failure => (.error failure, session) := by
  simp only [assign, perform_bind, perform_get, perform_lift, QueryStore.assign]
  cases QueryStore.settingChange setting <;> rfl

def joinFields (combinator : Combinator) (operands : Nat) (inScope : Bool) : Entries :=
  [(.text "operator", .text combinator.key), (.text "operands", .count operands),
    (.text "scoped", .bool inScope)]

/-- The entry for a join can be written under a context that can be recorded. -/
theorem joinFields_recorded {session : Session} (context : Log.Recordable session.context)
    (combinator : Combinator) (operands : Nat) (inScope : Bool) :
    (perform (Log.record component .debug "criteria_joined"
      (joinFields combinator operands inScope)) session).1 = .ok () := by
  have own : Log.Recordable (joinFields combinator operands inScope) := by
    constructor
    · simp [joinFields, Log.clashes, Log.reserved, Value.text?]
    · intro entry member
      simp only [joinFields, List.mem_cons, List.not_mem_nil, or_false] at member
      rcases member with rfl | rfl | rfl
      · exact ⟨⟨_, rfl⟩, _, rfl⟩
      · exact ⟨⟨_, rfl⟩, Json.exists_encode_count operands⟩
      · exact ⟨⟨_, rfl⟩, _, rfl⟩
  have free : (joinFields combinator operands inScope).get? "component" = none := by
    simp [joinFields, Entries.get?, Entries.valueOf?, Value.same]
  exact Log.record_succeeds _ _ _ own free context

theorem perform_recordJoin (mark : Mark) (combinator : Combinator) (operands : Nat)
    (session : Session) :
    perform (recordJoin mark combinator operands) session =
      perform (Log.record component .debug "criteria_joined"
        (joinFields combinator operands (session.queries.isScoped mark))) session := rfl

theorem queries_recordJoin (mark : Mark) (combinator : Combinator) (operands : Nat)
    (session : Session) :
    (perform (recordJoin mark combinator operands) session).2.queries = session.queries := by
  rw [perform_recordJoin]
  exact (Log.apart_record _ _ _ _).queries session

theorem perform_joinWith (mark : Mark) (combinator : Combinator) (operands : List Operand)
    (session : Session) :
    perform (joinWith mark combinator operands) session =
      match session.queries.operandFilters operands with
      | .ok filters =>
          let target := session.queries.target combinator mark
          let recorded := perform (recordJoin target combinator (filters.length + 1))
            (session.withQueries (session.queries.join target combinator filters))
          (recorded.1.map fun _ => target, recorded.2)
      | .error failure => (.error failure, session) := by
  simp only [joinWith, perform_bind, perform_get, perform_lift]
  cases session.queries.operandFilters operands with
  | error failure => rfl
  | ok filters =>
      simp only [modifyStore, perform_modify, withQueries]
      rcases perform (recordJoin _ combinator _) _ with ⟨_ | _, after⟩ <;> rfl

theorem perform_openScope (mark : Mark) (combinator : Combinator) (session : Session) :
    perform (openScope mark combinator) session =
      let target := session.queries.target combinator mark
      let recorded := perform (recordJoin target combinator 2)
        (session.withQueries (session.queries.openScope target combinator).1)
      (recorded.1.map fun _ => session.queries.next, recorded.2) := by
  simp only [openScope, perform_bind, perform_get, modifyStore, perform_modify, withQueries]
  rcases perform (recordJoin _ combinator _) _ with ⟨_ | _, after⟩ <;> rfl

theorem Call.after_queries (call : Call) (session : Session) :
    (call.after session).queries = session.queries ∨
      Change session.queries call (call.after session).queries := by
  cases call with
  | create options =>
      rw [Call.after, perform_create]
      cases resolved : options.resolve with
      | error failure => exact .inl rfl
      | ok snapshot => exact .inr (.created resolved)
  | constrain mark field operation =>
      have kept := (apart_checkedEdits field operation).queries session
      rw [Call.after, perform_constrain]
      rcases checked : perform (checkedEdits field operation) session with
        ⟨failure | ⟨name, edits⟩, after⟩ <;> rw [checked] at kept
      · exact .inl kept
      · obtain ⟨rfl, limit, edited⟩ := checkedEdits_eq_ok checked
        rw [← kept]
        exact .inr (.constrained edited)
  | order mark field direction =>
      rw [Call.after, perform_order]
      cases named : FieldOperation.fieldName field with
      | error failure => exact .inl rfl
      | ok name =>
          rw [fieldName_eq_ok named]
          exact .inr .ordered
  | assign mark setting =>
      rw [Call.after, perform_assign]
      cases checked : QueryStore.settingChange setting with
      | error failure => exact .inl rfl
      | ok revise => exact .inr (.assigned checked)
  | join mark combinator operands =>
      cases operands with
      | nil =>
          rw [Call.after, Session.join, perform_openScope, queries_recordJoin]
          exact .inr .opened
      | cons operand rest =>
          rw [Call.after, Session.join, perform_joinWith]
          · cases copied : session.queries.operandFilters (operand :: rest) with
            | error failure => exact .inl rfl
            | ok filters =>
                simp only [queries_recordJoin]
                exact .inr (.joined (by simp) copied)
          · simp

/-- Whether an operand is there: a query that exists, or a snapshot that options describe. -/
def IsThere (store : QueryStore) : Operand → Prop
  | .query mark => mark < store.next
  | .snapshot snapshot => ∃ options, Snapshot.parse options = .ok snapshot
  | .value _ => True

/-- A call on queries that exist. Snapshots are those that options describe. -/
def Call.Proper (store : QueryStore) : Call → Prop
  | .create (.value _) => True
  | .create (.snapshot snapshot) => IsThere store (.snapshot snapshot)
  | .constrain mark _ _ => mark < store.next
  | .order mark _ _ => mark < store.next
  | .assign mark _ => mark < store.next
  | .join mark _ operands => mark < store.next ∧ ∀ operand ∈ operands, IsThere store operand

/-- Sessions that allowed calls lead to, with anything between the calls that leaves the queries as
they are. -/
inductive Reachable (allowed : Call → Prop) : Session → Prop where
  | start {session : Session} : session.queries = .empty → Reachable allowed session
  | call {session : Session} {call : Call} :
      Reachable allowed session → call.Proper session.queries → allowed call →
      Reachable allowed (call.after session)
  | other {session later : Session} :
      Reachable allowed session → later.queries = session.queries → Reachable allowed later

theorem Reachable.mono {allowed more : Call → Prop} (implies : ∀ call, allowed call → more call)
    {session : Session} (reachable : Reachable allowed session) : Reachable more session := by
  induction reachable with
  | start empty => exact .start empty
  | call _ proper permitted inductionHypothesis =>
      exact .call inductionHypothesis proper (implies _ permitted)
  | other _ same inductionHypothesis => exact .other inductionHypothesis same

theorem Reachable.invariant {allowed : Call → Prop} (invariant : QueryStore → Prop)
    (initially : invariant .empty)
    (preserved : ∀ store call later, invariant store → call.Proper store → allowed call →
      Change store call later → invariant later)
    {session : Session} (reachable : Reachable allowed session) : invariant session.queries := by
  induction reachable with
  | start empty => rwa [empty]
  | @call session call _ proper permitted inductionHypothesis =>
      rcases call.after_queries session with same | change
      · rwa [same]
      · exact preserved _ _ _ inductionHypothesis proper permitted change
  | other _ same inductionHypothesis => rwa [same]

end RecordQuery.Session
