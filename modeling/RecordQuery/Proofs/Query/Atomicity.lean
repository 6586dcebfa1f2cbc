import RecordQuery.Proofs.Session.Calls
import RecordQuery.Proofs.Tree.Edits

/-!
# Failed calls

A call checks its arguments before it writes. Once the checks of an operation on a field have
passed, none of its edits fails, so that two edits are made together or not at all. Only a join can
fail after it was made: its entry in the log comes last and carries the context of the log. As long
as that context can be recorded, a failed call leaves all queries as they were.
-/

namespace RecordQuery

open Session RecordQuery.Action

def FieldOperation.NamesOperator : FieldOperation → Prop
  | .condition operator _ => ∃ name, operator = .text name
  | _ => True

def Edit.WritesText : Edit → Prop
  | .write operator _ => ∃ name, operator = .text name
  | .clear _ => True

theorem FieldOperation.WritesOperators.writesText {edits : List Edit}
    (shape : FieldOperation.WritesOperators edits) : ∀ edit ∈ edits, edit.WritesText := by
  have put (operator : FieldOperator) (argument : Value) :
      (Edit.put operator argument).WritesText :=
    ⟨operator.key, rfl⟩
  cases shape with
  | one operator argument => simpa using put operator argument
  | two first argument second other => simpa using ⟨put first argument, put second other⟩
  | plainPattern source => simpa using ⟨put .regex source, trivial⟩

theorem FieldOperation.writesText_of_edits {operation : FieldOperation} {limit : Int}
    {edits : List Edit} (written : operation.edits limit = .ok edits)
    (named : operation.NamesOperator) : ∀ edit ∈ edits, edit.WritesText := by
  rcases edits_cases written with ⟨operator, argument, rfl, rfl⟩ | shape
  · intro edit member
    obtain rfl := List.mem_singleton.mp member
    exact named
  · exact shape.writesText

namespace Entries

theorem revise_of_writesText {edit : Edit} (text : edit.WritesText) (conditions : Entries) :
    conditions.revise edit = ((conditions.revise edit).1, none) := by
  cases edit with
  | clear operator => rfl
  | write operator argument =>
      obtain ⟨name, rfl⟩ := text
      rfl

theorem reviseAll_cons {edit : Edit} (text : edit.WritesText) (rest : List Edit)
    (conditions : Entries) :
    conditions.reviseAll (edit :: rest) = (conditions.revise edit).1.reviseAll rest := by
  rw [reviseAll, revise_of_writesText text]

theorem reviseAll_succeeds {edits : List Edit} (texts : ∀ edit ∈ edits, edit.WritesText)
    (conditions : Entries) : (conditions.reviseAll edits).2 = none := by
  induction edits generalizing conditions with
  | nil => rfl
  | cons edit rest inductionHypothesis =>
      obtain ⟨text, others⟩ := List.forall_mem_cons.mp texts
      rw [reviseAll_cons text]
      exact inductionHypothesis others _

end Entries

namespace QueryStore

/-- Edits that have passed the checks are made to the end. -/
theorem edit_succeeds (store : QueryStore) (mark : Mark) (field : String)
    {operation : FieldOperation} {limit : Int} {edits : List Edit}
    (written : operation.edits limit = .ok edits) (named : operation.NamesOperator) :
    (store.edit mark field edits).2 = none := by
  rw [edit, Slots.applyEdits_eq_set _ _ (FieldOperation.edits_ne_nil written)]
  exact Entries.reviseAll_succeeds (FieldOperation.writesText_of_edits written named) _

/-- The queries with the conditions on a field of a mark's own node as a mapping, which is empty if
there are none. -/
def holdConditions (store : QueryStore) (mark : Mark) (field : String) : QueryStore :=
  store.change mark fun query =>
    (query.update mark fun slots => slots.set field (.mapping (slots.conditions field))).detach
      ((store.ownSlots mark).displaced field)

/-- An edit fails only by an operator that cannot be a key, after the conditions on the field have
become a mapping. -/
theorem edit_fails {store : QueryStore} {mark : Mark} {field : String}
    {operation : FieldOperation} {limit : Int} {edits : List Edit} {failure : Failure}
    (written : operation.edits limit = .ok edits)
    (failed : (store.edit mark field edits).2 = some failure) :
    ∃ operator argument, operation = .condition operator argument ∧ operator.isKey = false ∧
      failure = .mismatch ∧ (store.edit mark field edits).1 = store.holdConditions mark field := by
  rcases FieldOperation.edits_cases written with ⟨operator, argument, rfl, rfl⟩ | shape
  · cases key : operator.isKey with
    | true => simp [edit, Slots.applyEdits, Slots.applyEdit, key] at failed
    | false =>
        simp only [edit, Slots.applyEdits, Slots.applyEdit, key, Bool.false_eq_true, if_false,
          Option.some.injEq] at failed ⊢
        exact ⟨operator, argument, rfl, key, failed.symm, rfl⟩
  · rw [edit, Slots.applyEdits_eq_set _ _ (FieldOperation.edits_ne_nil written),
      Entries.reviseAll_succeeds shape.writesText] at failed
    contradiction

end QueryStore

namespace Session

theorem perform_checkedEdits_eq (field : Value) (operation : FieldOperation) (session : Session) :
    perform (checkedEdits field operation) session =
      match perform (limitFor operation) session with
      | (.ok limit, after) =>
          ((operation.edits limit).bind fun edits =>
            (FieldOperation.fieldName field).map fun name => (name, edits), after)
      | (.error failure, after) => (.error failure, after) := by
  unfold checkedEdits
  rw [perform_bind]
  rcases perform (limitFor operation) session with ⟨failure | limit, after⟩
  · rfl
  · simp only [perform_bind, perform_lift]
    cases operation.edits limit with
    | error failure => rfl
    | ok edits => cases FieldOperation.fieldName field <;> rfl

theorem apart_limitFor (operation : FieldOperation) : Apart (limitFor operation) :=
  .ite (.bind Settings.apart_shared fun _ => .lift _) (.pure 0)

/-- An accepted call has passed its checks and made its edits. -/
theorem constrain_eq_ok {mark given : Mark} {field : String} {operation : FieldOperation}
    {session after : Session}
    (accepted : perform (constrain mark (.text field) operation) session = (.ok given, after)) :
    ∃ limit edits ready, perform (limitFor operation) session = (.ok limit, ready) ∧
      operation.edits limit = .ok edits ∧
      FieldOperation.fieldName (.text field) = .ok field ∧
      after = ready.withQueries (session.queries.edit mark field edits).1 := by
  have kept := (apart_limitFor operation).queries session
  rw [perform_constrain, perform_checkedEdits_eq] at accepted
  rcases bound : perform (limitFor operation) session with ⟨refused | limit, ready⟩
  · simp [bound] at accepted
  · rw [bound] at accepted kept
    cases edited : operation.edits limit with
    | error failure => simp [edited, Except.bind] at accepted
    | ok edits =>
        cases name : FieldOperation.fieldName (.text field) with
        | error failure => simp [edited, name, Except.bind, Except.map] at accepted
        | ok text =>
            have same : field = text := Value.text.inj (fieldName_eq_ok name)
            subst same
            simp only [edited, name, Except.bind, Except.map, Prod.mk.injEq] at accepted
            refine ⟨limit, edits, ready, rfl, edited, rfl, ?_⟩
            rw [← accepted.2]
            exact congrArg (fun store => ready.withQueries (store.edit mark field edits).1) kept

/-- A call is accepted if its checks pass, unless it is given an operator that cannot be a key. -/
theorem constrain_of_checked {mark : Mark} {field : String} {operation : FieldOperation}
    (textual : operation.NamesOperator) {session ready : Session} {limit : Int} {edits : List Edit}
    (bound : perform (limitFor operation) session = (.ok limit, ready))
    (edited : operation.edits limit = .ok edits)
    (name : FieldOperation.fieldName (.text field) = .ok field) :
    perform (constrain mark (.text field) operation) session =
      (.ok mark, ready.withQueries (session.queries.edit mark field edits).1) := by
  have kept := (apart_limitFor operation).queries session
  rw [bound] at kept
  rw [perform_constrain, perform_checkedEdits_eq, bound]
  simp only [edited, name, Except.bind, Except.map,
    ready.queries.edit_succeeds mark field edited textual]
  rw [show ready.queries = session.queries from kept]

def failureOf? {α : Type} (action : Action α) (session : Session) : Option Failure :=
  match (perform action session).1 with
  | .error failure => some failure
  | .ok _ => none

def Call.failure? (session : Session) : Call → Option Failure
  | .create options => failureOf? (Session.create options) session
  | .constrain mark field operation => failureOf? (Session.constrain mark field operation) session
  | .order mark field direction => failureOf? (Session.order mark field direction) session
  | .assign mark setting => failureOf? (Session.assign mark setting) session
  | .join mark combinator operands => failureOf? (Session.join mark combinator operands) session

/-- A join is made, and then the entry that records it cannot be written. -/
def Call.Unrecorded (session : Session) (failure : Failure) (call : Call) : Prop :=
  ∃ mark combinator operands, call = .join mark combinator operands ∧
    Change session.queries call (call.after session).queries ∧
    ∃ count inScope, failureOf? (Log.record component .debug "criteria_joined"
      (joinFields combinator count inScope)) session = some failure

/-- The operator of a condition cannot be a key. The conditions on the field have become a mapping
before it is looked at, and stay one. -/
def Call.Unkeyed (session : Session) (failure : Failure) (call : Call) : Prop :=
  ∃ mark field operator argument,
    call = .constrain mark (.text field) (.condition operator argument) ∧
      operator.isKey = false ∧ failure = .mismatch ∧
      (call.after session).queries = session.queries.holdConditions mark field

theorem failureOf?_eq_some {α : Type} {action : Action α} {session : Session} {failure : Failure} :
    failureOf? action session = some failure ↔ (perform action session).1 = .error failure := by
  rw [failureOf?]
  cases (perform action session).1 <;> simp

theorem failureOf?_withQueries {α : Type} {action : Action α} (apart : Apart action)
    (session : Session) (store : QueryStore) :
    failureOf? action (session.withQueries store) = failureOf? action session := by
  rw [failureOf?, failureOf?, apart.frame]

theorem Call.failed_join {session : Session} {mark : Mark} {combinator : Combinator}
    {operands : List Operand} {failure : Failure}
    (failed : failureOf? (Session.join mark combinator operands) session = some failure) :
    ((Call.join mark combinator operands).after session).queries = session.queries ∨
      (Call.join mark combinator operands).Unrecorded session failure := by
  have unrecorded {target : Mark} {count : Nat} {store : QueryStore}
      (failed : failureOf? (recordJoin target combinator count) (session.withQueries store) =
        some failure) : ∃ count inScope, failureOf? (Log.record component .debug "criteria_joined"
          (joinFields combinator count inScope)) session = some failure :=
    ⟨count, store.isScoped target,
      (failureOf?_withQueries (Log.apart_record _ _ _ _) session store).symm.trans failed⟩
  have mapped {α β : Type} {result : Except Failure α} {next : α → β}
      (failed : result.map next = .error failure) : result = .error failure := by
    cases result with
    | error other => rw [Except.error.inj failed]
    | ok value => contradiction
  rw [failureOf?_eq_some] at failed
  cases operands with
  | nil =>
      rw [Session.join, perform_openScope] at failed
      refine .inr ⟨mark, combinator, [], rfl, ?_,
        unrecorded (failureOf?_eq_some.mpr (mapped failed))⟩
      rw [Call.after, Session.join, perform_openScope, queries_recordJoin]
      exact .opened
  | cons operand rest =>
      have joined : Session.join mark combinator (operand :: rest) =
          joinWith mark combinator (operand :: rest) := rfl
      rw [joined, perform_joinWith] at failed
      rw [Call.Unrecorded, Call.after, joined, perform_joinWith]
      cases copied : session.queries.operandFilters (operand :: rest) with
      | error fault => exact .inl rfl
      | ok filters =>
          rw [copied] at failed
          refine .inr ⟨mark, combinator, operand :: rest, rfl, ?_,
            unrecorded (failureOf?_eq_some.mpr (mapped failed))⟩
          simp only [queries_recordJoin]
          exact .joined (by simp) copied

theorem Call.failed_constrain {session : Session} {mark : Mark} {field : Value}
    {operation : FieldOperation} {failure : Failure}
    (failed : failureOf? (Session.constrain mark field operation) session = some failure) :
    ((Call.constrain mark field operation).after session).queries = session.queries ∨
      (Call.constrain mark field operation).Unkeyed session failure := by
  have kept := (apart_checkedEdits field operation).queries session
  rw [failureOf?, perform_constrain] at failed
  rw [Call.Unkeyed, Call.after, perform_constrain]
  rcases checked : perform (checkedEdits field operation) session with
    ⟨fault | ⟨name, edits⟩, after⟩ <;> rw [checked] at kept failed
  · exact .inl kept
  · obtain ⟨rfl, limit, edited⟩ := checkedEdits_eq_ok checked
    simp only at kept failed
    cases unwritten : (after.queries.edit mark name edits).2 with
    | none => simp [unwritten] at failed
    | some fault =>
        obtain rfl : fault = failure := by simpa [unwritten] using failed
        obtain ⟨operator, argument, rfl, key, mismatch, held⟩ :=
          QueryStore.edit_fails edited unwritten
        exact .inr ⟨mark, name, operator, argument, rfl, key, mismatch, kept ▸ held⟩

def singleQuery : Session :=
  (Call.create (.value (.mapping
    [(.text "filter", .mapping [(.text "a", .int 1)])]))).after (Session.start "")

def wantsTwo : Value := .mapping [(.text "filter", .mapping [(.text "b", .int 2)])]

def unwrittenOperation : Log.Operation where
  component := "system"
  name := "outer"
  correlation := "x"
  context := [(.text "n", .mapping [(.tuple [.int 1], .int 2)])]
  seconds := Binary64.zero

/-- The inside of such an operation, below whose threshold its start was, after the threshold was
lowered. -/
def insideUnwritten : Session :=
  (perform (Log.configure .null (.text "DEBUG"))
    (perform unwrittenOperation.enter singleQuery).2).2

theorem perform_join_insideUnwritten :
    let performed := perform (Session.join 0 .and [.value wantsTwo]) insideUnwritten
    (performed.1, performed.2.queries.ownFilter 0) = (.error .mismatch,
      [(.text "$and", .list [.mapping [(.text "a", .mapping [(.text "$eq", .int 1)])],
        .mapping [(.text "b", .mapping [(.text "$eq", .int 2)])]])]) := by
  cbv

end Session

end RecordQuery
