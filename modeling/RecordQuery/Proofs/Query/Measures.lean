import RecordQuery.Proofs.Matching.Measures
import RecordQuery.Proofs.Query.Reports
import RecordQuery.Proofs.Records.Page
import RecordQuery.Proofs.Store.Entrywise

/-!
# Queries for remainders, sizes and members

A query that is built of conditions on remainders, on sizes and on members, joined in any way, has a
filter of combinators and measured fields. So it can be evaluated on all moderate records, whatever
kinds of values they hold, and gives those that satisfy its filter.
-/

namespace RecordQuery

open Matching Records RecordQuery.Action RecordQuery.Filter

/-- An operation that asks for a remainder, for a size, or for members that are no containers. -/
def FieldOperation.Measures : FieldOperation → Prop
  | .mod _ _ | .size _ => True
  | .containsAll values =>
      ∀ value ∈ Argument.choices values, value.items? = none ∧ value.entries? = none
  | _ => False

namespace FieldOperation

theorem divides_of_number {value divisor : Value} {name : String}
    (accepted : Argument.number value name = .ok divisor)
    (nonzero : divisor.equal (.int 0) = false) : Divides divisor := by
  rcases Argument.number_eq_ok accepted with ⟨whole, rfl, inRange⟩ | ⟨real, rfl⟩
  · refine ⟨rfl, nonzero, ?_⟩
    rintro ⟨_, ⟨⟩, beyond⟩
    simp [beyond] at inRange
  · refine ⟨rfl, nonzero, ?_⟩
    rintro ⟨_, ⟨⟩, -⟩

/-- The arguments of a remainder are checked: nothing is divided by zero. -/
theorem modEdits_eq_ok {divisor remainder : Value} {edits : List Edit}
    (written : modEdits divisor remainder = .ok edits) :
    ∃ number wanted, Divides number ∧ edits = [.put .mod (.list [number, wanted])] := by
  obtain ⟨number, accepted, written⟩ := except_bind_eq_ok written
  split at written
  · contradiction
  · rename_i nonzero
    obtain ⟨wanted, -, written⟩ := except_bind_eq_ok written
    exact ⟨number, wanted, divides_of_number accepted (by simpa using nonzero),
      (Except.ok.inj written).symm⟩

theorem Measures.edits_eq_ok {operation : FieldOperation} (measures : operation.Measures)
    {limit : Int} {edits : List Edit} (written : operation.edits limit = .ok edits) :
    ∃ measure : Measure, measure.Accepted ∧
      edits = [.write measure.entry.1 measure.entry.2] := by
  cases operation with
  | mod divisor remainder =>
      obtain ⟨number, wanted, divides, rfl⟩ := modEdits_eq_ok written
      exact ⟨.remainder number wanted, divides, rfl⟩
  | size given =>
      cases read : Argument.whole given "size" with
      | error failure => simp [FieldOperation.edits, read, Except.map] at written
      | ok count =>
          rw [FieldOperation.edits, read] at written
          obtain rfl := Except.ok.inj written
          exact ⟨.size count, trivial, rfl⟩
  | containsAll values =>
      obtain rfl := Except.ok.inj written
      exact ⟨.members (Argument.choices values), measures, rfl⟩
  | _ => contradiction

end FieldOperation

theorem Matching.Measured.insert {conditions : Entries} (measured : Measured conditions)
    {measure : Measure} (accepted : measure.Accepted) :
    Measured (conditions.insert measure.entry.1 measure.entry.2) := by
  have written : ∃ name, measure.entry.1 = .text name := by
    cases measure with
    | remainder | size | members => exact ⟨_, rfl⟩
  obtain ⟨name, text⟩ := written
  intro condition member
  rw [text] at member
  rcases Entries.mem_insert_text_cases member with old | rfl
  · exact measured condition old
  · exact ⟨measure, accepted, by rw [← text]⟩

theorem Matching.MeasuredEntry.conditions {name : String} {conditions : Entries}
    (measured : MeasuredEntry (.text name, .mapping conditions)) : Measured conditions := by
  cases measured with
  | field _ conditions => exact conditions

namespace Slots.Each

variable {slots : Slots} {name : String}

theorem measured (each : slots.Each MeasuredEntry) (name : String) :
    Measured (slots.conditions name) := by
  rcases each.conditions name with none | written
  · rw [none]
    exact List.forall_mem_nil _
  · exact written.conditions

theorem applyEdits_measure (each : slots.Each MeasuredEntry)
    (plain : isOperatorText name = false) {measure : Measure} (accepted : measure.Accepted) :
    (slots.applyEdits name [.write measure.entry.1 measure.entry.2]).1.Each MeasuredEntry := by
  have key : measure.entry.1.isKey = true := by
    cases measure with
    | remainder | size | members => rfl
  rw [Slots.applyEdits_eq_set _ _ (by simp), Entries.reviseAll, Entries.revise, if_pos key]
  exact each.set (.field plain ((each.measured name).insert accepted))

end Slots.Each

/-- The canonical state of a query that has a filter and nothing else. -/
def Snapshot.FilterOnly (snapshot : Snapshot) : Prop :=
  snapshot = { Snapshot.empty with filter := snapshot.filter }

namespace Session

def Call.Measures : Call → Prop
  | .create options => options.Brings MeasuredEntry ∧
      ∀ snapshot, options.resolve = .ok snapshot → snapshot.FilterOnly
  | .constrain _ field operation =>
      (∀ name, field = .text name → isOperatorText name = false) ∧ operation.Measures
  | .join _ _ operands => ∀ operand ∈ operands, Session.Brings MeasuredEntry operand
  | .order _ _ _ | .assign _ _ => False

theorem Call.Measures.brings {call : Call} (measures : call.Measures) :
    call.Brings MeasuredEntry := by
  cases call with
  | create options => exact measures.1
  | constrain mark field operation =>
      intro name limit edits named written slots each
      obtain ⟨measure, accepted, rfl⟩ := measures.2.edits_eq_ok written
      exact each.applyEdits_measure (measures.1 name named) accepted
  | join mark combinator operands => exact measures
  | order | assign => contradiction

end Session

namespace QueryStore

open Session

def FilterOnly (store : QueryStore) : Prop :=
  ∀ query ∈ store.queries, query.toSnapshot.FilterOnly

namespace FilterOnly

variable {store : QueryStore}

theorem snapshot (only : store.FilterOnly) (mark : Mark) : (store.snapshot mark).FilterOnly :=
  snapshot_of_forall Snapshot.FilterOnly rfl only mark

theorem of_change (only : store.FilterOnly) {call : Call} {later : QueryStore}
    (measures : call.Measures) (change : Change store call later) : later.FilterOnly := by
  have update (query : Query) (only : query.toSnapshot.FilterOnly) (mark : Mark)
      (revise : Slots → Slots) : (query.update mark revise).toSnapshot.FilterOnly := by
    simp only [Snapshot.FilterOnly, Query.toSnapshot, Snapshot.empty, Snapshot.mk.injEq] at only ⊢
    exact ⟨only.1, trivial, only.2.2⟩
  cases change with
  | @created options snapshot resolved =>
      have given := measures.2 snapshot resolved
      refine forall_create only ?_
      simp only [Snapshot.FilterOnly, Query.ofSnapshot, Query.toSnapshot, Snapshot.empty] at given ⊢
      rw [given]
  | constrained => exact forall_change only _ fun query only => update query only _ _
  | ordered | assigned => contradiction
  | joined => exact forall_change only _ fun query only => update query only _ _
  | opened => exact forall_change only _ fun query only => update query only _ _

end FilterOnly

end QueryStore

namespace Matching

def measuring : List FieldOperator := [.mod, .size, .all]

variable {filter : Entries} {name : String}

theorem measured_of_operand (measured : ∀ entry ∈ filter, MeasuredEntry entry) {operand : Entries}
    (step : IsOperand filter operand) : ∀ entry ∈ operand, MeasuredEntry entry := by
  obtain ⟨key, value, items, member, combined, held, listed⟩ := step
  cases measured _ member with
  | combined each =>
      obtain rfl := Option.some.inj held
      obtain ⟨other, present, same⟩ := List.mem_map.mp listed
      obtain rfl := Value.mapping.inj same
      exact each other present
  | field plain _ => contradiction

theorem measured_of_reaches (measured : ∀ entry ∈ filter, MeasuredEntry entry) {part : Entries}
    (reaches : Filter.Reaches filter part) : ∀ entry ∈ part, MeasuredEntry entry := by
  induction reaches with
  | root => exact measured
  | operand _ step inductionHypothesis => exact measured_of_operand inductionHypothesis step

theorem measuring_of_uses (measured : ∀ entry ∈ filter, MeasuredEntry entry)
    (uses : Filter.Uses filter name) : name ∈ measuring.map FieldOperator.key := by
  obtain ⟨key, conditions, argument, member, -, written⟩ := uses
  cases measured _ member with
  | field _ conditions =>
      obtain ⟨measure, -, same⟩ := conditions _ written
      have key : Value.text name = measure.entry.1 := congrArg Prod.fst same.symm
      cases measure with
      | remainder | size | members =>
          obtain rfl := Value.text.inj key
          simp [measuring]

theorem measuring_of_report (measured : ∀ entry ∈ filter, MeasuredEntry entry) {deep : Bool}
    {names : List String} (reported : name ∈ report deep names filter) :
    name ∈ names ∧ name ∈ measuring.map FieldOperator.key := by
  cases deep with
  | true =>
      obtain ⟨listed, part, reaches, uses⟩ := mem_report_deep.mp reported
      exact ⟨listed, measuring_of_uses (measured_of_reaches measured reaches) uses⟩
  | false =>
      obtain ⟨listed, uses⟩ := mem_report_shallow.mp reported
      exact ⟨listed, measuring_of_uses measured uses⟩

end Matching

/-- On records that can all be tested, a query with a filter and nothing else gives those that
satisfy it. -/
theorem Snapshot.FilterOnly.run {query : Snapshot} (only : query.FilterOnly)
    (folded : areFolded query.filter = true) {records : List Value}
    (testable : ∀ record ∈ records, ∃ mark,
      satisfies (.mapping query.filter) record = .ok mark) :
    Pipeline.run query records =
      ⟨records, .ok (records.filter (isMatch (.mapping query.filter)))⟩ := by
  obtain ⟨tested, marked⟩ := Pipeline.marks_of_tests testable
  have passed : Pipeline.test query records = .ok tested :=
    (Pipeline.test_eq_marks records (if_pos folded)).trans marked
  have fields : query.fields = [] := by rw [only]; rfl
  have sort : query.sort = [] := by rw [only]; rfl
  have skip : query.skip = 0 := by rw [only]; rfl
  have limit : query.limit = none := by rw [only]; rfl
  rw [Pipeline.run_of_whole query fields passed, sort, skip, limit]
  rfl

namespace Session

variable {session : Session} {mark : Mark} {settings : Settings} {names : List String}

/-- A query that is built of remainders, sizes and members can be evaluated on all records without
whole numbers beyond the floating-point range, unless the settings list such an operator: it leaves
them and gives those that satisfy its filter. The tests say what the measures say: a remainder is
left by a number or by an item of a list, a size is that of a list, and members are all in a list.
So what is neither a number nor a list meets no measure. The remainder of whole numbers has the sign
of the divisor. -/
theorem measures_never_fail (reachable : Reachable Call.Measures session)
    (context : Log.Recordable session.context) (lists : session.Lists settings names) :
    let filter := (session.queries.snapshot mark).filter
    let reported := report settings.recursiveCheck names filter
    (∀ name ∈ reported, name ∈ names ∧ name ∈ measuring.map FieldOperator.key) ∧
    (reported = [] → ∀ records : List Value, (∀ record ∈ records, record.Moderate) →
      (process mark (.list records) session).1 =
        ⟨.list records, .ok (.list (records.filter (isMatch (.mapping filter))))⟩) ∧
    (∀ record : Value, record.Moderate → TestsMeasures record) ∧
    (∀ (measure : Measure) (found : Reached), found.items? = none →
      (∀ value, found = .value value → value.isNumber = false) → ¬ measure.Holds found) ∧
    ∀ divisor remainder number : Int, divisor ≠ 0 →
      (Matching.Leaves (.int divisor) (.int remainder) (.int number) ↔
        number.fmod divisor = remainder) := by
  intro filter reported
  have permitted : Reachable (Call.Brings MeasuredEntry) session :=
    reachable.mono fun _ => Call.Measures.brings
  have measured : ∀ entry ∈ filter, MeasuredEntry entry :=
    (permitted.each entrywise_measured).snapshot mark
  have only : (session.queries.snapshot mark).FilterOnly :=
    (reachable.invariant QueryStore.FilterOnly (List.forall_mem_nil _)
      fun _ _ _ only _ measures change => only.of_change measures change).snapshot mark
  refine ⟨fun name => measuring_of_report measured, fun none records moderate => ?_,
    fun record => testsMeasures, fun measure found noList noNumber => ?_,
    fun divisor remainder number nonzero => leaves_int_iff nonzero remainder number⟩
  · have ran := only.run (areFolded_of_measured measured) fun record member =>
      satisfies_isOk measured (moderate record member)
    rw [process_eq _ context (lists.requireSupport_passes none), ran]
    rfl
  · exact measure.not_holds noList noNumber

/-- Options for the lists of two items under `b`. -/
def pairs : Entries :=
  [(.text "filter", .mapping [(.text "b", .mapping [(.text "$size", .int 2)])])]

def remainders : Session :=
  (Call.constrain 0 (.text "a") (.mod (.int 3) (.int 1))).after
    ((Call.create (.value .null)).after quiet)

/-- The query, or the pairs under `b`. -/
def alternatives : Session := (Call.join 0 .or [.value (.mapping pairs)]).after remainders

/-- The arguments are in the floating-point range, so they are written as they are. -/
theorem remainders_eq : remainders = ((Call.create (.value .null)).after quiet).withQueries
    (((Call.create (.value .null)).after quiet).queries.edit 0 "a"
      [.put .mod (.list [.int 3, .int 1])]).1 := by
  have divisor : Argument.number (.int 3) "divisor" = .ok (.int 3) :=
    Argument.number_int (by decide +kernel) _
  have remainder : Argument.number (.int 1) "remainder" = .ok (.int 1) :=
    Argument.number_int (by decide +kernel) _
  have written : FieldOperation.modEdits (.int 3) (.int 1) =
      .ok [.put .mod (.list [.int 3, .int 1])] := by
    rw [FieldOperation.modEdits, divisor, remainder]
    cbv
  have checked : perform (checkedEdits (.text "a") (.mod (.int 3) (.int 1)))
      ((Call.create (.value .null)).after quiet) =
        (.ok ("a", [.put .mod (.list [.int 3, .int 1])]),
          (Call.create (.value .null)).after quiet) := by
    simp only [checkedEdits, limitFor, FieldOperation.usesPointLimit, FieldOperation.edits, written]
    rfl
  rw [remainders]
  generalize (Call.create (.value .null)).after quiet = made at checked ⊢
  rw [Call.after, perform_constrain, checked]

/-- Records with values of many kinds, of which the second one has a remainder among its items and
the third one a pair. -/
def mixed : List Value :=
  [.mapping [(.text "a", .text "4")],
    .mapping [(.text "a", .list [.null, .int (-2)])],
    .mapping [(.text "a", .bool true), (.text "b", .tuple [.int 1, .null])],
    .mapping []]

theorem reachable_alternatives : Reachable Call.Measures alternatives := by
  have brings : Session.Brings MeasuredEntry (.value (.mapping pairs)) := by
    have read : Snapshot.parse (.mapping pairs) =
        .ok ⟨[], [(.text "b", .mapping [(.text "$size", .int 2)])], [], 0, none⟩ := by cbv
    intro snapshot resolved
    obtain rfl := Except.ok.inj (read.symm.trans resolved)
    refine List.forall_mem_singleton.mpr ?_
    exact .field rfl (List.forall_mem_singleton.mpr ⟨.size 2, trivial, rfl⟩)
  have made : (Call.create (.value .null)).Measures := by
    constructor <;> rintro snapshot ⟨⟩
    · exact List.forall_mem_nil _
    · rfl
  have measured : (Call.constrain 0 (.text "a") (.mod (.int 3) (.int 1))).Measures := by
    refine ⟨?_, trivial⟩
    rintro name ⟨⟩
    decide
  refine .call (.call (.call (.start rfl) trivial made) ?_ measured) ⟨?_, by simp [IsThere]⟩
    (List.forall_mem_singleton.mpr brings)
  · change 0 < _
    cbv
  · rw [remainders_eq]
    cbv

theorem moderate_mixed : ∀ record ∈ mixed, record.Moderate := by
  have whole {number : Int} (inRange : (Binary64.ofInt? number).isSome = true) :
      (Value.int number).Moderate := by
    refine .whole ?_ (List.forall_mem_nil _)
    rintro ⟨_, ⟨⟩, beyond⟩
    simp [beyond] at inRange
  have other {value : Value} (noInt : ∀ number, value ≠ .int number)
      (parts : ∀ part ∈ value.parts, part.Moderate) : value.Moderate := by
    refine .whole ?_ parts
    rintro ⟨_, rfl, -⟩
    exact noInt _ rfl
  have text (name : String) : (Value.text name).Moderate := other (by simp) (by simp [Value.parts])
  have null : Value.null.Moderate := other (by simp) (by simp [Value.parts])
  have bool (flag : Bool) : (Value.bool flag).Moderate := other (by simp) (by simp [Value.parts])
  have first : (Value.int 1).Moderate := whole (by decide +kernel)
  have second : (Value.int (-2)).Moderate := whole (by decide +kernel)
  have list : (Value.list [.null, .int (-2)]).Moderate :=
    other (by simp) (by simp [Value.parts, null, second])
  have tuple : (Value.tuple [.int 1, .null]).Moderate :=
    other (by simp) (by simp [Value.parts, null, first])
  simp only [mixed, List.forall_mem_cons]
  refine ⟨?_, ?_, ?_, ?_, List.forall_mem_nil _⟩ <;>
    exact other (by simp) (by simp [Value.parts, text, bool, list, tuple])

/-- Only the records that satisfy the query are given, and those of other kinds do not fail it. -/
theorem mixed_records_are_tested :
    Reachable Call.Measures alternatives ∧ (∀ record ∈ mixed, record.Moderate) ∧
      (process 0 (.list mixed) alternatives).1 = ⟨.list mixed, .ok (.list
        [.mapping [(.text "a", .list [.null, .int (-2)])],
          .mapping [(.text "a", .bool true), (.text "b", .tuple [.int 1, .null])]])⟩ := by
  have context : Log.Recordable alternatives.context := by
    rw [alternatives, remainders_eq]
    exact ⟨by cbv, by cbv; simp⟩
  have loaded : alternatives.settings? = some ⟨Settings.defaultFile, Settings.defaults⟩ := by
    rw [alternatives, remainders_eq]
    cbv
  have filter : (alternatives.queries.snapshot 0).filter = [(.text "$or", .list
      [.mapping [(.text "a", .mapping [(.text "$mod", .list [.int 3, .int 1])])],
        .mapping [(.text "b", .mapping [(.text "$size", .int 2)])]])] := by
    rw [alternatives, remainders_eq]
    cbv
  have lists : alternatives.Lists ⟨Settings.defaultFile, Settings.defaults⟩ ["$nearSphere"] :=
    ⟨by rw [Settings.perform_shared_of_loaded loaded], by cbv⟩
  have evaluated := (measures_never_fail reachable_alternatives context lists).2.1
    (by rw [filter]; cbv) mixed moderate_mixed
  refine ⟨reachable_alternatives, moderate_mixed, ?_⟩
  rw [evaluated, filter]
  cbv

end Session

end RecordQuery
