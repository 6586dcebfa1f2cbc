import RecordQuery.Proofs.Filter.Occurring
import RecordQuery.Proofs.Matching.Agreement
import RecordQuery.Proofs.Query.Evaluation
import RecordQuery.Proofs.Query.Parameters
import RecordQuery.Proofs.Store.Proper

/-!
# Equal queries

Equality of queries does not see the order of entries nor the forms of numbers. Evaluation does,
where the sort decides between records, and under the operators whose arguments count as they are
written. Equal queries that sort by the same fields in the same order and have identical arguments
of these operators give the same records, unless one of them fails. They are sent with the same
parameters but for the text of the filter.
-/

namespace RecordQuery

open Matching

namespace Snapshot

theorem part_same {left right : Entries} (same : (Value.mapping left).same (.mapping right) = true)
    (different : Value.Different (right.map Prod.fst)) {name : String} {part other : Value}
    (member : (.text name, part) ∈ left) (otherMember : (.text name, other) ∈ right) :
    part.same other = true := by
  obtain ⟨_, ⟨⟩, -, within⟩ := Value.same_mapping same
  obtain ⟨⟨key, found⟩, foundMember, keys, values⟩ := within _ member
  obtain rfl : key = .text name := Value.text_same.mp keys
  have here := (Entries.get?_eq_some_iff different).mpr foundMember
  rw [(Entries.get?_eq_some_iff different).mpr otherMember] at here
  rwa [Option.some.inj here]

theorem different_toEntries (snapshot : Snapshot) :
    Value.Different (snapshot.toEntries.map Prod.fst) := by
  simp [Value.Different, toEntries, Value.same]

theorem texts_of_same {lefts rights : List String}
    (same : (Value.list (lefts.map .text)).same (.list (rights.map .text)) = true) :
    lefts = rights := by
  rw [Value.same, Value.sameItems_iff, List.forall₂_map_left_iff,
    List.forall₂_map_right_iff] at same
  exact List.forall₂_eq_eq_eq ▸ same.imp fun _ _ same =>
    (Value.text.inj (Value.text_same.mp same)).symm

theorem numbers_of_same {left right : Nat}
    (same : (Value.int left).same (.int right) = true) : left = right := by
  simpa [Value.same, Value.point?] using same

theorem parts_of_same {left right : Snapshot}
    (same : (Value.mapping left.toEntries).same (.mapping right.toEntries) = true) :
    left.fields = right.fields ∧
      (Value.mapping left.filter).same (.mapping right.filter) = true ∧
      left.skip = right.skip ∧ left.limit = right.limit := by
  have different := different_toEntries right
  have fields := part_same same different (.head _) (.head _)
  have filters := part_same same different (.tail _ (.head _)) (.tail _ (.head _))
  have skips := part_same same different (.tail _ (.tail _ (.tail _ (.head _))))
    (.tail _ (.tail _ (.tail _ (.head _))))
  have limits := part_same same different (.tail _ (.tail _ (.tail _ (.tail _ (.head _)))))
    (.tail _ (.tail _ (.tail _ (.tail _ (.head _)))))
  refine ⟨texts_of_same fields, filters, numbers_of_same skips, ?_⟩
  cases first : left.limit with
  | none =>
      cases second : right.limit with
      | none => rfl
      | some limit => simp [first, second, Value.same, Value.point?] at limits
  | some limit =>
      cases second : right.limit with
      | none => simp [first, second, Value.same, Value.point?] at limits
      | some other =>
          simp only [first, second] at limits
          exact congrArg some (numbers_of_same limits)

end Snapshot

namespace Records.Pipeline

theorem marks_agree {left right : Value} (akin : Akin left right) (records : List Value) :
    Agree (marks left records) (marks right records) := by
  induction records with
  | nil => exact .of_eq rfl
  | cons record rest inductionHypothesis =>
      have first := satisfies_agree akin record
      rw [marks, marks]
      cases leftMark : satisfies left record with
      | error failure => exact .of_error_left
      | ok mark =>
          cases rightMark : satisfies right record with
          | error failure => exact .of_error_right
          | ok other =>
              obtain rfl := first mark other leftMark rightMark
              exact inductionHypothesis.map _

/-- Of akin filters both are refused before any record is tested, for one reason, or neither. -/
theorem build_agree {left right : Entries} (akin : Akin (.mapping left) (.mapping right)) :
    (∃ failure, build (.mapping left) = .error failure ∧ build (.mapping right) = .error failure) ∨
      ∃ first second, build (.mapping left) = .ok first ∧ build (.mapping right) = .ok second := by
  have folded : areFolded left = areFolded right := akin.folded.1
  rw [build, build, folded]
  split
  · exact .inr ⟨_, _, rfl, rfl⟩
  · exact .inl ⟨_, rfl, rfl⟩

theorem test_congr {left right : Snapshot}
    (filters : Akin (.mapping left.filter) (.mapping right.filter)) {records : List Value}
    {lefts rights : List Bool} (leftMarks : marks (.mapping left.filter) records = .ok lefts)
    (rightMarks : marks (.mapping right.filter) records = .ok rights) :
    test left records = test right records := by
  obtain rfl := marks_agree filters records lefts rights leftMarks rightMarks
  rw [test, test]
  rcases build_agree filters with ⟨failure, one, other⟩ | ⟨first, second, one, other⟩
  · rw [one, other]
    rfl
  · rw [one, other]
    exact leftMarks.trans rightMarks.symm

/-- Where akin filters can be tested, pipelines that differ in nothing else do the same. -/
theorem run_eq {left right : Snapshot}
    (filters : Akin (.mapping left.filter) (.mapping right.filter))
    (fields : left.fields = right.fields) (sort : left.sort = right.sort)
    (skip : left.skip = right.skip) (limit : left.limit = right.limit) {records : List Value}
    {lefts rights : List Bool} (leftMarks : marks (.mapping left.filter) records = .ok lefts)
    (rightMarks : marks (.mapping right.filter) records = .ok rights) :
    run left records = run right records := by
  have tests := test_congr filters leftMarks rightMarks
  simp only [run, tests, fields, arrange, sort, skip, limit]

end Records.Pipeline

namespace Session

open RecordQuery.Action Records

variable {session : Session} {mark other : Mark}

theorem parts_of_equal {store : QueryStore} (equal : store.same mark other = true) :
    (store.snapshot mark).fields = (store.snapshot other).fields ∧
      (Value.mapping (store.snapshot mark).filter).same
        (.mapping (store.snapshot other).filter) = true ∧
      (store.snapshot mark).skip = (store.snapshot other).skip ∧
      (store.snapshot mark).limit = (store.snapshot other).limit := by
  rw [QueryStore.same, Bool.or_eq_true] at equal
  rcases equal with root | equal
  · rw [QueryStore.snapshot_congr (eq_of_beq root)]
    exact ⟨rfl, Value.same_refl _, rfl, rfl⟩
  · exact Snapshot.parts_of_same (Bool.and_eq_true_iff.mp equal).2

/-- Queries with akin filters and the same of everything else. -/
structure AkinQueries (store : QueryStore) (mark other : Mark) : Prop where
  fields : (store.snapshot mark).fields = (store.snapshot other).fields
  filter : Akin (.mapping (store.snapshot mark).filter)
    (.mapping (store.snapshot other).filter)
  sort : (store.snapshot mark).sort = (store.snapshot other).sort
  skip : (store.snapshot mark).skip = (store.snapshot other).skip
  limit : (store.snapshot mark).limit = (store.snapshot other).limit

def Testable (session : Session) (mark : Mark) (records : Value) : Prop :=
  ∀ items, records.items? = some items → ∀ record ∈ items,
    ∃ result, satisfies (.mapping (session.queries.snapshot mark).filter) record = .ok result

/-- What two queries do with records is the same. -/
structure EvaluatesAlike (session : Session) (mark other : Mark) : Prop where
  supported : perform (requireSupport mark) session = perform (requireSupport other) session
  /-- If both filters can be tested on all records, evaluation has one outcome: result or failure,
  the records it leaves, and the log. -/
  tested : ∀ records, Testable session mark records → Testable session other records →
    process mark records session = process other records session
  succeeded : ∀ records later found again, later.queries = session.queries →
    (process mark records session).1.result = .ok found →
    (process other records later).1.result = .ok again →
    (process mark records session).1 = (process other records later).1

theorem requireSupport_congr (akin : AkinQueries session.queries mark other) :
    perform (requireSupport mark) session = perform (requireSupport other) session := by
  have same : perform (unsupportedOperators mark) session =
      perform (unsupportedOperators other) session := by
    simp only [perform_unsupportedOperators, Filter.occurring_congr _ _ akin.filter]
  rw [requireSupport, requireSupport, perform_bind, perform_bind, same]

theorem process_congr_of_run {records : Value} (supported : perform (requireSupport mark) session =
      perform (requireSupport other) session)
    (run : ∀ items, records.items? = some items →
      Pipeline.run (session.queries.snapshot mark) items =
        Pipeline.run (session.queries.snapshot other) items) :
    process mark records session = process other records session := by
  have queries := (requireSupport_keeps other session).1
  rw [process, process, supported]
  rcases checked : perform (requireSupport other) session with ⟨refused | _, after⟩
  · rfl
  · rw [checked] at queries
    cases held : records.items? with
    | none => cases records <;> rfl
    | some items =>
        have evaluated : evaluate (after.queries.snapshot mark) items =
            evaluate (after.queries.snapshot other) items := by
          funext session
          rw [evaluate, evaluate, queries, run items held]
        have listed : processItems mark records items after =
            processItems other records items after := by
          rw [processItems, processItems, evaluated]
        cases records with
        | null => rfl
        | _ => exact listed

theorem AkinQueries.evaluatesAlike (akin : AkinQueries session.queries mark other) :
    EvaluatesAlike session mark other := by
  have run {items : List Value} {lefts rights : List Bool}
      (leftMarks : Pipeline.marks (.mapping (session.queries.snapshot mark).filter) items =
        .ok lefts)
      (rightMarks : Pipeline.marks (.mapping (session.queries.snapshot other).filter) items =
        .ok rights) :
      Pipeline.run (session.queries.snapshot mark) items =
        Pipeline.run (session.queries.snapshot other) items :=
    Pipeline.run_eq akin.filter akin.fields akin.sort akin.skip akin.limit leftMarks rightMarks
  have supported := requireSupport_congr akin
  refine ⟨supported, ?_, ?_⟩
  · intro records leftTests rightTests
    refine process_congr_of_run supported fun items held => ?_
    obtain ⟨lefts, leftMarks⟩ := Pipeline.marks_of_tests (leftTests items held)
    obtain ⟨rights, rightMarks⟩ := Pipeline.marks_of_tests (rightTests items held)
    exact run leftMarks rightMarks
  · intro records later found again same leftOk rightOk
    rcases process_succeeded leftOk with ⟨rfl, left⟩ | ⟨items, leftList, held, leftRun, left⟩
    · rcases process_succeeded rightOk with ⟨-, right⟩ | ⟨_, _, held, -⟩
      · rw [left, right]
      · contradiction
    · rcases process_succeeded rightOk with ⟨rfl, -⟩ | ⟨_, rightList, otherHeld, rightRun, right⟩
      · contradiction
      · obtain rfl := Option.some.inj (held.symm.trans otherHeld)
        rw [same] at rightRun right
        obtain ⟨lefts, leftMarks⟩ := Pipeline.marks_of_run leftRun
        obtain ⟨rights, rightMarks⟩ := Pipeline.marks_of_run rightRun
        have equal := run leftMarks rightMarks
        rw [← equal] at rightRun right
        obtain rfl := Except.ok.inj (leftRun.symm.trans rightRun)
        rw [left, right]

theorem perform_parameters (mark : Mark) (session : Session) :
    (perform (parameters mark) session).1 =
      Parameters.ofQuery (session.queries.snapshot mark).toEntries := by
  simp only [parameters, snapshot, perform_bind, perform_get, perform_pure, perform_lift]

/-- Two queries are sent with the same names and texts, or both fail to be written. The texts of
their filters are the same up to the order of members if the filters are identical up to the order
of entries. -/
def SentAlike (session : Session) (mark other : Mark) : Prop :=
  Parameters.Alike
    (fun text again => Value.Rearranged (.mapping (session.queries.snapshot mark).filter)
        (.mapping (session.queries.snapshot other).filter) →
      Json.Reordered text.toList again.toList)
    (perform (parameters mark) session).1 (perform (parameters other) session).1

/-- Equal queries that sort by the same fields in the same order are evaluated alike, if their
filters have identical arguments of literal operators and aligned times, and are sent alike. -/
theorem equal_queries_are_used_alike {session : Session}
    (reachable : Reachable Call.GivesProper session) {mark other : Mark}
    (equal : session.queries.same mark other = true)
    (sort : (session.queries.snapshot mark).sort = (session.queries.snapshot other).sort) :
    (KeepsLiterals (.mapping (session.queries.snapshot mark).filter)
        (.mapping (session.queries.snapshot other).filter) → EvaluatesAlike session mark other) ∧
      SentAlike session mark other := by
  obtain ⟨fields, filters, skip, limit⟩ := parts_of_equal equal
  have left := reachable.proper.snapshot mark
  have right := reachable.proper.snapshot other
  constructor
  · intro literals
    exact AkinQueries.evaluatesAlike ⟨fields, ⟨left, right, filters, literals⟩, sort, skip, limit⟩
  · rw [SentAlike, perform_parameters, perform_parameters]
    exact Parameters.ofQuery_toEntries_alike left right filters fields sort skip limit

def twoQueries (first second : Entries) : Session :=
  (Call.create (.value (.mapping second))).after
    ((Call.create (.value (.mapping first))).after quiet)

theorem reachable_twoQueries {first second : Entries} (firstProper : (Value.mapping first).Proper)
    (secondProper : (Value.mapping second).Proper) :
    Reachable Call.GivesProper (twoQueries first second) :=
  .call (.call (.start rfl) trivial firstProper) trivial secondProper

def asksOne : Value × Value := (.text "a", .mapping [(.text "$eq", .int 1)])
def asksEven : Value × Value := (.text "b", .mapping [(.text "$mod", .list [.int 2, .int 0])])

def reordered : Session :=
  twoQueries [(.text "filter", .mapping [asksOne, asksEven])]
    [(.text "filter", .mapping [asksEven, asksOne])]

theorem proper_conditions : (Value.mapping [asksOne, asksEven]).Proper := by
  refine .mapping (by simp [Value.Different, asksOne, asksEven, Value.same]) ?_
  have pair : (Value.list [.int 2, .int 0]).Proper :=
    .list (by simpa using ⟨.simple rfl, .simple rfl⟩)
  simpa [asksOne, asksEven] using
    ⟨⟨.simple rfl, .single (.simple rfl)⟩, .simple rfl, .single pair⟩

theorem reordered_queries_are_used_alike :
    EvaluatesAlike reordered 0 1 ∧
      Parameters.Alike (fun text again => Json.Reordered text.toList again.toList)
        (perform (parameters 0) reordered).1 (perform (parameters 1) reordered).1 := by
  have order : [asksOne, asksEven].Perm [asksEven, asksOne] := .swap _ _ _
  have reachable : Reachable Call.GivesProper reordered :=
    reachable_twoQueries (.single proper_conditions) (.single (proper_conditions.perm order))
  have first : (reordered.queries.snapshot 0).filter = [asksOne, asksEven] := by cbv
  have second : (reordered.queries.snapshot 1).filter = [asksEven, asksOne] := by cbv
  obtain ⟨evaluated, sent⟩ :=
    @equal_queries_are_used_alike reordered reachable 0 1 (by cbv) (by cbv)
  rw [SentAlike] at sent
  rw [first, second] at evaluated sent
  exact ⟨evaluated (Akin.keepsLiterals_of_perm proper_conditions order),
    sent.imp fun _ _ implies => implies (Value.rearranged_of_perm order)⟩

/-- Queries that sort by the same fields in two orders. -/
def sortedApart : Session :=
  twoQueries [(.text "sort", .mapping [(.text "a", .int 1), (.text "b", .int 1)])]
    [(.text "sort", .mapping [(.text "b", .int 1), (.text "a", .int 1)])]

/-- Queries for a remainder by one, written as a number and as a truth value. -/
def dividedApart : Session :=
  twoQueries
    [(.text "filter", .mapping [(.text "a", .mapping [(.text "$mod", .list [.int 1, .int 0])])])]
    [(.text "filter", .mapping [(.text "a", .mapping [(.text "$mod",
      .list [.bool true, .int 0])])])]

/-- Queries that ask for `a` and cannot test `b`, in two orders. -/
def testedApart : Session :=
  twoQueries
    [(.text "filter", .mapping [(.text "a", .int 1),
      (.text "b", .mapping [(.text "$unknown", .int 1)])])]
    [(.text "filter", .mapping [(.text "b", .mapping [(.text "$unknown", .int 1)]),
      (.text "a", .int 1)])]

def writtenApart : Session :=
  twoQueries [(.text "filter", .mapping [(.text "a", .int 1)])]
    [(.text "filter", .mapping [(.text "a", .bool true)])]

/-- Equal queries that list the same records in two orders, keep different records, fail to test or
do not, and are sent with different texts. -/
theorem equal_queries_can_be_used_differently :
    (sortedApart.queries.same 0 1 = true ∧
      (process 0 (.list (numbered (.int 2) (.int 1))) sortedApart).1.result =
        .ok (.list (numbered (.int 2) (.int 1)).reverse) ∧
      (process 1 (.list (numbered (.int 2) (.int 1))) sortedApart).1.result =
        .ok (.list (numbered (.int 2) (.int 1)))) ∧
    (dividedApart.queries.same 0 1 = true ∧
      (process 0 (.list (numbered (.int 2) (.int 1))) dividedApart).1.result =
        .ok (.list (numbered (.int 2) (.int 1))) ∧
      (process 1 (.list (numbered (.int 2) (.int 1))) dividedApart).1.result = .ok (.list [])) ∧
    (testedApart.queries.same 0 1 = true ∧
      (process 0 (.list (numbered (.int 2) (.int 3))) testedApart).1.result = .ok (.list []) ∧
      (process 1 (.list (numbered (.int 2) (.int 3))) testedApart).1.result =
        .error (.untestable (.unknownOperator (.text "$unknown")))) ∧
    writtenApart.queries.same 0 1 = true ∧
      (perform (parameters 0) writtenApart).1 =
        .ok [("query", "\x7b\"a\":\x7b\"$eq\":1\x7d\x7d")] ∧
      (perform (parameters 1) writtenApart).1 =
        .ok [("query", "\x7b\"a\":\x7b\"$eq\":true\x7d\x7d")] := by
  refine ⟨⟨by cbv, ?_, ?_⟩, ⟨by cbv, ?_, ?_⟩, ⟨by cbv, ?_, ?_⟩, by cbv, by cbv, by cbv⟩
  all_goals
    rw [process_eq _ ⟨by cbv, by cbv; simp⟩ (by cbv)]
    cbv

end Session

end RecordQuery
