import RecordQuery.Proofs.Records.Sorting
import RecordQuery.Records.Pipeline

/-!
# Failed evaluations of records

Matching leaves records alone, and so does everything where no fields are listed. Once records were
cut down to fields, two things can still fail: the cut of a later record that is no mapping, and the
comparison of two records under a sort path.
-/

namespace RecordQuery.Records

/-- Two records that cannot be compared under a path: a part of the path is made of digits but is no
numeral, or what the records have there has no order and no JSON text either. -/
def Incomparable (left right : Value) (path : String) : Prop :=
  (∃ part ∈ Text.pathParts path, isIndex part = true ∧ Numeral.integer? part.toList = none) ∨
    ∃ first second, lookup left path = .ok (some first) ∧ lookup right path = .ok (some second) ∧
      first.less? second = none ∧ ∃ failure, compareEncoded first second = .error failure

theorem numeral_of_lookupParts {parts : List String} {current : Value} {failure : Failure}
    (failed : lookupParts current parts = .error failure) :
    ∃ part ∈ parts, isIndex part = true ∧ Numeral.integer? part.toList = none := by
  induction parts generalizing current with
  | nil => contradiction
  | cons part rest inductionHypothesis =>
      rw [lookupParts] at failed
      cases entered : stepInto current part with
      | error other =>
          refine ⟨part, List.mem_cons_self, ?_⟩
          cases current with
          | list items | tuple items =>
              rw [stepInto] at entered
              split at entered
              · split at entered
                · contradiction
                · exact ⟨‹_›, ‹_›⟩
              · contradiction
          | _ => contradiction
      | ok next? =>
          rw [entered] at failed
          cases next? with
          | none => contradiction
          | some next =>
              obtain ⟨inner, member, shape⟩ := inductionHypothesis failed
              exact ⟨inner, List.mem_cons_of_mem _ member, shape⟩

theorem incomparable_of_comparePath {left right : Value} {path : String} {failure : Failure}
    (failed : comparePath left right path = .error failure) : Incomparable left right path := by
  rw [comparePath] at failed
  split at failed
  · exact .inl (numeral_of_lookupParts ‹_›)
  · exact .inl (numeral_of_lookupParts ‹_›)
  · contradiction
  · contradiction
  · contradiction
  · rename_i first second leftFound rightFound
    refine .inr ⟨first, second, leftFound, rightFound, ?_⟩
    cases compared : compareValues first second with
    | ok sign => simp [compared, Except.map] at failed
    | error other =>
        rw [compareValues] at compared
        split at compared
        · contradiction
        · split at compared
          · contradiction
          · cases ordered : first.less? second with
            | some below => simp [ordered] at compared
            | none =>
                rw [ordered] at compared
                exact ⟨rfl, other, compared⟩

theorem compareRecords_cons (left right : Value) (path : String) (direction : Direction)
    (rest : SortOrder) :
    compareRecords left right (SortOrder.toEntries ((path, direction) :: rest)) =
      match comparePath left right path with
      | .error failure => .error failure
      | .ok .tied => compareRecords left right rest.toEntries
      | .ok (.fixed sign) => .ok (.int sign)
      | .ok (.directed sign) => .ok (.int (sign * direction.toInt)) :=
  rfl

/-- Records are compared under the paths of a sort, or some path cannot compare them. -/
theorem compareRecords_cases (sort : SortOrder) (left right : Value) :
    (∃ sign, compareRecords left right sort.toEntries = .ok (.int sign)) ∨
      ∃ entry ∈ sort, Incomparable left right entry.1 := by
  induction sort with
  | nil => exact .inl ⟨0, rfl⟩
  | cons entry rest inductionHypothesis =>
      rcases entry with ⟨path, direction⟩
      rw [compareRecords_cons]
      cases compared : comparePath left right path with
      | error failure =>
          exact .inr ⟨_, List.mem_cons_self, incomparable_of_comparePath compared⟩
      | ok verdict =>
          cases verdict with
          | tied =>
              refine inductionHypothesis.imp_right ?_
              rintro ⟨other, member, apart⟩
              exact ⟨other, List.mem_cons_of_mem _ member, apart⟩
          | fixed sign => exact .inl ⟨sign, rfl⟩
          | directed sign => exact .inl ⟨_, rfl⟩

/-- Sorting fails only as two of the records cannot be compared under a path. -/
theorem incomparable_of_sortRecords {sort : SortOrder} {records : List Value} {failure : Failure}
    (failed : sortRecords sort.toEntries records = .error failure) :
    ∃ left ∈ records, ∃ right ∈ records, ∃ entry ∈ sort, Incomparable left right entry.1 := by
  rw [sortRecords] at failed
  split at failed
  · contradiction
  · have sorted : Rearranges (precedes sort.toEntries) _ _ _ := rearranges_sortBy records
    rw [failed] at sorted
    obtain ⟨left, leftMember, right, rightMember, compared⟩ := sorted
    refine ⟨left, leftMember, right, rightMember, ?_⟩
    rcases compareRecords_cases sort left right with ⟨sign, same⟩ | apart
    · simp [precedes, same, Value.less?, Value.isNumeric, Value.point?] at compared
    · exact apart

namespace Pipeline

theorem test_eq_ok {snapshot : Snapshot} {records : List Value} {tested : List Bool}
    (passed : test snapshot records = .ok tested) :
    (∃ entries, Matching.build (.mapping snapshot.filter) = .ok entries) ∧
      marks (.mapping snapshot.filter) records = .ok tested := by
  rw [test] at passed
  cases built : Matching.build (.mapping snapshot.filter) with
  | error failure => rw [built] at passed; contradiction
  | ok entries => rw [built] at passed; exact ⟨⟨entries, rfl⟩, passed⟩

theorem test_eq_marks {snapshot : Snapshot} {entries : Entries} (records : List Value)
    (built : Matching.build (.mapping snapshot.filter) = .ok entries) :
    test snapshot records = marks (.mapping snapshot.filter) records := by
  rw [test, built]
  rfl

theorem test_of_run {snapshot : Snapshot} {records found : List Value}
    (succeeded : (run snapshot records).result = .ok found) :
    ∃ tested, test snapshot records = .ok tested := by
  rw [run] at succeeded
  cases result : test snapshot records with
  | error failure => simp [result] at succeeded
  | ok tested => exact ⟨tested, rfl⟩

theorem marks_of_run {snapshot : Snapshot} {records found : List Value}
    (succeeded : (run snapshot records).result = .ok found) :
    ∃ tested, marks (.mapping snapshot.filter) records = .ok tested :=
  (test_of_run succeeded).imp fun _ passed => (test_eq_ok passed).2

theorem marks_cons_eq_ok {filter record : Value} {rest : List Value} {tested : List Bool}
    (passed : marks filter (record :: rest) = .ok tested) :
    ∃ mark others, Matching.satisfies filter record = .ok mark ∧ marks filter rest = .ok others ∧
      tested = mark :: others := by
  rw [marks] at passed
  cases first : Matching.satisfies filter record with
  | error failure => simp [first] at passed
  | ok mark =>
      cases remaining : marks filter rest with
      | error failure => simp [first, remaining, Except.map] at passed
      | ok others =>
          rw [first, remaining] at passed
          exact ⟨mark, others, rfl, rfl, (Except.ok.inj passed).symm⟩

theorem tests_of_marks {filter : Value} {records : List Value} {tested : List Bool}
    (passed : marks filter records = .ok tested) :
    ∀ record ∈ records, ∃ mark, Matching.satisfies filter record = .ok mark := by
  induction records generalizing tested with
  | nil => simp
  | cons record rest inductionHypothesis =>
      obtain ⟨mark, others, first, remaining, rfl⟩ := marks_cons_eq_ok passed
      exact List.forall_mem_cons.mpr ⟨⟨mark, first⟩, inductionHypothesis remaining⟩

theorem marks_of_tests {filter : Value} {records : List Value}
    (testable : ∀ record ∈ records, ∃ mark, Matching.satisfies filter record = .ok mark) :
    ∃ tested, marks filter records = .ok tested := by
  induction records with
  | nil => exact ⟨[], rfl⟩
  | cons record rest inductionHypothesis =>
      obtain ⟨⟨mark, first⟩, others⟩ := List.forall_mem_cons.mp testable
      obtain ⟨tested, rest⟩ := inductionHypothesis others
      exact ⟨mark :: tested, by rw [marks, first, rest]; rfl⟩

end Pipeline

/-- Cutting fails only at a record that is no mapping. -/
theorem exists_of_project {keep records : List Value} {failure : Failure}
    (failed : (project keep records).failure? = some failure) :
    ∃ record ∈ records, record.entries? = none := by
  rw [project] at failed
  split at failed
  · contradiction
  · induction records with
    | nil => contradiction
    | cons record rest inductionHypothesis =>
        rw [cutAll] at failed
        cases stopped : (cut keep record).failure? with
        | some other =>
            refine ⟨record, List.mem_cons_self, ?_⟩
            cases record with
            | mapping entries => contradiction
            | _ => rfl
        | none =>
            simp only [stopped] at failed
            obtain ⟨other, member, shape⟩ := inductionHypothesis failed
            exact ⟨other, List.mem_cons_of_mem _ member, shape⟩

namespace Pipeline

theorem replaceMarked_marked {α : Type} (marks : List Bool) (members : List α) :
    replaceMarked marks members (marked marks members) = members := by
  induction marks generalizing members with
  | nil => rfl
  | cons mark rest inductionHypothesis =>
      cases members with
      | nil => cases mark <;> rfl
      | cons member others => cases mark <;> simp [replaceMarked, marked, inductionHypothesis]

/-- The records that satisfy the filter were cut down to fields, and then one that is no mapping
could not be cut, or two could not be compared under a sort path. -/
def FailsAfterCut (snapshot : Snapshot) (records : List Value) : Prop :=
  snapshot.fields ≠ [] ∧ ∃ found, marks (.mapping snapshot.filter) records = .ok found ∧
    ((∃ record ∈ marked found records, record.entries? = none) ∨
      ∃ left ∈ (project (snapshot.fields.map .text) (marked found records)).result,
        ∃ right ∈ (project (snapshot.fields.map .text) (marked found records)).result,
          ∃ entry ∈ snapshot.sort, Incomparable left right entry.1)

/-- A failed evaluation leaves the records as they were, unless they had been cut before. -/
theorem records_of_failed_run {snapshot : Snapshot} {records : List Value} {failure : Failure}
    (failed : (run snapshot records).result = .error failure) :
    (run snapshot records).records = records ∨ FailsAfterCut snapshot records := by
  rw [run] at failed ⊢
  cases tested : test snapshot records with
  | error other => exact .inl rfl
  | ok found =>
      by_cases whole : snapshot.fields = []
      · left
        simp only [whole, List.map_nil, project, List.isEmpty_nil, if_true]
        exact replaceMarked_marked found records
      · right
        refine ⟨whole, found, (test_eq_ok tested).2, ?_⟩
        simp only [tested] at failed
        cases stopped : (project (snapshot.fields.map .text) (marked found records)).failure? with
        | some other => exact .inl (exists_of_project stopped)
        | none =>
            simp only [stopped, arrange] at failed
            cases sorted : sortRecords snapshot.sort.toEntries
                (project (snapshot.fields.map .text) (marked found records)).result with
            | ok others => simp [sorted, Except.map] at failed
            | error other => exact .inr (incomparable_of_sortRecords sorted)

end Pipeline

end RecordQuery.Records
