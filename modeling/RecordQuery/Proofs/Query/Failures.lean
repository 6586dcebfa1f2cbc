import RecordQuery.Proofs.Matching.Failures
import RecordQuery.Proofs.Query.Support
import RecordQuery.Proofs.Records.Page

/-!
# Failures of evaluations

Under a valid configuration an evaluation of listed mappings gives a list or refuses the query, with
two exceptions: a record at which an entry of the filter fails without a refusal, and two selected
records that cannot be compared under a sort path.
-/

namespace RecordQuery

open Matching Records

namespace Records.Pipeline

theorem marks_fails (filter : Entries) (records : List Value) :
    FailsBut (fun failure => ∃ record ∈ records,
        Escapes (.mapping (prepareEntries filter)) .guarded (.value record) failure)
      (marks (.mapping filter) records) := by
  induction records with
  | nil => exact .ok []
  | cons record rest inductionHypothesis =>
      rw [marks]
      split
      · rename_i failure failed
        intro other same
        obtain rfl := Except.error.inj same
        apply (satisfies_fails filter record failure failed).imp_right
        intro escapes
        exact ⟨record, List.mem_cons_self, escapes⟩
      · apply FailsBut.map
        apply inductionHypothesis.mono
        rintro failure ⟨other, member, escapes⟩
        exact ⟨other, List.mem_cons_of_mem _ member, escapes⟩

theorem test_fails (snapshot : Snapshot) (records : List Value) :
    FailsBut (fun failure => (failure = .invalidValue ∧ areFolded snapshot.filter = false) ∨
        ∃ record ∈ records,
          Escapes (.mapping (prepareEntries snapshot.filter)) .guarded (.value record) failure)
      (test snapshot records) := by
  by_cases folded : areFolded snapshot.filter = true
  · rw [test_eq_marks records (if_pos folded)]
    exact (marks_fails snapshot.filter records).mono fun _ => .inr
  · have built : build (.mapping snapshot.filter) = .error .invalidValue := if_neg folded
    rw [test, built]
    exact .failed (.inl ⟨rfl, by simpa using folded⟩)

def Unsortable (snapshot : Snapshot) (records : List Value) : Prop :=
  ∃ tested, marks (.mapping snapshot.filter) records = .ok tested ∧
    ∃ left ∈ (project (snapshot.fields.map .text) (marked tested records)).result,
      ∃ right ∈ (project (snapshot.fields.map .text) (marked tested records)).result,
        ∃ entry ∈ snapshot.sort, Incomparable left right entry.1

/-- A failure of the pipeline that is no refusal: no matcher can be made for the filter, as a
pattern cannot be written with its options, an entry of the filter fails at a record, or two records
cannot be compared. -/
def Slips (snapshot : Snapshot) (records : List Value) (failure : Failure) : Prop :=
  (failure = .invalidValue ∧ areFolded snapshot.filter = false) ∨
  (∃ record ∈ records,
    Escapes (.mapping (prepareEntries snapshot.filter)) .guarded (.value record) failure) ∨
  Unsortable snapshot records

theorem run_fails (snapshot : Snapshot) {records : List Value}
    (mappings : ∀ record ∈ records, ∃ entries, record = .mapping entries) :
    FailsBut (Slips snapshot records) (run snapshot records).result := by
  have testing := test_fails snapshot records
  unfold run
  split
  · rename_i failure failed
    intro other same
    obtain rfl := Except.error.inj same
    refine (testing failure failed).imp_right ?_
    exact fun slips => slips.imp_right .inl
  · rename_i tested passed
    have passed := (test_eq_ok passed).2
    dsimp only
    split
    · rename_i failure stopped
      obtain ⟨record, member, shape⟩ := exists_of_project stopped
      rw [marked_eq_filter passed] at member
      obtain ⟨entries, rfl⟩ := mappings record (List.mem_of_mem_filter member)
      contradiction
    · apply FailsBut.map
      intro failure failed
      obtain ⟨left, leftMember, right, rightMember, entry, sorted, apart⟩ :=
        incomparable_of_sortRecords failed
      exact .inr (.inr (.inr ⟨tested, passed, left, leftMember, right, rightMember, entry, sorted,
        apart⟩))

end Records.Pipeline

namespace Session

open RecordQuery.Action

variable {session : Session} {mark : Mark} {settings : Settings} {names : List String}

theorem requireSupport_fails (loaded : (perform Settings.shared session).1 = .ok settings)
    (valid : settings.unsupportedOperators = .ok (names.map .text))
    (context : Log.Recordable session.context) :
    FailsBut (fun _ => False) (perform (requireSupport mark) session).1 := by
  have lists : session.Lists settings names := ⟨loaded, valid⟩
  by_cases none : Filter.report settings.recursiveCheck names
      (session.queries.snapshot mark).filter = []
  · rw [lists.requireSupport_passes none]
    exact .ok ()
  · obtain ⟨failure, refused, named⟩ := lists.requireSupport_refuses none
    rw [refused, named context]
    exact .refused _

theorem result_process (items : List Value) (context : Log.Recordable session.context) :
    (process mark (.list items) session).1.result =
      (perform (requireSupport mark) session).1.bind fun _ =>
        (Pipeline.run (session.queries.snapshot mark) items).result.map .list := by
  cases supported : (perform (requireSupport mark) session).1 with
  | error failure =>
      rcases asked : perform (requireSupport mark) session with ⟨refused | _, after⟩
      · rw [asked] at supported
        rw [process, asked]
        exact congrArg _ (Except.error.inj supported)
      · simp [asked] at supported
  | ok _ =>
      rw [process_eq items context supported]
      rfl

/-- Under a valid configuration, an evaluation of a list of mappings gives a list, refuses the
query, or slips: an entry of the filter fails at a record, or two records cannot be compared. -/
theorem evaluations_refuse_or_slip {items : List Value}
    (loaded : (perform Settings.shared session).1 = .ok settings)
    (valid : settings.unsupportedOperators = .ok (names.map .text))
    (context : Log.Recordable session.context)
    (mappings : ∀ item ∈ items, ∃ entries, item = .mapping entries) :
    (∃ found, (process mark (.list items) session).1.result = .ok (.list found)) ∨
    (∃ fault, (process mark (.list items) session).1.result = .error (.query fault)) ∨
    ∃ failure, (process mark (.list items) session).1.result = .error failure ∧
      Pipeline.Slips (session.queries.snapshot mark) items failure := by
  rw [result_process items context]
  cases supported : (perform (requireSupport mark) session).1 with
  | error failure =>
      rcases requireSupport_fails loaded valid context failure supported with
        ⟨fault, rfl⟩ | impossible
      · exact .inr (.inl ⟨fault, rfl⟩)
      · exact impossible.elim
  | ok _ =>
      cases result : (Pipeline.run (session.queries.snapshot mark) items).result with
      | ok found => exact .inl ⟨found, rfl⟩
      | error failure =>
          right
          apply (Pipeline.run_fails _ mappings failure result).imp
          · rintro ⟨fault, rfl⟩
            exact ⟨fault, rfl⟩
          · intro slips
            exact ⟨failure, rfl, slips⟩

def unlistedChoices : Session :=
  (Call.create (.value (.mapping [(.text "filter",
    .mapping [(.text "a", .mapping [(.text "$in", .int 5)])])]))).after quiet

theorem result_unlistedChoices :
    (process 0 (.list [.mapping [(.text "a", .int 1)]]) unlistedChoices).1.result =
      .error (.wrongKind .choicesNotList) := by
  have context : Log.Recordable unlistedChoices.context := ⟨by cbv, by cbv; simp⟩
  have supported : (perform (requireSupport 0) unlistedChoices).1 = .ok () := by cbv
  rw [process_eq _ context supported]
  cbv

/-- The configuration of the query is valid, and its evaluation slips at the record. -/
theorem unlisted_choices_slip :
    (∃ settings, (perform Settings.shared unlistedChoices).1 = .ok settings ∧
      settings.unsupportedOperators = .ok (["$nearSphere"].map .text)) ∧
    Log.Recordable unlistedChoices.context ∧
    Pipeline.Slips (unlistedChoices.queries.snapshot 0) [.mapping [(.text "a", .int 1)]]
      (.wrongKind .choicesNotList) := by
  have loaded : (perform Settings.shared unlistedChoices).1 =
      .ok ⟨Settings.defaultFile, Settings.defaults⟩ := by cbv
  have valid : Settings.unsupportedOperators ⟨Settings.defaultFile, Settings.defaults⟩ =
      .ok (["$nearSphere"].map .text) := by cbv
  have context : Log.Recordable unlistedChoices.context := ⟨by cbv, by cbv; simp⟩
  refine ⟨⟨_, loaded, valid⟩, context, ?_⟩
  have mappings : ∀ item ∈ [Value.mapping [(.text "a", .int 1)]],
      ∃ entries, item = .mapping entries := by simp
  rcases evaluations_refuse_or_slip loaded valid context mappings with
    ⟨found, given⟩ | ⟨fault, refused⟩ | ⟨failure, failed, slips⟩
  · cases result_unlistedChoices.symm.trans given
  · cases result_unlistedChoices.symm.trans refused
  · obtain rfl := Except.error.inj (result_unlistedChoices.symm.trans failed)
    exact slips

/-- A query that was made from options fails on a mapping without a refusal. -/
theorem unlisted_choices_are_not_refused :
    Reachable (fun _ => True) unlistedChoices ∧
    ∃ failure, (process 0 (.list [.mapping [(.text "a", .int 1)]]) unlistedChoices).1.result =
      .error failure ∧ ∀ fault, failure ≠ .query fault :=
  ⟨.call (.start rfl) trivial trivial, _, result_unlistedChoices, nofun⟩

end Session

end RecordQuery
