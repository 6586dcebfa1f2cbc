import RecordQuery.Proofs.Matching.Footprint
import RecordQuery.Proofs.Query.Paging

/-!
# Queries that leave what they read

A query with fields cuts the records that satisfy its filter down to them, in place and before it
sorts. If its filter and its sort read nothing but these fields, it gives the records that the query
without fields gives, each one cut, and evaluating it again on the cut records changes nothing.
-/

namespace RecordQuery

open RecordQuery.Action Matching Records

namespace Records

variable {fields : List String}

theorem cut_of_mapping {record : Value} (mapping : record.entries?.isSome = true) :
    cut (fields.map .text) record = ⟨trim fields record, none⟩ := by
  cases record with
  | mapping entries => rfl
  | _ => contradiction

theorem isSome_entries?_trim (record : Value) :
    (trim fields record).entries?.isSome = record.entries?.isSome := by
  cases record <;> rfl

@[simp]
theorem trim_trim (record : Value) : trim fields (trim fields record) = trim fields record := by
  cases record with
  | mapping entries => simp [trim]
  | _ => rfl

theorem project_mappings (listed : fields ≠ []) {records : List Value}
    (mappings : ∀ record ∈ records, record.entries?.isSome = true) :
    project (fields.map .text) records = ⟨records.map (trim fields), none⟩ := by
  rw [project, if_neg (by simpa using listed)]
  induction records with
  | nil => rfl
  | cons record rest inductionHypothesis =>
      obtain ⟨head, tail⟩ := List.forall_mem_cons.mp mappings
      simp only [cutAll, cut_of_mapping head, inductionHypothesis tail, List.map_cons]

theorem pageOf_map {α β : Type} (change : α → β) (items : List α) (skip : Nat)
    (limit? : Option Nat) :
    pageOf (items.map change) skip limit? = (pageOf items skip limit?).map change := by
  match limit? with
  | none | some 0 => simp [pageOf, List.map_drop]
  | some (limit + 1) => simp [pageOf, List.map_drop, List.map_take]

namespace Pipeline

/-- Replacing the records that satisfy a filter by themselves after a change changes just these. -/
theorem replaceMarked_map {filter : Value} {records : List Value} {tested : List Bool}
    (passed : marks filter records = .ok tested) (change : Value → Value) :
    replaceMarked tested records ((marked tested records).map change) =
      records.map fun record => if isMatch filter record then change record else record := by
  induction records generalizing tested with
  | nil =>
      obtain rfl := Except.ok.inj passed
      rfl
  | cons record rest inductionHypothesis =>
      obtain ⟨mark, others, first, remaining, rfl⟩ := marks_cons_eq_ok passed
      have later := inductionHypothesis remaining
      cases mark <;> simp [replaceMarked, marked, isMatch, first, later]

/-- A query and records that it can be evaluated on, with what its filter selects in order. The
records that satisfy the filter are mappings. -/
structure Selects (query : Snapshot) (records sorted : List Value) : Prop where
  built : ∃ entries, Matching.build (.mapping query.filter) = .ok entries
  tested : ∃ tested, marks (.mapping query.filter) records = .ok tested
  mappings : ∀ record ∈ records, isMatch (.mapping query.filter) record = true →
    record.entries?.isSome = true
  sorted : sortRecords query.sort.toEntries
    (records.filter (isMatch (.mapping query.filter))) = .ok sorted

end Pipeline

end Records

/-- A record after an evaluation of a query with fields: one that satisfies the filter is cut. -/
def Snapshot.trimMatch (query : Snapshot) (record : Value) : Value :=
  if isMatch (.mapping query.filter) record then trim query.fields record else record

structure Snapshot.KeepsRead (query : Snapshot) : Prop where
  fields : query.fields ≠ []
  filter : ReadsOnly query.fields query.filter
  sort : ∀ entry ∈ query.sort, StartsIn query.fields entry.1

namespace Snapshot.KeepsRead

open Pipeline

variable {query : Snapshot} {records sorted : List Value}

theorem satisfies_trimMatch (keeps : query.KeepsRead) (record : Value) :
    satisfies (.mapping query.filter) (query.trimMatch record) =
      satisfies (.mapping query.filter) record := by
  rw [trimMatch]
  split
  · exact satisfies_trim keeps.filter record
  · rfl

theorem isMatch_trimMatch (keeps : query.KeepsRead) (record : Value) :
    isMatch (.mapping query.filter) (query.trimMatch record) =
      isMatch (.mapping query.filter) record := by
  rw [isMatch, isMatch, keeps.satisfies_trimMatch]

theorem filter_trimMatch (keeps : query.KeepsRead) (records : List Value) :
    (records.map query.trimMatch).filter (isMatch (.mapping query.filter)) =
      (records.filter (isMatch (.mapping query.filter))).map (trim query.fields) := by
  induction records with
  | nil => rfl
  | cons record rest inductionHypothesis =>
      rw [List.map_cons, List.filter_cons, List.filter_cons, keeps.isMatch_trimMatch,
        inductionHypothesis]
      split
      · rename_i matched
        rw [List.map_cons, trimMatch, if_pos matched]
      · rfl

/-- Cutting down the records that satisfy the filter cuts down what the query selects. -/
theorem selects_trimmed (keeps : query.KeepsRead) (selects : Selects query records sorted) :
    Selects query (records.map query.trimMatch) (sorted.map (trim query.fields)) := by
  obtain ⟨tested, passed⟩ := selects.tested
  refine ⟨selects.built, marks_of_tests (List.forall_mem_map.mpr fun record member => ?_),
    List.forall_mem_map.mpr fun record member matched => ?_, ?_⟩
  · rw [keeps.satisfies_trimMatch]
    exact tests_of_marks passed record member
  · rw [keeps.isMatch_trimMatch] at matched
    rw [trimMatch, if_pos matched, isSome_entries?_trim]
    exact selects.mappings record member matched
  · rw [keeps.filter_trimMatch, sortRecords_trim keeps.sort, selects.sorted]
    rfl

theorem trimMatch_trimMatch (keeps : query.KeepsRead) (record : Value) :
    query.trimMatch (query.trimMatch record) = query.trimMatch record := by
  have again := keeps.isMatch_trimMatch record
  by_cases matched : isMatch (.mapping query.filter) record = true
  · have cut : query.trimMatch record = trim query.fields record := if_pos matched
    rw [cut, matched] at again
    rw [cut, trimMatch, if_pos again, trim_trim]
  · have whole : query.trimMatch record = record := if_neg matched
    rw [whole, whole]

theorem run (keeps : query.KeepsRead) (selects : Selects query records sorted) :
    Pipeline.run query records = ⟨records.map query.trimMatch,
      .ok ((pageOf sorted query.skip query.limit).map (trim query.fields))⟩ := by
  obtain ⟨entries, built⟩ := selects.built
  obtain ⟨tested, passed⟩ := selects.tested
  have mappings : ∀ record ∈ marked tested records, record.entries?.isSome = true := by
    rw [marked_eq_filter passed]
    intro record member
    exact selects.mappings record (List.mem_of_mem_filter member) (List.mem_filter.mp member).2
  have cut := project_mappings keeps.fields mappings
  simp only [Pipeline.run, test_eq_marks records built, passed, cut, replaceMarked_map passed,
    arrange, sortRecords_trim keeps.sort, paginate_eq_pageOf]
  rw [marked_eq_filter passed, selects.sorted]
  simp only [Except.map, pageOf_map]
  rfl

theorem run_again (keeps : query.KeepsRead) (selects : Selects query records sorted) :
    Pipeline.run query (records.map query.trimMatch) = Pipeline.run query records := by
  have fixed : query.trimMatch ∘ query.trimMatch = query.trimMatch :=
    funext keeps.trimMatch_trimMatch
  have trimmed : trim query.fields ∘ trim query.fields = trim query.fields := funext trim_trim
  rw [keeps.run (keeps.selects_trimmed selects), keeps.run selects, pageOf_map, List.map_map,
    List.map_map, fixed, trimmed]

end Snapshot.KeepsRead

namespace Session

variable {session : Session} {mark other : Mark} {store : QueryStore} {records found : List Value}

/-- A query with fields that reads nothing but these gives what the query without fields gives, each
record cut down to the fields, if that query can be evaluated and the records that satisfy the
filter are mappings. Evaluating it again on what is left gives the same and changes nothing. -/
theorem projection_commutes_with_reading
    (keeps : (session.queries.snapshot mark).KeepsRead)
    (emptied : store.snapshot other = { session.queries.snapshot mark with fields := [] })
    (succeeded : (process other (.list records) (session.withQueries store)).1.result =
      .ok (.list found))
    (mappings : ∀ record ∈ records,
      satisfies (.mapping (session.queries.snapshot mark).filter) record = .ok true →
        record.entries?.isSome = true) :
    (process mark (.list records) session).1 =
        ⟨.list (records.map (session.queries.snapshot mark).trimMatch),
          .ok (.list (found.map (trim (session.queries.snapshot mark).fields)))⟩ ∧
      (process mark (.list (records.map (session.queries.snapshot mark).trimMatch))
          (process mark (.list records) session).2).1 =
        (process mark (.list records) session).1 := by
  -- That the query without fields succeeds shows that its filter can be evaluated, in this session
  -- and after further evaluations, and what it selects.
  have evaluates : session.Evaluates (session.queries.snapshot mark).filter records.length := by
    have first := (Evaluates.of_succeeded succeeded).withQueries session.queries
    change session.Evaluates (store.snapshot other).filter records.length at first
    rwa [emptied] at first
  obtain ⟨sorted, selects, page⟩ : ∃ sorted,
      Pipeline.Selects (session.queries.snapshot mark) records sorted ∧
      pageOf sorted (session.queries.snapshot mark).skip (session.queries.snapshot mark).limit =
        found := by
    obtain ⟨listed, result, same⟩ := run_of_process succeeded
    obtain rfl := Value.list.inj same
    change (Pipeline.run (store.snapshot other) records).result = _ at result
    rw [emptied] at result
    obtain ⟨sorted, whole⟩ := Whole.of_run rfl result
    have ran := whole.run (session.queries.snapshot mark).skip
      (session.queries.snapshot mark).limit
    obtain ⟨tested, passed⟩ := whole.tested
    obtain ⟨built, marked⟩ := Pipeline.test_eq_ok passed
    refine ⟨sorted, ⟨built, ⟨tested, marked⟩, fun record member matched => ?_, whole.sorted⟩,
      Except.ok.inj ((congrArg Evaluation.result ran).symm.trans result)⟩
    exact mappings record member (isMatch_iff.mp matched)
  have ran := keeps.run selects
  rw [page] at ran
  have first := evaluates.process (congrArg Evaluation.result ran)
  rw [ran] at first
  obtain ⟨outcome, queries, again⟩ := first
  refine ⟨outcome, ?_⟩
  rw [outcome]
  -- Of the session after the first evaluation only this counts: its queries are the same.
  generalize (process mark (.list records) session).2 = later at queries again
  have ready : later.Evaluates (later.queries.snapshot mark).filter
      (records.map (session.queries.snapshot mark).trimMatch).length := by
    rw [queries, List.length_map]
    exact again
  have reran : Pipeline.run (later.queries.snapshot mark)
      (records.map (session.queries.snapshot mark).trimMatch) =
        Pipeline.run (session.queries.snapshot mark) records := by
    rw [queries, keeps.run_again selects]
  rw [ran] at reran
  have second := (ready.process (congrArg Evaluation.result reran)).1
  rwa [reran] at second

/-- A query that lists `a` and `b`, reads parts of `a` and whether `b` is there, and sorts by a part
of `a`. -/
def selective : Session :=
  (Call.create (.value (.mapping [(.text "fields", .list [.text "a", .text "b"]),
    (.text "filter", .mapping [(.text "$or", .list [
      .mapping [(.text "a.x", .mapping [(.text "$gt", .int 1)])],
      .mapping [(.text "b", .mapping [(.text "$exists", .bool false)])]])]),
    (.text "sort", .mapping [(.text "a.y", .int (-1))])]))).after quiet

def parted (x y : Int) (others : Entries) : Value :=
  .mapping ((.text "a", .mapping [(.text "x", .int x), (.text "y", .int y)]) :: others)

def unlisted (session : Session) : Session := (Call.assign 0 (.fields .null)).after session

/-- The first and the third one satisfy the filter of `selective`. -/
def partedRecords : List Value :=
  [parted 1 1 [(.text "c", .int 1)], parted 1 2 [(.text "b", .int 1)],
    parted 2 3 [(.text "b", .int 1), (.text "c", .int 1)]]

theorem selected_records_stay_selected :
    (process 0 (.list partedRecords) (unlisted selective)).1.result =
      .ok (.list [parted 2 3 [(.text "b", .int 1), (.text "c", .int 1)],
        parted 1 1 [(.text "c", .int 1)]]) ∧
    (process 0 (.list partedRecords) selective).1 =
      ⟨.list [parted 1 1 [], parted 1 2 [(.text "b", .int 1)], parted 2 3 [(.text "b", .int 1)]],
        .ok (.list [parted 2 3 [(.text "b", .int 1)], parted 1 1 []])⟩ ∧
    (process 0 (.list [parted 1 1 [], parted 1 2 [(.text "b", .int 1)],
        parted 2 3 [(.text "b", .int 1)]]) (process 0 (.list partedRecords) selective).2).1 =
      (process 0 (.list partedRecords) selective).1 := by
  have filter : (selective.queries.snapshot 0).filter = [(.text Combinator.or.key, .list
      ([[(.text "a.x", .mapping [(.text "$gt", .int 1)])],
        [(.text "b", .mapping [(.text "$exists", .bool false)])]].map .mapping))] := by cbv
  have fields : (selective.queries.snapshot 0).fields = ["a", "b"] := by cbv
  have sort : (selective.queries.snapshot 0).sort = [("a.y", .descending)] := by cbv
  have keeps : (selective.queries.snapshot 0).KeepsRead := by
    have x : StartsIn ["a", "b"] "a.x" := ⟨"a", by simp, ["x"], by cbv⟩
    have y : StartsIn ["a", "b"] "a.y" := ⟨"a", by simp, ["y"], by cbv⟩
    have b : StartsIn ["a", "b"] "b" := ⟨"b", by simp, [], by cbv⟩
    constructor
    · simp [fields]
    · rw [fields, filter]
      refine List.forall_mem_singleton.mpr (.combined ?_)
      simp only [List.forall_mem_cons, List.not_mem_nil, false_implies, implies_true, and_true]
      exact ⟨.field (by cbv) x, .field (by cbv) b⟩
    · simp [fields, sort, y]
  have emptied : (unlisted selective).queries.snapshot 0 =
      { selective.queries.snapshot 0 with fields := [] } := by cbv
  have context : Log.Recordable (unlisted selective).context := ⟨by cbv, by cbv; simp⟩
  have supported : (perform (requireSupport 0) (unlisted selective)).1 = .ok () := by cbv
  have succeeded : (process 0 (.list partedRecords) (unlisted selective)).1.result =
      .ok (.list [parted 2 3 [(.text "b", .int 1), (.text "c", .int 1)],
        parted 1 1 [(.text "c", .int 1)]]) := by
    rw [process_eq _ context supported]
    cbv
  have same : selective.withQueries (unlisted selective).queries = unlisted selective := by cbv
  have mappings : ∀ record ∈ partedRecords,
      satisfies (.mapping (selective.queries.snapshot 0).filter) record = .ok true →
        record.entries?.isSome = true := by
    simp [partedRecords, parted, Value.entries?]
  have cut : partedRecords.map (selective.queries.snapshot 0).trimMatch =
      [parted 1 1 [], parted 1 2 [(.text "b", .int 1)], parted 2 3 [(.text "b", .int 1)]] := by cbv
  have found : [parted 2 3 [(.text "b", .int 1), (.text "c", .int 1)],
      parted 1 1 [(.text "c", .int 1)]].map (trim (selective.queries.snapshot 0).fields) =
        [parted 2 3 [(.text "b", .int 1)], parted 1 1 []] := by cbv
  have commuted := projection_commutes_with_reading keeps emptied (same ▸ succeeded) mappings
  rw [cut, found] at commuted
  exact ⟨succeeded, commuted⟩

def listing : Session :=
  (Call.create (.value (.mapping [(.text "fields", .list [.text "a"])]))).after quiet

/-- A record that is no mapping cannot be cut down to the listed field, though the query without
fields gives it. -/
theorem records_without_fields_cannot_be_cut :
    (listing.queries.snapshot 0).KeepsRead ∧
    (unlisted listing).queries.snapshot 0 =
      { listing.queries.snapshot 0 with fields := [] } ∧
    (process 0 (.list [.int 5]) (unlisted listing)).1.result = .ok (.list [.int 5]) ∧
    (process 0 (.list [.int 5]) listing).1.result = .error .mismatch := by
  have filter : (listing.queries.snapshot 0).filter = [] := by cbv
  have sort : (listing.queries.snapshot 0).sort = [] := by cbv
  refine ⟨⟨by cbv; simp, by simp [filter, ReadsOnly], by simp [sort]⟩, by cbv, ?_, ?_⟩
  · have context : Log.Recordable (unlisted listing).context := ⟨by cbv, by cbv; simp⟩
    have supported : (perform (requireSupport 0) (unlisted listing)).1 = .ok () := by cbv
    rw [process_eq _ context supported]
    cbv
  · have context : Log.Recordable listing.context := ⟨by cbv, by cbv; simp⟩
    have supported : (perform (requireSupport 0) listing).1 = .ok () := by cbv
    rw [process_eq _ context supported]
    cbv

end Session

end RecordQuery
