import RecordQuery.Proofs.Query.Repetition
import RecordQuery.Proofs.Records.Page

/-!
# Page after page

A query without fields that can be evaluated on records has one whole result: the records that
satisfy its filter, each as often as it is given, in the order of its sort. However often the query
is evaluated on the records, with whatever it skips and with whatever limit, it leaves the records
alone and gives that part of the whole result.
-/

namespace RecordQuery.Session

open RecordQuery.Action Matching Records

/-- The session after evaluations of a query on records, each with its own part to skip and its own
limit. -/
inductive PagedFrom (query : Snapshot) (items : List Value) (session : Session) : Session → Prop
  | start : PagedFrom query items session session
  | page {later : Session} {store : QueryStore} {mark : Mark} {skip : Nat} {limit? : Option Nat}
      (paged : PagedFrom query items session later)
      (asked : store.snapshot mark = { query with skip := skip, limit := limit? }) :
      PagedFrom query items session (process mark (.list items) (later.withQueries store)).2

/-- However many pages were asked for before, the query with this part to skip and this limit leaves
the records alone and gives these. -/
def Gives (session : Session) (query : Snapshot) (items : List Value) (skip : Nat)
    (limit? : Option Nat) (found : List Value) : Prop :=
  ∀ later, PagedFrom query items session later → ∀ store mark,
    store.snapshot mark = { query with skip := skip, limit := limit? } →
      (process mark (.list items) (later.withQueries store)).1 =
        ⟨.list items, .ok (.list found)⟩

variable {session later : Session} {query : Snapshot} {items all : List Value}

structure Whole (query : Snapshot) (items all : List Value) : Prop where
  fields : query.fields = []
  tested : ∃ marks, Pipeline.test query items = .ok marks
  sorted : sortRecords query.sort.toEntries (items.filter (isMatch (.mapping query.filter))) =
    .ok all

namespace Whole

theorem of_run {found : List Value} (fields : query.fields = [])
    (result : (Pipeline.run query items).result = .ok found) : ∃ all, Whole query items all := by
  obtain ⟨marks, tested⟩ := Pipeline.test_of_run result
  rw [Pipeline.run_of_whole query fields tested] at result
  cases sorted : sortRecords query.sort.toEntries
      (items.filter (isMatch (.mapping query.filter))) with
  | error failure => simp [sorted, Except.map] at result
  | ok all => exact ⟨all, fields, ⟨marks, tested⟩, sorted⟩

theorem run (whole : Whole query items all) (skip : Nat) (limit? : Option Nat) :
    Pipeline.run { query with skip := skip, limit := limit? } items =
      ⟨items, .ok (pageOf all skip limit?)⟩ := by
  obtain ⟨marks, tested⟩ := whole.tested
  have ran := Pipeline.run_of_whole { query with skip := skip, limit := limit? } whole.fields tested
  rw [ran, whole.sorted]
  rfl

theorem process (whole : Whole query items all)
    (evaluates : later.Evaluates query.filter items.length) {store : QueryStore} {mark : Mark}
    {skip : Nat} {limit? : Option Nat}
    (asked : store.snapshot mark = { query with skip := skip, limit := limit? }) :
    (process mark (.list items) (later.withQueries store)).1 =
        ⟨.list items, .ok (.list (pageOf all skip limit?))⟩ ∧
      (Session.process mark (.list items) (later.withQueries store)).2.Evaluates query.filter
        items.length := by
  let asking := later.withQueries store
  have ready : asking.Evaluates (asking.queries.snapshot mark).filter items.length := by
    change asking.Evaluates (store.snapshot mark).filter _
    rw [asked]
    exact evaluates.withQueries store
  have ran : Pipeline.run (asking.queries.snapshot mark) items =
      ⟨items, .ok (pageOf all skip limit?)⟩ := by
    change Pipeline.run (store.snapshot mark) items = _
    rw [asked, whole.run]
  obtain ⟨outcome, -, again⟩ := ready.process (congrArg Evaluation.result ran)
  change Evaluates _ (store.snapshot mark).filter _ at again
  rw [ran] at outcome
  rw [asked] at again
  exact ⟨outcome, again⟩

theorem evaluates (whole : Whole query items all)
    (first : session.Evaluates query.filter items.length)
    (paged : PagedFrom query items session later) :
    later.Evaluates query.filter items.length := by
  induction paged with
  | start => exact first
  | page _ asked inductionHypothesis => exact (whole.process inductionHypothesis asked).2

theorem gives (whole : Whole query items all)
    (first : session.Evaluates query.filter items.length) (skip : Nat) (limit? : Option Nat) :
    Gives session query items skip limit? (pageOf all skip limit?) :=
  fun _ paged _ _ asked => (whole.process (whole.evaluates first paged) asked).1

end Whole

/-- A query without fields has one whole result, the records that satisfy its filter in its order.
Its pages never change the records, and those of one size, each starting where the last one ended,
make up the whole result. -/
theorem pages_tile_whole_result {mark : Mark} {found : Value}
    (fields : (session.queries.snapshot mark).fields = [])
    (succeeded : (process mark (.list items) session).1.result = .ok found) :
    ∃ all : List Value,
      (∀ item ∈ items, ∃ result,
        satisfies (.mapping (session.queries.snapshot mark).filter) item = .ok result) ∧
      all.Perm (items.filter (isMatch (.mapping (session.queries.snapshot mark).filter))) ∧
      ((session.queries.snapshot mark).sort = [] →
        all = items.filter (isMatch (.mapping (session.queries.snapshot mark).filter))) ∧
      Gives session (session.queries.snapshot mark) items 0 none all ∧
      (∀ size, 0 < size → ∃ page : Nat → List Value,
        (∀ number, (page number).length ≤ size ∧
          Gives session (session.queries.snapshot mark) items (number * size) (some size)
            (page number)) ∧
        ∀ count, all.length ≤ count * size → ((List.range count).map page).flatten = all) ∧
      ∀ skip, Gives session (session.queries.snapshot mark) items skip none (all.drop skip) ∧
        Gives session (session.queries.snapshot mark) items skip (some 0) (all.drop skip) := by
  have evaluates := Evaluates.of_succeeded succeeded
  obtain ⟨listed, result, -⟩ := run_of_process succeeded
  obtain ⟨all, whole⟩ := Whole.of_run fields result
  obtain ⟨marks, tested⟩ := whole.tested
  refine ⟨all, Pipeline.tests_of_marks (Pipeline.test_eq_ok tested).2,
    perm_of_sortRecords whole.sorted, ?_,
    whole.gives evaluates 0 none, ?_,
    fun skip => ⟨whole.gives evaluates skip none, whole.gives evaluates skip (some 0)⟩⟩
  · intro unsorted
    have sorted := whole.sorted
    rw [unsorted] at sorted
    exact (Except.ok.inj sorted).symm
  · intro size positive
    refine ⟨fun number => pageOf all (number * size) (some size), fun number =>
      ⟨length_pageOf_le all (number * size) positive, whole.gives evaluates _ _⟩, ?_⟩
    intro count long
    rw [flatten_pages all positive, List.take_of_length_le long]

def descending : Session :=
  (Call.create (.value (.mapping [
    (.text "filter", .mapping [(.text "a", .mapping [(.text "$gte", .int 1)])]),
    (.text "sort", .mapping [(.text "a", .int (-1))])]))).after quiet

def counted (number : Int) : Value := .mapping [(.text "a", .int number)]

/-- Three records satisfy the filter, and two pages of two hold them all. -/
theorem two_pages_hold_three_records :
    (descending.queries.snapshot 0).fields = [] ∧
    (process 0 (.list [counted 2, counted 0, counted 3, counted 1]) descending).1.result =
      .ok (.list [counted 3, counted 2, counted 1]) ∧
    ∃ first second : List Value,
      (first ++ second).Perm [counted 2, counted 3, counted 1] ∧
      first.length ≤ 2 ∧ second.length ≤ 2 ∧
      Gives descending (descending.queries.snapshot 0)
        [counted 2, counted 0, counted 3, counted 1] 0 none (first ++ second) ∧
      Gives descending (descending.queries.snapshot 0)
        [counted 2, counted 0, counted 3, counted 1] 0 (some 2) first ∧
      Gives descending (descending.queries.snapshot 0)
        [counted 2, counted 0, counted 3, counted 1] 2 (some 2) second := by
  have fields : (descending.queries.snapshot 0).fields = [] := by cbv
  have context : Log.Recordable descending.context := ⟨by cbv, by cbv; simp⟩
  have supported : (perform (requireSupport 0) descending).1 = .ok () := by cbv
  have succeeded :
      (process 0 (.list [counted 2, counted 0, counted 3, counted 1]) descending).1.result =
        .ok (.list [counted 3, counted 2, counted 1]) := by
    rw [process_eq _ context supported]
    cbv
  have matching : [counted 2, counted 0, counted 3, counted 1].filter
      (isMatch (.mapping (descending.queries.snapshot 0).filter)) =
        [counted 2, counted 3, counted 1] := by cbv
  refine ⟨fields, succeeded, ?_⟩
  obtain ⟨all, -, permuted, -, gives, pages, -⟩ := pages_tile_whole_result fields succeeded
  obtain ⟨page, paged, tiled⟩ := pages 2 (by decide)
  rw [matching] at permuted
  have joined : page 0 ++ page 1 = all := by
    have flat := tiled 2 (by rw [permuted.length_eq]; decide)
    simpa [List.range_succ] using flat
  rw [← joined] at permuted gives
  exact ⟨page 0, page 1, permuted, (paged 0).1, (paged 1).1, gives, (paged 0).2, (paged 1).2⟩

end RecordQuery.Session
