import RecordQuery.Proofs.Query.Projection
import RecordQuery.Proofs.Records.RecordOrder

/-!
# What an evaluation leaves of records

A query with fields cuts down every record that satisfies its filter, whether or not the record is
on the page, and no other one. It sorts what is left: a record that lost a sort field in the cut
comes last under it. Records with nothing or a scalar under each sort path have this after the cut
as well, so a successful evaluation puts the cut records into the one stable order. Records are
contents: none is a part of another one or of a query.
-/

namespace RecordQuery

open RecordQuery.Action Matching Records

namespace Records

variable {fields : List String} {sort : SortOrder}

/-- A record that satisfies the filter of a query with fields, before and after the evaluation. A
mapping keeps the entries whose keys are fields. The items of a list count as positions of it, so a
list can lose some. Nothing else changes. -/
inductive CutDown (fields : List String) : Value → Value → Prop
  | mapping (entries : Entries) :
      CutDown fields (.mapping entries)
        (.mapping (entries.filter fun entry => entry.1.text?.any fields.contains))
  | list {items kept : List Value} : kept.Sublist items → CutDown fields (.list items) (.list kept)
  | whole {record : Value} : record.entries? = none → CutDown fields record record

theorem isIn_texts_eq (key : Value) :
    key.isIn (fields.map .text) = key.text?.any fields.contains := by
  rw [Value.isIn, List.any_map]
  cases key with
  | text name =>
      rw [Value.text?, Option.any_some, List.contains_eq_any_beq]
      exact congrArg (List.any fields) (funext fun field => by simp [Value.same, Bool.beq_comm])
  | _ => exact List.any_eq_false.mpr fun name _ => by simp [Value.same, Value.point?]

theorem result_cut_of_other {keep : List Value} {record : Value} (unkeyed : record.entries? = none)
    (unlisted : ∀ items, record ≠ .list items) : (cut keep record).result = record := by
  cases record with
  | mapping entries => contradiction
  | list items => exact absurd rfl (unlisted items)
  | _ =>
      rw [cut]
      · split
        · rfl
        · split <;> rfl
      · exact fun _ => Value.noConfusion
      · exact fun _ => Value.noConfusion

theorem sublist_deleteAll (items indices : List Value) :
    (deleteAll items indices).result.Sublist items := by
  induction indices generalizing items with
  | nil => exact .refl items
  | cons index rest inductionHypothesis =>
      rw [deleteAll]
      split
      · exact (inductionHypothesis _).trans (List.eraseIdx_sublist _ _)
      · exact .refl items

theorem cutDown_of_cut {record : Value} (cuts : (cut (fields.map .text) record).failure? = none) :
    CutDown fields record (cut (fields.map .text) record).result := by
  cases record with
  | mapping entries =>
      simp only [cut, isIn_texts_eq]
      exact .mapping entries
  | list items =>
      rw [cut] at cuts ⊢
      split
      · exact .list (sublist_deleteAll items _)
      · exact .list (.refl items)
  | _ =>
      rw [result_cut_of_other rfl (fun _ => Value.noConfusion)]
      exact .whole rfl

/-- A list from which all unwanted items could be deleted as positions consists of scalars. -/
theorem scalars_of_cut {items : List Value}
    (cuts : (cut (fields.map .text) (.list items)).failure? = none) :
    ∀ item ∈ items, item.isScalar = true := by
  have deleted : ∀ indices others, (deleteAll others indices).failure? = none →
      ∀ index ∈ indices, index.isScalar = true := by
    intro indices
    induction indices with
    | nil => simp
    | cons index rest inductionHypothesis =>
        intro others succeeds
        rw [deleteAll] at succeeds
        split at succeeds
        · rename_i place counted
          refine List.forall_mem_cons.mpr ⟨?_, inductionHypothesis _ succeeds⟩
          cases index <;> first | rfl | simp [deletePosition?] at counted
        · contradiction
  intro item member
  by_cases wanted : item.isIn (fields.map .text) = true
  · rw [isIn_texts_eq] at wanted
    cases item <;> first | rfl | simp [Value.text?] at wanted
  · rw [cut, unwanted?] at cuts
    split at cuts
    · rename_i dropped searched
      split at searched
      · obtain rfl := Except.ok.inj searched
        exact deleted _ _ cuts item (List.mem_filter.mpr ⟨member, by simpa using wanted⟩)
      · contradiction
    · contradiction

theorem lookupParts_of_scalars {items kept : List Value} {parts : List String}
    {found : Option Value} (looked : lookupParts (.list items) parts = .ok found)
    (scalars : ∀ value ∈ kept, value.isScalar = true) (deep : parts ≠ []) :
    ∃ left, lookupParts (.list kept) parts = .ok left ∧
      ∀ value ∈ left, value.isScalar = true := by
  obtain ⟨part, rest, rfl⟩ := List.exists_cons_of_ne_nil deep
  simp only [lookupParts, stepInto] at looked ⊢
  by_cases digits : isIndex part = true
  · simp only [digits, if_true] at looked ⊢
    cases numeral : Numeral.integer? part.toList with
    | none => simp [numeral] at looked
    | some index =>
        simp only
        cases entered : kept[index.toNat]? with
        | none => exact ⟨none, rfl, by simp⟩
        | some value =>
            have scalar := scalars value (List.mem_of_getElem? entered)
            cases rest with
            | nil => exact ⟨some value, rfl, by simpa using scalar⟩
            | cons next others =>
                have nowhere : stepInto value next = .ok none := by
                  cases value <;> first | rfl | simp [Value.isScalar] at scalar
                exact ⟨none, by simp [lookupParts, nowhere], by simp⟩
  · exact ⟨none, by simp [digits], by simp⟩

theorem pathParts_ne_nil (path : String) : Text.pathParts path ≠ [] := by
  rw [Text.pathParts, Text.split, ne_eq, List.map_eq_nil_iff]
  exact Text.pieces_ne_nil _ _

theorem valueOf?_dropped (entries : Entries) {name : String} (unlisted : name ∉ fields) :
    Entries.valueOf? (entries.filter fun entry => entry.1.isIn (fields.map .text)) (.text name) =
      none := by
  rw [Entries.valueOf?, Option.map_eq_none_iff, List.find?_eq_none]
  intro entry member same
  obtain ⟨-, kept⟩ := List.mem_filter.mp member
  rw [Value.same_text.mp same, isIn_texts_eq] at kept
  exact unlisted (by simpa [Value.text?] using kept)

/-- A record with nothing or a scalar under each sort path has this after a cut. -/
theorem sortable_cut {record : Value} (sortable : Sortable sort record)
    (cuts : (cut (fields.map .text) record).failure? = none) :
    Sortable sort (cut (fields.map .text) record).result := by
  intro entry member
  obtain ⟨found, looked, scalar⟩ := sortable entry member
  have deep := pathParts_ne_nil entry.1
  rw [lookup] at looked ⊢
  cases record with
  | mapping entries =>
      obtain ⟨part, rest, parts⟩ := List.exists_cons_of_ne_nil deep
      rw [parts, lookupParts, stepInto, Entries.get?] at looked
      rw [parts, cut, lookupParts, stepInto, Entries.get?]
      by_cases listed : part ∈ fields
      · rw [valueOf?_trimmed entries listed]
        exact ⟨found, looked, scalar⟩
      · rw [valueOf?_dropped entries listed]
        exact ⟨none, rfl, by simp⟩
  | list items =>
      have scalars := scalars_of_cut cuts
      obtain ⟨kept, left, sublist⟩ : ∃ kept,
          (cut (fields.map .text) (.list items)).result = .list kept ∧ kept.Sublist items := by
        rw [cut]
        split
        · exact ⟨_, rfl, sublist_deleteAll items _⟩
        · exact ⟨items, rfl, .refl items⟩
      rw [left]
      exact lookupParts_of_scalars looked
        (fun value member => scalars value (sublist.subset member)) deep
  | _ =>
      rw [result_cut_of_other rfl (fun _ => Value.noConfusion)]
      exact ⟨found, looked, scalar⟩

theorem project_succeeded {keep records : List Value} (listed : keep ≠ [])
    (cuts : (project keep records).failure? = none) :
    (∀ record ∈ records, (cut keep record).failure? = none) ∧
      (project keep records).result = records.map fun record => (cut keep record).result := by
  rw [project, if_neg (by simpa using listed)] at cuts ⊢
  induction records with
  | nil => exact ⟨by simp, rfl⟩
  | cons record rest inductionHypothesis =>
      rw [cutAll] at cuts ⊢
      cases first : (cut keep record).failure? with
      | some failure => simp [first] at cuts
      | none =>
          simp only [first] at cuts ⊢
          obtain ⟨others, left⟩ := inductionHypothesis cuts
          exact ⟨List.forall_mem_cons.mpr ⟨first, others⟩, by rw [left, List.map_cons]⟩

theorem pageOf_sublist {α : Type} (items : List α) (skip : Nat) (limit? : Option Nat) :
    (pageOf items skip limit?).Sublist items := by
  match limit? with
  | none | some 0 => exact List.drop_sublist skip items
  | some (limit + 1) => exact (List.take_sublist _ _).trans (List.drop_sublist skip items)

end Records

def Snapshot.cutMatch (query : Snapshot) (record : Value) : Value :=
  if isMatch (.mapping query.filter) record then (cut (query.fields.map .text) record).result
  else record

def Snapshot.matches (query : Snapshot) (after : Value → Value) (records : List Value) :
    List Value :=
  (records.filter (isMatch (.mapping query.filter))).map after

/-- What an evaluation of a query with fields makes of records, each by itself, and what it gives:
a page of the records that satisfy the filter, as the evaluation leaves them, each as often as it is
there, in their stable order. -/
structure Snapshot.Leaves (query : Snapshot) (records : List Value) (after : Value → Value)
    (found : List Value) : Prop where
  tested : ∀ record ∈ records, ∃ mark, satisfies (.mapping query.filter) record = .ok mark
  rejected : ∀ record ∈ records, satisfies (.mapping query.filter) record = .ok false →
    after record = record
  matched : ∀ record ∈ records, satisfies (.mapping query.filter) record = .ok true →
    CutDown query.fields record (after record)
  often : found.Subperm (query.matches after records)
  page : ∃ places, SortedPlaces query.sort (query.matches after records) places ∧
    found = pageOf (places.map (query.matches after records).get) query.skip query.limit

theorem Snapshot.cutMatch_of_match {query : Snapshot} {record : Value}
    (matched : isMatch (.mapping query.filter) record = true) :
    query.cutMatch record = (cut (query.fields.map .text) record).result :=
  if_pos matched

namespace Records.Pipeline

variable {query : Snapshot} {records found : List Value}

theorem run_of_fields (listed : query.fields ≠ [])
    (succeeded : (run query records).result = .ok found) :
    (∀ record ∈ records.filter (isMatch (.mapping query.filter)),
      (cut (query.fields.map .text) record).failure? = none) ∧
    (run query records).records = records.map query.cutMatch ∧
    ∃ sorted, sortRecords query.sort.toEntries (query.matches query.cutMatch records) =
      .ok sorted ∧ found = pageOf sorted query.skip query.limit := by
  obtain ⟨tested, passedTest⟩ := test_of_run succeeded
  have passed := (test_eq_ok passedTest).2
  have selected : query.matches query.cutMatch records = (marked tested records).map
      fun record => (cut (query.fields.map .text) record).result := by
    rw [Snapshot.matches, marked_eq_filter passed]
    exact List.map_congr_left fun record member =>
      Snapshot.cutMatch_of_match (List.mem_filter.mp member).2
  rw [run, passedTest] at succeeded ⊢
  cases stopped : (project (query.fields.map .text) (marked tested records)).failure? with
  | some failure => simp [stopped] at succeeded
  | none =>
      obtain ⟨cuts, left⟩ := project_succeeded (by simpa using listed) stopped
      simp only [stopped, left, arrange, paginate_eq_pageOf] at succeeded ⊢
      rw [← selected] at succeeded
      rw [marked_eq_filter passed] at cuts
      refine ⟨cuts, replaceMarked_map passed _, ?_⟩
      cases sorted : sortRecords query.sort.toEntries (query.matches query.cutMatch records) with
      | error failure => simp [sorted, Except.map] at succeeded
      | ok others =>
          rw [sorted] at succeeded
          exact ⟨others, rfl, (Except.ok.inj succeeded).symm⟩

theorem leaves_of_run (listed : query.fields ≠ [])
    (sortable : ∀ record ∈ records, Sortable query.sort record)
    (succeeded : (run query records).result = .ok found) :
    query.Leaves records query.cutMatch found := by
  obtain ⟨tested, passed⟩ := marks_of_run succeeded
  obtain ⟨cuts, -, others, result, page⟩ := run_of_fields listed succeeded
  have ordered : ∀ record ∈ query.matches query.cutMatch records,
      Sortable query.sort record := by
    refine List.forall_mem_map.mpr fun record member => ?_
    rw [Snapshot.cutMatch_of_match (List.mem_filter.mp member).2]
    exact sortable_cut (sortable record (List.mem_of_mem_filter member)) (cuts record member)
  obtain ⟨places, sorted, same⟩ := sortRecords_sorted ordered
  obtain rfl := Except.ok.inj (same.symm.trans result)
  refine ⟨tests_of_marks passed, ?_, ?_, ?_, places, sorted, page⟩
  · intro record member failed
    exact if_neg (by simp [isMatch, failed])
  · intro record member passed
    have matched := isMatch_iff.mpr passed
    rw [Snapshot.cutMatch_of_match matched]
    exact cutDown_of_cut (cuts record (List.mem_filter.mpr ⟨member, matched⟩))
  · rw [page]
    exact (pageOf_sublist _ _ _).subperm.trans (perm_of_sortRecords result).subperm

end Records.Pipeline

namespace Session

/-- A query for the records with at least one under `a`, in descending order of `b`, which it cuts
off. -/
def blindSorting : Session :=
  (Call.create (.value (.mapping [(.text "fields", .list [.text "a"]),
    (.text "filter", .mapping [(.text "a", .mapping [(.text "$gte", .int 1)])]),
    (.text "sort", .mapping [(.text "b", .int (-1))])]))).after quiet

end Session

end RecordQuery
