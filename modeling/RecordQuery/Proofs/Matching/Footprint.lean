import RecordQuery.Proofs.Matching.Agreement
import RecordQuery.Proofs.Records.Naturality
import RecordQuery.Proofs.Records.Pipeline
import RecordQuery.Records.Projection

/-!
# What filters and sorts read of a record

A path reads nothing of a record but what lies under its first part. So a filter of combinators and
fields, and a sort, cannot tell a record from the record cut down to fields, as long as the first
part of every path is one of the fields that are left.
-/

namespace RecordQuery

open Matching Records

/-- A record cut down to fields; what is no mapping stays as it is. -/
def Records.trim (fields : List String) : Value → Value
  | .mapping entries => .mapping (entries.filter fun entry => entry.1.isIn (fields.map .text))
  | value => value

/-- A path whose first part is a field of a list. -/
def StartsIn (fields : List String) (path : String) : Prop :=
  ∃ field ∈ fields, ∃ rest, Text.pathParts path = field :: rest

/-- An entry of a filter that consists of combinators and of fields under which nothing is read but
what lies under fields of a list. -/
inductive ReadsEntry (fields : List String) : Value × Value → Prop where
  | combined {combinator : Combinator} {operands : List Entries} :
      (∀ operand ∈ operands, ∀ entry ∈ operand, ReadsEntry fields entry) →
      ReadsEntry fields (.text combinator.key, .list (operands.map .mapping))
  | field {name : String} {value : Value} :
      isOperatorText name = false → StartsIn fields name → ReadsEntry fields (.text name, value)

def ReadsOnly (fields : List String) (filter : Entries) : Prop :=
  ∀ entry ∈ filter, ReadsEntry fields entry

variable {fields : List String}

theorem Value.isIn_texts {name : String} (listed : name ∈ fields) :
    (Value.text name).isIn (fields.map .text) = true := by
  rw [Value.isIn, List.any_eq_true]
  exact ⟨.text name, List.mem_map_of_mem listed, Value.same_text.mpr rfl⟩

/-- A search for a listed field finds in the cut entries what it finds in all of them. -/
theorem find?_trimmed (test : Value → Bool) (entries : Entries) {name : String}
    (only : ∀ key, test key = true → key = .text name) (listed : name ∈ fields) :
    (entries.filter fun entry => entry.1.isIn (fields.map .text)).find?
        (fun entry => test entry.1) =
      entries.find? fun entry => test entry.1 := by
  rw [List.find?_filter]
  congr 1
  funext entry
  cases found : test entry.1 with
  | false => simp
  | true => simp [only _ found, Value.isIn_texts listed]

theorem valueOf?_trimmed (entries : Entries) {name : String} (listed : name ∈ fields) :
    Entries.valueOf? (entries.filter fun entry => entry.1.isIn (fields.map .text)) (.text name) =
      entries.valueOf? (.text name) :=
  congrArg (Option.map Prod.snd)
    (find?_trimmed (·.same (.text name)) entries (fun _ => Value.same_text.mp) listed)

namespace Reached

theorem mappingWalks_eq_map (entries : Entries) :
    mappingWalks entries = entries.map fun entry => (entry.1, walk entry.2) := by
  induction entries with
  | nil => rfl
  | cons entry rest inductionHypothesis =>
      rw [mappingWalks, inductionHypothesis, List.map_cons]

theorem walk_mapping_cons (entries : Entries) (part : String) (rest : List String) :
    walk (.mapping entries) (part :: rest) =
      match entries.find? fun entry => entry.1.equal (.text part) with
      | some entry => walk entry.2 rest
      | none => some .gap := by
  simp only [walk, entryWalk?, mappingWalks_eq_map, List.find?_map, Function.comp_def,
    Option.map_map]
  cases entries.find? fun entry => entry.1.equal (.text part) <;> rfl

/-- What a path leads to in a record does not depend on other fields. -/
theorem reach_trim {path : String} (starts : StartsIn fields path) (record : Value) :
    (Reached.value (trim fields record)).reach path = (Reached.value record).reach path := by
  obtain ⟨field, listed, rest, parts⟩ := starts
  cases record with
  | mapping entries =>
      have found := find?_trimmed (·.equal (.text field)) entries
        (fun _ => Value.equal_text.mp) listed
      simp only [reach, follow, trim, parts, walk_mapping_cons, found]
  | _ => rfl

end Reached

namespace Matching

theorem entryProbes_eq_map (counts : Bool) (entries : Entries) :
    entryProbes counts entries = entries.map fun entry => (entry.1, probe counts entry.2) := by
  induction entries with
  | nil => rfl
  | cons entry rest inductionHypothesis =>
      rw [entryProbes, inductionHypothesis, List.map_cons]

theorem probe_mapping_cons (counts : Bool) (entries : Entries) (part : String)
    (rest : List String) :
    probe counts (.mapping entries) (part :: rest) =
      match entries.find? fun entry => entry.1.equal (.text part) with
      | some entry => probe counts entry.2 rest
      | none => .ok false := by
  simp only [probe, entryProbes_eq_map, List.find?_map, Function.comp_def]
  cases entries.find? fun entry => entry.1.equal (.text part) <;> rfl

theorem pathPresence_trim {path : String} (starts : StartsIn fields path) (flag record : Value) :
    pathPresence path flag (.value (trim fields record)) =
      pathPresence path flag (.value record) := by
  obtain ⟨field, listed, rest, parts⟩ := starts
  cases record with
  | mapping entries =>
      have found := find?_trimmed (·.equal (.text field)) entries
        (fun _ => Value.equal_text.mp) listed
      simp only [pathPresence, probeReached, trim, parts, probe_mapping_cons, found]
  | _ => rfl

theorem isPresent_trim {name : String} (listed : name ∈ fields) (record : Value) :
    isPresent (.text name) (.value (trim fields record)) =
      isPresent (.text name) (.value record) := by
  cases record with
  | mapping entries => simp only [isPresent, trim, valueOf?_trimmed entries listed]
  | _ => rfl

/-- A path without dots is its own first part. -/
theorem mem_of_startsIn {name : String} (starts : StartsIn fields name)
    (plain : name.toList.contains '.' = false) : name ∈ fields := by
  obtain ⟨field, listed, rest, parts⟩ := starts
  have absent : '.' ∉ name.toList := by simpa using plain
  rw [Text.pathParts, Text.split, Text.pieces_of_not_mem absent] at parts
  obtain ⟨rfl, -⟩ := List.cons.inj parts
  rwa [String.ofList_toList] at listed

theorem presence?_trim {name : String} (starts : StartsIn fields name) (argument record : Value) :
    presence? (.text name) argument (.value (trim fields record)) =
      presence? (.text name) argument (.value record) := by
  rw [presence?, presence?]
  split
  · cases dotted : name.toList.contains '.' with
    | true =>
        simp only [Value.text?, Option.filter, dotted, if_true, pathPresence_trim starts]
    | false =>
        have listed := mem_of_startsIn starts dotted
        simp only [Value.text?, Option.filter, dotted, isPresent_trim listed]
        rfl
  · rfl

/-- A test that cannot tell a record from the record cut down to fields. -/
def Blind (fields : List String) (test : Test) : Prop :=
  ∀ mode record, test mode (.value (trim fields record)) = test mode (.value record)

theorem runs_blind {tests : List Test} (blind : ∀ test ∈ tests, Blind fields test) (mode : Mode)
    (record : Value) :
    runs tests mode (.value (trim fields record)) = runs tests mode (.value record) :=
  List.map_congr_left fun test member => funext fun _ => blind test member mode record

theorem blind_field {name : String} (plain : isOperatorText name = false)
    (starts : StartsIn fields name) (argument : Value) (test : Test)
    (members? : Option (List Test)) : Blind fields (step (.text name) argument test members?) := by
  intro mode record
  simp only [step, presence?_trim starts, entryTest, plain, Reached.reach_trim starts]
  rfl

theorem blind_combined (combinator : Combinator) {items : List Value}
    (blind : ∀ item ∈ items, Blind fields (holds item)) (test : Test) :
    Blind fields
      (step (.text combinator.key) (.list items) test (memberTests? (.list items))) := by
  intro mode record
  rw [step_combined, step_combined, runs_blind (List.forall_mem_map.mpr blind)]

theorem blind_mapping {filter : Entries}
    (blind : ∀ entry ∈ filter, Blind fields
      (step entry.1 entry.2 (holds entry.2) (memberTests? entry.2))) :
    Blind fields (holds (.mapping filter)) := by
  intro mode record
  simp only [holds, stepTests_eq_map]
  rw [runs_blind (List.forall_mem_map.mpr blind)]

/-- The meaning of an entry made ready. -/
def preparedStep (entry : Value × Value) : Test :=
  let made := prepareValue (Combinator.ofValue? entry.1).isSome entry.2
  step entry.1 made (holds made) (memberTests? made)

theorem blind_prepared {filter : Entries}
    (blind : ∀ entry ∈ filter, Blind fields (preparedStep entry)) :
    Blind fields (holds (.mapping (prepareEntries filter))) := by
  refine blind_mapping ?_
  rw [prepareEntries_eq_map]
  exact List.forall_mem_map.mpr blind

theorem blind_of_reads {entry : Value × Value} (reads : ReadsEntry fields entry) :
    Blind fields (preparedStep entry) := by
  induction reads with
  | @combined combinator operands _ inductionHypothesis =>
      -- Operands stay filters when an entry is made ready, so the hypothesis applies to them.
      have blind : ∀ item ∈ (operands.map Value.mapping).map preparedOperand,
          Blind fields (holds item) := by
        rw [List.map_map]
        exact List.forall_mem_map.mpr fun operand member =>
          blind_prepared (inductionHypothesis operand member)
      simp only [preparedStep, Combinator.ofValue?_key, Option.isSome_some, prepareValue, if_true,
        prepareItems_eq_map]
      exact blind_combined combinator blind _
  | field plain starts => exact blind_field plain starts _ _ _

/-- A filter that reads only fields that are left is satisfied by a cut record as by the whole
one. -/
theorem satisfies_trim {filter : Entries} (reads : ReadsOnly fields filter) (record : Value) :
    satisfies (.mapping filter) (trim fields record) = satisfies (.mapping filter) record :=
  blind_prepared (fun entry member => blind_of_reads (reads entry member)) .guarded record

end Matching

namespace Records

theorem lookup_trim {path : String} (starts : StartsIn fields path) (record : Value) :
    lookup (trim fields record) path = lookup record path := by
  obtain ⟨field, listed, rest, parts⟩ := starts
  cases record with
  | mapping entries =>
      simp only [lookup, trim, parts, lookupParts, stepInto, Entries.get?,
        valueOf?_trimmed entries listed]
  | _ => rfl

theorem compareRecords_trim {sort : SortOrder}
    (starts : ∀ entry ∈ sort, StartsIn fields entry.1) (left right : Value) :
    compareRecords (trim fields left) (trim fields right) sort.toEntries =
      compareRecords left right sort.toEntries := by
  induction sort with
  | nil => rfl
  | cons entry rest inductionHypothesis =>
      obtain ⟨head, tail⟩ := List.forall_mem_cons.mp starts
      rcases entry with ⟨path, direction⟩
      simp only [compareRecords_cons, comparePath, lookup_trim head, inductionHypothesis tail]

/-- Cut records are sorted like the whole ones, by paths that start in fields that are left. -/
theorem sortRecords_trim {sort : SortOrder} (starts : ∀ entry ∈ sort, StartsIn fields entry.1)
    (records : List Value) :
    sortRecords sort.toEntries (records.map (trim fields)) =
      (sortRecords sort.toEntries records).map (List.map (trim fields)) := by
  rw [sortRecords, sortRecords]
  split
  · rfl
  · refine sortBy_map (fun left right => ?_) records
    simp only [precedes, compareRecords_trim starts]

end Records

end RecordQuery
