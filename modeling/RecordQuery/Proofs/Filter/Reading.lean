import RecordQuery.Proofs.Tree.Marks
import RecordQuery.Proofs.Value.Sameness
import RecordQuery.Snapshot

/-!
# Snapshots that options describe

A snapshot is read from the parts of a mapping, each of them checked. The filter of such a snapshot
has texts as keys, so that the contents of a node can be made from it and give it back.
-/

namespace RecordQuery

/-- A sequence of checks that succeeds consists of checks that do. -/
theorem except_bind_eq_ok {α β : Type} {first : Except Failure α} {next : α → Except Failure β}
    {result : β} (succeeds : first >>= next = .ok result) :
    ∃ value, first = .ok value ∧ next value = .ok result := by
  cases first with
  | error failure => contradiction
  | ok value => exact ⟨value, rfl, succeeds⟩

theorem except_map_eq_ok {α β : Type} {first : Except Failure α} {change : α → β} {result : β}
    (succeeds : first.map change = .ok result) :
    ∃ value, first = .ok value ∧ result = change value := by
  cases first with
  | error failure => contradiction
  | ok value => exact ⟨value, rfl, (Except.ok.inj succeeds).symm⟩

namespace Snapshot

theorem release_eq_ok {α : Type} {checked : Checked α} {value : α}
    (released : release checked = .ok value) : checked = .ok value := by
  cases checked with
  | error fault => contradiction
  | ok found => rw [Except.ok.inj released]

section Parts

variable (snapshot : Snapshot)

@[simp]
theorem get?_fields :
    snapshot.toEntries.get? "fields" = some (.list (snapshot.fields.map .text)) := by
  simp [toEntries, Entries.get?, Entries.valueOf?]

@[simp]
theorem get?_filter : snapshot.toEntries.get? "filter" = some (.mapping snapshot.filter) := by
  simp [toEntries, Entries.get?, Entries.valueOf?, Value.same]

@[simp]
theorem get?_sort : snapshot.toEntries.get? "sort" = some (.mapping snapshot.sort.toEntries) := by
  simp [toEntries, Entries.get?, Entries.valueOf?, Value.same]

@[simp]
theorem get?_skip : snapshot.toEntries.get? "skip" = some (.int snapshot.skip) := by
  simp [toEntries, Entries.get?, Entries.valueOf?, Value.same]

@[simp]
theorem get?_limit : snapshot.toEntries.get? "limit" = some (match snapshot.limit with
    | some limit => .int limit
    | none => .null) := by
  cases limit : snapshot.limit <;>
    simp [toEntries, Entries.get?, Entries.valueOf?, Value.same, limit]

end Parts

/-- A snapshot is described by options if each of its parts is. -/
theorem ofEntries_eq_ok {options : Entries} {snapshot : Snapshot}
    (read : ofEntries options = .ok snapshot) :
    checkFields (options.get? "fields") = .ok snapshot.fields ∧
      checkFilter (options.get? "filter") = .ok (.ok snapshot.filter) ∧
      checkSort (options.get? "sort") = .ok snapshot.sort ∧
      checkSkip (options.get? "skip") = .ok snapshot.skip ∧
      checkLimit (options.get? "limit") = .ok snapshot.limit := by
  obtain ⟨filter, filterRead, read⟩ := except_bind_eq_ok read
  obtain ⟨skip, skipRead, read⟩ := except_bind_eq_ok read
  obtain ⟨limit, limitRead, read⟩ := except_bind_eq_ok read
  obtain ⟨fields, fieldsRead, read⟩ := except_bind_eq_ok read
  obtain ⟨entries, filterKept, read⟩ := except_bind_eq_ok read
  obtain ⟨sort, sortRead, read⟩ := except_bind_eq_ok read
  obtain rfl := Except.ok.inj read
  rw [release_eq_ok filterKept] at filterRead
  exact ⟨release_eq_ok fieldsRead, filterRead, release_eq_ok sortRead, skipRead, limitRead⟩

/-- What a snapshot that some value describes was read from. -/
theorem parse_eq_ok {value : Value} {snapshot : Snapshot} (read : parse value = .ok snapshot) :
    ∃ options, ofEntries options = .ok snapshot := by
  cases value with
  | null =>
      obtain rfl := Except.ok.inj read
      exact ⟨[], rfl⟩
  | mapping entries => exact ⟨entries, read⟩
  | _ => contradiction

theorem checkKeys_eq_ok {entries found : Entries} (checked : checkKeys entries = .ok found) :
    found = entries ∧ ∀ entry ∈ entries, ∃ name, entry.1 = .text name := by
  by_cases texts : entries.all (fun entry => entry.1.text?.isSome) = true
  · rw [checkKeys, if_pos texts] at checked
    refine ⟨(Except.ok.inj checked).symm, ?_⟩
    intro entry member
    have text := List.all_eq_true.mp texts entry member
    rcases entry with ⟨key, value⟩
    cases key with
    | text name => exact ⟨name, rfl⟩
    | _ => contradiction
  · rw [checkKeys, if_neg texts] at checked
    contradiction

theorem checkKeys_of_texts {entries : Entries}
    (texts : ∀ entry ∈ entries, ∃ name, entry.1 = .text name) :
    checkKeys entries = .ok entries := by
  rw [checkKeys, if_pos]
  rw [List.all_eq_true]
  intro entry member
  obtain ⟨name, key⟩ := texts entry member
  rw [key]
  rfl

/-- A filter that was read is empty, or what normalizing the given value gives, with texts as
keys. -/
theorem checkFilter_eq_ok {given : Option Value} {filter : Entries}
    (checked : checkFilter given = .ok (.ok filter)) :
    filter = [] ∨ ∃ value, given = some value ∧ Filter.normalize value = .ok filter ∧
      ∀ entry ∈ filter, ∃ name, entry.1 = .text name := by
  unfold checkFilter at checked
  split at checked
  · exact .inl (Except.ok.inj (Except.ok.inj checked)).symm
  · exact .inl (Except.ok.inj (Except.ok.inj checked)).symm
  · rename_i value _
    obtain ⟨entries, result, keys⟩ := except_map_eq_ok checked
    obtain ⟨rfl, texts⟩ := checkKeys_eq_ok keys.symm
    exact .inr ⟨value, rfl, result, texts⟩

theorem text_keys {options : Entries} {snapshot : Snapshot}
    (read : ofEntries options = .ok snapshot) :
    ∀ entry ∈ snapshot.filter, ∃ name, entry.1 = .text name := by
  obtain ⟨-, filterRead, -⟩ := ofEntries_eq_ok read
  rcases checkFilter_eq_ok filterRead with empty | ⟨_, -, -, texts⟩
  · simp [empty]
  · exact texts

end Snapshot

/-- Contents made from a filter with texts as keys give the filter back. -/
theorem Slots.toEntries_ofEntries {entries : Entries}
    (texts : ∀ entry ∈ entries, ∃ name, entry.1 = .text name) :
    (Slots.ofEntries entries).toEntries = entries := by
  induction entries with
  | nil => rfl
  | cons entry rest inductionHypothesis =>
      obtain ⟨name, key⟩ := texts entry (by simp)
      rcases entry with ⟨_, value⟩
      obtain rfl : _ = Value.text name := key
      have others := inductionHypothesis fun other member => texts other (by simp [member])
      simp only [Slots.ofEntries, Slots.toEntries, FilterNode.slotsToEntries,
        FilterNode.slotToEntry] at others ⊢
      rw [others]

end RecordQuery
