import Mathlib.Data.List.Forall2
import RecordQuery.Proofs.Filter.Normal
import RecordQuery.Proofs.Value.Sameness

/-!
# Filters that can be read

`Written` is the grammar of filters: a mapping whose combinators list filters again. Reading accepts
exactly what is written so and refuses the rest. `Completes` relates what was written to the filter
in full: the same keys, with operands in full under combinators, operators as they are, and
conditions under fields.
-/

namespace RecordQuery.Filter

def NamesCombinator (key : Value) : Prop := ∃ combinator : Combinator, key = .text combinator.key

/-- A key that starts with a dollar sign. -/
def NamesOperator (key : Value) : Prop := ∃ rest, key = .text (String.ofList ('$' :: rest))

mutual

/-- What is written as a filter: a mapping that lists filters under every combinator. -/
inductive Written : Value → Prop where
  | mapping {entries : Entries} :
      (∀ entry ∈ entries, WrittenEntry entry) → Written (.mapping entries)

/-- An entry of a filter as it is written. -/
inductive WrittenEntry : Value × Value → Prop where
  | combined {key value : Value} {items : List Value} :
      NamesCombinator key → value.items? = some items → (∀ item ∈ items, Written item) →
      WrittenEntry (key, value)
  | single {key value : Value} : ¬ NamesCombinator key → WrittenEntry (key, value)

end

/-- Conditions on a field: operators with their arguments, at least one. -/
def ListsOperators (value : Value) : Prop :=
  ∃ entries, value = .mapping entries ∧ entries ≠ [] ∧ ∀ entry ∈ entries, NamesOperator entry.1

mutual

inductive Completes : Value → Entries → Prop where
  | mapping {entries filter : Entries} :
      List.Forall₂ CompletesEntry entries filter → Completes (.mapping entries) filter

/-- An entry in full, for an entry as it is written. -/
inductive CompletesEntry : Value × Value → Value × Value → Prop where
  | combined {key value : Value} {items : List Value} {operands : List Entries} :
      NamesCombinator key → value.items? = some items → List.Forall₂ Completes items operands →
      CompletesEntry (key, value) (key, .list (operands.map .mapping))
  | operator {key value : Value} :
      NamesOperator key → ¬ NamesCombinator key → CompletesEntry (key, value) (key, value)
  | conditions {key value : Value} :
      ¬ NamesOperator key → ListsOperators value → CompletesEntry (key, value) (key, value)
  | equality {key value : Value} :
      ¬ NamesOperator key → ¬ ListsOperators value →
      CompletesEntry (key, value) (key, .mapping [(.text "$eq", value)])

end

theorem ofValue?_isSome_iff {key : Value} :
    (Combinator.ofValue? key).isSome = true ↔ NamesCombinator key := by
  cases key with
  | text name =>
      simp only [Combinator.ofValue?, Value.text?, Option.bind_some, Combinator.ofKey?,
        List.find?_isSome, NamesCombinator, Value.text.injEq]
      constructor
      · rintro ⟨combinator, -, named⟩
        exact ⟨combinator, (beq_iff_eq.mp named).symm⟩
      · rintro ⟨combinator, rfl⟩
        refine ⟨combinator, ?_, beq_self_eq_true _⟩
        cases combinator <;> simp [Combinator.all]
  | _ => simp [Combinator.ofValue?, Value.text?, NamesCombinator]

theorem ofValue?_eq_none_iff {key : Value} :
    Combinator.ofValue? key = none ↔ ¬ NamesCombinator key := by
  rw [← ofValue?_isSome_iff, Option.not_isSome_iff_eq_none]

theorem isOperator_iff {key : Value} : isOperator key = true ↔ NamesOperator key := by
  cases key with
  | text name =>
      simp only [isOperator, Value.text?, Option.map_some, Option.getD_some, isOperatorText,
        beq_iff_eq, List.head?_eq_some_iff, NamesOperator, Value.text.injEq]
      refine exists_congr fun rest => ?_
      rw [← String.toList_inj, String.toList_ofList]
  | _ => simp [isOperator, Value.text?, NamesOperator]

theorem isConditions_iff {value : Value} : isConditions value = true ↔ ListsOperators value := by
  cases value with
  | mapping entries => simp [isConditions_mapping, ListsOperators, isOperator_iff]
  | _ => simp [isConditions, ListsOperators]

theorem NamesCombinator.namesOperator {key : Value} (named : NamesCombinator key) :
    NamesOperator key := by
  obtain ⟨combinator, rfl⟩ := named
  cases combinator
  · exact ⟨"and".toList, rfl⟩
  · exact ⟨"nor".toList, rfl⟩
  · exact ⟨"or".toList, rfl⟩

/-- A reading that succeeds with a fitting result where something was written, and refuses the query
where it was not. -/
def Reads {α : Type} (result : Except Failure α) (written : Prop) (fits : α → Prop) : Prop :=
  (written ∧ ∃ found, result = .ok found ∧ fits found) ∨
    ¬ written ∧ ∃ fault, result = .error (.query fault)

namespace Reads

variable {α β : Type} {result : Except Failure α} {written others : Prop} {fits : α → Prop}

theorem imp (reads : Reads result written fits) (same : written ↔ others) {fitsToo : α → Prop}
    (implies : ∀ found, fits found → fitsToo found) : Reads result others fitsToo := by
  rcases reads with ⟨here, found, read, fit⟩ | ⟨absent, refused⟩
  · exact .inl ⟨same.mp here, found, read, implies found fit⟩
  · exact .inr ⟨fun there => absent (same.mpr there), refused⟩

theorem map (reads : Reads result written fits) (change : α → β) :
    Reads (result.map change) written fun changed =>
      ∃ found, changed = change found ∧ fits found := by
  rcases reads with ⟨here, found, read, fit⟩ | ⟨absent, fault, refused⟩
  · rw [read]
    exact .inl ⟨here, change found, rfl, found, rfl, fit⟩
  · rw [refused]
    exact .inr ⟨absent, fault, rfl⟩

/-- Members of a list are read in turn. -/
theorem cons (reads : Reads result written fits) (make : α → β) {rest : Except Failure (List β)}
    {fitAll : List β → Prop} (tail : Reads rest others fitAll) :
    Reads (result.bind fun found => rest.map (make found :: ·)) (written ∧ others)
      fun all => ∃ found list, all = make found :: list ∧ fits found ∧ fitAll list := by
  rcases reads with ⟨here, found, read, fit⟩ | ⟨absent, fault, refused⟩
  · rw [read]
    refine (tail.map (make found :: ·)).imp ?_ ?_
    · exact (and_iff_right here).symm
    · rintro _ ⟨list, rfl, fitRest⟩
      exact ⟨found, list, rfl, fit, fitRest⟩
  · rw [refused]
    exact .inr ⟨fun all => absent all.1, fault, rfl⟩

end Reads

theorem normalizeEntries_cons (entry : Value × Value) (rest : Entries) :
    normalizeEntries (entry :: rest) = (normalizeValue entry.1 entry.2).bind fun normal =>
      (normalizeEntries rest).map ((entry.1, normal) :: ·) := by
  rw [normalizeEntries]
  cases normalizeValue entry.1 entry.2 <;> rfl

theorem normalizeItems_cons (item : Value) (rest : List Value) :
    normalizeItems (item :: rest) = (normalize item).bind fun normal =>
      (normalizeItems rest).map (.mapping normal :: ·) := by
  rw [normalizeItems]
  cases normalize item <;> rfl

theorem reads_entries {entries : Entries}
    (each : ∀ entry ∈ entries, Reads (normalizeValue entry.1 entry.2) (WrittenEntry entry)
      fun normal => CompletesEntry entry (entry.1, normal)) :
    Reads (normalizeEntries entries) (∀ entry ∈ entries, WrittenEntry entry)
      (List.Forall₂ CompletesEntry entries) := by
  induction entries with
  | nil => exact .inl ⟨by simp, [], rfl, .nil⟩
  | cons entry rest inductionHypothesis =>
      obtain ⟨head, tail⟩ := List.forall_mem_cons.mp each
      rw [normalizeEntries_cons]
      refine (head.cons (entry.1, ·) (inductionHypothesis tail)).imp List.forall_mem_cons.symm ?_
      rintro _ ⟨normal, filter, rfl, completes, completesRest⟩
      exact .cons completes completesRest

theorem reads_items {items : List Value}
    (each : ∀ item ∈ items, Reads (normalize item) (Written item) (Completes item)) :
    Reads (normalizeItems items) (∀ item ∈ items, Written item)
      fun normals => ∃ operands : List Entries, normals = operands.map .mapping ∧
        List.Forall₂ Completes items operands := by
  induction items with
  | nil => exact .inl ⟨by simp, [], rfl, [], rfl, .nil⟩
  | cons item rest inductionHypothesis =>
      obtain ⟨head, tail⟩ := List.forall_mem_cons.mp each
      rw [normalizeItems_cons]
      refine (head.cons .mapping (inductionHypothesis tail)).imp List.forall_mem_cons.symm ?_
      rintro _ ⟨filter, _, rfl, completes, operands, rfl, completesRest⟩
      exact ⟨filter :: operands, rfl, .cons completes completesRest⟩

theorem normalizeValue_operands {key value : Value} {items : List Value}
    (named : NamesCombinator key) (held : value.items? = some items) :
    normalizeValue key value = (normalizeItems items).map .list := by
  have combined := ofValue?_isSome_iff.mpr named
  cases value with
  | list others | tuple others =>
      obtain rfl := Option.some.inj held
      rw [normalizeValue, if_pos combined]
  | _ => contradiction

theorem normalizeValue_unlisted {key value : Value} (named : NamesCombinator key)
    (unlisted : value.items? = none) :
    ∃ fault, normalizeValue key value = .error (.query fault) := by
  obtain ⟨combinator, found⟩ := Option.isSome_iff_exists.mp (ofValue?_isSome_iff.mpr named)
  cases value with
  | list | tuple => contradiction
  | _ => exact ⟨.notFilterArray combinator.key, by simp only [normalizeValue, found]⟩

theorem completesEntry_fieldValue {key : Value} (single : ¬ NamesCombinator key) (value : Value) :
    CompletesEntry (key, value) (key, fieldValue key value) := by
  by_cases operator : isOperator key = true
  · rw [fieldValue, if_pos operator]
    exact .operator (isOperator_iff.mp operator) single
  · have field : ¬ NamesOperator key := fun named => operator (isOperator_iff.mpr named)
    rw [fieldValue, if_neg operator, Filter.conditions]
    by_cases listed : isConditions value = true
    · rw [if_pos listed]
      exact .conditions field (isConditions_iff.mp listed)
    · rw [if_neg listed]
      exact .equality field fun lists => listed (isConditions_iff.mpr lists)

theorem reads_value {key value : Value}
    (each : ∀ items, value.items? = some items →
      ∀ item ∈ items, Reads (normalize item) (Written item) (Completes item)) :
    Reads (normalizeValue key value) (WrittenEntry (key, value))
      fun normal => CompletesEntry (key, value) (key, normal) := by
  by_cases named : NamesCombinator key
  · cases held : value.items? with
    | none =>
        right
        refine ⟨?_, normalizeValue_unlisted named held⟩
        rintro (⟨_, listed, _⟩ | single)
        · simp [held] at listed
        · exact single named
    | some items =>
        rw [normalizeValue_operands named held]
        refine ((reads_items (each items held)).map Value.list).imp ?_ ?_
        · constructor
          · exact .combined named held
          · rintro (⟨_, listed, written⟩ | single)
            · obtain rfl := Option.some.inj (held.symm.trans listed)
              exact written
            · contradiction
        · rintro _ ⟨_, rfl, operands, rfl, completes⟩
          exact .combined named held completes
  · left
    refine ⟨.single named, _, normalizeValue_of_none (ofValue?_eq_none_iff.mpr named) value, ?_⟩
    exact completesEntry_fieldValue named value

/-- Reading a filter succeeds with the filter in full where one is written, and is refused where
none is. -/
theorem reads_filter (value : Value) :
    Reads (normalize value) (Written value) (Completes value) := by
  -- The values under keys are read as filters only inside lists, so both readings go together.
  suffices both : Reads (normalize value) (Written value) (Completes value) ∧
      ∀ key, Reads (normalizeValue key value) (WrittenEntry (key, value))
        fun normal => CompletesEntry (key, value) (key, normal) from both.1
  induction value using Value.induct with
  | whole value inductionHypothesis =>
      constructor
      · cases value with
        | mapping entries =>
            have each := reads_entries fun entry member =>
              (inductionHypothesis entry.2 (Value.value_mem_parts member)).2 entry.1
            rw [normalize]
            refine each.imp ⟨.mapping, ?_⟩ fun filter completes => .mapping completes
            rintro ⟨written⟩
            exact written
        | _ => exact .inr ⟨by rintro ⟨⟩, .filterNotObject, rfl⟩
      · intro key
        apply reads_value
        intro items held item member
        exact (inductionHypothesis item (Value.mem_parts held member)).1

/-- A filter can be read exactly if it is written as one, and is refused otherwise. What is read is
the filter in full: it is normal, reading it again changes nothing, and no normal filter is changed
by reading it. -/
theorem filters_are_read_in_full (value : Value) :
    ((∃ filter, normalize value = .ok filter) ↔ Written value) ∧
    (¬ Written value → ∃ fault, normalize value = .error (.query fault)) ∧
    (∀ filter, normalize value = .ok filter →
      Completes value filter ∧ Normal filter ∧ normalize (.mapping filter) = .ok filter) ∧
    ∀ filter, Normal filter → normalize (.mapping filter) = .ok filter := by
  refine ⟨?_, ?_, ?_, fun filter normal => normal.fixed⟩
  · rcases reads_filter value with ⟨written, filter, read, -⟩ | ⟨unwritten, fault, refused⟩
    · exact ⟨fun _ => written, fun _ => ⟨filter, read⟩⟩
    · constructor
      · rintro ⟨filter, read⟩
        rw [refused] at read
        contradiction
      · intro written
        contradiction
  · intro unwritten
    rcases reads_filter value with ⟨written, -⟩ | ⟨-, refused⟩
    · contradiction
    · exact refused
  · intro filter read
    have normal := normal_of_normalize value read
    refine ⟨?_, normal, normal.fixed⟩
    rcases reads_filter value with ⟨-, other, readToo, completes⟩ | ⟨-, fault, refused⟩
    · rw [Except.ok.inj (read.symm.trans readToo)]
      exact completes
    · rw [refused] at read
      contradiction

end RecordQuery.Filter
