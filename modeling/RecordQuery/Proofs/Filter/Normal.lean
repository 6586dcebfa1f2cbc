import RecordQuery.Filter.Normal
import RecordQuery.Proofs.Tree.Edits
import RecordQuery.Proofs.Value.Entries

/-!
# Normal forms of filters

In a normal filter every combinator has a list of normal filters, and every field has conditions: a
mapping that is not empty and has operators as keys. What `normalize` gives is normal, and a normal
filter is what `normalize` gives for it. The nodes of a filter tree stay normal under all edits with
operators.
-/

namespace RecordQuery

namespace Filter

/-- An entry of a normal filter. -/
inductive NormalEntry : Value × Value → Prop where
  | combined {key : Value} {operands : List Entries} :
      (Combinator.ofValue? key).isSome = true →
      (∀ operand ∈ operands, ∀ entry ∈ operand, NormalEntry entry) →
      NormalEntry (key, .list (operands.map .mapping))
  | plain {key value : Value} :
      Combinator.ofValue? key = none → isOperator key = true ∨ isConditions value = true →
      NormalEntry (key, value)

/-- A filter in normal form. -/
def Normal (filter : Entries) : Prop := ∀ entry ∈ filter, NormalEntry entry

theorem Normal.cons {entry : Value × Value} {filter : Entries} (head : NormalEntry entry)
    (tail : Normal filter) : Normal (entry :: filter) := by
  intro other member
  rcases List.mem_cons.mp member with rfl | member
  · exact head
  · exact tail other member

theorem isConditions_mapping {entries : Entries} :
    isConditions (.mapping entries) = true ↔
      entries ≠ [] ∧ ∀ entry ∈ entries, isOperator entry.1 = true := by
  simp [isConditions]

theorem normalizeValue_of_none {key : Value} (plain : Combinator.ofValue? key = none)
    (value : Value) : normalizeValue key value = .ok (fieldValue key value) := by
  cases value <;> simp [normalizeValue, plain]

theorem normalizeEntries_fixed {filter : Entries}
    (fixed : ∀ entry ∈ filter, normalizeValue entry.1 entry.2 = .ok entry.2) :
    normalizeEntries filter = .ok filter := by
  induction filter with
  | nil => rfl
  | cons entry rest inductionHypothesis =>
      rcases entry with ⟨key, value⟩
      have head := fixed (key, value) List.mem_cons_self
      have tail := inductionHypothesis fun other member =>
        fixed other (List.mem_cons_of_mem _ member)
      rw [normalizeEntries, head, tail]
      rfl

theorem normalizeItems_fixed {operands : List Entries}
    (fixed : ∀ operand ∈ operands, normalizeEntries operand = .ok operand) :
    normalizeItems (operands.map .mapping) = .ok (operands.map .mapping) := by
  induction operands with
  | nil => rfl
  | cons operand rest inductionHypothesis =>
      have head := fixed operand List.mem_cons_self
      have tail := inductionHypothesis fun other member =>
        fixed other (List.mem_cons_of_mem _ member)
      rw [List.map_cons, normalizeItems, normalize, head, tail]
      rfl

theorem NormalEntry.fixed {entry : Value × Value} (normal : NormalEntry entry) :
    normalizeValue entry.1 entry.2 = .ok entry.2 := by
  induction normal with
  | combined combinator _ inductionHypothesis =>
      have items := normalizeItems_fixed fun operand member =>
        normalizeEntries_fixed (inductionHypothesis operand member)
      simp only [normalizeValue, combinator, if_true, items]
      rfl
  | @plain key value noCombinator shape =>
      rw [normalizeValue_of_none noCombinator]
      rcases shape with operator | conditions
      · rw [fieldValue, if_pos operator]
      · by_cases operator : isOperator key = true
        · rw [fieldValue, if_pos operator]
        · rw [fieldValue, if_neg operator, Filter.conditions, if_pos conditions]

/-- A normal filter is what normalizing it gives. -/
theorem Normal.fixed {filter : Entries} (normal : Normal filter) :
    normalize (.mapping filter) = .ok filter :=
  normalizeEntries_fixed fun entry member => (normal entry member).fixed

theorem normalEntry_fieldValue {key : Value} (noCombinator : Combinator.ofValue? key = none)
    (value : Value) : NormalEntry (key, fieldValue key value) := by
  by_cases operator : isOperator key = true
  · exact .plain noCombinator (.inl operator)
  · refine .plain noCombinator (.inr ?_)
    rw [fieldValue, if_neg operator, Filter.conditions]
    split
    · assumption
    · rfl

theorem normalEntry_combined {key normal : Value} {result : Except Failure (List Value)}
    (combinator : (Combinator.ofValue? key).isSome = true)
    (operands : ∀ normals, result = .ok normals → ∃ operands : List Entries,
      normals = operands.map .mapping ∧ ∀ operand ∈ operands, Normal operand)
    (given : result.map .list = .ok normal) : NormalEntry (key, normal) := by
  cases result with
  | error failure => contradiction
  | ok normals =>
      obtain rfl := Except.ok.inj given
      obtain ⟨filters, rfl, normal⟩ := operands normals rfl
      exact .combined combinator normal

mutual

/-- What normalizing gives is normal. -/
theorem normal_of_normalize (value : Value) {filter : Entries}
    (read : normalize value = .ok filter) : Normal filter := by
  cases value with
  | mapping entries => exact normal_of_normalizeEntries entries read
  | _ => contradiction

theorem normal_of_normalizeEntries (entries : List (Value × Value)) {filter : Entries}
    (read : normalizeEntries entries = .ok filter) : Normal filter := by
  match entries with
  | [] =>
      obtain rfl := Except.ok.inj read
      simp [Normal]
  | (key, value) :: rest =>
      rw [normalizeEntries] at read
      cases head : normalizeValue key value with
      | error failure => simp [head] at read
      | ok normal =>
          cases tail : normalizeEntries rest with
          | error failure => simp [head, tail, Except.map] at read
          | ok others =>
              rw [head, tail] at read
              obtain rfl := Except.ok.inj read
              exact .cons (normalEntry_of_normalizeValue key value head)
                (normal_of_normalizeEntries rest tail)

theorem normalEntry_of_normalizeValue (key value : Value) {normal : Value}
    (read : normalizeValue key value = .ok normal) : NormalEntry (key, normal) := by
  by_cases combinator : (Combinator.ofValue? key).isSome = true
  · obtain ⟨named, some⟩ := Option.isSome_iff_exists.mp combinator
    cases value with
    | list items =>
        rw [normalizeValue, if_pos combinator] at read
        exact normalEntry_combined combinator
          (fun normals => normal_of_normalizeItems items) read
    | tuple items =>
        rw [normalizeValue, if_pos combinator] at read
        exact normalEntry_combined combinator
          (fun normals => normal_of_normalizeItems items) read
    | _ => simp [normalizeValue, some] at read
  · have noCombinator : Combinator.ofValue? key = none := by simpa using combinator
    rw [normalizeValue_of_none noCombinator] at read
    obtain rfl := Except.ok.inj read
    exact normalEntry_fieldValue noCombinator value

theorem normal_of_normalizeItems (items : List Value) {normals : List Value}
    (read : normalizeItems items = .ok normals) :
    ∃ operands : List Entries, normals = operands.map .mapping ∧
      ∀ operand ∈ operands, Normal operand := by
  match items with
  | [] =>
      obtain rfl := Except.ok.inj read
      exact ⟨[], rfl, by simp⟩
  | item :: rest =>
      rw [normalizeItems] at read
      cases head : normalize item with
      | error failure => simp [head] at read
      | ok filter =>
          cases tail : normalizeItems rest with
          | error failure => simp [head, tail, Except.map] at read
          | ok others =>
              rw [head, tail] at read
              obtain rfl := Except.ok.inj read
              obtain ⟨operands, rfl, normal⟩ := normal_of_normalizeItems rest tail
              refine ⟨filter :: operands, rfl, ?_⟩
              intro operand member
              rcases List.mem_cons.mp member with rfl | member
              · exact normal_of_normalize item head
              · exact normal operand member

end

end Filter

end RecordQuery
