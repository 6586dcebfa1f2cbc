import RecordQuery.Proofs.Filter.Normal
import RecordQuery.Proofs.Tree.Entrywise

/-!
# Normal nodes

The nodes of a filter tree are normal if their plain filters are. Normal entries are those of normal
operands, so a tree is normal entry by entry, and stays so under joins and under what operations
with operators write under fields.
-/

namespace RecordQuery

open FilterNode

/-- Normal entries are those of normal operands, and of conditions and operators beside them. -/
theorem Filter.entrywise_normal : Filter.Entrywise Filter.NormalEntry := by
  intro combinator operands
  have named : (Combinator.ofValue? (.text combinator.key)).isSome = true := by simp
  constructor
  · intro normal
    generalize listed : operands.map Value.mapping = items at normal
    cases normal with
    | @combined _ filters _ normal =>
        rwa [List.map_injective_iff.mpr (fun _ _ => Value.mapping.inj) listed]
    | plain noCombinator _ => simp [noCombinator] at named
  · exact .combined named

/-- Contents whose plain filter is normal. -/
def Slots.Normal (slots : Slots) : Prop := Filter.Normal slots.toEntries

theorem Slots.normal_iff {slots : Slots} :
    slots.Normal ↔ ∀ slot ∈ slots, Filter.NormalEntry (slotToEntry slot) := Slots.each_iff

namespace FilterNode

/-- A node whose plain filter is normal. -/
def Normal (node : FilterNode) : Prop := node.slots.Normal

end FilterNode

namespace Slots

theorem Normal.join {slots : Slots} (normal : slots.Normal) (combinator : Combinator)
    {operands : List FilterNode} (others : ∀ operand ∈ operands, operand.Normal) :
    (slots.join combinator operands).Normal :=
  Each.join Filter.entrywise_normal normal combinator others

theorem Normal.ofEntries {filter : Entries} (normal : Filter.Normal filter)
    (texts : ∀ entry ∈ filter, ∃ name, entry.1 = .text name) :
    (Slots.ofEntries filter).Normal := by
  rwa [Normal, toEntries_ofEntries texts]

theorem Normal.set {slots : Slots} (normal : slots.Normal) {key : String} {value : Value}
    (written : Filter.NormalEntry (.text key, value)) : (slots.set key value).Normal :=
  Each.set normal written

/-- The conditions on a field of normal contents are operators. -/
theorem Normal.conditions {slots : Slots} (normal : slots.Normal) {field : String}
    (plain : isOperator (.text field) = false) :
    ∀ entry ∈ slots.conditions field, isOperator entry.1 = true := by
  intro entry member
  rcases Each.conditions normal field with empty | written
  · rw [empty] at member
    contradiction
  · cases written with
    | plain _ shape =>
        have conditions := shape.resolve_left (by simp [plain])
        rw [Filter.isConditions, Bool.and_eq_true] at conditions
        exact List.all_eq_true.mp conditions.2 entry member

end Slots

def Edit.WritesOperator : Edit → Prop
  | .write operator _ => isOperator operator = true
  | .clear _ => True

namespace Entries

theorem isKey_of_isOperator {key : Value} (operator : isOperator key = true) :
    key.isKey = true := by
  cases key with
  | text name => rfl
  | _ => contradiction

theorem revise_put (conditions : Entries) (operator : FieldOperator) (argument : Value) :
    conditions.revise (.put operator argument) =
      (conditions.insert (.text operator.key) argument, none) := rfl

theorem isOperator_revise {conditions : Entries} {edit : Edit}
    (operators : ∀ entry ∈ conditions, isOperator entry.1 = true) (writes : edit.WritesOperator) :
    ∀ entry ∈ (conditions.revise edit).1, isOperator entry.1 = true := by
  intro entry member
  cases edit with
  | write operator argument =>
      rw [revise, if_pos (isKey_of_isOperator writes)] at member
      rcases mem_insert member with old | ⟨-, key | ⟨value, there⟩⟩
      · exact operators entry old
      · rw [key]
        exact writes
      · exact operators (entry.1, value) there
  | clear operator => exact operators entry (List.mem_of_mem_filter member)

theorem isOperator_reviseAll {conditions : Entries} {edits : List Edit}
    (operators : ∀ entry ∈ conditions, isOperator entry.1 = true)
    (writes : ∀ edit ∈ edits, edit.WritesOperator) :
    ∀ entry ∈ (conditions.reviseAll edits).1, isOperator entry.1 = true := by
  induction edits generalizing conditions with
  | nil => exact operators
  | cons edit rest inductionHypothesis =>
      have revised := isOperator_revise operators (writes edit List.mem_cons_self)
      rw [reviseAll]
      split
      · rename_i changed result
        rw [result] at revised
        exact inductionHypothesis revised fun other member =>
          writes other (List.mem_cons_of_mem _ member)
      · rename_i changed failure result
        rwa [result] at revised

end Entries

namespace FieldOperation

/-- Whether an operation that names its operator names one. -/
def UsesOperator : FieldOperation → Prop
  | .condition operator _ => isOperator operator = true
  | _ => True

theorem isOperator_key (operator : FieldOperator) : isOperator (.text operator.key) = true := by
  cases operator <;> rfl

theorem writesOperator_of_edits {operation : FieldOperation} {limit : Int} {edits : List Edit}
    (written : operation.edits limit = .ok edits) (uses : operation.UsesOperator) :
    ∀ edit ∈ edits, edit.WritesOperator := by
  have put (operator : FieldOperator) (argument : Value) :
      (Edit.put operator argument).WritesOperator := isOperator_key operator
  rcases edits_cases written with ⟨operator, argument, rfl, rfl⟩ | shape
  · intro edit member
    obtain rfl := List.mem_singleton.mp member
    exact uses
  · cases shape with
    | one operator argument => simpa using put operator argument
    | two first argument second other => simpa using ⟨put first argument, put second other⟩
    | plainPattern source => simpa using ⟨put .regex source, trivial⟩

theorem reviseAll_ne_nil {operation : FieldOperation} {limit : Int} {edits : List Edit}
    (written : operation.edits limit = .ok edits) (uses : operation.UsesOperator)
    (conditions : Entries) : (conditions.reviseAll edits).1 ≠ [] := by
  rcases edits_cases written with ⟨operator, argument, rfl, rfl⟩ | shape
  · rw [Entries.reviseAll, Entries.revise, if_pos (Entries.isKey_of_isOperator uses)]
    exact Entries.insert_ne_nil _ _ _
  · cases shape with
    | one operator argument =>
        rw [Entries.reviseAll, Entries.revise_put]
        exact Entries.insert_ne_nil _ _ _
    | two first argument second other =>
        simp only [Entries.reviseAll, Entries.revise_put]
        exact Entries.insert_ne_nil _ _ _
    | plainPattern source =>
        have other : (Value.text FieldOperator.regex.key).equal
            (.text FieldOperator.regexOptions.key) = false := by
          simp [Value.equal, Value.same, FieldOperator.key]
        have kept : (.text FieldOperator.regex.key, source) ∈
            (conditions.insert (.text FieldOperator.regex.key) source).erase
              FieldOperator.regexOptions.key :=
          List.mem_filter.mpr ⟨Entries.mem_insert_text _ _ _, by simp [other]⟩
        exact List.ne_nil_of_mem kept

/-- What an operation with an operator leaves under a field are conditions. -/
theorem isConditions_reviseAll {operation : FieldOperation} {limit : Int} {edits : List Edit}
    (written : operation.edits limit = .ok edits) (uses : operation.UsesOperator)
    {conditions : Entries} (operators : ∀ entry ∈ conditions, isOperator entry.1 = true) :
    Filter.isConditions (.mapping (conditions.reviseAll edits).1) = true :=
  Filter.isConditions_mapping.mpr ⟨reviseAll_ne_nil written uses conditions,
    Entries.isOperator_reviseAll operators (writesOperator_of_edits written uses)⟩

end FieldOperation

theorem Combinator.ofValue?_text {field : String}
    (named : ∀ combinator : Combinator, combinator.key ≠ field) :
    Combinator.ofValue? (.text field) = none := by
  apply List.find?_eq_none.mpr
  intro combinator _
  simpa using named combinator

/-- An operation with an operator on a field keeps contents normal. -/
theorem Slots.Normal.applyEdits {slots : Slots} (normal : slots.Normal) {field : String}
    (named : ∀ combinator : Combinator, combinator.key ≠ field) {operation : FieldOperation}
    {limit : Int} {edits : List Edit} (written : operation.edits limit = .ok edits)
    (uses : operation.UsesOperator) : (slots.applyEdits field edits).1.Normal := by
  rw [Slots.applyEdits_eq_set _ _ (FieldOperation.edits_ne_nil written)]
  refine normal.set (.plain (Combinator.ofValue?_text named) ?_)
  by_cases operator : isOperator (.text field) = true
  · exact .inl operator
  · have plain : isOperator (.text field) = false := by simpa using operator
    exact .inr (FieldOperation.isConditions_reviseAll written uses (normal.conditions plain))

end RecordQuery
