import RecordQuery.Proofs.Tree.Surroundings
import RecordQuery.Query.FieldOperation

/-!
# Edits and joins of a node's contents

An operation on a field is a short list of edits. Edits under a field write one entry, which
`Entries.reviseAll` computes from the conditions on the field; a join moves the contents into its
first operand. Neither loses a mark: an edit under a field that names no combinator keeps every
operand, any other edit pushes out exactly the displaced operands.
-/

namespace RecordQuery

open FilterNode

namespace FieldOperation

/-- The edits that named operators are written with. -/
inductive WritesOperators : List Edit → Prop where
  | one (operator : FieldOperator) (argument : Value) : WritesOperators [.put operator argument]
  | two (operator : FieldOperator) (argument : Value) (second : FieldOperator) (other : Value) :
      WritesOperators [.put operator argument, .put second other]
  | plainPattern (source : Value) :
      WritesOperators [.put .regex source, .clear .regexOptions]

/-- What follows from the result of checks that succeed. -/
theorem of_bind {α : Type} {property : List Edit → Prop} {checks : Except Failure α}
    {next : α → Except Failure (List Edit)} {edits : List Edit}
    (written : checks >>= next = .ok edits)
    (holds : ∀ value, next value = .ok edits → property edits) : property edits := by
  cases checks with
  | error failure => contradiction
  | ok value => exact holds value written

theorem of_map {α : Type} {property : List Edit → Prop} {checks : Except Failure α}
    {next : α → List Edit} {edits : List Edit} (written : checks.map next = .ok edits)
    (holds : ∀ value, property (next value)) : property edits := by
  cases checks with
  | error failure => contradiction
  | ok value =>
      obtain rfl : next value = edits := Except.ok.inj written
      exact holds value

theorem of_ok {property : List Edit → Prop} {edits result : List Edit}
    (written : (Except.ok result : Except Failure (List Edit)) = .ok edits)
    (holds : property result) : property edits := Except.ok.inj written ▸ holds

theorem of_guard {property : List Edit → Prop} {refused : Prop} [Decidable refused]
    {failure : Failure} {next : PUnit → Except Failure (List Edit)} {edits : List Edit}
    (written : (if refused then throw failure >>= next else next ⟨⟩) = .ok edits)
    (holds : next ⟨⟩ = .ok edits → property edits) : property edits := by
  by_cases stop : refused
  · rw [if_pos stop] at written
    contradiction
  · rw [if_neg stop] at written
    exact holds written

/-- An operation writes the condition that it was given or conditions with named operators. -/
theorem edits_cases {operation : FieldOperation} {limit : Int} {edits : List Edit}
    (written : operation.edits limit = .ok edits) :
    (∃ operator argument, operation = .condition operator argument ∧
        edits = [.write operator argument]) ∨ WritesOperators edits := by
  have checked (operator : FieldOperator) (checks : Except Failure Value)
      (written : putChecked operator checks = .ok edits) : WritesOperators edits :=
    of_map written fun value => .one operator value
  cases operation with
  | condition operator argument =>
      exact .inl ⟨operator, argument, rfl, (Except.ok.inj written).symm⟩
  | equalTo value => exact .inr (of_ok written (.one _ _))
  | notEqualTo value => exact .inr (of_ok written (.one _ _))
  | contains values => exact .inr (of_ok written (.one _ _))
  | notContainedIn values => exact .inr (of_ok written (.one _ _))
  | containsAll values => exact .inr (of_ok written (.one _ _))
  | greaterThan value => exact .inr (checked _ _ written)
  | greaterThanOrEqualTo value => exact .inr (checked _ _ written)
  | lessThan value => exact .inr (checked _ _ written)
  | lessThanOrEqualTo value => exact .inr (checked _ _ written)
  | «exists» flag => exact .inr (of_ok written (.one _ _))
  | mod divisor remainder =>
      exact .inr (of_bind written fun divisor written => of_guard written fun written =>
        of_bind written fun remainder written => of_ok written (.one _ _))
  | «matches» pattern options =>
      refine .inr (of_bind written fun options written => of_bind written fun found written =>
        of_guard written fun written => of_guard written fun written => of_ok written ?_)
      split
      · exact .plainPattern _
      · exact .two _ _ _ _
  | near coordinate maxDistance =>
      have both (x y distance : Value) : WritesOperators (.put .nearSphere (.list [x, y]) ::
          if distance.isTruthy then [.put .maxDistance distance] else []) := by
        split
        · exact .two _ _ _ _
        · exact .one _ _
      refine .inr ?_
      simp only [FieldOperation.edits, nearEdits] at written
      repeat' split at written
      all_goals
        refine of_bind written fun _ written => of_bind written fun _ written => ?_
        exact of_ok written (both _ _ _)
  | withinBox bottomLeft upperRight =>
      exact .inr (of_bind written fun low written => of_bind written fun high written =>
        of_ok written (.one _ _))
  | withinPolygon coordinates =>
      refine .inr ?_
      simp only [FieldOperation.edits, polygonEdits] at written
      repeat' split at written
      all_goals
        refine of_bind written fun _ written => of_bind written fun _ written => ?_
        exact of_ok written (.one _ _)
  | size given => exact .inr (of_map written fun count => .one _ _)

theorem edits_ne_nil {operation : FieldOperation} {limit : Int} {edits : List Edit}
    (written : operation.edits limit = .ok edits) : edits ≠ [] := by
  rcases edits_cases written with ⟨operator, argument, -, rfl⟩ | shape
  · simp
  · cases shape <;> simp

end FieldOperation

namespace Entries

/-- Conditions after one edit. An operator that cannot be a key leaves them as they are. -/
def revise (conditions : Entries) : Edit → Entries × Option Failure
  | .write operator argument =>
      if operator.isKey then (conditions.insert operator argument, none)
      else (conditions, some .mismatch)
  | .clear operator => (conditions.erase operator.key, none)

/-- Conditions after edits in turn, up to the first one that fails. -/
def reviseAll (conditions : Entries) : List Edit → Entries × Option Failure
  | [] => (conditions, none)
  | edit :: rest =>
      match conditions.revise edit with
      | (changed, none) => reviseAll changed rest
      | (changed, some failure) => (changed, some failure)

end Entries

@[simp]
theorem Slot.key_plain (key : String) (value : Value) : (Slot.plain key value).key = key := rfl

@[simp]
theorem Slot.key_joined (combinator : Combinator) (operands : List FilterNode) :
    (Slot.joined combinator operands).key = combinator.key := rfl

namespace Slots

/-- A written key either replaces its entry in place or is added at the end. -/
theorem set_cases (slots : Slots) (key : String) (value : Value) :
    (∃ (before : Slots) (slot : Slot) (after : Slots),
      slots = before ++ slot :: after ∧ slots.get? key = some slot ∧
        slots.set key value = before ++ .plain key value :: after) ∨
      slots.get? key = none ∧ slots.set key value = slots ++ [.plain key value] := by
  induction slots with
  | nil => exact .inr ⟨rfl, rfl⟩
  | cons slot rest inductionHypothesis =>
      by_cases same : slot.key = key
      · exact .inl ⟨[], slot, rest, rfl, by simp [get?, same], by simp [set, same]⟩
      · have found : get? (slot :: rest) key = get? rest key := by simp [get?, same]
        have written : set (slot :: rest) key value = slot :: set rest key value := by
          simp [set, same]
        rw [found, written]
        rcases inductionHypothesis with ⟨before, other, after, parts, held, shape⟩ | ⟨held, shape⟩
        · exact .inl ⟨slot :: before, other, after, by rw [parts]; rfl, held, by rw [shape]; rfl⟩
        · exact .inr ⟨held, by rw [shape]; rfl⟩

theorem key_of_get? {slots : Slots} {key : String} {slot : Slot}
    (held : slots.get? key = some slot) : slot.key = key := by
  simpa using List.find?_some held

@[simp]
theorem get?_set (slots : Slots) (key : String) (value : Value) :
    (slots.set key value).get? key = some (.plain key value) := by
  induction slots with
  | nil => simp [set, get?]
  | cons slot rest inductionHypothesis =>
      by_cases same : slot.key = key
      · simp [set, get?, same]
      · simpa [set, get?, same] using inductionHypothesis

@[simp]
theorem set_set (slots : Slots) (key : String) (first second : Value) :
    (slots.set key first).set key second = slots.set key second := by
  induction slots with
  | nil => simp [set]
  | cons slot rest inductionHypothesis =>
      by_cases same : slot.key = key
      · simp [set, same]
      · simp [set, same, inductionHypothesis]

theorem applyEdit_eq_set (slots : Slots) (field : String) (edit : Edit) :
    slots.applyEdit field edit =
      (slots.set field (.mapping ((slots.conditions field).revise edit).1),
        ((slots.conditions field).revise edit).2) := by
  cases edit with
  | write operator argument =>
      by_cases key : operator.isKey <;> simp [applyEdit, Entries.revise, key]
  | clear operator => simp [applyEdit, Entries.revise]

/-- Edits under a field write the revised conditions on it and nothing else. -/
theorem applyEdits_eq_set (slots : Slots) (field : String) {edits : List Edit}
    (nonempty : edits ≠ []) :
    slots.applyEdits field edits =
      (slots.set field (.mapping ((slots.conditions field).reviseAll edits).1),
        ((slots.conditions field).reviseAll edits).2) := by
  induction edits generalizing slots with
  | nil => contradiction
  | cons edit rest inductionHypothesis =>
      rw [applyEdits, applyEdit_eq_set, Entries.reviseAll]
      rcases (slots.conditions field).revise edit with ⟨changed, _ | failure⟩
      · cases rest with
        | nil => rfl
        | cons next others =>
            simp only
            rw [inductionHypothesis _ (by simp), set_set]
            simp [conditions]
      · rfl

/-- Writing a value keeps all marks but those of the displaced operands. -/
theorem marks_set (slots : Slots) (key : String) (value : Value) :
    (marksOfSlots slots).Perm
      (marksOfSlots (slots.set key value) ++ marksOfNodes (slots.displaced key)) := by
  rcases set_cases slots key value with ⟨before, slot, after, parts, held, shape⟩ | ⟨held, shape⟩
  · have pushedOut : marksOfSlot slot = marksOfNodes (slots.displaced key) := by
      rw [displaced, held]
      cases slot <;> rfl
    rw [shape, ← pushedOut, parts]
    simp only [marksOfSlots_eq_flatMap, List.flatMap_append, List.flatMap_cons, marksOfSlot,
      List.nil_append, List.append_assoc]
    exact List.perm_append_comm.append_left _
  · rw [displaced, held, shape]
    simp [marksOfSlot]

/-- No join stands under a key. -/
def PlainUnder (slots : Slots) (key : String) : Prop :=
  ∀ combinator operands, slots.get? key ≠ some (.joined combinator operands)

theorem plainUnder_of_field {slots : Slots} {key : String}
    (field : ∀ combinator : Combinator, combinator.key ≠ key) : slots.PlainUnder key := by
  intro combinator operands held
  exact field combinator (key_of_get? held)

/-- Where no join stands nothing is displaced. -/
theorem displaced_eq_nil {slots : Slots} {key : String} (plain : slots.PlainUnder key) :
    slots.displaced key = [] := by
  cases held : slots.get? key with
  | none => simp [displaced, held]
  | some slot =>
      cases slot with
      | plain other value => simp [displaced, held]
      | joined combinator operands => exact absurd held (plain combinator operands)

/-- Writing where no join stands touches plain entries only. -/
theorem set_of_plain {slots : Slots} {key : String} (plain : slots.PlainUnder key) (value : Value) :
    ∃ before after : Slots, slots.set key value = before ++ .plain key value :: after ∧
      (slots = before ++ after ∨ ∃ old, slots = before ++ .plain key old :: after) := by
  rcases set_cases slots key value with ⟨before, slot, after, parts, held, shape⟩ | ⟨_, shape⟩
  · refine ⟨before, after, shape, .inr ?_⟩
    cases slot with
    | plain other old =>
        have same : other = key := key_of_get? held
        exact ⟨old, by rw [parts, same]⟩
    | joined combinator operands => exact absurd held (plain combinator operands)
  · exact ⟨slots, [], shape, .inl (by simp)⟩

theorem chainsOfSlots_set {slots : Slots} {key : String} (plain : slots.PlainUnder key)
    (value : Value) (above : List Mark) :
    chainsOfSlots above (slots.set key value) = chainsOfSlots above slots := by
  obtain ⟨before, after, shape, rfl | ⟨old, rfl⟩⟩ := set_of_plain plain value <;>
    rw [shape] <;> simp [chainsOfSlot]

theorem findInSlots?_set {slots : Slots} {key : String} (plain : slots.PlainUnder key)
    (value : Value) (mark : Mark) :
    findInSlots? mark (slots.set key value) = findInSlots? mark slots := by
  obtain ⟨before, after, shape, rfl | ⟨old, rfl⟩⟩ := set_of_plain plain value <;>
    rw [shape] <;> simp [findInSlot?, List.findSome?_cons]

theorem marksOfSlots_join (combinator : Combinator) (operands : List FilterNode) (slots : Slots) :
    marksOfSlots (slots.join combinator operands) =
      marksOfSlots slots ++ marksOfNodes operands := by
  simp [join, marksOfSlot, FilterNode.marks]

theorem chainsOfSlots_join (combinator : Combinator) (operands : List FilterNode) (slots : Slots)
    (above : List Mark) :
    chainsOfSlots above (slots.join combinator operands) =
      chainsOfSlots above slots ++ chainsOfNodes above operands := by
  simp [join, chainsOfSlot, chains]

theorem findInSlots?_join (combinator : Combinator) {operands : List FilterNode} (slots : Slots)
    {mark : Mark} (absent : mark ∉ marksOfNodes operands) :
    findInSlots? mark (slots.join combinator operands) = findInSlots? mark slots := by
  have none : operands.findSome? (FilterNode.find? mark) = none := by
    refine List.findSome?_eq_none_iff.mpr fun operand member =>
      Option.not_isSome_iff_eq_none.mp fun found => absent ?_
    rw [marksOfNodes_eq_flatMap, List.mem_flatMap]
    exact ⟨operand, member, find?_isSome_iff.mp found⟩
  cases found : slots.findSome? (findInSlot? mark) <;>
    simp [join, findInSlot?, FilterNode.find?, none, found]

end Slots

namespace FilterNode

theorem chainsOfNodes_eq_nil {nodes : List FilterNode} (unmarked : marksOfNodes nodes = [])
    (above : List Mark) : chainsOfNodes above nodes = [] := by
  have none : (chainsOfNodes above nodes).map Prod.fst = [] := by
    rw [← unmarked]
    simp only [chainsOfNodes_eq_flatMap, marksOfNodes_eq_flatMap, List.map_flatMap, map_fst_chains]
  exact List.map_eq_nil_iff.mp none

theorem chainsOfSlots_eq_nil {slots : Slots} (unmarked : marksOfSlots slots = [])
    (above : List Mark) : chainsOfSlots above slots = [] := by
  have none : (chainsOfSlots above slots).map Prod.fst = [] := by
    rw [← unmarked]
    simp only [chainsOfSlots_eq_flatMap, marksOfSlots_eq_flatMap, List.map_flatMap,
      map_fst_chainsOfSlot]
  exact List.map_eq_nil_iff.mp none

theorem unmarked_and :
    (∀ node, marks (unmarked node) = [] ∧ toValue (unmarked node) = toValue node) ∧
      ∀ slot, marksOfSlot (unmarkedSlot slot) = [] ∧
        slotToEntry (unmarkedSlot slot) = slotToEntry slot := by
  apply induct
  case filter =>
    intro mark? slots inductionHypothesis
    constructor
    · simpa [unmarked, marks] using fun slot member => (inductionHypothesis slot member).1
    · simpa [unmarked, toValue] using fun slot member => (inductionHypothesis slot member).2
  case plain => simp [unmarkedSlot, marksOfSlot]
  case joined =>
    intro combinator operands inductionHypothesis
    constructor
    · simpa [unmarkedSlot, marksOfSlot] using fun operand member =>
        (inductionHypothesis operand member).1
    · simpa [unmarkedSlot, slotToEntry] using fun operand member =>
        (inductionHypothesis operand member).2

@[simp]
theorem marks_unmarked (node : FilterNode) : node.unmarked.marks = [] := (unmarked_and.1 node).1

@[simp]
theorem toValue_unmarked (node : FilterNode) : node.unmarked.toValue = node.toValue :=
  (unmarked_and.1 node).2

end FilterNode

end RecordQuery
