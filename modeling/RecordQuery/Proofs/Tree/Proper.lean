import RecordQuery.Proofs.Filter.Reading
import RecordQuery.Proofs.Number.Largest
import RecordQuery.Proofs.Tree.Normal
import RecordQuery.Proofs.Value.Proper

/-!
# Proper nodes

The nodes of a filter tree are proper if their plain filters are. Reading a filter, operations on
fields with proper arguments, and changes of one node that give proper contents keep them proper.
-/

namespace RecordQuery

open FilterNode

namespace Filter

theorem proper_fieldValue {value : Value} (proper : value.Proper) (key : Value) :
    (fieldValue key value).Proper := by
  rw [fieldValue, Filter.conditions]
  split
  · exact proper
  · split
    · exact proper
    · exact .single proper

/-- Normalizing keeps all keys, and each value is that of the same key normalized. -/
theorem normalizeEntries_eq_ok {entries filter : Entries}
    (read : normalizeEntries entries = .ok filter) :
    filter.map Prod.fst = entries.map Prod.fst ∧
      ∀ normal ∈ filter, ∃ entry ∈ entries, normalizeValue entry.1 entry.2 = .ok normal.2 := by
  induction entries generalizing filter with
  | nil =>
      obtain rfl := Except.ok.inj read
      simp
  | cons entry rest inductionHypothesis =>
      rw [normalizeEntries] at read
      cases head : normalizeValue entry.1 entry.2 with
      | error failure => simp [head] at read
      | ok normal =>
          cases tail : normalizeEntries rest with
          | error failure => simp [head, tail, Except.map] at read
          | ok others =>
              rw [head, tail] at read
              obtain rfl := Except.ok.inj read
              obtain ⟨keys, values⟩ := inductionHypothesis tail
              refine ⟨by simp [keys], List.forall_mem_cons.mpr ⟨⟨entry, .head _, head⟩, ?_⟩⟩
              intro other member
              obtain ⟨source, held, normalized⟩ := values other member
              exact ⟨source, .tail _ held, normalized⟩

theorem normalizeItems_eq_ok {items normals : List Value}
    (read : normalizeItems items = .ok normals) :
    ∀ normal ∈ normals, ∃ item ∈ items, ∃ filter, normalize item = .ok filter ∧
      normal = .mapping filter := by
  induction items generalizing normals with
  | nil =>
      obtain rfl := Except.ok.inj read
      simp
  | cons item rest inductionHypothesis =>
      rw [normalizeItems] at read
      cases head : normalize item with
      | error failure => simp [head] at read
      | ok filter =>
          cases tail : normalizeItems rest with
          | error failure => simp [head, tail, Except.map] at read
          | ok others =>
              rw [head, tail] at read
              obtain rfl := Except.ok.inj read
              refine List.forall_mem_cons.mpr ⟨⟨item, .head _, filter, head, rfl⟩, ?_⟩
              intro normal member
              obtain ⟨source, held, normalized⟩ := inductionHypothesis tail normal member
              exact ⟨source, .tail _ held, normalized⟩

/-- The value of a key is normalized as operands or as conditions. -/
theorem normalizeValue_cases {key value normal : Value}
    (read : normalizeValue key value = .ok normal) :
    normal = fieldValue key value ∨ ∃ items normals, value.items? = some items ∧
      normalizeItems items = .ok normals ∧ normal = .list normals := by
  have combined {items : List Value} (held : value.items? = some items)
      (read : (if (Combinator.ofValue? key).isSome then (normalizeItems items).map .list
        else .ok (fieldValue key value)) = .ok normal) :
      normal = fieldValue key value ∨ ∃ items normals, value.items? = some items ∧
        normalizeItems items = .ok normals ∧ normal = .list normals := by
    split at read
    · cases result : normalizeItems items with
      | error failure => simp [result, Except.map] at read
      | ok normals =>
          rw [result] at read
          exact .inr ⟨items, normals, held, result, (Except.ok.inj read).symm⟩
    · exact .inl (Except.ok.inj read).symm
  cases value with
  | list items | tuple items => exact combined rfl read
  | _ =>
      left
      simp only [normalizeValue] at read
      split at read
      · contradiction
      · exact (Except.ok.inj read).symm

theorem proper_of_normalize_and {value : Value} (proper : value.Proper) :
    (∀ filter, normalize value = .ok filter → (Value.mapping filter).Proper) ∧
      ∀ key normal, normalizeValue key value = .ok normal → normal.Proper := by
  induction value using Value.induct with
  | whole value inductionHypothesis =>
      have parts (part : Value) (member : part ∈ value.parts) :=
        inductionHypothesis part member (proper.part member)
      constructor
      · intro filter read
        cases value with
        | mapping entries =>
            obtain ⟨keys, values⟩ := normalizeEntries_eq_ok read
            refine proper.revalued keys fun normal member => ?_
            obtain ⟨entry, held, normalized⟩ := values normal member
            exact (parts entry.2 (Value.value_mem_parts held)).2 _ _
              normalized
        | _ => contradiction
      · intro key normal read
        rcases normalizeValue_cases read with rfl | ⟨items, normals, held, normalized, rfl⟩
        · exact proper_fieldValue proper key
        · refine .list fun operand member => ?_
          obtain ⟨item, itemMember, filter, operandRead, rfl⟩ :=
            normalizeItems_eq_ok normalized operand member
          exact (parts item (Value.mem_parts held itemMember)).1 filter operandRead

/-- What normalizing a proper value gives is proper. -/
theorem proper_of_normalize {value : Value} (proper : value.Proper) {filter : Entries}
    (read : normalize value = .ok filter) : (Value.mapping filter).Proper :=
  (proper_of_normalize_and proper).1 filter read

end Filter

namespace Snapshot

/-- A state with a proper filter. -/
def Proper (snapshot : Snapshot) : Prop := (Value.mapping snapshot.filter).Proper

theorem proper_empty : empty.Proper := .simple rfl

/-- Options that are proper describe a proper state. -/
theorem proper_of_ofEntries {options : Entries} (proper : (Value.mapping options).Proper)
    {snapshot : Snapshot} (read : ofEntries options = .ok snapshot) : snapshot.Proper := by
  obtain ⟨-, filterRead, -⟩ := ofEntries_eq_ok read
  rcases checkFilter_eq_ok filterRead with empty | ⟨value, held, normalized, -⟩
  · rw [Proper, empty]
    exact .simple rfl
  · have member := (Entries.get?_eq_some_iff proper.different).mp held
    exact Filter.proper_of_normalize (proper.value member) normalized

theorem proper_of_parse {value : Value} (proper : value.Proper) {snapshot : Snapshot}
    (read : parse value = .ok snapshot) : snapshot.Proper := by
  cases value with
  | null =>
      obtain rfl := Except.ok.inj read
      exact proper_empty
  | mapping entries => exact proper_of_ofEntries proper read
  | _ => contradiction

end Snapshot

/-- An edit that writes a proper key and a proper value. -/
def Edit.Proper : Edit → Prop
  | .write operator argument => operator.Proper ∧ argument.Proper
  | .clear _ => True

def Edit.AllProper (edits : List Edit) : Prop := ∀ edit ∈ edits, edit.Proper

theorem Edit.proper_put {operator : FieldOperator} {argument : Value} (proper : argument.Proper) :
    (put operator argument).Proper :=
  ⟨.simple rfl, proper⟩

theorem Edit.allProper_put {operator : FieldOperator} {argument : Value}
    (proper : argument.Proper) : AllProper [put operator argument] :=
  List.forall_mem_singleton.mpr (proper_put proper)

theorem Argument.proper_of_number {value found : Value} {name : String}
    (accepted : number value name = .ok found) : found.Proper := by
  rcases number_eq_ok accepted with ⟨_, rfl, -⟩ | ⟨_, rfl⟩ <;> exact .simple rfl

theorem Argument.proper_choices {value : Value} (proper : value.Proper) :
    (Value.list (choices value)).Proper := by
  refine .list fun choice member => ?_
  cases value with
  | list items | tuple items | set items => exact proper.part member
  | _ =>
      obtain rfl := List.mem_singleton.mp member
      exact proper

namespace FieldOperation

/-- The values that an operation writes as they are given, whole or item by item. -/
def kept : FieldOperation → List Value
  | .condition operator argument => [operator, argument]
  | .equalTo value | .notEqualTo value => [value]
  | .contains values | .notContainedIn values | .containsAll values => [values]
  | _ => []

theorem proper_of_isNumber {value : Value} (number : value.isNumber = true) : value.Proper := by
  cases value with
  | int whole | float real => exact .simple rfl
  | _ => contradiction

theorem proper_of_comparable {value found : Value} (checked : comparable value = .ok found) :
    found.Proper := by
  rw [comparable] at checked
  split at checked
  · rename_i kinds
    obtain rfl := Except.ok.inj checked
    rcases Bool.or_eq_true_iff.mp kinds with number | text
    · exact proper_of_isNumber number
    · cases value with
      | text name => exact .simple rfl
      | _ => contradiction
  · contradiction

theorem proper_shape (operator : FieldOperator) (corners : List (Binary64 × Binary64)) :
    (shape operator corners).Proper := by
  have corner (point : Binary64 × Binary64) : (Argument.coordinateValue point).Proper :=
    .list (by simpa using ⟨.simple rfl, .simple rfl⟩)
  refine .single (.list fun item member => ?_)
  obtain ⟨point, -, rfl⟩ := List.mem_map.mp member
  exact corner point

theorem allProper_nearEdits {coordinate maxDistance : Value} {edits : List Edit}
    (written : nearEdits coordinate maxDistance = .ok edits) : Edit.AllProper edits := by
  have both {x y distance : Value} (numbers : (x.isNumber && y.isNumber) = true)
      (distanceProper : distance.Proper) :
      Edit.AllProper (.put .nearSphere (.list [x, y]) ::
        if distance.isTruthy then [.put .maxDistance distance] else []) := by
    obtain ⟨first, second⟩ := Bool.and_eq_true_iff.mp numbers
    refine List.forall_mem_cons.mpr ⟨Edit.proper_put (.list ?_), ?_⟩
    · simpa using ⟨proper_of_isNumber first, proper_of_isNumber second⟩
    · split
      · exact Edit.allProper_put distanceProper
      · exact List.forall_mem_nil _
  simp only [nearEdits] at written
  split at written
  · split at written
    · rename_i numbers
      split at written
      · exact of_ok written (both numbers (.simple rfl))
      · obtain ⟨_, point, written⟩ := except_bind_eq_ok written
        obtain ⟨distance, bound, written⟩ := except_bind_eq_ok written
        obtain rfl := Except.ok.inj point
        exact of_ok written (both numbers (Argument.proper_of_number bound))
    · split at written <;> contradiction
  · split at written <;> contradiction

/-- What an operation writes is proper if the values that it keeps are. -/
theorem allProper_of_edits {operation : FieldOperation} {limit : Int} {edits : List Edit}
    (written : operation.edits limit = .ok edits)
    (proper : ∀ value ∈ operation.kept, value.Proper) : Edit.AllProper edits := by
  have ordered {operator : FieldOperator} {value : Value}
      (written : putChecked operator (comparable value) = .ok edits) : Edit.AllProper edits := by
    rw [putChecked] at written
    cases checked : comparable value with
    | error failure => simp [checked, Except.map] at written
    | ok found =>
        rw [checked] at written
        exact of_ok written (Edit.allProper_put (proper_of_comparable checked))
  cases operation with
  | condition operator argument =>
      refine of_ok written fun edit member => ?_
      obtain rfl := List.mem_singleton.mp member
      simpa [kept, Edit.Proper] using proper
  | equalTo value | notEqualTo value =>
      exact of_ok written (Edit.allProper_put (proper _ (.head _)))
  | contains values | notContainedIn values | containsAll values =>
      exact of_ok written (Edit.allProper_put (Argument.proper_choices (proper _ (.head _))))
  | greaterThan value | greaterThanOrEqualTo value | lessThan value | lessThanOrEqualTo value =>
      exact ordered written
  | «exists» flag => exact of_ok written (Edit.allProper_put (.simple rfl))
  | mod divisor remainder =>
      obtain ⟨number, divisorRead, written⟩ := except_bind_eq_ok written
      refine of_guard written fun written => ?_
      obtain ⟨other, remainderRead, written⟩ := except_bind_eq_ok written
      refine of_ok written (Edit.allProper_put (.list ?_))
      simpa using ⟨Argument.proper_of_number divisorRead, Argument.proper_of_number remainderRead⟩
  | «matches» pattern options =>
      refine of_bind written fun options written => of_bind written fun found written =>
        of_guard written fun written => of_guard written fun written => of_ok written ?_
      refine List.forall_mem_cons.mpr ⟨Edit.proper_put (.simple rfl), ?_⟩
      refine List.forall_mem_singleton.mpr ?_
      split
      · trivial
      · exact Edit.proper_put (.simple rfl)
  | near coordinate maxDistance => exact allProper_nearEdits written
  | withinBox bottomLeft upperRight =>
      exact of_bind written fun low written => of_bind written fun high written =>
        of_ok written (Edit.allProper_put (proper_shape _ _))
  | withinPolygon coordinates =>
      simp only [FieldOperation.edits, polygonEdits] at written
      repeat' split at written
      all_goals
        refine of_bind written fun _ written => of_bind written fun _ written => ?_
        exact of_ok written (Edit.allProper_put (proper_shape _ _))
  | size given =>
      exact of_map written fun count => Edit.allProper_put (.simple rfl)

end FieldOperation


/-- Contents whose plain filter is proper. -/
def Slots.Proper (slots : Slots) : Prop := (Value.mapping slots.toEntries).Proper

/-- A node whose plain filter is proper. -/
def FilterNode.Proper (node : FilterNode) : Prop := node.slots.Proper

namespace Slots

variable {slots : Slots}

theorem proper_nil : Slots.Proper [] := .simple rfl

/-- The plain value of an entry in proper contents. -/
theorem Proper.value (proper : slots.Proper) {slot : Slot} (member : slot ∈ slots) :
    (slotToEntry slot).2.Proper := by
  apply Value.Proper.value proper
  rw [toEntries, slotsToEntries_eq_map]
  exact List.mem_map_of_mem member

theorem Proper.map (proper : slots.Proper) {change : Slot → Slot}
    (keys : ∀ slot, (slotToEntry (change slot)).1 = (slotToEntry slot).1)
    (values : ∀ slot ∈ slots, (slotToEntry (change slot)).2.Proper) :
    Slots.Proper (slots.map change) := by
  refine Value.Proper.revalued proper ?_ ?_
  · simp [toEntries, Function.comp_def, keys]
  · intro entry member
    rw [toEntries, slotsToEntries_eq_map, List.map_map] at member
    obtain ⟨slot, present, rfl⟩ := List.mem_map.mp member
    exact values slot present

theorem proper_joined {combinator : Combinator} {operands : List FilterNode} :
    (slotToEntry (.joined combinator operands)).2.Proper ↔
      ∀ operand ∈ operands, operand.Proper := by
  have value (operand : FilterNode) : operand.toValue.Proper ↔ operand.Proper := by
    rw [toValue_eq]
    rfl
  rw [slotToEntry, nodesToValues_eq_map]
  constructor
  · intro proper operand member
    exact (value operand).mp (proper.part (List.mem_map_of_mem member))
  · intro proper
    refine .list fun item member => ?_
    obtain ⟨operand, present, rfl⟩ := List.mem_map.mp member
    exact (value operand).mpr (proper operand present)

theorem proper_singleton {slot : Slot} (proper : (slotToEntry slot).2.Proper) :
    Slots.Proper [slot] := by
  refine .mapping (List.pairwise_singleton _ _) fun entry member => ?_
  obtain rfl := List.mem_singleton.mp member
  refine ⟨?_, proper⟩
  cases slot <;> exact .simple rfl

theorem Proper.join (proper : slots.Proper) (combinator : Combinator)
    {operands : List FilterNode} (others : ∀ operand ∈ operands, operand.Proper) :
    (slots.join combinator operands).Proper :=
  proper_singleton (proper_joined.mpr (List.forall_mem_cons.mpr ⟨proper, others⟩))

/-- A written key has the written value, and all other entries stay. -/
theorem toEntries_set (slots : Slots) (key : String) (value : Value) :
    (slots.set key value).toEntries = slots.toEntries.insert (.text key) value := by
  induction slots with
  | nil => rfl
  | cons slot rest inductionHypothesis =>
      have named : (slotToEntry slot).1 = .text slot.key := by cases slot <;> rfl
      have whole (slot : Slot) (rest : Slots) :
          toEntries (slot :: rest) = slotToEntry slot :: toEntries rest := rfl
      rw [whole, set, Entries.insert]
      by_cases same : slot.key = key
      · rw [if_pos same, named, same, if_pos (Value.same_refl _)]
        rfl
      · rw [if_neg same, if_neg (by simpa [named, Value.same] using same), whole,
          inductionHypothesis]

theorem Proper.set (proper : slots.Proper) (key : String) {value : Value}
    (written : value.Proper) : (slots.set key value).Proper := by
  rw [Slots.Proper, toEntries_set]
  exact Value.Proper.insert proper (.simple rfl) written

theorem Proper.conditions (proper : slots.Proper) (field : String) :
    (Value.mapping (slots.conditions field)).Proper := by
  rw [Slots.conditions]
  split
  · rename_i key entries held
    exact proper.value (List.mem_of_find?_eq_some held)
  · exact .simple rfl

theorem toEntries_ofEntries_sublist (filter : Entries) :
    (Slots.ofEntries filter).toEntries.Sublist filter := by
  induction filter with
  | nil => exact .slnil
  | cons entry rest inductionHypothesis =>
      rcases entry with ⟨key, value⟩
      cases key with
      | text name => exact .cons_cons _ inductionHypothesis
      | _ => exact .cons _ inductionHypothesis

theorem proper_ofEntries {filter : Entries} (proper : (Value.mapping filter).Proper) :
    (Slots.ofEntries filter).Proper :=
  proper.sublist (toEntries_ofEntries_sublist filter)

end Slots

namespace Entries

theorem proper_revise {conditions : Entries} (proper : (Value.mapping conditions).Proper)
    {edit : Edit} (written : edit.Proper) : (Value.mapping (conditions.revise edit).1).Proper := by
  cases edit with
  | write operator argument =>
      rw [revise]
      split
      · exact proper.insert written.1 written.2
      · exact proper
  | clear operator => exact proper.erase _

theorem proper_reviseAll {conditions : Entries} (proper : (Value.mapping conditions).Proper)
    {edits : List Edit} (written : Edit.AllProper edits) :
    (Value.mapping (conditions.reviseAll edits).1).Proper := by
  induction edits generalizing conditions with
  | nil => exact proper
  | cons edit rest inductionHypothesis =>
      obtain ⟨first, others⟩ := List.forall_mem_cons.mp written
      have revised := proper_revise proper first
      rw [reviseAll]
      split
      · rename_i changed result
        rw [result] at revised
        exact inductionHypothesis revised others
      · rename_i changed failure result
        rwa [result] at revised

end Entries

/-- Operations on fields keep contents proper. -/
theorem Slots.Proper.applyEdits {slots : Slots} (proper : slots.Proper) (field : String)
    {edits : List Edit} (written : Edit.AllProper edits) :
    (slots.applyEdits field edits).1.Proper := by
  cases edits with
  | nil => exact proper
  | cons edit rest =>
      rw [Slots.applyEdits_eq_set _ _ (List.cons_ne_nil _ _)]
      exact proper.set field (Entries.proper_reviseAll (proper.conditions field) written)

namespace FilterNode

theorem key_updateSlot (mark : Mark) (revise : Slots → Slots) (slot : Slot) :
    (slotToEntry (updateSlot mark revise slot)).1 = (slotToEntry slot).1 := by
  cases slot <;> rfl

theorem proper_update_and {mark : Mark} {revise : Slots → Slots}
    (preserves : ∀ slots : Slots, slots.Proper → (revise slots).Proper) :
    (∀ node, Proper node → (update mark revise node).Proper) ∧
      ∀ slot, (slotToEntry slot).2.Proper →
        (slotToEntry (updateSlot mark revise slot)).2.Proper := by
  apply induct
  case filter =>
    intro mark? slots inductionHypothesis proper
    by_cases own : mark? = some mark
    · rw [update, if_pos own]
      exact preserves slots proper
    · rw [update, if_neg own, updateSlots_eq_map]
      exact Slots.Proper.map proper (key_updateSlot mark revise) fun slot member =>
        inductionHypothesis slot member (Slots.Proper.value proper member)
  case plain =>
    intro key value proper
    exact proper
  case joined =>
    intro combinator operands inductionHypothesis proper
    rw [updateSlot, updateNodes_eq_map]
    apply Slots.proper_joined.mpr
    intro operand member
    obtain ⟨old, present, rfl⟩ := List.mem_map.mp member
    exact inductionHypothesis old present (Slots.proper_joined.mp proper old present)

/-- A change that gives proper contents keeps a tree proper. -/
theorem Proper.update {node : FilterNode} (proper : node.Proper) {mark : Mark}
    {revise : Slots → Slots}
    (preserves : ∀ slots : Slots, slots.Proper → (revise slots).Proper) :
    (node.update mark revise).Proper :=
  (proper_update_and preserves).1 node proper

theorem proper_find?_and (mark : Mark) :
    (∀ node, Proper node → ∀ slots, find? mark node = some slots → slots.Proper) ∧
      ∀ slot, (slotToEntry slot).2.Proper →
        ∀ slots, findInSlot? mark slot = some slots → slots.Proper := by
  apply induct
  case filter =>
    intro mark? slots inductionHypothesis proper found here
    by_cases own : mark? = some mark
    · rw [find?, if_pos own] at here
      rwa [← Option.some.inj here]
    · rw [find?, if_neg own, findInSlots?_eq_findSome?] at here
      obtain ⟨slot, present, inside⟩ := List.exists_of_findSome?_eq_some here
      exact inductionHypothesis slot present (Slots.Proper.value proper present) found inside
  case plain =>
    intro key value _ found here
    contradiction
  case joined =>
    intro combinator operands inductionHypothesis proper found here
    rw [findInSlot?, findInNodes?_eq_findSome?] at here
    obtain ⟨operand, present, inside⟩ := List.exists_of_findSome?_eq_some here
    exact inductionHypothesis operand present (Slots.proper_joined.mp proper operand present) found
      inside

/-- What a proper tree holds at a mark is proper. -/
theorem Proper.find? {node : FilterNode} (proper : node.Proper) {mark : Mark} {slots : Slots}
    (found : node.find? mark = some slots) : slots.Proper :=
  (proper_find?_and mark).1 node proper slots found

theorem Proper.unmarked {node : FilterNode} (proper : node.Proper) : node.unmarked.Proper := by
  have same := toValue_unmarked node
  rw [toValue_eq, toValue_eq] at same
  rwa [Proper, Slots.Proper, same]

end FilterNode

end RecordQuery
