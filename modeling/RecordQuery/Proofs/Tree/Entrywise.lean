import RecordQuery.Proofs.Filter.Reading
import RecordQuery.Proofs.Tree.Edits

/-!
# Filters entry by entry

A property of entries says something about whole filters if it holds of the entry of a combinator
exactly if it holds of all entries of the operands. Then it holds throughout a filter tree if it
holds of the plain filter, and a change of one node keeps it throughout the tree if it keeps it in
the contents of the node.
-/

namespace RecordQuery

open FilterNode

/-- A property of entries that combinators pass on to the entries of their operands, and back. -/
def Filter.Entrywise (holds : Value × Value → Prop) : Prop :=
  ∀ (combinator : Combinator) (operands : List Entries),
    holds (.text combinator.key, .list (operands.map .mapping)) ↔
      ∀ operand ∈ operands, ∀ entry ∈ operand, holds entry

variable {holds : Value × Value → Prop}

/-- Contents with a property of all entries of the plain filter. -/
def Slots.Each (holds : Value × Value → Prop) (slots : Slots) : Prop :=
  ∀ entry ∈ slots.toEntries, holds entry

/-- A node with a property of all entries of its plain filter. -/
def FilterNode.Each (holds : Value × Value → Prop) (node : FilterNode) : Prop :=
  node.slots.Each holds

theorem Slots.each_iff {slots : Slots} :
    slots.Each holds ↔ ∀ slot ∈ slots, holds (slotToEntry slot) := by
  simp [Slots.Each, Slots.toEntries]

namespace FilterNode

theorem toValue_eq (node : FilterNode) : node.toValue = .mapping node.slots.toEntries := by
  cases node
  rfl

theorem each_joined (entrywise : Filter.Entrywise holds) {combinator : Combinator}
    {operands : List FilterNode} :
    holds (slotToEntry (.joined combinator operands)) ↔
      ∀ operand ∈ operands, operand.Each holds := by
  have values : operands.map toValue =
      (operands.map fun operand => operand.slots.toEntries).map .mapping := by
    simp [toValue_eq]
  rw [slotToEntry, nodesToValues_eq_map, values, entrywise]
  exact List.forall_mem_map

theorem each_update_and (entrywise : Filter.Entrywise holds) {mark : Mark} {revise : Slots → Slots}
    (preserves : ∀ slots : Slots, slots.Each holds → (revise slots).Each holds) :
    (∀ node, Each holds node → (update mark revise node).Each holds) ∧
      ∀ slot, holds (slotToEntry slot) → holds (slotToEntry (updateSlot mark revise slot)) := by
  apply induct
  case filter =>
    intro mark? slots inductionHypothesis each
    by_cases own : mark? = some mark
    · rw [update, if_pos own]
      exact preserves slots each
    · rw [update, if_neg own, updateSlots_eq_map, Each, Slots.each_iff]
      intro slot member
      obtain ⟨old, present, rfl⟩ := List.mem_map.mp member
      exact inductionHypothesis old present (Slots.each_iff.mp each old present)
  case plain =>
    intro key value each
    exact each
  case joined =>
    intro combinator operands inductionHypothesis each
    rw [updateSlot, updateNodes_eq_map]
    apply (each_joined entrywise).mpr
    intro operand member
    obtain ⟨old, present, rfl⟩ := List.mem_map.mp member
    exact inductionHypothesis old present ((each_joined entrywise).mp each old present)

theorem each_find?_and (entrywise : Filter.Entrywise holds) (mark : Mark) :
    (∀ node, Each holds node → ∀ slots, find? mark node = some slots → slots.Each holds) ∧
      ∀ slot, holds (slotToEntry slot) →
        ∀ slots, findInSlot? mark slot = some slots → slots.Each holds := by
  apply induct
  case filter =>
    intro mark? slots inductionHypothesis each found here
    by_cases own : mark? = some mark
    · rw [find?, if_pos own] at here
      rwa [← Option.some.inj here]
    · rw [find?, if_neg own, findInSlots?_eq_findSome?] at here
      obtain ⟨slot, present, inside⟩ := List.exists_of_findSome?_eq_some here
      exact inductionHypothesis slot present (Slots.each_iff.mp each slot present) found inside
  case plain =>
    intro key value _ found here
    contradiction
  case joined =>
    intro combinator operands inductionHypothesis each found here
    rw [findInSlot?, findInNodes?_eq_findSome?] at here
    obtain ⟨operand, present, inside⟩ := List.exists_of_findSome?_eq_some here
    exact inductionHypothesis operand present ((each_joined entrywise).mp each operand present)
      found inside

namespace Each

variable {node : FilterNode} {mark : Mark}

/-- A change that keeps the property in the contents of a node keeps it in the tree. -/
theorem update (entrywise : Filter.Entrywise holds) (each : node.Each holds)
    {revise : Slots → Slots}
    (preserves : ∀ slots : Slots, slots.Each holds → (revise slots).Each holds) :
    (node.update mark revise).Each holds :=
  (each_update_and entrywise preserves).1 node each

theorem find? (entrywise : Filter.Entrywise holds) (each : node.Each holds) {slots : Slots}
    (found : node.find? mark = some slots) : slots.Each holds :=
  (each_find?_and entrywise mark).1 node each slots found

theorem unmarked (each : node.Each holds) : node.unmarked.Each holds := by
  have same := toValue_unmarked node
  rw [toValue_eq, toValue_eq] at same
  rwa [Each, Slots.Each, Value.mapping.inj same]

end Each

end FilterNode

namespace Slots.Each

variable {slots : Slots}

theorem join (entrywise : Filter.Entrywise holds) (each : slots.Each holds)
    (combinator : Combinator) {operands : List FilterNode}
    (others : ∀ operand ∈ operands, operand.Each holds) :
    (slots.join combinator operands).Each holds := by
  rw [each_iff]
  intro slot member
  obtain rfl := List.mem_singleton.mp member
  apply (each_joined entrywise).mpr
  intro operand present
  rcases List.mem_cons.mp present with rfl | present
  · exact each
  · exact others operand present

theorem ofEntries {filter : Entries} (each : ∀ entry ∈ filter, holds entry) :
    (Slots.ofEntries filter).Each holds := by
  rw [each_iff]
  induction filter with
  | nil => simp [Slots.ofEntries]
  | cons entry rest inductionHypothesis =>
      obtain ⟨head, tail⟩ := List.forall_mem_cons.mp each
      rcases entry with ⟨key, value⟩
      cases key with
      | text name => exact List.forall_mem_cons.mpr ⟨head, inductionHypothesis tail⟩
      | _ => exact inductionHypothesis tail

theorem set (each : slots.Each holds) {key : String} {value : Value}
    (written : holds (.text key, value)) : (slots.set key value).Each holds := by
  rw [each_iff] at each ⊢
  intro slot member
  rcases set_cases slots key value with ⟨before, old, after, parts, -, shape⟩ | ⟨-, shape⟩
  · rw [shape] at member
    rw [parts] at each
    simp only [List.mem_append, List.mem_cons] at member each
    rcases member with here | rfl | here
    · exact each slot (.inl here)
    · exact written
    · exact each slot (.inr (.inr here))
  · rw [shape] at member
    rcases List.mem_append.mp member with here | here
    · exact each slot here
    · obtain rfl := List.mem_singleton.mp here
      exact written

/-- The operands that an edit would push out have the property. -/
theorem displaced (entrywise : Filter.Entrywise holds) (each : slots.Each holds) (field : String) :
    ∀ operand ∈ slots.displaced field, operand.Each holds := by
  intro operand member
  rw [Slots.displaced] at member
  split at member
  · rename_i combinator operands held
    have slot := each_iff.mp each _ (List.mem_of_find?_eq_some held)
    exact (each_joined entrywise).mp slot operand member
  · contradiction

/-- The conditions on a field are held by an entry with the property. -/
theorem conditions (each : slots.Each holds) (field : String) :
    slots.conditions field = [] ∨ holds (.text field, .mapping (slots.conditions field)) := by
  rw [Slots.conditions]
  split
  · rename_i key entries held
    have same : key = field := key_of_get? held
    have written := each_iff.mp each _ (List.mem_of_find?_eq_some held)
    rw [slotToEntry, same] at written
    exact .inr written
  · exact .inl rfl

end Slots.Each

end RecordQuery
