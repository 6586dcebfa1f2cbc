import Mathlib.Data.List.Basic
import RecordQuery.Query.Tree

/-!
# Marks in filter trees

`FilterNode.marks` lists the marks of a tree. A mark is found in a tree exactly if it is listed, a
change at a mark is what is found there afterwards, and a change at a mark that is not listed does
nothing.
-/

namespace RecordQuery

namespace FilterNode

/-- Induction over the nodes of a filter together with their entries. -/
theorem induct (motive : FilterNode → Prop) (slotMotive : Slot → Prop)
    (filter : ∀ mark? slots, (∀ slot ∈ slots, slotMotive slot) → motive (.filter mark? slots))
    (plain : ∀ key value, slotMotive (.plain key value))
    (joined : ∀ combinator operands, (∀ operand ∈ operands, motive operand) →
      slotMotive (.joined combinator operands)) :
    (∀ node, motive node) ∧ ∀ slot, slotMotive slot :=
  ⟨fun node => FilterNode.rec filter plain joined
      (by simp) (fun _ _ head tail => by simpa using ⟨head, tail⟩)
      (by simp) (fun _ _ head tail => by simpa using ⟨head, tail⟩) node,
    fun slot => Slot.rec filter plain joined
      (by simp) (fun _ _ head tail => by simpa using ⟨head, tail⟩)
      (by simp) (fun _ _ head tail => by simpa using ⟨head, tail⟩) slot⟩

@[simp]
theorem slotsToEntries_eq_map (slots : List Slot) :
    slotsToEntries slots = slots.map slotToEntry := by
  induction slots with
  | nil => rfl
  | cons slot rest inductionHypothesis => simp [slotsToEntries, inductionHypothesis]

@[simp]
theorem nodesToValues_eq_map (nodes : List FilterNode) :
    nodesToValues nodes = nodes.map toValue := by
  induction nodes with
  | nil => rfl
  | cons node rest inductionHypothesis => simp [nodesToValues, inductionHypothesis]

@[simp]
theorem unmarkedSlots_eq_map (slots : List Slot) :
    unmarkedSlots slots = slots.map unmarkedSlot := by
  induction slots with
  | nil => rfl
  | cons slot rest inductionHypothesis => simp [unmarkedSlots, inductionHypothesis]

@[simp]
theorem unmarkedNodes_eq_map (nodes : List FilterNode) :
    unmarkedNodes nodes = nodes.map unmarked := by
  induction nodes with
  | nil => rfl
  | cons node rest inductionHypothesis => simp [unmarkedNodes, inductionHypothesis]

@[simp]
theorem updateSlots_eq_map (mark : Mark) (revise : Slots → Slots) (slots : List Slot) :
    updateSlots mark revise slots = slots.map (updateSlot mark revise) := by
  induction slots with
  | nil => rfl
  | cons slot rest inductionHypothesis => simp [updateSlots, inductionHypothesis]

@[simp]
theorem updateNodes_eq_map (mark : Mark) (revise : Slots → Slots) (nodes : List FilterNode) :
    updateNodes mark revise nodes = nodes.map (update mark revise) := by
  induction nodes with
  | nil => rfl
  | cons node rest inductionHypothesis => simp [updateNodes, inductionHypothesis]

@[simp]
theorem findInSlots?_eq_findSome? (mark : Mark) (slots : List Slot) :
    findInSlots? mark slots = slots.findSome? (findInSlot? mark) := by
  induction slots with
  | nil => rfl
  | cons slot rest inductionHypothesis =>
      rw [findInSlots?, List.findSome?_cons, inductionHypothesis]
      cases findInSlot? mark slot <;> rfl

@[simp]
theorem findInNodes?_eq_findSome? (mark : Mark) (nodes : List FilterNode) :
    findInNodes? mark nodes = nodes.findSome? (find? mark) := by
  induction nodes with
  | nil => rfl
  | cons node rest inductionHypothesis =>
      rw [findInNodes?, List.findSome?_cons, inductionHypothesis]
      cases find? mark node <;> rfl

mutual

/-- The marks of a node and of all nodes inside it. -/
def marks : FilterNode → List Mark
  | .filter mark? slots => mark?.toList ++ marksOfSlots slots

def marksOfSlots : List Slot → List Mark
  | [] => []
  | slot :: rest => marksOfSlot slot ++ marksOfSlots rest

def marksOfSlot : Slot → List Mark
  | .plain _ _ => []
  | .joined _ operands => marksOfNodes operands

def marksOfNodes : List FilterNode → List Mark
  | [] => []
  | operand :: rest => marks operand ++ marksOfNodes rest

end

@[simp]
theorem marksOfSlots_eq_flatMap (slots : List Slot) :
    marksOfSlots slots = slots.flatMap marksOfSlot := by
  induction slots with
  | nil => rfl
  | cons slot rest inductionHypothesis => simp [marksOfSlots, inductionHypothesis]

@[simp]
theorem marksOfNodes_eq_flatMap (nodes : List FilterNode) :
    marksOfNodes nodes = nodes.flatMap marks := by
  induction nodes with
  | nil => rfl
  | cons node rest inductionHypothesis => simp [marksOfNodes, inductionHypothesis]

/-- A search depends only on what is found in each item. -/
private theorem findSome?_eq_of_forall {α β : Type} {first second : α → Option β}
    {items : List α} (same : ∀ item ∈ items, first item = second item) :
    items.findSome? first = items.findSome? second := by
  induction items with
  | nil => rfl
  | cons item rest inductionHypothesis =>
      rw [List.findSome?_cons, List.findSome?_cons, same item (by simp),
        inductionHypothesis fun other member => same other (by simp [member])]

theorem find?_isSome_and (mark : Mark) :
    (∀ node, (find? mark node).isSome ↔ mark ∈ marks node) ∧
      ∀ slot, (findInSlot? mark slot).isSome ↔ mark ∈ marksOfSlot slot := by
  apply induct
  case filter =>
    intro mark? slots inductionHypothesis
    by_cases same : mark? = some mark
    · simp [find?, marks, same]
    · have other : mark ∉ mark?.toList := by simpa [Option.mem_toList] using same
      simp only [find?, same, if_false, marks, List.mem_append, other, false_or,
        findInSlots?_eq_findSome?, marksOfSlots_eq_flatMap, List.mem_flatMap,
        List.findSome?_isSome_iff]
      exact exists_congr fun slot => and_congr_right (inductionHypothesis slot)
  case plain => simp [findInSlot?, marksOfSlot]
  case joined =>
    intro combinator operands inductionHypothesis
    simp only [findInSlot?, marksOfSlot, findInNodes?_eq_findSome?, marksOfNodes_eq_flatMap,
      List.mem_flatMap, List.findSome?_isSome_iff]
    exact exists_congr fun operand => and_congr_right (inductionHypothesis operand)

/-- A mark is found in a tree exactly if it is one of the tree's marks. -/
theorem find?_isSome_iff {mark : Mark} {node : FilterNode} :
    (node.find? mark).isSome ↔ mark ∈ node.marks := (find?_isSome_and mark).1 node

theorem findInSlot?_isSome_iff {mark : Mark} {slot : Slot} :
    (findInSlot? mark slot).isSome ↔ mark ∈ marksOfSlot slot := (find?_isSome_and mark).2 slot

theorem find?_update_and (mark : Mark) (revise : Slots → Slots) :
    (∀ node, find? mark (update mark revise node) = (find? mark node).map revise) ∧
      ∀ slot, findInSlot? mark (updateSlot mark revise slot) =
        (findInSlot? mark slot).map revise := by
  apply induct
  case filter =>
    intro mark? slots inductionHypothesis
    by_cases same : mark? = some mark
    · simp [find?, update, same]
    · simp only [update, same, if_false, find?, updateSlots_eq_map, findInSlots?_eq_findSome?,
        List.findSome?_map, List.map_findSome?]
      exact findSome?_eq_of_forall inductionHypothesis
  case plain => simp [updateSlot, findInSlot?]
  case joined =>
    intro combinator operands inductionHypothesis
    simp only [updateSlot, findInSlot?, updateNodes_eq_map, findInNodes?_eq_findSome?,
      List.findSome?_map, List.map_findSome?]
    exact findSome?_eq_of_forall inductionHypothesis

/-- What is found at a mark after a change there. -/
theorem find?_update (mark : Mark) (revise : Slots → Slots) (node : FilterNode) :
    (node.update mark revise).find? mark = (node.find? mark).map revise :=
  (find?_update_and mark revise).1 node

theorem update_of_not_mem_and (mark : Mark) (revise : Slots → Slots) :
    (∀ node, mark ∉ marks node → update mark revise node = node) ∧
      ∀ slot, mark ∉ marksOfSlot slot → updateSlot mark revise slot = slot := by
  apply induct
  case filter =>
    intro mark? slots inductionHypothesis absent
    simp only [marks, List.mem_append, not_or, marksOfSlots_eq_flatMap, List.mem_flatMap,
      not_exists, not_and] at absent
    have other : mark? ≠ some mark := by simpa [Option.mem_toList] using absent.1
    have unchanged : slots.map (updateSlot mark revise) = slots :=
      (List.map_congr_left fun slot member =>
        inductionHypothesis slot member (absent.2 slot member)).trans (List.map_id slots)
    simp [update, other, unchanged]
  case plain => simp [updateSlot]
  case joined =>
    intro combinator operands inductionHypothesis absent
    simp only [marksOfSlot, marksOfNodes_eq_flatMap, List.mem_flatMap, not_exists,
      not_and] at absent
    have unchanged : operands.map (update mark revise) = operands :=
      (List.map_congr_left fun operand member =>
        inductionHypothesis operand member (absent operand member)).trans (List.map_id operands)
    simp [updateSlot, unchanged]

/-- A change at a mark that a tree does not have does nothing. -/
theorem update_of_not_mem {mark : Mark} (revise : Slots → Slots) {node : FilterNode}
    (absent : mark ∉ node.marks) : node.update mark revise = node :=
  (update_of_not_mem_and mark revise).1 node absent

theorem updateSlot_of_not_mem {mark : Mark} (revise : Slots → Slots) {slot : Slot}
    (absent : mark ∉ marksOfSlot slot) : updateSlot mark revise slot = slot :=
  (update_of_not_mem_and mark revise).2 slot absent

end FilterNode

end RecordQuery
