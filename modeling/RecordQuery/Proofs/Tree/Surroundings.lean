import Mathlib.Data.List.Nodup
import Mathlib.Data.List.Perm.Basic
import RecordQuery.Proofs.Tree.Marks

/-!
# Surroundings of a node

A node inside a filter tree is an operand of an operand of ... of the root. `Layer` is one such step
with all that lies beside it, and `fill` puts a node into a stack of layers. `chains` lists each
mark of a tree with the marks of the nodes that enclose it, the nearest one first; a listed mark is
a tree of the form `fill layers node`, and what happens to the node leaves the layers alone.
-/

namespace RecordQuery

open FilterNode

/-- A node with one of its operands taken out. -/
structure Layer where
  mark? : Option Mark
  before : Slots
  combinator : Combinator
  left : List FilterNode
  right : List FilterNode
  after : Slots

namespace Layer

/-- The contents of the node once the operand is put in. -/
def slots (layer : Layer) (operand : FilterNode) : Slots :=
  layer.before ++
    .joined layer.combinator (layer.left ++ operand :: layer.right) :: layer.after

def fill (layer : Layer) (operand : FilterNode) : FilterNode :=
  .filter layer.mark? (layer.slots operand)

/-- The marks beside the operand. -/
def marks (layer : Layer) : List Mark :=
  layer.mark?.toList ++
    (layer.before.flatMap marksOfSlot ++ (layer.left.flatMap FilterNode.marks ++
      (layer.right.flatMap FilterNode.marks ++ layer.after.flatMap marksOfSlot)))

end Layer

/-- Layers around a node, the outermost one first. -/
abbrev Surroundings := List Layer

namespace Surroundings

/-- The tree with a node inside its layers. -/
def fill (layers : Surroundings) (node : FilterNode) : FilterNode := layers.foldr Layer.fill node

/-- The marks of the tree that are not the node's. -/
def marks (layers : Surroundings) : List Mark := layers.flatMap Layer.marks

/-- The marks of the layers themselves, the innermost one first. -/
def enclosing (layers : Surroundings) : List Mark := (layers.filterMap Layer.mark?).reverse

@[simp]
theorem fill_nil (node : FilterNode) : fill [] node = node := rfl

@[simp]
theorem fill_cons (layer : Layer) (layers : Surroundings) (node : FilterNode) :
    fill (layer :: layers) node = layer.fill (fill layers node) := rfl

@[simp]
theorem fill_append (outer inner : Surroundings) (node : FilterNode) :
    fill (outer ++ inner) node = fill outer (fill inner node) := List.foldr_append

@[simp]
theorem marks_nil : marks [] = [] := rfl

@[simp]
theorem marks_cons (layer : Layer) (layers : Surroundings) :
    marks (layer :: layers) = layer.marks ++ marks layers := rfl

@[simp]
theorem enclosing_nil : enclosing [] = [] := rfl

theorem enclosing_cons (layer : Layer) (layers : Surroundings) :
    enclosing (layer :: layers) = enclosing layers ++ layer.mark?.toList := by
  cases mark : layer.mark? <;> simp [enclosing, mark]

theorem enclosing_append (outer inner : Surroundings) :
    enclosing (outer ++ inner) = enclosing inner ++ enclosing outer := by
  simp [enclosing]

end Surroundings

theorem Layer.marks_fill (layer : Layer) (operand : FilterNode) :
    (layer.fill operand).marks.Perm (layer.marks ++ operand.marks) := by
  have pushed (first second third inner : List Mark) :
      (first ++ (inner ++ (second ++ third))).Perm (first ++ (second ++ third) ++ inner) := by
    rw [List.append_assoc]
    exact (List.perm_append_comm).append_left first
  simpa [Layer.fill, Layer.slots, Layer.marks, FilterNode.marks, marksOfSlot, List.flatMap_append,
    List.append_assoc] using
    pushed (layer.mark?.toList ++ (layer.before.flatMap marksOfSlot ++
        layer.left.flatMap FilterNode.marks))
      (layer.right.flatMap FilterNode.marks) (layer.after.flatMap marksOfSlot) operand.marks

namespace Surroundings

theorem marks_fill (layers : Surroundings) (node : FilterNode) :
    (layers.fill node).marks.Perm (layers.marks ++ node.marks) := by
  induction layers with
  | nil => rfl
  | cons layer rest inductionHypothesis =>
      rw [fill_cons, marks_cons, List.append_assoc]
      exact (layer.marks_fill _).trans (inductionHypothesis.append_left layer.marks)

end Surroundings

theorem Layer.update_fill {layer : Layer} {mark : Mark} (revise : Slots → Slots)
    (absent : mark ∉ layer.marks) (operand : FilterNode) :
    (layer.fill operand).update mark revise = layer.fill (operand.update mark revise) := by
  simp only [Layer.marks, List.mem_append, not_or, List.mem_flatMap, not_exists, not_and] at absent
  obtain ⟨own, before, left, right, after⟩ := absent
  have other : layer.mark? ≠ some mark := by simpa [Option.mem_toList] using own
  have keptSlots (slots : Slots) (free : ∀ slot ∈ slots, mark ∉ marksOfSlot slot) :
      slots.map (updateSlot mark revise) = slots :=
    (List.map_congr_left fun slot member => updateSlot_of_not_mem revise (free slot member)).trans
      (List.map_id slots)
  have keptNodes (nodes : List FilterNode) (free : ∀ node ∈ nodes, mark ∉ node.marks) :
      nodes.map (FilterNode.update mark revise) = nodes :=
    (List.map_congr_left fun node member => update_of_not_mem revise (free node member)).trans
      (List.map_id nodes)
  simp [Layer.fill, Layer.slots, FilterNode.update, other, updateSlot, keptSlots _ before,
    keptSlots _ after, keptNodes _ left, keptNodes _ right]

theorem Layer.find?_fill {layer : Layer} {mark : Mark} (absent : mark ∉ layer.marks)
    (operand : FilterNode) : (layer.fill operand).find? mark = operand.find? mark := by
  simp only [Layer.marks, List.mem_append, not_or, List.mem_flatMap, not_exists, not_and] at absent
  obtain ⟨own, before, left, right, after⟩ := absent
  have other : layer.mark? ≠ some mark := by simpa [Option.mem_toList] using own
  have noSlot (slots : Slots) (free : ∀ slot ∈ slots, mark ∉ marksOfSlot slot) :
      slots.findSome? (findInSlot? mark) = none :=
    List.findSome?_eq_none_iff.mpr fun slot member =>
      Option.not_isSome_iff_eq_none.mp fun found =>
        free slot member (findInSlot?_isSome_iff.mp found)
  have noNode (nodes : List FilterNode) (free : ∀ node ∈ nodes, mark ∉ node.marks) :
      nodes.findSome? (FilterNode.find? mark) = none :=
    List.findSome?_eq_none_iff.mpr fun node member =>
      Option.not_isSome_iff_eq_none.mp fun found => free node member (find?_isSome_iff.mp found)
  cases found : operand.find? mark <;>
    simp [Layer.fill, Layer.slots, FilterNode.find?, other, findInSlot?, noSlot _ before,
      noSlot _ after, noNode _ left, noNode _ right, found]

namespace Surroundings

/-- A change at a mark that no layer has is a change of the node. -/
theorem update_fill {layers : Surroundings} {mark : Mark} (revise : Slots → Slots)
    (absent : mark ∉ layers.marks) (node : FilterNode) :
    (layers.fill node).update mark revise = layers.fill (node.update mark revise) := by
  induction layers with
  | nil => rfl
  | cons layer rest inductionHypothesis =>
      rw [marks_cons, List.mem_append, not_or] at absent
      rw [fill_cons, Layer.update_fill revise absent.1, inductionHypothesis absent.2, fill_cons]

theorem find?_fill {layers : Surroundings} {mark : Mark} (absent : mark ∉ layers.marks)
    (node : FilterNode) : (layers.fill node).find? mark = node.find? mark := by
  induction layers with
  | nil => rfl
  | cons layer rest inductionHypothesis =>
      rw [marks_cons, List.mem_append, not_or] at absent
      rw [fill_cons, Layer.find?_fill absent.1, inductionHypothesis absent.2]

theorem not_mem_marks_of_nodup {layers : Surroundings} {mark : Mark} {slots : Slots}
    (single : (layers.fill (.filter (some mark) slots)).marks.Nodup) : mark ∉ layers.marks := by
  intro beside
  rw [(layers.marks_fill _).nodup_iff] at single
  exact single.disjoint beside (by simp [FilterNode.marks])

/-- A change of the node that has the mark. -/
theorem update_own {layers : Surroundings} {mark : Mark} (revise : Slots → Slots)
    (absent : mark ∉ layers.marks) (slots : Slots) :
    (layers.fill (.filter (some mark) slots)).update mark revise =
      layers.fill (.filter (some mark) (revise slots)) := by
  rw [update_fill revise absent, FilterNode.update, if_pos rfl]

/-- The contents of the node that has the mark. -/
theorem find?_own {layers : Surroundings} {mark : Mark} (absent : mark ∉ layers.marks)
    (slots : Slots) : (layers.fill (.filter (some mark) slots)).find? mark = some slots := by
  rw [find?_fill absent, FilterNode.find?, if_pos rfl]

end Surroundings

namespace FilterNode

mutual

/-- The marks of a node and of all nodes inside it, each with the marks of the nodes around it, the
nearest one first. The marks `above` are around the whole node. -/
def chains (above : List Mark) : FilterNode → List (Mark × List Mark)
  | .filter mark? slots =>
      (mark?.toList.map fun mark => (mark, above)) ++ chainsOfSlots (mark?.toList ++ above) slots

def chainsOfSlots (above : List Mark) : List Slot → List (Mark × List Mark)
  | [] => []
  | slot :: rest => chainsOfSlot above slot ++ chainsOfSlots above rest

def chainsOfSlot (above : List Mark) : Slot → List (Mark × List Mark)
  | .plain _ _ => []
  | .joined _ operands => chainsOfNodes above operands

def chainsOfNodes (above : List Mark) : List FilterNode → List (Mark × List Mark)
  | [] => []
  | operand :: rest => chains above operand ++ chainsOfNodes above rest

end

@[simp]
theorem chainsOfSlots_eq_flatMap (above : List Mark) (slots : List Slot) :
    chainsOfSlots above slots = slots.flatMap (chainsOfSlot above) := by
  induction slots with
  | nil => rfl
  | cons slot rest inductionHypothesis => simp [chainsOfSlots, inductionHypothesis]

@[simp]
theorem chainsOfNodes_eq_flatMap (above : List Mark) (nodes : List FilterNode) :
    chainsOfNodes above nodes = nodes.flatMap (chains above) := by
  induction nodes with
  | nil => rfl
  | cons node rest inductionHypothesis => simp [chainsOfNodes, inductionHypothesis]

theorem map_fst_chains_and :
    (∀ node above, (chains above node).map Prod.fst = marks node) ∧
      ∀ slot above, (chainsOfSlot above slot).map Prod.fst = marksOfSlot slot := by
  apply induct
  case filter =>
    intro mark? slots inductionHypothesis above
    have inside : ((slots.flatMap (chainsOfSlot (mark?.toList ++ above))).map Prod.fst) =
        slots.flatMap marksOfSlot := by
      rw [List.map_flatMap]
      exact List.flatMap_congr fun slot member => inductionHypothesis slot member _
    simp [chains, marks, inside, Function.comp_def]
  case plain => simp [chainsOfSlot, marksOfSlot]
  case joined =>
    intro combinator operands inductionHypothesis above
    simp only [chainsOfSlot, marksOfSlot, chainsOfNodes_eq_flatMap, marksOfNodes_eq_flatMap,
      List.map_flatMap]
    exact List.flatMap_congr fun operand member => inductionHypothesis operand member above

theorem map_fst_chains (above : List Mark) (node : FilterNode) :
    (node.chains above).map Prod.fst = node.marks := map_fst_chains_and.1 node above

theorem map_fst_chainsOfSlot (above : List Mark) (slot : Slot) :
    (chainsOfSlot above slot).map Prod.fst = marksOfSlot slot := map_fst_chains_and.2 slot above

theorem exists_fill_of_mem_and :
    (∀ node above mark chain, (mark, chain) ∈ chains above node →
      ∃ (layers : Surroundings) (slots : Slots),
        node = layers.fill (.filter (some mark) slots) ∧ chain = layers.enclosing ++ above) ∧
      ∀ slot above mark chain, (mark, chain) ∈ chainsOfSlot above slot →
        ∃ (combinator : Combinator) (left right : List FilterNode) (layers : Surroundings)
          (slots : Slots),
          slot = .joined combinator (left ++ layers.fill (.filter (some mark) slots) :: right) ∧
            chain = layers.enclosing ++ above := by
  apply induct
  case filter =>
    intro mark? slots inductionHypothesis above mark chain member
    simp only [chains, chainsOfSlots_eq_flatMap, List.mem_append, List.mem_map, Prod.mk.injEq,
      Option.mem_toList, List.mem_flatMap] at member
    rcases member with ⟨_, own, rfl, rfl⟩ | ⟨slot, inside, member⟩
    · exact ⟨[], slots, by rw [own]; rfl, by simp⟩
    · obtain ⟨combinator, left, right, layers, found, rfl, rfl⟩ :=
        inductionHypothesis slot inside _ mark chain member
      obtain ⟨before, after, rfl⟩ := List.append_of_mem inside
      refine ⟨⟨mark?, before, combinator, left, right, after⟩ :: layers, found, rfl, ?_⟩
      rw [Surroundings.enclosing_cons, List.append_assoc]
  case plain => simp [chainsOfSlot]
  case joined =>
    intro combinator operands inductionHypothesis above mark chain member
    simp only [chainsOfSlot, chainsOfNodes_eq_flatMap, List.mem_flatMap] at member
    obtain ⟨operand, inside, member⟩ := member
    obtain ⟨layers, found, rfl, rfl⟩ := inductionHypothesis operand inside above mark chain member
    obtain ⟨left, right, rfl⟩ := List.append_of_mem inside
    exact ⟨combinator, left, right, layers, found, rfl, rfl⟩

/-- A listed mark is a node with layers around it, and its chain names the marks of the layers. -/
theorem exists_fill_of_mem {above : List Mark} {node : FilterNode} {mark : Mark}
    {chain : List Mark} (member : (mark, chain) ∈ node.chains above) :
    ∃ (layers : Surroundings) (slots : Slots),
      node = layers.fill (.filter (some mark) slots) ∧ chain = layers.enclosing ++ above :=
  exists_fill_of_mem_and.1 node above mark chain member

end FilterNode

theorem Layer.chains_fill (layer : Layer) (above : List Mark) :
    ∃ beside, ∀ operand : FilterNode, ((layer.fill operand).chains above).Perm
      (beside ++ operand.chains (layer.mark?.toList ++ above)) := by
  refine ⟨(layer.mark?.toList.map fun mark => (mark, above)) ++
    (layer.before.flatMap (chainsOfSlot (layer.mark?.toList ++ above)) ++
      (layer.left.flatMap (chains (layer.mark?.toList ++ above)) ++
        (layer.right.flatMap (chains (layer.mark?.toList ++ above)) ++
          layer.after.flatMap (chainsOfSlot (layer.mark?.toList ++ above))))), ?_⟩
  intro operand
  simp only [Layer.fill, Layer.slots, chains, chainsOfSlots_eq_flatMap, List.flatMap_append,
    List.flatMap_cons, chainsOfSlot, chainsOfNodes_eq_flatMap, List.append_assoc]
  refine (((List.Perm.append_left _ ?_).append_left _).append_left _)
  rw [← List.append_assoc (layer.right.flatMap _)]
  exact List.perm_append_comm

namespace Surroundings

/-- The chains of a tree are those beside a node and those of the node under what encloses it. -/
theorem chains_fill (layers : Surroundings) (above : List Mark) :
    ∃ beside, ∀ node : FilterNode, ((layers.fill node).chains above).Perm
      (beside ++ node.chains (layers.enclosing ++ above)) := by
  induction layers generalizing above with
  | nil => exact ⟨[], fun node => .refl _⟩
  | cons layer rest inductionHypothesis =>
      obtain ⟨outer, outerPerm⟩ := layer.chains_fill above
      obtain ⟨inner, innerPerm⟩ := inductionHypothesis (layer.mark?.toList ++ above)
      refine ⟨outer ++ inner, ?_⟩
      intro node
      rw [fill_cons, enclosing_cons, List.append_assoc, List.append_assoc]
      exact (outerPerm _).trans ((innerPerm node).append_left outer)

end Surroundings

end RecordQuery
