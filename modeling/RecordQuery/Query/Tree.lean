import RecordQuery.Operator

/-!
Filter trees under construction.

A node of the tree is a filter: field names with their conditions, and combinators with their
operands. A node may carry a mark, by which a query that is still being written refers to it.
`toEntries` is the plain filter of a node; `update` changes the node of one mark and leaves all
others as they are.
-/

namespace RecordQuery

/-- The identity of a query under construction. -/
abbrev Mark := Nat

mutual

inductive FilterNode where
  | filter (mark? : Option Mark) (slots : List Slot)

/-- An entry of a filter: a value under a key, or operands under a combinator. -/
inductive Slot where
  | plain (key : String) (value : Value)
  | joined (combinator : Combinator) (operands : List FilterNode)

end

/-- The contents of a node, in the order in which their keys were first written. -/
abbrev Slots := List Slot

def Slot.key : Slot → String
  | .plain key _ => key
  | .joined combinator _ => combinator.key

namespace FilterNode

def mark? : FilterNode → Option Mark
  | .filter mark? _ => mark?

def slots : FilterNode → Slots
  | .filter _ slots => slots

mutual

def toValue : FilterNode → Value
  | .filter _ slots => .mapping (slotsToEntries slots)

def slotsToEntries : List Slot → Entries
  | [] => []
  | slot :: rest => slotToEntry slot :: slotsToEntries rest

def slotToEntry : Slot → Value × Value
  | .plain key value => (.text key, value)
  | .joined combinator operands => (.text combinator.key, .list (nodesToValues operands))

def nodesToValues : List FilterNode → List Value
  | [] => []
  | operand :: rest => toValue operand :: nodesToValues rest

end

mutual

def unmarked : FilterNode → FilterNode
  | .filter _ slots => .filter none (unmarkedSlots slots)

def unmarkedSlots : List Slot → Slots
  | [] => []
  | slot :: rest => unmarkedSlot slot :: unmarkedSlots rest

def unmarkedSlot : Slot → Slot
  | .plain key value => .plain key value
  | .joined combinator operands => .joined combinator (unmarkedNodes operands)

def unmarkedNodes : List FilterNode → List FilterNode
  | [] => []
  | operand :: rest => unmarked operand :: unmarkedNodes rest

end

mutual

def update (mark : Mark) (revise : Slots → Slots) : FilterNode → FilterNode
  | .filter mark? slots =>
      if mark? = some mark then .filter mark? (revise slots)
      else .filter mark? (updateSlots mark revise slots)

def updateSlots (mark : Mark) (revise : Slots → Slots) : List Slot → Slots
  | [] => []
  | slot :: rest => updateSlot mark revise slot :: updateSlots mark revise rest

def updateSlot (mark : Mark) (revise : Slots → Slots) : Slot → Slot
  | .plain key value => .plain key value
  | .joined combinator operands => .joined combinator (updateNodes mark revise operands)

def updateNodes (mark : Mark) (revise : Slots → Slots) : List FilterNode → List FilterNode
  | [] => []
  | operand :: rest => update mark revise operand :: updateNodes mark revise rest

end

mutual

def find? (mark : Mark) : FilterNode → Option Slots
  | .filter mark? slots => if mark? = some mark then some slots else findInSlots? mark slots

def findInSlots? (mark : Mark) : List Slot → Option Slots
  | [] => none
  | slot :: rest => (findInSlot? mark slot).or (findInSlots? mark rest)

def findInSlot? (mark : Mark) : Slot → Option Slots
  | .plain _ _ => none
  | .joined _ operands => findInNodes? mark operands

def findInNodes? (mark : Mark) : List FilterNode → Option Slots
  | [] => none
  | operand :: rest => (find? mark operand).or (findInNodes? mark rest)

end

end FilterNode

namespace Slots

/-- The plain filter of a node's contents. -/
def toEntries (slots : Slots) : Entries := FilterNode.slotsToEntries slots

/-- The contents of a plain filter with text keys; other keys are left out. -/
def ofEntries : Entries → Slots
  | [] => []
  | (.text key, value) :: rest => .plain key value :: ofEntries rest
  | _ :: rest => ofEntries rest

def get? (slots : Slots) (key : String) : Option Slot := slots.find? fun slot => slot.key == key

/-- Writes a value under a key; an existing key keeps its place. -/
def set : Slots → String → Value → Slots
  | [], key, value => [.plain key value]
  | slot :: rest, key, value =>
      if slot.key = key then .plain key value :: rest else slot :: set rest key value

/-- The conditions on a field: its mapping of operators, or none. -/
def conditions (slots : Slots) (field : String) : Entries :=
  match slots.get? field with
  | some (.plain _ (.mapping entries)) => entries
  | _ => []

/-- The operands that writing conditions on a field would push out. -/
def displaced (slots : Slots) (field : String) : List FilterNode :=
  match slots.get? field with
  | some (.joined _ operands) => operands
  | _ => []

def has (slots : Slots) (key : String) : Bool := (slots.get? key).isSome

/-- The contents after a join: the old contents become the first operand. -/
def join (combinator : Combinator) (operands : List FilterNode) (slots : Slots) : Slots :=
  [.joined combinator (.filter none slots :: operands)]

end Slots

end RecordQuery
