import RecordQuery.Query.FieldOperation
import RecordQuery.Snapshot

/-!
Queries under construction.

A query is the root of a filter tree together with fields, sort, skip and limit. A join without
operands opens a scope: a new mark on the empty right-hand side, embedded in the tree of its owner.
A scope shares everything but its own node with its root. `QueryStore` holds the queries and, for
each mark, the chain of its owners up to the root.
-/

namespace RecordQuery

/-- A query: its filter tree, the trees that were pushed out of it but still carry marks, and the
state that all of its scopes share. -/
structure Query where
  root : Mark
  tree : FilterNode
  detached : List FilterNode
  fields : List String
  sort : SortOrder
  skip : Nat
  limit : Option Nat

namespace Query

def ofSnapshot (root : Mark) (snapshot : Snapshot) : Query where
  root
  tree := .filter (some root) (Slots.ofEntries snapshot.filter)
  detached := []
  fields := snapshot.fields
  sort := snapshot.sort
  skip := snapshot.skip
  limit := snapshot.limit

def toSnapshot (query : Query) : Snapshot where
  fields := query.fields
  filter := query.tree.slots.toEntries
  sort := query.sort
  skip := query.skip
  limit := query.limit

def find? (query : Query) (mark : Mark) : Option Slots :=
  (query.tree.find? mark).or (FilterNode.findInNodes? mark query.detached)

def update (query : Query) (mark : Mark) (revise : Slots → Slots) : Query :=
  { query with
    tree := query.tree.update mark revise
    detached := FilterNode.updateNodes mark revise query.detached }

/-- Keeps trees that an edit has pushed out. -/
def detach (query : Query) (operands : List FilterNode) : Query :=
  { query with detached := query.detached ++ operands }

end Query

inductive Operand where
  | query (mark : Mark)
  | snapshot (snapshot : Snapshot)
  | value (value : Value)

/-- A change of the state that the scopes of a query share. -/
inductive Setting where
  | fields (value : Value)
  | sort (value : Value)
  | skip (value : Value)
  | limit (value : Value)

structure QueryStore where
  next : Mark
  owners : List (Mark × List Mark)
  queries : List Query

namespace QueryStore

def empty : QueryStore := ⟨0, [], []⟩

/-- The owners of a mark, the nearest one first; a root has none. -/
def ownersOf (store : QueryStore) (mark : Mark) : List Mark :=
  ((store.owners.find? fun entry => entry.1 == mark).map Prod.snd).getD []

def isScoped (store : QueryStore) (mark : Mark) : Bool := !(store.ownersOf mark).isEmpty

def owner? (store : QueryStore) (mark : Mark) : Option Mark := (store.ownersOf mark).head?

def rootOf (store : QueryStore) (mark : Mark) : Mark :=
  ((store.ownersOf mark).getLast?).getD mark

def query? (store : QueryStore) (root : Mark) : Option Query :=
  store.queries.find? fun query => query.root == root

def snapshot (store : QueryStore) (mark : Mark) : Snapshot :=
  ((store.query? (store.rootOf mark)).map Query.toSnapshot).getD Snapshot.empty

def ownSlots (store : QueryStore) (mark : Mark) : Slots :=
  ((store.query? (store.rootOf mark)).bind (·.find? mark)).getD []

def ownFilter (store : QueryStore) (mark : Mark) : Entries := (store.ownSlots mark).toEntries

def change (store : QueryStore) (mark : Mark) (revise : Query → Query) : QueryStore :=
  let root := store.rootOf mark
  { store with
    queries := store.queries.map fun query => if query.root = root then revise query else query }

def create (store : QueryStore) (snapshot : Snapshot) : QueryStore × Mark :=
  let mark := store.next
  ({ next := mark + 1
     owners := store.owners ++ [(mark, [])]
     queries := store.queries ++ [Query.ofSnapshot mark snapshot] }, mark)

/-- Makes edits under a field of a mark's own node. -/
def edit (store : QueryStore) (mark : Mark) (field : String) (edits : List Edit) :
    QueryStore × Option Failure :=
  let slots := store.ownSlots mark
  (store.change mark fun query =>
    (query.update mark fun found => (found.applyEdits field edits).1).detach
      (slots.displaced field), (slots.applyEdits field edits).2)

/-- The nearest of the owners from which a looser join must start: a join that binds tighter and
that was made on the owner still has to outrank it. -/
def norTargetFrom (store : QueryStore) : Mark → List Mark → Mark
  | mark, [] => mark
  | mark, owner :: rest =>
      if (store.ownSlots owner).has Combinator.and.key then norTargetFrom store owner rest
      else mark

/-- The mark whose node a join changes: its own one for the tightest join, the root for the loosest
one. -/
def target (store : QueryStore) (combinator : Combinator) (mark : Mark) : Mark :=
  match combinator with
  | .and => mark
  | .nor => store.norTargetFrom mark (store.ownersOf mark)
  | .or => store.rootOf mark

def operandFilter (store : QueryStore) : Operand → Except Failure FilterNode
  | .query mark => .ok (FilterNode.unmarked (.filter none (store.ownSlots mark)))
  | .snapshot snapshot => .ok (.filter none (Slots.ofEntries snapshot.filter))
  | .value (.mapping entries) =>
      (Snapshot.ofEntries entries).map fun snapshot =>
        .filter none (Slots.ofEntries snapshot.filter)
  | .value _ => .error (.query .invalidOperand)

def operandFilters (store : QueryStore) : List Operand → Except Failure (List FilterNode)
  | [] => .ok []
  | operand :: rest =>
      match store.operandFilter operand with
      | .error failure => .error failure
      | .ok filter => (store.operandFilters rest).map (filter :: ·)

def join (store : QueryStore) (mark : Mark) (combinator : Combinator)
    (operands : List FilterNode) : QueryStore :=
  store.change mark fun query => query.update mark (Slots.join combinator operands)

/-- Joins the node of a mark with a new scope and gives the scope's mark. -/
def openScope (store : QueryStore) (mark : Mark) (combinator : Combinator) : QueryStore × Mark :=
  let scope := store.next
  let joined := store.join mark combinator [.filter (some scope) []]
  ({ joined with
     next := scope + 1
     owners := joined.owners ++ [(scope, mark :: store.ownersOf mark)] }, scope)

def setDirection (store : QueryStore) (mark : Mark) (field : String) (direction : Direction) :
    QueryStore :=
  store.change mark fun query => { query with sort := query.sort.set field direction }

def settingChange : Setting → Except Failure (Query → Query)
  | .fields value =>
      if value.items?.isNone && !(match value with
        | .null => true
        | _ => false) then .error (.query .fieldsNotArray)
      else
        (Snapshot.ofEntries [(.text "fields", value)]).map fun snapshot query =>
          { query with fields := snapshot.fields }
  | .sort value =>
      if value.entries?.isNone && !(match value with
        | .null => true
        | _ => false) then .error (.query .sortNotObject)
      else
        (Snapshot.ofEntries [(.text "sort", value)]).map fun snapshot query =>
          { query with sort := snapshot.sort }
  | .skip value =>
      (Snapshot.ofEntries [(.text "skip", value)]).map fun snapshot query =>
        { query with skip := snapshot.skip }
  | .limit value =>
      (Snapshot.ofEntries [(.text "limit", value)]).map fun snapshot query =>
        { query with limit := snapshot.limit }

def assign (store : QueryStore) (mark : Mark) (setting : Setting) : Except Failure QueryStore :=
  (settingChange setting).map (store.change mark)

/-- Equality of queries: the same one, or equal canonical states. -/
def same (store : QueryStore) (left right : Mark) : Bool :=
  store.rootOf left == store.rootOf right ||
    (Value.mapping (store.snapshot left).toEntries).equal
      (.mapping (store.snapshot right).toEntries)

end QueryStore

end RecordQuery
