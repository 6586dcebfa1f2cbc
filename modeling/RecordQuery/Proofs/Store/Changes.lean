import RecordQuery.Proofs.Filter.Reading
import RecordQuery.Proofs.Store.Tracked

/-!
# Changes keep marks tracked

Copied operands carry no marks, settings leave the trees alone, and an edit or a join changes the
contents of one node without losing a mark. So every change keeps `QueryStore.Tracked`, and all
reachable sessions have it.
-/

namespace RecordQuery

open FilterNode Session

theorem marksOfSlots_ofEntries (entries : Entries) :
    marksOfSlots (Slots.ofEntries entries) = [] := by
  induction entries with
  | nil => rfl
  | cons entry rest inductionHypothesis =>
      rcases entry with ⟨key, value⟩
      cases key with
      | text name => simpa [Slots.ofEntries, marksOfSlot] using inductionHypothesis
      | _ => simpa [Slots.ofEntries] using inductionHypothesis

namespace QueryStore

theorem operandFilters_eq_ok_iff {store : QueryStore} {operands : List Operand}
    {filters : List FilterNode} : store.operandFilters operands = .ok filters ↔
      List.Forall₂ (fun operand filter => store.operandFilter operand = .ok filter)
        operands filters := by
  induction operands generalizing filters with
  | nil => simp [operandFilters, eq_comm]
  | cons operand rest inductionHypothesis =>
      rw [operandFilters, List.forall₂_cons_left_iff]
      cases copied : store.operandFilter operand with
      | error failure => simp
      | ok filter =>
          cases others : store.operandFilters rest with
          | error failure => simp [Except.map, ← inductionHypothesis, others]
          | ok found =>
              simp only [Except.map, Except.ok.injEq, ← inductionHypothesis, others]
              exact ⟨fun same => ⟨filter, found, rfl, rfl, same.symm⟩,
                fun ⟨_, _, head, tail, same⟩ => by rw [head, tail, same]⟩

/-- What is copied for an operand: the node of a query without its marks, or a filter that was
described. -/
theorem operandFilter_cases {store : QueryStore} {operand : Operand} {filter : FilterNode}
    (copied : store.operandFilter operand = .ok filter) :
    (∃ mark, operand = .query mark ∧
      filter = FilterNode.unmarked (.filter none (store.ownSlots mark))) ∨
    ∃ snapshot, filter = .filter none (Slots.ofEntries snapshot.filter) ∧
      (operand = .snapshot snapshot ∨ ∃ entries, operand = .value (.mapping entries) ∧
        Snapshot.ofEntries entries = .ok snapshot) := by
  cases operand with
  | query mark => exact .inl ⟨mark, rfl, (Except.ok.inj copied).symm⟩
  | snapshot snapshot => exact .inr ⟨snapshot, (Except.ok.inj copied).symm, .inl rfl⟩
  | value value =>
      cases value with
      | mapping entries =>
          obtain ⟨snapshot, read, shape⟩ := except_map_eq_ok copied
          exact .inr ⟨snapshot, shape, .inr ⟨entries, rfl, read⟩⟩
      | _ => contradiction

theorem forall_operandFilters {store : QueryStore} {operands : List Operand}
    {filters : List FilterNode} {holds : FilterNode → Prop}
    (copied : store.operandFilters operands = .ok filters)
    (each : ∀ operand ∈ operands, ∀ filter, store.operandFilter operand = .ok filter →
      holds filter) : ∀ filter ∈ filters, holds filter := by
  rw [operandFilters_eq_ok_iff] at copied
  induction copied with
  | nil => exact List.forall_mem_nil _
  | cons source _ inductionHypothesis =>
      obtain ⟨first, others⟩ := List.forall_mem_cons.mp each
      exact List.forall_mem_cons.mpr ⟨first _ source, inductionHypothesis others⟩

theorem marks_operandFilter {store : QueryStore} {operand : Operand} {filter : FilterNode}
    (copied : store.operandFilter operand = .ok filter) : filter.marks = [] := by
  rcases operandFilter_cases copied with ⟨mark, -, rfl⟩ | ⟨snapshot, rfl, -⟩
  · exact marks_unmarked _
  · simpa [FilterNode.marks] using marksOfSlots_ofEntries snapshot.filter

/-- What is copied into a join has no marks. -/
theorem marks_operandFilters {store : QueryStore} {operands : List Operand}
    {filters : List FilterNode} (copied : store.operandFilters operands = .ok filters) :
    marksOfNodes filters = [] := by
  rw [operandFilters_eq_ok_iff] at copied
  induction copied with
  | nil => rfl
  | cons source _ inductionHypothesis =>
      rw [marksOfNodes, marks_operandFilter source, inductionHypothesis, List.append_nil]

/-- A setting replaces one part of the shared state by a part of a snapshot. -/
theorem settingChange_cases {setting : Setting} {revise : Query → Query}
    (checked : settingChange setting = .ok revise) :
    ∃ options snapshot, Snapshot.ofEntries options = .ok snapshot ∧
      ((revise = fun query => { query with fields := snapshot.fields }) ∨
        (revise = fun query => { query with sort := snapshot.sort }) ∨
        (revise = fun query => { query with skip := snapshot.skip }) ∨
        revise = fun query => { query with limit := snapshot.limit }) := by
  cases setting with
  | fields value =>
      simp only [settingChange, ite_eq_iff] at checked
      rcases checked with ⟨-, refused⟩ | ⟨-, checked⟩
      · contradiction
      · obtain ⟨snapshot, result, shape⟩ := except_map_eq_ok checked
        exact ⟨_, snapshot, result, .inl shape⟩
  | sort value =>
      simp only [settingChange, ite_eq_iff] at checked
      rcases checked with ⟨-, refused⟩ | ⟨-, checked⟩
      · contradiction
      · obtain ⟨snapshot, result, shape⟩ := except_map_eq_ok checked
        exact ⟨_, snapshot, result, .inr (.inl shape)⟩
  | skip value =>
      obtain ⟨snapshot, result, shape⟩ := except_map_eq_ok checked
      exact ⟨_, snapshot, result, .inr (.inr (.inl shape))⟩
  | limit value =>
      obtain ⟨snapshot, result, shape⟩ := except_map_eq_ok checked
      exact ⟨_, snapshot, result, .inr (.inr (.inr shape))⟩

/-- A change of the state that all scopes of a query share: it leaves the trees alone. -/
def SetsState (revise : Query → Query) : Prop :=
  ∀ query, (revise query).root = query.root ∧ (revise query).tree = query.tree ∧
    (revise query).detached = query.detached

theorem settingChange_setsState {setting : Setting} {revise : Query → Query}
    (checked : settingChange setting = .ok revise) : SetsState revise := by
  intro query
  obtain ⟨_, _, -, rfl | rfl | rfl | rfl⟩ := settingChange_cases checked <;> exact ⟨rfl, rfl, rfl⟩

theorem setsState_direction (field : String) (direction : Direction) :
    SetsState fun query => { query with sort := query.sort.set field direction } :=
  fun _ => ⟨rfl, rfl, rfl⟩

theorem ownSlots_setState (store : QueryStore) (mark : Mark) {revise : Query → Query}
    (sets : SetsState revise) (other : Mark) :
    (store.change mark revise).ownSlots other = store.ownSlots other := by
  have after := query?_change store mark revise (fun query => (sets query).1) (store.rootOf other)
  change (((store.change mark revise).query? (store.rootOf other)).bind (·.find? other)).getD [] = _
  rw [after, ownSlots]
  split
  · cases store.query? (store.rootOf other) with
    | none => rfl
    | some query => simp [Query.find?, (sets query).2.1, (sets query).2.2]
  · rfl

theorem filter_setState (store : QueryStore) (mark : Mark) {revise : Query → Query}
    (sets : SetsState revise) (other : Mark) :
    ((store.change mark revise).snapshot other).filter = (store.snapshot other).filter := by
  have after := query?_change store mark revise (fun query => (sets query).1) (store.rootOf other)
  change ((((store.change mark revise).query? (store.rootOf other)).map
    Query.toSnapshot).getD Snapshot.empty).filter = _
  rw [after, QueryStore.snapshot]
  split
  · cases store.query? (store.rootOf other) with
    | none => rfl
    | some query => simp [Query.toSnapshot, (sets query).2.1]
  · rfl

section

variable {store : QueryStore} {holds : Query → Prop}

theorem forall_create (all : ∀ query ∈ store.queries, holds query) {snapshot : Snapshot}
    (made : holds (Query.ofSnapshot store.next snapshot)) :
    ∀ query ∈ (store.create snapshot).1.queries, holds query :=
  List.forall_mem_append.mpr ⟨all, List.forall_mem_singleton.mpr made⟩

theorem forall_change (all : ∀ query ∈ store.queries, holds query) (mark : Mark)
    {revise : Query → Query} (preserves : ∀ query, holds query → holds (revise query)) :
    ∀ query ∈ (store.change mark revise).queries, holds query := by
  intro query member
  obtain ⟨old, present, rfl⟩ := List.mem_map.mp member
  split
  · exact preserves old (all old present)
  · exact all old present

/-- The state of a mark is that of a query, or the empty one. -/
theorem snapshot_of_forall (holds : Snapshot → Prop) (nothing : holds .empty)
    (all : ∀ query ∈ store.queries, holds query.toSnapshot) (mark : Mark) :
    holds (store.snapshot mark) := by
  rw [QueryStore.snapshot]
  cases found : store.query? (store.rootOf mark) with
  | none => exact nothing
  | some query => exact all query (List.mem_of_find?_eq_some found)

/-- The contents of a mark are found in a query, or there are none. -/
theorem ownSlots_of_forall {holds : Slots → Prop} (nothing : holds []) (mark : Mark)
    (all : ∀ query ∈ store.queries, ∀ slots, query.find? mark = some slots → holds slots) :
    holds (store.ownSlots mark) := by
  rw [ownSlots]
  cases found : store.query? (store.rootOf mark) with
  | none => exact nothing
  | some query =>
      cases held : query.find? mark with
      | none => simpa [held] using nothing
      | some slots => simpa [held] using all query (List.mem_of_find?_eq_some found) slots held

end

namespace Tracked

variable {store : QueryStore}

/-- What is found at a mark that was given out. -/
theorem find?_eq (tracked : store.Tracked) {mark : Mark} (live : mark < store.next) :
    ∃ query, store.query? (store.rootOf mark) = some query ∧
      query.find? mark = some (store.ownSlots mark) := by
  obtain ⟨query, found, member⟩ := tracked.held mark live
  obtain ⟨slots, contents⟩ := Option.isSome_iff_exists.mp (Query.find?_isSome_iff.mpr member)
  exact ⟨query, found, by simp [ownSlots, found, contents]⟩

theorem find?_of_query? (tracked : store.Tracked) {mark : Mark} (live : mark < store.next)
    {query : Query} (found : store.query? (store.rootOf mark) = some query) :
    query.find? mark = some (store.ownSlots mark) := by
  obtain ⟨_, same, contents⟩ := tracked.find?_eq live
  rwa [Option.some.inj (found.symm.trans same)]

/-- The contents of a node after a change of that node. -/
theorem ownSlots_update (tracked : store.Tracked) {mark : Mark} (live : mark < store.next)
    (revise : Slots → Slots) :
    (store.change mark fun query => query.update mark revise).ownSlots mark =
      revise (store.ownSlots mark) := by
  obtain ⟨query, found, contents⟩ := tracked.find?_eq live
  have after := query?_update store mark revise (store.rootOf mark)
  rw [if_pos rfl, found] at after
  change (((store.change mark fun query => query.update mark revise).query?
    (store.rootOf mark)).bind (·.find? mark)).getD [] = _
  rw [after]
  simp [Query.find?_update, contents]

/-- The contents of a node after edits under a field. -/
theorem ownSlots_edit (tracked : store.Tracked) {mark : Mark} (live : mark < store.next)
    (field : String) (edits : List Edit) : (store.edit mark field edits).1.ownSlots mark =
      ((store.ownSlots mark).applyEdits field edits).1 := by
  obtain ⟨query, found, contents⟩ := tracked.find?_eq live
  have after := query?_change store mark
    (fun query => (query.update mark fun held => (held.applyEdits field edits).1).detach
      ((store.ownSlots mark).displaced field)) (fun _ => rfl) (store.rootOf mark)
  rw [if_pos rfl, found] at after
  have revised := query.find?_update mark fun held => (held.applyEdits field edits).1
  rw [contents, Option.map_some] at revised
  change (((store.edit mark field edits).1.query? (store.rootOf mark)).bind (·.find? mark)).getD
    [] = _
  rw [edit, after, Option.map_some, Option.bind_some, Query.find?_detach revised,
    Option.getD_some]

/-- A change of one query that keeps its marks. -/
theorem change (tracked : store.Tracked) (mark : Mark) {revise : Query → Query}
    (rootKept : ∀ query, (revise query).root = query.root)
    (marksKept : ∀ query, store.query? (store.rootOf mark) = some query →
      (revise query).marks.Perm query.marks) : (store.change mark revise).Tracked := by
  have cases (root : Mark) (later : Query) (found : (store.change mark revise).query? root =
      some later) : ∃ query, store.query? root = some query ∧ later.marks.Perm query.marks := by
    rw [query?_change store mark revise rootKept] at found
    split at found
    · rename_i same
      obtain ⟨query, before, rfl⟩ := Option.map_eq_some_iff.mp found
      exact ⟨query, before, marksKept query (by rw [same, before])⟩
    · exact ⟨later, found, .refl _⟩
  refine ⟨tracked.known, tracked.linked, ?_, ?_, ?_, ?_⟩
  · intro root later found
    obtain ⟨query, before, -⟩ := cases root later found
    exact tracked.rooted root query before
  · intro other live
    obtain ⟨query, found, member⟩ := tracked.held other live
    change ∃ later, (store.change mark revise).query? (store.rootOf other) = some later ∧ _
    rw [query?_change store mark revise rootKept]
    split
    · rename_i same
      exact ⟨revise query, by rw [found]; rfl,
        (marksKept query (by rw [same, found])).mem_iff.mpr member⟩
    · exact ⟨query, found, member⟩
  · intro root later found
    obtain ⟨query, before, kept⟩ := cases root later found
    exact kept.nodup_iff.mpr (tracked.single root query before)
  · intro root later found other member
    obtain ⟨query, before, kept⟩ := cases root later found
    exact tracked.given root query before other (kept.mem_iff.mp member)

theorem setState (tracked : store.Tracked) (mark : Mark) {revise : Query → Query}
    (sets : SetsState revise) : (store.change mark revise).Tracked := by
  refine tracked.change mark (fun query => (sets query).1) ?_
  intro query _
  rw [Query.marks_eq, Query.marks_eq, (sets query).2.1, (sets query).2.2]

theorem edit (tracked : store.Tracked) {mark : Mark} (live : mark < store.next) (field : String)
    {edits : List Edit} (nonempty : edits ≠ []) : (store.edit mark field edits).1.Tracked := by
  refine tracked.change mark (fun query => rfl) ?_
  intro query found
  obtain ⟨others, before, after⟩ :=
    Query.marks_update (tracked.single _ _ found) (tracked.find?_of_query? live found)
  rw [Query.marks_detach]
  refine ((after _).append_right _).trans (.trans ?_ before.symm)
  rw [Slots.applyEdits_eq_set _ _ nonempty, List.append_assoc]
  exact (Slots.marks_set _ _ _).symm.append_left others

theorem join (tracked : store.Tracked) {mark : Mark} (live : mark < store.next)
    (combinator : Combinator) {operands : List FilterNode} (unmarked : marksOfNodes operands = []) :
    (store.join mark combinator operands).Tracked := by
  refine tracked.change mark (fun query => rfl) ?_
  intro query found
  obtain ⟨others, before, after⟩ :=
    Query.marks_update (tracked.single _ _ found) (tracked.find?_of_query? live found)
  refine (after _).trans (.trans ?_ before.symm)
  rw [Slots.marksOfSlots_join, unmarked, List.append_nil]

theorem lt_of_mem_marks (tracked : store.Tracked) {root mark : Mark}
    (member : mark ∈ ((store.query? root).map Query.marks).getD []) : mark < store.next := by
  cases found : store.query? root with
  | none => simp [found] at member
  | some query => exact tracked.given root query found mark (by simpa [found] using member)

end Tracked

/-- A store takes in its next mark with a chain of owners: one query gets this mark, and nothing else
changes. -/
structure Grows (store later : QueryStore) (chain : List Mark) (query : Query) : Prop where
  next : later.next = store.next + 1
  owners : later.owners = store.owners ++ [(store.next, chain)]
  linked : ∀ owner rest, chain = owner :: rest → owner < store.next ∧ store.ownersOf owner = rest
  rootLive : later.rootOf store.next < later.next
  queries : ∀ root, later.query? root =
    if root = later.rootOf store.next then some query else store.query? root
  marks : query.marks.Perm
    (((store.query? (later.rootOf store.next)).map Query.marks).getD [] ++ [store.next])

namespace Grows

variable {store later : QueryStore} {chain : List Mark} {query : Query}
  (grows : store.Grows later chain query) (tracked : store.Tracked)

include grows

theorem lt_of_lt {mark : Mark} (live : mark < store.next) : mark < later.next := by
  rw [grows.next]
  exact Nat.lt_succ_of_lt live

theorem newest : store.next < later.next := by
  rw [grows.next]
  exact Nat.lt_succ_self _

theorem lt_of_ne {mark : Mark} (live : mark < later.next) (other : mark ≠ store.next) :
    mark < store.next := by
  rw [grows.next] at live
  exact Nat.lt_of_le_of_ne (Nat.lt_succ_iff.mp live) other

theorem query?_cases {root : Mark} {held : Query} (found : later.query? root = some held) :
    root = later.rootOf store.next ∧ held = query ∨ store.query? root = some held := by
  rw [grows.queries] at found
  split at found
  · exact .inl ⟨‹_›, (Option.some.inj found).symm⟩
  · exact .inr found

include tracked

theorem ownersOf (mark : Mark) :
    later.ownersOf mark = if mark = store.next then chain else store.ownersOf mark := by
  have appended := ownersOf_append store chain later.next later.queries
    (fun entry member => Nat.ne_of_lt (tracked.known entry member)) mark
  rwa [← grows.owners] at appended

theorem known : ∀ entry ∈ later.owners, entry.1 < later.next := by
  intro entry member
  rw [grows.owners] at member
  rcases List.mem_append.mp member with member | member
  · exact grows.lt_of_lt (tracked.known entry member)
  · obtain rfl := List.mem_singleton.mp member
    exact grows.newest

theorem linked_later : ∀ mark < later.next, ∀ owner rest, later.ownersOf mark = owner :: rest →
    owner < later.next ∧ later.ownersOf owner = rest := by
  intro mark live owner rest owns
  have found : owner < store.next ∧ store.ownersOf owner = rest := by
    rw [grows.ownersOf tracked] at owns
    split at owns
    · exact grows.linked owner rest owns
    · exact tracked.linked mark (grows.lt_of_ne live ‹_›) owner rest owns
  refine ⟨grows.lt_of_lt found.1, ?_⟩
  rw [grows.ownersOf tracked, if_neg (Nat.ne_of_lt found.1), found.2]

theorem rooted : ∀ root held, later.query? root = some held → root < later.next := by
  intro root held found
  rcases grows.query?_cases found with ⟨rfl, -⟩ | before
  · exact grows.rootLive
  · exact grows.lt_of_lt (tracked.rooted root held before)

theorem held : ∀ mark < later.next, ∃ held, later.query? (later.rootOf mark) = some held ∧
    mark ∈ held.marks := by
  intro mark live
  by_cases new : mark = store.next
  · subst new
    exact ⟨query, by rw [grows.queries, if_pos rfl], grows.marks.mem_iff.mpr (by simp)⟩
  · obtain ⟨held, found, member⟩ := tracked.held mark (grows.lt_of_ne live new)
    have same : later.rootOf mark = store.rootOf mark :=
      rootOf_congr (by rw [grows.ownersOf tracked, if_neg new])
    rw [same, grows.queries]
    split
    · rename_i own
      rw [own] at found
      exact ⟨query, rfl, grows.marks.mem_iff.mpr (by simp [found, member])⟩
    · exact ⟨held, found, member⟩

theorem single : ∀ root held, later.query? root = some held → held.marks.Nodup := by
  intro root held found
  rcases grows.query?_cases found with ⟨-, rfl⟩ | before
  · rw [grows.marks.nodup_iff, List.nodup_append']
    refine ⟨?_, List.nodup_singleton _, List.disjoint_singleton.mpr fun member =>
      Nat.lt_irrefl _ (tracked.lt_of_mem_marks member)⟩
    cases before : store.query? (later.rootOf store.next) with
    | none => exact List.nodup_nil
    | some held => exact tracked.single _ held before
  · exact tracked.single root held before

theorem given : ∀ root held, later.query? root = some held → ∀ mark ∈ held.marks,
    mark < later.next := by
  intro root held found mark member
  rcases grows.query?_cases found with ⟨-, rfl⟩ | before
  · rcases List.mem_append.mp (grows.marks.mem_iff.mp member) with member | member
    · exact grows.lt_of_lt (tracked.lt_of_mem_marks member)
    · obtain rfl := List.mem_singleton.mp member
      exact grows.newest
  · exact grows.lt_of_lt (tracked.given root held before mark member)

/-- All marks stay tracked when one more is taken in. -/
theorem tracked_later : later.Tracked where
  known := grows.known tracked
  linked := grows.linked_later tracked
  rooted := grows.rooted tracked
  held := grows.held tracked
  single := grows.single tracked
  given := grows.given tracked

end Grows

namespace Tracked

variable {store : QueryStore}

theorem ownersOf_create (tracked : store.Tracked) (snapshot : Snapshot) (mark : Mark) :
    (store.create snapshot).1.ownersOf mark =
      if mark = store.next then [] else store.ownersOf mark :=
  ownersOf_append _ _ _ _ (fun entry member => Nat.ne_of_lt (tracked.known entry member)) mark

theorem ownersOf_create_of_lt (tracked : store.Tracked) (snapshot : Snapshot) {mark : Mark}
    (live : mark < store.next) :
    (store.create snapshot).1.ownersOf mark = store.ownersOf mark := by
  rw [tracked.ownersOf_create, if_neg (Nat.ne_of_lt live)]

theorem query?_create (tracked : store.Tracked) (snapshot : Snapshot) (root : Mark) :
    (store.create snapshot).1.query? root =
      if root = store.next then some (Query.ofSnapshot store.next snapshot)
      else store.query? root := by
  have appended : (store.create snapshot).1.query? root = (store.query? root).or
      (if store.next = root then some (Query.ofSnapshot store.next snapshot) else none) := by
    simp [QueryStore.create, query?, List.find?_append, Query.ofSnapshot]
  rw [appended]
  by_cases new : root = store.next
  · rw [new, tracked.query?_next]
    simp
  · simp [new, Ne.symm new]

theorem query?_create_next (tracked : store.Tracked) (snapshot : Snapshot) :
    (store.create snapshot).1.query? store.next = some (Query.ofSnapshot store.next snapshot) := by
  rw [tracked.query?_create, if_pos rfl]

theorem rootOf_create (tracked : store.Tracked) (snapshot : Snapshot) :
    (store.create snapshot).1.rootOf store.next = store.next :=
  rootOf_of_root (by rw [tracked.ownersOf_create, if_pos rfl])

theorem ownSlots_create (tracked : store.Tracked) (snapshot : Snapshot) :
    (store.create snapshot).1.ownSlots store.next = Slots.ofEntries snapshot.filter := by
  rw [ownSlots, tracked.rootOf_create, tracked.query?_create_next]
  simp [Query.find?, Query.ofSnapshot, FilterNode.find?]

theorem marks_ofSnapshot (root : Mark) (snapshot : Snapshot) :
    (Query.ofSnapshot root snapshot).marks = [root] := by
  simp only [Query.marks_eq, Query.ofSnapshot, FilterNode.marks, marksOfSlots_ofEntries]
  rfl

theorem create (tracked : store.Tracked) (snapshot : Snapshot) :
    (store.create snapshot).1.Tracked := by
  have root := tracked.rootOf_create snapshot
  have grows : store.Grows (store.create snapshot).1 [] (Query.ofSnapshot store.next snapshot) := by
    refine ⟨rfl, rfl, by simp, ?_, ?_, ?_⟩
    · rw [root]
      exact Nat.lt_succ_self _
    · rw [root]
      exact tracked.query?_create snapshot
    · rw [root, tracked.query?_next, marks_ofSnapshot]
      rfl
  exact grows.tracked_later tracked

theorem ownersOf_openScope (tracked : store.Tracked) (mark : Mark) (combinator : Combinator)
    (other : Mark) : (store.openScope mark combinator).1.ownersOf other =
      if other = store.next then mark :: store.ownersOf mark else store.ownersOf other :=
  ownersOf_append _ _ _ _ (fun entry member => Nat.ne_of_lt (tracked.known entry member)) other

theorem ownersOf_openScope_of_lt (tracked : store.Tracked) (mark : Mark) (combinator : Combinator)
    {other : Mark} (live : other < store.next) :
    (store.openScope mark combinator).1.ownersOf other = store.ownersOf other := by
  rw [tracked.ownersOf_openScope, if_neg (Nat.ne_of_lt live)]

theorem query?_openScope (store : QueryStore) (mark : Mark) (combinator : Combinator)
    (root : Mark) : (store.openScope mark combinator).1.query? root =
      if store.rootOf mark = root then
        (store.query? root).map fun query =>
          query.update mark (Slots.join combinator [.filter (some store.next) []])
      else store.query? root :=
  query?_update store mark _ root

theorem rootOf_openScope (tracked : store.Tracked) {mark : Mark} (live : mark < store.next)
    (combinator : Combinator) :
    (store.openScope mark combinator).1.rootOf store.next = store.rootOf mark := by
  have kept := tracked.ownersOf_openScope_of_lt mark combinator live
  have scope : (store.openScope mark combinator).1.ownersOf store.next =
      mark :: (store.openScope mark combinator).1.ownersOf mark := by
    rw [tracked.ownersOf_openScope, if_pos rfl, kept]
  rw [rootOf_of_scope scope, rootOf_congr kept]

theorem openScope (tracked : store.Tracked) {mark : Mark} (live : mark < store.next)
    (combinator : Combinator) : (store.openScope mark combinator).1.Tracked := by
  have root := tracked.rootOf_openScope live combinator
  obtain ⟨query, found, contents⟩ := tracked.find?_eq live
  have grows : store.Grows (store.openScope mark combinator).1 (mark :: store.ownersOf mark)
      (query.update mark (Slots.join combinator [.filter (some store.next) []])) := by
    refine ⟨rfl, rfl, ?_, ?_, ?_, ?_⟩
    · intro owner rest chain
      obtain ⟨rfl, rfl⟩ := List.cons.inj chain
      exact ⟨live, rfl⟩
    · rw [root]
      exact Nat.lt_succ_of_lt (tracked.rootOf_lt live)
    · intro other
      rw [root, query?_openScope]
      by_cases own : store.rootOf mark = other
      · simp [← own, found]
      · simp [own, Ne.symm own]
    · rw [root, found]
      obtain ⟨others, before, after⟩ := Query.marks_update (tracked.single _ _ found) contents
      refine (after _).trans (.trans ?_ (before.symm.append_right _))
      rw [Slots.marksOfSlots_join, ← List.append_assoc]
      simp [FilterNode.marks]
  exact grows.tracked_later tracked

theorem empty : QueryStore.empty.Tracked := by
  refine ⟨?_, ?_, ?_, ?_, ?_, ?_⟩ <;> simp [QueryStore.empty, query?]

/-- Every change keeps all marks tracked. -/
theorem of_change (tracked : store.Tracked) {call : Call} {later : QueryStore}
    (proper : call.Proper store) (change : Change store call later) : later.Tracked := by
  cases change with
  | created _ => exact tracked.create _
  | constrained written => exact tracked.edit proper _ (FieldOperation.edits_ne_nil written)
  | ordered => exact tracked.setState _ (setsState_direction _ _)
  | assigned checked => exact tracked.setState _ (settingChange_setsState checked)
  | joined _ copied =>
      exact tracked.join (tracked.target_lt _ proper.1) _ (marks_operandFilters copied)
  | opened => exact tracked.openScope (tracked.target_lt _ proper.1) _

end Tracked

end QueryStore

/-- In a reachable session every mark is tracked. -/
theorem Session.Reachable.tracked {allowed : Call → Prop} {session : Session}
    (reachable : Reachable allowed session) : session.queries.Tracked :=
  reachable.invariant _ .empty fun _ _ _ tracked proper _ change => tracked.of_change proper change

end RecordQuery
