import Mathlib.Data.List.FinRange
import Mathlib.Data.List.Perm.Basic
import RecordQuery.Proofs.Records.Merging
import RecordQuery.Proofs.Records.Naturality

/-!
# Sorting orders stably

A comparison that tells which of two members comes first, asked for the later one of them, sorts a
list: runs are ordered when they are cut off, and stay so when they are merged. Ties are no
exception, for the places of members in the list can decide between them. So the sort by a weak
order ends in a list without descents, in which tied members stand as they did.
-/

namespace RecordQuery.Records

variable {α β ε : Type} {comes : α → α → Prop} {less : α → α → Except ε Bool}

/-- The comparison of a later member with a sooner one answers whether it comes before it. -/
def Settled (comes : α → α → Prop) (less : α → α → Except ε Bool) (sooner later : α) : Prop :=
  Answers comes (less later sooner) later sooner

section Strict

variable [IsStrictOrder α comes]

theorem insertHalving_sound {pivot : α} {fuel : Nat} {sorted : List α}
    (ordered : sorted.Pairwise comes) (settled : ∀ item ∈ sorted, Settled comes less item pivot)
    (enough : sorted.length ≤ fuel) :
    ∃ longer, insertHalving less pivot fuel sorted = .ok longer ∧ longer.Pairwise comes := by
  induction fuel generalizing sorted with
  | zero =>
      obtain rfl := List.length_eq_zero_iff.mp (Nat.le_zero.mp enough)
      exact ⟨[pivot], rfl, List.pairwise_singleton _ _⟩
  | succ fuel inductionHypothesis =>
      have whole := List.take_append_drop (sorted.length / 2) sorted
      have half : (sorted.take (sorted.length / 2)).length = sorted.length / 2 := by
        rw [List.length_take]
        omega
      rw [insertHalving]
      generalize sorted.take (sorted.length / 2) = below at whole half
      generalize sorted.drop (sorted.length / 2) = others at whole
      subst whole
      rcases others with _ | ⟨middle, above⟩
      · obtain rfl : below = [] := List.length_eq_zero_iff.mp (by simp at half; omega)
        exact ⟨[pivot], rfl, List.pairwise_singleton _ _⟩
      simp only [List.length_append, List.length_cons] at half enough
      obtain ⟨belowOrdered, restOrdered, belowRest⟩ := List.pairwise_append.mp ordered
      rcases settled middle (by simp) with ⟨compared, first⟩ | ⟨compared, first⟩
      · obtain ⟨longer, inserted, longerOrdered⟩ := inductionHypothesis belowOrdered
          (fun item member => settled item (by simp [member])) (by omega)
        have perm : Rearranges less _ _ _ := rearranges_insertHalving pivot fuel below
        rw [inserted] at perm
        refine ⟨longer ++ middle :: above, by simp [compared, inserted, Except.map],
          List.pairwise_append.mpr ⟨longerOrdered, restOrdered, fun item member => ?_⟩⟩
        rcases List.mem_cons.mp (List.Perm.subset perm member) with rfl | old
        · exact Merging.comes_of_front first restOrdered
        · exact belowRest item old
      · obtain ⟨longer, inserted, longerOrdered⟩ := inductionHypothesis restOrdered.of_cons
          (fun item member => settled item (by simp [member])) (by omega)
        have perm : Rearranges less _ _ _ := rearranges_insertHalving pivot fuel above
        rw [inserted] at perm
        have later : ∀ found ∈ longer, comes middle found := fun found member => by
          rcases List.mem_cons.mp (List.Perm.subset perm member) with rfl | old
          · exact first
          · exact (List.pairwise_cons.mp restOrdered).1 found old
        refine ⟨below ++ middle :: longer, by simp [compared, inserted, Except.map],
          List.pairwise_append.mpr ⟨belowOrdered, List.pairwise_cons.mpr ⟨later, longerOrdered⟩,
            fun item member => ?_⟩⟩
        exact Merging.comes_of_front (belowRest item member middle List.mem_cons_self)
          (List.pairwise_cons.mpr ⟨later, longerOrdered⟩)

theorem insertAll_sound {sorted pivots : List α} (ordered : sorted.Pairwise comes)
    (between : ∀ item ∈ sorted, ∀ pivot ∈ pivots, Settled comes less item pivot)
    (settled : pivots.Pairwise (Settled comes less)) :
    ∃ longer, insertAll less sorted pivots = .ok longer ∧ longer.Pairwise comes := by
  induction pivots generalizing sorted with
  | nil => exact ⟨sorted, rfl, ordered⟩
  | cons pivot rest inductionHypothesis =>
      obtain ⟨first, others⟩ := List.pairwise_cons.mp settled
      obtain ⟨longer, inserted, longerOrdered⟩ := insertHalving_sound ordered
        (fun item member => between item member pivot List.mem_cons_self) (Nat.le_refl _)
      have perm : Rearranges less _ _ _ := rearranges_insertHalving pivot sorted.length sorted
      rw [inserted] at perm
      rw [insertAll, inserted]
      refine inductionHypothesis longerOrdered (fun item member later laterMember => ?_) others
      rcases List.mem_cons.mp (List.Perm.subset perm member) with rfl | old
      · exact first later laterMember
      · exact between item old later (List.mem_cons_of_mem _ laterMember)

omit [IsStrictOrder α comes] in
/-- An answer that is known says which member comes first. -/
theorem comes_of_settled {sooner later : α} {below : Bool}
    (settled : Settled comes less sooner later) (compared : less later sooner = .ok below) :
    if below then comes later sooner else comes sooner later := by
  rcases settled with ⟨known, first⟩ | ⟨known, first⟩ <;> cases compared.symm.trans known <;>
    exact first

/-- The members of a run that is split off are ordered, the last one first if they ascend. -/
theorem splitRun_sound (below : Bool) (last : α) (found items : List α)
    (ordered : (last :: found).Pairwise fun first second =>
      if below then comes first second else comes second first)
    (settled : (last :: items).Pairwise (Settled comes less)) :
    ∃ run rest, splitRun less below last found items = .ok (run, rest) ∧
      (run.Pairwise fun first second => if below then comes first second else comes second first) ∧
      run.reverse ++ rest = found.reverse ++ last :: items := by
  induction items generalizing last found with
  | nil => exact ⟨last :: found, [], rfl, ordered, by simp⟩
  | cons next rest inductionHypothesis =>
      obtain ⟨before, others⟩ := List.pairwise_cons.mp settled
      obtain ⟨answer, compared⟩ : ∃ answer, less next last = .ok answer := by
        rcases before next List.mem_cons_self with ⟨known, -⟩ | ⟨known, -⟩ <;> exact ⟨_, known⟩
      have first := comes_of_settled (before next List.mem_cons_self) compared
      simp only [splitRun, compared]
      split
      · rename_i same
        subst same
        have longer : (next :: last :: found).Pairwise fun first second =>
            if answer then comes first second else comes second first := by
          refine List.pairwise_cons.mpr ⟨?_, ordered⟩
          cases answer with
          | true => exact Merging.comes_of_front first ordered
          | false =>
              have turned : Function.swap comes next last := first
              exact Merging.comes_of_front turned ordered
        obtain ⟨run, after, performed, runOrdered, whole⟩ :=
          inductionHypothesis next (last :: found) longer others
        exact ⟨run, after, performed, runOrdered, by simpa using whole⟩
      · exact ⟨last :: found, next :: rest, rfl, ordered, by simp⟩

/-- A run is split off the front of a list, with its members in order. -/
def StartsOrdered (comes : α → α → Prop) (items : List α) (result : Except ε (List α × List α)) :
    Prop :=
  ∃ front run rest, result = .ok (run, rest) ∧ items = front ++ rest ∧ run.Perm front ∧
    run.Pairwise comes

theorem ascendingStart_sound {items : List α} (settled : items.Pairwise (Settled comes less)) :
    StartsOrdered comes items (ascendingStart less items) := by
  match items with
  | [] => exact ⟨[], [], [], rfl, rfl, .refl _, .nil⟩
  | [only] => exact ⟨[only], [only], [], rfl, rfl, .refl _, List.pairwise_singleton _ _⟩
  | first :: second :: rest =>
      obtain ⟨before, others⟩ := List.pairwise_cons.mp settled
      have start (below : Bool) (compared : less second first = .ok below) :=
        splitRun_sound below second [first] rest
          (by simpa using comes_of_settled (before second List.mem_cons_self) compared) others
      rw [ascendingStart]
      rcases before second List.mem_cons_self with ⟨compared, -⟩ | ⟨compared, -⟩
      · obtain ⟨run, after, performed, ordered, whole⟩ := start true compared
        rw [compared]
        exact ⟨run.reverse, run, after, performed, by simpa using whole.symm,
          (List.reverse_perm run).symm, by simpa using ordered⟩
      · obtain ⟨run, after, performed, ordered, whole⟩ := start false compared
        rw [compared]
        exact ⟨run.reverse, run.reverse, after, by simp [performed, Except.map],
          by simpa using whole.symm, .refl _, List.pairwise_reverse.mpr (by simpa using ordered)⟩

theorem startRun_sound (least : Nat) {items : List α}
    (settled : items.Pairwise (Settled comes less)) :
    StartsOrdered comes items (startRun less least items) := by
  obtain ⟨front, run, rest, started, rfl, perm, ordered⟩ := ascendingStart_sound settled
  have whole := List.take_append_drop (least - run.length) rest
  simp only [startRun, started]
  generalize rest.take (least - run.length) = pivots at whole
  generalize rest.drop (least - run.length) = after at whole
  subst whole
  obtain ⟨-, restSettled, between⟩ := List.pairwise_append.mp settled
  obtain ⟨longer, inserted, longerOrdered⟩ := insertAll_sound ordered
    (fun item member pivot pivotMember =>
      between item (perm.subset member) pivot (List.mem_append_left _ pivotMember))
    (List.pairwise_append.mp restSettled).1
  have longerPerm : Rearranges less _ _ _ := rearranges_insertAll run pivots
  rw [inserted] at longerPerm
  exact ⟨front ++ pivots, longer, after, by simp [inserted, Except.map], by simp,
    List.Perm.trans longerPerm (perm.append_right _), longerOrdered⟩

/-- Ordered runs, the last one first, with comparisons that decide between them. -/
structure Stacked (comes : α → α → Prop) (less : α → α → Except ε Bool) (stack : List (List α)) :
    Prop where
  ordered : ∀ run ∈ stack, run.Pairwise comes
  between : stack.Pairwise fun later sooner =>
    Decides comes (fun item other => less other item) sooner later

theorem Stacked.mergeRuns (patience : Nat) (front : List (List α)) {rest : List (List α)}
    {later sooner : List α}
    (stacked : Stacked comes less (front ++ later :: sooner :: rest)) :
    ∃ after merged, mergeRuns less patience sooner later = .ok (after, merged) ∧
      Stacked comes less (front ++ merged :: rest) := by
  obtain ⟨frontBetween, others, across⟩ := List.pairwise_append.mp stacked.between
  obtain ⟨beforeLater, others⟩ := List.pairwise_cons.mp others
  obtain ⟨beforeSooner, restBetween⟩ := List.pairwise_cons.mp others
  obtain ⟨after, merged, performed, ordered⟩ := mergeRuns_sound patience
    (stacked.ordered sooner (by simp)) (stacked.ordered later (by simp))
    (beforeLater sooner List.mem_cons_self)
  have perm : Rearranges less _ _ _ := rearranges_mergeRuns patience sooner later
  rw [performed] at perm
  have member_of {item : α} (member : item ∈ merged) : item ∈ sooner ∨ item ∈ later :=
    List.mem_append.mp (List.Perm.subset perm member)
  refine ⟨after, merged, performed, ?_, ?_⟩
  · intro run member
    rcases List.mem_append.mp member with inFront | rest
    · exact stacked.ordered run (by simp [inFront])
    · rcases List.mem_cons.mp rest with rfl | inRest
      · exact ordered
      · exact stacked.ordered run (by simp [inRest])
  · refine List.pairwise_append.mpr ⟨frontBetween, List.pairwise_cons.mpr ⟨?_, restBetween⟩, ?_⟩
    · intro run member item itemMember found foundMember
      rcases member_of foundMember with inSooner | inLater
      · exact beforeSooner run member item itemMember found inSooner
      · exact beforeLater run (List.mem_cons_of_mem _ member) item itemMember found inLater
    · intro run member other otherMember
      rcases List.mem_cons.mp otherMember with rfl | inRest
      · intro item itemMember found foundMember
        rcases member_of itemMember with inSooner | inLater
        · exact across run member sooner (by simp) item inSooner found foundMember
        · exact across run member later (by simp) item inLater found foundMember
      · exact across run member other (by simp [inRest])

namespace Runs

def stack (runs : Runs α) : List (List α) := runs.last :: runs.before.map Waiting.run

theorem mem_members_iff {runs : Runs α} {item : α} :
    item ∈ runs.members ↔ ∃ run ∈ runs.stack, item ∈ run := by
  simp only [members, stack, List.mem_append, List.mem_flatten, List.mem_cons, exists_eq_or_imp]
  exact or_comm

theorem collapse_sound (depth patience : Nat) {last : List α} {before : List (Waiting α)}
    (stacked : Stacked comes less (stack ⟨last, before⟩)) :
    ∃ after found, collapse less depth patience last before = .ok (after, found) ∧
      Stacked comes less found.stack := by
  induction before generalizing patience last with
  | nil => exact ⟨patience, ⟨last, []⟩, rfl, stacked⟩
  | cons next rest inductionHypothesis =>
      rw [collapse]
      split
      · obtain ⟨after, merged, performed, merge⟩ := Stacked.mergeRuns patience [] stacked
        rw [performed]
        exact inductionHypothesis after merge
      · exact ⟨patience, ⟨last, next :: rest⟩, rfl, stacked⟩

theorem push_sound (size patience : Nat) {runs : Runs α} {run : List α}
    (stacked : Stacked comes less runs.stack) (ordered : run.Pairwise comes)
    (between : ∀ item ∈ runs.members, ∀ later ∈ run, Settled comes less item later) :
    ∃ after longer, runs.push less size patience run = .ok (after, longer) ∧
      Stacked comes less longer.stack ∧ longer.members ⊆ runs.members ++ run := by
  rw [push]
  split
  · exact ⟨patience, ⟨run, []⟩, rfl, ⟨by simpa [stack] using ordered, by simp [stack]⟩,
      by simp [members]⟩
  · dsimp only
    generalize boundaryDepth size (size + 1) _ _ = depth
    obtain ⟨after, found, performed, collapsed⟩ := collapse_sound depth patience stacked
    have perm : Rearranges less runs.members _ _ :=
      rearranges_collapse depth patience runs.last runs.before
    rw [performed] at perm
    rw [performed]
    refine ⟨after, _, rfl, ⟨?_, List.pairwise_cons.mpr ⟨?_, collapsed.between⟩⟩, ?_⟩
    · exact List.forall_mem_cons.mpr ⟨ordered, collapsed.ordered⟩
    · intro sooner member item itemMember
      exact between item (List.Perm.subset perm (mem_members_iff.mpr ⟨sooner, member, itemMember⟩))
    · intro item member
      obtain ⟨other, otherMember, inOther⟩ := mem_members_iff.mp member
      rcases List.mem_cons.mp otherMember with rfl | inFound
      · exact List.mem_append_right _ inOther
      · exact List.mem_append_left _
          (List.Perm.subset perm (mem_members_iff.mpr ⟨other, inFound, inOther⟩))

theorem mergeAll_sound (patience : Nat) {last : List α} {before : List (Waiting α)}
    (stacked : Stacked comes less (stack ⟨last, before⟩)) :
    ∃ merged, mergeAll less patience last before = .ok merged ∧ merged.Pairwise comes := by
  fun_induction mergeAll less patience last before with
  | case1 patience last => exact ⟨last, rfl, stacked.ordered last List.mem_cons_self⟩
  | case2 patience last only =>
      obtain ⟨after, merged, performed, merge⟩ := Stacked.mergeRuns patience [] stacked
      exact ⟨merged, by simp [performed, Except.map], merge.ordered merged List.mem_cons_self⟩
  | case3 patience last next second rest _ failure step =>
      obtain ⟨after, merged, performed, -⟩ := Stacked.mergeRuns patience [last] stacked
      cases step.symm.trans performed
  | case4 patience last next second rest _ later merged step inductionHypothesis =>
      obtain ⟨after, found, performed, merge⟩ :=
        Stacked.mergeRuns patience [last] stacked
      cases step.symm.trans performed
      exact inductionHypothesis merge
  | case5 patience last next second rest _ failure step =>
      obtain ⟨after, merged, performed, -⟩ := Stacked.mergeRuns patience [] stacked
      cases step.symm.trans performed
  | case6 patience last next second rest _ later merged step inductionHypothesis =>
      obtain ⟨after, found, performed, merge⟩ := Stacked.mergeRuns patience [] stacked
      cases step.symm.trans performed
      exact inductionHypothesis merge

theorem cut_sound (size fuel patience : Nat) (runs : Runs α) {items : List α}
    (stacked : Stacked comes less runs.stack) (settled : items.Pairwise (Settled comes less))
    (between : ∀ item ∈ runs.members, ∀ later ∈ items, Settled comes less item later) :
    ∃ after found, cut less size fuel patience runs items = .ok (after, found) ∧
      Stacked comes less found.stack := by
  induction fuel generalizing patience runs items with
  | zero => exact ⟨patience, runs, rfl, stacked⟩
  | succ fuel inductionHypothesis =>
      cases items with
      | nil => exact ⟨patience, runs, rfl, stacked⟩
      | cons first others =>
          obtain ⟨front, run, rest, started, whole, perm, ordered⟩ :=
            startRun_sound (leastRun size) settled
          simp only [cut, started]
          rw [whole] at settled between
          obtain ⟨-, restSettled, across⟩ := List.pairwise_append.mp settled
          obtain ⟨after, longer, pushed, longerStacked, within⟩ :=
            push_sound size patience stacked ordered fun item member later laterMember =>
              between item member later (List.mem_append_left _ (perm.subset laterMember))
          rw [pushed]
          refine inductionHypothesis after longer longerStacked restSettled ?_
          intro item member later laterMember
          rcases List.mem_append.mp (within member) with old | new
          · exact between item old later (List.mem_append_right _ laterMember)
          · exact across item (perm.subset new) later laterMember

end Runs

/-- A list is sorted if the comparison of each member with a sooner one tells their order. -/
theorem sortBy_sound {items : List α} (settled : items.Pairwise (Settled comes less)) :
    ∃ sorted, sortBy less items = .ok sorted ∧ sorted.Pairwise comes := by
  obtain ⟨patience, runs, performed, stacked⟩ := Runs.cut_sound items.length items.length
    Merging.longLeap ⟨[], []⟩ ⟨by simp [Runs.stack], by simp [Runs.stack]⟩ settled
    (by simp [Runs.members])
  rw [sortBy, performed]
  exact Runs.mergeAll_sound patience stacked

end Strict

/-- A comparison that orders the members of a list weakly: members of which neither is below the
other one are alike to all others. -/
structure WeaklyOrders (less : α → α → Except ε Bool) (below : α → α → Bool) (items : List α) :
    Prop where
  decided : ∀ left ∈ items, ∀ right ∈ items, less left right = .ok (below left right)
  asymmetric : ∀ left ∈ items, ∀ right ∈ items, below left right = true → below right left = false
  between : ∀ left ∈ items, ∀ middle ∈ items, ∀ right ∈ items, below left right = true →
    below left middle = true ∨ below middle right = true

/-- The order of places in a list: of members below one another, else as they stand. -/
def placeComes (below : α → α → Bool) (items : List α) (first second : Fin items.length) : Prop :=
  below (items.get first) (items.get second) = true ∨
    (below (items.get second) (items.get first) = false ∧ first < second)

/-- All places of a list, in the order of the members there. -/
structure StableOrder (below : α → α → Bool) (items : List α) (places : List (Fin items.length)) :
    Prop where
  perm : places.Perm (List.finRange items.length)
  ordered : places.Pairwise (placeComes below items)

theorem StableOrder.perm_map {below : α → α → Bool} {items : List α}
    {places : List (Fin items.length)} (stable : StableOrder below items places) :
    (places.map items.get).Perm items := by
  have mapped := stable.perm.map items.get
  rwa [List.map_get_finRange] at mapped

namespace WeaklyOrders

variable {below : α → α → Bool} {items : List α} (weak : WeaklyOrders less below items)

include weak

theorem below_of_below_of_not {first second third : α} (firstMember : first ∈ items)
    (secondMember : second ∈ items) (thirdMember : third ∈ items)
    (under : below first second = true) (level : below third second = false) :
    below first third = true :=
  (weak.between first firstMember third thirdMember second secondMember under).resolve_right
    (Bool.eq_false_iff.mp level)

theorem below_of_not_of_below {first second third : α} (firstMember : first ∈ items)
    (secondMember : second ∈ items) (thirdMember : third ∈ items)
    (level : below second first = false) (under : below second third = true) :
    below first third = true :=
  (weak.between second secondMember first firstMember third thirdMember under).resolve_left
    (Bool.eq_false_iff.mp level)

theorem not_below_trans {first second third : α} (firstMember : first ∈ items)
    (secondMember : second ∈ items) (thirdMember : third ∈ items)
    (level : below second first = false) (levelLast : below third second = false) :
    below third first = false := by
  refine Bool.eq_false_iff.mpr fun under => ?_
  have descends := weak.below_of_below_of_not thirdMember firstMember secondMember under level
  exact Bool.eq_false_iff.mp levelLast descends

theorem isStrictOrder_placeComes : IsStrictOrder _ (placeComes below items) where
  irrefl place comes := by
    have member := List.get_mem items place
    rcases comes with under | ⟨-, sooner⟩
    · exact Bool.eq_false_iff.mp (weak.asymmetric _ member _ member under) under
    · exact lt_irrefl place sooner
  trans first second third firstSecond secondThird := by
    have members := List.get_mem items
    rcases firstSecond with under | ⟨level, sooner⟩
    · have level : below (items.get third) (items.get second) = false := by
        rcases secondThird with deeper | ⟨level, -⟩
        · exact weak.asymmetric _ (members second) _ (members third) deeper
        · exact level
      exact .inl (weak.below_of_below_of_not (members first) (members second) (members third)
        under level)
    · rcases secondThird with deeper | ⟨levelLast, later⟩
      · exact .inl (weak.below_of_not_of_below (members first) (members second) (members third)
          level deeper)
      · exact .inr ⟨weak.not_below_trans (members first) (members second) (members third) level
          levelLast, lt_trans sooner later⟩

theorem eq_of_placeComes {first second : Fin items.length}
    (one : placeComes below items first second) (other : placeComes below items second first) :
    first = second :=
  have := weak.isStrictOrder_placeComes
  absurd other (asymm one)

theorem sortBy_stable : ∃ places, StableOrder below items places ∧
    sortBy less items = .ok (places.map items.get) := by
  have strict := weak.isStrictOrder_placeComes
  have members := List.get_mem items
  -- The places are sorted first, for they tell tied members apart.
  have whole : (List.finRange items.length).map items.get = items := List.map_get_finRange items
  let lessPlace := fun (first second : Fin items.length) =>
    less (items.get first) (items.get second)
  have settled : (List.finRange items.length).Pairwise
      (Settled (placeComes below items) lessPlace) := by
    refine (List.pairwise_lt_finRange _).imp fun {first second} sooner => ?_
    have compared := weak.decided _ (members second) _ (members first)
    cases under : below (items.get second) (items.get first) with
    | true => exact .inl ⟨compared.trans (congrArg Except.ok under), .inl under⟩
    | false => exact .inr ⟨compared.trans (congrArg Except.ok under), .inr ⟨under, sooner⟩⟩
  obtain ⟨places, performed, ordered⟩ := sortBy_sound settled
  have perm : Rearranges lessPlace _ _ _ := rearranges_sortBy (List.finRange items.length)
  have natural : sortBy less _ = (sortBy lessPlace _).map (List.map items.get) :=
    sortBy_map (fun _ _ => rfl) (List.finRange items.length)
  rw [performed] at perm natural
  rw [whole] at natural
  exact ⟨places, ⟨perm, ordered⟩, natural⟩

/-- A place stands before another one if it comes before it. -/
theorem pair_sublist_iff {places : List (Fin items.length)}
    (stable : StableOrder below items places) {first second : Fin items.length} :
    [first, second].Sublist places ↔ placeComes below items first second := by
  have strict := weak.isStrictOrder_placeComes
  refine ⟨fun within => ?_, fun comes => ?_⟩
  · exact (List.pairwise_cons.mp (stable.ordered.sublist within)).1 second List.mem_cons_self
  · have member (place : Fin items.length) : place ∈ places :=
      stable.perm.symm.subset (List.mem_finRange place)
    obtain ⟨before, after, rfl⟩ := List.append_of_mem (member first)
    obtain ⟨-, others, across⟩ := List.pairwise_append.mp stable.ordered
    rcases List.mem_append.mp (member second) with sooner | later
    · exact absurd (across second sooner first List.mem_cons_self) (asymm comes)
    · rcases List.mem_cons.mp later with rfl | later
      · exact absurd comes (irrefl second)
      · exact ((List.singleton_sublist.mpr later).cons_cons first).trans
          (List.sublist_append_right before _)

theorem stableOrder_unique {places others : List (Fin items.length)}
    (stable : StableOrder below items places) (other : StableOrder below items others) :
    others = places :=
  List.Perm.eq_of_pairwise (fun _ _ _ _ => weak.eq_of_placeComes) other.ordered stable.ordered
    (other.perm.trans stable.perm.symm)

omit weak in
theorem of_perm {others : List α} (weak : WeaklyOrders less below items)
    (perm : others.Perm items) : WeaklyOrders less below others where
  decided left leftMember right rightMember :=
    weak.decided left (perm.subset leftMember) right (perm.subset rightMember)
  asymmetric left leftMember right rightMember :=
    weak.asymmetric left (perm.subset leftMember) right (perm.subset rightMember)
  between left leftMember middle middleMember right rightMember :=
    weak.between left (perm.subset leftMember) middle (perm.subset middleMember) right
      (perm.subset rightMember)

omit weak in
theorem pairwise_map_get {places : List (Fin items.length)}
    (stable : StableOrder below items places)
    (apart : items.Pairwise fun left right => below left right = true ∨ below right left = true) :
    (places.map items.get).Pairwise fun first second => below first second = true := by
  refine List.pairwise_map.mpr (stable.ordered.imp fun {first second} comes => ?_)
  rcases comes with under | ⟨level, sooner⟩
  · exact under
  · refine (List.pairwise_iff_get.mp apart first second sooner).resolve_right ?_
    exact Bool.eq_false_iff.mp level

/-- Where no members are tied, the sort does not depend on how they stood. -/
theorem sortBy_of_perm {others : List α} (perm : others.Perm items)
    (apart : items.Pairwise fun left right => below left right = true ∨ below right left = true) :
    sortBy less others = sortBy less items := by
  have apartOthers := (perm.pairwise_iff fun {left right} => Or.symm).mpr apart
  have weakOthers := weak.of_perm perm
  obtain ⟨places, stable, sorted⟩ := weak.sortBy_stable
  obtain ⟨placesOthers, stableOthers, sortedOthers⟩ := weakOthers.sortBy_stable
  rw [sorted, sortedOthers]
  refine congrArg Except.ok (List.Perm.eq_of_pairwise (fun left right leftMember rightMember under
    reversed => ?_) (pairwise_map_get stableOthers apartOthers) (pairwise_map_get stable apart)
    (stableOthers.perm_map.trans (perm.trans stable.perm_map.symm)))
  have leftMember := perm.subset (stableOthers.perm_map.subset leftMember)
  have rightMember := stable.perm_map.subset rightMember
  exact absurd reversed (Bool.eq_false_iff.mp (weak.asymmetric _ leftMember _ rightMember under))

end WeaklyOrders

end RecordQuery.Records
