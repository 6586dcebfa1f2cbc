import Mathlib.Data.List.Basic
import RecordQuery.Records.Sorting

/-!
# Sorting keeps the members

Every step of a sort puts the same members in another order, or it fails because the comparison of
two of them does. `Rearranges` says so about the result of a step.
-/

namespace RecordQuery.Records

variable {α β γ ε : Type} {less : α → α → Except ε Bool}

/-- A result that has the members of the input, or the failure of a comparison of two of them. -/
def Rearranges (less : α → α → Except ε Bool) (input : List α) (members : β → List α) :
    Except ε β → Prop
  | .ok output => (members output).Perm input
  | .error failure => ∃ left ∈ input, ∃ right ∈ input, less left right = .error failure

namespace Rearranges

variable {input part : List α} {members : β → List α} {others : γ → List α}

theorem done {output : β} (perm : (members output).Perm input) :
    Rearranges less input members (.ok output) := perm

theorem failed {left right : α} {failure : ε} (compared : less left right = .error failure)
    (leftMember : left ∈ input) (rightMember : right ∈ input) :
    Rearranges less input members (.error failure) :=
  ⟨left, leftMember, right, rightMember, compared⟩

theorem of_error {failure : ε} (inner : Rearranges less part members (.error failure))
    (within : part ⊆ input) : Rearranges less input others (.error failure) := by
  obtain ⟨left, leftMember, right, rightMember, compared⟩ := inner
  exact failed compared (within leftMember) (within rightMember)

theorem of_perm {result : Except ε β} (given : Rearranges less part members result)
    (same : part.Perm input) : Rearranges less input members result := by
  cases result with
  | error failure => exact given.of_error same.subset
  | ok output => exact List.Perm.trans given same

/-- A step on a part of the input, and then another one. -/
theorem bind {first : Except ε β} {next : β → Except ε γ}
    (inner : Rearranges less part members first) (within : part ⊆ input)
    (after : ∀ output, (members output).Perm part → Rearranges less input others (next output)) :
    Rearranges less input others (first >>= next) := by
  cases first with
  | error failure => exact inner.of_error within
  | ok output => exact after output inner

theorem map {first : Except ε β} {next : β → γ} (inner : Rearranges less part members first)
    (within : part ⊆ input)
    (after : ∀ output, (members output).Perm part → (others (next output)).Perm input) :
    Rearranges less input others (first.map next) := by
  cases first with
  | error failure => exact inner.of_error within
  | ok output => exact after output inner

/-- The order of the arguments of the comparison does not matter. -/
theorem swap {result : Except ε β}
    (given : Rearranges (fun left right => less right left) input members result) :
    Rearranges less input members result := by
  cases result with
  | error failure =>
      obtain ⟨left, leftMember, right, rightMember, compared⟩ := given
      exact failed compared rightMember leftMember
  | ok output => exact given

end Rearranges

theorem rearranges_insertHalving (pivot : α) (fuel : Nat) (sorted : List α) :
    Rearranges less (pivot :: sorted) id (insertHalving less pivot fuel sorted) := by
  induction fuel generalizing sorted with
  | zero => exact .done (.refl _)
  | succ fuel inductionHypothesis =>
      have whole := List.take_append_drop (sorted.length / 2) sorted
      rw [insertHalving]
      generalize sorted.take (sorted.length / 2) = below at whole
      cases rest : sorted.drop (sorted.length / 2) with
      | nil =>
          rw [rest, List.append_nil] at whole
          rw [whole]
          exact .done (.refl _)
      | cons middle above =>
          rw [rest] at whole
          subst whole
          dsimp only
          cases compared : less pivot middle with
          | error failure => exact .failed compared (by simp) (by simp)
          | ok result =>
              cases result with
              | true =>
                  refine (inductionHypothesis below).map ?_ fun output perm => ?_
                  · exact List.cons_subset_cons _ (List.subset_append_left _ _)
                  · exact perm.append_right (middle :: above)
              | false =>
                  refine (inductionHypothesis above).map ?_ fun output perm => ?_
                  · exact List.cons_subset_cons _ (by simp)
                  · refine ((perm.cons middle).append_left below).trans ?_
                    exact ((List.Perm.swap _ _ _).append_left below).trans List.perm_middle

theorem rearranges_insertAll (sorted pivots : List α) :
    Rearranges less (sorted ++ pivots) id (insertAll less sorted pivots) := by
  induction pivots generalizing sorted with
  | nil =>
      rw [List.append_nil]
      exact .done (.refl _)
  | cons pivot rest inductionHypothesis =>
      have inserted : Rearranges less _ _ _ := rearranges_insertHalving pivot sorted.length sorted
      have moved : (pivot :: sorted ++ rest).Perm (sorted ++ pivot :: rest) := List.perm_middle.symm
      rw [insertAll]
      cases step : insertHalving less pivot sorted.length sorted with
      | error failure =>
          rw [step] at inserted
          exact inserted.of_error (List.Subset.trans (List.subset_append_left _ _) moved.subset)
      | ok longer =>
          rw [step] at inserted
          exact (inductionHypothesis longer).of_perm ((inserted.append_right rest).trans moved)

theorem rearranges_splitRun (below : Bool) (last : α) (found items : List α) :
    Rearranges less (last :: found ++ items) (fun parts => parts.1 ++ parts.2)
      (splitRun less below last found items) := by
  induction items generalizing last found with
  | nil => exact .done (.refl _)
  | cons next rest inductionHypothesis =>
      rw [splitRun]
      cases compared : less next last with
      | error failure => exact .failed compared (by simp) (by simp)
      | ok result =>
          dsimp only
          split
          · exact (inductionHypothesis next (last :: found)).of_perm List.perm_middle.symm
          · exact .done (.refl _)

theorem rearranges_ascendingStart (items : List α) :
    Rearranges less items (fun parts => parts.1 ++ parts.2) (ascendingStart less items) := by
  match items with
  | [] => exact .done (.refl _)
  | [only] => exact .done (.refl _)
  | first :: second :: rest =>
      have turned : ([second, first] ++ rest).Perm (first :: second :: rest) := .swap _ _ _
      rw [ascendingStart]
      cases compared : less second first with
      | error failure => exact .failed compared (by simp) (by simp)
      | ok descends =>
          cases descends with
          | true => exact (rearranges_splitRun true second [first] rest).of_perm turned
          | false =>
              refine (rearranges_splitRun false second [first] rest).map turned.subset
                fun parts perm => ?_
              exact (((List.reverse_perm _).append_right _).trans perm).trans turned

/-- A run is split off a list that is not empty, and the rest is shorter. -/
theorem rearranges_startRun (least : Nat) (items : List α) :
    Rearranges less items (fun parts => parts.1 ++ parts.2) (startRun less least items) := by
  have start : Rearranges less _ _ _ := rearranges_ascendingStart items
  rw [startRun]
  cases step : ascendingStart less items with
  | error failure =>
      rw [step] at start
      exact start.of_error (List.Subset.refl _)
  | ok parts =>
      rcases parts with ⟨run, rest⟩
      rw [step] at start
      have taken := List.take_append_drop (least - run.length) rest
      refine (rearranges_insertAll run _).map ?_ fun longer perm => ?_
      · refine List.Subset.trans ?_ start.subset
        exact List.append_subset.mpr ⟨List.subset_append_left _ _,
          List.Subset.trans (List.take_subset _ _) (List.subset_append_right _ _)⟩
      · refine ((perm.append_right _).trans ?_).trans start
        rw [List.append_assoc, taken]

theorem error_of_map_not {outcome : Except ε Bool} {failure : ε}
    (failed : outcome.map not = .error failure) : outcome = .error failure := by
  cases outcome with
  | error other => rw [Except.error.inj failed]
  | ok result => contradiction

variable {holds : α → Except ε Bool} {items : List α} {failure : ε}

theorem exists_of_leadingBounds {fuel low offset : Nat}
    (failed : leadingBounds holds items fuel low offset = .error failure) :
    ∃ item ∈ items, holds item = .error failure := by
  induction fuel generalizing low offset with
  | zero => contradiction
  | succ fuel inductionHypothesis =>
      rw [leadingBounds] at failed
      cases found : items[offset]? with
      | none => simp [found] at failed
      | some item =>
          simp only [found] at failed
          cases tested : holds item with
          | error other =>
              rw [tested] at failed
              obtain rfl := Except.error.inj failed
              exact ⟨item, List.mem_of_getElem? found, tested⟩
          | ok result =>
              rw [tested] at failed
              cases result with
              | true => exact inductionHypothesis failed
              | false => contradiction

theorem exists_of_meetBounds {mirrored : Bool} {fuel low high : Nat}
    (failed : meetBounds holds mirrored items fuel low high = .error failure) :
    ∃ item ∈ items, holds item = .error failure := by
  induction fuel generalizing low high with
  | zero => contradiction
  | succ fuel inductionHypothesis =>
      rw [meetBounds] at failed
      split at failed
      · contradiction
      · rename_i item found
        split at failed
        · contradiction
        · cases tested : holds item with
          | error other =>
              rw [tested] at failed
              obtain rfl := Except.error.inj failed
              exact ⟨item, List.mem_of_getElem? found, tested⟩
          | ok result =>
              rw [tested] at failed
              cases result <;> exact inductionHypothesis failed

/-- Counting fails only as the test of some member does. -/
theorem exists_of_countLeading {mirrored : Bool}
    (failed : countLeading holds mirrored items = .error failure) :
    ∃ item ∈ items, holds item = .error failure := by
  rw [countLeading] at failed
  cases bounds : leadingBounds holds items (items.length + 1) 0 0 with
  | error other =>
      rw [bounds] at failed
      obtain rfl := Except.error.inj failed
      exact exists_of_leadingBounds bounds
  | ok found =>
      rw [bounds] at failed
      exact exists_of_meetBounds failed

/-- A step after counting members that do not go before another member. -/
theorem Rearranges.after_count {input : List α} {members : β → List α} {mirrored : Bool}
    {next : Nat → Except ε β}
    (compares : ∀ item ∈ items,
      ∃ left ∈ input, ∃ right ∈ input, holds item = (less left right).map not)
    (after : ∀ count, Rearranges less input members (next count)) :
    Rearranges less input members (countLeading holds mirrored items >>= next) := by
  cases counted : countLeading holds mirrored items with
  | error failure =>
      obtain ⟨item, member, tested⟩ := exists_of_countLeading counted
      obtain ⟨left, leftMember, right, rightMember, same⟩ := compares item member
      exact .failed (error_of_map_not (same.symm.trans tested)) leftMember rightMember
  | ok count => exact after count

namespace Merging

/-- All members of two runs on their way into one. -/
def members (merging : Merging α) : List α := merging.merged ++ merging.guarded ++ merging.other

theorem perm_of_front (base front rest : List α) :
    (front.reverse ++ base ++ rest).Perm (base ++ (front ++ rest)) := by
  rw [← List.append_assoc]
  have moved := ((List.reverse_perm front).append_right base).trans List.perm_append_comm
  exact moved.append_right rest

theorem members_takeGuarded (merging : Merging α) (count : Nat) :
    (merging.takeGuarded count).members.Perm merging.members := by
  have moved := perm_of_front merging.merged (merging.guarded.take count)
    (merging.guarded.drop count)
  rw [List.take_append_drop] at moved
  exact moved.append_right _

theorem members_takeOther (merging : Merging α) (count : Nat) :
    (merging.takeOther count).members.Perm merging.members := by
  have moved := perm_of_front (merging.merged ++ merging.guarded) (merging.other.take count)
    (merging.other.drop count)
  rw [List.take_append_drop, ← List.append_assoc] at moved
  exact moved

theorem perm_result (merging : Merging α) : merging.result.Perm merging.members := by
  rw [result, members, List.append_assoc, List.append_assoc]
  exact (List.reverse_perm _).append List.perm_append_comm

theorem guarded_subset (merging : Merging α) : merging.guarded ⊆ merging.members :=
  fun _ member => List.mem_append_left _ (List.mem_append_right _ member)

theorem other_subset (merging : Merging α) : merging.other ⊆ merging.members :=
  fun _ member => List.mem_append_right _ member

variable {comesFirst : α → α → Except ε Bool}

theorem rearranges_byTurns (patience fuel guardedWins otherWins : Nat) (merging : Merging α) :
    Rearranges comesFirst merging.members members
      (byTurns comesFirst patience fuel guardedWins otherWins merging) := by
  induction fuel generalizing guardedWins otherWins merging with
  | zero => exact .done (.refl _)
  | succ fuel inductionHypothesis =>
      rw [byTurns]
      split
      · rename_i front other frontFound otherFound
        have frontMember := merging.guarded_subset (List.mem_of_mem_head? frontFound)
        have otherMember := merging.other_subset (List.mem_of_mem_head? otherFound)
        cases compared : comesFirst front other with
        | error failure => exact .failed compared frontMember otherMember
        | ok result =>
            cases result with
            | true =>
                have taken := merging.members_takeOther 1
                dsimp only
                split
                · exact .done taken
                · exact (inductionHypothesis _ _ _).of_perm taken
            | false =>
                have taken := merging.members_takeGuarded 1
                dsimp only
                split
                · exact .done taken
                · exact (inductionHypothesis _ _ _).of_perm taken
      · exact .done (.refl _)

theorem rearranges_leapGuarded (mirrored : Bool) (merging : Merging α) :
    Rearranges comesFirst merging.members (fun leap => leap.2.members)
      (leapGuarded comesFirst mirrored merging) := by
  rw [leapGuarded]
  cases found : merging.other.head? with
  | none => exact .done (.refl _)
  | some other =>
      have otherMember := merging.other_subset (List.mem_of_mem_head? found)
      dsimp only
      cases counted : countLeading (fun front => (comesFirst front other).map not) mirrored
          merging.guarded with
      | error failure =>
          obtain ⟨front, member, tested⟩ := exists_of_countLeading counted
          exact .failed (error_of_map_not tested) (merging.guarded_subset member) otherMember
      | ok count =>
          have taken := merging.members_takeGuarded count
          refine .done ?_
          dsimp only
          split
          · exact taken
          · exact (members_takeOther _ 1).trans taken

theorem rearranges_leapOther (mirrored : Bool) (merging : Merging α) :
    Rearranges comesFirst merging.members (fun leap => leap.2.members)
      (leapOther comesFirst mirrored merging) := by
  rw [leapOther]
  cases found : merging.guarded.head? with
  | none => exact .done (.refl _)
  | some front =>
      have frontMember := merging.guarded_subset (List.mem_of_mem_head? found)
      dsimp only
      cases counted : countLeading (comesFirst front) mirrored merging.other with
      | error failure =>
          obtain ⟨other, member, tested⟩ := exists_of_countLeading counted
          exact .failed tested frontMember (merging.other_subset member)
      | ok count =>
          have taken := merging.members_takeOther count
          refine .done ?_
          dsimp only
          split
          · exact taken
          · exact (members_takeGuarded _ 1).trans taken

/-- Two steps in turn, the second one only where the merge is not settled. -/
theorem rearranges_inTurn {first second : Merging α → Except ε (Nat × Merging α)}
    (one : ∀ merging : Merging α, Rearranges comesFirst merging.members
      (fun leap => leap.2.members) (first merging))
    (other : ∀ merging : Merging α, Rearranges comesFirst merging.members
      (fun leap => leap.2.members) (second merging)) (merging : Merging α) :
    Rearranges comesFirst merging.members (fun leap => leap.2.members) (do
      let (count, merging) ← first merging
      if merging.isSettled then return (count, merging)
      else
        let (otherCount, merging) ← second merging
        return (max count otherCount, merging)) := by
  refine (one merging).bind (List.Subset.refl _) ?_
  rintro ⟨count, moved⟩ perm
  dsimp only
  split
  · exact .done perm
  · refine (other moved).bind perm.subset ?_
    rintro ⟨otherCount, last⟩ after
    exact .done (after.trans perm)

theorem rearranges_leapBoth (mirrored : Bool) (merging : Merging α) :
    Rearranges comesFirst merging.members (fun leap => leap.2.members)
      (leapBoth comesFirst mirrored merging) := by
  cases mirrored with
  | true =>
      exact rearranges_inTurn (rearranges_leapOther true) (rearranges_leapGuarded true) merging
  | false =>
      exact rearranges_inTurn (rearranges_leapGuarded false) (rearranges_leapOther false) merging

theorem rearranges_leaps (mirrored : Bool) (fuel patience : Nat) (merging : Merging α) :
    Rearranges comesFirst merging.members (fun leap => leap.2.members)
      (leaps comesFirst mirrored fuel patience merging) := by
  induction fuel generalizing patience merging with
  | zero => exact .done (.refl _)
  | succ fuel inductionHypothesis =>
      rw [leaps]
      refine (rearranges_leapBoth mirrored merging).bind (List.Subset.refl _) ?_
      rintro ⟨count, moved⟩ perm
      dsimp only
      split
      · exact .done perm
      · split
        · exact (inductionHypothesis _ moved).of_perm perm
        · exact .done perm

theorem rearranges_settle (mirrored : Bool) (fuel patience : Nat) (merging : Merging α) :
    Rearranges comesFirst merging.members (fun leap => leap.2.members)
      (settle comesFirst mirrored fuel patience merging) := by
  induction fuel generalizing patience merging with
  | zero => exact .done (.refl _)
  | succ fuel inductionHypothesis =>
      rw [settle]
      split
      · exact .done (.refl _)
      · refine (rearranges_byTurns patience (fuel + 1) 0 0 merging).bind (List.Subset.refl _) ?_
        intro moved perm
        dsimp only
        split
        · exact .done perm
        · refine (rearranges_leaps mirrored (fuel + 1) (patience + 1) moved).bind perm.subset ?_
          rintro ⟨rest, last⟩ after
          exact (inductionHypothesis rest last).of_perm (after.trans perm)

end Merging

theorem rearranges_blend {comesFirst : α → α → Except ε Bool} (mirrored : Bool) (patience : Nat)
    (guarded other : List α) :
    Rearranges comesFirst (guarded ++ other) Prod.snd
      (blend comesFirst mirrored patience guarded other) := by
  have started := (Merging.mk [] guarded other).members_takeOther 1
  refine (Merging.rearranges_settle mirrored _ patience _).map started.subset ?_
  rintro ⟨rest, merging⟩ perm
  exact (merging.perm_result.trans perm).trans started

theorem rearranges_mergeRuns (patience : Nat) (left right : List α) :
    Rearranges less (left ++ right) Prod.snd (mergeRuns less patience left right) := by
  rw [mergeRuns]
  split
  · rename_i empty
    rw [List.head?_eq_none_iff.mp empty, List.append_nil]
    exact .done (.refl _)
  · rename_i first firstFound
    have firstMember := List.mem_append_right left (List.mem_of_mem_head? firstFound)
    refine .after_count ?_ fun settledFirst => ?_
    · exact fun item member => ⟨first, firstMember, item, List.mem_append_left _ member, rfl⟩
    have leftWhole := List.take_append_drop settledFirst left
    generalize left.take settledFirst = before at leftWhole
    generalize left.drop settledFirst = low at leftWhole
    subst leftWhole
    dsimp only
    split
    · rename_i empty
      rw [List.getLast?_eq_none_iff.mp empty, List.append_nil]
      exact .done (.refl _)
    · rename_i last lastFound
      have lastMember : last ∈ before ++ low ++ right := by
        simp [List.mem_of_getLast? lastFound]
      refine .after_count ?_ fun settledLast => ?_
      · exact fun item member =>
          ⟨item, List.mem_append_right _ (List.mem_reverse.mp member), last, lastMember, rfl⟩
      have rightWhole := List.take_append_drop (right.length - settledLast) right
      generalize right.take (right.length - settledLast) = high at rightWhole
      generalize right.drop (right.length - settledLast) = after at rightWhole
      subst rightWhole
      have within : low ++ high ⊆ before ++ low ++ (high ++ after) := by
        intro item member
        simp only [List.mem_append] at member ⊢
        tauto
      have whole {merged : List α} (perm : merged.Perm (low ++ high)) :
          (before ++ merged ++ after).Perm (before ++ low ++ (high ++ after)) := by
        have placed := (perm.append_left before).append_right after
        simpa only [List.append_assoc] using placed
      split
      · rename_i empty
        rw [List.isEmpty_iff.mp empty]
        exact .done (by simp)
      · split
        · refine (rearranges_blend false patience low high).swap.bind within ?_
          rintro ⟨rest, merged⟩ perm
          exact .done (whole perm)
        · have turned : (high.reverse ++ low.reverse).Perm (low ++ high) :=
            ((List.reverse_perm high).append (List.reverse_perm low)).trans List.perm_append_comm
          refine ((rearranges_blend true patience high.reverse low.reverse).of_perm turned).bind
            within ?_
          rintro ⟨rest, merged⟩ perm
          exact .done (whole ((List.reverse_perm merged).trans perm))

namespace Runs

/-- All members of the runs. -/
def members (runs : Runs α) : List α :=
  (runs.before.map Waiting.run).flatten ++ runs.last

theorem rearranges_collapse (depth patience : Nat) (last : List α) (before : List (Waiting α)) :
    Rearranges less ((before.map Waiting.run).flatten ++ last) (fun found => found.2.members)
      (collapse less depth patience last before) := by
  induction before generalizing patience last with
  | nil => exact .done (.refl _)
  | cons next rest inductionHypothesis =>
      have moved : ((rest.map Waiting.run).flatten ++ (next.run ++ last)).Perm
          (((next :: rest).map Waiting.run).flatten ++ last) := by
        rw [List.map_cons, List.flatten_cons, ← List.append_assoc]
        exact List.perm_append_comm.append_right last
      have merge : Rearranges less _ _ _ := rearranges_mergeRuns patience next.run last
      rw [collapse]
      split
      · cases step : mergeRuns less patience next.run last with
        | error failure =>
            rw [step] at merge
            exact merge.of_error (List.Subset.trans (List.subset_append_right _ _) moved.subset)
        | ok found =>
            rcases found with ⟨rest, merged⟩
            rw [step] at merge
            exact (inductionHypothesis rest merged).of_perm ((merge.append_left _).trans moved)
      · exact .done (.refl _)

/-- Only runs without members may have an empty last run. -/
def Proper (runs : Runs α) : Prop := runs.last = [] → runs.before = []

theorem rearranges_push {runs : Runs α} (proper : runs.Proper) (size patience : Nat)
    (run : List α) : Rearranges less (runs.members ++ run) (fun found => found.2.members)
      (runs.push less size patience run) := by
  rw [push]
  split
  · rename_i empty
    have last := List.isEmpty_iff.mp empty
    exact .done (by simp [members, last, proper last])
  · refine (rearranges_collapse _ patience runs.last runs.before).map
      (List.subset_append_left _ _) ?_
    rintro ⟨rest, found⟩ perm
    have placed : (found.last ++ (found.before.map Waiting.run).flatten).Perm runs.members :=
      List.perm_append_comm.trans perm
    exact placed.append_right run

theorem last_of_push {runs found : Runs α} {size patience rest : Nat} {run : List α}
    (pushed : runs.push less size patience run = .ok (rest, found)) : found.last = run := by
  rw [push] at pushed
  split at pushed
  · obtain ⟨-, rfl⟩ := Prod.mk.inj (Except.ok.inj pushed)
    rfl
  · dsimp only at pushed
    generalize collapse less _ patience runs.last runs.before = outcome at pushed
    cases outcome with
    | error failure => contradiction
    | ok outcome =>
        obtain ⟨-, rfl⟩ := Prod.mk.inj (Except.ok.inj pushed)
        rfl

theorem rearranges_mergeAll (patience : Nat) (last : List α) (before : List (Waiting α)) :
    Rearranges less ((before.map Waiting.run).flatten ++ last) id
      (mergeAll less patience last before) := by
  fun_induction mergeAll less patience last before with
  | case1 patience last => exact .done (.refl _)
  | case2 patience last only =>
      rw [List.map_singleton, List.flatten_singleton]
      exact (rearranges_mergeRuns patience only.run last).map (List.Subset.refl _)
        fun _ perm => perm
  | case3 patience last next second rest _ failure step =>
      have merge : Rearranges less _ _ _ := rearranges_mergeRuns patience second.run next.run
      rw [step] at merge
      refine merge.of_error ?_
      intro item member
      simp only [List.mem_append, List.map_cons, List.flatten_cons] at member ⊢
      tauto
  | case4 patience last next second rest _ later merged step inductionHypothesis =>
      have merge : Rearranges less _ _ _ := rearranges_mergeRuns patience second.run next.run
      rw [step] at merge
      refine inductionHypothesis.of_perm (.append_right last ?_)
      simp only [List.map_cons, List.flatten_cons, ← List.append_assoc]
      exact (List.Perm.trans merge List.perm_append_comm).append_right _
  | case5 patience last next second rest _ failure step =>
      have merge : Rearranges less _ _ _ := rearranges_mergeRuns patience next.run last
      rw [step] at merge
      refine merge.of_error ?_
      intro item member
      simp only [List.mem_append, List.map_cons, List.flatten_cons] at member ⊢
      tauto
  | case6 patience last next second rest _ later merged step inductionHypothesis =>
      have merge : Rearranges less _ _ _ := rearranges_mergeRuns patience next.run last
      rw [step] at merge
      refine inductionHypothesis.of_perm ((List.Perm.append_left _ merge).trans ?_)
      rw [List.map_cons (a := next), List.flatten_cons, ← List.append_assoc]
      exact List.perm_append_comm.append_right last

theorem ne_nil_of_splitRun {below : Bool} {last : α} {found items : List α}
    {parts : List α × List α} (split : splitRun less below last found items = .ok parts) :
    parts.1 ≠ [] := by
  induction items generalizing last found with
  | nil =>
      obtain rfl := Except.ok.inj split
      simp
  | cons next rest inductionHypothesis =>
      rw [splitRun] at split
      cases compared : less next last with
      | error failure => simp [compared] at split
      | ok result =>
          simp only [compared] at split
          split at split
          · exact inductionHypothesis split
          · obtain rfl := Except.ok.inj split
            simp

theorem ne_nil_of_ascendingStart {items : List α} (nonempty : items ≠ []) {parts : List α × List α}
    (start : ascendingStart less items = .ok parts) : parts.1 ≠ [] := by
  match items with
  | [only] =>
      obtain rfl := Except.ok.inj start
      simp
  | first :: second :: rest =>
      rw [ascendingStart] at start
      cases compared : less second first with
      | error failure => simp [compared] at start
      | ok descends =>
          cases descends with
          | true =>
              rw [compared] at start
              exact ne_nil_of_splitRun start
          | false =>
              cases run : splitRun less false second [first] rest with
              | error failure => simp [compared, run, Except.map] at start
              | ok found =>
                  simp only [compared, run] at start
                  obtain rfl := Except.ok.inj start
                  simpa using ne_nil_of_splitRun run

/-- The first run of a list that is not empty is not empty. -/
theorem ne_nil_of_startRun {least : Nat} {items : List α} (nonempty : items ≠ [])
    {parts : List α × List α} (start : startRun less least items = .ok parts) : parts.1 ≠ [] := by
  rw [startRun] at start
  cases first : ascendingStart less items with
  | error failure => simp [first] at start
  | ok found =>
      rcases found with ⟨run, rest⟩
      have held := ne_nil_of_ascendingStart nonempty first
      have inserted : Rearranges less _ _ _ :=
        rearranges_insertAll run (rest.take (least - run.length))
      simp only [first] at start
      cases step : insertAll less run (rest.take (least - run.length)) with
      | error failure => simp [step, Except.map] at start
      | ok longer =>
          rw [step] at inserted start
          obtain rfl := Except.ok.inj start
          intro empty
          have nothing : run ++ rest.take (least - run.length) = [] :=
            List.Perm.nil_eq (empty ▸ inserted) |>.symm
          exact held (List.append_eq_nil_iff.mp nothing).1

theorem rearranges_cut (size fuel patience : Nat) {runs : Runs α} (proper : runs.Proper)
    (items : List α) (enough : items.length ≤ fuel) :
    Rearranges less (runs.members ++ items) (fun found => found.2.members)
      (cut less size fuel patience runs items) := by
  induction fuel generalizing patience runs items with
  | zero =>
      obtain rfl := List.length_eq_zero_iff.mp (Nat.le_zero.mp enough)
      exact .done (by simp)
  | succ fuel inductionHypothesis =>
      cases items with
      | nil => exact .done (by simp)
      | cons item others =>
          have start : Rearranges less _ _ _ := rearranges_startRun (leastRun size) (item :: others)
          simp only [cut]
          cases step : startRun less (leastRun size) (item :: others) with
          | error failure =>
              rw [step] at start
              exact start.of_error (List.subset_append_right _ _)
          | ok parts =>
              have held := ne_nil_of_startRun (by simp) step
              rcases parts with ⟨run, rest⟩
              rw [step] at start
              have whole : (runs.members ++ run ++ rest).Perm (runs.members ++ item :: others) := by
                rw [List.append_assoc]
                exact List.Perm.append_left _ start
              have pushing : Rearranges less _ _ _ := rearranges_push proper size patience run
              dsimp only
              cases pushed : runs.push less size patience run with
              | error failure =>
                  rw [pushed] at pushing
                  exact pushing.of_error
                    (List.Subset.trans (List.subset_append_left _ _) whole.subset)
              | ok found =>
                  rcases found with ⟨later, longer⟩
                  have last := last_of_push pushed
                  rw [pushed] at pushing
                  have shorter : rest.length ≤ fuel := by
                    have lengths := List.Perm.length_eq start
                    have positive := List.length_pos_iff.mpr held
                    simp only [List.length_append, List.length_cons] at lengths enough positive
                    omega
                  have properLater : longer.Proper := fun empty => absurd (last ▸ empty) held
                  exact (inductionHypothesis later properLater rest shorter).of_perm
                    ((List.Perm.append_right rest pushing).trans whole)

end Runs

/-- A sort puts the members in another order, or it fails as the comparison of two of them does. -/
theorem rearranges_sortBy (items : List α) : Rearranges less items id (sortBy less items) := by
  have proper : (Runs.mk (α := α) [] []).Proper := fun _ => rfl
  have runs : Rearranges less _ _ _ :=
    Runs.rearranges_cut items.length items.length Merging.longLeap proper items (Nat.le_refl _)
  rw [sortBy]
  cases step : Runs.cut less items.length items.length Merging.longLeap ⟨[], []⟩ items with
  | error failure =>
      rw [step] at runs
      exact runs.of_error (List.Subset.refl _)
  | ok found =>
      rcases found with ⟨patience, found⟩
      rw [step] at runs
      exact (Runs.rearranges_mergeAll patience found.last found.before).of_perm runs

/-- Sorted records are the given ones in another order. -/
theorem perm_of_sortRecords {order : Entries} {records sorted : List Value}
    (done : sortRecords order records = .ok sorted) : sorted.Perm records := by
  rw [sortRecords] at done
  split at done
  · rw [Except.ok.inj done]
  · have given : Rearranges (precedes order) _ _ _ := rearranges_sortBy records
    rw [done] at given
    exact given

end RecordQuery.Records
