import Mathlib.Data.List.Pairwise
import RecordQuery.Proofs.Records.Sorting

/-!
# Merging ordered runs

A merge of two ordered runs is ordered. The order is any strict one, and the comparison has to
decide it between the members of the two runs only. By turns, by leaps and with the ends left in
place, each step keeps a merge `Merging.Sound`: what is merged is ordered together with what is left
of either run.
-/

namespace RecordQuery.Records

variable {α ε : Type}

section Counting

variable {holds : α → Except ε Bool} {test : α → Bool} {items : List α}

/-- Where a test holds of leading members only, its result says on which side of their number a
member stands. -/
theorem holds_iff_lt_length_takeWhile
    (leading : items.Pairwise fun first second => test second = true → test first = true)
    {place : Nat} {item : α} (found : items[place]? = some item) :
    test item = true ↔ place < (items.takeWhile test).length := by
  induction items generalizing place with
  | nil => simp at found
  | cons first rest inductionHypothesis =>
      obtain ⟨before, others⟩ := List.pairwise_cons.mp leading
      cases place with
      | zero =>
          obtain rfl := Option.some.inj found
          cases holds : test first <;> simp [holds]
      | succ place =>
          rw [List.getElem?_cons_succ] at found
          rw [inductionHypothesis others found]
          cases holds : test first with
          | true => simp [holds]
          | false =>
              have none : (rest.takeWhile test).length ≤ place := by
                by_contra inside
                have held := (inductionHypothesis others found).mpr (by omega)
                rw [before item (List.mem_of_getElem? found) held] at holds
                contradiction
              simp [holds, none]

variable (decided : ∀ item ∈ items, holds item = .ok (test item))
  (leading : items.Pairwise fun first second => test second = true → test first = true)

include decided leading

theorem leadingBounds_sound (fuel offset : Nat) {low : Nat}
    (reached : low ≤ (items.takeWhile test).length) :
    ∃ first last, leadingBounds holds items fuel low offset = .ok (first, last) ∧
      first ≤ (items.takeWhile test).length ∧ (items.takeWhile test).length ≤ last ∧
      last ≤ items.length := by
  have whole : (items.takeWhile test).length ≤ items.length :=
    (List.takeWhile_prefix test).length_le
  induction fuel generalizing low offset with
  | zero => exact ⟨low, items.length, rfl, reached, whole, Nat.le_refl _⟩
  | succ fuel inductionHypothesis =>
      rw [leadingBounds]
      cases found : items[offset]? with
      | none => exact ⟨low, items.length, rfl, reached, whole, Nat.le_refl _⟩
      | some item =>
          have side := holds_iff_lt_length_takeWhile leading found
          dsimp only
          rw [decided item (List.mem_of_getElem? found)]
          cases held : test item with
          | true => exact inductionHypothesis _ (by have := side.mp held; omega)
          | false =>
              have below : ¬ offset < (items.takeWhile test).length := by simp [← side, held]
              have inside : offset < items.length := (List.getElem?_eq_some_iff.mp found).1
              exact ⟨low, offset, rfl, reached, by omega, by omega⟩

theorem meetBounds_sound (mirrored : Bool) (fuel : Nat) {low high : Nat}
    (first : low ≤ (items.takeWhile test).length) (last : (items.takeWhile test).length ≤ high)
    (inside : high ≤ items.length) (enough : high - low ≤ fuel) :
    meetBounds holds mirrored items fuel low high = .ok (items.takeWhile test).length := by
  induction fuel generalizing low high with
  | zero => exact congrArg Except.ok (by omega)
  | succ fuel inductionHypothesis =>
      rw [meetBounds]
      generalize half : low + (if mirrored then high - low - 1 else high - low) / 2 = middle
      cases found : items[middle]? with
      | none =>
          rw [List.getElem?_eq_none_iff] at found
          refine congrArg Except.ok ?_
          split at half <;> omega
      | some item =>
          have side := holds_iff_lt_length_takeWhile leading found
          dsimp only
          split
          · exact congrArg Except.ok (by omega)
          · have bound : low ≤ middle ∧ middle < high := by split at half <;> omega
            rw [decided item (List.mem_of_getElem? found)]
            cases held : test item with
            | true =>
                have above := side.mp held
                exact inductionHypothesis (by omega) last inside (by omega)
            | false =>
                have below : ¬ middle < (items.takeWhile test).length := by simp [← side, held]
                exact inductionHypothesis first (by omega) (by omega) (by omega)

theorem countLeading_eq (mirrored : Bool) :
    countLeading holds mirrored items = .ok (items.takeWhile test).length := by
  obtain ⟨low, high, bounds, first, last, inside⟩ :=
    leadingBounds_sound decided leading (items.length + 1) 0 (Nat.zero_le _)
  rw [countLeading, bounds]
  exact meetBounds_sound decided leading mirrored _ first last inside (by omega)

end Counting

/-- An answer to the question whether a member comes before a pivot, one of which it does. -/
def Answers (comes : α → α → Prop) (answer : Except ε Bool) (item pivot : α) : Prop :=
  (answer = .ok true ∧ comes item pivot) ∨ (answer = .ok false ∧ comes pivot item)

theorem Answers.map_not {comes : α → α → Prop} {answer : Except ε Bool} {item pivot : α}
    (answers : Answers comes answer item pivot) : Answers comes (answer.map not) pivot item := by
  rcases answers with ⟨rfl, sooner⟩ | ⟨rfl, later⟩
  · exact .inr ⟨rfl, sooner⟩
  · exact .inl ⟨rfl, later⟩

/-- A test that says of the members of an ordered list on which side of a pivot they lie counts
those before it. -/
theorem countLeading_splits {comes : α → α → Prop} [IsStrictOrder α comes]
    {holds : α → Except ε Bool} {items : List α} {pivot : α} (ordered : items.Pairwise comes)
    (sides : ∀ item ∈ items, Answers comes (holds item) item pivot) (mirrored : Bool) :
    ∃ count, countLeading holds mirrored items = .ok count ∧
      (∀ item ∈ items.take count, comes item pivot) ∧
      ∀ item ∈ items.drop count, comes pivot item := by
  let test := fun item => (holds item).toOption.getD false
  have tested : ∀ item ∈ items, holds item = .ok (test item) := by
    intro item member
    rcases sides item member with ⟨held, -⟩ | ⟨held, -⟩ <;> simp [test, held, Except.toOption]
  have before_of : ∀ item ∈ items, (test item = true → comes item pivot) ∧
      (test item = false → comes pivot item) := by
    intro item member
    rcases sides item member with ⟨held, sooner⟩ | ⟨held, later⟩
    · simp [test, held, Except.toOption, sooner]
    · simp [test, held, Except.toOption, later]
  have leading : items.Pairwise fun first second => test second = true → test first = true := by
    refine ordered.imp_of_mem fun {first second} firstMember secondMember between held => ?_
    by_contra other
    have later := (before_of first firstMember).2 (Bool.eq_false_iff.mpr other)
    have sooner := trans_of comes between ((before_of second secondMember).1 held)
    exact asymm later sooner
  refine ⟨_, countLeading_eq tested leading mirrored, ?_, ?_⟩
  · intro item member
    obtain ⟨place, inside, rfl⟩ := List.mem_iff_getElem.mp member
    rw [List.length_take] at inside
    rw [List.getElem_take]
    refine (before_of _ (List.getElem_mem _)).1 ((holds_iff_lt_length_takeWhile leading
      (List.getElem?_eq_getElem ?_)).mpr ?_) <;> omega
  · intro item member
    obtain ⟨place, inside, rfl⟩ := List.mem_iff_getElem.mp member
    rw [List.length_drop] at inside
    rw [List.getElem_drop]
    refine (before_of _ (List.getElem_mem _)).2 (Bool.eq_false_iff.mpr fun held => ?_)
    have bound := (holds_iff_lt_length_takeWhile leading
      (List.getElem?_eq_getElem (by omega))).mp held
    omega

/-- A comparison decides the order between the members of two lists: it says whether a member of the
second one comes before one of the first one. -/
def Decides (comes : α → α → Prop) (comesFirst : α → α → Except ε Bool) (guarded other : List α) :
    Prop :=
  ∀ front ∈ guarded, ∀ item ∈ other, Answers comes (comesFirst front item) item front

theorem Decides.mono {comes : α → α → Prop} {comesFirst : α → α → Except ε Bool}
    {guarded other fewer less : List α} (decides : Decides comes comesFirst guarded other)
    (within : fewer ⊆ guarded) (withinOther : less ⊆ other) :
    Decides comes comesFirst fewer less :=
  fun front member item itemMember => decides front (within member) item (withinOther itemMember)

namespace Merging

def remaining (merging : Merging α) : Nat := merging.guarded.length + merging.other.length

/-- What is merged is ordered and comes before all that is left of either run, and the last member
of the guarded run comes after all of the other one. -/
structure Sound (comes : α → α → Prop) (comesFirst : α → α → Except ε Bool)
    (merging : Merging α) : Prop where
  withGuarded : (merging.merged.reverse ++ merging.guarded).Pairwise comes
  withOther : (merging.merged.reverse ++ merging.other).Pairwise comes
  last : ∀ last ∈ merging.guarded.getLast?, ∀ item ∈ merging.other, comes item last
  decides : Decides comes comesFirst merging.guarded merging.other

variable {comes : α → α → Prop} {comesFirst : α → α → Except ε Bool} {merging : Merging α}

theorem Sound.takeGuarded (sound : merging.Sound comes comesFirst) (count : Nat)
    (first : ∀ front ∈ merging.guarded.take count, ∀ item ∈ merging.other, comes front item) :
    (merging.takeGuarded count).Sound comes comesFirst := by
  have taken : (merging.takeGuarded count).merged.reverse =
      merging.merged.reverse ++ merging.guarded.take count := by
    simp [Merging.takeGuarded]
  refine ⟨?_, ?_, ?_, ?_⟩
  · rw [taken, List.append_assoc]
    exact (List.take_append_drop count merging.guarded).symm ▸ sound.withGuarded
  · obtain ⟨-, other, apart⟩ := List.pairwise_append.mp sound.withOther
    rw [taken]
    refine List.pairwise_append.mpr ⟨?_, other, ?_⟩
    · exact sound.withGuarded.sublist ((List.take_sublist _ _).append_left _)
    · intro front member item itemMember
      rcases List.mem_append.mp member with merged | guarded
      · exact apart front merged item itemMember
      · exact first front guarded item itemMember
  · intro last found
    change last ∈ (merging.guarded.drop count).getLast? at found
    rw [List.getLast?_drop] at found
    split at found
    · contradiction
    · exact sound.last last found
  · exact sound.decides.mono (List.drop_subset _ _) (List.Subset.refl _)

theorem Sound.takeOther (sound : merging.Sound comes comesFirst) (count : Nat)
    (first : ∀ item ∈ merging.other.take count, ∀ front ∈ merging.guarded, comes item front) :
    (merging.takeOther count).Sound comes comesFirst := by
  have taken : (merging.takeOther count).merged.reverse =
      merging.merged.reverse ++ merging.other.take count := by
    simp [Merging.takeOther]
  refine ⟨?_, ?_, ?_, ?_⟩
  · obtain ⟨-, guarded, apart⟩ := List.pairwise_append.mp sound.withGuarded
    rw [taken]
    refine List.pairwise_append.mpr ⟨?_, guarded, ?_⟩
    · exact sound.withOther.sublist ((List.take_sublist _ _).append_left _)
    · intro item member front frontMember
      rcases List.mem_append.mp member with merged | other
      · exact apart item merged front frontMember
      · exact first item other front frontMember
  · rw [taken, List.append_assoc]
    exact (List.take_append_drop count merging.other).symm ▸ sound.withOther
  · exact fun last found item member => sound.last last found item (List.mem_of_mem_drop member)
  · exact sound.decides.mono (List.Subset.refl _) (List.drop_subset _ _)

theorem Sound.pairwise_result (sound : merging.Sound comes comesFirst)
    (settled : merging.isSettled = true) : merging.result.Pairwise comes := by
  rcases merging with ⟨merged, guarded, other⟩
  rcases other with _ | ⟨item, other⟩
  · simpa [result] using sound.withGuarded
  · rcases guarded with _ | ⟨front, _ | ⟨second, guarded⟩⟩
    · simpa [result] using sound.withOther
    · refine List.pairwise_append.mpr ⟨sound.withOther, List.pairwise_singleton _ _, ?_⟩
      intro before member last lastMember
      obtain rfl := List.mem_singleton.mp lastMember
      rcases List.mem_append.mp member with merged | other
      · exact (List.pairwise_append.mp sound.withGuarded).2.2 before merged last lastMember
      · exact sound.last last rfl before other
    · simp [isSettled] at settled

variable [IsStrictOrder α comes]

theorem comes_of_front {before front : α} {rest : List α} (first : comes before front)
    (ordered : (front :: rest).Pairwise comes) : ∀ item ∈ front :: rest, comes before item := by
  intro item member
  rcases List.mem_cons.mp member with rfl | later
  · exact first
  · exact trans_of comes first ((List.pairwise_cons.mp ordered).1 item later)

/-- A last member that comes before a member is the last of those that do. -/
theorem comes_of_last {last after : α} {others : List α} (later : comes last after)
    (ordered : (others ++ [last]).Pairwise comes) :
    ∀ item ∈ others ++ [last], comes item after := by
  intro item member
  rcases List.mem_append.mp member with sooner | only
  · exact trans_of comes
      ((List.pairwise_append.mp ordered).2.2 item sooner last List.mem_cons_self) later
  · obtain rfl := List.mem_singleton.mp only
    exact later

theorem byTurns_sound (patience fuel guardedWins otherWins : Nat)
    (sound : merging.Sound comes comesFirst) :
    ∃ next, byTurns comesFirst patience fuel guardedWins otherWins merging = .ok next ∧
      next.Sound comes comesFirst ∧ next.remaining ≤ merging.remaining ∧
      (0 < fuel → merging.isSettled = false → next.remaining < merging.remaining) := by
  induction fuel generalizing guardedWins otherWins merging with
  | zero => exact ⟨merging, rfl, sound, Nat.le_refl _, by simp⟩
  | succ fuel inductionHypothesis =>
      rcases merging with ⟨merged, guarded, other⟩
      rcases guarded with _ | ⟨front, guarded⟩
      · exact ⟨_, rfl, sound, Nat.le_refl _, by simp [isSettled]⟩
      rcases other with _ | ⟨item, other⟩
      · exact ⟨_, rfl, sound, Nat.le_refl _, by simp [isSettled]⟩
      have guardedOrdered := (List.pairwise_append.mp sound.withGuarded).2.1
      have otherOrdered := (List.pairwise_append.mp sound.withOther).2.1
      rw [byTurns]
      rcases sound.decides front List.mem_cons_self item List.mem_cons_self with
        ⟨compared, first⟩ | ⟨compared, first⟩
      · have taken := sound.takeOther 1 fun found member => by
          obtain rfl := List.mem_singleton.mp member
          exact comes_of_front first guardedOrdered
        have fewer : (takeOther ⟨merged, front :: guarded, item :: other⟩ 1).remaining <
            (⟨merged, front :: guarded, item :: other⟩ : Merging α).remaining := by
          simp [remaining, Merging.takeOther]
        simp only [List.head?_cons, compared]
        split
        · exact ⟨_, rfl, taken, Nat.le_of_lt fewer, fun _ _ => fewer⟩
        · obtain ⟨next, performed, nextSound, least, -⟩ :=
            inductionHypothesis 0 (otherWins + 1) taken
          exact ⟨next, performed, nextSound, by omega, fun _ _ => by omega⟩
      · have taken := sound.takeGuarded 1 fun found member => by
          obtain rfl := List.mem_singleton.mp member
          exact comes_of_front first otherOrdered
        have fewer : (takeGuarded ⟨merged, front :: guarded, item :: other⟩ 1).remaining <
            (⟨merged, front :: guarded, item :: other⟩ : Merging α).remaining := by
          simp [remaining, Merging.takeGuarded]
        simp only [List.head?_cons, compared]
        split
        · exact ⟨_, rfl, taken, Nat.le_of_lt fewer, fun _ _ => fewer⟩
        · obtain ⟨next, performed, nextSound, least, -⟩ :=
            inductionHypothesis (guardedWins + 1) 0 taken
          exact ⟨next, performed, nextSound, by omega, fun _ _ => by omega⟩

theorem remaining_takeGuarded_le (merging : Merging α) (count : Nat) :
    (merging.takeGuarded count).remaining ≤ merging.remaining := by
  simp [remaining, Merging.takeGuarded]

theorem remaining_takeOther_le (merging : Merging α) (count : Nat) :
    (merging.takeOther count).remaining ≤ merging.remaining := by
  simp [remaining, Merging.takeOther]

/-- A step of a merge that succeeds, stays sound and leaves no more to merge. -/
def Advances (comes : α → α → Prop) (comesFirst : α → α → Except ε Bool) (merging : Merging α)
    (step : Except ε (Nat × Merging α)) : Prop :=
  ∃ count next, step = .ok (count, next) ∧ next.Sound comes comesFirst ∧
    next.remaining ≤ merging.remaining

omit [IsStrictOrder α comes] in
theorem Advances.still (sound : merging.Sound comes comesFirst) (count : Nat) :
    merging.Advances comes comesFirst (.ok (count, merging)) :=
  ⟨count, merging, rfl, sound, Nat.le_refl _⟩

theorem leapGuarded_advances (mirrored : Bool) (sound : merging.Sound comes comesFirst) :
    merging.Advances comes comesFirst (leapGuarded comesFirst mirrored merging) := by
  rcases merging with ⟨merged, guarded, _ | ⟨item, other⟩⟩
  · exact .still sound 0
  have guardedOrdered := (List.pairwise_append.mp sound.withGuarded).2.1
  have otherOrdered := (List.pairwise_append.mp sound.withOther).2.1
  have sides : ∀ front ∈ guarded, Answers comes ((comesFirst front item).map not) front item :=
    fun front member => (sound.decides front member item List.mem_cons_self).map_not
  obtain ⟨count, counted, stay, leave⟩ := countLeading_splits guardedOrdered sides mirrored
  have moved := sound.takeGuarded count fun front member =>
    comes_of_front (stay front member) otherOrdered
  have fewer := remaining_takeGuarded_le ⟨merged, guarded, item :: other⟩ count
  simp only [leapGuarded, List.head?_cons, counted]
  refine ⟨count, _, rfl, ?_⟩
  split
  · exact ⟨moved, fewer⟩
  · refine ⟨moved.takeOther 1 fun found member => ?_,
      Nat.le_trans (remaining_takeOther_le _ 1) fewer⟩
    obtain rfl := List.mem_singleton.mp member
    exact leave

theorem leapOther_advances (mirrored : Bool) (sound : merging.Sound comes comesFirst) :
    merging.Advances comes comesFirst (leapOther comesFirst mirrored merging) := by
  rcases merging with ⟨merged, _ | ⟨front, guarded⟩, other⟩
  · exact .still sound 0
  have guardedOrdered := (List.pairwise_append.mp sound.withGuarded).2.1
  have otherOrdered := (List.pairwise_append.mp sound.withOther).2.1
  have sides := sound.decides front List.mem_cons_self
  obtain ⟨count, counted, go, stay⟩ := countLeading_splits otherOrdered sides mirrored
  have moved := sound.takeOther count fun item member =>
    comes_of_front (go item member) guardedOrdered
  have fewer := remaining_takeOther_le ⟨merged, front :: guarded, other⟩ count
  simp only [leapOther, List.head?_cons, counted]
  refine ⟨count, _, rfl, ?_⟩
  split
  · exact ⟨moved, fewer⟩
  · refine ⟨moved.takeGuarded 1 fun found member => ?_,
      Nat.le_trans (remaining_takeGuarded_le _ 1) fewer⟩
    obtain rfl := List.mem_singleton.mp member
    exact stay

theorem leapBoth_advances (mirrored : Bool) (sound : merging.Sound comes comesFirst) :
    merging.Advances comes comesFirst (leapBoth comesFirst mirrored merging) := by
  cases mirrored with
  | true =>
      obtain ⟨count, next, performed, nextSound, fewer⟩ := leapOther_advances true sound
      obtain ⟨second, last, leapt, lastSound, fewest⟩ := leapGuarded_advances true nextSound
      simp only [leapBoth, if_true, performed, leapt, bind, Except.bind]
      split
      · exact ⟨count, next, rfl, nextSound, fewer⟩
      · exact ⟨max count second, last, rfl, lastSound, Nat.le_trans fewest fewer⟩
  | false =>
      obtain ⟨count, next, performed, nextSound, fewer⟩ := leapGuarded_advances false sound
      obtain ⟨second, last, leapt, lastSound, fewest⟩ := leapOther_advances false nextSound
      simp only [leapBoth, Bool.false_eq_true, if_false, performed, leapt, bind, Except.bind]
      split
      · exact ⟨count, next, rfl, nextSound, fewer⟩
      · exact ⟨max count second, last, rfl, lastSound, Nat.le_trans fewest fewer⟩

theorem leaps_advances (mirrored : Bool) (fuel patience : Nat)
    (sound : merging.Sound comes comesFirst) :
    merging.Advances comes comesFirst (leaps comesFirst mirrored fuel patience merging) := by
  induction fuel generalizing patience merging with
  | zero => exact .still sound patience
  | succ fuel inductionHypothesis =>
      obtain ⟨count, next, performed, nextSound, fewer⟩ := leapBoth_advances mirrored sound
      simp only [leaps, performed, bind, Except.bind]
      split
      · exact ⟨_, next, rfl, nextSound, fewer⟩
      · split
        · obtain ⟨later, last, leapt, lastSound, fewest⟩ :=
            inductionHypothesis (max (patience - 1) 1) nextSound
          exact ⟨later, last, leapt, lastSound, Nat.le_trans fewest fewer⟩
        · exact ⟨_, next, rfl, nextSound, fewer⟩

/-- With a turn for every member left, a merge gets settled. -/
theorem settle_sound (mirrored : Bool) (fuel patience : Nat)
    (sound : merging.Sound comes comesFirst) (enough : merging.remaining ≤ fuel) :
    ∃ later settled, settle comesFirst mirrored fuel patience merging = .ok (later, settled) ∧
      settled.Sound comes comesFirst ∧ settled.isSettled = true := by
  induction fuel generalizing patience merging with
  | zero =>
      refine ⟨patience, merging, rfl, sound, ?_⟩
      have nothing : merging.other.length = 0 := by rw [remaining] at enough; omega
      simp [isSettled, List.length_eq_zero_iff.mp nothing]
  | succ fuel inductionHypothesis =>
      rw [settle]
      split
      · exact ⟨patience, merging, rfl, sound, ‹_›⟩
      · rename_i unsettled
        obtain ⟨next, turned, nextSound, -, fewer⟩ :=
          byTurns_sound patience (fuel + 1) 0 0 sound
        have least := fewer (Nat.succ_pos fuel) (by simpa using unsettled)
        simp only [turned, bind, Except.bind]
        split
        · exact ⟨patience, next, rfl, nextSound, ‹_›⟩
        · obtain ⟨later, last, leapt, lastSound, fewest⟩ :=
            leaps_advances mirrored (fuel + 1) (patience + 1) nextSound
          have least : last.remaining ≤ fuel := by omega
          rw [leapt]
          exact inductionHypothesis later lastSound least

end Merging

section Merges

variable {comes : α → α → Prop} [IsStrictOrder α comes] {less : α → α → Except ε Bool}

theorem blend_sound {comesFirst : α → α → Except ε Bool} (mirrored : Bool) (patience : Nat)
    {guarded rest : List α} {item : α} (guardedOrdered : guarded.Pairwise comes)
    (otherOrdered : (item :: rest).Pairwise comes)
    (decides : Decides comes comesFirst guarded (item :: rest))
    (first : ∀ front ∈ guarded, comes item front)
    (last : ∀ last ∈ guarded.getLast?, ∀ found ∈ item :: rest, comes found last) :
    ∃ later merged, blend comesFirst mirrored patience guarded (item :: rest) =
      .ok (later, merged) ∧ merged.Pairwise comes ∧ merged.Perm (guarded ++ item :: rest) := by
  have start : (Merging.mk [] guarded (item :: rest)).Sound comes comesFirst :=
    ⟨guardedOrdered, otherOrdered, last, decides⟩
  have taken := start.takeOther 1 fun found member => by
    obtain rfl := List.mem_singleton.mp member
    exact first
  obtain ⟨later, settled, performed, sound, done⟩ :=
    Merging.settle_sound mirrored (guarded.length + (item :: rest).length) patience taken
      (Merging.remaining_takeOther_le _ 1)
  have blended : blend comesFirst mirrored patience guarded (item :: rest) =
      .ok (later, settled.result) := by
    rw [blend, performed]
    rfl
  have perm : Rearranges comesFirst _ _ _ :=
    rearranges_blend mirrored patience guarded (item :: rest)
  rw [blended] at perm
  exact ⟨later, settled.result, blended, sound.pairwise_result done, perm⟩

/-- Runs whose ends are known merge from their ends, too. -/
theorem blend_reverse_sound (patience : Nat) {low others : List α} {front last : α}
    (lowOrdered : (low ++ [last]).Pairwise comes) (highOrdered : (front :: others).Pairwise comes)
    (decides : Decides comes (fun item other => less other item) (low ++ [last]) (front :: others))
    (first : ∀ item ∈ low ++ [last], comes front item)
    (after : ∀ item ∈ front :: others, comes item last) :
    ∃ later merged,
      blend less true patience (front :: others).reverse (low ++ [last]).reverse =
        .ok (later, merged) ∧
      merged.reverse.Pairwise comes ∧ merged.reverse.Perm (low ++ [last] ++ front :: others) := by
  have turned : (low ++ [last]).reverse = last :: low.reverse := List.reverse_concat
  have guardedLast : ∀ found ∈ (front :: others).reverse.getLast?, ∀ item ∈ last :: low.reverse,
      Function.swap comes item found := by
    intro found foundLast item member
    rw [List.getLast?_reverse, List.head?_cons] at foundLast
    obtain rfl := Option.some.inj foundLast
    exact first item (List.mem_reverse.mp (turned ▸ member))
  have guardedOrdered : (front :: others).reverse.Pairwise (Function.swap comes) :=
    List.pairwise_reverse.mpr highOrdered
  obtain ⟨later, merged, blended, ordered, perm⟩ := blend_sound true patience guardedOrdered
    (turned ▸ List.pairwise_reverse.mpr lowOrdered)
    (fun found foundMember item member => decides item (List.mem_reverse.mp (turned ▸ member)) found
      (List.mem_reverse.mp foundMember))
    (fun found member => after found (List.mem_reverse.mp member)) guardedLast
  refine ⟨later, merged, turned ▸ blended, List.pairwise_reverse.mpr ordered, ?_⟩
  have parts : ((front :: others).reverse ++ (low ++ [last]).reverse).Perm
      (low ++ [last] ++ front :: others) :=
    ((List.reverse_perm _).append (List.reverse_perm _)).trans List.perm_append_comm
  exact (List.reverse_perm merged).trans ((turned ▸ perm).trans parts)

/-- Parts in a row are ordered if the middle one is and lies between the others, which lie on either
side of two members that are in order. -/
theorem pairwise_between {before middle after : List α} {first last : α} (apart : comes first last)
    (beforeOrdered : before.Pairwise comes) (middleOrdered : middle.Pairwise comes)
    (afterOrdered : after.Pairwise comes) (low : ∀ item ∈ before, comes item first)
    (high : ∀ item ∈ after, comes last item)
    (sooner : ∀ item ∈ before, ∀ found ∈ middle, comes item found)
    (later : ∀ found ∈ middle, ∀ item ∈ after, comes found item) :
    (before ++ middle ++ after).Pairwise comes := by
  refine List.pairwise_append.mpr ⟨List.pairwise_append.mpr
    ⟨beforeOrdered, middleOrdered, sooner⟩, afterOrdered, fun item member found foundMember => ?_⟩
  rcases List.mem_append.mp member with settled | between
  · exact trans_of comes (low item settled) (trans_of comes apart (high found foundMember))
  · exact later item between found foundMember

theorem mergeRuns_sound (patience : Nat) {left right : List α} (leftOrdered : left.Pairwise comes)
    (rightOrdered : right.Pairwise comes)
    (decides : Decides comes (fun item other => less other item) left right) :
    ∃ later merged, mergeRuns less patience left right = .ok (later, merged) ∧
      merged.Pairwise comes := by
  rcases right with _ | ⟨first, rest⟩
  · exact ⟨patience, left, rfl, leftOrdered⟩
  have leftSides : ∀ item ∈ left, Answers comes ((less first item).map not) item first :=
    fun item member => (decides item member first List.mem_cons_self).map_not
  obtain ⟨settledFirst, counted, stay, leave⟩ := countLeading_splits leftOrdered leftSides false
  rw [mergeRuns]
  simp only [List.head?_cons, counted, bind, Except.bind]
  have leftWhole := List.take_append_drop settledFirst left
  generalize left.take settledFirst = before at stay leftWhole
  generalize left.drop settledFirst = low at leave leftWhole
  subst leftWhole
  have beforeRight : ∀ item ∈ before, ∀ found ∈ first :: rest, comes item found :=
    fun item member => Merging.comes_of_front (stay item member) rightOrdered
  cases lastFound : low.getLast? with
  | none =>
      obtain rfl := List.getLast?_eq_none_iff.mp lastFound
      rw [List.append_nil] at leftOrdered
      exact ⟨patience, before ++ first :: rest, rfl,
        List.pairwise_append.mpr ⟨leftOrdered, rightOrdered, beforeRight⟩⟩
  | some last =>
      have lastMember := List.mem_of_getLast? lastFound
      obtain ⟨lower, rfl⟩ := List.getLast?_eq_some_iff.mp lastFound
      have rightSides : ∀ item ∈ (first :: rest).reverse,
          Answers (Function.swap comes) ((less item last).map not) item last :=
        fun item member => (decides last (List.mem_append_right _ lastMember) item
          (List.mem_reverse.mp member)).map_not
      obtain ⟨settledLast, countedLast, stayLast, leaveLast⟩ :=
        countLeading_splits (List.pairwise_reverse.mpr rightOrdered) rightSides true
      simp only [countedLast]
      rw [List.take_reverse] at stayLast
      rw [List.drop_reverse] at leaveLast
      have rightWhole :=
        List.take_append_drop ((first :: rest).length - settledLast) (first :: rest)
      generalize (first :: rest).take ((first :: rest).length - settledLast) = high
        at leaveLast rightWhole
      generalize (first :: rest).drop ((first :: rest).length - settledLast) = after
        at stayLast rightWhole
      obtain ⟨beforeOrdered, lowOrdered, beforeLow⟩ := List.pairwise_append.mp leftOrdered
      rw [← rightWhole] at rightOrdered beforeRight decides
      obtain ⟨highOrdered, afterOrdered, highAfter⟩ := List.pairwise_append.mp rightOrdered
      have afterLast : ∀ item ∈ after, comes last item :=
        fun item member => stayLast item (List.mem_reverse.mpr member)
      have highLast : ∀ item ∈ high, comes item last :=
        fun item member => leaveLast item (List.mem_reverse.mpr member)
      have between {merged : List α} (ordered : merged.Pairwise comes)
          (within : merged.Perm (lower ++ [last] ++ high)) :
          (before ++ merged ++ after).Pairwise comes := by
        refine pairwise_between (leave last lastMember) beforeOrdered ordered afterOrdered stay
          afterLast (fun item member found foundMember => ?_)
          fun found foundMember item member => ?_
        · rcases List.mem_append.mp (within.subset foundMember) with inLow | inHigh
          · exact beforeLow item member found inLow
          · exact beforeRight item member found (List.mem_append_left _ inHigh)
        · rcases List.mem_append.mp (within.subset foundMember) with inLow | inHigh
          · exact Merging.comes_of_last (afterLast item member) lowOrdered found inLow
          · exact highAfter found inHigh item member
      rcases high with _ | ⟨front, others⟩
      · exact ⟨patience, before ++ (lower ++ [last]) ++ after, rfl, between lowOrdered (by simp)⟩
      obtain ⟨rfl, -⟩ := List.cons.inj rightWhole
      have decidesBetween := decides.mono (List.subset_append_right before (lower ++ [last]))
        (List.subset_append_left (front :: others) after)
      rw [List.isEmpty_cons]
      simp only [Bool.false_eq_true, if_false]
      split
      · obtain ⟨later, merged, blended, ordered, perm⟩ := blend_sound false patience lowOrdered
          highOrdered decidesBetween leave (by simpa using highLast)
        rw [blended]
        exact ⟨later, before ++ merged ++ after, rfl, between ordered perm⟩
      · obtain ⟨later, merged, blended, ordered, perm⟩ :=
          blend_reverse_sound patience lowOrdered highOrdered decidesBetween leave highLast
        rw [blended]
        exact ⟨later, before ++ merged.reverse ++ after, rfl, between ordered perm⟩

end Merges

end RecordQuery.Records
