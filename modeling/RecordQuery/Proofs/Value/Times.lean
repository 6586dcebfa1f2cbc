import RecordQuery.Calendar

/-!
# Times of zones

A zone maps the times that its clock shows once to instants, and it keeps their order: the changes
of its offset are too far from each other to hit one time twice. So a comparison by the clock of a
zone and one by instants agree for such times. Equality of times is an equivalence for all of them.
-/

namespace RecordQuery

namespace Zone

variable {previous current moment : Int} {changes : List (Int × Int)} {clock later : Int}

theorem Spaced.tail {next : Int} (spaced : Spaced current ((moment, next) :: changes)) :
    Spaced next changes := by
  cases changes with
  | nil => trivial
  | cons change rest => exact spaced.2

theorem offsetFrom_first {next : Int} : offsetFrom current ((moment, next) :: changes) clock false =
    if clock < 1000000 * (moment + max current next) then current
    else offsetFrom next changes clock false := rfl

theorem offsetFrom_again {next : Int} : offsetFrom current ((moment, next) :: changes) clock true =
    if clock < 1000000 * (moment + min current next) then current
    else offsetFrom next changes clock true := rfl

/-- What the clock shows after a change belongs to an instant after it, whatever changes follow. -/
theorem moment_le (spaced : Spaced previous ((moment, current) :: changes))
    (reached : 1000000 * (moment + current) ≤ clock) :
    1000000 * moment ≤ clock - 1000000 * offsetFrom current changes clock false := by
  induction changes generalizing previous moment current with
  | nil =>
      rw [offsetFrom]
      omega
  | cons change rest inductionHypothesis =>
      obtain ⟨apart, further⟩ := spaced
      rw [offsetFrom_first]
      split
      · omega
      · have onward := inductionHypothesis further (by omega)
        omega

theorem offsetFrom_of_lt (spaced : Spaced previous ((moment, current) :: changes))
    (below : clock < 1000000 * (moment + max previous current)) :
    offsetFrom current changes clock true = current := by
  cases changes with
  | nil => rfl
  | cons change rest =>
      obtain ⟨apart, -⟩ := spaced
      rw [offsetFrom_again, if_pos (by omega)]

/-- A time that the clock shows once lies before or after what a change skips or repeats. -/
theorem settled_cases {next : Int} (spaced : Spaced current ((moment, next) :: changes))
    (settled : offsetFrom current ((moment, next) :: changes) clock false =
      offsetFrom current ((moment, next) :: changes) clock true) :
    clock < 1000000 * (moment + min current next) ∨
      1000000 * (moment + max current next) ≤ clock := by
  rw [offsetFrom_first, offsetFrom_again] at settled
  by_cases early : clock < 1000000 * (moment + min current next)
  · exact .inl early
  · refine .inr (Int.not_lt.mp fun below => ?_)
    rw [if_pos below, if_neg early, offsetFrom_of_lt spaced below] at settled
    omega

/-- Later times that the clock shows once belong to later instants. -/
theorem instant_lt (spaced : Spaced current changes)
    (settled : offsetFrom current changes clock false = offsetFrom current changes clock true)
    (settledLater : offsetFrom current changes later false = offsetFrom current changes later true)
    (before : clock < later) :
    clock - 1000000 * offsetFrom current changes clock false <
      later - 1000000 * offsetFrom current changes later false := by
  induction changes generalizing current with
  | nil =>
      rw [offsetFrom, offsetFrom]
      omega
  | cons change rest inductionHypothesis =>
      rcases change with ⟨moment, next⟩
      have early {time : Int} (below : time < 1000000 * (moment + min current next))
          (repeated : Bool) :
          offsetFrom current ((moment, next) :: rest) time repeated = current :=
        if_pos (by cases repeated <;> simp only [if_true, Bool.false_eq_true, if_false] <;> omega)
      have late {time : Int} (reached : 1000000 * (moment + max current next) ≤ time)
          (repeated : Bool) :
          offsetFrom current ((moment, next) :: rest) time repeated =
            offsetFrom next rest time repeated :=
        if_neg (by cases repeated <;> simp only [if_true, Bool.false_eq_true, if_false] <;> omega)
      rcases settled_cases spaced settled with first | first <;>
        rcases settled_cases spaced settledLater with second | second
      · rw [early first, early second]
        omega
      · have onward : 1000000 * moment ≤ later - 1000000 * offsetFrom next rest later false :=
          moment_le spaced (by omega)
        rw [early first, late second]
        omega
      · omega
      · rw [late first, late second]
        rw [late first, late first] at settled
        rw [late second, late second] at settledLater
        exact inductionHypothesis spaced.tail settled settledLater

end Zone

namespace DateTime

variable {left middle right other : DateTime}

theorem sharesZone_iff :
    left.sharesZone right = true ↔ ∃ zone, left.zone? = some zone ∧ right.zone? = some zone := by
  rw [sharesZone, Bool.and_eq_true, beq_iff_eq, Option.isSome_iff_exists]
  constructor
  · rintro ⟨⟨zone, held⟩, same⟩
    exact ⟨zone, held, same ▸ held⟩
  · rintro ⟨zone, held, again⟩
    exact ⟨⟨zone, held⟩, held.trans again.symm⟩

theorem sharesZone_comm : left.sharesZone right = right.sharesZone left := by
  rw [Bool.eq_iff_iff, sharesZone_iff, sharesZone_iff]
  exact exists_congr fun zone => and_comm

theorem comparable_trans (one : left.comparable middle = true)
    (other : middle.comparable right = true) : left.comparable right = true := by
  rw [comparable, beq_iff_eq] at one other ⊢
  exact one.trans other

theorem comparable_comm : left.comparable right = right.comparable left := by
  rw [comparable, comparable, Bool.beq_comm]

theorem currentOffset?_of_settled (settled : left.isSettled = true) (repeated : Bool) :
    left.currentOffset? = left.offsetAs? repeated := by
  have both : left.offsetAs? false = left.offsetAs? true := eq_of_beq settled
  rw [currentOffset?]
  cases left.repeated <;> cases repeated <;> simp [both]

section Shared

variable (shared : left.sharesZone right = true)

include shared

theorem offsetAs?_of_shared (clocks : left.clock = right.clock) (repeated : Bool) :
    left.offsetAs? repeated = right.offsetAs? repeated := by
  obtain ⟨zone, held, again⟩ := sharesZone_iff.mp shared
  rw [offsetAs?, offsetAs?, held, again, clocks]

theorem isSettled_of_shared (clocks : left.clock = right.clock) :
    left.isSettled = right.isSettled := by
  rw [isSettled, isSettled, offsetAs?_of_shared shared clocks, offsetAs?_of_shared shared clocks]

variable (settled : left.isSettled = true) (settledRight : right.isSettled = true)

include settled settledRight

theorem instant_of_shared (clocks : left.clock = right.clock) : left.instant = right.instant := by
  rw [instant, instant, currentOffset?_of_settled settled false,
    currentOffset?_of_settled settledRight false, offsetAs?_of_shared shared clocks, clocks]

theorem instant_lt_of_shared (before : left.clock < right.clock) :
    left.instant < right.instant := by
  obtain ⟨zone, held, again⟩ := sharesZone_iff.mp shared
  rw [instant, instant, currentOffset?_of_settled settled false,
    currentOffset?_of_settled settledRight false]
  simp only [isSettled, offsetAs?, held, again, beq_iff_eq, Option.some.injEq]
    at settled settledRight
  simp only [offsetAs?, held, again, Option.getD_some]
  exact Zone.instant_lt zone.spaced settled settledRight before

end Shared

/-- Times that their clocks show once are compared by their instants, also within one zone. -/
theorem isBefore_of_settled (settled : left.isSettled = true)
    (settledRight : right.isSettled = true) :
    left.isBefore right = decide (left.instant < right.instant) := by
  rw [isBefore]
  split
  · rename_i shared
    rw [decide_eq_decide]
    refine ⟨instant_lt_of_shared shared settled settledRight, fun before => ?_⟩
    rcases Int.lt_trichotomy left.clock right.clock with below | same | above
    · exact below
    · exact absurd (instant_of_shared shared settled settledRight same) (by omega)
    · have back := instant_lt_of_shared (sharesZone_comm.trans shared) settledRight settled above
      omega
  · rfl

theorem same_of_settled (settled : left.isSettled = true) (settledRight : right.isSettled = true) :
    left.same right = (left.comparable right && left.instant == right.instant) := by
  rw [same, settled, settledRight, Bool.true_and, Bool.true_and]
  split
  · rename_i shared
    refine congrArg _ (Bool.eq_iff_iff.mpr ?_)
    rw [beq_iff_eq, beq_iff_eq]
    refine ⟨instant_of_shared shared settled settledRight, fun instants => ?_⟩
    rcases Int.lt_trichotomy left.clock right.clock with below | same | above
    · exact absurd (instant_lt_of_shared shared settled settledRight below) (by omega)
    · exact same
    · have back := instant_lt_of_shared (sharesZone_comm.trans shared) settledRight settled above
      omega
  · rfl

theorem isBefore_trans (settled : left.isSettled = true) (settledMiddle : middle.isSettled = true)
    (settledRight : right.isSettled = true) (one : left.isBefore middle = true)
    (other : middle.isBefore right = true) : left.isBefore right = true := by
  rw [isBefore_of_settled settled settledMiddle, decide_eq_true_iff] at one
  rw [isBefore_of_settled settledMiddle settledRight, decide_eq_true_iff] at other
  rw [isBefore_of_settled settled settledRight]
  exact decide_eq_true (Int.lt_trans one other)

/-- Of two different times that are shown once exactly one comes first. -/
theorem isBefore_swap (settled : left.isSettled = true) (settledRight : right.isSettled = true)
    (kinds : left.comparable right = true) (apart : left.same right = false) :
    right.isBefore left = !left.isBefore right := by
  have different : left.instant ≠ right.instant := by
    rw [same_of_settled settled settledRight, kinds, Bool.true_and, beq_eq_false_iff_ne] at apart
    exact apart
  rw [isBefore_of_settled settled settledRight, isBefore_of_settled settledRight settled,
    ← decide_not, decide_eq_decide]
  omega

theorem same_cases (given : left.same right = true) :
    left.comparable right = true ∧
      (left.sharesZone right = true ∧ left.clock = right.clock ∨
        left.isSettled = true ∧ right.isSettled = true ∧ left.instant = right.instant) := by
  rw [same, Bool.and_eq_true] at given
  obtain ⟨kinds, given⟩ := given
  refine ⟨kinds, ?_⟩
  split at given
  · exact .inl ⟨‹_›, eq_of_beq given⟩
  · simp only [Bool.and_eq_true, beq_iff_eq] at given
    exact .inr ⟨given.1.1, given.1.2, given.2⟩

theorem same_of_shared (kinds : left.comparable right = true)
    (shared : left.sharesZone right = true) (clocks : left.clock = right.clock) :
    left.same right = true := by
  simp [same, kinds, shared, clocks]

theorem same_of_instants (kinds : left.comparable right = true) (settled : left.isSettled = true)
    (settledRight : right.isSettled = true) (instants : left.instant = right.instant) :
    left.same right = true := by
  rw [same_of_settled settled settledRight, kinds, instants, beq_self_eq_true]
  rfl

theorem same_refl (time : DateTime) : time.same time = true := by
  have kinds : time.comparable time = true := beq_self_eq_true _
  cases zoned : time.zone? with
  | some zone => exact same_of_shared kinds (sharesZone_iff.mpr ⟨zone, zoned, zoned⟩) rfl
  | none =>
      have settled : time.isSettled = true := by simp [isSettled, offsetAs?, zoned]
      exact same_of_instants kinds settled settled rfl

theorem same_symm (given : left.same right = true) : right.same left = true := by
  obtain ⟨kinds, ⟨shared, clocks⟩ | ⟨settled, settledRight, instants⟩⟩ := same_cases given
  · exact same_of_shared (comparable_comm.trans kinds) (sharesZone_comm.trans shared) clocks.symm
  · exact same_of_instants (comparable_comm.trans kinds) settledRight settled instants.symm

theorem same_trans (one : left.same middle = true) (other : middle.same right = true) :
    left.same right = true := by
  obtain ⟨kinds, first⟩ := same_cases one
  obtain ⟨moreKinds, second⟩ := same_cases other
  have kinds := comparable_trans kinds moreKinds
  rcases first with ⟨shared, clocks⟩ | ⟨settled, settledMiddle, instants⟩ <;>
    rcases second with ⟨next, moreClocks⟩ | ⟨settledAgain, settledRight, moreInstants⟩
  · obtain ⟨zone, held, again⟩ := sharesZone_iff.mp shared
    obtain ⟨_, more, last⟩ := sharesZone_iff.mp next
    obtain rfl := Option.some.inj (again.symm.trans more)
    exact same_of_shared kinds (sharesZone_iff.mpr ⟨_, held, last⟩) (clocks.trans moreClocks)
  · have settled := (isSettled_of_shared shared clocks).trans settledAgain
    exact same_of_instants kinds settled settledRight
      ((instant_of_shared shared settled settledAgain clocks).trans moreInstants)
  · have settledRight := (isSettled_of_shared next moreClocks).symm.trans settledMiddle
    exact same_of_instants kinds settled settledRight
      (instants.trans (instant_of_shared next settledMiddle settledRight moreClocks))
  · exact same_of_instants kinds settled settledRight (instants.trans moreInstants)

theorem comparable_congr_right (given : left.same right = true) :
    other.comparable left = other.comparable right := by
  obtain ⟨kinds, -⟩ := same_cases given
  rw [comparable, comparable, eq_of_beq kinds]

theorem comparable_congr_left (given : left.same right = true) :
    left.comparable other = right.comparable other := by
  rw [comparable_comm, comparable_congr_right given, comparable_comm]

/-- The two times are on the same side of each time that has a property. -/
def InStep (time twin : DateTime) (beside : DateTime → Prop) : Prop :=
  ∀ other, beside other →
    other.isBefore time = other.isBefore twin ∧ time.isBefore other = twin.isBefore other

/-- Times that are the same and shown once are in step beside times that are shown once. -/
theorem inStep_of_settled (given : left.same right = true) (settled : left.isSettled = true)
    (settledRight : right.isSettled = true) :
    left.InStep right fun other => other.isSettled = true := by
  intro other settledOther
  have instants : left.instant = right.instant := by
    rw [same_of_settled settled settledRight, Bool.and_eq_true, beq_iff_eq] at given
    exact given.2
  rw [isBefore_of_settled settledOther settled, isBefore_of_settled settledOther settledRight,
    isBefore_of_settled settled settledOther, isBefore_of_settled settledRight settledOther,
    instants]
  exact ⟨rfl, rfl⟩

/-- Times of one zone that are meant the same time round, or of no zone that changes its offset. -/
def Aligned (left right : DateTime) : Prop :=
  left.zone? = right.zone? ∧ (left.zone? = none ∨ left.repeated = right.repeated)

theorem inStep_of_aligned (given : left.same right = true) (aligned : left.Aligned right) :
    left.InStep right fun _ => True := by
  intro other _
  obtain ⟨zones, turns⟩ := aligned
  rw [same, Bool.and_eq_true] at given
  have beside : other.sharesZone right = other.sharesZone left := by
    rw [sharesZone, sharesZone, zones]
  simp only [isBefore, beside, @sharesZone_comm _ other]
  cases shared : left.sharesZone right with
  | true =>
      have clocks : left.clock = right.clock := by simpa [shared] using given.2
      have again : left.repeated = right.repeated := by
        obtain ⟨zone, held, -⟩ := sharesZone_iff.mp shared
        exact turns.resolve_left (by simp [held])
      have instants : left.instant = right.instant := by
        rw [instant, instant, currentOffset?, currentOffset?, offsetAs?_of_shared shared clocks,
          again, clocks]
      rw [clocks, instants]
      exact ⟨rfl, rfl⟩
  | false =>
      have instants : left.instant = right.instant := by
        simp only [shared, Bool.false_eq_true, if_false, Bool.and_eq_true, beq_iff_eq] at given
        exact given.2.2
      have zoneless : left.zone? = none := by
        rw [sharesZone, ← zones, beq_self_eq_true, Bool.and_true] at shared
        simpa using shared
      have apart : other.sharesZone left = false := by simp [sharesZone, zoneless]
      rw [apart, instants]
      exact ⟨rfl, rfl⟩

end DateTime

end RecordQuery
