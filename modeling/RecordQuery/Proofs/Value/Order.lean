import Mathlib.Data.String.Basic
import RecordQuery.Proofs.Value.Interchange

/-!
# The order of values

`Value.less?` orders two values if they are texts, points of the extended line, dates, times with or
without an offset, or sequences of one kind whose first unequal items it orders. `Value.Ranked`
lists these ways. Between values without not-a-number, all times of which are shown once by the
clocks of their zones, the order is total where it is defined, and it is transitive wherever it
orders the ends.
-/

namespace RecordQuery

namespace Extended

theorem less_eq_not_less {left right : Extended} (different : left ≠ right) :
    right.less left = !left.less right := by
  cases left <;> cases right <;> simp_all [less]
  grind

theorem less_trans {left middle right : Extended} (one : left.less middle = true)
    (other : middle.less right = true) : left.less right = true := by
  cases left <;> cases middle <;> cases right <;> simp_all [less]
  exact lt_trans one other

end Extended

namespace Value

/-- Neither a set nor a pattern nor not-a-number. -/
def isOrdinary : Value → Bool
  | .set _ | .pattern _ _ | .float (.nan _) => false
  | _ => true

/-- Values that hold no set, no pattern and no not-a-number at any depth, and each key of a mapping
once. -/
inductive Ordinary : Value → Prop where
  | whole {value : Value} : value.isOrdinary = true → value.Distinct →
      (∀ part ∈ value.parts, Ordinary part) → Ordinary value

namespace Ordinary

variable {value : Value}

theorem isOrdinary (ordinary : value.Ordinary) : value.isOrdinary = true := by
  cases ordinary with
  | whole kind _ _ => exact kind

theorem part {part : Value} (ordinary : value.Ordinary) (member : part ∈ value.parts) :
    part.Ordinary := by
  cases ordinary with
  | whole _ _ parts => exact parts part member

theorem proper (ordinary : value.Ordinary) : value.Proper := by
  induction ordinary with
  | whole _ distinct _ inductionHypothesis => exact .whole distinct inductionHypothesis

/-- A value without parts is ordinary if its kind is. -/
theorem simple (kind : value.isOrdinary = true) (single : value.parts = []) : value.Ordinary := by
  refine .whole kind ?_ (by simp [single])
  cases value with
  | mapping entries =>
      obtain rfl := List.map_eq_nil_iff.mp (List.append_eq_nil_iff.mp single).1
      exact .nil
  | set => contradiction
  | _ => trivial

theorem list {items : List Value} (ordinary : ∀ item ∈ items, item.Ordinary) :
    (Value.list items).Ordinary :=
  .whole rfl trivial ordinary

theorem isNan (ordinary : value.Ordinary) : value.isNan = false := by
  have kind := ordinary.isOrdinary
  cases value with
  | float real => cases real <;> first | rfl | contradiction
  | _ => rfl

theorem interchanges {left right : Value} (leftOrdinary : left.Ordinary)
    (rightOrdinary : right.Ordinary) (same : left.same right = true) : left.Interchanges right :=
  .of_proper leftOrdinary.proper rightOrdinary.proper same

theorem same_comm {left right : Value} (leftOrdinary : left.Ordinary)
    (rightOrdinary : right.Ordinary) : left.same right = right.same left :=
  Bool.eq_iff_iff.mpr ⟨same_symm leftOrdinary.proper rightOrdinary.proper,
    same_symm rightOrdinary.proper leftOrdinary.proper⟩

theorem equal_eq_same {left right : Value} (ordinary : left.Ordinary) :
    left.equal right = left.same right := by
  rw [equal, ordinary.isNan]
  rfl

end Ordinary

/-- The clocks show each time in a value, at any depth, exactly once. -/
def Settled (value : Value) : Prop := value.EveryTime fun time => time.isSettled = true

namespace Settled

theorem simple {value : Value} (timeless : ∀ time, value ≠ .datetime time)
    (single : value.parts = []) : value.Settled :=
  .whole (fun time same => absurd same (timeless time)) (by simp [single])

theorem list {items : List Value} (settled : ∀ item ∈ items, item.Settled) :
    (Value.list items).Settled := .whole nofun settled

end Settled

/-- Ordinary values with settled times. -/
structure Orderly (value : Value) : Prop where
  ordinary : value.Ordinary
  settled : value.Settled

namespace Orderly

theorem part {value part : Value} (orderly : value.Orderly) (member : part ∈ value.parts) :
    part.Orderly :=
  ⟨orderly.ordinary.part member, orderly.settled.part member⟩

theorem isOrdinary {value : Value} (orderly : value.Orderly) : value.isOrdinary = true :=
  orderly.ordinary.isOrdinary

theorem same_comm {left right : Value} (leftOrderly : left.Orderly) (rightOrderly : right.Orderly) :
    left.same right = right.same left :=
  leftOrderly.ordinary.same_comm rightOrderly.ordinary

theorem abreast {left right : Value} (leftOrderly : left.Orderly) (rightOrderly : right.Orderly)
    (same : left.same right = true) : Abreast (fun time => time.isSettled = true) left right := by
  induction left using Value.induct generalizing right with
  | whole left inductionHypothesis =>
      refine .whole (leftOrderly.ordinary.interchanges rightOrderly.ordinary same) ?_ ?_
      · rintro time twin rfl rfl
        rw [Value.same] at same
        exact DateTime.inStep_of_settled same leftOrderly.settled.time rightOrderly.settled.time
      · intro lefts rights leftHeld rightHeld paired pair member
        obtain ⟨leftMember, rightMember⟩ := List.of_mem_zip member
        have leftPart := mem_parts leftHeld leftMember
        have rightPart := mem_parts rightHeld rightMember
        exact inductionHypothesis pair.1 leftPart (leftOrderly.part leftPart)
          (rightOrderly.part rightPart) ((List.forall₂_iff_zip.mp paired).2 member).forth

end Orderly

/-- The ways in which two values are ordered, with whether the left one comes first. -/
inductive Ranked : Value → Value → Bool → Prop where
  | texts (left right : String) : Ranked (.text left) (.text right) (decide (left < right))
  | points {left right : Value} {first second : Extended} :
      left.point? = some first → right.point? = some second →
      Ranked left right (first.less second)
  | lists {lefts rights : List Value} {below : Bool} :
      lessItems? lefts rights = some below → Ranked (.list lefts) (.list rights) below
  | tuples {lefts rights : List Value} {below : Bool} :
      lessItems? lefts rights = some below → Ranked (.tuple lefts) (.tuple rights) below
  | dates (left right : Date) :
      Ranked (.date left) (.date right) (decide (left.number < right.number))
  | datetimes {left right : DateTime} : left.comparable right = true →
      Ranked (.datetime left) (.datetime right) (left.isBefore right)

theorem exists_point {value : Value} (ordinary : value.isOrdinary = true)
    (numeric : value.isNumeric = true) : ∃ point, value.point? = some point := by
  cases value with
  | float real =>
      rcases real with _ | (_ | _) | ⟨_, _, _, _⟩
      · contradiction
      all_goals exact ⟨_, rfl⟩
  | bool | int => exact ⟨_, rfl⟩
  | _ => contradiction

theorem Ranked.of_less? {left right : Value} {below : Bool} (leftOrdinary : left.isOrdinary = true)
    (rightOrdinary : right.isOrdinary = true) (given : left.less? right = some below) :
    Ranked left right below := by
  rw [less?.eq_def] at given
  split at given
  · obtain rfl := Option.some.inj given
    exact .texts _ _
  · exact .lists given
  · exact .tuples given
  · contradiction
  · obtain rfl := Option.some.inj given
    exact .dates _ _
  · split at given
    · obtain rfl := Option.some.inj given
      exact .datetimes ‹_›
    · contradiction
  · split at given
    · rename_i numeric
      obtain ⟨leftNumeric, rightNumeric⟩ := Bool.and_eq_true_iff.mp numeric
      obtain ⟨first, one⟩ := exists_point leftOrdinary leftNumeric
      obtain ⟨second, other⟩ := exists_point rightOrdinary rightNumeric
      rw [one, other] at given
      obtain rfl := Option.some.inj given
      exact .points one other
    · contradiction

theorem Ranked.less? {left right : Value} {below : Bool} (ranked : Ranked left right below) :
    left.less? right = some below := by
  cases ranked with
  | points one other => simp [less?_of_point other, isNumeric_of_point one, one]
  | lists items | tuples items => rwa [Value.less?]
  | datetimes kinds => rw [Value.less?, if_pos kinds]
  | _ => rfl

/-- The first unequal items of two lists in the other order. -/
theorem lessItems?_swap {lefts rights : List Value} {below : Bool}
    (symmetric : ∀ left ∈ lefts, ∀ right ∈ rights, left.same right = right.same left)
    (swapped : ∀ left ∈ lefts, ∀ right ∈ rights, ∀ below, left.same right = false →
      left.less? right = some below → right.less? left = some !below)
    (apart : sameItems lefts rights = false) (given : lessItems? lefts rights = some below) :
    lessItems? rights lefts = some !below := by
  induction lefts generalizing rights with
  | nil =>
      cases rights with
      | nil => simp [sameItems] at apart
      | cons right rights =>
          obtain rfl := Option.some.inj given
          rfl
  | cons left lefts inductionHypothesis =>
      cases rights with
      | nil =>
          obtain rfl := Option.some.inj given
          rfl
      | cons right rights =>
          rw [lessItems?] at given ⊢
          rw [← symmetric left List.mem_cons_self right List.mem_cons_self]
          by_cases same : left.same right = true
          · rw [if_pos same] at given ⊢
            refine inductionHypothesis ?_ ?_ ?_ given
            · exact fun item member other otherMember => symmetric item
                (List.mem_cons_of_mem _ member) other (List.mem_cons_of_mem _ otherMember)
            · exact fun item member other otherMember => swapped item
                (List.mem_cons_of_mem _ member) other (List.mem_cons_of_mem _ otherMember)
            · simpa [sameItems, same] using apart
          · rw [if_neg same] at given ⊢
            exact swapped left List.mem_cons_self right List.mem_cons_self below
              (by simpa using same) given

/-- Of two different values that are ordered exactly one comes first. -/
theorem less?_swap {left right : Value} {below : Bool} (leftOrderly : left.Orderly)
    (rightOrderly : right.Orderly) (apart : left.same right = false)
    (given : left.less? right = some below) : right.less? left = some !below := by
  induction left using Value.induct generalizing right below with
  | whole left inductionHypothesis =>
      have items {lefts rights : List Value} (within : lefts ⊆ left.parts)
          (withinRight : rights ⊆ right.parts) (different : sameItems lefts rights = false)
          (compared : lessItems? lefts rights = some below) :
          lessItems? rights lefts = some !below := by
        refine lessItems?_swap ?_ ?_ different compared
        · exact fun item member other otherMember =>
            (leftOrderly.part (within member)).same_comm
              (rightOrderly.part (withinRight otherMember))
        · exact fun item member other otherMember below =>
            inductionHypothesis item (within member) (leftOrderly.part (within member))
              (rightOrderly.part (withinRight otherMember))
      cases Ranked.of_less? leftOrderly.isOrdinary rightOrderly.isOrdinary given with
      | texts left right =>
          have different : left ≠ right := by simpa [same] using apart
          rw [less?, Option.some.injEq, ← decide_not, decide_eq_decide, not_lt]
          exact ⟨le_of_lt, fun least => lt_of_le_of_ne least different.symm⟩
      | points one other =>
          refine (Ranked.points other one).less?.trans (congrArg some ?_)
          refine Extended.less_eq_not_less fun equal => ?_
          rw [same_of_points one (equal ▸ other)] at apart
          contradiction
      | lists compared =>
          rw [same] at apart
          rw [less?]
          exact items (List.Subset.refl _) (List.Subset.refl _) apart compared
      | tuples compared =>
          rw [same] at apart
          rw [less?]
          exact items (List.Subset.refl _) (List.Subset.refl _) apart compared
      | dates left right =>
          have different : left.number ≠ right.number := by simpa [same] using apart
          rw [less?, Option.some.injEq, ← decide_not, decide_eq_decide]
          omega
      | @datetimes left right kinds =>
          rw [same] at apart
          rw [less?, if_pos (DateTime.comparable_comm.trans kinds),
            DateTime.isBefore_swap leftOrderly.settled.time rightOrderly.settled.time kinds apart]

/-- Two different values are ordered if they are in the other order. -/
theorem less?_eq_none_comm {left right : Value} (leftOrderly : left.Orderly)
    (rightOrderly : right.Orderly) (apart : left.same right = false)
    (given : left.less? right = none) : right.less? left = none := by
  cases turned : right.less? left with
  | none => rfl
  | some below =>
      have back := less?_swap rightOrderly leftOrderly
        ((rightOrderly.same_comm leftOrderly).trans apart) turned
      rw [back] at given
      contradiction

theorem lessItems?_trans {lefts middles rights : List Value} {below : Bool}
    (leftOrderly : ∀ left ∈ lefts, left.Orderly)
    (middleOrderly : ∀ middle ∈ middles, middle.Orderly)
    (rightOrderly : ∀ right ∈ rights, right.Orderly)
    (through : ∀ left ∈ lefts, ∀ middle right below, middle.Orderly → right.Orderly →
      left.less? middle = some true → middle.less? right = some true →
      left.less? right = some below → below = true)
    (one : lessItems? lefts middles = some true) (other : lessItems? middles rights = some true)
    (given : lessItems? lefts rights = some below) : below = true := by
  induction lefts generalizing middles rights with
  | nil =>
      cases rights with
      | nil => cases middles <;> simp [lessItems?] at other
      | cons right rights => exact (Option.some.inj given).symm
  | cons left lefts inductionHypothesis =>
      cases middles with
      | nil => simp [lessItems?] at one
      | cons middle middles =>
          cases rights with
          | nil => simp [lessItems?] at other
          | cons right rights =>
              obtain ⟨leftHead, leftTail⟩ := List.forall_mem_cons.mp leftOrderly
              obtain ⟨middleHead, middleTail⟩ := List.forall_mem_cons.mp middleOrderly
              obtain ⟨rightHead, rightTail⟩ := List.forall_mem_cons.mp rightOrderly
              obtain ⟨throughHead, throughTail⟩ := List.forall_mem_cons.mp through
              rw [lessItems?] at one other given
              by_cases first : left.same middle = true
              · have both := leftHead.abreast middleHead first
                rw [if_pos first] at one
                rw [same_congr_left both.interchanges,
                  less?_congr_left both rightHead.settled] at given
                by_cases second : middle.same right = true
                · rw [if_pos second] at other given
                  exact inductionHypothesis leftTail middleTail rightTail throughTail one other
                    given
                · rw [if_neg second] at other given
                  exact (Option.some.inj (other.symm.trans given)).symm
              · rw [if_neg first] at one
                by_cases second : middle.same right = true
                · have both := middleHead.abreast rightHead second
                  rw [← same_congr_right both.interchanges, if_neg first,
                    ← less?_congr_right both leftHead.settled, one] at given
                  exact (Option.some.inj given).symm
                · rw [if_neg second] at other
                  by_cases ends : left.same right = true
                  · have both := leftHead.abreast rightHead ends
                    have back := less?_swap leftHead middleHead (by simpa using first) one
                    rw [← less?_congr_right both middleHead.settled, back] at other
                    contradiction
                  · rw [if_neg ends] at given
                    exact throughHead middle right below middleHead rightHead one other given

/-- If a value comes before another one and that before a third, and the order compares the ends,
then the first one comes before the third. -/
theorem less?_trans {left middle right : Value} {below : Bool} (leftOrderly : left.Orderly)
    (middleOrderly : middle.Orderly) (rightOrderly : right.Orderly)
    (one : left.less? middle = some true) (other : middle.less? right = some true)
    (given : left.less? right = some below) : below = true := by
  induction left using Value.induct generalizing middle right below with
  | whole left inductionHypothesis =>
      have items {lefts middles rights : List Value} (within : lefts ⊆ left.parts)
          (withinMiddle : middles ⊆ middle.parts) (withinRight : rights ⊆ right.parts)
          (one : lessItems? lefts middles = some true)
          (other : lessItems? middles rights = some true)
          (given : lessItems? lefts rights = some below) : below = true :=
        lessItems?_trans (fun item member => leftOrderly.part (within member))
          (fun item member => middleOrderly.part (withinMiddle member))
          (fun item member => rightOrderly.part (withinRight member))
          (fun item member _ _ _ orderly last => inductionHypothesis item (within member)
            (leftOrderly.part (within member)) orderly last) one other given
      have ends := Ranked.of_less? leftOrderly.isOrdinary rightOrderly.isOrdinary given
      obtain ⟨firstBelow, firstHolds, first⟩ : ∃ below, below = true ∧ Ranked left middle below :=
        ⟨true, rfl, .of_less? leftOrderly.isOrdinary middleOrderly.isOrdinary one⟩
      obtain ⟨secondBelow, secondHolds, second⟩ : ∃ below, below = true ∧
          Ranked middle right below :=
        ⟨true, rfl, .of_less? middleOrderly.isOrdinary rightOrderly.isOrdinary other⟩
      cases first with
      | texts =>
          cases second with
          | points point _ => contradiction
          | texts =>
              cases ends with
              | points point _ => contradiction
              | texts =>
                  rw [decide_eq_true_iff] at firstHolds secondHolds
                  exact decide_eq_true (lt_trans firstHolds secondHolds)
      | points leftPoint middlePoint =>
          cases second with
          | points again rightPoint =>
              obtain rfl := Option.some.inj (middlePoint.symm.trans again)
              cases ends with
              | points leftAgain rightAgain =>
                  obtain rfl := Option.some.inj (leftPoint.symm.trans leftAgain)
                  obtain rfl := Option.some.inj (rightPoint.symm.trans rightAgain)
                  exact Extended.less_trans firstHolds secondHolds
              | _ => contradiction
          | _ => contradiction
      | lists compared =>
          cases second with
          | points point _ => contradiction
          | lists next =>
              cases ends with
              | points point _ => contradiction
              | lists last =>
                  subst firstHolds secondHolds
                  exact items (List.Subset.refl _) (List.Subset.refl _) (List.Subset.refl _)
                    compared next last
      | tuples compared =>
          cases second with
          | points point _ => contradiction
          | tuples next =>
              cases ends with
              | points point _ => contradiction
              | tuples last =>
                  subst firstHolds secondHolds
                  exact items (List.Subset.refl _) (List.Subset.refl _) (List.Subset.refl _)
                    compared next last
      | dates =>
          cases second with
          | points point _ => contradiction
          | dates =>
              cases ends with
              | points point _ => contradiction
              | dates =>
                  rw [decide_eq_true_iff] at firstHolds secondHolds
                  exact decide_eq_true (lt_trans firstHolds secondHolds)
      | datetimes =>
          cases second with
          | points point _ => contradiction
          | datetimes =>
              cases ends with
              | points point _ => contradiction
              | datetimes =>
                  exact DateTime.isBefore_trans leftOrderly.settled.time middleOrderly.settled.time
                    rightOrderly.settled.time firstHolds secondHolds

end Value

end RecordQuery
