import Mathlib.Algebra.Order.Field.Rat
import RecordQuery.Matching.Reached
import RecordQuery.Proofs.Value.Sameness

/-!
# Interchange of values

Values that are the same in both directions cannot be told apart by the sameness with a third value.
Nor can they be by their order with it, or with what a path leads to, if they are also abreast:
times in corresponding places are on the same side of other times.
-/

namespace RecordQuery

theorem Binary64.scale_ne_zero (exponent : Int) : scale exponent ≠ 0 := by
  rw [scale]
  split
  · exact_mod_cast (Nat.two_pow_pos _).ne'
  · have power : Nat.pow 2 (-exponent).toNat ≠ 0 := (Nat.two_pow_pos _).ne'
    rw [ne_eq, Rat.mkRat_eq_zero power]
    decide

namespace Value

/-- Sameness in both directions, as proper values have it. -/
structure Interchanges (left right : Value) : Prop where
  forth : left.same right = true
  back : right.same left = true

namespace Interchanges

theorem of_proper {left right : Value} (leftProper : left.Proper) (rightProper : right.Proper)
    (same : left.same right = true) : left.Interchanges right :=
  ⟨same, same_symm leftProper rightProper same⟩

theorem refl (value : Value) : value.Interchanges value := ⟨same_refl value, same_refl value⟩

theorem symm {left right : Value} (both : left.Interchanges right) : right.Interchanges left :=
  ⟨both.back, both.forth⟩

theorem items {lefts rights : List Value} (forth : sameItems lefts rights = true)
    (back : sameItems rights lefts = true) : List.Forall₂ Interchanges lefts rights := by
  induction lefts generalizing rights with
  | nil =>
      cases rights with
      | nil => exact .nil
      | cons right rights => simp [sameItems] at forth
  | cons left lefts inductionHypothesis =>
      cases rights with
      | nil => simp [sameItems] at forth
      | cons right rights =>
          simp only [sameItems, Bool.and_eq_true] at forth back
          exact .cons ⟨forth.1, back.1⟩ (inductionHypothesis forth.2 back.2)

end Interchanges

/-- The ways in which two values are the same in both directions. -/
inductive Twins : Value → Value → Prop where
  | identical (value : Value) : Twins value value
  | points {left right : Value} {point : Extended} :
      left.point? = some point → right.point? = some point → Twins left right
  | lists {lefts rights : List Value} :
      List.Forall₂ Interchanges lefts rights → Twins (.list lefts) (.list rights)
  | tuples {lefts rights : List Value} :
      List.Forall₂ Interchanges lefts rights → Twins (.tuple lefts) (.tuple rights)
  | sets {lefts rights : List Value} : lefts.length = rights.length →
      allWithin lefts rights = true → allWithin rights lefts = true →
      Twins (.set lefts) (.set rights)
  | mappings {lefts rights : Entries} : lefts.length = rights.length →
      Twins (.mapping lefts) (.mapping rights)
  | dates {left right : Date} : left.number = right.number → Twins (.date left) (.date right)
  | datetimes {left right : DateTime} : left.same right = true →
      Twins (.datetime left) (.datetime right)

variable {left right : Value}

theorem Interchanges.twins (both : left.Interchanges right) : Twins left right := by
  have forth := both.forth
  have back := both.back
  cases Alike.of_same forth with
  | identical => exact .identical _
  | points one other => exact .points one other
  | lists items =>
      rw [same] at forth back
      exact .lists (Interchanges.items forth back)
  | tuples items =>
      rw [same] at forth back
      exact .tuples (Interchanges.items forth back)
  | sets lengths within =>
      simp only [same, Bool.and_eq_true] at forth back
      exact .sets lengths forth.2 back.2
  | mappings lengths within => exact .mappings lengths
  | dates numbers => exact .dates numbers
  | datetimes times => exact .datetimes times

theorem same_congr_right (both : left.Interchanges right) (other : Value) :
    other.same left = other.same right :=
  Bool.eq_iff_iff.mpr
    ⟨fun same => same_trans same both.forth, fun same => same_trans same both.back⟩

theorem same_congr_left (both : left.Interchanges right) (other : Value) :
    left.same other = right.same other :=
  Bool.eq_iff_iff.mpr ⟨same_trans both.back, same_trans both.forth⟩

theorem isNan_congr (both : left.Interchanges right) : left.isNan = right.isNan := by
  have numeric {value : Value} {point : Extended} (found : value.point? = some point) :
      value.isNan = false := by
    cases value with
    | float real => cases real <;> first | rfl | contradiction
    | _ => rfl
  cases both.twins with
  | identical => rfl
  | points one other => rw [numeric one, numeric other]
  | _ => rfl

theorem equal_congr_right (both : left.Interchanges right) (other : Value) :
    other.equal left = other.equal right := by
  rw [equal, equal, same_congr_right both]

theorem equal_congr_left (both : left.Interchanges right) (other : Value) :
    left.equal other = right.equal other := by
  rw [equal, equal, same_congr_left both, isNan_congr both]

theorem text?_congr (both : left.Interchanges right) :
    left.text? = right.text? := by
  have none_of_point {value : Value} {point : Extended} (found : value.point? = some point) :
      value.text? = none := by
    cases value <;> first | rfl | contradiction
  cases both.twins with
  | identical => rfl
  | points one other => rw [none_of_point one, none_of_point other]
  | _ => rfl

theorem items?_of_point {value : Value} {point : Extended} (found : value.point? = some point) :
    value.items? = none := by
  cases value <;> first | rfl | contradiction

theorem entries?_of_point {value : Value} {point : Extended} (found : value.point? = some point) :
    value.entries? = none := by
  cases value <;> first | rfl | contradiction

/-- The items of interchangeable values are interchangeable, if they have any. -/
theorem items?_cases (both : left.Interchanges right) :
    (left.items? = none ∧ right.items? = none) ∨
      ∃ lefts rights, left.items? = some lefts ∧ right.items? = some rights ∧
        List.Forall₂ Interchanges lefts rights := by
  cases both.twins with
  | identical =>
      cases held : left.items? with
      | none => exact .inl ⟨rfl, rfl⟩
      | some items =>
          exact .inr ⟨items, items, rfl, rfl, List.forall₂_same.mpr fun item _ => .refl item⟩
  | points one other => exact .inl ⟨items?_of_point one, items?_of_point other⟩
  | lists paired | tuples paired => exact .inr ⟨_, _, rfl, rfl, paired⟩
  | _ => exact .inl ⟨rfl, rfl⟩

/-- Of two interchangeable values both are mappings or none is. -/
theorem entries?_cases (both : left.Interchanges right) :
    (left.entries? = none ∧ right.entries? = none) ∨
      ∃ lefts rights, left = .mapping lefts ∧ right = .mapping rights := by
  have none_of_point {value : Value} {point : Extended} (found : value.point? = some point) :
      value.entries? = none := by
    cases value <;> first | rfl | contradiction
  cases both.twins with
  | identical =>
      cases left with
      | mapping entries => exact .inr ⟨entries, entries, rfl, rfl⟩
      | _ => exact .inl ⟨rfl, rfl⟩
  | points one other => exact .inl ⟨none_of_point one, none_of_point other⟩
  | mappings lengths => exact .inr ⟨_, _, rfl, rfl⟩
  | _ => exact .inl ⟨rfl, rfl⟩

theorem point?_congr (both : left.Interchanges right) : left.point? = right.point? := by
  cases both.twins with
  | points one other => rw [one, other]
  | _ => rfl

/-- What is interchangeable with a value that has neither items nor entries has none either. -/
theorem plain_congr (both : left.Interchanges right) (items : left.items? = none)
    (entries : left.entries? = none) : right.items? = none ∧ right.entries? = none := by
  cases both.twins with
  | identical => exact ⟨items, entries⟩
  | points one other => cases right <;> first | exact ⟨rfl, rfl⟩ | contradiction
  | lists | tuples | mappings => contradiction
  | _ => exact ⟨rfl, rfl⟩

theorem isTruthy_of_point {value : Value} {point : Extended} (found : value.point? = some point) :
    value.isTruthy = decide (point ≠ .rational 0) := by
  cases value with
  | bool flag =>
      obtain rfl := Option.some.inj found
      cases flag <;> simp [isTruthy]
  | int whole =>
      obtain rfl := Option.some.inj found
      simp [isTruthy, bne, Bool.beq_eq_decide_eq]
  | float real =>
      rcases real with _ | (_ | _) | ⟨negative, significand, exponent, _⟩
      · contradiction
      · obtain rfl := Option.some.inj found
        rfl
      · obtain rfl := Option.some.inj found
        rfl
      · obtain rfl := Option.some.inj found
        have scaled := Binary64.scale_ne_zero exponent
        cases negative <;>
          simp [isTruthy, Binary64.isZero, Binary64.ratio, scaled, Bool.beq_eq_decide_eq]
  | _ => contradiction

theorem isTruthy_congr (both : left.Interchanges right) : left.isTruthy = right.isTruthy := by
  have empty {α : Type} {lefts rights : List α} (lengths : lefts.length = rights.length) :
      lefts.isEmpty = rights.isEmpty := by
    rw [Bool.eq_iff_iff, List.isEmpty_iff_length_eq_zero, List.isEmpty_iff_length_eq_zero, lengths]
  cases both.twins with
  | identical => rfl
  | points one two => rw [isTruthy_of_point one, isTruthy_of_point two]
  | lists paired | tuples paired => simp only [isTruthy, empty paired.length_eq]
  | sets lengths | mappings lengths => simp only [isTruthy, empty lengths]
  | _ => rfl

theorem allWithin_trans {items others last : List Value} (one : allWithin items others = true)
    (two : allWithin others last = true) : allWithin items last = true := by
  rw [allWithin_iff] at one two ⊢
  intro item member
  obtain ⟨other, otherMember, first⟩ := one item member
  obtain ⟨found, foundMember, second⟩ := two other otherMember
  exact ⟨found, foundMember, same_trans first second⟩

theorem isNumeric_of_point {value : Value} {point : Extended} (found : value.point? = some point) :
    value.isNumeric = true := by
  cases value <;> first | rfl | contradiction

/-- The order of a value with a number. -/
theorem less?_of_point {point : Extended} (found : right.point? = some point) :
    left.less? right =
      if left.isNumeric then some ((left.point?.map fun first => first.less point).getD false)
      else none := by
  rw [less?.eq_def]
  split
  case h_7 =>
    simp only [isNumeric_of_point found, Bool.and_true, found]
    split
    · cases left.point? <;> rfl
    · rfl
  all_goals contradiction

/-- The order of a number with a value. -/
theorem less?_of_point_left {point : Extended} (found : left.point? = some point) :
    left.less? right =
      if right.isNumeric then some ((right.point?.map fun second => point.less second).getD false)
      else none := by
  rw [less?.eq_def]
  split
  case h_7 =>
    simp only [isNumeric_of_point found, Bool.true_and, found]
    split
    · cases right.point? <;> rfl
    · rfl
  all_goals contradiction

theorem allWithin_congr_right {lefts rights : List Value} (forth : allWithin lefts rights = true)
    (back : allWithin rights lefts = true) (items : List Value) :
    allWithin items lefts = allWithin items rights :=
  Bool.eq_iff_iff.mpr ⟨fun within => allWithin_trans within forth,
    fun within => allWithin_trans within back⟩

theorem allWithin_congr_left {lefts rights : List Value} (forth : allWithin lefts rights = true)
    (back : allWithin rights lefts = true) (items : List Value) :
    allWithin lefts items = allWithin rights items :=
  Bool.eq_iff_iff.mpr ⟨allWithin_trans back, allWithin_trans forth⟩

/-- Every time in a value, at any depth, has a property. -/
inductive EveryTime (property : DateTime → Prop) : Value → Prop where
  | whole {value : Value} : (∀ time, value = .datetime time → property time) →
      (∀ part ∈ value.parts, EveryTime property part) → EveryTime property value

namespace EveryTime

variable {property : DateTime → Prop} {value : Value}

theorem part {part : Value} (every : EveryTime property value) (member : part ∈ value.parts) :
    EveryTime property part := by
  cases every with
  | whole _ parts => exact parts part member

theorem time {time : DateTime} (every : EveryTime property (.datetime time)) : property time := by
  cases every with
  | whole own _ => exact own time rfl

theorem of_forall (holds : ∀ time, property time) (value : Value) : EveryTime property value := by
  induction value using Value.induct with
  | whole value inductionHypothesis => exact .whole (fun time _ => holds time) inductionHypothesis

end EveryTime

/-- Interchangeable values. Times in corresponding places of their items are in step with each other
beside the times with a property. -/
inductive Abreast (beside : DateTime → Prop) : Value → Value → Prop where
  | whole {left right : Value} : left.Interchanges right →
      (∀ time twin, left = .datetime time → right = .datetime twin → time.InStep twin beside) →
      (∀ lefts rights, left.items? = some lefts → right.items? = some rights →
        List.Forall₂ Interchanges lefts rights →
        ∀ pair ∈ lefts.zip rights, Abreast beside pair.1 pair.2) →
      Abreast beside left right

namespace Abreast

variable {beside : DateTime → Prop}

theorem interchanges (abreast : Abreast beside left right) : left.Interchanges right := by
  cases abreast with
  | whole both _ _ => exact both

theorem times {time twin : DateTime} (abreast : Abreast beside (.datetime time) (.datetime twin)) :
    time.InStep twin beside := by
  cases abreast with
  | whole _ times _ => exact times time twin rfl rfl

theorem items {lefts rights : List Value} (abreast : Abreast beside left right)
    (leftItems : left.items? = some lefts) (rightItems : right.items? = some rights)
    (paired : List.Forall₂ Interchanges lefts rights) :
    List.Forall₂ (Abreast beside) lefts rights := by
  cases abreast with
  | whole _ _ items =>
      exact List.forall₂_iff_zip.mpr ⟨paired.length_eq, fun {left right} member =>
        items lefts rights leftItems rightItems paired (left, right) member⟩

end Abreast

section Order

variable {beside : DateTime → Prop}

theorem lessItems?_congr_right {items lefts rights : List Value}
    (each : ∀ item ∈ items, ∀ left right, Abreast beside left right →
      item.less? left = item.less? right)
    (paired : List.Forall₂ (Abreast beside) lefts rights) :
    lessItems? items lefts = lessItems? items rights := by
  induction paired generalizing items with
  | nil => rfl
  | cons head _ inductionHypothesis =>
      cases items with
      | nil => rfl
      | cons item rest =>
          obtain ⟨first, others⟩ := List.forall_mem_cons.mp each
          rw [lessItems?, lessItems?, same_congr_right head.interchanges, first _ _ head,
            inductionHypothesis others]

theorem less?_congr_right (abreast : Abreast beside left right) {other : Value}
    (every : EveryTime beside other) : other.less? left = other.less? right := by
  induction other using Value.induct generalizing left right with
  | whole other inductionHypothesis =>
      cases abreast.interchanges.twins with
      | identical => rfl
      | points one two => rw [less?_of_point one, less?_of_point two]
      | lists paired =>
          cases other with
          | list items =>
              rw [less?, less?]
              exact lessItems?_congr_right (fun item member _ _ both =>
                inductionHypothesis item member both (every.part member))
                (abreast.items rfl rfl paired)
          | _ => simp [less?, isNumeric]
      | tuples paired =>
          cases other with
          | tuple items =>
              rw [less?, less?]
              exact lessItems?_congr_right (fun item member _ _ both =>
                inductionHypothesis item member both (every.part member))
                (abreast.items rfl rfl paired)
          | _ => simp [less?, isNumeric]
      | sets lengths forth back =>
          cases other with
          | set items => rw [less?, less?, lengths, allWithin_congr_right forth back]
          | _ => simp [less?, isNumeric]
      | mappings => cases other <;> simp [less?, isNumeric]
      | dates numbers => cases other <;> simp [less?, isNumeric, numbers]
      | datetimes times =>
          cases other with
          | datetime time =>
              rw [less?, less?, DateTime.comparable_congr_right times,
                (abreast.times time every.time).1]
          | _ => simp [less?, isNumeric]

theorem lessItems?_congr_left {items lefts rights : List Value}
    (each : ∀ left ∈ lefts, ∀ right, ∀ other ∈ items, Abreast beside left right →
      left.less? other = right.less? other)
    (paired : List.Forall₂ (Abreast beside) lefts rights) :
    lessItems? lefts items = lessItems? rights items := by
  induction paired generalizing items with
  | nil => rfl
  | cons head _ inductionHypothesis =>
      cases items with
      | nil => rfl
      | cons item rest =>
          obtain ⟨first, others⟩ := List.forall_mem_cons.mp each
          have further := inductionHypothesis fun left member right other held =>
            others left member right other (List.mem_cons_of_mem _ held)
          rw [lessItems?, lessItems?, same_congr_left head.interchanges,
            first _ _ List.mem_cons_self head, further]

theorem less?_congr_left (abreast : Abreast beside left right) {other : Value}
    (every : EveryTime beside other) : left.less? other = right.less? other := by
  induction left using Value.induct generalizing right other with
  | whole left inductionHypothesis =>
      cases abreast.interchanges.twins with
      | identical => rfl
      | points one two => rw [less?_of_point_left one, less?_of_point_left two]
      | lists paired =>
          cases other with
          | list items =>
              rw [less?, less?]
              exact lessItems?_congr_left (fun item member _ other held both =>
                inductionHypothesis item member both (every.part held))
                (abreast.items rfl rfl paired)
          | _ => simp [less?, isNumeric]
      | tuples paired =>
          cases other with
          | tuple items =>
              rw [less?, less?]
              exact lessItems?_congr_left (fun item member _ other held both =>
                inductionHypothesis item member both (every.part held))
                (abreast.items rfl rfl paired)
          | _ => simp [less?, isNumeric]
      | sets lengths forth back =>
          cases other with
          | set items => rw [less?, less?, lengths, allWithin_congr_left forth back]
          | _ => simp [less?, isNumeric]
      | mappings => cases other <;> simp [less?, isNumeric]
      | dates numbers => cases other <;> simp [less?, isNumeric, numbers]
      | datetimes times =>
          cases other with
          | datetime time =>
              rw [less?, less?, DateTime.comparable_congr_left times,
                (abreast.times time every.time).2]
          | _ => simp [less?, isNumeric]

theorem atMost?_of_items?_left (plain : left.items? = none) :
    left.atMost? right = (left.less? right).map fun below => below || left.equal right := by
  rw [atMost?.eq_def]
  split
  · contradiction
  · contradiction
  · rfl

theorem atMost?_of_items?_right (plain : right.items? = none) :
    left.atMost? right = (left.less? right).map fun below => below || left.equal right := by
  rw [atMost?.eq_def]
  split
  · contradiction
  · contradiction
  · rfl

theorem atMostItems?_congr_right {items lefts rights : List Value}
    (each : ∀ item ∈ items, ∀ left right, Abreast beside left right →
      item.atMost? left = item.atMost? right)
    (paired : List.Forall₂ (Abreast beside) lefts rights) :
    atMost?.atMostItems? items lefts = atMost?.atMostItems? items rights := by
  induction paired generalizing items with
  | nil => rfl
  | cons head _ inductionHypothesis =>
      cases items with
      | nil => rfl
      | cons item rest =>
          obtain ⟨first, others⟩ := List.forall_mem_cons.mp each
          rw [atMost?.atMostItems?, atMost?.atMostItems?, same_congr_right head.interchanges,
            first _ _ head, inductionHypothesis others]

theorem atMostItems?_congr_left {items lefts rights : List Value}
    (each : ∀ left ∈ lefts, ∀ right, ∀ other ∈ items, Abreast beside left right →
      left.atMost? other = right.atMost? other)
    (paired : List.Forall₂ (Abreast beside) lefts rights) :
    atMost?.atMostItems? lefts items = atMost?.atMostItems? rights items := by
  induction paired generalizing items with
  | nil => rfl
  | cons head _ inductionHypothesis =>
      cases items with
      | nil => rfl
      | cons item rest =>
          obtain ⟨first, others⟩ := List.forall_mem_cons.mp each
          have further := inductionHypothesis fun left member right other held =>
            others left member right other (List.mem_cons_of_mem _ held)
          rw [atMost?.atMostItems?, atMost?.atMostItems?, same_congr_left head.interchanges,
            first _ _ List.mem_cons_self head, further]

theorem atMost?_congr_right (abreast : Abreast beside left right) {other : Value}
    (every : EveryTime beside other) : other.atMost? left = other.atMost? right := by
  induction other using Value.induct generalizing left right with
  | whole other inductionHypothesis =>
      have plain (leftPlain : left.items? = none) (rightPlain : right.items? = none) :
          other.atMost? left = other.atMost? right := by
        rw [atMost?_of_items?_right leftPlain, atMost?_of_items?_right rightPlain,
          less?_congr_right abreast every, equal_congr_right abreast.interchanges]
      cases abreast.interchanges.twins with
      | identical => rfl
      | points one two => exact plain (items?_of_point one) (items?_of_point two)
      | lists paired =>
          cases other with
          | list items =>
              exact atMostItems?_congr_right (fun item member _ _ both =>
                inductionHypothesis item member both (every.part member))
                (abreast.items rfl rfl paired)
          | _ => simp [atMost?, less?, isNumeric]
      | tuples paired =>
          cases other with
          | tuple items =>
              exact atMostItems?_congr_right (fun item member _ _ both =>
                inductionHypothesis item member both (every.part member))
                (abreast.items rfl rfl paired)
          | _ => simp [atMost?, less?, isNumeric]
      | _ => exact plain rfl rfl

theorem atMost?_congr_left (abreast : Abreast beside left right) {other : Value}
    (every : EveryTime beside other) : left.atMost? other = right.atMost? other := by
  induction left using Value.induct generalizing right other with
  | whole left inductionHypothesis =>
      have plain (leftPlain : left.items? = none) (rightPlain : right.items? = none) :
          left.atMost? other = right.atMost? other := by
        rw [atMost?_of_items?_left leftPlain, atMost?_of_items?_left rightPlain,
          less?_congr_left abreast every, equal_congr_left abreast.interchanges]
      cases abreast.interchanges.twins with
      | identical => rfl
      | points one two => exact plain (items?_of_point one) (items?_of_point two)
      | lists paired =>
          cases other with
          | list items =>
              exact atMostItems?_congr_left (fun item member _ other held both =>
                inductionHypothesis item member both (every.part held))
                (abreast.items rfl rfl paired)
          | _ => simp [atMost?, less?, isNumeric]
      | tuples paired =>
          cases other with
          | tuple items =>
              exact atMostItems?_congr_left (fun item member _ other held both =>
                inductionHypothesis item member both (every.part held))
                (abreast.items rfl rfl paired)
          | _ => simp [atMost?, less?, isNumeric]
      | _ => exact plain rfl rfl

end Order

end Value

theorem Relation.holds?_congr (relation : Relation) {left right : Value}
    (abreast : Value.Abreast (fun _ => True) left right) (other : Value) :
    relation.holds? other left = relation.holds? other right := by
  have every : other.EveryTime fun _ => True := .of_forall (fun _ => trivial) other
  cases relation with
  | above => exact Value.less?_congr_left abreast every
  | atLeast => exact Value.atMost?_congr_left abreast every
  | below => exact Value.less?_congr_right abreast every
  | atMost => exact Value.atMost?_congr_right abreast every

namespace Reached

/-- What holds of gaps and values, and of a fan if it holds of its items, holds of all that a path
leads to. -/
theorem induct {motive : Reached → Prop} (gap : motive .gap)
    (value : ∀ found, motive (.value found))
    (fan : ∀ items, (∀ item ∈ items, motive item) → motive (.fan items)) :
    ∀ reached, motive reached
  | .gap => gap
  | .value found => value found
  | .fan items => fan items fun item member =>
      have : sizeOf item < sizeOf items := List.sizeOf_lt_of_mem member
      induct gap value fan item
termination_by reached => sizeOf reached

theorem equals_fan (items : List Reached) {wanted : Value}
    (plain : ∀ others, wanted ≠ .list others) :
    (fan items).equals wanted = false := by
  cases wanted with
  | list others => exact absurd rfl (plain others)
  | _ => rfl

theorem equalsItems_congr {items : List Reached} {lefts rights : List Value}
    (each : ∀ item ∈ items, ∀ left right, left.Interchanges right →
      item.equals left = item.equals right)
    (paired : List.Forall₂ Value.Interchanges lefts rights) :
    equalsItems items lefts = equalsItems items rights := by
  induction paired generalizing items with
  | nil => rfl
  | cons head _ inductionHypothesis =>
      cases items with
      | nil => rfl
      | cons item rest =>
          obtain ⟨first, others⟩ := List.forall_mem_cons.mp each
          rw [equalsItems, equalsItems, first _ _ head, inductionHypothesis others]

/-- What a path leads to equals both of two such values or none of them. -/
theorem equals_congr {left right : Value} (both : left.Interchanges right) (entry : Reached) :
    entry.equals left = entry.equals right := by
  induction entry using Reached.induct generalizing left right with
  | gap => rfl
  | value found => exact Value.equal_congr_right both found
  | fan items inductionHypothesis =>
      cases both.twins with
      | lists paired =>
          exact equalsItems_congr (fun item member _ _ both =>
            inductionHypothesis item member both) paired
      | points one two =>
          rw [equals_fan, equals_fan]
          · rintro others rfl
            contradiction
          · rintro others rfl
            contradiction
      | _ => rfl

theorem relates?_fan (relation : Relation) (items : List Reached) {wanted : Value}
    (plain : ∀ others, wanted ≠ .list others) : (fan items).relates? relation wanted = none := by
  cases wanted with
  | list others => exact absurd rfl (plain others)
  | _ => rfl

theorem relatesItems?_congr {relation : Relation} {items : List Reached} {lefts rights : List Value}
    (each : ∀ item ∈ items, ∀ left right, Value.Abreast (fun _ => True) left right →
      item.relates? relation left = item.relates? relation right)
    (paired : List.Forall₂ (Value.Abreast fun _ => True) lefts rights) :
    relatesItems? relation items lefts = relatesItems? relation items rights := by
  induction paired generalizing items with
  | nil => rfl
  | cons head tail inductionHypothesis =>
      cases items with
      | nil => simp [relatesItems?, tail.length_eq]
      | cons item rest =>
          obtain ⟨first, others⟩ := List.forall_mem_cons.mp each
          rw [relatesItems?, relatesItems?, equals_congr head.interchanges, first _ _ head,
            inductionHypothesis others]

/-- What a path leads to has one order with two such values. -/
theorem relates?_congr (relation : Relation) {left right : Value}
    (abreast : Value.Abreast (fun _ => True) left right) (entry : Reached) :
    entry.relates? relation left = entry.relates? relation right := by
  induction entry using Reached.induct generalizing left right with
  | gap => rfl
  | value found => exact relation.holds?_congr abreast found
  | fan items inductionHypothesis =>
      cases abreast.interchanges.twins with
      | lists paired =>
          exact relatesItems?_congr (fun item member _ _ both =>
            inductionHypothesis item member both) (abreast.items rfl rfl paired)
      | points one two =>
          rw [relates?_fan, relates?_fan]
          · rintro others rfl
            contradiction
          · rintro others rfl
            contradiction
      | _ => rfl

end Reached

end RecordQuery
