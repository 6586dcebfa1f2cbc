import RecordQuery.Proofs.Filter.Report
import RecordQuery.Proofs.Matching.Failures
import RecordQuery.Proofs.Matching.Inside
import RecordQuery.Proofs.Query.Shorthand

/-!
# Conditions on remainders, sizes and members

The guarded tests of a remainder, of a size and of the members of a list never fail: a value of
another kind does not meet them. A failure would take a division by zero, or a whole number that is
too large to be divided as a floating-point value; the arguments rule out the first and moderate
records the second. So a filter that combines such conditions under fields can be tested at every
moderate record.
-/

namespace RecordQuery

open Argument

/-- A value that holds no whole number beyond the floating-point range. -/
inductive Value.Moderate : Value → Prop where
  | whole {value : Value} :
      ¬ IsBeyond value → (∀ part ∈ value.parts, Moderate part) → Moderate value

namespace Value.Moderate

theorem not_isBeyond {value : Value} (moderate : value.Moderate) : ¬ IsBeyond value := by
  cases moderate with
  | whole own _ => exact own

theorem hereditary : Value.Hereditary Value.Moderate := by
  rintro value ⟨_, parts⟩
  exact parts

end Value.Moderate

/-- A test that does not fail, and holds exactly if a statement is true. -/
def Outcome.Decides (outcome : Outcome) (statement : Prop) : Prop :=
  ∃ result, outcome = .ok result ∧ (result = true ↔ statement)

namespace Outcome.Decides

variable {outcome : Outcome} {statement other : Prop}

theorem ok {result : Bool} (decides : result = true ↔ statement) :
    Decides (.ok result) statement :=
  ⟨result, rfl, decides⟩

theorem congr (decides : outcome.Decides statement) (same : statement ↔ other) :
    outcome.Decides other := by
  obtain ⟨result, decided, truth⟩ := decides
  exact ⟨result, decided, truth.trans same⟩

theorem refuses (never : ¬ statement) : Decides (.ok false) statement :=
  ok (iff_of_false Bool.false_ne_true never)

theorem negate (decides : outcome.Decides statement) : outcome.negate.Decides ¬ statement := by
  obtain ⟨result, rfl, truth⟩ := decides
  refine ⟨!result, rfl, ?_⟩
  rw [← truth]
  simp

variable {α : Type} {items : List α} {test : α → Unit → Outcome} {means : α → Prop}

theorem all (each : ∀ item ∈ items, (test item ()).Decides (means item)) :
    (Outcome.all (items.map test)).Decides (∀ item ∈ items, means item) := by
  induction items with
  | nil => exact ok (by simp)
  | cons item rest inductionHypothesis =>
      obtain ⟨⟨result, decided, truth⟩, others⟩ := List.forall_mem_cons.mp each
      rw [List.map_cons, Outcome.all, decided]
      cases result with
      | true =>
          apply (inductionHypothesis others).congr
          rw [List.forall_mem_cons, and_iff_right (truth.mp rfl)]
      | false =>
          exact refuses fun every =>
            Bool.false_ne_true (truth.mpr (every item List.mem_cons_self))

theorem any (each : ∀ item ∈ items, (test item ()).Decides (means item)) :
    (Outcome.any (items.map test)).Decides (∃ item ∈ items, means item) := by
  have negated : (Outcome.all (items.map fun item _ => (test item ()).negate)).Decides
      (∀ item ∈ items, ¬ means item) :=
    Decides.all fun item member => (each item member).negate
  rw [Outcome.any_eq_all, List.map_map]
  refine negated.negate.congr ?_
  simp

theorem isOk (decides : outcome.Decides statement) : ∃ result, outcome = .ok result := by
  obtain ⟨result, decided, -⟩ := decides
  exact ⟨result, decided⟩

theorem of_isOk (decided : ∃ result, outcome = .ok result) :
    outcome.Decides (outcome = .ok true) := by
  obtain ⟨result, rfl⟩ := decided
  exact ok (by simp)

end Outcome.Decides

/-- What a combinator says about statements. -/
def Combinator.Says {α : Type} (combinator : Combinator) (items : List α) (means : α → Prop) :
    Prop :=
  match combinator with
  | .and => ∀ item ∈ items, means item
  | .or => ∃ item ∈ items, means item
  | .nor => ¬ ∃ item ∈ items, means item

namespace Matching

theorem combine_decides (combinator : Combinator) {α : Type} {items : List α}
    {test : α → Unit → Outcome} {means : α → Prop}
    (each : ∀ item ∈ items, (test item ()).Decides (means item)) :
    (combine combinator (items.map test)).Decides (combinator.Says items means) := by
  cases combinator with
  | and => exact Outcome.Decides.all each
  | or => exact Outcome.Decides.any each
  | nor => exact (Outcome.Decides.any each).negate

def Leaves (divisor remainder number : Value) : Prop :=
  number.isNumber = true ∧ ∃ rest, modulo number divisor = .ok rest ∧ rest.equal remainder = true

/-- The remainder of whole numbers has the sign of the divisor. -/
theorem leaves_int_iff {divisor : Int} (nonzero : divisor ≠ 0) (remainder number : Int) :
    Leaves (.int divisor) (.int remainder) (.int number) ↔ number.fmod divisor = remainder := by
  simp [Leaves, Value.isNumber, modulo, numeral?, nonzero, Value.equal, Value.isNan, Value.same,
    Value.point?]

theorem items?_of_isNumber {value : Value} (number : value.isNumber = true) :
    value.items? = none := by
  cases value with
  | list | tuple => contradiction
  | _ => rfl

/-- A number to divide by: neither zero nor beyond the floating-point range. -/
structure Divides (divisor : Value) : Prop where
  number : divisor.isNumber = true
  nonzero : divisor.equal (.int 0) = false
  inRange : ¬ IsBeyond divisor

theorem Divides.modulo {divisor number : Value} (divides : Divides divisor)
    (isNumber : number.isNumber = true) (moderate : number.Moderate) :
    ∃ rest, modulo number divisor = .ok rest := by
  cases divided : Matching.modulo number divisor with
  | ok rest => exact ⟨rest, rfl⟩
  | error failure =>
      obtain ⟨-, ⟨beyond, -⟩ | ⟨-, beyond⟩⟩ :=
        modulo_eq_error isNumber divides.number divides.nonzero divided
      · exact absurd beyond moderate.not_isBeyond
      · exact absurd beyond divides.inRange

theorem leaves_decides {divisor remainder : Value} (divides : Divides divisor) {entry : Reached}
    (within : entry.Within Value.Moderate) :
    (leaves divisor remainder entry).Decides
      (∃ number, entry = .value number ∧ Leaves divisor remainder number) := by
  cases within with
  | gap => exact .refuses (by simp)
  | fan => exact .refuses (by simp)
  | @value number moderate =>
      rw [leaves]
      split
      · rename_i isNumber
        obtain ⟨rest, divided⟩ := divides.modulo isNumber moderate
        rw [divided]
        apply Outcome.Decides.ok
        simp [Leaves, isNumber, divided]
      · rename_i other
        apply Outcome.Decides.refuses
        rintro ⟨_, ⟨⟩, isNumber, -⟩
        exact other isNumber

theorem hasRemainder_decides {divisor remainder : Value} (divides : Divides divisor)
    {entry : Reached} (within : entry.Within Value.Moderate) :
    (hasRemainder (.list [divisor, remainder]) entry).Decides
      (∃ number, Divided entry number ∧ Leaves divisor remainder number) := by
  have guard : (!divisor.isNumber || divisor.equal (.int 0)) = false := by
    rw [divides.number, divides.nonzero]
    rfl
  rw [hasRemainder]
  simp only [Value.items?, guard, Bool.false_eq_true, if_false]
  cases held : entry.items? with
  | some items =>
      have each : (Outcome.any (items.map fun item _ => leaves divisor remainder item)).Decides
          (∃ item ∈ items, ∃ number, item = .value number ∧ Leaves divisor remainder number) :=
        .any fun item member =>
          leaves_decides divides (within.items Value.Moderate.hereditary held item member)
      apply each.congr
      constructor
      · rintro ⟨_, member, number, rfl, left⟩
        exact ⟨number, .item held member, left⟩
      · rintro ⟨number, divided, left⟩
        cases divided with
        | value same =>
            rw [same, Reached.items?, items?_of_isNumber left.1] at held
            contradiction
        | item other member =>
            obtain rfl := Option.some.inj (held.symm.trans other)
            exact ⟨_, member, number, rfl, left⟩
  | none =>
      apply (leaves_decides divides within).congr
      constructor
      · rintro ⟨number, same, left⟩
        exact ⟨number, .value same, left⟩
      · rintro ⟨number, divided, left⟩
        cases divided with
        | value same => exact ⟨number, same, left⟩
        | item other member =>
            rw [held] at other
            contradiction

/-- A condition on a remainder, on a size, or on the members of a list. -/
inductive Measure where
  | remainder (divisor wanted : Value)
  | size (count : Int)
  | members (values : List Value)

namespace Measure

def entry : Measure → Value × Value
  | .remainder divisor wanted => (.text FieldOperator.mod.key, .list [divisor, wanted])
  | .size count => (.text FieldOperator.size.key, .int count)
  | .members values => (.text FieldOperator.all.key, .list values)

/-- Arguments that are accepted: a number to divide by, and members that are no containers. -/
def Accepted : Measure → Prop
  | .remainder divisor _ => Divides divisor
  | .size _ => True
  | .members values => ∀ value ∈ values, value.items? = none ∧ value.entries? = none

/-- What a measure says about what a path leads to: a number or an item that leaves the remainder, a
list of the size, or a list that has all members. -/
def Holds (found : Reached) : Measure → Prop
  | .remainder divisor wanted => ∃ number, Divided found number ∧ Leaves divisor wanted number
  | .size count => ∃ items, found.items? = some items ∧ (items.length : Int) = count
  | .members values => ∃ items, found.items? = some items ∧
      ∀ value ∈ values, ∃ item ∈ items, item.equals value = true

theorem not_holds {found : Reached} (noList : found.items? = none)
    (noNumber : ∀ value, found = .value value → value.isNumber = false) (measure : Measure) :
    ¬ measure.Holds found := by
  cases measure with
  | remainder divisor wanted =>
      rintro ⟨number, divided, isNumber, -⟩
      cases divided with
      | value same => simp [noNumber number same] at isNumber
      | item held _ => simp [noList] at held
  | size count | members values =>
      rintro ⟨items, held, -⟩
      simp [noList] at held

theorem equals_of_items {found : Reached} {items : List Reached} (held : found.items? = some items)
    {value : Value} (plain : value.items? = none) : found.equals value = false := by
  cases found with
  | gap => contradiction
  | value list =>
      cases list with
      | list members | tuple members =>
          cases value with
          | list | tuple => contradiction
          | _ => simp [Reached.equals, Value.equal, Value.same, Value.point?]
      | _ => contradiction
  | fan members =>
      apply Reached.equals_fan
      rintro others rfl
      contradiction

theorem members_decides {values : List Value} {found : Reached} {items : List Reached}
    (accepted : (members values).Accepted) (held : found.items? = some items) :
    (meetsAll (memberTests? (.list values)) .guarded found).Decides
      (∀ value ∈ values, ∃ item ∈ items, item.equals value = true) := by
  rw [memberTests?, meetsAll, itemTests_eq_map, runs, List.map_map]
  apply Outcome.Decides.all
  intro value member
  obtain ⟨noItems, noEntries⟩ := accepted value member
  have test : holds value .guarded found = .ok (items.any (·.equals value)) := by
    rw [holds_plain noEntries, plainTest, equalsOrHolds, equals_of_items held noItems, held]
    simp
  rw [Function.comp, test]
  exact Outcome.Decides.ok List.any_eq_true

def operation : Measure → Operation
  | .remainder _ _ => .remainder
  | .size _ => .size
  | .members _ => .all

theorem step_eq (measure : Measure) (test : Test) (members? : Option (List Test)) (mode : Mode)
    (found : Reached) : step measure.entry.1 measure.entry.2 test members? mode found =
      measure.operation.apply measure.entry.2 test members? mode found := by
  cases measure <;> rfl

theorem step_decides {measure : Measure} (accepted : measure.Accepted) {found : Reached}
    (within : found.Within Value.Moderate) :
    (step measure.entry.1 measure.entry.2 (holds measure.entry.2) (memberTests? measure.entry.2)
      .guarded found).Decides (measure.Holds found) := by
  rw [step_eq]
  cases measure with
  | remainder divisor wanted => exact hasRemainder_decides accepted within
  | size count =>
      simp only [operation, Operation.apply]
      cases held : found.items? with
      | none => exact .refuses (by simp [Holds, held])
      | some items =>
          apply Outcome.Decides.ok
          rw [beq_iff_eq, eq_comm]
          simp [Holds, held]
  | members values =>
      simp only [operation, Operation.apply]
      cases held : found.items? with
      | none => exact .refuses (by simp [Holds, held])
      | some items =>
          apply (members_decides accepted held).congr
          simp [Holds, held]

end Measure

/-- Conditions on a field that are accepted measures. -/
def Measured (conditions : Entries) : Prop :=
  ∀ condition ∈ conditions, ∃ measure : Measure, measure.Accepted ∧ measure.entry = condition

/-- An entry of a filter of combinators and measured fields. -/
inductive MeasuredEntry : Value × Value → Prop where
  | combined {combinator : Combinator} {operands : List Entries} :
      (∀ operand ∈ operands, ∀ entry ∈ operand, MeasuredEntry entry) →
      MeasuredEntry (.text combinator.key, .list (operands.map .mapping))
  | field {name : String} {conditions : Entries} :
      isOperatorText name = false → Measured conditions →
      MeasuredEntry (.text name, .mapping conditions)

theorem entrywise_measured : Filter.Entrywise MeasuredEntry := by
  intro combinator operands
  constructor
  · intro measured
    generalize named : Value.text combinator.key = key at measured
    generalize listed : operands.map Value.mapping = items at measured
    cases measured with
    | @combined _ filters measured =>
        rwa [List.map_injective_iff.mpr (fun _ _ => Value.mapping.inj) listed]
  · exact .combined

theorem Measured.get?_eq_none {conditions : Entries} (measured : Measured conditions)
    {operator : FieldOperator} (other : operator ≠ .mod ∧ operator ≠ .size ∧ operator ≠ .all) :
    conditions.get? operator.key = none := by
  apply Entries.get?_eq_none_iff.mpr
  intro condition member same
  obtain ⟨measure, -, rfl⟩ := measured condition member
  cases measure <;> cases operator <;> simp_all [Measure.entry, FieldOperator.key]

/-- Patterns are no measures, so a matcher can be made for measured fields. -/
theorem MeasuredEntry.isFolded {entry : Value × Value} (measured : MeasuredEntry entry) :
    isFolded (Combinator.ofValue? entry.1).isSome entry.2 = true := by
  induction measured with
  | combined _ inductionHypothesis =>
      rw [Combinator.ofValue?_key, Option.isSome_some, isFolded_operands rfl, List.all_map,
        List.all_eq_true]
      intro operand member
      rw [Function.comp, operandFolded, areFolded_eq_all, List.all_eq_true]
      exact inductionHypothesis operand member
  | @field name conditions _ measured =>
      have noPattern : conditions.get? FieldOperator.regex.key = none :=
        measured.get?_eq_none (by decide)
      rw [Matching.isFolded, optionsShown, noPattern]

theorem areFolded_of_measured {filter : Entries}
    (measured : ∀ entry ∈ filter, MeasuredEntry entry) : areFolded filter = true := by
  rw [areFolded_eq_all, List.all_eq_true]
  exact fun entry member => (measured entry member).isFolded

theorem Measure.entry_injective {first second : Measure} (same : first.entry = second.entry) :
    first = second := by
  cases first <;> cases second <;> simp_all [Measure.entry, FieldOperator.key]

/-- Measured conditions on a field ask for no presence and hold no pattern, so their test is that of
each of them. -/
theorem entryOutcome_eq {name : String} {conditions : Entries}
    (plain : isOperatorText name = false) (measured : Measured conditions) (record : Value) :
    entryOutcome record (.text name, .mapping conditions) =
      Outcome.all (conditions.map fun condition _ =>
        step condition.1 condition.2 (holds condition.2) (memberTests? condition.2) .guarded
          ((Reached.value record).reach name)) := by
  have noPattern : conditions.get? FieldOperator.regex.key = none :=
    measured.get?_eq_none (by decide)
  have noDemand : conditions.get? FieldOperator.exists.key = none :=
    measured.get?_eq_none (by decide)
  have unfolded : foldOptions conditions = conditions := by rw [foldOptions, noPattern]
  have undemanded : presence? (.text name) (.mapping conditions) (.value record) = .ok none := by
    unfold presence?
    simp only [Value.entries?, Option.bind_some, noDemand]
  rw [entryOutcome]
  dsimp only
  rw [Filter.ofValue?_eq_none_iff.mpr (Filter.not_namesCombinator plain), prepareValue, unfolded,
    step, undemanded]
  simp only [entryTest, plain, holds, stepTests_eq_map, runs, List.map_map]
  rfl

/-- The test of measured conditions on a field decides what they say about what the field leads
to. -/
theorem entryOutcome_decides {name : String} {conditions : Entries}
    (plain : isOperatorText name = false) (measured : Measured conditions) {record : Value}
    (moderate : record.Moderate) :
    (entryOutcome record (.text name, .mapping conditions)).Decides
      (∀ measure : Measure, measure.entry ∈ conditions →
        measure.Holds ((Reached.value record).reach name)) := by
  have within := (Reached.Within.value moderate).reach Value.Moderate.hereditary name
  have each : (Outcome.all (conditions.map fun condition _ =>
        step condition.1 condition.2 (holds condition.2) (memberTests? condition.2) .guarded
          ((Reached.value record).reach name))).Decides
      (∀ condition ∈ conditions, ∀ measure : Measure, measure.entry = condition →
        measure.Holds ((Reached.value record).reach name)) := by
    apply Outcome.Decides.all
    intro condition member
    obtain ⟨measure, accepted, rfl⟩ := measured condition member
    apply (measure.step_decides accepted within).congr
    constructor
    · intro meets other same
      rwa [Measure.entry_injective same]
    · intro meets
      exact meets measure rfl
  rw [entryOutcome_eq plain measured]
  apply each.congr
  constructor
  · intro meets measure member
    exact meets _ member measure rfl
  · rintro meets condition member measure rfl
    exact meets measure member

theorem satisfies_single (entry : Value × Value) (record : Value) :
    satisfies (.mapping [entry]) record = entryOutcome record entry := by
  rw [satisfies_eq, List.map_singleton, Outcome.all_singleton]

theorem satisfies_decides {filter : Entries} {record : Value}
    (each : ∀ entry ∈ filter, ∃ result, entryOutcome record entry = .ok result) :
    (satisfies (.mapping filter) record).Decides
      (∀ entry ∈ filter, satisfies (.mapping [entry]) record = .ok true) := by
  rw [satisfies_eq]
  apply (Outcome.Decides.all fun entry member => .of_isOk (each entry member)).congr
  simp only [satisfies_single]

/-- The test of combined filters decides what the combinator says of them. -/
theorem entryOutcome_combined_decides (combinator : Combinator) {operands : List Entries}
    {record : Value}
    (each : ∀ operand ∈ operands, ∃ result, satisfies (.mapping operand) record = .ok result) :
    (entryOutcome record (.text combinator.key, .list (operands.map .mapping))).Decides
      (combinator.Says operands fun operand => satisfies (.mapping operand) record = .ok true) := by
  rw [entryOutcome_combined rfl (by simp), List.map_map]
  exact combine_decides combinator fun operand member => .of_isOk (each operand member)

theorem MeasuredEntry.isOk {entry : Value × Value} (measured : MeasuredEntry entry)
    {record : Value} (moderate : record.Moderate) :
    ∃ result, entryOutcome record entry = .ok result := by
  induction measured with
  | combined _ inductionHypothesis =>
      refine (entryOutcome_combined_decides _ fun operand member => ?_).isOk
      exact (satisfies_decides (inductionHypothesis operand member)).isOk
  | field plain conditions => exact (entryOutcome_decides plain conditions moderate).isOk

/-- A filter of combinators and measured fields can be tested at every moderate record. -/
theorem satisfies_isOk {filter : Entries} (measured : ∀ entry ∈ filter, MeasuredEntry entry)
    {record : Value} (moderate : record.Moderate) :
    ∃ result, satisfies (.mapping filter) record = .ok result :=
  (satisfies_decides fun entry member => (measured entry member).isOk moderate).isOk

/-- What the tests of filters of combinators and measured fields decide at a record: a single
measure of a field, what it says about what the field leads to; several measures, all of that;
combined filters, what the combinator says of them; and a filter, all of its entries. -/
structure TestsMeasures (record : Value) : Prop where
  single (name : String) (plain : isOperatorText name = false) (measure : Measure)
    (accepted : measure.Accepted) :
    (satisfies (.mapping [(.text name, .mapping [measure.entry])]) record).Decides
      (measure.Holds ((Reached.value record).reach name))
  several (name : String) (plain : isOperatorText name = false) (conditions : Entries)
    (measured : Measured conditions) :
    (satisfies (.mapping [(.text name, .mapping conditions)]) record).Decides
      (∀ measure : Measure, measure.entry ∈ conditions →
        measure.Holds ((Reached.value record).reach name))
  combined (combinator : Combinator) (operands : List Entries)
    (measured : ∀ operand ∈ operands, ∀ entry ∈ operand, MeasuredEntry entry) :
    (satisfies (.mapping [(.text combinator.key, .list (operands.map .mapping))]) record).Decides
      (combinator.Says operands fun operand => satisfies (.mapping operand) record = .ok true)
  whole (filter : Entries) (measured : ∀ entry ∈ filter, MeasuredEntry entry) :
    (satisfies (.mapping filter) record).Decides
      (∀ entry ∈ filter, satisfies (.mapping [entry]) record = .ok true)

theorem testsMeasures {record : Value} (moderate : record.Moderate) : TestsMeasures record where
  single name plain measure accepted := by
    have measured : Measured [measure.entry] :=
      List.forall_mem_singleton.mpr ⟨measure, accepted, rfl⟩
    rw [satisfies_single]
    apply (entryOutcome_decides plain measured moderate).congr
    constructor
    · intro meets
      exact meets measure List.mem_cons_self
    · intro holds other member
      rwa [Measure.entry_injective (List.mem_singleton.mp member)]
  several name plain conditions measured := by
    rw [satisfies_single]
    exact entryOutcome_decides plain measured moderate
  combined combinator operands measured := by
    rw [satisfies_single]
    exact entryOutcome_combined_decides combinator fun operand member =>
      satisfies_isOk (measured operand member) moderate
  whole filter measured :=
    satisfies_decides fun entry member => (measured entry member).isOk moderate

end Matching

end RecordQuery
