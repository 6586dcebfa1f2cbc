import Mathlib.Data.List.Find
import RecordQuery.Proofs.Matching.Slashed
import RecordQuery.Proofs.Query.Shorthand

/-!
# Patterns and their options are one condition

`reading` is the meaning of a filter as it is written: where conditions on a field hold a pattern
and letters beside it, they ask for a text in which the pattern is found under the modes that the
letters name. Matching gives the same at every record, under fields and under combinators at any
depth, as long as each pattern is legible with its letters. It takes the conditions inside other
operators as they stand, and letters there cannot be tested.
-/

namespace RecordQuery.Matching

open Pattern

/-- The text of a pattern and the letters beside it, where conditions hold both. -/
def lettered? (conditions : Entries) : Option (String × String) :=
  match conditions.get? "$regex", conditions.get? "$options" with
  | some (.text source), some (.text letters) => some (source, letters)
  | _, _ => none

/-- The meaning of an entry of a filter as it is written. -/
def entryReading (key value : Value) : Test := step key value (holds value) (memberTests? value)

/-- The meaning of one of the conditions beside a pattern with letters: the letters belong to the
pattern and ask for nothing themselves. -/
def letteredReading (source letters : String) (condition : Value × Value) : Test :=
  fun mode entry =>
    if condition.1.same (.text "$regex") then
      searchIn (withLetters source letters) source (Flags.ofLetters letters.toList) entry
    else if condition.1.same (.text "$options") then .ok true
    else entryReading condition.1 condition.2 mode entry

def conditionsReading (conditions : Entries) : Test :=
  match lettered? conditions with
  | some (source, letters) => fun mode entry =>
      Outcome.all (runs (conditions.map (letteredReading source letters)) mode entry)
  | none => holds (.mapping conditions)

mutual

def reading : Value → Test
  | .mapping entries =>
      let tests := readings entries
      fun mode entry => Outcome.all (runs tests mode entry)
  | operand => plainTest operand

def readings : List (Value × Value) → List Test
  | [] => []
  | (key, value) :: rest => slotReading key value :: readings rest

/-- The meaning of an entry: operands under a combinator, or conditions on a field. -/
def slotReading (key : Value) : Value → Test
  | .list items =>
      match Combinator.ofValue? key with
      | some combinator =>
          let tests := operandReadings items
          fun mode entry => combine combinator (runs tests mode entry)
      | none => entryReading key (.list items)
  | .tuple items =>
      match Combinator.ofValue? key with
      | some combinator =>
          let tests := operandReadings items
          fun mode entry => combine combinator (runs tests mode entry)
      | none => entryReading key (.tuple items)
  | .mapping conditions =>
      if isOperator key then entryReading key (.mapping conditions)
      else step key (.mapping conditions) (conditionsReading conditions) none
  | value => entryReading key value

def operandReadings : List Value → List Test
  | [] => []
  | item :: rest => reading item :: operandReadings rest

end

/-- Conditions with different keys in which a pattern and options beside it are legible texts. -/
structure LegibleConditions (conditions : Entries) : Prop where
  different : Value.Different (conditions.map Prod.fst)
  legible : ∀ pattern options, conditions.get? "$regex" = some pattern →
    conditions.get? "$options" = some options →
      ∃ source letters, pattern = .text source ∧ options = .text letters ∧ Legible source letters

mutual

inductive LegibleFilter : Value → Prop where
  | mapping {entries : Entries} :
      (∀ entry ∈ entries, LegibleEntry entry) → LegibleFilter (.mapping entries)
  | other {operand : Value} : operand.entries? = none → LegibleFilter operand

/-- An entry of such a filter. Beside fields and combinators with operands it may have any key,
unless a pattern with options stands under an operator. -/
inductive LegibleEntry : Value × Value → Prop where
  | combined {combinator : Combinator} {value : Value} {items : List Value} :
      value.items? = some items → (∀ item ∈ items, LegibleFilter item) →
      LegibleEntry (.text combinator.key, value)
  | field {key : Value} {conditions : Entries} :
      isOperator key = false → LegibleConditions conditions →
      LegibleEntry (key, .mapping conditions)
  | operator {key : Value} {conditions : Entries} :
      isOperator key = true →
      (conditions.get? "$regex" = none ∨ conditions.get? "$options" = none) →
      LegibleEntry (key, .mapping conditions)
  | listed {key value : Value} {items : List Value} :
      Combinator.ofValue? key = none → value.items? = some items → LegibleEntry (key, value)
  | plain {key value : Value} :
      value.items? = none → value.entries? = none → LegibleEntry (key, value)

end

theorem LegibleConditions.lettered?_cases {conditions : Entries}
    (legible : LegibleConditions conditions) :
    (∃ source letters, conditions.get? "$regex" = some (.text source) ∧
      conditions.get? "$options" = some (.text letters) ∧ Legible source letters ∧
      lettered? conditions = some (source, letters)) ∨
    (conditions.get? "$regex" = none ∨ conditions.get? "$options" = none) ∧
      lettered? conditions = none := by
  unfold lettered?
  cases pattern : conditions.get? "$regex" with
  | none => exact .inr ⟨.inl rfl, rfl⟩
  | some held =>
      cases options : conditions.get? "$options" with
      | none => exact .inr ⟨.inr rfl, by cases held <;> rfl⟩
      | some beside =>
          obtain ⟨source, letters, rfl, rfl, read⟩ := legible.legible _ _ pattern options
          exact .inl ⟨source, letters, rfl, rfl, read, rfl⟩

/-- Conditions without a pattern or without options are matched as they stand. -/
theorem foldOptions_eq_self {conditions : Entries}
    (single : conditions.get? "$regex" = none ∨ conditions.get? "$options" = none) :
    foldOptions conditions = conditions := by
  unfold foldOptions
  cases pattern : conditions.get? FieldOperator.regex.key with
  | none => rfl
  | some source =>
      have absent : conditions.get? "$options" = none := by
        apply single.resolve_left
        intro none
        rw [FieldOperator.key, none] at pattern
        contradiction
      have kept : conditions.erase "$options" = conditions := by
        apply List.filter_eq_self.mpr
        intro entry member
        rw [Value.equal_text_eq_false.mpr (Entries.get?_eq_none_iff.mp absent entry member)]
        rfl
      simp only [FieldOperator.key, absent, kept, Option.filter_none]

theorem all_filter {α : Type} (items : List α) (keeps : α → Bool) (test : α → Unit → Outcome)
    (idle : ∀ item, keeps item = false → test item () = .ok true) :
    Outcome.all ((items.filter keeps).map test) = Outcome.all (items.map test) := by
  induction items with
  | nil => rfl
  | cons item rest inductionHypothesis =>
      rw [List.filter_cons, List.map_cons, Outcome.all]
      cases kept : keeps item with
      | false =>
          rw [if_neg Bool.false_ne_true, idle item kept]
          exact inductionHypothesis
      | true =>
          rw [if_pos rfl, List.map_cons, Outcome.all, inductionHypothesis]

theorem entryReading_withLetters {source letters : String} (legible : Legible source letters)
    (mode : Mode) (entry : Reached) :
    entryReading (.text "$regex") (withLetters source letters) mode entry =
      searchIn (withLetters source letters) source (Flags.ofLetters letters.toList) entry := by
  have plain : (withLetters source letters).entries? = none := by
    unfold withLetters
    split <;> rfl
  have operator : isOperatorText "$regex" = true := by decide
  have operation : Operation.ofKey? "$regex" = some .pattern := by decide
  rw [← matchesPattern_withLetters legible]
  unfold entryReading step presence?
  simp only [plain, entryTest, operator, if_true, operation]
  rfl

/-- Conditions that are ready for matching mean what they mean as they are written. -/
theorem holds_foldOptions {conditions : Entries} (legible : LegibleConditions conditions) :
    holds (.mapping (foldOptions conditions)) = conditionsReading conditions := by
  unfold conditionsReading
  rcases legible.lettered?_cases with
    ⟨source, letters, pattern, options, read, both⟩ | ⟨single, none⟩
  · rw [both, holds, stepTests_eq_map, foldOptions_eq_map legible.different pattern options]
    funext mode entry
    simp only [runs, List.map_map]
    rw [← all_filter conditions fun condition => !condition.1.same (.text "$options")]
    · apply congrArg Outcome.all
      apply List.map_congr_left
      intro condition member
      funext _
      unfold letteredReading
      by_cases here : condition.1.same (.text "$regex") = true
      · simp only [Function.comp, if_pos here]
        rw [Value.same_text.mp here]
        exact entryReading_withLetters read mode entry
      · have beside : condition.1.same (.text "$options") = false := by
          simpa using (List.mem_filter.mp member).2
        simp only [Function.comp, if_neg here, beside, if_neg Bool.false_ne_true]
        rfl
    · intro condition beside
      have options : condition.1.same (.text "$options") = true := by simpa using beside
      have apart : ¬ condition.1.same (.text "$regex") = true := by
        rw [Value.same_text, Value.same_text.mp options]
        simp
      simp only [Function.comp, letteredReading, if_neg apart, if_pos options]
  · rw [none, foldOptions_eq_self single]

/-- Entries under two names are not a single one. -/
theorem length_ne_one {entries : Entries} {name other : String} (apart : name ≠ other)
    (first : (entries.get? name).isSome = true) (second : (entries.get? other).isSome = true) :
    entries.length ≠ 1 := by
  intro single
  obtain ⟨⟨key, value⟩, rfl⟩ := List.length_eq_one_iff.mp single
  have named {text : String} (found : (Entries.get? [(key, value)] text).isSome = true) :
      key = .text text := by
    by_contra differs
    rw [Entries.get?_cons, if_neg (mt Value.same_text.mp differs)] at found
    contradiction
  exact apart (Value.text.inj ((named first).symm.trans (named second)))

theorem get?_erase_of_ne (entries : Entries) {name other : String} (apart : name ≠ other) :
    (entries.erase name).get? other = entries.get? other := by
  rw [Entries.erase_eq_filter, Entries.get?, Entries.get?, Entries.valueOf?, Entries.valueOf?,
    List.find?_filter]
  apply congrArg (Option.map Prod.snd)
  apply List.find?_congr
  intro entry _
  by_cases named : entry.1 = .text other
  · simp [named, Value.same, Ne.symm apart]
  · simp [Value.same_text_eq_false.mpr named]

theorem get?_foldOptions (conditions : Entries) {name : String} (pattern : "$regex" ≠ name)
    (options : "$options" ≠ name) : (foldOptions conditions).get? name = conditions.get? name := by
  unfold foldOptions
  split
  · rfl
  · simp only [FieldOperator.key]
    split
    · rw [Entries.get?_set, if_neg pattern, get?_erase_of_ne _ options]
    · rw [get?_erase_of_ne _ options]

theorem isSome_get?_foldOptions (conditions : Entries) :
    ((foldOptions conditions).get? "$regex").isSome = (conditions.get? "$regex").isSome := by
  unfold foldOptions
  split
  · rfl
  · rename_i source pattern
    rw [FieldOperator.key] at pattern
    simp only [FieldOperator.key]
    split
    · rw [Entries.get?_set, if_pos rfl, pattern]
      rfl
    · rw [get?_erase_of_ne _ (by decide)]

theorem presence?_foldOptions {conditions : Entries} (legible : LegibleConditions conditions)
    (key : Value) (entry : Reached) :
    presence? key (.mapping (foldOptions conditions)) entry =
      presence? key (.mapping conditions) entry := by
  have demands : (foldOptions conditions).get? "$exists" = conditions.get? "$exists" :=
    get?_foldOptions conditions (by decide) (by decide)
  unfold presence?
  simp only [Value.entries?, Option.bind_some, FieldOperator.key, demands]
  cases demanded : conditions.get? "$exists" with
  | none => rfl
  | some flag =>
      -- With a pattern beside the demand, neither form of the conditions is a single one.
      have lengths : ((foldOptions conditions).length = 1) = (conditions.length = 1) := by
        rcases legible.lettered?_cases with ⟨source, letters, pattern, -, -, -⟩ | ⟨single, -⟩
        · have asked : (conditions.get? "$exists").isSome = true := by rw [demanded]; rfl
          have held : (conditions.get? "$regex").isSome = true := by rw [pattern]; rfl
          rw [eq_false (length_ne_one (by decide) asked held),
            eq_false (length_ne_one (by decide) (demands ▸ asked)
              ((isSome_get?_foldOptions conditions).trans held))]
        · rw [foldOptions_eq_self single]
      simp only [lengths]

theorem step_of_field {key argument other : Value} (field : isOperator key = false)
    (demands : ∀ entry, presence? key argument entry = presence? key other entry) (test : Test)
    (members? others? : Option (List Test)) :
    step key argument test members? = step key other test others? := by
  funext mode entry
  unfold step
  rw [demands]
  cases key with
  | text name =>
      have plain : isOperatorText name = false := field
      simp only [entryTest, plain]
      rfl
  | _ => rfl

/-- The meaning of an entry of a filter that is ready for matching. -/
def preparedTest (key value : Value) : Test :=
  entryReading key (prepareValue (Combinator.ofValue? key).isSome value)

theorem holds_prepareEntries (entries : Entries) :
    holds (.mapping (prepareEntries entries)) = fun mode entry =>
      Outcome.all (runs (entries.map fun slot => preparedTest slot.1 slot.2) mode entry) := by
  rw [holds, stepTests_eq_map, prepareEntries_eq_map, List.map_map]
  rfl

theorem preparedTest_field {key : Value} {conditions : Entries} (field : isOperator key = false)
    (legible : LegibleConditions conditions) :
    preparedTest key (.mapping conditions) = slotReading key (.mapping conditions) := by
  unfold preparedTest entryReading
  rw [slotReading, field, prepareValue, holds_foldOptions legible]
  exact step_of_field field (presence?_foldOptions legible key) _ _ _

theorem readings_eq_map (entries : Entries) :
    readings entries = entries.map fun slot => slotReading slot.1 slot.2 := by
  induction entries with
  | nil => rfl
  | cons slot rest inductionHypothesis => rw [readings, inductionHypothesis, List.map_cons]

theorem operandReadings_eq_map (items : List Value) :
    operandReadings items = items.map reading := by
  induction items with
  | nil => rfl
  | cons item rest inductionHypothesis =>
      rw [operandReadings, inductionHypothesis, List.map_cons]

theorem preparedTest_combined {combinator : Combinator} {value : Value} {items : List Value}
    (held : value.items? = some items) :
    preparedTest (.text combinator.key) value = fun mode entry =>
      combine combinator (runs (items.map fun item => holds (preparedOperand item)) mode entry) := by
  have listed : prepareValue true value = .list (prepareItems items) := by
    cases value with
    | list | tuple =>
        obtain rfl := Option.some.inj held
        rfl
    | _ => contradiction
  funext mode entry
  unfold preparedTest entryReading
  rw [Combinator.ofValue?_key, Option.isSome_some, listed, step_combined, prepareItems_eq_map,
    List.map_map]
  rfl

theorem slotReading_combined {combinator : Combinator} {value : Value} {items : List Value}
    (held : value.items? = some items) :
    slotReading (.text combinator.key) value = fun mode entry =>
      combine combinator (runs (items.map reading) mode entry) := by
  cases value with
  | list | tuple =>
      obtain rfl := Option.some.inj held
      rw [slotReading, Combinator.ofValue?_key, ← operandReadings_eq_map]
  | _ => contradiction

mutual

/-- A filter that is ready for matching means what it means as it is written. -/
theorem LegibleFilter.holds_preparedOperand {value : Value} :
    LegibleFilter value → holds (preparedOperand value) = reading value
  | @LegibleFilter.mapping entries slots => by
      have same : (entries.map fun slot => preparedTest slot.1 slot.2) =
          entries.map fun slot => slotReading slot.1 slot.2 := by
        apply List.map_congr_left
        intro slot member
        exact (slots slot member).preparedTest_eq
      rw [preparedOperand, holds_prepareEntries, same, reading, readings_eq_map]
  | .other plain => by
      cases value with
      | mapping => contradiction
      | _ => rfl

theorem LegibleEntry.preparedTest_eq {slot : Value × Value} :
    LegibleEntry slot → preparedTest slot.1 slot.2 = slotReading slot.1 slot.2
  | @LegibleEntry.combined _ _ items held filters => by
      have same : (items.map fun item => holds (preparedOperand item)) = items.map reading := by
        apply List.map_congr_left
        intro item member
        exact (filters item member).holds_preparedOperand
      rw [preparedTest_combined held, slotReading_combined held, same]
  | .field field legible => preparedTest_field field legible
  | .operator operator single => by
      unfold preparedTest
      rw [slotReading, operator, prepareValue, foldOptions_eq_self single]
      rfl
  | @LegibleEntry.listed _ value _ unnamed held => by
      unfold preparedTest
      rw [unnamed]
      cases value with
      | list | tuple =>
          rw [slotReading, unnamed]
          rfl
      | _ => contradiction
  | @LegibleEntry.plain _ value items entries => by
      unfold preparedTest
      rw [prepareValue_plain items entries]
      cases value with
      | list | tuple | mapping => contradiction
      | _ => rfl

end

theorem satisfies_eq_reading {filter : Entries}
    (legible : LegibleFilter (.mapping filter)) (record : Value) :
    satisfies (.mapping filter) record =
      reading (.mapping filter) .guarded (.value record) := by
  rw [satisfies, prepare, ← legible.holds_preparedOperand]
  rfl

theorem optionsShown_of_single {conditions : Entries}
    (single : conditions.get? "$regex" = none ∨ conditions.get? "$options" = none) :
    optionsShown conditions = true := by
  unfold optionsShown
  rcases single with none | none
  · rw [FieldOperator.key, none]
  · simp [FieldOperator.key, none]

theorem LegibleConditions.optionsShown {conditions : Entries}
    (legible : LegibleConditions conditions) : optionsShown conditions = true := by
  rcases legible.lettered?_cases with ⟨source, letters, pattern, options, -⟩ | ⟨single, -⟩
  · unfold Matching.optionsShown
    rw [FieldOperator.key, FieldOperator.key, pattern, options, Option.filter_some]
    by_cases filled : (Value.text letters).isTruthy = true
    · rw [if_pos filled]
      rfl
    · rw [if_neg filled]
  · exact optionsShown_of_single single

mutual

/-- Texts can always be written as one, so a matcher can be made for legible patterns. -/
theorem LegibleFilter.operandFolded {value : Value} :
    LegibleFilter value → operandFolded value = true
  | .mapping slots => by
      rw [Matching.operandFolded, areFolded_eq_all, List.all_eq_true]
      exact fun slot member => (slots slot member).isFolded
  | .other plain => operandFolded_plain plain

theorem LegibleEntry.isFolded {slot : Value × Value} :
    LegibleEntry slot → isFolded (Combinator.ofValue? slot.1).isSome slot.2 = true
  | .combined held filters => by
      rw [Combinator.ofValue?_key, Option.isSome_some, isFolded_operands held, List.all_eq_true]
      exact fun item member => (filters item member).operandFolded
  | .field _ legible => legible.optionsShown
  | .operator _ single => optionsShown_of_single single
  | @LegibleEntry.listed _ value _ unnamed held => by
      rw [unnamed]
      cases value with
      | list | tuple => rfl
      | _ => contradiction
  | .plain items entries => isFolded_plain items entries _

end

theorem accepts_eq_satisfies {filter : Entries} (folded : areFolded filter = true)
    (record : Value) : accepts (.mapping filter) record = satisfies (.mapping filter) record := by
  rw [accepts, build, if_pos folded]
  rfl

end RecordQuery.Matching
