import RecordQuery.Matching.Condition
import RecordQuery.Proofs.Matching.Footprint
import RecordQuery.Proofs.Number.Numeral

/-!
# Failures of conditions

A condition can refuse the query on a record. `Fails` lists what else can go wrong at an entry of a
condition itself, and `Opens` where the test of an entry goes on. Every failure of a condition that
is no refusal comes from an entry that fails at a place that the condition leads to.
-/

namespace RecordQuery

/-- A result that fails only with refusals of the query and with some other failures. -/
def FailsBut {α : Type} (others : Failure → Prop) (result : Except Failure α) : Prop :=
  ∀ failure, result = .error failure → (∃ fault, failure = .query fault) ∨ others failure

namespace FailsBut

variable {α β : Type} {others : Failure → Prop} {result : Except Failure α}

theorem ok (value : α) : FailsBut others (.ok value : Except Failure α) := nofun

theorem refused (fault : QueryFault) :
    FailsBut others (.error (.query fault) : Except Failure α) := by
  rintro _ ⟨⟩
  exact .inl ⟨fault, rfl⟩

theorem failed {failure : Failure} (allowed : others failure) :
    FailsBut others (.error failure : Except Failure α) := by
  rintro _ ⟨⟩
  exact .inr allowed

/-- A filter that cannot be tested is refused, if the reason can be shown. -/
theorem untestable {fault : MatchFault} (hidden : fault.isShown = false → others .invalidValue) :
    FailsBut others (.error (.untestable fault) : Except Failure α) := by
  rw [Failure.untestable]
  split
  · exact .refused _
  · rename_i unshown
    exact .failed (hidden (Bool.eq_false_of_not_eq_true unshown))

theorem mono (fails : FailsBut others result) {wider : Failure → Prop}
    (implies : ∀ failure, others failure → wider failure) : FailsBut wider result :=
  fun failure failed => (fails failure failed).imp_right (implies failure)

theorem map (fails : FailsBut others result) (change : α → β) :
    FailsBut others (result.map change) := by
  intro failure failed
  apply fails failure
  cases result with
  | ok value => contradiction
  | error other => exact congrArg _ (Except.error.inj failed)

theorem all {tests : List (Unit → Outcome)} (each : ∀ test ∈ tests, FailsBut others (test ())) :
    FailsBut others (Outcome.all tests) := by
  induction tests with
  | nil => exact .ok true
  | cons test rest inductionHypothesis =>
      obtain ⟨head, tail⟩ := List.forall_mem_cons.mp each
      rw [Outcome.all]
      split
      · exact inductionHypothesis tail
      · exact head

theorem any {tests : List (Unit → Outcome)} (each : ∀ test ∈ tests, FailsBut others (test ())) :
    FailsBut others (Outcome.any tests) := by
  rw [Outcome.any_eq_all]
  apply FailsBut.map
  apply FailsBut.all
  intro negated member
  obtain ⟨test, listed, rfl⟩ := List.mem_map.mp member
  exact (each test listed).map not

end FailsBut

namespace Binary64

/-- A whole number other than zero is not rounded to zero. -/
theorem isZero_of_ofInt? {whole : Int} {nearest : Binary64} (found : ofInt? whole = some nearest)
    (nonzero : whole ≠ 0) : nearest.isZero = false := by
  have size : whole.natAbs ≠ 0 := Int.natAbs_ne_zero.mpr nonzero
  have kept {negative : Bool} {significand : Nat} {exponent : Int}
      {reached : minExponent ≤ exponent} (positive : significand ≠ 0) :
      (ofScaled negative significand exponent reached).isZero = false := by
    rw [ofScaled, if_neg positive]
    split
    · split
      · simpa [isZero] using positive
      · rfl
    · split
      · rfl
      · rfl
  obtain rfl : ofRatio (decide (whole < 0)) whole.natAbs 1 = nearest := by
    rw [ofInt?] at found
    split at found
    · exact Option.some.inj found
    · contradiction
  rw [ofRatio, if_neg size]
  apply kept
  split
  · rename_i high
    have exponent := fittingExponent_one size
    apply Nat.ne_of_gt
    refine Nat.lt_of_lt_of_le ?_ (div_le_roundQuotient _ _)
    rw [Nat.one_mul]
    apply Nat.div_pos ?_ (Nat.two_pow_pos _)
    refine Nat.le_trans ?_ (Nat.log2_self_le size)
    exact Nat.pow_le_pow_right (by decide) (by omega)
  · apply Nat.ne_of_gt
    refine Nat.lt_of_lt_of_le ?_ (div_le_roundQuotient _ _)
    rw [Nat.div_one]
    exact Nat.mul_pos (Nat.pos_of_ne_zero size) (Nat.two_pow_pos _)

theorem equal_zero_of_isZero {real : Binary64} (zero : real.isZero = true) :
    (Value.float real).equal (.int 0) = true := by
  cases real with
  | finite negative significand exponent inFormat =>
      obtain rfl : significand = 0 := by simpa [isZero] using zero
      have point : extended? (.finite negative 0 exponent inFormat) = some (.rational 0) := by
        simp [extended?, ratio]
      simp [Value.equal, Value.isNan, Value.same, Value.point?, point]
  | _ => contradiction

end Binary64

namespace Matching

open Argument

/-- Two numbers that have no common form: a floating-point value, and a whole number beyond the
range of such values. -/
def Incommensurable (first second : Value) : Prop :=
  (IsBeyond first ∧ ∃ real, second = .float real) ∨ (∃ real, first = .float real) ∧ IsBeyond second

theorem modulo_eq_error {dividend divisor : Value} {failure : Failure}
    (number : dividend.isNumber = true) (other : divisor.isNumber = true)
    (nonzero : divisor.equal (.int 0) = false)
    (failed : modulo dividend divisor = .error failure) :
    failure = .overflow ∧ Incommensurable dividend divisor := by
  have apart {right : Int} (same : divisor = .int right) : right ≠ 0 := by
    rintro rfl
    subst same
    rw [Value.equal, Value.same_refl] at nonzero
    contradiction
  have positive {right : Binary64} (same : divisor = .float right) : right.isZero = false := by
    subst same
    by_contra zero
    rw [Binary64.equal_zero_of_isZero (by simpa using zero)] at nonzero
    contradiction
  cases dividend with
  | int left =>
      cases divisor with
      | int right => simp [modulo, numeral?, apart rfl] at failed
      | float right =>
          cases nearest : Binary64.ofInt? left with
          | none =>
              simp only [modulo, numeral?, toReal, nearest] at failed
              exact ⟨(Except.error.inj failed).symm, .inl ⟨⟨left, rfl, nearest⟩, right, rfl⟩⟩
          | some real => simp [modulo, numeral?, toReal, nearest, positive rfl] at failed
      | _ => contradiction
  | float left =>
      cases divisor with
      | int right =>
          cases nearest : Binary64.ofInt? right with
          | none =>
              simp only [modulo, numeral?, toReal, nearest] at failed
              exact ⟨(Except.error.inj failed).symm, .inr ⟨⟨left, rfl⟩, right, rfl, nearest⟩⟩
          | some real =>
              have rounded := Binary64.isZero_of_ofInt? nearest (apart rfl)
              simp [modulo, numeral?, toReal, nearest, rounded] at failed
      | float right => simp [modulo, numeral?, toReal, positive rfl] at failed
      | _ => contradiction
  | _ => contradiction

/-- A number that the test of a remainder divides: the value itself, or an item of it. -/
inductive Divided (entry : Reached) : Value → Prop where
  | value {number : Value} : entry = .value number → Divided entry number
  | item {items : List Reached} {number : Value} :
      entry.items? = some items → .value number ∈ items → Divided entry number

theorem leaves_eq_error {divisor remainder : Value} {entry : Reached} {failure : Failure}
    (other : divisor.isNumber = true) (nonzero : divisor.equal (.int 0) = false)
    (failed : leaves divisor remainder entry = .error failure) :
    failure = .overflow ∧ ∃ number, entry = .value number ∧ Incommensurable number divisor := by
  cases entry with
  | value found =>
      rw [leaves] at failed
      split at failed
      · rename_i number
        cases rest : modulo found divisor with
        | ok value => simp [rest, Except.map] at failed
        | error reason =>
            obtain ⟨overflow, apart⟩ := modulo_eq_error number other nonzero rest
            rw [rest] at failed
            exact ⟨(Except.error.inj failed).symm.trans overflow, found, rfl, apart⟩
      · contradiction
  | _ => contradiction

/-- The guarded test of a remainder fails with an overflow, at a number and a divisor that have no
common form. -/
theorem hasRemainder_fails (argument : Value) (entry : Reached) :
    FailsBut (fun failure => failure = .overflow ∧ ∃ divisor remainder number,
        argument.items? = some [divisor, remainder] ∧ Divided entry number ∧
          Incommensurable number divisor)
      (hasRemainder argument entry) := by
  unfold hasRemainder
  split
  · rename_i divisor remainder pair
    split
    · exact .ok false
    · rename_i guard
      have numbers : divisor.isNumber = true ∧ divisor.equal (.int 0) = false := by
        simpa using guard
      have each (found : Reached) : FailsBut (fun failure => failure = .overflow ∧
          ∃ number, found = .value number ∧ Incommensurable number divisor)
          (leaves divisor remainder found) :=
        fun failure failed => .inr (leaves_eq_error numbers.1 numbers.2 failed)
      split
      · rename_i items held
        apply FailsBut.any
        intro test member
        obtain ⟨item, listed, rfl⟩ := List.mem_map.mp member
        apply (each item).mono
        rintro failure ⟨overflow, number, rfl, apart⟩
        exact ⟨overflow, divisor, remainder, number, pair, .item held listed, apart⟩
      · apply (each entry).mono
        rintro failure ⟨overflow, number, same, apart⟩
        exact ⟨overflow, divisor, remainder, number, pair, .value same, apart⟩
  · exact .refused _

/-- A value in which a key cannot be looked for: no container, or a text for a key that is none. -/
inductive Closed (key : Value) : Reached → Prop where
  | gap : Closed key .gap
  | single {found : Value} : members? found = none → Closed key (.value found)
  | text {text : String} : key.text? = none → Closed key (.value (.text text))

theorem isPresent_eq_error {key : Value} {entry : Reached} {failure : Failure}
    (failed : isPresent key entry = .error failure) : failure = .mismatch ∧ Closed key entry := by
  cases entry with
  | gap => exact ⟨(Except.error.inj failed).symm, .gap⟩
  | fan items => contradiction
  | value found =>
      cases found with
      | list items | tuple items | set items | mapping entries => contradiction
      | text text =>
          cases key with
          | text part => contradiction
          | _ => exact ⟨(Except.error.inj failed).symm, .text rfl⟩
      | _ => exact ⟨(Except.error.inj failed).symm, .single rfl⟩

/-- A path that cannot be followed from a value: it comes to a sequence with a part that is made of
digits but is no numeral, or to a text with a part that is no position. -/
inductive Untraceable : Reached → List String → Failure → Prop where
  | numeral {entry : Reached} {elements : List Reached} {part : String} {rest : List String} :
      entry.sequence? = some elements → isPosition part = true →
      Numeral.integer? part.toList = none → Untraceable entry (part :: rest) .invalidValue
  | text {text part : String} {rest : List String} :
      text ≠ "" → isPosition part = false →
      Untraceable (.value (.text text)) (part :: rest) .endless
  | position {entry element : Reached} {elements : List Reached} {part : String}
      {rest : List String} {failure : Failure} :
      entry.sequence? = some elements → isPosition part = true → element ∈ elements →
      Untraceable element rest failure → Untraceable entry (part :: rest) failure
  | item {entry item : Reached} {items : List Reached} {part : String} {rest : List String}
      {failure : Failure} :
      entry.items? = some items → isPosition part = false → item ∈ items →
      Untraceable item (part :: rest) failure → Untraceable entry (part :: rest) failure
  | key {entries : Entries} {entry : Value × Value} {part : String} {rest : List String}
      {failure : Failure} :
      entry ∈ entries → entry.1.equal (.text part) = true →
      Untraceable (.value entry.2) rest failure →
      Untraceable (.value (.mapping entries)) (part :: rest) failure

theorem sequence?_of_items? {entry : Reached} {items : List Reached}
    (held : entry.items? = some items) : entry.sequence? = some items := by
  cases entry with
  | value found =>
      cases found with
      | list | tuple => exact held
      | _ => contradiction
  | _ => exact held

theorem probeAt_map {α β : Type} (items : List α) (change : α → β) (part : String)
    (next : β → Outcome) :
    probeAt (items.map change) part next = probeAt items part fun item => next (change item) := by
  simp only [probeAt, List.getElem?_map]
  split
  · rfl
  · rename_i index _
    cases items[index.toNat]? <;> rfl

/-- A sequence is entered at a position; `place` says what its members are as elements. -/
theorem probeAt_fails {α : Type} {entry : Reached} {items : List α} {place : α → Reached}
    {part : String} {rest : List String} (sequence : entry.sequence? = some (items.map place))
    (position : isPosition part = true) {next : α → Outcome}
    (each : ∀ item ∈ items, FailsBut (Untraceable (place item) rest) (next item)) :
    FailsBut (Untraceable entry (part :: rest)) (probeAt items part next) := by
  unfold probeAt
  split
  · rename_i unread
    exact .failed (.numeral sequence position unread)
  · split
    · rename_i item found
      have member := List.mem_of_getElem? found
      apply (each item member).mono
      intro failure
      exact .position sequence position (List.mem_map_of_mem member)
    · exact .ok false

theorem probeItems_fails {counts : Bool} {entry : Reached} {items : List Reached}
    (held : entry.items? = some items)
    (each : ∀ item ∈ items, ∀ path,
      FailsBut (Untraceable item path) (probeReached counts item path))
    (part : String) (rest : List String) :
    FailsBut (Untraceable entry (part :: rest))
      (probeItems counts (items.map (probeReached counts)) part rest) := by
  unfold probeItems
  by_cases position : isPosition part = true
  · rw [if_pos position, probeAt_map]
    have sequence : entry.sequence? = some (items.map id) := by
      rw [List.map_id, sequence?_of_items? held]
    apply probeAt_fails sequence position
    intro item member
    exact each item member rest
  · rw [if_neg position, List.map_map]
    apply FailsBut.any
    intro test member
    obtain ⟨item, listed, rfl⟩ := List.mem_map.mp member
    apply FailsBut.map
    apply (each item listed (part :: rest)).mono
    intro failure
    exact .item held (by simpa using position) listed

theorem probeText_fails (text : String) (path : List String) :
    FailsBut (Untraceable (.value (.text text)) path) (probeText text.toList path) := by
  induction path generalizing text with
  | nil => exact .ok true
  | cons part rest inductionHypothesis =>
      rw [probeText]
      by_cases position : isPosition part = true
      · rw [if_pos position]
        apply probeAt_fails rfl position
        intro character _
        have single := inductionHypothesis (String.singleton character)
        rwa [String.toList_singleton] at single
      · rw [if_neg position]
        by_cases empty : text.toList.isEmpty = true
        · rw [if_pos empty]
          exact .ok false
        · rw [if_neg empty]
          refine .failed (.text ?_ (by simpa using position))
          rintro rfl
          exact empty rfl

theorem probes_eq_map (counts : Bool) (values : List Value) :
    probes counts values = (values.map Reached.value).map (probeReached counts) := by
  induction values with
  | nil => rfl
  | cons value rest inductionHypothesis => rw [probes, inductionHypothesis]; rfl

theorem probesReached_eq_map (counts : Bool) (items : List Reached) :
    probesReached counts items = items.map (probeReached counts) := by
  induction items with
  | nil => rfl
  | cons item rest inductionHypothesis => rw [probesReached, inductionHypothesis]; rfl

theorem probe_fails (counts : Bool) (value : Value) (path : List String) :
    FailsBut (Untraceable (.value value) path) (probe counts value path) := by
  induction value using Value.induct generalizing path with
  | whole value inductionHypothesis =>
      have items {values : List Value} (held : value.items? = some values) :
          ∀ item ∈ values.map Reached.value, ∀ path,
            FailsBut (Untraceable item path) (probeReached counts item path) := by
        intro item member path
        obtain ⟨part, listed, rfl⟩ := List.mem_map.mp member
        exact inductionHypothesis part (Value.mem_parts held listed) path
      cases value with
      | list values | tuple values =>
          rw [probe]
          cases path with
          | nil => exact .ok true
          | cons part rest =>
              rw [probes_eq_map]
              exact probeItems_fails rfl (items rfl) part rest
      | text text =>
          rw [probe]
          exact probeText_fails text path
      | mapping entries =>
          cases path with
          | nil => exact .ok true
          | cons part rest =>
              rw [probe_mapping_cons]
              split
              · rename_i entry found
                have member := List.mem_of_find?_eq_some found
                have named := List.find?_some found
                apply (inductionHypothesis entry.2 (Value.value_mem_parts member) rest).mono
                intro failure
                exact .key member named
              · exact .ok false
      | _ => exact .ok _

theorem probeReached_fails (counts : Bool) (entry : Reached) (path : List String) :
    FailsBut (Untraceable entry path) (probeReached counts entry path) := by
  induction entry using Reached.induct generalizing path with
  | gap => exact .ok _
  | value found => exact probe_fails counts found path
  | fan items inductionHypothesis =>
      rw [probeReached]
      cases path with
      | nil => exact .ok true
      | cons part rest =>
          rw [probesReached_eq_map]
          exact probeItems_fails rfl inductionHypothesis part rest

/-- Where the test of an entry goes on: a condition in its argument, and what that is tested on. -/
inductive Opens (argument : Value) (mode : Mode) (entry : Reached) :
    Value → Value → Mode → Reached → Prop where
  | field {name : String} :
      isOperatorText name = false →
      Opens argument mode entry (.text name) argument mode (entry.reach name)
  | under {key : Value} {found : Reached} :
      key.text? = none → underKey key entry = .ok found →
      Opens argument mode entry key argument mode found
  | opposite : Opens argument mode entry (.text "$not") argument mode entry
  | size {conditions : Entries} {items : List Reached} :
      argument = .mapping conditions → entry.items? = some items →
      Opens argument mode entry (.text "$size") argument .plain (.value (.int items.length))
  | element {elements : List Reached} {element : Reached} :
      entry.sequence? = some elements → element ∈ elements →
      Opens argument mode entry (.text "$elemMatch") argument mode element
  | operand {combinator : Combinator} {operands : List Value} {operand : Value} :
      argument.items? = some operands → operand ∈ operands →
      Opens argument mode entry (.text combinator.key) operand mode entry
  | member {members : List Value} {member : Value} :
      members? argument = some members → member ∈ members →
      Opens argument mode entry (.text "$all") member mode entry

/-- What goes wrong at an entry itself without being refused. -/
inductive Fails (argument : Value) (mode : Mode) (entry : Reached) : Value → Failure → Prop where
  | choices {name : String} :
      name = "$in" ∨ name = "$nin" → argument.items? = none →
      Fails argument mode entry (.text name) (.wrongKind .choicesNotList)
  | unavailable {name : String} :
      name = "$options" ∨ name = "$text" ∨ name = "$where" →
      Fails argument mode entry (.text name) .notImplemented
  | type : argument.isKey = false → Fails argument mode entry (.text "$type") .mismatch
  | remainder {divisor remainder number : Value} :
      mode = .guarded → argument.items? = some [divisor, remainder] → Divided entry number →
      Incommensurable number divisor → Fails argument mode entry (.text "$mod") .overflow
  /-- A size cannot be divided by the first item of the argument, or there is no first or second. -/
  | division {failure : Failure} :
      mode = .plain → hasRemainderPlain argument entry = .error failure →
      Fails argument mode entry (.text "$mod") failure
  | size {conditions : Entries} :
      mode = .plain → argument = .mapping conditions → entry.items? = none →
      Fails argument mode entry (.text "$size") .mismatch
  | all : members? argument = none → Fails argument mode entry (.text "$all") .mismatch
  | pattern {source text : String} {flags : Pattern.Flags} {fault : Pattern.Fault} :
      argument = .pattern source flags → entry.text? = some text →
      Pattern.search source flags text = .error fault →
      Fails argument mode entry (.text "$regex") (.pattern fault)
  | presence {key : Value} {conditions : Entries} {flag : Value} :
      argument = .mapping conditions → conditions.get? "$exists" = some flag →
      Closed key entry → Fails argument mode entry key .mismatch
  | path {path : String} {conditions : Entries} {flag : Value} {failure : Failure} :
      argument = .mapping conditions → conditions.get? "$exists" = some flag →
      Untraceable entry (Text.pathParts path) failure →
      Fails argument mode entry (.text path) failure
  | key {key : Value} :
      key.text? = none → Closed key entry → Fails argument mode entry key .mismatch
  | unshown {name : String} :
      name ∈ ["$and", "$or", "$nor", "$type", "$size", "$regex"] → argument.isShown = false →
      Fails argument mode entry (.text name) .invalidValue
  | under {key : Value} {failure : Failure} :
      key.text? = none → isPresent key entry = .ok true → underKey key entry = .error failure →
      Fails argument mode entry key failure

/-- A failure of a condition that is no refusal: an entry fails at a place that it leads to. -/
inductive Escapes : Value → Mode → Reached → Failure → Prop where
  | here {conditions : Entries} {key argument : Value} {mode : Mode} {entry : Reached}
      {failure : Failure} :
      (key, argument) ∈ conditions → Fails argument mode entry key failure →
      Escapes (.mapping conditions) mode entry failure
  | deeper {conditions : Entries} {key argument condition : Value} {mode later : Mode}
      {entry found : Reached} {failure : Failure} :
      (key, argument) ∈ conditions → Opens argument mode entry key condition later found →
      Escapes condition later found failure → Escapes (.mapping conditions) mode entry failure

def EntryEscapes (key argument : Value) (mode : Mode) (entry : Reached)
    (failure : Failure) : Prop :=
  Fails argument mode entry key failure ∨ ∃ condition later found,
    Opens argument mode entry key condition later found ∧ Escapes condition later found failure

/-- A test fails only as the condition that it stands for does. -/
def FailsAs (condition : Value) (test : Test) : Prop :=
  ∀ mode entry, FailsBut (Escapes condition mode entry) (test mode entry)

/-- Tests of the members of an argument fail only as these do as conditions. -/
inductive MembersFailAs (argument : Value) : Option (List Test) → Prop where
  | none : members? argument = none → MembersFailAs argument none
  | some {members : List Value} {tests : List Test} :
      members? argument = some members →
      (∀ test ∈ tests, ∃ member ∈ members, FailsAs member test) →
      MembersFailAs argument (some tests)

namespace FailsAs

variable {argument : Value} {test : Test} {mode later : Mode} {entry found : Reached}

/-- A test that goes on from an entry fails only as the entry does. -/
theorem opened {key condition : Value} (fails : FailsAs condition test)
    (opens : Opens argument mode entry key condition later found) :
    FailsBut (EntryEscapes key argument mode entry) (test later found) := by
  apply (fails later found).mono
  intro failure escapes
  exact .inr ⟨condition, later, found, opens, escapes⟩

end FailsAs

variable {argument : Value} {test : Test} {tests? : Option (List Test)} {mode : Mode}
  {entry : Reached}

theorem isAmong_fails {name : String} (named : name = "$in" ∨ name = "$nin") :
    FailsBut (EntryEscapes (.text name) argument mode entry) (isAmong argument entry) := by
  unfold isAmong
  split
  · rename_i unlisted
    exact .failed (.inl (.choices named unlisted))
  · split
    · exact .ok _
    · exact .ok _

theorem operands_fails (combinator : Combinator) (argument : Value)
    (tests? : Option (List Test)) :
    FailsBut (fun failure => failure = .invalidValue ∧ argument.isShown = false)
      (operands combinator argument tests?) := by
  cases argument with
  | list | tuple | text =>
      cases tests? with
      | none => exact .untestable fun hidden => ⟨rfl, hidden⟩
      | some tests => exact .ok tests
  | _ => exact .untestable fun hidden => ⟨rfl, hidden⟩

theorem combine_fails {others : Failure → Prop} (combinator : Combinator)
    {tests : List (Unit → Outcome)} (each : ∀ test ∈ tests, FailsBut others (test ())) :
    FailsBut others (combine combinator tests) := by
  cases combinator with
  | and => exact .all each
  | or => exact .any each
  | nor => exact (FailsBut.any each).map not

theorem combined_fails (combinator : Combinator) (members : MembersFailAs argument tests?) :
    FailsBut (EntryEscapes (.text combinator.key) argument mode entry)
      (match operands combinator argument tests? with
        | .ok tests => combine combinator (runs tests mode entry)
        | .error failure => .error failure) := by
  cases listed : operands combinator argument tests? with
  | error failure =>
      rcases operands_fails combinator argument tests? failure listed with
        ⟨fault, rfl⟩ | ⟨rfl, hidden⟩
      · exact .refused fault
      · exact .failed (.inl (.unshown (by cases combinator <;> simp [Combinator.key]) hidden))
  | ok tests =>
      obtain rfl := operands_eq_ok listed
      cases members with
      | some present each =>
          apply combine_fails combinator
          intro run member
          obtain ⟨test, ran, rfl⟩ := List.mem_map.mp member
          obtain ⟨operand, held, fails⟩ := each test ran
          cases argument with
          | list | tuple => exact fails.opened (.operand present held)
          | text text =>
              obtain rfl := Option.some.inj present
              obtain ⟨character, -, rfl⟩ := List.mem_map.mp held
              refine (fails mode entry).mono ?_
              rintro failure ⟨⟩
          | _ => contradiction

theorem isOfType_fails :
    FailsBut (EntryEscapes (.text "$type") argument mode entry) (isOfType argument entry) := by
  unfold isOfType
  by_cases key : argument.isKey = true
  · rw [key]
    simp only [Bool.not_true, Bool.false_eq_true, if_false]
    split
    · exact .ok _
    · exact .untestable fun hidden => .inl (.unshown (by simp) hidden)
  · have changing : argument.isKey = false := by simpa using key
    rw [changing]
    exact .failed (.inl (.type changing))

theorem hasSize_fails (inner : FailsAs argument test)
    (unguarded : entry.items? = none → mode = .plain) :
    FailsBut (EntryEscapes (.text "$size") argument mode entry)
      (hasSize argument test (entry.items?.map List.length)) := by
  cases held : entry.items? with
  | none =>
      cases argument with
      | mapping conditions => exact .failed (.inl (.size (unguarded held) rfl held))
      | int | bool => exact .ok false
      | _ => exact .untestable fun hidden => .inl (.unshown (by simp) hidden)
  | some items =>
      cases argument with
      | mapping conditions => exact inner.opened (.size rfl held)
      | int | bool => exact .ok _
      | _ => exact .untestable fun hidden => .inl (.unshown (by simp) hidden)

theorem matchesPattern_fails :
    FailsBut (EntryEscapes (.text "$regex") argument mode entry)
      (matchesPattern argument entry) := by
  have searched (source text : String) (flags : Pattern.Flags) :
      FailsBut (EntryEscapes (.text "$regex") argument mode entry)
        (searchPattern argument source flags text) := by
    unfold searchPattern
    split
    · exact .ok _
    · exact .untestable fun hidden => .inl (.unshown (by simp) hidden)
  unfold matchesPattern
  split
  · exact .ok false
  · rename_i text held
    split
    · rename_i source flags
      cases result : Pattern.search source flags text with
      | ok found => exact .ok found
      | error fault => exact .failed (.inl (.pattern rfl held result))
    · split
      · exact searched _ _ _
      · exact searched _ _ _
    · exact .untestable fun hidden => .inl (.unshown (by simp) hidden)

theorem hasElement_fails (inner : FailsAs argument test) :
    FailsBut (EntryEscapes (.text "$elemMatch") argument mode entry)
      (hasElement argument test mode entry) := by
  unfold hasElement
  split
  · exact .ok false
  · exact .ok false
  · rename_i elements conditions _ sequence _
    apply FailsBut.any
    intro run member
    obtain ⟨element, listed, rfl⟩ := List.mem_map.mp member
    exact inner.opened (.element sequence listed)
  · exact .untestable nofun

theorem meetsAll_fails (members : MembersFailAs argument tests?) :
    FailsBut (EntryEscapes (.text "$all") argument mode entry)
      (meetsAll tests? mode entry) := by
  cases members with
  | none absent => exact .failed (.inl (.all absent))
  | some present tests =>
      apply FailsBut.all
      intro run member
      obtain ⟨test, listed, rfl⟩ := List.mem_map.mp member
      obtain ⟨member, held, fails⟩ := tests test listed
      exact fails.opened (.member present held)

theorem mem_operations {name : String} {operation : Operation}
    (found : Operation.ofKey? name = some operation) : (name, operation) ∈ operations := by
  obtain ⟨⟨key, held⟩, listed, rfl⟩ := Option.map_eq_some_iff.mp found
  obtain rfl : key = name := by simpa using List.find?_some listed
  exact List.mem_of_find?_eq_some listed

theorem apply_fails {name : String} {operation : Operation}
    (found : Operation.ofKey? name = some operation) (inner : FailsAs argument test)
    (members : MembersFailAs argument tests?) :
    FailsBut (EntryEscapes (.text name) argument mode entry)
      (operation.apply argument test tests? mode entry) := by
  have named := mem_operations found
  cases operation with
  | equal | notEqual | related | accepting => exact .ok _
  | among =>
      obtain rfl : name = "$in" := by simpa [operations] using named
      exact isAmong_fails (.inl rfl)
  | notAmong =>
      obtain rfl : name = "$nin" := by simpa [operations] using named
      exact (isAmong_fails (.inr rfl)).map not
  | combined combinator =>
      obtain rfl : name = combinator.key := by
        cases combinator <;> simpa [operations, Combinator.key] using named
      exact combined_fails combinator members
  | opposite =>
      obtain rfl : name = "$not" := by simpa [operations] using named
      exact (inner.opened .opposite).map not
  | unavailable =>
      exact .failed (.inl (.unavailable (by simpa [operations] using named)))
  | ofType =>
      obtain rfl : name = "$type" := by simpa [operations] using named
      exact isOfType_fails
  | remainder =>
      obtain rfl : name = "$mod" := by simpa [operations] using named
      cases mode with
      | guarded =>
          apply (hasRemainder_fails argument entry).mono
          rintro failure ⟨rfl, divisor, remainder, number, pair, divided, apart⟩
          exact .inl (.remainder rfl pair divided apart)
      | plain =>
          intro failure failed
          exact .inr (.inl (.division rfl failed))
  | size =>
      obtain rfl : name = "$size" := by simpa [operations] using named
      cases mode with
      | guarded =>
          simp only [Operation.apply]
          cases held : entry.items? with
          | none => exact .ok false
          | some items =>
              have sized : FailsBut (EntryEscapes (.text "$size") argument .guarded entry)
                  (hasSize argument test (entry.items?.map List.length)) :=
                hasSize_fails inner (by simp [held])
              rwa [held] at sized
      | plain => exact hasSize_fails inner fun _ => rfl
  | all =>
      obtain rfl : name = "$all" := by simpa [operations] using named
      cases mode with
      | guarded =>
          simp only [Operation.apply]
          cases entry.items? with
          | none => exact .ok false
          | some items => exact meetsAll_fails members
      | plain => exact meetsAll_fails members
  | pattern =>
      obtain rfl : name = "$regex" := by simpa [operations] using named
      exact matchesPattern_fails
  | element =>
      obtain rfl : name = "$elemMatch" := by simpa [operations] using named
      exact hasElement_fails inner

theorem presence?_fails (key : Value) :
    FailsBut (EntryEscapes key argument mode entry) (presence? key argument entry) := by
  unfold presence?
  split
  · rename_i conditions flag held flagged
    obtain rfl : argument = .mapping conditions := by
      cases argument with
      | mapping entries => exact congrArg _ (Option.some.inj held)
      | _ => contradiction
    split
    · rename_i path dotted
      obtain ⟨named, -⟩ := Option.filter_eq_some_iff.mp dotted
      obtain rfl : key = .text path := by
        cases key with
        | text name => exact congrArg _ (Option.some.inj named)
        | _ => contradiction
      apply FailsBut.map
      apply FailsBut.map
      apply (probeReached_fails _ entry _).mono
      intro failure untraceable
      exact .inl (.path rfl flagged untraceable)
    · apply FailsBut.map
      intro failure failed
      obtain ⟨rfl, closed⟩ := isPresent_eq_error failed
      exact .inr (.inl (.presence rfl flagged closed))
  · exact .ok none

theorem entryTest_fails (key : Value) (inner : FailsAs argument test)
    (members : MembersFailAs argument tests?) :
    FailsBut (EntryEscapes key argument mode entry)
      (entryTest key argument test tests? mode entry) := by
  by_cases text : ∃ name, key = .text name
  · obtain ⟨name, rfl⟩ := text
    simp only [entryTest]
    split
    · cases found : Operation.ofKey? name with
      | none =>
          refine .untestable ?_
          intro hidden
          simp [MatchFault.isShown, Value.isShown] at hidden
      | some operation => exact apply_fails found inner members
    · rename_i field
      exact inner.opened (.field (by simpa using field))
  · rw [not_exists] at text
    rw [entryTest_of_no_text text]
    have untext : key.text? = none := by
      cases key with
      | text name => exact absurd rfl (text name)
      | _ => rfl
    cases present : isPresent key entry with
    | error failure =>
        obtain ⟨rfl, closed⟩ := isPresent_eq_error present
        exact .failed (.inl (.key untext closed))
    | ok found =>
        cases found with
        | false => exact .ok false
        | true =>
            cases under : underKey key entry with
            | error failure => exact .failed (.inl (.under untext present under))
            | ok found => exact inner.opened (.under untext under)

theorem step_fails (key : Value) (inner : FailsAs argument test)
    (members : MembersFailAs argument tests?) :
    FailsBut (EntryEscapes key argument mode entry)
      (step key argument test tests? mode entry) := by
  have present : FailsBut (EntryEscapes key argument mode entry) (presence? key argument entry) :=
    presence?_fails key
  rw [step]
  cases result : presence? key argument entry with
  | error failure =>
      rw [result] at present
      exact fun other failed => present other (congrArg _ (Except.error.inj failed))
  | ok decided? =>
      cases decided? with
      | some decided => exact .ok decided
      | none => exact entryTest_fails key inner members

theorem plainTest_fails (condition wanted : Value) : FailsAs condition (plainTest wanted) :=
  fun _ _ => .ok _

/-- A condition fails only with refusals and as one of its entries does, and so do its members. -/
theorem holds_fails (condition : Value) :
    FailsAs condition (holds condition) ∧ MembersFailAs condition (memberTests? condition) := by
  induction condition using Value.induct with
  | whole condition inductionHypothesis =>
      have items {values : List Value} (held : members? condition = some values)
          (parts : ∀ value ∈ values, value ∈ condition.parts) :
          MembersFailAs condition (some (itemTests values)) := by
        apply MembersFailAs.some held
        rw [itemTests_eq_map]
        intro test member
        obtain ⟨value, listed, rfl⟩ := List.mem_map.mp member
        exact ⟨value, listed, (inductionHypothesis value (parts value listed)).1⟩
      cases condition with
      | mapping entries =>
          constructor
          · intro mode entry
            rw [holds, stepTests_eq_map]
            apply FailsBut.all
            intro run member
            obtain ⟨step, listed, rfl⟩ := List.mem_map.mp member
            obtain ⟨⟨key, argument⟩, held, rfl⟩ := List.mem_map.mp listed
            obtain ⟨inner, members⟩ :=
              inductionHypothesis argument (Value.value_mem_parts held)
            apply (step_fails key inner members).mono
            rintro failure (fails | ⟨condition, later, found, opens, escapes⟩)
            · exact .here held fails
            · exact .deeper held opens escapes
          · apply MembersFailAs.some rfl
            intro test member
            obtain ⟨entry, held, rfl⟩ := List.mem_map.mp member
            exact ⟨entry.1, List.mem_map_of_mem held, plainTest_fails _ _⟩
      | list values | tuple values | set values =>
          exact ⟨plainTest_fails _ _, items rfl fun _ => id⟩
      | text text =>
          refine ⟨plainTest_fails _ _, .some rfl ?_⟩
          intro test member
          obtain ⟨character, held, rfl⟩ := List.mem_map.mp member
          exact ⟨_, List.mem_map_of_mem held, plainTest_fails _ _⟩
      | _ => exact ⟨plainTest_fails _ _, .none rfl⟩

/-- A record fails a filter only with refusals and as one of the entries of the filter does. -/
theorem satisfies_fails (filter : Entries) (record : Value) :
    FailsBut (Escapes (.mapping (prepareEntries filter)) .guarded (.value record))
      (satisfies (.mapping filter) record) :=
  (holds_fails _).1 .guarded (.value record)

end Matching

end RecordQuery
