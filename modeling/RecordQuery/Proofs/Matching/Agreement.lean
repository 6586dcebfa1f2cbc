import RecordQuery.Matching.Condition
import RecordQuery.Proofs.Matching.Literals
import RecordQuery.Proofs.Query.Connectives

/-!
# Evaluation of akin filters

Akin filters give the same result on every record unless one of them fails. Entries are tested in
their order up to the first one that decides, so a failure that one filter reaches can stay behind a
decision in the other one.
-/

namespace RecordQuery

open Value

/-- Results that are equal unless one of them is a failure. -/
def Agree {α : Type} (left right : Except Failure α) : Prop :=
  ∀ first second, left = .ok first → right = .ok second → first = second

namespace Agree

variable {α β : Type} {left right : Except Failure α}

theorem of_eq (same : left = right) : Agree left right := by
  rintro first second rfl rightOk
  exact Except.ok.inj (rightOk.symm.trans same.symm).symm

theorem of_error_left {failure : Failure} : Agree (.error failure) right := by
  rintro _ _ ⟨⟩

theorem of_error_right {failure : Failure} : Agree left (.error failure) := by
  rintro _ _ _ ⟨⟩

theorem ok {first second : α} (same : first = second) :
    Agree (.ok first : Except Failure α) (.ok second) := of_eq (congrArg _ same)

theorem map (agree : Agree left right) (change : α → β) :
    Agree (left.map change) (right.map change) := by
  cases left with
  | error failure => exact of_error_left
  | ok first =>
      cases right with
      | error failure => exact of_error_right
      | ok second => exact of_eq (by rw [agree first second rfl rfl])

end Agree

namespace Outcome

theorem all_eq_true_iff {tests : List (Unit → Outcome)} :
    all tests = .ok true ↔ ∀ test ∈ tests, test () = .ok true := by
  induction tests with
  | nil => simp [all]
  | cons test rest inductionHypothesis =>
      rw [all, List.forall_mem_cons, ← inductionHypothesis]
      rcases test () with failure | _ | _ <;> simp

theorem exists_of_all {tests : List (Unit → Outcome)} (refused : all tests = .ok false) :
    ∃ test ∈ tests, test () = .ok false := by
  induction tests with
  | nil => cases refused
  | cons test rest inductionHypothesis =>
      rw [all] at refused
      split at refused
      · obtain ⟨other, member, decided⟩ := inductionHypothesis refused
        exact ⟨other, List.mem_cons_of_mem _ member, decided⟩
      · exact ⟨test, List.mem_cons_self, refused⟩

theorem any_eq_all (tests : List (Unit → Outcome)) :
    any tests = (all (tests.map fun test _ => (test ()).negate)).negate := by
  induction tests with
  | nil => rfl
  | cons test rest inductionHypothesis =>
      rw [any, List.map_cons, all]
      rcases test () with failure | _ | _
      · rfl
      · exact inductionHypothesis
      · rfl

variable {lefts rights : List (Unit → Outcome)}

/-- Tests in turn agree, in whatever order, if each of them agrees with one on the other side. -/
theorem agree_all
    (matched : Matched (fun left right => Agree (left ()) (right ())) lefts rights) :
    Agree (all lefts) (all rights) := by
  intro first second leftOk rightOk
  cases first with
  | true =>
      cases second with
      | true => rfl
      | false =>
          obtain ⟨right, member, refused⟩ := exists_of_all rightOk
          obtain ⟨left, leftMember, agree⟩ := matched.back right member
          exact agree _ _ (all_eq_true_iff.mp leftOk left leftMember) refused
  | false =>
      cases second with
      | false => rfl
      | true =>
          obtain ⟨left, member, refused⟩ := exists_of_all leftOk
          obtain ⟨right, rightMember, agree⟩ := matched.forth left member
          exact agree _ _ refused (all_eq_true_iff.mp rightOk right rightMember)

theorem agree_negate {left right : Outcome} (agree : Agree left right) :
    Agree left.negate right.negate :=
  agree.map not

theorem agree_any
    (matched : Matched (fun left right => Agree (left ()) (right ())) lefts rights) :
    Agree (any lefts) (any rights) := by
  rw [any_eq_all, any_eq_all]
  exact agree_negate (agree_all (matched.map _ _ fun _ _ _ agree => agree_negate agree))

end Outcome

namespace Matching

theorem equalsOrHolds_congr {left right : Value} (both : left.Interchanges right)
    (entry : Reached) : equalsOrHolds left entry = equalsOrHolds right entry := by
  simp only [equalsOrHolds, Reached.equals_congr both]

theorem isAmong_congr {left right : Value} (both : left.Interchanges right)
    (entry : Reached) : isAmong left entry = isAmong right entry := by
  rcases items?_cases both with ⟨one, other⟩ | ⟨lefts, rights, one, other, paired⟩
  · simp only [isAmong, one, other]
  · have matched := Matched.of_forall₂ paired
    simp only [isAmong, one, other]
    cases entry.items? with
    | none =>
        exact congrArg _ (matched.any_eq fun _ _ _ both => Reached.equals_congr both entry)
    | some items =>
        refine congrArg _ (matched.any_eq fun _ _ _ both => ?_)
        simp only [Reached.equals_congr both]

theorem isPresent_congr {left right : Value} (both : left.Interchanges right)
    (entry : Reached) : isPresent left entry = isPresent right entry := by
  cases entry with
  | gap => rfl
  | fan items => simp only [isPresent, Reached.equals_congr both]
  | value found =>
      cases found with
      | mapping entries => simp only [isPresent, Entries.valueOf?, same_congr_right both]
      | list items | tuple items | set items => simp only [isPresent, isIn, same_congr_right both]
      | text text =>
          have texts := text?_congr both
          cases left <;> cases right <;> simp_all [isPresent, text?]
      | _ => rfl

theorem isOfType_agree {left right : Value} (both : left.Interchanges right) (entry : Reached) :
    Agree (isOfType left entry) (isOfType right entry) := by
  have types : TypeClass.ofValue? left = TypeClass.ofValue? right := by
    simp only [TypeClass.ofValue?, equal_congr_left both]
  rw [isOfType, isOfType, types]
  cases left.isKey with
  | false => exact .of_error_left
  | true =>
      cases right.isKey with
      | false => exact .of_error_right
      | true =>
          cases TypeClass.ofValue? right with
          | none => exact .of_error_left
          | some name => exact .of_eq rfl

theorem point?_of_numeral? {key : Value} {index : Int} (found : numeral? key = some (.inl index)) :
    key.point? = some (.rational index) := by
  cases key with
  | int value =>
      cases found
      rfl
  | bool value =>
      cases found
      cases value <;> rfl
  | float value => cases found
  | _ => contradiction

/-- What lies under a key in anything but a mapping is the item at its index. -/
theorem underKey_eq_ok {key : Value} {entry found : Reached}
    (reached : underKey key entry = .ok found)
    (list : ∀ entries, entry ≠ .value (.mapping entries)) :
    ∃ items index, entry.items? = some items ∧ numeral? key = some (.inl index) ∧
      ((Reached.position? items.length index).bind fun place => items[place]?) = some found := by
  unfold underKey at reached
  rcases number : numeral? key with _ | (index | real) <;>
    rcases held : entry.items? with _ | items <;> simp only [number, held] at reached
  case some.inl.some =>
    split at reached
    · rename_i item picked
      cases reached
      exact ⟨items, index, rfl, rfl, picked⟩
    · contradiction
  all_goals contradiction

/-- What lies under a key does not depend on the form of the key, unless only one form leads
anywhere. -/
theorem underKey_agree {left right : Value} (both : left.Interchanges right) (entry : Reached) :
    Agree (underKey left entry) (underKey right entry) := by
  by_cases mapping : ∃ entries, entry = .value (.mapping entries)
  · obtain ⟨entries, rfl⟩ := mapping
    simp only [underKey, Entries.valueOf?, same_congr_right both]
    exact .of_eq rfl
  · intro first second leftOk rightOk
    rw [not_exists] at mapping
    obtain ⟨items, index, held, number, found⟩ := underKey_eq_ok leftOk mapping
    obtain ⟨_, other, otherHeld, otherNumber, otherFound⟩ := underKey_eq_ok rightOk mapping
    obtain rfl := Option.some.inj (held.symm.trans otherHeld)
    have points := point?_congr both
    rw [point?_of_numeral? number, point?_of_numeral? otherNumber, Option.some.injEq,
      Extended.rational.injEq, Rat.intCast_inj] at points
    exact Option.some.inj (found.symm.trans (points ▸ otherFound))

theorem pathPresence_congr {flag other : Value} (both : flag.Interchanges other) (path : String)
    (entry : Reached) : pathPresence path flag entry = pathPresence path other entry := by
  have own : flag.equal flag = other.equal other := by
    rw [equal_congr_left both, equal_congr_right both]
  simp only [pathPresence, own, isTruthy_congr both]

/-- A demand for presence says the same for interchangeable keys and akin arguments. -/
theorem presence?_congr {left right : Value} {argument other : Value}
    (both : left.Interchanges right) (akin : Akin argument other) (entry : Reached) :
    presence? left argument entry = presence? right other entry := by
  rcases entries?_cases akin.interchanges with ⟨one, two⟩ | ⟨lefts, rights, rfl, rfl⟩
  · simp only [presence?, one, two]
  · simp only [presence?, entries?, Option.bind_some]
    rcases akin.get?_cases FieldOperator.exists.key with
      ⟨one, two⟩ | ⟨flag, other, one, two, flags, -⟩
    · simp only [one, two]
    · simp only [one, two, text?_congr both, isPresent_congr both,
        pathPresence_congr flags.interchanges, equal_congr_left flags.interchanges, akin.length_eq]

/-- What a size fits, if it is no condition, is a whole number. -/
theorem hasSize_eq_ok {argument : Value} {test : Test} {length? : Option Nat} {fits : Bool}
    (sized : hasSize argument test length? = .ok fits) (plain : argument.entries? = none) :
    ∃ wanted : Int, argument.point? = some (.rational wanted) ∧
      fits = (length?.map fun length : Nat => wanted == (length : Int)).getD false := by
  cases argument with
  | mapping => contradiction
  | int wanted => cases length? <;> exact ⟨wanted, rfl, (Except.ok.inj sized).symm⟩
  | bool wanted =>
      refine ⟨if wanted then 1 else 0, by cases wanted <;> rfl, ?_⟩
      cases length? with
      | none => exact (Except.ok.inj sized).symm
      | some length =>
          rw [← Except.ok.inj sized, Option.map_some, Option.getD_some, Bool.eq_iff_iff]
          cases wanted <;> simp <;> omega
  | _ => cases length? <;> contradiction

/-- Sizes fit akin conditions alike. -/
theorem hasSize_agree {left right : Value} (akin : Akin left right) {test other : Test}
    (tests : ∀ mode entry, Agree (test mode entry) (other mode entry)) (length? : Option Nat) :
    Agree (hasSize left test length?) (hasSize right other length?) := by
  rcases entries?_cases akin.interchanges with ⟨leftPlain, rightPlain⟩ | ⟨lefts, rights, rfl, rfl⟩
  · intro first second leftOk rightOk
    obtain ⟨wanted, one, rfl⟩ := hasSize_eq_ok leftOk leftPlain
    obtain ⟨other, two, rfl⟩ := hasSize_eq_ok rightOk rightPlain
    have points := point?_congr akin.interchanges
    rw [one, two, Option.some.injEq, Extended.rational.injEq, Rat.intCast_inj] at points
    rw [points]
  · cases length? with
    | none => exact .of_error_left
    | some length => exact tests _ _

/-- Tests whose results agree. -/
def TestsAgree (left right : Test) : Prop :=
  ∀ mode entry, Agree (left mode entry) (right mode entry)

/-- Members of arguments whose tests agree, where there are some. -/
inductive MembersAgree : Option (List Test) → Option (List Test) → Prop where
  | none : MembersAgree none none
  | some {lefts rights : List Test} : Matched TestsAgree lefts rights →
      MembersAgree (some lefts) (some rights)

/-- What agrees of two arguments of an operator. -/
structure ArgumentsAgree (operation : Operation) (left right : Value) (test other : Test)
    (members? others? : Option (List Test)) : Prop where
  akin : Akin left right
  literal : operation = .remainder ∨ operation = .pattern → left = right
  tests : TestsAgree test other
  members : MembersAgree members? others?

theorem runs_matched {lefts rights : List Test} (matched : Matched TestsAgree lefts rights)
    (mode : Mode) (entry : Reached) :
    Matched (fun left right => Agree (left ()) (right ())) (runs lefts mode entry)
      (runs rights mode entry) :=
  matched.map _ _ fun _ _ _ agree => agree mode entry

theorem combine_agree (combinator : Combinator) {lefts rights : List (Unit → Outcome)}
    (matched : Matched (fun left right => Agree (left ()) (right ())) lefts rights) :
    Agree (combine combinator lefts) (combine combinator rights) := by
  cases combinator with
  | and => exact Outcome.agree_all matched
  | or => exact Outcome.agree_any matched
  | nor => exact Outcome.agree_negate (Outcome.agree_any matched)

theorem meetsAll_agree {members? others? : Option (List Test)}
    (members : MembersAgree members? others?) (mode : Mode) (entry : Reached) :
    Agree (meetsAll members? mode entry) (meetsAll others? mode entry) := by
  cases members with
  | none => exact .of_error_left
  | some matched => exact Outcome.agree_all (runs_matched matched mode entry)

theorem hasElement_agree {left right : Value} (both : left.Interchanges right) {test other : Test}
    (tests : TestsAgree test other) (mode : Mode) (entry : Reached) :
    Agree (hasElement left test mode entry) (hasElement right other mode entry) := by
  rw [hasElement, hasElement]
  rcases entry.sequence? with _ | _ | ⟨element, rest⟩
  · exact .of_eq rfl
  · exact .of_eq rfl
  · rcases entries?_cases both with ⟨one, -⟩ | ⟨lefts, rights, rfl, rfl⟩
    · rw [one]
      exact .of_error_left
    · have same : List.Forall₂ Eq (element :: rest) (element :: rest) := List.forall₂_refl _
      refine Outcome.agree_any ((Matched.of_forall₂ same).map _ _ ?_)
      rintro found _ _ rfl
      exact tests mode found

theorem operands_eq_ok {combinator : Combinator} {argument : Value} {members? : Option (List Test)}
    {tests : List Test} (listed : operands combinator argument members? = .ok tests) :
    members? = some tests := by
  cases argument with
  | list | tuple | text =>
      cases members? with
      | none => contradiction
      | some members => exact congrArg some (Except.ok.inj listed)
  | _ => contradiction

theorem Operation.apply_agree {operation : Operation} {left right : Value} {test other : Test}
    {members? others? : Option (List Test)}
    (arguments : ArgumentsAgree operation left right test other members? others?) (mode : Mode)
    (entry : Reached) :
    Agree (operation.apply left test members? mode entry)
      (operation.apply right other others? mode entry) := by
  obtain ⟨akin, literal, tests, members⟩ := arguments
  have both := akin.interchanges
  cases operation with
  | equal => exact .ok (Reached.equals_congr both entry)
  | notEqual => exact .ok (by rw [Reached.equals_congr both entry])
  | related relation => exact .ok (by rw [Reached.relates?_congr relation akin.abreast entry])
  | among => exact .of_eq (isAmong_congr both entry)
  | notAmong => exact .of_eq (by rw [Operation.apply, Operation.apply, isAmong_congr both entry])
  | combined combinator =>
      rw [Operation.apply, Operation.apply]
      cases leftListed : operands combinator left members? with
      | error failure => exact .of_error_left
      | ok lefts =>
          cases rightListed : operands combinator right others? with
          | error failure => exact .of_error_right
          | ok rights =>
              rw [operands_eq_ok leftListed, operands_eq_ok rightListed] at members
              cases members with
              | some matched => exact combine_agree combinator (runs_matched matched mode entry)
  | opposite => exact Outcome.agree_negate (tests mode entry)
  | accepting => exact .of_eq rfl
  | unavailable => exact .of_error_left
  | ofType => exact isOfType_agree both entry
  | remainder =>
      obtain rfl := literal (.inl rfl)
      exact .of_eq rfl
  | size =>
      cases mode with
      | guarded =>
          simp only [Operation.apply]
          cases entry.items? with
          | none => exact .of_eq rfl
          | some items => exact hasSize_agree akin tests _
      | plain => exact hasSize_agree akin tests _
  | all =>
      cases mode with
      | guarded =>
          simp only [Operation.apply]
          cases entry.items? with
          | none => exact .of_eq rfl
          | some items => exact meetsAll_agree members _ entry
      | plain => exact meetsAll_agree members _ entry
  | pattern =>
      obtain rfl := literal (.inr rfl)
      exact .of_eq rfl
  | element => exact hasElement_agree both tests mode entry

/-- Remainders and patterns are the operators with literal arguments. -/
theorem isLiteral_of_ofKey? {name : String} {operation : Operation}
    (found : Operation.ofKey? name = some operation)
    (literal : operation = .remainder ∨ operation = .pattern) : isLiteral (.text name) = true := by
  obtain ⟨⟨key, held⟩, listed, rfl⟩ := Option.map_eq_some_iff.mp found
  have member := List.mem_of_find?_eq_some listed
  obtain rfl : key = name := by simpa using List.find?_some listed
  have division : FieldOperator.mod ∈ literalOperators := by simp [literalOperators]
  have pattern : FieldOperator.regex ∈ literalOperators := by simp [literalOperators]
  rcases literal with rfl | rfl
  · obtain rfl : key = "$mod" := by simpa [operations] using member
    exact isLiteral_key division
  · obtain rfl : key = "$regex" := by simpa [operations] using member
    exact isLiteral_key pattern

theorem entryTest_of_no_text {key argument : Value} (plain : ∀ name, key ≠ .text name) {test : Test}
    {members? : Option (List Test)} (mode : Mode) (entry : Reached) :
    entryTest key argument test members? mode entry =
      match isPresent key entry with
      | .error failure => .error failure
      | .ok false => .ok false
      | .ok true =>
          match underKey key entry with
          | .ok found => test mode found
          | .error failure => .error failure := by
  cases key with
  | text name => exact absurd rfl (plain name)
  | _ => rfl

theorem entryTest_agree {left right : Value × Value} (related : Counterpart left right)
    {test other : Test} {members? others? : Option (List Test)} (tests : TestsAgree test other)
    (members : MembersAgree members? others?) :
    TestsAgree (entryTest left.1 left.2 test members?)
      (entryTest right.1 right.2 other others?) := by
  intro mode entry
  by_cases text : ∃ name, left.1 = .text name
  · obtain ⟨name, leftKey⟩ := text
    rw [leftKey, (related.text_iff name).mp leftKey]
    simp only [entryTest]
    split
    · cases found : Operation.ofKey? name with
      | none => exact .of_error_left
      | some operation =>
          refine Operation.apply_agree ⟨related.values, fun literal => ?_, tests, members⟩ _ entry
          exact related.literal (leftKey ▸ isLiteral_of_ofKey? found literal)
    · exact tests mode _
  · rw [not_exists] at text
    have others : ∀ name, right.1 ≠ .text name := fun name key =>
      text name ((related.text_iff name).mpr key)
    rw [entryTest_of_no_text text, entryTest_of_no_text others, isPresent_congr related.keys]
    rcases isPresent right.1 entry with failure | _ | _
    · exact .of_error_left
    · exact .of_eq rfl
    · have under := underKey_agree related.keys entry
      cases leftUnder : underKey left.1 entry with
      | error failure => exact .of_error_left
      | ok found =>
          cases rightUnder : underKey right.1 entry with
          | error failure => exact .of_error_right
          | ok other =>
              obtain rfl := under found other leftUnder rightUnder
              exact tests mode found

theorem step_agree {left right : Value × Value} (related : Counterpart left right)
    {test other : Test} {members? others? : Option (List Test)} (tests : TestsAgree test other)
    (members : MembersAgree members? others?) :
    TestsAgree (step left.1 left.2 test members?) (step right.1 right.2 other others?) := by
  intro mode entry
  rw [step, step, presence?_congr related.keys related.values]
  rcases presence? right.1 right.2 entry with failure | _ | decided
  · exact .of_error_left
  · exact entryTest_agree related tests members mode entry
  · exact .of_eq rfl

theorem stepTests_eq_map (entries : Entries) :
    stepTests entries = entries.map fun entry =>
      step entry.1 entry.2 (holds entry.2) (memberTests? entry.2) := by
  induction entries with
  | nil => rfl
  | cons entry rest inductionHypothesis => rw [stepTests, inductionHypothesis, List.map_cons]

theorem plainTest_agree {left right : Value} (both : left.Interchanges right) :
    TestsAgree (plainTest left) (plainTest right) :=
  fun _ entry => .of_eq (by rw [plainTest, plainTest, equalsOrHolds_congr both])

theorem holds_plain {condition : Value} (plain : condition.entries? = none) :
    holds condition = plainTest condition := by
  cases condition with
  | mapping => contradiction
  | _ => rfl

/-- Akin conditions agree, and so do those of their members. -/
theorem holds_agree {left right : Value} (akin : Akin left right) :
    TestsAgree (holds left) (holds right) ∧
      MembersAgree (memberTests? left) (memberTests? right) := by
  induction left using Value.induct generalizing right with
  | whole left inductionHypothesis =>
      have both := akin.interchanges
      have plain (leftPlain : left.entries? = none) (rightPlain : right.entries? = none) :
          TestsAgree (holds left) (holds right) := by
        rw [holds_plain leftPlain, holds_plain rightPlain]
        exact plainTest_agree both
      have members {lefts rights : List Value} (parts : ∀ item ∈ lefts, item ∈ left.parts)
          (matched : Matched Akin lefts rights) :
          MembersAgree (some (itemTests lefts)) (some (itemTests rights)) := by
        rw [itemTests_eq_map, itemTests_eq_map]
        exact .some (matched.map _ _ fun item member _ akin =>
          (inductionHypothesis item (parts item member) akin).1)
      cases left with
      | list lefts =>
          obtain ⟨rights, rfl, items⟩ := akin.of_list
          exact ⟨plain rfl rfl, members (fun _ => id) (.of_forall₂ items)⟩
      | tuple lefts =>
          obtain ⟨rights, rfl, items⟩ := akin.of_tuple
          exact ⟨plain rfl rfl, members (fun _ => id) (.of_forall₂ items)⟩
      | set lefts =>
          obtain ⟨rights, rfl, items⟩ := akin.of_set
          exact ⟨plain rfl rfl, members (fun _ => id) items⟩
      | mapping lefts =>
          obtain ⟨rights, rfl, lengths, entries⟩ := akin.of_mapping
          constructor
          · intro mode entry
            rw [holds, holds, stepTests_eq_map, stepTests_eq_map]
            refine Outcome.agree_all (runs_matched (entries.map _ _ ?_) mode entry)
            intro held member other related
            obtain ⟨tests, members⟩ := inductionHypothesis held.2
              (Value.value_mem_parts member) related.values
            exact step_agree related tests members
          · exact .some (entries.map _ _ fun _ _ _ related => plainTest_agree related.keys)
      | text name =>
          obtain rfl := text_same.mp akin.same
          have same (tests : List Test) : Matched TestsAgree tests tests :=
            .of_forall₂ (List.forall₂_same.mpr fun _ _ _ _ => .of_eq rfl)
          exact ⟨plain rfl rfl, .some (same _)⟩
      | _ =>
          obtain ⟨-, rightPlain⟩ := plain_congr both rfl rfl
          refine ⟨plain rfl rightPlain, ?_⟩
          have single : memberTests? right = none := by
            cases both.twins <;> first | rfl | (cases right <;> first | rfl | contradiction)
          rw [single]
          exact .none

/-- Akin filters agree on every record. -/
theorem satisfies_agree {left right : Value} (akin : Akin left right) (record : Value) :
    Agree (satisfies left record) (satisfies right record) := by
  rcases entries?_cases akin.interchanges with ⟨one, -⟩ | ⟨lefts, rights, rfl, rfl⟩
  · cases left with
    | mapping => contradiction
    | _ => exact .of_error_left
  · exact (holds_agree akin.prepared.1).1 .guarded (.value record)

end Matching

end RecordQuery
