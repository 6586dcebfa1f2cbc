import RecordQuery.Proofs.Number.Grammar
import RecordQuery.Proofs.Query.Atomicity

/-!
# Numbers and their spellings as arguments

Where a call takes a number, it takes a spelling of a whole number too, and reads it as the number.
So runs of calls that differ in spellings of numbers fail alike and leave the same session behind.
-/

namespace RecordQuery

namespace Argument

inductive StandsFor : Value → Value → Prop where
  | same (value : Value) : StandsFor value value
  | spelled {text : String} {value : Int} :
      Numeral.Spells Text.isBlank text.toList value → StandsFor (.text text) (.int value)

namespace StandsFor

variable {given meant : Value}

theorem number (stands : StandsFor given meant) (name : String) :
    number given name = number meant name := by
  cases stands with
  | same => rfl
  | spelled spells => exact number_of_spells spells name

theorem whole (stands : StandsFor given meant) (name : String) :
    whole given name = whole meant name := by
  rw [Argument.whole, Argument.whole, stands.number]

end StandsFor

end Argument

open Argument (StandsFor)

namespace FieldOperation

/-- Operations that differ in spellings of numbers. -/
inductive Means : FieldOperation → FieldOperation → Prop where
  | same (operation : FieldOperation) : Means operation operation
  | size {given meant : Value} : StandsFor given meant → Means (.size given) (.size meant)
  | mod {givenDivisor meantDivisor givenRemainder meantRemainder : Value} :
      StandsFor givenDivisor meantDivisor → StandsFor givenRemainder meantRemainder →
      Means (.mod givenDivisor givenRemainder) (.mod meantDivisor meantRemainder)
  | near {coordinate given meant : Value} :
      StandsFor given meant → Means (.near coordinate given) (.near coordinate meant)

namespace Means

variable {given meant : FieldOperation}

theorem edits (means : Means given meant) (limit : Int) :
    given.edits limit = meant.edits limit := by
  cases means with
  | same => rfl
  | size stands => simp only [FieldOperation.edits, stands.whole]
  | mod divisor remainder =>
      simp only [FieldOperation.edits, modEdits, divisor.number, remainder.number]
  | near stands =>
      -- A distance that is left out is no number, so the two are told apart first.
      cases stands with
      | same => rfl
      | spelled spells =>
          simp only [FieldOperation.edits, nearEdits, Argument.number_of_spells spells]

theorem usesPointLimit (means : Means given meant) :
    given.usesPointLimit = meant.usesPointLimit := by
  cases means <;> rfl

end Means

end FieldOperation

def Snapshot.numberNames : List String := ["skip", "limit"]

/-- Entries of options that differ in spellings of numbers. -/
inductive Entries.Means : Entries → Entries → Prop where
  | nil : Means [] []
  | same (entry : Value × Value) {given meant : Entries} :
      Means given meant → Means (entry :: given) (entry :: meant)
  | number {name : String} {givenValue meantValue : Value} {given meant : Entries} :
      name ∈ Snapshot.numberNames → StandsFor givenValue meantValue → Means given meant →
      Means ((.text name, givenValue) :: given) ((.text name, meantValue) :: meant)

namespace Snapshot

theorem checkSkip_eq {given meant : Value} (stands : StandsFor given meant) :
    checkSkip (some given) = checkSkip (some meant) := by
  cases stands with
  | same => rfl
  | spelled spells => exact (StandsFor.spelled spells).whole "skip"

theorem checkLimit_eq {given meant : Value} (stands : StandsFor given meant) :
    checkLimit (some given) = checkLimit (some meant) := by
  cases stands with
  | same => rfl
  | spelled spells => exact congrArg (Except.map some) ((StandsFor.spelled spells).whole "limit")

end Snapshot

namespace Entries.Means

variable {given meant : Entries}

/-- A part is there on both sides or on neither; the two are one, unless they are numbers. -/
theorem get? (means : Means given meant) (name : String) :
    given.get? name = meant.get? name ∨ name ∈ Snapshot.numberNames ∧
      ∃ givenValue meantValue, given.get? name = some givenValue ∧
        meant.get? name = some meantValue ∧ StandsFor givenValue meantValue := by
  induction means with
  | nil => exact .inl rfl
  | same entry _ inductionHypothesis =>
      simp only [Entries.get?, valueOf?, List.find?_cons] at inductionHypothesis ⊢
      cases entry.1.same (.text name) with
      | true => exact .inl rfl
      | false => exact inductionHypothesis
  | @number key givenValue meantValue given meant listed stands _ inductionHypothesis =>
      simp only [Entries.get?, valueOf?, List.find?_cons] at inductionHypothesis ⊢
      cases found : (Value.text key).same (.text name) with
      | true =>
          obtain rfl := Value.text.inj (Value.same_text.mp found)
          exact .inr ⟨listed, _, _, rfl, rfl, stands⟩
      | false => exact inductionHypothesis

theorem get?_eq (means : Means given meant) {name : String}
    (other : name ∉ Snapshot.numberNames) : given.get? name = meant.get? name :=
  (means.get? name).resolve_right fun number => other number.1

theorem ofEntries (means : Means given meant) :
    Snapshot.ofEntries given = Snapshot.ofEntries meant := by
  have skip : Snapshot.checkSkip (given.get? "skip") = Snapshot.checkSkip (meant.get? "skip") := by
    rcases means.get? "skip" with same | ⟨-, _, _, here, there, stands⟩
    · rw [same]
    · rw [here, there, Snapshot.checkSkip_eq stands]
  have limit :
      Snapshot.checkLimit (given.get? "limit") = Snapshot.checkLimit (meant.get? "limit") := by
    rcases means.get? "limit" with same | ⟨-, _, _, here, there, stands⟩
    · rw [same]
    · rw [here, there, Snapshot.checkLimit_eq stands]
  rw [Snapshot.ofEntries, Snapshot.ofEntries, skip, limit, means.get?_eq (by decide),
    means.get?_eq (by decide), means.get?_eq (by decide)]

end Entries.Means

/-- Settings that differ in spellings of numbers. -/
inductive Setting.Means : Setting → Setting → Prop where
  | same (setting : Setting) : Means setting setting
  | skip {given meant : Value} : StandsFor given meant → Means (.skip given) (.skip meant)
  | limit {given meant : Value} : StandsFor given meant → Means (.limit given) (.limit meant)

theorem Setting.Means.settingChange {given meant : Setting} (means : Setting.Means given meant) :
    QueryStore.settingChange given = QueryStore.settingChange meant := by
  have single {name : String} {given meant : Value} (listed : name ∈ Snapshot.numberNames)
      (stands : StandsFor given meant) :
      Snapshot.ofEntries [(.text name, given)] = Snapshot.ofEntries [(.text name, meant)] :=
    (Entries.Means.number listed stands .nil).ofEntries
  cases means with
  | same => rfl
  | skip stands | limit stands =>
      rw [QueryStore.settingChange, QueryStore.settingChange, single (by decide) stands]

namespace Session

open RecordQuery.Action

/-- Calls that differ in spellings of numbers. -/
inductive Call.Means : Call → Call → Prop where
  | same (call : Call) : Means call call
  | create {given meant : Entries} : Entries.Means given meant →
      Means (.create (.value (.mapping given))) (.create (.value (.mapping meant)))
  | constrain {mark : Mark} {field : Value} {given meant : FieldOperation} :
      FieldOperation.Means given meant →
      Means (.constrain mark field given) (.constrain mark field meant)
  | assign {mark : Mark} {given meant : Setting} : Setting.Means given meant →
      Means (.assign mark given) (.assign mark meant)

theorem Call.Means.agree {given meant : Call} (means : Call.Means given meant)
    (session : Session) : given.failure? session = meant.failure? session ∧
      given.after session = meant.after session := by
  cases means with
  | same => exact ⟨rfl, rfl⟩
  | create means =>
      have made := means.ofEntries
      simp only [Call.failure?, Call.after, failureOf?, perform_create, Options.resolve,
        Snapshot.parse, made, and_self]
  | @constrain mark field given meant means =>
      have same : Session.constrain mark field given = Session.constrain mark field meant := by
        simp only [Session.constrain, means.usesPointLimit, means.edits]
      rw [Call.failure?, Call.failure?, Call.after, Call.after, same]
      exact ⟨rfl, rfl⟩
  | assign means =>
      simp only [Call.failure?, Call.after, failureOf?, perform_assign, means.settingChange,
        and_self]

/-- The failures of calls that are made in turn, those that succeed having none. -/
def failures : Session → List Call → List (Option Failure)
  | _, [] => []
  | session, call :: rest => call.failure? session :: failures (call.after session) rest

theorem run_agrees {given meant : List Call} (means : List.Forall₂ Call.Means given meant)
    (session : Session) : failures session given = failures session meant ∧
      given.foldl Call.after session = meant.foldl Call.after session := by
  induction means generalizing session with
  | nil => exact ⟨rfl, rfl⟩
  | @cons call other rest others means _ inductionHypothesis =>
      obtain ⟨failed, left⟩ := means.agree session
      obtain ⟨later, last⟩ := inductionHypothesis (call.after session)
      rw [failures, failures, List.foldl_cons, List.foldl_cons, ← left, failed, later]
      exact ⟨rfl, last⟩

/-- Spellings of whole numbers are taken for the numbers. A text is read as a whole number if it
spells it between blanks. As an argument it gives its number, and its natural number or a refusal.
Runs of calls with spellings of numbers fail alike and leave the same session behind as runs with
the numbers. Only the texts that spell a whole number with white space of any kind around it give
one, and a floating-point value gives the natural number that it equals. -/
theorem spellings_stand_for_numbers :
    (∀ (text : List Char) (value : Int),
      Numeral.integer? text = some value ↔ Numeral.Spells Text.isNumeralBlank text value) ∧
    (∀ (text : List Char) (value : Int), Numeral.Spells Text.isNumeralBlank text value →
      Numeral.Spells Text.isBlank text value) ∧
    (∀ (text name : String) (value : Int), Numeral.Spells Text.isBlank text.toList value →
      (Binary64.ofInt? value).isSome = true →
      Argument.number (.text text) name = .ok (.int value) ∧
      Argument.whole (.text text) name =
        if 0 ≤ value then .ok value.toNat else .error (.query (.notWhole name))) ∧
    (∀ (session : Session) (given meant : List Call), List.Forall₂ Call.Means given meant →
      failures session given = failures session meant ∧
      given.foldl Call.after session = meant.foldl Call.after session) ∧
    (∀ (text name : String) (value : Int), Argument.number (.text text) name = .ok (.int value) →
      Numeral.Spells Text.isBlank text.toList value) ∧
    ∀ (real : Binary64) (name : String) (value : Int),
      (∃ count : Nat, Argument.whole (.float real) name = .ok count ∧ (count : Int) = value) ↔
        real.isFinite = true ∧ 0 ≤ value ∧ (Value.float real).equal (.int value) = true := by
  refine ⟨fun _ _ => Numeral.integer?_eq_some_iff, fun _ _ => Numeral.Spells.isBlank, ?_,
    fun session _ _ means => run_agrees means session,
    fun _ _ _ read => (Argument.number_text_eq_int_iff.mp read).1, ?_⟩
  · intro text name value spells inRange
    refine ⟨Argument.number_text_eq_int_iff.mpr ⟨spells, inRange⟩, ?_⟩
    rw [(StandsFor.spelled spells).whole, Argument.whole_eq_ite inRange]
  · intro real name value
    constructor
    · rintro ⟨count, read, rfl⟩
      obtain ⟨finite, same⟩ := Argument.whole_float_iff.mp read
      exact ⟨finite, Int.natCast_nonneg count, same⟩
    · rintro ⟨finite, natural, same⟩
      refine ⟨value.toNat, Argument.whole_float_iff.mpr ⟨finite, ?_⟩, Int.toNat_of_nonneg natural⟩
      rwa [Int.toNat_of_nonneg natural]

def spelledNumber : Value := .text "\t+0_٤2\n"

def spelledNegative : Value := .text "-1"

/-- A run of all calls that take numbers; the last one fails. -/
def numericCalls (number negative : Value) : List Call :=
  [.create (.value (.mapping
      [(.text "skip", number), (.text "sort", .null), (.text "limit", number)])),
    .constrain 0 (.text "a") (.size number), .constrain 0 (.text "b") (.mod number negative),
    .constrain 0 (.text "c") (.near (.list [.int 1, .int 2]) number),
    .assign 0 (.limit number), .assign 0 (.skip negative)]

theorem spelled_run_agrees :
    Argument.number spelledNumber "divisor" = .ok (.int 42) ∧
    Argument.whole spelledNumber "size" = .ok 42 ∧
    Argument.whole spelledNegative "skip" = .error (.query (.notWhole "skip")) ∧
    Numeral.Spells Text.isBlank "\t+0_٤2\n".toList 42 ∧
    failures (Session.start "") (numericCalls spelledNumber spelledNegative) =
      failures (Session.start "") (numericCalls (.int 42) (.int (-1))) ∧
    (numericCalls spelledNumber spelledNegative).foldl Call.after (Session.start "") =
      (numericCalls (.int 42) (.int (-1))).foldl Call.after (Session.start "") := by
  obtain ⟨reads, widens, accepts, runs, gives, -⟩ := spellings_stand_for_numbers
  have number : Numeral.Spells Text.isBlank "\t+0_٤2\n".toList 42 :=
    widens _ _ ((reads _ _).mp (by decide))
  have negative : Numeral.Spells Text.isBlank "-1".toList (-1) :=
    widens _ _ ((reads _ _).mp (by decide))
  have positiveRange : (Binary64.ofInt? 42).isSome = true := by decide +kernel
  have negativeRange : (Binary64.ofInt? (-1)).isSome = true := by decide +kernel
  obtain ⟨read, whole⟩ := accepts _ "divisor" _ number positiveRange
  have means : List.Forall₂ Call.Means (numericCalls spelledNumber spelledNegative)
      (numericCalls (.int 42) (.int (-1))) := by
    have stands : StandsFor spelledNumber (.int 42) := .spelled number
    have standsNegative : StandsFor spelledNegative (.int (-1)) := .spelled negative
    refine .cons (.create (.number ?_ stands (.same _ (.number ?_ stands .nil)))) (.cons
      (.constrain (.size stands)) (.cons (.constrain (.mod stands standsNegative)) (.cons
        (.constrain (.near stands)) (.cons (.assign (.limit stands)) (.cons
          (.assign (.skip standsNegative)) .nil)))))
    · decide
    · decide
  exact ⟨read, (accepts _ "size" _ number positiveRange).2,
    (accepts _ "skip" _ negative negativeRange).2, gives _ _ _ read,
    runs (Session.start "") _ _ means⟩

/-- The information separators are white space around an argument, though not around a numeral: a
text that begins with one spells nothing and still gives a whole number. -/
theorem separated_number_is_no_spelling :
    Argument.number (.text "\x1c5") "x" = .ok (.int 5) ∧
    Numeral.integer? "\x1c5".toList = none ∧
    ∀ value, ¬ Numeral.Spells Text.isNumeralBlank "\x1c5".toList value := by
  have unread : Numeral.integer? "\x1c5".toList = none := by decide
  have five : Numeral.Spells Text.isNumeralBlank ['5'] 5 :=
    Numeral.integer?_eq_some_iff.mp (by decide)
  have surrounded : Numeral.Spells Text.isBlank "\x1c5".toList 5 :=
    five.isBlank.surround (List.forall_mem_singleton.mpr rfl) (List.forall_mem_nil _)
  refine ⟨Argument.number_text_eq_int_iff.mpr ⟨surrounded, by decide +kernel⟩, unread, ?_⟩
  intro value spells
  rw [Numeral.integer?_eq_some_iff.mpr spells] at unread
  contradiction

end Session

end RecordQuery
