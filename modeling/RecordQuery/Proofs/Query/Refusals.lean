import RecordQuery.Proofs.Filter.Acceptance
import RecordQuery.Proofs.Number.Largest
import RecordQuery.Proofs.Session.Calls

/-!
# Refused arguments

A numeric argument is read or refused, unless it is a whole number beyond the floating-point range,
which overflows. Query options and settings fail in this way too, through skip and limit alone.
-/

namespace RecordQuery

/-- A result or a refusal of the query, but an overflow in case of an excess. -/
inductive AnswersUnless {α : Type} (excess : Prop) : Except Failure α → Prop where
  | found {value : α} : ¬ excess → AnswersUnless excess (.ok value)
  | refused {fault : QueryFault} : ¬ excess → AnswersUnless excess (.error (.query fault))
  | overflow : excess → AnswersUnless excess (.error .overflow)

namespace AnswersUnless

variable {α β : Type} {result : Except Failure α} {excess : Prop}

theorem imp {others : Prop} (answers : AnswersUnless excess result) (same : excess ↔ others) :
    AnswersUnless others result := by
  rwa [← propext same]

theorem bind {next : α → Except Failure β} {others : α → Prop}
    (answers : AnswersUnless excess result)
    (later : ∀ value, AnswersUnless (others value) (next value)) :
    AnswersUnless (excess ∨ ∃ value, result = .ok value ∧ others value) (result >>= next) := by
  cases answers with
  | @found value within =>
      apply (later value).imp
      simp [within]
  | refused within => exact .refused (by simp [within])
  | overflow beyond => exact .overflow (.inl beyond)

theorem andThen {next : α → Except Failure β} (answers : AnswersUnless excess result)
    (later : ∀ value, AnswersUnless False (next value)) :
    AnswersUnless excess (result >>= next) := by
  apply (answers.bind later).imp
  simp

theorem map (answers : AnswersUnless excess result) (change : α → β) :
    AnswersUnless excess (result.map change) := by
  cases answers with
  | found within => exact .found within
  | refused within => exact .refused within
  | overflow beyond => exact .overflow beyond

theorem eq_overflow (answers : AnswersUnless excess result) (beyond : excess) :
    result = .error .overflow := by
  cases answers with
  | found within => exact absurd beyond within
  | refused within => exact absurd beyond within
  | overflow _ => rfl

/-- A check in front of what answers refuses the query. -/
theorem guarded {test : Prop} [Decidable test] {fault : QueryFault} (within : ¬ excess)
    (answers : AnswersUnless excess result) :
    AnswersUnless excess (if test then .error (.query fault) else result) := by
  split
  · exact .refused within
  · exact answers

end AnswersUnless

namespace Argument

/-- A whole number beyond the floating-point range, as a number or as text. -/
inductive Oversized : Value → Prop where
  | number {value : Value} : IsBeyond value → Oversized value
  | text {text : String} {found : Value} :
      ofText? text = some found → IsBeyond found → Oversized (.text text)

theorem ofText?_of_integer? {characters : List Char} {whole : Int}
    (read : Numeral.integer? (Text.trim Text.isBlank characters) = some whole) :
    ofText? (String.ofList characters) = some (.int whole) := by
  simp only [ofText?, String.toList_ofList, read]

theorem oversized_iff {value : Value} (untext : value.text? = none) :
    Oversized value ↔ IsBeyond value := by
  constructor
  · intro oversized
    cases oversized with
    | number beyond => exact beyond
    | text spelled beyond => contradiction
  · exact .number

theorem not_oversized_null : ¬ Oversized .null := by
  rw [oversized_iff rfl]
  exact nofun

theorem oversized_text_iff {text : String} :
    Oversized (.text text) ↔ ∃ found, ofText? text = some found ∧ IsBeyond found := by
  constructor
  · intro oversized
    cases oversized with
    | number beyond => nomatch beyond
    | text spelled beyond => exact ⟨_, spelled, beyond⟩
  · rintro ⟨found, spelled, beyond⟩
    exact .text spelled beyond

theorem answers_finite (value : Value) (name : String) :
    AnswersUnless (IsBeyond value) (finite value name) := by
  cases value with
  | int whole =>
      rw [finite]
      cases nearest : Binary64.ofInt? whole with
      | none => exact .overflow ⟨whole, rfl, nearest⟩
      | some real =>
          apply AnswersUnless.found
          rintro ⟨_, ⟨⟩, beyond⟩
          simp [nearest] at beyond
  | float real =>
      rw [finite]
      by_cases number : real.isFinite = true
      · rw [if_pos number]
        apply AnswersUnless.found
        rintro ⟨_, ⟨⟩, _⟩
      · rw [if_neg number]
        apply AnswersUnless.refused
        rintro ⟨_, ⟨⟩, _⟩
  | _ =>
      apply AnswersUnless.refused
      rintro ⟨_, ⟨⟩, _⟩

theorem answers_number (value : Value) (name : String) :
    AnswersUnless (Oversized value) (number value name) := by
  cases value with
  | text text =>
      rw [number]
      cases spelled : ofText? text with
      | none =>
          apply AnswersUnless.refused
          intro oversized
          obtain ⟨found, other, -⟩ := oversized_text_iff.mp oversized
          simp [spelled] at other
      | some found =>
          apply (answers_finite found name).imp
          simp [oversized_text_iff, spelled]
  | _ => exact (answers_finite _ name).imp (oversized_iff rfl).symm

theorem isNumber_of_number {value found : Value} {name : String}
    (read : number value name = .ok found) : found.isNumber = true := by
  rcases number_eq_ok read with ⟨whole, rfl, -⟩ | ⟨real, rfl⟩ <;> rfl

theorem whole_eq (value : Value) (name : String) :
    whole value name = number value name >>= fun found =>
      match natural? found with
      | some result => .ok result
      | none => .error (.query (.notWhole name)) := by
  unfold whole
  cases number value name <;> rfl

theorem answers_whole (value : Value) (name : String) :
    AnswersUnless (Oversized value) (whole value name) := by
  rw [whole_eq]
  have narrowed (found : Value) : AnswersUnless False (match natural? found with
      | some result => .ok result
      | none => .error (.query (.notWhole name))) := by
    cases natural? found with
    | some result => exact .found id
    | none => exact .refused id
  exact (answers_number value name).andThen narrowed

end Argument

namespace Snapshot

open Argument

/-- Options that overflow: an oversized skip, or an oversized limit after a skip that is none, where
the filter can be read. -/
inductive Overflows (options : Entries) : Prop where
  | skip {filter : Checked Entries} {value : Value} :
      checkFilter (options.get? "filter") = .ok filter →
      options.get? "skip" = some value → Oversized value → Overflows options
  | limit {filter : Checked Entries} {skip : Nat} {value : Value} :
      checkFilter (options.get? "filter") = .ok filter →
      checkSkip (options.get? "skip") = .ok skip →
      options.get? "limit" = some value → Oversized value → Overflows options

theorem answers_checkFilter (part : Option Value) : AnswersUnless False (checkFilter part) := by
  rcases part with _ | value
  · exact .found id
  · have read : AnswersUnless False ((Filter.normalize value).map checkKeys) := by
      apply AnswersUnless.map
      rcases Filter.reads_filter value with ⟨-, filter, read, -⟩ | ⟨-, fault, refused⟩
      · rw [read]
        exact .found id
      · rw [refused]
        exact .refused id
    cases value with
    | null => exact .found id
    | _ => exact read

theorem answers_checkSkip (part : Option Value) :
    AnswersUnless (∃ value, part = some value ∧ Oversized value) (checkSkip part) := by
  rcases part with _ | value
  · exact .found (by simp)
  · have read : AnswersUnless (∃ given, some value = some given ∧ Oversized given)
        (whole value "skip") := by
      apply (answers_whole value "skip").imp
      simp
    cases value with
    | null =>
        apply AnswersUnless.found
        rintro ⟨_, ⟨⟩, oversized⟩
        exact not_oversized_null oversized
    | _ => exact read

theorem answers_checkLimit (part : Option Value) :
    AnswersUnless (∃ value, part = some value ∧ Oversized value) (checkLimit part) := by
  rcases part with _ | value
  · exact .found (by simp)
  · have read : AnswersUnless (∃ given, some value = some given ∧ Oversized given)
        ((whole value "limit").map some) := by
      apply ((answers_whole value "limit").map some).imp
      simp
    cases value with
    | null =>
        apply AnswersUnless.found
        rintro ⟨_, ⟨⟩, oversized⟩
        exact not_oversized_null oversized
    | _ => exact read

theorem answers_release {α : Type} (checked : Checked α) :
    AnswersUnless False (release checked) := by
  cases checked with
  | ok value => exact .found id
  | error fault => exact .refused id

theorem answers_ofEntries (options : Entries) :
    AnswersUnless (Overflows options) (ofEntries options) := by
  unfold ofEntries
  have released (filter : Checked Entries) (skip : Nat) (limit : Option Nat) :
      AnswersUnless False (do
        let fields ← release (checkFields (options.get? "fields"))
        let filter ← release filter
        let sort ← release (checkSort (options.get? "sort"))
        return ({ fields, filter, sort, skip, limit } : Snapshot)) := by
    apply (answers_release _).andThen
    intro fields
    apply (answers_release _).andThen
    intro filter
    apply (answers_release _).andThen
    intro sort
    exact .found id
  have limited (filter : Checked Entries) (skip : Nat) :=
    (answers_checkLimit (options.get? "limit")).andThen (released filter skip)
  have skipped (filter : Checked Entries) :=
    (answers_checkSkip (options.get? "skip")).bind (limited filter)
  apply ((answers_checkFilter (options.get? "filter")).bind skipped).imp
  rw [false_or]
  constructor
  · rintro ⟨filter, read, ⟨value, given, oversized⟩ | ⟨skip, small, value, given, oversized⟩⟩
    · exact .skip read given oversized
    · exact .limit read small given oversized
  · intro overflows
    cases overflows with
    | skip read given oversized => exact ⟨_, read, .inl ⟨_, given, oversized⟩⟩
    | limit read small given oversized => exact ⟨_, read, .inr ⟨_, small, _, given, oversized⟩⟩

/-- Options that overflow are a mapping that does. -/
def IsExcessive (value : Value) : Prop := ∃ options, value = .mapping options ∧ Overflows options

theorem answers_parse (value : Value) : AnswersUnless (IsExcessive value) (parse value) := by
  cases value with
  | null => exact .found nofun
  | mapping options =>
      apply (answers_ofEntries options).imp
      simp [IsExcessive]
  | _ => exact .refused nofun

end Snapshot

/-- A setting that overflows: an oversized skip or limit. -/
inductive Setting.Overflows : Setting → Prop where
  | skip {value : Value} : Argument.Oversized value → Overflows (.skip value)
  | limit {value : Value} : Argument.Oversized value → Overflows (.limit value)

namespace QueryStore

theorem overflows_single_iff {name : String} {value : Value} :
    Snapshot.Overflows [(.text name, value)] ↔
      (name = "skip" ∨ name = "limit") ∧ Argument.Oversized value := by
  have part := Entries.get?_single name value
  constructor
  · intro overflows
    cases overflows with
    | skip _ given oversized =>
        rw [part] at given
        obtain ⟨named, ⟨⟩⟩ := Option.ite_none_right_eq_some.mp given
        exact ⟨.inl named, oversized⟩
    | limit _ _ given oversized =>
        rw [part] at given
        obtain ⟨named, ⟨⟩⟩ := Option.ite_none_right_eq_some.mp given
        exact ⟨.inr named, oversized⟩
  · rintro ⟨rfl | rfl, oversized⟩
    · have unfiltered : Entries.get? [(.text "skip", value)] "filter" = none := part "filter"
      exact .skip (congrArg Snapshot.checkFilter unfiltered) (part "skip") oversized
    · have unfiltered : Entries.get? [(.text "limit", value)] "filter" = none := part "filter"
      have unskipped : Entries.get? [(.text "limit", value)] "skip" = none := part "skip"
      exact .limit (congrArg Snapshot.checkFilter unfiltered)
        (congrArg Snapshot.checkSkip unskipped) (part "limit") oversized

theorem answers_settingChange (setting : Setting) :
    AnswersUnless setting.Overflows (settingChange setting) := by
  have checked {name : String} {value : Value} {setting : Setting}
      (same : Snapshot.Overflows [(.text name, value)] ↔ setting.Overflows)
      (revise : Snapshot → Query → Query) :
      AnswersUnless setting.Overflows
        ((Snapshot.ofEntries [(.text name, value)]).map revise) :=
    ((Snapshot.answers_ofEntries _).imp same).map revise
  cases setting with
  | fields value =>
      apply AnswersUnless.guarded nofun
      apply checked
      rw [overflows_single_iff]
      exact iff_of_false (by simp) nofun
  | sort value =>
      apply AnswersUnless.guarded nofun
      apply checked
      rw [overflows_single_iff]
      exact iff_of_false (by simp) nofun
  | skip value =>
      apply checked
      rw [overflows_single_iff]
      exact ⟨fun excess => .skip excess.2, fun | .skip oversized => ⟨.inl rfl, oversized⟩⟩
  | limit value =>
      apply checked
      rw [overflows_single_iff]
      exact ⟨fun excess => .limit excess.2, fun | .limit oversized => ⟨.inr rfl, oversized⟩⟩

end QueryStore

namespace Session

open RecordQuery.Action

/-- Options that overflow: a mapping that does. -/
def Options.Overflows (options : Options) : Prop :=
  ∃ entries, options = .value (.mapping entries) ∧ Snapshot.Overflows entries

theorem answers_resolve (options : Options) : AnswersUnless options.Overflows options.resolve := by
  cases options with
  | snapshot snapshot => exact .found nofun
  | value value =>
      apply (Snapshot.answers_parse value).imp
      simp [Options.Overflows, Snapshot.IsExcessive]

theorem answers_create (options : Options) (session : Session) :
    AnswersUnless options.Overflows (perform (create options) session).1 := by
  have resolved := answers_resolve options
  rw [perform_create]
  cases result : options.resolve with
  | ok snapshot =>
      rw [result] at resolved
      exact resolved.map fun _ => session.queries.next
  | error failure =>
      rw [result] at resolved
      exact resolved.map fun _ => session.queries.next

theorem answers_assign (mark : Mark) (setting : Setting) (session : Session) :
    AnswersUnless setting.Overflows (perform (assign mark setting) session).1 := by
  have changed := QueryStore.answers_settingChange setting
  rw [perform_assign]
  cases result : QueryStore.settingChange setting with
  | ok revise =>
      rw [result] at changed
      exact changed.map fun _ => ()
  | error failure =>
      rw [result] at changed
      exact changed.map fun _ => ()

/-- Reading a number, describing a query, making one and setting a part of it: each gives a result
or refuses the query, unless a whole number is beyond the floating-point range. That overflows. -/
theorem refusals_but_for_oversized_numbers (value : Value) (name : String) (options : Options)
    (mark : Mark) (setting : Setting) (session : Session) :
    AnswersUnless (Argument.Oversized value) (Argument.number value name) ∧
    (∀ found, Argument.number value name = .ok found → found.isNumber = true) ∧
    AnswersUnless (Argument.Oversized value) (Argument.whole value name) ∧
    AnswersUnless (Snapshot.IsExcessive value) (Snapshot.parse value) ∧
    AnswersUnless options.Overflows (perform (create options) session).1 ∧
    AnswersUnless setting.Overflows (perform (assign mark setting) session).1 := by
  refine ⟨Argument.answers_number value name, ?_, Argument.answers_whole value name,
    Snapshot.answers_parse value, answers_create options session,
    answers_assign mark setting session⟩
  intro found read
  exact Argument.isNumber_of_number read

/-- The text of a whole number with 310 digits. -/
def oversizedText : String := String.ofList ('1' :: List.replicate 309 '0')

/-- Too large a whole number is not refused: neither as an argument, nor as a limit. -/
theorem oversized_numbers_are_not_refused :
    Argument.number (.int (10 ^ 309)) "x" = .error .overflow ∧
    Argument.whole (.text oversizedText) "x" = .error .overflow ∧
    Snapshot.parse (.mapping [(.text "limit", .text oversizedText)]) = .error .overflow := by
  have beyond : Argument.IsBeyond (.int (10 ^ 309)) := ⟨_, rfl, by decide +kernel⟩
  have spelled : Argument.ofText? oversizedText = some (.int (10 ^ 309)) :=
    Argument.ofText?_of_integer? (by decide +kernel)
  have oversized : Argument.Oversized (.text oversizedText) := .text spelled beyond
  refine ⟨?_, ?_, ?_⟩
  · exact (Argument.answers_number _ _).eq_overflow (.number beyond)
  · exact (Argument.answers_whole _ _).eq_overflow oversized
  · apply (Snapshot.answers_parse _).eq_overflow
    exact ⟨_, rfl, QueryStore.overflows_single_iff.mpr ⟨.inr rfl, oversized⟩⟩

end Session

end RecordQuery
