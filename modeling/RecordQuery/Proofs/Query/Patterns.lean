import RecordQuery.Proofs.Matching.Footprint
import RecordQuery.Proofs.Matching.Patterns
import RecordQuery.Proofs.Query.Atomicity
import RecordQuery.Proofs.Query.Repetition

/-!
# Patterns are searched for as they were given

An operation on a field takes a compiled pattern with options, and its modes get to the search as
letters that are written behind the pattern. The query gives a record exactly if the field holds a
text in which the pattern is found under its modes, as the options change them. The slashes that the
pattern holds do not matter.
-/

namespace RecordQuery

open Matching Pattern RecordQuery.Action

namespace PatternOptions

/-- A mode of a pattern under an option. A truth value decides; anything else asks for the mode if
it counts as true. -/
def choose (own : Bool) : Value → Bool
  | .bool choice => choice
  | option => own || option.isTruthy

def appliedTo (options : PatternOptions) (flags : Flags) : Flags :=
  { flags with
    ignoreCase := choose flags.ignoreCase options.ignoreCase
    multiline := choose flags.multiline options.multiline
    extended := choose flags.extended options.extended
    dotAll := choose flags.dotAll options.dotMatchesAll }

end PatternOptions

namespace FieldOperation

open PatternOptions

theorem isOn_eq_choose (own : Bool) (option : Value) : isOn own option = choose own option := by
  unfold isOn choose
  cases option with
  | bool choice => cases own <;> cases choice <;> rfl
  | _ => simp

def modeLetters (multiline extended dotAll : Bool) : List Char :=
  (if multiline then ['m'] else []) ++ (if extended then ['x'] else []) ++
    (if dotAll then ['s'] else [])

theorem toList_optionLetters (flags : Flags) (options : PatternOptions) :
    (optionLetters flags options).toList =
      modeLetters (options.appliedTo flags).multiline (options.appliedTo flags).extended
        (options.appliedTo flags).dotAll := by
  simp only [optionLetters, String.toList_ofList, isOn_eq_choose]
  rfl

theorem namesModes_modeLetters (multiline extended dotAll : Bool) :
    NamesModes (modeLetters multiline extended dotAll) := by
  cases multiline <;> cases extended <;> cases dotAll <;> decide

theorem ofLetters_modeLetters (multiline extended dotAll : Bool) :
    Flags.ofLetters (modeLetters multiline extended dotAll) =
      { Flags.none with multiline, extended, dotAll } := by
  cases multiline <;> cases extended <;> cases dotAll <;> decide

/-- The letters carry all modes that have one, but for that of letters in either case. -/
theorem ofLetters_optionLetters {flags : Flags} {options : PatternOptions}
    (sensitive : (options.appliedTo flags).ignoreCase = false) (unicode : flags.ascii = false)
    (compiled : flags.template = false) :
    Flags.ofLetters (optionLetters flags options).toList = options.appliedTo flags := by
  have plain : (options.appliedTo flags).ascii = false := unicode
  have untemplated : (options.appliedTo flags).template = false := compiled
  rw [toList_optionLetters, ofLetters_modeLetters]
  generalize options.appliedTo flags = modes at *
  rcases modes with ⟨ignoreCase, multiline, extended, dotAll, ascii, template⟩
  subst sensitive plain untemplated
  rfl

theorem legible_optionLetters {source : String} (anchored : source.toList.head? = some '^')
    (flags : Flags) (options : PatternOptions) :
    Legible source (optionLetters flags options) where
  named := by
    rw [toList_optionLetters]
    apply namesModes_modeLetters
  filled _ := by
    rintro rfl
    contradiction
  whole _ := by
    apply unslashed?_eq_none_of_head
    rw [anchored]
    simp

/-- What a pattern operation writes: the pattern and its letters, or no letters. -/
def patternEdits (source letters : String) : List Edit :=
  [.put .regex (.text source),
    if letters.isEmpty then .clear .regexOptions else .put .regexOptions (.text letters)]

theorem matchesEdits_compiled {source : String} {flags : Flags} {argument : OptionsArgument}
    {options : PatternOptions} (anchored : source.toList.head? = some '^')
    (resolved : argument.resolve = .ok options)
    (sensitive : (options.appliedTo flags).ignoreCase = false) :
    matchesEdits (.pattern source flags) argument =
      .ok (patternEdits source (optionLetters flags options)) := by
  have kept : isOn flags.ignoreCase options.ignoreCase = false := by
    rw [isOn_eq_choose]
    exact sensitive
  unfold matchesEdits
  simp only [resolved, patternOf, bind, Except.bind, kept, anchored, bne_self_eq_false,
    if_neg Bool.false_ne_true]
  rfl

end FieldOperation

namespace Matching

theorem walk_nil (value : Value) : Reached.walk value [] = some (.value value) := by
  cases value with
  | _ => rfl

/-- A name without dots leads to the entry of a record, or to a gap. -/
theorem reach_of_plain {field : String} (undotted : '.' ∉ field.toList) (record : Entries) :
    (Reached.value (.mapping record)).reach field =
      ((record.get? field).map Reached.value).getD .gap := by
  have parts : Text.pathParts field = [field] := by
    rw [Text.pathParts, Text.split, Text.pieces_of_not_mem undotted, List.map_singleton,
      String.ofList_toList]
  have sought : (fun entry : Value × Value => entry.1.equal (.text field)) =
      fun entry => entry.1.same (.text field) := by
    funext entry
    rw [Bool.eq_iff_iff, Value.equal_text, Value.same_text]
  rw [Reached.reach, parts, Reached.follow, Reached.walk_mapping_cons, sought, Entries.get?,
    Entries.valueOf?]
  cases record.find? fun entry => entry.1.same (.text field) with
  | none => rfl
  | some entry => simp [walk_nil]

def searchField (field source : String) (flags : Flags) (record : Entries) : Except Fault Bool :=
  match record.get? field with
  | some (.text text) => Pattern.search source flags text
  | _ => .ok false

theorem searchIn_reach {field : String} (undotted : '.' ∉ field.toList) (condition : Value)
    (source : String) (flags : Flags) (record : Entries) :
    searchIn condition source flags ((Reached.value (.mapping record)).reach field) =
      (searchField field source flags record).mapError fun fault =>
        .untestable (.invalidPattern condition fault) := by
  rw [reach_of_plain undotted, searchIn, searchField]
  cases record.get? field with
  | none => rfl
  | some found =>
      cases found with
      | text text =>
          simp only [Option.map_some, Option.getD_some, Reached.text?, Value.text?, searchPattern]
          cases Pattern.search source flags text <;> rfl
      | _ => rfl

def patternConditions (source letters : String) : Entries :=
  (.text "$regex", .text source) ::
    if letters.isEmpty then [] else [(.text "$options", .text letters)]

theorem get?_patternConditions (source letters : String) :
    (patternConditions source letters).get? "$regex" = some (.text source) ∧
      (patternConditions source letters).get? "$options" =
        (if letters.isEmpty then none else some (.text letters)) ∧
      (patternConditions source letters).get? "$exists" = none := by
  unfold patternConditions
  split <;> simp [Value.same, Entries.get?, Entries.valueOf?]

theorem legible_patternConditions {source letters : String} (legible : Legible source letters) :
    LegibleConditions (patternConditions source letters) where
  different := by
    unfold patternConditions
    split <;> simp [Value.Different, Value.same]
  legible := by
    intro pattern options first second
    obtain ⟨held, beside, -⟩ := get?_patternConditions source letters
    rw [held] at first
    rw [beside] at second
    split at second
    · contradiction
    · exact ⟨source, letters, (Option.some.inj first).symm, (Option.some.inj second).symm, legible⟩

theorem conditionsReading_patternConditions {source letters : String}
    (legible : Legible source letters) (mode : Mode) (entry : Reached) :
    conditionsReading (patternConditions source letters) mode entry =
      searchIn (withLetters source letters) source (Flags.ofLetters letters.toList) entry := by
  obtain ⟨held, beside, -⟩ := get?_patternConditions source letters
  unfold conditionsReading lettered?
  rw [held, beside]
  by_cases empty : letters.isEmpty = true
  · have none : letters = "" := by simpa using empty
    simp only [if_pos empty, patternConditions, holds, stepTests, runs, List.map_cons, List.map_nil,
      Outcome.all_singleton]
    have written : withLetters source letters = .text source := if_pos none
    rw [← entryReading_withLetters legible mode entry, written]
    rfl
  · have second : ¬ Value.same (.text "$options") (.text "$regex") = true := by simp [Value.same]
    have first : Value.same (.text "$regex") (.text "$regex") = true := by simp
    have last : Value.same (.text "$options") (.text "$options") = true := by simp
    simp only [if_neg empty, patternConditions, runs, List.map_cons, List.map_nil, letteredReading,
      if_pos first, if_neg second, if_pos last]
    rw [Outcome.all]
    rcases searchIn (withLetters source letters) source (Flags.ofLetters letters.toList) entry with
      failure | _ | _ <;> rfl

theorem accepts_patternConditions {field source letters : String}
    (plain : isOperatorText field = false) (undotted : '.' ∉ field.toList)
    (legible : Legible source letters) (record : Entries) :
    accepts (.mapping [(.text field, .mapping (patternConditions source letters))])
        (.mapping record) =
      (searchField field source (Flags.ofLetters letters.toList) record).mapError fun fault =>
        .untestable (.invalidPattern (withLetters source letters) fault) := by
  have filter : LegibleFilter
      (.mapping [(.text field, .mapping (patternConditions source letters))]) := by
    apply LegibleFilter.mapping
    rw [List.forall_mem_singleton]
    exact .field plain (legible_patternConditions legible)
  have undemanded (key : Value) (entry : Reached) :
      presence? key (.mapping (patternConditions source letters)) entry = .ok none := by
    unfold presence?
    simp only [Value.entries?, Option.bind_some, FieldOperator.key,
      (get?_patternConditions source letters).2.2]
  have operator : isOperator (.text field) = false := plain
  rw [accepts_eq_satisfies filter.operandFolded, satisfies_eq_reading filter,
    ← searchIn_reach undotted, ← conditionsReading_patternConditions legible .guarded]
  simp only [reading, readings, slotReading, operator, runs, List.map_cons, List.map_nil,
    Outcome.all_singleton, if_neg Bool.false_ne_true, step, undemanded, entryTest, plain]

end Matching

namespace QueryStore

theorem reviseAll_patternEdits (source letters : String) :
    (Entries.reviseAll [] (FieldOperation.patternEdits source letters)).1 =
      patternConditions source letters := by
  unfold patternConditions FieldOperation.patternEdits
  split <;> simp [Entries.reviseAll, Entries.revise, Edit.put, Entries.insert, Entries.erase,
    FieldOperator.key, Value.isKey, Value.same, Value.equal, Value.isNan]

theorem Tracked.snapshot_edit_create {store : QueryStore} (tracked : store.Tracked)
    {field : String} (named : ∀ combinator : Combinator, combinator.key ≠ field)
    {edits : List Edit} (written : edits ≠ []) :
    ((store.create Snapshot.empty).1.edit store.next field edits).1.snapshot store.next =
      { Snapshot.empty with
        filter := [(.text field, .mapping (Entries.reviseAll [] edits).1)] } := by
  have root := tracked.rootOf_create Snapshot.empty
  have contents : (Slots.applyEdits (Slots.ofEntries Snapshot.empty.filter) field edits).1 =
      [.plain field (.mapping (Entries.reviseAll [] edits).1)] := by
    rw [Slots.applyEdits_eq_set _ _ written]
    rfl
  rw [edit_of_field _ _ named, QueryStore.snapshot]
  change Option.getD (Option.map _ (((store.create Snapshot.empty).1.change _ _).query?
    ((store.create Snapshot.empty).1.rootOf store.next))) _ = _
  rw [query?_update, if_pos rfl, root, tracked.query?_create_next]
  simp only [Option.map_some, Option.getD_some, Query.toSnapshot, Query.update, Query.ofSnapshot,
    FilterNode.update, if_true, FilterNode.slots]
  rw [contents]
  rfl

end QueryStore

namespace Session

/-- The settings let patterns be evaluated if they list none of the two operators that a pattern is
written with. -/
theorem supports_patternConditions {settings : Settings} {names : List String}
    (listed : settings.unsupportedOperators = .ok (names.map .text)) (pattern : "$regex" ∉ names)
    (options : "$options" ∉ names) {field : String}
    (named : ∀ combinator : Combinator, combinator.key ≠ field) (source letters : String) :
    Supports settings [(.text field, .mapping (patternConditions source letters))] := by
  have uncombined : Combinator.ofValue? (.text field) = none := by
    unfold Combinator.ofValue? Combinator.ofKey?
    apply List.find?_eq_none.mpr
    intro combinator _
    simpa using named combinator
  have absent : ∀ name ∈ names,
      (Entries.valueOf? (patternConditions source letters) (.text name)).isSome = false := by
    intro name member
    have first : name ≠ "$regex" := fun same => pattern (same ▸ member)
    have second : name ≠ "$options" := fun same => options (same ▸ member)
    unfold patternConditions
    split <;> simp [Entries.valueOf?, Value.same, Ne.symm first, Ne.symm second]
  have keys : (names.map Value.text).all Value.isKey = true := by
    simp [Value.isKey]
  have none : (names.map Value.text).filter (fun operator => Filter.occursIn
      settings.recursiveCheck operator
      [(.text field, .mapping (patternConditions source letters))]) = [] := by
    apply List.filter_eq_nil_iff.mpr
    intro operator member
    obtain ⟨name, listed, rfl⟩ := List.mem_map.mp member
    simp [Filter.occursIn, Filter.occursUnder, uncombined, absent name listed]
  rw [Supports, listed]
  change Filter.occurring _ _ _ = _
  rw [Filter.occurring, if_pos keys, none]

/-- A compiled pattern that starts with an anchor can be put on a field of a new query. The query
gives a record exactly if the field holds a text in which the pattern is found, under its own modes
as far as the options leave them, and fails where the search does. It is not stopped before, if the
settings do not list the operators of patterns. -/
theorem patterns_are_searched_as_given {allowed : Call → Prop} {session : Session}
    (reachable : Reachable allowed session) (context : Log.Recordable session.context)
    {field source : String} {flags : Flags} {argument : OptionsArgument} {options : PatternOptions}
    (filled : field ≠ "") (undotted : '.' ∉ field.toList) (plain : isOperatorText field = false)
    (anchored : source.toList.head? = some '^') (resolved : argument.resolve = .ok options)
    (sensitive : (options.appliedTo flags).ignoreCase = false) (unicode : flags.ascii = false)
    (compiled : flags.template = false) :
    ∃ mark made written,
      perform (create (.value .null)) session = (.ok mark, made) ∧
      perform (constrain mark (.text field) (.matches (.pattern source flags) argument)) made =
        (.ok mark, written) ∧
      (∀ record : Entries, (process mark (.list [.mapping record]) written).1.result =
        (perform (requireSupport mark) written).1.bind fun _ =>
          ((searchField field source (options.appliedTo flags) record).mapError fun fault =>
            .untestable (.invalidPattern
              (withLetters source (FieldOperation.optionLetters flags options)) fault)).map
            fun keep => .list (if keep then [.mapping record] else [])) ∧
      ∀ settings ready (names : List String),
        perform Settings.shared written = (.ok settings, ready) →
        settings.unsupportedOperators = .ok (names.map .text) → "$regex" ∉ names →
        "$options" ∉ names → (perform (requireSupport mark) written).1 = .ok () := by
  have tracked := reachable.tracked
  have named : ∀ combinator : Combinator, combinator.key ≠ field := by
    rintro combinator rfl
    cases combinator <;> contradiction
  have textual : (FieldOperation.matches (.pattern source flags) argument).NamesOperator := trivial
  have legible := FieldOperation.legible_optionLetters anchored flags options
  have modes := FieldOperation.ofLetters_optionLetters sensitive unicode compiled
  have edited : (FieldOperation.matches (.pattern source flags) argument).edits 0 =
      .ok (FieldOperation.patternEdits source (FieldOperation.optionLetters flags options)) :=
    FieldOperation.matchesEdits_compiled anchored resolved sensitive
  generalize FieldOperation.optionLetters flags options = letters at *
  have nonempty : FieldOperation.patternEdits source letters ≠ [] := List.cons_ne_nil _ _
  have name : FieldOperation.fieldName (.text field) = .ok field := by
    rw [FieldOperation.fieldName, if_neg]
    simpa using filled
  let made := session.withQueries (session.queries.create Snapshot.empty).1
  let written := made.withQueries
    (made.queries.edit session.queries.next field (FieldOperation.patternEdits source letters)).1
  have recordable : Log.Recordable written.context := context
  have filter : written.queries.snapshot session.queries.next = { Snapshot.empty with
      filter := [(.text field, .mapping (patternConditions source letters))] } := by
    rw [← QueryStore.reviseAll_patternEdits]
    exact tracked.snapshot_edit_create named nonempty
  refine ⟨session.queries.next, made, written, ?_, ?_, ?_, ?_⟩
  · rw [perform_create]
    rfl
  · exact constrain_of_checked textual rfl edited name
  · intro record
    rw [result_process [.mapping record] recordable, filter, run_single,
      accepts_patternConditions plain undotted legible, modes]
    cases searchField field source (options.appliedTo flags) record <;> rfl
  · intro settings ready names loaded listed pattern others
    have supported : perform (requireSupport session.queries.next) written = (.ok (), ready) := by
      rw [requireSupport_eq_ok, filter]
      exact ⟨settings, loaded, supports_patternConditions listed pattern others named _ _⟩
    rw [supported]

/-- A pattern that ends like one with letters, and options that add to its modes. -/
def slashedSource : String := "^b/ms"

def ownModes : Flags := { Flags.none with multiline := true }

def addedModes : OptionsArgument :=
  .value (.mapping [(.text "dot_matches_all", .bool true), (.text "multiline", .null)])

def secondLine : Entries := [(.text "t", .text "a\nb/ms")]

/-- The pattern is found under its own mode, slash and all. -/
theorem slashed_pattern_is_found :
    ∃ mark made written,
      perform (create (.value .null)) quiet = (.ok mark, made) ∧
      perform (constrain mark (.text "t") (.matches (.pattern slashedSource ownModes) addedModes))
        made = (.ok mark, written) ∧
      (process mark (.list [.mapping secondLine]) written).1.result =
        .ok (.list [.mapping secondLine]) := by
  have context : Log.Recordable quiet.context := ⟨by cbv, by cbv; simp⟩
  have anchored : slashedSource.toList.head? = some '^' := by decide
  have resolved : addedModes.resolve = .ok { PatternOptions.inherited with
      dotMatchesAll := .bool true } := by cbv
  obtain ⟨mark, made, written, created, constrained, result, support⟩ :=
    patterns_are_searched_as_given (.start rfl : Reachable (fun _ => True) quiet) context
      (by decide : "t" ≠ "") (by decide) (by decide) anchored resolved
      (by decide : _ = false) (rfl : ownModes.ascii = false) rfl
  refine ⟨mark, made, written, created, constrained, ?_⟩
  have loaded : perform Settings.shared written =
      (.ok ⟨Settings.defaultFile, Settings.defaults⟩, written) := by
    have first : (perform (create (.value .null)) quiet).1 = .ok 0 := by cbv
    rw [created] at first
    obtain rfl := Except.ok.inj first
    have makes : (perform (create (.value .null)) quiet).2 = made := by rw [created]
    have writes : (perform (constrain 0 (.text "t")
        (.matches (.pattern slashedSource ownModes) addedModes)) made).2 = written := by
      rw [constrained]
    apply Settings.perform_shared_of_loaded
    rw [← writes, ← makes]
    cbv
  have supported : (perform (requireSupport mark) written).1 = .ok () := by
    apply support _ _ ["$nearSphere"] loaded (by cbv) (by decide) (by decide)
  have found : searchField "t" slashedSource
      (PatternOptions.appliedTo { PatternOptions.inherited with dotMatchesAll := .bool true }
        ownModes) secondLine = .ok true := by cbv
  rw [result, supported, found]
  rfl

/-- A filter in which patterns are legible with their letters is satisfied by a record, and accepts
it, as it is written: below fields, and below combinators at any depth, a pattern with letters asks
for a text in which it is found under the modes that the letters name, and the letters ask for
nothing else. Evaluating queries leaves their filters as they are. -/
theorem patterns_are_read_with_their_letters {filter : Entries}
    (legible : LegibleFilter (.mapping filter)) :
    (∀ record, satisfies (.mapping filter) record =
      reading (.mapping filter) .guarded (.value record)) ∧
    (∀ record, accepts (.mapping filter) record =
      reading (.mapping filter) .guarded (.value record)) ∧
    ∀ (session : Session) (mark : Mark) (records : Value),
      (process mark records session).2.queries = session.queries := by
  refine ⟨?_, ?_, ?_⟩
  · intro record
    exact satisfies_eq_reading legible record
  · intro record
    rw [accepts_eq_satisfies legible.operandFolded, satisfies_eq_reading legible]
  · intro session mark records
    exact queries_process mark records session

def lettered (source letters : String) : Value :=
  .mapping [(.text "$regex", .text source), (.text "$options", .text letters)]

/-- A choice between a pattern without letters and one with letters. -/
def eitherPattern : Entries :=
  [(.text "$or", .list [.mapping [(.text "u", .mapping [(.text "$regex", .text "^b")])],
    .mapping [(.text "v", lettered "^c/d" "is")]])]

theorem legible_eitherPattern : LegibleFilter (.mapping eitherPattern) := by
  have first : LegibleConditions (patternConditions "^b" "") :=
    legible_patternConditions ⟨by decide, by decide, by decide⟩
  have second : LegibleConditions (patternConditions "^c/d" "is") :=
    legible_patternConditions ⟨by decide, by decide, by decide⟩
  have operands : ∀ item ∈ [Value.mapping [(.text "u", .mapping (patternConditions "^b" ""))],
      .mapping [(.text "v", .mapping (patternConditions "^c/d" "is"))]], LegibleFilter item := by
    intro item member
    rcases List.mem_pair.mp member with rfl | rfl <;> apply LegibleFilter.mapping <;>
      rw [List.forall_mem_singleton]
    · exact .field (by decide) first
    · exact .field (by decide) second
  apply LegibleFilter.mapping
  rw [eitherPattern, List.forall_mem_singleton]
  exact @LegibleEntry.combined .or _ _ rfl operands

/-- A record with a text in which the second pattern is found, in capitals. -/
def capitals : Value := .mapping [(.text "u", .text "a"), (.text "v", .text "C/D")]

theorem either_pattern_is_read_with_letters :
    LegibleFilter (.mapping eitherPattern) ∧
      reading (.mapping eitherPattern) .guarded (.value capitals) = .ok true := by
  refine ⟨legible_eitherPattern, ?_⟩
  rw [← (patterns_are_read_with_their_letters legible_eitherPattern).2.1 capitals]
  cbv

/-- Letters inside an operator cannot be tested. An empty pattern with letters is taken for one that
is written in slashes, and so is a pattern in slashes that has no letters beside it. -/
theorem patterns_are_not_read_with_their_letters :
    (accepts (.mapping [(.text "a", .mapping [(.text "$not", lettered "x" "i")])])
        (.mapping [(.text "a", .text "x")]) = .error .notImplemented ∧
      accepts (.mapping [(.text "a", .mapping [(.text "$elemMatch", lettered "x" "i")])])
        (.mapping [(.text "a", .list [.text "X"])]) = .ok false) ∧
    (Pattern.search "" (Flags.ofLetters ['m']) "b" = .ok true ∧
      accepts (.mapping [(.text "a", lettered "" "m")]) (.mapping [(.text "a", .text "b")]) =
        .ok false) ∧
    Pattern.search "/a/i" (Flags.ofLetters []) "A" = .ok false ∧
      accepts (.mapping [(.text "a", lettered "/a/i" "")]) (.mapping [(.text "a", .text "A")]) =
        .ok true := by
  refine ⟨⟨?_, ?_⟩, ⟨?_, ?_⟩, ?_, ?_⟩ <;> cbv

end Session

end RecordQuery
