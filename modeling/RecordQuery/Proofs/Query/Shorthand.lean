import RecordQuery.Proofs.Filter.Acceptance
import RecordQuery.Proofs.Query.Failures
import RecordQuery.Proofs.Records.RecordOrder

/-!
# The short form of equality

A bare value under a field is short for the condition that the field equals it. Both are read alike
at a record unless the field leads to a list that has the value as an item: a bare value is found
among items, an equality is not. With this exception, a filter of combinators and fields keeps its
meaning when it is written in full, and a query made of it keeps a record exactly if it satisfies
the filter as it is written, where the query can be evaluated at all.
-/

namespace RecordQuery

open Matching RecordQuery.Filter

namespace Filter

mutual

/-- A filter of combinators and fields. A field has conditions, or a scalar that is allowed. -/
inductive Tree (allowed : String → Value → Prop) : Value → Prop where
  | mapping {entries : Entries} :
      (∀ entry ∈ entries, TreeEntry allowed entry) → Tree allowed (.mapping entries)

inductive TreeEntry (allowed : String → Value → Prop) : Value × Value → Prop where
  | combined {combinator : Combinator} {value : Value} {items : List Value} :
      value.items? = some items → (∀ item ∈ items, Tree allowed item) →
      TreeEntry allowed (.text combinator.key, value)
  | conditions {field : String} {value : Value} :
      isOperatorText field = false → ListsOperators value → TreeEntry allowed (.text field, value)
  | bare {field : String} {value : Value} :
      isOperatorText field = false → value.isScalar = true → allowed field value →
      TreeEntry allowed (.text field, value)

end

variable {allowed : String → Value → Prop}

theorem not_namesOperator {field : String} (plain : isOperatorText field = false) :
    ¬ NamesOperator (.text field) := by
  rw [← isOperator_iff]
  simp [isOperator, Value.text?, plain]

theorem not_namesCombinator {field : String} (plain : isOperatorText field = false) :
    ¬ NamesCombinator (.text field) :=
  fun named => not_namesOperator plain named.namesOperator

mutual

/-- A filter of combinators and fields can be read. -/
theorem Tree.written {value : Value} : Tree allowed value → Written value
  | .mapping trees => .mapping fun entry member => (trees entry member).written

theorem TreeEntry.written {entry : Value × Value} : TreeEntry allowed entry → WrittenEntry entry
  | .combined held trees => .combined ⟨_, rfl⟩ held fun item member => (trees item member).written
  | .conditions plain _ => .single (not_namesCombinator plain)
  | .bare plain _ _ => .single (not_namesCombinator plain)

end

theorem TreeEntry.text {entry : Value × Value} (tree : TreeEntry allowed entry) :
    ∃ name, entry.1 = .text name := by
  cases tree with
  | combined | conditions | bare => exact ⟨_, rfl⟩

end Filter

namespace Matching

/-- A field does not lead to a list, tuple or fan with an item that equals a value. -/
def NotAmongItems (record : Value) (field : String) (value : Value) : Prop :=
  ∀ items, ((Reached.value record).reach field).items? = some items →
    ∀ item ∈ items, item.equals value = false

def entryOutcome (record : Value) (entry : Value × Value) : Outcome :=
  let argument := prepareValue (Combinator.ofValue? entry.1).isSome entry.2
  step entry.1 argument (holds argument) (memberTests? argument) .guarded (.value record)

theorem satisfies_eq (record : Value) (entries : Entries) :
    satisfies (.mapping entries) record =
      Outcome.all (entries.map fun entry _ => entryOutcome record entry) := by
  rw [satisfies, prepare]
  dsimp only
  rw [holds, stepTests_eq_map, prepareEntries_eq_map]
  simp only [runs, List.map_map]
  rfl

theorem plain_of_isScalar {value : Value} (scalar : value.isScalar = true) :
    value.items? = none ∧ value.entries? = none := by
  cases value with
  | list | tuple | mapping => contradiction
  | _ => exact ⟨rfl, rfl⟩

theorem entryOutcome_bare {field : String} {value : Value} (plain : isOperatorText field = false)
    (scalar : value.isScalar = true) (record : Value) :
    entryOutcome record (.text field, value) =
      .ok (equalsOrHolds value ((Reached.value record).reach field)) := by
  obtain ⟨items, entries⟩ := plain_of_isScalar scalar
  rw [entryOutcome]
  dsimp only
  rw [prepareValue_plain items entries, step, presence?, entries]
  simp only [entryTest, plain, holds_plain entries]
  rfl

theorem entryOutcome_equality {field : String} {value : Value}
    (plain : isOperatorText field = false) (scalar : value.isScalar = true) (record : Value) :
    entryOutcome record (.text field, .mapping [(.text "$eq", value)]) =
      .ok (((Reached.value record).reach field).equals value) := by
  obtain ⟨-, entries⟩ := plain_of_isScalar scalar
  have unfolded : foldOptions [(.text "$eq", value)] = [(.text "$eq", value)] := by
    simp [foldOptions, Entries.get?, Entries.valueOf?, Value.same, FieldOperator.key]
  have unasked (key : Value) (entry : Reached) :
      presence? key (.mapping [(.text "$eq", value)]) entry = .ok none := by
    simp [presence?, Value.entries?, Entries.get?, Entries.valueOf?, Value.same, FieldOperator.key]
  have equal (entry : Reached) :
      step (.text "$eq") value (holds value) (memberTests? value) .guarded entry =
        .ok (entry.equals value) := by
    rw [step, presence?, entries]
    rfl
  rw [entryOutcome]
  dsimp only
  rw [ofValue?_eq_none_iff.mpr (not_namesCombinator plain), prepareValue, unfolded, step, unasked]
  simp only [entryTest, plain, holds, stepTests, runs, List.map_cons, List.map_nil, equal]
  cases ((Reached.value record).reach field).equals value <;> rfl

theorem entryOutcome_alike {field : String} {value : Value} (plain : isOperatorText field = false)
    (scalar : value.isScalar = true) {record : Value} (apart : NotAmongItems record field value) :
    entryOutcome record (.text field, value) =
      entryOutcome record (.text field, .mapping [(.text "$eq", value)]) := by
  rw [entryOutcome_bare plain scalar, entryOutcome_equality plain scalar, equalsOrHolds]
  cases held : ((Reached.value record).reach field).items? with
  | none => simp
  | some items =>
      have none : items.any (·.equals value) = false := by
        rw [List.any_eq_false]
        intro item member
        rw [apart items held item member]
        exact Bool.false_ne_true
      simp [none]

theorem entryOutcome_combined {combinator : Combinator} {value : Value} {items : List Value}
    (held : value.items? = some items)
    (mappings : ∀ item ∈ items, ∃ entries, item = .mapping entries) (record : Value) :
    entryOutcome record (.text combinator.key, value) =
      combine combinator (items.map fun item _ => satisfies item record) := by
  have listed : prepareValue true value = .list (prepareItems items) := by
    cases value with
    | list | tuple =>
        obtain rfl := Option.some.inj held
        rfl
    | _ => contradiction
  rw [entryOutcome]
  dsimp only
  rw [Combinator.ofValue?_key, Option.isSome_some, listed, step_combined, prepareItems_eq_map,
    List.map_map]
  apply congrArg (combine combinator)
  rw [runs, List.map_map]
  apply List.map_congr_left
  intro item member
  obtain ⟨entries, rfl⟩ := mappings item member
  rfl

theorem exists_of_tree {allowed : String → Value → Prop} {value : Value}
    (tree : Tree allowed value) : ∃ entries, value = .mapping entries ∧
      ∀ entry ∈ entries, TreeEntry allowed entry := by
  cases tree with
  | mapping each => exact ⟨_, rfl, each⟩

/-- Filters that give the same at a record as they are written and in full. -/
def MeansTheSame (record value : Value) (filter : Entries) : Prop :=
  satisfies value record = satisfies (.mapping filter) record

theorem entryOutcome_operands {record value : Value} {combinator : Combinator}
    {items : List Value} {filters : List Entries} (held : value.items? = some items)
    (trees : ∀ item ∈ items, Tree (NotAmongItems record) item)
    (same : List.Forall₂ (MeansTheSame record) items filters) :
    entryOutcome record (.text combinator.key, value) =
      entryOutcome record (.text combinator.key, .list (filters.map .mapping)) := by
  have mappings : ∀ item ∈ items, ∃ entries, item = .mapping entries := by
    intro item member
    obtain ⟨entries, shape, -⟩ := exists_of_tree (trees item member)
    exact ⟨entries, shape⟩
  have full : ∀ item ∈ filters.map Value.mapping, ∃ entries, item = .mapping entries := by
    simp
  rw [entryOutcome_combined held mappings, entryOutcome_combined rfl full]
  apply congrArg (combine combinator)
  rw [List.map_map, ← List.forall₂_eq_eq_eq, List.forall₂_map_left_iff,
    List.forall₂_map_right_iff]
  apply same.imp
  intro item filter same
  exact funext fun _ => same

/-- Other entries than those of combinators are read alike, if a bare value is not among items. -/
theorem entryOutcome_field {record value : Value} {field : String} {other : Value × Value}
    (plain : isOperatorText field = false)
    (bare : ¬ ListsOperators value → value.isScalar = true ∧ NotAmongItems record field value)
    (completes : CompletesEntry (.text field, value) other) :
    entryOutcome record (.text field, value) = entryOutcome record other := by
  cases completes with
  | combined named => exact absurd named (not_namesCombinator plain)
  | operator | conditions => rfl
  | equality _ unlisted =>
      obtain ⟨scalar, apart⟩ := bare unlisted
      exact entryOutcome_alike plain scalar apart

mutual

/-- A filter of combinators and fields means the same in full, at a record where no field with a
bare value leads to a list that has the value as an item. -/
theorem meansTheSame_of_tree {record value : Value} {filter : Entries} :
    Tree (NotAmongItems record) value → Completes value filter → MeansTheSame record value filter
  | .mapping trees, .mapping completed => by
      rw [MeansTheSame, satisfies_eq, satisfies_eq]
      apply congrArg Outcome.all
      rw [← List.forall₂_eq_eq_eq, List.forall₂_map_left_iff, List.forall₂_map_right_iff]
      apply Value.forall₂_imp_of_mem ?_ completed
      intro entry member other _ completes
      exact funext fun _ => entryOutcome_of_tree (trees entry member) completes

theorem entryOutcome_of_tree {record : Value} {entry other : Value × Value} :
    TreeEntry (NotAmongItems record) entry → CompletesEntry entry other →
      entryOutcome record entry = entryOutcome record other
  | .combined held trees, .combined _ listed completed => by
      obtain rfl := Option.some.inj (held.symm.trans listed)
      apply entryOutcome_operands held trees
      apply Value.forall₂_imp_of_mem ?_ completed
      intro item member filter _ completes
      exact meansTheSame_of_tree (trees item member) completes
  | .combined _ _, .operator _ single => absurd ⟨_, rfl⟩ single
  | .combined _ _, .conditions plain _ =>
      absurd (NamesCombinator.namesOperator ⟨_, rfl⟩) plain
  | .combined _ _, .equality plain _ => absurd (NamesCombinator.namesOperator ⟨_, rfl⟩) plain
  | .conditions plain lists, completes =>
      entryOutcome_field plain (fun unlisted => absurd lists unlisted) completes
  | .bare plain scalar apart, completes =>
      entryOutcome_field plain (fun _ => ⟨scalar, apart⟩) completes

end

theorem isFolded_operands {value : Value} {items : List Value} (held : value.items? = some items) :
    isFolded true value = items.all operandFolded := by
  cases value with
  | list | tuple =>
      obtain rfl := Option.some.inj held
      exact operandsFolded_eq_all _
  | _ => contradiction

mutual

/-- A matcher can be made for a filter of combinators and fields as it is written and in full, or
for neither. -/
theorem operandFolded_of_tree {allowed : String → Value → Prop} {value : Value}
    {filter : Entries} :
    Tree allowed value → Completes value filter → operandFolded value = areFolded filter
  | .mapping trees, .mapping completed => by
      rw [operandFolded, areFolded_eq_all, areFolded_eq_all]
      exact (Matched.of_forall₂ completed).all_eq fun entry member _ completes =>
        isFolded_of_tree (trees entry member) completes

theorem isFolded_of_tree {allowed : String → Value → Prop} {entry other : Value × Value} :
    TreeEntry allowed entry → CompletesEntry entry other →
      isFolded (Combinator.ofValue? entry.1).isSome entry.2 =
        isFolded (Combinator.ofValue? other.1).isSome other.2
  | .combined held trees, .combined named listed completed => by
      obtain rfl := Option.some.inj (held.symm.trans listed)
      rw [ofValue?_isSome_iff.mpr named, isFolded_operands held, isFolded_operands rfl,
        List.all_map]
      exact (Matched.of_forall₂ completed).all_eq fun item member _ completes =>
        operandFolded_of_tree (trees item member) completes
  | .combined _ _, .operator _ single => absurd ⟨_, rfl⟩ single
  | .combined _ _, .conditions plain _ =>
      absurd (NamesCombinator.namesOperator ⟨_, rfl⟩) plain
  | .combined _ _, .equality plain _ => absurd (NamesCombinator.namesOperator ⟨_, rfl⟩) plain
  | .conditions plain _, .combined named _ _ => absurd named (not_namesCombinator plain)
  | .conditions _ _, .operator _ _ => rfl
  | .conditions _ _, .conditions _ _ => rfl
  | .conditions _ lists, .equality _ unlisted => absurd lists unlisted
  | .bare plain _ _, .combined named _ _ => absurd named (not_namesCombinator plain)
  | .bare _ _ _, .operator _ _ => rfl
  | .bare _ _ _, .conditions _ _ => rfl
  | .bare _ scalar _, .equality _ _ => by
      obtain ⟨items, entries⟩ := plain_of_isScalar scalar
      rw [isFolded_plain items entries]
      simp [isFolded, optionsShown, Entries.get?, Entries.valueOf?, Value.same, FieldOperator.key]

end

theorem accepts_congr {record : Value} {entries filter : Entries}
    (folded : areFolded entries = areFolded filter)
    (same : MeansTheSame record (.mapping entries) filter) :
    accepts (.mapping entries) record = accepts (.mapping filter) record := by
  rw [accepts, accepts, build, build, folded, same]
  split <;> rfl

end Matching

def filterOptions (filter : Entries) : Value := .mapping [(.text "filter", .mapping filter)]

theorem text_keys_of_completes {allowed : String → Value → Prop} {entries filter : Entries}
    (tree : Tree allowed (.mapping entries)) (completes : Completes (.mapping entries) filter) :
    ∀ entry ∈ filter, ∃ name, entry.1 = .text name := by
  cases tree with
  | mapping trees =>
      cases completes with
      | mapping completed =>
          have texts : List.Forall₂ (fun _ other => ∃ name, other.1 = .text name)
              entries filter := by
            apply Value.forall₂_imp_of_mem ?_ completed
            intro entry member other _ completes
            obtain ⟨name, key⟩ := (trees entry member).text
            cases completes with
            | combined | operator | conditions | equality => exact ⟨name, key⟩
          intro other member
          obtain ⟨entry, -, named⟩ := (Matched.of_forall₂ texts).back other member
          exact named

theorem parse_filterOptions {filter normal : Entries}
    (read : Filter.normalize (.mapping filter) = .ok normal)
    (texts : ∀ entry ∈ normal, ∃ name, entry.1 = .text name) :
    Snapshot.parse (filterOptions filter) = .ok { Snapshot.empty with filter := normal } := by
  have filtered : Snapshot.checkFilter (some (.mapping filter)) = .ok (.ok normal) := by
    rw [Snapshot.checkFilter, read]
    · exact congrArg Except.ok (Snapshot.checkKeys_of_texts texts)
    · simp
  rw [filterOptions, Snapshot.parse, Snapshot.ofEntries]
  simp only [Entries.get?_single, String.reduceEq, if_true, if_false, filtered]
  rfl

/-- A query without fields, sort and page gives a single record if its filter accepts it. -/
theorem run_single (filter : Entries) (record : Value) :
    (Records.Pipeline.run { Snapshot.empty with filter } [record]).result =
      (accepts (.mapping filter) record).map fun keep => if keep then [record] else [] := by
  rw [Records.Pipeline.run, Records.Pipeline.test, accepts]
  cases build (.mapping filter) with
  | error failure => rfl
  | ok entries =>
      simp only [Records.Pipeline.marks, bind, Except.bind]
      cases satisfies (.mapping filter) record with
      | error failure => rfl
      | ok keep => cases keep <;> rfl

namespace Session

open RecordQuery.Action

/-- A filter of combinators and fields can be written in full, and a query can be made of it. At a
record where no field with a bare value leads to a list that has the value as an item, the filter
gives the same as it is written and in full. There the query gives the record exactly if the filter
accepts it, and fails as the filter does, unless it is stopped as a query that cannot be
evaluated. -/
theorem shorthand_keeps_its_meaning {allowed : Call → Prop} {session : Session} {filter : Entries}
    (reachable : Reachable allowed session) (context : Log.Recordable session.context)
    (tree : Tree (fun _ _ => True) (.mapping filter)) :
    ∃ normal mark made,
      Filter.normalize (.mapping filter) = .ok normal ∧
      perform (create (.value (filterOptions filter))) session = (.ok mark, made) ∧
      ∀ record, Tree (NotAmongItems record) (.mapping filter) →
        satisfies (.mapping filter) record = satisfies (.mapping normal) record ∧
        accepts (.mapping filter) record = accepts (.mapping normal) record ∧
        (process mark (.list [record]) made).1.result =
          (perform (requireSupport mark) made).1.bind fun _ =>
            (accepts (.mapping filter) record).map fun keep =>
              .list (if keep then [record] else []) := by
  rcases reads_filter (.mapping filter) with ⟨-, normal, read, completes⟩ | ⟨unwritten, -⟩
  · have texts := text_keys_of_completes tree completes
    have parsed := parse_filterOptions read texts
    let made := session.withQueries
      (session.queries.create { Snapshot.empty with filter := normal }).1
    have recordable : Log.Recordable made.context := by
      rw [context_withQueries]
      exact context
    refine ⟨normal, session.queries.next, made, read, ?_, ?_⟩
    · rw [perform_create, Options.resolve, parsed]
    · intro record apart
      have same : satisfies (.mapping filter) record = satisfies (.mapping normal) record :=
        meansTheSame_of_tree apart completes
      have alike := accepts_congr (operandFolded_of_tree tree completes) same
      refine ⟨same, alike, ?_⟩
      rw [result_process [record] recordable, queries_withQueries,
        reachable.tracked.snapshot_create texts, run_single, alike]
      cases accepts (.mapping normal) record <;> rfl
  · exact absurd tree.written unwritten

/-- A bare value beside a choice between a bare value and a condition. -/
def abbreviated : Entries :=
  [(.text "a", .int 1),
    (.text "$or", .list [.mapping [(.text "b", .text "x")],
      .mapping [(.text "c", .mapping [(.text "$gt", .int 2)])]])]

theorem tree_abbreviated {allowed : String → Value → Prop} (first : allowed "a" (.int 1))
    (second : allowed "b" (.text "x")) : Tree allowed (.mapping abbreviated) := by
  have operator : NamesOperator (.text "$gt") := isOperator_iff.mp rfl
  have operands : ∀ item ∈ [Value.mapping [(.text "b", .text "x")],
      .mapping [(.text "c", .mapping [(.text "$gt", .int 2)])]], Tree allowed item := by
    intro item member
    rcases List.mem_pair.mp member with rfl | rfl
    · apply Tree.mapping
      rw [List.forall_mem_singleton]
      exact .bare (by decide) rfl second
    · apply Tree.mapping
      rw [List.forall_mem_singleton]
      exact .conditions (by decide) (by simp [ListsOperators, operator])
  apply Tree.mapping
  intro entry member
  rcases List.mem_pair.mp member with rfl | rfl
  · exact .bare (by decide) rfl first
  · exact @TreeEntry.combined allowed .or _ _ rfl operands

/-- A record with other items than the bare value of a field. -/
def listedLetters : Value :=
  .mapping [(.text "a", .int 1), (.text "b", .list [.text "y", .text "z"]), (.text "c", .int 3)]

theorem apart_abbreviated : Tree (NotAmongItems listedLetters) (.mapping abbreviated) := by
  apply tree_abbreviated
  · have unlisted : ((Reached.value listedLetters).reach "a").items? = none := by cbv
    intro items held
    rw [unlisted] at held
    contradiction
  · have listed : ((Reached.value listedLetters).reach "b").items? =
        some [.value (.text "y"), .value (.text "z")] := by cbv
    intro items held
    rw [listed] at held
    obtain rfl := Option.some.inj held
    intro item member
    rcases List.mem_pair.mp member with rfl | rfl <;> cbv

/-- The record is kept, by its third field. -/
theorem abbreviated_keeps_its_meaning :
    Tree (NotAmongItems listedLetters) (.mapping abbreviated) ∧
    ∃ normal mark made,
      Filter.normalize (.mapping abbreviated) = .ok normal ∧
      perform (create (.value (filterOptions abbreviated))) quiet = (.ok mark, made) ∧
      accepts (.mapping abbreviated) listedLetters = accepts (.mapping normal) listedLetters ∧
      (process mark (.list [listedLetters]) made).1.result = .ok (.list [listedLetters]) := by
  have context : Log.Recordable quiet.context := ⟨by cbv, by cbv; simp⟩
  refine ⟨apart_abbreviated, ?_⟩
  obtain ⟨normal, mark, made, read, created, alike⟩ :=
    shorthand_keeps_its_meaning (.start rfl : Reachable (fun _ => True) quiet) context
      (tree_abbreviated trivial trivial)
  obtain ⟨-, same, result⟩ := alike listedLetters apart_abbreviated
  refine ⟨normal, mark, made, read, created, same, ?_⟩
  have given : (perform (create (.value (filterOptions abbreviated))) quiet).1 = .ok 0 := by cbv
  have after : (perform (create (.value (filterOptions abbreviated))) quiet).2 = made := by
    rw [created]
  have supported : (perform (requireSupport mark) made).1 = .ok () := by
    rw [created] at given
    obtain rfl := Except.ok.inj given
    rw [← after]
    cbv
  have accepted : accepts (.mapping abbreviated) listedLetters = .ok true := by cbv
  rw [result, supported, accepted]
  rfl

def querying (filter : Entries) : Session :=
  (Call.create (.value (filterOptions filter))).after quiet

/-- Records under one field with the value `1`, and a record with it as an item. -/
def ones : Entries := [(.text "a", .int 1)]

def listedOne : Value := .mapping [(.text "a", .list [.int 1])]

/-- Records with an entry under the name of an operator that cannot be evaluated, and such a
record. -/
def near : Entries :=
  [(.text "a", .mapping [(.text "$nearSphere", .mapping [(.text "$exists", .bool true)])])]

def nearby : Value := .mapping [(.text "a", .mapping [(.text "$nearSphere", .int 0)])]

theorem tree_ones : Tree (fun _ _ => True) (.mapping ones) := by
  apply Tree.mapping
  rw [ones, List.forall_mem_singleton]
  exact .bare (by decide) rfl trivial

theorem tree_near : Tree (fun _ _ => True) (.mapping near) := by
  have operator : NamesOperator (.text "$nearSphere") := isOperator_iff.mp rfl
  apply Tree.mapping
  rw [near, List.forall_mem_singleton]
  exact .conditions (by decide) (by simp [ListsOperators, operator])

theorem result_listedOne :
    (process 0 (.list [listedOne]) (querying ones)).1.result = .ok (.list []) := by
  have context : Log.Recordable (querying ones).context := ⟨by cbv, by cbv; simp⟩
  have supported : (perform (requireSupport 0) (querying ones)).1 = .ok () := by cbv
  rw [process_eq _ context supported]
  cbv

theorem result_nearby :
    (process 0 (.list [nearby]) (querying near)).1.result =
      .error (.query (.unsupportedOffline ["$nearSphere"])) := by
  have context : Log.Recordable (querying near).context := ⟨by cbv, by cbv; simp⟩
  have refused : (perform (requireSupport 0) (querying near)).1 =
      .error (.query (.unsupportedOffline ["$nearSphere"])) := by cbv
  rw [result_process _ context, refused]
  rfl

theorem presence_nearSphere :
    presence? (.text "$nearSphere") (.mapping [(.text "$exists", .bool true)])
      (.value (.mapping [(.text "$nearSphere", .int 0)])) = .ok (some true) := by
  have asked : Entries.get? [(.text "$exists", .bool true)] FieldOperator.exists.key =
      some (.bool true) := by
    rw [Entries.get?_single]
    rfl
  have undotted : "$nearSphere".toList.contains '.' = false := by cbv
  have present : isPresent (.text "$nearSphere")
      (.value (.mapping [(.text "$nearSphere", .int 0)])) = .ok true := by cbv
  simp only [presence?, Value.entries?, Option.bind_some, asked, Value.text?, Option.filter_some,
    undotted, present]
  cbv

/-- The name is found, before it is read as one of an operator. -/
theorem accepts_nearby : accepts (.mapping near) nearby = .ok true := by
  have unnamed : Combinator.ofValue? (.text "a") = none := by cbv
  have unfolded : foldOptions [(.text "$nearSphere", .mapping [(.text "$exists", .bool true)])] =
      [(.text "$nearSphere", .mapping [(.text "$exists", .bool true)])] := by cbv
  have unasked (argument : Value) : presence? (.text "a")
      (.mapping [(.text "$nearSphere", argument)]) (.value nearby) = .ok none := by cbv
  have plain : isOperatorText "a" = false := by decide
  have reached : Reached.reach (.value nearby) "a" =
      .value (.mapping [(.text "$nearSphere", .int 0)]) := by cbv
  have built : build (.mapping near) = .ok (prepareEntries near) := by cbv
  rw [accepts, built]
  change satisfies (.mapping near) nearby = .ok true
  rw [near, satisfies_eq, List.map_singleton, entryOutcome]
  dsimp only
  rw [unnamed, prepareValue, unfolded, step, unasked]
  simp only [entryTest, plain, reached, holds, stepTests, runs, List.map_singleton, step,
    presence_nearSphere]
  rfl

/-- A filter accepts a list with the value as it is written but not in full, and the query does not
give it. A record that a filter accepts is not given where the query cannot be evaluated. -/
theorem items_satisfy_the_short_form_only :
    (Tree (fun _ _ => True) (.mapping ones) ∧
      accepts (.mapping ones) listedOne = .ok true ∧
      (∃ normal, Filter.normalize (.mapping ones) = .ok normal ∧
        accepts (.mapping normal) listedOne = .ok false) ∧
      (process 0 (.list [listedOne]) (querying ones)).1.result = .ok (.list [])) ∧
    Tree (fun _ _ => True) (.mapping near) ∧
      accepts (.mapping near) nearby = .ok true ∧
      (process 0 (.list [nearby]) (querying near)).1.result =
        .error (.query (.unsupportedOffline ["$nearSphere"])) := by
  have short : accepts (.mapping ones) listedOne = .ok true := by cbv
  have read : Filter.normalize (.mapping ones) =
      .ok [(.text "a", .mapping [(.text "$eq", .int 1)])] := by cbv
  have full : accepts (.mapping [(.text "a", .mapping [(.text "$eq", .int 1)])]) listedOne =
      .ok false := by cbv
  exact ⟨⟨tree_ones, short, ⟨_, read, full⟩, result_listedOne⟩, tree_near, accepts_nearby,
    result_nearby⟩

end Session

end RecordQuery
