import RecordQuery.Proofs.Json.RoundTrip
import RecordQuery.Proofs.Number.Numeral
import RecordQuery.Proofs.Query.Equality
import RecordQuery.Proofs.Query.RoundTrip
import RecordQuery.Proofs.Store.Orders

/-!
# Queries come back from their parameters

A query is sent as parameters: the filter and the order as JSON text, the fields joined by commas,
the numbers as digits, and empty parts not at all. `Parameters.received` reads parameters as options
of a query. A query that is made from them is the one that was sent, but for a limit of zero. And
the text of all parameters together holds just these parameters.
-/

namespace RecordQuery

open Session RecordQuery.Action

namespace Parameters

/-- An option with a value, if there is one. -/
def optionEntry (key : String) (value? : Option Value) : Entries :=
  (value?.map fun value => (.text key, value)).toList

/-- An option that is read from the text of a parameter, if there is one. -/
def readOption (key : String) (text? : Option String)
    (read : String → Except Json.DecodeFault Value) : Except Json.DecodeFault Entries :=
  match text? with
  | some text => (read text).map fun value => optionEntry key (some value)
  | none => .ok (optionEntry key none)

def splitFields (text : String) : Value := .list ((Text.split ',' text).map .text)

/-- The options that parameters spell: the filter and the order as JSON, the fields between commas,
and numbers as they are spelled. -/
def received (parameters : List (String × String)) : Except Json.DecodeFault Entries := do
  let filter ← readOption "filter" (parameters.lookup "query") Json.decode
  let fields ← readOption "fields" (parameters.lookup "fields") fun text => .ok (splitFields text)
  let sort ← readOption "sort" (parameters.lookup "sort") Json.decode
  let skip ← readOption "skip" (parameters.lookup "skip") fun text => .ok (.text text)
  let limit ← readOption "limit" (parameters.lookup "limit") fun text => .ok (.text text)
  return filter ++ fields ++ sort ++ skip ++ limit

/-- A parameter with a text, if there is one. -/
def sentPart (name : String) (text? : Option String) : List (String × String) :=
  (text?.map fun text => (name, text)).toList

theorem lookup_sentPart (name key : String) (text? : Option String) :
    (sentPart name text?).lookup key = if key = name then text? else none := by
  cases text? with
  | none => simp [sentPart]
  | some text =>
      by_cases same : key = name
      · simp [sentPart, same]
      · have apart : (key == name) = false := by simpa using same
        simp [sentPart, apart, same]

theorem isPositive_int (number : Int) : isPositive (.int number) = .ok (decide (0 < number)) := by
  simp [isPositive, Value.less?, Value.isNumeric, Value.point?, Extended.less]

end Parameters

def unlessEmpty {α β : Type} (list : List α) (result : β) : Option β :=
  if list.isEmpty then none else some result

theorem unlessEmpty_elim {α β : Type} {list : List α} {result : β} {motive : Option β → Prop}
    (none : list = [] → motive none) (some : motive (some result)) :
    motive (unlessEmpty list result) := by
  cases list with
  | nil => exact none rfl
  | cons first rest => exact some

theorem Parameters.part_unlessEmpty {α : Type} (name : String) (list : List α) {value : Value}
    {text : String} (encoded : encodeValue value = .ok text) :
    part name (unlessEmpty list value) = .ok (sentPart name (unlessEmpty list text)) := by
  rw [unlessEmpty, unlessEmpty]
  split
  · rfl
  · rw [part, encoded]
    rfl

theorem Parameters.readOption_unlessEmpty {α : Type} (key : String) {list : List α} {text : String}
    {value : Value} {read : String → Except Json.DecodeFault Value}
    (back : list ≠ [] → read text = .ok value) :
    readOption key (unlessEmpty list text) read =
      .ok (optionEntry key (unlessEmpty list value)) := by
  cases list with
  | nil => rfl
  | cons first rest =>
      simp only [unlessEmpty, List.isEmpty_cons, Bool.false_eq_true, if_false, readOption,
        back (List.cons_ne_nil _ _)]
      rfl

def numberText (number : Nat) : String := String.ofList (digitsOf number)

theorem Parameters.part_number (name : String) {number? : Option Nat}
    (short : ∀ number, number? = some number → Numeral.isShort (number : Int) = true) :
    part name (number?.map fun (number : Nat) => .int number) =
      .ok (sentPart name (number?.map numberText)) := by
  cases number? with
  | none => rfl
  | some number =>
      have digits : intText number = digitsOf number := by simp [intText]
      simp only [Option.map_some, part, encodeValue, Json.encode, Json.wholeText, short number rfl,
        if_true, digits]
      rfl

theorem Parameters.readOption_number (key : String) (number? : Option Nat) :
    readOption key (number?.map numberText) (fun text => .ok (.text text)) =
      .ok (optionEntry key (number?.map fun number => .text (numberText number))) := by
  cases number? <;> rfl

theorem Parameters.splitFields_join {fields : List String} (nonempty : fields ≠ [])
    (absent : ∀ field ∈ fields, ',' ∉ field.toList) :
    splitFields (Text.join "," fields) = .list (fields.map .text) := by
  have pieces : Text.split ',' (Text.join "," fields) = fields := by
    have comma : ",".toList = [','] := by simp
    rw [Text.split, Text.join, String.toList_ofList, comma, Text.pieces_joined, List.map_map]
    · simp
    · simpa using nonempty
    · simpa using absent
  rw [splitFields, pieces]

namespace Snapshot

open Parameters

/-- A number to leave out records by. -/
def positiveSkip (snapshot : Snapshot) : Option Nat := (some snapshot.skip).filter (0 < ·)

/-- A limit that keeps some records. -/
def positiveLimit (snapshot : Snapshot) : Option Nat := snapshot.limit.filter (0 < ·)

/-- The parameters of a canonical state whose filter and order have given texts. -/
def sent (snapshot : Snapshot) (filterText sortText : String) : List (String × String) :=
  sentPart "query" (unlessEmpty snapshot.filter filterText) ++
    (sentPart "fields" (unlessEmpty snapshot.fields (Text.join "," snapshot.fields)) ++
      sentPart "limit" (snapshot.positiveLimit.map numberText) ++
      sentPart "skip" (snapshot.positiveSkip.map numberText) ++
      sentPart "sort" (unlessEmpty snapshot.sort sortText))

section Sending

variable (snapshot : Snapshot)

theorem present?_filter :
    present? snapshot.toEntries "filter" =
      unlessEmpty snapshot.filter (.mapping snapshot.filter) := by
  rw [present?, get?_filter, Option.filter_some, Value.isTruthy, unlessEmpty]
  cases snapshot.filter <;> rfl

theorem present?_sort : present? snapshot.toEntries "sort" =
    unlessEmpty snapshot.sort (.mapping snapshot.sort.toEntries) := by
  rw [present?, get?_sort, Option.filter_some, Value.isTruthy, unlessEmpty]
  cases snapshot.sort <;> rfl

theorem sentFields_toEntries : sentFields snapshot.toEntries =
    .ok ((unlessEmpty snapshot.fields (Text.join "," snapshot.fields)).map .text) := by
  have joined : Parameters.joinFields (.list (snapshot.fields.map .text)) =
      .ok (Text.join "," snapshot.fields) := by
    simp [Parameters.joinFields, Argument.members?, Argument.texts?_map]
  rw [sentFields, present?, get?_fields, Option.filter_some, Value.isTruthy, unlessEmpty,
    List.isEmpty_map]
  cases snapshot.fields.isEmpty with
  | true => rfl
  | false => simp [joined, Except.map]

theorem present?_limit : present? snapshot.toEntries "limit" =
    snapshot.positiveLimit.map fun (limit : Nat) => .int limit := by
  rw [present?, positiveLimit, get?_limit, Option.filter_some]
  cases snapshot.limit with
  | none => rfl
  | some limit => cases limit <;> rfl

theorem sentSkip_toEntries : sentSkip snapshot.toEntries =
    .ok (snapshot.positiveSkip.map fun (skip : Nat) => .int skip) := by
  rw [sentSkip, present?, get?_skip, Option.filter_some, Value.isTruthy, positiveSkip,
    Option.filter_some]
  cases snapshot.skip with
  | zero => rfl
  | succ fewer =>
      have positive : isPositive (.int (fewer + 1 : Nat)) = .ok true := by
        rw [isPositive_int, decide_eq_true (by omega)]
      have nonzero : ((fewer + 1 : Nat) : Int) ≠ 0 := by omega
      simp only [bne_iff_ne.mpr nonzero, if_true, positive]
      rfl

theorem encodeValue_mapping {entries : Entries} {text : List Char}
    (encoded : Json.encode Json.Layout.compact (.mapping entries) = .ok text) :
    encodeValue (.mapping entries) = .ok (String.ofList text) := by
  rw [encodeValue, encoded]
  · rfl
  · simp

variable {snapshot}

theorem Canonical.isShort_skip (canonical : snapshot.Canonical) :
    ∀ skip, snapshot.positiveSkip = some skip → Numeral.isShort (skip : Int) = true := by
  intro skip sent
  obtain rfl := Option.some.inj (Option.eq_some_of_filter_eq_some sent)
  exact Binary64.isShort_of_isSome_ofInt? canonical.skip

theorem Canonical.isShort_limit (canonical : snapshot.Canonical) :
    ∀ limit, snapshot.positiveLimit = some limit → Numeral.isShort (limit : Int) = true :=
  fun limit sent => Binary64.isShort_of_isSome_ofInt?
    (canonical.limit limit (Option.eq_some_of_filter_eq_some sent))

theorem Canonical.ofQuery_toEntries (canonical : snapshot.Canonical)
    {filterText sortText : List Char}
    (filter : Json.encode Json.Layout.compact (.mapping snapshot.filter) = .ok filterText)
    (sort : Json.encode Json.Layout.compact (.mapping snapshot.sort.toEntries) = .ok sortText) :
    ofQuery snapshot.toEntries =
      .ok (snapshot.sent (String.ofList filterText) (String.ofList sortText)) := by
  have fields : part "fields"
      ((unlessEmpty snapshot.fields (Text.join "," snapshot.fields)).map .text) =
        .ok (sentPart "fields" (unlessEmpty snapshot.fields (Text.join "," snapshot.fields))) := by
    cases unlessEmpty snapshot.fields (Text.join "," snapshot.fields) <;> rfl
  have others : afterFilter
      ((unlessEmpty snapshot.fields (Text.join "," snapshot.fields)).map .text)
      (snapshot.positiveSkip.map fun (skip : Nat) => .int skip) snapshot.toEntries =
        .ok (sentPart "fields" (unlessEmpty snapshot.fields (Text.join "," snapshot.fields)) ++
          sentPart "limit" (snapshot.positiveLimit.map numberText) ++
          sentPart "skip" (snapshot.positiveSkip.map numberText) ++
          sentPart "sort" (unlessEmpty snapshot.sort (String.ofList sortText))) := by
    rw [afterFilter, fields, present?_limit, part_number _ canonical.isShort_limit,
      part_number _ canonical.isShort_skip, present?_sort,
      part_unlessEmpty _ _ (encodeValue_mapping sort)]
    rfl
  rw [ofQuery_eq, sentFields_toEntries, sentSkip_toEntries, present?_filter,
    part_unlessEmpty _ _ (encodeValue_mapping filter)]
  exact congrArg (fun others => do
    return sentPart "query" (unlessEmpty snapshot.filter (String.ofList filterText)) ++ (← others))
    others

/-- Nothing is sent of a state whose filter has no text. -/
theorem ofQuery_of_unwritten {failure : Failure}
    (refused : Json.encode Json.Layout.compact (.mapping snapshot.filter) = .error failure) :
    ofQuery snapshot.toEntries = .error failure := by
  have listed : snapshot.filter.isEmpty = false := by
    cases held : snapshot.filter with
    | nil => rw [held] at refused; contradiction
    | cons entry rest => rfl
  have filter : part "query" (unlessEmpty snapshot.filter (.mapping snapshot.filter)) =
      .error failure := by
    simp only [unlessEmpty, listed, Bool.false_eq_true, if_false, part, encodeValue, refused]
    rfl
  rw [ofQuery_eq, sentFields_toEntries, sentSkip_toEntries, present?_filter, filter]
  rfl

variable (snapshot)

/-- The options that the parameters of a canonical state spell. -/
def spelledOptions : Entries :=
  optionEntry "filter" (unlessEmpty snapshot.filter (.mapping snapshot.filter)) ++
    optionEntry "fields" (unlessEmpty snapshot.fields (.list (snapshot.fields.map .text))) ++
    optionEntry "sort" (unlessEmpty snapshot.sort (.mapping snapshot.sort.toEntries)) ++
    optionEntry "skip" (snapshot.positiveSkip.map fun skip => .text (numberText skip)) ++
    optionEntry "limit" (snapshot.positiveLimit.map fun limit => .text (numberText limit))

theorem received_sent {filterText sortText : String}
    (filter : Json.decode filterText = .ok (.mapping snapshot.filter))
    (sort : Json.decode sortText = .ok (.mapping snapshot.sort.toEntries))
    (fields : ∀ field ∈ snapshot.fields, ',' ∉ field.toList) :
    received (snapshot.sent filterText sortText) = .ok snapshot.spelledOptions := by
  have listed : readOption "fields" (unlessEmpty snapshot.fields (Text.join "," snapshot.fields))
      (fun text => .ok (splitFields text)) =
        .ok (optionEntry "fields"
          (unlessEmpty snapshot.fields (.list (snapshot.fields.map .text)))) :=
    readOption_unlessEmpty "fields" fun nonempty =>
      congrArg Except.ok (splitFields_join nonempty fields)
  simp only [received, sent, List.lookup_append, lookup_sentPart, String.reduceEq, if_true,
    if_false, Option.or_none, Option.none_or, readOption_number, listed,
    readOption_unlessEmpty "filter" fun _ => filter, readOption_unlessEmpty "sort" fun _ => sort]
  rfl

theorem get?_optionEntry (key name : String) (value? : Option Value) :
    (optionEntry key value?).get? name = if key = name then value? else none := by
  cases value? with
  | none => simp [optionEntry, Entries.get?, Entries.valueOf?]
  | some value => exact Entries.get?_single key value name

/-- The parts of the options of a canonical state. -/
theorem parts_spelledOptions :
    snapshot.spelledOptions.get? "filter" =
      unlessEmpty snapshot.filter (.mapping snapshot.filter) ∧
    snapshot.spelledOptions.get? "fields" =
      unlessEmpty snapshot.fields (.list (snapshot.fields.map .text)) ∧
    snapshot.spelledOptions.get? "sort" =
      unlessEmpty snapshot.sort (.mapping snapshot.sort.toEntries) ∧
    snapshot.spelledOptions.get? "skip" =
      snapshot.positiveSkip.map (fun skip => .text (numberText skip)) ∧
    snapshot.spelledOptions.get? "limit" =
      snapshot.positiveLimit.map (fun limit => .text (numberText limit)) := by
  refine ⟨?_, ?_, ?_, ?_, ?_⟩ <;>
    simp [spelledOptions, Entries.get?_append, get?_optionEntry]

end Sending

namespace Canonical

variable {snapshot : Snapshot} (canonical : snapshot.Canonical)

include canonical

theorem skip_checked :
    checkSkip (snapshot.positiveSkip.map fun skip => .text (numberText skip)) =
      .ok snapshot.skip := by
  rw [positiveSkip, Option.filter_some]
  split
  · exact Argument.whole_digitsOf canonical.skip "skip"
  · rename_i zero
    rw [show snapshot.skip = 0 by simpa using zero]
    rfl

theorem limit_checked :
    checkLimit (snapshot.positiveLimit.map fun limit => .text (numberText limit)) =
      .ok snapshot.positiveLimit := by
  cases bounded : snapshot.positiveLimit with
  | none => rfl
  | some limit =>
      have held : snapshot.limit = some limit := Option.eq_some_of_filter_eq_some bounded
      have read : Argument.whole (.text (numberText limit)) "limit" = .ok limit :=
        Argument.whole_digitsOf (canonical.limit limit held) "limit"
      simp only [Option.map_some, checkLimit, read]
      rfl

/-- A canonical state is what its options describe, but for a limit of zero. -/
theorem ofEntries_spelledOptions :
    ofEntries snapshot.spelledOptions = .ok { snapshot with limit := snapshot.positiveLimit } := by
  obtain ⟨filterPart, fieldsPart, sortPart, skipPart, limitPart⟩ := snapshot.parts_spelledOptions
  have fields : checkFields (snapshot.spelledOptions.get? "fields") = .ok snapshot.fields := by
    rw [fieldsPart]
    refine unlessEmpty_elim (motive := fun part => checkFields part = _) (fun empty => ?_) ?_
    · rw [empty]
      rfl
    · simp [checkFields, Value.items?, Argument.texts?_map]
  have filter :
      checkFilter (snapshot.spelledOptions.get? "filter") = .ok (.ok snapshot.filter) := by
    rw [filterPart]
    refine unlessEmpty_elim (motive := fun part => checkFilter part = _) (fun empty => ?_) ?_
    · rw [empty]
      rfl
    · exact canonical.filter_checked
  have sort : checkSort (snapshot.spelledOptions.get? "sort") = .ok snapshot.sort := by
    rw [sortPart]
    refine unlessEmpty_elim (motive := fun part => checkSort part = _) (fun empty => ?_) ?_
    · rw [empty]
      rfl
    · exact checkSort_toEntries snapshot.sort
  have skip := skipPart ▸ canonical.skip_checked
  have limit := limitPart ▸ canonical.limit_checked
  simp only [ofEntries, fields, filter, sort, skip, limit]
  rfl

end Canonical

end Snapshot

theorem Direction.isShown_toInt (direction : Direction) :
    (Value.int direction.toInt).isShown = true := by
  cases direction <;> decide

/-- An order comes back from its text. -/
theorem SortOrder.decode_of_encode {sort : SortOrder} (once : sort.Once) :
    ∃ text, Json.encode Json.Layout.compact (.mapping sort.toEntries) = .ok text ∧
      Json.decode (String.ofList text) = .ok (.mapping sort.toEntries) := by
  have native : Json.Native (.mapping sort.toEntries) :=
    .named (fun direction : Direction => .int direction.toInt) fun _ _ => .int _
  have shown : (Value.mapping sort.toEntries).isShown = true := by
    refine Value.entriesShown_iff.mpr fun entry member => ?_
    obtain ⟨⟨path, direction⟩, -, rfl⟩ := List.mem_map.mp member
    exact ⟨rfl, direction.isShown_toInt⟩
  have proper : (Value.mapping sort.toEntries).Proper :=
    .named (fun direction : Direction => .int direction.toInt) once fun _ _ => .simple rfl
  obtain ⟨text, written⟩ := (native.exists_encode Json.legible_compact.unsorted).mpr shown
  exact ⟨text, written, Json.decode_of_encode native proper written⟩

namespace Parameters

theorem names_part {name : String} {value? : Option Value} {parameters : List (String × String)}
    (sent : part name value? = .ok parameters) :
    (parameters.map Prod.fst).Sublist [name] := by
  cases value? with
  | none =>
      obtain rfl := Except.ok.inj sent
      exact List.nil_sublist _
  | some value =>
      obtain ⟨text, -, rfl⟩ := except_map_eq_ok sent
      exact List.Sublist.refl _

theorem nodup_names {query : Entries} {parameters : List (String × String)}
    (sent : ofQuery query = .ok parameters) : (parameters.map Prod.fst).Nodup := by
  rw [ofQuery_eq] at sent
  obtain ⟨fields?, -, sent⟩ := except_bind_eq_ok sent
  obtain ⟨skip?, -, sent⟩ := except_bind_eq_ok sent
  obtain ⟨filterPart, filter, sent⟩ := except_bind_eq_ok sent
  obtain ⟨others, after, sent⟩ := except_bind_eq_ok sent
  obtain ⟨fieldsPart, fields, after⟩ := except_bind_eq_ok after
  obtain ⟨limitPart, limit, after⟩ := except_bind_eq_ok after
  obtain ⟨skipPart, skip, after⟩ := except_bind_eq_ok after
  obtain ⟨sortPart, sort, after⟩ := except_bind_eq_ok after
  obtain rfl := Except.ok.inj after
  obtain rfl := Except.ok.inj sent
  have names := (names_part filter).append ((((names_part fields).append (names_part limit)).append
    (names_part skip)).append (names_part sort))
  simp only [← List.map_append] at names
  exact names.nodup (by decide)

/-- The text of all parameters holds just these. -/
theorem decode_text {query : Entries} {whole : String} (written : text query = .ok whole) :
    ∃ parameters, ofQuery query = .ok parameters ∧
      Json.decode whole = .ok (.mapping (toEntries parameters)) := by
  obtain ⟨parameters, sent, written⟩ := except_bind_eq_ok written
  obtain ⟨encoded, encodes, written⟩ := except_bind_eq_ok written
  obtain rfl := Except.ok.inj written
  exact ⟨parameters, sent, Json.decode_of_encode (.named .text fun entry _ => .text entry.2)
    (.named .text (nodup_names sent) fun _ _ => .simple rfl) encodes⟩

end Parameters

namespace Session

/-- A query with a condition on texts and numbers, an order and fields. -/
def spelledQuery : Session :=
  (Call.order 0 (.text "b") .descending).after
    ((Call.constrain 0 (.text "a")
      (.contains (.list [.text "é\"😀", .null, .int (-12)]))).after
      ((Call.create (.value (.mapping [(.text "fields", .list [.text "a", .text "b"])]))).after
        (Session.start "")))

theorem reachable_spelledQuery : Reachable (fun call =>
    (call.NamesFields ∧ call.UsesOperators) ∧ call.GivesProper ∧ call.GivesOrders)
    spelledQuery := by
  have items : (Value.list [.text "é\"😀", .null, .int (-12)]).Proper := by
    refine .list fun item member => ?_
    simp only [List.mem_cons, List.not_mem_nil, or_false] at member
    rcases member with rfl | rfl | rfl <;> exact .simple rfl
  have options : (Value.mapping [(.text "fields", .list [.text "a", .text "b"])]).Proper := by
    refine .single (.list fun item member => ?_)
    simp only [List.mem_cons, List.not_mem_nil, or_false] at member
    rcases member with rfl | rfl <;> exact .simple rfl
  refine .call (.call (.call (.start rfl) trivial ⟨⟨trivial, trivial⟩, options, options⟩) ?_
    ⟨⟨?_, trivial⟩, ?_, trivial⟩) ?_ ⟨⟨?_, trivial⟩, trivial, trivial⟩
  · change 0 < _
    decide +kernel
  · intro combinator
    cases combinator <;> simp [Combinator.key]
  · intro value member
    obtain rfl := List.mem_singleton.mp member
    exact items
  · change 0 < _
    decide +kernel
  · trivial

/-- Its canonical state, and what is sent of it. -/
def spelledState : Snapshot :=
  ⟨["a", "b"],
    [(.text "a", .mapping [(.text "$in", .list [.text "é\"😀", .null, .int (-12)])])],
    [("b", .descending)], 0, none⟩

def spelledParameters : List (String × String) :=
  [("query", "\x7b\"a\":\x7b\"$in\":[\"\\u00e9\\\"\\ud83d\\ude00\",null,-12]\x7d\x7d"),
    ("fields", "a,b"), ("sort", "\x7b\"b\":-1\x7d")]

theorem native_spelledState : Json.Native (.mapping spelledState.filter) := by
  have items : Json.Native (.list [.text "é\"😀", .null, .int (-12)]) := by
    refine .list fun item member => ?_
    simp only [List.mem_cons, List.not_mem_nil, or_false] at member
    rcases member with rfl | rfl | rfl
    · exact .text _
    · exact .null
    · exact .int _
  have single {name : String} {value : Value} (native : Json.Native value) :
      Json.Native (.mapping [(.text name, value)]) :=
    .mapping (List.forall_mem_singleton.mpr ⟨name, rfl⟩) (List.forall_mem_singleton.mpr native)
  exact single (single items)

theorem exists_of_isOk {α : Type} {result : Except Failure α} (succeeds : result.isOk = true) :
    ∃ value, result = .ok value := by
  cases result with
  | error failure => contradiction
  | ok value => exact ⟨value, rfl⟩

end Session

end RecordQuery
