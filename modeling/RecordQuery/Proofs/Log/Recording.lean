import RecordQuery.Log.Recording
import RecordQuery.Proofs.Session.Apart
import RecordQuery.Proofs.Value.Entries
import RecordQuery.Proofs.Value.Sameness

/-!
# Entries that can be recorded

Fields are `Recordable` if none of them names a part of the entry and JSON has a text for each of
their values. Recording such fields under such a context never fails.
-/

namespace RecordQuery

namespace Json

/-- Entries whose keys are texts and whose values have JSON texts. -/
def Encodes (entries : Entries) : Prop :=
  ∀ entry ∈ entries, (∃ name, entry.1 = .text name) ∧
    ∃ text, encode Layout.spaced entry.2 = .ok text

theorem Encodes.insert {entries : Entries} (encodes : Encodes entries) (name : String)
    {value : Value} {text : List Char} (encoded : encode Layout.spaced value = .ok text) :
    Encodes (entries.insert (.text name) value) := by
  intro entry member
  rcases Entries.mem_insert member with old | ⟨written, key | ⟨old, there⟩⟩
  · exact encodes entry old
  · exact ⟨⟨name, key⟩, text, by rw [written, encoded]⟩
  · exact ⟨(encodes _ there).1, text, by rw [written, encoded]⟩

def objectPart (layout : Layout) (entry : Value × Except Failure (List Char)) :
    Except Failure (List Char) := do
  return encodeText (← keyText entry.1) ++ layout.keySeparator ++ (← entry.2)

theorem encode_mapping {layout : Layout} (unsorted : layout.sortKeys = false) (entries : Entries) :
    encode layout (.mapping entries) =
      ((encodeEntries layout entries).mapM (objectPart layout)).map fun parts =>
        '\x7b' :: (Text.joined layout.itemSeparator parts ++ ['\x7d']) := by
  rw [encode, encodeObject, unsorted]
  rfl

theorem Encodes.encode_mapping {entries : Entries} (encodes : Encodes entries) :
    ∃ text, encode Layout.spaced (.mapping entries) = .ok text := by
  have parts : ∃ parts, (encodeEntries Layout.spaced entries).mapM (objectPart Layout.spaced) =
      .ok parts := by
    induction entries with
    | nil => exact ⟨[], rfl⟩
    | cons entry rest inductionHypothesis =>
        obtain ⟨⟨name, key⟩, text, encoded⟩ := encodes entry List.mem_cons_self
        obtain ⟨parts, others⟩ :=
          inductionHypothesis fun other member => encodes other (List.mem_cons_of_mem _ member)
        rcases entry with ⟨_, value⟩
        obtain rfl : _ = Value.text name := key
        rw [encodeEntries, List.mapM_cons, encoded, others]
        exact ⟨_, rfl⟩
  obtain ⟨parts, performed⟩ := parts
  rw [Json.encode_mapping rfl, performed]
  exact ⟨_, rfl⟩

end Json

namespace Log

theorem levelTag_int {level : Int} (short : Numeral.isShort level = true) :
    ∃ tag, levelTag (.int level) = .ok (.text tag) := by
  cases found : levels.find? fun entry => (Value.int level).equal (.int entry.2) with
  | none => exact ⟨_, by simp [levelTag, Value.isKey, found, unnamedTag, Value.isShown, short]; rfl⟩
  | some entry => exact ⟨entry.1, by simp [levelTag, Value.isKey, found]⟩

theorem exists_levelTag (severity : Severity) :
    ∃ tag, levelTag (.int severity.level) = .ok (.text tag) :=
  levelTag_int (by cases severity <;> decide)

/-- The fields of an entry without the context: those of the call, the component and the correlation
identifier. -/
def ownFields (correlation? : Option String) (component : String) (fields : Entries) : Entries :=
  let withComponent := withDefault fields (.text "component") (.text component)
  match correlation? with
  | some correlation => withComponent.set "correlation_id" (.text correlation)
  | none => withComponent

def withContext (context fields : Entries) : Entries :=
  context.foldl (fun found entry => withDefault found entry.1 entry.2) fields

theorem completeFields_eq (session : Session) (component : String) (fields : Entries) :
    completeFields session component fields =
      withContext session.context (ownFields session.correlation? component fields) := rfl

/-- Fields that do not name a part of the entry and that have JSON texts. -/
def Recordable (fields : Entries) : Prop :=
  clashes fields = false ∧ Json.Encodes fields

namespace Recordable

theorem insert {fields : Entries} (recordable : Recordable fields) {name : String} {value : Value}
    {text : List Char} (free : name ∉ reserved)
    (encoded : Json.encode Json.Layout.spaced value = .ok text) :
    Recordable (fields.insert (.text name) value) := by
  refine ⟨?_, recordable.2.insert name encoded⟩
  rw [clashes, List.any_eq_false]
  intro entry member
  rcases Entries.mem_insert member with old | ⟨-, key | ⟨old, there⟩⟩
  · exact List.any_eq_false.mp recordable.1 entry old
  · simpa [key, Value.text?] using free
  · exact List.any_eq_false.mp recordable.1 (entry.1, old) there

theorem withDefault {fields : Entries} (recordable : Recordable fields) {name : String}
    {value : Value} {text : List Char} (free : name ∉ reserved)
    (encoded : Json.encode Json.Layout.spaced value = .ok text) :
    Recordable (Log.withDefault fields (.text name) value) := by
  rw [Log.withDefault]
  split
  · exact recordable
  · exact recordable.insert free encoded

theorem withContext {fields context : Entries} (recordable : Recordable fields)
    (added : Recordable context) : Recordable (Log.withContext context fields) := by
  induction context generalizing fields with
  | nil => exact recordable
  | cons entry rest inductionHypothesis =>
      obtain ⟨⟨name, key⟩, text, encoded⟩ := added.2 entry List.mem_cons_self
      have clash := List.any_eq_false.mp added.1
      have free : name ∉ reserved := by
        simpa [key, Value.text?] using clash entry List.mem_cons_self
      rw [Log.withContext, List.foldl_cons, key]
      refine inductionHypothesis (recordable.withDefault free encoded) ⟨?_, fun other member =>
        added.2 other (List.mem_cons_of_mem _ member)⟩
      exact List.any_eq_false.mpr fun other member => clash other (List.mem_cons_of_mem _ member)

theorem ownFields {fields : Entries} (recordable : Recordable fields)
    (correlation? : Option String) (component : String) :
    Recordable (Log.ownFields correlation? component fields) := by
  have withComponent : Recordable (Log.withDefault fields (.text "component") (.text component)) :=
    recordable.withDefault (by simp [reserved]) rfl
  cases correlation? with
  | none => exact withComponent
  | some correlation => exact withComponent.insert (by simp [reserved]) rfl

theorem completeFields {session : Session} {fields : Entries} (recordable : Recordable fields)
    (context : Recordable session.context) (component : String) :
    Recordable (Log.completeFields session component fields) :=
  (recordable.ownFields session.correlation? component).withContext context

theorem line {fields : Entries} (recordable : Recordable fields) (time message : String)
    (severity : Severity) :
    ∃ text, Log.line time (.int severity.level) (.text message) fields = .ok text := by
  obtain ⟨tag, levels⟩ := exists_levelTag severity
  have parts : Json.Encodes (parts time (.text tag) (.text message) fields) := by
    have added {start : Entries} (started : Json.Encodes start) : Json.Encodes
        (fields.foldl (fun entry field => entry.insert field.1 field.2) start) := by
      obtain ⟨-, encodes⟩ := recordable
      induction fields generalizing start with
      | nil => exact started
      | cons entry rest inductionHypothesis =>
          obtain ⟨⟨name, key⟩, text, encoded⟩ := encodes entry List.mem_cons_self
          rw [List.foldl_cons, key]
          exact inductionHypothesis (started.insert name encoded) fun other member =>
            encodes other (List.mem_cons_of_mem _ member)
    apply added
    intro entry member
    simp only [List.mem_cons, List.not_mem_nil, or_false] at member
    rcases member with rfl | rfl | rfl <;> exact ⟨⟨_, rfl⟩, _, rfl⟩
  obtain ⟨text, encoded⟩ := parts.encode_mapping
  refine ⟨String.ofList text, ?_⟩
  rw [Log.line, recordable.1, levels]
  simp only [Bool.false_eq_true, if_false, encoded]
  rfl

end Recordable

theorem get?_withDefault {fields : Entries} {name : String} {held : Value}
    (found : fields.get? name = some held) (key value : Value) :
    (withDefault fields key value).get? name = some held := by
  rw [withDefault]
  split
  · exact found
  · rename_i absent
    rw [Entries.insert_of_valueOf?_eq_none (by simpa using absent), Entries.get?_append, found]
    rfl

/-- The component of complete fields is the given one, unless the call or the context names one. -/
theorem component_completeFields (session : Session) (component : String) {fields : Entries}
    (own : fields.get? "component" = none) :
    (completeFields session component fields).get? "component" = some (.text component) := by
  have kept {found : Entries} (held : found.get? "component" = some (.text component))
      (context : Entries) : (withContext context found).get? "component" =
        some (.text component) := by
    induction context generalizing found with
    | nil => exact held
    | cons entry rest inductionHypothesis => exact inductionHypothesis (get?_withDefault held _ _)
  rw [completeFields_eq]
  refine kept ?_ _
  have first : (withDefault fields (.text "component") (.text component)).get? "component" =
      some (.text component) := by
    rw [withDefault, if_neg (by rw [← Entries.get?, own]; simp),
      Entries.insert_of_valueOf?_eq_none own, Entries.get?_append, own]
    simp [Entries.get?, Entries.valueOf?]
  cases session.correlation? with
  | none => exact first
  | some correlation =>
      exact (Entries.get?_insert_of_ne (by simp) _).trans first

/-- The logger that an entry goes through. -/
def loggerFor (session : Session) : Logger :=
  ((ensureLogger session).logger?).getD (Logger.make "logs" infoLevel)

theorem perform_currentLogger (session : Session) :
    Action.perform currentLogger session = (.ok (loggerFor session), ensureLogger session) := rfl

/-- What becomes of an entry with complete fields: without a line or a way to the files it fails,
and below the threshold it is dropped. -/
theorem perform_route {message : String} {severity : Severity} {session : Session}
    {fields : Entries} (complete : clashes fields = false) :
    Action.perform (route severity message fields) session =
      if (loggerFor session).isEnabledFor severity.level then
        (match line (ensureLogger session).time (.int severity.level) (.text message) fields with
          | .ok text =>
              (match (loggerFor session).destinations ((fields.get? "component").getD .null)
                  severity.level with
                | .ok paths => (.ok (), { ensureLogger session with
                    files := writeLine text paths (ensureLogger session).files })
                | .error failure => (.error failure, ensureLogger session))
          | .error failure => (.error failure, ensureLogger session))
      else (.ok (), ensureLogger session) := by
  simp only [route, Action.perform_bind, perform_currentLogger, complete, Bool.false_eq_true,
    if_false]
  split
  · simp only [Action.perform_bind, Action.perform_get, Action.perform_lift]
    cases line (ensureLogger session).time (.int severity.level) (.text message) fields with
    | error failure => rfl
    | ok text =>
        cases (loggerFor session).destinations ((fields.get? "component").getD .null)
            severity.level <;> rfl
  · rfl

/-- What becomes of an entry whose fields and complete fields name no part of it: without a line or
a way to the files it fails, and below the threshold it is dropped. -/
theorem perform_record {component message : String} {severity : Severity} {session : Session}
    {fields : Entries} (own : clashes fields = false)
    (complete : clashes (completeFields session component fields) = false) :
    Action.perform (record component severity message fields) session =
      if (loggerFor session).isEnabledFor severity.level then
        (match line (ensureLogger session).time (.int severity.level) (.text message)
            (completeFields session component fields) with
          | .ok text =>
              (match (loggerFor session).destinations
                  (((completeFields session component fields).get? "component").getD .null)
                  severity.level with
                | .ok paths => (.ok (), { ensureLogger session with
                    files := writeLine text paths (ensureLogger session).files })
                | .error failure => (.error failure, ensureLogger session))
          | .error failure => (.error failure, ensureLogger session))
      else (.ok (), ensureLogger session) := by
  simp only [record, own, Bool.false_eq_true, if_false, Action.perform_bind, Action.perform_get]
  exact perform_route complete

/-- A component has a way to the files, unless it cannot be looked up. -/
theorem destinations_succeed (logger : Logger) {component : Value}
    (nameable : component.isTruthy = true → component.isKey = true) (level : Int) :
    ∃ paths, logger.destinations component level = .ok paths := by
  obtain ⟨handler?, handled⟩ : ∃ handler?, logger.handlerOf? component = .ok handler? := by
    by_cases named : component.isTruthy = true
    · refine ⟨_, (if_neg ?_).trans (if_neg ?_)⟩
      · simp [named]
      · simp [nameable named]
    · exact ⟨_, if_pos (by simp [named])⟩
  rw [Logger.destinations, handled]
  exact ⟨_, rfl⟩

/-- Recording does not fail if the complete fields name no part of the entry and, where the entry is
written, have JSON texts. -/
theorem record_succeeds_of_complete {component : String} (message : String) {severity : Severity}
    {session : Session} {fields : Entries} (own : clashes fields = false)
    (free : fields.get? "component" = none)
    (complete : clashes (completeFields session component fields) = false)
    (encodes : (loggerFor session).isEnabledFor severity.level = true →
      Json.Encodes (completeFields session component fields)) :
    (Action.perform (record component severity message fields) session).1 = .ok () := by
  rw [perform_record own complete]
  split
  · rename_i enabled
    have recordable : Recordable (completeFields session component fields) :=
      ⟨complete, encodes enabled⟩
    obtain ⟨text, written⟩ := recordable.line (ensureLogger session).time message severity
    have found : ∃ paths, (loggerFor session).destinations (.text component) severity.level =
        .ok paths := destinations_succeed _ (fun _ => rfl) _
    obtain ⟨paths, found⟩ := found
    rw [written, component_completeFields session component free, Option.getD_some, found]
  · rfl

theorem record_succeeds (component message : String) (severity : Severity) {session : Session}
    {fields : Entries} (recordable : Recordable fields) (own : fields.get? "component" = none)
    (context : Recordable session.context) :
    (Action.perform (record component severity message fields) session).1 = .ok () := by
  have complete := recordable.completeFields context component
  exact record_succeeds_of_complete message recordable.1 own complete.1 fun _ => complete.2

end Log

end RecordQuery
