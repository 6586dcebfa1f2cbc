import RecordQuery.Proofs.Log.Naming
import RecordQuery.Proofs.Log.Restoring
import RecordQuery.Proofs.Log.Routing

/-!
# Entries of nested operations

A program writes entries inside operations that are nested in one another, each of which may be left
by a failure. Its entries are described by the stack of the operations that enclose them, without
the context that every operation replaces and puts back: under a name an entry holds what its own
fields hold, or else what the innermost operation sets that sets it at all.
-/

namespace RecordQuery.Log

open RecordQuery.Action

structure Note where
  component : String
  severity : Severity
  message : String
  fields : Entries

def Note.action (note : Note) : Action Unit :=
  record note.component note.severity note.message note.fields

inductive Program where
  | skip
  | write (note : Note)
  | fail (failure : Failure)
  | within (operation : Operation) (inside : Program)
  | sequence (first second : Program)
  | recover (inside : Program) (handler : Failure → Program)

def outcome (performed : Except Failure Unit × Session) : Option Failure × Session :=
  match performed with
  | (.ok _, after) => (none, after)
  | (.error failure, after) => (some failure, after)

namespace Program

def run : Program → Session → Option Failure × Session
  | .skip, session => (none, session)
  | .write note, session => outcome (perform note.action session)
  | .fail failure, session => (some failure, session)
  | .within operation inside, session =>
      let (completed, after) := operation.run (fun entered => ((), inside.run entered)) session
      (completed.failure?, after)
  | .sequence first second, session =>
      match first.run session with
      | (none, after) => second.run after
      | (some failure, after) => (some failure, after)
  | .recover inside handler, session =>
      match inside.run session with
      | (none, after) => (none, after)
      | (some failure, after) => (handler failure).run after

def All (ofNote : Note → Prop) (ofOperation : Operation → Prop) : Program → Prop
  | .skip => True
  | .write written => ofNote written
  | .fail _ => True
  | .within entered inside => ofOperation entered ∧ inside.All ofNote ofOperation
  | .sequence first second => first.All ofNote ofOperation ∧ second.All ofNote ofOperation
  | .recover inside handler =>
      inside.All ofNote ofOperation ∧ ∀ failure, (handler failure).All ofNote ofOperation

end Program

structure Note.WellFormed (note : Note) : Prop where
  named : WellNamed note.fields
  component : ∀ value, note.fields.get? "component" = some value → ∃ name, value = .text name

structure Operation.WellFormed (operation : Operation) : Prop where
  named : WellNamed operation.context
  own : ∀ name ∈ ["component", "operation", "correlation_id"], operation.context.get? name = none

structure Scope where
  operation : Operation
  correlation : String

/-- An operation that starts in a session, with the identifier that it gets. -/
def Operation.scope (operation : Operation) (session : Session) : Scope :=
  ⟨operation, operation.startIdentifier session⟩

/-- The identifier is the one that the operation is given, or one that was made up. -/
def Scope.Identified (scope : Scope) : Prop :=
  ∃ count, scope.correlation = if scope.operation.correlation.isEmpty then
    Operation.identifier count else scope.operation.correlation

/-- What an operation sets under a name: its own name, or a value of its context. -/
def Operation.sets? (operation : Operation) (name : String) : Option Value :=
  if name = "operation" then some (.text operation.name) else operation.context.get? name

/-- What an entry holds under a name, beside its time, level and message: its component is that of
its fields or else of the note, its identifier is that of the innermost operation, and everything
else comes from its fields or else from the innermost operation that sets it. -/
def Note.holds? (note : Note) (stack : List Scope) (name : String) : Option Value :=
  if name = "component" then some ((note.fields.get? name).getD (.text note.component))
  else if name = "correlation_id" then
    (stack.head?.map fun scope => .text scope.correlation).or (note.fields.get? name)
  else (note.fields.get? name).or (stack.findSome? fun scope => scope.operation.sets? name)

def Severity.tag : Severity → String
  | .debug => "DEBUG"
  | .info => "INFO"
  | .error => "ERROR"

/-- An entry as it should be for a note inside operations, the innermost one first. -/
structure Carries (time : String) (stack : List Scope) (note : Note) (entry : Entries) : Prop where
  time : entry.get? "timestamp" = some (.text time)
  level : entry.get? "level" = some (.text note.severity.tag)
  message : entry.get? "message" = some (.text note.message)
  fields : ∀ name ∉ ["timestamp", "level", "message"], entry.get? name = note.holds? stack name
  texts : ∀ field ∈ entry, ∃ name, field.1 = .text name
  different : Value.Different (entry.map Prod.fst)

structure Line where
  text : String
  handlers : List Handler

def writeLines (lines : List Line) (files : Files) : Files :=
  lines.foldl (fun files line => writeLine line.text line.handlers files) files

/-- What becomes of a note inside operations: the failure that it ends with, if it does, and the
lines that are written. -/
inductive Noted (logger : Logger) (time : String) (stack : List Scope) (note : Note) :
    Option Failure → List Line → Prop where
  | dropped : note.severity.level < logger.level → Noted logger time stack note none []
  | written {entry : Entries} {component : Value} {text : List Char}
      {handlers : List Handler} :
      logger.level ≤ note.severity.level → Carries time stack note entry →
      Json.encode Json.Layout.spaced (.mapping entry) = .ok text →
      note.holds? stack "component" = some component →
      logger.destinations component note.severity.level = .ok handlers →
      Noted logger time stack note none [⟨String.ofList text, handlers⟩]
  | failed {failure : Failure} : logger.level ≤ note.severity.level →
      ¬ (Json.Encodes note.fields ∧ ∀ scope ∈ stack, Json.Encodes scope.operation.context) →
      Noted logger time stack note (some failure) []

namespace Operation

def startNote (operation : Operation) : Note :=
  ⟨operation.component, .debug, "operation_start_" ++ operation.name, []⟩

def endNote (operation : Operation) : Option Failure → Note
  | none => ⟨operation.component, .debug, "operation_complete_" ++ operation.name,
      [(.text "duration_seconds", .float operation.seconds), (.text "success", .bool true)]⟩
  | some failure => ⟨operation.component, .error, "operation_error_" ++ operation.name,
      [(.text "duration_seconds", .float operation.seconds), (.text "success", .bool false),
        (.text "error", .text failure.message), (.text "error_type", .text failure.kind)]⟩

end Operation

/-- The lines that a program should write inside operations, and the failure that it ends with, if
it does. -/
inductive Traced (logger : Logger) (time : String) :
    List Scope → Program → Option Failure → List Line → Prop where
  | skip {stack : List Scope} : Traced logger time stack .skip none []
  | write {stack : List Scope} {note : Note} {failure? : Option Failure} {lines : List Line} :
      Noted logger time stack note failure? lines →
      Traced logger time stack (.write note) failure? lines
  | fail {stack : List Scope} {failure : Failure} :
      Traced logger time stack (.fail failure) (some failure) []
  /-- An operation has an entry for its start and one for its end, both under its own identifier and
  context; from the threshold of these entries on, none of them is missing, and the operation ends
  as its inside does. -/
  | within {stack : List Scope} {scope : Scope} {inside : Program}
      {failure? ended? : Option Failure} {start lines ending : List Line} :
      scope.Identified →
      Noted logger time (scope :: stack) scope.operation.startNote none start →
      Traced logger time (scope :: stack) inside failure? lines →
      (∀ failure ∈ failure?, failure.isExit = false) →
      Noted logger time (scope :: stack) (scope.operation.endNote failure?) ended? ending →
      (logger.level ≤ Severity.debug.level →
        ∃ first last, start = [first] ∧ ending = [last] ∧ ended? = none) →
      Traced logger time stack (.within scope.operation inside) (ended?.or failure?)
        (start ++ lines ++ ending)
  | exit {stack : List Scope} {scope : Scope} {inside : Program} {failure : Failure}
      {start lines : List Line} :
      scope.Identified →
      Noted logger time (scope :: stack) scope.operation.startNote none start →
      Traced logger time (scope :: stack) inside (some failure) lines →
      failure.isExit = true →
      (logger.level ≤ Severity.debug.level → ∃ first, start = [first]) →
      Traced logger time stack (.within scope.operation inside) (some failure) (start ++ lines)
  | first_fails {stack : List Scope} {first second : Program} {failure : Failure}
      {lines : List Line} : Traced logger time stack first (some failure) lines →
      Traced logger time stack (.sequence first second) (some failure) lines
  | sequence {stack : List Scope} {first second : Program} {failure? : Option Failure}
      {lines later : List Line} : Traced logger time stack first none lines →
      Traced logger time stack second failure? later →
      Traced logger time stack (.sequence first second) failure? (lines ++ later)
  | recover_nothing {stack : List Scope} {inside : Program} {handler : Failure → Program}
      {lines : List Line} : Traced logger time stack inside none lines →
      Traced logger time stack (.recover inside handler) none lines
  | recover {stack : List Scope} {inside : Program} {handler : Failure → Program}
      {failure : Failure} {failure? : Option Failure} {lines later : List Line} :
      Traced logger time stack inside (some failure) lines →
      Traced logger time stack (handler failure) failure? later →
      Traced logger time stack (.recover inside handler) failure? (lines ++ later)

/-- What a session carries inside operations: the identifier of the innermost one, and what they
set. -/
structure Inside (stack : List Scope) (session : Session) : Prop where
  correlation : session.correlation? = stack.head?.map Scope.correlation
  context : ∀ name, session.context.get? name =
    stack.findSome? fun scope => scope.operation.sets? name
  named : WellNamed session.context
  scopes : ∀ scope ∈ stack, scope.operation.WellFormed

theorem Operation.WellFormed.get?_additions {operation : Operation}
    (wellFormed : operation.WellFormed) (name : String) :
    operation.additions.get? name = operation.sets? name := by
  rw [additions, Entries.get?_foldl_insert wellFormed.named.different, Entries.get?_single, sets?]
  by_cases same : name = "operation"
  · subst same
    simp [wellFormed.own]
  · simp [same, Ne.symm same]

theorem Operation.WellFormed.named_additions {operation : Operation}
    (wellFormed : operation.WellFormed) : WellNamed operation.additions := by
  have single : WellNamed [(.text "operation", .text operation.name)] :=
    ⟨by simp [entryNames, reserved], List.pairwise_singleton _ _⟩
  exact wellFormed.named.foldl_insert single

namespace Inside

variable {stack : List Scope} {session : Session}

theorem outside (nothing : session.carried = (none, [])) : Inside [] session := by
  obtain ⟨correlation, context⟩ := Prod.mk.inj nothing
  exact ⟨correlation, by simp [context, Entries.get?, Entries.valueOf?], context ▸ .nil, by simp⟩

theorem of_carried (inside : Inside stack session) {other : Session}
    (carried : other.carried = session.carried) : Inside stack other := by
  obtain ⟨correlation, context⟩ := Prod.mk.inj carried
  exact ⟨correlation.trans inside.correlation, context ▸ inside.context, context ▸ inside.named,
    inside.scopes⟩

theorem started (inside : Inside stack session) {operation : Operation}
    (wellFormed : operation.WellFormed) :
    Inside (operation.scope session :: stack) (operation.started session) where
  correlation := rfl
  context name := by
    change (operation.startContext session).get? name = _
    rw [Operation.startContext,
      Entries.get?_foldl_insert wellFormed.named_additions.different, inside.context,
      wellFormed.get?_additions, List.findSome?_cons, Operation.scope]
    cases operation.sets? name <;> rfl
  named := wellFormed.named_additions.foldl_insert inside.named
  scopes := List.forall_mem_cons.mpr ⟨wellFormed, inside.scopes⟩

/-- The context holds no name that every operation has itself, besides its name. -/
theorem get?_own (inside : Inside stack session) {name : String}
    (own : name ∈ ["component", "correlation_id"]) : session.context.get? name = none := by
  rw [inside.context, List.findSome?_eq_none_iff]
  intro scope member
  have apart : name ≠ "operation" := by
    rintro rfl
    simp at own
  have listed : name ∈ ["component", "operation", "correlation_id"] := by
    simp only [List.mem_cons, List.not_mem_nil, or_false] at own ⊢
    exact own.imp_right .inr
  rw [Operation.sets?, if_neg apart]
  exact (inside.scopes scope member).own name listed

theorem encodes (inside : Inside stack session)
    (scopes : ∀ scope ∈ stack, Json.Encodes scope.operation.context) :
    Json.Encodes session.context := by
  intro entry member
  obtain ⟨name, key, -⟩ := inside.named.names entry member
  refine ⟨⟨name, key⟩, ?_⟩
  have found : session.context.get? name = some entry.2 :=
    (Entries.get?_eq_some_iff inside.named.different).mpr (key ▸ member)
  rw [inside.context] at found
  obtain ⟨scope, enclosing, set⟩ := List.exists_of_findSome?_eq_some found
  rw [Operation.sets?] at set
  split at set
  · rw [← Option.some.inj set]
    exact ⟨_, rfl⟩
  · have different := (inside.scopes scope enclosing).named.different
    exact (scopes scope enclosing _ ((Entries.get?_eq_some_iff different).mp set)).2

theorem get?_completeFields (inside : Inside stack session) (note : Note) (name : String) :
    (completeFields session note.component note.fields).get? name = note.holds? stack name := by
  rw [completeFields_eq, get?_withContext inside.named.texts, get?_ownFields, Note.holds?,
    inside.correlation]
  -- The context holds neither a component nor an identifier, so it cannot stand in for one.
  by_cases component : name = "component"
  · subst component
    rw [inside.get?_own (by simp)]
    cases note.fields.get? "component" <;> simp
  · rw [if_neg component]
    by_cases correlation : name = "correlation_id"
    · subst correlation
      rw [inside.get?_own (by simp)]
      simp [Function.comp_def]
    · simp [component, correlation, inside.context]

end Inside

end RecordQuery.Log
