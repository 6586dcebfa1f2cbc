import RecordQuery.Proofs.Log.Handlers
import RecordQuery.Proofs.Log.Rollover
import RecordQuery.Proofs.Session.Effects

/-!
# The files that entries reach

An entry is received once by the handler of its component and, if it is an error, once by that of
errors, in the directory of the logger; below the threshold it is received by none. The handler of
errors is kept among those of the components, so that a component with its key is an exception.
-/

namespace RecordQuery.Log

open RecordQuery.Action

/-- The components that write to the file of queries; all others write to that of the system. -/
def queryComponents : List String := ["query", "evaluator", "serializer"]

def componentFile (component : Value) : String :=
  if component.text?.any queryComponents.contains then "query.log" else "system.log"

theorem queryComponents_listed :
    ∀ name ∈ queryComponents, name ∈ componentFiles.map Prod.fst := by decide

def fileNames : List String := ["query.log", "system.log", errorsFile]

theorem componentFile_listed (component : Value) : componentFile component ∈ fileNames := by
  rw [componentFile]
  split <;> simp [fileNames]

theorem errorsFile_listed : errorsFile ∈ fileNames := by simp [fileNames]

theorem componentFile_ne_errorsFile (component : Value) :
    componentFile component ≠ errorsFile := by
  rw [componentFile]
  split <;> decide

theorem plain_of_listed {file : String} (listed : file ∈ fileNames) : PlainName file := by
  simp only [fileNames, List.mem_cons, List.not_mem_nil, or_false] at listed
  rcases listed with rfl | rfl | rfl <;> exact ⟨by decide, by decide, by decide⟩

theorem unnumbered_of_listed {file : String} (listed : file ∈ fileNames) : Unnumbered file := by
  simp only [fileNames, List.mem_cons, List.not_mem_nil, or_false] at listed
  rcases listed with rfl | rfl | rfl <;> simp [Unnumbered, errorsFile]

namespace Logger

variable (directory : String) (level : Int)

theorem handler?_or_system {name : String} (apart : name ≠ errorsKey) :
    ((make directory level).handler? name).or ((make directory level).handler? systemComponent) =
      some (fileHandler directory level (componentFile (.text name))) := by
  rw [handler?_systemComponent]
  by_cases listed : name ∈ componentFiles.map Prod.fst
  · simp only [componentFiles, List.map_cons, List.map_nil, List.mem_cons, List.not_mem_nil,
      or_false] at listed
    rcases listed with rfl | rfl | rfl | rfl | rfl <;> rfl
  · have absent : (make directory level).handler? name = none := by
      rw [handler?, Option.map_eq_none_iff, List.find?_eq_none]
      rintro ⟨key, handler⟩ member same
      obtain rfl : key = name := by simpa using same
      rcases mem_handlers_make member with ⟨file, held, -⟩ | ⟨same, -⟩
      · exact listed (List.mem_map_of_mem held)
      · exact apart same
    have other : name ∉ queryComponents := fun query => listed (queryComponents_listed name query)
    rw [absent, componentFile]
    simp [Value.text?, other]

/-- The ways of an entry: that of its component, if the threshold is reached, and that of errors, if
it is one. -/
theorem destinations_make {component : Value}
    (nameable : component.isTruthy = true → component.isKey = true)
    (apart : component ≠ .text errorsKey) (severity : Int) :
    (make directory level).destinations component severity =
      .ok ((if level ≤ severity then [fileHandler directory level (componentFile component)]
          else []) ++
        if errorLevel ≤ severity then [errorsHandler directory] else []) := by
  have handler : (make directory level).handlerOf? component =
      .ok (some (fileHandler directory level (componentFile component))) := by
    rw [handlerOf?]
    by_cases named : component.isTruthy = true
    · rw [if_neg (by simp [named]), if_neg (by simp [nameable named])]
      cases component with
      | text name =>
          refine congrArg Except.ok (handler?_or_system directory level fun same => apart ?_)
          rw [same]
      | _ => exact congrArg Except.ok (handler?_systemComponent directory level)
    · rw [if_pos (by simp [named]), handler?_systemComponent]
      cases component with
      | text name =>
          obtain rfl : name = "" := by simpa [Value.isTruthy] using named
          rfl
      | _ => rfl
  rw [destinations, handler, handler?_errorsKey]
  by_cases reached : level ≤ severity <;> simp [Except.map, reached, fileHandler]

/-- The key of errors finds their handler: errors go there twice and other entries nowhere. -/
theorem destinations_errorsKey (severity : Int) :
    (make directory level).destinations (.text errorsKey) severity =
      .ok (if errorLevel ≤ severity then [errorsHandler directory, errorsHandler directory]
        else []) := by
  have handler : (make directory level).handlerOf? (.text errorsKey) =
      .ok (some (errorsHandler directory)) := by
    rw [handlerOf?, if_neg (by simp [Value.isTruthy, errorsKey]), if_neg (by simp [Value.isKey]),
      Value.text?, Option.bind_some, handler?_errorsKey, Option.some_or]
  rw [destinations, handler, handler?_errorsKey]
  by_cases error : errorLevel ≤ severity <;> simp [Except.map, error, errorsHandler]

/-- What cannot be a key has no way to the files. -/
theorem destinations_of_not_key {logger : Logger} {component : Value}
    (named : component.isTruthy = true) (unusable : component.isKey = false) (severity : Int) :
    logger.destinations component severity = .error .mismatch := by
  have refused : logger.handlerOf? component = .error .mismatch := by
    rw [handlerOf?, if_neg (by simp [named]), if_pos (by simp [unusable])]
  rw [destinations, refused]
  rfl

end Logger

/-- Where entries go: a directory, from a threshold on. -/
structure Target where
  directory : String
  level : Int

namespace Target

def logger (target : Target) : Logger := Logger.make target.directory target.level

def path (target : Target) (file : String) : String := pathIn (plainPath target.directory) file

/-- The target that settings move a logger to. -/
def configured (target : Target) (directory level : Value) : Target where
  directory := directory.text?.getD target.directory
  level := target.logger.requestedLevel level

/-- The target that a new logger has: that of the environment, moved by loaded settings. -/
def initial (session : Session) : Target :=
  let given : Target :=
    ⟨(session.environmentText? "LOG_DIR").getD "logs", (ofEnvironment session).level⟩
  match session.settings? with
  | none => given
  | some settings => given.configured (.text settings.logDirectory) settings.logLevel

end Target

structure Call where
  component? : Option String
  severity : Severity
  message : String
  fields : Entries

namespace Call

def action (call : Call) : Action Unit :=
  match call.component? with
  | some component => record component call.severity call.message call.fields
  | none => route call.severity call.message call.fields

def actionOn (host : Host) (call : Call) : Action Unit :=
  match call.component? with
  | some component => recordOn host component call.severity call.message call.fields
  | none => routeOn host call.severity call.message call.fields

def entry (call : Call) (session : Session) : Entries :=
  match call.component? with
  | some component => completeFields session component call.fields
  | none => call.fields

def component (call : Call) (session : Session) : Value :=
  ((call.entry session).get? "component").getD .null

def line (call : Call) (session : Session) : Except Failure String :=
  Log.line session.time (.int call.severity.level) (.text call.message) (call.entry session)

end Call

/-- The handlers that an entry belongs to: that of the file of its component and, if it is an error,
that of errors. -/
def Target.receivers (target : Target) (severity : Severity) (component : Value) : List Handler :=
  Logger.fileHandler target.directory target.level (componentFile component) ::
    if errorLevel ≤ severity.level then [Logger.errorsHandler target.directory] else []

/-- An entry reaches the files that it belongs to: what becomes of all files that exist when the
logger is there. -/
structure Reaches (target : Target) (severity : Severity) (component : Value)
    (line : Except Failure String) (result : Except Failure Unit) (opened after : Files) :
    Prop where
  dropped : severity.level < target.level → after.textOf = opened.textOf
  /-- From the threshold on the line is received once by each handler that the entry belongs to, and
  no other path changes. -/
  written : target.level ≤ severity.level → result = .ok () → ∃ text, line = .ok text ∧
    (∀ handler ∈ target.receivers severity component,
      Receives handler (text ++ "\n") opened after) ∧
    ∀ path, (∀ handler ∈ target.receivers severity component, ¬ handler.Owns path) →
      after.get? path = opened.get? path
  failed : result ≠ .ok () → after.textOf = opened.textOf

/-- A call that writes nothing reaches no file. -/
theorem Reaches.of_same {target : Target} {severity : Severity} {component : Value}
    {line : Except Failure String} {result : Except Failure Unit} {opened after : Files}
    (same : after.textOf = opened.textOf)
    (below : result = .ok () → severity.level < target.level) :
    Reaches target severity component line result opened after :=
  ⟨fun _ => same, fun reached succeeded => absurd (below succeeded) (Int.not_lt.mpr reached),
    fun _ => same⟩

theorem unnumbered_pathIn (directory : String) {file : String} (plain : PlainName file)
    (unnumbered : Unnumbered file) : Unnumbered (pathIn directory file) := by
  obtain ⟨front, paths⟩ := pathIn_eq directory
  have nonempty : file.toList ≠ [] := by simpa using plain.nonempty
  intro last member
  rw [paths file plain, String.toList_append, List.getLast?_append_of_ne_nil _ nonempty] at member
  exact unnumbered last member

theorem keeps_of_listed (directory : String) (level : Int) {file : String}
    (listed : file ∈ fileNames) {backups : Nat} (several : 2 ≤ backups) :
    Handler.Keeps ⟨pathIn directory file, level, backups⟩ :=
  ⟨several, unnumbered_pathIn directory (plain_of_listed listed) (unnumbered_of_listed listed)⟩

theorem Target.separate_receivers (target : Target) (severity : Severity) (component : Value) :
    Separate (target.receivers severity component) := by
  have file : (Logger.fileHandler target.directory target.level (componentFile component)).Keeps :=
    keeps_of_listed _ _ (componentFile_listed component) (by decide)
  have errors : (Logger.errorsHandler target.directory).Keeps :=
    keeps_of_listed _ _ errorsFile_listed (by decide)
  have apart : pathIn (plainPath target.directory) (componentFile component) ≠
      pathIn (plainPath target.directory) errorsFile :=
    pathIn_ne _ (plain_of_listed (componentFile_listed component))
      (plain_of_listed errorsFile_listed) (componentFile_ne_errorsFile component)
  rw [receivers]
  split
  · refine ⟨List.forall_mem_cons.mpr ⟨file, List.forall_mem_singleton.mpr errors⟩, ?_⟩
    simpa [Logger.fileHandler, Logger.errorsHandler] using apart
  · exact ⟨List.forall_mem_singleton.mpr file, List.nodup_singleton _⟩

theorem reaches_route {session : Session} {target : Target}
    (made : loggerFor session = target.logger) (severity : Severity) (message : String)
    {fields : Entries} {component : Value}
    (named : (fields.get? "component").getD .null = component)
    (apart : component ≠ .text errorsKey) :
    Reaches target severity component
      (line session.time (.int severity.level) (.text message) fields)
      (perform (route severity message fields) session).1 (ensureLogger session).files
      (perform (route severity message fields) session).2.files := by
  by_cases clash : clashes fields = true
  · have performed : perform (route severity message fields) session =
        (.error .mismatch, ensureLogger session) := by
      simp only [route, perform_bind, perform_currentLogger, clash, if_true, perform_throw]
    rw [performed]
    exact .of_same rfl (by simp)
  have time : (ensureLogger session).time = session.time := by
    rcases session with ⟨_, _, _ | settings, _ | logger, _⟩ <;> rfl
  rw [perform_route (by simpa using clash), made, time, named]
  split
  · rename_i enabled
    have reached : target.level ≤ severity.level := of_decide_eq_true enabled
    cases written : line session.time (.int severity.level) (.text message) fields with
    | error failure => exact .of_same rfl (by simp)
    | ok text =>
        by_cases nameable : component.isTruthy = true → component.isKey = true
        · have received := receives_writeLine text (target.separate_receivers severity component)
            (ensureLogger session).files
          simp only [Target.logger, Logger.destinations_make _ _ nameable apart, if_pos reached]
          exact ⟨fun below => absurd below (Int.not_lt.mpr reached),
            fun _ _ => ⟨text, rfl, received⟩, fun failed => absurd rfl failed⟩
        · simp only [Classical.not_imp, Bool.not_eq_true] at nameable
          rw [Logger.destinations_of_not_key nameable.1 nameable.2]
          exact .of_same rfl (by simp)
  · rename_i disabled
    exact .of_same rfl fun _ => Int.not_le.mp fun reached => disabled (decide_eq_true reached)

theorem route_succeeds {session : Session} (severity : Severity) (message : String)
    {fields : Entries} (recordable : Recordable fields)
    (nameable : ((fields.get? "component").getD .null).isTruthy = true →
      ((fields.get? "component").getD .null).isKey = true) :
    (perform (route severity message fields) session).1 = .ok () := by
  rw [perform_route recordable.1]
  split
  · obtain ⟨text, written⟩ := recordable.line (ensureLogger session).time message severity
    obtain ⟨paths, found⟩ := destinations_succeed (loggerFor session) nameable severity.level
    rw [written, found]
  · rfl

namespace Call

variable (call : Call) {session : Session}

/-- The fields of the call and of the entry name no part of it and have JSON texts, and the
component can be looked up. -/
structure Sound (call : Call) (session : Session) : Prop where
  own : clashes call.fields = false
  entry : Recordable (call.entry session)
  nameable : (call.component session).isTruthy = true → (call.component session).isKey = true

/-- A call for a component is one with complete fields, unless its own fields are refused. -/
theorem perform_action : perform call.action session =
    if call.component?.isSome && clashes call.fields then (.error .mismatch, session)
    else perform (route call.severity call.message (call.entry session)) session := by
  rcases call with ⟨_ | component, severity, message, fields⟩
  · rfl
  · cases clash : clashes fields <;>
      simp [action, record, entry, clash, perform_bind]

theorem reaches {target : Target} (made : loggerFor session = target.logger)
    (apart : call.component session ≠ .text errorsKey) :
    Reaches target call.severity (call.component session) (call.line session)
      (perform call.action session).1 (ensureLogger session).files
      (perform call.action session).2.files := by
  rw [perform_action]
  split
  · exact .of_same (textOf_ensureLogger session).symm (by simp)
  · exact reaches_route made call.severity call.message rfl apart

theorem component_of_name {name : String} (given : call.component? = some name)
    (own : call.fields.get? "component" = none) : call.component session = .text name := by
  rw [component, entry, given, component_completeFields session name own, Option.getD_some]

theorem succeeds (sound : call.Sound session) : (perform call.action session).1 = .ok () := by
  rw [perform_action, if_neg (by simp [sound.own])]
  exact route_succeeds call.severity call.message sound.entry sound.nameable

theorem unmoved_action : Leaves Unmoved call.action := by
  rcases call with ⟨_ | component, severity, message, fields⟩
  · exact unmoved_route severity message fields
  · exact unmoved_record component severity message fields

end Call

end RecordQuery.Log
