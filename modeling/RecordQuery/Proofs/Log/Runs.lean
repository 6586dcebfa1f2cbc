import Mathlib.Data.String.Basic
import RecordQuery.Proofs.Log.Placing
import RecordQuery.Proofs.Log.Routing

/-!
# Runs of calls

After any settings for the logger, ends of the logger and calls, the logger is one that is made for
the directory and the threshold that the run leads to. On a host that refuses none of the
directories and files that are asked for, an entry then reaches the files that it belongs to.
-/

namespace RecordQuery.Log

open RecordQuery.Action

/-- A step of a run: settings for the logger, the end of the logger, or a call. -/
inductive Step where
  | configure (directory level : Value)
  | reset
  | write (call : Call)

namespace Step

def after (session : Session) : Step → Session
  | .configure directory level => (perform (Log.configure directory level) session).2
  | .reset => (perform Log.reset session).2
  | .write call => (perform call.action session).2

def afterOn (host : Host) (session : Session) : Step → Session
  | .configure directory level => (perform (configureOn host directory level) session).2
  | .reset => (perform Log.reset session).2
  | .write call => (perform (call.actionOn host) session).2

/-- The host refuses nothing of what a step asks for: a logger, if there is none, and its files in
another directory. -/
def Granted (host : Host) (session : Session) : Step → Prop
  | .configure directory level => (perform (makeOn host) session).1 = .ok () ∧
      ∀ path, directory = .text path →
        (perform (configureOn host directory level) session).1 = .ok ()
  | .reset => True
  | .write _ => (perform (makeOn host) session).1 = .ok ()

def move (initial current : Target) : Step → Target
  | .configure directory level => current.configured directory level
  | .reset => initial
  | .write _ => current

/-- A session in a run of steps: entries go to the target, and what a new logger is made from is as
in the beginning. -/
structure Standing (start : Session) (session : Session) (target : Target) : Prop where
  environment : session.environment = start.environment
  settings : session.settings? = start.settings?
  logger : loggerFor session = target.logger

end Step

/-- Without a logger, entries go through a new one. -/
theorem loggerFor_initial {session : Session} (none : session.logger? = none) :
    loggerFor session = (Target.initial session).logger := by
  rcases loaded : session.settings? with _ | settings
  · rw [loggerFor_of_none none loaded, Target.initial, loaded]
    rfl
  · rw [loggerFor_of_settings none loaded, Target.initial, loaded]
    rfl

namespace Step.Standing

variable {start session : Session} {target : Target}

theorem initial (none : start.logger? = none) : Standing start start (Target.initial start) :=
  ⟨rfl, rfl, loggerFor_initial none⟩

theorem after (standing : Standing start session target) (step : Step) :
    Standing start (step.after session) (step.move (Target.initial start) target) := by
  cases step with
  | configure directory level =>
      obtain ⟨environment, settings⟩ := sources_configure directory level session
      exact ⟨environment.trans standing.environment, settings.trans standing.settings,
        loggerFor_of_some (logger_configure standing.logger directory level)⟩
  | reset =>
      refine ⟨standing.environment, standing.settings, ?_⟩
      have fresh : loggerFor { session with logger? := none } = _ := loggerFor_initial rfl
      refine fresh.trans ?_
      simp only [Target.initial, ofEnvironment, Session.environmentText?, standing.environment,
        standing.settings]
      rfl
  | write call =>
      have unmoved := call.unmoved_action session
      exact ⟨unmoved.environment.trans standing.environment,
        unmoved.settings.trans standing.settings, unmoved.logger.trans standing.logger⟩

theorem run (standing : Standing start session target) (steps : List Step) :
    Standing start (steps.foldl Step.after session)
      (steps.foldl (Step.move (Target.initial start)) target) := by
  induction steps generalizing session target with
  | nil => exact standing
  | cons step rest inductionHypothesis => exact inductionHypothesis (standing.after step)

end Step.Standing

/-- Settings for the logger, and its end, only open files. -/
theorem Step.opens_after {step : Step} (other : ∀ call, step ≠ .write call) (session : Session) :
    session.files.Opens (step.after session).files := by
  cases step with
  | configure directory level =>
      have leveled := (opens_ensureLogger session).trans
        (opens_applySettings none level (ensureLogger session))
      rw [Step.after, perform_configure]
      cases directory.text? with
      | none => exact leveled
      | some path => exact leveled.trans (opens_applySettings (some path) .null _)
  | reset => exact .refl _
  | write call => exact absurd rfl (other call)

theorem Call.actionOn_eq (call : Call) {host : Host} {session : Session}
    (made : (perform (makeOn host) session).1 = .ok ()) (complete : (loggerFor session).Complete) :
    perform (call.actionOn host) session = perform call.action session := by
  rw [actionOn, action]
  cases call.component? with
  | none => exact routeOn_eq made complete _ _ _
  | some component => exact recordOn_eq made complete _ _ _ _

theorem Step.afterOn_eq {host : Host} {session : Session} {step : Step}
    (granted : step.Granted host session) (complete : (loggerFor session).Complete) :
    step.afterOn host session = step.after session := by
  cases step with
  | configure directory level => exact congrArg Prod.snd (configureOn_eq granted.1 granted.2)
  | reset => rfl
  | write call => exact congrArg Prod.snd (call.actionOn_eq granted complete)

def Granted (host : Host) : Session → List Step → Prop
  | _, [] => True
  | session, step :: rest =>
      step.Granted host session ∧ Granted host (step.afterOn host session) rest

/-- Where nothing is refused, a run on a host is as any other run, and so is what follows it. -/
theorem Granted.run_eq {host : Host} {start session : Session} {target : Target}
    {steps others : List Step} (granted : Granted host session (steps ++ others))
    (standing : Step.Standing start session target) :
    steps.foldl (Step.afterOn host) session = steps.foldl Step.after session ∧
      Granted host (steps.foldl (Step.afterOn host) session) others := by
  induction steps generalizing session target with
  | nil => exact ⟨rfl, granted⟩
  | cons step rest inductionHypothesis =>
      obtain ⟨here, later⟩ := granted
      have complete : (loggerFor session).Complete := by
        rw [standing.logger]
        exact Logger.complete_make _ _
      rw [List.foldl_cons, List.foldl_cons]
      rw [Step.afterOn_eq here complete] at later ⊢
      exact inductionHypothesis later (standing.after step)

/-- After any settings for the logger, ends of the logger and calls of which a host refuses none, an
entry reaches exactly the files that it belongs to, in the directory and from the threshold on that
the run leads to: the file of its component and, if it is an error, that of errors, each of them
once. A file that the line does not fit starts again, and its earlier files move on. No other path
changes. The component is that of the call, unless its fields name one, and a call fails only where
its fields have no line or its component cannot be looked up. -/
theorem entries_reach_their_files {host : Host} {start : Session} (none : start.logger? = none)
    (steps : List Step) (call : Call) (granted : Granted host start (steps ++ [.write call])) :
    let session := steps.foldl (Step.afterOn host) start
    let target := steps.foldl (Step.move (Target.initial start)) (Target.initial start)
    let opened := (perform (makeOn host) session).2.files
    let outcome := perform (call.actionOn host) session
    opened.textOf = session.files.textOf ∧
      (call.component session ≠ .text errorsKey →
        Reaches target call.severity (call.component session) (call.line session) outcome.1
          opened outcome.2.files) ∧
      (∀ name, call.component? = some name → call.fields.get? "component" = .none →
        call.component session = .text name) ∧
      (call.Sound session → outcome.1 = .ok ()) := by
  intro session target opened outcome
  have initial : Step.Standing start start (Target.initial start) := .initial none
  obtain ⟨ran, last⟩ := granted.run_eq initial
  have standing : Step.Standing start session target := by
    have run := initial.run steps
    rwa [← ran] at run
  have complete : (loggerFor session).Complete := by
    rw [standing.logger]
    exact Logger.complete_make _ _
  have made : (perform (makeOn host) session).1 = .ok () := last.1
  have performed : outcome = perform call.action session := call.actionOn_eq made complete
  have ensured : opened = (ensureLogger session).files := by
    simp only [opened, makeOn_of_ok made]
  rw [performed, ensured]
  exact ⟨textOf_ensureLogger session, call.reaches standing.logger,
    fun _ => call.component_of_name, call.succeeds⟩

/-- A run that gives the logger another threshold, ends it and moves the next one. -/
def movingSteps : List Step :=
  [.configure .null (.text "debug"), .reset, .configure (.text "other") (.text "error")]

def movedSession : Session := movingSteps.foldl (Step.afterOn Host.usual) (Session.start "")

def movedCall : Call := ⟨some "evaluator", .error, "second", [(.text "records", .int 1)]⟩

theorem granted_movingSteps :
    Granted Host.usual (Session.start "") (movingSteps ++ [.write movedCall]) :=
  ⟨⟨rfl, nofun⟩, trivial, ⟨rfl, fun _ _ => rfl⟩, rfl, trivial⟩

theorem moved_error_reaches_its_files :
    let opened := (perform (makeOn Host.usual) movedSession).2.files
    let after := (perform (movedCall.actionOn Host.usual) movedSession).2.files
    let handlers : List Handler := [⟨"other/query.log", 40, 5⟩, ⟨"other/errors.log", 40, 10⟩]
    opened.textOf = movedSession.files.textOf ∧ ∃ text, movedCall.line movedSession = .ok text ∧
      (∀ handler ∈ handlers, Receives handler (text ++ "\n") opened after) ∧
      ∀ path, (∀ handler ∈ handlers, ¬ handler.Owns path) → after.get? path = opened.get? path := by
  intro opened after handlers
  obtain ⟨made, reaches, named, succeeds⟩ := @entries_reach_their_files Host.usual
    (Session.start "") rfl movingSteps movedCall granted_movingSteps
  have component : movedCall.component movedSession = .text "evaluator" :=
    named "evaluator" rfl (by cbv)
  have entry : movedCall.entry movedSession =
      [(.text "records", .int 1), (.text "component", .text "evaluator")] := by
    have correlation : movedSession.correlation? = none := rfl
    have context : movedSession.context = [] := rfl
    change completeFields movedSession "evaluator" [(.text "records", .int 1)] = _
    rw [completeFields_eq, correlation, context]
    cbv
  have sound : movedCall.Sound movedSession := by
    refine ⟨rfl, ?_, fun _ => by rw [component]; rfl⟩
    have short : Numeral.isShort 1 = true := by decide
    rw [entry]
    exact .of_texts (by simp [Json.encode, Json.wholeText, short, reserved])
  have apart : movedCall.component movedSession ≠ .text errorsKey := by
    rw [component]
    simp [errorsKey]
  have led : movingSteps.foldl (Step.move (Target.initial (Session.start "")))
      (Target.initial (Session.start "")) = ⟨"other", 40⟩ := rfl
  have receivers : Target.receivers ⟨"other", 40⟩ .error (.text "evaluator") = handlers := rfl
  rw [led] at reaches
  obtain ⟨text, written, received⟩ := (reaches apart).written (by decide) (succeeds sound)
  exact ⟨made, text, written, receivers ▸ component ▸ received⟩

def refusing : Host :=
  ⟨fun _ path => if path = "taken" then some (.other "FileExistsError" path) else none,
    fun _ _ => none, fun _ => false, []⟩

def startedWith (files : Files) : Session := { Session.start "" with files }

section Started

variable (files : Files)

theorem ofEnvironment_startedWith :
    ofEnvironment (startedWith files) = Target.logger ⟨"logs", infoLevel⟩ := rfl

theorem loggerFor_startedWith :
    loggerFor (startedWith files) = Target.logger ⟨"logs", infoLevel⟩ :=
  (loggerFor_of_none rfl rfl).trans (ofEnvironment_startedWith files)

theorem makeOn_startedWith : (perform (makeOn refusing) (startedWith files)).1 = .ok () := by
  refine makeOn_ok rfl rfl ?_ fun _ _ => rfl
  have plain : plainPath "logs" = "logs" := by cbv
  rw [ofEnvironment_startedWith, Target.logger, Logger.directory_make, plain]
  rfl

/-- What an entry without fields of its own leaves behind. -/
def told (component : String) (severity : Severity) (session : Session) :
    Except Failure Unit × Session :=
  perform (recordOn refusing component severity "told" []) session

/-- The line of an entry without fields of its own. -/
def toldLine (component : String) (severity : Severity) : Except Failure String :=
  line "" (.int severity.level) (.text "told") [(.text "component", .text component)]

theorem toldLine_ok (component : String) (severity : Severity) :
    ∃ text, toldLine component severity = .ok text :=
  Recordable.line (.of_texts (by simp [Json.encode, reserved])) "" "told" severity

theorem clashes_component (component : String) :
    clashes [(.text "component", .text component)] = false := by
  simp [clashes, Value.text?, reserved]

theorem told_startedWith {component text : String} {severity : Severity}
    {handlers : List Handler} (enabled : infoLevel ≤ severity.level)
    (found : (Target.logger ⟨"logs", infoLevel⟩).destinations (.text component) severity.level =
      .ok handlers)
    (written : toldLine component severity = .ok text) :
    (told component severity (startedWith files)).1 = .ok () ∧
      (told component severity (startedWith files)).2.files =
        writeLine text handlers (ensureLogger (startedWith files)).files := by
  have complete : (loggerFor (startedWith files)).Complete := by
    rw [loggerFor_startedWith]
    exact Logger.complete_make _ _
  have entry : completeFields (startedWith files) component [] =
      [(.text "component", .text component)] := rfl
  have time : (ensureLogger (startedWith files)).time = "" := rfl
  have named : Entries.get? [(.text "component", .text component)] "component" =
      some (.text component) := by simp [Entries.get?_single]
  have threshold : (Target.logger ⟨"logs", infoLevel⟩).isEnabledFor severity.level = true :=
    decide_eq_true enabled
  rw [toldLine] at written
  rw [told, recordOn_eq (makeOn_startedWith files) complete,
    perform_record rfl (by rw [entry, clashes_component]), loggerFor_startedWith, threshold,
    if_pos rfl, entry, time, written]
  simp only [named, Option.getD_some, found, and_self]

end Started

/-- A text of the size that no file of the log reaches. -/
def fullText : String := String.ofList (List.replicate maxBytes 'x')

theorem utf8ByteSize_fullText : fullText.utf8ByteSize = maxBytes := by
  have size (count : Nat) : String.utf8Len (List.replicate count 'x') = count := by
    induction count with
    | zero => rfl
    | succ count inductionHypothesis =>
        rw [List.replicate_succ, String.utf8Len_cons, inductionHypothesis]
        rfl
  rw [fullText, String.utf8ByteSize_ofList, size]

def refusedSession : Session :=
  (perform (configureOn refusing (.text "taken") .null) (startedWith [])).2

theorem told_info_errorsKey : (told errorsKey .info (startedWith [])).1 = .ok () ∧
    ∀ path, (told errorsKey .info (startedWith [])).2.files.textOf path = "" := by
  obtain ⟨text, line⟩ := toldLine_ok errorsKey .info
  obtain ⟨done, written⟩ := told_startedWith [] (by decide) (Logger.destinations_errorsKey _ _ _)
    line
  refine ⟨done, fun path => ?_⟩
  rw [written]
  exact congrFun (textOf_ensureLogger (startedWith [])) path

theorem told_error_errorsKey : ∃ text, toldLine errorsKey .error = .ok text ∧
    (told errorsKey .error (startedWith [])).1 = .ok () ∧
    (told errorsKey .error (startedWith [])).2.files.textOf "logs/system.log" = "" ∧
    (told errorsKey .error (startedWith [])).2.files.textOf "logs/errors.log" =
      text ++ "\n" ++ (text ++ "\n") := by
  let text := "\x7b\"timestamp\": \"\", \"level\": \"ERROR\", \"message\": \"told\", " ++
    "\"component\": \"_errors\"\x7d"
  have line : toldLine errorsKey .error = .ok text := by cbv
  let handler : Handler := ⟨"logs/errors.log", errorLevel, 10⟩
  have destinations : (Target.logger ⟨"logs", infoLevel⟩).destinations (.text errorsKey) 40 =
      .ok [handler, handler] := Logger.destinations_errorsKey "logs" infoLevel 40
  have enabled : infoLevel ≤ Severity.error.level := by decide
  obtain ⟨done, written⟩ := told_startedWith [] enabled destinations line
  have empty := textOf_ensureLogger (startedWith [])
  generalize (ensureLogger (startedWith [])).files = files at written empty
  have first : emit text files handler = files.append "logs/errors.log" (text ++ "\n") :=
    emit_of_fits _ _ (by rw [Handler.Fits, empty]; decide)
  have once : (emit text files handler).textOf "logs/errors.log" = text ++ "\n" := by
    rw [first, Files.textOf_append, if_pos rfl, empty]
    exact String.empty_append
  have second : writeLine text [handler, handler] files =
      (emit text files handler).append "logs/errors.log" (text ++ "\n") :=
    emit_of_fits _ _ (by rw [Handler.Fits, once]; decide)
  refine ⟨text, line, done, ?_, ?_⟩
  · rw [written, second, Files.textOf_append, if_neg (by decide), first, Files.textOf_append,
      if_neg (by decide), empty]
    rfl
  · rw [written, second, Files.textOf_append, if_pos rfl, once]

/-- A line for a full file starts that file again, and its text gets another path. -/
theorem told_full {full : String} (size : maxBytes ≤ full.utf8ByteSize) :
    ∃ text, toldLine "query" .error = .ok text ∧
      (told "query" .error (startedWith [("logs/query.log", full)])).1 = .ok () ∧
      (told "query" .error (startedWith [("logs/query.log", full)])).2.files.textOf
        "logs/query.log" = text ++ "\n" ∧
      (told "query" .error (startedWith [("logs/query.log", full)])).2.files.textOf
        "logs/query.log.1" = full := by
  obtain ⟨text, line⟩ := toldLine_ok "query" .error
  obtain ⟨done, written⟩ := told_startedWith [("logs/query.log", full)] (by decide)
    (Logger.destinations_make "logs" infoLevel (fun _ => rfl) (by simp [errorsKey]) _) line
  have held : (ensureLogger (startedWith [("logs/query.log", full)])).files.textOf
      "logs/query.log" = full := congrFun (textOf_ensureLogger _) "logs/query.log"
  generalize (ensureLogger (startedWith [("logs/query.log", full)])).files = files at written held
  have nonempty : full ≠ "" := by
    rintro rfl
    exact absurd size (by decide)
  have there : files.get? "logs/query.log" = some full := Files.get?_of_textOf held nonempty
  let handler : Handler := ⟨"logs/query.log", infoLevel, 5⟩
  have overfull : ¬ handler.Fits (text ++ "\n") files := by
    rw [Handler.Fits, held, Nat.not_lt]
    exact Nat.le_add_right_of_le size
  have receivers : Target.receivers ⟨"logs", infoLevel⟩ .error (.text "query") =
      [handler, ⟨"logs/errors.log", 40, 10⟩] := rfl
  have receives := (receives_writeLine text
    (Target.separate_receivers ⟨"logs", infoLevel⟩ .error (.text "query")) files).1 handler
    (by simp [receivers])
  obtain ⟨started, moved, -⟩ := receives.started overfull
  have path : backup "logs/query.log" 1 = "logs/query.log.1" := by cbv
  rw [path, there] at moved
  refine ⟨text, line, done, ?_, ?_⟩
  · rw [written]
    exact congrArg (Option.getD · "") started
  · rw [written]
    exact congrArg (Option.getD · "") moved

theorem told_refusedSession : (told "query" .error refusedSession).1 = .error .missingKey ∧
    (told "query" .error refusedSession).2.files.textOf = refusedSession.files.textOf := by
  obtain ⟨text, line⟩ := toldLine_ok "query" .error
  have refused : refusedSession.logger? = some ⟨"taken", infoLevel, []⟩ := rfl
  have made : perform (makeOn refusing) refusedSession = (.ok (), refusedSession) := by
    simp only [makeOn, perform_bind, perform_get, refused, perform_pure]
  have performed : told "query" .error refusedSession = (.error .missingKey, refusedSession) := by
    have own : clashes [] = false := rfl
    have complete : completeFields refusedSession "query" [] =
        [(.text "component", .text "query")] := rfl
    have time : refusedSession.time = "" := rfl
    have enabled : Logger.isEnabledFor ⟨"taken", infoLevel, []⟩ Severity.error.level = true := rfl
    have absent : Logger.handlerOf? ⟨"taken", infoLevel, []⟩
        ((Entries.get? [(.text "component", .text "query")] "component").getD .null) =
          .ok none := by
      rw [Entries.get?_single]
      rfl
    rw [toldLine] at line
    simp only [told, recordOn, own, clashes_component, Bool.false_eq_true, if_false,
      perform_bind, perform_get, routeOn, complete, made, refused, Option.getD_some, enabled,
      if_true, time, line, perform_lift, absent, deliver, perform_throw]
  rw [performed]
  exact ⟨rfl, rfl⟩

/-- Entries can miss their files: one of a component with the key of errors, one for a file that is
full, which takes a path away from other entries, and one after a refused directory. -/
theorem entries_can_miss_their_files :
    ((told errorsKey .info (startedWith [])).1 = .ok () ∧
      ∀ path, (told errorsKey .info (startedWith [])).2.files.textOf path = "") ∧
    (∃ text, toldLine errorsKey .error = .ok text ∧
      (told errorsKey .error (startedWith [])).1 = .ok () ∧
      (told errorsKey .error (startedWith [])).2.files.textOf "logs/system.log" = "" ∧
      (told errorsKey .error (startedWith [])).2.files.textOf "logs/errors.log" =
        text ++ "\n" ++ (text ++ "\n")) ∧
    (∃ text, toldLine "query" .error = .ok text ∧
      (told "query" .error (startedWith [("logs/query.log", fullText)])).1 = .ok () ∧
      (told "query" .error (startedWith [("logs/query.log", fullText)])).2.files.textOf
        "logs/query.log" = text ++ "\n" ∧
      (told "query" .error (startedWith [("logs/query.log", fullText)])).2.files.textOf
        "logs/query.log.1" = fullText) ∧
    (told "query" .error refusedSession).1 = .error .missingKey ∧
      (told "query" .error refusedSession).2.files.textOf = refusedSession.files.textOf :=
  ⟨told_info_errorsKey, told_error_errorsKey,
    told_full (Nat.le_of_eq utf8ByteSize_fullText.symm), told_refusedSession⟩

end RecordQuery.Log
