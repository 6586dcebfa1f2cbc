import RecordQuery.Proofs.Log.Handlers
import RecordQuery.Proofs.Session.Calls
import RecordQuery.Proofs.Session.Effects
import RecordQuery.Proofs.Settings.Layers

/-!
# The logger follows the settings

The logger is made from the environment when an entry needs it, which may be while the settings are
loaded; loaded settings are applied to a logger that is there, and a logger that is made later looks
for loaded settings. Settings and logger can be forgotten at any time. In whatever order all this
happens, a logger that is there beside loaded settings is the one that the settings ask for.
-/

namespace RecordQuery

open RecordQuery.Action

/-- The text of the file that the shared settings are loaded from. -/
def Session.configurationText? (session : Session) : Option String :=
  session.files.get? (plainPath (Settings.chooseFile "" session))

namespace Settings

def overrideAll (text? : String → Option String) (values : Entries) :
    List Override → Except Failure Entries
  | [] => .ok values
  | override :: rest =>
      match text? override.variableName with
      | none => overrideAll text? values rest
      | some text =>
          match writeInto values override.sectionName override.valueName (convert text) with
          | .error failure => .error failure
          | .ok changed => overrideAll text? changed rest

theorem overrideAll_of_perform {listed : List Override} {values changed : Entries}
    {session after : Session}
    (performed : perform (applyOverrides values listed) session = (.ok changed, after)) :
    overrideAll session.environmentText? values listed = .ok changed := by
  induction listed generalizing values session with
  | nil => exact (Prod.mk.inj performed).1
  | cons override rest inductionHypothesis =>
      rw [overrideAll]
      simp only [applyOverrides, applyOverridesWith, perform_bind, perform_get] at performed
      cases set : session.environmentText? override.variableName with
      | none =>
          rw [set] at performed
          exact inductionHypothesis performed
      | some text =>
          rw [set] at performed
          obtain ⟨written, middle, wrote, rest⟩ := perform_bind_ok performed
          obtain ⟨_, logged, recorded, last⟩ := perform_bind_ok rest
          rw [perform_lift] at wrote
          have unmoved := (Log.unmoved_record _ _ _ _).of_perform recorded
          have others := inductionHypothesis last
          rw [unmoved.environmentText?, ← (Prod.mk.inj wrote).2] at others
          simp only [(Prod.mk.inj wrote).1, others]

/-- Values that were loaded from a file are those that it holds over the defaults. -/
theorem values_of_loadFile {file : String} {values : Entries} {session after : Session}
    (performed : perform (loadFile file) session = (.ok values, after)) :
    ∃ entries, fileEntries? session file = some entries ∧ values = merge defaults entries := by
  have logged {severity : Log.Severity} {message : String} {fields result : Entries}
      (performed : perform (do log severity message fields; return result) session =
        (.ok values, after)) : values = result := by
    obtain ⟨_, _, -, returned⟩ := perform_bind_ok performed
    exact (Except.ok.inj (Prod.mk.inj returned).1).symm
  simp only [loadFile, loadFileWith, Bool.false_eq_true, if_false, perform_bind,
    perform_get] at performed
  rw [fileEntries?]
  split at performed
  · split at performed <;> exact ⟨[], by simp [*], logged performed⟩
  · split at performed
    · exact ⟨[], by simp [*], logged performed⟩
    · simp at performed
    · exact ⟨_, by simp [*], logged performed⟩
    · simp at performed

def Described (session : Session) (settings : Settings) : Prop :=
  ∃ entries, fileEntries? session (chooseFile "" session) = some entries ∧
    overrideAll session.environmentText? (merge defaults entries) overrides = .ok settings.values

theorem described_of_load {settings : Settings} {session after : Session}
    (performed : perform (load "") session = (.ok settings, after)) :
    Described session settings := by
  rw [load_eq, perform_bind, perform_get] at performed
  obtain ⟨values, middle, loaded, performed⟩ := perform_bind_ok performed
  obtain ⟨changed, _, applied, performed⟩ := perform_bind_ok performed
  obtain ⟨_, _, -, performed⟩ := perform_bind_ok performed
  obtain ⟨same, -⟩ := Prod.mk.inj performed
  obtain ⟨entries, held, rfl⟩ := values_of_loadFile loaded
  have overridden := overrideAll_of_perform applied
  rw [((unmoved_loadFile _).of_perform loaded).environmentText?] at overridden
  refine ⟨entries, held, ?_⟩
  rw [overridden, ← Except.ok.inj same]

theorem Described.logLevel {session : Session} {one other : Settings}
    (described : Described session one) (again : Described session other) :
    one.logLevel = other.logLevel := by
  obtain ⟨entries, held, values⟩ := described
  obtain ⟨_, heldAgain, valuesAgain⟩ := again
  obtain rfl := Option.some.inj (held.symm.trans heldAgain)
  have same := Except.ok.inj (values.symm.trans valuesAgain)
  simp only [Settings.logLevel, valueAt, valueAt?, same]

theorem Described.of_same {session other : Session} {settings : Settings}
    (environment : session.environment = other.environment)
    (file : session.configurationText? = other.configurationText?)
    (described : Described session settings) : Described other settings := by
  have text : session.environmentText? = other.environmentText? := by
    funext name
    rw [Session.environmentText?, environment]
    rfl
  obtain ⟨entries, held, values⟩ := described
  refine ⟨entries, ?_, text ▸ values⟩
  rw [fileEntries?] at held ⊢
  have present : session.files.get? (plainPath (chooseFile "" session)) =
      other.files.get? (plainPath (chooseFile "" other)) := file
  rwa [← present]

end Settings

/-- The environment and the logger of a session, beside loaded settings, are those that a session in
the beginning describes. -/
structure Follows (start session : Session) : Prop where
  environment : session.environment = start.environment
  described : ∀ settings, session.settings? = some settings → Settings.Described start settings
  made : ∃ directory level, Log.loggerFor session = Log.Logger.make directory level ∧
    (level = (Log.ofEnvironment start).level ∨ ∃ settings, Settings.Described start settings ∧
      level = (Log.ofEnvironment start).requestedLevel settings.logLevel)
  applied : ∀ settings, session.settings? = some settings → Log.loggerFor session =
    Log.Logger.make settings.logDirectory
      ((Log.ofEnvironment start).requestedLevel settings.logLevel)

namespace Follows

variable {start session : Session}

theorem of_unmoved (follows : Follows start session) {after : Session}
    (unmoved : Unmoved session after) : Follows start after where
  environment := unmoved.environment.trans follows.environment
  described settings loaded := follows.described settings (unmoved.settings ▸ loaded)
  made := unmoved.logger ▸ follows.made
  applied settings loaded := unmoved.logger.trans
    (follows.applied settings (unmoved.settings ▸ loaded))

theorem ofEnvironment (follows : Follows start session) :
    Log.ofEnvironment session = Log.ofEnvironment start := by
  have same : session.environmentText? = start.environmentText? := by
    funext name
    rw [Session.environmentText?, follows.environment]
    rfl
  rw [Log.ofEnvironment, Log.ofEnvironment, same]

theorem loggerFor_of_none (follows : Follows start session) (none : session.logger? = none)
    (unloaded : session.settings? = .none) : Log.loggerFor session = Log.ofEnvironment start :=
  (Log.loggerFor_of_none none unloaded).trans follows.ofEnvironment

/-- Before settings are loaded, entries may go through the logger of the environment. -/
theorem of_unloaded (unloaded : start.settings? = none)
    (made : Log.loggerFor start = Log.ofEnvironment start) : Follows start start where
  environment := rfl
  described settings loaded := by simp [unloaded] at loaded
  made := ⟨_, _, made, .inl rfl⟩
  applied settings loaded := by simp [unloaded] at loaded

/-- In the beginning nothing is loaded, and there is no logger. -/
theorem of_fresh (unloaded : start.settings? = none) (none : start.logger? = none) :
    Follows start start :=
  of_unloaded unloaded (Log.loggerFor_of_none none unloaded)

theorem forget_settings (follows : Follows start session) :
    Follows start { session with settings? := none } where
  environment := follows.environment
  described settings loaded := by contradiction
  made := by
    rcases Option.eq_none_or_eq_some session.logger? with found | ⟨logger, found⟩
    · have fresh : Log.loggerFor { session with settings? := none } = Log.ofEnvironment session :=
        Log.loggerFor_of_none found rfl
      exact ⟨_, _, fresh.trans follows.ofEnvironment, .inl rfl⟩
    · obtain ⟨directory, level, made, origin⟩ := follows.made
      have kept : Log.loggerFor { session with settings? := none } = logger :=
        Log.loggerFor_of_some found
      exact ⟨directory, level, kept.trans ((Log.loggerFor_of_some found).symm.trans made), origin⟩
  applied settings loaded := by contradiction

theorem forget_logger (follows : Follows start session) :
    Follows start { session with logger? := none } where
  environment := follows.environment
  described := follows.described
  made := by
    rcases Option.eq_none_or_eq_some session.settings? with found | ⟨settings, found⟩
    · have fresh : Log.loggerFor { session with logger? := none } = Log.ofEnvironment session :=
        Log.loggerFor_of_none rfl found
      exact ⟨_, _, fresh.trans follows.ofEnvironment, .inl rfl⟩
    · have made : Log.loggerFor { session with logger? := none } = _ :=
        Log.loggerFor_of_settings rfl found
      refine ⟨_, _, made, .inr ⟨settings, follows.described settings found, ?_⟩⟩
      exact congrArg (Log.Logger.requestedLevel · settings.logLevel) follows.ofEnvironment
  applied settings loaded := by
    rw [Log.loggerFor_of_settings rfl loaded]
    exact congrArg (fun logger : Log.Logger => Log.Logger.make settings.logDirectory
      (logger.requestedLevel settings.logLevel)) follows.ofEnvironment

/-- The level that described settings ask of the logger is the one that they ask of the
environment's. -/
theorem requestedLevel_eq (follows : Follows start session) {settings : Settings}
    (described : Settings.Described start settings) :
    (Log.loggerFor session).requestedLevel settings.logLevel =
      (Log.ofEnvironment start).requestedLevel settings.logLevel := by
  by_cases given : settings.logLevel = .null
  · obtain ⟨directory, level, made, rfl | ⟨other, describedOther, rfl⟩⟩ := follows.made
    · rw [made, given]
      rfl
    · rw [made, described.logLevel describedOther]
      exact Log.Logger.requestedLevel_of_requested rfl
  · exact Log.Logger.requestedLevel_of_ne_null given _ _

/-- The logger that newly loaded settings meet asks of them what the environment's does. -/
theorem met_by_settings (follows : Follows start session) {settings : Settings}
    (described : Settings.Described start settings) :
    ∃ directory level, Log.loggerFor { session with settings? := some settings } =
        Log.Logger.make directory level ∧
      (Log.Logger.make directory level).requestedLevel settings.logLevel =
        (Log.ofEnvironment start).requestedLevel settings.logLevel := by
  -- It is made for them, or it was there before.
  rcases Option.eq_none_or_eq_some session.logger? with found | ⟨logger, found⟩
  · have made : Log.loggerFor { session with settings? := some settings } = _ :=
      Log.loggerFor_of_settings found rfl
    refine ⟨_, _, made, Log.Logger.requestedLevel_of_requested ?_⟩
    exact congrArg (Log.Logger.requestedLevel · settings.logLevel) follows.ofEnvironment
  · obtain ⟨directory, level, made, -⟩ := follows.made
    have kept : Log.loggerFor { session with settings? := some settings } = logger :=
      Log.loggerFor_of_some found
    refine ⟨directory, level, kept.trans ((Log.loggerFor_of_some found).symm.trans made), ?_⟩
    rw [← made]
    exact follows.requestedLevel_eq described

theorem shared_of_load (follows : Follows start session)
    (file : session.configurationText? = start.configurationText?)
    (unloaded : session.settings? = none) {settings : Settings} {middle : Session}
    (loaded : perform (Settings.load "") session = (.ok settings, middle)) :
    ∃ after, perform Settings.shared session = (.ok settings, after) ∧
      after.environment = start.environment ∧ after.settings? = some settings ∧
      after.logger? = some (Log.Logger.make settings.logDirectory
        ((Log.ofEnvironment start).requestedLevel settings.logLevel)) := by
  have middleFollows := follows.of_unmoved ((Settings.unmoved_load "").of_perform loaded)
  have described := (Settings.described_of_load loaded).of_same follows.environment file
  obtain ⟨directory, level, made, requested⟩ := middleFollows.met_by_settings described
  have logger := Log.logger_configure made (.text settings.logDirectory) settings.logLevel
  obtain ⟨environment, shared⟩ := Log.sources_configure (.text settings.logDirectory)
    settings.logLevel { middle with settings? := some settings }
  have configured : (perform (Log.configure (.text settings.logDirectory) settings.logLevel)
      { middle with settings? := some settings }).1 = .ok () := rfl
  refine ⟨_, ?_, environment.trans middleFollows.environment, shared, requested ▸ logger⟩
  rw [Settings.shared, perform_bind, perform_get]
  simp only [unloaded, perform_bind, loaded, perform_modify]
  rw [← Prod.eta (perform (Log.configure _ _) _), configured]
  rfl

theorem shared (follows : Follows start session)
    (file : session.configurationText? = start.configurationText?) :
    Follows start (perform Settings.shared session).2 := by
  cases found : session.settings? with
  | some settings =>
      rw [Settings.shared, perform_bind, perform_get]
      simp only [found]
      exact follows
  | none =>
      rcases loaded : perform (Settings.load "") session with ⟨failure | settings, middle⟩
      · rw [Settings.shared, perform_bind, perform_get]
        simp only [found, perform_bind, loaded]
        exact follows.of_unmoved ((Settings.unmoved_load "").of_perform loaded)
      · obtain ⟨after, performed, environment, held, logger⟩ :=
          follows.shared_of_load file found loaded
        have described := (Settings.described_of_load loaded).of_same follows.environment file
        have final := Log.loggerFor_of_some logger
        rw [performed]
        refine ⟨environment, ?_, ⟨_, _, final, .inr ⟨settings, described, rfl⟩⟩, ?_⟩
        · rintro found again
          obtain rfl := Option.some.inj (held.symm.trans again)
          exact described
        · rintro found again
          obtain rfl := Option.some.inj (held.symm.trans again)
          exact final

/-- What follows an operation may write to the log. -/
theorem andThen {α β : Type} {first : Action α} {next : α → Action β}
    (follows : Follows start (perform first session).2)
    (after : ∀ result, Leaves Unmoved (next result)) :
    Follows start (perform (first >>= next) session).2 := by
  rw [perform_bind]
  rcases performed : perform first session with ⟨failure | result, middle⟩ <;>
    rw [performed] at follows
  · exact follows
  · exact follows.of_unmoved (after result middle)

theorem run {α : Type} (follows : Follows start session) (operation : Log.Operation)
    {body : Session → α × Option Failure × Session}
    (within : ∀ identifier entered, perform operation.enter session = (.ok identifier, entered) →
      Follows start entered → Follows start (body entered).2.2) :
    Follows start (operation.run body session).2 := by
  rw [Log.Operation.run]
  rcases performed : perform operation.enter session with ⟨failure | identifier, entered⟩ <;>
    have inside := follows.of_unmoved (operation.steady_enter.unmoved.of_perform performed)
  · exact inside
  · have left := (within identifier entered performed inside).of_unmoved
      ((operation.steady_finish (body entered).2.1).unmoved _)
    dsimp only
    split <;> exact left.of_unmoved (.of_parts rfl rfl rfl)

theorem unsupportedOperators (follows : Follows start session)
    (file : session.configurationText? = start.configurationText?) (mark : Mark) :
    Follows start (perform (Session.unsupportedOperators mark) session).2 :=
  (follows.shared file).andThen fun _ => .bind (.lift _) fun _ => .get_bind fun _ => .lift _

theorem constrain (follows : Follows start session)
    (file : session.configurationText? = start.configurationText?) (mark : Mark) (field : Value)
    (operation : FieldOperation) :
    Follows start (perform (Session.constrain mark field operation) session).2 := by
  have limit : Follows start (perform (Session.limitFor operation) session).2 := by
    rw [Session.limitFor]
    split
    · exact (follows.shared file).andThen fun _ => .lift _
    · exact follows
  have checked : Follows start (perform (Session.checkedEdits field operation) session).2 :=
    limit.andThen fun _ => .bind (.lift _) fun _ => .bind (.lift _) fun _ => .pure _
  rw [Session.constrain_eq]
  refine checked.andThen fun _ => .get_bind fun _ => .bind (Session.unmoved_modifyStore _)
    fun _ => ?_
  split
  · exact .throw _
  · exact .pure _

theorem process (follows : Follows start session)
    (file : session.configurationText? = start.configurationText?) (mark : Mark)
    (records : Value) : Follows start (Session.process mark records session).2 := by
  have supported : Follows start (perform (Session.requireSupport mark) session).2 := by
    refine (follows.unsupportedOperators file mark).andThen fun operators => ?_
    split
    · exact .pure _
    · refine .bind (Log.unmoved_record _ _ _ _) fun _ => ?_
      split <;> exact .throw _
  rw [Session.process]
  rcases performed : perform (Session.requireSupport mark) session with ⟨failure | _, after⟩ <;>
    rw [performed] at supported
  · exact supported
  · dsimp only
    split
    · exact supported
    · exact supported.run _ fun _ _ _ inside =>
        inside.of_unmoved (Session.steady_evaluate _ _ _).toUnmoved
    · exact supported

end Follows

namespace Session

inductive Step where
  | settings
  | forgetSettings
  | forgetLogger
  | record (component : String) (severity : Log.Severity) (message : String) (fields : Entries)
  | route (severity : Log.Severity) (message : String) (fields : Entries)
  | enabled (level : Value)
  | call (call : Call)
  | supported (mark : Mark)
  | process (mark : Mark) (records : Value)
  | snapshot (mark : Mark)
  | parameters (mark : Mark)
  | text (mark : Mark)
  | display (mark : Mark)

def Step.after (session : Session) : Step → Session
  | .settings => (perform Settings.shared session).2
  | .forgetSettings => (perform Settings.reset session).2
  | .forgetLogger => (perform Log.reset session).2
  | .record component severity message fields =>
      (perform (Log.record component severity message fields) session).2
  | .route severity message fields => (perform (Log.route severity message fields) session).2
  | .enabled level => (perform (Log.isEnabledFor level) session).2
  | .call change => change.after session
  | .supported mark => (perform (Session.isSupported mark) session).2
  | .process mark records => (Session.process mark records session).2
  | .snapshot mark => (perform (Session.snapshot mark) session).2
  | .parameters mark => (perform (Session.parameters mark) session).2
  | .text mark => (perform (Session.text mark) session).2
  | .display mark => (perform (Session.display mark) session).2

/-- A run of steps, some of them inside operations of the log, with a text of the configuration file
that is the same whenever a step begins. -/
inductive Run (text? : Option String) : Session → Session → Prop where
  | nil {session : Session} : Run text? session session
  | step {first last : Session} (step : Step) : Run text? first last →
      last.configurationText? = text? → Run text? first (step.after last)
  | operation {α : Type} {first last : Session} (operation : Log.Operation)
      (body : Session → α × Option Failure × Session) : Run text? first last →
      (∀ identifier entered, perform operation.enter last = (.ok identifier, entered) →
        Run text? entered (body entered).2.2) → Run text? first (operation.run body last).2

theorem Step.follows {start session : Session} (follows : Follows start session)
    (file : session.configurationText? = start.configurationText?) (step : Step) :
    Follows start (step.after session) := by
  cases step with
  | settings => exact follows.shared file
  | forgetSettings => exact follows.forget_settings
  | forgetLogger => exact follows.forget_logger
  | record component severity message fields =>
      exact follows.of_unmoved (Log.unmoved_record _ _ _ _ session)
  | route severity message fields => exact follows.of_unmoved (Log.unmoved_route _ _ _ session)
  | enabled level => exact follows.of_unmoved (Log.unmoved_isEnabledFor level session)
  | call change =>
      cases change with
      | create options => exact follows.of_unmoved (unmoved_create options session)
      | constrain mark field operation => exact follows.constrain file mark field operation
      | order mark field direction => exact follows.of_unmoved (unmoved_order _ _ _ session)
      | assign mark setting => exact follows.of_unmoved (unmoved_assign _ _ session)
      | join mark combinator operands => exact follows.of_unmoved (unmoved_join _ _ _ session)
  | supported mark => exact (follows.unsupportedOperators file mark).andThen fun _ => .pure _
  | process mark records => exact follows.process file mark records
  | snapshot mark => exact follows.of_unmoved (unmoved_snapshot mark session)
  | parameters mark => exact follows.of_unmoved (unmoved_parameters mark session)
  | text mark => exact follows.of_unmoved (unmoved_text mark session)
  | display mark => exact follows.of_unmoved (unmoved_display mark session)

theorem Run.follows {start first last : Session}
    (run : Run start.configurationText? first last) (follows : Follows start first) :
    Follows start last := by
  induction run with
  | nil => exact follows
  | step step _ file inductionHypothesis => exact step.follows (inductionHypothesis follows) file
  | operation operation body _ _ inductionHypothesis within =>
      exact (inductionHypothesis follows).run operation fun identifier entered performed inside =>
        within identifier entered performed inside

/-- Wherever settings are loaded and a logger is there, the logger is the one that the settings ask
for, in whatever order the two came about: it has their directory and level, every handler but that
of the errors has this level, and all handlers write into the directory. -/
theorem logger_follows_settings {start session : Session} {settings : Settings}
    {logger : Log.Logger} (unloaded : start.settings? = none) (none : start.logger? = none)
    (run : Run start.configurationText? start session)
    (loaded : session.settings? = some settings) (made : session.logger? = some logger) :
    logger.directory = plainPath settings.logDirectory ∧
      logger.level = (match settings.logLevel with
        | .int level => level
        | .bool level => if level then 1 else 0
        | .null => (Log.ofEnvironment start).level
        | level => Log.resolveLevel level) ∧
      logger.handlers.map Prod.fst = Log.componentFiles.map Prod.fst ++ [Log.errorsKey] ∧
      ∀ key handler, (key, handler) ∈ logger.handlers →
        handler.level = (if key = Log.errorsKey then Log.errorLevel else logger.level) ∧
        ∃ file, ((key, file) ∈ Log.componentFiles ∨
          key = Log.errorsKey ∧ file = Log.errorsFile) ∧
          handler.file = pathIn logger.directory file := by
  have follows := run.follows (.of_fresh unloaded none)
  obtain rfl : logger = _ := (Log.loggerFor_of_some made).symm.trans (follows.applied _ loaded)
  refine ⟨rfl, ?_, ?_, fun key handler member => ?_⟩
  · change (Log.ofEnvironment start).requestedLevel settings.logLevel = _
    cases settings.logLevel <;> rfl
  · simp [Log.Logger.make, Log.Logger.makeHandlers, Function.comp_def]
  · rcases Log.Logger.mem_handlers_make member with ⟨file, listed, rfl⟩ | ⟨rfl, rfl⟩
    · have component := Log.Logger.componentFiles_ne_errorsKey _ listed
      rw [if_neg component, Log.Logger.directory_make]
      exact ⟨rfl, file, .inl listed, by dsimp only⟩
    · rw [if_pos rfl, Log.Logger.directory_make]
      exact ⟨rfl, Log.errorsFile, .inr ⟨rfl, rfl⟩, by dsimp only⟩

/-- A session whose environment gives the level by a number. The log takes it for the name of no
level, the settings for the level itself. -/
def leveledSession : Session :=
  { Session.start "" with environment := [("LOG_LEVEL", "10")] }

theorem later_settings_move_the_logger : ∃ session settings logger,
    Run leveledSession.configurationText? leveledSession session ∧
      session.settings? = some settings ∧ session.logger? = some logger ∧
      (Log.loggerFor leveledSession).level = 20 ∧ logger.level = 10 := by
  let first := (Step.enabled (.int 20)).after leveledSession
  have fresh : Follows leveledSession leveledSession := .of_fresh rfl rfl
  have begun : Run leveledSession.configurationText? leveledSession first := .step _ .nil rfl
  have file : first.configurationText? = leveledSession.configurationText? := by cbv
  have missing : Settings.fileEntries? first (Settings.chooseFile "" first) = some [] := by cbv
  have sectioned : Settings.Sectioned [] := by
    intro override listed value found
    contradiction
  have context : Log.Recordable first.context := .of_texts (by rintro entry ⟨⟩)
  obtain ⟨settings, middle, loaded, overridden⟩ :=
    Settings.load_succeeds missing sectioned context
  obtain ⟨after, performed, -, shared, logger⟩ :=
    (begun.follows fresh).shared_of_load file rfl loaded
  have run : Run leveledSession.configurationText? leveledSession (Step.settings.after first) :=
    .step .settings begun file
  have left : Step.settings.after first = after := congrArg Prod.snd performed
  rw [left] at run
  have level : settings.logLevel = .int 10 := by
    let override : Settings.Override := ⟨"LOG_LEVEL", "logging", "level"⟩
    have listed : override ∈ Settings.overrides := by simp [override, Settings.overrides]
    have set := overridden.below override listed "10" rfl []
    have parts : Text.pathParts "logging.level" = ["logging", "level"] := by cbv
    have converted : Settings.convert "10" = .int 10 := by cbv
    rw [List.append_nil, Settings.parts_of_listed override listed, converted] at set
    rw [Settings.logLevel, Settings.valueAt, Settings.valueAt?, parts, set]
    rfl
  obtain ⟨-, followed, -⟩ := logger_follows_settings rfl rfl run shared logger
  exact ⟨after, settings, _, run, shared, logger, by cbv, followed.trans (by rw [level])⟩

end Session

end RecordQuery
