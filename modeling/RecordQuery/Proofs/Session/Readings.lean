import RecordQuery.Proofs.Log.Files
import RecordQuery.Proofs.Log.Levels
import RecordQuery.Proofs.Log.Routing
import RecordQuery.Proofs.Session.LoggerSettings

/-!
# Two readings of the environment

A new logger takes its directory and its level from the texts of the environment. The settings read
these texts as values, and once they are loaded they are applied to the logger. Without a file the
directory stays exactly if the text is what its value is shown as, and the level stays unless the
text stands for a truth value or for another number.
-/

namespace RecordQuery

open RecordQuery.Action

theorem plainPath_of_no_slash {path : String} (absent : '/' ∉ path.toList) :
    plainPath path = if path = "" then "." else path := by
  have relative : (path.toList.head? == some '/') = false := by
    rw [beq_eq_false_iff_ne]
    exact fun slash => absent (List.mem_of_mem_head? slash)
  have pieces : Text.split '/' path = [path] := by
    rw [Text.split, Text.pieces_of_not_mem absent, List.map_singleton, String.ofList_toList]
  rw [plainPath, pieces, relative]
  by_cases empty : path = ""
  · subst empty
    rfl
  · by_cases here : path = "."
    · subst here
      rfl
    · simp [empty, here, Text.join, Text.joined]

namespace Settings

theorem slash_not_mem_of_convert_ne {text : String} (other : convert text ≠ .text text) :
    '/' ∉ text.toList ∧ '/' ∉ (convert text).plain := by
  rcases convert_cases text with
    ⟨value, read, word, member, lower⟩ | ⟨value, read, whole⟩ | ⟨value, read, real⟩ | same
  · constructor
    · intro slash
      have lowerSlash : '/' ∈ word.toList := lower ▸ List.mem_map.mpr ⟨'/', slash, rfl⟩
      revert lowerSlash
      rcases List.mem_cons.mp member with rfl | member
      · decide
      · rw [List.mem_singleton.mp member]
        decide
    · rw [read]
      cases value <;> decide
  · exact ⟨Numeral.slash_not_mem_of_integer? whole, read ▸ slash_not_mem_intText value⟩
  · exact ⟨Numeral.slash_not_mem_of_real? real, read ▸ Binary64.slash_not_mem_text value⟩
  · exact absurd same other

theorem plainPath_convert_iff (text : String) :
    plainPath (String.ofList (convert text).plain) = plainPath text ↔
      (convert text).plain = text.toList := by
  by_cases same : convert text = .text text
  · simp [same, Value.plain]
  refine ⟨fun paths => ?_, fun shown => by rw [shown, String.ofList_toList]⟩
  obtain ⟨absent, absentShown⟩ := slash_not_mem_of_convert_ne same
  have nonempty : text ≠ "" := by
    rintro rfl
    exact same (by cbv)
  have moves : text ≠ "." := by
    rintro rfl
    exact same (by cbv)
  rw [plainPath_of_no_slash absent, plainPath_of_no_slash (by simpa using absentShown),
    if_neg nonempty] at paths
  split at paths
  · exact absurd paths.symm moves
  · have shown := congrArg String.toList paths
    rwa [String.toList_ofList] at shown

def KeepsLevel : Value → Prop
  | .bool _ => False
  | .int level => level = Log.infoLevel
  | _ => True

theorem requestedLevel_convert_iff (logger : Log.Logger) (text : String) :
    logger.requestedLevel (convert text) = Log.resolveLevel (.text text) ↔
      KeepsLevel (convert text) := by
  by_cases same : convert text = .text text
  · simp [same, KeepsLevel, Log.Logger.requestedLevel]
  rw [resolveLevel_of_convert_ne same]
  rcases convert_cases text with ⟨value, read, -⟩ | ⟨value, read, -⟩ | ⟨value, read, -⟩ | itself
  · rw [read]
    cases value <;> simp [KeepsLevel, Log.Logger.requestedLevel, Log.infoLevel]
  · rw [read]
    rfl
  · rw [read]
    simp [KeepsLevel, Log.Logger.requestedLevel, Log.resolveLevel]
  · exact absurd itself same

theorem valueAt_of_overridden {text? : String → Option String} {settings : Settings}
    (overridden : Overridden text? overrides defaults settings.values) {override : Override}
    (listed : override ∈ overrides) {usual : Value}
    (default : getParts? (.mapping defaults) override.parts = some usual) (other : Value) :
    settings.valueAt override.path other =
      ((text? override.variableName).map convert).getD usual := by
  have parts := parts_of_listed override listed
  rw [valueAt, valueAt?]
  change (getParts? (.mapping settings.values) override.parts).getD other = _
  cases set : text? override.variableName with
  | some text =>
      have found := overridden.below override listed text set []
      rw [List.append_nil] at found
      rw [found]
      rfl
  | none =>
      have distinct : (overrides.map Override.parts).Nodup := by decide
      have free : Free text? overrides override.parts := by
        rintro another anotherListed isSet ⟨rest, same⟩
        rw [parts_of_listed another anotherListed, parts] at same
        have equal : another.parts = override.parts := by
          rw [parts_of_listed another anotherListed, parts]
          simp only [List.cons_append, List.cons.injEq, List.nil_append] at same
          rw [same.1, same.2.1]
        rw [List.inj_on_of_nodup_map distinct anotherListed listed equal, set] at isSet
        contradiction
      rw [overridden.apart override.parts (by simp [parts]) (by simp [parts]) free, default]
      rfl

theorem logDirectory_of_overridden {text? : String → Option String} {settings : Settings}
    (overridden : Overridden text? overrides defaults settings.values) :
    settings.logDirectory =
      String.ofList (((text? "LOG_DIR").map convert).getD (.text "logs")).plain := by
  have listed : ⟨"LOG_DIR", "logging", "external_logs_dir"⟩ ∈ overrides := by simp [overrides]
  exact congrArg (fun value : Value => String.ofList value.plain)
    (valueAt_of_overridden overridden listed (by cbv) (.text "logs"))

theorem logLevel_of_overridden {text? : String → Option String} {settings : Settings}
    (overridden : Overridden text? overrides defaults settings.values) :
    settings.logLevel = ((text? "LOG_LEVEL").map convert).getD (.text "INFO") := by
  have listed : ⟨"LOG_LEVEL", "logging", "level"⟩ ∈ overrides := by simp [overrides]
  exact valueAt_of_overridden overridden listed (by cbv) (.text "INFO")

theorem plainPath_logDirectory_iff {session : Session} {settings : Settings}
    (overridden : Overridden session.environmentText? overrides defaults settings.values) :
    plainPath settings.logDirectory = (Log.ofEnvironment session).directory ↔
      ∀ text, session.environmentText? "LOG_DIR" = some text →
        (convert text).plain = text.toList := by
  change _ = plainPath ((session.environmentText? "LOG_DIR").getD "logs") ↔ _
  rw [logDirectory_of_overridden overridden]
  cases set : session.environmentText? "LOG_DIR" with
  | none => simp [Value.plain]
  | some text =>
      simp only [Option.map_some, Option.getD_some, Option.some.injEq, forall_eq']
      exact plainPath_convert_iff text

/-- The level that settings without a file ask for is that of the environment exactly if the value
of the variable asks for the level that its text asks for. -/
theorem requestedLevel_logLevel_iff {session : Session} {settings : Settings}
    (overridden : Overridden session.environmentText? overrides defaults settings.values) :
    (Log.ofEnvironment session).requestedLevel settings.logLevel =
        (Log.ofEnvironment session).level ↔
      ∀ text, session.environmentText? "LOG_LEVEL" = some text → KeepsLevel (convert text) := by
  change _ = Log.resolveLevel (((session.environmentText? "LOG_LEVEL").map Value.text).getD .null) ↔
    _
  rw [logLevel_of_overridden overridden]
  cases set : session.environmentText? "LOG_LEVEL" with
  | none =>
      have usual : Log.resolveLevel (.text "INFO") = Log.infoLevel := by cbv
      simp only [Option.map_none, Option.getD_none, reduceCtorEq, false_implies, implies_true,
        iff_true]
      exact usual
  | some text =>
      simp only [Option.map_some, Option.getD_some, Option.some.injEq, forall_eq']
      exact requestedLevel_convert_iff _ text

end Settings

/-- Making the logger gives the configuration file no entries: where it makes the file, it is empty.
-/
theorem fileEntries?_ensureLogger {session : Session}
    (missing : session.configurationText? = none) :
    Settings.fileEntries? (Log.ensureLogger session)
      (Settings.chooseFile "" (Log.ensureLogger session)) = some [] := by
  have environment : (Log.ensureLogger session).environmentText? = session.environmentText? :=
    (Log.unmoved_currentLogger session).environmentText?
  have chosen : Settings.chooseFile "" (Log.ensureLogger session) =
      Settings.chooseFile "" session := by
    rw [Settings.chooseFile, environment]
    rfl
  have text : (Log.ensureLogger session).files.textOf
      (plainPath (Settings.chooseFile "" session)) = "" := by
    rw [Log.textOf_ensureLogger, Files.textOf]
    exact congrArg (Option.getD · "") missing
  have malformed : Json.decode "" = .error .malformed := by cbv
  rw [chosen, Settings.fileEntries?]
  rw [Files.textOf] at text
  cases found : (Log.ensureLogger session).files.get?
      (plainPath (Settings.chooseFile "" session)) with
  | none => rfl
  | some other =>
      rw [found] at text
      obtain rfl : other = "" := text
      simp only [malformed]

theorem shared_after_logger {session : Session} (unloaded : session.settings? = none)
    (none : session.logger? = .none) (missing : session.configurationText? = .none)
    (context : Log.Recordable session.context) :
    ∃ settings after,
      perform Settings.shared (Log.ensureLogger session) = (.ok settings, after) ∧
      Settings.Overridden session.environmentText? Settings.overrides Settings.defaults
        settings.values ∧
      after.logger? = some (Log.Logger.make settings.logDirectory
        ((Log.ofEnvironment session).requestedLevel settings.logLevel)) := by
  let between := Log.ensureLogger session
  -- Settings are described by the session with the logger: its files may hold a new, empty one.
  have unmoved : Unmoved session between := Log.unmoved_currentLogger session
  have stillUnloaded := unmoved.settings.trans unloaded
  have direct : Log.ofEnvironment between = Log.ofEnvironment session := by
    rw [Log.ofEnvironment, Log.ofEnvironment, unmoved.environmentText?]
  have made : Log.loggerFor between = Log.ofEnvironment between := by
    rw [unmoved.logger, Log.loggerFor_of_none none unloaded, direct]
  have same : between.context = session.context := Log.apart_currentLogger.context session
  have kept : Log.Recordable between.context := same ▸ context
  have sectioned : Settings.Sectioned [] := by
    intro override listed value found
    contradiction
  obtain ⟨settings, middle, performed, overridden⟩ :=
    Settings.load_succeeds (fileEntries?_ensureLogger missing) sectioned kept
  obtain ⟨after, shared, -, -, logger⟩ :=
    (Follows.of_unloaded stillUnloaded made).shared_of_load rfl stillUnloaded performed
  rw [direct] at logger
  rw [unmoved.environmentText?] at overridden
  exact ⟨settings, after, shared, overridden, logger⟩

theorem Log.Logger.make_eq_iff {directory other : String} {level another : Int} :
    make directory level = make other another ↔
      (make directory level).directory = (make other another).directory ∧
        (make directory level).level = (make other another).level := by
  refine ⟨fun same => same ▸ ⟨rfl, rfl⟩, fun ⟨place, threshold⟩ => ?_⟩
  change plainPath directory = plainPath other at place
  change level = another at threshold
  rw [make, make, place, threshold]

/-- Loading settings without a file leaves the directory of a logger that was made from the
environment exactly if the text that names it is what its value is shown as, and its level exactly
if the text stands for no truth value and for no other number. With both of them it leaves the
logger. -/
theorem loading_keeps_logger_iff {session : Session} (unloaded : session.settings? = none)
    (none : session.logger? = .none) (missing : session.configurationText? = .none)
    (context : Log.Recordable session.context) :
    ∃ direct between settings after made,
      perform Log.currentLogger session = (.ok direct, between) ∧
      perform Settings.shared between = (.ok settings, after) ∧ after.logger? = some made ∧
      (made = direct ↔ made.directory = direct.directory ∧ made.level = direct.level) ∧
      (made.directory = direct.directory ↔
        ∀ text, session.environmentText? "LOG_DIR" = some text →
          (Settings.convert text).plain = text.toList) ∧
      (made.level = direct.level ↔
        ∀ text, session.environmentText? "LOG_LEVEL" = some text →
          Settings.KeepsLevel (Settings.convert text)) := by
  obtain ⟨settings, after, shared, overridden, logger⟩ :=
    shared_after_logger unloaded none missing context
  refine ⟨_, _, settings, after, _, Log.perform_currentLogger session, shared, logger, ?_⟩
  rw [Log.loggerFor_of_none none unloaded]
  exact ⟨Log.Logger.make_eq_iff, Settings.plainPath_logDirectory_iff overridden,
    Settings.requestedLevel_logLevel_iff overridden⟩

/-- A session whose environment names a directory and a level by numbers that are shown and taken
alike in both readings. -/
def agreeingSession : Session :=
  { Session.start "" with environment := [("LOG_DIR", "7"), ("LOG_LEVEL", "20")] }

theorem loading_keeps_numbered_logger :
    ∃ direct between settings after,
      perform Log.currentLogger agreeingSession = (.ok direct, between) ∧
      perform Settings.shared between = (.ok settings, after) ∧ after.logger? = some direct := by
  have context : Log.Recordable agreeingSession.context := .of_texts (by rintro entry ⟨⟩)
  have missing : agreeingSession.configurationText? = none := by cbv
  obtain ⟨direct, between, settings, after, made, directly, loaded, logger, same, directory,
    level⟩ := loading_keeps_logger_iff rfl rfl missing context
  have named : Settings.convert "7" = .int 7 := by cbv
  have leveled : Settings.convert "20" = .int 20 := by cbv
  have stays : made.directory = direct.directory := directory.mpr (by
    rintro _ ⟨⟩
    rw [named]
    cbv)
  have keeps : made.level = direct.level := level.mpr (by
    rintro _ ⟨⟩
    rw [leveled]
    rfl)
  obtain rfl := same.mpr ⟨stays, keeps⟩
  exact ⟨made, between, settings, after, directly, loaded, logger⟩

/-- A session whose environment names a directory by a number with leading zeros, and a level by its
number. -/
def movingSession : Session :=
  { Session.start "" with environment := [("LOG_DIR", "007"), ("LOG_LEVEL", "10")] }

/-- Loading settings moves the files of the log and changes its threshold. -/
theorem loading_moves_numbered_logger :
    ∃ direct between settings after made,
      perform Log.currentLogger movingSession = (.ok direct, between) ∧
      perform Settings.shared between = (.ok settings, after) ∧ after.logger? = some made ∧
      (direct.directory = "007" ∧ made.directory = "7") ∧ direct.level = 20 ∧ made.level = 10 := by
  have context : Log.Recordable movingSession.context := .of_texts (by rintro entry ⟨⟩)
  have missing : movingSession.configurationText? = none := by cbv
  obtain ⟨settings, after, shared, overridden, logger⟩ :=
    shared_after_logger rfl rfl missing context
  have named : Settings.convert "007" = .int 7 := by cbv
  have leveled : Settings.convert "10" = .int 10 := by cbv
  have directory : settings.logDirectory = "7" := by
    rw [Settings.logDirectory_of_overridden overridden]
    change String.ofList (Settings.convert "007").plain = "7"
    rw [named]
    cbv
  have level : settings.logLevel = .int 10 := by
    rw [Settings.logLevel_of_overridden overridden]
    exact leveled
  refine ⟨_, _, settings, after, _, Log.perform_currentLogger movingSession, shared, logger, ?_⟩
  rw [Log.loggerFor_of_none rfl rfl, directory, level]
  exact ⟨⟨by cbv, by cbv⟩, by cbv, rfl⟩

end RecordQuery
