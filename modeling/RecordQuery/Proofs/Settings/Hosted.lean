import RecordQuery.Proofs.Log.Following
import RecordQuery.Proofs.Log.Placing
import RecordQuery.Proofs.Settings.Layers

/-!
# Loading on a host

Once a host has granted a logger, entries are recorded on it as anywhere else. So settings are
loaded on the host as they are where nothing is refused, if the text of their file can be followed
and the first entry has a logger. Otherwise loading ends with what was refused.
-/

namespace RecordQuery

namespace Action

variable {α β : Type} {within : Session → Prop}

/-- Two operations do the same in all sessions of a kind, and these stay of the kind. -/
def Agree (within : Session → Prop) (first second : Action α) : Prop :=
  ∀ session, within session →
    perform first session = perform second session ∧ within (perform second session).2

namespace Agree

theorem pure (result : α) : Agree within (pure result) (pure result) := fun _ there => ⟨rfl, there⟩

theorem lift (result : Except Failure α) : Agree within (lift result) (lift result) :=
  fun session there => ⟨rfl, by rwa [perform_lift]⟩

theorem bind {first second : Action α} {next other : α → Action β}
    (here : Agree within first second)
    (later : ∀ result, Agree within (next result) (other result)) :
    Agree within (first >>= next) (second >>= other) := by
  intro session there
  obtain ⟨same, stays⟩ := here session there
  rw [perform_bind, perform_bind, same]
  generalize perform second session = performed at stays
  rcases performed with ⟨failure | result, middle⟩
  · exact ⟨rfl, stays⟩
  · exact later result middle stays

theorem get_bind {next other : Session → Action α}
    (later : ∀ session, Agree within (next session) (other session)) :
    Agree within (get >>= next) (get >>= other) :=
  bind (fun _ there => ⟨rfl, there⟩) later

end Agree

end Action

open RecordQuery.Action

namespace Log

variable {host : Host} {session : Session}

/-- A host grants a session a logger that has a handler for every entry. -/
structure Serves (host : Host) (session : Session) : Prop where
  made : (perform (makeOn host) session).1 = .ok ()
  complete : (loggerFor session).Complete

theorem serves_of_made (complete : ∀ logger ∈ session.logger?, logger.Complete)
    (made : (perform (makeOn host) session).1 = .ok ()) : Serves host session := by
  refine ⟨made, ?_⟩
  cases there : session.logger? with
  | some logger =>
      rw [loggerFor_of_some there]
      exact complete logger there
  | none =>
      cases loaded : session.settings? with
      | none =>
          rw [loggerFor_of_none there loaded]
          exact Logger.complete_make _ _
      | some settings =>
          rw [loggerFor_of_settings there loaded]
          exact Logger.complete_make _ _

theorem makeOn_of_some (host : Host) {logger : Logger} (there : session.logger? = some logger) :
    perform (makeOn host) session = (.ok (), session) := by
  simp only [makeOn, perform_bind, perform_get, there, perform_pure]

/-- A logger that was granted stays, so later entries are recorded as usual, too. -/
theorem agree_recordOn (component : String) (severity : Severity) (message : String)
    (fields : Entries) :
    Agree (Serves host) (recordOn host component severity message fields)
      (record component severity message fields) := by
  intro session serves
  refine ⟨recordOn_eq serves.made serves.complete component severity message fields, ?_⟩
  rcases record_state component message severity fields session with same | ⟨files, same⟩
  · rwa [same]
  · have there : ({ ensureLogger session with files } : Session).logger? =
        some (loggerFor session) := logger_ensureLogger session
    rw [same]
    refine ⟨by rw [makeOn_of_some host there], ?_⟩
    rw [loggerFor_of_some there]
    exact serves.complete

end Log

namespace Settings

variable {host : Host} {session : Session} {file : String} {within : Session → Prop}
  {first second : Recorder}

theorem agree_applyOverridesWith
    (same : ∀ severity message fields,
      Agree within (first severity message fields) (second severity message fields))
    (values : Entries) (listed : List Override) :
    Agree within (applyOverridesWith first values listed)
      (applyOverridesWith second values listed) := by
  induction listed generalizing values with
  | nil => exact .pure values
  | cons override rest inductionHypothesis =>
      rw [applyOverridesWith, applyOverridesWith]
      refine .get_bind fun session => ?_
      split
      · exact inductionHypothesis values
      · exact .bind (.lift _) fun changed => .bind (same _ _ _) fun _ => inductionHypothesis changed

/-- The text of a file, if there is one, is not nested too deep for a host. -/
def Followed (host : Host) (session : Session) (file : String) : Prop :=
  ∀ text, session.files.get? (plainPath file) = some text → host.exhausts text = false

theorem agree_loadFileWith
    (same : ∀ severity message fields,
      Agree within (first severity message fields) (second severity message fields))
    (there : within session) (followed : Followed host session file) :
    perform (loadFileWith first host.exhausts file) session =
        perform (loadFileWith second (fun _ => false) file) session ∧
      within (perform (loadFileWith second (fun _ => false) file) session).2 := by
  have recorded (severity : Log.Severity) (message : String) (fields result : Entries) :
      Agree within (do first severity message fields; return result)
        (do second severity message fields; return result) :=
    .bind (same _ _ _) fun _ => .pure result
  simp only [loadFileWith, perform_bind, perform_get]
  cases held : session.files.get? (plainPath file) with
  | none =>
      dsimp only
      split
      · exact recorded _ _ _ _ session there
      · exact recorded _ _ _ _ session there
  | some text =>
      simp only [followed text held, Bool.false_eq_true, if_false]
      cases Json.decode text with
      | error fault =>
          cases fault with
          | malformed => exact recorded _ _ _ _ session there
          | oversized => exact ⟨rfl, there⟩
      | ok value =>
          cases value with
          | mapping entries => exact recorded _ _ _ _ session there
          | _ => exact ⟨rfl, there⟩

/-- Settings are loaded alike by recorders that agree, from a text that can be followed. -/
theorem perform_loadWith_congr
    (same : ∀ severity message fields,
      Agree within (first severity message fields) (second severity message fields))
    (there : within session) (followed : Followed host session (chooseFile file session)) :
    perform (loadWith first host.exhausts file) session =
      perform (loadWith second (fun _ => false) file) session := by
  obtain ⟨alike, stays⟩ := agree_loadFileWith same there followed
  simp only [loadWith, perform_bind, perform_get, alike]
  generalize perform (loadFileWith second (fun _ => false) (chooseFile file session)) session =
    fromFile at stays
  rcases fromFile with ⟨failure | values, middle⟩
  · rfl
  · have rest := Agree.bind (agree_applyOverridesWith same values overrides) fun changed =>
      Agree.bind (same .info "unified_config_loaded"
        [(.text "config_file", .text (chooseFile file session)),
          (.text "config_sections", sections changed)]) fun _ =>
        Agree.pure (⟨chooseFile file session, changed⟩ : Settings)
    simpa only [perform_bind] using (rest middle stays).1

/-- The session with the variables of a host, for those that its environment lacks. -/
def prepared (host : Host) (session : Session) : Session :=
  { session with environment := session.environment ++ host.presets }

theorem perform_loadOn (host : Host) (file : String) (session : Session) :
    perform (loadOn host file) session =
      perform (loadWith (Log.recordOn host component) host.exhausts file)
        (prepared host session) := by
  simp only [loadOn, perform_bind, perform_modify, prepared]

/-- Where nothing is refused, settings are loaded on a host as anywhere else. -/
theorem perform_loadOn_of_serves (serves : Log.Serves host (prepared host session))
    (followed : Followed host (prepared host session)
      (chooseFile file (prepared host session))) :
    perform (loadOn host file) session = perform (load file) (prepared host session) := by
  rw [perform_loadOn, load]
  exact perform_loadWith_congr (Log.agree_recordOn component) serves followed

/-- The shared settings are loaded and applied as anywhere else, too, if their directory is granted
when they are applied. -/
theorem perform_sharedOn_of_serves (serves : Log.Serves host (prepared host session))
    (followed : Followed host (prepared host session) (chooseFile "" (prepared host session)))
    (unloaded : session.settings? = none)
    (granted : ∀ settings later, perform (load "") (prepared host session) = (.ok settings, later) →
      (perform (Log.configureOn host (.text settings.logDirectory) settings.logLevel)
        { later with settings? := some settings }).1 = .ok ()) :
    perform (sharedOn host) session = perform shared (prepared host session) := by
  have fresh : (prepared host session).settings? = none := unloaded
  simp only [sharedOn, shared, perform_bind, perform_get, unloaded, fresh,
    perform_loadOn_of_serves serves followed]
  rcases loaded : perform (load "") (prepared host session) with ⟨failure | settings, later⟩
  · rfl
  · have configured := granted settings later loaded
    simp only [perform_modify,
      Log.configureOn_eq (Log.makeOn_of_configureOn configured) fun _ _ => configured]

/-- The first entry of loading is that about the file, so without a logger nothing is loaded. -/
theorem loadOn_of_refused {entries : Entries} {failure : Failure}
    (held : fileEntries? (prepared host session) (chooseFile file (prepared host session)) =
      some entries)
    (followed : Followed host (prepared host session) (chooseFile file (prepared host session)))
    (refused : (perform (Log.makeOn host) (prepared host session)).1 = .error failure) :
    (perform (loadOn host file) session).1 = .error failure := by
  rw [perform_loadOn]
  generalize prepared host session = session at held followed refused ⊢
  have stops (severity : Log.Severity) (message : String) {fields : Entries}
      (own : Log.clashes fields = false) (result : Entries) :
      (perform (do
        Log.recordOn host component severity message fields
        return result : Action Entries) session).1 = .error failure := by
    rw [perform_bind, Log.recordOn_of_refused (Prod.ext refused rfl) own]
  have unread : (perform (loadFileWith (Log.recordOn host component) host.exhausts
      (chooseFile file session)) session).1 = .error failure := by
    simp only [loadFileWith, perform_bind, perform_get]
    obtain ⟨missing, rfl⟩ | ⟨text, present, decoded⟩ := fileEntries?_cases held
    · simp only [missing]
      split
      · exact stops .error "config_file_load_error" rfl defaults
      · exact stops .debug "config_file_not_found" rfl defaults
    · simp only [present, followed text present, Bool.false_eq_true, if_false]
      obtain decoded | ⟨malformed, -⟩ := decoded
      · simp only [decoded]
        exact stops .info "config_file_loaded" rfl _
      · simp only [malformed]
        exact stops .error "config_file_load_error" rfl defaults
  rw [loadWith, perform_bind, perform_get]
  dsimp only
  rw [perform_bind]
  generalize perform (loadFileWith (Log.recordOn host component) host.exhausts
    (chooseFile file session)) session = fromFile at unread ⊢
  rcases fromFile with ⟨stopped | values, left⟩
  · rw [Except.error.inj unread]
  · contradiction

end Settings

end RecordQuery
