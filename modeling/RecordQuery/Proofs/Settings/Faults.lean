import RecordQuery.Proofs.Session.LoggerSettings
import RecordQuery.Proofs.Settings.Hosted

/-!
# Faults of loading

Loading settings fails in five ways: the text of the file cannot be followed, it spells something
else than an object, it holds an integer of too many digits, the logger for the first entry is
refused, or a variable is set whose section is there and is no mapping. Otherwise loading succeeds,
and under the path of every variable that is set stands its value, whatever the file holds there.
-/

namespace RecordQuery.Settings

open RecordQuery.Action

/-- A variable is set whose section is there and is no mapping. -/
def Blocked (text? : String → Option String) (listed : List Override) (values : Entries) : Prop :=
  ∃ override ∈ listed, (text? override.variableName).isSome = true ∧
    ∃ value, values.get? override.sectionName = some value ∧ value.entries? = none

def HasSection (values : Entries) (sectionName : String) (entries : Entries) : Prop :=
  values.get? sectionName = none ∧ entries = [] ∨
    values.get? sectionName = some (.mapping entries)

theorem writeInto_cases (values : Entries) (sectionName name : String) (value : Value) :
    (∃ held, values.get? sectionName = some held ∧ held.entries? = none ∧
      writeInto values sectionName name value = .error .mismatch) ∨
    ∃ entries, HasSection values sectionName entries ∧
      writeInto values sectionName name value =
        .ok (values.set sectionName (.mapping (entries.set name value))) := by
  rw [writeInto]
  rcases found : values.get? sectionName with _ | held
  · exact .inr ⟨[], .inl ⟨found, rfl⟩, rfl⟩
  · cases held with
    | mapping entries => exact .inr ⟨entries, .inr found, rfl⟩
    | _ => exact .inl ⟨_, rfl, rfl, rfl⟩

section Overriding

variable {text? : String → Option String} {override : Override} {listed : List Override}
  {values changed entries : Entries}

theorem blocked_cons_of_unset (unset : text? override.variableName = none) :
    Blocked text? (override :: listed) values ↔ Blocked text? listed values := by
  simp [Blocked, unset]

/-- A section that is written into blocks nothing, before and after; the others stay. -/
theorem blocked_cons_of_section (held : HasSection values override.sectionName entries)
    (written : Entries) :
    Blocked text? (override :: listed) values ↔
      Blocked text? listed (values.set override.sectionName (.mapping written)) := by
  have mapping {value : Value} (found : values.get? override.sectionName = some value) :
      value.entries? ≠ none := by
    rcases held with ⟨absent, -⟩ | there
    · simp [absent] at found
    · rw [← Option.some.inj (there.symm.trans found)]
      simp [Value.entries?]
  constructor
  · rintro ⟨other, member, set, value, found, plain⟩
    rcases List.mem_cons.mp member with rfl | member
    · exact absurd plain (mapping found)
    · refine ⟨other, member, set, value, ?_, plain⟩
      rw [Entries.get?_set, if_neg, found]
      exact fun same => mapping (same ▸ found) plain
  · rintro ⟨other, member, set, value, found, plain⟩
    refine ⟨other, List.mem_cons_of_mem _ member, set, value, ?_, plain⟩
    rw [Entries.get?_set] at found
    split at found
    · rw [← Option.some.inj found] at plain
      contradiction
    · exact found

/-- Overriding fails exactly where a variable that is set is blocked. -/
theorem overrideAll_eq_error_iff {failure : Failure} :
    overrideAll text? values listed = .error failure ↔
      failure = .mismatch ∧ Blocked text? listed values := by
  induction listed generalizing values with
  | nil => simp [overrideAll, Blocked]
  | cons override rest inductionHypothesis =>
      rw [overrideAll]
      cases set : text? override.variableName with
      | none => exact inductionHypothesis.trans (and_congr_right' (blocked_cons_of_unset set).symm)
      | some text =>
          dsimp only
          rcases writeInto_cases values override.sectionName override.valueName (convert text) with
            ⟨value, found, plain, refused⟩ | ⟨entries, held, written⟩
          · rw [refused]
            have blocked : Blocked text? (override :: rest) values :=
              ⟨override, List.mem_cons_self, by rw [set]; rfl, value, found, plain⟩
            simp [blocked, eq_comm]
          · rw [written]
            exact inductionHypothesis.trans
              (and_congr_right' (blocked_cons_of_section held _).symm)

theorem overrideAll_cons_ok
    (overridden : overrideAll text? values (override :: listed) = .ok changed) :
    text? override.variableName = none ∧ overrideAll text? values listed = .ok changed ∨
      ∃ text entries, text? override.variableName = some text ∧
        HasSection values override.sectionName entries ∧
        overrideAll text? (values.set override.sectionName
          (.mapping (entries.set override.valueName (convert text)))) listed = .ok changed := by
  rw [overrideAll] at overridden
  cases set : text? override.variableName with
  | none =>
      rw [set] at overridden
      exact .inl ⟨rfl, overridden⟩
  | some text =>
      rw [set] at overridden
      dsimp only at overridden
      rcases writeInto_cases values override.sectionName override.valueName (convert text) with
        ⟨held, -, -, refused⟩ | ⟨entries, held, written⟩
      · simp [refused] at overridden
      · rw [written] at overridden
        exact .inr ⟨text, entries, rfl, held, overridden⟩

/-- What stands under a path that no variable of the list overrides stays. -/
theorem getParts?_overrideAll_apart {sectionName name : String} {value : Value}
    (overridden : overrideAll text? values listed = .ok changed)
    (apart : ∀ override ∈ listed, (override.sectionName, override.valueName) ≠ (sectionName, name))
    (found : getParts? (.mapping values) [sectionName, name] = some value) :
    getParts? (.mapping changed) [sectionName, name] = some value := by
  induction listed generalizing values with
  | nil => exact Except.ok.inj overridden ▸ found
  | cons override rest inductionHypothesis =>
      obtain ⟨apartHere, apartRest⟩ := List.forall_mem_cons.mp apart
      rcases overrideAll_cons_ok overridden with ⟨-, others⟩ | ⟨text, entries, -, held, others⟩
      · exact inductionHypothesis others apartRest found
      · refine inductionHypothesis others apartRest ?_
        rw [getParts?_set_cons]
        split
        · rename_i same
          subst same
          have different : override.valueName ≠ name := fun same => apartHere (by rw [same])
          rw [getParts?_set_cons, if_neg different]
          rcases held with ⟨absent, -⟩ | there
          · simp [getParts?, absent] at found
          · simpa [getParts?, there] using found
        · exact found

theorem getParts?_overrideAll
    (distinct : (listed.map fun override => (override.sectionName, override.valueName)).Nodup)
    (overridden : overrideAll text? values listed = .ok changed) (member : override ∈ listed)
    {text : String} (set : text? override.variableName = some text) :
    getParts? (.mapping changed) [override.sectionName, override.valueName] =
      some (convert text) := by
  induction listed generalizing values with
  | nil => contradiction
  | cons first rest inductionHypothesis =>
      obtain ⟨notIn, distinctRest⟩ := List.nodup_cons.mp distinct
      rcases overrideAll_cons_ok overridden with ⟨unset, others⟩ | ⟨own, entries, setOwn, -, others⟩
      · rcases List.mem_cons.mp member with rfl | later
        · simp [set] at unset
        · exact inductionHypothesis distinctRest others later
      · rcases List.mem_cons.mp member with rfl | later
        · obtain rfl := Option.some.inj (setOwn.symm.trans set)
          refine getParts?_overrideAll_apart others (fun other otherMember same => ?_) ?_
          · exact notIn (List.mem_map.mpr ⟨other, otherMember, same⟩)
          · exact getParts?_write_below values entries _ _ _ []
        · exact inductionHypothesis distinctRest others later

theorem TextKeys.overrideAll (keys : TextKeys values)
    (overridden : overrideAll text? values listed = .ok changed) : TextKeys changed := by
  induction listed generalizing values with
  | nil => exact Except.ok.inj overridden ▸ keys
  | cons override rest inductionHypothesis =>
      rcases overrideAll_cons_ok overridden with ⟨-, others⟩ | ⟨text, entries, -, -, others⟩
      · exact inductionHypothesis keys others
      · refine inductionHypothesis (fun entry member => ?_) others
        rcases Entries.mem_insert_text_cases member with old | rfl
        · exact keys entry old
        · exact ⟨override.sectionName, rfl⟩

end Overriding

/-- Writing the variables over values has the result of overriding, besides entries of the log. -/
theorem perform_applyOverrides (listed : List Override) (values : Entries) {session : Session}
    (context : Log.Recordable session.context) :
    ∃ after, perform (applyOverrides values listed) session =
      (overrideAll session.environmentText? values listed, after) ∧
      Undisturbed session after := by
  induction listed generalizing values session with
  | nil => exact ⟨session, rfl, rfl, rfl⟩
  | cons override rest inductionHypothesis =>
      simp only [applyOverrides, applyOverridesWith, overrideAll, perform_bind, perform_get]
      cases set : session.environmentText? override.variableName with
      | none => exact inductionHypothesis values context
      | some text =>
          simp only [perform_bind, perform_lift]
          cases writeInto values override.sectionName override.valueName (convert text) with
          | error failure => exact ⟨session, rfl, rfl, rfl⟩
          | ok changed =>
              obtain ⟨middle, logged, kept⟩ :=
                log_succeeds .debug "env_override_applied" (recordable_override override text)
                  (by simp [Entries.get?, Entries.valueOf?, Value.same]) context
              obtain ⟨after, performed, undisturbed⟩ :=
                inductionHypothesis changed (kept.context ▸ context)
              rw [kept.environmentText?] at performed
              refine ⟨after, ?_, kept.trans undisturbed⟩
              simp only [logged]
              exact performed

theorem blocked_merge_defaults {text? : String → Option String} {entries : Entries}
    (readable : Json.Readable (.mapping entries)) :
    Blocked text? overrides (merge defaults entries) ↔ Blocked text? overrides entries := by
  refine exists_congr fun override => and_congr_right fun listed => and_congr_right fun _ => ?_
  have default : ∃ below, Entries.get? defaults override.sectionName = some (.mapping below) := by
    simp only [overrides, List.mem_cons, List.not_mem_nil, or_false] at listed
    rcases listed with rfl | rfl | rfl | rfl <;> exact ⟨_, by cbv⟩
  obtain ⟨below, usual⟩ := default
  rw [get?_merge defaults entries readable.proper.different, usual]
  rcases entries.get? override.sectionName with _ | held
  · simp [Value.entries?]
  · cases held <;> simp [mergeValue, Value.entries?]

theorem load_of_entries {session : Session} {file : String} {entries : Entries}
    (held : fileEntries? session (chooseFile file session) = some entries)
    (context : Log.Recordable session.context) :
    (perform (load file) session).1 =
      (overrideAll session.environmentText? (merge defaults entries) overrides).map
        fun values => ⟨chooseFile file session, values⟩ := by
  obtain ⟨middle, loaded, kept⟩ := loadFile_succeeds held context
  obtain ⟨late, applied, undisturbed⟩ :=
    perform_applyOverrides overrides (merge defaults entries) (kept.context ▸ context)
  rw [kept.environmentText?] at applied
  rw [load_eq]
  simp only [perform_bind, perform_get, loaded, applied]
  cases overridden : overrideAll session.environmentText? (merge defaults entries) overrides with
  | error failure => rfl
  | ok values =>
      have base := textKeys_defaults.merge ((readable_of_fileEntries? held).keys entries rfl)
      obtain ⟨encoded, encodes⟩ := encodes_sections (base.overrideAll overridden)
      have recordable : Log.Recordable [(.text "config_file", .text (chooseFile file session)),
          (.text "config_sections", sections values)] :=
        .of_texts (by simp [Json.encode, encodes, Log.reserved])
      obtain ⟨after, logged, -⟩ := log_succeeds .info "unified_config_loaded" recordable
        (by simp [Entries.get?, Entries.valueOf?, Value.same])
        (undisturbed.context ▸ kept.context ▸ context)
      simp only [logged]
      rfl

/-- The text of a file spells something else than an object. -/
def HoldsOther (session : Session) (file : String) : Prop :=
  ∃ text value, session.files.get? (plainPath file) = some text ∧ Json.decode text = .ok value ∧
    value.entries? = none

/-- The text of a file has an integer of too many digits. -/
def Oversized (session : Session) (file : String) : Prop :=
  ∃ text, session.files.get? (plainPath file) = some text ∧ Json.decode text = .error .oversized

theorem file_cases (session : Session) (file : String) :
    (∃ entries, fileEntries? session file = some entries) ∨ HoldsOther session file ∨
      Oversized session file := by
  rcases found : session.files.get? (plainPath file) with _ | text
  · exact .inl ⟨[], by rw [fileEntries?, found]⟩
  · rcases decoded : Json.decode text with fault | value
    · cases fault with
      | malformed => exact .inl ⟨[], by simp only [fileEntries?, found, decoded]⟩
      | oversized => exact .inr (.inr ⟨text, found, decoded⟩)
    · cases value with
      | mapping entries => exact .inl ⟨entries, by simp only [fileEntries?, found, decoded]⟩
      | _ => exact .inr (.inl ⟨text, _, found, decoded, rfl⟩)

theorem fileEntries?_of_refused {session : Session} {file : String}
    (refused : HoldsOther session file ∨ Oversized session file) :
    fileEntries? session file = none := by
  rw [fileEntries?]
  rcases refused with ⟨text, value, present, decoded, plain⟩ | ⟨text, present, oversized⟩
  · simp only [present, decoded]
    cases value <;> first | contradiction | rfl
  · simp only [present, oversized]

theorem loadWith_of_other {session : Session} {file : String} (log : Recorder)
    {exhausts : String → Bool} (followed : ∀ text,
      session.files.get? (plainPath (chooseFile file session)) = some text → exhausts text = false)
    (other : HoldsOther session (chooseFile file session)) :
    (perform (loadWith log exhausts file) session).1 =
      .error (.settings (.notObject (plainPath (chooseFile file session)))) := by
  obtain ⟨text, value, present, decoded, plain⟩ := other
  simp only [loadWith, loadFileWith, followed text present, Bool.false_eq_true, if_false,
    perform_bind, perform_get, present, decoded]
  cases value <;> first | contradiction | rfl

theorem loadWith_of_oversized {session : Session} {file : String} (log : Recorder)
    {exhausts : String → Bool} (followed : ∀ text,
      session.files.get? (plainPath (chooseFile file session)) = some text → exhausts text = false)
    (oversized : Oversized session (chooseFile file session)) :
    (perform (loadWith log exhausts file) session).1 = .error .invalidValue := by
  obtain ⟨text, present, decoded⟩ := oversized
  simp only [loadWith, loadFileWith, followed text present, Bool.false_eq_true, if_false,
    perform_bind, perform_get, present, decoded]
  rfl

/-- The ways in which loading fails on a host, with what it ends in. -/
inductive Fails (host : Host) (session : Session) (file : String) : Failure → Prop where
  | exhausted {text : String} : session.files.get? (plainPath file) = some text →
      host.exhausts text = true → Fails host session file .endless
  | refused : Followed host session file → HoldsOther session file →
      Fails host session file (.settings (.notObject (plainPath file)))
  | oversized : Followed host session file → Oversized session file →
      Fails host session file .invalidValue
  | unlogged {entries : Entries} {failure : Failure} : Followed host session file →
      fileEntries? session file = some entries →
      (perform (Log.makeOn host) session).1 = .error failure → Fails host session file failure
  | blocked {entries : Entries} : Followed host session file →
      fileEntries? session file = some entries → (perform (Log.makeOn host) session).1 = .ok () →
      Blocked session.environmentText? overrides entries → Fails host session file .mismatch

section Loading

variable {host : Host} {session : Session} {file : String}

theorem loadOn_of_exhausted {text : String}
    (present : (prepared host session).files.get?
      (plainPath (chooseFile file (prepared host session))) = some text)
    (exhausted : host.exhausts text = true) :
    (perform (loadOn host file) session).1 = .error .endless := by
  rw [perform_loadOn]
  simp only [loadWith, loadFileWith, perform_bind, perform_get, present, exhausted, if_true]
  rfl

theorem followed_or_exhausted (host : Host) (session : Session) (file : String) :
    Followed host session file ∨ ∃ text, session.files.get? (plainPath file) = some text ∧
      host.exhausts text = true := by
  by_cases followed : Followed host session file
  · exact .inl followed
  · right
    simp only [Followed, not_forall] at followed
    obtain ⟨text, present, exhausted⟩ := followed
    exact ⟨text, present, by simpa using exhausted⟩

/-- Loading of entries from the file fails where the logger is refused or a variable is blocked. -/
theorem loadOn_of_entries {entries : Entries} (context : Log.Recordable session.context)
    (complete : ∀ logger ∈ session.logger?, logger.Complete)
    (followed : Followed host (prepared host session) (chooseFile file (prepared host session)))
    (held : fileEntries? (prepared host session) (chooseFile file (prepared host session)) =
      some entries) :
    (∃ failure, (perform (Log.makeOn host) (prepared host session)).1 = .error failure ∧
      (perform (loadOn host file) session).1 = .error failure) ∨
    (perform (Log.makeOn host) (prepared host session)).1 = .ok () ∧
      (perform (loadOn host file) session).1 =
        (overrideAll (prepared host session).environmentText? (merge defaults entries)
          overrides).map fun values => ⟨chooseFile file (prepared host session), values⟩ := by
  cases made : (perform (Log.makeOn host) (prepared host session)).1 with
  | error failure => exact .inl ⟨failure, rfl, loadOn_of_refused held followed made⟩
  | ok given =>
      have serves : Log.Serves host (prepared host session) := Log.serves_of_made complete made
      have recordable : Log.Recordable (prepared host session).context := context
      rw [perform_loadOn_of_serves serves followed]
      exact .inr ⟨rfl, load_of_entries held recordable⟩

theorem loadOn_eq_error_iff (context : Log.Recordable session.context)
    (complete : ∀ logger ∈ session.logger?, logger.Complete) {failure : Failure} :
    (perform (loadOn host file) session).1 = .error failure ↔
      Fails host (prepared host session) (chooseFile file (prepared host session)) failure := by
  constructor
  · intro failed
    rcases followed_or_exhausted host (prepared host session)
      (chooseFile file (prepared host session)) with followed | ⟨text, present, exhausted⟩
    · rcases file_cases (prepared host session) (chooseFile file (prepared host session)) with
        ⟨entries, held⟩ | other | oversized
      · rcases loadOn_of_entries context complete followed held with
          ⟨refusal, made, stopped⟩ | ⟨made, loaded⟩
        · obtain rfl := Except.error.inj (stopped.symm.trans failed)
          exact .unlogged followed held made
        · rw [loaded] at failed
          have overridden : overrideAll (prepared host session).environmentText?
              (merge defaults entries) overrides = .error failure := by
            generalize overrideAll (prepared host session).environmentText?
              (merge defaults entries) overrides = result at failed ⊢
            cases result with
            | error other => exact congrArg _ (Except.error.inj failed)
            | ok values => contradiction
          obtain ⟨rfl, blocked⟩ := overrideAll_eq_error_iff.mp overridden
          exact .blocked followed held made
            ((blocked_merge_defaults (readable_of_fileEntries? held)).mp blocked)
      · rw [perform_loadOn, loadWith_of_other _ followed other] at failed
        obtain rfl := Except.error.inj failed
        exact .refused followed other
      · rw [perform_loadOn, loadWith_of_oversized _ followed oversized] at failed
        obtain rfl := Except.error.inj failed
        exact .oversized followed oversized
    · obtain rfl := Except.error.inj ((loadOn_of_exhausted present exhausted).symm.trans failed)
      exact .exhausted present exhausted
  · intro fails
    cases fails with
    | exhausted present exhausted => exact loadOn_of_exhausted present exhausted
    | refused followed other => rw [perform_loadOn, loadWith_of_other _ followed other]
    | oversized followed oversized =>
        rw [perform_loadOn, loadWith_of_oversized _ followed oversized]
    | unlogged followed held made => exact loadOn_of_refused held followed made
    | blocked followed held made blocked =>
        rcases loadOn_of_entries context complete followed held with
          ⟨refusal, refused, -⟩ | ⟨-, loaded⟩
        · rw [made] at refused
          contradiction
        · have merged := (blocked_merge_defaults (readable_of_fileEntries? held)).mpr blocked
          rw [loaded, overrideAll_eq_error_iff.mpr ⟨rfl, merged⟩]
          rfl

theorem valueAt_of_loadOn {settings : Settings} (context : Log.Recordable session.context)
    (complete : ∀ logger ∈ session.logger?, logger.Complete)
    (loaded : (perform (loadOn host file) session).1 = .ok settings) {override : Override}
    (listed : override ∈ overrides) {text : String}
    (set : (prepared host session).environmentText? override.variableName = some text)
    (default : Value) : settings.valueAt override.path default = convert text := by
  have succeeds (failure : Failure) : ¬ Fails host (prepared host session)
      (chooseFile file (prepared host session)) failure := by
    rw [← loadOn_eq_error_iff context complete, loaded]
    simp
  rcases followed_or_exhausted host (prepared host session)
    (chooseFile file (prepared host session)) with followed | ⟨text, present, exhausted⟩
  · rcases file_cases (prepared host session) (chooseFile file (prepared host session)) with
      ⟨entries, held⟩ | other | oversized
    · rcases loadOn_of_entries context complete followed held with
        ⟨refusal, made, -⟩ | ⟨made, result⟩
      · exact absurd (.unlogged followed held made) (succeeds refusal)
      · rcases overridden : overrideAll (prepared host session).environmentText?
          (merge defaults entries) overrides with failure | values
        · simp [result, overridden, Except.map] at loaded
        · rw [result, overridden] at loaded
          obtain rfl := Except.ok.inj loaded
          have parts : Text.pathParts override.path = [override.sectionName, override.valueName] :=
            parts_of_listed override listed
          rw [valueAt, valueAt?, parts, getParts?_overrideAll (by decide) overridden listed set]
          rfl
    · exact absurd (.refused followed other) (succeeds _)
    · exact absurd (.oversized followed oversized) (succeeds _)
  · exact absurd (.exhausted present exhausted) (succeeds _)

/-- Loading settings fails exactly in five ways, of which only the second is a fault of settings:
the text of the file cannot be followed, it spells something else than an object, it holds an
integer of too many digits, the logger of the first entry is refused, or a plain value stands in the
place of a section that a variable is written into. Where loading succeeds, what a variable spells
stands under its path, whatever the file holds there or in place of the section. A variable is that
of the environment or, if it lacks there, that of the host. -/
theorem loading_fails_or_follows_variables (context : Log.Recordable session.context)
    (complete : ∀ logger ∈ session.logger?, logger.Complete) :
    (∀ failure, (perform (loadOn host file) session).1 = .error failure ↔
      Fails host (prepared host session) (chooseFile file (prepared host session)) failure) ∧
      ∀ settings, (perform (loadOn host file) session).1 = .ok settings →
        ∀ override ∈ overrides, ∀ text,
          (prepared host session).environmentText? override.variableName = some text →
          ∀ default, settings.valueAt override.path default = convert text :=
  ⟨fun _ => loadOn_eq_error_iff context complete,
    fun _ loaded _ listed _ set default =>
      valueAt_of_loadOn context complete loaded listed set default⟩

end Loading

def emptySectionSession : Session :=
  { Session.start "" with
    environment := [("QUERY_MAX_POLYGON_POINTS", "7")]
    files := [("query_config.json",
      "\x7b\"logging\": null, \"query\": \x7b\"max_polygon_points\": 5\x7d\x7d")] }

def emptySectionEntries : Entries :=
  [(.text "logging", .null), (.text "query", .mapping [(.text "max_polygon_points", .int 5)])]

theorem not_blocked_emptySection :
    ¬ Blocked emptySectionSession.environmentText? overrides emptySectionEntries := by
  rintro ⟨override, listed, set, value, found, plain⟩
  have query : emptySectionEntries.get? "query" =
      some (.mapping [(.text "max_polygon_points", .int 5)]) := by cbv
  simp only [overrides, List.mem_cons, List.not_mem_nil, or_false] at listed
  rcases listed with rfl | rfl | rfl | rfl
  · contradiction
  · obtain rfl := Option.some.inj (query.symm.trans found)
    contradiction
  · contradiction
  · contradiction

/-- In the usual directory nothing refuses a logger beside the file of settings. -/
theorem makeOn_beside_settings {session : Session} {text : String}
    (absent : session.logger? = none) (unloaded : session.settings? = none)
    (unset : session.environmentText? "LOG_DIR" = none)
    (files : session.files = [("query_config.json", text)]) :
    (perform (Log.makeOn .usual) session).1 = .ok () := by
  have plain : plainPath "logs" = "logs" := by cbv
  have paths : pathIn "logs" "query.log" = "logs/query.log" ∧
      pathIn "logs" "system.log" = "logs/system.log" ∧
      pathIn "logs" Log.errorsFile = "logs/errors.log" := by
    refine ⟨?_, ?_, ?_⟩ <;> cbv
  have logger : Log.ofEnvironment session =
      Log.Logger.make "logs" (Log.ofEnvironment session).level := by
    rw [Log.ofEnvironment, unset]
    rfl
  have above : ("query_config.json" ++ "/").toList.isPrefixOf "logs".toList = false := by
    decide +kernel
  have apart : ∀ path ∈ ["logs/query.log", "logs/system.log", "logs/errors.log"],
      (path == ".") = false ∧
        (path ++ "/").toList.isPrefixOf "query_config.json".toList = false := by
    decide +kernel
  have free {path : String} (listed : path ∈ ["logs/query.log", "logs/system.log",
      "logs/errors.log"]) : Files.fileFault? [("query_config.json", text)] path = none := by
    obtain ⟨other, below⟩ := apart path listed
    simp only [Files.fileFault?, Files.isDirectory, List.any_cons, List.any_nil, other, below]
    rfl
  refine Log.makeOn_ok absent unloaded ?_ ?_
  · rw [logger, Log.Logger.directory_make, plain, files]
    change Files.directoryFault? [("query_config.json", text)] "logs" = none
    rw [Files.directoryFault?, if_neg (by simp [Files.get?]), List.any_cons, above]
    rfl
  · rintro ⟨key, handler⟩ member
    rw [logger] at member
    rw [files]
    apply free
    rcases Log.Logger.mem_handlers_make member with ⟨file, listed, rfl⟩ | ⟨-, rfl⟩
    · simp only [Log.componentFiles, List.mem_cons, List.not_mem_nil, or_false,
        Prod.mk.injEq] at listed
      rw [plain]
      rcases listed with ⟨-, rfl⟩ | ⟨-, rfl⟩ | ⟨-, rfl⟩ | ⟨-, rfl⟩ | ⟨-, rfl⟩ <;>
        simp only [paths] <;> decide
    · simp only [plain, paths]
      decide

theorem variable_wins_over_file :
    ∃ settings, (perform (loadOn .usual "") emptySectionSession).1 = .ok settings ∧
      ∀ default, settings.valueAt "query.max_polygon_points" default = .int 7 := by
  have context : Log.Recordable emptySectionSession.context := .of_texts (by rintro entry ⟨⟩)
  have complete : ∀ logger ∈ emptySectionSession.logger?, logger.Complete := by rintro logger ⟨⟩
  have same : prepared .usual emptySectionSession = emptySectionSession := rfl
  have held : fileEntries? emptySectionSession (chooseFile "" emptySectionSession) =
      some emptySectionEntries := by cbv
  have made : (perform (Log.makeOn .usual) emptySectionSession).1 = .ok () :=
    makeOn_beside_settings rfl rfl rfl rfl
  obtain ⟨fails, follows⟩ :=
    @loading_fails_or_follows_variables .usual emptySectionSession "" context complete
  rw [same] at fails follows
  rcases loaded : (perform (loadOn .usual "") emptySectionSession).1 with failure | settings
  · cases (fails failure).mp loaded with
    | exhausted _ exhausted => exact absurd exhausted Bool.false_ne_true
    | refused _ other =>
        exact absurd (held.symm.trans (fileEntries?_of_refused (.inl other)))
          (Option.some_ne_none _)
    | oversized _ oversized =>
        exact absurd (held.symm.trans (fileEntries?_of_refused (.inr oversized)))
          (Option.some_ne_none _)
    | unlogged _ _ refused => exact absurd (made.symm.trans refused) (by simp)
    | blocked _ found _ blocked =>
        obtain rfl := Option.some.inj (held.symm.trans found)
        exact absurd blocked not_blocked_emptySection
  · let points : Override := ⟨"QUERY_MAX_POLYGON_POINTS", "query", "max_polygon_points"⟩
    have listed : points ∈ overrides := by simp [points, overrides]
    have converted : convert "7" = .int 7 := by cbv
    exact ⟨settings, rfl, fun default =>
      (follows settings loaded points listed "7" rfl default).trans converted⟩

/-- A session whose file holds a number in the place of a section, with a variable of the section.
-/
def plainSectionSession : Session :=
  { Session.start "" with
    environment := [("LOG_LEVEL", "DEBUG")]
    files := [("query_config.json", "\x7b\"logging\": 5\x7d")] }

/-- The variable does not win over the section, and the failure is no fault of settings. -/
theorem plain_section_stops_loading :
    ∃ failure, (perform (loadOn .usual "") plainSectionSession).1 = .error failure ∧
      ∀ fault, failure ≠ .settings fault := by
  have context : Log.Recordable plainSectionSession.context := .of_texts (by rintro entry ⟨⟩)
  have complete : ∀ logger ∈ plainSectionSession.logger?, logger.Complete := by rintro logger ⟨⟩
  have followed : Followed .usual plainSectionSession (chooseFile "" plainSectionSession) :=
    fun _ _ => rfl
  have held : fileEntries? plainSectionSession (chooseFile "" plainSectionSession) =
      some [(.text "logging", .int 5)] := by cbv
  have made : (perform (Log.makeOn .usual) plainSectionSession).1 = .ok () :=
    makeOn_beside_settings rfl rfl rfl rfl
  have blocked : Blocked plainSectionSession.environmentText? overrides
      [(.text "logging", .int 5)] :=
    ⟨⟨"LOG_LEVEL", "logging", "level"⟩, by simp [overrides], rfl, .int 5, by cbv, rfl⟩
  refine ⟨.mismatch, (loadOn_eq_error_iff context complete).mpr
    (.blocked followed held made blocked), ?_⟩
  rintro fault ⟨⟩

end RecordQuery.Settings
