import RecordQuery.Proofs.Log.Lines
import RecordQuery.Proofs.Log.Runs

/-!
# Files with their earlier files

A file of the log and its earlier files, read from the oldest one on, are the history of the file.
An entry that is routed to the file comes last in it, whether the file starts again for it or not.
The history loses only what stands in its oldest file, and only when there are as many earlier files
as are kept. So after a run it holds the entries that were routed to the file, in the order of the
calls, but for the oldest ones that were lost.
-/

namespace RecordQuery.Log

open RecordQuery.Action

def readLog (session : Session) (directory file : String) : List (Except Json.DecodeFault Value) :=
  ((session.lines? directory file).getD []).map Json.decode

/-- The number of earlier files that are kept of a file. -/
def backupsOf (file : String) : Nat := if file = errorsFile then 10 else 5

def earlierNames (file : String) : Nat → List String
  | 0 => []
  | number + 1 => backup file (number + 1) :: earlierNames file number

/-- The entries of a file and of its earlier files, from the oldest one on. -/
def readHistory (session : Session) (directory file : String) :
    List (Except Json.DecodeFault Value) :=
  (earlierNames file (backupsOf file) ++ [file]).flatMap (readLog session directory)

def readPath (files : Files) (path : String) : List (Except Json.DecodeFault Value) :=
  (linesOf (files.textOf path)).map Json.decode

/-- The entries at a path and at those of its earlier files up to a number. -/
def readPaths (files : Files) (path : String) (number : Nat) :
    List (Except Json.DecodeFault Value) :=
  (earlierNames path number ++ [path]).flatMap (readPath files)

theorem readLog_eq (session : Session) (directory file : String) :
    readLog session directory file = readPath session.files (pathIn directory file) := by
  rw [readLog, readPath, Session.lines?, Files.textOf]
  cases session.files.get? (pathIn directory file) <;> rfl

theorem pathIn_backup (directory : String) {file : String} (plain : PlainName file) (number : Nat) :
    pathIn directory (backup file number) = backup (pathIn directory file) number := by
  have digits : '/' ∉ digitsOf number := fun member =>
    absurd (isDigit_of_mem_digitsOf member) (by decide)
  have plainBackup : PlainName (backup file number) := by
    refine ⟨by simp [toList_backup, plain.absent, digits], fun empty => ?_, fun single => ?_⟩
    · have texts := congrArg String.toList empty
      simp [toList_backup] at texts
    · have texts := congrArg String.toList single
      have long : ("." : String).toList = ['.'] := rfl
      rw [toList_backup, long, List.append_eq_singleton_iff] at texts
      simp [plain.nonempty] at texts
  obtain ⟨front, paths⟩ := pathIn_eq directory
  rw [paths _ plainBackup, paths _ plain, backup, backup, String.append_assoc, String.append_assoc,
    String.append_assoc]

theorem readHistory_eq (session : Session) (directory : String) {file : String}
    (plain : PlainName file) :
    readHistory session directory file =
      readPaths session.files (pathIn directory file) (backupsOf file) := by
  have earlier (number : Nat) : (earlierNames file number).flatMap (readLog session directory) =
      (earlierNames (pathIn directory file) number).flatMap (readPath session.files) := by
    induction number with
    | zero => rfl
    | succ number inductionHypothesis =>
        rw [earlierNames, earlierNames, List.flatMap_cons, List.flatMap_cons, inductionHypothesis,
          readLog_eq, pathIn_backup directory plain]
  rw [readHistory, readPaths, List.flatMap_append, List.flatMap_append, earlier,
    List.flatMap_singleton, List.flatMap_singleton, readLog_eq]

/-- Entries are added at the end of the history of a path. What is lost from its beginning was at
the last of its paths, and only if there were as many earlier files as are kept. -/
structure Extends (path : String) (number : Nat) (entries : List Entries)
    (before after : Files) : Prop where
  ended : Ended (before.textOf path) → Ended (after.textOf path)
  history : Ended (before.textOf path) → ∃ lost,
    readPaths before path number ++ entries.map (fun entry => .ok (.mapping entry)) =
      lost ++ readPaths after path number ∧
    (after.get? (backup path number) = none →
      lost = [] ∧ before.get? (backup path number) = none)

section Reading

variable {path : String} {before after : Files}

theorem readPath_congr {other : String} (same : after.textOf path = before.textOf other) :
    readPath after path = readPath before other := by
  rw [readPath, readPath, same]

theorem textOf_congr {other : String} (same : after.get? path = before.get? other) :
    after.textOf path = before.textOf other := by
  rw [Files.textOf, Files.textOf, same]

theorem readPath_of_none (absent : before.get? path = none) : readPath before path = [] := by
  rw [readPath, Files.textOf, absent]
  rfl

/-- Nothing is added where no text changes. -/
theorem Extends.of_same {number : Nat}
    (same : ∀ name ∈ earlierNames path number ++ [path], after.textOf name = before.textOf name)
    (there : (before.get? (backup path number)).isSome = true →
      (after.get? (backup path number)).isSome = true) :
    Extends path number [] before after := by
  have current : after.textOf path = before.textOf path := same path (by simp)
  refine ⟨fun ended => current ▸ ended, fun _ => ⟨[], ?_, fun absent => ⟨rfl, ?_⟩⟩⟩
  · rw [List.map_nil, List.append_nil, List.nil_append, readPaths, readPaths]
    exact List.flatMap_congr fun name listed => readPath_congr (same name listed).symm
  · cases found : before.get? (backup path number) with
    | none => rfl
    | some text => simp [absent, found] at there

theorem Extends.trans {number : Nat} {entries others : List Entries} {first second third : Files}
    (earlier : Extends path number entries first second)
    (later : Extends path number others second third) :
    Extends path number (entries ++ others) first third := by
  refine ⟨fun ended => later.ended (earlier.ended ended), fun ended => ?_⟩
  obtain ⟨lost, history, kept⟩ := earlier.history ended
  obtain ⟨lostLater, historyLater, keptLater⟩ := later.history (earlier.ended ended)
  refine ⟨lost ++ lostLater, ?_, fun absent => ?_⟩
  · rw [List.map_append, ← List.append_assoc, history, List.append_assoc, historyLater,
      List.append_assoc]
  · obtain ⟨nothingLater, absentBefore⟩ := keptLater absent
    obtain ⟨nothing, absentFirst⟩ := kept absentBefore
    exact ⟨by rw [nothing, nothingLater]; rfl, absentFirst⟩

theorem readPaths_eq (files : Files) (path : String) (number : Nat) :
    readPaths files path number =
      (earlierNames path number).flatMap (readPath files) ++ readPath files path := by
  rw [readPaths, List.flatMap_append, List.flatMap_singleton]

theorem readPaths_succ (files : Files) (path : String) (number : Nat) :
    readPaths files path (number + 1) =
      readPath files (backup path (number + 1)) ++ readPaths files path number := by
  rw [readPaths, earlierNames, List.cons_append, List.flatMap_cons, readPaths]

theorem mem_earlierNames {name : String} {number : Nat} : name ∈ earlierNames path number ↔
    ∃ index, 1 ≤ index ∧ index ≤ number ∧ name = backup path index := by
  induction number with
  | zero =>
      simp only [earlierNames, List.not_mem_nil, false_iff]
      rintro ⟨index, positive, below, -⟩
      omega
  | succ number inductionHypothesis =>
      rw [earlierNames, List.mem_cons, inductionHypothesis]
      constructor
      · rintro (rfl | ⟨index, positive, below, rfl⟩)
        · exact ⟨number + 1, by omega, le_refl _, rfl⟩
        · exact ⟨index, positive, by omega, rfl⟩
      · rintro ⟨index, positive, below, rfl⟩
        by_cases last : index = number + 1
        · exact .inl (by rw [last])
        · exact .inr ⟨index, positive, by omega, rfl⟩

/-- After earlier files have moved on by one they hold the history from before. -/
theorem earlier_of_moved {number : Nat}
    (first : after.get? (backup path 1) = before.get? path)
    (next : ∀ index, 1 ≤ index → index ≤ number →
      after.get? (backup path (index + 1)) = before.get? (backup path index)) :
    (earlierNames path (number + 1)).flatMap (readPath after) = readPaths before path number := by
  induction number with
  | zero =>
      rw [earlierNames, earlierNames, readPaths, earlierNames, List.nil_append,
        List.flatMap_singleton, List.flatMap_singleton, readPath_congr (textOf_congr first)]
  | succ number inductionHypothesis =>
      rw [earlierNames, List.flatMap_cons, readPaths_succ,
        inductionHypothesis fun index positive below => next index positive (by omega),
        readPath_congr (textOf_congr (next (number + 1) (by omega) (le_refl _)))]

theorem Receives.extends {handler : Handler} {text : String} {entry : Entries}
    (receives : Receives handler (text ++ "\n") before after) (keeps : handler.Keeps)
    (isLine : IsLine entry text) :
    Extends handler.file handler.backups [entry] before after := by
  have decoded : (linesOf (text ++ "\n")).map Json.decode = [.ok (.mapping entry)] := by
    rw [isLine.linesOf, List.map_singleton, isLine.decoded]
  by_cases fits : handler.Fits (text ++ "\n") before
  · obtain ⟨written, unmoved⟩ := receives.added fits
    have current : after.textOf handler.file = before.textOf handler.file ++ (text ++ "\n") :=
      congrArg (Option.getD · "") written
    refine ⟨fun _ => .inr ⟨before.textOf handler.file ++ text, ?_⟩, fun ended => ⟨[], ?_, ?_⟩⟩
    · rw [current, String.append_assoc]
    · have earlier : (earlierNames handler.file handler.backups).flatMap (readPath after) =
          (earlierNames handler.file handler.backups).flatMap (readPath before) := by
        refine List.flatMap_congr fun name listed => ?_
        obtain ⟨index, positive, below, rfl⟩ := mem_earlierNames.mp listed
        exact readPath_congr (textOf_congr (unmoved index positive below))
      have added : readPath after handler.file =
          readPath before handler.file ++ [.ok (.mapping entry)] := by
        rw [readPath, current, linesOf_append ended, List.map_append, decoded, readPath]
      rw [readPaths_eq, readPaths_eq, earlier, added, List.append_assoc]
      rfl
    · intro absent
      have several := keeps.several
      exact ⟨rfl, (unmoved handler.backups (by omega) (le_refl _)).symm.trans absent⟩
  · obtain ⟨written, first, next, last⟩ := receives.started fits
    obtain ⟨more, several⟩ := Nat.exists_eq_add_of_le' keeps.several
    rw [several] at next last
    have current : after.textOf handler.file = text ++ "\n" := congrArg (Option.getD · "") written
    refine ⟨fun _ => .inr ⟨text, current⟩, fun _ => ?_⟩
    have moved : (earlierNames handler.file (more + 1)).flatMap (readPath after) =
        readPaths before handler.file more :=
      earlier_of_moved first fun index positive below => next index positive (by omega)
    have later : readPaths after handler.file (more + 2) =
        readPath after (backup handler.file (more + 2)) ++
          (readPaths before handler.file more ++ [.ok (.mapping entry)]) := by
      rw [readPaths_succ, readPaths_eq, moved, readPath, readPath, current, decoded]
    rw [several, later, readPaths_succ, readPaths_succ]
    -- The last file gives way only to one that moves on to its place.
    cases held : before.get? (backup handler.file (more + 1)) with
    | none =>
        rw [show more + 2 - 1 = more + 1 by omega, held, Option.none_or] at last
        refine ⟨[], ?_, fun absent => ⟨rfl, last.symm.trans absent⟩⟩
        rw [readPath_of_none held, readPath_congr (textOf_congr last)]
        simp
    | some old =>
        rw [show more + 2 - 1 = more + 1 by omega, held, Option.some_or] at last
        refine ⟨readPath before (backup handler.file (more + 2)), ?_, fun absent => ?_⟩
        · rw [readPath_congr (textOf_congr (last.trans held.symm))]
          simp
        · rw [last] at absent
          contradiction

end Reading

theorem suffix_listed : ∀ file ∈ fileNames, ∀ other ∈ fileNames,
    file.toList <:+ other.toList → file = other := by decide

theorem file_eq_of_pathIn {directory place file other : String} (listed : file ∈ fileNames)
    (otherListed : other ∈ fileNames) (same : pathIn directory file = pathIn place other) :
    file = other := by
  obtain ⟨front, paths⟩ := pathIn_eq directory
  obtain ⟨start, others⟩ := pathIn_eq place
  rw [paths file (plain_of_listed listed), others other (plain_of_listed otherListed)] at same
  have texts := congrArg String.toList same
  rw [String.toList_append, String.toList_append] at texts
  have suffix : file.toList <:+ front.toList ++ file.toList := List.suffix_append _ _
  have suffixOther : other.toList <:+ front.toList ++ file.toList :=
    texts ▸ List.suffix_append _ _
  rcases List.suffix_or_suffix_of_suffix suffix suffixOther with within | within
  · exact suffix_listed file listed other otherListed within
  · exact (suffix_listed other otherListed file listed within).symm

/-- An entry belongs to files of the log, each of them with the number of earlier files that are
kept of it. -/
theorem Target.mem_receivers {target : Target} {severity : Severity} {component : Value}
    {handler : Handler} (member : handler ∈ target.receivers severity component) :
    ∃ file ∈ fileNames, handler.file = target.path file ∧ handler.backups = backupsOf file := by
  have file := componentFile_listed component
  have apart := componentFile_ne_errorsFile component
  rw [receivers, List.mem_cons] at member
  rcases member with rfl | errors
  · exact ⟨_, file, rfl, (if_neg apart).symm⟩
  · split at errors
    · obtain rfl := List.mem_singleton.mp errors
      exact ⟨errorsFile, errorsFile_listed, rfl, rfl⟩
    · contradiction

/-- The entries that a call adds to a path, given the target of the logger: its own one, if it
belongs there. Values that have no numeral, and components that cannot be looked up, are refused. -/
def Call.adds (call : Call) (target : Target) (session : Session) (path : String) : List Entries :=
  if target.level ≤ call.severity.level ∧ (Value.mapping (call.entry session)).isShown = true ∧
      ((call.component session).isTruthy = true → (call.component session).isKey = true) ∧
      path ∈ (target.receivers call.severity (call.component session)).map Handler.file then
    [entryOf session.time (.text call.severity.tag) (.text call.message) (call.entry session)]
  else []

/-- A handler for the file that keeps as many earlier files as are kept of it. -/
theorem keeps_backupsOf (directory : String) (level : Int) {file : String}
    (listed : file ∈ fileNames) : Handler.Keeps ⟨pathIn directory file, level, backupsOf file⟩ := by
  refine keeps_of_listed directory level listed ?_
  rw [backupsOf]
  split <;> decide

theorem extends_writeLine {target : Target} {severity : Severity} {component : Value}
    {text : String} {entry : Entries} (isLine : IsLine entry text) (files : Files)
    (directory : String) {file : String} (listed : file ∈ fileNames) :
    let handlers := target.receivers severity component
    Extends (pathIn directory file) (backupsOf file)
      (if pathIn directory file ∈ handlers.map Handler.file then [entry] else []) files
      (writeLine text handlers files) := by
  intro handlers
  have separate := target.separate_receivers severity component
  obtain ⟨received, unchanged⟩ := receives_writeLine text separate files
  split
  · rename_i belongs
    obtain ⟨handler, member, same⟩ := List.mem_map.mp belongs
    obtain ⟨other, otherListed, place, backups⟩ := Target.mem_receivers member
    obtain rfl : other = file := file_eq_of_pathIn otherListed listed (place.symm.trans same)
    rw [← same, ← backups]
    exact (received handler member).extends (separate.keep handler member) isLine
  · rename_i foreign
    let owner : Handler := ⟨pathIn directory file, 0, backupsOf file⟩
    have keeps : owner.Keeps := keeps_backupsOf directory 0 listed
    have kept (path : String) (owns : owner.Owns path) :
        (writeLine text handlers files).get? path = files.get? path := by
      refine unchanged path fun handler member => ?_
      refine Handler.not_owns keeps (separate.keep handler member) (fun same => foreign ?_) owns
      exact List.mem_map.mpr ⟨handler, member, same.symm⟩
    refine .of_same (fun name owned => textOf_congr (kept name ?_)) fun there => ?_
    · rcases List.mem_append.mp owned with earlier | current
      · obtain ⟨index, positive, below, rfl⟩ := mem_earlierNames.mp earlier
        exact Handler.owns_backup positive below
      · exact .inl (List.mem_singleton.mp current)
    · have several : 2 ≤ backupsOf file := keeps.several
      rwa [kept _ (Handler.owns_backup (by omega) (le_refl (backupsOf file)))]

theorem Call.extends {call : Call} {target : Target} {session : Session}
    (made : loggerFor session = target.logger) (faithful : Faithful call.fields)
    (context : Faithful session.context) (apart : call.component session ≠ .text errorsKey)
    (directory : String) {file : String} (listed : file ∈ fileNames) :
    Extends (pathIn directory file) (backupsOf file)
      (call.adds target session (pathIn directory file)) session.files
      (perform call.action session).2.files := by
  have opened : Extends (pathIn directory file) (backupsOf file) [] session.files
      (ensureLogger session).files :=
    .of_same (fun name _ => congrFun (textOf_ensureLogger session) name)
      ((opens_ensureLogger session).there _)
  have entry := faithful.entry context
  have time : (ensureLogger session).time = session.time := (Leads.ensureLogger session).time
  have line := entry.line_cases (levelTag_severity call.severity) session.time call.message
  rw [call.perform_action, if_neg (by simp [faithful.named.clashes]),
    perform_route entry.named.clashes, time, made, Call.adds]
  by_cases reached : target.level ≤ call.severity.level
  · rw [if_pos (show target.logger.isEnabledFor _ = true from decide_eq_true reached)]
    by_cases shown : (Value.mapping (call.entry session)).isShown = true
    · rw [if_pos shown] at line
      obtain ⟨text, written, isLine⟩ := line
      rw [written]
      by_cases nameable : (call.component session).isTruthy = true →
          (call.component session).isKey = true
      · have destinations := Logger.destinations_make target.directory target.level nameable apart
          call.severity.level
        rw [if_pos reached] at destinations
        rw [Target.logger, ← Call.component, destinations]
        simp only [reached, shown, true_and]
        rw [if_congr (and_iff_right nameable) rfl rfl]
        exact opened.trans (extends_writeLine isLine _ directory listed)
      · simp only [Classical.not_imp, Bool.not_eq_true] at nameable
        rw [← Call.component, Logger.destinations_of_not_key nameable.1 nameable.2]
        simp only [nameable, Bool.false_eq_true, imp_false, not_true, false_and, and_false,
          if_false]
        exact opened
    · rw [if_neg shown] at line
      rw [line]
      simp only [shown, Bool.false_eq_true, false_and, and_false, if_false]
      exact opened
  · rw [if_neg (show ¬ target.logger.isEnabledFor _ = true from
      fun enabled => reached (of_decide_eq_true enabled))]
    simp only [reached, false_and, if_false]
    exact opened

/-- An event of a run: time passes, or a step is taken. -/
inductive Event where
  | tick (time : String)
  | take (step : Step)

namespace Event

def after (session : Session) : Event → Session
  | .tick time => { session with time }
  | .take step => step.after session

/-- The target after an event, given the one that a new logger has. -/
def move (initial current : Target) : Event → Target
  | .tick _ => current
  | .take step => step.move initial current

def adds (target : Target) (session : Session) (path : String) : Event → List Entries
  | .take (.write call) => call.adds target session path
  | _ => []

/-- A call, if the event is one, has fields that come back, and no component with the key of
errors. -/
def Faithful : Event → Prop
  | .take (.write call) => Log.Faithful call.fields ∧ call.component? ≠ some errorsKey ∧
      call.fields.get? "component" ≠ some (.text errorsKey)
  | _ => True

end Event

/-- The entries that a run adds to a path, in the order of its calls. -/
def routed (path : String) (initial : Target) : Target → Session → List Event → List Entries
  | _, _, [] => []
  | target, session, event :: rest =>
      event.adds target session path ++
        routed path initial (event.move initial target) (event.after session) rest

theorem Event.carried_after (event : Event) (session : Session) :
    (event.after session).carried = session.carried := by
  cases event with
  | tick => rfl
  | take step =>
      cases step with
      | configure directory level => exact (apart_configure directory level).carried session
      | reset => rfl
      | write call =>
          rcases call with ⟨_ | component, severity, message, fields⟩
          · exact (apart_route severity message fields).carried session
          · exact (apart_record component severity message fields).carried session

theorem Event.standing_after {start session : Session} {target : Target}
    (standing : Step.Standing start session target) (event : Event) :
    Step.Standing start (event.after session) (event.move (Target.initial start) target) := by
  cases event with
  | tick time =>
      refine ⟨standing.environment, standing.settings, ?_⟩
      rw [move, ← standing.logger]
      rcases session with ⟨_, _, _ | settings, _ | logger, _⟩ <;> rfl
  | take step => exact standing.after step

theorem Call.component_eq (call : Call) {session : Session} (context : Faithful session.context) :
    call.component session =
      ((call.fields.get? "component").or (call.component?.map Value.text)).getD .null := by
  rw [component, entry]
  cases call.component? with
  | none => rw [Option.map_none, Option.or_none]
  | some name =>
      dsimp only
      rw [completeFields_eq, get?_withContext context.named.texts, get?_ownFields,
        if_neg (by decide), if_pos rfl]
      cases call.fields.get? "component" <;> rfl

theorem Call.component_ne {call : Call} {session : Session} (context : Faithful session.context)
    {name : String} (own : call.component? ≠ some name)
    (given : call.fields.get? "component" ≠ some (.text name)) :
    call.component session ≠ .text name := by
  rw [call.component_eq context]
  cases held : call.fields.get? "component" with
  | some value => simpa [held] using given
  | none =>
      cases component? : call.component? with
      | none => simp
      | some other => simpa [component?] using own

theorem Event.extends {event : Event} (faithful : event.Faithful) {start session : Session}
    {target : Target} (standing : Step.Standing start session target)
    (context : Log.Faithful session.context) (directory : String) {file : String}
    (listed : file ∈ fileNames) :
    Extends (pathIn directory file) (backupsOf file)
      (event.adds target session (pathIn directory file)) session.files
      (event.after session).files := by
  have quiet {after : Files} (opens : session.files.Opens after) :
      Extends (pathIn directory file) (backupsOf file) [] session.files after :=
    .of_same (fun name _ => congrFun opens.texts name) (opens.there _)
  cases event with
  | tick => exact quiet (.refl _)
  | take step =>
      cases step with
      | write call =>
          obtain ⟨fields, own, given⟩ := faithful
          exact Call.extends standing.logger fields context
            (Call.component_ne context own given) directory
            listed
      | configure | reset => exact quiet (Step.opens_after (by simp) session)

theorem extends_run {events : List Event} (faithful : ∀ event ∈ events, event.Faithful)
    {start session : Session} {target : Target} (standing : Step.Standing start session target)
    (context : Faithful session.context) (directory : String) {file : String}
    (listed : file ∈ fileNames) :
    Extends (pathIn directory file) (backupsOf file)
      (routed (pathIn directory file) (Target.initial start) target session events) session.files
      (events.foldl Event.after session).files := by
  induction events generalizing session target with
  | nil => exact .of_same (fun _ _ => rfl) id
  | cons event rest inductionHypothesis =>
      obtain ⟨here, later⟩ := List.forall_mem_cons.mp faithful
      have kept : (event.after session).context = session.context :=
        congrArg Prod.snd (event.carried_after session)
      exact (event.extends here standing context directory listed).trans
        (inductionHypothesis later (event.standing_after standing) (kept ▸ context))

/-- One entry is one line, and nothing of it is lost. Every number of a level that has a numeral has
a text as its name. The line of an entry is printable ASCII, whatever its level, its message and its
fields, and is read as its time, its level, its message and its fields, in this order; an integer
without a numeral is refused. So after any run of calls, among which time passes and the logger may
be moved or ended, a file and its earlier files, from the oldest one on, are read as the entries
that were there and then as those that were routed to the file, in the order of the calls, but for
the oldest ones, which are lost when as many earlier files as are kept give way to others. -/
theorem entries_come_back_from_lines :
    (∀ level : Int, if Numeral.isShort level then ∃ name, levelTag (.int level) = .ok (.text name)
      else levelTag (.int level) = .error .invalidValue) ∧
    (∀ (fields : Entries) (time message : String) (level tag : Value), Faithful fields →
      levelTag level = .ok tag →
      if (Value.mapping fields).isShown then
        ∃ text, line time level (.text message) fields = .ok text ∧
          (∀ character ∈ text.toList, 32 ≤ character.toNat ∧ character.toNat ≤ 127) ∧
          Json.decode text = .ok (.mapping (entryOf time tag (.text message) fields))
      else line time level (.text message) fields = .error .invalidValue) ∧
    ∀ (start : Session) (events : List Event) (directory file : String),
      let path := pathIn directory file
      let after := events.foldl Event.after start
      let entries := routed path (Target.initial start) (Target.initial start) start events
      start.logger? = none → file ∈ fileNames → Faithful start.context →
        (∀ event ∈ events, event.Faithful) → Ended (start.files.textOf path) →
        ∃ lost, readHistory start directory file ++
            entries.map (fun entry => .ok (.mapping entry)) =
            lost ++ readHistory after directory file ∧
          (after.files.get? (backup path (backupsOf file)) = none → lost = []) := by
  refine ⟨levelTag_number, fun fields time message level tag faithful tagged => ?_, ?_⟩
  · have line := faithful.line_cases tagged time message
    split at line
    · rw [if_pos ‹_›]
      obtain ⟨text, written, isLine⟩ := line
      refine ⟨text, written, fun character member => ?_, isLine.decoded⟩
      exact (isLine.plain character member).imp_right Nat.le_of_lt
    · rwa [if_neg ‹_›]
  · intro start events directory file path after entries none listed context faithful ended
    have run := extends_run faithful (.initial none) context directory listed
    obtain ⟨lost, history, kept⟩ := run.history ended
    rw [readHistory_eq _ _ (plain_of_listed listed), readHistory_eq _ _ (plain_of_listed listed)]
    exact ⟨lost, history, fun absent => (kept absent).1⟩

/-- A message that goes on like another entry after the end of a line. -/
def forgingMessage : String := "done\n\x7b\"level\": \"ERROR\"\x7d"

/-- Fields with ends of lines, quotes, characters beyond ASCII, lists and mappings. -/
def forgingFields : Entries :=
  [(.text "note\r", .text "é\u2028😀\\\""), (.text "items", .list [.int (-3), .null]),
    (.text "inner", .mapping [(.text "\t", .bool true)])]

def forgingCall : Call := ⟨some "query", .info, forgingMessage, forgingFields⟩

/-- A run that writes such an entry after the logger was moved and ended. -/
def forgingEvents : List Event :=
  [.take (.configure (.text "other") .null), .take .reset, .tick "later\n",
    .take (.write forgingCall)]

theorem faithful_forgingFields : Faithful forgingFields where
  named := ⟨by simp [forgingFields, entryNames, reserved],
    by simp [forgingFields, Value.Different, Value.same]⟩
  native := by
    simp only [forgingFields, List.forall_mem_cons]
    refine ⟨.text _, .list ?_, .mapping ?_ ?_, by simp⟩
    · exact List.forall_mem_cons.mpr ⟨.int _, List.forall_mem_singleton.mpr .null⟩
    · exact List.forall_mem_singleton.mpr ⟨_, rfl⟩
    · exact List.forall_mem_singleton.mpr (.bool true)
  proper := by
    simp only [forgingFields, List.forall_mem_cons]
    refine ⟨.simple rfl, .whole trivial ?_, .mapping ?_ ?_, by simp⟩
    · exact List.forall_mem_cons.mpr ⟨.simple rfl, List.forall_mem_singleton.mpr (.simple rfl)⟩
    · exact List.pairwise_singleton _ _
    · exact List.forall_mem_singleton.mpr ⟨.simple rfl, .simple rfl⟩

theorem faithful_forgingEvents : ∀ event ∈ forgingEvents, event.Faithful := by
  simp only [forgingEvents, List.forall_mem_cons]
  refine ⟨trivial, trivial, trivial, ⟨faithful_forgingFields, by decide, ?_⟩, by simp⟩
  simp [forgingCall, forgingFields, Entries.get?, Entries.valueOf?, Value.same]

def forgingEntry : Entries := forgingFields ++ [(.text "component", .text "query")]

theorem adds_forgingCall {session : Session} (carried : session.carried = (none, []))
    (time : session.time = "later\n") :
    forgingCall.adds ⟨"logs", infoLevel⟩ session "logs/query.log" =
      [entryOf "later\n" (.text "INFO") (.text forgingMessage) forgingEntry] := by
  obtain ⟨correlation, context⟩ := Prod.mk.inj carried
  have entry : forgingCall.entry session = forgingEntry := by
    change completeFields session "query" forgingFields = _
    rw [completeFields_eq, correlation, context]
    cbv
  have component : forgingCall.component session = .text "query" := by
    rw [Call.component, entry]
    cbv
  have short : Numeral.isShort (-3) = true := by decide
  have shown : (Value.mapping forgingEntry).isShown = true := by
    simp [forgingEntry, forgingFields, Value.isShown, Value.entriesShown, Value.areShown, short]
  have receivers : Target.receivers ⟨"logs", infoLevel⟩ .info (.text "query") =
      [⟨"logs/query.log", infoLevel, 5⟩] := rfl
  have belongs : "logs/query.log" ∈ (Target.receivers ⟨"logs", infoLevel⟩ .info
      (forgingCall.component session)).map Handler.file := by
    rw [component]
    exact List.mem_map.mpr ⟨_, receivers ▸ List.mem_singleton_self _, rfl⟩
  rw [Call.adds, if_pos ⟨by decide, entry ▸ shown, fun _ => component ▸ rfl, belongs⟩, entry, time]
  rfl

theorem forging_entries_come_back :
    let after := forgingEvents.foldl Event.after (Session.start "")
    (∃ name, levelTag (.int (-7)) = .ok (.text name)) ∧
    (∃ text, line "later\n" (.int 20) (.text forgingMessage) forgingFields = .ok text ∧
      Json.decode text = .ok (.mapping
        (entryOf "later\n" (.text "INFO") (.text forgingMessage) forgingFields))) ∧
    ∃ lost,
      [.ok (.mapping (entryOf "later\n" (.text "INFO") (.text forgingMessage) forgingEntry))] =
      lost ++ readHistory after "logs" "query.log" ∧
      (after.files.get? "logs/query.log.5" = none → lost = []) := by
  obtain ⟨levels, lines, history⟩ := entries_come_back_from_lines
  have shown : (Value.mapping forgingFields).isShown = true := by
    have short : Numeral.isShort (-3) = true := by decide
    simp [forgingFields, Value.isShown, Value.entriesShown, Value.areShown, short]
  have level := levels (-7)
  rw [if_pos (by decide)] at level
  have came := lines forgingFields "later\n" forgingMessage (.int 20) (.text "INFO")
    faithful_forgingFields (levelTag_severity .info)
  rw [if_pos shown] at came
  obtain ⟨text, written, -, decoded⟩ := came
  refine ⟨level, ⟨text, written, decoded⟩, ?_⟩
  have last : backup (pathIn "logs" "query.log") (backupsOf "query.log") = "logs/query.log.5" := by
    cbv
  have path : pathIn "logs" "query.log" = "logs/query.log" := by cbv
  have routed : routed "logs/query.log" (Target.initial (Session.start ""))
      (Target.initial (Session.start "")) (Session.start "") forgingEvents =
      [entryOf "later\n" (.text "INFO") (.text forgingMessage) forgingEntry] := by
    simp only [forgingEvents, routed, Event.adds, List.nil_append, List.append_nil]
    exact adds_forgingCall rfl rfl
  have came := history (Session.start "") forgingEvents "logs" "query.log" rfl (by decide)
    .nil faithful_forgingEvents (.inl rfl)
  rw [last, path, routed] at came
  exact came

theorem isLine_toldLine {component text : String} {severity : Severity}
    (written : toldLine component severity = .ok text) : ∃ entry, IsLine entry text := by
  have faithful : Faithful [(.text "component", .text component)] :=
    ⟨⟨by simp [entryNames, reserved], List.pairwise_singleton _ _⟩,
      List.forall_mem_singleton.mpr (.text _), List.forall_mem_singleton.mpr (.simple rfl)⟩
  have line := faithful.line_cases (levelTag_severity severity) "" "told"
  rw [if_pos (by simp [Value.isShown, Value.entriesShown])] at line
  obtain ⟨other, same, isLine⟩ := line
  obtain rfl := Except.ok.inj (written.symm.trans same)
  exact ⟨_, isLine⟩

theorem linesOf_fullText : linesOf fullText = [fullText] := by
  have plain : '\n' ∉ fullText.toList := by
    rw [fullText, String.toList_ofList, List.mem_replicate]
    decide
  have nonempty : fullText ≠ "" := by
    intro empty
    have size := utf8ByteSize_fullText
    rw [empty] at size
    exact absurd size (by decide)
  rw [linesOf, Text.split, Text.pieces_of_not_mem plain]
  simp [nonempty]

/-- An integer of one digit too many. -/
def longNumber : Int := 10 ^ Numeral.maxDigits

theorem isShort_longNumber : Numeral.isShort longNumber = false := by
  have ten : (10 : Int).natAbs = 10 := rfl
  rw [Bool.eq_false_iff, ne_eq, Numeral.isShort_iff, longNumber, Int.natAbs_pow, ten]
  exact Nat.lt_irrefl _

theorem line_of_long {number : Int} (long : Numeral.isShort number = false) :
    line "" (.int 20) (.text "told") [(.text "n", .int number)] = .error .invalidValue := by
  have faithful : Faithful [(.text "n", .int number)] :=
    ⟨⟨by simp [entryNames, reserved], List.pairwise_singleton _ _⟩,
      List.forall_mem_singleton.mpr (.int _), List.forall_mem_singleton.mpr (.simple rfl)⟩
  have line := faithful.line_cases (levelTag_severity .info) "" "told"
  rwa [if_neg (by simp [Value.isShown, Value.entriesShown, long])] at line

/-- Entries can be refused, repeated and lost: an integer may have no numeral, an error of the
component with the key of errors has two lines in the file of errors and none in its own, and a file
that is full starts again. -/
theorem entries_can_lack_their_line :
    line "" (.int 20) (.text "told") [(.text "n", .int longNumber)] = .error .invalidValue ∧
    (∃ text, toldLine errorsKey .error = .ok text ∧
      linesOf ((told errorsKey .error (startedWith [])).2.files.textOf "logs/system.log") = [] ∧
      linesOf ((told errorsKey .error (startedWith [])).2.files.textOf "logs/errors.log") =
        [text, text]) ∧
    ∃ text, toldLine "query" .error = .ok text ∧ linesOf fullText = [fullText] ∧
      linesOf ((told "query" .error (startedWith [("logs/query.log", fullText)])).2.files.textOf
        "logs/query.log") = [text] := by
  refine ⟨line_of_long isShort_longNumber, ?_, ?_⟩
  · obtain ⟨text, line, -, system, errors⟩ := told_error_errorsKey
    obtain ⟨entry, isLine⟩ := isLine_toldLine line
    refine ⟨text, line, by rw [system]; rfl, ?_⟩
    rw [errors, linesOf_append (.inr ⟨text, rfl⟩), isLine.linesOf]
    rfl
  · obtain ⟨text, line, -, current, -⟩ := told_full (Nat.le_of_eq utf8ByteSize_fullText.symm)
    obtain ⟨entry, isLine⟩ := isLine_toldLine line
    exact ⟨text, line, linesOf_fullText, by rw [current, isLine.linesOf]⟩

end RecordQuery.Log
