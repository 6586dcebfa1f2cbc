import RecordQuery.Proofs.Log.Nesting

/-!
# Entries carry what encloses them

Every note inside operations becomes the entry that the stack of these operations describes, and
every operation puts back what was carried before. So a program outside of all operations writes the
lines that its nesting describes, as long as the start entries that are written have JSON texts.
-/

namespace RecordQuery.Log

open RecordQuery.Action

theorem writeLines_append (lines later : List Line) (files : Files) :
    writeLines (lines ++ later) files = writeLines later (writeLines lines files) :=
  List.foldl_append

theorem ensureLogger_of_some {session : Session} {logger : Logger}
    (there : session.logger? = some logger) : ensureLogger session = session := by
  rw [ensureLogger, there]

/-- After lines were written, further entries go the same way. -/
structure Leads (before : Session) (lines : List Line) (after : Session) : Prop where
  logger : loggerFor after = loggerFor before
  time : after.time = before.time
  files : (ensureLogger after).files = writeLines lines (ensureLogger before).files

namespace Leads

theorem refl (session : Session) : Leads session [] session := ⟨rfl, rfl, rfl⟩

theorem trans {first second third : Session} {lines later : List Line}
    (before : Leads first lines second) (after : Leads second later third) :
    Leads first (lines ++ later) third where
  logger := after.logger.trans before.logger
  time := after.time.trans before.time
  files := by rw [writeLines_append, ← before.files, after.files]

theorem ensureLogger (session : Session) : Leads session [] (Log.ensureLogger session) where
  logger := (unmoved_currentLogger session).logger
  time := by rcases session with ⟨_, _, _ | settings, _ | logger, _⟩ <;> rfl
  files := congrArg Session.files (ensureLogger_of_some (logger_ensureLogger session))

theorem writeLine (session : Session) (line : Line) : Leads session [line]
    { Log.ensureLogger session with
      files := Log.writeLine line.text line.handlers (Log.ensureLogger session).files } where
  logger := (unmoved_ensureLogger session _).logger
  time := (ensureLogger session).time
  files := by
    have there := logger_ensureLogger session
    generalize Log.ensureLogger session = ensured at there
    have kept (files : Files) : Log.ensureLogger { ensured with files } = { ensured with files } :=
      ensureLogger_of_some there
    rw [kept]
    rfl

theorem recarried {before after : Session} {lines : List Line} (leads : Leads before lines after)
    (correlation? : Option String) (context : Entries) :
    Leads before lines { after with correlation?, context } := by
  refine ⟨?_, leads.time, ?_⟩
  · rw [← leads.logger]
    rcases after with ⟨_, _, _ | settings, _ | logger, _⟩ <;> rfl
  · rw [← leads.files]
    rcases after with ⟨_, _, _ | settings, _ | logger, _⟩ <;> rfl

theorem started (operation : Operation) (session : Session) :
    Leads session [] (operation.started session) := by
  refine ⟨operation.loggerFor_started session, rfl, ?_⟩
  rcases session with ⟨_, _, _ | settings, _ | logger, _⟩ <;> rfl

end Leads

theorem levelTag_severity (severity : Severity) :
    levelTag (.int severity.level) = .ok (.text severity.tag) := by
  cases severity <;> cbv

theorem line_severity {fields : Entries} (free : clashes fields = false) (time message : String)
    (severity : Severity) : line time (.int severity.level) (.text message) fields =
      (Json.encode Json.Layout.spaced
        (.mapping (parts time (.text severity.tag) (.text message) fields))).map String.ofList := by
  rw [line, free, levelTag_severity]
  rfl

theorem outcome_fst_eq_none {performed : Except Failure Unit × Session} :
    (outcome performed).1 = none ↔ performed.1 = .ok () := by
  rcases performed with ⟨_ | _, _⟩ <;> simp [outcome]

theorem outcome_snd (performed : Except Failure Unit × Session) :
    (outcome performed).2 = performed.2 := by
  rcases performed with ⟨_ | _, _⟩ <;> rfl

theorem Note.carried_action (note : Note) (session : Session) :
    (perform note.action session).2.carried = session.carried :=
  (apart_record _ _ _ _).carried session

section Notes

variable {stack : List Scope} {session : Session} {note : Note}

/-- The parts of an entry are those that it should have. -/
theorem carries_parts (inside : Inside stack session) (named : WellNamed note.fields)
    (time : String) : Carries time stack note (parts time (.text note.severity.tag)
      (.text note.message) (completeFields session note.component note.fields)) := by
  have complete := named.completeFields inside.named note.component
  let own : Entries := [(.text "timestamp", .text time), (.text "level", .text note.severity.tag),
    (.text "message", .text note.message)]
  let entry : Entries := (completeFields session note.component note.fields).foldl
    (fun entry field => entry.insert field.1 field.2) own
  have found (name : String) : entry.get? name =
      ((completeFields session note.component note.fields).get? name).or (own.get? name) :=
    Entries.get?_foldl_insert complete.different own name
  have part {name : String} {value : Value} (listed : name ∈ entryNames)
      (held : own.get? name = some value) : entry.get? name = some value := by
    rw [found, complete.get?_eq_none listed, Option.none_or, held]
  constructor
  · exact part (by simp [entryNames]) (by simp [own, Entries.get?_cons])
  · exact part (by simp [entryNames, reserved]) (by simp [own, Entries.get?_cons, Value.same])
  · exact part (by simp [entryNames, reserved]) (by simp [own, Entries.get?_cons, Value.same])
  · intro name other
    have absent : own.get? name = none := by
      rw [Entries.get?_eq_none_iff]
      intro entry member same
      simp only [own, List.mem_cons, List.not_mem_nil, or_false] at member
      rcases member with rfl | rfl | rfl <;> exact other (by simp [← Value.text.inj same])
    exact (found name).trans (by rw [absent, Option.or_none, inside.get?_completeFields])
  · exact Entries.key_foldl_insert (fun key => ∃ name, key = .text name) complete.texts (by simp)
  · exact Entries.different_foldl_insert _ (by simp [Value.Different, Value.same])

theorem Note.WellFormed.holds?_component (wellFormed : note.WellFormed) (stack : List Scope) :
    ∃ name, note.holds? stack "component" = some (.text name) := by
  rw [Note.holds?, if_pos rfl]
  cases given : note.fields.get? "component" with
  | none => exact ⟨_, rfl⟩
  | some value =>
      obtain ⟨name, rfl⟩ := wellFormed.component value given
      exact ⟨name, rfl⟩

/-- A note inside operations becomes the entry that it should. -/
theorem noted_of_perform (inside : Inside stack session) (wellFormed : note.WellFormed) :
    ∃ lines, Noted (loggerFor session) session.time stack note
        (outcome (perform note.action session)).1 lines ∧
      Leads session lines (perform note.action session).2 := by
  have complete := wellFormed.named.completeFields inside.named note.component
  obtain ⟨name, holds⟩ := wellFormed.holds?_component stack
  have nameable : (Value.text name).isTruthy = true → (Value.text name).isKey = true := fun _ => rfl
  obtain ⟨handlers, found⟩ := destinations_succeed (loggerFor session) nameable note.severity.level
  rw [Note.action, perform_record wellFormed.named.clashes complete.clashes,
    inside.get?_completeFields, holds, Option.getD_some, (Leads.ensureLogger session).time,
    line_severity complete.clashes]
  -- What is below the threshold is not even encoded.
  by_cases enabled : (loggerFor session).isEnabledFor note.severity.level = true
  · have reached : (loggerFor session).level ≤ note.severity.level := of_decide_eq_true enabled
    rw [if_pos enabled]
    cases encoded : Json.encode Json.Layout.spaced (.mapping (parts session.time
        (.text note.severity.tag) (.text note.message)
        (completeFields session note.component note.fields))) with
    | error failure =>
        refine ⟨[], .failed reached ?_, .ensureLogger session⟩
        rintro ⟨own, scopes⟩
        have fields : Recordable note.fields := ⟨wellFormed.named.clashes, own⟩
        have context : Recordable session.context :=
          ⟨inside.named.clashes, inside.encodes scopes⟩
        obtain ⟨text, written⟩ := (fields.completeFields context note.component).line
          session.time note.message note.severity
        rw [line_severity complete.clashes, encoded] at written
        contradiction
    | ok text =>
        simp only [Except.map, found]
        exact ⟨_, .written reached (carries_parts inside wellFormed.named session.time) encoded
          holds found, .writeLine session ⟨_, handlers⟩⟩
  · rw [if_neg enabled]
    have below : note.severity.level < (loggerFor session).level :=
      Int.not_le.mp fun reached => enabled (decide_eq_true reached)
    exact ⟨[], .dropped below, .ensureLogger session⟩

end Notes

namespace Noted

variable {logger : Logger} {time : String} {stack : List Scope} {note : Note}
  {failure? : Option Failure} {lines : List Line}

/-- A note does not fail where everything that is written has JSON texts. -/
theorem succeeds (noted : Noted logger time stack note failure? lines)
    (own : Json.Encodes note.fields) (scopes : logger.level ≤ note.severity.level →
      ∀ scope ∈ stack, Json.Encodes scope.operation.context) : failure? = none := by
  cases noted with
  | dropped _ => rfl
  | written _ _ _ _ _ => rfl
  | failed reached stuck => exact absurd ⟨own, scopes reached⟩ stuck

theorem single (noted : Noted logger time stack note none lines)
    (reached : logger.level ≤ note.severity.level) : ∃ line, lines = [line] := by
  cases noted with
  | dropped below => exact absurd reached (Int.not_le.mpr below)
  | written _ _ _ _ _ => exact ⟨_, rfl⟩

end Noted

namespace Operation

variable (operation : Operation)

theorem wellFormed_startNote : operation.startNote.WellFormed :=
  ⟨.nil, by simp [startNote, Entries.get?, Entries.valueOf?]⟩

theorem recordable_endNote (failure? : Option Failure) :
    Recordable (operation.endNote failure?).fields := by
  cases failure? <;> exact .of_texts (by simp [endNote, Json.encode, reserved])

theorem wellFormed_endNote (failure? : Option Failure) :
    (operation.endNote failure?).WellFormed := by
  cases failure? <;>
  · refine ⟨⟨by simp [endNote, entryNames, reserved], ?_⟩, ?_⟩
    · simp [endNote, Value.Different, Value.same]
    · simp [endNote, Value.same, Entries.get?, Entries.valueOf?]

theorem finish_eq {failure? : Option Failure}
    (passing : ∀ failure ∈ failure?, failure.isExit = false) :
    operation.finish failure? = (operation.endNote failure?).action := by
  cases failure? with
  | none => rfl
  | some failure => exact if_neg (by simp [passing failure rfl])

theorem debug_le_severity_endNote (failure? : Option Failure) :
    Severity.debug.level ≤ (operation.endNote failure?).severity.level := by
  cases failure? <;> simp [endNote, Severity.level, errorLevel]

/-- An operation that was entered ends as its body does, unless the entry for its end fails. -/
theorem run_of_entered {operation : Operation} {session entered : Session} {correlation : String}
    (inside : perform operation.enter session = (.ok correlation, entered))
    (body : Session → Unit × Option Failure × Session)
    (passing : ∀ failure ∈ (body entered).2.1, failure.isExit = false) :
    let ended := outcome (perform (operation.endNote (body entered).2.1).action (body entered).2.2)
    (operation.run body session).1.failure? = ended.1.or (body entered).2.1 ∧
      (operation.run body session).2 =
        { ended.2 with correlation? := session.correlation?, context := session.context } := by
  rw [run, inside, ← operation.finish_eq passing]
  dsimp only
  rcases perform (operation.finish (body entered).2.1) (body entered).2.2 with
    ⟨failure | _, left⟩ <;> exact ⟨rfl, rfl⟩

/-- An operation that is left by the end of the whole program writes no entry for its end. -/
theorem run_of_exit {operation : Operation} {session entered : Session} {correlation : String}
    (inside : perform operation.enter session = (.ok correlation, entered))
    (body : Session → Unit × Option Failure × Session) {failure : Failure}
    (failed : (body entered).2.1 = some failure) (exit : failure.isExit = true) :
    (operation.run body session).1.failure? = some failure ∧
      (operation.run body session).2 =
        { (body entered).2.2 with
          correlation? := session.correlation?, context := session.context } := by
  have silent : operation.finish (some failure) = pure () := if_pos exit
  rw [run, inside]
  dsimp only
  rw [failed, silent, perform_pure]
  exact ⟨rfl, rfl⟩

end Operation

section Within

variable {operation : Operation} {stack : List Scope} {session : Session}

/-- An operation is entered with an entry for its start, where everything that is written has JSON
texts. -/
theorem Inside.enter (inside : Inside stack session) (wellFormed : operation.WellFormed)
    (encodes : (loggerFor session).level ≤ Severity.debug.level →
      ∀ scope ∈ operation.scope session :: stack, Json.Encodes scope.operation.context) :
    ∃ start entered,
      perform operation.enter session = (.ok (operation.startIdentifier session), entered) ∧
      Noted (loggerFor session) session.time (operation.scope session :: stack)
        operation.startNote none start ∧
      Leads session start entered ∧ Inside (operation.scope session :: stack) entered := by
  have started := inside.started wellFormed
  obtain ⟨start, noted, leads⟩ := noted_of_perform started operation.wellFormed_startNote
  rw [operation.loggerFor_started] at noted
  have succeeded := noted.succeeds (by simp [Operation.startNote, Json.Encodes]) encodes
  have entered := operation.enter_of_startEntry session (outcome_fst_eq_none.mp succeeded)
  rw [succeeded] at noted
  exact ⟨start, _, entered, noted, (Leads.started operation session).trans leads,
    started.of_carried (operation.startNote.carried_action _)⟩

/-- An operation around a program that writes what its nesting describes does so too. -/
theorem Inside.traced_within (inside : Inside stack session) (wellFormed : operation.WellFormed)
    (encodes : (loggerFor session).level ≤ Severity.debug.level →
      ∀ scope ∈ operation.scope session :: stack, Json.Encodes scope.operation.context)
    {program : Program}
    (traced : ∀ entered, Inside (operation.scope session :: stack) entered →
      loggerFor entered = loggerFor session → entered.time = session.time →
      ∃ lines, Traced (loggerFor session) session.time (operation.scope session :: stack) program
          (program.run entered).1 lines ∧
        Leads entered lines (program.run entered).2 ∧
        (program.run entered).2.carried = entered.carried) :
    ∃ lines, Traced (loggerFor session) session.time stack (.within operation program)
        ((Program.within operation program).run session).1 lines ∧
      Leads session lines ((Program.within operation program).run session).2 ∧
      ((Program.within operation program).run session).2.carried = session.carried := by
  obtain ⟨start, entered, performed, started, leads, enclosed⟩ := inside.enter wellFormed encodes
  obtain ⟨lines, between, onward, carried⟩ := traced entered enclosed leads.logger leads.time
  have identified : (operation.scope session).Identified := ⟨session.issued.length, rfl⟩
  by_cases passing : ∀ failure ∈ (program.run entered).1, failure.isExit = false
  · -- The program has put back what was carried, so that the end is inside the operation too.
    obtain ⟨ending, ended, last⟩ := noted_of_perform (enclosed.of_carried carried)
      (operation.wellFormed_endNote (program.run entered).1)
    rw [onward.logger, onward.time, leads.logger, leads.time] at ended
    obtain ⟨failed, left⟩ := Operation.run_of_entered performed
      (fun entered => ((), program.run entered)) passing
    have ran : (Program.within operation program).run session = (_, _) := Prod.ext failed left
    rw [ran, outcome_snd]
    refine ⟨start ++ lines ++ ending, .within identified started between passing ended
      fun debug => ?_, ((leads.trans onward).trans last).recarried _ _, rfl⟩
    have reached := debug.trans (operation.debug_le_severity_endNote (program.run entered).1)
    have succeeded := ended.succeeds (operation.recordable_endNote _).2 fun _ => encodes debug
    rw [succeeded] at ended
    obtain ⟨first, single⟩ := started.single debug
    obtain ⟨last, singleLast⟩ := ended.single reached
    exact ⟨first, last, single, singleLast, succeeded⟩
  · simp only [Classical.not_forall, Bool.not_eq_false] at passing
    obtain ⟨failure, failed, exit⟩ := passing
    rw [failed] at between
    obtain ⟨ended, left⟩ := Operation.run_of_exit performed
      (fun entered => ((), program.run entered)) failed exit
    have ran : (Program.within operation program).run session = (_, _) := Prod.ext ended left
    rw [ran]
    exact ⟨start ++ lines, .exit identified started between exit started.single,
      (leads.trans onward).recarried _ _, rfl⟩

end Within

/-- A program writes the lines that its nesting describes, and puts back what was carried. -/
theorem Program.traced_of_run {program : Program} {stack : List Scope} {session : Session}
    (inside : Inside stack session)
    (wellFormed : program.All Note.WellFormed Operation.WellFormed)
    (encodes : (loggerFor session).level ≤ Severity.debug.level →
      (∀ scope ∈ stack, Json.Encodes scope.operation.context) ∧
        program.All (fun _ => True) fun operation => Json.Encodes operation.context) :
    ∃ lines, Traced (loggerFor session) session.time stack program (program.run session).1 lines ∧
      Leads session lines (program.run session).2 ∧
      (program.run session).2.carried = session.carried := by
  -- Logger and time are those of the beginning throughout; the stack grows with every operation.
  induction program generalizing stack session with
  | skip => exact ⟨[], .skip, .refl session, rfl⟩
  | fail failure => exact ⟨[], .fail, .refl session, rfl⟩
  | write note =>
      obtain ⟨lines, noted, leads⟩ := noted_of_perform inside wellFormed
      rw [run, outcome_snd]
      exact ⟨lines, .write noted, leads, note.carried_action session⟩
  | within operation program inductionHypothesis =>
      exact inside.traced_within wellFormed.1
        (fun debug => List.forall_mem_cons.mpr ⟨(encodes debug).2.1, (encodes debug).1⟩)
        fun entered enclosed logger time => by
          have traced := inductionHypothesis enclosed wellFormed.2 fun debug => by
            rw [logger] at debug
            exact ⟨List.forall_mem_cons.mpr ⟨(encodes debug).2.1, (encodes debug).1⟩,
              (encodes debug).2.2⟩
          rwa [logger, time] at traced
  | sequence first second firstHypothesis secondHypothesis =>
      obtain ⟨lines, traced, leads, carried⟩ := firstHypothesis inside wellFormed.1
        fun debug => ⟨(encodes debug).1, (encodes debug).2.1⟩
      rw [run]
      rcases ran : first.run session with ⟨_ | failure, after⟩ <;> rw [ran] at traced leads carried
      · obtain ⟨later, tracedLater, leadsLater, carriedLater⟩ :=
          secondHypothesis (inside.of_carried carried) wellFormed.2 fun debug => by
            rw [leads.logger] at debug
            exact ⟨(encodes debug).1, (encodes debug).2.2⟩
        rw [leads.logger, leads.time] at tracedLater
        exact ⟨_, .sequence traced tracedLater, leads.trans leadsLater,
          carriedLater.trans carried⟩
      · exact ⟨lines, .first_fails traced, leads, carried⟩
  | recover program handler inductionHypothesis handlerHypothesis =>
      obtain ⟨lines, traced, leads, carried⟩ := inductionHypothesis inside wellFormed.1
        fun debug => ⟨(encodes debug).1, (encodes debug).2.1⟩
      rw [run]
      rcases ran : program.run session with ⟨_ | failure, after⟩ <;>
        rw [ran] at traced leads carried
      · exact ⟨lines, .recover_nothing traced, leads, carried⟩
      · obtain ⟨later, tracedLater, leadsLater, carriedLater⟩ :=
          handlerHypothesis failure (inside.of_carried carried) (wellFormed.2 failure)
            fun debug => by
              rw [leads.logger] at debug
              exact ⟨(encodes debug).1, (encodes debug).2.2 failure⟩
        rw [leads.logger, leads.time] at tracedLater
        exact ⟨_, .recover traced tracedLater, leads.trans leadsLater,
          carriedLater.trans carried⟩

/-- A program outside of all operations writes exactly the lines that its nesting describes. In each
entry stand the component of the note, the identifier of the innermost operation around it, and
beside its own fields what the innermost operation sets that sets it, whatever was entered and left
before. From the threshold of their entries on, operations have one entry for their start and one
for their end, and fail as their inside does. -/
theorem entries_carry_enclosing_operations {session : Session} {program : Program}
    (outside : session.carried = (none, []))
    (wellFormed : program.All Note.WellFormed Operation.WellFormed)
    (encodes : (loggerFor session).level ≤ Severity.debug.level →
      program.All (fun _ => True) fun operation => Json.Encodes operation.context) :
    ∃ lines, Traced (loggerFor session) session.time [] program (program.run session).1 lines ∧
      (program.run session).2.files.textOf =
        (writeLines lines (ensureLogger session).files).textOf ∧
      (program.run session).2.carried = (none, []) := by
  obtain ⟨lines, traced, leads, carried⟩ := Program.traced_of_run (.outside outside) wellFormed
    fun debug => ⟨by simp, encodes debug⟩
  rw [← textOf_ensureLogger (program.run session).2, leads.files]
  exact ⟨lines, traced, rfl, carried.trans outside⟩

def debugSession : Session :=
  { Session.start "" with environment := [("LOG_LEVEL", "DEBUG")] }

def message (text : String) : Program := .write ⟨"system", .info, text, [(.text "n", .int 1)]⟩

theorem wellFormed_message (text : String) :
    (message text).All Note.WellFormed Operation.WellFormed := by
  refine ⟨⟨by simp [entryNames, reserved], by simp [Value.Different]⟩, ?_⟩
  simp [Entries.get?, Entries.valueOf?, Value.same]

def innermost : Operation :=
  ⟨"evaluator", "inner", "", [(.text "records", .int 4)], Binary64.zero⟩

def outermost : Operation :=
  ⟨"query", "outer", "x", [(.text "n", .int 2), (.text "records", .int 3)], Binary64.zero⟩

/-- Operations in another one, which are left by a failure and by the end of the whole program. The
outer one recovers from both. -/
def nestedProgram : Program :=
  .sequence
    (.within outermost
      (.sequence
        (.recover (.within innermost (.sequence (message "inside") (.fail (.other "E" "boom"))))
          fun _ => .within innermost (.fail (.exit "Exit" "")))
        (message "between")))
    (message "outside")

theorem wellFormed_nestedProgram : nestedProgram.All Note.WellFormed Operation.WellFormed := by
  have inner : innermost.WellFormed :=
    ⟨⟨by simp [innermost, entryNames, reserved], by simp [innermost, Value.Different]⟩,
      by simp [innermost, Entries.get?, Entries.valueOf?, Value.same]⟩
  have outer : outermost.WellFormed :=
    ⟨⟨by simp [outermost, entryNames, reserved], by simp [outermost, Value.Different, Value.same]⟩,
      by simp [outermost, Entries.get?, Entries.valueOf?, Value.same]⟩
  exact ⟨⟨outer, ⟨⟨inner, wellFormed_message _, trivial⟩, fun _ => ⟨inner, trivial⟩⟩,
    wellFormed_message _⟩, wellFormed_message _⟩

theorem encodes_nestedProgram :
    nestedProgram.All (fun _ => True) fun operation => Json.Encodes operation.context := by
  have short (number : Int) (listed : number ∈ [2, 3, 4]) : Numeral.isShort number = true := by
    simp only [List.mem_cons, List.not_mem_nil, or_false] at listed
    rcases listed with rfl | rfl | rfl <;> decide
  have inner : Json.Encodes innermost.context := by
    simp [Json.Encodes, innermost, Json.encode, Json.wholeText, short]
  have outer : Json.Encodes outermost.context := by
    simp [Json.Encodes, outermost, Json.encode, Json.wholeText, short]
  exact ⟨⟨outer, ⟨⟨inner, trivial, trivial⟩, fun _ => ⟨inner, trivial⟩⟩, trivial⟩, trivial⟩

theorem nested_entries_carry_operations :
    ∃ lines, Traced (loggerFor debugSession) debugSession.time [] nestedProgram
        (nestedProgram.run debugSession).1 lines ∧
      (nestedProgram.run debugSession).2.files.textOf =
        (writeLines lines (ensureLogger debugSession).files).textOf ∧
      (nestedProgram.run debugSession).2.carried = (none, []) :=
  entries_carry_enclosing_operations rfl wellFormed_nestedProgram fun _ => encodes_nestedProgram

/-- An operation whose context has a value without a JSON text. -/
def unwritable : Operation :=
  ⟨"system", "outer", "x", [(.text "n", .mapping [(.tuple [.int 1], .int 2)])], Binary64.zero⟩

def around : Operation := ⟨"system", "around", "y", [], Binary64.zero⟩

/-- A message in one operation, after another one inside it was left. -/
def leakingProgram : Program :=
  .within around (.sequence (.recover (.within unwritable .skip) fun _ => .skip) (message "m"))

/-- An operation that is left by the end of the whole program. -/
def exitingProgram : Program := .within around (.fail (.exit "Exit" ""))

def entryWith (level message : String) (fields : Entries) : Entries :=
  (.text "timestamp", .text "") :: (.text "level", .text level) ::
    (.text "message", .text message) :: fields

/-- The start entry of an operation fails, and a later entry carries the identifier and the name of
that operation in place of those of the one that encloses it. An operation that is left by the end
of the whole program has no entry for its end. -/
theorem operations_can_mark_other_entries :
    leakingProgram.All Note.WellFormed Operation.WellFormed ∧
    (∃ texts, List.Forall₂
        (fun entry text => Json.encode Json.Layout.spaced (.mapping entry) = .ok text)
        [entryWith "DEBUG" "operation_start_around" [(.text "component", .text "system"),
            (.text "correlation_id", .text "y"), (.text "operation", .text "around")],
          entryWith "INFO" "m" [(.text "n", .int 1), (.text "component", .text "system"),
            (.text "correlation_id", .text "x"), (.text "operation", .text "outer")]] texts ∧
      (leakingProgram.run debugSession).2.files.textOf "logs/system.log" =
        String.join (texts.map fun text => String.ofList text ++ "\n")) ∧
    exitingProgram.All Note.WellFormed Operation.WellFormed ∧
    ∃ text, Json.encode Json.Layout.spaced (.mapping (entryWith "DEBUG" "operation_start_around"
        [(.text "component", .text "system"), (.text "correlation_id", .text "y"),
          (.text "operation", .text "around")])) = .ok text ∧
      (exitingProgram.run debugSession).2.files.textOf "logs/system.log" =
        String.ofList text ++ "\n" := by
  have outer : around.WellFormed :=
    ⟨.nil, by simp [around, Entries.get?, Entries.valueOf?]⟩
  have inner : unwritable.WellFormed :=
    ⟨⟨by simp [unwritable, entryNames, reserved], by simp [unwritable, Value.Different]⟩,
      by simp [unwritable, Entries.get?, Entries.valueOf?, Value.same]⟩
  refine ⟨⟨outer, ⟨⟨inner, trivial⟩, fun _ => trivial⟩, wellFormed_message _⟩,
    ⟨_, .cons rfl (.cons rfl .nil), ?_⟩, ⟨outer, trivial⟩, _, rfl, ?_⟩
  · decide +kernel
  · decide +kernel

end RecordQuery.Log
