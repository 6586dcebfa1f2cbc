import RecordQuery.Proofs.Log.Following

/-!
# What operations leave behind

An operation installs its identifier and its context and then writes its start entry; only what
comes after that is followed by putting back what was there before. So every operation whose start
entry can be written restores what entries carry, however its body and the entry for its end come
out. An operation whose start entry fails never runs its body, and what it installed stays.
-/

namespace RecordQuery.Log.Operation

open RecordQuery.Action

section Starting

variable (operation : Operation) (session : Session)

def startIdentifier : String :=
  if operation.correlation.isEmpty then identifier session.issued.length else operation.correlation

def startContext : Entries :=
  operation.additions.foldl (fun entries entry => entries.insert entry.1 entry.2) session.context

def started : Session :=
  { session with
    correlation? := some (operation.startIdentifier session)
    context := operation.startContext session
    issued := if operation.correlation.isEmpty then
      identifier session.issued.length :: session.issued else session.issued }

def startEntry : Action Unit :=
  record operation.component .debug ("operation_start_" ++ operation.name) []

theorem perform_enter : perform operation.enter session =
    match perform operation.startEntry (operation.started session) with
    | (.ok _, entered) => (.ok (operation.startIdentifier session), entered)
    | (.error failure, entered) => (.error failure, entered) := by
  have identified : perform (correlationFor operation.correlation) session =
      (.ok (operation.startIdentifier session), { session with
        issued := (operation.started session).issued }) := by
    rw [correlationFor, startIdentifier, started]
    split <;> rfl
  simp only [enter, perform_bind, identified, perform_modify]
  rcases performed : perform operation.startEntry (operation.started session) with
    ⟨failure | _, entered⟩ <;>
  · simp only [startEntry, started, startContext] at performed
    simp only [started, performed, perform_pure]

theorem enter_of_startEntry
    (written : (perform operation.startEntry (operation.started session)).1 = .ok ()) :
    perform operation.enter session = (.ok (operation.startIdentifier session),
      (perform operation.startEntry (operation.started session)).2) := by
  rw [perform_enter]
  rcases performed : perform operation.startEntry (operation.started session) with
    ⟨failure | _, entered⟩
  · simp [performed] at written
  · rfl

theorem loggerFor_started : loggerFor (operation.started session) = loggerFor session := by
  rcases session with ⟨_, _, _ | settings, _ | logger, _⟩ <;> rfl

/-- The start entry can be written: what it carries names no part of it and, where it is written,
has JSON texts. -/
structure Starts : Prop where
  complete : clashes (completeFields (operation.started session) operation.component []) = false
  encodes : (loggerFor session).isEnabledFor Severity.debug.level = true →
    Json.Encodes (completeFields (operation.started session) operation.component [])

theorem startEntry_succeeds_iff :
    (perform operation.startEntry (operation.started session)).1 = .ok () ↔
      operation.Starts session := by
  constructor
  · intro recorded
    refine ⟨clashes_of_recorded rfl recorded, fun enabled => encodes_of_recorded recorded ?_⟩
    rwa [loggerFor_started]
  · rintro ⟨complete, encodes⟩
    refine record_succeeds_of_complete _ rfl rfl complete fun enabled => encodes ?_
    rwa [loggerFor_started] at enabled

/-- Entering succeeds or fails with the start entry. In either case entries carry what the operation
installs. -/
theorem enter_cases :
    (operation.Starts session ∧ ∃ entered, perform operation.enter session =
      (.ok (operation.startIdentifier session), entered)) ∨
    ¬ operation.Starts session ∧ ∃ failure entered,
      perform operation.enter session = (.error failure, entered) ∧
      entered.carried = (operation.started session).carried := by
  rw [← startEntry_succeeds_iff, perform_enter]
  have carried := (apart_record operation.component .debug ("operation_start_" ++ operation.name)
    []).carried (operation.started session)
  change (perform operation.startEntry _).2.carried = _ at carried
  rcases performed : perform operation.startEntry (operation.started session) with
    ⟨failure | _, entered⟩
  · exact .inr ⟨by simp, failure, entered, rfl, by rwa [performed] at carried⟩
  · exact .inl ⟨rfl, entered, rfl⟩

end Starting

theorem run_of_failed_enter {α : Type} {operation : Operation} {session entered : Session}
    {failure : Failure} (failed : perform operation.enter session = (.error failure, entered))
    (body : Session → α × Option Failure × Session) :
    operation.run body session = (⟨some failure, "", none⟩, entered) := by
  rw [run, failed]

/-- What was carried before is put back after every body. -/
theorem carried_run_of_entered {α : Type} {operation : Operation} {session entered : Session}
    {correlation : String} (inside : perform operation.enter session = (.ok correlation, entered))
    (body : Session → α × Option Failure × Session) :
    (operation.run body session).2.carried = session.carried := by
  rw [run, inside]
  dsimp only
  split <;> rfl

/-- An operation inside another one, with a context of its own. -/
def innerOperation : Operation :=
  ⟨"query", "inner", "y", [(.text "records", .int 3)], Binary64.zero⟩

/-- A session inside another operation. -/
def outerSession : Session :=
  { Session.start "" with
    correlation? := some "x"
    context := [(.text "operation", .text "outer")] }

def strayBody (session : Session) : Unit × Option Failure × Session :=
  ((), some .mismatch, { session with correlation? := none, context := [(.text "level", .int 1)] })

def levelOperation : Operation :=
  ⟨"system", "outer", "x", [(.text "level", .int 1)], Binary64.zero⟩

def idleBody (session : Session) : Unit × Option Failure × Session := ((), none, session)

end RecordQuery.Log.Operation
