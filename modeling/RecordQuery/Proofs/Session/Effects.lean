import Mathlib.Order.Defs.Unbundled
import RecordQuery.Proofs.Log.Following
import RecordQuery.Query.Processing

/-!
# What operations leave

`Leaves` relates the session that an operation starts from to the one that it leaves, whether it
fails or not. A relation of this kind that is a preorder passes from the parts of a sequence to the
whole. Writing to the log, and loading settings for other uses than the shared one, leave sessions
`Unmoved`: the environment, the shared settings and the logger that entries go through stay. They
are `Steady` if the queries stay, too.
-/

namespace RecordQuery

namespace Action

variable {α β : Type} {relation : Session → Session → Prop}

/-- The session that an operation leaves is related to the one before it. -/
def Leaves (relation : Session → Session → Prop) (action : Action α) : Prop :=
  ∀ session, relation session (perform action session).2

namespace Leaves

theorem of_perform {action : Action α} (leaves : Leaves relation action) {session after : Session}
    {result : Except Failure α} (performed : perform action session = (result, after)) :
    relation session after := by
  have moved := leaves session
  rwa [performed] at moved

variable [IsPreorder Session relation]

theorem pure (result : α) : Leaves relation (pure result) := fun session => refl_of relation session

theorem throw (failure : Failure) : Leaves relation (throw failure : Action α) :=
  fun session => refl_of relation session

theorem lift (result : Except Failure α) : Leaves relation (lift result) := fun session => by
  rw [perform_lift]
  exact refl_of relation session

theorem bind {first : Action α} {next : α → Action β} (before : Leaves relation first)
    (after : ∀ result, Leaves relation (next result)) : Leaves relation (first >>= next) := by
  intro session
  rw [perform_bind]
  rcases performed : perform first session with ⟨failure | result, middle⟩
  · exact before.of_perform performed
  · exact trans_of relation (before.of_perform performed) (after result middle)

theorem get_bind {next : Session → Action α} (after : ∀ session, Leaves relation (next session)) :
    Leaves relation (get >>= next) :=
  bind (fun session => refl_of relation session) after

omit [IsPreorder Session relation] in
theorem ite {condition : Prop} [Decidable condition] {first second : Action α}
    (one : Leaves relation first) (other : Leaves relation second) :
    Leaves relation (if condition then first else second) := by
  split
  · exact one
  · exact other

end Leaves

end Action

open RecordQuery.Action

/-- The environment, the shared settings and the logger that entries go through are the same before
and after. -/
structure Unmoved (before after : Session) : Prop where
  environment : after.environment = before.environment
  settings : after.settings? = before.settings?
  logger : Log.loggerFor after = Log.loggerFor before

instance : IsPreorder Session Unmoved where
  refl _ := ⟨rfl, rfl, rfl⟩
  trans _ _ _ one other := ⟨other.environment.trans one.environment,
    other.settings.trans one.settings, other.logger.trans one.logger⟩

theorem Unmoved.of_parts {before after : Session}
    (environment : after.environment = before.environment)
    (settings : after.settings? = before.settings?) (logger : after.logger? = before.logger?) :
    Unmoved before after := by
  rcases before with ⟨_, _, _ | loaded, _ | made, _⟩ <;>
    rcases after with ⟨_, _, _, _, _⟩ <;> cases environment <;> cases settings <;> cases logger <;>
    exact ⟨rfl, rfl, rfl⟩

theorem Unmoved.environmentText? {before after : Session} (unmoved : Unmoved before after) :
    after.environmentText? = before.environmentText? := by
  funext name
  rw [Session.environmentText?, unmoved.environment]
  rfl

/-- Sessions with the same queries, neither of which has moved. -/
structure Steady (before after : Session) : Prop extends Unmoved before after where
  queries : after.queries = before.queries

instance : IsPreorder Session Steady where
  refl session := ⟨refl_of Unmoved session, rfl⟩
  trans _ _ _ one other := ⟨trans_of Unmoved one.toUnmoved other.toUnmoved,
    other.queries.trans one.queries⟩

theorem Action.Leaves.unmoved {α : Type} {action : Action α} (steady : Leaves Steady action) :
    Leaves Unmoved action := fun session => (steady session).toUnmoved

/-- Making the logger, and writing files, does not change the one that entries go through. -/
theorem unmoved_ensureLogger (session : Session) (files : Files) :
    Unmoved session { Log.ensureLogger session with files } := by
  rcases session with ⟨_, _, _ | settings, _ | logger, _⟩ <;> exact ⟨rfl, rfl, rfl⟩

namespace Log

theorem steady_record (component : String) (severity : Severity) (message : String)
    (fields : Entries) : Leaves Steady (record component severity message fields) := by
  intro session
  rcases record_state component message severity fields session with same | ⟨files, written⟩
  · rw [same]
    exact refl_of Steady session
  · rw [written]
    refine ⟨unmoved_ensureLogger session files, ?_⟩
    rcases session with ⟨_, _, _ | settings, _ | logger, _⟩ <;> rfl

theorem unmoved_record (component : String) (severity : Severity) (message : String)
    (fields : Entries) : Leaves Unmoved (record component severity message fields) :=
  (steady_record component severity message fields).unmoved

theorem unmoved_currentLogger : Leaves Unmoved currentLogger :=
  fun session => unmoved_ensureLogger session _

theorem unmoved_route (severity : Severity) (message : String) (fields : Entries) :
    Leaves Unmoved (route severity message fields) := by
  have written (logger : Logger) : Leaves Unmoved (if logger.isEnabledFor severity.level then do
      let text ← lift (line (← get).time (.int severity.level) (.text message) fields)
      let paths ← lift (logger.destinations ((fields.get? "component").getD .null) severity.level)
      modify fun session => { session with files := writeLine text paths session.files }
      else pure ()) :=
    .ite (.get_bind fun _ => .bind (.lift _) fun _ => .bind (.lift _) fun _ =>
      fun _ => .of_parts rfl rfl rfl) (.pure ())
  refine .bind unmoved_currentLogger fun logger => ?_
  exact .ite (.bind (.throw .mismatch) fun _ => written logger) (written logger)

theorem unmoved_isEnabledFor (level : Value) : Leaves Unmoved (isEnabledFor level) := by
  refine .bind unmoved_currentLogger fun logger => ?_
  cases Value.atMost? (.int logger.level) level with
  | none => exact .throw .mismatch
  | some enabled => exact .pure enabled

namespace Operation

theorem steady_enter (operation : Operation) : Leaves Steady operation.enter := by
  refine .bind (.ite (.get_bind fun _ => .bind ?_ fun _ => .pure _) (.pure _)) fun _ =>
    .bind ?_ fun _ => .bind (steady_record _ _ _ _) fun _ => .pure _
  · exact fun session => ⟨.of_parts rfl rfl rfl, rfl⟩
  · exact fun session => ⟨.of_parts rfl rfl rfl, rfl⟩

theorem steady_finish (operation : Operation) (failure? : Option Failure) :
    Leaves Steady (operation.finish failure?) := by
  cases failure? with
  | none => exact steady_record _ _ _ _
  | some failure => exact .ite (.pure _) (steady_record _ _ _ _)

end Operation

end Log

namespace Settings

theorem unmoved_loadFile (file : String) : Leaves Unmoved (loadFile file) := by
  have logged (severity : Log.Severity) (message : String) (fields values : Entries) :
      Leaves Unmoved (do log severity message fields; return values) :=
    .bind (Log.unmoved_record _ _ _ _) fun _ => .pure _
  refine .get_bind fun session => ?_
  dsimp only
  split
  · exact .ite (logged _ _ _ _) (logged _ _ _ _)
  · refine .ite (.throw _) ?_
    split
    · exact logged _ _ _ _
    · exact .throw _
    · exact logged _ _ _ _
    · exact .throw _

theorem unmoved_applyOverrides (values : Entries) (listed : List Override) :
    Leaves Unmoved (applyOverrides values listed) := by
  induction listed generalizing values with
  | nil => exact .pure values
  | cons override rest inductionHypothesis =>
      refine .get_bind fun session => ?_
      cases session.environmentText? override.variableName with
      | none => exact inductionHypothesis values
      | some text =>
          exact .bind (.lift _) fun changed => .bind (Log.unmoved_record _ _ _ _) fun _ =>
            inductionHypothesis changed

theorem unmoved_load (file : String) : Leaves Unmoved (load file) :=
  .get_bind fun _ => .bind (unmoved_loadFile _) fun _ => .bind (unmoved_applyOverrides _ _) fun _ =>
    .bind (Log.unmoved_record _ _ _ _) fun _ => .pure _

end Settings

namespace Session

theorem unmoved_modifyStore (revise : QueryStore → QueryStore) :
    Leaves Unmoved (modifyStore revise) := fun _ => .of_parts rfl rfl rfl

theorem unmoved_create (options : Options) : Leaves Unmoved (create options) :=
  .bind (.lift _) fun _ => .get_bind fun _ => .bind (unmoved_modifyStore _) fun _ => .pure _

theorem unmoved_order (mark : Mark) (field : Value) (direction : Direction) :
    Leaves Unmoved (order mark field direction) :=
  .bind (.lift _) fun _ => .bind (unmoved_modifyStore _) fun _ => .pure _

theorem unmoved_assign (mark : Mark) (setting : Setting) : Leaves Unmoved (assign mark setting) :=
  .get_bind fun _ => .bind (.lift _) fun _ => unmoved_modifyStore _

theorem unmoved_recordJoin (mark : Mark) (combinator : Combinator) (operands : Nat) :
    Leaves Unmoved (recordJoin mark combinator operands) :=
  .get_bind fun _ => Log.unmoved_record _ _ _ _

theorem unmoved_join (mark : Mark) (combinator : Combinator) (operands : List Operand) :
    Leaves Unmoved (join mark combinator operands) := by
  cases operands with
  | nil =>
      exact .get_bind fun _ => .bind (unmoved_modifyStore _) fun _ =>
        .bind (unmoved_recordJoin _ _ _) fun _ => .pure _
  | cons operand rest =>
      exact .get_bind fun _ => .bind (.lift _) fun _ => .bind (unmoved_modifyStore _) fun _ =>
        .bind (unmoved_recordJoin _ _ _) fun _ => .pure _

theorem steady_evaluate (snapshot : Snapshot) (records : List Value) (session : Session) :
    Steady session (evaluate snapshot records session).2.2 := by
  rw [evaluate]
  split
  · exact refl_of Steady session
  · dsimp only
    split <;> exact (Log.steady_record _ _ _ _).of_perform ‹_›

theorem unmoved_snapshot (mark : Mark) : Leaves Unmoved (snapshot mark) :=
  .get_bind fun _ => .pure _

theorem unmoved_parameters (mark : Mark) : Leaves Unmoved (parameters mark) :=
  .bind (unmoved_snapshot mark) fun _ => .lift _

theorem unmoved_text (mark : Mark) : Leaves Unmoved (text mark) :=
  .bind (unmoved_snapshot mark) fun _ => .lift _

theorem unmoved_display (mark : Mark) : Leaves Unmoved (display mark) :=
  .bind (unmoved_snapshot mark) fun _ => .pure _

end Session

end RecordQuery
