import RecordQuery.Proofs.Filter.Report
import RecordQuery.Proofs.Query.Repetition
import RecordQuery.Proofs.Query.RoundTrip

/-!
# The check for support

Before a query is evaluated, the operators are looked up that the settings list and that are in use
in its filter. If there are none, the check passes; if there are any, it ends with an error that
names them.
-/

namespace RecordQuery.Session

open RecordQuery.Action RecordQuery.Filter

variable {session : Session} {mark : Mark} {settings : Settings} {names : List String}

theorem encode_texts (texts : List String) :
    ∃ text, Json.encode Json.Layout.spaced (.list (texts.map .text)) = .ok text := by
  have items : ∃ encoded, Json.encodeItems Json.Layout.spaced (texts.map .text) = .ok encoded := by
    induction texts with
    | nil => exact ⟨[], rfl⟩
    | cons text rest inductionHypothesis =>
        obtain ⟨encoded, written⟩ := inductionHypothesis
        rw [List.map_cons, Json.encodeItems, written]
        exact ⟨_, rfl⟩
  obtain ⟨encoded, written⟩ := items
  rw [Json.encode, written]
  exact ⟨_, rfl⟩

structure Lists (session : Session) (settings : Settings) (names : List String) : Prop where
  shared : (perform Settings.shared session).1 = .ok settings
  listed : settings.unsupportedOperators = .ok (names.map .text)

namespace Lists

theorem reported (lists : session.Lists settings names) (mark : Mark) :
    (perform (unsupportedOperators mark) session).1 = .ok ((report settings.recursiveCheck names
      (session.queries.snapshot mark).filter).map .text) := by
  have shared := lists.shared
  rw [perform_unsupportedOperators]
  rcases loaded : perform Settings.shared session with ⟨failure | found, after⟩
  · rw [loaded] at shared
    contradiction
  · rw [loaded] at shared
    obtain rfl := Except.ok.inj shared
    simp only [lists.listed, Except.bind, occurring_texts_eq]

/-- The check for support lets a query pass for which nothing is reported. -/
theorem requireSupport_passes (lists : session.Lists settings names)
    (none : report settings.recursiveCheck names (session.queries.snapshot mark).filter = []) :
    (perform (requireSupport mark) session).1 = .ok () := by
  have loaded : perform Settings.shared session =
      (.ok settings, (perform Settings.shared session).2) := Prod.ext lists.shared rfl
  have supports : Supports settings (session.queries.snapshot mark).filter := by
    rw [Supports, lists.listed, Except.bind, occurring_texts_eq, none]
    rfl
  rw [requireSupport_eq_ok.mpr ⟨settings, loaded, supports⟩]

/-- The check for support ends with an error if operators are reported, and names them where that
can be recorded. -/
theorem requireSupport_refuses (lists : session.Lists settings names)
    (found : report settings.recursiveCheck names (session.queries.snapshot mark).filter ≠ []) :
    ∃ failure, (perform (requireSupport mark) session).1 = .error failure ∧
      (Log.Recordable session.context → failure = .query (.unsupportedOffline
        (report settings.recursiveCheck names (session.queries.snapshot mark).filter))) := by
  obtain ⟨name, rest, operators⟩ := List.exists_cons_of_ne_nil found
  have asked := lists.reported mark
  have kept := Settings.apart_shared.context session
  rw [← state_unsupportedOperators mark session] at kept
  rw [requireSupport, perform_bind]
  rcases answered : perform (unsupportedOperators mark) session with ⟨failure | given, after⟩
  · rw [answered] at asked
    contradiction
  rw [answered] at asked kept
  rw [operators] at asked ⊢
  obtain rfl := Except.ok.inj asked
  have recorded (context : Log.Recordable session.context) :
      (perform (Log.record evaluator .error "offline_query_unsupported"
        [(.text "operators", .list ((name :: rest).map .text))]) after).1 = .ok () := by
    refine Log.record_succeeds _ _ _ (Log.Recordable.of_texts ?_) ?_ (kept.symm ▸ context)
    · intro field member
      obtain rfl := List.mem_singleton.mp member
      exact ⟨_, rfl, by simp [Log.reserved], encode_texts _⟩
    · simp [Entries.get?, Entries.valueOf?, Value.same]
  have texts := Argument.texts?_map (name :: rest)
  simp only [List.map_cons] at recorded texts ⊢
  rw [perform_bind]
  rcases written : perform (Log.record evaluator .error "offline_query_unsupported"
    [(.text "operators", .list (.text name :: rest.map .text))]) after with ⟨failure | _, later⟩
  · rw [written] at recorded
    exact ⟨failure, rfl, fun context => absurd (recorded context) (by simp)⟩
  · simp only [texts]
    exact ⟨_, rfl, fun _ => rfl⟩

theorem refuses (lists : session.Lists settings names)
    (found : report settings.recursiveCheck names (session.queries.snapshot mark).filter ≠ []) :
    ∃ failure, (∀ records, (process mark records session).1 = ⟨records, .error failure⟩) ∧
      (Log.Recordable session.context → failure = .query (.unsupportedOffline
        (report settings.recursiveCheck names (session.queries.snapshot mark).filter))) := by
  obtain ⟨failure, refused, named⟩ := lists.requireSupport_refuses found
  refine ⟨failure, fun records => ?_, named⟩
  rcases required : perform (requireSupport mark) session with ⟨other | _, after⟩
  · rw [required] at refused
    obtain rfl := Except.error.inj refused
    rw [process, required]
  · rw [required] at refused
    contradiction

end Lists

end RecordQuery.Session
