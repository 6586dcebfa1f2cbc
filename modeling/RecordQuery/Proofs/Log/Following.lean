import Mathlib.Data.List.Nodup
import RecordQuery.Proofs.Json.Layouts
import RecordQuery.Proofs.Value.Sameness

/-!
# Entries that follow a first one

An entry without fields of its own carries everything that any later entry of its component carries
besides the fields of that entry. So once such an entry was recorded, an entry of the same severity
with fields that can be recorded does not fail, even if the context cannot be recorded and is
dropped below the threshold.
-/

namespace RecordQuery

namespace Entries

theorem get?_isSome_of_mem {entries : Entries} {name : String} {value : Value}
    (member : (.text name, value) ∈ entries) : (entries.get? name).isSome := by
  rw [get?, valueOf?, Option.isSome_map, List.find?_isSome]
  exact ⟨_, member, Value.same_refl _⟩

/-- An entry stays when another key is written. -/
theorem mem_insert_of_ne {entries : Entries} {name other : String} {held value : Value}
    (member : (.text name, held) ∈ entries) (different : name ≠ other) :
    (.text name, held) ∈ entries.insert (.text other) value := by
  induction entries with
  | nil => contradiction
  | cons entry rest inductionHypothesis =>
      rw [insert]
      split
      · rename_i same
        rcases List.mem_cons.mp member with rfl | member
        · simp [Value.same, different] at same
        · exact List.mem_cons_of_mem _ member
      · rcases List.mem_cons.mp member with rfl | member
        · exact List.mem_cons_self
        · exact List.mem_cons_of_mem _ (inductionHypothesis member)

/-- Entries with different text keys are all there after they were written in turn. -/
theorem mem_foldl_insert {fields : Entries}
    (texts : ∀ field ∈ fields, ∃ name, field.1 = .text name)
    (distinct : (fields.map Prod.fst).Nodup) (start : Entries) :
    ∀ field ∈ fields, field ∈ fields.foldl (fun entry field => entry.insert field.1 field.2)
      start := by
  have kept {name : String} {held : Value} {others : Entries}
      (texts : ∀ field ∈ others, ∃ name, field.1 = .text name)
      (apart : .text name ∉ others.map Prod.fst) {written : Entries}
      (member : (.text name, held) ∈ written) :
      (.text name, held) ∈ others.foldl (fun entry field => entry.insert field.1 field.2)
        written := by
    induction others generalizing written with
    | nil => exact member
    | cons field rest inductionHypothesis =>
        obtain ⟨other, key⟩ := texts field List.mem_cons_self
        simp only [List.map_cons, List.mem_cons, not_or, key, Value.text.injEq] at apart
        rw [List.foldl_cons, key]
        exact inductionHypothesis (fun field member => texts field (List.mem_cons_of_mem _ member))
          apart.2 (mem_insert_of_ne member apart.1)
  induction fields generalizing start with
  | nil => simp
  | cons field rest inductionHypothesis =>
      have others : ∀ field ∈ rest, ∃ name, field.1 = .text name :=
        fun field member => texts field (List.mem_cons_of_mem _ member)
      obtain ⟨name, key⟩ := texts field List.mem_cons_self
      obtain ⟨apart, distinct⟩ := List.nodup_cons.mp distinct
      intro other member
      rw [List.foldl_cons]
      rcases List.mem_cons.mp member with rfl | member
      · rcases other with ⟨_, held⟩
        obtain rfl : _ = Value.text name := key
        exact kept others apart (mem_insert_text _ _ _)
      · exact inductionHypothesis others distinct _ other member

end Entries

namespace Log

/-- A field that is added comes last, if it is not there yet. -/
theorem withDefault_cases (fields : Entries) (key value : Value) :
    (fields.valueOf? key).isSome ∧ withDefault fields key value = fields ∨
      fields.valueOf? key = none ∧ withDefault fields key value = fields ++ [(key, value)] := by
  rw [withDefault]
  split
  · exact .inl ⟨‹_›, rfl⟩
  · rename_i absent
    have absent : fields.valueOf? key = none := by simpa using absent
    exact .inr ⟨absent, Entries.insert_of_valueOf?_eq_none absent value⟩

theorem mem_withDefault_of_mem {fields : Entries} {entry : Value × Value} (member : entry ∈ fields)
    (key value : Value) : entry ∈ withDefault fields key value := by
  rcases withDefault_cases fields key value with ⟨-, same⟩ | ⟨-, longer⟩
  · rwa [same]
  · rw [longer]
    exact List.mem_append_left _ member

theorem mem_withContext_of_mem {fields : Entries} {entry : Value × Value} (member : entry ∈ fields)
    (context : Entries) : entry ∈ withContext context fields := by
  induction context generalizing fields with
  | nil => exact member
  | cons added rest inductionHypothesis =>
      exact inductionHypothesis (mem_withDefault_of_mem member _ _)

theorem nodup_withDefault {fields : Entries} (distinct : (fields.map Prod.fst).Nodup)
    (key value : Value) : ((withDefault fields key value).map Prod.fst).Nodup := by
  rcases withDefault_cases fields key value with ⟨-, same⟩ | ⟨absent, longer⟩
  · rwa [same]
  · rw [longer, List.map_append, List.nodup_append']
    refine ⟨distinct, List.nodup_singleton _, List.disjoint_singleton.mpr fun member => ?_⟩
    obtain ⟨entry, held, rfl⟩ := List.mem_map.mp member
    rw [Entries.valueOf?, Option.map_eq_none_iff, List.find?_eq_none] at absent
    exact absent entry held (Value.same_refl _)

theorem nodup_withContext {fields : Entries} (distinct : (fields.map Prod.fst).Nodup)
    (context : Entries) : ((withContext context fields).map Prod.fst).Nodup := by
  induction context generalizing fields with
  | nil => exact distinct
  | cons added rest inductionHypothesis =>
      exact inductionHypothesis (nodup_withDefault distinct _ _)

theorem get?_withDefault_isSome {fields : Entries} {name other : String} {value : Value} :
    ((withDefault fields (.text name) value).get? other).isSome ↔
      (fields.get? other).isSome ∨ other = name := by
  rcases withDefault_cases fields (.text name) value with ⟨there, same⟩ | ⟨-, longer⟩
  · rw [same]
    refine ⟨.inl, fun found => found.elim id ?_⟩
    rintro rfl
    exact there
  · rw [longer, Entries.get?_append, Option.isSome_or, Bool.or_eq_true]
    refine or_congr_right ?_
    by_cases same : other = name
    · simp [same, Entries.get?, Entries.valueOf?]
    · simp [same, Ne.symm same, Entries.get?, Entries.valueOf?, Value.same]

/-- What the context adds to more fields it adds to fewer fields too, if the keys of those are texts
in the end. -/
theorem mem_withContext {context few many : Entries}
    (texts : ∀ entry ∈ withContext context few, ∃ name, entry.1 = .text name)
    (more : ∀ name, (few.get? name).isSome → (many.get? name).isSome) :
    ∀ entry ∈ withContext context many, entry ∈ many ∨ entry ∈ withContext context few := by
  induction context generalizing few many with
  | nil => exact fun entry member => .inl member
  | cons added rest inductionHypothesis =>
      rcases added with ⟨key, value⟩
      obtain ⟨name, rfl⟩ : ∃ name, key = .text name := by
        rcases withDefault_cases few key value with ⟨there, -⟩ | ⟨-, longer⟩
        · obtain ⟨found, held⟩ := Option.isSome_iff_exists.mp there
          obtain ⟨entry, listed, -⟩ := Option.map_eq_some_iff.mp held
          obtain ⟨name, text⟩ := texts entry
            (mem_withContext_of_mem (List.mem_of_find?_eq_some listed) _)
          have same : entry.1.same key = true := by simpa using List.find?_some listed
          exact ⟨name, Value.text_same.mp (text ▸ same)⟩
        · exact texts (key, value) (mem_withContext_of_mem (by simp [longer]) rest)
      have still (other : String) : ((withDefault few (.text name) value).get? other).isSome →
          ((withDefault many (.text name) value).get? other).isSome := by
        simp only [get?_withDefault_isSome]
        exact Or.imp_left (more other)
      intro entry member
      rcases inductionHypothesis texts still entry member with old | new
      · rcases withDefault_cases many (.text name) value with ⟨-, same⟩ | ⟨absent, longer⟩
        · exact .inl (same ▸ old)
        · rcases List.mem_append.mp (longer ▸ old) with old | new
          · exact .inl old
          · obtain rfl := List.mem_singleton.mp new
            rcases withDefault_cases few (.text name) value with ⟨there, -⟩ | ⟨-, longer⟩
            · have found := more name there
              rw [Entries.get?, absent] at found
              contradiction
            · exact .inr (mem_withContext_of_mem (by simp [longer]) rest)
      · exact .inr new

theorem get?_ownFields_isSome {correlation? : Option String} {component name : String}
    {fields : Entries} : ((ownFields correlation? component fields).get? name).isSome ↔
      (fields.get? name).isSome ∨ name = "component" ∨
        correlation?.isSome ∧ name = "correlation_id" := by
  cases correlation? with
  | none => simp [ownFields, get?_withDefault_isSome]
  | some correlation =>
      by_cases same : name = "correlation_id"
      · subst same
        have written : ((ownFields (some correlation) component fields).get?
            "correlation_id").isSome :=
          Entries.get?_isSome_of_mem (Entries.mem_insert_text _ _ _)
        simp [written]
      · simp [ownFields, Entries.set, Entries.get?_insert_of_ne (Ne.symm same),
          get?_withDefault_isSome, same]

theorem nodup_ownFields (correlation? : Option String) (component : String) :
    ((ownFields correlation? component []).map Prod.fst).Nodup := by
  cases correlation? <;>
    simp [ownFields, withDefault, Entries.valueOf?, Entries.set, Entries.insert, Value.same]

theorem clashes_eq_false_iff {fields : Entries} : clashes fields = false ↔
    ∀ field ∈ fields, ∃ name, field.1 = .text name ∧ name ∉ reserved := by
  simp only [clashes, List.any_eq_false]
  refine forall₂_congr fun field _ => ?_
  rcases field with ⟨key, value⟩
  cases key <;> simp [Value.text?]

theorem Recordable.of_texts {fields : Entries}
    (texts : ∀ field ∈ fields, ∃ name, field.1 = .text name ∧ name ∉ reserved ∧
      ∃ text, Json.encode Json.Layout.spaced field.2 = .ok text) : Recordable fields := by
  constructor
  · rw [clashes_eq_false_iff]
    exact fun field member => (texts field member).imp fun _ shape => ⟨shape.1, shape.2.1⟩
  · intro field member
    obtain ⟨name, key, -, encoded⟩ := texts field member
    exact ⟨⟨name, key⟩, encoded⟩

theorem Operation.recordable_completion (seconds : Binary64) :
    Recordable [(.text "duration_seconds", .float seconds), (.text "success", .bool true)] := by
  refine .of_texts fun field member => ?_
  simp only [List.mem_cons, List.not_mem_nil, or_false] at member
  rcases member with rfl | rfl <;> exact ⟨_, rfl, by simp [reserved], _, rfl⟩

theorem clashes_of_recorded {component message : String} {severity : Severity} {session : Session}
    {fields : Entries} (own : clashes fields = false)
    (recorded : (Action.perform (record component severity message fields) session).1 = .ok ()) :
    clashes (completeFields session component fields) = false := by
  by_contra clash
  rw [Bool.not_eq_false] at clash
  simp only [record, own, Bool.false_eq_true, if_false, Action.perform_bind, Action.perform_get,
    route, perform_currentLogger, clash, if_true] at recorded
  contradiction

theorem encodes_of_recorded {component message : String} {severity : Severity} {session : Session}
    (recorded : (Action.perform (record component severity message []) session).1 = .ok ())
    (enabled : (loggerFor session).isEnabledFor severity.level = true) :
    Json.Encodes (completeFields session component []) := by
  have free := clashes_of_recorded rfl recorded
  have texts : ∀ entry ∈ completeFields session component [], ∃ name, entry.1 = .text name :=
    fun entry member => (clashes_eq_false_iff.mp free entry member).imp fun _ => And.left
  have distinct : ((completeFields session component []).map Prod.fst).Nodup :=
    nodup_withContext (nodup_ownFields _ _) _
  rw [perform_record rfl free, if_pos enabled] at recorded
  cases written : line (ensureLogger session).time (.int severity.level) (.text message)
      (completeFields session component []) with
  | error failure => simp [written] at recorded
  | ok text =>
      obtain ⟨tag, levels⟩ := exists_levelTag severity
      rw [line, free, levels] at written
      cases encoded : Json.encode Json.Layout.spaced (.mapping
          (parts (ensureLogger session).time (.text tag) (.text message)
            (completeFields session component []))) with
      | error failure => simp [encoded, Except.map] at written
      | ok encodedText =>
          intro entry member
          exact ⟨texts entry member, ((Json.exists_encode_mapping rfl).mp ⟨_, encoded⟩ entry
            (Entries.mem_foldl_insert texts distinct _ entry member)).2⟩

/-- Recording an entry changes nothing, or it makes a logger where there is none and writes files.
-/
theorem record_state (component message : String) (severity : Severity) (fields : Entries)
    (session : Session) :
    (Action.perform (record component severity message fields) session).2 = session ∨
      ∃ files, (Action.perform (record component severity message fields) session).2 =
        { ensureLogger session with files } := by
  by_cases own : clashes fields = true
  · simp only [record, own, if_true, Action.perform_bind]
    exact .inl rfl
  rw [Bool.not_eq_true] at own
  right
  by_cases complete : clashes (completeFields session component fields) = true
  · simp only [record, own, Bool.false_eq_true, if_false, Action.perform_bind, Action.perform_get,
      route, perform_currentLogger, complete, if_true]
    exact ⟨_, rfl⟩
  · rw [perform_record own (by simpa using complete)]
    split
    · split
      · split <;> exact ⟨_, rfl⟩
      · exact ⟨_, rfl⟩
    · exact ⟨_, rfl⟩

theorem loggerFor_record (component message : String) (severity : Severity) (fields : Entries)
    (session : Session) : loggerFor (Action.perform (record component severity message fields)
      session).2 = loggerFor session := by
  rcases record_state component message severity fields session with same | ⟨files, written⟩
  · rw [same]
  · rw [written]
    rcases session with ⟨_, _, _ | settings, _ | logger, _⟩ <;> rfl

/-- After an entry without fields, an entry of the same severity and component whose own fields can
be recorded does not fail, with the same correlation identifier or with another one. -/
theorem record_follows_correlated {component first message : String} {severity : Severity}
    {session later : Session} {fields : Entries}
    (recorded : (Action.perform (record component severity first []) session).1 = .ok ())
    (context : later.context = session.context)
    (correlated : session.correlation?.isSome → later.correlation?.isSome)
    (logger : loggerFor later = loggerFor session)
    (recordable : Recordable fields) (free : fields.get? "component" = none) :
    (Action.perform (record component severity message fields) later).1 = .ok () := by
  have own := recordable.ownFields later.correlation? component
  have before := clashes_of_recorded rfl recorded
  have origin : ∀ entry ∈ completeFields later component fields,
      entry ∈ ownFields later.correlation? component fields ∨
        entry ∈ completeFields session component [] := by
    rw [completeFields_eq, completeFields_eq, context]
    refine mem_withContext ?_ ?_
    · intro entry member
      exact (clashes_eq_false_iff.mp before entry member).imp fun _ => And.left
    · intro name
      simp only [get?_ownFields_isSome]
      exact Or.imp (by simp [Entries.get?, Entries.valueOf?])
        (Or.imp_right fun named => ⟨correlated named.1, named.2⟩)
  refine record_succeeds_of_complete message recordable.1 free ?_ ?_
  · rw [clashes_eq_false_iff]
    intro entry member
    rcases origin entry member with mine | there
    · exact clashes_eq_false_iff.mp own.1 entry mine
    · exact clashes_eq_false_iff.mp before entry there
  · intro enabled entry member
    rcases origin entry member with mine | there
    · exact own.2 entry mine
    · exact encodes_of_recorded recorded (logger ▸ enabled) entry there

/-- After an entry without fields, an entry of the same severity and component whose own fields can
be recorded does not fail. -/
theorem record_follows {component first message : String} {severity : Severity}
    {session later : Session} {fields : Entries}
    (recorded : (Action.perform (record component severity first []) session).1 = .ok ())
    (carried : later.carried = session.carried) (logger : loggerFor later = loggerFor session)
    (recordable : Recordable fields) (free : fields.get? "component" = none) :
    (Action.perform (record component severity message fields) later).1 = .ok () := by
  obtain ⟨correlation, context⟩ := Prod.mk.inj carried
  exact record_follows_correlated recorded context (by rw [correlation]; exact id) logger
    recordable free

end Log

end RecordQuery
