import RecordQuery.Proofs.Json.Decoding
import RecordQuery.Proofs.Json.RoundTrip
import RecordQuery.Proofs.Log.Following
import RecordQuery.Proofs.Settings.Merging
import RecordQuery.Settings.Loading

/-!
# Layers of settings

Loaded settings have three layers: variables of the environment, the file and the defaults. At
every path a variable that overrides the path comes first, then what the file holds there, and then,
unless the file holds a value above the path that is no mapping, the default.
-/

namespace RecordQuery.Settings

open RecordQuery.Action

def Override.parts (override : Override) : List String := Text.pathParts override.path

theorem parts_of_listed : ∀ override ∈ overrides,
    override.parts = [override.sectionName, override.valueName] := by
  intro override listed
  simp only [overrides, List.mem_cons, List.not_mem_nil, or_false] at listed
  rcases listed with rfl | rfl | rfl | rfl <;> cbv

/-- Nothing has changed that entries of the log carry, nor the environment. -/
structure Undisturbed (before after : Session) : Prop where
  context : after.context = before.context
  environment : after.environment = before.environment

theorem Undisturbed.trans {first second third : Session} (before : Undisturbed first second)
    (after : Undisturbed second third) : Undisturbed first third :=
  ⟨after.context.trans before.context, after.environment.trans before.environment⟩

theorem Undisturbed.environmentText? {before after : Session}
    (undisturbed : Undisturbed before after) :
    after.environmentText? = before.environmentText? := by
  funext name
  rw [Session.environmentText?, undisturbed.environment]
  rfl

theorem log_succeeds (severity : Log.Severity) (message : String) {fields : Entries}
    (recordable : Log.Recordable fields) (own : fields.get? "component" = none) {session : Session}
    (context : Log.Recordable session.context) :
    ∃ after, perform (log severity message fields) session = (.ok (), after) ∧
      Undisturbed session after := by
  have succeeded := Log.record_succeeds component message severity recordable own context
  have state := Log.record_state component message severity fields session
  rcases performed : perform (Log.record component severity message fields) session with
    ⟨result, after⟩
  rw [performed] at succeeded state
  refine ⟨after, performed.trans (congrArg (·, after) succeeded), ?_⟩
  rcases state with rfl | ⟨files, rfl⟩
  · exact ⟨rfl, rfl⟩
  · rcases session with ⟨_, _, _ | settings, _ | logger, _⟩ <;> exact ⟨rfl, rfl⟩

theorem log_return_succeeds {α : Type} (severity : Log.Severity) (message : String)
    {fields : Entries} (recordable : Log.Recordable fields)
    (own : fields.get? "component" = none) {session : Session}
    (context : Log.Recordable session.context) (result : α) :
    ∃ after, perform (do log severity message fields; return result : Action α) session =
      (.ok result, after) ∧ Undisturbed session after := by
  obtain ⟨after, logged, kept⟩ := log_succeeds severity message recordable own context
  exact ⟨after, by rw [perform_bind, logged]; rfl, kept⟩

/-- A path that no set variable overrides, and that does not lie below one that is overridden. -/
def Free (text? : String → Option String) (listed : List Override) (parts : List String) : Prop :=
  ∀ override ∈ listed, (text? override.variableName).isSome = true → ¬ override.parts <+: parts

structure Overridden (text? : String → Option String) (listed : List Override)
    (values changed : Entries) : Prop where
  below : ∀ override ∈ listed, ∀ text, text? override.variableName = some text →
    ∀ rest, getParts? (.mapping changed) (override.parts ++ rest) = getParts? (convert text) rest
  apart : ∀ parts, parts ≠ [] → (∀ override ∈ listed, parts ≠ [override.sectionName]) →
    Free text? listed parts → getParts? (.mapping changed) parts = getParts? (.mapping values) parts
  sections : ∀ name entries, values.get? name = some (.mapping entries) →
    ∃ entries, changed.get? name = some (.mapping entries)
  keys : changed.map Prod.fst = values.map Prod.fst

namespace Overridden

variable {text? : String → Option String} {override : Override} {listed : List Override}
  {values changed entries : Entries}

theorem nil : Overridden text? [] values values :=
  ⟨by simp, fun _ _ _ _ => rfl, fun _ entries held => ⟨entries, held⟩, rfl⟩

theorem skip (unset : text? override.variableName = none)
    (others : Overridden text? listed values changed) :
    Overridden text? (override :: listed) values changed := by
  refine ⟨?_, ?_, others.sections, others.keys⟩
  · intro other member text set
    rcases List.mem_cons.mp member with rfl | member
    · simp [unset] at set
    · exact others.below other member text set
  · intro parts nonempty notSection free
    exact others.apart parts nonempty (List.forall_mem_cons.mp notSection).2
      (List.forall_mem_cons.mp free).2

/-- A variable that is set is written into its section; the others do not touch its value. -/
theorem write {text : String} (set : text? override.variableName = some text)
    (paths : ∀ other ∈ override :: listed, other.parts = [other.sectionName, other.valueName])
    (distinct : override.parts ∉ listed.map Override.parts)
    (held : values.get? override.sectionName = some (.mapping entries))
    (others : Overridden text? listed
      (values.set override.sectionName (.mapping (entries.set override.valueName (convert text))))
      changed) :
    Overridden text? (override :: listed) values changed := by
  have own := paths override List.mem_cons_self
  refine ⟨?_, ?_, ?_, ?_⟩
  · intro other member otherText otherSet rest
    rcases List.mem_cons.mp member with rfl | member
    · obtain rfl := Option.some.inj (set.symm.trans otherSet)
      -- The value is there when the others start, and none of them overrides the same path.
      rw [others.apart, own, getParts?_write_below]
      · simp [own]
      · simp [own]
      · rintro later laterMember - ⟨tail, same⟩
        rw [own, paths later (List.mem_cons_of_mem _ laterMember)] at same
        refine distinct (List.mem_map.mpr ⟨later, laterMember, ?_⟩)
        rw [own, paths later (List.mem_cons_of_mem _ laterMember)]
        simp only [List.cons_append, List.cons.injEq] at same
        rw [same.1, same.2.1]
    · exact others.below other member otherText otherSet rest
  · intro parts nonempty notSection free
    obtain ⟨notOwn, notOthers⟩ := List.forall_mem_cons.mp notSection
    obtain ⟨freeOwn, freeOthers⟩ := List.forall_mem_cons.mp free
    rw [others.apart parts nonempty notOthers freeOthers]
    refine getParts?_write_apart held _ _ nonempty notOwn ?_
    rw [← own]
    exact freeOwn (by simp [set])
  · intro name below found
    refine (em (override.sectionName = name)).elim (fun same => ?_) fun apart => ?_
    · exact others.sections name _ (by rw [Entries.get?_set, if_pos same])
    · exact others.sections name below (by rw [Entries.get?_set, if_neg apart, found])
  · rw [others.keys, Entries.set, Entries.keys_insert, if_pos]
    change (values.get? override.sectionName).isSome = true
    rw [held]
    rfl

end Overridden

theorem encodes_convert (text : String) :
    (convert text).entries? = none ∧
      ∃ encoded, Json.encode Json.Layout.spaced (convert text) = .ok encoded := by
  have plain : (convert text).items? = none ∧ (convert text).entries? = none := by
    rw [convert]
    split
    · exact ⟨rfl, rfl⟩
    · split
      · exact ⟨rfl, rfl⟩
      · split
        · exact ⟨rfl, rfl⟩
        · split <;> exact ⟨rfl, rfl⟩
  exact ⟨plain.2, (Json.exists_encode_plain plain.1 plain.2).mpr (isShown_convert text)⟩

theorem recordable_override (override : Override) (text : String) :
    Log.Recordable [(.text "env_var", .text override.variableName),
      (.text "config_path", .text override.path), (.text "value", convert text)] := by
  obtain ⟨encoded, encodes⟩ := (encodes_convert text).2
  refine .of_texts ?_
  simp only [List.forall_mem_cons, List.not_mem_nil, false_implies, implies_true, and_true]
  exact ⟨⟨"env_var", rfl, by decide, _, rfl⟩, ⟨"config_path", rfl, by decide, _, rfl⟩,
    "value", rfl, by decide, encoded, encodes⟩

theorem applyOverrides_succeeds {listed : List Override}
    (paths : ∀ override ∈ listed, override.parts = [override.sectionName, override.valueName])
    (distinct : (listed.map Override.parts).Nodup) {values : Entries}
    (sections : ∀ override ∈ listed,
      ∃ entries, values.get? override.sectionName = some (.mapping entries))
    {session : Session} (context : Log.Recordable session.context) :
    ∃ changed after, perform (applyOverrides values listed) session = (.ok changed, after) ∧
      Overridden session.environmentText? listed values changed ∧ Undisturbed session after := by
  induction listed generalizing values session with
  | nil => exact ⟨values, session, rfl, .nil, rfl, rfl⟩
  | cons override rest inductionHypothesis =>
      obtain ⟨notIn, others⟩ := List.nodup_cons.mp distinct
      have pathsRest := (List.forall_mem_cons.mp paths).2
      obtain ⟨⟨entries, held⟩, sectionsRest⟩ := List.forall_mem_cons.mp sections
      simp only [applyOverrides, applyOverridesWith, perform_bind, perform_get]
      cases set : session.environmentText? override.variableName with
      | none =>
          obtain ⟨changed, after, performed, overridden, undisturbed⟩ :=
            inductionHypothesis pathsRest others sectionsRest context
          exact ⟨changed, after, performed, overridden.skip set, undisturbed⟩
      | some text =>
          let written :=
            values.set override.sectionName
              (.mapping (Entries.set entries override.valueName (convert text)))
          have sectionsWritten : ∀ other ∈ rest,
              ∃ entries, written.get? other.sectionName = some (.mapping entries) := by
            intro other member
            simp only [written, Entries.get?_set]
            split
            · exact ⟨_, rfl⟩
            · exact sectionsRest other member
          obtain ⟨middle, logged, kept⟩ :=
            log_succeeds .debug "env_override_applied" (recordable_override override text)
              (by simp [Entries.get?, Entries.valueOf?, Value.same]) context
          obtain ⟨changed, after, performed, overridden, undisturbed⟩ :=
            inductionHypothesis pathsRest others sectionsWritten (kept.context ▸ context)
          refine ⟨changed, after, ?_, .write set paths notIn held ?_, kept.trans undisturbed⟩
          · simp only [perform_bind, perform_lift, writeInto_held held, logged]
            exact performed
          · rwa [kept.environmentText?] at overridden

/-- The entries that a file holds: none if there is no such file or its text is malformed. A text of
anything but an object, or with an integer of too many digits, holds no entries at all. -/
def fileEntries? (session : Session) (file : String) : Option Entries :=
  match session.files.get? (plainPath file) with
  | none => some []
  | some text =>
      match Json.decode text with
      | .ok (.mapping entries) => some entries
      | .error .malformed => some []
      | _ => none

/-- A file holds the entries of the object that its text spells, or it holds none. -/
theorem fileEntries?_cases {session : Session} {file : String} {entries : Entries}
    (held : fileEntries? session file = some entries) :
    (session.files.get? (plainPath file) = none ∧ entries = []) ∨
      ∃ text, session.files.get? (plainPath file) = some text ∧
        (Json.decode text = .ok (.mapping entries) ∨
          Json.decode text = .error .malformed ∧ entries = []) := by
  rw [fileEntries?] at held
  split at held
  · exact .inl ⟨‹_›, (Option.some.inj held).symm⟩
  · refine .inr ⟨_, ‹_›, ?_⟩
    split at held
    · exact .inl (Option.some.inj held ▸ ‹_›)
    · exact .inr ⟨‹_›, (Option.some.inj held).symm⟩
    · contradiction

theorem readable_of_fileEntries? {session : Session} {file : String} {entries : Entries}
    (held : fileEntries? session file = some entries) : Json.Readable (.mapping entries) := by
  obtain ⟨-, rfl⟩ | ⟨text, -, decoded | ⟨-, rfl⟩⟩ := fileEntries?_cases held
  · exact .simple rfl
  · exact Json.readable_of_decode decoded
  · exact .simple rfl

def TextKeys (entries : Entries) : Prop := ∀ entry ∈ entries, ∃ name, entry.1 = .text name

theorem TextKeys.merge {base upper : Entries} (baseKeys : TextKeys base)
    (overKeys : TextKeys upper) : TextKeys (merge base upper) := by
  induction upper generalizing base with
  | nil => exact baseKeys
  | cons entry rest inductionHypothesis =>
      obtain ⟨⟨name, key⟩, others⟩ := List.forall_mem_cons.mp overKeys
      rw [Settings.merge]
      refine inductionHypothesis (fun held member => ?_) others
      rcases Entries.mem_insert member with old | ⟨-, same | ⟨old, there⟩⟩
      · exact baseKeys held old
      · exact ⟨name, same.trans key⟩
      · exact baseKeys (held.1, old) there

theorem TextKeys.of_keys {entries others : Entries} (keys : TextKeys entries)
    (same : others.map Prod.fst = entries.map Prod.fst) : TextKeys others := by
  intro entry member
  have held : entry.1 ∈ entries.map Prod.fst := same ▸ List.mem_map_of_mem member
  obtain ⟨other, otherMember, key⟩ := List.mem_map.mp held
  exact key ▸ keys other otherMember

theorem encodes_sections {values : Entries} (keys : TextKeys values) :
    ∃ encoded, Json.encode Json.Layout.spaced (sections values) = .ok encoded := by
  have items : ∃ parts, Json.encodeItems Json.Layout.spaced (values.map Prod.fst) = .ok parts := by
    induction values with
    | nil => exact ⟨[], rfl⟩
    | cons entry rest inductionHypothesis =>
        obtain ⟨⟨name, key⟩, others⟩ := List.forall_mem_cons.mp keys
        obtain ⟨parts, encoded⟩ := inductionHypothesis others
        rw [List.map_cons, Json.encodeItems, key, encoded]
        exact ⟨_, rfl⟩
  obtain ⟨parts, encoded⟩ := items
  rw [sections, Json.encode, encoded]
  exact ⟨_, rfl⟩

/-- Loading a file that holds entries gives these over the defaults. -/
theorem loadFile_succeeds {session : Session} {file : String} {entries : Entries}
    (held : fileEntries? session file = some entries) (context : Log.Recordable session.context) :
    ∃ after, perform (loadFile file) session = (.ok (merge defaults entries), after) ∧
      Undisturbed session after := by
  have keys := (readable_of_fileEntries? held).keys entries rfl
  simp only [loadFile, loadFileWith, Bool.false_eq_true, if_false, perform_bind, perform_get]
  obtain ⟨missing, rfl⟩ | ⟨text, present, decoded | ⟨malformed, rfl⟩⟩ := fileEntries?_cases held
  · simp only [missing]
    split
    · refine log_return_succeeds .error "config_file_load_error" (.of_texts ?_) ?_ context defaults
      · simp [Json.encode, Log.reserved]
      · simp [Entries.get?, Entries.valueOf?, Value.same]
    · refine log_return_succeeds .debug "config_file_not_found" (.of_texts ?_) ?_ context defaults
      · simp [Json.encode, Log.reserved]
      · simp [Entries.get?, Entries.valueOf?, Value.same]
  · simp only [present, decoded]
    obtain ⟨encoded, encodes⟩ := encodes_sections keys
    refine log_return_succeeds .info "config_file_loaded" (.of_texts ?_) ?_ context _
    · simp [Json.encode, encodes, Log.reserved]
    · simp [Entries.get?, Entries.valueOf?, Value.same]
  · simp only [present, malformed]
    refine log_return_succeeds .error "config_file_load_error" (.of_texts ?_) ?_ context defaults
    · simp [Json.encode, Log.reserved]
    · simp [Entries.get?, Entries.valueOf?, Value.same]

theorem textKeys_defaults : TextKeys defaults := by
  simp [TextKeys, defaults]

/-- The sections that a file holds are mappings. -/
def Sectioned (entries : Entries) : Prop :=
  ∀ override ∈ overrides, ∀ value, entries.get? override.sectionName = some value →
    ∃ members, value = .mapping members

theorem sections_merge {entries : Entries} (readable : Json.Readable (.mapping entries))
    (sectioned : Sectioned entries) : ∀ override ∈ overrides, ∃ members,
      (merge defaults entries).get? override.sectionName = some (.mapping members) := by
  intro override listed
  have default :
      ∃ members, Entries.get? defaults override.sectionName = some (.mapping members) := by
    simp only [overrides, List.mem_cons, List.not_mem_nil, or_false] at listed
    rcases listed with rfl | rfl | rfl | rfl <;> exact ⟨_, by cbv⟩
  obtain ⟨below, held⟩ := default
  rw [get?_merge defaults entries readable.proper.different, held]
  cases found : entries.get? override.sectionName with
  | none => exact ⟨below, rfl⟩
  | some value =>
      obtain ⟨members, rfl⟩ := sectioned override listed value found
      exact ⟨merge below members, rfl⟩

theorem load_eq (file : String) : load file = (do
    let chosen := chooseFile file (← get)
    let fromFile ← loadFile chosen
    let values ← applyOverrides fromFile overrides
    log .info "unified_config_loaded"
      [(.text "config_file", .text chosen), (.text "config_sections", sections values)]
    return { file := chosen, values }) := rfl

/-- Loading succeeds where the file holds entries whose sections are mappings. -/
theorem load_succeeds {session : Session} {file : String} {entries : Entries}
    (held : fileEntries? session (chooseFile file session) = some entries)
    (sectioned : Sectioned entries) (context : Log.Recordable session.context) :
    ∃ settings after, perform (load file) session = (.ok settings, after) ∧
      Overridden session.environmentText? overrides (merge defaults entries) settings.values := by
  have readable := readable_of_fileEntries? held
  obtain ⟨middle, loaded, kept⟩ := loadFile_succeeds held context
  obtain ⟨changed, late, applied, overridden, undisturbed⟩ := applyOverrides_succeeds
    parts_of_listed (by decide) (sections_merge readable sectioned) (kept.context ▸ context)
  have keys : TextKeys changed :=
    (textKeys_defaults.merge (readable.keys entries rfl)).of_keys overridden.keys
  obtain ⟨encoded, encodes⟩ := encodes_sections keys
  have recordable : Log.Recordable [(.text "config_file", .text (chooseFile file session)),
      (.text "config_sections", sections changed)] :=
    .of_texts (by simp [Json.encode, encodes, Log.reserved])
  obtain ⟨after, logged, -⟩ := log_succeeds .info "unified_config_loaded" recordable
    (by simp [Entries.get?, Entries.valueOf?, Value.same])
    (undisturbed.context ▸ kept.context ▸ context)
  refine ⟨⟨chooseFile file session, changed⟩, after, ?_, kept.environmentText? ▸ overridden⟩
  rw [load_eq]
  simp only [perform_bind, perform_get, loaded, applied, logged]
  rfl

/-- The file holds a value above a path that is no mapping. -/
def HoldsAbove (file : Entries) (parts : List String) : Prop :=
  ∃ front rest above, parts = front ++ rest ∧ rest ≠ [] ∧
    getParts? (.mapping file) front = some above ∧ above.entries? = none

/-- The file says nothing about a path. -/
def Inherits (file : Entries) (parts : List String) : Prop :=
  getParts? (.mapping file) parts = none ∧ ¬ HoldsAbove file parts

structure Layered (text? : String → Option String) (file : Entries)
    (found : List String → Option Value) : Prop where
  overridden : ∀ override ∈ overrides, ∀ text, text? override.variableName = some text →
    found override.parts = some (convert text)
  below : ∀ override ∈ overrides, (text? override.variableName).isSome = true →
    ∀ rest, rest ≠ [] → found (override.parts ++ rest) = none
  held : ∀ parts, parts ≠ [] → Free text? overrides parts → ∀ value,
    getParts? (.mapping file) parts = some value → value.entries? = none → found parts = some value
  default : ∀ parts, parts ≠ [] → Free text? overrides parts → Inherits file parts → ∀ value,
    getParts? (.mapping defaults) parts = some value → value.entries? = none →
      found parts = some value
  /-- A mapping of the file or, where the file says nothing, of the defaults is a mapping whose
  members are what is found below. -/
  object : ∀ parts, parts ≠ [] → Free text? overrides parts →
    ((∃ members, getParts? (.mapping file) parts = some (.mapping members)) ∨
      Inherits file parts ∧
        ∃ members, getParts? (.mapping defaults) parts = some (.mapping members)) →
    ∃ members : Entries, found parts = some (.mapping members) ∧
      ∀ name, members.get? name = found (parts ++ [name])
  absent : ∀ parts, parts ≠ [] → Free text? overrides parts →
    getParts? (.mapping file) parts = none →
      (Inherits file parts → getParts? (.mapping defaults) parts = none) → found parts = none

theorem getParts?_merge_defaults {file : Entries} (readable : Json.Readable (.mapping file))
    (parts : List String) :
    getParts? (.mapping (merge defaults file)) parts =
      match getParts? (.mapping file) parts with
      | some value => some (mergeValue (getParts? (.mapping defaults) parts) value)
      | none =>
          if blocks (.mapping file) parts then none else getParts? (.mapping defaults) parts :=
  getParts?_mergeValue (some (.mapping defaults)) readable.proper parts

theorem getParts?_merge_of_inherits {file : Entries} (readable : Json.Readable (.mapping file))
    {parts : List String} (inherits : Inherits file parts) :
    getParts? (.mapping (merge defaults file)) parts = getParts? (.mapping defaults) parts := by
  rw [getParts?_merge_defaults readable, inherits.1]
  exact if_neg fun blocked => inherits.2 (blocks_iff.mp blocked)

section Layers

variable {text? : String → Option String} {file values : Entries}
  (readable : Json.Readable (.mapping file)) (sectioned : Sectioned file)
  (overridden : Overridden text? overrides (merge defaults file) values)

include readable sectioned overridden

theorem found_of_plain {parts : List String} (nonempty : parts ≠ [])
    (free : Free text? overrides parts)
    (plain : ∀ members,
      getParts? (.mapping (merge defaults file)) parts ≠ some (.mapping members)) :
    getParts? (.mapping values) parts = getParts? (.mapping (merge defaults file)) parts := by
  refine overridden.apart parts nonempty ?_ free
  rintro override listed rfl
  obtain ⟨members, held⟩ := sections_merge readable sectioned override listed
  exact plain members (by rw [getParts?, held]; rfl)

theorem found_of_value {parts : List String} (nonempty : parts ≠ [])
    (free : Free text? overrides parts) {value : Value}
    (merged : getParts? (.mapping (merge defaults file)) parts = some value)
    (plain : value.entries? = none) : getParts? (.mapping values) parts = some value := by
  rw [found_of_plain readable sectioned overridden nonempty free, merged]
  rintro members same
  obtain rfl := Option.some.inj (merged.symm.trans same)
  contradiction

theorem found_of_mapping {parts : List String} (nonempty : parts ≠ [])
    (free : Free text? overrides parts) {members : Entries}
    (merged : getParts? (.mapping (merge defaults file)) parts = some (.mapping members)) :
    ∃ members, getParts? (.mapping values) parts = some (.mapping members) := by
  -- A section is free, though values below it may be overridden: it only stays a mapping.
  by_cases inSection : ∃ override ∈ overrides, parts = [override.sectionName]
  · obtain ⟨override, listed, rfl⟩ := inSection
    obtain ⟨before, held⟩ := sections_merge readable sectioned override listed
    obtain ⟨after, found⟩ := overridden.sections override.sectionName before held
    exact ⟨after, by rw [getParts?, found]; rfl⟩
  · refine ⟨members, ?_⟩
    rw [overridden.apart parts nonempty _ free, merged]
    exact fun override listed same => inSection ⟨override, listed, same⟩

theorem layered_of_overridden : Layered text? file (getParts? (.mapping values)) := by
  refine ⟨?_, ?_, ?_, ?_, ?_, ?_⟩
  · intro override listed text set
    simpa [getParts?] using overridden.below override listed text set []
  · intro override listed set rest nonempty
    obtain ⟨text, set⟩ := Option.isSome_iff_exists.mp set
    rw [overridden.below override listed text set]
    exact getParts?_plain (encodes_convert text).1 nonempty
  · intro parts nonempty free value held plain
    have merged : getParts? (.mapping (merge defaults file)) parts = some value := by
      rw [getParts?_merge_defaults readable, held]
      exact congrArg some (mergeValue_plain plain)
    exact found_of_value readable sectioned overridden nonempty free merged plain
  · intro parts nonempty free inherits value default plain
    have merged := (getParts?_merge_of_inherits readable inherits).trans default
    exact found_of_value readable sectioned overridden nonempty free merged plain
  · intro parts nonempty free object
    obtain ⟨merged, held⟩ : ∃ merged,
        getParts? (.mapping (merge defaults file)) parts = some (.mapping merged) := by
      rcases object with ⟨members, held⟩ | ⟨inherits, members, default⟩
      · obtain ⟨merged, same⟩ :=
          exists_mergeValue_mapping (getParts? (.mapping defaults) parts) members
        refine ⟨merged, ?_⟩
        rw [getParts?_merge_defaults readable, held]
        exact congrArg some same
      · exact ⟨members, (getParts?_merge_of_inherits readable inherits).trans default⟩
    obtain ⟨members, found⟩ := found_of_mapping readable sectioned overridden nonempty free held
    refine ⟨members, found, fun name => ?_⟩
    rw [getParts?_append, found]
    simp [getParts?]
  · intro parts nonempty free missing without
    have merged : getParts? (.mapping (merge defaults file)) parts = none := by
      rw [getParts?_merge_defaults readable, missing]
      dsimp only
      split
      · rfl
      · rename_i unblocked
        exact without ⟨missing, fun above => unblocked (blocks_iff.mpr above)⟩
    rw [found_of_plain readable sectioned overridden nonempty free, merged]
    simp [merged]

end Layers

/-- Loading settings succeeds unless the file is refused, and what is found at every path follows
the layers: variables of the environment, the file, the defaults. -/
theorem loaded_settings_are_layered {session : Session} {file : String} {entries : Entries}
    (held : fileEntries? session (chooseFile file session) = some entries)
    (sectioned : Sectioned entries) (context : Log.Recordable session.context) :
    ∃ settings after found, perform (load file) session = (.ok settings, after) ∧
      (∀ path default, settings.valueAt path default =
        (found (Text.pathParts path)).getD default) ∧
      Layered session.environmentText? entries found := by
  obtain ⟨settings, after, loaded, overridden⟩ := load_succeeds held sectioned context
  exact ⟨settings, after, getParts? (.mapping settings.values), loaded, fun _ _ => rfl,
    layered_of_overridden (readable_of_fileEntries? held) sectioned overridden⟩

/-- A session with a file and one variable that is set. -/
def layeredSession : Session :=
  { Session.start "" with
    environment := [("LOG_LEVEL", "10")]
    files := [("query_config.json",
      "\x7b\"logging\": \x7b\"external_logs_dir\": null\x7d, \"other\": 5\x7d")] }

def layeredEntries : Entries :=
  [(.text "logging", .mapping [(.text "external_logs_dir", .null)]), (.text "other", .int 5)]

/-- The only variable that is set is that of the level. -/
theorem free_layeredSession {parts : List String} (apart : ¬ ["logging", "level"] <+: parts) :
    Free layeredSession.environmentText? overrides parts := by
  intro override listed set
  rw [parts_of_listed override listed]
  simp only [overrides, List.mem_cons, List.not_mem_nil, or_false] at listed
  rcases listed with rfl | rfl | rfl | rfl
  · contradiction
  · contradiction
  · exact apart
  · contradiction

theorem small_file_is_layered : ∃ settings after,
    perform (load "") layeredSession = (.ok settings, after) ∧ ∀ default,
      settings.valueAt "logging.level" default = .int 10 ∧
      settings.valueAt "logging.level.name" default = default ∧
      settings.valueAt "logging.external_logs_dir" default = .null ∧
      settings.valueAt "query.max_polygon_points" default = .int 3 ∧
      settings.valueAt "other.name" default = default := by
  have held : fileEntries? layeredSession (chooseFile "" layeredSession) = some layeredEntries := by
    cbv
  have sectioned : Sectioned layeredEntries := by
    intro override listed value found
    have query : layeredEntries.get? "query" = none := by cbv
    have logging : layeredEntries.get? "logging" =
        some (.mapping [(.text "external_logs_dir", .null)]) := by cbv
    simp only [overrides, List.mem_cons, List.not_mem_nil, or_false] at listed
    rcases listed with rfl | rfl | rfl | rfl
    · simp [query] at found
    · simp [query] at found
    · exact ⟨_, (Option.some.inj (logging.symm.trans found)).symm⟩
    · exact ⟨_, (Option.some.inj (logging.symm.trans found)).symm⟩
  obtain ⟨settings, after, found, loaded, lookup, layered⟩ :=
    loaded_settings_are_layered held sectioned (.of_texts (by simp [layeredSession, Session.start]))
  have level : (⟨"LOG_LEVEL", "logging", "level"⟩ : Override) ∈ overrides := by simp [overrides]
  have parts : (⟨"LOG_LEVEL", "logging", "level"⟩ : Override).parts = ["logging", "level"] :=
    parts_of_listed _ level
  have text : layeredSession.environmentText? "LOG_LEVEL" = some "10" := rfl
  have overridden : found ["logging", "level"] = some (.int 10) := by
    rw [← parts, layered.overridden _ level "10" text]
    cbv
  have below : found ["logging", "level", "name"] = none := by
    have none := layered.below _ level (by rw [text]; rfl) ["name"] (by simp)
    rwa [parts] at none
  have own : found ["logging", "external_logs_dir"] = some .null :=
    layered.held _ (by simp) (free_layeredSession (by decide)) .null (by cbv) rfl
  have default : found ["query", "max_polygon_points"] = some (.int 3) := by
    have inherits : Inherits layeredEntries ["query", "max_polygon_points"] := by
      refine ⟨by cbv, fun above => ?_⟩
      have blocked := blocks_iff.mpr above
      have unblocked :
          blocks (.mapping layeredEntries) ["query", "max_polygon_points"] = false := by
        cbv
      exact Bool.false_ne_true (unblocked.symm.trans blocked)
    exact layered.default _ (by simp) (free_layeredSession (by decide)) inherits _ (by cbv) rfl
  have absent : found ["other", "name"] = none := by
    refine layered.absent _ (by simp) (free_layeredSession (by decide)) (by cbv) fun _ => by cbv
  refine ⟨settings, after, loaded, fun value => ?_⟩
  have parts : Text.pathParts "logging.level" = ["logging", "level"] ∧
      Text.pathParts "logging.level.name" = ["logging", "level", "name"] ∧
      Text.pathParts "logging.external_logs_dir" = ["logging", "external_logs_dir"] ∧
      Text.pathParts "query.max_polygon_points" = ["query", "max_polygon_points"] ∧
      Text.pathParts "other.name" = ["other", "name"] := by
    refine ⟨?_, ?_, ?_, ?_, ?_⟩ <;> cbv
  simp [lookup, parts, overridden, below, own, default, absent]

/-- A file with an integer of too many digits is not read as empty: it stops loading. -/
theorem load_of_oversized {session : Session} {file text : String}
    (present : session.files.get? (plainPath (chooseFile file session)) = some text)
    (oversized : Json.decode text = .error .oversized) :
    (perform (load file) session).1 = .error .invalidValue := by
  simp only [load, loadWith, loadFileWith, Bool.false_eq_true, if_false, perform_bind, perform_get,
    present, oversized]
  rfl

/-- One more digit than a numeral may have. -/
def manyOnes : List Char := List.replicate (Numeral.maxDigits + 1) '1'

theorem isNumeral_manyOnes : Json.IsNumeral manyOnes := by
  rw [manyOnes, List.replicate_succ]
  refine ⟨List.cons_ne_nil _ _, fun digit member => ?_, fun zero => ?_⟩
  · rw [← List.replicate_succ] at member
    rw [List.eq_of_mem_replicate member]
    rfl
  · rw [List.head?_cons] at zero
    exact absurd (Option.some.inj zero) (by decide)

def longNumberSession : Session :=
  { Session.start "" with
    files := [("query_config.json",
      String.ofList ('\x7b' :: (Json.encodeText "a".toList ++ ':' :: (manyOnes ++ ['\x7d']))))] }

theorem long_number_stops_loading :
    (perform (load "") longNumberSession).1 = .error .invalidValue := by
  have chosen : plainPath (chooseFile "" longNumberSession) = "query_config.json" := by
    have usual : chooseFile "" longNumberSession = "query_config.json" := rfl
    rw [usual]
    cbv
  have long : Numeral.maxDigits < manyOnes.length := by
    rw [manyOnes, List.length_replicate]
    exact Nat.lt_succ_self _
  have refused := Json.decode_of_long isNumeral_manyOnes long "a"
  refine load_of_oversized ?_ refused
  rw [chosen]
  rfl

end RecordQuery.Settings
