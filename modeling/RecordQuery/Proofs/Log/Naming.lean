import RecordQuery.Proofs.Log.Following
import RecordQuery.Proofs.Value.Proper

/-!
# Fields with names of their own

Where the names of fields are different texts, an entry holds under each name what was written last
under it: a field over the parts of every entry, the correlation identifier over a field, and a
field over what the context adds. Such fields stay so when others are added.
-/

namespace RecordQuery

open Value

namespace Entries

/-- Under each name stands what is written, or what was there before. -/
theorem get?_foldl_insert {fields : Entries} (different : Different (fields.map Prod.fst))
    (start : Entries) (name : String) :
    (fields.foldl (fun entry field => entry.insert field.1 field.2) start).get? name =
      (fields.get? name).or (start.get? name) := by
  induction fields generalizing start with
  | nil => rfl
  | cons field rest inductionHypothesis =>
      rcases field with ⟨key, value⟩
      rw [List.foldl_cons, inductionHypothesis (List.pairwise_cons.mp different).2, get?_insert,
        get?_cons]
      by_cases here : key = .text name
      · subst here
        have absent : get? rest name = none :=
          get?_eq_none_iff.mpr (key_ne_of_mem_tail different)
        simp [absent]
      · rw [if_neg (mt same_text.mp here), if_neg (mt same_text.mp here)]

theorem different_foldl_insert (fields : Entries) {start : Entries}
    (different : Different (start.map Prod.fst)) :
    Different ((fields.foldl (fun entry field => entry.insert field.1 field.2) start).map
      Prod.fst) := by
  induction fields generalizing start with
  | nil => exact different
  | cons field rest inductionHypothesis =>
      exact inductionHypothesis (different_insert different field.1 field.2)

/-- What holds of the keys of entries that are written and of those that are there holds of all. -/
theorem key_foldl_insert (holds : Value → Prop) {fields start : Entries}
    (written : ∀ field ∈ fields, holds field.1) (there : ∀ entry ∈ start, holds entry.1) :
    ∀ entry ∈ fields.foldl (fun entry field => entry.insert field.1 field.2) start,
      holds entry.1 := by
  induction fields generalizing start with
  | nil => exact there
  | cons field rest inductionHypothesis =>
      obtain ⟨first, others⟩ := List.forall_mem_cons.mp written
      refine inductionHypothesis others fun entry member => ?_
      rcases mem_insert member with old | ⟨-, key | ⟨old, member⟩⟩
      · exact there entry old
      · exact key ▸ first
      · exact there (entry.1, old) member

end Entries

namespace Log

/-- The names that no field has: those of the parts of every entry, and those that no call can
give. -/
def entryNames : List String := "timestamp" :: reserved

/-- Fields whose names are different, and none of them that of a part of every entry. -/
structure WellNamed (fields : Entries) : Prop where
  names : ∀ field ∈ fields, ∃ name, field.1 = .text name ∧ name ∉ entryNames
  different : Different (fields.map Prod.fst)

namespace WellNamed

variable {fields : Entries}

theorem nil : WellNamed [] := ⟨by simp, .nil⟩

theorem texts (named : WellNamed fields) : ∀ field ∈ fields, ∃ name, field.1 = .text name :=
  fun field member => (named.names field member).imp fun _ => And.left

theorem clashes (named : WellNamed fields) : clashes fields = false :=
  clashes_eq_false_iff.mpr fun field member => (named.names field member).imp
    fun _ own => ⟨own.1, fun listed => own.2 (List.mem_cons_of_mem _ listed)⟩

theorem get?_eq_none (named : WellNamed fields) {name : String} (listed : name ∈ entryNames) :
    fields.get? name = none := by
  rw [Entries.get?_eq_none_iff]
  intro field member same
  obtain ⟨other, key, free⟩ := named.names field member
  rw [key, Value.text.injEq] at same
  exact free (same ▸ listed)

theorem foldl_insert (named : WellNamed fields) {start : Entries} (started : WellNamed start) :
    WellNamed (fields.foldl (fun entry field => entry.insert field.1 field.2) start) where
  names := Entries.key_foldl_insert (fun key => ∃ name, key = .text name ∧ name ∉ entryNames)
    named.names started.names
  different := Entries.different_foldl_insert fields started.different

theorem insert (named : WellNamed fields) {name : String} (free : name ∉ entryNames)
    (value : Value) : WellNamed (fields.insert (.text name) value) := by
  have single : WellNamed [(.text name, value)] :=
    ⟨by simpa using free, List.pairwise_singleton _ _⟩
  exact single.foldl_insert named

theorem withDefault (named : WellNamed fields) {name : String} (free : name ∉ entryNames)
    (value : Value) : WellNamed (Log.withDefault fields (.text name) value) := by
  rw [Log.withDefault]
  split
  · exact named
  · exact named.insert free value

theorem withContext (named : WellNamed fields) {context : Entries} (added : WellNamed context) :
    WellNamed (Log.withContext context fields) := by
  obtain ⟨names, -⟩ := added
  induction context generalizing fields with
  | nil => exact named
  | cons entry rest inductionHypothesis =>
      obtain ⟨⟨name, key, free⟩, others⟩ := List.forall_mem_cons.mp names
      rw [Log.withContext, List.foldl_cons, key]
      exact inductionHypothesis (named.withDefault free entry.2) others

theorem completeFields (named : WellNamed fields) {session : Session}
    (context : WellNamed session.context) (component : String) :
    WellNamed (Log.completeFields session component fields) := by
  rw [completeFields_eq]
  refine withContext ?_ context
  have withComponent : WellNamed (Log.withDefault fields (.text "component") (.text component)) :=
    named.withDefault (by simp [entryNames, reserved]) _
  cases session.correlation? with
  | none => exact withComponent
  | some correlation => exact withComponent.insert (by simp [entryNames, reserved]) _

end WellNamed

theorem get?_withDefault_text (fields : Entries) (name : String) (value : Value) (other : String) :
    (withDefault fields (.text name) value).get? other =
      (fields.get? other).or (if name = other then some value else none) := by
  rcases withDefault_cases fields (.text name) value with ⟨there, same⟩ | ⟨-, longer⟩
  · rw [same]
    split
    · rename_i named
      obtain ⟨held, found⟩ := Option.isSome_iff_exists.mp there
      have known : fields.get? other = some held := named ▸ found
      rw [known]
      rfl
    · rw [Option.or_none]
  · rw [longer, Entries.get?_append, Entries.get?_single]

/-- The context adds what the fields do not hold. -/
theorem get?_withContext {context : Entries}
    (texts : ∀ entry ∈ context, ∃ name, entry.1 = .text name) (fields : Entries) (name : String) :
    (withContext context fields).get? name = (fields.get? name).or (context.get? name) := by
  induction context generalizing fields with
  | nil => exact (Option.or_none).symm
  | cons entry rest inductionHypothesis =>
      rcases entry with ⟨_, value⟩
      obtain ⟨⟨other, rfl⟩, others⟩ := List.forall_mem_cons.mp texts
      rw [withContext, List.foldl_cons]
      refine (inductionHypothesis others _).trans ?_
      rw [get?_withDefault_text, Entries.get?_cons, Option.or_assoc]
      by_cases same : other = name <;> simp [same, Value.same]

theorem get?_ownFields (correlation? : Option String) (component : String) (fields : Entries)
    (name : String) :
    (ownFields correlation? component fields).get? name =
      if name = "correlation_id" then (correlation?.map Value.text).or (fields.get? name)
      else (fields.get? name).or (if name = "component" then some (.text component) else none) := by
  cases correlation? with
  | none =>
      rw [ownFields, get?_withDefault_text]
      by_cases same : name = "correlation_id"
      · simp [same]
      · rw [if_neg same]
        simp only [eq_comm (a := name)]
  | some correlation =>
      rw [ownFields, Entries.get?_set, get?_withDefault_text]
      simp only [eq_comm (a := name)]
      rfl

end Log

end RecordQuery
