import RecordQuery.Proofs.Value.Proper
import RecordQuery.Settings.Values

/-!
# Paths through merged settings

What a path leads to in settings that were merged is decided by the first of three facts: what the
overriding settings hold there, whether they hold a value above it that is no mapping, and what the
base holds there. A value that is written into a section is found there, with nothing below it, and
all other paths lead to what they led to before.
-/

namespace RecordQuery

open Value

namespace Entries

theorem get?_eq_none_of_different {name : String} {value : Value} {rest : Entries}
    (different : Different (((.text name, value) :: rest).map Prod.fst)) :
    get? rest name = none :=
  get?_eq_none_iff.mpr (key_ne_of_mem_tail different)

end Entries

namespace Settings

theorem get?_merge (base upper : Entries) (different : Different (upper.map Prod.fst))
    (name : String) :
    (merge base upper).get? name =
      match upper.get? name with
      | some value => some (mergeValue (base.get? name) value)
      | none => base.get? name := by
  induction upper generalizing base with
  | nil => rfl
  | cons entry rest inductionHypothesis =>
      rcases entry with ⟨key, value⟩
      rw [merge, inductionHypothesis _ different.of_cons, Entries.get?_cons, Entries.get?_insert]
      by_cases same : key.same (.text name) = true
      · obtain rfl := same_text.mp same
        rw [Entries.get?_eq_none_of_different different, if_pos same, if_pos same]
        rfl
      · rw [if_neg same, if_neg same]

theorem getParts?_plain {value : Value} (plain : value.entries? = none) {parts : List String}
    (nonempty : parts ≠ []) : getParts? value parts = none := by
  cases parts with
  | nil => contradiction
  | cons part rest =>
      cases value with
      | mapping => contradiction
      | _ => rfl

/-- Some value above the end of a path is no mapping. -/
def blocks : Value → List String → Bool
  | _, [] => false
  | .mapping entries, part :: rest =>
      match Entries.get? entries part with
      | some value => blocks value rest
      | none => false
  | _, _ :: _ => true

theorem getParts?_append (value : Value) (front rest : List String) :
    getParts? value (front ++ rest) = (getParts? value front).bind (getParts? · rest) := by
  induction front generalizing value with
  | nil => rfl
  | cons part more inductionHypothesis =>
      cases value with
      | mapping entries =>
          simp only [List.cons_append, getParts?, inductionHypothesis, Option.bind_assoc]
      | _ => rfl

theorem blocks_iff {value : Value} {parts : List String} :
    blocks value parts = true ↔ ∃ front rest above, parts = front ++ rest ∧ rest ≠ [] ∧
      getParts? value front = some above ∧ above.entries? = none := by
  induction parts generalizing value with
  | nil =>
      constructor
      · simp [blocks]
      · rintro ⟨front, rest, _, split, nonempty, -⟩
        exact absurd (List.append_eq_nil_iff.mp split.symm).2 nonempty
  | cons part more inductionHypothesis =>
      cases value with
      | mapping entries =>
          constructor
          · intro blocked
            rw [blocks] at blocked
            cases found : Entries.get? entries part with
            | none => simp [found] at blocked
            | some next =>
                rw [found] at blocked
                obtain ⟨front, rest, above, rfl, nonempty, reached, plain⟩ :=
                  inductionHypothesis.mp blocked
                have below : getParts? (.mapping entries) (part :: front) = some above := by
                  rw [getParts?, found]
                  exact reached
                exact ⟨part :: front, rest, above, rfl, nonempty, below, plain⟩
          · rintro ⟨front, rest, above, split, nonempty, reached, plain⟩
            cases front with
            | nil =>
                obtain rfl := Option.some.inj reached
                contradiction
            | cons other front =>
                obtain ⟨rfl, rfl⟩ := List.cons.inj split
                obtain ⟨next, found, reached⟩ := Option.bind_eq_some_iff.mp reached
                rw [blocks, found]
                exact inductionHypothesis.mpr ⟨front, rest, above, rfl, nonempty, reached, plain⟩
      | _ => exact ⟨fun _ => ⟨[], _, _, rfl, by simp, rfl, rfl⟩, fun _ => rfl⟩

theorem mergeValue_plain {base? : Option Value} {value : Value} (plain : value.entries? = none) :
    mergeValue base? value = value := by
  cases value with
  | mapping => contradiction
  | _ => rfl

theorem exists_mergeValue_mapping (base? : Option Value) (entries : Entries) :
    ∃ merged, mergeValue base? (.mapping entries) = .mapping merged := by
  rcases base? with _ | base
  · exact ⟨entries, rfl⟩
  · cases base <;> exact ⟨_, rfl⟩

theorem mergeValue_none (value : Value) : mergeValue none value = value := by
  cases value <;> rfl

theorem bind_getParts?_cons (base? : Option Value) (part : String) (rest : List String) :
    base?.bind (getParts? · (part :: rest)) =
      (base?.bind (getParts? · [part])).bind (getParts? · rest) := by
  rw [Option.bind_assoc]
  exact congrArg base?.bind (funext fun base => getParts?_append base [part] rest)

/-- One step into a mapping that was merged over another value. -/
theorem getParts?_mergeValue_cons {entries : Entries} (different : Different (entries.map Prod.fst))
    (base? : Option Value) (part : String) (rest : List String) :
    getParts? (mergeValue base? (.mapping entries)) (part :: rest) =
      (match entries.get? part with
        | some value => some (mergeValue (base?.bind (getParts? · [part])) value)
        | none => base?.bind (getParts? · [part])).bind (getParts? · rest) := by
  cases base? with
  | none =>
      rw [mergeValue_none, getParts?]
      cases entries.get? part <;> simp [mergeValue_none]
  | some base =>
      cases base with
      | mapping below =>
          simp only [mergeValue, getParts?, get?_merge below entries different, Option.bind_some]
          cases entries.get? part <;> simp
      | _ =>
          simp only [mergeValue, getParts?, Option.bind_some]
          cases entries.get? part <;> simp [mergeValue_none]

/-- What a path leads to in a value that was merged over another one. -/
theorem getParts?_mergeValue (base? : Option Value) {upper : Value} (proper : upper.Proper)
    (parts : List String) :
    getParts? (mergeValue base? upper) parts =
      match getParts? upper parts with
      | some value => some (mergeValue (base?.bind (getParts? · parts)) value)
      | none => if blocks upper parts then none else base?.bind (getParts? · parts) := by
  induction parts generalizing base? upper with
  | nil => simp [getParts?]
  | cons part rest inductionHypothesis =>
      cases upper with
      | mapping entries =>
          have reached : getParts? (.mapping entries) (part :: rest) =
              (Entries.get? entries part).bind (getParts? · rest) := rfl
          rw [getParts?_mergeValue_cons proper.different, bind_getParts?_cons base? part rest,
            reached, blocks]
          cases found : Entries.get? entries part with
          | none => rfl
          | some value =>
              have member := (Entries.get?_eq_some_iff proper.different).mp found
              exact inductionHypothesis _ (proper.value member)
      | _ => simp [getParts?, mergeValue, blocks]

/-- What a path leads to after a write under a key. -/
theorem getParts?_set_cons (values : Entries) (key : String) (value : Value) (part : String)
    (rest : List String) :
    getParts? (.mapping (values.set key value)) (part :: rest) =
      if key = part then getParts? value rest else getParts? (.mapping values) (part :: rest) := by
  rw [getParts?, Entries.get?_set]
  split <;> rfl

section Writing

variable {values entries : Entries} {sectionName : String}
  (held : values.get? sectionName = some (.mapping entries))

include held

theorem writeInto_held (name : String) (value : Value) :
    writeInto values sectionName name value =
      .ok (values.set sectionName (.mapping (Entries.set entries name value))) := by
  rw [writeInto, held]

/-- A write into a section decides what lies under the name, and leaves all but the section as it
was. -/
theorem getParts?_write_apart (name : String) (value : Value) {parts : List String}
    (nonempty : parts ≠ []) (notSection : parts ≠ [sectionName])
    (apart : ¬ [sectionName, name] <+: parts) :
    getParts? (.mapping (values.set sectionName (.mapping (Entries.set entries name value))))
        parts =
      getParts? (.mapping values) parts := by
  match parts with
  | [other] =>
      rw [getParts?_set_cons, if_neg fun same => notSection (by rw [same])]
  | part :: other :: rest =>
      rw [getParts?_set_cons]
      split
      · rename_i same
        subst same
        have differ : name ≠ other := by
          rintro rfl
          exact apart ⟨rest, rfl⟩
        have before : getParts? (.mapping values) (sectionName :: other :: rest) =
            (values.get? sectionName).bind (getParts? · (other :: rest)) := rfl
        rw [getParts?_set_cons, if_neg differ, before, held]
        rfl
      · rfl

end Writing

theorem getParts?_write_below (values entries : Entries) (sectionName name : String) (value : Value)
    (rest : List String) :
    getParts? (.mapping (values.set sectionName (.mapping (Entries.set entries name value))))
        ([sectionName, name] ++ rest) =
      getParts? value rest := by
  rw [List.cons_append, List.cons_append, getParts?_set_cons, if_pos rfl, getParts?_set_cons,
    if_pos rfl, List.nil_append]

end Settings

end RecordQuery
