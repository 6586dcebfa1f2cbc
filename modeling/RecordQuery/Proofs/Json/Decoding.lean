import RecordQuery.Json.Decode
import RecordQuery.Proofs.Value.Proper

/-!
# What is read from JSON text

A value that is read from a text is proper, and the keys of a mapping that is read are texts: an
object with a name twice becomes a mapping that has it once.
-/

namespace RecordQuery

open Value

/-- A proper value; where it is a mapping, its keys are texts. -/
structure Json.Readable (value : Value) : Prop where
  proper : value.Proper
  keys : ∀ entries, value = .mapping entries → ∀ entry ∈ entries, ∃ name, entry.1 = .text name

namespace Json

namespace Readable

theorem simple {value : Value} (single : value.parts = []) : Readable value := by
  refine ⟨.simple single, ?_⟩
  rintro entries rfl entry member
  obtain rfl := List.map_eq_nil_iff.mp (List.append_eq_nil_iff.mp single).1
  contradiction

theorem list {items : List Value} (readable : ∀ item ∈ items, Readable item) :
    Readable (.list items) :=
  ⟨.list fun item member => (readable item member).proper, by rintro _ ⟨⟩⟩

theorem insert {entries : Entries} (readable : Readable (.mapping entries)) (name : String)
    {value : Value} (proper : value.Proper) :
    Readable (.mapping (entries.insert (.text name) value)) := by
  refine ⟨readable.proper.insert (.simple rfl) proper, ?_⟩
  rintro _ ⟨⟩ entry member
  rcases Entries.mem_insert member with old | ⟨-, key | ⟨old, there⟩⟩
  · exact readable.keys _ rfl entry old
  · exact ⟨name, key⟩
  · exact readable.keys _ rfl (entry.1, old) there

theorem ofList {pairs : List (Value × Value)}
    (texts : ∀ pair ∈ pairs, (∃ name, pair.1 = .text name) ∧ Readable pair.2) :
    Readable (.mapping (Entries.ofList pairs)) := by
  have into (entries : Entries) (readable : Readable (.mapping entries)) :
      Readable (.mapping (pairs.foldl
        (fun (entries : Entries) pair => entries.insert pair.1 pair.2) entries)) := by
    induction pairs generalizing entries with
    | nil => exact readable
    | cons pair rest inductionHypothesis =>
        obtain ⟨⟨⟨name, key⟩, value⟩, others⟩ := List.forall_mem_cons.mp texts
        refine inductionHypothesis others _ ?_
        dsimp only
        rw [key]
        exact readable.insert name value.proper
  exact into [] (.simple rfl)

end Readable

/-- A reading of a value with a property, if it succeeds. -/
def Reading.Gives {α : Type} (property : α → Prop) (reading : Reading α) : Prop :=
  ∀ found rest, reading = .ok (found, rest) → property found

namespace Reading.Gives

variable {α β : Type} {property : α → Prop} {other : β → Prop} {reading : Reading α}

theorem map {change : α → β} (gives : reading.Gives property)
    (changed : ∀ found, property found → other (change found)) :
    Gives other (reading.map fun (found, rest) => (change found, rest)) := by
  rintro _ rest read
  rcases reading with fault | ⟨found, after⟩
  · contradiction
  · obtain ⟨rfl, -⟩ := Prod.mk.inj (Except.ok.inj read)
    exact changed found (gives found after rfl)

end Reading.Gives

theorem gives_readNumber (negative : Bool) (text : List Char) :
    (readNumber negative text).Gives Readable := by
  intro value rest read
  rw [readNumber] at read
  split at read
  · contradiction
  · rw [readTail] at read
    dsimp only at read
    split at read
    · split at read
      · contradiction
      · obtain ⟨rfl, -⟩ := Prod.mk.inj (Except.ok.inj read)
        exact .simple rfl
    · obtain ⟨rfl, -⟩ := Prod.mk.inj (Except.ok.inj read)
      exact .simple rfl

theorem gives_readScalar (text : List Char) : (readScalar text).Gives Readable := by
  intro value rest read
  unfold readScalar at read
  split at read
  · rename_i name named found
    obtain ⟨rfl, -⟩ := Prod.mk.inj (Except.ok.inj read)
    have listed := List.mem_of_find?_eq_some found
    refine .simple ?_
    have plain : ∀ entry ∈ names, entry.2.parts = [] := by
      simp [names, parts]
    exact plain _ listed
  · split at read
    · exact gives_readNumber true _ value rest read
    · exact gives_readNumber false _ value rest read

/-- What is read with some fuel, if what is read with less fuel is readable. -/
structure ReadsReadable (fuel : Nat) : Prop where
  value : ∀ text, (readValue fuel text).Gives Readable
  items : ∀ text, (readItems fuel text).Gives fun items => ∀ item ∈ items, Readable item
  entries : ∀ text, (readEntries fuel text).Gives fun entries =>
    ∀ entry ∈ entries, (∃ name, entry.1 = .text name) ∧ Readable entry.2

theorem gives_text (reading : Reading String) :
    Reading.Gives Readable (reading.map fun (value, after) => (.text value, after)) :=
  Reading.Gives.map (fun _ _ _ => trivial) fun _ (_ : True) => .simple rfl

namespace ReadsReadable

variable {fuel : Nat}

theorem value_succ (reads : ReadsReadable fuel) (text : List Char) :
    (readValue (fuel + 1) text).Gives Readable := by
  unfold readValue
  split
  · exact gives_text _
  · split
    · rintro _ _ ⟨⟩
      exact .list (by simp)
    · exact (reads.items _).map fun _ readable => .list readable
  · split
    · rintro _ _ ⟨⟩
      exact .simple rfl
    · exact (reads.entries _).map fun _ readable => Readable.ofList readable
  · exact gives_readScalar _

theorem items_succ (reads : ReadsReadable fuel) (text : List Char) :
    (readItems (fuel + 1) text).Gives fun items => ∀ item ∈ items, Readable item := by
  unfold readItems
  rcases read : readValue fuel text with fault | ⟨item, after⟩
  · rintro _ _ ⟨⟩
  · have first := reads.value text item after read
    dsimp only
    split
    · rintro _ _ ⟨⟩
      exact List.forall_mem_singleton.mpr first
    · exact (reads.items _).map fun _ readable => List.forall_mem_cons.mpr ⟨first, readable⟩
    · rintro _ _ ⟨⟩

theorem entries_succ (reads : ReadsReadable fuel) (text : List Char) :
    (readEntries (fuel + 1) text).Gives fun entries =>
      ∀ entry ∈ entries, (∃ name, entry.1 = .text name) ∧ Readable entry.2 := by
  unfold readEntries
  split
  · rename_i rest
    rcases readText rest with fault | ⟨key, afterKey⟩
    · rintro _ _ ⟨⟩
    · dsimp only
      split
      · rename_i beforeValue _
        rcases read : readValue fuel (skipSpaces beforeValue) with fault | ⟨value, after⟩
        · rintro _ _ ⟨⟩
        · have first := reads.value _ value after read
          dsimp only
          split
          · rintro _ _ ⟨⟩
            exact List.forall_mem_singleton.mpr ⟨⟨key, rfl⟩, first⟩
          · exact (reads.entries _).map fun _ readable =>
              List.forall_mem_cons.mpr ⟨⟨⟨key, rfl⟩, first⟩, readable⟩
          · rintro _ _ ⟨⟩
      · rintro _ _ ⟨⟩
  · rintro _ _ ⟨⟩

end ReadsReadable

theorem readsReadable (fuel : Nat) : ReadsReadable fuel := by
  induction fuel with
  | zero =>
      constructor <;> · rintro _ _ _ ⟨⟩
  | succ fuel reads => exact ⟨reads.value_succ, reads.items_succ, reads.entries_succ⟩

/-- A value that a text holds is readable. -/
theorem readable_of_decode {text : String} {value : Value} (decoded : decode text = .ok value) :
    Readable value := by
  rw [decode] at decoded
  rcases read : readValue (2 * text.toList.length + 2) (skipSpaces text.toList) with
    fault | ⟨found, rest⟩
  · simp [read] at decoded
  · simp only [read] at decoded
    split at decoded
    · obtain rfl := Except.ok.inj decoded
      exact (readsReadable _).value _ found rest read
    · contradiction

end Json

end RecordQuery
