import Mathlib.Data.Option.Basic
import RecordQuery.Value.Equality

/-!
# Entries after a write

A write under a key changes the entry of that key in place or adds one at the end; all other entries
stay.
-/

namespace RecordQuery

theorem Value.same_text {key : Value} {name : String} :
    key.same (.text name) = true ↔ key = .text name := by
  cases key with
  | text other => simp [Value.same]
  | float value => cases value <;> simp [Value.same, Value.point?]
  | _ => simp [Value.same, Value.point?]

theorem Value.same_of_text {name : String} {key : Value} :
    (Value.text name).same key = true ↔ key = .text name := by
  cases key with
  | text other => simp [Value.same, eq_comm (a := name)]
  | float value => cases value <;> simp [Value.same, Value.point?]
  | _ => simp [Value.same, Value.point?]

namespace Entries

theorem get?_cons (key value : Value) (rest : Entries) (name : String) :
    get? ((key, value) :: rest) name =
      if key.same (.text name) then some value else get? rest name := by
  simp only [get?, valueOf?, List.find?_cons]
  cases key.same (.text name) <;> rfl

/-- What is found in a mapping of one entry. -/
theorem get?_single (key : String) (value : Value) (name : String) :
    get? [(.text key, value)] name = if key = name then some value else none := by
  rw [get?_cons]
  by_cases named : key = name
  · rw [if_pos named, if_pos (Value.same_text.mpr (congrArg _ named))]
  · rw [if_neg named, if_neg (mt Value.same_text.mp (by simpa using named))]
    rfl

/-- What is found under a name after a write under some key. -/
theorem get?_insert (entries : Entries) (key value : Value) (name : String) :
    (entries.insert key value).get? name =
      if key.same (.text name) then some value else entries.get? name := by
  induction entries with
  | nil => rw [insert, get?_cons]
  | cons entry rest inductionHypothesis =>
      rcases entry with ⟨other, old⟩
      rw [insert]
      split
      · rename_i same
        rw [get?_cons, get?_cons]
        by_cases named : key = .text name
        · subst named
          rw [if_pos same, if_pos (Value.same_text.mpr rfl)]
        · have apart : ¬ other.same (.text name) = true := fun found =>
            named (Value.same_of_text.mp (Value.same_text.mp found ▸ same))
          rw [if_neg apart, if_neg apart, if_neg (mt Value.same_text.mp named)]
      · rename_i apart
        rw [get?_cons, get?_cons, inductionHypothesis]
        by_cases named : key = .text name
        · subst named
          rw [if_neg apart, if_pos (Value.same_text.mpr rfl), if_pos (Value.same_text.mpr rfl)]
        · rw [if_neg (mt Value.same_text.mp named), if_neg (mt Value.same_text.mp named)]

theorem get?_set (entries : Entries) (key : String) (value : Value) (name : String) :
    (entries.set key value).get? name = if key = name then some value else entries.get? name := by
  simp only [set, get?_insert, Value.same, beq_iff_eq]

theorem insert_of_valueOf?_eq_none {entries : Entries} {key : Value}
    (absent : entries.valueOf? key = none) (value : Value) :
    entries.insert key value = entries ++ [(key, value)] := by
  induction entries with
  | nil => rfl
  | cons entry rest inductionHypothesis =>
      rw [valueOf?, Option.map_eq_none_iff, List.find?_cons] at absent
      split at absent
      · contradiction
      · rename_i other
        rw [insert, other, if_neg (by simp), inductionHypothesis]
        · rfl
        · rw [valueOf?, absent, Option.map_none]

theorem get?_append (before after : Entries) (name : String) :
    get? (before ++ after) name = (before.get? name).or (after.get? name) := by
  simp [get?, valueOf?, List.find?_append, Option.map_or]

/-- An entry after a write was there before, but for the written value. -/
theorem mem_insert {entries : Entries} {key value : Value} {entry : Value × Value}
    (member : entry ∈ entries.insert key value) :
    entry ∈ entries ∨
      entry.2 = value ∧ (entry.1 = key ∨ ∃ old, (entry.1, old) ∈ entries) := by
  induction entries with
  | nil =>
      obtain rfl := List.mem_singleton.mp member
      exact .inr ⟨rfl, .inl rfl⟩
  | cons head rest inductionHypothesis =>
      rw [insert] at member
      split at member
      · rcases List.mem_cons.mp member with rfl | member
        · exact .inr ⟨rfl, .inr ⟨head.2, List.mem_cons_self⟩⟩
        · exact .inl (List.mem_cons_of_mem _ member)
      · rcases List.mem_cons.mp member with rfl | member
        · exact .inl List.mem_cons_self
        · rcases inductionHypothesis member with old | ⟨written, here | ⟨old, there⟩⟩
          · exact .inl (List.mem_cons_of_mem _ old)
          · exact .inr ⟨written, .inl here⟩
          · exact .inr ⟨written, .inr ⟨old, List.mem_cons_of_mem _ there⟩⟩

/-- An entry after a write under a text was there before, or it is the written one. -/
theorem mem_insert_text_cases {entries : Entries} {name : String} {value : Value}
    {entry : Value × Value} (member : entry ∈ entries.insert (.text name) value) :
    entry ∈ entries ∨ entry = (.text name, value) := by
  induction entries with
  | nil => exact .inr (List.mem_singleton.mp member)
  | cons head rest inductionHypothesis =>
      rw [insert] at member
      split at member
      · rename_i same
        rcases List.mem_cons.mp member with rfl | later
        · exact .inr (by rw [Value.same_text.mp same])
        · exact .inl (List.mem_cons_of_mem _ later)
      · rcases List.mem_cons.mp member with rfl | later
        · exact .inl List.mem_cons_self
        · exact (inductionHypothesis later).imp_left (List.mem_cons_of_mem _)

theorem insert_ne_nil (entries : Entries) (key value : Value) : entries.insert key value ≠ [] := by
  cases entries with
  | nil => simp [insert]
  | cons entry rest =>
      rw [insert]
      split <;> simp

theorem mem_insert_text (entries : Entries) (name : String) (value : Value) :
    (.text name, value) ∈ entries.insert (.text name) value := by
  induction entries with
  | nil => exact List.mem_cons_self
  | cons entry rest inductionHypothesis =>
      rw [insert]
      split
      · rename_i same
        rw [Value.same_text.mp same]
        exact List.mem_cons_self
      · exact List.mem_cons_of_mem _ inductionHypothesis

theorem get?_insert_of_ne {entries : Entries} {key name : String} (other : key ≠ name)
    (value : Value) : (entries.insert (.text key) value).get? name = entries.get? name := by
  rw [get?_insert, if_neg (by simpa [Value.same] using other)]

end Entries

end RecordQuery
