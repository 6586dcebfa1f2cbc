import RecordQuery.Proofs.Filter.Occurring

/-!
# Reported operators

The check of a filter reports those names of a list that are operators in use: keys of a mapping
under a key that is no combinator. The deep check finds them in every filter that lists under
combinators lead to, the shallow one in the filter itself.
-/

namespace RecordQuery.Filter

/-- A filter in a list under a combinator. -/
def IsOperand (tree operand : Entries) : Prop :=
  ∃ key value items, (key, value) ∈ tree ∧ (Combinator.ofValue? key).isSome = true ∧
    value.items? = some items ∧ .mapping operand ∈ items

/-- The filters that lists under combinators lead to, step by step. -/
inductive Reaches (root : Entries) : Entries → Prop where
  | root : Reaches root root
  | operand {tree operand : Entries} :
      Reaches root tree → IsOperand tree operand → Reaches root operand

/-- An operator is a key of a mapping under a key that is no combinator. -/
def Uses (tree : Entries) (name : String) : Prop :=
  ∃ key conditions argument, (key, .mapping conditions) ∈ tree ∧ Combinator.ofValue? key = none ∧
    (.text name, argument) ∈ conditions

/-- The names that are reported for a filter, in the order of the list. -/
def report (deep : Bool) (names : List String) (filter : Entries) : List String :=
  names.filter fun name => occursIn deep (.text name) filter

theorem occurring_texts_eq (deep : Bool) (names : List String) (filter : Entries) :
    occurring deep (names.map .text) filter = .ok ((report deep names filter).map .text) := by
  have keys : (names.map Value.text).all Value.isKey = true := by simp [Value.isKey]
  rw [occurring, if_pos keys, List.filter_map]
  rfl

variable {deep : Bool} {name : String} {names : List String} {filter : Entries}

theorem mem_report : name ∈ report deep names filter ↔
    name ∈ names ∧ occursIn deep (.text name) filter = true := List.mem_filter

theorem isSome_valueOf?_text {conditions : Entries} :
    (Entries.valueOf? conditions (.text name)).isSome = true ↔
      ∃ argument, (.text name, argument) ∈ conditions := by
  rw [Entries.valueOf?, Option.isSome_map, List.find?_isSome]
  constructor
  · rintro ⟨⟨key, argument⟩, member, same⟩
    obtain rfl := Value.same_text.mp same
    exact ⟨argument, member⟩
  · rintro ⟨argument, member⟩
    exact ⟨_, member, Value.same_refl _⟩

theorem occursUnder_eq_true {operator value : Value} {combined : Bool} :
    occursUnder deep operator combined value = true ↔
      (combined = false ∧ ∃ conditions, value = .mapping conditions ∧
        (Entries.valueOf? conditions operator).isSome = true) ∨
      combined = true ∧ deep = true ∧ ∃ items, value.items? = some items ∧
        ∃ operand, .mapping operand ∈ items ∧ occursIn deep operator operand = true := by
  have listed (items : List Value) : occursInItems deep operator items = true ↔
      ∃ operand, .mapping operand ∈ items ∧ occursIn deep operator operand = true := by
    rw [occursInItems_eq_any, List.any_eq_true]
    constructor
    · rintro ⟨item, member, occurs⟩
      cases item with
      | mapping operand => exact ⟨operand, member, occurs⟩
      | _ => contradiction
    · rintro ⟨operand, member, occurs⟩
      exact ⟨_, member, occurs⟩
  cases value with
  | list items | tuple items => simp [occursUnder, Value.items?, listed, and_assoc]
  | mapping conditions => simp [occursUnder, Value.items?]
  | _ => simp [occursUnder, Value.items?]

/-- An operator occurs in a filter if the filter uses it or, for a deep check, an operand of it
holds an occurrence. -/
theorem occursIn_iff : occursIn deep (.text name) filter = true ↔ Uses filter name ∨
    deep = true ∧ ∃ operand, IsOperand filter operand ∧
      occursIn deep (.text name) operand = true := by
  rw [occursIn_eq_any, List.any_eq_true]
  constructor
  · rintro ⟨⟨key, value⟩, member, occurs⟩
    rcases occursUnder_eq_true.mp occurs with
      ⟨plain, conditions, rfl, used⟩ | ⟨combined, looks, items, held, operand, listed, inside⟩
    · obtain ⟨argument, written⟩ := isSome_valueOf?_text.mp used
      exact .inl ⟨key, conditions, argument, member, by simpa using plain, written⟩
    · exact .inr ⟨looks, operand, ⟨key, value, items, member, combined, held, listed⟩, inside⟩
  · rintro (⟨key, conditions, argument, member, plain, written⟩ |
      ⟨looks, operand, ⟨key, value, items, member, combined, held, listed⟩, inside⟩)
    · exact ⟨_, member, occursUnder_eq_true.mpr (.inl ⟨by simp [plain], conditions, rfl,
        isSome_valueOf?_text.mpr ⟨argument, written⟩⟩)⟩
    · exact ⟨_, member, occursUnder_eq_true.mpr
        (.inr ⟨combined, looks, items, held, operand, listed, inside⟩)⟩

theorem Reaches.of_operand {tree operand : Entries} (step : IsOperand filter operand)
    (reaches : Reaches operand tree) : Reaches filter tree := by
  induction reaches with
  | root => exact .operand .root step
  | operand _ next inductionHypothesis => exact .operand inductionHypothesis next

theorem operandInduction {motive : Entries → Prop}
    (whole : ∀ filter, (∀ operand, IsOperand filter operand → motive operand) → motive filter)
    (filter : Entries) : motive filter := by
  -- An operand is a part of a part, so the claim is carried for values as filters and as lists.
  have all : (∀ tree, Value.mapping filter = .mapping tree → motive tree) ∧
      ∀ items, (Value.mapping filter).items? = some items →
        ∀ operand, .mapping operand ∈ items → motive operand := by
    induction Value.mapping filter using Value.induct with
    | whole value inductionHypothesis =>
        constructor
        · rintro tree rfl
          refine whole tree fun operand step => ?_
          obtain ⟨key, value, items, member, -, held, listed⟩ := step
          exact (inductionHypothesis value (Value.value_mem_parts member)).2 items held operand
            listed
        · intro items held operand listed
          exact (inductionHypothesis _ (Value.mem_parts held listed)).1 operand rfl
  exact all.1 filter rfl

theorem occursIn_of_reaches {tree : Entries} (reaches : Reaches filter tree)
    (occurs : occursIn true (.text name) tree = true) :
    occursIn true (.text name) filter = true := by
  induction reaches with
  | root => exact occurs
  | operand _ step inductionHypothesis =>
      exact inductionHypothesis (occursIn_iff.mpr (.inr ⟨rfl, _, step, occurs⟩))

/-- The deep check finds what is used in the filters that are reached. -/
theorem occursIn_deep_iff : occursIn true (.text name) filter = true ↔
    ∃ tree, Reaches filter tree ∧ Uses tree name := by
  constructor
  · induction filter using operandInduction with
    | whole filter inductionHypothesis =>
        intro occurs
        rcases occursIn_iff.mp occurs with used | ⟨-, operand, step, inside⟩
        · exact ⟨filter, .root, used⟩
        · obtain ⟨tree, reaches, used⟩ := inductionHypothesis operand step inside
          exact ⟨tree, reaches.of_operand step, used⟩
  · rintro ⟨tree, reaches, used⟩
    exact occursIn_of_reaches reaches (occursIn_iff.mpr (.inl used))

theorem occursIn_shallow_iff :
    occursIn false (.text name) filter = true ↔ Uses filter name := by
  rw [occursIn_iff]
  simp

theorem mem_report_deep : name ∈ report true names filter ↔
    name ∈ names ∧ ∃ tree, Reaches filter tree ∧ Uses tree name := by
  rw [mem_report, occursIn_deep_iff]

theorem mem_report_shallow : name ∈ report false names filter ↔
    name ∈ names ∧ Uses filter name := by
  rw [mem_report, occursIn_shallow_iff]

theorem report_shallow_subset : report false names filter ⊆ report true names filter := by
  intro name member
  obtain ⟨listed, used⟩ := mem_report_shallow.mp member
  exact mem_report_deep.mpr ⟨listed, filter, .root, used⟩

theorem contains_report (listed : name ∈ names) :
    (report deep names filter).contains name = occursIn deep (.text name) filter := by
  rw [Bool.eq_iff_iff, List.contains_iff_mem, mem_report]
  exact and_iff_right listed

theorem not_uses_of_combined
    (combined : ∀ entry ∈ filter, (Combinator.ofValue? entry.1).isSome = true) :
    ¬ Uses filter name := by
  rintro ⟨key, conditions, argument, member, plain, -⟩
  simpa [plain] using combined _ member

/-- The shallow check reports nothing for a filter of combinators. -/
theorem report_shallow_of_combined
    (combined : ∀ entry ∈ filter, (Combinator.ofValue? entry.1).isSome = true) :
    report false names filter = [] :=
  List.eq_nil_iff_forall_not_mem.mpr fun _ member =>
    not_uses_of_combined combined (mem_report_shallow.mp member).2

theorem mem_report_of_combined
    (combined : ∀ entry ∈ filter, (Combinator.ofValue? entry.1).isSome = true) :
    name ∈ report true names filter ↔
      ∃ operand, IsOperand filter operand ∧ name ∈ report true names operand := by
  rw [mem_report, occursIn_iff]
  constructor
  · rintro ⟨listed, used | ⟨-, operand, step, inside⟩⟩
    · exact absurd used (not_uses_of_combined combined)
    · exact ⟨operand, step, mem_report.mpr ⟨listed, inside⟩⟩
  · rintro ⟨operand, step, member⟩
    obtain ⟨listed, inside⟩ := mem_report.mp member
    exact ⟨listed, .inr ⟨rfl, operand, step, inside⟩⟩

end RecordQuery.Filter
