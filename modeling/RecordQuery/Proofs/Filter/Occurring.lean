import RecordQuery.Filter.Operators
import RecordQuery.Proofs.Matching.Literals

/-!
# Operators in akin filters

The same operators occur in akin filters, in their conditions and in those of their operands.
-/

namespace RecordQuery.Filter

open Matching

theorem occursIn_eq_any (deep : Bool) (operator : Value) (entries : Entries) :
    occursIn deep operator entries = entries.any fun entry =>
      occursUnder deep operator (Combinator.ofValue? entry.1).isSome entry.2 := by
  induction entries with
  | nil => rfl
  | cons entry rest inductionHypothesis => rw [occursIn, inductionHypothesis, List.any_cons]

def occursInOperand (deep : Bool) (operator : Value) : Value → Bool
  | .mapping entries => occursIn deep operator entries
  | _ => false

theorem occursInItems_eq_any (deep : Bool) (operator : Value) (items : List Value) :
    occursInItems deep operator items = items.any (occursInOperand deep operator) := by
  induction items with
  | nil => rfl
  | cons item rest inductionHypothesis =>
      cases item <;> simp [occursInItems, occursInOperand, inductionHypothesis]

theorem occurs_plain (deep : Bool) (operator : Value) {value : Value} (items : value.items? = none)
    (entries : value.entries? = none) :
    occursInOperand deep operator value = false ∧
      ∀ combined, occursUnder deep operator combined value = false := by
  cases value with
  | list | tuple | mapping => contradiction
  | _ => exact ⟨rfl, fun _ => rfl⟩

/-- The same operators occur in akin filters. -/
theorem occurs_congr (deep : Bool) (operator : Value) {left right : Value}
    (akin : Akin left right) :
    occursInOperand deep operator left = occursInOperand deep operator right ∧
      ∀ combined, occursUnder deep operator combined left =
        occursUnder deep operator combined right := by
  induction left using Value.induct generalizing right with
  | whole left inductionHypothesis =>
      have operands {lefts rights : List Value} (parts : ∀ item ∈ lefts, item ∈ left.parts)
          (items : List.Forall₂ Akin lefts rights) :
          occursInItems deep operator lefts = occursInItems deep operator rights := by
        rw [occursInItems_eq_any, occursInItems_eq_any]
        exact (Matched.of_forall₂ items).any_eq fun item member _ akin =>
          (inductionHypothesis item (parts item member) akin).1
      cases left with
      | list lefts =>
          obtain ⟨rights, rfl, items⟩ := akin.of_list
          have same := operands (fun item (member : item ∈ lefts) => member) items
          exact ⟨rfl, fun combined => by rw [occursUnder, occursUnder, same]⟩
      | tuple lefts =>
          obtain ⟨rights, rfl, items⟩ := akin.of_tuple
          have same := operands (fun item (member : item ∈ lefts) => member) items
          exact ⟨rfl, fun combined => by rw [occursUnder, occursUnder, same]⟩
      | mapping lefts =>
          obtain ⟨rights, rfl, -, entries⟩ := akin.of_mapping
          constructor
          · rw [occursInOperand, occursInOperand, occursIn_eq_any, occursIn_eq_any]
            refine entries.any_eq fun entry member other related => ?_
            rw [Combinator.ofValue?, Combinator.ofValue?, Value.text?_congr related.keys]
            exact (inductionHypothesis entry.2
              (Value.value_mem_parts member) related.values).2 _
          · intro combined
            rw [occursUnder, occursUnder, Entries.valueOf?, Entries.valueOf?, Option.isSome_map,
              Option.isSome_map, List.isSome_find?, List.isSome_find?]
            rw [entries.any_eq fun entry _ other related =>
              Value.same_congr_left related.keys operator]
      | _ =>
          obtain ⟨items, entries⟩ := Value.plain_congr akin.interchanges rfl rfl
          obtain ⟨inOperand, under⟩ := occurs_plain deep operator items entries
          exact ⟨inOperand.symm, fun combined => (under combined).symm⟩

/-- Of any listed operators the same ones occur in akin filters. -/
theorem occurring_congr (deep : Bool) (operators : List Value) {lefts rights : Entries}
    (akin : Akin (.mapping lefts) (.mapping rights)) :
    occurring deep operators lefts = occurring deep operators rights := by
  have same (operator : Value) : occursIn deep operator lefts = occursIn deep operator rights :=
    (occurs_congr deep operator akin).1
  simp only [occurring, same]

end RecordQuery.Filter
