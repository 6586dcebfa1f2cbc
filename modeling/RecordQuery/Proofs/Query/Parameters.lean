import RecordQuery.Parameters
import RecordQuery.Proofs.Json.Reordering

/-!
# Parameters of equal queries

A query is sent as parameters, and only one of them is made from the filter. The parameters of
queries that differ in their filters alone are the same but for the text of that parameter, and
where one query cannot be sent, the other one cannot either.
-/

namespace RecordQuery

namespace Parameters

def sentFields (query : Entries) : Except Failure (Option Value) :=
  match present? query "fields" with
  | some fields => (joinFields fields).map fun text => some (.text text)
  | none => .ok none

/-- The number of records that are left out, if it is sent. -/
def sentSkip (query : Entries) : Except Failure (Option Value) :=
  match present? query "skip" with
  | some skip => (isPositive skip).map fun positive => if positive then some skip else none
  | none => .ok none

def afterFilter (fields? skip? : Option Value) (query : Entries) :
    Except Failure (List (String × String)) := do
  let fieldsPart ← part "fields" fields?
  let limitPart ← part "limit" (present? query "limit")
  let skipPart ← part "skip" skip?
  let sortPart ← part "sort" (present? query "sort")
  return fieldsPart ++ limitPart ++ skipPart ++ sortPart

theorem ofQuery_eq (query : Entries) : ofQuery query = (do
    let fields? ← sentFields query
    let skip? ← sentSkip query
    let filterPart ← part "query" (present? query "filter")
    let others ← afterFilter fields? skip? query
    return filterPart ++ others) := by
  rw [ofQuery, sentFields, sentSkip]
  simp only [afterFilter, bind_assoc, pure_bind, List.append_assoc]
  cases present? query "fields" <;> cases present? query "skip" <;> rfl

/-- Parameters with the same names and texts but for the text of the filter, or failures. -/
inductive Alike (related : String → String → Prop) :
    Except Failure (List (String × String)) → Except Failure (List (String × String)) → Prop where
  | refused (failure other : Failure) : Alike related (.error failure) (.error other)
  | sent {lefts rights : List (String × String)} :
      List.Forall₂ (fun left right => left.1 = right.1 ∧
        (left.2 = right.2 ∨ left.1 = "query" ∧ related left.2 right.2)) lefts rights →
      Alike related (.ok lefts) (.ok rights)

namespace Alike

variable {related : String → String → Prop} {left right : Except Failure (List (String × String))}

theorem bind {α : Type} (checks : Except Failure α)
    {first second : α → Except Failure (List (String × String))}
    (alike : ∀ value, Alike related (first value) (second value)) :
    Alike related (checks >>= first) (checks >>= second) := by
  cases checks with
  | error failure => exact .refused failure failure
  | ok value => exact alike value

theorem imp {other : String → String → Prop} (alike : Alike related left right)
    (implies : ∀ text again, related text again → other text again) : Alike other left right := by
  cases alike with
  | refused failure other => exact .refused failure other
  | sent pairs =>
      exact .sent (pairs.imp fun _ _ both =>
        ⟨both.1, both.2.imp_right fun filter => ⟨filter.1, implies _ _ filter.2⟩⟩)

theorem append (alike : Alike related left right)
    (others : Except Failure (List (String × String))) :
    Alike related (do return (← left) ++ (← others)) (do return (← right) ++ (← others)) := by
  cases alike with
  | refused failure other => exact .refused failure other
  | sent pairs =>
      refine .bind others fun rest => .sent (List.rel_append pairs ?_)
      exact List.forall₂_same.mpr fun parameter _ => ⟨rfl, .inl rfl⟩

end Alike

theorem ofQuery_alike {related : String → String → Prop} {left right : Entries}
    (same : ∀ name, name ≠ "filter" → left.get? name = right.get? name)
    (filters : Alike related (part "query" (present? left "filter"))
      (part "query" (present? right "filter"))) :
    Alike related (ofQuery left) (ofQuery right) := by
  have present (name : String) (other : name ≠ "filter") :
      present? left name = present? right name := by
    rw [present?, present?, same name other]
  have fields : sentFields left = sentFields right := by
    rw [sentFields, sentFields, present "fields" (by simp)]
  have skip : sentSkip left = sentSkip right := by
    rw [sentSkip, sentSkip, present "skip" (by simp)]
  have after (fields? skip? : Option Value) :
      afterFilter fields? skip? left = afterFilter fields? skip? right := by
    rw [afterFilter, afterFilter, present "limit" (by simp), present "sort" (by simp)]
  rw [ofQuery_eq, ofQuery_eq, fields, skip]
  refine .bind _ fun fields? => .bind _ fun skip? => ?_
  rw [after]
  exact filters.append _

theorem part_mapping (name : String) (entries : Entries) : part name (some (.mapping entries)) =
    (Json.encode Json.Layout.compact (.mapping entries)).map fun text =>
      [(name, String.ofList text)] := by
  rw [part, encodeValue]
  · cases Json.encode Json.Layout.compact (.mapping entries) <;> rfl
  · simp

/-- Equal filters are both left out, both refused or both sent. If they are identical but for the
order of entries, their texts are identical but for the order of members. -/
theorem part_filter_alike {left right : Entries} (leftProper : (Value.mapping left).Proper)
    (rightProper : (Value.mapping right).Proper)
    (same : (Value.mapping left).same (.mapping right) = true) :
    Alike (fun text other => (Value.mapping left).Rearranged (.mapping right) →
        Json.Reordered text.toList other.toList)
      (part "query" ((some (Value.mapping left)).filter Value.isTruthy))
      (part "query" ((some (Value.mapping right)).filter Value.isTruthy)) := by
  have both := Value.Interchanges.of_proper leftProper rightProper same
  have truthy := Value.isTruthy_congr both
  rw [Option.filter_some, Option.filter_some, ← truthy]
  cases (Value.mapping left).isTruthy with
  | false => exact .sent .nil
  | true =>
      rw [if_pos rfl, if_pos rfl, part_mapping, part_mapping]
      cases leftText : Json.encode Json.Layout.compact (.mapping left) with
      | error failure =>
          cases rightText : Json.encode Json.Layout.compact (.mapping right) with
          | error other => exact .refused failure other
          | ok other =>
              obtain ⟨text, written⟩ := Json.IsWritten.of_same both.forth ⟨other, rightText⟩
              exact absurd (written.symm.trans leftText) (by simp)
      | ok text =>
          obtain ⟨other, rightText⟩ := Json.IsWritten.of_same both.back ⟨text, leftText⟩
          rw [rightText]
          refine .sent (.cons ⟨rfl, .inr ⟨rfl, fun rearranged => ?_⟩⟩ .nil)
          simpa using Json.writtenAlike_of_rearranged rearranged text other leftText rightText

/-- Queries with equal filters and the same of everything else have the same parameters but for the
text of the filter. -/
theorem ofQuery_toEntries_alike {left right : Snapshot}
    (leftProper : (Value.mapping left.filter).Proper)
    (rightProper : (Value.mapping right.filter).Proper)
    (filters : (Value.mapping left.filter).same (.mapping right.filter) = true)
    (fields : left.fields = right.fields) (sort : left.sort = right.sort)
    (skip : left.skip = right.skip) (limit : left.limit = right.limit) :
    Alike (fun text other => (Value.mapping left.filter).Rearranged (.mapping right.filter) →
        Json.Reordered text.toList other.toList)
      (ofQuery left.toEntries) (ofQuery right.toEntries) := by
  refine ofQuery_alike (fun name other => ?_) ?_
  · simp [Snapshot.toEntries, Entries.get?, Entries.valueOf?, Value.same, fields, sort, skip, limit,
      List.find?_cons, Ne.symm other]
  · rw [present?, present?, Snapshot.get?_filter, Snapshot.get?_filter]
    exact part_filter_alike leftProper rightProper filters

end Parameters

end RecordQuery
