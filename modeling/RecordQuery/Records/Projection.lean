import RecordQuery.Argument

/-!
Cutting records down to listed fields.

The cut happens in the record itself: a failure leaves what was cut before it. A record that is a
list is cut by its items, which count as positions in the list as it then is.
-/

namespace RecordQuery.Records

/-- A record after an operation, with the failure that stopped it, if any. -/
structure Changed (α : Type) where
  result : α
  failure? : Option Failure

def deletePosition? (length : Nat) (index : Value) : Except Failure Nat :=
  let number? : Option Int :=
    match index with
    | .int number => some number
    | .bool truth => some (if truth then 1 else 0)
    | _ => none
  match number? with
  | none => .error .mismatch
  | some number =>
      if 0 ≤ number ∧ number < length then .ok number.toNat
      else if number < 0 ∧ 0 ≤ number + length then .ok (number + length).toNat
      else .error .outOfRange

def deleteAll (items : List Value) : List Value → Changed (List Value)
  | [] => ⟨items, none⟩
  | index :: rest =>
      match deletePosition? items.length index with
      | .ok place => deleteAll (items.eraseIdx place) rest
      | .error failure => ⟨items, some failure⟩

def unwanted? (keep members : List Value) : Except Failure (List Value) :=
  if members.all Value.isKey then .ok (members.filter fun member => !member.isIn keep)
  else .error .mismatch

def cut (keep : List Value) (record : Value) : Changed Value :=
  match record with
  | .mapping entries => ⟨.mapping (entries.filter fun entry => entry.1.isIn keep), none⟩
  | .list items =>
      match unwanted? keep items with
      | .ok dropped =>
          let changed := deleteAll items dropped
          ⟨.list changed.result, changed.failure?⟩
      | .error failure => ⟨record, some failure⟩
  | _ =>
      match Argument.members? record with
      | none => ⟨record, some .mismatch⟩
      | some members =>
          match unwanted? keep members with
          | .ok [] => ⟨record, none⟩
          | .ok _ => ⟨record, some .mismatch⟩
          | .error failure => ⟨record, some failure⟩

def cutAll (keep : List Value) : List Value → Changed (List Value)
  | [] => ⟨[], none⟩
  | record :: rest =>
      let changed := cut keep record
      match changed.failure? with
      | some failure => ⟨changed.result :: rest, some failure⟩
      | none =>
          let others := cutAll keep rest
          ⟨changed.result :: others.result, others.failure?⟩

/-- Records cut down to fields; without any fields they stay whole. -/
def project (keep : List Value) (records : List Value) : Changed (List Value) :=
  if keep.isEmpty then ⟨records, none⟩ else cutAll keep records

end RecordQuery.Records
