import RecordQuery.Proofs.Tree.Edits

/-!
# The operators of an operation

An operation on a field writes or clears operators of its own, the same ones whatever its arguments
are. The exception is a distance: an operation that is given none leaves `$maxDistance` alone.
-/

namespace RecordQuery

open FilterNode

def Edit.target : Edit → Value
  | .write operator _ => operator
  | .clear operator => .text operator.key

namespace FieldOperation

def operators : FieldOperation → List FieldOperator
  | .condition _ _ => []
  | .equalTo _ => [.equals]
  | .notEqualTo _ => [.notEquals]
  | .contains _ => [.isIn]
  | .notContainedIn _ => [.notIn]
  | .containsAll _ => [.all]
  | .greaterThan _ => [.greaterThan]
  | .greaterThanOrEqualTo _ => [.greaterOrEqual]
  | .lessThan _ => [.lessThan]
  | .lessThanOrEqualTo _ => [.lessOrEqual]
  | .exists _ => [.exists]
  | .mod _ _ => [.mod]
  | .matches _ _ => [.regex, .regexOptions]
  | .near _ _ => [.nearSphere, .maxDistance]
  | .withinBox _ _ => [.within]
  | .withinPolygon _ => [.within]
  | .size _ => [.size]

/-- Whether an operation is given a distance that is not zero. -/
def SetsDistance : FieldOperation → Prop
  | .near _ maxDistance =>
      ∃ distance, Argument.number maxDistance "max_distance" = .ok distance ∧
        distance.isTruthy = true
  | _ => False

def keysOf (operators : List FieldOperator) : List Value :=
  operators.map fun operator => .text operator.key

/-- Edits that are about operators in turn. -/
def Writes (operators : List FieldOperator) (edits : List Edit) : Prop :=
  edits.map Edit.target = keysOf operators

/-- Edits of the operators of an operation, where a distance may be missing. -/
def Targets (operation : FieldOperation) (edits : List Edit) : Prop :=
  ∀ key, key ∈ edits.map Edit.target ↔
    ∃ operator ∈ operation.operators, key = .text operator.key ∧
      (operator = .maxDistance → operation.SetsDistance)

/-- Outside of distances, an operation writes or clears each of its operators. -/
theorem targets_of_writes {operation : FieldOperation} {edits : List Edit}
    (writes : Writes operation.operators edits)
    (apart : FieldOperator.maxDistance ∉ operation.operators) : operation.Targets edits := by
  intro key
  rw [writes, keysOf, List.mem_map]
  apply exists_congr
  intro operator
  constructor
  · rintro ⟨member, rfl⟩
    refine ⟨member, rfl, ?_⟩
    rintro rfl
    exact absurd member apart
  · rintro ⟨member, rfl, -⟩
    exact ⟨member, rfl⟩

def WritesPoint (maxDistance : Value) (edits : List Edit) : Prop :=
  ∃ point distance, edits = .put .nearSphere point ::
      (if distance.isTruthy then [.put .maxDistance distance] else []) ∧
    (maxDistance = .null ∧ distance = .null ∨
      Argument.number maxDistance "max_distance" = .ok distance)

theorem writesPoint_of_nearEdits {coordinate maxDistance : Value} {edits : List Edit}
    (written : nearEdits coordinate maxDistance = .ok edits) : WritesPoint maxDistance edits := by
  simp only [nearEdits] at written
  repeat' split at written
  all_goals refine of_bind written fun _ written => ?_
  -- Without a distance none is read.
  all_goals try exact of_ok written ⟨_, _, rfl, .inl ⟨rfl, rfl⟩⟩
  all_goals
    cases number : Argument.number maxDistance "max_distance" with
    | error failure =>
        rw [number] at written
        contradiction
    | ok distance =>
        rw [number] at written
        exact of_ok written ⟨_, distance, rfl, .inr number⟩

theorem targets_of_near {coordinate maxDistance : Value} {edits : List Edit}
    (written : nearEdits coordinate maxDistance = .ok edits) :
    (FieldOperation.near coordinate maxDistance).Targets edits := by
  obtain ⟨point, distance, rfl, given⟩ := writesPoint_of_nearEdits written
  have sets : (FieldOperation.near coordinate maxDistance).SetsDistance ↔
      distance.isTruthy = true := by
    unfold SetsDistance
    rcases given with ⟨rfl, rfl⟩ | read
    · simp [Argument.number, Argument.finite, Value.isTruthy]
    · simp [read]
  intro key
  rw [sets]
  cases distance.isTruthy <;> simp [operators, Edit.put, Edit.target]

theorem targets_of_edits {operation : FieldOperation} {limit : Int} {edits : List Edit}
    (written : operation.edits limit = .ok edits) (own : operation.operators ≠ []) :
    operation.Targets edits := by
  have single (operator : FieldOperator) (checks : Except Failure Value)
      (written : putChecked operator checks = .ok edits) :
      Writes [operator] edits :=
    of_map written fun value => by rfl
  cases operation with
  | condition operator argument => exact absurd rfl own
  | equalTo value => exact targets_of_writes (of_ok written rfl) (by simp [operators])
  | notEqualTo value => exact targets_of_writes (of_ok written rfl) (by simp [operators])
  | contains values => exact targets_of_writes (of_ok written rfl) (by simp [operators])
  | notContainedIn values => exact targets_of_writes (of_ok written rfl) (by simp [operators])
  | containsAll values => exact targets_of_writes (of_ok written rfl) (by simp [operators])
  | greaterThan value => exact targets_of_writes (single _ _ written) (by simp [operators])
  | greaterThanOrEqualTo value => exact targets_of_writes (single _ _ written) (by simp [operators])
  | lessThan value => exact targets_of_writes (single _ _ written) (by simp [operators])
  | lessThanOrEqualTo value => exact targets_of_writes (single _ _ written) (by simp [operators])
  | «exists» flag => exact targets_of_writes (of_ok written rfl) (by simp [operators])
  | mod divisor remainder =>
      refine targets_of_writes ?_ (by simp [operators])
      exact of_bind written fun divisor written => of_guard written fun written =>
        of_bind written fun remainder written => of_ok written rfl
  | «matches» pattern options =>
      refine targets_of_writes ?_ (by simp [operators])
      refine of_bind written fun options written => of_bind written fun found written =>
        of_guard written fun written => of_guard written fun written => of_ok written ?_
      split <;> rfl
  | near coordinate maxDistance => exact targets_of_near written
  | withinBox bottomLeft upperRight =>
      refine targets_of_writes ?_ (by simp [operators])
      exact of_bind written fun low written => of_bind written fun high written =>
        of_ok written rfl
  | withinPolygon coordinates =>
      refine targets_of_writes ?_ (by simp [operators])
      simp only [FieldOperation.edits, polygonEdits] at written
      repeat' split at written
      all_goals
        refine of_bind written fun _ written => of_bind written fun _ written => ?_
        exact of_ok written rfl
  | size given => exact targets_of_writes (of_map written fun count => rfl) (by simp [operators])

end FieldOperation

end RecordQuery
