import RecordQuery.Proofs.Store.Changes
import RecordQuery.Proofs.Value.Proper

/-!
# Orders list a field once

An order of records is made from a mapping, which has a key once, and a further field goes in at the
end. So no field comes twice in the order of a query, whatever calls have led to it.
-/

namespace RecordQuery

open Session Value

/-- No field comes twice. -/
def SortOrder.Once (sort : SortOrder) : Prop := (sort.map Prod.fst).Nodup

namespace SortOrder

theorem fields_set (sort : SortOrder) (field : String) (direction : Direction) :
    (sort.set field direction).map Prod.fst =
      if field ∈ sort.map Prod.fst then sort.map Prod.fst else sort.map Prod.fst ++ [field] := by
  induction sort with
  | nil => rfl
  | cons entry rest inductionHypothesis =>
      rcases entry with ⟨other, old⟩
      rw [set]
      by_cases here : other = field
      · simp [here]
      · have apart : (other == field) = false := by simpa using here
        rw [if_neg (by simp [apart]), List.map_cons, inductionHypothesis, List.map_cons]
        simp only [List.mem_cons, Ne.symm here, false_or]
        split <;> rfl

theorem Once.set {sort : SortOrder} (once : sort.Once) (field : String) (direction : Direction) :
    (sort.set field direction).Once := by
  rw [Once, fields_set]
  split
  · exact once
  · rename_i absent
    exact List.nodup_append.mpr ⟨once, List.nodup_singleton _, by
      rintro other member _ last rfl
      exact absent (List.mem_singleton.mp last ▸ member)⟩

theorem keys_of_sortOf? {entries : Entries} {sort : SortOrder}
    (read : Snapshot.sortOf? entries = some sort) :
    entries.map Prod.fst = sort.map fun entry => .text entry.1 := by
  induction entries generalizing sort with
  | nil =>
      obtain rfl := Option.some.inj read
      rfl
  | cons entry rest inductionHypothesis =>
      rcases entry with ⟨key, value⟩
      rw [Snapshot.sortOf?] at read
      split at read
      · rename_i field direction others text _ later
        obtain rfl := Option.some.inj read
        cases key with
        | text name =>
            obtain rfl := Option.some.inj text
            rw [List.map_cons, inductionHypothesis later, List.map_cons]
        | _ => contradiction
      · contradiction

theorem once_of_sortOf? {entries : Entries} (different : Different (entries.map Prod.fst))
    {sort : SortOrder} (read : Snapshot.sortOf? entries = some sort) : sort.Once := by
  rw [keys_of_sortOf? read] at different
  refine List.pairwise_map.mpr ((List.pairwise_map.mp different).imp ?_)
  intro first second apart same
  simp [same] at apart

/-- An order that options describe has no field twice, if the options are proper. -/
theorem once_of_ofEntries {options : Entries} {snapshot : Snapshot}
    (proper : ∀ entries, options.get? "sort" = some (.mapping entries) →
      Different (entries.map Prod.fst))
    (read : Snapshot.ofEntries options = .ok snapshot) : snapshot.sort.Once := by
  have checked := (Snapshot.ofEntries_eq_ok read).2.2.1
  unfold Snapshot.checkSort at checked
  split at checked
  · rw [← Except.ok.inj checked]
    exact List.nodup_nil
  · rw [← Except.ok.inj checked]
    exact List.nodup_nil
  · rename_i entries held
    split at checked
    · contradiction
    · split at checked
      · rename_i sort found
        rw [← Except.ok.inj checked]
        exact once_of_sortOf? (proper entries held) found
      · contradiction
  · contradiction

/-- An order that a proper value describes has no field twice. -/
theorem once_of_parse {value : Value} (proper : value.Proper) {snapshot : Snapshot}
    (read : Snapshot.parse value = .ok snapshot) : snapshot.sort.Once := by
  cases value with
  | null =>
      obtain rfl := Except.ok.inj read
      exact List.nodup_nil
  | mapping options =>
      refine once_of_ofEntries (fun entries held => ?_) read
      exact (proper.value ((Entries.get?_eq_some_iff proper.different).mp held)).different
  | _ => contradiction

end SortOrder

def Session.Call.GivesOrders : Call → Prop
  | .create (.value given) => given.Proper
  | .create (.snapshot given) => given.sort.Once
  | .assign _ (.sort given) => given.Proper
  | _ => True

namespace QueryStore

/-- A setting leaves the order as it is, or replaces it by one with no field twice. -/
theorem once_settingChange {setting : Setting} {mark : Mark}
    (given : (Call.assign mark setting).GivesOrders) {revise : Query → Query}
    (checked : settingChange setting = .ok revise) {query : Query} (once : query.sort.Once) :
    (revise query).sort.Once := by
  cases setting with
  | sort value =>
      simp only [settingChange, ite_eq_iff] at checked
      rcases checked with ⟨-, refused⟩ | ⟨-, checked⟩
      · contradiction
      · obtain ⟨snapshot, read, rfl⟩ := except_map_eq_ok checked
        refine SortOrder.once_of_ofEntries (fun entries held => ?_) read
        obtain rfl : value = .mapping entries := by simpa [Entries.get?_cons] using held
        exact given.different
  | fields value =>
      simp only [settingChange, ite_eq_iff] at checked
      rcases checked with ⟨-, refused⟩ | ⟨-, checked⟩
      · contradiction
      · obtain ⟨_, -, rfl⟩ := except_map_eq_ok checked
        exact once
  | skip value =>
      obtain ⟨_, -, rfl⟩ := except_map_eq_ok checked
      exact once
  | limit value =>
      obtain ⟨_, -, rfl⟩ := except_map_eq_ok checked
      exact once

def Ordered (store : QueryStore) : Prop := ∀ query ∈ store.queries, query.sort.Once

namespace Ordered

variable {store : QueryStore}

theorem snapshot (ordered : store.Ordered) (mark : Mark) : (store.snapshot mark).sort.Once :=
  snapshot_of_forall (fun state => state.sort.Once) List.nodup_nil ordered mark

theorem of_change (ordered : store.Ordered) {call : Call} {later : QueryStore}
    (given : call.GivesOrders) (change : Change store call later) : later.Ordered := by
  cases change with
  | @created options snapshot resolved =>
      refine forall_create ordered ?_
      cases options with
      | value value => exact SortOrder.once_of_parse given resolved
      | snapshot snapshot =>
          obtain rfl := Except.ok.inj resolved
          exact given
  | constrained => exact forall_change ordered _ fun _ once => once
  | @ordered mark field direction =>
      exact forall_change ordered _ fun _ once => once.set field direction
  | assigned checked =>
      exact forall_change ordered _ fun _ once => once_settingChange given checked once
  | joined => exact forall_change ordered _ fun _ once => once
  | opened => exact forall_change ordered _ fun _ once => once

end Ordered

end QueryStore

/-- In a session whose calls were given orders as mappings, no order has a field twice. -/
theorem Session.Reachable.ordered {session : Session}
    (reachable : Reachable Call.GivesOrders session) : session.queries.Ordered :=
  reachable.invariant QueryStore.Ordered (List.forall_mem_nil _)
    fun _ _ _ ordered _ given change => ordered.of_change given change

end RecordQuery
