import RecordQuery.Proofs.Matching.Footprint

/-!
# Inside a record

A property of values that all parts of a value have with it holds of all that a path leads to: the
values are the record itself or parts of parts of it, however the path fans out.
-/

namespace RecordQuery

def Value.Hereditary (property : Value → Prop) : Prop :=
  ∀ value, property value → ∀ part ∈ value.parts, property part

namespace Reached

variable {property : Value → Prop}

/-- All values that a path leads to have a property. -/
inductive Within (property : Value → Prop) : Reached → Prop where
  | gap : Within property .gap
  | value {found : Value} : property found → Within property (.value found)
  | fan {items : List Reached} : (∀ item ∈ items, Within property item) →
      Within property (.fan items)

theorem Within.items (hereditary : Value.Hereditary property) {entry : Reached}
    (within : entry.Within property) {items : List Reached} (held : entry.items? = some items) :
    ∀ item ∈ items, item.Within property := by
  cases within with
  | gap => contradiction
  | @value found has =>
      obtain ⟨values, parts, rfl⟩ := Option.map_eq_some_iff.mp held
      intro item member
      obtain ⟨part, listed, rfl⟩ := List.mem_map.mp member
      exact .value (hereditary found has part (Value.mem_parts parts listed))
  | fan each =>
      obtain rfl := Option.some.inj held
      exact each

theorem listWalks_eq_map (items : List Value) : listWalks items = items.map walk := by
  induction items with
  | nil => rfl
  | cons item rest inductionHypothesis => rw [listWalks, inductionHypothesis, List.map_cons]

theorem follows_eq_map (items : List Reached) : follows items = items.map follow := by
  induction items with
  | nil => rfl
  | cons item rest inductionHypothesis => rw [follows, inductionHypothesis, List.map_cons]

/-- What a list of partial results consists of. -/
theorem exists_of_mapM {α β : Type} {items : List α} {step : α → Option β} {results : List β}
    (mapped : items.mapM step = some results) :
    ∀ result ∈ results, ∃ item ∈ items, step item = some result := by
  induction items generalizing results with
  | nil =>
      obtain rfl : [] = results := by simpa using mapped
      exact List.forall_mem_nil _
  | cons item rest inductionHypothesis =>
      rw [List.mapM_cons] at mapped
      obtain ⟨first, head, mapped⟩ := Option.bind_eq_some_iff.mp mapped
      obtain ⟨others, tail, mapped⟩ := Option.bind_eq_some_iff.mp mapped
      obtain rfl := Option.some.inj mapped
      refine List.forall_mem_cons.mpr ⟨⟨item, List.mem_cons_self, head⟩, fun other member => ?_⟩
      obtain ⟨source, listed, found⟩ := inductionHypothesis tail other member
      exact ⟨source, List.mem_cons_of_mem _ listed, found⟩

/-- Whatever a walk leads to has the property. -/
def Keeps (property : Value → Prop) (walk : Walk) : Prop :=
  ∀ path found, walk path = some found → found.Within property

theorem within_walkItems {walks : List Walk} (keeps : ∀ walk ∈ walks, Keeps property walk)
    {part : String} {rest : List String} {found : Reached}
    (reached : walkItems walks part rest = some found) : found.Within property := by
  unfold walkItems at reached
  split at reached
  · obtain ⟨place, -, reached⟩ := Option.bind_eq_some_iff.mp reached
    obtain ⟨walk, picked, reached⟩ := Option.bind_eq_some_iff.mp reached
    exact keeps walk (List.mem_of_getElem? picked) rest found reached
  · obtain ⟨items, fanned, rfl⟩ := Option.map_eq_some_iff.mp reached
    refine .fan fun item member => ?_
    obtain ⟨walk, listed, walked⟩ := exists_of_mapM fanned item member
    exact keeps walk listed (part :: rest) item walked

theorem keeps_walk (hereditary : Value.Hereditary property) {value : Value} (has : property value) :
    Keeps property (walk value) := by
  induction value using Value.induct with
  | whole value inductionHypothesis =>
      have part (part : Value) (member : part ∈ value.parts) : Keeps property (walk part) :=
        inductionHypothesis part member (hereditary value has part member)
      have items (items : List Value) (member : ∀ item ∈ items, item ∈ value.parts) :
          ∀ step ∈ listWalks items, Keeps property step := by
        rw [listWalks_eq_map]
        exact List.forall_mem_map.mpr fun item listed => part item (member item listed)
      intro path found reached
      cases value with
      | null =>
          obtain rfl := Option.some.inj reached
          exact .value has
      | list values | tuple values =>
          cases path with
          | nil =>
              obtain rfl := Option.some.inj reached
              exact .value has
          | cons name rest => exact within_walkItems (items values fun _ => id) reached
      | mapping entries =>
          cases path with
          | nil =>
              obtain rfl := Option.some.inj reached
              exact .value has
          | cons name rest =>
              rw [walk_mapping_cons] at reached
              split at reached
              · rename_i entry held
                exact part entry.2 (Value.value_mem_parts (List.mem_of_find?_eq_some held)) rest
                  found reached
              · obtain rfl := Option.some.inj reached
                exact .gap
      | _ =>
          cases path with
          | nil =>
              obtain rfl := Option.some.inj reached
              exact .value has
          | cons name rest =>
              obtain rfl := Option.some.inj reached
              exact .gap

theorem Within.follow (hereditary : Value.Hereditary property) {entry : Reached}
    (within : entry.Within property) : Keeps property entry.follow := by
  induction within with
  | gap =>
      intro path found reached
      obtain rfl := Option.some.inj reached
      exact .gap
  | value has => exact keeps_walk hereditary has
  | @fan items each inductionHypothesis =>
      intro path found reached
      cases path with
      | nil =>
          obtain rfl := Option.some.inj reached
          exact .fan each
      | cons part rest =>
          have steps : ∀ step ∈ follows items, Keeps property step := by
            rw [follows_eq_map]
            exact List.forall_mem_map.mpr inductionHypothesis
          exact within_walkItems steps reached

/-- What a path leads to has the property, if that holds of where it starts. -/
theorem Within.reach (hereditary : Value.Hereditary property) {entry : Reached}
    (within : entry.Within property) (path : String) : (entry.reach path).Within property := by
  rw [Reached.reach]
  cases reached : entry.follow (Text.pathParts path) with
  | none => exact .gap
  | some found => exact within.follow hereditary _ found reached

end Reached

end RecordQuery
