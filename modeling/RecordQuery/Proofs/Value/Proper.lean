import RecordQuery.Proofs.Value.Entries
import RecordQuery.Proofs.Value.Sameness

/-!
# Entries of proper mappings

In a proper mapping a text key has one entry, which is what a lookup finds. Writing and removing an
entry keep a mapping proper, and touch no other entry.
-/

namespace RecordQuery

open Value

theorem Value.same_text_eq_false {key : Value} {name : String} :
    key.same (.text name) = false ↔ key ≠ .text name := by
  rw [← Bool.not_eq_true, same_text]

theorem Value.equal_text {key : Value} {name : String} :
    key.equal (.text name) = true ↔ key = .text name := by
  rw [equal, Bool.and_eq_true, same_text, Bool.not_eq_true']
  refine ⟨And.right, fun same => ⟨?_, same⟩⟩
  rw [same]
  rfl

theorem Value.equal_text_eq_false {key : Value} {name : String} :
    key.equal (.text name) = false ↔ key ≠ .text name := by
  rw [← Bool.not_eq_true, equal_text]

/-- Members of a list whose keys are different are one if their keys are the same. -/
theorem eq_of_same_key {α : Type} {key : α → Value} {members : List α}
    (different : Different (members.map key))
    (symm : ∀ first ∈ members, ∀ second ∈ members, (key first).same (key second) = true →
      (key second).same (key first) = true)
    {first second : α} (firstMember : first ∈ members) (secondMember : second ∈ members)
    (same : (key first).same (key second) = true) : first = second := by
  induction members with
  | nil => contradiction
  | cons head rest inductionHypothesis =>
      obtain ⟨apart, others⟩ := List.pairwise_cons.mp different
      have headApart {other : α} (member : other ∈ rest) : (key head).same (key other) = false :=
        apart _ (List.mem_map_of_mem member)
      rcases List.mem_cons.mp firstMember with rfl | firstRest <;>
        rcases List.mem_cons.mp secondMember with rfl | secondRest
      · rfl
      · simp [headApart secondRest] at same
      · have back := symm _ firstMember _ secondMember same
        simp [headApart firstRest] at back
      · exact inductionHypothesis others (fun first member second other =>
          symm first (List.mem_cons_of_mem _ member) second (List.mem_cons_of_mem _ other))
          firstRest secondRest

namespace Entries

variable {entries : Entries} {name : String}

theorem mem_keys {key value : Value} (member : (key, value) ∈ entries) :
    key ∈ entries.map Prod.fst :=
  List.mem_map_of_mem member

/-- The first entry of a key with text is the only one. -/
theorem key_ne_of_mem_tail {value : Value} {rest : Entries}
    (different : Different (((.text name, value) :: rest).map Prod.fst)) :
    ∀ entry ∈ rest, entry.1 ≠ .text name := by
  intro entry member same
  have apart := (List.pairwise_cons.mp different).1 entry.1 (mem_keys member)
  simp [same] at apart

theorem get?_eq_some_iff (different : Different (entries.map Prod.fst)) {value : Value} :
    entries.get? name = some value ↔ (.text name, value) ∈ entries := by
  induction entries with
  | nil => simp [get?, valueOf?]
  | cons entry rest inductionHypothesis =>
      rcases entry with ⟨key, held⟩
      by_cases here : key = .text name
      · subst here
        have others := key_ne_of_mem_tail different
        have absent : (Value.text name, value) ∉ rest := fun member => others _ member rfl
        simp [get?, valueOf?, absent, eq_comm]
      · have apart := same_text_eq_false.mpr here
        have elsewhere := inductionHypothesis (List.pairwise_cons.mp different).2
        simp only [get?, valueOf?, List.find?_cons, apart] at elsewhere ⊢
        rw [elsewhere, List.mem_cons, Prod.mk.injEq]
        simp [Ne.symm here]

theorem get?_eq_none_iff : entries.get? name = none ↔ ∀ entry ∈ entries, entry.1 ≠ .text name := by
  simp [get?, valueOf?, Value.same_text]

theorem keys_insert (entries : Entries) (key value : Value) :
    (entries.insert key value).map Prod.fst =
      if (entries.valueOf? key).isSome then entries.map Prod.fst
      else entries.map Prod.fst ++ [key] := by
  induction entries with
  | nil => rfl
  | cons entry rest inductionHypothesis =>
      rw [insert]
      cases matched : entry.1.same key with
      | true => simp [valueOf?, matched]
      | false =>
          rw [if_neg (by simp), List.map_cons, inductionHypothesis, apply_ite (List.cons entry.1)]
          simp only [valueOf?, List.find?_cons, matched]
          rfl

theorem different_insert (different : Different (entries.map Prod.fst)) (key value : Value) :
    Different ((entries.insert key value).map Prod.fst) := by
  rw [keys_insert]
  split
  · exact different
  · rename_i absent
    refine List.pairwise_append.mpr ⟨different, List.pairwise_singleton _ _, ?_⟩
    intro other member last lastMember
    obtain rfl := List.mem_singleton.mp lastMember
    obtain ⟨entry, held, rfl⟩ := List.mem_map.mp member
    simp only [valueOf?, Option.isSome_map, List.find?_isSome, not_exists, not_and,
      Bool.not_eq_true] at absent
    exact absent entry held

theorem length_insert (entries : Entries) (key value : Value) :
    (entries.insert key value).length =
      entries.length + if (entries.valueOf? key).isSome then 0 else 1 := by
  have lengths := congrArg List.length (keys_insert entries key value)
  rw [List.length_map] at lengths
  rw [lengths]
  split <;> simp

theorem mem_insert_text_iff (different : Different (entries.map Prod.fst)) {value : Value}
    {entry : Value × Value} :
    entry ∈ entries.insert (.text name) value ↔
      entry = (.text name, value) ∨ entry ∈ entries ∧ entry.1 ≠ .text name := by
  induction entries with
  | nil => simp [insert]
  | cons head rest inductionHypothesis =>
      rcases head with ⟨key, held⟩
      rw [insert]
      by_cases here : key = .text name
      · subst here
        have others := key_ne_of_mem_tail different
        rw [if_pos (Value.same_text.mpr rfl), List.mem_cons, List.mem_cons]
        refine or_congr_right ⟨fun member => ⟨.inr member, others entry member⟩, ?_⟩
        rintro ⟨rfl | member, apart⟩
        · exact absurd rfl apart
        · exact member
      · rw [if_neg (mt same_text.mp here), List.mem_cons, List.mem_cons,
          inductionHypothesis (List.pairwise_cons.mp different).2]
        constructor
        · rintro (rfl | written | ⟨member, apart⟩)
          · exact .inr ⟨.inl rfl, here⟩
          · exact .inl written
          · exact .inr ⟨.inr member, apart⟩
        · rintro (written | ⟨rfl | member, apart⟩)
          · exact .inr (.inl written)
          · exact .inl rfl
          · exact .inr (.inr ⟨member, apart⟩)

/-- A write under a key that is there changes the value of its entry. -/
theorem set_eq_map {entries : Entries} (different : Different (entries.map Prod.fst))
    {name : String} {old : Value} (held : entries.get? name = some old) (value : Value) :
    entries.set name value =
      entries.map fun entry => if entry.1.same (.text name) then (entry.1, value) else entry := by
  induction entries with
  | nil => contradiction
  | cons entry rest inductionHypothesis =>
      rcases entry with ⟨key, found⟩
      rw [set, insert, List.map_cons]
      by_cases here : key = .text name
      · subst here
        have others : ∀ other ∈ rest,
            (if other.1.same (.text name) then (other.1, value) else other) = other := by
          intro other member
          exact if_neg (mt same_text.mp (key_ne_of_mem_tail different other member))
        rw [if_pos (same_text.mpr rfl), if_pos (same_text.mpr rfl), List.map_congr_left others,
          List.map_id']
      · have elsewhere : get? rest name = some old := by
          rwa [get?_cons, if_neg (mt same_text.mp here)] at held
        rw [if_neg (mt same_text.mp here), if_neg (mt same_text.mp here),
          ← inductionHypothesis (List.pairwise_cons.mp different).2 elsewhere]
        rfl

theorem erase_eq_filter (entries : Entries) (name : String) :
    entries.erase name = entries.filter fun entry => !entry.1.same (.text name) := by
  apply List.filter_congr
  intro entry _
  rw [Bool.not_inj_iff, Bool.eq_iff_iff, equal_text, same_text]

theorem mem_erase_iff {entry : Value × Value} :
    entry ∈ entries.erase name ↔ entry ∈ entries ∧ entry.1 ≠ .text name := by
  rw [erase, List.mem_filter, Bool.not_eq_true', ← Bool.not_eq_true, equal_text]

theorem length_erase (different : Different (entries.map Prod.fst)) (name : String) :
    (entries.erase name).length + (if (entries.get? name).isSome then 1 else 0) =
      entries.length := by
  induction entries with
  | nil => rfl
  | cons entry rest inductionHypothesis =>
      rcases entry with ⟨key, held⟩
      have others := inductionHypothesis (List.pairwise_cons.mp different).2
      by_cases here : key = .text name
      · subst here
        have whole : erase rest name = rest := by
          refine List.filter_eq_self.mpr fun entry member => ?_
          rw [equal_text_eq_false.mpr (key_ne_of_mem_tail different entry member)]
          rfl
        have dropped : erase ((.text name, held) :: rest) name = erase rest name :=
          List.filter_cons_of_neg (by rw [equal_text.mpr rfl]; simp)
        rw [dropped, whole]
        simp [get?, valueOf?]
      · have kept : erase ((key, held) :: rest) name = (key, held) :: erase rest name :=
          List.filter_cons_of_pos (by rw [equal_text_eq_false.mpr here]; simp)
        have found : get? ((key, held) :: rest) name = get? rest name := by
          simp [get?, valueOf?, same_text_eq_false.mpr here]
        rw [kept, found, List.length_cons, List.length_cons]
        omega

end Entries

namespace Value.Proper

theorem mapping {entries : Entries} (different : Different (entries.map Prod.fst))
    (parts : ∀ entry ∈ entries, entry.1.Proper ∧ entry.2.Proper) :
    (Value.mapping entries).Proper := by
  refine .whole different fun part member => ?_
  rcases List.mem_append.mp member with member | member
  · obtain ⟨entry, held, rfl⟩ := List.mem_map.mp member
    exact (parts entry held).1
  · obtain ⟨entry, held, rfl⟩ := List.mem_map.mp member
    exact (parts entry held).2

theorem different {entries : Entries} (proper : (Value.mapping entries).Proper) :
    Different (entries.map Prod.fst) :=
  proper.distinct

theorem eq_of_same_key {entries : Entries} (proper : (Value.mapping entries).Proper)
    {first second : Value × Value} (firstMember : first ∈ entries) (secondMember : second ∈ entries)
    (same : first.1.same second.1 = true) : first = second :=
  RecordQuery.eq_of_same_key proper.different (fun _ firstMember _ secondMember =>
    same_symm (proper.key firstMember) (proper.key secondMember)) firstMember secondMember same

theorem eq_of_same_member {items : List Value} (proper : (Value.set items).Proper)
    {first second : Value} (firstMember : first ∈ items) (secondMember : second ∈ items)
    (same : first.same second = true) : first = second := by
  have different : Different (items.map id) := by
    rw [List.map_id]
    exact proper.distinct
  exact RecordQuery.eq_of_same_key different (fun _ firstMember _ secondMember =>
    same_symm (proper.part firstMember) (proper.part secondMember)) firstMember secondMember same

/-- Values without parts. -/
theorem simple {value : Value} (single : value.parts = []) : value.Proper := by
  refine .whole ?_ (by simp [single])
  cases value with
  | set items =>
      obtain rfl : items = [] := single
      exact .nil
  | mapping entries =>
      obtain rfl := List.map_eq_nil_iff.mp (List.append_eq_nil_iff.mp single).1
      exact .nil
  | _ => trivial

theorem list {items : List Value} (parts : ∀ item ∈ items, item.Proper) :
    (Value.list items).Proper :=
  .whole trivial parts

/-- A mapping with distinct names. -/
theorem named {α : Type} (value : α → Value) {members : List (String × α)}
    (distinct : (members.map Prod.fst).Nodup)
    (parts : ∀ member ∈ members, (value member.2).Proper) :
    (Value.mapping (members.map fun member => (.text member.1, value member.2))).Proper := by
  refine .mapping ?_ fun entry held => ?_
  · rw [List.map_map]
    refine List.pairwise_map.mpr ((List.pairwise_map.mp distinct).imp fun apart => ?_)
    exact same_text_eq_false.mpr fun same => apart (Value.text.inj same)
  · obtain ⟨member, listed, rfl⟩ := List.mem_map.mp held
    exact ⟨.simple rfl, parts member listed⟩

theorem single {name : String} {value : Value} (proper : value.Proper) :
    (Value.mapping [(.text name, value)]).Proper :=
  .mapping (List.pairwise_singleton _ _) (List.forall_mem_singleton.mpr ⟨.simple rfl, proper⟩)

/-- A mapping with the keys of a proper one and proper values. -/
theorem revalued {entries others : Entries} (proper : (Value.mapping entries).Proper)
    (keys : others.map Prod.fst = entries.map Prod.fst)
    (values : ∀ entry ∈ others, entry.2.Proper) : (Value.mapping others).Proper := by
  refine .mapping (keys ▸ proper.different) fun entry member => ⟨?_, values entry member⟩
  have held : entry.1 ∈ entries.map Prod.fst := keys ▸ List.mem_map_of_mem member
  exact proper.part (List.mem_append_left _ held)

theorem insert {entries : Entries} (proper : (Value.mapping entries).Proper) {key value : Value}
    (keyProper : key.Proper) (valueProper : value.Proper) :
    (Value.mapping (entries.insert key value)).Proper := by
  refine .mapping (Entries.different_insert proper.different key value) fun entry member => ?_
  rcases Entries.mem_insert member with old | ⟨written, here | ⟨held, there⟩⟩
  · exact ⟨proper.key old, proper.value old⟩
  · exact ⟨here ▸ keyProper, written ▸ valueProper⟩
  · exact ⟨proper.part (List.mem_append_left _ (Entries.mem_keys there)), written ▸ valueProper⟩

theorem sublist {entries others : Entries} (proper : (Value.mapping entries).Proper)
    (fewer : others.Sublist entries) : (Value.mapping others).Proper :=
  .mapping (List.Pairwise.sublist (fewer.map Prod.fst) proper.different) fun _ member =>
    ⟨proper.key (fewer.subset member), proper.value (fewer.subset member)⟩

theorem perm {entries others : Entries} (proper : (Value.mapping entries).Proper)
    (order : entries.Perm others) : (Value.mapping others).Proper := by
  refine .mapping ?_ fun entry member =>
    ⟨proper.key (order.mem_iff.mpr member), proper.value (order.mem_iff.mpr member)⟩
  -- Keys of proper mappings differ in both directions, which no order can change.
  have apart : (entries.map Prod.fst).Pairwise fun first second =>
      first.same second = false ∧ second.same first = false := by
    refine proper.different.imp_of_mem fun {first second} firstMember secondMember differ => ?_
    refine ⟨differ, Bool.eq_false_iff.mpr fun back => ?_⟩
    have forth := same_symm (proper.part (List.mem_append_left _ secondMember))
      (proper.part (List.mem_append_left _ firstMember)) back
    simp [forth] at differ
  exact ((order.map Prod.fst).pairwise apart fun differ => ⟨differ.2, differ.1⟩).imp And.left

theorem erase {entries : Entries} (proper : (Value.mapping entries).Proper) (name : String) :
    (Value.mapping (entries.erase name)).Proper :=
  proper.sublist List.filter_sublist

end Value.Proper

end RecordQuery
