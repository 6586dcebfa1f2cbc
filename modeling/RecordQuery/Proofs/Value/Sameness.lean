import Mathlib.Data.List.Forall2
import RecordQuery.Proofs.Value.Times
import RecordQuery.Value.Equality

/-!
# Sameness of values

Two values are the same if they denote one point, are one text, pattern or null, or consist of the
same parts. `Value.Alike` lists these ways. Sameness is reflexive and transitive, and symmetric
between proper values, whose mappings hold each key once and whose sets each member once.
-/

namespace RecordQuery

/-- Every member of each of two lists is related to one of the other list. -/
structure Matched {α β : Type} (relation : α → β → Prop) (lefts : List α) (rights : List β) :
    Prop where
  forth : ∀ left ∈ lefts, ∃ right ∈ rights, relation left right
  back : ∀ right ∈ rights, ∃ left ∈ lefts, relation left right

namespace Matched

variable {α β γ δ : Type} {relation : α → β → Prop} {lefts : List α} {rights : List β}

theorem of_forall₂ (related : List.Forall₂ relation lefts rights) :
    Matched relation lefts rights := by
  induction related with
  | nil => exact ⟨by simp, by simp⟩
  | cons head _ inductionHypothesis =>
      obtain ⟨forth, back⟩ := inductionHypothesis
      constructor
      · refine List.forall_mem_cons.mpr ⟨⟨_, List.mem_cons_self, head⟩, fun left member => ?_⟩
        obtain ⟨right, found, related⟩ := forth left member
        exact ⟨right, List.mem_cons_of_mem _ found, related⟩
      · refine List.forall_mem_cons.mpr ⟨⟨_, List.mem_cons_self, head⟩, fun right member => ?_⟩
        obtain ⟨left, found, related⟩ := back right member
        exact ⟨left, List.mem_cons_of_mem _ found, related⟩

theorem map {others : γ → δ → Prop} (matched : Matched relation lefts rights) (first : α → γ)
    (second : β → δ)
    (each : ∀ left ∈ lefts, ∀ right, relation left right → others (first left) (second right)) :
    Matched others (lefts.map first) (rights.map second) := by
  constructor
  · intro found member
    obtain ⟨left, leftMember, rfl⟩ := List.mem_map.mp member
    obtain ⟨right, rightMember, related⟩ := matched.forth left leftMember
    exact ⟨second right, List.mem_map_of_mem rightMember, each left leftMember right related⟩
  · intro found member
    obtain ⟨right, rightMember, rfl⟩ := List.mem_map.mp member
    obtain ⟨left, leftMember, related⟩ := matched.back right rightMember
    exact ⟨first left, List.mem_map_of_mem leftMember, each left leftMember right related⟩

theorem any_eq (matched : Matched relation lefts rights) {first : α → Bool} {second : β → Bool}
    (each : ∀ left ∈ lefts, ∀ right, relation left right → first left = second right) :
    lefts.any first = rights.any second := by
  rw [Bool.eq_iff_iff, List.any_eq_true, List.any_eq_true]
  constructor
  · rintro ⟨left, member, holds⟩
    obtain ⟨right, rightMember, related⟩ := matched.forth left member
    exact ⟨right, rightMember, each left member right related ▸ holds⟩
  · rintro ⟨right, member, holds⟩
    obtain ⟨left, leftMember, related⟩ := matched.back right member
    exact ⟨left, leftMember, (each left leftMember right related).symm ▸ holds⟩

theorem all_eq (matched : Matched relation lefts rights) {first : α → Bool} {second : β → Bool}
    (each : ∀ left ∈ lefts, ∀ right, relation left right → first left = second right) :
    lefts.all first = rights.all second := by
  rw [List.all_eq_not_any_not, List.all_eq_not_any_not]
  exact congrArg not (matched.any_eq fun left member right related =>
    congrArg not (each left member right related))

end Matched

namespace Value

/-- The values that a value is made of: items, and keys and values of entries. -/
def parts : Value → List Value
  | .list items | .tuple items | .set items => items
  | .mapping entries => entries.map Prod.fst ++ entries.map Prod.snd
  | _ => []

theorem sizeOf_part {part value : Value} (member : part ∈ value.parts) :
    sizeOf part < sizeOf value := by
  cases value with
  | list items | tuple items | set items =>
      have inside : sizeOf part < sizeOf items := List.sizeOf_lt_of_mem member
      simp only [list.sizeOf_spec, tuple.sizeOf_spec, set.sizeOf_spec]
      omega
  | mapping entries =>
      rcases List.mem_append.mp member with member | member <;>
        obtain ⟨⟨key, value⟩, held, rfl⟩ := List.mem_map.mp member
      all_goals
        have inside := List.sizeOf_lt_of_mem held
        simp only [Prod.mk.sizeOf_spec] at inside
        simp only [mapping.sizeOf_spec]
        omega
  | _ => contradiction

theorem mem_parts {value item : Value} {items : List Value} (held : value.items? = some items)
    (member : item ∈ items) : item ∈ value.parts := by
  cases value with
  | list others | tuple others =>
      obtain rfl := Option.some.inj held
      exact member
  | _ => contradiction

theorem key_mem_parts {entries : Entries} {entry : Value × Value} (member : entry ∈ entries) :
    entry.1 ∈ (mapping entries).parts :=
  List.mem_append_left _ (List.mem_map_of_mem member)

theorem value_mem_parts {entries : Entries} {entry : Value × Value} (member : entry ∈ entries) :
    entry.2 ∈ (mapping entries).parts :=
  List.mem_append_right _ (List.mem_map_of_mem member)

/-- What holds of a value if it holds of all its parts holds of every value. -/
theorem induct {motive : Value → Prop}
    (whole : ∀ value, (∀ part ∈ value.parts, motive part) → motive value) (value : Value) :
    motive value :=
  whole value fun part member =>
    have := sizeOf_part member
    induct whole part
termination_by sizeOf value

theorem sameItems_iff {lefts rights : List Value} :
    sameItems lefts rights = true ↔
      List.Forall₂ (fun left right => left.same right = true) lefts rights := by
  induction lefts generalizing rights with
  | nil => cases rights <;> simp [sameItems]
  | cons left lefts inductionHypothesis => cases rights <;> simp [sameItems, inductionHypothesis]

theorem allWithin_iff {items others : List Value} :
    allWithin items others = true ↔ ∀ item ∈ items, ∃ other ∈ others, item.same other = true := by
  induction items with
  | nil => simp [allWithin]
  | cons item rest inductionHypothesis => simp [allWithin, inductionHypothesis]

theorem allEntriesWithin_iff {entries others : Entries} :
    allEntriesWithin entries others = true ↔ ∀ entry ∈ entries, ∃ other ∈ others,
      entry.1.same other.1 = true ∧ entry.2.same other.2 = true := by
  induction entries with
  | nil => simp [allEntriesWithin]
  | cons entry rest inductionHypothesis =>
      rcases entry with ⟨key, value⟩
      rw [List.forall_mem_cons, ← inductionHypothesis]
      simp [allEntriesWithin]

/-- The ways in which two values are the same. -/
inductive Alike : Value → Value → Prop where
  | identical (value : Value) : Alike value value
  | points {left right : Value} {point : Extended} :
      left.point? = some point → right.point? = some point → Alike left right
  | lists {lefts rights : List Value} :
      List.Forall₂ (fun left right => left.same right = true) lefts rights →
      Alike (.list lefts) (.list rights)
  | tuples {lefts rights : List Value} :
      List.Forall₂ (fun left right => left.same right = true) lefts rights →
      Alike (.tuple lefts) (.tuple rights)
  | sets {lefts rights : List Value} : lefts.length = rights.length →
      (∀ left ∈ lefts, ∃ right ∈ rights, left.same right = true) → Alike (.set lefts) (.set rights)
  | mappings {lefts rights : Entries} : lefts.length = rights.length →
      (∀ left ∈ lefts, ∃ right ∈ rights,
        left.1.same right.1 = true ∧ left.2.same right.2 = true) →
      Alike (.mapping lefts) (.mapping rights)
  | dates {left right : Date} : left.number = right.number → Alike (.date left) (.date right)
  | datetimes {left right : DateTime} : left.same right = true →
      Alike (.datetime left) (.datetime right)

theorem Alike.of_same {left right : Value} (given : left.same right = true) : Alike left right := by
  rw [same.eq_def] at given
  split at given
  · exact .identical _
  · obtain rfl := eq_of_beq given
    exact .identical _
  · exact .lists (sameItems_iff.mp given)
  · exact .tuples (sameItems_iff.mp given)
  · obtain ⟨lengths, within⟩ := Bool.and_eq_true_iff.mp given
    exact .sets (eq_of_beq lengths) (allWithin_iff.mp within)
  · obtain ⟨lengths, within⟩ := Bool.and_eq_true_iff.mp given
    exact .mappings (eq_of_beq lengths) (allEntriesWithin_iff.mp within)
  · exact .dates (eq_of_beq given)
  · exact .datetimes given
  · obtain ⟨sources, flags⟩ := Bool.and_eq_true_iff.mp given
    obtain rfl := eq_of_beq sources
    obtain rfl := eq_of_beq flags
    exact .identical _
  · obtain rfl := eq_of_beq given
    exact .identical _
  · split at given
    · rename_i first second one other
      obtain rfl := eq_of_beq given
      exact .points one other
    · contradiction

theorem same_of_points {left right : Value} {point : Extended} (one : left.point? = some point)
    (other : right.point? = some point) : left.same right = true := by
  rw [same.eq_def]
  split
  case h_11 => simp [one, other]
  all_goals simp [point?, Binary64.extended?] at one

@[simp]
theorem same_refl (value : Value) : value.same value = true := by
  induction value using Value.induct with
  | whole value inductionHypothesis =>
      cases value with
      | list items | tuple items =>
          rw [same, sameItems_iff]
          exact List.forall₂_same.mpr inductionHypothesis
      | set items =>
          simp only [same, beq_self_eq_true, Bool.true_and, allWithin_iff]
          exact fun item member => ⟨item, member, inductionHypothesis item member⟩
      | mapping entries =>
          simp only [same, beq_self_eq_true, Bool.true_and, allEntriesWithin_iff]
          intro entry member
          refine ⟨entry, member, inductionHypothesis _ ?_, inductionHypothesis _ ?_⟩
          · exact key_mem_parts member
          · exact value_mem_parts member
      | datetime time => rw [same, DateTime.same_refl]
      | float value =>
          rcases value with payload | (_ | _) | ⟨_, _, _, _⟩
          · simp [same]
          all_goals exact same_of_points rfl rfl
      | _ => simp [same, point?]

theorem Alike.same {left right : Value} (alike : Alike left right) : left.same right = true := by
  cases alike with
  | identical => exact same_refl _
  | points one other => exact same_of_points one other
  | lists items => rwa [Value.same, sameItems_iff]
  | tuples items => rwa [Value.same, sameItems_iff]
  | sets lengths within => simpa [Value.same, lengths, allWithin_iff] using within
  | mappings lengths within => simpa [Value.same, lengths, allEntriesWithin_iff] using within
  | dates numbers => simpa [Value.same] using numbers
  | datetimes times => rwa [Value.same]

theorem same_iff_alike {left right : Value} : left.same right = true ↔ Alike left right :=
  ⟨Alike.of_same, Alike.same⟩

theorem text_same {name : String} {value : Value} :
    (Value.text name).same value = true ↔ value = .text name := by
  rw [same_iff_alike]
  constructor
  · intro alike
    cases alike with
    | identical => rfl
    | points point _ => contradiction
  · rintro rfl
    exact .identical _

theorem same_list {lefts : List Value} {right : Value} (given : (list lefts).same right = true) :
    ∃ rights, right = .list rights ∧
      List.Forall₂ (fun left right => left.same right = true) lefts rights := by
  cases Alike.of_same given with
  | identical => exact ⟨lefts, rfl, List.forall₂_same.mpr fun item _ => same_refl item⟩
  | points => contradiction
  | lists items => exact ⟨_, rfl, items⟩

theorem same_tuple {lefts : List Value} {right : Value} (given : (tuple lefts).same right = true) :
    ∃ rights, right = .tuple rights ∧
      List.Forall₂ (fun left right => left.same right = true) lefts rights := by
  cases Alike.of_same given with
  | identical => exact ⟨lefts, rfl, List.forall₂_same.mpr fun item _ => same_refl item⟩
  | points => contradiction
  | tuples items => exact ⟨_, rfl, items⟩

theorem same_set {lefts : List Value} {right : Value} (given : (set lefts).same right = true) :
    ∃ rights, right = .set rights ∧ lefts.length = rights.length ∧
      ∀ left ∈ lefts, ∃ right ∈ rights, left.same right = true := by
  cases Alike.of_same given with
  | identical => exact ⟨lefts, rfl, rfl, fun left member => ⟨left, member, same_refl left⟩⟩
  | points => contradiction
  | sets lengths within => exact ⟨_, rfl, lengths, within⟩

theorem same_mapping {lefts : Entries} {right : Value}
    (given : (mapping lefts).same right = true) :
    ∃ rights, right = .mapping rights ∧ lefts.length = rights.length ∧
      ∀ left ∈ lefts, ∃ right ∈ rights,
        left.1.same right.1 = true ∧ left.2.same right.2 = true := by
  cases Alike.of_same given with
  | identical =>
      exact ⟨lefts, rfl, rfl, fun left member => ⟨left, member, same_refl _, same_refl _⟩⟩
  | points => contradiction
  | mappings lengths within => exact ⟨_, rfl, lengths, within⟩

/-- Items correspond through those in the middle. -/
theorem forall₂_through {α : Type} {relation : α → α → Prop} {lefts middles rights : List α}
    (through : ∀ left ∈ lefts, ∀ middle right, relation left middle → relation middle right →
      relation left right)
    (one : List.Forall₂ relation lefts middles) (other : List.Forall₂ relation middles rights) :
    List.Forall₂ relation lefts rights := by
  induction one generalizing rights with
  | nil => exact other
  | cons head _ inductionHypothesis =>
      cases other with
      | cons next others =>
          refine .cons (through _ List.mem_cons_self _ _ head next) (inductionHypothesis ?_ others)
          exact fun left member => through left (List.mem_cons_of_mem _ member)

theorem same_trans {left middle right : Value} (one : left.same middle = true)
    (other : middle.same right = true) : left.same right = true := by
  induction left using Value.induct generalizing middle right with
  | whole left inductionHypothesis =>
      have second := Alike.of_same other
      apply Alike.same
      cases Alike.of_same one with
      | identical => exact second
      | points first middlePoint =>
          cases second with
          | identical => exact .points first middlePoint
          | points again last =>
              obtain rfl := Option.some.inj (middlePoint.symm.trans again)
              exact .points first last
          | _ => contradiction
      | lists items =>
          cases second with
          | identical => exact .lists items
          | points => contradiction
          | lists others =>
              exact .lists (forall₂_through
                (fun item member _ _ => inductionHypothesis item member) items others)
      | tuples items =>
          cases second with
          | identical => exact .tuples items
          | points => contradiction
          | tuples others =>
              exact .tuples (forall₂_through
                (fun item member _ _ => inductionHypothesis item member) items others)
      | sets lengths within =>
          cases second with
          | identical => exact .sets lengths within
          | points => contradiction
          | sets moreLengths moreWithin =>
              refine .sets (lengths.trans moreLengths) fun item member => ?_
              obtain ⟨middle, middleMember, first⟩ := within item member
              obtain ⟨right, rightMember, last⟩ := moreWithin middle middleMember
              exact ⟨right, rightMember, inductionHypothesis item member first last⟩
      | mappings lengths within =>
          cases second with
          | identical => exact .mappings lengths within
          | points => contradiction
          | mappings moreLengths moreWithin =>
              refine .mappings (lengths.trans moreLengths) fun entry member => ?_
              obtain ⟨middle, middleMember, firstKey, firstValue⟩ := within entry member
              obtain ⟨right, rightMember, lastKey, lastValue⟩ := moreWithin middle middleMember
              refine ⟨right, rightMember, inductionHypothesis _ ?_ firstKey lastKey,
                inductionHypothesis _ ?_ firstValue lastValue⟩
              · exact key_mem_parts member
              · exact value_mem_parts member
      | dates numbers =>
          cases second with
          | identical => exact .dates numbers
          | points => contradiction
          | dates moreNumbers => exact .dates (numbers.trans moreNumbers)
      | datetimes times =>
          cases second with
          | identical => exact .datetimes times
          | points => contradiction
          | datetimes moreTimes => exact .datetimes (DateTime.same_trans times moreTimes)

/-- No two of the values are the same. -/
def Different (values : List Value) : Prop :=
  values.Pairwise fun first second => first.same second = false

/-- No two keys of a mapping and no two members of a set are the same. -/
def Distinct : Value → Prop
  | .mapping entries => Different (entries.map Prod.fst)
  | .set items => Different items
  | _ => True

/-- Values that are distinct throughout. -/
inductive Proper : Value → Prop where
  | whole {value : Value} :
      value.Distinct → (∀ part ∈ value.parts, Proper part) → Proper value

namespace Proper

theorem distinct {value : Value} (proper : value.Proper) : value.Distinct := by
  cases proper with
  | whole distinct _ => exact distinct

theorem part {value part : Value} (proper : value.Proper) (member : part ∈ value.parts) :
    part.Proper := by
  cases proper with
  | whole _ parts => exact parts part member

theorem key {entries : Entries} (proper : (mapping entries).Proper) {entry : Value × Value}
    (member : entry ∈ entries) : entry.1.Proper :=
  proper.part (key_mem_parts member)

theorem value {entries : Entries} (proper : (mapping entries).Proper) {entry : Value × Value}
    (member : entry ∈ entries) : entry.2.Proper :=
  proper.part (value_mem_parts member)

end Proper

/-- Between lists of one length whose members each have a counterpart, and no two of them the same
one, every member of the second list is a counterpart. -/
theorem exists_of_within {α β : Type} {relation : α → β → Prop} {lefts : List α} {rights : List β}
    (lengths : lefts.length = rights.length)
    (within : ∀ left ∈ lefts, ∃ right ∈ rights, relation left right)
    (apart : lefts.Pairwise fun left other =>
      ∀ right ∈ rights, relation left right → ¬ relation other right) :
    ∀ right ∈ rights, ∃ left ∈ lefts, relation left right := by
  induction lefts generalizing rights with
  | nil =>
      obtain rfl := List.length_eq_zero_iff.mp lengths.symm
      simp
  | cons left rest inductionHypothesis =>
      obtain ⟨right, rightMember, related⟩ := within left List.mem_cons_self
      obtain ⟨before, after, rfl⟩ := List.append_of_mem rightMember
      obtain ⟨leftApart, restApart⟩ := List.pairwise_cons.mp apart
      have mem_iff (other : β) :
          other ∈ before ++ right :: after ↔ other = right ∨ other ∈ before ++ after := by
        simp only [List.mem_append, List.mem_cons]
        exact or_left_comm
      have fewer : rest.length = (before ++ after).length := by
        simp only [List.length_cons, List.length_append] at lengths ⊢
        omega
      have restWithin : ∀ other ∈ rest, ∃ found ∈ before ++ after, relation other found := by
        intro other member
        obtain ⟨found, foundMember, foundRelated⟩ := within other (List.mem_cons_of_mem _ member)
        rcases (mem_iff found).mp foundMember with rfl | elsewhere
        · exact absurd foundRelated (leftApart other member _ rightMember related)
        · exact ⟨found, elsewhere, foundRelated⟩
      have counterparts := inductionHypothesis fewer restWithin
        (restApart.imp fun apart found member => apart found ((mem_iff found).mpr (.inr member)))
      intro found foundMember
      rcases (mem_iff found).mp foundMember with rfl | elsewhere
      · exact ⟨left, List.mem_cons_self, related⟩
      · obtain ⟨other, member, foundRelated⟩ := counterparts found elsewhere
        exact ⟨other, List.mem_cons_of_mem _ member, foundRelated⟩

theorem forall₂_imp_of_mem {α β : Type} {first second : α → β → Prop} {lefts : List α}
    {rights : List β} (implies : ∀ left ∈ lefts, ∀ right ∈ rights, first left right →
      second left right) (related : List.Forall₂ first lefts rights) :
    List.Forall₂ second lefts rights := by
  obtain ⟨lengths, pairs⟩ := List.forall₂_iff_zip.mp related
  refine List.forall₂_iff_zip.mpr ⟨lengths, fun {left right} member => ?_⟩
  obtain ⟨leftMember, rightMember⟩ := List.of_mem_zip member
  exact implies left leftMember right rightMember (pairs member)

theorem same_symm {left right : Value} (leftProper : left.Proper) (rightProper : right.Proper)
    (given : left.same right = true) : right.same left = true := by
  induction left using Value.induct generalizing right with
  | whole left inductionHypothesis =>
      have back {item other : Value} (member : item ∈ left.parts)
          (otherMember : other ∈ right.parts) (same : item.same other = true) :
          other.same item = true :=
        inductionHypothesis item member (leftProper.part member) (rightProper.part otherMember) same
      have distinct := leftProper.distinct
      apply Alike.same
      cases Alike.of_same given with
      | identical => exact .identical _
      | points one other => exact .points other one
      | lists items =>
          exact .lists (forall₂_imp_of_mem (fun item member other otherMember =>
            back member otherMember) items).flip
      | tuples items =>
          exact .tuples (forall₂_imp_of_mem (fun item member other otherMember =>
            back member otherMember) items).flip
      | sets lengths within =>
          refine .sets lengths.symm fun other otherMember => ?_
          obtain ⟨item, member, same⟩ := exists_of_within lengths within
            (distinct.imp_of_mem
              fun {first second} _ secondMember apart found foundMember one two => by
                simp [same_trans one (back secondMember foundMember two)] at apart)
              other otherMember
          exact ⟨item, member, back member otherMember same⟩
      | @mappings lefts rights lengths within =>
          have keys {entry other : Value × Value} (member : entry ∈ lefts)
              (otherMember : other ∈ rights) (same : entry.1.same other.1 = true) :
              other.1.same entry.1 = true :=
            back (key_mem_parts member) (key_mem_parts otherMember) same
          refine .mappings lengths.symm fun other otherMember => ?_
          obtain ⟨entry, member, key, value⟩ := exists_of_within lengths within
            ((List.pairwise_map.mp distinct).imp_of_mem
              fun {first second} _ secondMember apart found foundMember one two => by
                simp [same_trans one.1 (keys secondMember foundMember two.1)] at apart)
              other otherMember
          exact ⟨entry, member, keys member otherMember key,
            back (value_mem_parts member) (value_mem_parts otherMember) value⟩
      | dates numbers => exact .dates numbers.symm
      | datetimes times => exact .datetimes (DateTime.same_symm times)

end Value

end RecordQuery
