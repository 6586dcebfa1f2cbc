import Mathlib.Data.List.Perm.Basic
import RecordQuery.Proofs.Json.Layouts
import RecordQuery.Proofs.Value.Interchange

/-!
# JSON texts of equal values

Whether a value has a JSON text is decided by the keys of its mappings, so that equal values have
one or have none. Texts of values that are identical but for the order of entries are identical but
for the order of members.
-/

namespace RecordQuery

/-- Values that are identical but for the order of entries in mappings. -/
inductive Value.Rearranged : Value → Value → Prop where
  | identical (value : Value) : Rearranged value value
  | list {lefts rights : List Value} : lefts.length = rights.length →
      (∀ item other, (item, other) ∈ lefts.zip rights → Rearranged item other) →
      Rearranged (.list lefts) (.list rights)
  | tuple {lefts rights : List Value} : lefts.length = rights.length →
      (∀ item other, (item, other) ∈ lefts.zip rights → Rearranged item other) →
      Rearranged (.tuple lefts) (.tuple rights)
  | mapping {lefts middles rights : Entries} : lefts.map Prod.fst = middles.map Prod.fst →
      (∀ entry other, (entry, other) ∈ lefts.zip middles → Rearranged entry.2 other.2) →
      middles.Perm rights → Rearranged (.mapping lefts) (.mapping rights)

theorem Value.rearranged_of_perm {lefts rights : Entries} (order : lefts.Perm rights) :
    Rearranged (.mapping lefts) (.mapping rights) := by
  refine .mapping rfl (fun entry other member => ?_) order
  have identical : List.Forall₂ (fun entry other : Value × Value => entry = other) lefts lefts :=
    List.forall₂_same.mpr fun _ _ => rfl
  rw [List.forall₂_zip identical member]
  exact .identical _

namespace Json

def arrayText (items : List (List Char)) : List Char :=
  '[' :: (Text.joined Layout.compact.itemSeparator items ++ [']'])

/-- A member of an object: its key and the text of its value. -/
def memberText (member : List Char × List Char) : List Char :=
  encodeText member.1 ++ Layout.compact.keySeparator ++ member.2

def objectText (members : List (List Char × List Char)) : List Char :=
  '\x7b' :: (Text.joined Layout.compact.itemSeparator (members.map memberText) ++ ['\x7d'])

/-- JSON texts that are identical but for the order of members in objects. -/
inductive Reordered : List Char → List Char → Prop where
  | identical {value : Value} {text : List Char} :
      encode Layout.compact value = .ok text → Reordered text text
  | array {lefts rights : List (List Char)} : lefts.length = rights.length →
      (∀ item other, (item, other) ∈ lefts.zip rights → Reordered item other) →
      Reordered (arrayText lefts) (arrayText rights)
  | object {lefts middles rights : List (List Char × List Char)} :
      lefts.map Prod.fst = middles.map Prod.fst →
      (∀ member other, (member, other) ∈ lefts.zip middles → Reordered member.2 other.2) →
      middles.Perm rights → Reordered (objectText lefts) (objectText rights)

/-- Whether a value has a JSON text. -/
def IsWritten (value : Value) : Prop := ∃ text, encode Layout.compact value = .ok text

theorem isWritten_items {value : Value} {items : List Value} (held : value.items? = some items) :
    IsWritten value ↔ ∀ item ∈ items, IsWritten item :=
  exists_encode_items held

theorem isWritten_mapping {entries : Entries} : IsWritten (.mapping entries) ↔
    ∀ entry ∈ entries, (∃ name, keyText entry.1 = .ok name) ∧ IsWritten entry.2 :=
  exists_encode_mapping rfl

theorem isWritten_plain {value : Value} (items : value.items? = none)
    (entries : value.entries? = none) : IsWritten value ↔ value.isShown = true :=
  exists_encode_plain items entries

theorem keyText_of_point {value : Value} {point : Extended} (found : value.point? = some point) :
    (∃ name, keyText value = .ok name) ↔ value.isShown = true := by
  cases value with
  | bool | float => simp [keyText, Value.isShown]
  | int => exact exists_ok_if _ _ _
  | _ => contradiction

theorem keyText_of_same {key other : Value} (same : other.same key = true)
    (spelled : ∃ name, keyText key = .ok name) : ∃ name, keyText other = .ok name := by
  cases Value.Alike.of_same same with
  | identical => exact spelled
  | points otherPoint point =>
      exact (keyText_of_point otherPoint).mpr
        (Value.isShown_of_same same ((keyText_of_point point).mp spelled))
  | _ =>
      obtain ⟨name, spelled⟩ := spelled
      contradiction

theorem IsWritten.of_same {left right : Value} (same : right.same left = true)
    (written : IsWritten left) : IsWritten right := by
  induction right using Value.induct generalizing left with
  | whole right inductionHypothesis =>
      have items {lefts rights : List Value} (held : right.items? = some rights)
          (otherHeld : left.items? = some lefts)
          (related : List.Forall₂ (fun right left => right.same left = true) rights lefts) :
          IsWritten right := by
        refine (isWritten_items held).mpr fun item member => ?_
        obtain ⟨other, otherMember, same⟩ := (Matched.of_forall₂ related).forth item member
        exact inductionHypothesis item (Value.mem_parts held member) same
          ((isWritten_items otherHeld).mp written other otherMember)
      have plain (rightItems : right.items? = none) (rightEntries : right.entries? = none)
          (leftItems : left.items? = none) (leftEntries : left.entries? = none) :
          IsWritten right :=
        (isWritten_plain rightItems rightEntries).mpr
          (Value.isShown_of_same same ((isWritten_plain leftItems leftEntries).mp written))
      cases Value.Alike.of_same same with
      | identical => exact written
      | points rightPoint leftPoint =>
          exact plain (Value.items?_of_point rightPoint) (Value.entries?_of_point rightPoint)
            (Value.items?_of_point leftPoint) (Value.entries?_of_point leftPoint)
      | lists related => exact items rfl rfl related
      | tuples related => exact items rfl rfl related
      | sets | dates | datetimes => exact plain rfl rfl rfl rfl
      | mappings _ within =>
          refine isWritten_mapping.mpr fun entry member => ?_
          obtain ⟨other, otherMember, keys, values⟩ := within entry member
          obtain ⟨key, value⟩ := isWritten_mapping.mp written other otherMember
          exact ⟨keyText_of_same keys key,
            inductionHypothesis entry.2 (Value.value_mem_parts member) values value⟩

theorem encodeItems_eq_mapM (layout : Layout) (items : List Value) :
    encodeItems layout items = items.mapM (encode layout) := by
  induction items with
  | nil => rfl
  | cons item rest inductionHypothesis =>
      rw [encodeItems, List.mapM_cons, inductionHypothesis]
      cases encode layout item with
      | error failure => rfl
      | ok text => cases rest.mapM (encode layout) <;> rfl

theorem exists_of_mapM_eq_error {α β : Type} {write : α → Except Failure β} {items : List α}
    {failure : Failure} (refused : items.mapM write = .error failure) :
    ∃ item ∈ items, write item = .error failure := by
  induction items with
  | nil => contradiction
  | cons item rest inductionHypothesis =>
      rw [List.mapM_cons] at refused
      cases first : write item with
      | error other =>
          rw [first] at refused
          exact ⟨item, List.mem_cons_self, first.trans (congrArg _ (Except.error.inj refused))⟩
      | ok result =>
          cases others : rest.mapM write with
          | error other =>
              rw [first, others] at refused
              obtain rfl : other = failure := Except.error.inj refused
              obtain ⟨found, member, failed⟩ := inductionHypothesis others
              exact ⟨found, List.mem_cons_of_mem _ member, failed⟩
          | ok results => simp [first, others, bind, Except.bind, pure, Except.pure] at refused

theorem encodeEntries_eq_map (layout : Layout) (entries : Entries) : encodeEntries layout entries =
    entries.map fun entry => (entry.1, encode layout entry.2) := by
  induction entries with
  | nil => rfl
  | cons entry rest inductionHypothesis => rw [encodeEntries, inductionHypothesis, List.map_cons]

/-- Lists whose members correspond in three ways do so in the fourth. -/
theorem forall₂_square {α β γ δ : Type} {top : α → β → Prop} {left : α → γ → Prop}
    {right : β → δ → Prop} {bottom : γ → δ → Prop}
    (closes : ∀ one other first second, top one other → left one first → right other second →
      bottom first second)
    {ones : List α} {others : List β} {firsts : List γ} {seconds : List δ}
    (tops : List.Forall₂ top ones others) (lefts : List.Forall₂ left ones firsts)
    (rights : List.Forall₂ right others seconds) : List.Forall₂ bottom firsts seconds := by
  induction tops generalizing firsts seconds with
  | nil =>
      cases lefts
      cases rights
      exact .nil
  | cons head _ inductionHypothesis =>
      cases lefts with
      | cons leftHead leftTail =>
          cases rights with
          | cons rightHead rightTail =>
              exact .cons (closes _ _ _ _ head leftHead rightHead)
                (inductionHypothesis leftTail rightTail)

/-- Values whose texts are identical but for the order of members. -/
def WrittenAlike (left right : Value) : Prop :=
  ∀ leftText rightText, encode Layout.compact left = .ok leftText →
    encode Layout.compact right = .ok rightText → Reordered leftText rightText

theorem WrittenAlike.items {left right : Value} {lefts rights : List Value}
    (held : left.items? = some lefts) (otherHeld : right.items? = some rights)
    (alike : List.Forall₂ WrittenAlike lefts rights) : WrittenAlike left right := by
  intro leftText rightText leftWritten rightWritten
  obtain ⟨leftTexts, leftItems, rfl⟩ := (encode_items_eq_ok held).mp leftWritten
  obtain ⟨rightTexts, rightItems, rfl⟩ := (encode_items_eq_ok otherHeld).mp rightWritten
  have texts : List.Forall₂ Reordered leftTexts rightTexts :=
    forall₂_square (fun _ _ text otherText alike => alike text otherText) alike leftItems rightItems
  obtain ⟨lengths, pairs⟩ := List.forall₂_iff_zip.mp texts
  exact .array lengths fun _ _ => pairs

theorem WrittenAlike.mapping {lefts middles rights : Entries}
    (alike : List.Forall₂ (fun entry other => entry.1 = other.1 ∧ WrittenAlike entry.2 other.2)
      lefts middles) (order : middles.Perm rights) :
    WrittenAlike (.mapping lefts) (.mapping rights) := by
  intro leftText rightText leftWritten rightWritten
  obtain ⟨leftMembers, leftEntries, rfl⟩ := (encode_mapping_eq_ok rfl).mp leftWritten
  obtain ⟨rightMembers, rightEntries, rfl⟩ := (encode_mapping_eq_ok rfl).mp rightWritten
  obtain ⟨members, entries, sameMembers⟩ := List.perm_comp_forall₂ order rightEntries
  have pairs : List.Forall₂ (fun member other => member.1 = other.1 ∧ Reordered member.2 other.2)
      leftMembers members := by
    refine forall₂_square ?_ alike leftEntries entries
    rintro entry other member otherMember ⟨keys, values⟩ ⟨key, text⟩ ⟨otherKey, otherText⟩
    rw [keys] at key
    exact ⟨Except.ok.inj (key.symm.trans otherKey), values _ _ text otherText⟩
  obtain ⟨-, texts⟩ := List.forall₂_iff_zip.mp pairs
  refine .object ?_ (fun _ _ member => (texts member).2) sameMembers
  rw [← List.forall₂_eq_eq_eq, List.forall₂_map_left_iff, List.forall₂_map_right_iff]
  exact pairs.imp fun _ _ both => both.1

/-- Texts of values that are identical but for the order of entries are identical but for the order
of members. -/
theorem writtenAlike_of_rearranged {left right : Value} (rearranged : left.Rearranged right) :
    WrittenAlike left right := by
  induction rearranged with
  | identical value =>
      intro leftText rightText leftWritten rightWritten
      obtain rfl := Except.ok.inj (leftWritten.symm.trans rightWritten)
      exact .identical leftWritten
  | list lengths _ inductionHypothesis | tuple lengths _ inductionHypothesis =>
      exact .items rfl rfl (List.forall₂_iff_zip.mpr ⟨lengths, inductionHypothesis _ _⟩)
  | @mapping lefts middles rights keys _ order inductionHypothesis =>
      have same : List.Forall₂ (fun entry other => entry.1 = other.1) lefts middles := by
        rw [← List.forall₂_eq_eq_eq, List.forall₂_map_left_iff, List.forall₂_map_right_iff] at keys
        exact keys
      obtain ⟨lengths, pairs⟩ := List.forall₂_iff_zip.mp same
      exact .mapping (List.forall₂_iff_zip.mpr
        ⟨lengths, fun member => ⟨pairs member, inductionHypothesis _ _ member⟩⟩) order

end Json

end RecordQuery
