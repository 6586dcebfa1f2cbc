import Mathlib.Data.List.Forall2
import RecordQuery.Proofs.Filter.Reading
import RecordQuery.Proofs.Log.Recording
import RecordQuery.Proofs.Value.Numerals

/-!
# Texts of arrays and objects

A layout that keeps the order of keys writes a list item by item and a mapping entry by entry, with
its separators in between. Whether a value has such a text is decided by the keys of its mappings.
-/

namespace RecordQuery.Json

namespace Layout

variable (layout : Layout)

/-- The text of an array, from those of its items. -/
def arrayText (items : List (List Char)) : List Char :=
  '[' :: (Text.joined layout.itemSeparator items ++ [']'])

/-- A member of an object: its key and the text of its value. -/
def memberText (member : List Char × List Char) : List Char :=
  encodeText member.1 ++ layout.keySeparator ++ member.2

def objectText (members : List (List Char × List Char)) : List Char :=
  '\x7b' :: (Text.joined layout.itemSeparator (members.map layout.memberText) ++ ['\x7d'])

/-- Whether an entry is written as a member. -/
def Writes (entry : Value × Value) (member : List Char × List Char) : Prop :=
  keyText entry.1 = .ok member.1 ∧ encode layout entry.2 = .ok member.2

end Layout

variable {layout : Layout}

theorem encodeItems_eq_ok {items : List Value} {texts : List (List Char)} :
    encodeItems layout items = .ok texts ↔
      List.Forall₂ (fun item text => encode layout item = .ok text) items texts := by
  induction items generalizing texts with
  | nil => simp [encodeItems, eq_comm]
  | cons item rest inductionHypothesis =>
      rw [encodeItems, List.forall₂_cons_left_iff]
      simp only [← inductionHypothesis]
      cases encode layout item with
      | error failure => simp
      | ok text => cases encodeItems layout rest <;> simp [Except.map, eq_comm]

/-- A list or a tuple is written item by item. -/
theorem encode_items {value : Value} {items : List Value} (held : value.items? = some items) :
    encode layout value = (encodeItems layout items).map layout.arrayText := by
  cases value with
  | list others | tuple others =>
      obtain rfl := Option.some.inj held
      rw [encode]
      rfl
  | _ => contradiction

theorem encode_items_eq_ok {value : Value} {items : List Value} (held : value.items? = some items)
    {text : List Char} : encode layout value = .ok text ↔
      ∃ texts, List.Forall₂ (fun item text => encode layout item = .ok text) items texts ∧
        text = layout.arrayText texts := by
  rw [encode_items held]
  simp only [← encodeItems_eq_ok]
  cases encodeItems layout items <;> simp [Except.map, eq_comm]

theorem objectPart_eq_ok {entry : Value × Value} {part : List Char} :
    objectPart layout (entry.1, encode layout entry.2) = .ok part ↔
      ∃ member, layout.Writes entry member ∧ part = layout.memberText member := by
  rw [objectPart]
  cases key : keyText entry.1 with
  | error failure => simp [Layout.Writes, key, bind, Except.bind]
  | ok name =>
      cases written : encode layout entry.2 with
      | error failure => simp [Layout.Writes, written, bind, Except.bind]
      | ok text =>
          simp [Layout.Writes, key, written, Layout.memberText, bind, Except.bind, pure,
            Except.pure, eq_comm]

theorem mapM_objectPart_eq_ok {entries : Entries} {parts : List (List Char)} :
    (encodeEntries layout entries).mapM (objectPart layout) = .ok parts ↔
      ∃ members, List.Forall₂ layout.Writes entries members ∧
        parts = members.map layout.memberText := by
  induction entries generalizing parts with
  | nil => simp [encodeEntries, pure, Except.pure, eq_comm]
  | cons entry rest inductionHypothesis =>
      rw [encodeEntries, List.mapM_cons]
      constructor
      · intro mapped
        obtain ⟨part, first, mapped⟩ := except_bind_eq_ok mapped
        obtain ⟨others, rest, mapped⟩ := except_bind_eq_ok mapped
        obtain rfl := Except.ok.inj mapped
        obtain ⟨member, writes, rfl⟩ := objectPart_eq_ok.mp first
        obtain ⟨members, written, rfl⟩ := inductionHypothesis.mp rest
        exact ⟨member :: members, .cons writes written, rfl⟩
      · rintro ⟨_, written, rfl⟩
        cases written with
        | cons writes others =>
            rw [objectPart_eq_ok.mpr ⟨_, writes, rfl⟩, inductionHypothesis.mpr ⟨_, others, rfl⟩]
            rfl

theorem encode_mapping_eq_ok (unsorted : layout.sortKeys = false) {entries : Entries}
    {text : List Char} : encode layout (.mapping entries) = .ok text ↔
      ∃ members, List.Forall₂ layout.Writes entries members ∧ text = layout.objectText members := by
  rw [encode_mapping unsorted]
  constructor
  · intro encoded
    cases mapped : (encodeEntries layout entries).mapM (objectPart layout) with
    | error failure => simp [mapped, Except.map] at encoded
    | ok parts =>
        obtain ⟨members, written, rfl⟩ := mapM_objectPart_eq_ok.mp mapped
        rw [mapped] at encoded
        exact ⟨members, written, (Except.ok.inj encoded).symm⟩
  · rintro ⟨members, written, rfl⟩
    rw [mapM_objectPart_eq_ok.mpr ⟨members, written, rfl⟩]
    rfl

/-- Each item is related to some item of a list if all are related at once. -/
theorem exists_forall₂ {α β : Type} {relation : α → β → Prop} {lefts : List α} :
    (∃ rights, List.Forall₂ relation lefts rights) ↔
      ∀ left ∈ lefts, ∃ right, relation left right := by
  induction lefts with
  | nil => simp
  | cons left rest inductionHypothesis =>
      rw [List.forall_mem_cons, ← inductionHypothesis]
      constructor
      · rintro ⟨_, related⟩
        cases related with
        | cons head tail => exact ⟨⟨_, head⟩, _, tail⟩
      · rintro ⟨⟨right, head⟩, rights, tail⟩
        exact ⟨right :: rights, .cons head tail⟩

theorem exists_encode_items {value : Value} {items : List Value}
    (held : value.items? = some items) : (∃ text, encode layout value = .ok text) ↔
      ∀ item ∈ items, ∃ text, encode layout item = .ok text := by
  simp only [encode_items_eq_ok held]
  rw [← exists_forall₂]
  constructor
  · rintro ⟨_, texts, written, rfl⟩
    exact ⟨texts, written⟩
  · rintro ⟨texts, written⟩
    exact ⟨_, texts, written, rfl⟩

theorem exists_encode_mapping (unsorted : layout.sortKeys = false) {entries : Entries} :
    (∃ text, encode layout (.mapping entries) = .ok text) ↔
      ∀ entry ∈ entries, (∃ name, keyText entry.1 = .ok name) ∧
        ∃ text, encode layout entry.2 = .ok text := by
  have member (entry : Value × Value) : (∃ member, layout.Writes entry member) ↔
      (∃ name, keyText entry.1 = .ok name) ∧ ∃ text, encode layout entry.2 = .ok text := by
    constructor
    · rintro ⟨member, key, value⟩
      exact ⟨⟨_, key⟩, _, value⟩
    · rintro ⟨⟨name, key⟩, text, value⟩
      exact ⟨(name, text), key, value⟩
  simp only [← member]
  rw [← exists_forall₂]
  simp only [encode_mapping_eq_ok unsorted]
  constructor
  · rintro ⟨_, members, written, rfl⟩
    exact ⟨members, written⟩
  · rintro ⟨members, written⟩
    exact ⟨_, members, written, rfl⟩

theorem exists_ok_if (shown : Bool) (text : List Char) (failure : Failure) :
    (∃ found, (if shown = true then Except.ok text else .error failure) = .ok found) ↔
      shown = true := by
  cases shown <;> simp

theorem wholeText_eq_ok {value : Int} {text : List Char} (written : wholeText value = .ok text) :
    Numeral.isShort value = true ∧ text = intText value := by
  rw [wholeText] at written
  split at written
  · exact ⟨‹_›, (Except.ok.inj written).symm⟩
  · contradiction

/-- A value without parts has a text if it can be shown. -/
theorem exists_encode_plain {value : Value} (items : value.items? = none)
    (entries : value.entries? = none) :
    (∃ text, encode layout value = .ok text) ↔ value.isShown = true := by
  cases value with
  | list | tuple | mapping => contradiction
  | int number => exact exists_ok_if _ _ _
  | null | bool | float | text => simp [encode, Value.isShown]
  | _ =>
      simp only [encode]
      exact exists_ok_if _ _ _

theorem exists_encode_count (members : Nat) :
    ∃ text, encode layout (.count members) = .ok text :=
  (exists_encode_plain rfl rfl).mpr (Value.isShown_count members)

end RecordQuery.Json
