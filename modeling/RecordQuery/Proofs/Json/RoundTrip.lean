import RecordQuery.Proofs.Json.Numbers
import RecordQuery.Proofs.Json.Reordering
import RecordQuery.Proofs.Json.Texts
import RecordQuery.Proofs.Value.Proper

/-!
# Values come back from their JSON text

The JSON text of a value is read as the value itself, if the value is made of what JSON has: `null`,
truth values, integers, texts, lists, and mappings with texts as keys. This holds in every layout
with blanks after its commas and colons, or with nothing there. A value is read with as much fuel as
its text is long, whatever ends it.
-/

namespace RecordQuery

open Value (Different)

namespace Entries

/-- Entries whose keys are new and different are written one after another. -/
theorem foldl_insert_of_different (before rest : Entries)
    (different : Different ((before ++ rest).map Prod.fst)) :
    rest.foldl (fun (entries : Entries) pair => entries.insert pair.1 pair.2) before =
      before ++ rest := by
  induction rest generalizing before with
  | nil => simp
  | cons entry others inductionHypothesis =>
      have absent : before.valueOf? entry.1 = none := by
        rw [List.map_append, List.map_cons] at different
        have apart := (List.pairwise_append.mp different).2.2
        rw [valueOf?, Option.map_eq_none_iff, List.find?_eq_none]
        intro other member
        simp [apart other.1 (List.mem_map_of_mem member) entry.1 List.mem_cons_self]
      rw [List.foldl_cons, insert_of_valueOf?_eq_none absent,
        inductionHypothesis _ (by simpa using different), List.append_assoc]
      rfl

theorem ofList_of_different {entries : Entries} (different : Different (entries.map Prod.fst)) :
    ofList entries = entries :=
  foldl_insert_of_different [] entries different

end Entries

namespace Json

/-- A value that JSON has. -/
inductive Native : Value → Prop where
  | null : Native .null
  | bool (value : Bool) : Native (.bool value)
  | int (value : Int) : Native (.int value)
  | text (value : String) : Native (.text value)
  | list {items : List Value} : (∀ item ∈ items, Native item) → Native (.list items)
  | mapping {entries : Entries} : (∀ entry ∈ entries, ∃ name, entry.1 = .text name) →
      (∀ entry ∈ entries, Native entry.2) → Native (.mapping entries)

theorem Native.named {α : Type} (value : α → Value) {members : List (String × α)}
    (parts : ∀ member ∈ members, Native (value member.2)) :
    Native (.mapping (members.map fun member => (.text member.1, value member.2))) := by
  refine .mapping (fun entry held => ?_) fun entry held => ?_
  · obtain ⟨member, -, rfl⟩ := List.mem_map.mp held
    exact ⟨member.1, rfl⟩
  · obtain ⟨member, listed, rfl⟩ := List.mem_map.mp held
    exact parts member listed

variable {layout : Layout} {value : Value}

/-- Such a value has a text if its integers are not too long. -/
theorem Native.exists_encode (unsorted : layout.sortKeys = false) (native : Native value) :
    (∃ text, encode layout value = .ok text) ↔ value.isShown = true := by
  induction native with
  | null | bool | int | text => exact exists_encode_plain rfl rfl
  | list _ inductionHypothesis =>
      rw [exists_encode_items rfl, Value.isShown, Value.areShown_iff]
      exact forall₂_congr inductionHypothesis
  | mapping keys _ inductionHypothesis =>
      rw [exists_encode_mapping unsorted, Value.isShown, Value.entriesShown_iff]
      refine forall₂_congr fun entry member => and_congr ?_ (inductionHypothesis entry member)
      obtain ⟨name, key⟩ := keys entry member
      simp [key, keyText, Value.isShown]

theorem mapM_cases {α β : Type} {write : α → Except Failure β} {items : List α} {failure : Failure}
    (each : ∀ item ∈ items, (∃ part, write item = .ok part) ∨ write item = .error failure) :
    (∃ parts, items.mapM write = .ok parts) ∨ items.mapM write = .error failure := by
  cases written : items.mapM write with
  | ok parts => exact .inl ⟨parts, rfl⟩
  | error other =>
      obtain ⟨item, member, refused⟩ := exists_of_mapM_eq_error written
      rcases each item member with ⟨part, same⟩ | same
      · exact absurd (same.symm.trans refused) (by simp)
      · exact .inr (congrArg Except.error (Except.error.inj (refused.symm.trans same)))

theorem Native.encode_cases (unsorted : layout.sortKeys = false) (native : Native value) :
    (∃ text, encode layout value = .ok text) ∨ encode layout value = .error .invalidValue := by
  induction native with
  | null | bool | text => exact .inl ⟨_, rfl⟩
  | int value =>
      simp only [encode, wholeText]
      split
      · exact .inl ⟨_, rfl⟩
      · exact .inr rfl
  | list _ inductionHypothesis =>
      rw [encode_items rfl, encodeItems_eq_mapM]
      rcases mapM_cases inductionHypothesis with ⟨parts, written⟩ | refused
      · exact .inl ⟨_, by rw [written]; rfl⟩
      · exact .inr (by rw [refused]; rfl)
  | @mapping entries keys _ inductionHypothesis =>
      have each : ∀ member ∈ encodeEntries layout entries,
          (∃ part, objectPart layout member = .ok part) ∨
            objectPart layout member = .error .invalidValue := by
        intro member listed
        rw [encodeEntries_eq_map] at listed
        obtain ⟨entry, held, rfl⟩ := List.mem_map.mp listed
        obtain ⟨name, key⟩ := keys entry held
        rw [objectPart, key]
        rcases inductionHypothesis entry held with ⟨text, written⟩ | refused
        · exact .inl ⟨_, by rw [written]; rfl⟩
        · exact .inr (by rw [refused]; rfl)
      rw [encode_mapping unsorted]
      rcases mapM_cases each with ⟨parts, written⟩ | refused
      · exact .inl ⟨_, by rw [written]; rfl⟩
      · exact .inr (by rw [refused]; rfl)

/-- Such a value is refused for an integer that is too long. -/
theorem Native.encode_of_hidden (unsorted : layout.sortKeys = false) (native : Native value)
    (hidden : value.isShown = false) : encode layout value = .error .invalidValue := by
  refine (native.encode_cases unsorted).resolve_left fun written => ?_
  rw [native.exists_encode unsorted, hidden] at written
  contradiction

/-- A separator of one mark with blanks after it. -/
def Marked (mark : Char) (separator : List Char) : Prop :=
  ∃ blanks, separator = mark :: blanks ∧ ∀ blank ∈ blanks, isSpace blank = true

/-- A layout that is read: it has the marks of JSON and keeps the order of keys. -/
structure Layout.Legible (layout : Layout) : Prop where
  unsorted : layout.sortKeys = false
  items : Marked ',' layout.itemSeparator
  keys : Marked ':' layout.keySeparator

theorem legible_compact : Layout.compact.Legible :=
  ⟨rfl, ⟨[], rfl, by simp⟩, ⟨[], rfl, by simp⟩⟩

theorem legible_spaced : Layout.spaced.Legible :=
  ⟨rfl, ⟨[' '], rfl, by simp [isSpace]⟩, ⟨[' '], rfl, by simp [isSpace]⟩⟩

theorem skipSpaces_append {blanks : List Char} (all : ∀ blank ∈ blanks, isSpace blank = true)
    (text : List Char) : skipSpaces (blanks ++ text) = skipSpaces text :=
  List.dropWhile_append_of_pos all

/-- A text that starts with no blank and closes no array or object. -/
def Starts (text : List Char) : Prop :=
  ∃ first rest, text = first :: rest ∧ isSpace first = false ∧ first ≠ ']' ∧ first ≠ '\x7d'

namespace Starts

variable {text : List Char}

theorem append (starts : Starts text) (rest : List Char) : Starts (text ++ rest) := by
  obtain ⟨first, more, rfl, solid⟩ := starts
  exact ⟨first, more ++ rest, rfl, solid⟩

theorem joined (starts : Starts text) (separator : List Char) (others : List (List Char)) :
    Starts (Text.joined separator (text :: others)) := by
  cases others with
  | nil => exact starts
  | cons second more =>
      rw [Text.joined, List.append_assoc]
      · exact starts.append _
      · simp

theorem skipSpaces (starts : Starts text) : Json.skipSpaces text = text := by
  obtain ⟨first, more, rfl, solid, -⟩ := starts
  exact List.dropWhile_cons_of_neg (by simp [solid])

end Starts

/-- A text that is read as a value wherever it stands. -/
structure Reads (text : List Char) (value : Value) : Prop where
  starts : Starts text
  reads : ∀ fuel rest, text.length ≤ fuel → Ends rest →
    readValue fuel (text ++ rest) = .ok (value, rest)

/-- What opens no text, array or object is read as a scalar. -/
theorem readValue_scalar {first : Char} (opens : first ∉ ['"', '[', '\x7b']) (fuel : Nat)
    (rest : List Char) : readValue (fuel + 1) (first :: rest) = readScalar (first :: rest) := by
  simp only [List.mem_cons, List.not_mem_nil, or_false, not_or] at opens
  rw [readValue]
  · rintro _ same
    exact opens.1 (List.cons.inj same).1
  · rintro _ same
    exact opens.2.1 (List.cons.inj same).1
  · rintro _ same
    exact opens.2.2 (List.cons.inj same).1

namespace Reads

variable {text : List Char} {value : Value}

theorem decode (read : Reads text value) : Json.decode (String.ofList text) = .ok value := by
  have whole := read.reads (2 * text.length + 2) [] (by omega) .nil
  rw [List.append_nil] at whole
  simp only [Json.decode, String.toList_ofList, read.starts.skipSpaces, whole]
  rfl

theorem scalar {first : Char} {more : List Char} (solid : isSpace first = false)
    (apart : first ∉ ['"', '[', ']', '\x7b', '\x7d'])
    (read : ∀ rest, Ends rest → readScalar (first :: more ++ rest) = .ok (value, rest)) :
    Reads (first :: more) value := by
  have opens : first ∉ ['"', '[', '\x7b'] := fun member => apart (by
    simp only [List.mem_cons, List.not_mem_nil, or_false] at member ⊢
    tauto)
  simp only [List.mem_cons, List.not_mem_nil, or_false, not_or] at apart
  refine ⟨⟨first, more, rfl, solid, apart.2.2.1, apart.2.2.2.2⟩, fun fuel rest enough ends => ?_⟩
  cases fuel with
  | zero => simp at enough
  | succ fuel => rw [← read rest ends, List.cons_append, readValue_scalar opens]

theorem null : Reads "null".toList .null := by
  have spelled : "null".toList = ['n', 'u', 'l', 'l'] := by simp
  rw [spelled]
  exact scalar rfl (by decide) fun rest _ => by simp [readScalar, names, List.isPrefixOf]

theorem bool (value : Bool) :
    Reads (if value then "true".toList else "false".toList) (.bool value) := by
  cases value with
  | true =>
      have spelled : "true".toList = ['t', 'r', 'u', 'e'] := by simp
      rw [if_pos rfl, spelled]
      exact scalar rfl (by decide) fun rest _ => by simp [readScalar, names, List.isPrefixOf]
  | false =>
      have spelled : "false".toList = ['f', 'a', 'l', 's', 'e'] := by simp
      rw [if_neg Bool.false_ne_true, spelled]
      exact scalar rfl (by decide) fun rest _ => by simp [readScalar, names, List.isPrefixOf]

theorem int {value : Int} (short : (digitsOf value.natAbs).length ≤ Numeral.maxDigits) :
    Reads (intText value) (.int value) := by
  have read (rest : List Char) (ends : Ends rest) := readScalar_intText short ends
  obtain ⟨first, more, spelled, kind⟩ := exists_intText_eq_cons value
  rw [spelled] at read ⊢
  rcases kind with rfl | digit
  · exact scalar rfl (by decide) read
  · have apart (other : Char) (none : other.isDigit = false) : first ≠ other :=
      ne_of_isDigit digit none
    refine scalar (isSpace_of_isDigit digit) ?_ read
    simp [apart '"' rfl, apart '[' rfl, apart ']' rfl, apart '\x7b' rfl, apart '\x7d' rfl]

theorem text_encodeText (value : String) : Reads (encodeText value.toList) (.text value) := by
  refine ⟨⟨'"', _, rfl, rfl, by decide, by decide⟩, fun fuel rest enough ends => ?_⟩
  cases fuel with
  | zero => simp [encodeText] at enough
  | succ fuel =>
      rw [encodeText, List.cons_append, List.append_assoc, List.singleton_append, readValue,
        readText_escaped]
      rfl

end Reads

structure ReadsMember (member : List Char × List Char) (entry : Value × Value) : Prop where
  key : entry.1 = .text (String.ofList member.1)
  value : Reads member.2 entry.2

theorem skipSpaces_colon (rest : List Char) : skipSpaces (':' :: rest) = ':' :: rest := rfl

section Parts

variable {layout : Layout} (legible : layout.Legible)

include legible

/-- The text of one more part, and of the others after a separator. -/
theorem joined_cons_cons (first second : List Char) (rest : List (List Char)) :
    ∃ blanks, (∀ blank ∈ blanks, isSpace blank = true) ∧
      Text.joined layout.itemSeparator (first :: second :: rest) =
        first ++ ',' :: (blanks ++ Text.joined layout.itemSeparator (second :: rest)) := by
  obtain ⟨blanks, separator, all⟩ := legible.items
  exact ⟨blanks, all, by simp [Text.joined, separator]⟩

theorem readItems_joined {texts : List (List Char)} {items : List Value}
    (read : List.Forall₂ Reads texts items) (nonempty : texts ≠ []) (fuel : Nat) (rest : List Char)
    (enough : (Text.joined layout.itemSeparator texts).length < fuel) :
    readItems fuel (Text.joined layout.itemSeparator texts ++ ']' :: rest) =
      .ok (items, rest) := by
  induction read generalizing fuel with
  | nil => exact absurd rfl nonempty
  | @cons text _ others _ first tail inductionHypothesis =>
      cases fuel with
      | zero => simp at enough
      | succ fuel =>
          cases tail with
          | nil =>
              rw [Text.joined] at enough ⊢
              rw [readItems, first.reads fuel _ (by omega) (by simp [Ends])]
              rfl
          | @cons second _ more _ next =>
              -- The separator pays for the step that reads the first part.
              obtain ⟨blanks, all, whole⟩ := joined_cons_cons legible text second more
              rw [whole, List.length_append, List.length_cons, List.length_append] at enough
              have later := inductionHypothesis (List.cons_ne_nil _ _) fuel (by omega)
              have starts := ((next.starts.joined layout.itemSeparator more).append
                (']' :: rest)).skipSpaces
              rw [whole, List.append_assoc, List.cons_append, List.append_assoc, readItems,
                first.reads fuel _ (by omega) (by simp [Ends])]
              change (readItems fuel (skipSpaces _)).map _ = _
              rw [skipSpaces_append all, starts, later]
              rfl

theorem Reads.array {texts : List (List Char)} {items : List Value}
    (read : List.Forall₂ Reads texts items) : Reads (layout.arrayText texts) (.list items) := by
  refine ⟨⟨'[', _, rfl, rfl, by decide, by decide⟩, fun fuel rest enough ends => ?_⟩
  rw [Layout.arrayText, List.length_cons, List.length_append, List.length_singleton] at enough
  cases fuel with
  | zero => contradiction
  | succ fuel =>
      rw [Layout.arrayText, List.cons_append, List.append_assoc, List.singleton_append, readValue]
      cases read with
      | nil => rfl
      | @cons text _ others _ first tail =>
          have items := readItems_joined legible (.cons first tail) (List.cons_ne_nil _ _) fuel rest
            (by omega)
          have starts := (first.starts.joined layout.itemSeparator others).append (']' :: rest)
          rw [starts.skipSpaces]
          split
          · rename_i closed
            obtain ⟨head, more, opened, -, notClosed, -⟩ := starts
            exact absurd (List.cons.inj (opened.symm.trans closed)).1 notClosed
          · rw [items]
            rfl

/-- The text of a member: a string, a colon and, after blanks, the text of its value. -/
theorem memberText_eq (member : List Char × List Char) :
    ∃ blanks, (∀ blank ∈ blanks, isSpace blank = true) ∧ layout.memberText member =
      '"' :: (member.1.flatMap escaped ++ '"' :: ':' :: (blanks ++ member.2)) := by
  obtain ⟨blanks, separator, all⟩ := legible.keys
  exact ⟨blanks, all, by simp [Layout.memberText, encodeText, separator]⟩

theorem starts_memberText (member : List Char × List Char) :
    Starts (layout.memberText member) := by
  obtain ⟨blanks, -, whole⟩ := memberText_eq legible member
  rw [whole]
  exact ⟨'"', _, rfl, rfl, by decide, by decide⟩

theorem readEntries_memberText {member : List Char × List Char} {entry : Value × Value}
    (read : ReadsMember member entry) {fuel : Nat} {rest : List Char}
    (enough : (layout.memberText member).length ≤ fuel) (ends : Ends rest) :
    readEntries (fuel + 1) (layout.memberText member ++ rest) =
      match skipSpaces rest with
      | '\x7d' :: final => .ok ([entry], final)
      | ',' :: more =>
          (readEntries fuel (skipSpaces more)).map fun (entries, final) => (entry :: entries, final)
      | _ => .error .malformed := by
  rcases entry with ⟨key, value⟩
  obtain rfl : key = .text (String.ofList member.1) := read.key
  obtain ⟨blanks, all, whole⟩ := memberText_eq legible member
  rw [whole, List.length_cons, List.length_append, List.length_cons, List.length_cons,
    List.length_append] at enough
  have text := readText_escaped (String.ofList member.1) (':' :: (blanks ++ (member.2 ++ rest)))
  rw [String.toList_ofList] at text
  have inside := read.value.reads fuel rest (by omega) ends
  have starts := (read.value.starts.append rest).skipSpaces
  rw [whole, List.cons_append, List.append_assoc, List.cons_append, List.cons_append,
    List.append_assoc, readEntries, text]
  simp only [skipSpaces_colon, skipSpaces_append all]
  split
  · rename_i failed
    rw [starts, inside] at failed
    contradiction
  · rename_i done
    rw [starts, inside] at done
    cases done
    rfl

theorem readEntries_joined {members : List (List Char × List Char)} {entries : Entries}
    (read : List.Forall₂ ReadsMember members entries) (nonempty : members ≠ []) (fuel : Nat)
    (rest : List Char)
    (enough : (Text.joined layout.itemSeparator (members.map layout.memberText)).length < fuel) :
    readEntries fuel
        (Text.joined layout.itemSeparator (members.map layout.memberText) ++ '\x7d' :: rest) =
      .ok (entries, rest) := by
  induction read generalizing fuel with
  | nil => exact absurd rfl nonempty
  | @cons member _ others _ first tail inductionHypothesis =>
      cases fuel with
      | zero => simp at enough
      | succ fuel =>
          cases tail with
          | nil =>
              rw [List.map_singleton, Text.joined] at enough ⊢
              rw [readEntries_memberText legible first (by omega) (by simp [Ends])]
              rfl
          | @cons second _ more _ next =>
              obtain ⟨blanks, all, whole⟩ := joined_cons_cons legible (layout.memberText member)
                (layout.memberText second) (more.map layout.memberText)
              rw [List.map_cons, List.map_cons, whole, List.length_append, List.length_cons,
                List.length_append] at enough
              have later := inductionHypothesis (List.cons_ne_nil _ _) fuel (by
                rw [List.map_cons]
                omega)
              have starts := (((starts_memberText legible second).joined layout.itemSeparator
                (more.map layout.memberText)).append ('\x7d' :: rest)).skipSpaces
              rw [List.map_cons, List.map_cons, whole, List.append_assoc, List.cons_append,
                List.append_assoc, readEntries_memberText legible first (by omega) (by simp [Ends])]
              change (readEntries fuel (skipSpaces _)).map _ = _
              rw [skipSpaces_append all, starts, ← List.map_cons, later]
              rfl

theorem Reads.object {members : List (List Char × List Char)} {entries : Entries}
    (read : List.Forall₂ ReadsMember members entries)
    (different : Different (entries.map Prod.fst)) :
    Reads (layout.objectText members) (.mapping entries) := by
  refine ⟨⟨'\x7b', _, rfl, rfl, by decide, by decide⟩, fun fuel rest enough ends => ?_⟩
  rw [Layout.objectText, List.length_cons, List.length_append, List.length_singleton] at enough
  cases fuel with
  | zero => contradiction
  | succ fuel =>
      rw [Layout.objectText, List.cons_append, List.append_assoc, List.singleton_append, readValue]
      cases read with
      | nil => rfl
      | @cons member _ others _ first tail =>
          have inside := readEntries_joined legible (.cons first tail) (List.cons_ne_nil _ _) fuel
            rest (by omega)
          have starts := ((starts_memberText legible member).joined layout.itemSeparator
            (others.map layout.memberText)).append ('\x7d' :: rest)
          rw [List.map_cons] at inside ⊢
          rw [starts.skipSpaces]
          split
          · rename_i closed
            obtain ⟨head, more, opened, -, -, notClosed⟩ := starts
            exact absurd (List.cons.inj (opened.symm.trans closed)).1 notClosed
          · rw [inside]
            change Except.ok (Value.mapping (Entries.ofList _), _) = _
            rw [Entries.ofList_of_different different]

end Parts

theorem forall₂_back {α β : Type} {relation : α → β → Prop} {other : β → α → Prop}
    {lefts : List α} {rights : List β} (related : List.Forall₂ relation lefts rights)
    (back : ∀ left ∈ lefts, ∀ right, relation left right → other right left) :
    List.Forall₂ other rights lefts := by
  induction related with
  | nil => exact .nil
  | cons first _ inductionHypothesis =>
      obtain ⟨here, later⟩ := List.forall_mem_cons.mp back
      exact .cons (here _ first) (inductionHypothesis later)

theorem reads_of_encode {layout : Layout} (legible : layout.Legible) {value : Value}
    (native : Native value) (proper : value.Proper) {text : List Char}
    (encoded : encode layout value = .ok text) : Reads text value := by
  induction native generalizing text with
  | null =>
      obtain rfl := Except.ok.inj encoded
      exact .null
  | bool value =>
      obtain rfl := Except.ok.inj encoded
      exact .bool value
  | int value =>
      obtain ⟨short, rfl⟩ := wholeText_eq_ok encoded
      exact .int (of_decide_eq_true short)
  | text value =>
      obtain rfl := Except.ok.inj encoded
      exact .text_encodeText value
  | @list items _ inductionHypothesis =>
      obtain ⟨texts, written, rfl⟩ := (encode_items_eq_ok rfl).mp encoded
      refine .array legible (forall₂_back written fun item member text encoded => ?_)
      exact inductionHypothesis item member (proper.part member) encoded
  | @mapping entries keys _ inductionHypothesis =>
      -- A reader keeps the last of two members with one key, so different keys are needed here.
      obtain ⟨members, written, rfl⟩ := (encode_mapping_eq_ok legible.unsorted).mp encoded
      refine .object legible (forall₂_back written fun entry member other writes => ?_)
        proper.different
      obtain ⟨name, key⟩ := keys entry member
      have spelled := writes.1
      rw [key] at spelled
      refine ⟨?_, inductionHypothesis entry member (proper.value member) writes.2⟩
      rw [key, ← Except.ok.inj spelled, String.ofList_toList]

/-- A value that JSON has comes back from its text. -/
theorem decode_of_encode {value : Value} (native : Native value) (proper : value.Proper)
    {text : List Char} (encoded : encode Layout.compact value = .ok text) :
    decode (String.ofList text) = .ok value :=
  (reads_of_encode legible_compact native proper encoded).decode

/-- An object is refused for an integer of too many digits. -/
theorem decode_of_long {digits : List Char} (numeral : IsNumeral digits)
    (long : Numeral.maxDigits < digits.length) (name : String) :
    decode (String.ofList ('\x7b' :: (encodeText name.toList ++ ':' :: (digits ++ ['\x7d'])))) =
      .error .oversized := by
  obtain ⟨first, others, rfl⟩ := List.exists_cons_of_ne_nil numeral.nonempty
  have digit := numeral.all first List.mem_cons_self
  have apart (other : Char) (none : other.isDigit = false) : first ≠ other :=
    ne_of_isDigit digit none
  have ends : Ends ['\x7d'] := by simp [Ends]
  have number (fuel : Nat) :
      readValue (fuel + 1) (first :: (others ++ ['\x7d'])) = .error .oversized := by
    have refused := readNumber_append numeral ends false
    rw [if_pos long] at refused
    rw [readValue_scalar (by simp [apart '"' rfl, apart '[' rfl, apart '\x7b' rfl])]
    exact (readScalar_numeral numeral ['\x7d']).1.trans refused
  have spaces : skipSpaces (first :: (others ++ ['\x7d'])) = first :: (others ++ ['\x7d']) :=
    List.dropWhile_cons_of_neg (by simp [isSpace_of_isDigit digit])
  have entries (fuel : Nat) : readEntries (fuel + 2)
      (encodeText name.toList ++ ':' :: (first :: others ++ ['\x7d'])) = .error .oversized := by
    rw [encodeText, List.cons_append, List.append_assoc, List.singleton_append, readEntries,
      readText_escaped]
    simp only [List.cons_append, skipSpaces_colon, spaces, number]
  have value (fuel : Nat) : readValue (fuel + 3)
      ('\x7b' :: (encodeText name.toList ++ ':' :: (first :: others ++ ['\x7d']))) =
        .error .oversized := by
    rw [readValue]
    exact congrArg (Except.map _) (entries fuel)
  have enough (length : Nat) : 2 * (length + 1) + 2 = 2 * length + 1 + 3 := by omega
  simp only [decode, String.toList_ofList, List.length_cons, enough]
  have start : skipSpaces
      ('\x7b' :: (encodeText name.toList ++ ':' :: (first :: others ++ ['\x7d']))) =
        '\x7b' :: (encodeText name.toList ++ ':' :: (first :: others ++ ['\x7d'])) := rfl
  rw [start, value]

end Json

end RecordQuery
