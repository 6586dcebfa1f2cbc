import RecordQuery.Proofs.Json.Characters
import RecordQuery.Proofs.Json.RoundTrip
import RecordQuery.Proofs.Log.Enclosing

/-!
# Entries come back from their lines

The line of an entry is printable ASCII, and it is read as the entry: its time, its level, its
message and its fields, in this order. So no message and no field can end a line, and lines that are
written one after another are read as their entries. Only an integer that has no numeral keeps an
entry from having a line.
-/

namespace RecordQuery.Log

/-- Fields with different names, none of them that of a part of every entry, whose values are such
as JSON has. -/
structure Faithful (fields : Entries) : Prop where
  named : WellNamed fields
  native : ∀ field ∈ fields, Json.Native field.2
  proper : ∀ field ∈ fields, field.2.Proper

def entryOf (time : String) (tag message : Value) (fields : Entries) : Entries :=
  (.text "timestamp", .text time) :: (.text "level", tag) :: (.text "message", message) :: fields

section Entry

variable {fields : Entries} (time : String) (tag message : Value)

theorem different_entryOf (named : WellNamed fields) :
    Value.Different ((entryOf time tag message fields).map Prod.fst) := by
  have apart {name : String} (listed : name ∈ entryNames) :
      ∀ key ∈ fields.map Prod.fst, (Value.text name).same key = false := by
    intro key member
    obtain ⟨field, held, rfl⟩ := List.mem_map.mp member
    obtain ⟨other, key, free⟩ := named.names field held
    rw [key, Value.same_text_eq_false]
    rintro ⟨⟩
    exact free listed
  refine .cons ?_ (.cons ?_ (.cons ?_ named.different))
  · exact List.forall_mem_cons.mpr ⟨by simp [Value.same], List.forall_mem_cons.mpr
      ⟨by simp [Value.same], apart (by simp [entryNames])⟩⟩
  · exact List.forall_mem_cons.mpr ⟨by simp [Value.same], apart (by simp [entryNames, reserved])⟩
  · exact apart (by simp [entryNames, reserved])

theorem parts_eq_entryOf (named : WellNamed fields) :
    parts time tag message fields = entryOf time tag message fields :=
  Entries.foldl_insert_of_different
    [(.text "timestamp", .text time), (.text "level", tag), (.text "message", message)] fields
    (different_entryOf time tag message named)

end Entry

/-- A level has a text as its tag, or one of the numbers of named levels, unless it is refused. -/
theorem levelTag_cases (level : Value) :
    (∃ failure, levelTag level = .error failure) ∨ (∃ name, levelTag level = .ok (.text name)) ∨
      ∃ entry ∈ levels, levelTag level = .ok (.int entry.2) := by
  have unnamed (value : Value) : (∃ failure, unnamedTag value = .error failure) ∨
      ∃ name, unnamedTag value = .ok (.text name) := by
    rw [unnamedTag]
    split
    · exact .inr ⟨_, rfl⟩
    · exact .inl ⟨_, rfl⟩
  unfold levelTag
  split
  · exact .inl ⟨_, rfl⟩
  · split
    · exact .inr (.inl ⟨_, rfl⟩)
    · split
      · rename_i found
        exact .inr (.inr ⟨_, List.mem_of_find?_eq_some found, rfl⟩)
      · exact (unnamed _).imp_right .inl
    · exact (unnamed _).imp_right .inl
    · exact .inl ⟨_, rfl⟩
    · exact (unnamed _).imp_right .inl

theorem levelTag_number (level : Int) :
    if Numeral.isShort level then ∃ name, levelTag (.int level) = .ok (.text name)
    else levelTag (.int level) = .error .invalidValue := by
  split
  · exact levelTag_int ‹_›
  · rename_i long
    have short : ∀ entry ∈ levels, Numeral.isShort entry.2 = true := by
      simp only [levels]
      decide
    have unnamed : levels.find? (fun entry => (Value.int level).equal (.int entry.2)) = none := by
      rw [List.find?_eq_none]
      intro entry listed equal
      have same : (Value.int level).same (.int entry.2) = true := by
        simpa [Value.equal, Value.isNan] using equal
      exact long (Value.isShown_of_same same (short entry listed))
    simp [levelTag, Value.isKey, unnamed, unnamedTag, Value.isShown, long]

/-- The tag of a level is a text or a small number. -/
theorem native_of_levelTag {level tag : Value} (tagged : levelTag level = .ok tag) :
    Json.Native tag ∧ tag.Proper ∧ tag.isShown = true := by
  have short : ∀ entry ∈ levels, Numeral.isShort entry.2 = true := by
    simp only [levels]
    decide
  rcases levelTag_cases level with ⟨failure, refused⟩ | ⟨name, named⟩ | ⟨entry, listed, numbered⟩
  · simp [refused] at tagged
  · obtain rfl := Except.ok.inj (named.symm.trans tagged)
    exact ⟨.text name, .simple rfl, rfl⟩
  · obtain rfl := Except.ok.inj (numbered.symm.trans tagged)
    exact ⟨.int _, .simple rfl, short entry listed⟩

/-- A line is an entry: it is printable ASCII and is read as the entry. -/
structure IsLine (entry : Entries) (text : String) : Prop where
  plain : Json.Plain text.toList
  decoded : Json.decode text = .ok (.mapping entry)

theorem Faithful.nil : Faithful [] := ⟨.nil, List.forall_mem_nil _, List.forall_mem_nil _⟩

section Faithful

variable {fields : Entries} (faithful : Faithful fields) {level tag : Value}
  (tagged : levelTag level = .ok tag) (time message : String)

include faithful tagged

theorem Faithful.native_entryOf :
    Json.Native (.mapping (entryOf time tag (.text message) fields)) := by
  refine .mapping ?_ ?_
  · exact List.forall_mem_cons.mpr ⟨⟨_, rfl⟩, List.forall_mem_cons.mpr
      ⟨⟨_, rfl⟩, List.forall_mem_cons.mpr ⟨⟨_, rfl⟩, faithful.named.texts⟩⟩⟩
  · exact List.forall_mem_cons.mpr ⟨.text _, List.forall_mem_cons.mpr
      ⟨(native_of_levelTag tagged).1, List.forall_mem_cons.mpr ⟨.text _, faithful.native⟩⟩⟩

theorem Faithful.proper_entryOf :
    (Value.mapping (entryOf time tag (.text message) fields)).Proper := by
  refine .mapping (different_entryOf time tag _ faithful.named) ?_
  refine List.forall_mem_cons.mpr ⟨⟨.simple rfl, .simple rfl⟩, List.forall_mem_cons.mpr
    ⟨⟨.simple rfl, (native_of_levelTag tagged).2.1⟩, List.forall_mem_cons.mpr
      ⟨⟨.simple rfl, .simple rfl⟩, ?_⟩⟩⟩
  intro field member
  obtain ⟨name, key⟩ := faithful.named.texts field member
  exact ⟨key ▸ .simple rfl, faithful.proper field member⟩

/-- Fields have a line, which is that of the entry with these fields, unless an integer in them has
no numeral. -/
theorem Faithful.line_cases :
    if (Value.mapping fields).isShown then
      ∃ text, line time level (.text message) fields = .ok text ∧
        IsLine (entryOf time tag (.text message) fields) text
    else line time level (.text message) fields = .error .invalidValue := by
  have native := faithful.native_entryOf tagged time message
  have proper := faithful.proper_entryOf tagged time message
  have shown : (Value.mapping (entryOf time tag (.text message) fields)).isShown =
      (Value.mapping fields).isShown := by
    simp [entryOf, Value.isShown, Value.entriesShown, (native_of_levelTag tagged).2.2]
  have written : line time level (.text message) fields = (Json.encode Json.Layout.spaced
      (.mapping (entryOf time tag (.text message) fields))).map String.ofList := by
    rw [line, faithful.named.clashes, tagged]
    simp only [Bool.false_eq_true, if_false, parts_eq_entryOf time tag _ faithful.named]
  rw [written, ← shown]
  split
  · obtain ⟨text, encoded⟩ := (native.exists_encode Json.legible_spaced.unsorted).mpr ‹_›
    rw [encoded]
    refine ⟨String.ofList text, rfl, ?_, ?_⟩
    · rw [String.toList_ofList]
      exact Json.plain_of_encode rfl Json.plain_spaced.1 Json.plain_spaced.2 encoded
    · exact (Json.reads_of_encode Json.legible_spaced native proper encoded).decode
  · rename_i hidden
    rw [native.encode_of_hidden Json.legible_spaced.unsorted (by simpa using hidden)]
    rfl

end Faithful

theorem forall_value_insert {holds : Value → Prop} {entries : Entries} {value : Value}
    (there : ∀ entry ∈ entries, holds entry.2) (written : holds value) (key : Value) :
    ∀ entry ∈ entries.insert key value, holds entry.2 := by
  intro entry member
  rcases Entries.mem_insert member with old | ⟨same, -⟩
  · exact there entry old
  · exact same ▸ written

theorem forall_value_withDefault {holds : Value → Prop} {fields : Entries} {value : Value}
    (own : ∀ field ∈ fields, holds field.2) (added : holds value) (key : Value) :
    ∀ field ∈ withDefault fields key value, holds field.2 := by
  rw [withDefault]
  split
  · exact own
  · exact forall_value_insert own added key

/-- What holds of the values of fields and context, and of texts, holds of those of the complete
fields. -/
theorem forall_value_completeFields {holds : Value → Prop} (texts : ∀ text, holds (.text text))
    {session : Session} {fields : Entries} (own : ∀ field ∈ fields, holds field.2)
    (context : ∀ entry ∈ session.context, holds entry.2) (component : String) :
    ∀ field ∈ completeFields session component fields, holds field.2 := by
  have extended (context found : Entries) (added : ∀ entry ∈ context, holds entry.2)
      (there : ∀ field ∈ found, holds field.2) :
      ∀ field ∈ withContext context found, holds field.2 := by
    induction context generalizing found with
    | nil => exact there
    | cons entry rest inductionHypothesis =>
        obtain ⟨first, others⟩ := List.forall_mem_cons.mp added
        exact inductionHypothesis _ others (forall_value_withDefault there first entry.1)
  rw [completeFields_eq]
  refine extended _ _ context ?_
  have withComponent := forall_value_withDefault own (texts component) (.text "component")
  cases session.correlation? with
  | none => exact withComponent
  | some correlation => exact forall_value_insert withComponent (texts correlation) _

theorem Faithful.completeFields {fields : Entries} (faithful : Faithful fields) {session : Session}
    (context : Faithful session.context) (component : String) :
    Faithful (Log.completeFields session component fields) where
  named := faithful.named.completeFields context.named component
  native := forall_value_completeFields .text faithful.native context.native component
  proper := forall_value_completeFields (fun _ => .simple rfl) faithful.proper context.proper
    component

theorem Faithful.entry {call : Call} (faithful : Faithful call.fields) {session : Session}
    (context : Faithful session.context) : Faithful (call.entry session) := by
  rw [Call.entry]
  cases call.component? with
  | none => exact faithful
  | some component => exact faithful.completeFields context component

/-- A file whose last line has ended. -/
def Ended (text : String) : Prop := text = "" ∨ ∃ front, text = front ++ "\n"

/-- The lines of a text, without the empty ones. -/
def linesOf (text : String) : List String := (Text.split '\n' text).filter (· != "")

theorem linesOf_append {text : String} (ended : Ended text) (added : String) :
    linesOf (text ++ added) = linesOf text ++ linesOf added := by
  rcases ended with rfl | ⟨front, rfl⟩
  · rw [String.empty_append]
    rfl
  · have apart (rest : String) : (front ++ "\n" ++ rest).toList =
        front.toList ++ '\n' :: rest.toList := by simp
    have bare := apart ""
    rw [String.append_empty] at bare
    have cut (rest : List Char) := Text.pieces_append '\n' front.toList rest
    simp only [linesOf, Text.split, apart, bare, cut, List.map_append, List.filter_append]
    simp [Text.pieces]

namespace IsLine

variable {entry : Entries} {text : String}

theorem newline_not_mem (isLine : IsLine entry text) : '\n' ∉ text.toList := fun found =>
  absurd (isLine.plain _ found) (by decide)

theorem nonempty (isLine : IsLine entry text) : text ≠ "" := by
  rintro rfl
  have failed : ∃ failure, Json.decode "" = .error failure := ⟨_, rfl⟩
  obtain ⟨failure, failed⟩ := failed
  exact absurd (failed.symm.trans isLine.decoded) (by simp)

end IsLine

theorem IsLine.linesOf {entry : Entries} {text : String} (isLine : IsLine entry text) :
    Log.linesOf (text ++ "\n") = [text] := by
  rw [Log.linesOf, Text.split, String.toList_append, show "\n".toList = ['\n'] from rfl,
    Text.pieces_append_cons _ isLine.newline_not_mem]
  simp [Text.pieces, isLine.nonempty]

end RecordQuery.Log
