import RecordQuery.Files

/-!
# Files and paths

What each path holds after a file was written, removed or renamed. The text of a file that does not
exist counts as empty, so that creating an empty file changes no text. Files with different names in
one directory have different paths.
-/

namespace RecordQuery

namespace Files

/-- The text of a file, empty if there is none. -/
def textOf (files : Files) (path : String) : String := (files.get? path).getD ""

theorem get?_of_textOf {files : Files} {path text : String} (held : files.textOf path = text)
    (nonempty : text ≠ "") : files.get? path = some text := by
  rw [textOf] at held
  cases found : files.get? path with
  | none => exact absurd (held.symm.trans (by rw [found]; rfl)) nonempty
  | some other => rw [← held, found, Option.getD_some]

theorem get?_write (files : Files) (path text other : String) :
    (files.write path text).get? other = if path = other then some text else files.get? other := by
  induction files with
  | nil => by_cases same : path = other <;> simp [write, get?, same]
  | cons entry rest inductionHypothesis =>
      rcases entry with ⟨first, old⟩
      rw [write]
      by_cases written : first = path
      · subst written
        by_cases same : first = other <;> simp [get?, same]
      · by_cases found : first = other
        · subst found
          simp [get?, written, Ne.symm written]
        · rw [if_neg written]
          simp only [get?, List.find?_cons, beq_eq_false_iff_ne.mpr found]
          exact inductionHypothesis

theorem get?_append (files : Files) (path added other : String) :
    (files.append path added).get? other =
      if path = other then some (files.textOf path ++ added) else files.get? other :=
  get?_write _ _ _ _

theorem textOf_append (files : Files) (path added other : String) :
    (files.append path added).textOf other =
      if path = other then files.textOf path ++ added else files.textOf other := by
  rw [textOf, get?_append]
  split <;> rfl

theorem get?_touch (files : Files) (path other : String) :
    (files.touch path).get? other =
      if path = other then some (files.textOf path) else files.get? other := by
  rw [touch, get?_append, String.append_empty]

/-- Files are opened: no text changes, and a file that exists goes on to exist. -/
structure Opens (before after : Files) : Prop where
  texts : after.textOf = before.textOf
  there : ∀ path, (before.get? path).isSome = true → (after.get? path).isSome = true

namespace Opens

theorem refl (files : Files) : files.Opens files := ⟨rfl, fun _ => id⟩

theorem trans {first second third : Files} (before : first.Opens second)
    (after : second.Opens third) : first.Opens third :=
  ⟨after.texts.trans before.texts, fun path there => after.there path (before.there path there)⟩

theorem touch (files : Files) (path : String) : files.Opens (files.touch path) := by
  constructor
  · funext other
    rw [textOf, get?_touch]
    split
    · rename_i same
      rw [same]
      rfl
    · rfl
  · intro other there
    rw [get?_touch]
    split
    · rfl
    · exact there

end Opens

theorem write_of_get? {files : Files} {path text : String} (found : files.get? path = some text) :
    files.write path text = files := by
  induction files with
  | nil => contradiction
  | cons entry rest inductionHypothesis =>
      rcases entry with ⟨first, old⟩
      rw [write]
      by_cases same : first = path
      · obtain rfl : old = text := by simpa [get?, same] using found
        rw [if_pos same]
      · rw [if_neg same, inductionHypothesis (by simpa [get?, same] using found)]

/-- A file that exists is not changed by being opened. -/
theorem touch_of_get? {files : Files} {path : String} (found : (files.get? path).isSome = true) :
    files.touch path = files := by
  obtain ⟨text, held⟩ := Option.isSome_iff_exists.mp found
  rw [touch, append, held, Option.getD_some, String.append_empty, write_of_get? held]

theorem get?_remove (files : Files) (path other : String) :
    (files.remove path).get? other = if other = path then none else files.get? other := by
  induction files with
  | nil => simp [remove, get?]
  | cons entry rest inductionHypothesis =>
      simp only [remove, get?] at inductionHypothesis ⊢
      by_cases removed : entry.1 = path
      · rw [List.filter_cons_of_neg (by simp [removed]), inductionHypothesis]
        by_cases same : other = path
        · simp [same]
        · simp [removed, same, Ne.symm same]
      · rw [List.filter_cons_of_pos (by simp [removed])]
        by_cases found : entry.1 = other
        · simp [← found, removed]
        · simpa [found] using inductionHypothesis

/-- A renamed file stands at its new path, if it exists, and no longer at its old one. -/
theorem get?_rename (files : Files) (path target other : String) :
    (files.rename path target).get? other =
      if other = target then (files.get? path).or (files.get? target)
      else if other = path then none else files.get? other := by
  rw [rename]
  cases held : files.get? path with
  | none =>
      rw [Option.none_or]
      by_cases first : other = target
      · rw [if_pos first, first]
      · by_cases second : other = path
        · rw [if_neg first, if_pos second, second, held]
        · rw [if_neg first, if_neg second]
  | some text =>
      rw [get?_write, get?_remove]
      by_cases first : other = target
      · simp [first]
      · rw [if_neg (Ne.symm first), if_neg first]

end Files

namespace Text

theorem pieces_append (separator : Char) (first rest : List Char) :
    pieces separator (first ++ separator :: rest) =
      pieces separator first ++ pieces separator rest := by
  induction first with
  | nil => simp [pieces]
  | cons character more inductionHypothesis =>
      rw [List.cons_append, pieces, pieces, inductionHypothesis]
      split
      · rfl
      · cases found : pieces separator more with
        | nil => exact absurd found (pieces_ne_nil separator more)
        | cons piece others => rfl

theorem joined_concat (separator last : List Char) (parts : List (List Char)) :
    joined separator (parts ++ [last]) = parts.flatMap (· ++ separator) ++ last := by
  induction parts with
  | nil => rfl
  | cons first rest inductionHypothesis =>
      cases rest with
      | nil => simp [joined]
      | cons second others =>
          rw [List.cons_append] at inductionHypothesis
          rw [List.cons_append, List.cons_append, joined, inductionHypothesis]
          · simp only [List.flatMap_cons, List.append_assoc]
          · exact List.cons_ne_nil _ _

end Text

/-- The name of a file that is one part of a path. -/
structure PlainName (file : String) : Prop where
  absent : '/' ∉ file.toList
  nonempty : file ≠ ""
  moves : file ≠ "."

/-- A path with parts is what they make, below the root if it starts there. -/
theorem plainPath_of_parts {path : String} {parts : List String}
    (parted : ((Text.split '/' path).filter fun part => part != "" && part != ".") = parts)
    (nonempty : parts ≠ []) :
    plainPath path =
      (if path.toList.head? == some '/' then "/" else "") ++ Text.join "/" parts := by
  obtain ⟨first, rest, rfl⟩ := List.exists_cons_of_ne_nil nonempty
  rw [plainPath, parted]
  cases path.toList.head? == some '/' with
  | false => exact String.empty_append.symm
  | true => rfl

/-- The path of a file in a directory ends in its name; what comes before does not depend on it. -/
theorem pathIn_eq (directory : String) :
    ∃ front, ∀ file, PlainName file → pathIn directory file = front ++ file := by
  let parts := (Text.split '/' directory).filter fun part => part != "" && part != "."
  let inner := String.ofList ((parts.map String.toList).flatMap (· ++ ['/']))
  refine ⟨(if (directory.toList ++ ['/']).head? == some '/' then "/" else "") ++ inner,
    fun file plain => ?_⟩
  have slashes : (directory ++ "/" ++ file).toList = directory.toList ++ '/' :: file.toList := by
    simp
  have leading : (directory ++ "/" ++ file).toList.head? = (directory.toList ++ ['/']).head? := by
    rw [slashes]
    cases directory.toList <;> rfl
  have parted : (Text.split '/' (directory ++ "/" ++ file)).filter
      (fun part => part != "" && part != ".") = parts ++ [file] := by
    rw [Text.split, slashes, Text.pieces_append, Text.pieces_of_not_mem plain.absent,
      List.map_append, List.filter_append]
    simp [parts, Text.split, plain.nonempty, plain.moves]
  have whole : Text.join "/" (parts ++ [file]) = inner ++ file := by
    rw [Text.join, List.map_append, List.map_singleton, Text.joined_concat]
    simp [inner]
  rw [pathIn, plainPath_of_parts parted (by simp), leading, whole, String.append_assoc]

theorem pathIn_ne (directory : String) {file other : String} (plain : PlainName file)
    (plainOther : PlainName other) (different : file ≠ other) :
    pathIn directory file ≠ pathIn directory other := by
  obtain ⟨front, paths⟩ := pathIn_eq directory
  rw [paths file plain, paths other plainOther]
  exact fun same => different (String.append_right_inj front |>.mp same)

end RecordQuery
