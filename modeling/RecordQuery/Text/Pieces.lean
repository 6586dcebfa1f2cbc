/-!
Texts in pieces.

`pieces` cuts a text at every separator and `joined` puts pieces together with one between any two.
Joining undoes cutting; cutting undoes joining if no piece holds the separator.
-/

namespace RecordQuery.Text

/-- The pieces between separators; a text without one is a single piece. -/
def pieces (separator : Char) : List Char → List (List Char)
  | [] => [[]]
  | character :: rest =>
      if character = separator then [] :: pieces separator rest
      else
        match pieces separator rest with
        | [] => [[character]]
        | piece :: others => (character :: piece) :: others

def joined (separator : List Char) : List (List Char) → List Char
  | [] => []
  | [last] => last
  | first :: rest => first ++ separator ++ joined separator rest

theorem pieces_ne_nil (separator : Char) (text : List Char) : pieces separator text ≠ [] := by
  cases text with
  | nil => simp [pieces]
  | cons character rest =>
      simp only [pieces]
      split
      · simp
      · split <;> simp

theorem pieces_of_not_mem {separator : Char} {text : List Char} (absent : separator ∉ text) :
    pieces separator text = [text] := by
  induction text with
  | nil => rfl
  | cons character rest inductionHypothesis =>
      have other : character ≠ separator := fun same => absent (same ▸ List.mem_cons_self)
      have absentLater : separator ∉ rest := fun found => absent (List.mem_cons_of_mem _ found)
      simp [pieces, other, inductionHypothesis absentLater]

theorem pieces_append_cons {separator : Char} {first : List Char} (rest : List Char)
    (absent : separator ∉ first) :
    pieces separator (first ++ separator :: rest) = first :: pieces separator rest := by
  induction first with
  | nil => simp [pieces]
  | cons character more inductionHypothesis =>
      have other : character ≠ separator := fun same => absent (same ▸ List.mem_cons_self)
      have absentLater : separator ∉ more := fun found => absent (List.mem_cons_of_mem _ found)
      simp [pieces, other, inductionHypothesis absentLater]

theorem pieces_joined {separator : Char} {parts : List (List Char)} (nonempty : parts ≠ [])
    (absent : ∀ part ∈ parts, separator ∉ part) :
    pieces separator (joined [separator] parts) = parts := by
  induction parts with
  | nil => exact absurd rfl nonempty
  | cons first rest inductionHypothesis =>
      have absentFirst := absent first List.mem_cons_self
      cases rest with
      | nil => exact pieces_of_not_mem absentFirst
      | cons second others =>
          have later := inductionHypothesis (List.cons_ne_nil _ _)
            fun part found => absent part (List.mem_cons_of_mem _ found)
          simp [joined, pieces_append_cons _ absentFirst, later]

/-- The pieces of a text. -/
def split (separator : Char) (text : String) : List String :=
  (pieces separator text.toList).map String.ofList

def join (separator : String) (texts : List String) : String :=
  String.ofList (joined separator.toList (texts.map String.toList))

/-- The parts of a dotted path. -/
def pathParts (path : String) : List String := split '.' path

end RecordQuery.Text
