import Mathlib.Data.List.TakeWhile
import RecordQuery.Matching.Prepared
import RecordQuery.Matching.Wording
import RecordQuery.Proofs.Value.Proper

/-!
# Patterns with options as one text

A pattern and letters that name modes are written into one text `/pattern/letters`. The text is
split again at its last slash, so the pattern may hold slashes itself: what `unslashed?` reads is
exactly what was written, for every pattern that is not empty. A text that starts otherwise is never
split.
-/

namespace RecordQuery.Matching

open Pattern

def NamesModes (letters : List Char) : Prop :=
  letters.length ≤ 4 ∧ ∀ letter ∈ letters, (Flags.ofLetter? letter).isSome = true

instance (letters : List Char) : Decidable (NamesModes letters) :=
  decidable_of_iff
    (letters.length ≤ 4 ∧ letters.all (fun letter => (Flags.ofLetter? letter).isSome) = true)
    (and_congr_right fun _ => List.all_eq_true)

theorem NamesModes.not_mem_slash {letters : List Char} (named : NamesModes letters) :
    '/' ∉ letters := by
  intro member
  have known := named.2 '/' member
  contradiction

def afterLastSlash (text : List Char) : List Char := (text.reverse.takeWhile (· != '/')).reverse

theorem afterLastSlash_append (before : List Char) {letters : List Char} (clear : '/' ∉ letters) :
    afterLastSlash (before ++ '/' :: letters) = letters := by
  have kept : ∀ letter ∈ letters.reverse, (letter != '/') = true := by
    intro letter member
    rw [bne_iff_ne]
    rintro rfl
    exact clear (List.mem_reverse.mp member)
  have reversed : (before ++ '/' :: letters).reverse =
      letters.reverse ++ '/' :: before.reverse := by simp
  rw [afterLastSlash, reversed, List.takeWhile_append_of_pos kept,
    List.takeWhile_cons_of_neg (by simp), List.append_nil, List.reverse_reverse]

theorem exists_of_afterLastSlash_length_lt {text : List Char}
    (short : (afterLastSlash text).length < text.length) :
    ∃ before, text = before ++ '/' :: afterLastSlash text := by
  have split : text.reverse.takeWhile (· != '/') ++ text.reverse.dropWhile (· != '/') =
      text.reverse := List.takeWhile_append_dropWhile
  cases rest : text.reverse.dropWhile (· != '/') with
  | nil =>
      rw [rest, List.append_nil] at split
      rw [afterLastSlash, split, List.reverse_reverse] at short
      exact absurd short (Nat.lt_irrefl _)
  | cons head before =>
      have nonempty : text.reverse.dropWhile (· != '/') ≠ [] := by
        rw [rest]
        exact List.cons_ne_nil _ _
      have slash : head = '/' := by
        simpa [rest] using List.head_dropWhile_not (· != '/') nonempty
      refine ⟨before.reverse, ?_⟩
      rw [rest, slash] at split
      rw [← List.reverse_inj, ← split]
      simp [afterLastSlash]

/-- A text is split exactly if it is a pattern that is not empty and letters that name modes,
written between and after slashes. -/
theorem unslashed?_eq_some_iff {text source : List Char} {flags : Flags} :
    unslashed? text = some (source, flags) ↔
      ∃ letters, text = '/' :: source ++ '/' :: letters ∧ source ≠ [] ∧ NamesModes letters ∧
        flags = Flags.ofLetters letters := by
  constructor
  · intro read
    cases text with
    | nil => contradiction
    | cons first rest =>
        by_cases slash : first = '/'
        · subst slash
          simp only [unslashed?, ← afterLastSlash.eq_1, Option.ite_none_right_eq_some,
            Option.some.injEq, Prod.mk.injEq] at read
          obtain ⟨⟨few, known, long⟩, taken, modes⟩ := read
          have short : (afterLastSlash ('/' :: rest)).length < ('/' :: rest).length := by
            simp only [List.length_cons]
            omega
          obtain ⟨before, shape⟩ := exists_of_afterLastSlash_length_lt short
          generalize afterLastSlash ('/' :: rest) = letters at *
          cases before with
          | nil =>
              obtain rfl : rest = letters := (List.cons.inj shape).2
              omega
          | cons _ inner =>
              obtain ⟨rfl, rfl⟩ := List.cons.inj shape
              obtain rfl : inner = source := by simpa using taken
              refine ⟨letters, rfl, ?_, ⟨few, List.all_eq_true.mp known⟩, modes.symm⟩
              rintro rfl
              simp at long
        · simp [unslashed?, slash] at read
  · rintro ⟨letters, rfl, filled, named, rfl⟩
    have after : afterLastSlash ('/' :: source ++ '/' :: letters) = letters :=
      afterLastSlash_append ('/' :: source) named.not_mem_slash
    have long : letters.length + 2 ≤ (source ++ '/' :: letters).length := by
      have := List.length_pos_iff.mpr filled
      simp only [List.length_append, List.length_cons]
      omega
    have taken : (source ++ '/' :: letters).length - (letters.length + 1) = source.length := by
      simp
    rw [List.cons_append] at after ⊢
    simp only [unslashed?, ← afterLastSlash.eq_1, after]
    rw [if_pos ⟨named.1, List.all_eq_true.mpr named.2, long⟩, taken, List.take_left]

/-- What was written is read again, whatever slashes the pattern holds. -/
theorem unslashed?_slashed {source letters : List Char} (filled : source ≠ [])
    (named : NamesModes letters) :
    unslashed? ('/' :: source ++ '/' :: letters) = some (source, Flags.ofLetters letters) :=
  unslashed?_eq_some_iff.mpr ⟨letters, rfl, filled, named, rfl⟩

/-- Only a text that starts with a slash is split. -/
theorem unslashed?_eq_none_of_head {text : List Char} (head : text.head? ≠ some '/') :
    unslashed? text = none := by
  rw [Option.eq_none_iff_forall_ne_some]
  rintro ⟨source, flags⟩ read
  obtain ⟨letters, rfl, -⟩ := unslashed?_eq_some_iff.mp read
  exact head rfl

/-- Whether a value is a text in which a pattern is found; a fault is laid to a condition. -/
def searchIn (condition : Value) (source : String) (flags : Flags) (entry : Reached) : Outcome :=
  match entry.text? with
  | some text => searchPattern condition source flags text
  | none => .ok false

def withLetters (source letters : String) : Value :=
  if letters = "" then .text source else slashed (.text source) (.text letters)

/-- A pattern and letters that are read as they were given: with letters the pattern is not empty,
and without letters it is not of the form that holds letters. -/
structure Legible (source letters : String) : Prop where
  named : NamesModes letters.toList
  filled : letters ≠ "" → source ≠ ""
  whole : letters = "" → unslashed? source.toList = none

theorem matchesPattern_of_unslashed?_eq_none {source : String}
    (whole : unslashed? source.toList = none) (entry : Reached) :
    matchesPattern (.text source) entry = searchIn (.text source) source .none entry := by
  rw [matchesPattern, searchIn]
  cases entry.text? with
  | none => rfl
  | some text => simp only [whole]

theorem matchesPattern_withLetters {source letters : String} (legible : Legible source letters)
    (entry : Reached) :
    matchesPattern (withLetters source letters) entry =
      searchIn (withLetters source letters) source (Flags.ofLetters letters.toList) entry := by
  by_cases none : letters = ""
  · rw [withLetters, if_pos none, matchesPattern_of_unslashed?_eq_none (legible.whole none), none]
    rfl
  · have filled : source.toList ≠ [] := by
      rw [ne_eq, String.toList_eq_nil_iff]
      exact legible.filled none
    have read := unslashed?_slashed filled legible.named
    rw [withLetters, if_neg none, matchesPattern, searchIn, slashed]
    cases entry.text? with
    | none => rfl
    | some text =>
        simp only [Value.plain, String.toList_ofList]
        rw [read]
        simp only [String.ofList_toList]

theorem foldOptions_eq_map {conditions : Entries} {source letters : String}
    (different : Value.Different (conditions.map Prod.fst))
    (pattern : conditions.get? "$regex" = some (.text source))
    (options : conditions.get? "$options" = some (.text letters)) :
    foldOptions conditions =
      (conditions.filter fun entry => !entry.1.same (.text "$options")).map fun entry =>
        if entry.1.same (.text "$regex") then (entry.1, withLetters source letters)
        else entry := by
  have kept : Value.Different ((conditions.erase "$options").map Prod.fst) :=
    List.Pairwise.sublist (List.filter_sublist.map Prod.fst) different
  have held : (conditions.erase "$options").get? "$regex" = some (.text source) := by
    rw [Entries.get?_eq_some_iff kept, Entries.mem_erase_iff,
      ← Entries.get?_eq_some_iff different]
    exact ⟨pattern, by simp⟩
  rw [← Entries.erase_eq_filter]
  simp only [foldOptions, FieldOperator.key, pattern, options, Option.filter_some]
  by_cases none : letters = ""
  · have unread : (Value.text letters).isTruthy = false := by
      rw [none]
      rfl
    have same : ∀ entry ∈ conditions.erase "$options",
        (if entry.1.same (.text "$regex") then (entry.1, withLetters source letters) else entry) =
          entry := by
      intro entry member
      split
      · rename_i key
        rw [Value.same_text] at key
        rcases entry with ⟨_, value⟩
        subst key
        rw [withLetters, if_pos none]
        have value : value = .text source :=
          Option.some.inj (((Entries.get?_eq_some_iff kept).mpr member).symm.trans held)
        rw [value]
      · rfl
    rw [unread, List.map_congr_left same, List.map_id']
    rfl
  · have read : (Value.text letters).isTruthy = true := by
      simpa [Value.isTruthy, String.isEmpty_iff] using none
    rw [read, ← Entries.set_eq_map kept held, withLetters, if_neg none]
    rfl

end RecordQuery.Matching
