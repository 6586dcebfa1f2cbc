import RecordQuery.Operator

/-!
# Infix expressions of filters

`Reads` is the grammar of filters with combinators between them: the conjunction binds tighter than
the joint denial, which binds tighter than the disjunction; the first two nest to the right, the
last one to the left. `advance` reads an expression from left to right with a stack of left operands
that wait for their right one. The grammar is unambiguous and reads every expression, and what it
reads is what the stack gives.
-/

namespace RecordQuery

inductive Expression where
  | filter (entries : Entries)
  | joined (combinator : Combinator) (left right : Expression)

namespace Expression

def toEntries : Expression → Entries
  | .filter entries => entries
  | .joined combinator left right =>
      [(.text combinator.key, .list [.mapping left.toEntries, .mapping right.toEntries])]

/-- The trees of a filter that is followed by combinators with their filters. The first argument is
the loosest combinator that may stand outside of all others. -/
inductive Reads : Combinator → Entries → List (Combinator × Entries) → Expression → Prop where
  | alone {filter : Entries} : Reads .and filter [] (.filter filter)
  | and {filter next : Entries} {links : List (Combinator × Entries)} {right : Expression} :
      Reads .and next links right →
      Reads .and filter ((.and, next) :: links) (.joined .and (.filter filter) right)
  | ofAnd {filter : Entries} {links : List (Combinator × Entries)} {tree : Expression} :
      Reads .and filter links tree → Reads .nor filter links tree
  | nor {filter next : Entries} {before after : List (Combinator × Entries)}
      {left right : Expression} :
      Reads .and filter before left → Reads .nor next after right →
      Reads .nor filter (before ++ (.nor, next) :: after) (.joined .nor left right)
  | ofNor {filter : Entries} {links : List (Combinator × Entries)} {tree : Expression} :
      Reads .nor filter links tree → Reads .or filter links tree
  | or {filter next : Entries} {before after : List (Combinator × Entries)}
      {left right : Expression} :
      Reads .or filter before left → Reads .nor next after right →
      Reads .or filter (before ++ (.or, next) :: after) (.joined .or left right)

theorem Reads.prepend_and {level : Combinator} {filter next : Entries}
    {links : List (Combinator × Entries)} {tree : Expression}
    (reads : Reads level next links tree) :
    ∃ longer, Reads level filter ((.and, next) :: links) longer := by
  induction reads with
  | alone => exact ⟨_, .and .alone⟩
  | and rest => exact ⟨_, .and (.and rest)⟩
  | ofAnd _ inductionHypothesis =>
      obtain ⟨longer, reads⟩ := inductionHypothesis
      exact ⟨longer, .ofAnd reads⟩
  | nor _ right inductionHypothesis _ =>
      obtain ⟨longer, reads⟩ := inductionHypothesis
      exact ⟨_, .nor reads right⟩
  | ofNor _ inductionHypothesis =>
      obtain ⟨longer, reads⟩ := inductionHypothesis
      exact ⟨longer, .ofNor reads⟩
  | or _ right inductionHypothesis _ =>
      obtain ⟨longer, reads⟩ := inductionHypothesis
      exact ⟨_, .or reads right⟩

theorem Reads.prepend_nor {filter next : Entries} {links : List (Combinator × Entries)}
    {tree : Expression} (reads : Reads .or next links tree) :
    ∃ longer, Reads .or filter ((.nor, next) :: links) longer := by
  generalize loosest : Combinator.or = level at reads
  induction reads with
  | ofNor rest => exact ⟨_, .ofNor (@Reads.nor _ _ [] _ _ _ .alone rest)⟩
  | or _ right inductionHypothesis _ =>
      obtain ⟨longer, reads⟩ := inductionHypothesis rfl
      exact ⟨_, .or reads right⟩
  | _ => contradiction

theorem Reads.prepend_or {filter next : Entries} {links : List (Combinator × Entries)}
    {tree : Expression} (reads : Reads .or next links tree) :
    ∃ longer, Reads .or filter ((.or, next) :: links) longer := by
  generalize loosest : Combinator.or = level at reads
  induction reads with
  | ofNor rest => exact ⟨_, @Reads.or _ _ [] _ _ _ (.ofNor (.ofAnd .alone)) rest⟩
  | or _ right inductionHypothesis _ =>
      obtain ⟨longer, reads⟩ := inductionHypothesis rfl
      exact ⟨_, .or reads right⟩
  | _ => contradiction

theorem exists_reads (filter : Entries) (links : List (Combinator × Entries)) :
    ∃ tree, Reads .or filter links tree := by
  induction links generalizing filter with
  | nil => exact ⟨_, .ofNor (.ofAnd .alone)⟩
  | cons link rest inductionHypothesis =>
      rcases link with ⟨combinator, next⟩
      obtain ⟨tree, reads⟩ := inductionHypothesis next
      cases combinator with
      | and => exact reads.prepend_and
      | nor => exact reads.prepend_nor
      | or => exact reads.prepend_or

/-- Left operands that wait for their right one, the latest one first. -/
abbrev Pending := List (Combinator × Expression)

/-- Whether a waiting combinator takes its right operand before the next combinator: it binds
tighter, or both are the loosest one, which nests to the left. -/
def closes : Combinator → Combinator → Bool
  | .and, _ => false
  | .nor, waiting => waiting == .and
  | .or, _ => true

def close (next : Combinator) : Pending → Expression → Pending × Expression
  | [], right => ([], right)
  | (waiting, left) :: rest, right =>
      if closes next waiting then close next rest (.joined waiting left right)
      else ((waiting, left) :: rest, right)

def finish : Pending → Expression → Expression
  | [], right => right
  | (waiting, left) :: rest, right => finish rest (.joined waiting left right)

/-- The waiting operands and the latest filter after further links. -/
def advance (pending : Pending) (filter : Entries) :
    List (Combinator × Entries) → Pending × Entries
  | [] => (pending, filter)
  | (combinator, next) :: links =>
      let closed := close combinator pending (.filter filter)
      advance ((combinator, closed.2) :: closed.1) next links

def built (filter : Entries) (links : List (Combinator × Entries)) : Expression :=
  let read := advance [] filter links
  finish read.1 (.filter read.2)

theorem finish_append (inner outer : Pending) (right : Expression) :
    finish (inner ++ outer) right = finish outer (finish inner right) := by
  induction inner generalizing right with
  | nil => rfl
  | cons entry rest inductionHypothesis => exact inductionHypothesis _

theorem close_append {next : Combinator} {inner : Pending}
    (all : ∀ entry ∈ inner, closes next entry.1 = true) (outer : Pending) (right : Expression) :
    close next (inner ++ outer) right = close next outer (finish inner right) := by
  induction inner generalizing right with
  | nil => rfl
  | cons entry rest inductionHypothesis =>
      rw [List.cons_append, close, if_pos (all entry (by simp))]
      exact inductionHypothesis (fun other member => all other (by simp [member])) _

theorem advance_append (pending : Pending) (filter : Entries)
    (before after : List (Combinator × Entries)) :
    advance pending filter (before ++ after) =
      advance (advance pending filter before).1 (advance pending filter before).2 after := by
  induction before generalizing pending filter with
  | nil => rfl
  | cons link rest inductionHypothesis => exact inductionHypothesis _ _

/-- Whether an expression up to a combinator can follow waiting operands: these are looser. -/
def Follows : Combinator → Pending → Prop
  | .and, _ => True
  | .nor, pending => ∀ entry ∈ pending.head?, entry.1 ≠ .and
  | .or, pending => pending = []

theorem close_of_follows {level : Combinator} {pending : Pending} (follows : Follows level pending)
    (right : Expression) : close level pending right = (pending, right) := by
  cases pending with
  | nil => rfl
  | cons entry rest =>
      have waits : closes level entry.1 = false := by
        cases level with
        | and => rfl
        | nor => simpa [closes] using follows entry rfl
        | or => contradiction
      rw [close, waits]
      rfl

/-- The stack gives every tree that the grammar reads: the links add operands on top of those that
wait already, and these operands finish as the tree. -/
theorem Reads.advance {level : Combinator} {filter : Entries}
    {links : List (Combinator × Entries)} {tree : Expression} (reads : Reads level filter links tree)
    {pending : Pending} (follows : Follows level pending) :
    ∃ inner last, Expression.advance pending filter links = (inner ++ pending, last) ∧
      finish inner (.filter last) = tree ∧
      (level = .and → ∀ entry ∈ inner, entry.1 = .and) := by
  induction reads generalizing pending with
  | alone => exact ⟨[], _, rfl, rfl, by simp⟩
  | @and filter next links right _ inductionHypothesis =>
      obtain ⟨inner, last, read, result, tight⟩ :=
        @inductionHypothesis ((.and, .filter filter) :: pending) trivial
      refine ⟨inner ++ [(.and, .filter filter)], last, ?_, ?_, ?_⟩
      · rw [Expression.advance, close_of_follows follows, read, List.append_assoc]
        rfl
      · rw [finish_append, result]
        rfl
      · intro level entry member
        rcases List.mem_append.mp member with inside | own
        · exact tight rfl entry inside
        · rw [List.mem_singleton.mp own]
  | ofAnd _ inductionHypothesis =>
      obtain ⟨inner, last, read, result, -⟩ := inductionHypothesis trivial
      exact ⟨inner, last, read, result, by simp⟩
  | @nor filter next before after left right _ _ leftHypothesis rightHypothesis =>
      obtain ⟨inner, last, read, result, tight⟩ := @leftHypothesis pending trivial
      obtain ⟨others, final, rest, whole, -⟩ :=
        @rightHypothesis ((.nor, left) :: pending) (by simp [Follows])
      refine ⟨others ++ [(.nor, left)], final, ?_, ?_, by simp⟩
      · have closing : ∀ entry ∈ inner, closes .nor entry.1 = true := fun entry member => by
          rw [tight rfl entry member]
          rfl
        rw [advance_append, read, Expression.advance, close_append closing, result,
          close_of_follows follows, rest, List.append_assoc]
        rfl
      · rw [finish_append, whole]
        rfl
  | ofNor _ inductionHypothesis =>
      obtain rfl : pending = [] := follows
      obtain ⟨inner, last, read, result, -⟩ := @inductionHypothesis [] (by simp [Follows])
      exact ⟨inner, last, read, result, by simp⟩
  | @or filter next before after left right _ _ leftHypothesis rightHypothesis =>
      obtain ⟨inner, last, read, result, -⟩ := leftHypothesis follows
      obtain ⟨others, final, rest, whole, -⟩ :=
        @rightHypothesis ((.or, left) :: pending) (by simp [Follows])
      refine ⟨others ++ [(.or, left)], final, ?_, ?_, by simp⟩
      · rw [advance_append, read, Expression.advance, close_append (fun _ _ => rfl), result,
          close_of_follows follows, rest, List.append_assoc]
        rfl
      · rw [finish_append, whole]
        rfl

/-- The grammar reads exactly what the stack gives. -/
theorem reads_iff {filter : Entries} {links : List (Combinator × Entries)} {tree : Expression} :
    Reads .or filter links tree ↔ built filter links = tree := by
  have gives {tree : Expression} (reads : Reads .or filter links tree) :
      built filter links = tree := by
    obtain ⟨inner, last, read, result, -⟩ := reads.advance (show Follows .or [] from rfl)
    rw [built, read, List.append_nil]
    exact result
  constructor
  · exact gives
  · intro same
    obtain ⟨other, reads⟩ := exists_reads filter links
    rwa [← same, gives reads]

end Expression

end RecordQuery
