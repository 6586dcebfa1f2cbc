import RecordQuery.Matching.Prepared
import RecordQuery.Proofs.Value.Interchange
import RecordQuery.Proofs.Value.Proper

/-!
# Conditions with the same literal arguments

The arguments of some operators count as they are written: a remainder depends on whether the
divisor is a whole number or not, and a pattern with options is the text that shows it. So does a
time that the clock of its zone shows twice. Proper conditions are `Akin` if they are the same, and
in corresponding places have identical arguments of these operators and times of one zone, meant the
same time round. Making filters ready for matching keeps them akin.
-/

namespace RecordQuery.Matching

open Value

/-- The operators whose arguments count as they are written. -/
def literalOperators : List FieldOperator := [.mod, .regex, .regexOptions]

/-- Whether a key is one of these operators. -/
def isLiteral (key : Value) : Bool :=
  literalOperators.any fun operator => key.same (.text operator.key)

theorem isLiteral_key {operator : FieldOperator} (listed : operator ∈ literalOperators) :
    isLiteral (.text operator.key) = true :=
  List.any_eq_true.mpr ⟨operator, listed, same_refl _⟩

/-- The parts of two values in corresponding places: items at one position, members of sets that are
the same, and the values of keys that are the same. -/
inductive Corresponding (left right : Value) : Value → Value → Prop where
  | item {lefts rights : List Value} {item other : Value} :
      left.items? = some lefts → right.items? = some rights → (item, other) ∈ lefts.zip rights →
      Corresponding left right item other
  | member {lefts rights : List Value} {item other : Value} :
      left = .set lefts → right = .set rights → item ∈ lefts → other ∈ rights →
      item.same other = true → Corresponding left right item other
  | argument {lefts rights : Entries} {entry other : Value × Value} :
      left = .mapping lefts → right = .mapping rights → entry ∈ lefts → other ∈ rights →
      entry.1.same other.1 = true → Corresponding left right entry.2 other.2

/-- In all corresponding places the arguments of literal operators are identical and the times are
aligned. -/
inductive KeepsLiterals : Value → Value → Prop where
  | whole {left right : Value} :
      (∀ lefts rights, left = .mapping lefts → right = .mapping rights →
        ∀ entry ∈ lefts, ∀ other ∈ rights, entry.1.same other.1 = true →
          isLiteral entry.1 = true → entry.2 = other.2) →
      (∀ time twin, left = .datetime time → right = .datetime twin → time.Aligned twin) →
      (∀ part other, Corresponding left right part other → KeepsLiterals part other) →
      KeepsLiterals left right

namespace KeepsLiterals

variable {left right : Value}

theorem part (literals : KeepsLiterals left right) {part other : Value}
    (places : Corresponding left right part other) : KeepsLiterals part other := by
  cases literals with
  | whole _ _ parts => exact parts part other places

theorem literal {lefts rights : Entries}
    (literals : KeepsLiterals (.mapping lefts) (.mapping rights))
    {entry other : Value × Value} (member : entry ∈ lefts) (otherMember : other ∈ rights)
    (same : entry.1.same other.1 = true) (isLiteral : isLiteral entry.1 = true) :
    entry.2 = other.2 := by
  cases literals with
  | whole literal _ _ =>
      exact literal lefts rights rfl rfl entry member other otherMember same isLiteral

theorem aligned {time twin : DateTime}
    (literals : KeepsLiterals (.datetime time) (.datetime twin)) : time.Aligned twin := by
  cases literals with
  | whole _ times _ => exact times time twin rfl rfl

end KeepsLiterals

/-- Proper values that are the same and keep the literal arguments. -/
structure Akin (left right : Value) : Prop where
  leftProper : left.Proper
  rightProper : right.Proper
  same : left.same right = true
  literals : KeepsLiterals left right

/-- Entries with interchangeable keys and akin values, which are identical under a literal key. -/
structure Counterpart (entry other : Value × Value) : Prop where
  keys : entry.1.Interchanges other.1
  values : Akin entry.2 other.2
  literal : isLiteral entry.1 = true → entry.2 = other.2

namespace Akin

variable {left right : Value}

theorem interchanges (akin : Akin left right) : left.Interchanges right :=
  .of_proper akin.leftProper akin.rightProper akin.same

theorem items {lefts rights : List Value} (akin : Akin left right)
    (leftItems : left.items? = some lefts) (rightItems : right.items? = some rights)
    (same : List.Forall₂ (fun left right => left.same right = true) lefts rights) :
    List.Forall₂ Akin lefts rights := by
  obtain ⟨lengths, pairs⟩ := List.forall₂_iff_zip.mp same
  refine List.forall₂_iff_zip.mpr ⟨lengths, fun {item other} member => ?_⟩
  obtain ⟨itemMember, otherMember⟩ := List.of_mem_zip member
  exact ⟨akin.leftProper.part (mem_parts leftItems itemMember),
    akin.rightProper.part (mem_parts rightItems otherMember), pairs member,
    akin.literals.part (.item leftItems rightItems member)⟩

/-- Akin values are ordered alike with every other value. -/
theorem abreast (akin : Akin left right) : Abreast (fun _ => True) left right := by
  induction left using Value.induct generalizing right with
  | whole left inductionHypothesis =>
      refine .whole akin.interchanges ?_ ?_
      · rintro time twin rfl rfl
        have same := akin.same
        rw [Value.same] at same
        exact DateTime.inStep_of_aligned same akin.literals.aligned
      · intro lefts rights leftHeld rightHeld paired pair member
        have akins := akin.items leftHeld rightHeld (paired.imp fun _ _ => Interchanges.forth)
        exact inductionHypothesis pair.1 (mem_parts leftHeld (List.of_mem_zip member).1)
          ((List.forall₂_iff_zip.mp akins).2 member)

theorem members {lefts rights : List Value} (akin : Akin (.set lefts) (.set rights)) :
    Matched Akin lefts rights := by
  have pair {item other : Value} (member : item ∈ lefts) (otherMember : other ∈ rights)
      (same : item.same other = true) : Akin item other :=
    ⟨akin.leftProper.part member, akin.rightProper.part otherMember, same,
      akin.literals.part (.member rfl rfl member otherMember same)⟩
  have forth := akin.interchanges.forth
  have back := akin.interchanges.back
  simp only [Value.same, Bool.and_eq_true, allWithin_iff] at forth back
  constructor
  · intro item member
    obtain ⟨other, otherMember, same⟩ := forth.2 item member
    exact ⟨other, otherMember, pair member otherMember same⟩
  · intro other otherMember
    obtain ⟨item, member, same⟩ := back.2 other otherMember
    exact ⟨item, member, pair member otherMember
      (same_symm (akin.rightProper.part otherMember) (akin.leftProper.part member) same)⟩

theorem entries {lefts rights : Entries} (akin : Akin (.mapping lefts) (.mapping rights)) :
    Matched Counterpart lefts rights := by
  have pair {entry other : Value × Value} (member : entry ∈ lefts) (otherMember : other ∈ rights)
      (keys : entry.1.Interchanges other.1) (values : entry.2.same other.2 = true) :
      Counterpart entry other :=
    ⟨keys, ⟨akin.leftProper.value member, akin.rightProper.value otherMember, values,
      akin.literals.part (.argument rfl rfl member otherMember keys.forth)⟩,
      akin.literals.literal member otherMember keys.forth⟩
  have forth := akin.interchanges.forth
  have back := akin.interchanges.back
  simp only [Value.same, Bool.and_eq_true, allEntriesWithin_iff] at forth back
  constructor
  · intro entry member
    obtain ⟨other, otherMember, keys, values⟩ := forth.2 entry member
    exact ⟨other, otherMember, pair member otherMember
      (.of_proper (akin.leftProper.key member) (akin.rightProper.key otherMember) keys) values⟩
  · intro other otherMember
    obtain ⟨entry, member, keys, values⟩ := back.2 other otherMember
    have leftProper := akin.leftProper
    have rightProper := akin.rightProper
    exact ⟨entry, member, pair member otherMember
      (Interchanges.of_proper (rightProper.key otherMember) (leftProper.key member) keys).symm
      (same_symm (rightProper.value otherMember) (leftProper.value member) values)⟩

theorem mapping {lefts rights : Entries} (leftProper : (Value.mapping lefts).Proper)
    (rightProper : (Value.mapping rights).Proper) (lengths : lefts.length = rights.length)
    (matched : Matched Counterpart lefts rights) : Akin (.mapping lefts) (.mapping rights) := by
  have counterpart {entry other : Value × Value} (member : entry ∈ lefts)
      (otherMember : other ∈ rights) (same : entry.1.same other.1 = true) :
      Counterpart entry other := by
    obtain ⟨found, foundMember, related⟩ := matched.forth entry member
    obtain rfl := rightProper.eq_of_same_key foundMember otherMember
      (same_trans related.keys.back same)
    exact related
  refine ⟨leftProper, rightProper, (Alike.mappings lengths fun entry member => ?_).same,
    .whole ?_ nofun ?_⟩
  · obtain ⟨other, otherMember, related⟩ := matched.forth entry member
    exact ⟨other, otherMember, related.keys.forth, related.values.same⟩
  · rintro _ _ ⟨⟩ ⟨⟩ entry member other otherMember same
    exact (counterpart member otherMember same).literal
  · intro part other places
    cases places with
    | item held | member held => contradiction
    | argument leftEq rightEq member otherMember same =>
        cases leftEq
        cases rightEq
        exact (counterpart member otherMember same).values.literals

theorem list {lefts rights : List Value} (items : List.Forall₂ Akin lefts rights) :
    Akin (.list lefts) (.list rights) := by
  obtain ⟨lengths, pairs⟩ := List.forall₂_iff_zip.mp items
  have matched := Matched.of_forall₂ items
  refine ⟨.list fun item member => ?_, .list fun other member => ?_,
    (Alike.lists (items.imp fun _ _ => Akin.same)).same, .whole ?_ nofun ?_⟩
  · obtain ⟨other, -, related⟩ := matched.forth item member
    exact related.leftProper
  · obtain ⟨item, -, related⟩ := matched.back other member
    exact related.rightProper
  · rintro _ _ ⟨⟩
  · intro part other places
    cases places with
    | item leftHeld rightHeld member =>
        obtain rfl := Option.some.inj leftHeld
        obtain rfl := Option.some.inj rightHeld
        exact (pairs member).literals
    | member held | argument held => contradiction

/-- A proper value is akin to itself. -/
theorem refl {value : Value} (proper : value.Proper) : Akin value value := by
  refine ⟨proper, proper, same_refl value, ?_⟩
  induction value using Value.induct with
  | whole value inductionHypothesis =>
      have again {part : Value} (member : part ∈ value.parts) : KeepsLiterals part part :=
        inductionHypothesis part member (proper.part member)
      refine .whole ?_ ?_ ?_
      · rintro entries _ rfl ⟨⟩ entry member other otherMember same _
        rw [proper.eq_of_same_key member otherMember same]
      · rintro time _ rfl ⟨⟩
        exact ⟨rfl, .inr rfl⟩
      · intro part other places
        cases places with
        | @item items _ _ _ leftHeld rightHeld member =>
            obtain rfl := Option.some.inj (leftHeld.symm.trans rightHeld)
            have equal : List.Forall₂ Eq items items := List.forall₂_refl items
            obtain rfl := (List.forall₂_iff_zip.mp equal).2 member
            exact again (mem_parts leftHeld (List.of_mem_zip member).1)
        | member leftEq rightEq member otherMember same =>
            subst leftEq
            cases rightEq
            obtain rfl := proper.eq_of_same_member member otherMember same
            exact again member
        | argument leftEq rightEq member otherMember same =>
            subst leftEq
            cases rightEq
            obtain rfl := proper.eq_of_same_key member otherMember same
            exact again (Value.value_mem_parts member)

/-- The order of entries changes no literal argument. -/
theorem keepsLiterals_of_perm {lefts rights : Entries} (proper : (Value.mapping lefts).Proper)
    (order : lefts.Perm rights) : KeepsLiterals (.mapping lefts) (.mapping rights) := by
  have identical {entry other : Value × Value} (member : entry ∈ lefts)
      (otherMember : other ∈ rights) (keys : entry.1.same other.1 = true) : entry = other :=
    proper.eq_of_same_key member (order.mem_iff.mpr otherMember) keys
  refine .whole ?_ nofun ?_
  · rintro _ _ ⟨⟩ ⟨⟩ entry member other otherMember keys _
    rw [identical member otherMember keys]
  · intro part other places
    cases places with
    | item held => contradiction
    | member left => contradiction
    | argument left right member otherMember keys =>
        cases left
        cases right
        obtain rfl := identical member otherMember keys
        exact (Akin.refl (proper.value member)).literals

theorem of_list {lefts : List Value} (akin : Akin (.list lefts) right) :
    ∃ rights, right = .list rights ∧ List.Forall₂ Akin lefts rights := by
  obtain ⟨rights, rfl, same⟩ := same_list akin.same
  exact ⟨rights, rfl, akin.items rfl rfl same⟩

theorem of_tuple {lefts : List Value} (akin : Akin (.tuple lefts) right) :
    ∃ rights, right = .tuple rights ∧ List.Forall₂ Akin lefts rights := by
  obtain ⟨rights, rfl, same⟩ := same_tuple akin.same
  exact ⟨rights, rfl, akin.items rfl rfl same⟩

theorem of_set {lefts : List Value} (akin : Akin (.set lefts) right) :
    ∃ rights, right = .set rights ∧ Matched Akin lefts rights := by
  obtain ⟨rights, rfl, -⟩ := same_set akin.same
  exact ⟨rights, rfl, akin.members⟩

theorem of_mapping {lefts : Entries} (akin : Akin (.mapping lefts) right) :
    ∃ rights, right = .mapping rights ∧ lefts.length = rights.length ∧
      Matched Counterpart lefts rights := by
  obtain ⟨rights, rfl, lengths, -⟩ := same_mapping akin.same
  exact ⟨rights, rfl, lengths, akin.entries⟩

end Akin

theorem Counterpart.text_iff {entry other : Value × Value} (related : Counterpart entry other)
    (name : String) : entry.1 = .text name ↔ other.1 = .text name := by
  rw [← same_text, ← same_text, same_congr_left related.keys]

namespace Akin

variable {lefts rights : Entries} (akin : Akin (.mapping lefts) (.mapping rights))

include akin

/-- A text key has a value in both of two akin mappings or in none of them. -/
theorem get?_cases (name : String) :
    (lefts.get? name = none ∧ rights.get? name = none) ∨
      ∃ left right, lefts.get? name = some left ∧ rights.get? name = some right ∧
        Akin left right ∧ (isLiteral (.text name) = true → left = right) := by
  cases found : lefts.get? name with
  | none =>
      refine .inl ⟨rfl, Entries.get?_eq_none_iff.mpr fun other member same => ?_⟩
      obtain ⟨entry, entryMember, related⟩ := akin.entries.back other member
      exact Entries.get?_eq_none_iff.mp found entry entryMember ((related.text_iff name).mpr same)
  | some left =>
      have member := (Entries.get?_eq_some_iff akin.leftProper.different).mp found
      obtain ⟨⟨key, right⟩, otherMember, related⟩ := akin.entries.forth _ member
      obtain rfl : key = .text name := (related.text_iff name).mp rfl
      exact .inr ⟨left, right, rfl,
        (Entries.get?_eq_some_iff akin.rightProper.different).mpr otherMember, related.values,
        related.literal⟩

theorem isSome_get? (name : String) : (lefts.get? name).isSome = (rights.get? name).isSome := by
  rcases akin.get?_cases name with ⟨one, other⟩ | ⟨left, right, one, other, -⟩
  · rw [one, other]
  · rw [one, other]
    rfl

theorem length_eq : lefts.length = rights.length := by
  obtain ⟨_, ⟨⟩, lengths, -⟩ := akin.of_mapping
  exact lengths

theorem erase (name : String) :
    Akin (.mapping (lefts.erase name)) (.mapping (rights.erase name)) := by
  refine .mapping (akin.leftProper.erase name) (akin.rightProper.erase name) ?_ ⟨?_, ?_⟩
  · have left := Entries.length_erase akin.leftProper.different name
    have right := Entries.length_erase akin.rightProper.different name
    rw [akin.isSome_get?, akin.length_eq, ← right] at left
    exact Nat.add_right_cancel left
  · intro entry member
    obtain ⟨held, apart⟩ := Entries.mem_erase_iff.mp member
    obtain ⟨other, otherMember, related⟩ := akin.entries.forth entry held
    exact ⟨other, Entries.mem_erase_iff.mpr ⟨otherMember, mt (related.text_iff name).mpr apart⟩,
      related⟩
  · intro other member
    obtain ⟨held, apart⟩ := Entries.mem_erase_iff.mp member
    obtain ⟨entry, entryMember, related⟩ := akin.entries.back other held
    exact ⟨entry, Entries.mem_erase_iff.mpr ⟨entryMember, mt (related.text_iff name).mp apart⟩,
      related⟩

theorem set (name : String) {left right : Value} (values : Akin left right)
    (literal : isLiteral (.text name) = true → left = right) :
    Akin (.mapping (lefts.set name left)) (.mapping (rights.set name right)) := by
  have written : Counterpart (.text name, left) (.text name, right) :=
    ⟨⟨same_refl _, same_refl _⟩, values, literal⟩
  refine .mapping (akin.leftProper.insert (.simple rfl) values.leftProper)
    (akin.rightProper.insert (.simple rfl) values.rightProper) ?_ ⟨?_, ?_⟩
  · rw [Entries.set, Entries.set, Entries.length_insert, Entries.length_insert, akin.length_eq,
      ← Entries.get?, ← Entries.get?, akin.isSome_get?]
  · intro entry member
    rcases (Entries.mem_insert_text_iff akin.leftProper.different).mp member with
      rfl | ⟨held, apart⟩
    · exact ⟨_, Entries.mem_insert_text _ _ _, written⟩
    · obtain ⟨other, otherMember, related⟩ := akin.entries.forth entry held
      exact ⟨other, (Entries.mem_insert_text_iff akin.rightProper.different).mpr
        (.inr ⟨otherMember, mt (related.text_iff name).mpr apart⟩), related⟩
  · intro other member
    rcases (Entries.mem_insert_text_iff akin.rightProper.different).mp member with
      rfl | ⟨held, apart⟩
    · exact ⟨_, Entries.mem_insert_text _ _ _, written⟩
    · obtain ⟨entry, entryMember, related⟩ := akin.entries.back other held
      exact ⟨entry, (Entries.mem_insert_text_iff akin.leftProper.different).mpr
        (.inr ⟨entryMember, mt (related.text_iff name).mp apart⟩), related⟩

/-- Options are written into the patterns of akin conditions alike. -/
theorem foldOptions : Akin (.mapping (Matching.foldOptions lefts))
    (.mapping (Matching.foldOptions rights)) := by
  rw [Matching.foldOptions, Matching.foldOptions]
  rcases akin.get?_cases FieldOperator.regex.key with
    ⟨one, other⟩ | ⟨source, _, one, other, -, regex⟩
  · rw [one, other]
    exact akin
  · obtain rfl := regex (isLiteral_key (by simp [literalOperators]))
    rw [one, other]
    have rest := akin.erase FieldOperator.regexOptions.key
    rcases akin.get?_cases FieldOperator.regexOptions.key with
      ⟨one, other⟩ | ⟨options, _, one, other, -, same⟩
    · rw [one, other]
      exact rest
    · obtain rfl := same (isLiteral_key (by simp [literalOperators]))
      rw [one, other]
      cases (some options).filter Value.isTruthy with
      | none => exact rest
      | some options => exact rest.set _ (.refl (.simple rfl)) fun _ => rfl

end Akin

/-- An operand of a combinator made ready. -/
def preparedOperand : Value → Value
  | .mapping entries => .mapping (prepareEntries entries)
  | value => value

theorem prepareItems_eq_map (items : List Value) :
    prepareItems items = items.map preparedOperand := by
  induction items with
  | nil => rfl
  | cons item rest inductionHypothesis =>
      cases item <;> simp [prepareItems, preparedOperand, inductionHypothesis]

theorem prepareEntries_eq_map (entries : Entries) :
    prepareEntries entries = entries.map fun entry =>
      (entry.1, prepareValue (Combinator.ofValue? entry.1).isSome entry.2) := by
  induction entries with
  | nil => rfl
  | cons entry rest inductionHypothesis => rw [prepareEntries, inductionHypothesis, List.map_cons]

/-- Whether the patterns of an operand of a combinator can be written with their options. -/
def operandFolded : Value → Bool
  | .mapping entries => areFolded entries
  | _ => true

theorem operandsFolded_eq_all (items : List Value) :
    operandsFolded items = items.all operandFolded := by
  induction items with
  | nil => rfl
  | cons item rest inductionHypothesis =>
      cases item <;> simp [operandsFolded, operandFolded, inductionHypothesis]

theorem areFolded_eq_all (entries : Entries) :
    areFolded entries = entries.all fun entry =>
      isFolded (Combinator.ofValue? entry.1).isSome entry.2 := by
  induction entries with
  | nil => rfl
  | cons entry rest inductionHypothesis => rw [areFolded, inductionHypothesis, List.all_cons]

theorem isFolded_plain {value : Value} (items : value.items? = none)
    (entries : value.entries? = none) (combined : Bool) : isFolded combined value = true := by
  cases value with
  | list | tuple | mapping => contradiction
  | _ => rfl

theorem operandFolded_plain {value : Value} (entries : value.entries? = none) :
    operandFolded value = true := by
  cases value with
  | mapping => contradiction
  | _ => rfl

theorem keys_prepareEntries (entries : Entries) :
    (prepareEntries entries).map Prod.fst = entries.map Prod.fst := by
  rw [prepareEntries_eq_map, List.map_map]
  rfl

theorem prepareValue_plain {value : Value} (items : value.items? = none)
    (entries : value.entries? = none) (combined : Bool) : prepareValue combined value = value := by
  cases value with
  | list | tuple | mapping => contradiction
  | _ => rfl

theorem preparedOperand_plain {value : Value} (entries : value.entries? = none) :
    preparedOperand value = value := by
  cases value with
  | mapping => contradiction
  | _ => rfl

theorem Counterpart.combinator {entry other : Value × Value} (related : Counterpart entry other) :
    Combinator.ofValue? entry.1 = Combinator.ofValue? other.1 := by
  rw [Combinator.ofValue?, Combinator.ofValue?, text?_congr related.keys]

/-- Entries stay akin when their values do. -/
theorem Akin.prepareEntries {lefts rights : Entries}
    (akin : Akin (.mapping lefts) (.mapping rights))
    (each : ∀ entry ∈ lefts, ∀ right, Akin entry.2 right → ∀ combined,
      Akin (prepareValue combined entry.2) (prepareValue combined right)) :
    Akin (.mapping (Matching.prepareEntries lefts))
      (.mapping (Matching.prepareEntries rights)) := by
  have prepared : Matched Counterpart (Matching.prepareEntries lefts)
      (Matching.prepareEntries rights) := by
    rw [prepareEntries_eq_map, prepareEntries_eq_map]
    refine akin.entries.map _ _ fun entry member other related => ⟨related.keys, ?_, ?_⟩
    · rw [related.combinator]
      exact each entry member _ related.values _
    · intro literal
      simp only [related.combinator, related.literal literal]
  refine .mapping (akin.leftProper.revalued (keys_prepareEntries lefts) fun entry member => ?_)
    (akin.rightProper.revalued (keys_prepareEntries rights) fun other member => ?_) ?_ prepared
  · obtain ⟨other, -, related⟩ := prepared.forth entry member
    exact related.values.leftProper
  · obtain ⟨entry, -, related⟩ := prepared.back other member
    exact related.values.rightProper
  · rw [prepareEntries_eq_map, prepareEntries_eq_map, List.length_map, List.length_map,
      akin.length_eq]

/-- What is made ready stays akin, as an operand and as the value of a key. -/
theorem Akin.prepared {left right : Value} (akin : Akin left right) :
    Akin (preparedOperand left) (preparedOperand right) ∧
      ∀ combined, Akin (prepareValue combined left) (prepareValue combined right) := by
  induction left using Value.induct generalizing right with
  | whole left inductionHypothesis =>
      have operands {lefts rights : List Value} (parts : ∀ item ∈ lefts, item ∈ left.parts)
          (items : List.Forall₂ Akin lefts rights) :
          Akin (.list (prepareItems lefts)) (.list (prepareItems rights)) := by
        rw [prepareItems_eq_map, prepareItems_eq_map]
        refine .list (List.forall₂_map_left_iff.mpr (List.forall₂_map_right_iff.mpr ?_))
        exact forall₂_imp_of_mem (fun item member _ _ akin =>
          (inductionHypothesis item (parts item member) akin).1) items
      cases left with
      | list lefts =>
          obtain ⟨rights, rfl, items⟩ := akin.of_list
          refine ⟨akin, fun combined => ?_⟩
          rw [prepareValue, prepareValue]
          split
          · exact operands (fun _ => id) items
          · exact akin
      | tuple lefts =>
          obtain ⟨rights, rfl, items⟩ := akin.of_tuple
          refine ⟨akin, fun combined => ?_⟩
          rw [prepareValue, prepareValue]
          split
          · exact operands (fun _ => id) items
          · exact akin
      | mapping lefts =>
          obtain ⟨rights, rfl, -, -⟩ := akin.of_mapping
          refine ⟨akin.prepareEntries fun entry member _ akin => ?_, fun _ => akin.foldOptions⟩
          exact (inductionHypothesis entry.2 (Value.value_mem_parts member) akin).2
      | _ =>
          obtain ⟨items, entries⟩ := plain_congr akin.interchanges rfl rfl
          rw [preparedOperand_plain rfl, preparedOperand_plain entries]
          refine ⟨akin, fun combined => ?_⟩
          rwa [prepareValue_plain rfl rfl, prepareValue_plain items entries]

theorem Akin.optionsShown {lefts rights : Entries}
    (akin : Akin (.mapping lefts) (.mapping rights)) :
    Matching.optionsShown lefts = Matching.optionsShown rights := by
  rw [Matching.optionsShown, Matching.optionsShown]
  rcases akin.get?_cases FieldOperator.regex.key with
    ⟨one, other⟩ | ⟨source, _, one, other, -, regex⟩
  · rw [one, other]
  · obtain rfl := regex (isLiteral_key (by simp [literalOperators]))
    rw [one, other]
    rcases akin.get?_cases FieldOperator.regexOptions.key with
      ⟨one, other⟩ | ⟨options, _, one, other, -, same⟩
    · rw [one, other]
    · obtain rfl := same (isLiteral_key (by simp [literalOperators]))
      rw [one, other]

/-- Of akin filters both can be made ready for matching or neither. -/
theorem Akin.folded {left right : Value} (akin : Akin left right) :
    operandFolded left = operandFolded right ∧
      ∀ combined, isFolded combined left = isFolded combined right := by
  induction left using Value.induct generalizing right with
  | whole left inductionHypothesis =>
      have operands {lefts rights : List Value} (parts : ∀ item ∈ lefts, item ∈ left.parts)
          (items : List.Forall₂ Akin lefts rights) :
          operandsFolded lefts = operandsFolded rights := by
        rw [operandsFolded_eq_all, operandsFolded_eq_all]
        exact (Matched.of_forall₂ items).all_eq fun item member _ akin =>
          (inductionHypothesis item (parts item member) akin).1
      cases left with
      | list lefts =>
          obtain ⟨rights, rfl, items⟩ := akin.of_list
          exact ⟨rfl, fun combined => congrArg (!combined || ·) (operands (fun _ => id) items)⟩
      | tuple lefts =>
          obtain ⟨rights, rfl, items⟩ := akin.of_tuple
          exact ⟨rfl, fun combined => congrArg (!combined || ·) (operands (fun _ => id) items)⟩
      | mapping lefts =>
          obtain ⟨rights, rfl, -, -⟩ := akin.of_mapping
          refine ⟨?_, fun _ => akin.optionsShown⟩
          rw [operandFolded, operandFolded, areFolded_eq_all, areFolded_eq_all]
          refine akin.entries.all_eq fun entry member other related => ?_
          simp only [related.combinator]
          exact (inductionHypothesis entry.2 (Value.value_mem_parts member) related.values).2 _
      | _ =>
          obtain ⟨items, entries⟩ := plain_congr akin.interchanges rfl rfl
          rw [operandFolded_plain rfl, operandFolded_plain entries]
          refine ⟨rfl, fun combined => ?_⟩
          rw [isFolded_plain rfl rfl, isFolded_plain items entries]

end RecordQuery.Matching
