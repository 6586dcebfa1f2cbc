import RecordQuery.Proofs.Number.Numeral
import RecordQuery.Proofs.Value.Sameness
import RecordQuery.Settings.Values

/-!
# Values that can be shown

A value can be shown if every integer inside it has a numeral. Equal values can be shown alike, as
no floating-point value equals an integer of too many digits.
-/

namespace RecordQuery

namespace Numeral

theorem decimalDigit?_lt {digit : Char} {value : Nat}
    (decimal : Text.decimalDigit? digit = some value) : value < 10 := by
  obtain ⟨first, found, rfl⟩ := Option.map_eq_some_iff.mp decimal
  have within := List.find?_some found
  simp only [Bool.and_eq_true, decide_eq_true_eq] at within
  omega

theorem Grouped.lt {text : List Char} {values : List Nat} (grouped : Grouped text values) :
    ∀ value ∈ values, value < 10 := by
  induction grouped with
  | last digit => exact List.forall_mem_singleton.mpr (decimalDigit?_lt digit)
  | next digit _ inductionHypothesis | line digit _ inductionHypothesis =>
      exact List.forall_mem_cons.mpr ⟨decimalDigit?_lt digit, inductionHypothesis⟩

theorem isShort_iff {value : Int} : isShort value = true ↔ value.natAbs < 10 ^ maxDigits := by
  rw [isShort, decide_eq_true_eq, digitsOf, Nat.length_toDigits_le_iff (by decide) (by decide)]

theorem Natural.lt {text : List Char} {number : Nat} (natural : Natural text number) :
    number < 10 ^ maxDigits := by
  obtain ⟨grouped, few⟩ := natural
  rename_i values
  calc Nat.ofDigits 10 values.reverse
      < 10 ^ values.reverse.length := Nat.ofDigits_lt_base_pow_length (by decide) fun value member =>
        grouped.lt value (List.mem_reverse.mp member)
    _ ≤ 10 ^ maxDigits := Nat.pow_le_pow_right (by decide) (by simpa using few)

/-- A number that a text spells has a numeral again. -/
theorem isShort_of_integer? {text : List Char} {value : Int} (read : integer? text = some value) :
    isShort value = true := by
  rw [isShort_iff]
  have whole := whole_of_integer? read
  generalize Text.trim Text.isNumeralBlank text = inner at whole
  cases whole with
  | unsigned natural | plus natural => exact natural.lt
  | minus natural => exact (Int.natAbs_neg _).trans_lt natural.lt

end Numeral

namespace Value

theorem areShown_iff {items : List Value} :
    areShown items = true ↔ ∀ item ∈ items, item.isShown = true := by
  induction items with
  | nil => simp [areShown]
  | cons item rest inductionHypothesis =>
      rw [areShown, Bool.and_eq_true, inductionHypothesis, List.forall_mem_cons]

theorem entriesShown_iff {entries : Entries} : entriesShown entries = true ↔
    ∀ entry ∈ entries, entry.1.isShown = true ∧ entry.2.isShown = true := by
  induction entries with
  | nil => simp [entriesShown]
  | cons entry rest inductionHypothesis =>
      rw [entriesShown, Bool.and_eq_true, Bool.and_eq_true, inductionHypothesis,
        List.forall_mem_cons]

theorem isShown_of_point {left right : Value} {point : Extended}
    (leftPoint : left.point? = some point) (rightPoint : right.point? = some point)
    (shown : left.isShown = true) : right.isShown = true := by
  cases right with
  | int whole =>
      have number : point = .rational (whole : Rat) := (Option.some.inj rightPoint).symm
      cases left with
      | int other =>
          have same : (other : Rat) = whole := by simpa [point?, number] using leftPoint
          rwa [Int.cast_inj.mp same] at shown
      | bool flag =>
          have same : ((if flag then 1 else 0 : Int) : Rat) = whole := by
            simpa [point?, number] using leftPoint
          rw [← Int.cast_inj.mp same]
          cases flag <;> rfl
      | float real =>
          exact Binary64.isShort_of_isSome_ofInt? (Binary64.isSome_ofInt?_of_whole? leftPoint
            (Argument.whole?_eq_some_iff.mpr number))
      | _ => contradiction
  | bool | float => rfl
  | _ => contradiction

/-- What equals a value that can be shown can be shown. -/
theorem isShown_of_same {left right : Value} (same : right.same left = true)
    (shown : left.isShown = true) : right.isShown = true := by
  induction right using Value.induct generalizing left with
  | whole right inductionHypothesis =>
      have items {lefts rights : List Value} (parts : right.parts = rights)
          (shown : areShown lefts = true)
          (matched : ∀ other ∈ rights, ∃ item ∈ lefts, other.same item = true) :
          areShown rights = true := by
        refine areShown_iff.mpr fun other member => ?_
        obtain ⟨item, held, same⟩ := matched other member
        exact inductionHypothesis other (parts ▸ member) same (areShown_iff.mp shown item held)
      cases Alike.of_same same with
      | identical => exact shown
      | points leftPoint rightPoint => exact isShown_of_point rightPoint leftPoint shown
      | lists related => exact items rfl shown (Matched.of_forall₂ related).forth
      | tuples related => exact items rfl shown (Matched.of_forall₂ related).forth
      | sets _ within => exact items rfl shown within
      | mappings _ within =>
          refine entriesShown_iff.mpr fun other member => ?_
          obtain ⟨entry, held, keys, values⟩ := within other member
          obtain ⟨key, value⟩ := entriesShown_iff.mp shown entry held
          exact ⟨inductionHypothesis _ (key_mem_parts member) keys key,
            inductionHypothesis _ (value_mem_parts member) values value⟩
      | dates | datetimes => rfl

theorem isShown_count (members : Nat) : (count members).isShown = true := by
  refine Numeral.isShort_iff.mpr ?_
  calc ((min members 9223372036854775807 : Nat) : Int).natAbs
      ≤ 9223372036854775807 := Nat.min_le_right _ _
    _ < 10 ^ 19 := by decide
    _ ≤ 10 ^ Numeral.maxDigits := Nat.pow_le_pow_right (by decide) (by decide)

end Value

/-- The value of a variable can be shown. -/
theorem Settings.isShown_convert (text : String) : (convert text).isShown = true := by
  rw [convert]
  split
  · rfl
  · split
    · rfl
    · split
      · rename_i found
        split at found
        · contradiction
        · exact Numeral.isShort_of_integer? found
      · split <;> rfl

end RecordQuery
