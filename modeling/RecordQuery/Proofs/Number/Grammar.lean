import Mathlib.Data.List.TakeWhile
import Mathlib.Data.Nat.Digits.Defs
import RecordQuery.Proofs.Number.Largest

/-!
# Spellings of whole numbers

`Numeral.Whole` says which texts are which whole numbers: a sign or none, and digits of any script
with single low lines between them. The reader of whole numbers takes exactly these texts with white
space around them. As an argument such a text gives its number, with white space of any kind around
it.
-/

namespace RecordQuery

namespace Text

variable {drop : Char → Bool} {before inner after : List Char}

theorem trim_of_forall {characters : List Char}
    (kept : ∀ character ∈ characters, drop character = false) :
    trim drop characters = characters := by
  have whole (others : List Char) (kept : ∀ character ∈ others, drop character = false) :
      others.dropWhile drop = others := by
    cases others with
    | nil => rfl
    | cons first rest => exact List.dropWhile_cons_of_neg (by simp [kept first List.mem_cons_self])
  rw [trim, whole characters kept, whole, List.reverse_reverse]
  exact fun character member => kept character (List.mem_reverse.mp member)

theorem trim_append_left (front : ∀ character ∈ before, drop character = true)
    (rest : List Char) : trim drop (before ++ rest) = trim drop rest := by
  rw [trim, trim, List.dropWhile_append_of_pos front]

theorem trim_append_right (back : ∀ character ∈ after, drop character = true)
    (rest : List Char) : trim drop (rest ++ after) = trim drop rest := by
  have none : after.dropWhile drop = [] := List.dropWhile_eq_nil_iff.mpr back
  have reversed : ∀ character ∈ after.reverse, drop character = true := by simpa using back
  rw [trim, trim, List.dropWhile_append]
  split
  · rename_i empty
    rw [none, List.isEmpty_iff.mp empty]
  · rw [List.reverse_append, List.dropWhile_append_of_pos reversed]

/-- What stands between the ends that are dropped is kept, if nothing of it is dropped. -/
theorem trim_surrounded (front : ∀ character ∈ before, drop character = true)
    (kept : ∀ character ∈ inner, drop character = false)
    (back : ∀ character ∈ after, drop character = true) :
    trim drop (before ++ inner ++ after) = inner := by
  rw [trim_append_right back, trim_append_left front, trim_of_forall kept]

theorem exists_surrounds_trim (drop : Char → Bool) (text : List Char) :
    ∃ before after, text = before ++ trim drop text ++ after ∧
      (∀ character ∈ before, drop character = true) ∧
      ∀ character ∈ after, drop character = true := by
  let rest := text.dropWhile drop
  refine ⟨text.takeWhile drop, (rest.reverse.takeWhile drop).reverse, ?_, ?_, ?_⟩
  · rw [trim, List.append_assoc, ← List.reverse_append, List.takeWhile_append_dropWhile,
      List.reverse_reverse, List.takeWhile_append_dropWhile]
  · exact fun character member => List.mem_takeWhile_imp member
  · exact fun character member => List.mem_takeWhile_imp (List.mem_reverse.mp member)

theorem isBlank_of_isNumeralBlank {character : Char} (blank : isNumeralBlank character = true) :
    isBlank character = true :=
  (Bool.and_eq_true _ _ ▸ blank).1

theorem isBlank_of_decimalDigit? {character : Char} {value : Nat}
    (digit : decimalDigit? character = some value) : isBlank character = false := by
  -- The rows of digits lie between the blanks.
  have apart : ∀ first ∈ decimalZeros, 32 < first ∧ first + 10 ≤ 133 ∨
      160 < first ∧ first + 10 ≤ 5760 ∨ 5760 < first ∧ first + 10 ≤ 8192 ∨ 12288 < first := by
    decide
  obtain ⟨first, found, -⟩ := Option.map_eq_some_iff.mp digit
  have row := apart first (List.mem_of_find?_eq_some found)
  have within := List.find?_some found
  simp only [Bool.and_eq_true, decide_eq_true_eq] at within
  simp only [isBlank, Bool.or_eq_false_iff, Bool.and_eq_false_iff, decide_eq_false_iff_not,
    beq_eq_false_iff_ne]
  omega

end Text

namespace Numeral

/-- Decimal digits of any script and their values. A low line may stand between two of them. -/
inductive Grouped : List Char → List Nat → Prop where
  | last {digit : Char} {value : Nat} :
      Text.decimalDigit? digit = some value → Grouped [digit] [value]
  | next {digit : Char} {value : Nat} {rest : List Char} {values : List Nat} :
      Text.decimalDigit? digit = some value → Grouped rest values →
      Grouped (digit :: rest) (value :: values)
  | line {digit : Char} {value : Nat} {rest : List Char} {values : List Nat} :
      Text.decimalDigit? digit = some value → Grouped rest values →
      Grouped (digit :: '_' :: rest) (value :: values)

/-- Not too many digits, which make a number in base ten, the last digit being that of the ones. -/
inductive Natural : List Char → Nat → Prop where
  | intro {text : List Char} {values : List Nat} :
      Grouped text values → values.length ≤ maxDigits →
      Natural text (Nat.ofDigits 10 values.reverse)

/-- A number after a sign or none. -/
inductive Whole : List Char → Int → Prop where
  | unsigned {text : List Char} {number : Nat} : Natural text number → Whole text number
  | plus {text : List Char} {number : Nat} : Natural text number → Whole ('+' :: text) number
  | minus {text : List Char} {number : Nat} : Natural text number → Whole ('-' :: text) (-number)

/-- A text spells a whole number, with blanks before and after it. -/
inductive Spells (isSpace : Char → Bool) : List Char → Int → Prop where
  | surrounded {before inner after : List Char} {value : Int} :
      (∀ character ∈ before, isSpace character = true) → Whole inner value →
      (∀ character ∈ after, isSpace character = true) →
      Spells isSpace (before ++ inner ++ after) value

theorem Grouped.exists_first {text : List Char} {values : List Nat}
    (grouped : Grouped text values) : ∃ first rest, text = first :: rest ∧
      ∃ value, Text.decimalDigit? first = some value := by
  cases grouped <;> exact ⟨_, _, rfl, _, ‹_›⟩

theorem Grouped.groupedDigits? {text : List Char} {values : List Nat}
    (grouped : Grouped text values) : groupedDigits? text = some values := by
  induction grouped with
  | last digit => rw [Numeral.groupedDigits?, digit]; rfl
  | @next first value rest values digit more inductionHypothesis =>
      obtain ⟨next, others, rfl, _, decimal⟩ := more.exists_first
      have notLine : next ≠ '_' := by
        rintro rfl
        contradiction
      rw [Numeral.groupedDigits?, digit]
      · exact congrArg (Option.map (value :: ·)) inductionHypothesis
      · exact notLine
  | line digit _ inductionHypothesis =>
      rw [Numeral.groupedDigits?, digit]
      exact congrArg (Option.map _) inductionHypothesis

theorem grouped_of_groupedDigits? {text : List Char} {values : List Nat}
    (read : groupedDigits? text = some values) : Grouped text values := by
  induction text using groupedDigits?.induct generalizing values with
  | case1 => contradiction
  | case2 last =>
      obtain ⟨value, digit, rfl⟩ := Option.map_eq_some_iff.mp read
      exact .last digit
  | case3 first rest value digit inductionHypothesis =>
      rw [groupedDigits?, digit] at read
      obtain ⟨values, more, rfl⟩ := Option.map_eq_some_iff.mp read
      exact .line digit (inductionHypothesis more)
  | case4 first rest noDigit =>
      rw [groupedDigits?, noDigit] at read
      contradiction
  | case5 first next rest notLine value digit inductionHypothesis =>
      rw [groupedDigits?, digit] at read
      · obtain ⟨values, more, rfl⟩ := Option.map_eq_some_iff.mp read
        exact .next digit (inductionHypothesis more)
      · exact notLine
  | case6 first next rest notLine noDigit =>
      rw [groupedDigits?, noDigit] at read
      · contradiction
      · exact notLine

theorem Grouped.mem {text : List Char} {values : List Nat} (grouped : Grouped text values) :
    ∀ character ∈ text, (Text.decimalDigit? character).isSome = true ∨ character = '_' := by
  induction grouped with
  | last digit => exact List.forall_mem_singleton.mpr (.inl (by simp [digit]))
  | next digit _ inductionHypothesis =>
      exact List.forall_mem_cons.mpr ⟨.inl (by simp [digit]), inductionHypothesis⟩
  | line digit _ inductionHypothesis =>
      exact List.forall_mem_cons.mpr ⟨.inl (by simp [digit]),
        List.forall_mem_cons.mpr ⟨.inr rfl, inductionHypothesis⟩⟩

/-- A whole number holds digits, low lines and signs. -/
theorem Whole.mem {text : List Char} {value : Int} (whole : Whole text value) :
    ∀ character ∈ text,
      (Text.decimalDigit? character).isSome = true ∨ character ∈ ['_', '+', '-'] := by
  have body {text : List Char} {number : Nat} (natural : Natural text number) :
      ∀ character ∈ text,
        (Text.decimalDigit? character).isSome = true ∨ character ∈ ['_', '+', '-'] := by
    obtain ⟨grouped, -⟩ := natural
    intro character member
    exact (grouped.mem character member).imp_right fun line => by simp [line]
  cases whole with
  | unsigned natural => exact body natural
  | plus natural | minus natural =>
      exact List.forall_mem_cons.mpr ⟨.inr (by decide), body natural⟩

theorem Whole.isBlank {text : List Char} {value : Int} (whole : Whole text value) :
    ∀ character ∈ text, Text.isBlank character = false := by
  intro character member
  rcases whole.mem character member with digit | mark
  · obtain ⟨value, digit⟩ := Option.isSome_iff_exists.mp digit
    exact Text.isBlank_of_decimalDigit? digit
  · simp only [List.mem_cons, List.not_mem_nil, or_false] at mark
    rcases mark with rfl | rfl | rfl <;> rfl

theorem unsigned_eq_ofDigits (values : List Nat) :
    unsigned values = Nat.ofDigits 10 values.reverse := by
  rw [Nat.ofDigits_eq_foldr, List.foldr_reverse, unsigned]
  congr 1
  funext value digit
  exact Nat.add_comm _ _

theorem isNumeralBlank_of_isBlank {character : Char} (shown : Text.isBlank character = false) :
    Text.isNumeralBlank character = false := by
  rw [Text.isNumeralBlank, shown, Bool.false_and]

theorem Whole.trim_eq {text : List Char} {value : Int} (whole : Whole text value) :
    Text.trim Text.isNumeralBlank text = text :=
  Text.trim_of_forall fun _ member => isNumeralBlank_of_isBlank (whole.isBlank _ member)

theorem Grouped.splitSign {text : List Char} {values : List Nat} (grouped : Grouped text values) :
    splitSign text = (false, text) := by
  obtain ⟨first, rest, rfl, value, digit⟩ := grouped.exists_first
  have unsigned {sign : Char} (none : Text.decimalDigit? sign = none) : first ≠ sign := by
    rintro rfl
    simp [none] at digit
  rw [Numeral.splitSign]
  · exact fun _ same => unsigned (by decide) (List.cons.inj same).1
  · exact fun _ same => unsigned (by decide) (List.cons.inj same).1

/-- A whole number is read as what it is. -/
theorem Whole.integer? {text : List Char} {value : Int} (whole : Whole text value) :
    integer? text = some value := by
  have read {body : List Char} {number : Nat} (natural : Natural body number) :
      ∃ digits, groupedDigits? body = some digits ∧ ¬ maxDigits < digits.length ∧
        Numeral.unsigned digits = number := by
    obtain ⟨grouped, short⟩ := natural
    exact ⟨_, grouped.groupedDigits?, Nat.not_lt.mpr short, unsigned_eq_ofDigits _⟩
  rw [Numeral.integer?, whole.trim_eq]
  cases whole with
  | unsigned natural =>
      have split : Numeral.splitSign text = (false, text) := by
        cases natural with
        | intro grouped => exact grouped.splitSign
      obtain ⟨digits, grouped, short, rfl⟩ := read natural
      simp [split, grouped, short]
  | plus natural =>
      obtain ⟨digits, grouped, short, rfl⟩ := read natural
      simp [Numeral.splitSign, grouped, short]
  | minus natural =>
      obtain ⟨digits, grouped, short, rfl⟩ := read natural
      simp [Numeral.splitSign, grouped, short]

theorem whole_of_integer? {text : List Char} {value : Int} (read : integer? text = some value) :
    Whole (Text.trim Text.isNumeralBlank text) value := by
  rw [integer?] at read
  generalize Text.trim Text.isNumeralBlank text = inner at read ⊢
  have natural {body : List Char} {digits : List Nat} (grouped : groupedDigits? body = some digits)
      (short : ¬ maxDigits < digits.length) : Natural body (unsigned digits) := by
    rw [unsigned_eq_ofDigits]
    exact .intro (grouped_of_groupedDigits? grouped) (Nat.not_lt.mp short)
  rcases signed : splitSign inner with ⟨negative, body⟩
  rw [signed] at read
  cases grouped : groupedDigits? body with
  | none => simp [grouped] at read
  | some digits =>
      simp only [grouped] at read
      split at read
      · contradiction
      · rename_i short
        unfold splitSign at signed
        split at signed <;> obtain ⟨rfl, rfl⟩ := Prod.mk.inj signed <;>
          obtain rfl := Option.some.inj read
        · exact .minus (natural grouped short)
        · exact .plus (natural grouped short)
        · exact .unsigned (natural grouped short)

/-- For blanks that are white space, a spelling is a whole number between blanks. -/
theorem spells_iff {isSpace : Char → Bool} {text : List Char} {value : Int}
    (white : ∀ character, Text.isBlank character = false → isSpace character = false) :
    Spells isSpace text value ↔ Whole (Text.trim isSpace text) value := by
  constructor
  · rintro ⟨front, whole, back⟩
    rwa [Text.trim_surrounded front (fun _ member => white _ (whole.isBlank _ member)) back]
  · intro whole
    obtain ⟨before, after, surrounded, front, back⟩ := Text.exists_surrounds_trim isSpace text
    rw [surrounded]
    exact .surrounded front whole back

/-- The texts that are read as whole numbers are the spellings of them. -/
theorem integer?_eq_some_iff {text : List Char} {value : Int} :
    integer? text = some value ↔ Spells Text.isNumeralBlank text value := by
  rw [spells_iff fun _ => isNumeralBlank_of_isBlank]
  constructor
  · exact whole_of_integer?
  · intro whole
    have again := whole.integer?
    rw [integer?] at again ⊢
    rwa [whole.trim_eq] at again

theorem Whole.spells {isSpace : Char → Bool} {text : List Char} {value : Int}
    (whole : Whole text value) : Spells isSpace text value := by
  have surrounded := Spells.surrounded (List.forall_mem_nil (isSpace · = true)) whole
    (List.forall_mem_nil _)
  rwa [List.nil_append, List.append_nil] at surrounded

theorem Spells.surround {isSpace : Char → Bool} {before inner after : List Char} {value : Int}
    (spells : Spells isSpace inner value) (front : ∀ character ∈ before, isSpace character = true)
    (back : ∀ character ∈ after, isSpace character = true) :
    Spells isSpace (before ++ inner ++ after) value := by
  cases spells with
  | @surrounded first inner last _ firsts whole lasts =>
      have regrouped : before ++ (first ++ inner ++ last) ++ after =
          (before ++ first) ++ inner ++ (last ++ after) := by
        simp only [List.append_assoc]
      rw [regrouped]
      exact .surrounded (List.forall_mem_append.mpr ⟨front, firsts⟩) whole
        (List.forall_mem_append.mpr ⟨lasts, back⟩)

theorem Spells.isBlank {text : List Char} {value : Int}
    (spells : Spells Text.isNumeralBlank text value) : Spells Text.isBlank text value := by
  cases spells with
  | surrounded front whole back =>
      exact .surrounded (fun _ member => Text.isBlank_of_isNumeralBlank (front _ member)) whole
        fun _ member => Text.isBlank_of_isNumeralBlank (back _ member)

end Numeral

namespace Argument

/-- As an argument, a text stands for a whole number if it spells it with white space of any kind
around it. -/
theorem ofText?_eq_int_iff {text : String} {value : Int} :
    ofText? text = some (.int value) ↔ Numeral.Spells Text.isBlank text.toList value := by
  rw [ofText?]
  constructor
  · intro read
    split at read
    · rename_i found
      cases read
      obtain ⟨before, after, surrounded, front, back⟩ :=
        Text.exists_surrounds_trim Text.isBlank text.toList
      rw [surrounded]
      exact (Numeral.integer?_eq_some_iff.mp found).isBlank.surround front back
    · obtain ⟨real, -, other⟩ := Option.map_eq_some_iff.mp read
      cases other
  · intro spells
    simp only [((Numeral.spells_iff fun _ => id).mp spells).integer?]

theorem number_of_spells {text : String} {value : Int}
    (spells : Numeral.Spells Text.isBlank text.toList value) (name : String) :
    number (.text text) name = number (.int value) name := by
  simp only [number, ofText?_eq_int_iff.mpr spells]

/-- A text gives a whole number if it spells one in the floating-point range. -/
theorem number_text_eq_int_iff {text name : String} {value : Int} :
    number (.text text) name = .ok (.int value) ↔
      Numeral.Spells Text.isBlank text.toList value ∧ (Binary64.ofInt? value).isSome = true := by
  constructor
  · intro read
    rw [number] at read
    split at read
    · rename_i found spelled
      obtain ⟨rfl, ⟨whole, same, inRange⟩ | ⟨real, other⟩⟩ := finite_eq_ok read
      · cases same
        exact ⟨ofText?_eq_int_iff.mp spelled, inRange⟩
      · cases other
    · contradiction
  · rintro ⟨spells, inRange⟩
    rw [number_of_spells spells, number_int inRange]

theorem whole_eq_ite {value : Int} (inRange : (Binary64.ofInt? value).isSome = true)
    (name : String) : whole (.int value) name =
      if 0 ≤ value then .ok value.toNat else .error (.query (.notWhole name)) := by
  simp only [whole, number_int inRange, natural?_int]
  by_cases natural : 0 ≤ value <;> simp [natural]

theorem equal_float_int_iff {real : Binary64} {whole : Int} :
    (Value.float real).equal (.int whole) = true ↔
      real.extended? = some (.rational (whole : Rat)) := by
  rw [Value.equal, Value.same, Value.point?, Value.point?]
  · cases real with
    | nan payload => simp [Value.isNan, Binary64.extended?]
    | infinite negative => cases negative <;> simp [Value.isNan, Binary64.extended?]
    | finite negative significand exponent inFormat => simp [Value.isNan, Binary64.extended?]
  all_goals simp

/-- A floating-point value gives the natural number that it equals, if it is finite. -/
theorem whole_float_iff {real : Binary64} {name : String} {count : Nat} :
    whole (.float real) name = .ok count ↔
      real.isFinite = true ∧ (Value.float real).equal (.int count) = true := by
  have accepted (found : Value) :
      number (.float real) name = .ok found ↔ real.isFinite = true ∧ .float real = found := by
    by_cases finite : real.isFinite = true <;> simp [number, Argument.finite, finite]
  simp only [whole_eq_ok_iff, accepted, equal_float_int_iff, and_assoc, exists_and_left,
    exists_eq_left', natural?_eq_some_iff, Value.point?]

end Argument

end RecordQuery
