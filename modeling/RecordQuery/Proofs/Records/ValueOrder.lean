import RecordQuery.Proofs.Json.Reordering
import RecordQuery.Proofs.Value.Order
import RecordQuery.Records.Comparison

/-!
# The order of record values

Record values of one kind are compared by their own order, and by their JSON texts where they have
none. Each of the two ways alone is an order: signs are opposite, and neither a chain nor a tie
leads astray. Together they are none, since values can be equal, or ordered one after the other,
while their texts are the other way round.
-/

namespace RecordQuery.Records

/-- A value has a JSON text with sorted keys. -/
def HasText (value : Value) : Prop := ∃ text, Json.encode Json.Layout.sorted value = .ok text

/-- Every key of a mapping, at any depth, is a text. -/
inductive TextKeyed : Value → Prop where
  | whole {value : Value} :
      (∀ entries, value = .mapping entries → ∀ entry ∈ entries, ∃ name, entry.1 = .text name) →
      (∀ part ∈ value.parts, TextKeyed part) → TextKeyed value

theorem insertByKey_of_texts {α : Type} (name : String) (payload : α)
    {sorted : List (Value × α)} (texts : ∀ entry ∈ sorted, ∃ name, entry.1 = .text name) :
    ∃ longer, Json.insertByKey (.text name) payload sorted = .ok longer ∧
      longer.Perm ((.text name, payload) :: sorted) := by
  induction sorted with
  | nil => exact ⟨_, rfl, .refl _⟩
  | cons entry rest inductionHypothesis =>
      obtain ⟨⟨other, key⟩, others⟩ := List.forall_mem_cons.mp texts
      obtain ⟨longer, inserted, perm⟩ := inductionHypothesis others
      rcases entry with ⟨_, current⟩
      obtain rfl : _ = Value.text other := key
      rw [Json.insertByKey, Value.less?]
      by_cases below : name < other
      · exact ⟨_, by simp [below], .refl _⟩
      · refine ⟨(.text other, current) :: longer, by simp [below, inserted, Except.map], ?_⟩
        exact (perm.cons _).trans (.swap _ _ _)

theorem sortByKey_of_texts {α : Type} {entries : List (Value × α)}
    (texts : ∀ entry ∈ entries, ∃ name, entry.1 = .text name) :
    ∃ sorted, Json.sortByKey entries = .ok sorted ∧ sorted.Perm entries := by
  induction entries with
  | nil => exact ⟨[], rfl, .refl _⟩
  | cons entry rest inductionHypothesis =>
      obtain ⟨⟨name, key⟩, others⟩ := List.forall_mem_cons.mp texts
      obtain ⟨sorted, done, perm⟩ := inductionHypothesis others
      obtain ⟨longer, inserted, longerPerm⟩ := insertByKey_of_texts name entry.2
        fun other member => others other (perm.subset member)
      rcases entry with ⟨_, payload⟩
      obtain rfl : _ = Value.text name := key
      refine ⟨longer, ?_, longerPerm.trans (perm.cons _)⟩
      rw [Json.sortByKey, done]
      exact inserted

theorem encodeItems_of_hasText {items : List Value} (within : ∀ item ∈ items, HasText item) :
    ∃ texts, Json.encodeItems Json.Layout.sorted items = .ok texts := by
  induction items with
  | nil => exact ⟨[], rfl⟩
  | cons item rest inductionHypothesis =>
      obtain ⟨⟨text, encoded⟩, withinRest⟩ := List.forall_mem_cons.mp within
      obtain ⟨texts, written⟩ := inductionHypothesis withinRest
      exact ⟨text :: texts, by rw [Json.encodeItems, encoded, written]; rfl⟩

theorem encode_sorted_mapping (entries : Entries) :
    Json.encode Json.Layout.sorted (.mapping entries) =
      Json.sortByKey (Json.encodeEntries Json.Layout.sorted entries) >>= fun ordered =>
        (ordered.mapM (Json.objectPart Json.Layout.sorted)).map fun parts =>
          '\x7b' :: (Text.joined Json.Layout.sorted.itemSeparator parts ++ ['\x7d']) := by
  rw [Json.encode]
  rfl

theorem hasText_mapping {entries : Entries}
    (keys : ∀ entry ∈ entries, ∃ name, entry.1 = .text name)
    (values : ∀ entry ∈ entries, HasText entry.2) : HasText (.mapping entries) := by
  have texts : ∀ written ∈ Json.encodeEntries Json.Layout.sorted entries,
      ∃ name, written.1 = .text name := by
    rw [Json.encodeEntries_eq_map]
    exact List.forall_mem_map.mpr keys
  obtain ⟨ordered, sorted, perm⟩ := sortByKey_of_texts texts
  cases written : ordered.mapM (Json.objectPart Json.Layout.sorted) with
  | error failure =>
      obtain ⟨_, member, failed⟩ := Json.exists_of_mapM_eq_error written
      rw [Json.encodeEntries_eq_map] at perm
      obtain ⟨entry, held, rfl⟩ := List.mem_map.mp (perm.subset member)
      obtain ⟨name, key⟩ := keys entry held
      obtain ⟨text, encoded⟩ := values entry held
      simp [Json.objectPart, key, Json.keyText, encoded, bind, Except.bind, pure,
        Except.pure] at failed
  | ok parts =>
      refine ⟨'\x7b' :: (Text.joined Json.Layout.sorted.itemSeparator parts ++ ['\x7d']), ?_⟩
      rw [encode_sorted_mapping, sorted]
      change (ordered.mapM (Json.objectPart Json.Layout.sorted)).map _ = _
      rw [written]
      rfl

theorem TextKeyed.hasText {value : Value} (keyed : TextKeyed value)
    (shown : value.isShown = true) : HasText value := by
  induction keyed with
  | @whole value keys parts inductionHypothesis =>
      cases value with
      | list items | tuple items =>
          have within : ∀ item ∈ items, HasText item := fun item member =>
            inductionHypothesis item member (Value.areShown_iff.mp shown item member)
          obtain ⟨texts, written⟩ := encodeItems_of_hasText within
          exact ⟨_, by rw [Json.encode, written]; rfl⟩
      | mapping entries =>
          exact hasText_mapping (keys entries rfl) fun entry member =>
            inductionHypothesis _ (Value.value_mem_parts member)
              (Value.entriesShown_iff.mp shown entry member).2
      | _ => exact (Json.exists_encode_plain rfl rfl).mpr shown

/-- -1, 0 and 1 tell the order of texts. -/
theorem compareTexts_cases (left right : List Char) :
    (compareTexts left right = -1 ∧ String.ofList left < String.ofList right) ∨
      (compareTexts left right = 0 ∧ String.ofList left = String.ofList right) ∨
        (compareTexts left right = 1 ∧ String.ofList right < String.ofList left) := by
  rw [compareTexts]
  rcases lt_trichotomy (String.ofList left) (String.ofList right) with below | same | above
  · exact .inl ⟨if_pos below, below⟩
  · exact .inr (.inl ⟨by simp [same], same⟩)
  · exact .inr (.inr ⟨by simp [above, lt_asymm above], above⟩)

theorem compareTexts_swap (left right : List Char) :
    compareTexts right left = -compareTexts left right := by
  rcases compareTexts_cases left right with ⟨sign, order⟩ | ⟨sign, order⟩ | ⟨sign, order⟩ <;>
    rcases compareTexts_cases right left with ⟨turned, back⟩ | ⟨turned, back⟩ | ⟨turned, back⟩ <;>
    simp_all [lt_asymm]

theorem compareTexts_nonpos {left right : List Char} :
    compareTexts left right ≤ 0 ↔ String.ofList left ≤ String.ofList right := by
  rcases compareTexts_cases left right with ⟨sign, order⟩ | ⟨sign, order⟩ | ⟨sign, order⟩
  · simp [sign, order.le]
  · simp [sign, order]
  · simp [sign, order]

theorem compareEncoded_eq_ok {left right : Value} {sign : Int} :
    compareEncoded left right = .ok sign ↔ ∃ first second,
      Json.encode Json.Layout.sorted left = .ok first ∧
        Json.encode Json.Layout.sorted right = .ok second ∧ compareTexts first second = sign := by
  rw [compareEncoded]
  cases Json.encode Json.Layout.sorted left <;> cases Json.encode Json.Layout.sorted right <;> simp

/-- Two values are compared by their JSON texts: they are of one kind, they are not equal, and their
own order does not compare them. -/
structure ComparedAsTexts (left right : Value) : Prop where
  kind : rank left = rank right
  unequal : left.equal right = false
  unordered : left.less? right = none

/-- The sign of two values that are not compared by their texts. -/
inductive Signed (left right : Value) : Int → Prop where
  | lower : rank left < rank right → Signed left right (-1)
  | higher : rank right < rank left → Signed left right 1
  | tied : rank left = rank right → left.same right = true → Signed left right 0
  | before : rank left = rank right → left.same right = false → left.less? right = some true →
      Signed left right (-1)
  | after : rank left = rank right → left.same right = false → left.less? right = some false →
      Signed left right 1

variable {first second third : Value}

theorem compareValues_cases (ordinary : first.Ordinary) :
    (∃ sign, compareValues first second = .ok sign ∧ Signed first second sign) ∨
      (ComparedAsTexts first second ∧
        compareValues first second = compareEncoded first second) := by
  rw [compareValues]
  split
  · rename_i different
    split
    · exact .inl ⟨_, rfl, .lower ‹_›⟩
    · exact .inl ⟨_, rfl, .higher (by omega)⟩
  · rename_i kind
    have kind : rank first = rank second := by simpa using kind
    split
    · rename_i equal
      exact .inl ⟨_, rfl, .tied kind (ordinary.equal_eq_same ▸ equal)⟩
    · rename_i unequal
      have unequal : first.equal second = false := by simpa using unequal
      have apart : first.same second = false := ordinary.equal_eq_same ▸ unequal
      split
      · rename_i below ordered
        cases below with
        | true => exact .inl ⟨_, rfl, .before kind apart ordered⟩
        | false => exact .inl ⟨_, rfl, .after kind apart ordered⟩
      · exact .inr ⟨⟨kind, unequal, ‹_›⟩, rfl⟩

theorem ComparedAsTexts.symm (compared : ComparedAsTexts first second)
    (firstOrderly : first.Orderly) (secondOrderly : second.Orderly) :
    ComparedAsTexts second first := by
  have apart : first.same second = false := firstOrderly.ordinary.equal_eq_same ▸ compared.unequal
  refine ⟨compared.kind.symm, ?_, ?_⟩
  · rw [secondOrderly.ordinary.equal_eq_same, secondOrderly.same_comm firstOrderly, apart]
  · exact Value.less?_eq_none_comm firstOrderly secondOrderly apart compared.unordered

theorem not_comparedAsTexts (below : Bool) (ordered : first.less? second = some below) :
    ¬ ComparedAsTexts first second := by
  intro compared
  rw [compared.unordered] at ordered
  contradiction

theorem ComparedAsTexts.compareValues_eq (compared : ComparedAsTexts first second) :
    compareValues first second = compareEncoded first second := by
  simp [compareValues, compared.kind, compared.unequal, compared.unordered]

theorem Signed.compareValues_eq {sign : Int} (ordinary : first.Ordinary)
    (signed : Signed first second sign) : compareValues first second = .ok sign := by
  have equal : first.equal second = first.same second := ordinary.equal_eq_same
  cases signed with
  | lower below => simp [compareValues, below.ne, below]
  | higher above => simp [compareValues, above.ne', above.le]
  | tied kind same => simp [compareValues, kind, equal, same]
  | before kind apart ordered => simp [compareValues, kind, equal, apart, ordered]
  | after kind apart ordered => simp [compareValues, kind, equal, apart, ordered]

theorem Signed.swap {sign : Int} (firstOrderly : first.Orderly)
    (secondOrderly : second.Orderly) (signed : Signed first second sign) :
    Signed second first (-sign) := by
  have turned := secondOrderly.same_comm firstOrderly
  cases signed with
  | lower below => exact .higher below
  | higher above => exact .lower above
  | tied kind same => exact .tied kind.symm (turned.trans same)
  | before kind apart ordered =>
      exact .after kind.symm (turned.trans apart)
        (Value.less?_swap firstOrderly secondOrderly apart ordered)
  | after kind apart ordered =>
      exact .before kind.symm (turned.trans apart)
        (Value.less?_swap firstOrderly secondOrderly apart ordered)

theorem Signed.mem {sign : Int} (signed : Signed first second sign) :
    sign = -1 ∨ sign = 0 ∨ sign = 1 := by
  cases signed <;> simp

theorem Signed.trans {one other ends : Int} (firstOrderly : first.Orderly)
    (secondOrderly : second.Orderly) (thirdOrderly : third.Orderly)
    (left : Signed first second one) (right : Signed second third other)
    (outer : Signed first third ends) (oneNonpos : one ≤ 0) (otherNonpos : other ≤ 0) :
    ends ≤ 0 := by
  cases outer with
  | lower | tied | before => decide
  | higher above =>
      exfalso
      cases left <;> cases right <;> omega
  | after kind apart ordered =>
      exfalso
      cases left with
      | higher | after => omega
      | lower below => cases right <;> omega
      | tied firstKind same =>
          have both := firstOrderly.abreast secondOrderly same
          cases right with
          | higher | after | lower => omega
          | tied secondKind next =>
              rw [Value.same_trans same next] at apart
              contradiction
          | before secondKind _ next =>
              rw [Value.less?_congr_left both thirdOrderly.settled, next] at ordered
              contradiction
      | before firstKind _ below =>
          cases right with
          | higher | after | lower => omega
          | tied secondKind same =>
              have both := secondOrderly.abreast thirdOrderly same
              rw [← Value.less?_congr_right both firstOrderly.settled, below] at ordered
              contradiction
          | before secondKind _ next =>
              have impossible := Value.less?_trans firstOrderly secondOrderly thirdOrderly
                below next ordered
              contradiction

/-- Tied values compare alike with every other one, if not by texts. -/
theorem Signed.congr {sign : Int} (firstOrderly : first.Orderly)
    (secondOrderly : second.Orderly) (thirdOrderly : third.Orderly) (tied : Signed first second 0)
    (signed : Signed first third sign) : Signed second third sign := by
  obtain ⟨kind, same⟩ : rank first = rank second ∧ first.same second = true := by
    cases tied with
    | tied kind same => exact ⟨kind, same⟩
  have both := firstOrderly.abreast secondOrderly same
  have sames := Value.same_congr_left both.interchanges third
  have orders := Value.less?_congr_left both thirdOrderly.settled
  cases signed with
  | lower below => exact .lower (kind ▸ below)
  | higher above => exact .higher (kind ▸ above)
  | tied others held => exact .tied (kind ▸ others) (sames ▸ held)
  | before others apart ordered => exact .before (kind ▸ others) (sames ▸ apart) (orders ▸ ordered)
  | after others apart ordered => exact .after (kind ▸ others) (sames ▸ apart) (orders ▸ ordered)

theorem sign_of_compareValues {sign : Int} (ordinary : first.Ordinary)
    (compared : compareValues first second = .ok sign) : sign = -1 ∨ sign = 0 ∨ sign = 1 := by
  rcases compareValues_cases ordinary with ⟨own, done, signed⟩ | ⟨texts, done⟩
  · obtain rfl := Except.ok.inj (done.symm.trans compared)
    exact signed.mem
  · obtain ⟨left, right, -, -, rfl⟩ := compareEncoded_eq_ok.mp (done.symm.trans compared)
    rcases compareTexts_cases left right with ⟨sign, -⟩ | ⟨sign, -⟩ | ⟨sign, -⟩ <;> simp [sign]

/-- The sign of a comparison is the opposite one in the other order. -/
theorem compareValues_swap {sign : Int} (firstOrderly : first.Orderly)
    (secondOrderly : second.Orderly) (compared : compareValues first second = .ok sign) :
    compareValues second first = .ok (-sign) := by
  rcases compareValues_cases firstOrderly.ordinary with ⟨own, done, signed⟩ | ⟨texts, done⟩
  · obtain rfl := Except.ok.inj (done.symm.trans compared)
    exact (signed.swap firstOrderly secondOrderly).compareValues_eq secondOrderly.ordinary
  · obtain ⟨left, right, firstText, secondText, rfl⟩ :=
      compareEncoded_eq_ok.mp (done.symm.trans compared)
    rw [(texts.symm firstOrderly secondOrderly).compareValues_eq]
    exact compareEncoded_eq_ok.mpr ⟨right, left, secondText, firstText, compareTexts_swap _ _⟩

theorem compareValues_of_rank_ne (different : rank first ≠ rank second) :
    compareValues first second = .ok (if rank first < rank second then -1 else 1) :=
  if_pos different

theorem rank_le_of_nonpos {sign : Int} (compared : compareValues first second = .ok sign)
    (nonpos : sign ≤ 0) : rank first ≤ rank second := by
  by_contra above
  rw [compareValues_of_rank_ne (by omega), if_neg (by omega)] at compared
  obtain rfl := Except.ok.inj compared
  contradiction

/-- If three values are of one kind, either all of them are compared by their texts or none are. -/
def ComparedAlike (first second third : Value) : Prop :=
  rank first = rank second → rank second = rank third →
    (ComparedAsTexts first second ∧ ComparedAsTexts second third ∧ ComparedAsTexts first third) ∨
      (¬ ComparedAsTexts first second ∧ ¬ ComparedAsTexts second third ∧
        ¬ ComparedAsTexts first third)

theorem signed_of_compareValues {sign : Int} (ordinary : first.Ordinary)
    (own : ¬ ComparedAsTexts first second) (compared : compareValues first second = .ok sign) :
    Signed first second sign := by
  rcases compareValues_cases ordinary with ⟨found, done, signed⟩ | ⟨texts, -⟩
  · obtain rfl := Except.ok.inj (done.symm.trans compared)
    exact signed
  · exact absurd texts own

section Triples

variable {one other ends : Int} (firstOrderly : first.Orderly)
  (secondOrderly : second.Orderly) (thirdOrderly : third.Orderly)
  (alike : ComparedAlike first second third) (left : compareValues first second = .ok one)
  (right : compareValues second third = .ok other) (outer : compareValues first third = .ok ends)

include firstOrderly secondOrderly thirdOrderly alike left right outer

theorem compareValues_trans (oneNonpos : one ≤ 0) (otherNonpos : other ≤ 0) : ends ≤ 0 := by
  have low := rank_le_of_nonpos left oneNonpos
  have high := rank_le_of_nonpos right otherNonpos
  by_cases apart : rank first = rank third
  · rcases alike (by omega) (by omega) with ⟨one, two, three⟩ | ⟨one, two, three⟩
    · rw [one.compareValues_eq, compareEncoded_eq_ok] at left
      rw [two.compareValues_eq, compareEncoded_eq_ok] at right
      rw [three.compareValues_eq, compareEncoded_eq_ok] at outer
      obtain ⟨firstText, secondText, spelled, middle, rfl⟩ := left
      obtain ⟨_, thirdText, again, last, rfl⟩ := right
      obtain rfl := Except.ok.inj (middle.symm.trans again)
      obtain ⟨_, _, spelledAgain, lastAgain, rfl⟩ := outer
      obtain rfl := Except.ok.inj (spelled.symm.trans spelledAgain)
      obtain rfl := Except.ok.inj (last.symm.trans lastAgain)
      rw [compareTexts_nonpos] at oneNonpos otherNonpos ⊢
      exact le_trans oneNonpos otherNonpos
    · have first := signed_of_compareValues firstOrderly.ordinary one left
      have second := signed_of_compareValues secondOrderly.ordinary two right
      have third := signed_of_compareValues firstOrderly.ordinary three outer
      exact first.trans firstOrderly secondOrderly thirdOrderly second third oneNonpos otherNonpos
  · rw [compareValues_of_rank_ne apart, if_pos (by omega)] at outer
    obtain rfl := Except.ok.inj outer
    decide

theorem compareValues_congr (tie : one = 0) : ends = other := by
  subst tie
  have turned := compareValues_swap firstOrderly secondOrderly left
  have low := rank_le_of_nonpos left le_rfl
  have high := rank_le_of_nonpos turned (by decide)
  by_cases apart : rank second = rank third
  · rcases alike (by omega) apart with ⟨one, two, three⟩ | ⟨one, two, three⟩
    · rw [one.compareValues_eq, compareEncoded_eq_ok] at left
      rw [two.compareValues_eq, compareEncoded_eq_ok] at right
      rw [three.compareValues_eq, compareEncoded_eq_ok] at outer
      obtain ⟨firstText, secondText, spelled, middle, tie⟩ := left
      obtain ⟨_, thirdText, again, last, rfl⟩ := right
      obtain rfl := Except.ok.inj (middle.symm.trans again)
      obtain ⟨_, _, spelledAgain, lastAgain, rfl⟩ := outer
      obtain rfl := Except.ok.inj (spelled.symm.trans spelledAgain)
      obtain rfl := Except.ok.inj (last.symm.trans lastAgain)
      rcases compareTexts_cases firstText secondText with ⟨sign, -⟩ | ⟨-, same⟩ | ⟨sign, -⟩
      · simp [sign] at tie
      · simp only [compareTexts, same]
      · simp [sign] at tie
    · have tied := signed_of_compareValues firstOrderly.ordinary one left
      have signed := signed_of_compareValues firstOrderly.ordinary three outer
      have same := (tied.congr firstOrderly secondOrderly thirdOrderly signed).compareValues_eq
        secondOrderly.ordinary
      exact Except.ok.inj (same.symm.trans right)
  · rw [compareValues_of_rank_ne apart] at right
    rw [compareValues_of_rank_ne (by omega), le_antisymm low high] at outer
    exact Except.ok.inj (outer.symm.trans right)

end Triples

theorem failed_comparison {failure : Failure} (ordinary : first.Ordinary)
    (failed : compareValues first second = .error failure) :
    ComparedAsTexts first second ∧ (¬ HasText first ∨ ¬ HasText second) := by
  rcases compareValues_cases ordinary with ⟨sign, done, -⟩ | ⟨texts, done⟩
  · rw [done] at failed
    contradiction
  · refine ⟨texts, not_and_or.mp ?_⟩
    rintro ⟨⟨left, firstText⟩, right, secondText⟩
    simp [done, compareEncoded, firstText, secondText] at failed

/-- Comparisons of ordinary values follow the laws of an order, except that a comparison by texts
and one by the own order of values need not agree, and that times which a clock skips or shows twice
have no place in it: a comparison fails only for values that have to be compared by texts and have
none; its sign is -1, 0 or 1, and the opposite one in the other order; and three values that are
compared alike form no cycle, and a tie among them is a tie for the third. -/
theorem values_ordered_where_compared_alike (firstOrdinary : first.Ordinary)
    (secondOrdinary : second.Ordinary) (thirdOrdinary : third.Ordinary) :
    (TextKeyed first → first.isShown = true → TextKeyed second → second.isShown = true →
        ∃ sign, compareValues first second = .ok sign) ∧
      (∀ failure, compareValues first second = .error failure →
        ComparedAsTexts first second ∧ (¬ HasText first ∨ ¬ HasText second)) ∧
      (∀ sign, compareValues first second = .ok sign →
        (sign = -1 ∨ sign = 0 ∨ sign = 1) ∧
          (first.Settled → second.Settled → compareValues second first = .ok (-sign))) ∧
      (first.Settled → second.Settled → third.Settled → ComparedAlike first second third →
        ∀ one other ends,
        compareValues first second = .ok one → compareValues second third = .ok other →
        compareValues first third = .ok ends →
          (one ≤ 0 → other ≤ 0 → ends ≤ 0) ∧ (one = 0 → ends = other)) := by
  refine ⟨?_, ?_, ?_, ?_⟩
  · intro firstKeyed firstShown secondKeyed secondShown
    cases compared : compareValues first second with
    | ok sign => exact ⟨sign, rfl⟩
    | error failure =>
        rcases failed_comparison firstOrdinary compared with ⟨-, missing | missing⟩
        · exact absurd (firstKeyed.hasText firstShown) missing
        · exact absurd (secondKeyed.hasText secondShown) missing
  · exact fun failure => failed_comparison firstOrdinary
  · intro sign compared
    refine ⟨sign_of_compareValues firstOrdinary compared, fun firstSettled secondSettled => ?_⟩
    exact compareValues_swap ⟨firstOrdinary, firstSettled⟩ ⟨secondOrdinary, secondSettled⟩ compared
  · intro firstSettled secondSettled thirdSettled alike one other ends left right outer
    have firstOrderly : first.Orderly := ⟨firstOrdinary, firstSettled⟩
    have secondOrderly : second.Orderly := ⟨secondOrdinary, secondSettled⟩
    have thirdOrderly : third.Orderly := ⟨thirdOrdinary, thirdSettled⟩
    exact ⟨compareValues_trans firstOrderly secondOrderly thirdOrderly alike left right outer,
      compareValues_congr firstOrderly secondOrderly thirdOrderly alike left right outer⟩

/-- Lists of numbers, truth values and further lists. -/
theorem nested_lists_are_ordered :
    ∃ one other ends,
      compareValues (.list [.bool true, .list [.int 3]]) (.list [.int 1, .list [.int 4]]) =
        .ok one ∧
      compareValues (.list [.int 1, .list [.int 4]]) (.list [.int 2]) = .ok other ∧
      compareValues (.list [.bool true, .list [.int 3]]) (.list [.int 2]) = .ok ends ∧
      one = -1 ∧ other = -1 ∧ ends ≤ 0 := by
  have ordinary (only : Value) (number : Int) (kind : only.isOrdinary = true)
      (single : only.parts = []) : (Value.list [only, .list [.int number]]).Ordinary := by
    refine .list (List.forall_mem_cons.mpr ⟨.simple kind single, ?_⟩)
    refine List.forall_mem_singleton.mpr (.list ?_)
    exact List.forall_mem_singleton.mpr (.simple rfl rfl)
  have alike : ComparedAlike (.list [.bool true, .list [.int 3]])
      (.list [.int 1, .list [.int 4]]) (.list [.int 2]) := by
    refine fun _ _ => .inr ⟨?_, ?_, ?_⟩ <;> exact not_comparedAsTexts true (by cbv)
  have first : compareValues (.list [.bool true, .list [.int 3]])
      (.list [.int 1, .list [.int 4]]) = .ok (-1) := by cbv
  have second : compareValues (.list [.int 1, .list [.int 4]]) (.list [.int 2]) = .ok (-1) := by cbv
  have third : compareValues (.list [.bool true, .list [.int 3]]) (.list [.int 2]) =
      .ok (-1) := by cbv
  have two : (Value.int 2).Ordinary := .simple rfl rfl
  have number (value : Int) : (Value.int value).Settled := .simple (by simp) rfl
  have truth : (Value.bool true).Settled := .simple (by simp) rfl
  have laws := values_ordered_where_compared_alike (ordinary (.bool true) 3 rfl rfl)
    (ordinary (.int 1) 4 rfl rfl)
    (.list (List.forall_mem_singleton.mpr two))
  exact ⟨-1, -1, -1, first, second, third, rfl, rfl,
    (laws.2.2.2 (.list (by simp [truth, Value.Settled.list, number]))
      (.list (by simp [Value.Settled.list, number])) (.list (by simp [number])) alike _ _ _
      first second third).1 (by decide) (by decide)⟩

/-- A moment of the first day of the year 2024. -/
def newYear (hour : Nat) (offset? : Option Int) : Value :=
  .datetime { date := ⟨2024, 1, 1⟩, hour, minute := 0, second := 0, microsecond := 0, offset? }

/-- A zone that goes back from two hours to one before universal time, one hour into a day. -/
def autumnZone : Zone where
  name := "Europe/Berlin"
  first := 7200
  changes := [(86400 * (Date.number ⟨2024, 10, 27⟩ : Int) + 3600, 3600)]
  spaced := trivial

/-- Half past two of that day, as the clock shows it first, and the same moment in universal time. -/
def autumnTime : Value := .datetime ⟨⟨2024, 10, 27⟩, 2, 30, 0, 0, none, some autumnZone, false⟩
def autumnMoment : Value := .datetime ⟨⟨2024, 10, 27⟩, 0, 30, 0, 0, some 0, none, false⟩

/-- A comparison by texts and one by the own order of values lead to cycles: lists that tie are on
different sides of a third one, and a time without an offset lies between two others the wrong way
round. A time that the clock of its zone shows twice comes after its own instant, and this after
it. -/
theorem mixed_comparisons_form_cycles :
    (compareValues (.list [.bool true]) (.list [.int 1]) = .ok 0 ∧
      compareValues (.list [.int 1]) (.list [.null]) = .ok (-1) ∧
      compareValues (.list [.bool true]) (.list [.null]) = .ok 1) ∧
    (compareValues (newYear 12 (some 43200)) (newYear 6 (some 0)) = .ok (-1) ∧
      compareValues (newYear 6 (some 0)) (newYear 9 none) = .ok (-1) ∧
      compareValues (newYear 12 (some 43200)) (newYear 9 none) = .ok 1) ∧
    (compareValues autumnTime autumnMoment = .ok 1 ∧
      compareValues autumnMoment autumnTime = .ok 1) := by
  refine ⟨⟨?_, ?_, ?_⟩, ⟨?_, ?_, ?_⟩, ?_, ?_⟩ <;> cbv

end RecordQuery.Records
