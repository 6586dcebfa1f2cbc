import RecordQuery.Proofs.Records.Pipeline
import RecordQuery.Proofs.Records.StableSort
import RecordQuery.Proofs.Records.ValueOrder

/-!
# The order of records

Records that have nothing or a scalar under each sort path are weakly ordered: scalars are, a
missing value after all others keeps it so, and so does going through one path after the other. Such
records are sorted stably, whatever their number and that of the paths.
-/

namespace RecordQuery

/-- Null, truth values, texts and numbers, without not-a-number. -/
def Value.isScalar : Value → Bool
  | .null | .bool _ | .int _ | .text _ => true
  | .float (.nan _) => false
  | .float _ => true
  | _ => false

def Direction.opposite : Direction → Direction
  | .ascending => .descending
  | .descending => .ascending

theorem Direction.toInt_opposite (direction : Direction) :
    direction.opposite.toInt = -direction.toInt := by
  cases direction <;> rfl

theorem Direction.toInt_ne_zero (direction : Direction) : direction.toInt ≠ 0 := by
  cases direction <;> decide

namespace Records

/-- A sign that orders suited members: it is not positive for members in order. -/
structure SignOrder {α : Type} (suited : α → Prop) (sign : α → α → Int) : Prop where
  opposite {left right : α} : suited left → suited right → sign right left = -sign left right
  trans {first second third : α} : suited first → suited second → suited third →
    sign first second ≤ 0 → sign second third ≤ 0 → sign first third ≤ 0

/-- The sign of members that may be missing; the missing ones come last. -/
def missingLast {α : Type} (sign : α → α → Int) : Option α → Option α → Int
  | none, none => 0
  | some _, none => -1
  | none, some _ => 1
  | some left, some right => sign left right

namespace SignOrder

variable {α β ε : Type} {suited fewer : α → Prop} {sign after : α → α → Int}

theorem mono (order : SignOrder suited sign) (within : ∀ item, fewer item → suited item) :
    SignOrder fewer sign where
  opposite left right := order.opposite (within _ left) (within _ right)
  trans first second third := order.trans (within _ first) (within _ second) (within _ third)

theorem comap (order : SignOrder suited sign) (part : β → α) :
    SignOrder (fun whole => suited (part whole))
      fun left right => sign (part left) (part right) where
  opposite left right := order.opposite left right
  trans first second third := order.trans first second third

theorem times (order : SignOrder suited sign) (direction : Direction) :
    SignOrder suited fun left right => sign left right * direction.toInt where
  opposite left right := by rw [order.opposite left right, Int.neg_mul]
  trans {first second third} firstSuited secondSuited thirdSuited one other := by
    cases direction with
    | ascending =>
        rw [Direction.toInt, Int.mul_one] at one other ⊢
        exact order.trans firstSuited secondSuited thirdSuited one other
    | descending =>
        have turnedOne := order.opposite firstSuited secondSuited
        have turnedOther := order.opposite secondSuited thirdSuited
        have turned := order.opposite firstSuited thirdSuited
        have back := order.trans thirdSuited secondSuited firstSuited
        simp only [Direction.toInt] at one other ⊢
        omega

theorem missingLast (order : SignOrder suited sign) :
    SignOrder (fun found => ∀ value ∈ found, suited value) (missingLast sign) where
  opposite {left right} leftSuited rightSuited := by
    cases left <;> cases right <;> try rfl
    exact order.opposite (leftSuited _ rfl) (rightSuited _ rfl)
  trans {first second third} firstSuited secondSuited thirdSuited one other := by
    cases third with
    | none => cases first <;> simp [Records.missingLast]
    | some third =>
        cases second with
        | none => contradiction
        | some second =>
            cases first with
            | none => contradiction
            | some first =>
                exact order.trans (firstSuited _ rfl) (secondSuited _ rfl) (thirdSuited _ rfl) one
                  other

/-- Members that tie by one sign can be ordered by another one. -/
theorem andThen (order : SignOrder suited sign) (next : SignOrder suited after) :
    SignOrder suited fun left right =>
      if sign left right = 0 then after left right else sign left right where
  opposite {left right} leftSuited rightSuited := by
    have turned := order.opposite leftSuited rightSuited
    have turnedAfter := next.opposite leftSuited rightSuited
    split <;> split <;> omega
  trans {first second third} firstSuited secondSuited thirdSuited one other := by
    have whole := order.trans firstSuited secondSuited thirdSuited
    have backFirst := order.trans thirdSuited firstSuited secondSuited
    have backLast := order.trans secondSuited thirdSuited firstSuited
    have turnedOne := order.opposite firstSuited secondSuited
    have turnedOther := order.opposite secondSuited thirdSuited
    have turned := order.opposite firstSuited thirdSuited
    have nextWhole := next.trans firstSuited secondSuited thirdSuited
    split at one <;> split at other <;> split <;> omega

theorem weaklyOrders {less : α → α → Except ε Bool} {items : List α} (order : SignOrder suited sign)
    (within : ∀ item ∈ items, suited item)
    (decided : ∀ left ∈ items, ∀ right ∈ items,
      less left right = .ok (decide (sign left right < 0))) :
    WeaklyOrders less (fun left right => decide (sign left right < 0)) items where
  decided := decided
  asymmetric left leftMember right rightMember under := by
    have turned := order.opposite (within left leftMember) (within right rightMember)
    simp only [decide_eq_true_eq, decide_eq_false_iff_not] at under ⊢
    omega
  between left leftMember middle middleMember right rightMember under := by
    have turned := order.opposite (within left leftMember) (within right rightMember)
    have turnedLeft := order.opposite (within left leftMember) (within middle middleMember)
    have turnedRight := order.opposite (within middle middleMember) (within right rightMember)
    have back := order.trans (within right rightMember) (within middle middleMember)
      (within left leftMember)
    simp only [decide_eq_true_eq] at under ⊢
    omega

end SignOrder

theorem orderly_of_isScalar {value : Value} (scalar : value.isScalar = true) : value.Orderly := by
  cases value with
  | float real =>
      cases real <;> first | exact ⟨.simple rfl rfl, .simple nofun rfl⟩ | contradiction
  | null | bool _ | int _ | text _ => exact ⟨.simple rfl rfl, .simple nofun rfl⟩
  | _ => contradiction

theorem less?_ne_none_of_isNumeric {left right : Value} (leftNumeric : left.isNumeric = true)
    (rightNumeric : right.isNumeric = true) : left.less? right ≠ none := by
  cases left <;> try contradiction
  all_goals
    simp only [Value.less?, leftNumeric, rightNumeric, Bool.and_self, if_true]
    split <;> simp

/-- Scalars are never compared by their JSON texts. -/
theorem not_comparedAsTexts_of_isScalar {left right : Value} (leftScalar : left.isScalar = true)
    (rightScalar : right.isScalar = true) : ¬ ComparedAsTexts left right := by
  rintro ⟨kind, unequal, unordered⟩
  by_cases numeric : left.isNumeric = true ∧ right.isNumeric = true
  · exact less?_ne_none_of_isNumeric numeric.1 numeric.2 unordered
  · have null : Value.null.equal .null = true := by cbv
    cases left <;> cases right <;> first
      | contradiction
      | exact numeric ⟨rfl, rfl⟩
      | exact Bool.noConfusion (null.symm.trans unequal)
      | simp [rank] at kind

def valueSign (left right : Value) : Int :=
  match compareValues left right with
  | .ok sign => sign
  | .error _ => 0

theorem compareValues_of_isScalar {left right : Value} (leftScalar : left.isScalar = true)
    (rightScalar : right.isScalar = true) :
    compareValues left right = .ok (valueSign left right) := by
  have ordinary := (orderly_of_isScalar leftScalar).ordinary
  rcases compareValues_cases ordinary with ⟨sign, compared, -⟩ | ⟨texts, -⟩
  · rw [valueSign, compared]
  · exact absurd texts (not_comparedAsTexts_of_isScalar leftScalar rightScalar)

theorem signOrder_scalars : SignOrder (fun value => value.isScalar = true) valueSign where
  opposite {left right} leftScalar rightScalar := by
    have turned := compareValues_swap (orderly_of_isScalar leftScalar)
      (orderly_of_isScalar rightScalar) (compareValues_of_isScalar leftScalar rightScalar)
    exact Except.ok.inj ((compareValues_of_isScalar rightScalar leftScalar).symm.trans turned)
  trans firstScalar secondScalar thirdScalar := by
    refine compareValues_trans (orderly_of_isScalar firstScalar)
      (orderly_of_isScalar secondScalar) (orderly_of_isScalar thirdScalar)
      (fun _ _ => .inr ⟨?_, ?_, ?_⟩)
      (compareValues_of_isScalar firstScalar secondScalar)
      (compareValues_of_isScalar secondScalar thirdScalar)
      (compareValues_of_isScalar firstScalar thirdScalar)
    · exact not_comparedAsTexts_of_isScalar firstScalar secondScalar
    · exact not_comparedAsTexts_of_isScalar secondScalar thirdScalar
    · exact not_comparedAsTexts_of_isScalar firstScalar thirdScalar

/-- Each path of a sort leads to nothing or to a scalar of a record. -/
def Sortable (sort : SortOrder) (record : Value) : Prop :=
  ∀ entry ∈ sort, ∃ found, lookup record entry.1 = .ok found ∧
    ∀ value ∈ found, value.isScalar = true

def found (path : String) (record : Value) : Option Value :=
  match lookup record path with
  | .ok found => found
  | .error _ => none

theorem found_eq {path : String} {record : Value} {value? : Option Value}
    (looked : lookup record path = .ok value?) : found path record = value? := by
  rw [found, looked]

def pathSign (entry : String × Direction) (left right : Value) : Int :=
  missingLast (fun first second => valueSign first second * entry.2.toInt)
    (found entry.1 left) (found entry.1 right)

/-- The sign of records by the paths of a sort, of which the first one that tells them apart
decides. -/
def recordSign : SortOrder → Value → Value → Int
  | [], _, _ => 0
  | entry :: rest, left, right =>
      if pathSign entry left right = 0 then recordSign rest left right
      else pathSign entry left right

theorem found_isScalar {path : String} {direction : Direction} {rest : SortOrder} {record : Value}
    (suited : Sortable ((path, direction) :: rest) record) :
    ∀ value ∈ found path record, value.isScalar = true := by
  obtain ⟨value?, looked, scalar⟩ := suited _ List.mem_cons_self
  rwa [found_eq looked]

theorem signOrder_records (sort : SortOrder) : SignOrder (Sortable sort) (recordSign sort) := by
  induction sort with
  | nil => exact ⟨fun _ _ => rfl, fun _ _ _ _ _ => le_rfl⟩
  | cons entry rest inductionHypothesis =>
      have path : SignOrder (Sortable (entry :: rest)) (pathSign entry) :=
        (((signOrder_scalars.times entry.2).missingLast).comap (found entry.1)).mono
          fun record suited => found_isScalar suited
      refine path.andThen (inductionHypothesis.mono fun record suited => ?_)
      exact (List.forall_mem_cons.mp suited).2

theorem compareRecords_eq {sort : SortOrder} {left right : Value} (leftSuited : Sortable sort left)
    (rightSuited : Sortable sort right) :
    compareRecords left right sort.toEntries = .ok (.int (recordSign sort left right)) := by
  induction sort with
  | nil => rfl
  | cons entry rest inductionHypothesis =>
      obtain ⟨⟨low, leftFound, lowScalar⟩, leftRest⟩ := List.forall_mem_cons.mp leftSuited
      obtain ⟨⟨high, rightFound, highScalar⟩, rightRest⟩ := List.forall_mem_cons.mp rightSuited
      have others := inductionHypothesis leftRest rightRest
      rw [compareRecords_cons, comparePath, leftFound, rightFound, recordSign, pathSign,
        found_eq leftFound, found_eq rightFound]
      cases low with
      | none => cases high <;> simp [missingLast, others]
      | some low =>
          cases high with
          | none => simp [missingLast]
          | some high =>
              have compared := compareValues_of_isScalar (lowScalar low rfl) (highScalar high rfl)
              have factor := entry.2.toInt_ne_zero
              by_cases tie : valueSign low high = 0
              · simp [missingLast, compared, Except.map, tie, others]
              · simp [missingLast, compared, Except.map, tie, factor]

/-- Records that tie under the paths before one, and have values under it that do not tie. -/
structure ToldApart (before : SortOrder) (path : String) (left right : Value) : Prop where
  tied : compareRecords left right before.toEntries = .ok (.int 0)
  unequal : ∃ first second, lookup left path = .ok (some first) ∧
    lookup right path = .ok (some second) ∧ compareValues first second ≠ .ok 0

theorem recordSign_append (before after : SortOrder) (left right : Value) :
    recordSign (before ++ after) left right =
      if recordSign before left right = 0 then recordSign after left right
      else recordSign before left right := by
  induction before with
  | nil => simp [recordSign]
  | cons entry rest inductionHypothesis =>
      rw [List.cons_append, recordSign, recordSign, inductionHypothesis]
      split <;> simp_all

/-- Two records have values under a path that do not tie. -/
def Unequal (path : String) (left right : Value) : Prop :=
  ∃ first second, found path left = some first ∧ found path right = some second ∧
    valueSign first second ≠ 0

theorem pathSign_opposite_of_unequal {path : String} {left right : Value} (direction : Direction)
    (unequal : Unequal path left right) : pathSign (path, direction) left right ≠ 0 ∧
      pathSign (path, direction.opposite) left right = -pathSign (path, direction) left right := by
  obtain ⟨first, second, leftFound, rightFound, apart⟩ := unequal
  simp [pathSign, leftFound, rightFound, missingLast, apart, direction.toInt_ne_zero,
    Direction.toInt_opposite]

theorem pathSign_opposite_of_not_unequal {path : String} {left right : Value}
    (direction : Direction) (alike : ¬ Unequal path left right) :
    pathSign (path, direction.opposite) left right = pathSign (path, direction) left right := by
  rw [pathSign, pathSign]
  cases low : found path left with
  | none => cases found path right <;> rfl
  | some first =>
      cases high : found path right with
      | none => rfl
      | some second =>
          have same : valueSign first second = 0 := by
            by_contra apart
            exact alike ⟨first, second, low, high, apart⟩
          simp [missingLast, same]

section Flip

variable {before after : SortOrder} {path : String} {direction : Direction} {left right : Value}
  (leftSuited : Sortable (before ++ (path, direction) :: after) left)
  (rightSuited : Sortable (before ++ (path, direction) :: after) right)

omit rightSuited in
include leftSuited in
theorem sortable_parts : Sortable before left ∧
    ∃ found, lookup left path = .ok found ∧ ∀ value ∈ found, value.isScalar = true :=
  ⟨fun entry member => leftSuited entry (List.mem_append_left _ member),
    leftSuited (path, direction) (by simp)⟩

include leftSuited rightSuited

theorem tied_iff_recordSign :
    compareRecords left right before.toEntries = .ok (.int 0) ↔
      recordSign before left right = 0 := by
  rw [compareRecords_eq (sortable_parts leftSuited).1 (sortable_parts rightSuited).1]
  simp

/-- A record that lacks a path comes after one that has it, whatever the direction. -/
theorem lacking_of_recordSign_nonpos
    (tied : compareRecords left right before.toEntries = .ok (.int 0))
    (nonpos : recordSign (before ++ (path, direction) :: after) left right ≤ 0)
    (lacking : lookup left path = .ok none) : lookup right path = .ok none := by
  obtain ⟨-, value?, looked, -⟩ := sortable_parts rightSuited
  cases value? with
  | none => exact looked
  | some value =>
      rw [recordSign_append, (tied_iff_recordSign leftSuited rightSuited).mp tied, if_pos rfl,
        recordSign, pathSign, found_eq lacking, found_eq looked] at nonpos
      simp [missingLast] at nonpos

theorem toldApart_iff : ToldApart before path left right ↔
    recordSign before left right = 0 ∧ Unequal path left right := by
  obtain ⟨-, low, leftLooked, lowScalar⟩ := sortable_parts leftSuited
  obtain ⟨-, high, rightLooked, highScalar⟩ := sortable_parts rightSuited
  have tied := tied_iff_recordSign leftSuited rightSuited
  rw [Unequal, found_eq leftLooked, found_eq rightLooked]
  constructor
  · rintro ⟨tie, first, second, leftFound, rightFound, unequal⟩
    obtain rfl := Except.ok.inj (leftLooked.symm.trans leftFound)
    obtain rfl := Except.ok.inj (rightLooked.symm.trans rightFound)
    refine ⟨tied.mp tie, first, second, rfl, rfl, fun same => unequal ?_⟩
    rw [compareValues_of_isScalar (lowScalar first rfl) (highScalar second rfl), same]
  · rintro ⟨tie, first, second, rfl, rfl, unequal⟩
    refine ⟨tied.mpr tie, first, second, leftLooked, rightLooked, fun same => unequal ?_⟩
    rw [valueSign, same]

/-- The other direction turns the order of records round that it tells apart, and of no others. -/
theorem recordSign_opposite :
    (ToldApart before path left right →
      recordSign (before ++ (path, direction) :: after) left right ≠ 0 ∧
      recordSign (before ++ (path, direction.opposite) :: after) left right =
        -recordSign (before ++ (path, direction) :: after) left right) ∧
    (¬ ToldApart before path left right →
      recordSign (before ++ (path, direction.opposite) :: after) left right =
        recordSign (before ++ (path, direction) :: after) left right) := by
  rw [toldApart_iff leftSuited rightSuited, recordSign_append, recordSign_append, recordSign,
    recordSign]
  constructor
  · rintro ⟨tie, unequal⟩
    obtain ⟨apart, turned⟩ := pathSign_opposite_of_unequal direction unequal
    simp [tie, apart, turned]
  · intro alike
    by_cases tie : recordSign before left right = 0
    · rw [pathSign_opposite_of_not_unequal direction fun unequal => alike ⟨tie, unequal⟩]
    · rw [if_neg tie, if_neg tie]

end Flip

/-- All places of records, so that none has to come before one in front of it, and those that tie
stand as they did. -/
structure SortedPlaces (sort : SortOrder) (records : List Value)
    (places : List (Fin records.length)) : Prop where
  all : places.Perm (List.finRange records.length)
  ordered : places.Pairwise fun first second => ∃ sign,
    compareRecords (records.get first) (records.get second) sort.toEntries = .ok (.int sign) ∧
      sign ≤ 0 ∧ (sign = 0 → first < second)

/-- Whether one record comes before another one. -/
def isBelow (sort : SortOrder) (left right : Value) : Bool :=
  decide (recordSign sort left right < 0)

section Sorted

variable {sort : SortOrder} {records : List Value}
  (suited : ∀ record ∈ records, Sortable sort record)

include suited

theorem precedes_eq {left right : Value} (leftMember : left ∈ records)
    (rightMember : right ∈ records) :
    precedes sort.toEntries left right = .ok (isBelow sort left right) := by
  rw [precedes, compareRecords_eq (suited left leftMember) (suited right rightMember)]
  simp only [Value.less?, Value.isNumeric, Value.point?, Extended.less, Bool.and_self, if_true,
    isBelow]
  exact congrArg Except.ok (decide_eq_decide.mpr (by exact_mod_cast Iff.rfl))

theorem weaklyOrders_records :
    WeaklyOrders (precedes sort.toEntries) (isBelow sort) records :=
  (signOrder_records sort).weaklyOrders suited fun _ leftMember _ rightMember =>
    precedes_eq suited leftMember rightMember

theorem placeComes_iff {first second : Fin records.length} :
    placeComes (isBelow sort) records first second ↔
      ∃ sign, compareRecords (records.get first) (records.get second) sort.toEntries =
        .ok (.int sign) ∧ sign ≤ 0 ∧ (sign = 0 → first < second) := by
  have firstSuited := suited _ (List.get_mem records first)
  have secondSuited := suited _ (List.get_mem records second)
  have turned := (signOrder_records sort).opposite firstSuited secondSuited
  rw [placeComes, isBelow, isBelow, compareRecords_eq firstSuited secondSuited]
  simp only [decide_eq_true_eq, decide_eq_false_iff_not, Except.ok.injEq, Value.int.injEq,
    exists_eq_left']
  omega

theorem sortedPlaces_iff {places : List (Fin records.length)} :
    SortedPlaces sort records places ↔ StableOrder (isBelow sort) records places := by
  constructor
  · rintro ⟨all, ordered⟩
    exact ⟨all, ordered.imp (placeComes_iff suited).mpr⟩
  · rintro ⟨perm, ordered⟩
    exact ⟨perm, ordered.imp (placeComes_iff suited).mp⟩

theorem sortRecords_sorted : ∃ places, SortedPlaces sort records places ∧
    sortRecords sort.toEntries records = .ok (places.map records.get) := by
  rw [sortRecords]
  split
  · rename_i empty
    obtain rfl := List.map_eq_nil_iff.mp (List.isEmpty_iff.mp empty)
    refine ⟨List.finRange records.length, ⟨.refl _, ?_⟩, by rw [List.map_get_finRange]⟩
    exact (List.pairwise_lt_finRange _).imp fun sooner => ⟨0, rfl, le_rfl, fun _ => sooner⟩
  · obtain ⟨places, stable, sorted⟩ := (weaklyOrders_records suited).sortBy_stable
    exact ⟨places, (sortedPlaces_iff suited).mpr stable, sorted⟩

/-- Where no records tie, it does not matter how they stood. -/
theorem sortRecords_of_perm {others : List Value} (perm : others.Perm records)
    (apart : records.Pairwise fun left right =>
      compareRecords left right sort.toEntries ≠ .ok (.int 0)) :
    sortRecords sort.toEntries others = sortRecords sort.toEntries records := by
  rw [sortRecords, sortRecords]
  split
  · -- All records tie without paths, so there is one of them at most.
    rename_i empty
    obtain rfl := List.map_eq_nil_iff.mp (List.isEmpty_iff.mp empty)
    rcases records with _ | ⟨first, _ | ⟨second, rest⟩⟩
    · rw [perm.eq_nil]
    · rw [perm.eq_singleton]
    · exact absurd rfl ((List.pairwise_cons.mp apart).1 second List.mem_cons_self)
  · refine (weaklyOrders_records suited).sortBy_of_perm perm (apart.imp_of_mem ?_)
    intro left right leftMember rightMember unequal
    have leftSuited := suited left leftMember
    have rightSuited := suited right rightMember
    have turned := (signOrder_records sort).opposite leftSuited rightSuited
    rw [compareRecords_eq leftSuited rightSuited] at unequal
    have nonzero : recordSign sort left right ≠ 0 := fun same => unequal (by rw [same])
    simp only [isBelow, decide_eq_true_eq]
    omega

end Sorted

section Turned

variable {before after : SortOrder} {path : String} {direction : Direction} {records : List Value}
  (suited : ∀ record ∈ records, Sortable (before ++ (path, direction) :: after) record)

include suited

theorem sortable_opposite :
    ∀ record ∈ records, Sortable (before ++ (path, direction.opposite) :: after) record := by
  intro record member entry entryMember
  rcases List.mem_append.mp entryMember with sooner | later
  · exact suited record member entry (List.mem_append_left _ sooner)
  · rcases List.mem_cons.mp later with rfl | later
    · exact suited record member (path, direction) (by simp)
    · exact suited record member entry (by simp [later])

/-- The places that another direction gives: those of records that it tells apart are turned round.
-/
theorem pair_sublist_opposite {places turned : List (Fin records.length)}
    (sorted : SortedPlaces (before ++ (path, direction) :: after) records places)
    (sortedTurned : SortedPlaces (before ++ (path, direction.opposite) :: after) records turned)
    (first second : Fin records.length) :
    (ToldApart before path (records.get first) (records.get second) →
      ([first, second].Sublist turned ↔ [second, first].Sublist places)) ∧
    (¬ ToldApart before path (records.get first) (records.get second) →
      ([first, second].Sublist turned ↔ [first, second].Sublist places)) := by
  have suitedTurned := sortable_opposite suited
  have firstSuited := suited _ (List.get_mem records first)
  have secondSuited := suited _ (List.get_mem records second)
  have swapped := (signOrder_records _).opposite firstSuited secondSuited
  have swappedTurned := (signOrder_records _).opposite
    (suitedTurned _ (List.get_mem records first)) (suitedTurned _ (List.get_mem records second))
  obtain ⟨apart, alike⟩ := recordSign_opposite firstSuited secondSuited
  have pair (one other : Fin records.length) : [one, other].Sublist places ↔ _ :=
    (weaklyOrders_records suited).pair_sublist_iff ((sortedPlaces_iff suited).mp sorted)
  have pairTurned : [first, second].Sublist turned ↔ _ :=
    (weaklyOrders_records suitedTurned).pair_sublist_iff
      ((sortedPlaces_iff suitedTurned).mp sortedTurned)
  simp only [pair, pairTurned, placeComes, isBelow, decide_eq_true_eq, decide_eq_false_iff_not]
  constructor
  · intro told
    have := apart told
    omega
  · intro told
    have := alike told
    omega

end Turned

/-- Records with nothing or a scalar under each sort path are weakly ordered and sorted stably.
Under a path, those that tie under all paths before it have missing values last, in both directions;
the other direction turns the order of those round that have unequal values there, and of no others.
Where no records tie, the result does not depend on their old order. -/
theorem records_sorted_stably {sort : SortOrder} {records : List Value}
    (suited : ∀ record ∈ records, Sortable sort record) :
    (∀ left right, Sortable sort left → Sortable sort right →
      ∃ sign, compareRecords left right sort.toEntries = .ok (.int sign) ∧
        compareRecords right left sort.toEntries = .ok (.int (-sign))) ∧
    (∀ first second third, Sortable sort first → Sortable sort second → Sortable sort third →
      ∀ one other ends, compareRecords first second sort.toEntries = .ok (.int one) →
        compareRecords second third sort.toEntries = .ok (.int other) →
        compareRecords first third sort.toEntries = .ok (.int ends) →
        one ≤ 0 → other ≤ 0 → ends ≤ 0) ∧
    ∃ places, SortedPlaces sort records places ∧
      sortRecords sort.toEntries records = .ok (places.map records.get) ∧
      (∀ others, SortedPlaces sort records others → others = places) ∧
      (∀ before path direction after, sort = before ++ (path, direction) :: after →
        (places.Pairwise fun first second =>
          compareRecords (records.get first) (records.get second) before.toEntries = .ok (.int 0) →
          lookup (records.get first) path = .ok none →
          lookup (records.get second) path = .ok none) ∧
        ∃ turned, SortedPlaces (before ++ (path, direction.opposite) :: after) records turned ∧
          sortRecords (SortOrder.toEntries (before ++ (path, direction.opposite) :: after))
            records = .ok (turned.map records.get) ∧
          ∀ first second,
            (ToldApart before path (records.get first) (records.get second) →
              ([first, second].Sublist turned ↔ [second, first].Sublist places)) ∧
            (¬ ToldApart before path (records.get first) (records.get second) →
              ([first, second].Sublist turned ↔ [first, second].Sublist places))) ∧
      ((records.Pairwise fun left right =>
          compareRecords left right sort.toEntries ≠ .ok (.int 0)) →
        ∀ others : List Value, others.Perm records →
          sortRecords sort.toEntries others = .ok (places.map records.get)) := by
  obtain ⟨places, sortedPlaces, sorted⟩ := sortRecords_sorted suited
  refine ⟨?_, ?_, places, sortedPlaces, sorted, ?_, ?_, ?_⟩
  · intro left right leftSuited rightSuited
    refine ⟨recordSign sort left right, compareRecords_eq leftSuited rightSuited, ?_⟩
    rw [compareRecords_eq rightSuited leftSuited,
      (signOrder_records sort).opposite leftSuited rightSuited]
  · intro first second third firstSuited secondSuited thirdSuited one other ends left right outer
    rw [compareRecords_eq firstSuited secondSuited] at left
    rw [compareRecords_eq secondSuited thirdSuited] at right
    rw [compareRecords_eq firstSuited thirdSuited] at outer
    cases left
    cases right
    cases outer
    exact (signOrder_records sort).trans firstSuited secondSuited thirdSuited
  · intro others sortedOthers
    exact (weaklyOrders_records suited).stableOrder_unique
      ((sortedPlaces_iff suited).mp sortedPlaces) ((sortedPlaces_iff suited).mp sortedOthers)
  · rintro before path direction after rfl
    obtain ⟨turned, sortedTurned, result⟩ := sortRecords_sorted (sortable_opposite suited)
    refine ⟨?_, turned, sortedTurned, result,
      pair_sublist_opposite suited sortedPlaces sortedTurned⟩
    refine sortedPlaces.ordered.imp fun {first second} comes tied => ?_
    have firstSuited := suited _ (List.get_mem records first)
    have secondSuited := suited _ (List.get_mem records second)
    obtain ⟨sign, compared, nonpos, -⟩ := comes
    rw [compareRecords_eq firstSuited secondSuited] at compared
    cases compared
    exact lacking_of_recordSign_nonpos firstSuited secondSuited tied nonpos
  · intro apart others perm
    rw [sortRecords_of_perm suited perm apart, sorted]

/-- Records with a number, without one, and with a truth value in its place. -/
def scoredRecords : List Value :=
  [.mapping [(.text "score", .int 2)], .mapping [], .mapping [(.text "score", .bool true)]]

theorem scored_records_are_sorted :
    (∀ record ∈ scoredRecords, Sortable [("score", .descending)] record) ∧
      ∃ places, SortedPlaces [("score", .descending)] scoredRecords places ∧
        sortRecords (SortOrder.toEntries [("score", .descending)]) scoredRecords =
          .ok (places.map scoredRecords.get) := by
  have suited : ∀ record ∈ scoredRecords, Sortable [("score", .descending)] record := by
    intro record member entry entryMember
    obtain rfl := List.mem_singleton.mp entryMember
    simp only [scoredRecords, List.mem_cons, List.not_mem_nil, or_false] at member
    rcases member with rfl | rfl | rfl
    · exact ⟨some (.int 2), by cbv, by simp [Value.isScalar]⟩
    · exact ⟨none, by cbv, by simp⟩
    · exact ⟨some (.bool true), by cbv, by simp [Value.isScalar]⟩
  obtain ⟨-, -, places, sortedPlaces, sorted, -⟩ := records_sorted_stably suited
  exact ⟨suited, places, sortedPlaces, sorted⟩

end Records

end RecordQuery
