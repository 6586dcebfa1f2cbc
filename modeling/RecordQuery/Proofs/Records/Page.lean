import Mathlib.Data.List.Basic
import RecordQuery.Proofs.Records.Pipeline

/-!
# Pages of what a query selects

A page is what is left of a list after the skipped items, cut at the limit. Pages of one size that
start where the last one ends are the whole list again. A query without fields selects the records
that satisfy its filter, puts them in order, and gives a page of them.
-/

namespace RecordQuery

/-- Whether a record can be tested and satisfies a filter. -/
def Matching.isMatch (filter record : Value) : Bool :=
  match satisfies filter record with
  | .ok result => result
  | .error _ => false

theorem Matching.isMatch_iff {filter record : Value} :
    isMatch filter record = true ↔ satisfies filter record = .ok true := by
  rw [isMatch]
  split
  · rename_i result tested
    rw [tested, Except.ok.injEq]
  · rename_i failed
    simp [failed]

namespace Records

open Matching

variable {α : Type}

theorem clamp_natCast (length bound : Nat) : clamp length bound = min bound length := by
  rw [clamp, if_neg (by omega), Int.toNat_natCast]

theorem drop_min_length (items : List α) (skip : Nat) :
    items.drop (min skip items.length) = items.drop skip := by
  rcases Nat.le_total skip items.length with inside | beyond
  · rw [Nat.min_eq_left inside]
  · rw [Nat.min_eq_right beyond, List.drop_length, List.drop_eq_nil_of_le beyond]

theorem slice_none (items : List α) (skip : Nat) : slice items skip none = items.drop skip := by
  rw [slice, clamp_natCast, Option.map_none, Option.getD_none, List.take_length, drop_min_length]

theorem slice_some (items : List α) (skip stop : Nat) :
    slice items skip (some (stop : Int)) = (items.take stop).drop skip := by
  rw [slice, clamp_natCast, Option.map_some, Option.getD_some, clamp_natCast,
    ← List.take_eq_take_min]
  rcases Nat.le_total skip items.length with inside | beyond
  · rw [Nat.min_eq_left inside]
  · have short : (items.take stop).length ≤ items.length := List.length_take_le' stop items
    rw [Nat.min_eq_right beyond, List.drop_eq_nil_of_le short,
      List.drop_eq_nil_of_le (Nat.le_trans short beyond)]

/-- The items after the skipped ones, up to a limit that is not zero. -/
def pageOf (items : List α) (skip : Nat) : Option Nat → List α
  | none | some 0 => items.drop skip
  | some (limit + 1) => (items.drop skip).take (limit + 1)

theorem paginate_eq_pageOf (items : List α) (skip : Nat) (limit? : Option Nat) :
    paginate items skip (limit?.map Int.ofNat) = pageOf items skip limit? := by
  match limit? with
  | none => exact slice_none items skip
  | some 0 => exact slice_none items skip
  | some (limit + 1) =>
      have stop : (skip : Int) + Int.ofNat (limit + 1) = ((skip + (limit + 1) : Nat) : Int) := by
        push_cast
        rfl
      have positive : Int.ofNat (limit + 1) ≠ 0 := Int.ofNat_ne_zero.mpr (Nat.succ_ne_zero limit)
      rw [Option.map_some, paginate, if_neg positive, stop, slice_some, List.drop_take,
        Nat.add_sub_cancel_left, pageOf]

theorem pageOf_of_pos (items : List α) (skip : Nat) {limit : Nat} (positive : 0 < limit) :
    pageOf items skip (some limit) = (items.drop skip).take limit := by
  obtain ⟨rest, rfl⟩ := Nat.exists_eq_succ_of_ne_zero (Nat.ne_of_gt positive)
  rfl

theorem length_pageOf_le (items : List α) (skip : Nat) {limit : Nat} (positive : 0 < limit) :
    (pageOf items skip (some limit)).length ≤ limit := by
  rw [pageOf_of_pos items skip positive]
  exact List.length_take_le _ _

/-- The first pages of a size make up the start of a list. -/
theorem flatten_pages (items : List α) {size : Nat} (positive : 0 < size) (count : Nat) :
    ((List.range count).map fun number => pageOf items (number * size) (some size)).flatten =
      items.take (count * size) := by
  induction count with
  | zero => simp
  | succ count inductionHypothesis =>
      rw [List.range_succ, List.map_append, List.flatten_append, inductionHypothesis, Nat.succ_mul,
        List.take_add]
      simp [pageOf_of_pos items _ positive]

namespace Pipeline

/-- Where all records can be tested, the marked ones are those that satisfy the filter. -/
theorem marked_eq_filter {filter : Value} {records : List Value} {tested : List Bool}
    (passed : marks filter records = .ok tested) :
    marked tested records = records.filter (isMatch filter) := by
  induction records generalizing tested with
  | nil =>
      obtain rfl := Except.ok.inj passed
      rfl
  | cons record rest inductionHypothesis =>
      obtain ⟨mark, others, first, remaining, rfl⟩ := marks_cons_eq_ok passed
      have later := inductionHypothesis remaining
      cases mark <;> simp [marked, isMatch, first, later]

/-- A query without fields leaves records whole, and gives a page of those that satisfy its filter,
in its order. -/
theorem run_of_whole (snapshot : Snapshot) {records : List Value} {tested : List Bool}
    (whole : snapshot.fields = [])
    (passed : test snapshot records = .ok tested) :
    run snapshot records = ⟨records,
      (sortRecords snapshot.sort.toEntries
        (records.filter (isMatch (.mapping snapshot.filter)))).map fun sorted =>
          pageOf sorted snapshot.skip snapshot.limit⟩ := by
  have kept : project (snapshot.fields.map .text) (marked tested records) =
      ⟨marked tested records, none⟩ := by
    rw [whole]
    rfl
  have kind := marked_eq_filter (test_eq_ok passed).2
  rw [kind] at kept
  simp only [run, passed, kind, kept, arrange, paginate_eq_pageOf]
  rw [← kind, replaceMarked_marked]

end Pipeline

end Records

end RecordQuery
