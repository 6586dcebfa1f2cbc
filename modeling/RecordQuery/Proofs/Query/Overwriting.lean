import RecordQuery.Proofs.Query.Atomicity
import RecordQuery.Proofs.Query.Repetition
import RecordQuery.Proofs.Store.Embedded
import RecordQuery.Proofs.Store.Proper
import RecordQuery.Proofs.Store.Roots
import RecordQuery.Proofs.Tree.Targets

/-!
# Operations that are made again

When an operation on a field is made again with other arguments, nothing of the first call remains:
the queries are those after the second call alone, but for the order of the conditions on the field.
The exception is a distance, which an operation without one leaves as it is.
-/

namespace RecordQuery

open FilterNode Session RecordQuery.Action

namespace Entries

open Value

theorem nodup_of_different {entries : Entries} (different : Different (entries.map Prod.fst)) :
    entries.Nodup := by
  apply List.Nodup.of_map Prod.fst
  apply different.imp
  rintro first second apart rfl
  rw [same_refl] at apart
  contradiction

theorem different_revise {edit : Edit} {conditions : Entries}
    (different : Different (conditions.map Prod.fst)) :
    Different ((conditions.revise edit).1.map Prod.fst) := by
  unfold revise
  cases edit with
  | clear operator => exact List.Pairwise.sublist (List.filter_sublist.map Prod.fst) different
  | write operator argument =>
      simp only
      split
      · exact different_insert different operator argument
      · exact different

/-- After an edit there is what it writes, and what is about other operators. -/
theorem mem_revise_iff {edit : Edit} (text : edit.WritesText) {conditions : Entries}
    (different : Different (conditions.map Prod.fst)) {entry : Value × Value} :
    entry ∈ (conditions.revise edit).1 ↔
      entry ∈ (revise [] edit).1 ∨ entry ∈ conditions ∧ entry.1 ≠ edit.target := by
  cases edit with
  | clear operator =>
      change entry ∈ conditions.erase operator.key ↔ entry ∈ erase [] operator.key ∨ _
      rw [mem_erase_iff, mem_erase_iff]
      simp [Edit.target]
  | write operator argument =>
      obtain ⟨name, rfl⟩ := text
      change entry ∈ conditions.insert (.text name) argument ↔
        entry ∈ insert [] (.text name) argument ∨ _
      rw [mem_insert_text_iff different]
      simp [insert, Edit.target]

theorem different_reviseAll {edits : List Edit} (texts : ∀ edit ∈ edits, edit.WritesText)
    {conditions : Entries} (different : Different (conditions.map Prod.fst)) :
    Different ((conditions.reviseAll edits).1.map Prod.fst) := by
  induction edits generalizing conditions with
  | nil => exact different
  | cons edit rest inductionHypothesis =>
      obtain ⟨text, others⟩ := List.forall_mem_cons.mp texts
      rw [reviseAll_cons text]
      exact inductionHypothesis others (different_revise different)

theorem mem_reviseAll_iff {edits : List Edit} (texts : ∀ edit ∈ edits, edit.WritesText)
    {conditions : Entries} (different : Different (conditions.map Prod.fst))
    {entry : Value × Value} :
    entry ∈ (conditions.reviseAll edits).1 ↔
      entry ∈ (reviseAll [] edits).1 ∨ entry ∈ conditions ∧ entry.1 ∉ edits.map Edit.target := by
  induction edits generalizing conditions with
  | nil => simp [reviseAll]
  | cons edit rest inductionHypothesis =>
      obtain ⟨text, others⟩ := List.forall_mem_cons.mp texts
      have none : Different ((revise [] edit).1.map Prod.fst) := different_revise List.Pairwise.nil
      rw [reviseAll_cons text, reviseAll_cons text, inductionHypothesis others none,
        inductionHypothesis others (different_revise different), mem_revise_iff text different,
        List.map_cons, List.mem_cons, not_or]
      tauto

theorem target_of_mem {edits : List Edit} (texts : ∀ edit ∈ edits, edit.WritesText)
    {entry : Value × Value} (written : entry ∈ (reviseAll [] edits).1) :
    entry.1 ∈ edits.map Edit.target := by
  induction edits with
  | nil => contradiction
  | cons edit rest inductionHypothesis =>
      obtain ⟨text, others⟩ := List.forall_mem_cons.mp texts
      have none : Different ((revise [] edit).1.map Prod.fst) := different_revise List.Pairwise.nil
      rw [reviseAll_cons text, mem_reviseAll_iff others none] at written
      rw [List.map_cons, List.mem_cons]
      rcases written with later | ⟨here, -⟩
      · exact .inr (inductionHypothesis others later)
      · left
        cases edit with
        | clear operator => contradiction
        | write operator argument =>
            obtain ⟨name, rfl⟩ := text
            obtain rfl := List.mem_singleton.mp here
            rfl

/-- Edits leave nothing of earlier edits that are about the same operators. -/
theorem reviseAll_reviseAll {first second : List Edit}
    (firstTexts : ∀ edit ∈ first, edit.WritesText) (secondTexts : ∀ edit ∈ second, edit.WritesText)
    (covered : ∀ key ∈ first.map Edit.target, key ∈ second.map Edit.target)
    {conditions : Entries} (different : Different (conditions.map Prod.fst)) :
    ((conditions.reviseAll first).1.reviseAll second).1.Perm (conditions.reviseAll second).1 := by
  have between := different_reviseAll firstTexts different
  rw [List.perm_ext_iff_of_nodup (nodup_of_different (different_reviseAll secondTexts between))
    (nodup_of_different (different_reviseAll secondTexts different))]
  intro entry
  rw [mem_reviseAll_iff secondTexts between, mem_reviseAll_iff secondTexts different,
    mem_reviseAll_iff firstTexts different]
  constructor
  · rintro (written | ⟨earlier | ⟨held, -⟩, apart⟩)
    · exact .inl written
    · exact absurd (covered _ (target_of_mem firstTexts earlier)) apart
    · exact .inr ⟨held, apart⟩
  · rintro (written | ⟨held, apart⟩)
    · exact .inl written
    · exact .inr ⟨.inr ⟨held, fun about => apart (covered _ about)⟩, apart⟩

end Entries

namespace QueryStore

def withConditions (store : QueryStore) (mark : Mark) (field : String) (conditions : Entries) :
    QueryStore :=
  store.change mark fun query => query.update mark fun slots =>
    slots.set field (.mapping conditions)

/-- Edits under a field after others are made on what these leave there. -/
theorem edit_edit {store : QueryStore} (tracked : store.Tracked) (roots : store.OwnRoots)
    {mark : Mark} (live : mark < store.next) {field : String}
    (named : ∀ combinator : Combinator, combinator.key ≠ field) {first second : List Edit}
    (firstWritten : first ≠ []) (secondWritten : second ≠ []) :
    ((store.edit mark field first).1.edit mark field second).1 =
      (store.edit mark field second).1.withConditions mark field
        ((((store.ownSlots mark).conditions field).reviseAll first).1.reviseAll second).1 := by
  rw [edit_of_field _ _ named, edit_of_field _ _ named, edit_of_field _ _ named, withConditions,
    change_update_update, change_update_update]
  apply roots.change_congr
  intro query found
  apply Query.update_congr (tracked.single _ _ found) (tracked.find?_of_query? live found)
  simp only [Function.comp, Slots.applyEdits_eq_set _ _ firstWritten,
    Slots.applyEdits_eq_set _ _ secondWritten, Slots.set_set]
  simp [Slots.conditions]

end QueryStore

namespace Session

/-- The bound of an operation is the same before and after the bound of another one was read. -/
theorem limitFor_again {first second : FieldOperation} {session after later : Session}
    {limit other : Int} (read : perform (limitFor first) session = (.ok limit, after))
    (alone : perform (limitFor second) session = (.ok other, later)) :
    (perform (limitFor second) after).1 = .ok other := by
  unfold limitFor at read alone ⊢
  by_cases bounded : second.usesPointLimit = true
  · rw [if_pos bounded] at alone ⊢
    by_cases both : first.usesPointLimit = true
    · rw [if_pos both] at read
      obtain ⟨settings, ready, loaded, found⟩ := perform_bind_ok read
      obtain ⟨others, _, reloaded, again⟩ := perform_bind_ok alone
      obtain ⟨same, rfl⟩ := Prod.mk.inj (reloaded.symm.trans loaded)
      obtain rfl := Except.ok.inj same
      rw [perform_lift] at found again
      obtain ⟨-, rfl⟩ := Prod.mk.inj found
      rw [perform_bind, Settings.perform_shared_of_loaded (Settings.settings_of_shared loaded)]
      simp only [perform_lift]
      exact (Prod.mk.inj again).1
    · rw [if_neg both] at read
      obtain ⟨-, rfl⟩ := Prod.mk.inj read
      rw [alone]
  · rw [if_neg bounded] at alone ⊢
    obtain ⟨same, -⟩ := Prod.mk.inj alone
    exact same

theorem namesOperator_of_operators {operation : FieldOperation} (own : operation.operators ≠ []) :
    operation.NamesOperator := by
  cases operation with
  | condition operator argument => exact absurd rfl own
  | _ => trivial

theorem conditions_edit {store : QueryStore} (tracked : store.Tracked) {mark : Mark}
    (live : mark < store.next) {field : String} {edits : List Edit} (written : edits ≠ []) :
    ((store.edit mark field edits).1.ownSlots mark).conditions field =
      (((store.ownSlots mark).conditions field).reviseAll edits).1 := by
  rw [tracked.ownSlots_edit live, Slots.applyEdits_eq_set _ _ written]
  simp [Slots.conditions]

/-- Conditions on a field after an operation: what it writes, and what stood there before about
other operators. -/
def Leaves (operation : FieldOperation) (before after : Entries) : Prop :=
  ∃ limit edits, operation.edits limit = .ok edits ∧ ∀ entry, entry ∈ after ↔
    entry ∈ (Entries.reviseAll [] edits).1 ∨ entry ∈ before ∧ entry.1 ∉ edits.map Edit.target

/-- Of two accepted calls of an operation on a field the last one wins: it leaves the queries that
it would have left alone, up to the order of the conditions on the field, whatever stood there
before. On the field there are its own conditions, and earlier ones about other operators. A
distance has to be written again. -/
theorem last_call_on_a_field_wins {session : Session}
    (reachable : Reachable Call.GivesProper session) {mark : Mark}
    (live : mark < session.queries.next) {field : String}
    (named : ∀ combinator : Combinator, combinator.key ≠ field) {first second : FieldOperation}
    (alike : first.operators = second.operators) (own : first.operators ≠ [])
    (distances : first.SetsDistance → second.SetsDistance) {afterFirst alone : Session}
    (earlier : perform (constrain mark (.text field) first) session = (.ok mark, afterFirst))
    (accepted : perform (constrain mark (.text field) second) session = (.ok mark, alone)) :
    ∃ both conditions,
      perform (constrain mark (.text field) second) afterFirst = (.ok mark, both) ∧
      conditions.Perm ((alone.queries.ownSlots mark).conditions field) ∧
      Leaves second ((session.queries.ownSlots mark).conditions field) conditions ∧
      both.queries = alone.queries.withConditions mark field conditions := by
  obtain ⟨limit, firstEdits, ready, read, firstEdited, name, rfl⟩ := constrain_eq_ok earlier
  obtain ⟨other, secondEdits, later, bound, secondEdited, -, rfl⟩ := constrain_eq_ok accepted
  have secondOwn : second.operators ≠ [] := alike ▸ own
  have firstWritten := FieldOperation.edits_ne_nil firstEdited
  have secondWritten := FieldOperation.edits_ne_nil secondEdited
  have textual := namesOperator_of_operators secondOwn
  have tracked := reachable.tracked
  let earlierStore := (session.queries.edit mark field firstEdits).1
  have again : perform (limitFor second) (ready.withQueries earlierStore) =
      (.ok other, (perform (limitFor second) ready).2.withQueries earlierStore) := by
    rw [(apart_limitFor second).frame, limitFor_again read bound]
  have covered : ∀ key ∈ firstEdits.map Edit.target, key ∈ secondEdits.map Edit.target := by
    intro key member
    obtain ⟨operator, listed, rfl, distance⟩ :=
      (FieldOperation.targets_of_edits firstEdited own key).mp member
    exact (FieldOperation.targets_of_edits secondEdited secondOwn _).mpr
      ⟨operator, alike ▸ listed, rfl, fun same => distances (distance same)⟩
  have different := ((reachable.proper.ownSlots mark).conditions field).different
  have firstTexts := FieldOperation.writesText_of_edits firstEdited (namesOperator_of_operators own)
  have secondTexts := FieldOperation.writesText_of_edits secondEdited textual
  have order := Entries.reviseAll_reviseAll firstTexts secondTexts covered different
  refine ⟨_, _, constrain_of_checked textual again secondEdited name, ?_,
    ⟨other, secondEdits, secondEdited, ?_⟩,
    QueryStore.edit_edit tracked reachable.ownRoots live named firstWritten secondWritten⟩
  · rw [queries_withQueries, conditions_edit tracked live secondWritten]
    exact order
  · intro entry
    rw [order.mem_iff]
    exact Entries.mem_reviseAll_iff secondTexts different

def oneQuery : Session := (Call.create (.value .null)).after (start "")

def multilinePattern : FieldOperation :=
  .matches (.text "^a") (.value (.mapping [(.text "multiline", .bool true)]))

def plainPattern : FieldOperation := .matches (.text "^b")

/-- Nothing of the first pattern remains, and neither do its modes. -/
theorem second_pattern_wins :
    ∃ marked alone both,
      perform (constrain 0 (.text "t") multilinePattern) oneQuery = (.ok 0, marked) ∧
      perform (constrain 0 (.text "t") plainPattern) oneQuery = (.ok 0, alone) ∧
      perform (constrain 0 (.text "t") plainPattern) marked = (.ok 0, both) ∧
      both.queries = alone.queries.withConditions 0 "t" [(.text "$regex", .text "^b")] := by
  have reachable : Reachable Call.GivesProper oneQuery := .call (.start rfl) trivial (.simple rfl)
  have named : ∀ combinator : Combinator, combinator.key ≠ "t" := by
    intro combinator
    cases combinator <;> decide
  have first : (perform (constrain 0 (.text "t") multilinePattern) oneQuery).1 = .ok 0 := by cbv
  have second : (perform (constrain 0 (.text "t") plainPattern) oneQuery).1 = .ok 0 := by cbv
  have held : ((perform (constrain 0 (.text "t") plainPattern) oneQuery).2.queries.ownSlots
      0).conditions "t" = [(.text "$regex", .text "^b")] := by cbv
  rcases earlier : perform (constrain 0 (.text "t") multilinePattern) oneQuery with ⟨given, marked⟩
  rcases accepted : perform (constrain 0 (.text "t") plainPattern) oneQuery with ⟨other, alone⟩
  rw [earlier] at first
  rw [accepted] at second held
  obtain rfl : given = .ok 0 := first
  obtain rfl : other = .ok 0 := second
  have alike : multilinePattern.operators = plainPattern.operators := by rfl
  obtain ⟨both, conditions, again, same, -, queries⟩ :=
    last_call_on_a_field_wins reachable (by decide : 0 < oneQuery.queries.next) named alike
      (by simp [multilinePattern, FieldOperation.operators])
      (by simp [multilinePattern, FieldOperation.SetsDistance]) earlier accepted
  rw [held, List.perm_singleton] at same
  subst same
  exact ⟨marked, alone, both, rfl, rfl, again, queries⟩

def farPoint : FieldOperation := .near (.list [.int 1, .int 2]) (.int 10)

def movedPoint : FieldOperation := .near (.list [.int 3, .int 4])

theorem edits_farPoint (limit : Int) : farPoint.edits limit =
    .ok [.put .nearSphere (.list [.int 1, .int 2]), .put .maxDistance (.int 10)] := by
  have distance : Argument.number (.int 10) "max_distance" = .ok (.int 10) := by
    simp only [Argument.number, Argument.finite]
    apply if_pos
    decide
  change FieldOperation.nearEdits (.list [.int 1, .int 2]) (.int 10) = _
  simp only [FieldOperation.nearEdits, distance]
  rfl

/-- A distance stays under a point that is given without one. -/
theorem stale_distance_remains :
    ∃ far both alone,
      perform (constrain 0 (.text "a") farPoint) oneQuery = (.ok 0, far) ∧
      perform (constrain 0 (.text "a") movedPoint) far = (.ok 0, both) ∧
      perform (constrain 0 (.text "a") movedPoint) oneQuery = (.ok 0, alone) ∧
      both.queries.ownFilter 0 =
        [(.text "a", .mapping [(.text "$nearSphere", .list [.int 3, .int 4]),
          (.text "$maxDistance", .int 10)])] ∧
      alone.queries.ownFilter 0 =
        [(.text "a", .mapping [(.text "$nearSphere", .list [.int 3, .int 4])])] := by
  have field : FieldOperation.fieldName (.text "a") = .ok "a" := by cbv
  have moved : movedPoint.edits 0 = .ok [.put .nearSphere (.list [.int 3, .int 4])] := by cbv
  have writesFar : farPoint.NamesOperator := trivial
  have writesMoved : movedPoint.NamesOperator := trivial
  refine ⟨_, _, _, constrain_of_checked writesFar rfl (edits_farPoint 0) field,
    constrain_of_checked writesMoved rfl moved field,
    constrain_of_checked writesMoved rfl moved field, ?_, ?_⟩ <;> cbv

end Session

end RecordQuery
