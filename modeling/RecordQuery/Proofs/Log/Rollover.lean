import Mathlib.Data.List.Nodup
import RecordQuery.Log.Recording
import RecordQuery.Proofs.Log.Files

/-!
# Files that roll over

A line is added to a file of the log as long as the file stays below its size. A line that does not
fit starts the file again: the old text becomes the first of its earlier files, each of those moves
on by one, and the last one is replaced. The paths of a file and of its earlier files are those of
no other file of the log, so that lines for different files do not meet.
-/

namespace RecordQuery.Log

/-- A path that does not end in a digit, as the paths of earlier files do. -/
def Unnumbered (path : String) : Prop := ∀ last ∈ path.toList.getLast?, last.isDigit = false

theorem toList_backup (path : String) (number : Nat) :
    (backup path number).toList = path.toList ++ '.' :: digitsOf number := by
  simp [backup]

theorem isDigit_of_mem_digitsOf {number : Nat} {character : Char}
    (member : character ∈ digitsOf number) : character.isDigit = true :=
  Nat.isDigit_of_mem_toDigits (by decide) (by decide) member

theorem Unnumbered.ne_backup {path : String} (unnumbered : Unnumbered path) (other : String)
    (number : Nat) : path ≠ backup other number := by
  rintro rfl
  obtain ⟨front, last, digits⟩ := (List.eq_nil_or_concat' (digitsOf number)).resolve_left
    Nat.toDigits_ne_nil
  have member : last ∈ digitsOf number := by simp [digits]
  have ends : (backup other number).toList = (other.toList ++ '.' :: front) ++ [last] := by
    simp [toList_backup, digits]
  have plain := unnumbered last (by rw [ends, List.getLast?_concat, Option.mem_def])
  simp [isDigit_of_mem_digitsOf member] at plain

/-- The digits at the end of the path of an earlier file are those of its number. -/
theorem takeWhile_backup (path : String) (number : Nat) :
    ((backup path number).toList.reverse.takeWhile Char.isDigit) = (digitsOf number).reverse := by
  rw [toList_backup, List.reverse_append, List.reverse_cons, List.append_assoc,
    List.takeWhile_append_of_pos fun digit member =>
      isDigit_of_mem_digitsOf (List.mem_reverse.mp member)]
  simp

theorem backup_inj {path other : String} {number index : Nat} :
    backup path number = backup other index ↔ path = other ∧ number = index := by
  refine ⟨fun same => ?_, fun ⟨paths, numbers⟩ => by rw [paths, numbers]⟩
  have digits : digitsOf number = digitsOf index := by
    rw [← List.reverse_inj, ← takeWhile_backup path, ← takeWhile_backup other, same]
  refine ⟨?_, ?_⟩
  · have texts := congrArg String.toList same
    rw [toList_backup, toList_backup, digits] at texts
    exact String.toList_inj.mp (List.append_cancel_right texts)
  · calc number = Nat.ofDigitChars 10 (digitsOf number) 0 :=
          (Nat.ofDigitChars_toDigits (by decide) (by decide)).symm
      _ = index := by rw [digits]; exact Nat.ofDigitChars_toDigits (by decide) (by decide)

/-- Earlier files of a path after each of them, up to a number, has moved on by one. -/
structure Shifted (path : String) (number : Nat) (before after : Files) : Prop where
  last : after.get? (backup path (number + 1)) =
    (before.get? (backup path number)).or (before.get? (backup path (number + 1)))
  next : ∀ index, 1 ≤ index → index < number →
    after.get? (backup path (index + 1)) = before.get? (backup path index)
  first : after.get? (backup path 1) = none
  others : ∀ other, (∀ index, 1 ≤ index → index ≤ number + 1 → other ≠ backup path index) →
    after.get? other = before.get? other

theorem shifted_shiftBackups (path : String) (number : Nat) (files : Files) :
    Shifted path (number + 1) files (shiftBackups path (number + 1) files) := by
  induction number generalizing files with
  | zero =>
      refine ⟨?_, by omega, ?_, fun other apart => ?_⟩ <;> rw [shiftBackups, shiftBackups]
      · simp [Files.get?_rename]
      · simp [Files.get?_rename, backup_inj]
      · rw [Files.get?_rename, if_neg (apart 2 (by omega) (by omega)),
          if_neg (apart 1 (by omega) (by omega))]
  | succ number inductionHypothesis =>
      rw [shiftBackups]
      -- The last file has moved on before, so that its place is free for the next one.
      let moved := files.rename (backup path (number + 2)) (backup path (number + 3))
      have shifted := inductionHypothesis moved
      have earlier (index : Nat) (below : index < number + 2) :
          moved.get? (backup path index) = files.get? (backup path index) := by
        have first : index ≠ number + 3 := by omega
        have second : index ≠ number + 2 := by omega
        simp [moved, Files.get?_rename, backup_inj, first, second]
      refine ⟨?_, fun index positive below => ?_, shifted.first, fun other apart => ?_⟩
      · refine (shifted.others _ fun index _ below => ?_).trans ?_
        · simp only [ne_eq, backup_inj, true_and]
          omega
        · simp [moved, Files.get?_rename]
      · by_cases near : index = number + 1
        · subst near
          refine shifted.last.trans ?_
          rw [earlier _ (by omega)]
          simp [moved, Files.get?_rename, backup_inj]
        · exact (shifted.next index positive (by omega)).trans (earlier index (by omega))
      · refine (shifted.others other fun index positive below => ?_).trans ?_
        · exact apart index positive (by omega)
        · rw [Files.get?_rename, if_neg (apart _ (by omega) (by omega)),
            if_neg (apart _ (by omega) (by omega))]

namespace Handler

/-- The paths that a handler writes to: its file and the earlier ones. -/
def Owns (handler : Handler) (path : String) : Prop :=
  path = handler.file ∨
    ∃ number, 1 ≤ number ∧ number ≤ handler.backups ∧ path = backup handler.file number

def Fits (handler : Handler) (line : String) (files : Files) : Prop :=
  (files.textOf handler.file).utf8ByteSize + line.length < maxBytes

/-- A handler that keeps some earlier files of a file with a name of its own. -/
structure Keeps (handler : Handler) : Prop where
  several : 2 ≤ handler.backups
  unnumbered : Unnumbered handler.file

end Handler

/-- The paths of a handler after a line. If the line fits, it is added to the file. Otherwise the
file starts again with the line, its text before becomes the first of the earlier files, and each of
those moves on by one; the last one is replaced if there is one before it. -/
structure Receives (handler : Handler) (line : String) (before after : Files) : Prop where
  added : handler.Fits line before →
    after.get? handler.file = some (before.textOf handler.file ++ line) ∧
      ∀ number, 1 ≤ number → number ≤ handler.backups →
        after.get? (backup handler.file number) = before.get? (backup handler.file number)
  started : ¬ handler.Fits line before →
    after.get? handler.file = some line ∧
      after.get? (backup handler.file 1) = before.get? handler.file ∧
      (∀ number, 1 ≤ number → number + 1 < handler.backups →
        after.get? (backup handler.file (number + 1)) =
          before.get? (backup handler.file number)) ∧
      after.get? (backup handler.file handler.backups) =
        (before.get? (backup handler.file (handler.backups - 1))).or
          (before.get? (backup handler.file handler.backups))

section Emit

variable {handler : Handler} (text : String) (files : Files)

theorem emit_of_fits (fits : handler.Fits (text ++ "\n") files) :
    emit text files handler = files.append handler.file (text ++ "\n") := by
  rw [emit]
  exact congrArg (Files.append · _ _) (if_neg (Nat.not_le.mpr fits))

theorem emit_of_not_fits (full : ¬ handler.Fits (text ++ "\n") files) :
    emit text files handler = (rollOver handler files).append handler.file (text ++ "\n") := by
  rw [emit]
  exact congrArg (Files.append · _ _) (if_pos (Nat.not_lt.mp full))

variable (keeps : handler.Keeps)

include keeps

theorem shifted_backups : Shifted handler.file (handler.backups - 1) files
    (shiftBackups handler.file (handler.backups - 1) files) := by
  obtain ⟨more, several⟩ := Nat.exists_eq_add_of_le keeps.several
  rw [show handler.backups - 1 = more + 1 by omega]
  exact shifted_shiftBackups handler.file more files

theorem get?_rollOver (other : String) : (rollOver handler files).get? other =
    if other = handler.file then some ""
    else if other = backup handler.file 1 then files.get? handler.file
    else (shiftBackups handler.file (handler.backups - 1) files).get? other := by
  have shifted := shifted_backups files keeps
  have apart : handler.file ≠ backup handler.file 1 := keeps.unnumbered.ne_backup _ _
  have kept := shifted.others handler.file fun number _ _ => keeps.unnumbered.ne_backup _ _
  rw [rollOver, Files.get?_touch, Files.textOf, Files.get?_rename, Files.get?_rename, if_neg apart,
    if_pos rfl, kept, shifted.first, Option.or_none]
  by_cases first : other = handler.file
  · simp [first]
  · rw [if_neg (Ne.symm first), if_neg first, if_neg first]

theorem receives_emit : Receives handler (text ++ "\n") files (emit text files handler) := by
  have apart (number : Nat) : backup handler.file number ≠ handler.file :=
    (keeps.unnumbered.ne_backup _ _).symm
  refine ⟨fun fits => ?_, fun full => ?_⟩
  · rw [emit_of_fits text files fits]
    exact ⟨by rw [Files.get?_append, if_pos rfl], fun number _ _ => by
      rw [Files.get?_append, if_neg (apart number).symm]⟩
  · have shifted := shifted_backups files keeps
    have later (number : Nat) (second : 2 ≤ number) :
        (emit text files handler).get? (backup handler.file number) =
          (shiftBackups handler.file (handler.backups - 1) files).get?
            (backup handler.file number) := by
      rw [emit_of_not_fits text files full, Files.get?_append, if_neg (apart number).symm,
        get?_rollOver files keeps, if_neg (apart number), if_neg]
      rw [backup_inj]
      omega
    refine ⟨?_, ?_, fun number positive below => ?_, ?_⟩
    · rw [emit_of_not_fits text files full, Files.get?_append, if_pos rfl, Files.textOf,
        get?_rollOver files keeps, if_pos rfl, Option.getD_some, String.empty_append]
    · rw [emit_of_not_fits text files full, Files.get?_append, if_neg (apart 1).symm,
        get?_rollOver files keeps, if_neg (apart 1), if_pos rfl]
    · rw [later _ (by omega)]
      exact shifted.next number positive (by omega)
    · rw [later _ keeps.several, ← Nat.sub_add_cancel (Nat.le_of_succ_le keeps.several)]
      exact shifted.last

/-- A line changes no path but those of its handler. -/
theorem get?_emit {path : String} (foreign : ¬ handler.Owns path) :
    (emit text files handler).get? path = files.get? path := by
  simp only [Handler.Owns, not_or, not_exists, not_and] at foreign
  obtain ⟨apart, numbered⟩ := foreign
  by_cases fits : handler.Fits (text ++ "\n") files
  · rw [emit_of_fits text files fits, Files.get?_append, if_neg (Ne.symm apart)]
  · have several := keeps.several
    rw [emit_of_not_fits text files fits, Files.get?_append, if_neg (Ne.symm apart),
      get?_rollOver files keeps, if_neg apart, if_neg (numbered 1 (by omega) (by omega))]
    exact (shifted_backups files keeps).others path fun number positive below =>
      numbered number positive (by omega)

end Emit

structure Separate (handlers : List Handler) : Prop where
  keep : ∀ handler ∈ handlers, handler.Keeps
  apart : (handlers.map Handler.file).Nodup

theorem Handler.not_owns {handler other : Handler} (keeps : handler.Keeps)
    (otherKeeps : other.Keeps)
    (apart : handler.file ≠ other.file) {path : String} (owns : handler.Owns path) :
    ¬ other.Owns path := by
  rintro (same | ⟨index, -, -, same⟩) <;> rcases owns with held | ⟨number, -, -, held⟩
  · exact apart (held.symm.trans same)
  · exact otherKeeps.unnumbered.ne_backup _ _ (same.symm.trans held)
  · exact keeps.unnumbered.ne_backup _ _ (held.symm.trans same)
  · exact apart (backup_inj.mp (held.symm.trans same)).1

theorem Handler.Fits.congr {handler : Handler} {line : String} {files others : Files}
    (same : files.get? handler.file = others.get? handler.file) :
    handler.Fits line files ↔ handler.Fits line others := by
  rw [Fits, Fits, Files.textOf, Files.textOf, same]

theorem Handler.owns_backup {handler : Handler} {number : Nat} (positive : 1 ≤ number)
    (kept : number ≤ handler.backups) : handler.Owns (backup handler.file number) :=
  .inr ⟨number, positive, kept, rfl⟩

theorem Receives.congr {handler : Handler} (keeps : handler.Keeps) {line : String}
    {before after files others : Files} (receives : Receives handler line before after)
    (first : ∀ path, handler.Owns path → before.get? path = files.get? path)
    (second : ∀ path, handler.Owns path → after.get? path = others.get? path) :
    Receives handler line files others := by
  have several := keeps.several
  have current := first handler.file (.inl rfl)
  have text : before.textOf handler.file = files.textOf handler.file := by
    rw [Files.textOf, Files.textOf, current]
  have earlier (number : Nat) (positive : 1 ≤ number) (kept : number ≤ handler.backups) :=
    first _ (Handler.owns_backup positive kept)
  have later (number : Nat) (positive : 1 ≤ number) (kept : number ≤ handler.backups) :=
    second _ (Handler.owns_backup positive kept)
  constructor
  · intro fits
    obtain ⟨written, unmoved⟩ := receives.added ((Handler.Fits.congr current).mpr fits)
    rw [← second _ (.inl rfl), ← text]
    refine ⟨written, fun number positive kept => ?_⟩
    rw [← later number positive kept, ← earlier number positive kept]
    exact unmoved number positive kept
  · intro full
    obtain ⟨written, moved, next, last⟩ :=
      receives.started fun fits => full ((Handler.Fits.congr current).mp fits)
    rw [← second _ (.inl rfl), ← current, ← later 1 (by omega) (by omega),
      ← later _ (by omega) (Nat.le_refl _), ← earlier _ (by omega) (Nat.sub_le _ 1),
      ← earlier _ (by omega) (Nat.le_refl _)]
    refine ⟨written, moved, fun number positive below => ?_, last⟩
    rw [← later _ (by omega) (by omega), ← earlier number positive (by omega)]
    exact next number positive below

/-- A line that is written by separate handlers is received by each of them, and no other path
changes. -/
theorem receives_writeLine (text : String) {handlers : List Handler} (separate : Separate handlers)
    (files : Files) :
    (∀ handler ∈ handlers,
      Receives handler (text ++ "\n") files (writeLine text handlers files)) ∧
    ∀ path, (∀ handler ∈ handlers, ¬ handler.Owns path) →
      (writeLine text handlers files).get? path = files.get? path := by
  induction handlers generalizing files with
  | nil => exact ⟨by simp, fun _ _ => rfl⟩
  | cons first rest inductionHypothesis =>
      obtain ⟨keeps, keep⟩ := List.forall_mem_cons.mp separate.keep
      obtain ⟨absent, apart⟩ := List.nodup_cons.mp separate.apart
      have different {handler : Handler} (member : handler ∈ rest) : first.file ≠ handler.file :=
        fun same => absent (same ▸ List.mem_map_of_mem member)
      obtain ⟨receive, others⟩ := inductionHypothesis ⟨keep, apart⟩ (emit text files first)
      refine ⟨List.forall_mem_cons.mpr ⟨?_, fun handler member => ?_⟩, fun path foreign => ?_⟩
      · refine (receives_emit text files keeps).congr keeps (fun _ _ => rfl) fun path owns => ?_
        exact (others path fun handler member =>
          Handler.not_owns keeps (keep handler member) (different member) owns).symm
      · refine (receive handler member).congr (keep handler member) (fun path owns => ?_)
          fun _ _ => rfl
        exact get?_emit text files keeps
          (Handler.not_owns (keep handler member) keeps (different member).symm owns)
      · obtain ⟨here, later⟩ := List.forall_mem_cons.mp foreign
        exact (others path later).trans (get?_emit text files keeps here)

end RecordQuery.Log
