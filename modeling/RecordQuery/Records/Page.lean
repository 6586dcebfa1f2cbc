/-!
Pages of a list.

A page is the part of a list between two bounds. A negative bound counts from the end.
-/

namespace RecordQuery.Records

variable {α : Type}

def clamp (length : Nat) (bound : Int) : Nat :=
  if bound < 0 then (bound + length).toNat else min bound.toNat length

def slice (items : List α) (start : Int) (stop? : Option Int) : List α :=
  let first := clamp items.length start
  let last := (stop?.map (clamp items.length)).getD items.length
  (items.take last).drop first

/-- The items after the skipped ones, as many as the limit says; no limit and a limit of zero leave
all. -/
def paginate (items : List α) (skip : Int) (limit? : Option Int) : List α :=
  match limit? with
  | none => slice items skip none
  | some limit => slice items skip (if limit = 0 then none else some (skip + limit))

end RecordQuery.Records
