import RecordQuery.Matching.Reached
import RecordQuery.Outcome

/-!
Whether a key or a path is present.

A key is present in a mapping that has it, in a sequence that has it as an item, and in a text that
contains it. A dotted path is present if it can be followed to its end; a part that is no position
may be found in any item of a list. A flag that does not equal itself never finds it there.
-/

namespace RecordQuery.Matching

def containsText : List Char → List Char → Bool
  | [], part => part.isEmpty
  | first :: rest, part => part.isPrefixOf (first :: rest) || containsText rest part

def isPresent (key : Value) (entry : Reached) : Outcome :=
  match entry with
  | .gap => .error .mismatch
  | .fan items => .ok (items.any fun item => item.equals key)
  | .value (.mapping entries) => .ok (Entries.valueOf? entries key).isSome
  | .value (.list items) | .value (.tuple items) | .value (.set items) => .ok (key.isIn items)
  | .value (.text text) =>
      match key with
      | .text part => .ok (containsText text.toList part.toList)
      | _ => .error .mismatch
  | .value _ => .error .mismatch

/-- Whether a path can be followed. -/
abbrev Probe := List String → Outcome

def isPosition (part : String) : Bool := !part.isEmpty && part.toList.all Text.isDigit

def probeAt {α : Type} (items : List α) (part : String) (next : α → Outcome) : Outcome :=
  match Numeral.integer? part.toList with
  | none => .error .invalidValue
  | some index =>
      match items[index.toNat]? with
      | some item => next item
      | none => .ok false

/-- Enters the items of a list; `counts` is false if what is found in an item does not count. -/
def probeItems (counts : Bool) (probes : List Probe) (part : String) (rest : List String) :
    Outcome :=
  if isPosition part then probeAt probes part fun probe => probe rest
  else Outcome.any (probes.map fun probe _ => (probe (part :: rest)).map (counts && ·))

/-- Follows a path into a text. A part that is no position is sought in its characters, which are
texts themselves: the search goes on in them without end. -/
def probeText (text : List Char) : Probe
  | [] => .ok true
  | part :: rest =>
      if isPosition part then
        probeAt text part fun character => probeText [character] rest
      else if text.isEmpty then .ok false
      else .error .endless

mutual

def probe (counts : Bool) : Value → Probe
  | .list items =>
      let probes := probes counts items
      fun path =>
        match path with
        | [] => .ok true
        | part :: rest => probeItems counts probes part rest
  | .tuple items =>
      let probes := probes counts items
      fun path =>
        match path with
        | [] => .ok true
        | part :: rest => probeItems counts probes part rest
  | .text text => probeText text.toList
  | .mapping entries =>
      let probes := entryProbes counts entries
      fun path =>
        match path with
        | [] => .ok true
        | part :: rest =>
            match probes.find? fun entry => entry.1.equal (.text part) with
            | some (_, next) => next rest
            | none => .ok false
  | _ => fun path => .ok path.isEmpty

def probes (counts : Bool) : List Value → List Probe
  | [] => []
  | item :: rest => probe counts item :: probes counts rest

def entryProbes (counts : Bool) : List (Value × Value) → List (Value × Probe)
  | [] => []
  | (key, value) :: rest => (key, probe counts value) :: entryProbes counts rest

end

mutual

/-- Whether a path can be followed from what an earlier path led to. -/
def probeReached (counts : Bool) : Reached → Probe
  | .gap => fun path => .ok path.isEmpty
  | .value value => probe counts value
  | .fan items =>
      let probes := probesReached counts items
      fun path =>
        match path with
        | [] => .ok true
        | part :: rest => probeItems counts probes part rest

def probesReached (counts : Bool) : List Reached → List Probe
  | [] => []
  | item :: rest => probeReached counts item :: probesReached counts rest

end

def pathPresence (path : String) (flag : Value) (entry : Reached) : Outcome :=
  (probeReached (flag.equal flag) entry (Text.pathParts path)).map fun found =>
    found == flag.isTruthy

end RecordQuery.Matching
