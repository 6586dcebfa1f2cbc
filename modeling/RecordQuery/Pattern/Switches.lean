import RecordQuery.Pattern.Cursor
import RecordQuery.Text.Identifier

/-!
The flags of inline groups.

`readSwitch` reads the letters that are turned on and off, either for one group or for the whole
pattern.
-/

namespace RecordQuery.Pattern

/-- The flag letters of inline groups. `u` undoes `a`, and `t` holds for the whole pattern only. -/
inductive FlagLetter where
  | mode (flags : Flags)
  | unicode
  | template
  | locale
deriving DecidableEq

def flagLetter? : Token → Option FlagLetter
  | .plain 'a' => some (.mode { Flags.none with ascii := true })
  | .plain 'u' => some .unicode
  | .plain 't' => some .template
  | .plain 'L' => some .locale
  | .plain letter => (Flags.ofLetter? letter).map .mode
  | .escape _ => none

structure LettersOn where
  switch : Switch
  template : Bool

def flagFault {α : Type} (token : Token) (missing : String) : Reading α :=
  let isLetter :=
    match token with
    | .plain character => Text.isLetter character
    | .escape _ => false
  failAt (if isLetter then "unknown flag" else missing).toList token.length

def turnOn (letter : FlagLetter) (found : LettersOn) : Reading LettersOn :=
  let clash : Reading LettersOn :=
    failHere "bad inline flags: flags 'a', 'u' and 'L' are incompatible"
  match letter with
  | .locale => failHere "bad inline flags: cannot use 'L' flag with a str pattern"
  | .template => return { found with template := true }
  | .unicode =>
      if found.switch.on.ascii then clash
      else return { found with switch := { found.switch with unicode := true } }
  | .mode flags =>
      if flags.ascii && found.switch.unicode then clash
      else
        return { found with switch := { found.switch with on := found.switch.on.union flags } }

/-- The letters to turn on, from a first one; the token that ends them comes with the result. -/
def lettersOn : Nat → FlagLetter → LettersOn → Reading (LettersOn × Token)
  | 0, _, found => return (found, .plain ')')
  | fuel + 1, letter, found => do
      let found ← turnOn letter found
      match ← take with
      | none => failHere "missing -, : or )"
      | some token =>
          if token.is ')' || token.is '-' || token.is ':' then return (found, token)
          else
            match flagLetter? token with
            | some next => lettersOn fuel next found
            | none => flagFault token "missing -, : or )"

def lettersOff : Nat → FlagLetter → Flags × Bool → Reading (Flags × Bool)
  | 0, _, found => return found
  | fuel + 1, letter, (flags, template) => do
      let typeFault : Reading (Flags × Bool) :=
        failHere "bad inline flags: cannot turn off flags 'a', 'u' and 'L'"
      let found ←
        match letter with
        | .mode more => if more.ascii then typeFault else pure (flags.union more, template)
        | .template => pure (flags, true)
        | _ => typeFault
      match ← take with
      | none => failHere "missing :"
      | some token =>
          if token.is ':' then return found
          else
            match flagLetter? token with
            | some next => lettersOff fuel next found
            | none => flagFault token "missing :"

/-- The flags of an inline group, after the first token of them. No result means that they hold for
the whole pattern. -/
def readSwitch (first : Token) : Reading (Option Switch) := do
  let fuel := (← get).rest.length + 1
  let empty : LettersOn := ⟨Switch.none, false⟩
  let (letters, close) ←
    match flagLetter? first with
    | some letter => lettersOn fuel letter empty
    | none => pure (empty, first)
  if close.is ')' then
    let template := { Flags.none with template := letters.template }
    modify fun cursor =>
      { cursor with
        flags := (cursor.flags.union letters.switch.on).union template
        unicode := cursor.unicode || letters.switch.unicode }
    return none
  else if letters.template then
    failAt "bad inline flags: cannot turn on global flag".toList 1
  else if close.is '-' then
    match ← take with
    | none => failHere "missing flag"
    | some token =>
        match flagLetter? token with
        | none => flagFault token "missing flag"
        | some letter =>
            let (off, template) ← lettersOff fuel letter (Flags.none, false)
            if template then failAt "bad inline flags: cannot turn off global flag".toList 1
            else if (letters.switch.on.without off) != letters.switch.on then
              failAt "bad inline flags: flag turned on and off".toList 1
            else return some { letters.switch with off := off }
  else return some letters.switch

end RecordQuery.Pattern
