import RecordQuery.Number.Numeral
import RecordQuery.Pattern.Character
import RecordQuery.Pattern.Escape
import RecordQuery.Pattern.Switches
import RecordQuery.Text.Identifier

/-!
Reading regular expressions.

`Pattern.compile` reads the whole text of a pattern. A malformed pattern is reported with the reason
and the place of the first fault.
-/

namespace RecordQuery.Pattern

def countOf (digits : List Char) : Reading Nat := do
  if Numeral.maxDigits < digits.length then
    throw (.countTooLong (String.ofList (digitsOf digits.length)))
  else if maxRepeat ≤ numberOf 10 digits then throw .countTooLarge
  else return numberOf 10 digits

/-- The bounds of a repetition in braces, after the opening one. No result means that the brace
stands for itself. -/
def readBounds (start : Nat) : Reading (Option (Nat × Option Nat)) := do
  let before ← get
  if (← peek) == some (.plain '\x7d') then return none
  else
    let fuel := before.rest.length
    let low ← takeWhile Char.isDigit fuel
    let high ← if ← takeIf ',' then takeWhile Char.isDigit fuel else pure low
    if ← takeIf '\x7d' then
      let least ← if low.isEmpty then pure 0 else countOf low
      if high.isEmpty then return some (least, none)
      else
        let most ← countOf high
        if most < least then
          failAt "min repeat greater than max repeat".toList ((← get).position - start)
        else return some (least, some most)
    else
      set before
      return none

/-- The mark after a quantifier, if there is one. -/
def readGreed : Reading Greed := do
  if ← takeIf '?' then return .reluctant
  else if ← takeIf '+' then return .possessive
  else return .greedy

def repeatLast (start : Nat) (mark : Nat) (least : Nat) (most? : Option Nat) :
    List Node → Reading (List Node)
  | [] => do failAt "nothing to repeat".toList ((← get).position - start + mark)
  | .anchor _ :: _ => do failAt "nothing to repeat".toList ((← get).position - start + mark)
  | .repetition _ _ _ _ :: _ => do
      failAt "multiple repeat".toList ((← get).position - start + mark)
  | last :: before => do
      let body :=
        match last with
        | .group none switch body => if switch = Switch.none then body else [last]
        | _ => [last]
      return .repetition (← readGreed) least most? body :: before

def skipComment (start : Nat) : Nat → Reading Unit
  | 0 => return ()
  | fuel + 1 => do
      match ← take with
      | none => failAt "missing ), unterminated comment".toList ((← get).position - start)
      | some token => if token.is ')' then return () else skipComment start fuel

def skipLine : Nat → Reading Unit
  | 0 => return ()
  | fuel + 1 => do
      match ← take with
      | none => return ()
      | some token => if token.is '\n' then return () else skipLine fuel

def closeGroup (start : Nat) : Reading Unit := do
  if !(← takeIf ')') then
    failAt "missing ), unterminated subpattern".toList ((← get).position - start)

def openGroup (name? : Option (List Char)) : Reading Nat := do
  let cursor ← get
  let index := cursor.groups.length + 1
  match name? with
  | none => pure ()
  | some name =>
      match cursor.names.find? fun entry => entry.1 == name with
      | some (_, old) =>
          failAt ("redefinition of group name ".toList ++ Text.quoted name ++
            " as group ".toList ++ digitsOf index ++ "; was group ".toList ++ digitsOf old)
            (name.length + 1)
      | none => pure ()
  modify fun cursor =>
    { cursor with
      groups := cursor.groups ++ [none]
      names := cursor.names ++ (name?.map fun name => (name, index)).toList }
  return index

def checkName (name : List Char) : Reading Unit := do
  if !Text.isIdentifier name then
    failAt ("bad character in group name ".toList ++ Text.quoted name) (name.length + 1)

def namedGroup (name : List Char) : Reading Nat := do
  match (← get).names.find? fun entry => entry.1 == name with
  | some (_, index) => return index
  | none => failAt ("unknown group name ".toList ++ Text.quoted name) (name.length + 1)

def maxGroups : Nat := 1073741823

/-- The group that a condition asks for, by name or by number. -/
def conditionGroup : Reading Nat := do
  let name ← takeName ')' "group name" ((← get).rest.length + 1) []
  if Text.isIdentifier name then namedGroup name
  else
    match Numeral.integer? name with
    | some value =>
        if value < 0 then
          failAt ("bad character in group name ".toList ++ Text.quoted name) (name.length + 1)
        else if value = 0 then failAt "bad group number".toList (name.length + 1)
        else if maxGroups ≤ value.toNat then
          failAt ("invalid group reference ".toList ++ digitsOf value.toNat) (name.length + 1)
        else
          let index := value.toNat
          modify fun cursor =>
            { cursor with
              conditions := cursor.conditions ++ [(index, cursor.position - name.length - 1)] }
          return index
    | none =>
        failAt ("bad character in group name ".toList ++ Text.quoted name) (name.length + 1)

def namedReference : Reading Node := do
  let name ← takeName ')' "group name" ((← get).rest.length + 1) []
  checkName name
  let index ← namedGroup name
  if !isClosed (← get) index then
    failAt "cannot refer to an open group".toList (name.length + 1)
  else
    checkBehind index
    return .reference index

inductive Opening where
  | capture (name? : Option (List Char))
  | plain (switch : Switch)
  | atomic
  | look (behind negated : Bool)
  | condition
  | reference
  | comment
  | wholeFlags

def readOpening : Reading Opening := do
  if !(← takeIf '?') then return .capture none
  else
    match ← take with
    | none => failHere "unexpected end of pattern"
    | some token =>
        if token.is 'P' then
          if ← takeIf '<' then
            let name ← takeName '>' "group name" ((← get).rest.length + 1) []
            checkName name
            return .capture (some name)
          else if ← takeIf '=' then return .reference
          else
            match ← take with
            | none => failHere "unexpected end of pattern"
            | some other =>
                failAt ("unknown extension ?P".toList ++ other.text) (other.length + 2)
        else if token.is ':' then return .plain Switch.none
        else if token.is '#' then return .comment
        else if token.is '=' then return .look false false
        else if token.is '!' then return .look false true
        else if token.is '<' then
          match ← take with
          | none => failHere "unexpected end of pattern"
          | some other =>
              if other.is '=' then return .look true false
              else if other.is '!' then return .look true true
              else failAt ("unknown extension ?<".toList ++ other.text) (other.length + 2)
        else if token.is '(' then return .condition
        else if token.is '>' then return .atomic
        else if (flagLetter? token).isSome || token.is '-' then
          match ← readSwitch token with
          | some switch => return .plain switch
          | none => return .wholeFlags
        else failAt ("unknown extension ?".toList ++ token.text) (token.length + 1)

mutual

/-- Sequences between bars. `top` is true outside all groups. -/
def readChoice (extended top : Bool) : Nat → Reading (List Node)
  | 0 => return []
  | fuel + 1 => do
      let first ← readSequence extended top [] fuel
      let others ← readBranches extended top fuel
      return if others.isEmpty then first else choiceOf first others

def readBranches (extended top : Bool) : Nat → Reading (List (List Node))
  | 0 => return []
  | fuel + 1 => do
      if ← takeIf '|' then
        let cursor ← get
        let extended := if top then cursor.flags.extended else extended
        let branch ← readSequence extended false [] fuel
        return branch :: (← readBranches extended top fuel)
      else return []

/-- A sequence, with the nodes already read in `found`, the last one first. `first` is true at the
start of the pattern, where flags of the whole pattern may stand. Every call takes a token or opens
a part that does, so fuel of a few times the length of the pattern never runs out. -/
def readSequence (extended first : Bool) (found : List Node) : Nat → Reading (List Node)
  | 0 => return ungrouped found.reverse
  | fuel + 1 => do
      match ← peek with
      | none => return ungrouped found.reverse
      | some (.escape letter) =>
          advance
          let node ← nodeEscape letter
          readSequence extended first (node :: found) fuel
      | some (.plain character) =>
          if character == '|' || character == ')' then return ungrouped found.reverse
          else
            advance
            if extended && isSkipped character then readSequence extended first found fuel
            else if extended && character == '#' then
              skipLine ((← get).rest.length + 1)
              readSequence extended first found fuel
            else
              match character with
              | '[' =>
                  let node ← readSet
                  readSequence extended first (node :: found) fuel
              | '.' => readSequence extended first (.any :: found) fuel
              | '^' => readSequence extended first (.anchor .lineStart :: found) fuel
              | '$' => readSequence extended first (.anchor .lineEnd :: found) fuel
              | '?' =>
                  let found ← repeatLast (← get).position 1 0 (some 1) found
                  readSequence extended first found fuel
              | '*' =>
                  let found ← repeatLast (← get).position 1 0 none found
                  readSequence extended first found fuel
              | '+' =>
                  let found ← repeatLast (← get).position 1 1 none found
                  readSequence extended first found fuel
              | '\x7b' =>
                  let start := (← get).position
                  match ← readBounds start with
                  | none => readSequence extended first (.one false character.toNat :: found) fuel
                  | some (least, most?) =>
                      let found ← repeatLast start 1 least most? found
                      readSequence extended first found fuel
              | '(' =>
                  let start := (← get).position - 1
                  match ← readOpening with
                  | .wholeFlags =>
                      if !first || !found.isEmpty then
                        failAt "global flags not at the start of the expression".toList
                          ((← get).position - start)
                      else
                        let extended := (← get).flags.extended
                        readSequence extended first found fuel
                  | .comment =>
                      skipComment start ((← get).rest.length + 1)
                      readSequence extended first found fuel
                  | opening =>
                      let node ← readGroup extended start opening fuel
                      readSequence extended first (node :: found) fuel
              | _ => readSequence extended first (.one false character.toNat :: found) fuel

def readGroup (extended : Bool) (start : Nat) (opening : Opening) : Nat → Reading Node
  | 0 => return .any
  | fuel + 1 => do
      match opening with
      | .reference => namedReference
      | .comment | .wholeFlags => return .any
      | .capture name? =>
          let index ← openGroup name?
          let body ← readChoice extended false fuel
          closeGroup start
          modify fun cursor =>
            { cursor with
              groups := cursor.groups.set (index - 1) (some (widthOf cursor.groups body)) }
          return .group (some index) Switch.none body
      | .plain switch =>
          let inner := (extended || switch.on.extended) && !switch.off.extended
          let body ← readChoice inner false fuel
          closeGroup start
          return .group none switch body
      | .atomic =>
          let body ← readChoice extended false fuel
          closeGroup start
          return .atomic body
      | .look behind negated =>
          let outer := (← get).behind?
          if behind && outer.isNone then
            modify fun cursor => { cursor with behind? := some (cursor.groups.length + 1) }
          let body ← readChoice extended false fuel
          if behind then modify fun cursor => { cursor with behind? := outer }
          closeGroup start
          if behind then
            return .behind negated (widthOf (← get).groups body).fixed? body
          else return .ahead negated body
      | .condition =>
          let index ← conditionGroup
          checkBehind index
          let present ← readSequence extended false [] fuel
          let absent ←
            if ← takeIf '|' then
              let branch ← readSequence extended false [] fuel
              if (← peek) == some (.plain '|') then
                failHere "conditional backref with more than two branches"
              else pure branch
            else pure []
          closeGroup start
          return .conditional index present absent

end

mutual

/-- The first part of a tree that cannot be searched for, in the order of the text. -/
def Node.fault? (template : Bool) : Node → Option Fault
  | .one _ _ | .any | .set _ _ | .anchor _ | .reference _ => none
  | .group _ _ body | .atomic body | .ahead _ body => sequenceFault? template body
  | .behind _ none _ => some (.malformed "look-behind requires fixed-width pattern")
  | .behind _ (some _) body => sequenceFault? template body
  | .repetition greed _ _ body =>
      if template then
        some (.malformed ("internal: unsupported template operator " ++ greed.operatorName))
      else sequenceFault? template body
  | .choice branches => branchesFault? template branches
  | .conditional _ present absent =>
      (sequenceFault? template present).orElse fun _ => sequenceFault? template absent

def sequenceFault? (template : Bool) : List Node → Option Fault
  | [] => none
  | node :: rest => (Node.fault? template node).orElse fun _ => sequenceFault? template rest

def branchesFault? (template : Bool) : List (List Node) → Option Fault
  | [] => none
  | branch :: rest =>
      (sequenceFault? template branch).orElse fun _ => branchesFault? template rest

end

def readWhole : Reading Compiled := do
  checkNext
  let cursor ← get
  let body ← readChoice cursor.flags.extended true (4 * cursor.source.length + 4)
  let cursor ← get
  if cursor.flags.ascii && cursor.unicode then throw .classesClash
  else if (← peek).isSome then failHere "unbalanced parenthesis"
  else
    match cursor.conditions.find? fun entry => cursor.groups.length < entry.1 with
    | some (index, place) =>
        throw (placed cursor.source place ("invalid group reference ".toList ++ digitsOf index))
    | none =>
        match sequenceFault? cursor.flags.template body with
        | some fault => throw fault
        | none => return { body, flags := cursor.flags }

/-- Reads a pattern under given modes. -/
def compile (source : String) (flags : Flags) : Except Fault Compiled :=
  let cursor : Cursor :=
    { source := source.toList, rest := source.toList, position := 0, flags, unicode := false
      groups := [], names := [], behind? := none, conditions := [] }
  (readWhole.run cursor).map Prod.fst

end RecordQuery.Pattern
