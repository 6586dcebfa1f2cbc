import RecordQuery.Pattern.Character
import RecordQuery.Pattern.Marks

/-!
Matching a part of a pattern at a place of a text.

`Node.matcher` gives every node a meaning: from a place and the marks so far it tries its ways of
matching in order, each with the rest of the search. A search that fails returns the marks that it
leaves behind.
-/

namespace RecordQuery.Pattern

structure State where
  place : Nat
  marks : Marks

/-- The end of a search, or the marks that are left when it fails. -/
abbrev Result := Except Marks State

abbrev Continuation := State → Result

/-- The meaning of a part: all its ways of matching from a state, each tried with the rest. -/
abbrev Matcher := State → Continuation → Result

abbrev Subject := Array Char

def Anchor.holds (anchor : Anchor) (flags : Flags) (subject : Subject) (place : Nat) : Bool :=
  let size := subject.size
  let wordAt := fun (index : Nat) =>
    ((subject[index]?).map (Kind.word.holds flags.ascii)).getD false
  let edge := (if place = 0 then false else wordAt (place - 1)) != wordAt place
  match anchor with
  | .lineStart =>
      place == 0 || (flags.multiline && subject[place - 1]? == some '\n')
  | .lineEnd =>
      place == size ||
        (if flags.multiline then subject[place]? == some '\n'
          else place + 1 == size && subject[place]? == some '\n')
  | .textStart => place == 0
  | .textEnd => place == size
  | .wordEdge => size != 0 && edge
  | .notWordEdge => size != 0 && !edge

/-- Goes on from a state after a failure, with the marks that are kept of it. -/
def orElse (looping : Bool) (state : State) (attempt : Result) (next : Continuation) : Result :=
  match attempt with
  | .ok found => .ok found
  | .error left => next { state with marks := Marks.restore looping state.marks left }

def fail : Continuation := fun state => .error state.marks

def single (subject : Subject) (test : Char → Bool) : Matcher := fun state next =>
  match subject[state.place]? with
  | some character => if test character then next ⟨state.place + 1, state.marks⟩ else fail state
  | none => fail state

def countFrom (subject : Subject) (test : Char → Bool) (place : Nat) : Nat → Nat
  | 0 => 0
  | limit + 1 =>
      match subject[place]? with
      | some character =>
          if test character then countFrom subject test (place + 1) limit + 1 else 0
      | none => 0

def giveBack (looping : Bool) (start : Nat) : Nat → Marks → Continuation → Result
  | 0, marks, next => orElse looping ⟨start, marks⟩ (next ⟨start, marks⟩) fail
  | further + 1, marks, next =>
      orElse looping ⟨start, marks⟩ (next ⟨start + (further + 1), marks⟩) fun state =>
        giveBack looping start further state.marks next

/-- Tries the rest at once, then after one more character each time, up to a limit. -/
def takeMore (subject : Subject) (test : Char → Bool) (looping : Bool) :
    Nat → State → Continuation → Result
  | 0, state, next => orElse looping state (next state) fail
  | further + 1, state, next =>
      orElse looping state (next state) fun state =>
        single subject test state fun after =>
          takeMore subject test looping further after next

def repeatSingle (subject : Subject) (test : Char → Bool) (looping : Bool) (greed : Greed)
    (least : Nat) (most? : Option Nat) : Matcher := fun state next =>
  let left := subject.size - state.place
  let most := min left (most?.getD left)
  let count := countFrom subject test state.place
    (match greed with
      | .reluctant => min left least
      | _ => most)
  if count < least then fail state
  else
    let start := state.place + least
    match greed with
    | .greedy => giveBack looping start (count - least) state.marks next
    | .reluctant => takeMore subject test looping (most - least) ⟨start, state.marks⟩ next
    | .possessive => next ⟨state.place + count, state.marks⟩

def repeats (flags : Flags) (subject : Subject) (start place : Nat) : Nat → Bool
  | 0 => true
  | count + 1 =>
      match subject[start]?, subject[place]? with
      | some left, some right =>
          (if flags.ignoreCase then
              lowered flags.ascii left.toNat == lowered flags.ascii right.toNat
            else left == right) && repeats flags subject (start + 1) (place + 1) count
      | _, _ => false

def backReference (flags : Flags) (subject : Subject) (index : Nat) : Matcher :=
  fun state next =>
    match state.marks.group? index with
    | some (start, stop) =>
        if repeats flags subject start state.place (stop - start) then
          next ⟨state.place + (stop - start), state.marks⟩
        else fail state
    | none => fail state

structure Loop where
  least : Nat
  most? : Option Nat
  body : Matcher

namespace Loop

/-- Another round may start: there are not too many, and the last one did not start here. -/
def mayRun (loop : Loop) (count : Nat) (last? : Option Nat) (place : Nat) : Bool :=
  loop.most?.all (count < ·) && last? != some place

/-- As many rounds as possible first. After the least count, another round is tried only where it
starts at a place other than that of the round before, so `fuel` above the number of places never
runs out. -/
def greedy (loop : Loop) : Nat → Nat → Option Nat → Matcher
  | 0, _, _ => fun state _ => fail state
  | fuel + 1, count, last? => fun state next =>
      if count < loop.least then
        loop.body state fun after => loop.greedy fuel (count + 1) last? after next
      else if loop.mayRun count last? state.place then
        orElse true state
          (loop.body state fun after =>
            loop.greedy fuel (count + 1) (some state.place) after next)
          next
      else next state

def reluctant (loop : Loop) (looping : Bool) : Nat → Nat → Option Nat → Matcher
  | 0, _, _ => fun state _ => fail state
  | fuel + 1, count, last? => fun state next =>
      if count < loop.least then
        loop.body state fun after => loop.reluctant looping fuel (count + 1) last? after next
      else
        orElse looping state (next state) fun state =>
          if loop.mayRun count last? state.place then
            loop.body state fun after =>
              loop.reluctant looping fuel (count + 1) (some state.place) after next
          else fail state

def possessive (loop : Loop) : Nat → Nat → Option Nat → State → Result
  | 0, _, _, state => fail state
  | fuel + 1, count, last?, state =>
      if count < loop.least then
        match loop.body state .ok with
        | .ok after => loop.possessive fuel (count + 1) last? after
        | .error left => .error left
      else if loop.mayRun count last? state.place then
        match loop.body state .ok with
        | .ok after => loop.possessive fuel (count + 1) (some state.place) after
        | .error _ => .ok state
      else .ok state

def run (loop : Loop) (looping : Bool) (greed : Greed) (size : Nat) : Matcher :=
  let fuel := loop.least + size + 3
  match greed with
  | .greedy => loop.greedy fuel 0 none
  | .reluctant => loop.reluctant looping fuel 0 none
  | .possessive => fun state next =>
      match loop.possessive fuel 0 none state with
      | .ok after => next after
      | .error left => .error left

end Loop

/-- Goes on from a state when a part matched there or, negated, when it did not. -/
def look (looping negated : Bool) (attempt : Result) (state : State) (next : Continuation) :
    Result :=
  match negated, attempt with
  | false, .ok found => next ⟨state.place, found.marks⟩
  | false, .error left => .error left
  | true, .ok found => .error found.marks
  | true, .error left => next ⟨state.place, Marks.restore looping state.marks left⟩

mutual

/-- The meaning of a node; `looping` is true inside the body of a loop. -/
def Node.matcher (flags : Flags) (subject : Subject) (looping : Bool) : Node → Matcher
  | .one negated wanted =>
      single subject fun character => sameCharacter flags wanted character != negated
  | .any => single subject fun character => flags.dotAll || character != '\n'
  | .set negated members => single subject (inSet flags negated members)
  | .anchor place => fun state next =>
      if place.holds flags subject state.place then next state else fail state
  | .group index? switch body =>
      let inner := sequenceMatcher (switch.apply flags) subject looping body
      match index? with
      | none => inner
      | some index => fun state next =>
          inner ⟨state.place, state.marks.put (2 * index - 2) state.place⟩ fun after =>
            next ⟨after.place, after.marks.put (2 * index - 1) after.place⟩
  | .atomic body =>
      let inner := sequenceMatcher flags subject looping body
      fun state next =>
        match inner state .ok with
        | .ok after => next after
        | .error left => .error left
  | .ahead negated body =>
      let inner := sequenceMatcher flags subject looping body
      fun state next => look looping negated (inner state .ok) state next
  | .behind negated width? body =>
      let inner := sequenceMatcher flags subject looping body
      let width := width?.getD 0
      fun state next =>
        let attempt :=
          if width ≤ state.place then inner ⟨state.place - width, state.marks⟩ .ok
          else fail state
        look looping negated attempt state next
  | .repetition greed least most? body =>
      match sequenceTest? flags body with
      | some test => repeatSingle subject test looping greed least most?
      | none =>
          let inLoop :=
            match greed with
            | .possessive => looping
            | _ => true
          let loop : Loop := ⟨least, most?, sequenceMatcher flags subject inLoop body⟩
          loop.run looping greed subject.size
  | .choice branches => choiceMatcher flags subject looping branches
  | .reference index => backReference flags subject index
  | .conditional index present absent =>
      let whenPresent := sequenceMatcher flags subject looping present
      let whenAbsent := sequenceMatcher flags subject looping absent
      fun state next =>
        if (state.marks.group? index).isSome then whenPresent state next
        else whenAbsent state next

def sequenceMatcher (flags : Flags) (subject : Subject) (looping : Bool) : List Node → Matcher
  | [] => fun state next => next state
  | node :: rest =>
      let first := Node.matcher flags subject looping node
      let others := sequenceMatcher flags subject looping rest
      fun state next => first state fun after => others after next

def choiceMatcher (flags : Flags) (subject : Subject) (looping : Bool) :
    List (List Node) → Matcher
  | [] => fun state _ => fail state
  | branch :: rest =>
      let first := sequenceMatcher flags subject looping branch
      let others := choiceMatcher flags subject looping rest
      fun state next => orElse looping state (first state next) fun state => others state next

end

end RecordQuery.Pattern
