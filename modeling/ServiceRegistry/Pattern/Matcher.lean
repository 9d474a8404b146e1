import ServiceRegistry.Pattern.Charset

/-!
# Matching

A tree is run with a continuation that says what has to follow. The first way that succeeds, in
the order of the alternatives and repetitions, gives the groups.

Results:

* `run`: the state that the first successful way ends in.
* `matchesWhole`: whether a tree takes a whole text.
-/

namespace ServiceRegistry.Pattern

/-- Where groups were last opened and closed, the latest first. -/
structure Marks where
  opened : List (Nat × Nat)
  closed : List (Nat × Nat)
  deriving Repr, DecidableEq

/-- The part of the text that a group has taken. A group is set once it has been opened and closed,
unless it was opened again at a later place. -/
def Marks.extent? (marks : Marks) (group : Nat) : Option (Nat × Nat) :=
  match marks.opened.lookup group, marks.closed.lookup group with
  | some start, some stop => if start ≤ stop then some (start, stop) else none
  | _, _ => none

/-- A place in the text and the groups so far. -/
structure State where
  position : Nat
  marks : Marks
  deriving Repr, DecidableEq

/-- What has to follow. -/
abbrev Next := State → Option State

namespace State

/-- The state at another place. -/
def goto (state : State) (position : Nat) : State :=
  ⟨position, state.marks⟩

/-- Opens a group here. -/
def openGroup (state : State) (group : Nat) : State :=
  ⟨state.position, (group, state.position) :: state.marks.opened, state.marks.closed⟩

/-- Closes a group here. -/
def closeGroup (state : State) (group : Nat) : State :=
  ⟨state.position, state.marks.opened, (group, state.position) :: state.marks.closed⟩

end State

/-! ## Places -/

/-- Whether a word character stands at a place. -/
def wordAt (ascii : Bool) (text : Array Char) (position : Nat) : Bool :=
  match text[position]? with
  | some c => Category.word.holds ascii c
  | none => false

/-- Whether exactly one side of a place is a word character. -/
def isBoundary (ascii : Bool) (text : Array Char) (position : Nat) : Bool :=
  (position != 0 && wordAt ascii text (position - 1)) != wordAt ascii text position

/-- Whether a condition holds at a place. An empty text has no boundaries and no places without
one. -/
def Anchor.holds (text : Array Char) (position : Nat) : Anchor → Bool
  | .textStart => position == 0
  | .lineStart => position == 0 || text[position - 1]? == some '\n'
  | .textEnd => position == text.size
  | .lastLineEnd =>
    position == text.size || (position + 1 == text.size && text[position]? == some '\n')
  | .lineEnd => position == text.size || text[position]? == some '\n'
  | .boundary ascii => text.size != 0 && isBoundary ascii text position
  | .noBoundary ascii => text.size != 0 && !isBoundary ascii text position

/-! ## Repetitions of one character -/

/-- How many characters from a place on pass a test, `fuel` at most. -/
def runLength (text : Array Char) (mode : Mode) (test : CharTest) : Nat → Nat → Nat
  | 0, _ => 0
  | fuel + 1, position =>
    match text[position]? with
    | some c => if test.holds mode c then runLength text mode test fuel (position + 1) + 1 else 0
    | none => 0

/-- Tries the places `start + least + extra` down to `start + least`. -/
def tryDown (next : Next) (state : State) (least : Nat) : Nat → Option State
  | 0 => next (state.goto (state.position + least))
  | extra + 1 =>
    match next (state.goto (state.position + least + (extra + 1))) with
    | some result => some result
    | none => tryDown next state least extra

/-- Tries `extra + 1` places from `start + least` on upwards. -/
def tryUp (next : Next) (state : State) : Nat → Nat → Option State
  | least, 0 => next (state.goto (state.position + least))
  | least, extra + 1 =>
    match next (state.goto (state.position + least)) with
    | some result => some result
    | none => tryUp next state (least + 1) extra

/-- Repeats a test of one character. -/
def repeatOne (text : Array Char) (mode : Mode) (test : CharTest) (greed : Greed) (least : Nat)
    (most : Option Nat) (next : Next) (state : State) : Option State :=
  let left := text.size - state.position
  let count := runLength text mode test (min left (most.getD left)) state.position
  if count < least then none
  else match greed with
    | .greedy => tryDown next state least (count - least)
    | .lazy => tryUp next state least (count - least)
    | .possessive => next (state.goto (state.position + count))

/-! ## Repetitions of a tree -/

/-- Whether one more repetition is allowed after some. -/
def mayRepeat (most : Option Nat) (count : Nat) : Bool :=
  match most with
  | some most => count < most
  | none => true

/-- Repeats a body, many times first. Beyond the least count a repetition has to start at another
place than the one before it. -/
def repeatGreedy (body : Next → Next) (least : Nat) (most : Option Nat) (next : Next) :
    Nat → Nat → Option Nat → Next
  | 0, _, _, _ => none
  | fuel + 1, count, last, state =>
    if count < least then body (repeatGreedy body least most next fuel (count + 1) last) state
    else if mayRepeat most count && last != some state.position then
      let again := repeatGreedy body least most next fuel (count + 1) (some state.position)
      match body again state with
      | some result => some result
      | none => next state
    else next state

/-- Repeats a body, few times first. -/
def repeatLazy (body : Next → Next) (least : Nat) (most : Option Nat) (next : Next) :
    Nat → Nat → Option Nat → Next
  | 0, _, _, _ => none
  | fuel + 1, count, last, state =>
    if count < least then body (repeatLazy body least most next fuel (count + 1) last) state
    else match next state with
      | some result => some result
      | none =>
        if mayRepeat most count && last != some state.position then
          body (repeatLazy body least most next fuel (count + 1) (some state.position)) state
        else none

/-- Repeats a body as often as its first way succeeds. -/
def repeatPossessive (body : Next → Next) (least : Nat) (most : Option Nat) :
    Nat → Nat → Option Nat → State → Option State
  | 0, _, _, _ => none
  | fuel + 1, count, last, state =>
    if count < least then
      match body some state with
      | some state => repeatPossessive body least most fuel (count + 1) last state
      | none => none
    else if mayRepeat most count && last != some state.position then
      match body some state with
      | some after =>
        repeatPossessive body least most fuel (count + 1) (some state.position) after
      | none => some state
    else some state

/-- More repetitions than any run of a loop can make. -/
def loopFuel (text : Array Char) (least : Nat) : Nat :=
  least + text.size + 3

/-! ## Trees -/

/-- Whether the characters of an extent stand again at a place. -/
def standsAgain (text : Array Char) (mode : Mode) (start position : Nat) : Nat → Bool
  | 0 => true
  | count + 1 =>
    match text[start]?, text[position]? with
    | some a, some b =>
      sameLetter mode a b && standsAgain text mode (start + 1) (position + 1) count
    | _, _ => false

/-- Runs a tree and then what has to follow. -/
def run (text : Array Char) : Node → Next → Next
  | .empty, next, state => next state
  | .one mode test, next, state =>
    match text[state.position]? with
    | some c => if test.holds mode c then next (state.goto (state.position + 1)) else none
    | none => none
  | .anchor anchor, next, state => if anchor.holds text state.position then next state else none
  | .seq first second, next, state => run text first (run text second next) state
  | .alt first second, next, state =>
    match run text first next state with
    | some result => some result
    | none => run text second next state
  | .capture group body, next, state =>
    run text body (fun state => next (state.closeGroup group)) (state.openGroup group)
  | .same mode group, next, state =>
    match state.marks.extent? group with
    | none => none
    | some (start, stop) =>
      if standsAgain text mode start state.position (stop - start) then
        next (state.goto (state.position + (stop - start)))
      else none
  | .look behind negated body, next, state =>
    let back := behind.getD 0
    let inner := if state.position < back then none
      else run text body some (state.goto (state.position - back))
    match inner, negated with
    | some after, false => next ⟨state.position, after.marks⟩
    | none, true => next state
    | _, _ => none
  | .atomic body, next, state =>
    match run text body some state with
    | some state => next state
    | none => none
  | .choose group ifSet ifUnset, next, state =>
    match state.marks.extent? group with
    | some _ => run text ifSet next state
    | none => run text ifUnset next state
  | .many greed least most (.one mode test), next, state =>
    repeatOne text mode test greed least most next state
  | .many greed least most body, next, state =>
    match greed with
    | .greedy =>
      repeatGreedy (run text body) least most next (loopFuel text least) 0 none state
    | .lazy => repeatLazy (run text body) least most next (loopFuel text least) 0 none state
    | .possessive =>
      match repeatPossessive (run text body) least most (loopFuel text least) 0 none state with
      | some state => next state
      | none => none

/-- Whether a tree takes a whole text. -/
def matchesWhole (node : Node) (text : List Char) : Bool :=
  let text := text.toArray
  let atEnd : Next := fun state => if state.position == text.size then some state else none
  (run text node atEnd ⟨0, ⟨[], []⟩⟩).isSome

end ServiceRegistry.Pattern
