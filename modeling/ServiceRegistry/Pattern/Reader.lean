import ServiceRegistry.Number.Decimal
import ServiceRegistry.Pattern.Matcher
import ServiceRegistry.Pattern.Token
import ServiceRegistry.Text.CharName
import ServiceRegistry.Text.Digit
import ServiceRegistry.Text.Identifier

/-!
# Reading patterns

The grammar of patterns: alternatives, sequences, repetitions, sets, escapes, and the groups that
open with a question mark.

Results:

* `readPattern`: the tree of a pattern, or why it has none.
* `matchesPattern`: whether a pattern takes a whole text; a malformed one takes none.
-/

namespace ServiceRegistry.Pattern

/-- Why a pattern has no tree. Only the first is a matter of its grammar. -/
inductive ReadFault
  | malformed
  | countTooLarge
  | countTooLong (digits : Nat)
  | clashingModes
  | tooDeep
  deriving Repr, DecidableEq

/-- Modes that the front of a pattern sets for all of it. -/
structure Globals where
  mode : Mode
  ascii : Bool
  unicode : Bool
  template : Bool
  deriving Repr, DecidableEq

/-- How far reading has come: the tokens left, the number that the next group gets, the widths of
the closed groups, the names of groups, the groups opened before the outermost look-behind that is
open, the numbers that conditions ask for, the calls that are open, and what the end has to
check. -/
structure Progress where
  rest : List Token
  nextGroup : Nat
  widths : List (Nat × Width)
  names : List (List Char × Nat)
  behind : Option Nat
  asked : List Nat
  calls : Nat
  globals : Globals
  repeats : Bool
  unevenBehind : Bool
  deriving Repr, DecidableEq

/-- The progress before the first token. -/
def Progress.start (tokens : List Token) : Progress :=
  ⟨tokens, 1, [], [], none, [], 0, ⟨.start, false, false, false⟩, false, false⟩

/-- A step of the reader. -/
abbrev Read (α : Type) := StateT Progress (Except ReadFault) α

/-- Gives up: the pattern is malformed. -/
def fail {α : Type} : Read α :=
  throw .malformed

/-- Gives up unless a condition holds. -/
def check (condition : Bool) : Read Unit :=
  if condition then pure () else fail

/-- Goes on with what a partial step gives, or gives up. -/
def need {α : Type} : Option α → Read α
  | some a => pure a
  | none => fail

/-- The next token, which may not be a dangling backslash. -/
def peek : Read (Option Token) := do
  match (← get).rest with
  | [] => return none
  | .dangling :: _ => fail
  | token :: _ => return some token

/-- Goes on with the given tokens. -/
def goOn (rest : List Token) : Read Unit :=
  modify fun progress => { progress with rest }

/-- Takes the next token. -/
def next : Read (Option Token) := do
  let token ← peek
  goOn (← get).rest.tail
  return token

/-- Takes the next token if it is the given character. -/
def accept (c : Char) : Read Bool := do
  if (← peek) == some (.plain c) then
    goOn (← get).rest.tail
    return true
  else return false

/-- The number of calls that may be open at once. -/
def callLimit : Nat := 960

/-- Enters a group, for which some calls are opened. -/
def enter (calls : Nat) : Read Unit := do
  modify fun progress => { progress with calls := progress.calls + calls }
  if (← get).calls > callLimit then throw .tooDeep

/-- Takes the closing parenthesis of a group, which ends its calls. -/
def close (calls : Nat) : Read Unit := do
  check (← accept ')')
  modify fun progress => { progress with calls := progress.calls - calls }

/-- Takes the characters before a stop and the stop itself. -/
def nameUntil (stop : Char) : Read (List Char) := do
  let (name, rest) ← need (takeUntil stop (← get).rest)
  goOn rest
  return name

/-! ## Groups -/

/-- Whether a group has been closed. -/
def Progress.isClosed (progress : Progress) (group : Nat) : Bool :=
  (progress.widths.lookup group).isSome

/-- Refuses, inside a look-behind, a group that is open or was opened inside it. -/
def checkBehind (group : Nat) : Read Unit := do
  let progress ← get
  match progress.behind with
  | none => return ()
  | some bound => check (progress.isClosed group && group < bound)

/-- A reference to a group, which must have been closed. -/
def referTo (mode : Mode) (group : Nat) : Read Node := do
  check ((← get).isClosed group)
  checkBehind group
  return .same mode group

/-- Opens a group, with a new name or without one, and gives its number. -/
def openGroup (name : Option (List Char)) : Read Nat := do
  let progress ← get
  let group := progress.nextGroup
  let names ← match name with
    | none => pure progress.names
    | some name => do
      check (progress.names.lookup name).isNone
      pure ((name, group) :: progress.names)
  set { progress with nextGroup := group + 1, names }
  return group

/-- Closes a group with its body. -/
def closeGroup (group : Nat) (body : Node) : Read Unit :=
  modify fun progress =>
    { progress with widths := (group, body.width progress.widths) :: progress.widths }

/-- The number of the group that a condition asks for. Blanks around it, a sign and single low
lines between its digits are accepted, and digits of every script. -/
def groupNumber? (name : List Char) : Option Nat :=
  let name := ((name.dropWhile Text.isBlank).reverse.dropWhile Text.isBlank).reverse
  let name := if name.head? == some '+' then name.tail else name
  match Number.dropLowLines name with
  | none => none
  | some [] => none
  | some digits =>
    let number := digits.foldlM (fun n c => (Text.digitValue? c).map (n * 10 + ·)) 0
    number.bind fun n => if n = 0 then none else some n

/-- The group that a condition asks for, by its name or number. -/
def askedGroup (name : List Char) : Read Nat := do
  if Text.isIdentifier name then need ((← get).names.lookup name)
  else
    let group ← need (groupNumber? name)
    modify fun progress => { progress with asked := group :: progress.asked }
    return group

/-! ## Modes -/

/-- The letters that set modes. -/
def isModeLetter (c : Char) : Bool :=
  "iLmsxatu".toList.contains c

/-- The mode with one letter turned on or off. -/
def Mode.turn (mode : Mode) (letter : Char) (on : Bool) : Mode :=
  match letter with
  | 'i' => { mode with ignoreCase := on }
  | 'm' => { mode with multiline := on }
  | 's' => { mode with dotAll := on }
  | 'x' => { mode with verbose := on }
  | 'a' => { mode with ascii := on }
  | 'u' => { mode with ascii := !on }
  | _ => mode

/-- The mode with some letters turned on and others off. -/
def Mode.adjust (mode : Mode) (on off : List Char) : Mode :=
  off.foldl (·.turn · false) (on.foldl (·.turn · true) mode)

/-- Letters that are turned on, from the given one, and the character that ends them. -/
def lettersOn : Nat → Char → List Char → Read (List Char × Char)
  | 0, _, _ => fail
  | fuel + 1, letter, done => do
    let done := letter :: done
    check (letter != 'L' && !(done.contains 'a' && done.contains 'u'))
    match ← next with
    | some (.plain c) =>
      if c == ')' || c == '-' || c == ':' then return (done, c)
      else
        check (isModeLetter c)
        lettersOn fuel c done
    | _ => fail

/-- Letters that are turned off, up to the colon after them. -/
def lettersOff : Nat → List Char → Read (List Char)
  | 0, _ => fail
  | fuel + 1, done => do
    match ← next with
    | some (.plain c) =>
      if c == ':' && !done.isEmpty then return done
      else
        check (isModeLetter c && c != 'a' && c != 'u' && c != 'L')
        lettersOff fuel (c :: done)
    | _ => fail

/-- What the letters after a question mark set: modes of the whole pattern, or of the group that
they open. -/
inductive ModeChange
  | whole (on : List Char)
  | group (on off : List Char)
  deriving Repr, DecidableEq

/-- Reads mode letters of which the first has been taken. -/
def readModes (first : Char) : Read ModeChange := do
  let fuel := (← get).rest.length + 1
  let (on, stop) ← if first == '-' then pure ([], '-') else lettersOn fuel first []
  if stop == ')' then return .whole on
  check (!on.contains 't')
  let off ← if stop == '-' then lettersOff fuel [] else pure []
  check (!off.contains 't' && !on.any off.contains)
  return .group on off

/-- Sets modes of the whole pattern and gives the mode in force from here on. -/
def setGlobals (on : List Char) : Read Mode := do
  let progress ← get
  let globals := progress.globals
  let globals : Globals :=
    { mode := globals.mode.adjust on []
      ascii := globals.ascii || on.contains 'a'
      unicode := globals.unicode || on.contains 'u'
      template := globals.template || on.contains 't' }
  set { progress with globals }
  return globals.mode

/-! ## Escapes -/

/-- The code point of an escape with digits or a name, whose letter has been taken. -/
def codeEscape? (letter : Char) (tokens : List Token) : Option (Option (Nat × List Token)) :=
  match letter with
  | 'x' => some (takeHex 2 tokens)
  | 'u' => some (takeHex 4 tokens)
  | 'U' => some ((takeHex 8 tokens).filter fun result => result.1 ≤ 0x10FFFF)
  | 'N' => some <|
    match tokens with
    | .plain '\x7b' :: rest => do
      let (name, rest) ← takeUntil '\x7d' rest
      let code ← Text.codePointOfName? (String.ofList name)
      return (code, rest)
    | _ => none
  | _ => none

/-- The control character of an escape letter. -/
def controlEscape? (letter : Char) : Option Nat :=
  match letter with
  | 'a' => some 7
  | 'f' => some 12
  | 'n' => some 10
  | 'r' => some 13
  | 't' => some 9
  | 'v' => some 11
  | '\\' => some 92
  | _ => none

/-- The kind of characters of an escape letter. -/
def categoryEscape? (letter : Char) : Option SetItem :=
  match letter with
  | 'd' => some (.category .digit false)
  | 'D' => some (.category .digit true)
  | 's' => some (.category .blank false)
  | 'S' => some (.category .blank true)
  | 'w' => some (.category .word false)
  | 'W' => some (.category .word true)
  | _ => none

/-- The place that an escape letter stands for. -/
def anchorEscape? (mode : Mode) (letter : Char) : Option Anchor :=
  match letter with
  | 'A' => some .textStart
  | 'Z' => some .textEnd
  | 'b' => some (.boundary mode.ascii)
  | 'B' => some (.noBoundary mode.ascii)
  | _ => none

/-- An octal code of at most three digits from the given one on. -/
def octalEscape (first : Char) : Read Nat := do
  let (digits, rest) := takeClass isOctal 2 (← get).rest
  goOn rest
  let code := octalValue (first :: digits)
  check (code ≤ 0o377)
  return code

/-- An escape with an item of a set. -/
def setEscape (letter : Char) : Read SetItem := do
  if letter == 'b' then return .code 8
  match controlEscape? letter, categoryEscape? letter with
  | some code, _ => return .code code
  | none, some item => return item
  | none, none =>
    match codeEscape? letter (← get).rest with
    | some result =>
      let (code, rest) ← need result
      goOn rest
      return .code code
    | none =>
      if isOctal letter then return .code (← octalEscape letter)
      check (!letter.isAlphanum)
      return .code letter.toNat

/-- An escape of decimal digits other than zero: a code of three octal digits, or else the number
of a group in one or two digits. -/
def numberEscape (mode : Mode) (first : Char) : Read Node := do
  let (more, rest) := takeClass Char.isDigit 1 (← get).rest
  let (last, after) := takeClass isOctal 1 rest
  if (first :: more).length = 2 && (first :: more).all isOctal && !last.isEmpty then
    goOn after
    let code := octalValue (first :: more ++ last)
    check (code ≤ 0o377)
    return .one mode (.code code)
  goOn rest
  referTo mode (Number.digitsValue (first :: more))

/-- An escape outside sets. -/
def termEscape (mode : Mode) (letter : Char) : Read Node := do
  match anchorEscape? mode letter, categoryEscape? letter, controlEscape? letter with
  | some anchor, _, _ => return .anchor anchor
  | none, some item, _ => return .one mode (.set false [item])
  | none, none, some code => return .one mode (.code code)
  | none, none, none =>
    match codeEscape? letter (← get).rest with
    | some result =>
      let (code, rest) ← need result
      goOn rest
      return .one mode (.code code)
    | none =>
      if letter == '0' then return .one mode (.code (← octalEscape letter))
      if letter.isDigit then return ← numberEscape mode letter
      check (!letter.isAlpha)
      return .one mode (.code letter.toNat)

/-! ## Sets -/

/-- The item that a token of a set starts. -/
def setItem : Token → Read SetItem
  | .plain c => return .code c.toNat
  | .escaped c => setEscape c
  | .dangling => fail

/-- The range between two items, which must be code points in order. -/
def rangeOf : SetItem → SetItem → Read SetItem
  | .code low, .code high => do
    check (low ≤ high)
    return .range low high
  | _, _ => fail

/-- The items of a set up to its closing bracket; `done` holds those already read, the last one
first. -/
def setItems : Nat → List SetItem → Read (List SetItem)
  | 0, _ => fail
  | fuel + 1, done => do
    let token ← need (← next)
    if token == .plain ']' && !done.isEmpty then return done.reverse
    let item ← setItem token
    if ← accept '-' then
      let token ← need (← next)
      if token == .plain ']' then return (.code '-'.toNat :: item :: done).reverse
      let range ← rangeOf item (← setItem token)
      setItems fuel (range :: done)
    else setItems fuel (item :: done)

/-- The test of a set: a single code point is tested alone. -/
def testOfSet (negated : Bool) (items : List SetItem) : CharTest :=
  match items.eraseDups with
  | [.code n] => if negated then .notCode n else .code n
  | items => .set negated items

/-- A set whose opening bracket has been taken. -/
def readSet (mode : Mode) : Read Node := do
  let negated ← accept '^'
  let items ← setItems ((← get).rest.length + 1) []
  return .one mode (testOfSet negated items)

/-! ## Repetitions -/

/-- A repetition count in digits; no digits give no count. -/
def countOfDigits (digits : List Char) : Read (Option Nat) := do
  if digits.isEmpty then return none
  if digits.length > Number.digitLimit then throw (.countTooLong digits.length)
  let count := Number.digitsValue digits
  if count ≥ countLimit then throw .countTooLarge
  return some count

/-- The bounds in braces whose opening brace has been taken, or nothing when the braces are plain
characters. -/
def readBounds : Read (Option (Nat × Option Nat)) := do
  let start := (← get).rest
  if start.head? == some (.plain '\x7d') then return none
  let (low, rest) := takeClass Char.isDigit start.length start
  let (high, rest) := match rest with
    | .plain ',' :: rest => takeClass Char.isDigit rest.length rest
    | rest => (low, rest)
  match rest with
  | .plain '\x7d' :: rest =>
    goOn rest
    let _ ← peek
    let least ← countOfDigits low
    let most ← countOfDigits high
    let least := least.getD 0
    check (most.all (least ≤ ·))
    return some (least, most)
  | _ => return none

/-- A member of a sequence: a tree, or the trees of a group that neither captures nor sets modes. -/
inductive Item
  | single (node : Node)
  | bare (nodes : List Node)
  deriving Repr, DecidableEq

/-- The trees of a member. -/
def Item.nodes : Item → List Node
  | .single node => [node]
  | .bare nodes => nodes

/-- Repeats the last member. A place in the text cannot be repeated, nor a repetition. -/
def repeatLast (least : Nat) (most : Option Nat) (done : List Item) : Read (List Item) := do
  match done with
  | [] => fail
  | .single (.anchor _) :: _ => fail
  | .single (.many ..) :: _ => fail
  | item :: done =>
    let greed ← if ← accept '?' then pure Greed.lazy
      else if ← accept '+' then pure Greed.possessive
      else pure Greed.greedy
    modify fun progress => { progress with repeats := true }
    return .single (.many greed least most (.sequence item.nodes)) :: done

/-! ## Alternatives -/

/-- Whether a tree can be told to be equal to another one. -/
def Node.isSimple : Node → Bool
  | .one .. => true
  | .anchor _ => true
  | .same .. => true
  | _ => false

/-- Splits off the trees that all branches start with. -/
def splitCommon : List Node → List (List Node) → List Node × List (List Node)
  | [], others => ([], [] :: others)
  | node :: first, others =>
    if node.isSimple && others.all (·.head? == some node) then
      let (common, branches) := splitCommon first (others.map List.tail)
      (node :: common, branches)
    else ([], (node :: first) :: others)

/-- The items of a branch that is one character of a set. -/
def itemsOfBranch? : List Node → Option (Mode × List SetItem)
  | [.one mode (.code n)] => some (mode, [.code n])
  | [.one mode (.set false items)] => some (mode, items)
  | _ => none

/-- The trees of alternatives: what they start with in common, and then one set where each is one
character of a set. -/
def joinBranches : List (List Node) → List Node
  | [] => []
  | [branch] => branch
  | first :: others =>
    let (common, branches) := splitCommon first others
    common ++
      match branches.mapM itemsOfBranch? with
      | some ((mode, items) :: rest) =>
        [.one mode (.set false ((items :: rest.map (·.2)).flatten.eraseDups))]
      | _ => [.alternatives (branches.map Node.sequence)]

/-! ## The grammar -/

/-- What a parenthesis gives: a member, nothing (a comment), or modes of the whole pattern. -/
inductive Opened
  | item (item : Item)
  | nothing
  | globals (on : List Char)

/-- Skips a comment up to the end of its line. -/
def skipLine : Nat → Read Unit
  | 0 => return ()
  | fuel + 1 => do
    match ← next with
    | none => return ()
    | some token => if token == .plain '\n' then return () else skipLine fuel

/-- Skips a comment up to its closing parenthesis. -/
def skipComment : Nat → Read Unit
  | 0 => fail
  | fuel + 1 => do
    let token ← need (← next)
    if token == .plain ')' then return () else skipComment fuel

/-- Notes that a look-behind was entered or left. -/
def setBehind (behind : Option Nat) : Read Unit :=
  modify fun progress => { progress with behind }

/-- The tree of a look-behind, which takes a fixed number of characters. -/
def lookBehind (negated : Bool) (body : Node) : Read Node := do
  let progress ← get
  let width := body.width progress.widths
  if width.least != width.greatest || width.least > countLimit then
    set { progress with unevenBehind := true }
  return .look (some width.least) negated body

mutual

/-- Alternatives up to a closing parenthesis or the end; `done` holds those already read, the last
one first. -/
def readAlternatives : Nat → Mode → Bool → List (List Node) → Read (List Node)
  | 0, _, _, _ => fail
  | fuel + 1, mode, outermost, done => do
    let branch ← readTerms fuel mode (outermost && done.isEmpty) []
    if ← accept '|' then
      let progress ← get
      let mode := if outermost then progress.globals.mode else mode
      readAlternatives fuel mode outermost (branch :: done)
    else return joinBranches (branch :: done).reverse

/-- A sequence; `done` holds the members already read, the last one first. Modes of the whole
pattern may stand only at its front, before any member. -/
def readTerms : Nat → Mode → Bool → List Item → Read (List Node)
  | 0, _, _, _ => fail
  | fuel + 1, mode, atFront, done => do
    match ← peek with
    | none => return done.reverse.flatMap Item.nodes
    | some (.plain '|') => return done.reverse.flatMap Item.nodes
    | some (.plain ')') => return done.reverse.flatMap Item.nodes
    | some .dangling => fail
    | some (.escaped c) =>
      goOn (← get).rest.tail
      readTerms fuel mode atFront (.single (← termEscape mode c) :: done)
    | some (.plain c) =>
      goOn (← get).rest.tail
      if mode.verbose && Text.isAsciiBlank c then readTerms fuel mode atFront done
      else if mode.verbose && c == '#' then
        skipLine ((← get).rest.length + 1)
        readTerms fuel mode atFront done
      else match c with
        | '.' => readTerms fuel mode atFront (.single (.one mode .any) :: done)
        | '^' =>
          let anchor := if mode.multiline then .lineStart else .textStart
          readTerms fuel mode atFront (.single (.anchor anchor) :: done)
        | '$' =>
          let anchor := if mode.multiline then .lineEnd else .lastLineEnd
          readTerms fuel mode atFront (.single (.anchor anchor) :: done)
        | '[' => readTerms fuel mode atFront (.single (← readSet mode) :: done)
        | '*' => readTerms fuel mode atFront (← repeatLast 0 none done)
        | '+' => readTerms fuel mode atFront (← repeatLast 1 none done)
        | '?' => readTerms fuel mode atFront (← repeatLast 0 (some 1) done)
        | '\x7b' =>
          match ← readBounds with
          | some (least, most) => readTerms fuel mode atFront (← repeatLast least most done)
          | none => readTerms fuel mode atFront (.single (.one mode (.code c.toNat)) :: done)
        | '(' =>
          match ← readGroup fuel mode with
          | .item item => readTerms fuel mode atFront (item :: done)
          | .nothing => readTerms fuel mode atFront done
          | .globals on =>
            let mode ← setGlobals on
            check (atFront && done.isEmpty)
            readTerms fuel mode atFront done
        | c => readTerms fuel mode atFront (.single (.one mode (.code c.toNat)) :: done)

/-- A group whose opening parenthesis has been taken. -/
def readGroup : Nat → Mode → Read Opened
  | 0, _ => fail
  | fuel + 1, mode => do
    if !(← accept '?') then return .item (← readCapture fuel mode none)
    match ← next with
    | some (.plain 'P') =>
      if ← accept '<' then
        let name ← nameUntil '>'
        check (Text.isIdentifier name)
        return .item (← readCapture fuel mode (some name))
      else
        check (← accept '=')
        let name ← nameUntil ')'
        check (Text.isIdentifier name)
        let group ← need ((← get).names.lookup name)
        return .item (.single (← referTo mode group))
    | some (.plain ':') =>
      enter 2
      let nodes ← readAlternatives fuel mode false []
      close 2
      return .item (.bare nodes)
    | some (.plain '#') =>
      skipComment ((← get).rest.length + 1)
      return .nothing
    | some (.plain '=') => return .item (← readLook fuel mode false)
    | some (.plain '!') => return .item (← readLook fuel mode true)
    | some (.plain '<') =>
      match ← next with
      | some (.plain '=') => return .item (← readLookBehind fuel mode false)
      | some (.plain '!') => return .item (← readLookBehind fuel mode true)
      | _ => fail
    | some (.plain '(') => return .item (← readCondition fuel mode)
    | some (.plain '>') =>
      enter 2
      let nodes ← readAlternatives fuel mode false []
      close 2
      return .item (.single (.atomic (.sequence nodes)))
    | some (.plain c) =>
      check (isModeLetter c || c == '-')
      match ← readModes c with
      | .whole on => return .globals on
      | .group on off =>
        enter 2
        let nodes ← readAlternatives fuel (mode.adjust on off) false []
        close 2
        return .item (.single (.seq .empty (.sequence nodes)))
    | _ => fail

/-- A group that captures. -/
def readCapture : Nat → Mode → Option (List Char) → Read Item
  | 0, _, _ => fail
  | fuel + 1, mode, name => do
    let group ← openGroup name
    enter 2
    let nodes ← readAlternatives fuel mode false []
    close 2
    closeGroup group (.sequence nodes)
    return .single (.capture group (.sequence nodes))

/-- A condition on what follows. -/
def readLook : Nat → Mode → Bool → Read Item
  | 0, _, _ => fail
  | fuel + 1, mode, negated => do
    enter 2
    let nodes ← readAlternatives fuel mode false []
    close 2
    return .single (.look none negated (.sequence nodes))

/-- A condition on what came before. -/
def readLookBehind : Nat → Mode → Bool → Read Item
  | 0, _, _ => fail
  | fuel + 1, mode, negated => do
    let progress ← get
    setBehind (progress.behind.orElse fun _ => some progress.nextGroup)
    enter 2
    let nodes ← readAlternatives fuel mode false []
    setBehind progress.behind
    close 2
    return .single (← lookBehind negated (.sequence nodes))

/-- A choice by whether a group is set. -/
def readCondition : Nat → Mode → Read Item
  | 0, _ => fail
  | fuel + 1, mode => do
    let group ← askedGroup (← nameUntil ')')
    checkBehind group
    enter 1
    let ifSet ← readTerms fuel mode false []
    let ifUnset ← if ← accept '|' then readTerms fuel mode false [] else pure []
    close 1
    return .single (.choose group (.sequence ifSet) (.sequence ifUnset))

end

/-- The tree of a pattern. -/
def readPattern (pattern : List Char) : Except ReadFault Node := do
  let tokens := tokensOf pattern
  let (nodes, progress) ←
    (readAlternatives (4 * tokens.length + 4) .start true []).run (Progress.start tokens)
  if progress.globals.ascii && progress.globals.unicode then throw .clashingModes
  if !progress.rest.isEmpty then throw .malformed
  if progress.asked.any (progress.nextGroup ≤ ·) then throw .malformed
  if progress.unevenBehind || (progress.globals.template && progress.repeats) then
    throw .malformed
  return .sequence nodes

/-- Whether a pattern takes a whole text. -/
def matchesPattern (pattern text : List Char) : Except ReadFault Bool :=
  match readPattern pattern with
  | .ok node => .ok (matchesWhole node text)
  | .error .malformed => .ok false
  | .error fault => .error fault

end ServiceRegistry.Pattern
