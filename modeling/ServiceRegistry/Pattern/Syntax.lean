/-!
# Patterns

The tree of a pattern. Modes are resolved while a pattern is read, so that each test of a
character carries the mode in force where it stands.

Results:

* `Node`: the trees.
* `Node.width`: the least and greatest number of characters that a tree takes.
-/

namespace ServiceRegistry.Pattern

/-- The modes in force at a place of a pattern. -/
structure Mode where
  ignoreCase : Bool
  multiline : Bool
  dotAll : Bool
  verbose : Bool
  ascii : Bool
  deriving Repr, DecidableEq

/-- The mode in which patterns are read: letter case is disregarded and all else is off. -/
def Mode.start : Mode := ⟨true, false, false, false, false⟩

/-- The kinds of characters with an escape of their own. -/
inductive Category
  | digit
  | blank
  | word
  deriving Repr, DecidableEq

/-- An item of a set: a code point, a closed range of them, or a kind of characters. -/
inductive SetItem
  | code (n : Nat)
  | range (low high : Nat)
  | category (kind : Category) (negated : Bool)
  deriving Repr, DecidableEq

/-- A test of one character. -/
inductive CharTest
  | any
  | code (n : Nat)
  | notCode (n : Nat)
  | set (negated : Bool) (items : List SetItem)
  deriving Repr, DecidableEq

/-- A condition on a place in the text. -/
inductive Anchor
  | textStart
  | lineStart
  | textEnd
  | lastLineEnd
  | lineEnd
  | boundary (ascii : Bool)
  | noBoundary (ascii : Bool)
  deriving Repr, DecidableEq

/-- How many repetitions are tried: many first, few first, or as many as there are and no other
number. -/
inductive Greed
  | greedy
  | lazy
  | possessive
  deriving Repr, DecidableEq

/-- A pattern tree. -/
inductive Node
  | empty
  | one (mode : Mode) (test : CharTest)
  | anchor (anchor : Anchor)
  | seq (first second : Node)
  | alt (first second : Node)
  | capture (group : Nat) (body : Node)
  | same (mode : Mode) (group : Nat)
  | look (behind : Option Nat) (negated : Bool) (body : Node)
  | atomic (body : Node)
  | choose (group : Nat) (ifSet ifUnset : Node)
  | many (greed : Greed) (least : Nat) (most : Option Nat) (body : Node)
  deriving Repr, DecidableEq

/-- The tree of some trees one after the other. -/
def Node.sequence : List Node → Node
  | [] => .empty
  | [node] => node
  | node :: rest => .seq node (Node.sequence rest)

/-- The tree of alternatives. -/
def Node.alternatives : List Node → Node
  | [] => .empty
  | [node] => node
  | node :: rest => .alt node (Node.alternatives rest)

/-! ## Widths -/

/-- The least and the greatest number of characters. -/
structure Width where
  least : Nat
  greatest : Nat
  deriving Repr, DecidableEq

/-- Widths are counted up to this bound. -/
def widthLimit : Nat := 0x10000000000000000

/-- The bound that repetition counts stay below. -/
def countLimit : Nat := 0xFFFFFFFF

/-- A width with both ends cut at the limit. -/
def Width.cut (width : Width) : Width :=
  ⟨min width.least widthLimit, min width.greatest widthLimit⟩

/-- The width of a tree, by the widths of the groups that it refers to. -/
def Node.width (groups : List (Nat × Width)) : Node → Width
  | .empty => ⟨0, 0⟩
  | .one .. => ⟨1, 1⟩
  | .anchor _ => ⟨0, 0⟩
  | .seq first second =>
    let a := first.width groups
    let b := second.width groups
    Width.cut ⟨a.least + b.least, a.greatest + b.greatest⟩
  | .alt first second =>
    let a := first.width groups
    let b := second.width groups
    ⟨min a.least b.least, max a.greatest b.greatest⟩
  | .capture _ body => body.width groups
  | .same _ group => (groups.lookup group).getD ⟨0, 0⟩
  | .look .. => ⟨0, 0⟩
  | .atomic body => body.width groups
  | .choose _ ifSet ifUnset =>
    let a := ifSet.width groups
    let b := ifUnset.width groups
    ⟨min a.least b.least, max a.greatest b.greatest⟩
  | .many _ least most body =>
    let a := body.width groups
    let greatest := match most with
      | some most => a.greatest * most
      | none => if a.greatest = 0 then 0 else widthLimit
    Width.cut ⟨a.least * least, greatest⟩

end ServiceRegistry.Pattern
