import ChatFlow.Text.Basic

/-!
# Patterns

The syntax tree of regular expressions with captures, back references, look-around and ordered
choice. Flags stand on the parts that they concern, so that the matcher needs none of its own.

* `Pattern.width`: the least and the greatest length of the texts that a pattern matches.
-/

namespace ChatFlow

/-- The kinds of characters that have an escape of their own. -/
inductive CharKind where
  | digit
  | blank
  | word
deriving DecidableEq, Repr

/-- An item of a character set. -/
inductive SetItem where
  | range (first last : Nat)
  | kind (kind : CharKind) (negated : Bool)
deriving DecidableEq, Repr

/-- How single characters are compared: without regard to case, and with ASCII classes only. -/
structure CharMode where
  ignoreCase : Bool
  ascii : Bool
deriving DecidableEq, Repr

/-- A place in a text that an anchor asks for. -/
inductive Anchor where
  | textStart
  | textEnd
  /-- The end of the text, also before a line end that closes it. -/
  | lastLineEnd
  | lineStart
  | lineEnd
  | wordEdge (ascii : Bool)
  | noWordEdge (ascii : Bool)
deriving DecidableEq, Repr

/-- Which number of repetitions is tried first, and whether others are tried at all. -/
inductive Greed where
  | greedy
  | lazy
  | possessive
deriving DecidableEq, Repr

/-- A regular expression. -/
inductive Pattern where
  | empty
  /-- Any character; line ends only if `lineEnds`. -/
  | any (lineEnds : Bool)
  | point (mode : CharMode) (negated : Bool) (c : CodePoint)
  | set (mode : CharMode) (negated : Bool) (items : List SetItem)
  | anchor (a : Anchor)
  | seq (p q : Pattern)
  | alt (p q : Pattern)
  | group (index : Nat) (p : Pattern)
  | backReference (ignoreCase : Bool) (index : Nat)
  | loop (greed : Greed) (min : Nat) (max : Option Nat) (p : Pattern)
  | ahead (negated : Bool) (p : Pattern)
  /-- Looks at the `width` characters before. -/
  | behind (negated : Bool) (width : Nat) (p : Pattern)
  /-- Matches as `p` does first, and is not tried again. -/
  | atomic (p : Pattern)
  | ifGroup (index : Nat) (yes no : Pattern)
deriving Repr, Inhabited

namespace Pattern

/-- The width that stands for all that are at least as great. -/
def maxWidth : Nat := Nat.pow 2 64

/-- The least and the greatest width of a pattern, given those of the groups before it. -/
def width (groups : Nat → Nat × Nat) : Pattern → Nat × Nat
  | empty => (0, 0)
  | any _ => (1, 1)
  | point .. => (1, 1)
  | set .. => (1, 1)
  | anchor _ => (0, 0)
  | seq p q =>
    let (a, b) := width groups p
    let (c, d) := width groups q
    (Nat.min (a + c) maxWidth, Nat.min (b + d) maxWidth)
  | alt p q =>
    let (a, b) := width groups p
    let (c, d) := width groups q
    (Nat.min a c, Nat.max b d)
  | group _ p => width groups p
  | backReference _ i => groups i
  | loop _ min max p =>
    let (a, b) := width groups p
    let high :=
      match max with
      | some n => b * n
      | none => if b = 0 then 0 else maxWidth
    (Nat.min (a * min) maxWidth, Nat.min high maxWidth)
  | ahead .. => (0, 0)
  | behind .. => (0, 0)
  | atomic p => width groups p
  | ifGroup _ p q =>
    let (a, b) := width groups p
    let (c, d) := width groups q
    (Nat.min a c, Nat.max b d)

end Pattern

end ChatFlow
