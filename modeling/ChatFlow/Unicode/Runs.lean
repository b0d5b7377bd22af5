import ChatFlow.Text.Basic

/-!
# Tables of code points

A property of code points is stored as the lengths of the runs outside and inside it, taken in turn
from U+0000 on. Tables are written as hexadecimal words between blanks and line ends, so that a long one
stays short to read in.

* `Runs.contains`: membership, by walking the runs.
* `Hex.words`: the numbers of a table's text; a leading minus sign makes one negative.
-/

namespace ChatFlow.Unicode

namespace Hex

/-- The value of a lower-case hexadecimal digit; any other character counts as zero. -/
def digit (c : Char) : Nat :=
  if '0' ≤ c ∧ c ≤ '9' then c.toNat - '0'.toNat
  else if 'a' ≤ c ∧ c ≤ 'f' then c.toNat - 'a'.toNat + 10
  else 0

/-- Collects words: `negative` and `value` belong to the word being read, if `open` says so. -/
def wordsAux : (inWord negative : Bool) → (value : Nat) → List Char → List Int
  | inWord, negative, value, [] => if inWord then [if negative then -value else value] else []
  | inWord, negative, value, c :: r =>
    if c = ' ' ∨ c = '\n' then
      if inWord then (if negative then -value else value) :: wordsAux false false 0 r
      else wordsAux false false 0 r
    else if c = '-' then wordsAux true true 0 r
    else wordsAux true negative (value * 16 + digit c) r

/-- The numbers written in a table's text. -/
def words (s : String) : List Int := wordsAux false false 0 s.toList

/-- The numbers written in a table's text when none is negative. -/
def naturals (s : String) : List Nat := (words s).map Int.toNat

end Hex

/-- A set of code points as the lengths of its runs, the first one outside. -/
structure Runs where
  lengths : List Nat

namespace Runs

/-- Walks the runs; `inside` tells what the current one is. -/
def containsAux : (inside : Bool) → List Nat → Nat → Bool
  | _, [], _ => false
  | inside, length :: rest, n =>
    if n < length then inside else containsAux (!inside) rest (n - length)

/-- Is `n` the number of a code point of the set? -/
def contains (s : Runs) (n : Nat) : Bool := containsAux false s.lengths n

/-- The set written in a table's text. -/
def ofHex (s : String) : Runs := ⟨Hex.naturals s⟩

end Runs

end ChatFlow.Unicode
