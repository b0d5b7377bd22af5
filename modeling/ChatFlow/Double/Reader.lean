import ChatFlow.Double.Decimal
import ChatFlow.Fault
import ChatFlow.Unicode.Classes

/-!
# Reading numbers from text

A number is read loosely: decimal digits of any script count, blanks around it are ignored, and a
single low line may stand between two digits. A real number is a sign and either digits with an
optional point and exponent, or a word for infinity or for no number.

* `Text.toDouble?`: the double that a text writes.
* `Text.toInteger?`: the integer that a text writes.
* `Text.leadingInteger`: the integer that a text begins with.
-/

namespace ChatFlow

/-- One character of a number: a digit, or another ASCII character in lower case. -/
inductive NumeralMark where
  | digit (value : Nat)
  | other (c : Char)
deriving DecidableEq

namespace NumeralMark

/-- The mark of a code point, if it can occur in a number at all. -/
def ofCodePoint? (c : CodePoint) : Option NumeralMark :=
  match c.decimal?, c with
  | some d, _ => some (.digit d)
  | none, .scalar ch => if ch.toNat < 128 then some (.other ch.toLower) else none
  | none, .surrogate _ => none

/-- Takes out the low lines, each of which has to stand between two digits. -/
def joinGroups? : (afterDigit : Bool) → List NumeralMark → Option (List NumeralMark)
  | _, [] => some []
  | afterDigit, .other '_' :: r =>
    match r with
    | .digit d :: r' => if afterDigit then (joinGroups? true r').map (.digit d :: ·) else none
    | _ => none
  | _, .digit d :: r => (joinGroups? true r).map (.digit d :: ·)
  | _, .other c :: r => (joinGroups? false r).map (.other c :: ·)

/-- The leading digits: their number, their value, and what follows them. -/
def digits : (count value : Nat) → List NumeralMark → Nat × Nat × List NumeralMark
  | count, value, .digit d :: r => digits (count + 1) (value * 10 + d) r
  | count, value, r => (count, value, r)

/-- A leading sign: is it a minus, and what follows it. -/
def sign : List NumeralMark → Bool × List NumeralMark
  | .other '-' :: r => (true, r)
  | .other '+' :: r => (false, r)
  | r => (false, r)

/-- An exponent up to the end; nothing at all stands for zero. -/
def exponent? : List NumeralMark → Option Int
  | [] => some 0
  | .other 'e' :: r =>
    let (negative, r) := sign r
    match digits 0 0 r with
    | (count, value, []) => if count = 0 then none else some (if negative then -(value : Int) else value)
    | _ => none
  | _ => none

/-- The marks of a text without the blanks around it, if all of them can occur in a number. -/
def ofText? (t : Text) : Option (List NumeralMark) :=
  (t.trim.mapM ofCodePoint?).bind (joinGroups? false)

/-- Is it one of the words for infinity? -/
def isInfinityWord (r : List NumeralMark) : Bool :=
  r == "inf".toList.map .other || r == "infinity".toList.map .other

/-- The double of an unsigned number. -/
def double? (negative : Bool) (r : List NumeralMark) : Option Double :=
  if isInfinityWord r then some (.infinite negative)
  else if r = "nan".toList.map .other then some .nan
  else
    let (wholeCount, whole, r) := digits 0 0 r
    let (fractionCount, value, r) :=
      match r with
      | .other '.' :: r => digits 0 whole r
      | r => (0, whole, r)
    if wholeCount + fractionCount = 0 then none
    else (exponent? r).map fun e => Double.ofDecimal negative value (e - fractionCount)

end NumeralMark

namespace Text

/-- The double that a text writes, if it writes one. -/
def toDouble? (t : Text) : Option Double := do
  let marks ← NumeralMark.ofText? t
  let (negative, marks) := NumeralMark.sign marks
  NumeralMark.double? negative marks

/-- The integer that a text writes, if it writes one. -/
def toInteger? (t : Text) : Option Int := do
  let marks ← NumeralMark.ofText? t
  let (negative, marks) := NumeralMark.sign marks
  match NumeralMark.digits 0 0 marks with
  | (count, value, []) =>
    if count = 0 ∨ maxIntegerDigits < count then none
    else some (if negative then -(value : Int) else value)
  | _ => none

/-- The number that decimal digits write, of which there may not be too many. -/
def decimalNumber (ds : Text) : Except Fault Nat :=
  if maxIntegerDigits < ds.length then .error .integerTooLong
  else .ok (ds.foldl (fun n c => n * 10 + c.decimal?.getD 0) 0)

/-- The integer at the beginning of a text, after blanks: an optional sign and decimal digits, of
which there may not be too many. -/
def leadingInteger (t : Text) : Except Fault (Option Int) :=
  let t := t.dropWhile CodePoint.isBlank
  let (negative, t) :=
    match t with
    | .scalar '-' :: r => (true, r)
    | .scalar '+' :: r => (false, r)
    | _ => (false, t)
  match t.takeWhile CodePoint.isDecimal with
  | [] => .ok none
  | ds => (decimalNumber ds).map fun n => some (if negative then -(n : Int) else n)

end Text

end ChatFlow
