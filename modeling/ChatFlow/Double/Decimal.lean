import ChatFlow.Double.Basic
import ChatFlow.Text.Basic

/-!
# Decimal text of doubles

Writing takes the fewest digits that read back to the same double, of those the nearest, and of two
equally near ones the even. Reading a decimal is one exact quotient and one rounding.

* `Double.ofDecimal`: the nearest double to `digits · 10^exponent`.
* `Magnitude.shortest`: the digits that are written.
* `Double.toText`: positional when the first digit stands for 10⁻⁴ to 10¹⁵, else with an exponent.
* `Double.roundPlaces`, `Double.fixedText`: a fixed number of decimal places, ties to even.
-/

namespace ChatFlow

namespace Double

/-- How many decimal digits a number has; zero has one. -/
def digitCount (n : Nat) : Nat := (toString n).length

/-- The nearest double to `digits · 10^exponent`. Numbers of more than 310 digits before the point
are infinite, and those that begin after more than 330 zeros are zero. -/
def ofDecimal (negative : Bool) (digits : Nat) (exponent : Int) : Double :=
  if digits = 0 then signedZero negative
  else
    let scale := (digitCount digits : Int) + exponent
    if 310 < scale then infinite negative
    else if scale < -330 then signedZero negative
    else ofQuanta negative (digits * Nat.pow 10 exponent.toNat * unit) (Nat.pow 10 (-exponent).toNat)

end Double

/-- A non-negative decimal `digits · 10^exponent`. -/
structure Decimal where
  digits : Nat
  exponent : Int
deriving DecidableEq, Repr

namespace Decimal

/-- Takes trailing zeros out of the digits; `fuel` bounds their number. -/
def stripZeros : (fuel : Nat) → Decimal → Decimal
  | fuel + 1, d =>
    if d.digits ≠ 0 ∧ d.digits % 10 = 0 then stripZeros fuel ⟨d.digits / 10, d.exponent + 1⟩ else d
  | 0, d => d

end Decimal

namespace Magnitude

/-- Is the magnitude less than `10^k`? -/
def belowPowerOfTen (m : Magnitude) (k : Int) : Bool :=
  m.quanta * Nat.pow 10 (-k).toNat < Double.unit * Nat.pow 10 k.toNat

/-- The least `k` such that the magnitude, which is not zero, is less than `10^k`. The binary
logarithm gives it up to one, so that five candidates are enough. -/
def decimalScale (m : Magnitude) : Int :=
  let estimate := Int.fdiv (((m.quanta.log2 : Int) - 1074) * 30103) 100000
  ((List.range 5).map fun (i : Nat) => estimate - 1 + (i : Int)).find? m.belowPowerOfTen |>.getD estimate

/-- The quotient of the magnitude by `10^g`, as numerator and denominator. -/
def overPowerOfTen (m : Magnitude) (g : Int) : Nat × Nat :=
  (m.quanta * Nat.pow 10 (-g).toNat, Double.unit * Nat.pow 10 g.toNat)

/-- Does a decimal read back to the magnitude? -/
def readsBack (m : Magnitude) (d : Decimal) : Bool :=
  Double.ofDecimal false d.digits d.exponent = .finite false m

/-- The decimal of `n` digits nearest to the magnitude among those that read back, if there is one:
on the grid of `n` digits only the two neighbours of the magnitude can. -/
def shortestOf? (m : Magnitude) (n : Nat) : Option Decimal :=
  let g := m.decimalScale - n
  let (num, den) := m.overPowerOfTen g
  let below : Decimal := ⟨num / den, g⟩
  let above : Decimal := ⟨num / den + 1, g⟩
  match m.readsBack below, m.readsBack above with
  | true, true => some ⟨roundHalfEven num den, g⟩
  | true, false => some below
  | false, true => some above
  | false, false => none

/-- The decimal of the fewest digits that reads back to the magnitude. Seventeen digits always do;
the exact value stands behind them. -/
def shortest (m : Magnitude) : Decimal :=
  let exact : Decimal := ⟨m.quanta * Nat.pow 5 1074, -1074⟩
  let found := ((List.range 17).findSome? fun n => m.shortestOf? (n + 1)).getD exact
  found.stripZeros (Double.digitCount found.digits)

end Magnitude

namespace Double

/-- A sign before a text. -/
def signed (negative : Bool) (t : Text) : Text := if negative then "-" ++ t else t

/-- The exponent of a number written with one: a sign and at least two digits. -/
def exponentText (e : Int) : Text :=
  "e" ++ (if e < 0 then ("-" : Text) else "+") ++ Text.padded 2 e.natAbs

/-- Digits with a point after the first, which is left out behind a single digit. -/
def scientificDigits : Text → Text
  | [] => []
  | [d] => [d]
  | d :: ds => d :: .scalar '.' :: ds

/-- The text of a decimal: positional for first digits from 10⁻⁴ to 10¹⁵, with at least one digit
after the point, and with an exponent otherwise. -/
def decimalText (d : Decimal) : Text :=
  let digits := Text.ofNat d.digits
  let count := digits.length
  let point := (count : Int) + d.exponent
  let zeros (n : Nat) : Text := List.replicate n (.scalar '0')
  if point < -3 ∨ 16 < point then scientificDigits digits ++ exponentText (point - 1)
  else if point ≤ 0 then "0." ++ zeros (-point).toNat ++ digits
  else if count ≤ point.toNat then digits ++ zeros (point.toNat - count) ++ ".0"
  else digits.take point.toNat ++ "." ++ digits.drop point.toNat

/-- The text of a double: the fewest digits that read back. -/
def toText : Double → Text
  | nan => "nan"
  | infinite s => signed s "inf"
  | finite s m => signed s (if m.quanta = 0 then "0.0" else decimalText m.shortest)

/-- The magnitude in units of `10^(-places)`, rounded to the nearest whole number. -/
def scaled (m : Magnitude) (places : Nat) : Nat := roundHalfEven (m.quanta * Nat.pow 10 places) unit

/-- The double nearest to the number rounded to a number of decimal places. -/
def roundPlaces (places : Nat) : Double → Double
  | finite s m => ofDecimal s (scaled m places) (-(places : Int))
  | x => x

/-- A natural number with a point before its last `places` digits. -/
def pointText (places n : Nat) : Text :=
  let digits := Text.padded (places + 1) n
  let whole := digits.length - places
  if places = 0 then digits else digits.take whole ++ "." ++ digits.drop whole

/-- The text of a double with a fixed number of decimal places. -/
def fixedText (places : Nat) : Double → Text
  | nan => "nan"
  | infinite s => signed s "inf"
  | finite s m => signed s (pointText places (scaled m places))

end Double

end ChatFlow
