import ChatFlow.Double.Basic

/-!
# Arithmetic of doubles

Each operation is exact on the quanta and then rounded once. Division and remainder are partial:
`div` and its kin are for divisors that are not zero, which their callers check.

* `Double.lt`, `Double.le`, `Double.eq`: comparison by value; no comparison with NaN holds.
* `Double.fmod`: the remainder with the sign of the dividend, which is always exact.
* `Double.floorDiv`, `Double.floorMod`: quotient rounded down, remainder with the divisor's sign.
-/

namespace ChatFlow.Double

/-- The double with the other sign. -/
def neg : Double → Double
  | nan => nan
  | infinite s => infinite (!s)
  | finite s m => finite (!s) m

/-- The nearest double to a signed number of quanta; an exact zero takes the sign `zeroSign`. -/
def ofSignedQuanta (zeroSign : Bool) (q : Int) : Double :=
  if q = 0 then signedZero zeroSign else ofQuanta (q < 0) q.natAbs 1

/-- The sum. Opposite infinities have none; the sum of two negative zeros is negative. -/
def add : Double → Double → Double
  | nan, _ => nan
  | _, nan => nan
  | infinite s, infinite t => if s = t then infinite s else nan
  | infinite s, finite .. => infinite s
  | finite .., infinite t => infinite t
  | finite s m, finite t n =>
    let signed (negative : Bool) (q : Nat) : Int := if negative then -(q : Int) else q
    ofSignedQuanta (s && t) (signed s m.quanta + signed t n.quanta)

/-- The difference. -/
def sub (x y : Double) : Double := add x (neg y)

/-- The product. Zero times infinity is none. -/
def mul : Double → Double → Double
  | nan, _ => nan
  | _, nan => nan
  | infinite s, infinite t => infinite (s != t)
  | infinite s, finite t n => if n.quanta = 0 then nan else infinite (s != t)
  | finite s m, infinite t => if m.quanta = 0 then nan else infinite (s != t)
  | finite s m, finite t n => ofQuanta (s != t) (m.quanta * n.quanta) unit

/-- The quotient by a divisor that is not zero. -/
def div : Double → Double → Double
  | nan, _ => nan
  | _, nan => nan
  | infinite _, infinite _ => nan
  | infinite s, finite t _ => infinite (s != t)
  | finite s _, infinite t => signedZero (s != t)
  | finite s m, finite t n => ofQuanta (s != t) (m.quanta * unit) n.quanta

/-- The remainder of the division by a number that is not zero, the quotient cut toward zero. It has
the sign of the dividend. -/
def fmod : Double → Double → Double
  | nan, _ => nan
  | _, nan => nan
  | infinite _, _ => nan
  | finite s m, infinite _ => finite s m
  | finite s m, finite _ n => ofQuanta s (m.quanta % n.quanta) 1

/-- Less by value. -/
def lt : Double → Double → Bool
  | nan, _ => false
  | _, nan => false
  | infinite s, infinite t => s && !t
  | infinite s, finite .. => s
  | finite .., infinite t => !t
  | x@(finite ..), y@(finite ..) => x.quanta?.getD 0 < y.quanta?.getD 0

/-- Equal by value; the two zeros are equal. -/
def eq : Double → Double → Bool
  | nan, _ => false
  | _, nan => false
  | infinite s, infinite t => s == t
  | infinite _, finite .. => false
  | finite .., infinite _ => false
  | x@(finite ..), y@(finite ..) => x.quanta?.getD 0 == y.quanta?.getD 0

/-- Less or equal by value. -/
def le (x y : Double) : Bool := lt x y || eq x y

/-- Compares a double that is not NaN with an integer, by value. -/
def compareInt? (x : Double) (n : Int) : Option Ordering :=
  match x with
  | nan => none
  | infinite s => some (if s then .lt else .gt)
  | finite .. => some (compare (x.quanta?.getD 0) (n * unit))

/-- The whole number below or at `x`, as a double. -/
def floor (x : Double) : Double :=
  match x with
  | finite s m => if m.quanta % unit = 0 then finite s m else ofInt (x.floor?.getD 0)
  | _ => x

/-- The remainder of the division rounded down: it has the sign of the divisor, also when zero. -/
def floorMod (x y : Double) : Double :=
  let r := fmod x y
  if r.isNaN then r
  else if r.isZero then signedZero y.isNegative
  else if y.isNegative != r.isNegative then add r y
  else r

/-- The quotient rounded down, by a divisor that is not zero. The quotient is taken of the part of
`x` that `y` divides exactly, so that rounding cannot push it over a whole number. -/
def floorDiv (x y : Double) : Double :=
  let r := fmod x y
  let q := div (sub x r) y
  let q := if !r.isNaN && !r.isZero && y.isNegative != r.isNegative then sub q 1 else q
  if q.isNaN then q
  else if q.isZero then signedZero (div x y).isNegative
  else
    let f := floor q
    if lt (ofRatio 1 2) (sub q f) then add f 1 else f

/-- The lesser of two numbers, the first one unless the second is less. -/
def min (x y : Double) : Double := if lt y x then y else x

/-- The greater of two numbers, the first one unless the second is greater. -/
def max (x y : Double) : Double := if lt x y then y else x

end ChatFlow.Double
