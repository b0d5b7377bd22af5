import ChatFlow.Double.Arithmetic

/-!
# Powers of doubles

Powers of finite numbers are those of the machine, with two rules of their own: a zero to a negative power
is positive infinity, and a negative number to a fractional power is not-a-number unless its magnitude
overflows. Powers with NaN or an infinity are settled by rules.

* `Double.toFloat`, `Double.ofFloat`: doubles of the machine and back.
* `Double.finitePower`: the power of finite numbers.
* `Double.power`: the power.
-/

namespace ChatFlow.Double

/-- The bits of a finite magnitude: exponent and fraction. -/
def magnitudeBits (m : Magnitude) : Nat :=
  if m.quanta < Nat.pow 2 52 then m.quanta
  else
    let shift := Magnitude.shiftOf m.quanta
    (shift + 1) * Nat.pow 2 52 + (m.quanta / Nat.pow 2 shift - Nat.pow 2 52)

/-- The bit of a negative sign. -/
def signBit (negative : Bool) : Nat := if negative then Nat.pow 2 63 else 0

/-- The number as the machine holds it. -/
def toFloat : Double → Float
  | nan => 0.0 / 0.0
  | infinite s => Float.ofBits (UInt64.ofNat (signBit s + 2047 * Nat.pow 2 52))
  | finite s m => Float.ofBits (UInt64.ofNat (signBit s + magnitudeBits m))

/-- The number that the machine holds. -/
def ofFloat (x : Float) : Double :=
  let bits := x.toBits.toNat
  let negative := Nat.pow 2 63 ≤ bits
  let exponent := bits / Nat.pow 2 52 % 2048
  let fraction := bits % Nat.pow 2 52
  if exponent = 2047 then if fraction = 0 then infinite negative else nan
  else if exponent = 0 then ofQuanta negative fraction 1
  else ofQuanta negative ((Nat.pow 2 52 + fraction) * Nat.pow 2 (exponent - 1)) 1

/-- The number without its sign. -/
def abs : Double → Double
  | nan => nan
  | infinite _ => infinite false
  | finite _ m => finite false m

/-- Is it an odd whole number? -/
def isOdd : Double → Bool
  | finite _ m => m.quanta % (2 * unit) == unit
  | _ => false

/-- The power of the machine. -/
def machinePower (x y : Double) : Double := ofFloat (Float.pow x.toFloat y.toFloat)

/-- The power of a finite number to a finite exponent. -/
def finitePower (x y : Double) : Double :=
  if x.isZero && lt y 0 then infinity
  else if lt x 0 && !y.isIntegral then
    if (machinePower x.abs y).isInfinite then infinity else nan
  else machinePower x y

/-- The power of `x` to `y`. A zeroth power and a power of one are one, also for NaN. -/
def power (x y : Double) : Double :=
  if y.isZero || eq x 1 then 1
  else
    match x, y with
    | nan, _ => nan
    | _, nan => nan
    | _, infinite s => if eq x.abs 1 then 1 else if lt x.abs 1 == s then infinity else 0
    | infinite s, _ =>
      let magnitude : Double := if lt y 0 then 0 else infinity
      if s && y.isOdd then magnitude.neg else magnitude
    | _, _ => finitePower x y

end ChatFlow.Double
