/-!
# Double-precision numbers

A finite double is a sign and a whole number of quanta of 2⁻¹⁰⁷⁴, the least positive double. Its
quanta have at most 53 significant bits. Every operation on doubles is the exact operation followed
by one rounding, so rounding a quotient of naturals is the only primitive here.

* `Magnitude.round`: the nearest magnitude to a quotient, ties to the even neighbour.
* `Double.ofRatio`: the nearest double to a quotient; too large ones become infinite.
-/

namespace ChatFlow

/-- The nearest natural number to `num / den`, a half to the even neighbour. -/
def roundHalfEven (num den : Nat) : Nat :=
  let q := num / den
  let twice := 2 * (num % den)
  if twice < den then q
  else if den < twice then q + 1
  else if q % 2 = 0 then q
  else q + 1

/-- The position of the leading bit of an infinite double's magnitude, in quanta. -/
def overflowBit : Nat := 2098

/-- A magnitude of a finite double, counted in quanta of 2⁻¹⁰⁷⁴. -/
structure Magnitude where
  quanta : Nat
  /-- At most 53 significant bits. -/
  representable : ∃ m s, m ≤ Nat.pow 2 53 ∧ quanta = m * Nat.pow 2 s
  /-- Below the overflow threshold. -/
  bounded : quanta < Nat.pow 2 overflowBit
deriving DecidableEq

/-- How far the last significant bit of `q` quanta lies above one quantum. -/
def Magnitude.shiftOf (q : Nat) : Nat := q.log2 - 52

/-- `num / den` rounded to 53 significant bits, not finer than one quantum. -/
def Magnitude.roundQuanta (num den : Nat) : Nat :=
  let s := shiftOf (num / den)
  roundHalfEven num (den * Nat.pow 2 s) * Nat.pow 2 s

namespace Magnitude

theorem two_pow_pos (n : Nat) : 0 < Nat.pow 2 n := by
  rw [Nat.pow_eq]
  exact Nat.two_pow_pos n

instance : Inhabited Magnitude := ⟨0, ⟨0, 0, by decide⟩, two_pow_pos overflowBit⟩

theorem roundHalfEven_le (num den : Nat) : roundHalfEven num den ≤ num / den + 1 := by
  unfold roundHalfEven
  dsimp only
  split
  · omega
  · split
    · omega
    · split <;> omega

/-- The quotient that is rounded has at most 53 bits. -/
theorem div_shift_lt (num den : Nat) : num / (den * Nat.pow 2 (shiftOf (num / den))) < Nat.pow 2 53 := by
  rw [← Nat.div_div_eq_div_mul]
  generalize num / den = q
  unfold shiftOf
  apply Nat.div_lt_of_lt_mul
  simp only [Nat.pow_eq]
  rw [← Nat.pow_add]
  exact Nat.lt_of_lt_of_le Nat.lt_log2_self (Nat.pow_le_pow_right (by decide) (by omega))

theorem roundQuanta_representable (num den : Nat) :
    ∃ m s, m ≤ Nat.pow 2 53 ∧ roundQuanta num den = m * Nat.pow 2 s :=
  ⟨_, _, Nat.le_trans (roundHalfEven_le ..) (div_shift_lt num den), rfl⟩

/-- The nearest magnitude to `num / den` quanta, or `none` when it is too large. -/
def round (num den : Nat) : Option Magnitude :=
  if h : roundQuanta num den < Nat.pow 2 overflowBit then
    some ⟨roundQuanta num den, roundQuanta_representable num den, h⟩
  else none

end Magnitude

/-- A double-precision number. -/
inductive Double where
  | nan
  | infinite (negative : Bool)
  | finite (negative : Bool) (magnitude : Magnitude)
deriving DecidableEq

namespace Double

/-- The number of quanta in one. -/
def unit : Nat := Nat.pow 2 1074

/-- Positive zero. -/
def zero : Double := .finite false default

instance : Inhabited Double := ⟨zero⟩

/-- The zero of a sign. -/
def signedZero (negative : Bool) : Double := .finite negative default

/-- Positive infinity. -/
def infinity : Double := .infinite false

/-- The nearest double of the given sign to `num / den` quanta. -/
def ofQuanta (negative : Bool) (num den : Nat) : Double :=
  match Magnitude.round num den with
  | some m => .finite negative m
  | none => .infinite negative

/-- The nearest double to `num / den`; the sign of an exact zero is positive. -/
def ofRatio (num : Int) (den : Nat) : Double :=
  ofQuanta (num < 0) (num.natAbs * unit) den

/-- The nearest double to an integer. -/
def ofInt (n : Int) : Double := ofRatio n 1

instance (n : Nat) : OfNat Double n := ⟨ofInt n⟩

/-- The signed number of quanta of a finite double. -/
def quanta? : Double → Option Int
  | finite negative m => some (if negative then -(m.quanta : Int) else m.quanta)
  | _ => none

/-- Is it not a number? -/
def isNaN : Double → Bool
  | nan => true
  | _ => false

/-- Is it infinite? -/
def isInfinite : Double → Bool
  | infinite _ => true
  | _ => false

/-- Is it finite? -/
def isFinite : Double → Bool
  | finite .. => true
  | _ => false

/-- Is the sign bit set? -/
def isNegative : Double → Bool
  | nan => false
  | infinite s => s
  | finite s _ => s

/-- Is it a finite whole number? -/
def isIntegral : Double → Bool
  | finite _ m => m.quanta % unit == 0
  | _ => false

/-- Is it a zero of either sign? -/
def isZero : Double → Bool
  | finite _ m => m.quanta == 0
  | _ => false

/-- The greatest integer that is not above a finite double. -/
def floor? (x : Double) : Option Int := x.quanta?.map (Int.fdiv · unit)

/-- The least integer that is not below a finite double. -/
def ceil? (x : Double) : Option Int := x.quanta?.map fun q => -(Int.fdiv (-q) unit)

/-- The integer part of a finite double, cut toward zero. -/
def truncate? (x : Double) : Option Int := x.quanta?.map (Int.tdiv · unit)

end Double

end ChatFlow
