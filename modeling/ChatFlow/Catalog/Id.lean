import ChatFlow.Dice
import ChatFlow.Double.Arithmetic
import ChatFlow.Text.Basic

/-!
# Ids of workflows

A new id tells the time in milliseconds, in base 36, and ends with six random digits.

* `Base36.ofNat`: a number in base 36.
* `Catalog.newId`: a new id.
-/

namespace ChatFlow

namespace Base36

/-- The digits, least first. -/
def digits : Text := "0123456789abcdefghijklmnopqrstuvwxyz"

/-- A digit. -/
def digit (n : Nat) : CodePoint := (digits[n % 36]?).getD '0'

/-- The digits of a number behind which `rest` stands; there are none for zero. -/
def ofNatAux (n : Nat) (rest : Text) : Text :=
  if h : n = 0 then rest else ofNatAux (n / 36) (digit (n % 36) :: rest)
termination_by n
decreasing_by omega

/-- A number in base 36. -/
def ofNat (n : Nat) : Text := if n = 0 then [digit 0] else ofNatAux n []

/-- An integer in base 36; negative ones count as zero. -/
def ofInt (n : Int) : Text := ofNat n.toNat

end Base36

namespace Catalog

/-- The number of random digits of an id. -/
def randomDigits : Nat := 6

/-- Some random digits. -/
def drawDigits : (count : Nat) → Dice → Except Fault (Text × Dice)
  | 0, d => .ok ([], d)
  | count + 1, d => do
    let (c, d) ← d.pick Base36.digits
    let (rest, d) ← drawDigits count d
    return (c :: rest, d)

/-- The milliseconds since 1970 of a number of seconds. -/
def milliseconds (seconds : Double) : Int := ((seconds.mul 1000).truncate?).getD 0

/-- A new id at a time, in seconds since 1970. -/
def newId (seconds : Double) (d : Dice) : Except Fault (Text × Dice) := do
  let (suffix, d) ← drawDigits randomDigits d
  return ("wf_" ++ Base36.ofInt (milliseconds seconds) ++ suffix, d)

end Catalog

end ChatFlow
