import ChatFlow.Double.Arithmetic
import ChatFlow.Double.Reader
import ChatFlow.Fault
import ChatFlow.Value

/-!
# Numbers in values

Values are taken as numbers loosely: truth values count as one and zero, texts are read, blank text
is zero. Results are kept short: whole ones as integers, others with two decimal places.

* `Value.toDouble`: the loose reading, with a stand-in for values that are no numbers.
* `Value.roundNumber`, `Double.rounded`: the short form.
* `Value.same`: equality by value.
-/

namespace ChatFlow

/-- The double nearest to an integer, if there is a finite one. -/
def doubleOfInt (n : Int) : Except Fault Double :=
  match Double.ofInt n with
  | x@(.finite ..) => .ok x
  | _ => .error .integerTooLarge

/-- The short form of a double: an integer if it is whole, else rounded to two decimal places. NaN
and the infinities stay as they are. -/
def Double.rounded (x : Double) : Value :=
  if x.isIntegral then .int (x.truncate?.getD 0) else .float (x.roundPlaces 2)

namespace Value

/-- The number that a value stands for, or `other` when it stands for none. -/
def toDouble (other : Double) : Value → Except Fault Double
  | null => .ok other
  | bool b => .ok (if b then 1 else 0)
  | int n => doubleOfInt n
  | float x => .ok x
  | text t => .ok (if t.isBlank then 0 else (t.toDouble?).getD other)
  | bytes _ => .ok other
  | list _ => .ok other
  | object _ => .ok other

/-- The number that a value has to be: a number, a truth value, or a text that writes one. -/
def exactDouble : Value → Except Fault Double
  | bool b => .ok (if b then 1 else 0)
  | int n => doubleOfInt n
  | float x => .ok x
  | text t => (t.toDouble?).elim (.error .notANumber) .ok
  | bytes b => (Text.toDouble? (b.map fun x => .ofNat x.toNat)).elim (.error .notANumber) .ok
  | null => .error .badCall
  | list _ => .error .badCall
  | object _ => .error .badCall

/-- The integer that a value has to be; a double is cut toward zero. -/
def exactInteger : Value → Except Fault Int
  | bool b => .ok (if b then 1 else 0)
  | int n => .ok n
  | float .nan => .error .notANumber
  | float x => (x.truncate?).elim (.error .infinite) .ok
  | text t => (t.toInteger?).elim (.error .notANumber) .ok
  | bytes b => (Text.toInteger? (b.map fun x => .ofNat x.toNat)).elim (.error .notANumber) .ok
  | null => .error .badCall
  | list _ => .error .badCall
  | object _ => .error .badCall

/-- The short form of a number; an integer has to have a double near it. -/
def roundNumber : Value → Except Fault Value
  | bool b => .ok (.int (if b then 1 else 0))
  | int n => (doubleOfInt n).map fun _ => .int n
  | float x => .ok x.rounded
  | v => .ok v

/-- A number that can be compared: an integer or a double. Truth values count as integers. -/
inductive Numeric where
  | int (n : Int)
  | float (x : Double)

/-- The value as a number, without reading texts. -/
def numeric? : Value → Option Numeric
  | bool b => some (.int (if b then 1 else 0))
  | int n => some (.int n)
  | float x => some (.float x)
  | _ => none

/-- Equality of numbers by value. -/
def Numeric.eq : Numeric → Numeric → Bool
  | .int m, .int n => m == n
  | .float x, .float y => Double.eq x y
  | .int n, .float x => x.compareInt? n == some .eq
  | .float x, .int n => x.compareInt? n == some .eq

/-- Order of numbers by value. -/
def Numeric.lt : Numeric → Numeric → Bool
  | .int m, .int n => m < n
  | .float x, .float y => Double.lt x y
  | .int n, .float x => x.compareInt? n == some .gt
  | .float x, .int n => x.compareInt? n == some .lt

mutual

/-- Are two values equal by value? -/
def same : Value → Value → Bool
  | .null, w => match w with
    | .null => true
    | _ => false
  | .text s, w => match w with
    | .text t => s == t
    | _ => false
  | .bytes a, w => match w with
    | .bytes b => a == b
    | _ => false
  | .list vs, w => match w with
    | .list ws => sameItems vs ws
    | _ => false
  | .object fs, w => match w with
    | .object gs => fs.length == gs.length && sameFields fs gs
    | _ => false
  | .bool b, w => match w.numeric? with
    | some n => Numeric.eq (.int (if b then 1 else 0)) n
    | none => false
  | .int m, w => match w.numeric? with
    | some n => Numeric.eq (.int m) n
    | none => false
  | .float x, w => match w.numeric? with
    | some n => Numeric.eq (.float x) n
    | none => false

/-- Are two lists of values equal item by item? -/
def sameItems : List Value → List Value → Bool
  | [], [] => true
  | v :: vs, w :: ws => same v w && sameItems vs ws
  | _, _ => false

/-- Has every field an equal one of its name in `gs`? -/
def sameFields (fs : List (Text × Value)) (gs : List (Text × Value)) : Bool :=
  match fs with
  | [] => true
  | (name, v) :: rest =>
    (match Fields.get? gs name with
      | some w => same v w
      | none => false) && sameFields rest gs

end

end Value

end ChatFlow
