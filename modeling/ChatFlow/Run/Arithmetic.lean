import ChatFlow.Double.Power
import ChatFlow.Template.Render
import ChatFlow.Workflow.Payload

/-!
# Arithmetic in a run

An action joins two numbers into one. Division by zero gives zero, an unknown operation the first
number, and the result is kept in its short form.

* `Act.compute`: the action.
-/

namespace ChatFlow

/-- The operations on two numbers. -/
inductive MathOp where
  | add
  | sub
  | mul
  | div
  | mod
  | pow
  | min
  | max
  | random
deriving DecidableEq, Repr

namespace MathOp

/-- The names of the operations. -/
def words : List (Text × MathOp) :=
  [("add", add), ("sub", sub), ("mul", mul), ("div", div), ("mod", mod), ("pow", pow), ("min", min),
   ("max", max), ("random", random)]

/-- The operation of a name; without a name it is addition. -/
def ofLabel? (t : Text) : Option MathOp := if t.isEmpty then some add else Fields.get? words t

end MathOp

namespace Act

/-- The remainder of a division; an infinite number has none. -/
def remainder (x y : Double) : Except Fault Double :=
  if x.isInfinite && !y.isNaN then .error .undefinedRemainder else .ok (x.fmod y)

/-- The integer that a rounding gives. -/
def bound (n : Option Int) : Except Fault Int := n.elim (.error .infinite) .ok

/-- A whole number between two numbers. -/
def randomBetween (x y : Double) : Act Double := do
  if x.isNaN || y.isNaN then return .nan
  let a ← lift (bound x.ceil?)
  let b ← lift (bound y.floor?)
  let n ← roll (Dice.between (min a b) (max a b))
  lift (doubleOfInt n)

/-- Joins two numbers. -/
def join (op : MathOp) (x y : Double) : Act Double := do
  match op with
  | .add => return x.add y
  | .sub => return x.sub y
  | .mul => return x.mul y
  | .div => return if y.isZero then 0 else x.div y
  | .mod => if y.isZero then return 0 else lift (remainder x y)
  | .pow => return x.power y
  | .min => return x.min y
  | .max => return x.max y
  | .random => randomBetween x y

/-- An operand filled in and read as a number; an empty one is zero. -/
def operandOf (m : Message) (t : Text) : Act Double := do
  let t ← render m (if t.isEmpty then ("0" : Text) else t)
  lift ((Value.text t).toDouble .nan)

/-- The action that joins two numbers. -/
def compute (d : ActionData) (m : Message) : Act Unit := do
  let x ← operandOf m d.operand1
  let y ← operandOf m d.operand2
  let result ← match MathOp.ofLabel? d.mathKind with
    | some op => join op x y
    | none => pure x
  let name := if d.resultVar.isEmpty then ("math_result" : Text) else d.resultVar
  setVariable name result.rounded

end Act

end ChatFlow
