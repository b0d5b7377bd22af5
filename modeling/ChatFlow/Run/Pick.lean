import ChatFlow.Template.Render
import ChatFlow.Workflow.Payload

/-!
# Random picks

A node picks one of several items, either evenly or by weights. Weights count only if there is one for
each item, none is negative, and their sum is positive.

* `Act.pick`: the node.
-/

namespace ChatFlow.Act

/-- The parts of a text between bars, without blanks around them and without blank ones. -/
def itemsOf (t : Text) : List Text := ((Text.splitChar '|' t).map Text.trim).filter (!·.isEmpty)

/-- The weights that a text writes, if they count. -/
def weightsOf? (t : Text) (count : Nat) : Except Fault (Option (List Double)) := do
  if t.isEmpty then return none
  let weights ← (Text.splitChar '|' t).mapM fun part => (Value.text part).toDouble .nan
  let usable (x : Double) : Bool := !x.isNaN && !x.lt 0
  return if weights.length = count && weights.all usable then some weights else none

/-- The sum of weights, from the first one on. -/
def total (weights : List Double) : Double := weights.foldl Double.add 0

/-- The first place where the sum of the weights up to it exceeds a number. -/
def placeOf (drawn : Double) : (sum : Double) → (i : Nat) → List Double → Option Nat
  | _, _, [] => none
  | sum, i, x :: rest =>
    let sum := sum.add x
    if drawn.lt sum then some i else placeOf drawn sum (i + 1) rest

/-- A place by weights, if they count. -/
def weightedPlace (t : Text) (count : Nat) : Act (Option Nat) := do
  match ← lift (weightsOf? t count) with
  | none => return none
  | some weights =>
    let sum := total weights
    if sum.le 0 then return none
    let x ← roll fun d => .ok d.fraction
    return placeOf (x.mul sum) 0 0 weights

/-- A place drawn evenly. -/
def evenPlace (count : Nat) : Act Nat := return (← roll (Dice.below count)).toNat

/-- The node that picks an item. -/
def pick (d : ListRandomData) (m : Message) : Act Unit := do
  let items := itemsOf (← render m d.items)
  if items.isEmpty then
    setVariable d.resultVar (.text [])
    setVariable d.indexVar (.int (-1))
  else
    let i ← match ← weightedPlace d.weights items.length with
      | some i => pure i
      | none => evenPlace items.length
    setVariable d.resultVar (.text ((items[i]?).getD []))
    setVariable d.indexVar (.int i)

end ChatFlow.Act
