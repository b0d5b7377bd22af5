import ChatFlow.Event
import ChatFlow.World

/-!
# Scenes

What the steps of a run work on: the surroundings, and the run's own variables and notes. A step
either succeeds or fails, and what it changed before it failed stays changed.

* `Act`: a step with a result.
* `Act.lift`: a result that comes without any change.
* `Act.roll`, `Act.clock`: the dice and the clock.
-/

namespace ChatFlow

/-- A message as a run sees it: the event, and the text that it is about. -/
structure Message where
  event : Event
  content : Text

/-- What a run keeps for itself. -/
structure Context where
  /-- The captures of the trigger. -/
  captures : List Text
  vars : Fields Value
  /-- The ids of the nodes that were executed, in order. -/
  executed : List Text
  /-- The ids of those that failed. -/
  failed : List Text

namespace Context

/-- The context of a run that begins with some captures. -/
def start (captures : List Text) : Context := ⟨captures, [], [], []⟩

/-- The variable that holds the bytes of a response; messages and expressions do not see it. -/
def hiddenVariable : Text := "api_binary"

/-- The variables that messages and expressions see. -/
def visible (c : Context) : Fields Value := c.vars.filter fun (n, _) => n ≠ hiddenVariable

/-- The value of a variable; null if there is none. -/
def get (c : Context) (name : Text) : Value := (c.vars.get? name).getD .null

/-- Sets a variable. -/
def set (c : Context) (name : Text) (v : Value) : Context :=
  { c with vars := c.vars.set name v }

end Context

/-- The surroundings of a run and its context. -/
structure Scene where
  world : World
  context : Context

/-- A step of a run. -/
abbrev Act (α : Type) := ExceptT Fault (StateM Scene) α

namespace Act

/-- A result that comes without any change. -/
def lift {α : Type} (r : Except Fault α) : Act α := liftM r

/-- The surroundings as they are. -/
def world : Act World := return (← get).world

/-- The context as it is. -/
def context : Act Context := return (← get).context

/-- Changes the surroundings. -/
def modifyWorld (f : World → World) : Act Unit := modify fun s => { s with world := f s.world }

/-- Sets a variable. -/
def setVariable (name : Text) (v : Value) : Act Unit :=
  modify fun s => { s with context := s.context.set name v }

/-- Reads the clock. -/
def clock : Act Moment := return (← world).clock

/-- Lets the dice choose. -/
def roll {α : Type} (f : Dice → Except Fault (α × Dice)) : Act α := do
  let (a, d) ← lift (f (← world).dice)
  modifyWorld fun w => { w with dice := d }
  return a

/-- Reads a stored value, with a stand-in for when there is none. -/
def stored (owner : Owner) (key : Text) (other : Value) : Act Value := do
  lift ((← world).store.read owner key other)

end Act

end ChatFlow
