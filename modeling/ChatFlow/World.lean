import ChatFlow.Calendar.Moment
import ChatFlow.Dice
import ChatFlow.Journal
import ChatFlow.Outlet.Call
import ChatFlow.Store.Basic
import ChatFlow.Web.Answer

/-!
# The surroundings of a run

Everything outside a workflow that a run can see or change: the clock, the dice, the store, the
answers that services will give, and the record of what was done.

* `World.act`, `World.log`: adding to the record.
* `World.askWeb`: a request, which is recorded, and its answer.
-/

namespace ChatFlow

/-- Whom a call is meant for, when that is fixed beforehand. -/
structure Target where
  kind : Text
  id : Text
deriving DecidableEq, Repr

/-- A message posted to the chat program. -/
structure Post where
  path : Text
  body : Fields Value
  authorization : Option Text

/-- Something done outwardly. -/
inductive Effect where
  /-- A call of an outlet that records what it is asked for. -/
  | asked (call : Call) (target : Option Target)
  | paused (seconds : Double)
  | requested (request : Web.Request)
  | posted (post : Post)
  /-- An action with a handler of its own, and its value. -/
  | handled (action value : Text)

/-- The surroundings of a run. -/
structure World where
  clock : Moment
  dice : Dice
  store : Store
  /-- The answers of web services that are still to come. -/
  web : List Web.Answer
  /-- The answers of the chat program that are still to come. -/
  chat : List Web.Answer
  /-- What calls of the chat program by name will return to an outlet that records. -/
  returns : List Value
  effects : List Effect
  journal : List Journal.Line

namespace World

/-- Records something done outwardly. -/
def act (e : Effect) (w : World) : World := { w with effects := w.effects ++ [e] }

/-- Writes a line into the journal. -/
def log (line : Journal.Line) (w : World) : World := { w with journal := w.journal ++ [line] }

/-- Sends a request to a web service. -/
def askWeb (request : Web.Request) (w : World) : Web.Answer × World :=
  let w := w.act (.requested request)
  match w.web with
  | [] => (.empty, w)
  | answer :: rest => (answer, { w with web := rest })

end World

end ChatFlow
