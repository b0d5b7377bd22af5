import ChatFlow.Store.Ranking
import ChatFlow.Template.Render
import ChatFlow.Workflow.Payload

/-!
# Stored values in a run

Nodes read, write and count stored values, those of the user or shared ones, and ask for rankings.

* `Text.scalar`: what a text is stored as.
* `Act.storeUser`, `Act.storeShared`: the nodes for stored values.
* `Act.leaderboard`: the node for rankings.
-/

namespace ChatFlow

namespace Text

/-- The digits of a number behind an optional minus sign. -/
def afterMinus : Text → Text
  | .scalar '-' :: r => r
  | t => t

/-- Is the text made of decimal digits? -/
def isDecimal (t : Text) : Bool := !t.isEmpty && t.all CodePoint.isDecimal

/-- Does the text write an integer in digits? -/
def writesInteger (t : Text) : Bool := isDecimal (afterMinus (withoutLineEnd t))

/-- Does the text write a number with digits on both sides of a point? -/
def writesFraction (t : Text) : Bool :=
  match partition '.' (afterMinus (withoutLineEnd t)) with
  | (whole, some places) => isDecimal whole && isDecimal places
  | _ => false

/-- What a text is stored as: a number or a truth value if it writes one, else itself. -/
def scalar (t : Text) : Except Fault Value :=
  if writesInteger t then
    match t.toInteger? with
    | some n => .ok (.int n)
    | none => .error .integerTooLong
  else if writesFraction t then .ok (.float ((t.toDouble?).getD .nan))
  else if t = "true" then .ok (.bool true)
  else if t = "false" then .ok (.bool false)
  else .ok (.text t)

end Text

namespace Act

/-- The amount that a text adds: one if it is zero or no number. -/
def amountOf (t : Text) : Except Fault Double :=
  ((Value.text t).toDouble .nan).map fun x => if x.isNaN || x.isZero then 1 else x

/-- Writes a stored value; without success nothing changes. -/
def storeValue (owner : Owner) (key : Text) (v : Value) : Act Unit :=
  modifyWorld fun w => { w with store := (w.store.write owner key v).2 }

/-- Adds an amount to a stored value and gives the sum. -/
def addStored (owner : Owner) (key : Text) (amount start : Double) : Act Value := do
  let (v, s) ← lift ((← world).store.incr owner key (.float amount) (.float start))
  modifyWorld fun w => { w with store := s }
  return v

/-- Adds the amount that a text writes, or its opposite. -/
def addAmount (owner : Owner) (key text : Text) (other : Value) (opposite : Bool) : Act Value := do
  let amount ← lift (amountOf text)
  let start ← lift (other.toDouble 0)
  addStored owner key (if opposite then amount.neg else amount) start

/-- Does something with a value under a key, and gives what the result variable is set to. -/
def doShared (op : SharedOp) (owner : Owner) (key text : Text) (other : Value) : Act Value := do
  match op with
  | .get => stored owner key other
  | .set =>
    storeValue owner key (← lift text.scalar)
    return .text text
  | .incr => addAmount owner key text other false
  | .decr => addAmount owner key text other true

/-- Removes a stored value of a user. -/
def removeStored (user key : Text) : Act Unit := do
  let (_, s) ← lift ((← world).store.remove user key)
  modifyWorld fun w => { w with store := s }

/-- Does something with a value of a user under a key, and gives what the result variable is set to. -/
def doUser (op : UserOp) (user key text : Text) (other : Value) : Act Value := do
  match op with
  | .shared op => doShared op (.user user) key text other
  | .delete =>
    removeStored user key
    return .text []

/-- Fills in key and value of a storage node and sets its result variable; without a key nothing is
done. -/
def storeWith {Op : Type} (d : StorageData Op) (m : Message) (perform : (key text : Text) → Act Value) :
    Act Unit := do
  let key ← render m d.key
  if key.isEmpty then return
  let text ← render m d.value
  setVariable d.resultVar (← perform key text)

/-- The node for values of the user. -/
def storeUser (d : StorageData UserOp) (m : Message) : Act Unit :=
  storeWith d m fun key text => doUser d.op m.event.userId key text d.other

/-- The node for shared values. -/
def storeShared (d : StorageData SharedOp) (m : Message) : Act Unit :=
  storeWith d m fun key text => doShared d.op .shared key text d.other

/-! ## Rankings -/

/-- How a score is shown: two decimal places, unless it is whole. A double that rounding made whole keeps its
point. -/
def scoreText : Value → Text
  | .int n => Text.ofInt n
  | .float x => if x.isIntegral then x.toText else x.fixedText 2
  | _ => []

/-- How many code points of a name are shown. -/
def shownName : Nat := 8

/-- A line of a shown ranking; places count from 1. -/
def rankingLine (i : Nat) (entry : Text × Value) : Text :=
  Text.ofNat (i + 1) ++ (". " : Text) ++ entry.1.take shownName ++ "... : " ++ scoreText entry.2

/-- The lines of a ranking from a place on. -/
def rankingLines (i : Nat) : List (Text × Value) → List Text
  | [] => []
  | entry :: rest => rankingLine i entry :: rankingLines (i + 1) rest

/-- The node for rankings. -/
def leaderboard (d : LeaderboardData) (m : Message) : Act Unit := do
  let key ← render m d.key
  let key := if key.isEmpty then ("score" : Text) else key
  let store := (← world).store
  match d.query with
  | .top =>
    let entries ← lift (store.leaderboard key d.limit d.ascending)
    setVariable "leaderboard" (.text (Text.join "\n" (rankingLines 0 entries)))
    setVariable "leaderboard_list" (.list (entries.map fun (id, v) => .list [.text id, v]))
  | .myRank =>
    let rank ← lift (store.rankOf m.event.userId key d.ascending)
    setVariable "my_rank" (.int rank.place)
    setVariable "my_value" rank.score
    setVariable "total_users" (.int rank.total)
  | .count =>
    let n ← lift (store.countHolders key)
    setVariable "user_count" (.int n)

end Act

end ChatFlow
