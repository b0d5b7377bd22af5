import ChatFlow.Workflow.Payload

/-!
# Nodes

A node has an id, a position in the editor, a kind with its settings, and whatever else the editor
keeps with it.

* `Node.check`, `Node.checkAs`: reading a node of any kind, and of a given one.
* `Node.toValue`: writing it.
-/

namespace ChatFlow

/-- The kinds of nodes. -/
inductive NodeKind where
  | trigger
  | condition
  | action
  | delay
  | setVar
  | storage
  | sharedStorage
  | leaderboard
  | listRandom
deriving DecidableEq, Repr

namespace NodeKind

/-- The name of a kind. -/
def label : NodeKind → Text
  | trigger => "trigger"
  | condition => "condition"
  | action => "action"
  | delay => "delay"
  | setVar => "set_var"
  | storage => "storage"
  | sharedStorage => "global_storage"
  | leaderboard => "leaderboard"
  | listRandom => "list_random"

/-- All kinds. -/
def all : List NodeKind :=
  [trigger, condition, action, delay, setVar, storage, sharedStorage, leaderboard, listRandom]

/-- The names of the kinds. -/
def words : List (Text × NodeKind) := all.map fun k => (k.label, k)

end NodeKind

/-- The kind of a node and its settings. -/
inductive NodeBody where
  | trigger (d : TriggerData)
  | condition (d : ConditionData)
  | action (d : ActionData)
  | delay (d : DelayData)
  | setVar (d : SetVarData)
  | storage (d : StorageData UserOp)
  | sharedStorage (d : StorageData SharedOp)
  | leaderboard (d : LeaderboardData)
  | listRandom (d : ListRandomData)

namespace NodeBody

/-- The kind. -/
def kind : NodeBody → NodeKind
  | trigger _ => .trigger
  | condition _ => .condition
  | action _ => .action
  | delay _ => .delay
  | setVar _ => .setVar
  | storage _ => .storage
  | sharedStorage _ => .sharedStorage
  | leaderboard _ => .leaderboard
  | listRandom _ => .listRandom

/-- Reads the settings of a kind. -/
def ofFields (k : NodeKind) (fs : Fields Value) : NodeBody :=
  match k with
  | .trigger => trigger (.ofFields fs)
  | .condition => condition (.ofFields fs)
  | .action => action (.ofFields fs)
  | .delay => delay (.ofFields fs)
  | .setVar => setVar (.ofFields fs)
  | .storage => storage (.ofUserFields fs)
  | .sharedStorage => sharedStorage (.ofSharedFields fs)
  | .leaderboard => leaderboard (.ofFields fs)
  | .listRandom => listRandom (.ofFields fs)

/-- Writes the settings. -/
def toFields : NodeBody → Fields Value
  | trigger d => d.toFields
  | condition d => d.toFields
  | action d => d.toFields
  | delay d => d.toFields
  | setVar d => d.toFields
  | storage d => d.toFields UserOp.label
  | sharedStorage d => d.toFields SharedOp.label
  | leaderboard d => d.toFields
  | listRandom d => d.toFields

theorem kind_ofFields (k : NodeKind) (fs : Fields Value) : (ofFields k fs).kind = k := by
  cases k <;> rfl

end NodeBody

/-- A node of a workflow. -/
structure Node where
  id : Text
  x : Option Double
  y : Option Double
  body : NodeBody
  extra : Fields Value

namespace Node

/-- The names of the fields of every node. -/
def names : List Text := ["id", "x", "y", "type", "data"]

/-- Reads the settings of a kind; null stands for none. -/
def checkBody (k : NodeKind) (fs : Fields Value) : Check NodeBody :=
  match fs.get? "data" with
  | none | some .null => .accepted (.ofFields k [])
  | some v => NodeBody.ofFields k <$> Check.object v

/-- Reads the fields of a node of a kind. -/
def checkFields (k : NodeKind) (fs : Fields Value) : Check Node :=
  (fun id body => ⟨id, Loose.position fs "x", Loose.position fs "y", body, fs.without names⟩)
    <$> Check.field fs "id" Check.text <*> checkBody k fs

/-- Reads a node of a given kind. -/
def checkAs (k : NodeKind) : Value → Check Node
  | .object fs =>
    (fun (node : Node) (_ : Unit) => node) <$> checkFields k fs
      <*> Check.field fs "type" (Check.word [(k.label, ())])
  | _ => .refuse

/-- Reads a node of the kind that it names. -/
def check : Value → Check Node
  | .object fs =>
    match Check.field fs "type" (Check.word NodeKind.words) with
    | .accepted k => checkFields k fs
    | .refused n => .refused n
  | _ => .refuse

/-- A position as value. -/
def coordinate (x : Option Double) : Value := x.elim .null .float

/-- Writes a node. -/
def toValue (n : Node) : Value :=
  .object
    (([("id", .text n.id), ("x", coordinate n.x), ("y", coordinate n.y),
      ("type", .text n.body.kind.label), ("data", (Value.object n.body.toFields).settled)]
        : Fields Value)
      ++ Value.settledFields n.extra)

/-- Does a workflow start here? -/
def isTrigger (n : Node) : Bool := n.body.kind = .trigger

end Node

end ChatFlow
