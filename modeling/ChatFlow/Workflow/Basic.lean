import ChatFlow.Workflow.Connection
import ChatFlow.Workflow.Node

/-!
# Workflows

A workflow is a graph of nodes and connections with some settings of its own. The ids of its nodes
differ; what else it may hold is kept.

* `Workflow.check`: reading a workflow.
* `Workflow.toValue`: writing it.
* `Workflow.node?`, `Workflow.successors`: the graph.
-/

namespace ChatFlow

/-- A workflow. -/
structure Workflow where
  id : Text
  name : Text
  /-- The kind and content of the trigger as the list of workflows shows them. -/
  triggerKind : Text
  triggerContent : Text
  enabled : Bool
  /-- Are later workflows left out after this one has run? -/
  stopPropagation : Bool
  nodes : List Node
  connections : List Connection
  extra : Fields Value

namespace Workflow

/-- The names of the fields of every workflow. -/
def names : List Text :=
  ["id", "name", "trigger_type", "trigger_content", "enabled", "stop_propagation", "nodes",
   "connections"]

/-- The name of a workflow that has none. -/
def unnamed : Text := "未命名"

/-- The nodes, which may stand under names that do not matter. -/
def nodesOf (fs : Fields Value) : Fields Value :=
  match fs.get? "nodes" with
  | some (.object nodes) => fs.set "nodes" (.list (nodes.map Prod.snd))
  | _ => fs

/-- Do all nodes have ids of their own? -/
def idsDiffer : List Node → Bool
  | [] => true
  | n :: rest => rest.all (fun m => m.id ≠ n.id) && idsDiffer rest

/-- Reads a workflow. -/
def check : Value → Check Workflow
  | .object fs =>
    let fs := nodesOf fs
    let parts :=
      Workflow.mk <$> Check.field fs "id" Check.text
        <*> Check.fieldOr fs "name" unnamed Check.text
        <*> Check.fieldOr fs "trigger_type" "exact" Check.text
        <*> Check.fieldOr fs "trigger_content" [] Check.text
        <*> Check.fieldOr fs "enabled" true Check.bool
        <*> Check.fieldOr fs "stop_propagation" false Check.bool
        <*> Check.fieldOr fs "nodes" [] (Check.list Node.check)
        <*> Check.fieldOr fs "connections" [] (Check.list Connection.check)
        <*> pure (fs.without names)
    match parts with
    | .accepted w => if idsDiffer w.nodes then .accepted w else .refuse
    | .refused n => .refused n
  | _ => .refuse

/-- Writes a workflow. -/
def toFields (w : Workflow) : Fields Value :=
  ([("id", .text w.id), ("name", .text w.name), ("trigger_type", .text w.triggerKind),
    ("trigger_content", .text w.triggerContent), ("enabled", .bool w.enabled),
    ("stop_propagation", .bool w.stopPropagation), ("nodes", .list (w.nodes.map Node.toValue)),
    ("connections", .list (w.connections.map Connection.toValue))] : Fields Value)
  ++ Value.settledFields w.extra

/-- The document of a workflow. -/
def toValue (w : Workflow) : Value := .object w.toFields

/-! ## The graph -/

/-- The nodes where the workflow starts. -/
def triggers (w : Workflow) : List Node := w.nodes.filter Node.isTrigger

/-- The node of an id. -/
def node? (w : Workflow) (id : Text) : Option Node := w.nodes.find? fun n => n.id = id

/-- The targets of the connections that leave a node from a slot, in order. -/
def successors (w : Workflow) (id : Text) (slot : Slot) : List Text :=
  (w.connections.filter fun c => c.origin = id && c.slot = slot).map (·.target)

end Workflow

end ChatFlow
