import ChatFlow.Fault
import ChatFlow.Workflow.Trigger

/-!
# What only the master may do

Workflows that the clock runs may be saved by the master only.

* `Service.needsMaster`: does a workflow that an editor sent need the master?
-/

namespace ChatFlow.Service

/-- Is the value the name of a kind of triggers that the clock sets off? -/
def isClockKind : Value → Bool
  | .text kind => Trigger.clockKinds.contains kind
  | _ => false

/-- Is the value a node with a trigger that the clock sets off? -/
def isClockTrigger (node : Value) : Except Fault Bool :=
  if node.fieldOrNull "type" ≠ .text "trigger" then .ok false
  else
    match node.fieldOrNull "data" with
    | data@(.object _) => .ok (isClockKind (data.fieldOrNull "trigger_type"))
    | data => if data.truthy then .error .noFields else .ok false

/-- Is there a trigger that the clock sets off among values? -/
def anyClockTrigger : List Value → Except Fault Bool
  | [] => .ok false
  | node :: rest => do if ← isClockTrigger node then return true else anyClockTrigger rest

/-- The nodes of a workflow that an editor sent; a text counts as a list of its code points. -/
def sentNodes (payload : Value) : Except Fault (List Value) :=
  match payload.fieldOrNull "nodes" with
  | .list nodes => .ok nodes
  | .object nodes => .ok (nodes.map Prod.snd)
  | .text t => .ok (t.map fun c => .text [c])
  | v => if v.truthy then .error .noItems else .ok []

/-- Does a workflow that an editor sent need the master? -/
def needsMaster (payload : Value) : Except Fault Bool :=
  match payload with
  | .object _ => do
    if isClockKind (payload.fieldOrNull "trigger_type") then return true
    else anyClockTrigger (← sentNodes payload)
  | _ => .error .noFields

end ChatFlow.Service
