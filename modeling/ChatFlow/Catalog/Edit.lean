import ChatFlow.Catalog.Basic
import ChatFlow.Catalog.Id
import ChatFlow.Report

/-!
# Edited workflows

An editor sends a whole workflow. If its id is known, the workflow is replaced in its place, and what
the editor left out of its head is kept; otherwise it is added at the end, with a new id if it has none.

* `Catalog.accept`: takes in what an editor sent.
-/

namespace ChatFlow.Catalog

/-- The value, or another one if it does not count as true. -/
def orOther (v other : Value) : Value := if v.truthy then v else other

/-- The nodes that an editor sent, or what is said when there are none. -/
def nodesOf (payload : Value) : Except Text (List Value) :=
  match payload.fieldOrNull "nodes" with
  | .list (n :: ns) => .ok (n :: ns)
  | .object (n :: ns) => .ok ((n :: ns).map Prod.snd)
  | v => .error (if v.truthy then "节点列表为空" else "缺少节点数据")

/-- The id that an editor sent, which may be empty. -/
def idSent (payload : Value) : Except Fault Text :=
  (orOther (payload.fieldOrNull "id") (.text [])).plain.map Text.trim

/-- The head of a known workflow with the changes of an editor. -/
def headOf (payload : Value) (known : Workflow) : Fields Value :=
  let sent (name : Text) : Value := payload.fieldOrNull name
  let fs := known.toFields
  let fs := fs.set "name" (orOther (sent "name") (.text known.name))
  let fs := fs.set "trigger_type" (orOther (sent "trigger_type") (.text known.triggerKind))
  let fs := fs.set "trigger_content"
    ((payload.field? "trigger_content").getD (.text known.triggerContent))
  fs.set "enabled" ((payload.field? "enabled").getD (.bool known.enabled))

/-- The head of a new workflow of an id. -/
def newHead (payload : Value) (id : Text) : Fields Value :=
  let sent (name : Text) : Value := payload.fieldOrNull name
  [("id", .text id), ("name", orOther (sent "name") (.text Workflow.unnamed)),
   ("trigger_type", orOther (sent "trigger_type") (.text "exact")),
   ("trigger_content", orOther (sent "trigger_content") (.text [])),
   ("enabled", .bool (sent "enabled" ≠ .bool false))]

/-- The document of a head with the graph that an editor sent. -/
def documentOf (payload : Value) (nodes : List Value) (head : Fields Value) : Value :=
  let fs := head.set "stop_propagation" (.bool (payload.fieldOrNull "stop_propagation").truthy)
  let fs := fs.set "nodes" (.list nodes)
  .object (fs.set "connections" (orOther (payload.fieldOrNull "connections") (.list [])))

/-- What is said of a workflow that is not accepted. -/
def refusal (count : Nat) : Text := ("工作流格式错误: " : Text) ++ Text.ofNat count ++ " 处校验失败"

/-- What is said when the file cannot be written. -/
def unsaved : Text := "保存文件失败"

/-- Saves workflows, of which the one of the id is new or changed. -/
def saveAccepted (c : Catalog) (id : Text) (ws : List Workflow) : Except Fault Report × Catalog :=
  let (r, c) := c.save ws
  (r.map fun done => if done then .done "已保存" [("id", .text id)] else .failed unsaved, c)

/-- Takes a document of a workflow into the list of workflows by `put`. -/
def acceptDocument (c : Catalog) (document : Value) (put : Workflow → List Workflow) :
    Except Fault Report × Catalog :=
  match Workflow.check document with
  | .refused count => (.ok (.failed (refusal count)), c)
  | .accepted w => c.saveAccepted w.id (put w)

/-- The workflows with another one in the place of the first of an id. -/
def replaced (id : Text) (new : Workflow) : List Workflow → List Workflow
  | [] => []
  | w :: rest => if w.id = id then new :: rest else w :: replaced id new rest

/-- The workflow of an id that is not empty. -/
def known? (id : Text) (ws : List Workflow) : Option Workflow :=
  if id.isEmpty then none else ws.find? fun w => w.id = id

/-- Takes in a workflow with nodes and an id that an editor sent. -/
def acceptNodes (seconds : Double) (payload : Value) (nodes : List Value) (id : Text) (c : Catalog)
    (d : Dice) : Except Fault Report × Catalog × Dice :=
  let c := c.keep c.current
  let ws := c.current.workflows
  match known? id ws with
  | some known =>
    let document := documentOf payload nodes (headOf payload known)
    let (r, c) := c.acceptDocument document fun w => replaced id w ws
    (r, c, d)
  | none =>
    match if id.isEmpty then newId seconds d else .ok (id, d) with
    | .error fault => (.error fault, c, d)
    | .ok (id, d) =>
      let (r, c) := c.acceptDocument (documentOf payload nodes (newHead payload id)) fun w => ws ++ [w]
      (r, c, d)

/-- Takes in what an editor sent, at a time in seconds since 1970. -/
def accept (seconds : Double) (payload : Value) (c : Catalog) (d : Dice) :
    Except Fault Report × Catalog × Dice :=
  match payload with
  | .object _ =>
    match nodesOf payload with
    | .error reason => (.ok (.failed reason), c, d)
    | .ok nodes =>
      match idSent payload with
      | .error fault => (.error fault, c.keep c.current, d)
      | .ok id => acceptNodes seconds payload nodes id c d
  | _ => (.error .noFields, c, d)

end ChatFlow.Catalog
