import ChatFlow.Run.Action
import ChatFlow.Run.Condition
import ChatFlow.Run.Pick
import ChatFlow.Run.Storage
import ChatFlow.Workflow.Trigger
import ChatFlow.Workflow.Walk

/-!
# Running workflows

A message runs a workflow from the trigger that it sets off; the clock runs it from behind all of its
triggers. What a visit of a node changes stays changed, also when the visit or the run fails.

* `Runner.visit`: a visit of a node.
* `Runner.execute`: a run that a message sets off.
* `Runner.executeScheduled`: a run that the clock sets off.
-/

namespace ChatFlow

namespace Act

/-- The longest wait, in seconds. -/
def maxWait : Double := 10

/-- Waits for some seconds. -/
def wait (seconds : Double) : Act Unit :=
  modifyWorld (World.act (.paused (Double.max 0 (seconds.min maxWait))))

/-- The node that sets a variable; without a name it does nothing. -/
def assign (d : SetVarData) (m : Message) : Act Unit := do
  if d.varName.isEmpty then return
  setVariable d.varName (.text (← render m d.value))

end Act

/-- Why a run ends as a whole. -/
inductive RunFault where
  /-- A trigger cannot be compared with the message. -/
  | trigger (fault : Fault)
  /-- The walk through a workflow ends. -/
  | walk (workflow : Text) (fault : WalkFault)
deriving DecidableEq, Repr

namespace WalkFault

/-- What is said of a walk that ends as a whole. -/
def message (workflow : Text) : WalkFault → Text
  | revisits node path =>
    ("Workflow '" : Text) ++ workflow ++ "' revisits node '" ++ node ++ "' via "
      ++ Text.join " -> " path
  | tooDeep =>
    ("Workflow '" : Text) ++ workflow ++ "' exceeded traversal depth " ++ Text.ofNat Workflow.maxDepth

end WalkFault

namespace RunFault

/-- What is said of a trigger that cannot be compared. -/
def triggerMessage : Fault → Text
  | .repetitionTooLarge => "the repetition number is too large"
  | .conflictingFlags => "ASCII and UNICODE flags are incompatible"
  | _ => []

/-- What is said of a run that ends as a whole. -/
def message : RunFault → Text
  | trigger fault => triggerMessage fault
  | walk workflow fault => fault.message workflow

end RunFault

namespace Runner

/-- What a node does, and the slot that it chooses. -/
def perform (r : Runner) (m : Message) : NodeBody → Act Slot
  | .trigger _ => return .first
  | .condition d => return if ← Act.holds d m then .first else .second
  | .action d => do Act.act r d m; return .first
  | .delay d => do Act.wait d.seconds; return .first
  | .setVar d => do Act.assign d m; return .first
  | .storage d => do Act.storeUser d m; return .first
  | .sharedStorage d => do Act.storeShared d m; return .first
  | .leaderboard d => do Act.leaderboard d m; return .first
  | .listRandom d => do Act.pick d m; return .first

/-- The line of a node that failed. -/
def failureLine (r : Runner) (w : Workflow) (n : Node) : Journal.Line :=
  Journal.lineOf r.component "node_failed" .warning
    [("workflow_id", .text w.id), ("node_id", .text n.id), ("node_type", .text n.body.kind.label)]

/-- Notes that a node is executed. -/
def noteExecuted (n : Node) (s : Scene) : Scene :=
  { s with context := { s.context with executed := s.context.executed ++ [n.id] } }

/-- Notes that a node failed. -/
def noteFailed (r : Runner) (w : Workflow) (n : Node) (s : Scene) : Scene :=
  { world := s.world.log (r.failureLine w n)
    context := { s.context with failed := s.context.failed ++ [n.id] } }

/-- A visit of a node. -/
def visit (r : Runner) (w : Workflow) (m : Message) (n : Node) (s : Scene) : Outcome × Scene :=
  match (r.perform m n.body).run.run (noteExecuted n s) with
  | (.ok slot, s) => (.leaves slot, s)
  | (.error _, s) => (.fails, r.noteFailed w n s)

/-- The line of a trigger that a message set off. -/
def matchedLine (r : Runner) (w : Workflow) (trigger : Node) (user : Text) : Journal.Line :=
  Journal.lineOf r.component "workflow_matched" .info
    [("workflow_id", .text w.id), ("trigger_id", .text trigger.id), ("user_id", .text user)]

/-- What a walk through a workflow leaves. -/
def finish (w : Workflow) (result : Except WalkFault Unit × Scene) : Except RunFault Context × World :=
  match result with
  | (.ok (), s) => (.ok s.context, s.world)
  | (.error fault, s) => (.error (.walk w.id fault), s.world)

/-- Runs a workflow for a message from the first trigger that it sets off, if it sets off one. -/
def execute (r : Runner) (w : Workflow) (m : Message) (world : World) :
    Except RunFault (Option Context) × World :=
  match Trigger.first? m.content w.triggers with
  | .error fault => (.error (.trigger fault), world)
  | .ok none => (.ok none, world)
  | .ok (some (trigger, captures)) =>
    let world := world.log (r.matchedLine w trigger m.event.userId)
    let scene : Scene := ⟨world, .start captures⟩
    let (result, world) := finish w (w.walkFrom (r.visit w m) trigger.id scene)
    (result.map some, world)

/-- Runs a workflow without a message, from behind all of its triggers. -/
def executeScheduled (r : Runner) (w : Workflow) (e : Event) (world : World) :
    Except RunFault Context × World :=
  let m : Message := ⟨e, []⟩
  let scene : Scene := ⟨world, .start []⟩
  finish w (Step.all (fun trigger => w.walkBehind (r.visit w m) trigger.id) w.triggers scene)

/-! ## Several workflows -/

/-- The line of a run that ended as a whole. -/
def brokenLine (r : Runner) (w : Workflow) (fault : RunFault) : Journal.Line :=
  Journal.lineOf r.component "workflow_failed" .error
    [("workflow_id", .text w.id), ("name", .text w.name), ("error", .text fault.message)]

/-- Runs the enabled workflows one after the other, up to the first that was set off, ran to its end and
lets no later one run. Was there one? -/
def executeAll (r : Runner) (m : Message) : List Workflow → World → Bool × World
  | [], world => (false, world)
  | w :: rest, world =>
    if w.enabled then
      match r.execute w m world with
      | (.error fault, world) => executeAll r m rest (world.log (r.brokenLine w fault))
      | (.ok none, world) => executeAll r m rest world
      | (.ok (some _), world) => if w.stopPropagation then (true, world) else executeAll r m rest world
    else executeAll r m rest world

/-- Runs workflows for an event if they are switched on; a blank message runs none. -/
def handle (r : Runner) (enabled : Bool) (workflows : List Workflow) (e : Event) (world : World) :
    Bool × World :=
  let content := e.raw.trim
  if !enabled || content.isEmpty then (false, world)
  else r.executeAll ⟨e, content⟩ workflows world

end Runner

end ChatFlow
