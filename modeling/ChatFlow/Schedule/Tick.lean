import ChatFlow.Run.Runner
import ChatFlow.Schedule.Due
import ChatFlow.Schedule.Scheduler

/-!
# Running tasks

At every tick the tasks that are due run one after the other, each in two steps: it is started, which
finds its workflow and runs it, and it is finished, which notes the run and writes the file.

* `Scheduler.start?`: what a task is going to run.
* `Scheduler.execute`: a task from its start to its finish.
* `Scheduler.tick`: all tasks that are due.
-/

namespace ChatFlow

/-- What tasks are run with: a runner for each chat, the workflows by their ids, and the name that
lines of the journal are written under. -/
structure TaskHost where
  runner : Target → Runner
  workflow : Text → Option Workflow
  component : Text

/-- What is said of a fault of the scheduler. -/
def Fault.message : Fault → Text
  | .outsideCalendar => "date value out of range"
  | _ => []

namespace Task

/-- The user that tasks stand for when none is named. -/
def virtualUser : Text := "scheduled"

/-- The chat that a task talks to. -/
def target (t : Task) : Target := ⟨t.targetKind.label, t.targetId⟩

/-- The event that stands for the message that a task does not have. -/
def event (t : Task) : Event :=
  let user := (t.user.filter (!·.isEmpty)).getD virtualUser
  { Event.ofUser user with
    groupId := if t.targetKind = .group then some t.targetId else none
    kind := t.targetKind }

end Task

namespace Scheduler

/-- The line of a task whose run ended as a whole. -/
def failedLine (host : TaskHost) (t : Task) (w : Workflow) (fault : RunFault) : Journal.Line :=
  Journal.lineOf host.component "scheduled_task_failed" .error
    [("task_id", .text t.id), ("workflow_id", .text w.id), ("error", .text fault.message)]

/-- The line of a task that ran. -/
def executedLine (host : TaskHost) (t : Task) (w : Workflow) (executed : List Text) : Journal.Line :=
  Journal.lineOf host.component "scheduled_task_executed" .info
    [("task_id", .text t.id), ("workflow_id", .text w.id),
     ("executed_nodes", .list (executed.map .text))]

/-- What a task is going to run: its workflow, if there is one and it is enabled. -/
def start? (s : Scheduler) (host : TaskHost) (id : Text) : Option (Task × Workflow) := do
  let t ← s.tasks.get? id
  let w ← host.workflow t.workflow
  if w.enabled then some (t, w) else none

/-- The state of the scheduler and of its surroundings. -/
abbrev State := Scheduler × World

/-- Runs a task that is started, and finishes it if the run comes to its end. -/
def runStarted (host : TaskHost) (id : Text) (t : Task) (w : Workflow) (state : State) :
    Except Fault Bool × State :=
  let (s, world) := state
  match (host.runner t.target).executeScheduled w t.event world with
  | (.error fault, world) => (.ok false, s, world.log (failedLine host t w fault))
  | (.ok context, world) =>
    match s.noteRun id t world.clock with
    | (.error fault, s) => (.error fault, s, world)
    | (.ok (), s) => (.ok true, s, world.log (executedLine host t w context.executed))

/-- Runs a task. Did it run to its end? -/
def execute (host : TaskHost) (id : Text) (state : State) : Except Fault Bool × State :=
  match state.1.start? host id with
  | none => (.ok false, state)
  | some (t, w) => runStarted host id t w state

/-- Runs those of some tasks that are due, and gives the ids of those that ran to their end. -/
def executeDue (host : TaskHost) (now : Moment) : List Task → State → Except Fault (List Text) × State
  | [], state => (.ok [], state)
  | t :: rest, state =>
    match if t.enabled then t.isDue ⟨now, none⟩ else .ok false with
    | .error fault => (.error fault, state)
    | .ok false => executeDue host now rest state
    | .ok true =>
      match execute host t.id state with
      | (.error fault, state) => (.error fault, state)
      | (.ok ran, state) =>
        let (r, state) := executeDue host now rest state
        (r.map fun ids => if ran then t.id :: ids else ids, state)

/-- The line of a tick. -/
def tickLine (host : TaskHost) (count : Nat) (r : Except Fault (List Text)) : Journal.Line :=
  let failure : Option Text :=
    match r with
    | .ok _ => none
    | .error fault => some fault.message
  Journal.measured host.component "scheduler_tick" failure [("tasks", .int count)]

/-- Runs all tasks that are due at the time of the clock. -/
def tick (host : TaskHost) (state : State) : Except Fault (List Text) × State :=
  let tasks := state.1.tasks.map Prod.snd
  let (r, s, world) := executeDue host state.2.clock tasks state
  (r, s, world.log (tickLine host tasks.length r))

/-- Runs a task at once, whether it is due or not. -/
def runNow (host : TaskHost) (id : Text) (state : State) : Except Fault Report × State :=
  if state.1.tasks.has id then
    let (r, state) := execute host id state
    (r.map fun _ => .done "已执行" [], state)
  else (.ok missing, state)

end Scheduler

end ChatFlow
