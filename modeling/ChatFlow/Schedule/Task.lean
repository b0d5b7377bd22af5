import ChatFlow.Event

/-!
# Scheduled tasks

A task runs a workflow by the clock: daily at a time, in intervals, or by a schedule in five columns. It
talks to a chat that is fixed beforehand, in the name of a user.

* `Task.check`, `Task.toValue`: reading and writing the document of a task.
-/

namespace ChatFlow

/-- The kinds of tasks. -/
inductive TaskKind where
  | daily
  | interval
  | cron
deriving DecidableEq, Repr

namespace TaskKind

/-- The name of a kind. -/
def label : TaskKind → Text
  | daily => "daily"
  | interval => "interval"
  | cron => "cron"

/-- The names of the kinds. -/
def words : List (Text × TaskKind) := [("daily", daily), ("interval", interval), ("cron", cron)]

end TaskKind

/-- A scheduled task. -/
structure Task where
  id : Text
  workflow : Text
  kind : TaskKind
  /-- Hours and minutes of a daily task. -/
  dailyTime : Option Text
  intervalSeconds : Option Int
  /-- The days of the week of a daily task, 0 for Sunday; all if there are none. -/
  weekdays : Option (List Int)
  /-- The schedule of a task that has one. -/
  cron : Option Text
  targetKind : ChatKind
  targetId : Text
  /-- The user that the task stands for. -/
  user : Option Text
  enabled : Bool
  lastRun : Option Stamp
  runCount : Int
  description : Text

namespace Task

/-- Reads the fields of a task. -/
def checkFields (fs : Fields Value) : Check Task :=
  Task.mk <$> Check.field fs "id" Check.text
    <*> Check.field fs "workflow_id" Check.text
    <*> Check.field fs "task_type" (Check.word TaskKind.words)
    <*> Check.fieldOr fs "daily_time" none (Check.nullable Check.text)
    <*> Check.fieldOr fs "interval_seconds" none (Check.nullable Check.int)
    <*> Check.fieldOr fs "weekdays" none (Check.nullable (Check.list Check.int))
    <*> Check.fieldOr fs "cron_expression" none (Check.nullable Check.text)
    <*> Check.field fs "target_type" (Check.word ChatKind.words)
    <*> Check.field fs "target_id" Check.text
    <*> Check.fieldOr fs "trigger_user_id" none (Check.nullable Check.text)
    <*> Check.fieldOr fs "enabled" true Check.bool
    <*> Check.fieldOr fs "last_run" none (Check.nullable Check.stamp)
    <*> Check.fieldOr fs "run_count" 0 Check.int
    <*> Check.fieldOr fs "description" [] Check.text

/-- Reads the document of a task. -/
def check : Value → Check Task
  | .object fs => checkFields fs
  | _ => .refuse

/-- A value that may be missing. -/
def optional {α : Type} (f : α → Value) (a : Option α) : Value := a.elim .null f

/-- The document of a task. -/
def toValue (t : Task) : Value :=
  .object
    (([("id", .text t.id), ("workflow_id", .text t.workflow), ("task_type", .text t.kind.label),
      ("daily_time", optional .text t.dailyTime),
      ("interval_seconds", optional .int t.intervalSeconds),
      ("weekdays", optional (fun days => .list (days.map .int)) t.weekdays),
      ("cron_expression", optional .text t.cron)] : Fields Value)
    ++ ([("target_type", .text t.targetKind.label), ("target_id", .text t.targetId),
      ("trigger_user_id", optional .text t.user), ("enabled", .bool t.enabled),
      ("last_run", optional (fun s => .text s.text) t.lastRun), ("run_count", .int t.runCount),
      ("description", .text t.description)] : Fields Value))

end Task

end ChatFlow
