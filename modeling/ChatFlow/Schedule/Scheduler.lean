import ChatFlow.File
import ChatFlow.Report
import ChatFlow.Schedule.Cron
import ChatFlow.Schedule.Task
import ChatFlow.Value.Number

/-!
# The scheduler

The scheduler holds tasks by their ids. Every change is written into a file, with the entries of the
file that are no tasks; these are kept under their keys and take no part.

* `Scheduler.ofFile`: the tasks of a file.
* `Scheduler.add`, `Scheduler.remove`, `Scheduler.toggle`: changes.
* `Scheduler.noteRun`: what is noted of a run.
-/

namespace ChatFlow

/-- The tasks, their file, and the entries of the file that are no tasks. -/
structure Scheduler where
  file : File
  tasks : Fields Task
  unread : Fields Value

namespace Scheduler

/-- The entries of a file; a file that holds no object has none. -/
def entries (f : File) : Fields Value :=
  match f.document? with
  | some (.object fs) => fs
  | _ => []

/-- Takes in an entry of a file. -/
def takeEntry (s : Scheduler) (entry : Text × Value) : Scheduler :=
  match Task.check entry.2 with
  | .accepted t => { s with tasks := s.tasks.set t.id t }
  | .refused _ => { s with unread := s.unread.set entry.1 entry.2 }

/-- The scheduler of a file. -/
def ofFile (f : File) : Scheduler := (entries f).foldl takeEntry ⟨f, [], []⟩

/-- The document of all entries: first those that are no tasks, unless a task has their key. -/
def document (s : Scheduler) : Value :=
  .object ((s.unread.filter fun (key, _) => !s.tasks.has key)
    ++ s.tasks.map fun (id, t) => (id, t.toValue))

/-- Writes the file. A file that cannot be written is left as it is. -/
def save (s : Scheduler) : Except Fault Unit × Scheduler :=
  let (r, file) := s.file.writeDocument s.document
  (r.map fun _ => (), { s with file := file })

/-- Writes the file and reports. -/
def saveAnd (s : Scheduler) (report : Report) : Except Fault Report × Scheduler :=
  let (r, s) := s.save
  (r.map fun _ => report, s)

/-! ## Adding -/

/-- The fields that a task has to have. -/
def requiredFields : List Text := ["id", "workflow_id", "target_id", "target_type", "task_type"]

/-- Is the code point a digit from 0 to `last`? -/
def isDigitTo (last : Char) (c : CodePoint) : Bool := c.isAscii fun d => '0' ≤ d && d ≤ last

/-- Is the text an hour and a minute in two digits each? -/
def isTimeOfDay (t : Text) : Bool :=
  match t.withoutLineEnd with
  | [h, i, .scalar ':', m, n] =>
    ((isDigitTo '1' h && i.isDecimal) || (h == .scalar '2' && isDigitTo '3' i))
      && isDigitTo '5' m && n.isDecimal
  | _ => false

/-- The shortest interval, in seconds. -/
def shortestInterval : Int := 60

/-- The number of seconds that was sent; zero if it is no number. -/
def secondsSent (v : Value) : Except Fault Int :=
  match (if v.truthy then v else .int 0).exactInteger with
  | .error .infinite => .error .infinite
  | r => .ok (r.toOption.getD 0)

/-- The text that was sent, empty if it does not count as true. -/
def textSent (v : Value) : Except Fault Text := (if v.truthy then v else .text []).plain

/-- What is said against the settings of a kind of tasks. -/
def objection (payload : Value) : Except Fault (Option Text) := do
  match payload.fieldOrNull "task_type" with
  | .text kind =>
    if kind = "daily" then
      let t ← textSent (payload.fieldOrNull "daily_time")
      return if isTimeOfDay t then none else some "每日任务需要指定 daily_time (HH:MM)"
    else if kind = "interval" then
      let n ← secondsSent (payload.fieldOrNull "interval_seconds")
      return if n < shortestInterval then some "间隔任务需要 interval_seconds >= 60" else none
    else if kind = "cron" then
      let t ← textSent (payload.fieldOrNull "cron_expression")
      return if (Cron.parse? t).isSome then none else some "cron 任务需要有效的 cron_expression"
    else return none
  | _ => return none

/-- The document of a new task, which has not run yet. -/
def newDocument (fs : Fields Value) : Value :=
  let enabled := Value.bool ((fs.get? "enabled").getD .null ≠ .bool false)
  .object (((fs.set "enabled" enabled).set "last_run" .null).set "run_count" (.int 0))

/-- What is said of a task that is not accepted. -/
def refusal (count : Nat) : Text := ("任务参数无效: " : Text) ++ Text.ofNat count ++ " 处校验失败"

/-- Adds a task, or replaces the one of its id. -/
def put (s : Scheduler) (t : Task) : Except Fault Report × Scheduler :=
  let message := ("定时任务 [" : Text) ++ t.id ++ "] 已添加"
  { s with tasks := s.tasks.set t.id t }.saveAnd (.done message [])

/-- Adds the task of fields that were sent. -/
def addFields (s : Scheduler) (fs : Fields Value) : Except Fault Report × Scheduler :=
  if !requiredFields.all fun name => ((fs.get? name).getD .null).truthy then
    (.ok (.failed "缺少必要参数"), s)
  else
    match objection (.object fs) with
    | .error fault => (.error fault, s)
    | .ok (some reason) => (.ok (.failed reason), s)
    | .ok none =>
      match Task.check (newDocument fs) with
      | .refused count => (.ok (.failed (refusal count)), s)
      | .accepted t => s.put t

/-- Adds a task that was sent. -/
def add (s : Scheduler) : Value → Except Fault Report × Scheduler
  | .object fs => s.addFields fs
  | _ => (.error .noFields, s)

/-! ## Other changes -/

/-- What is said when there is no task of an id. -/
def missing : Report := .failed "任务不存在"

/-- Removes a task, or else an entry that is no task. -/
def remove (s : Scheduler) (id : Text) : Except Fault Report × Scheduler :=
  let removed : Report := .done "已删除" []
  if s.tasks.has id then { s with tasks := s.tasks.erase id }.saveAnd removed
  else
    let entry := (s.unread.get? id).getD .null
    let s := { s with unread := s.unread.erase id }
    if entry = .null then (.ok missing, s) else s.saveAnd removed

/-- Enables or disables a task. -/
def toggle (s : Scheduler) (id : Text) : Except Fault Report × Scheduler :=
  match s.tasks.get? id with
  | none => (.ok missing, s)
  | some t =>
    let enabled := !t.enabled
    { s with tasks := s.tasks.set id { t with enabled := enabled } }.saveAnd
      (.done [] [("enabled", .bool enabled)])

/-- Notes that a task ran: the local time now, and that it ran once more. A task that was changed
meanwhile keeps the change. -/
def noteRun (s : Scheduler) (id : Text) (started : Task) (now : Moment) : Except Fault Unit × Scheduler :=
  let t := (s.tasks.get? id).getD started
  let t := { t with lastRun := some ⟨now, none⟩, runCount := t.runCount + 1 }
  { s with tasks := s.tasks.set id t }.save

end Scheduler

end ChatFlow
