import ChatFlow.Schedule.Cron
import ChatFlow.Schedule.Task

/-!
# When tasks are due

A daily task is due in its minute, once a day; a task in intervals when its time has passed; a task with
a schedule in the minutes of the schedule, once a minute.

* `Task.isDue`: is a task due?
-/

namespace ChatFlow.Task

/-- Does the task run on the day of the week? -/
def runsOn (t : Task) (weekday : Nat) : Bool :=
  match t.weekdays with
  | some (day :: days) => (day :: days).contains (weekday : Int)
  | _ => true

/-- Is a daily task due? -/
def isDailyDue (t : Task) (now : Moment) (last : Option Moment) : Bool :=
  t.dailyTime = some now.clockText && t.runsOn now.weekday && last.all fun m => m.day ≠ now.day

/-- The seconds from one moment to another. -/
def secondsBetween (last now : Moment) : Double :=
  .ofRatio (now.micros - last.micros) 1000000

/-- Is a task in intervals due? -/
def isIntervalDue (t : Task) (now : Moment) (last : Option Moment) : Bool :=
  match t.intervalSeconds with
  | none => false
  | some n =>
    0 < n && last.all fun m => (secondsBetween m now).compareInt? n != some .lt

/-- Is a task with a schedule due? -/
def isCronDue (t : Task) (now : Moment) (last : Option Moment) : Bool :=
  match t.cron.bind Cron.parse? with
  | none => false
  | some c => c.fits now && last.all fun m => m.minute ≠ now.minute

/-- Is a task due at a moment, given when it ran last? -/
def isDueAt (t : Task) (now : Moment) (last : Option Moment) : Bool :=
  match t.kind with
  | .daily => t.isDailyDue now last
  | .interval => t.isIntervalDue now last
  | .cron => t.isCronDue now last

/-- The local moment of the last run. -/
def lastMoment (t : Task) : Except Fault (Option Moment) :=
  match t.lastRun with
  | none => .ok none
  | some s => s.toLocal.map some

/-- Is a task due? -/
def isDue (t : Task) (s : Stamp) : Except Fault Bool := do
  let now ← s.toLocal
  let last ← t.lastMoment
  return t.isDueAt now last

end ChatFlow.Task
