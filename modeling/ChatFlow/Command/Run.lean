import ChatFlow.Command.Basic
import ChatFlow.Service.Basic

/-!
# Running commands

A command sets up the service, does its work and prints lines and tables.

* `Command.run`: what a command prints, and the service after it.
* `Command.runArguments`: the same for the arguments of a command line.
-/

namespace ChatFlow

/-- Something that is printed. -/
inductive Printed where
  /-- A line with marks of style. -/
  | line (t : Text)
  | table (title : Text) (columns : List Text) (rows : List (List Text))
  /-- Requests are taken at a host and port from now on. -/
  | serving (host : Text) (port : Int)
deriving DecidableEq, Repr

/-- What comes of a command line. -/
structure Command.Outcome where
  printed : List Printed
  /-- The exit code, when it was not the command that ended. -/
  exit : Option Int
  /-- Is it shown how the commands are used? -/
  usage : Bool
deriving DecidableEq, Repr

namespace Command

/-! ## Tables -/

/-- The cell of a truth value. -/
def truthCell (b : Bool) : Text := if b then "True" else "False"

/-- The cell of something that may be missing. -/
def cellOr {α : Type} (f : α → Text) (a : Option α) : Text := a.elim "None" f

/-- The row of a workflow. -/
def workflowRow (w : Workflow) : List Text :=
  let triggers := w.triggers.map fun n =>
    match n.body with
    | .trigger t => t.kind ++ ":" ++ t.pattern
    | _ => []
  [w.id, w.name, Text.join ", " triggers, Text.ofNat w.nodes.length, truthCell w.enabled,
   truthCell w.stopPropagation]

/-- The table of workflows. -/
def workflowTable (ws : List Workflow) : Printed :=
  .table "Workflows" ["ID", "Name", "Triggers", "Nodes", "Enabled", "Stop"]
    (ws.map workflowRow)

/-- Days of the week in brackets, after a blank; nothing for all days. -/
def weekdaysText : Option (List Int) → Text
  | none | some [] => []
  | some days => (" [" : Text) ++ Text.join ", " (days.map Text.ofInt) ++ "]"

/-- When a task is run. -/
def scheduleText (t : Task) : Text :=
  match t.kind with
  | .daily => ("daily " : Text) ++ cellOr id t.dailyTime ++ weekdaysText t.weekdays
  | .interval => ("every " : Text) ++ cellOr Text.ofInt t.intervalSeconds ++ "s"
  | .cron => ("cron " : Text) ++ cellOr id t.cron

/-- The row of a task. -/
def taskRow (t : Task) : List Text :=
  [t.id, t.workflow, scheduleText t, t.target.kind ++ ":" ++ t.target.id, truthCell t.enabled,
   Text.ofInt t.runCount, t.lastRun.elim "-" fun stamp => stamp.reading.dateTimeText]

/-- The table of tasks. -/
def taskTable (ts : List Task) : Printed :=
  .table "Scheduled Tasks"
    ["ID", "Workflow", "Schedule", "Target", "Enabled", "Runs", "Last run"]
    (ts.map taskRow)

/-! ## Lines -/

/-- What is printed of a task that was run. -/
def reportLine (id : Text) (r : Report) : Text :=
  if r.success then ("[bold green]Task executed:[/] " : Text) ++ id
  else ("[bold red]Error:[/] " : Text) ++ r.error

/-- A key and whose it is. -/
def placeText (owner : Owner) (key : Text) : Text :=
  match owner with
  | .user id => ("user:" : Text) ++ id ++ "/" ++ key
  | .shared => ("global/" : Text) ++ key

/-- What is printed of a value that was written or not. -/
def savedLine (owner : Owner) (key : Text) (v : Value) (saved : Bool) : Text :=
  if saved then
    ("[bold green]Saved:[/] " : Text) ++ placeText owner key ++ " = " ++ Json.text .line v
  else ("[bold red]Failed to save:[/] " : Text) ++ placeText owner key

/-- What is printed of a value that was looked for; null counts as none. -/
def foundLine (owner : Owner) (key : Text) : Value → Text
  | .null => ("[bold yellow]Not found:[/] " : Text) ++ placeText owner key
  | v => ("[bold cyan]" : Text) ++ placeText owner key ++ "[/]: " ++ Json.text .line v

/-- What is printed before requests are taken. -/
def servingLine (host : Text) (port : Int) : Text :=
  ("[bold green]Workflow bot listening on[/] http://" : Text) ++ host ++ ":" ++ Text.ofInt port

/-! ## Commands -/

/-- Runs a command with the service, which is set up for it. -/
def run (s : Service) : Command → Except Fault (List Printed) × Service
  | serve host port => (.ok [.line (servingLine host port), .serving host port], s)
  | listWorkflows =>
    let (ws, s) := s.restart.onCatalog Catalog.load
    (.ok [workflowTable ws], s)
  | listTasks =>
    let s := s.restart
    (.ok [taskTable (s.scheduler.tasks.map Prod.snd)], s)
  | runTask id =>
    let (r, s) := s.restart.onTasks fun host => Scheduler.runNow host id
    (r.map fun r => [.line (reportLine id r)], s)
  | setValue owner key value =>
    let s := s.restart
    let v := valueOf value
    let (saved, store) := s.world.store.write owner key v
    (.ok [.line (savedLine owner key v saved)], { s with world := { s.world with store := store } })
  | getValue owner key =>
    let s := s.restart
    ((s.world.store.read owner key .null).map fun v => [.line (foundLine owner key v)], s)

/-- The exit code for arguments that are refused. -/
def refusedExit : Int := 2

/-- Runs the command that arguments name. Without a command it is shown how they are used. -/
def runArguments (s : Service) (arguments : List Text) : Except Fault Command.Outcome × Service :=
  match read arguments with
  | .refused => (.ok ⟨[], some refusedExit, false⟩, s)
  | .help => (.ok ⟨[], some 0, true⟩, s)
  | .done none => (.ok ⟨[], none, true⟩, s)
  | .done (some c) =>
    let (r, s) := c.run s
    (r.map fun printed => ⟨printed, none, false⟩, s)

end Command

end ChatFlow
