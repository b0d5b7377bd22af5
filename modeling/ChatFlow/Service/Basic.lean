import ChatFlow.Catalog.Edit
import ChatFlow.Schedule.Tick

/-!
# The service

The service takes posts of the chat program and requests of the editor. It holds the workflows, the
scheduler and the way to the chat program; whoever knows its master password may change tasks.

* `Service.receive`: a post of the chat program.
* `Service.tick`: a tick of the scheduler.
* `Service.onScheduler`, `Service.onCatalog`: changes of its parts.
* `Service.start`: the service when it is set up from two files, that of the workflows and that of the tasks.
* `Service.restart`: the service after a stop, which keeps the files and the world only.
-/

namespace ChatFlow

/-- The state of the service. -/
structure Service where
  world : World
  catalog : Catalog
  scheduler : Scheduler
  connector : Connector
  /-- Do messages run workflows? -/
  enabled : Bool
  /-- The master password; everybody is master if it is empty. -/
  master : Text
  /-- The time in seconds since 1970, which new ids tell. -/
  seconds : Double

namespace Service

/-- The runner of workflows in a chat. -/
def runner (s : Service) (chat : Chat) : Runner := ⟨.connected s.connector chat, [], "workflow"⟩

/-- What tasks are run with. -/
def host (s : Service) : TaskHost :=
  ⟨fun t => s.runner (.ofTarget t.kind t.id),
    fun id => s.catalog.current.workflows.find? fun w => w.id = id, "scheduler"⟩

/-- The line of a message that was handled. -/
def handledLine (e : Event) : Journal.Line :=
  Journal.measured "workflow" "handle_message" none [("user_id", .text e.userId)]

/-- Runs workflows for a message. Did one of them let no later one run? -/
def handle (s : Service) (e : Event) : Bool × Service :=
  let (ws, catalog) := s.catalog.load
  let (handled, world) := (s.runner (.ofEvent e)).handle s.enabled ws e s.world
  (handled, { s with catalog := catalog, world := world.log (handledLine e) })

/-- Takes a post of the chat program; one that is no message does nothing. -/
def receive (s : Service) (post : Value) : Except Fault Bool × Service :=
  match Event.ofPost? post with
  | .error fault => (.error fault, s)
  | .ok none => (.ok false, s)
  | .ok (some e) =>
    let (handled, s) := s.handle e
    (.ok handled, s)

/-- Runs something of the scheduler that runs tasks. -/
def onTasks {α : Type} (s : Service)
    (run : TaskHost → Scheduler.State → Except Fault α × Scheduler.State) : Except Fault α × Service :=
  let (r, scheduler, world) := run s.host (s.scheduler, s.world)
  (r, { s with scheduler := scheduler, world := world })

/-- Runs the tasks that are due. -/
def tick (s : Service) : Except Fault (List Text) × Service := s.onTasks Scheduler.tick

/-- Changes the scheduler. -/
def onScheduler {α : Type} (s : Service) (change : Scheduler → α × Scheduler) : α × Service :=
  let (a, scheduler) := change s.scheduler
  (a, { s with scheduler := scheduler })

/-- Changes the catalog. -/
def onCatalog {α : Type} (s : Service) (change : Catalog → α × Catalog) : α × Service :=
  let (a, catalog) := change s.catalog
  (a, { s with catalog := catalog })

/-- Takes in a workflow that an editor sent. -/
def accept (s : Service) (payload : Value) : Except Fault Report × Service :=
  let (r, catalog, dice) := s.catalog.accept s.seconds payload s.world.dice
  (r, { s with catalog := catalog, world := { s.world with dice := dice } })

/-! ## Setting up -/

/-- The address of the chat program by default. -/
def defaultAddress : Text := "http://127.0.0.1:3000"

/-- Does a word switch something on? -/
def isOn (word : Text) : Bool := (["1", "true", "yes", "on"] : List Text).contains word.trim.toLower

/-- The service of two files, with everything else as it is by default. -/
def start (workflows tasks : File) (seconds : Double) (w : World) : Service :=
  { world := w
    catalog := .ofFile workflows
    scheduler := .ofFile tasks
    connector := .of defaultAddress []
    enabled := true
    master := []
    seconds := seconds }

/-- The service as it is set up once more. -/
def restart (s : Service) : Service :=
  { s with catalog := .ofFile s.catalog.file, scheduler := .ofFile s.scheduler.file }

end Service

end ChatFlow
