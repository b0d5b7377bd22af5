import ChatFlow.Service.Basic
import ChatFlow.Service.Master
import ChatFlow.Service.Trial

/-!
# Requests to the service

A request names a method and a path, which together are a route. The body of a request to change
something is a JSON document of the form that its route asks for.

* `Service.answer`: the answer to a request, and the service after it.
* `Service.isDenied`: is somebody refused who has to be the master?
-/

namespace ChatFlow

/-- A request to the service. -/
structure Request where
  method : Text
  path : Text
  query : Fields Text
  /-- The bytes of the body; a request without body has none. -/
  body : List UInt8

/-- An answer of the service. -/
inductive Response where
  | done (document : Value)
  /-- The path without its slashes at the end is a route. -/
  | moved
  /-- The body is no text. -/
  | unreadable
  /-- There is no such path. -/
  | notFound
  /-- The path knows no such method. -/
  | notAllowed
  /-- The body is not of the form that the route asks for. -/
  | unfit
  /-- The request could not be carried out. -/
  | broken (fault : Fault)

/-- The status of an answer. -/
def Response.status : Response → Int
  | done _ => 200
  | moved => 307
  | unreadable => 400
  | notFound => 404
  | notAllowed => 405
  | unfit => 422
  | broken _ => 500

/-- The routes. -/
inductive Route where
  | health
  | event
  | config
  | verifyMaster
  | workflows
  | saveWorkflow
  | deleteWorkflow
  | toggleWorkflow
  | trial
  | tasks
  | addTask
  | deleteTask
  | toggleTask
  | runTask
deriving DecidableEq, Repr

/-- The paths of the routes. -/
def Route.paths : List (Text × Route) :=
  ([("/health", .health), ("/onebot/event", .event), ("/api/config", .config),
    ("/api/verify_master", .verifyMaster), ("/api/workflows", .workflows),
    ("/api/workflows/save", .saveWorkflow), ("/api/workflows/delete", .deleteWorkflow)]
      : List (Text × Route))
  ++ ([("/api/workflows/toggle", .toggleWorkflow), ("/api/test_api", .trial),
    ("/api/scheduled", .tasks), ("/api/scheduled/add", .addTask),
    ("/api/scheduled/delete", .deleteTask), ("/api/scheduled/toggle", .toggleTask),
    ("/api/scheduled/run", .runTask)] : List (Text × Route))

/-- The method of a route. -/
def Route.method : Route → Text
  | health | config | workflows | tasks => "GET"
  | _ => "POST"

namespace Service

/-! ## The master -/

/-- The name of the parameter that holds the password. -/
def passwordName : Text := "master_password"

/-- The password that a request supplies, in its body or else in its query. -/
def supplied (r : Request) (inBody : Value) : Value :=
  if inBody.truthy then inBody else .text ((r.query.get? passwordName).getD [])

/-- Is a request refused that only the master may make? -/
def isDenied (s : Service) (r : Request) (inBody : Value) : Bool :=
  !s.master.isEmpty && supplied r inBody ≠ .text s.master

/-- What somebody is told who has to be the master. -/
def denial : Value :=
  .object [("success", .bool false), ("error", .text "需要主人权限，请验证密码"),
    ("need_auth", .bool true)]

/-- A document without the password. -/
def withoutPassword (fs : Fields Value) : Value := .object (fs.erase passwordName)

/-! ## Answers -/

/-- An answer that holds what the routes say, or that the request could not be carried out. -/
abbrev Answer := Except Fault Value × Service

/-- What an editor is told who did not name an id. -/
def missingId : Value := .object [("success", .bool false), ("error", .text "缺少ID")]

/-- A report as answer. -/
def reported (r : Except Fault Report × Service) : Answer := (r.1.map Report.toValue, r.2)

/-- An id and a password that an editor sent. -/
structure Named where
  id : Text
  password : Text

/-- Reads an id and a password. -/
def Named.check : Value → Check Named
  | .object fs =>
    Named.mk <$> Check.fieldOr fs "id" [] Check.exactText
      <*> Check.fieldOr fs passwordName [] Check.exactText
  | _ => .refuse

/-- Takes a post of the chat program. -/
def answerEvent (s : Service) (post : Value) : Answer :=
  let (r, s) := s.receive post
  (r.map fun handled => .object [("success", .bool true), ("handled", .bool handled)], s)

/-- The settings that an editor has to know. -/
def config (s : Service) : Value :=
  .object [("success", .bool true), ("enabled", .bool s.enabled),
    ("require_master", .bool !s.master.isEmpty),
    ("master_only_triggers", .list (Trigger.clockKinds.map .text))]

/-- Is a password the one of the master? -/
def verify (s : Service) (password : Text) : Value :=
  if s.master.isEmpty || password = s.master then
    .object [("success", .bool true), ("message", .text "验证成功")]
  else .object [("success", .bool false), ("error", .text "密码错误")]

/-- A list under a name. -/
def listed (name : Text) (items : List Value) : Value :=
  .object [("success", .bool true), (name, .list items)]

/-- All workflows. -/
def answerWorkflows (s : Service) : Answer :=
  let (ws, s) := s.onCatalog Catalog.load
  (.ok (listed "workflows" (ws.map Workflow.toValue)), s)

/-- Takes in a workflow that an editor sent, if it does not need the master or comes from there. -/
def saveWorkflow (s : Service) (r : Request) (fs : Fields Value) : Answer :=
  match needsMaster (.object fs) with
  | .error fault => (.error fault, s)
  | .ok needed =>
    if needed && s.isDenied r ((fs.get? passwordName).getD .null) then (.ok denial, s)
    else reported (s.accept (withoutPassword fs))

/-- Changes the workflow of an id, and tells what was done whether there is one or not. -/
def changeWorkflow (s : Service) (id message : Text)
    (change : Catalog → Text → Except Fault Bool × Catalog) : Answer :=
  if id.isEmpty then (.ok missingId, s)
  else
    let (r, s) := s.onCatalog fun c => change c id
    (r.map fun done => .object [("success", .bool done), ("message", .text message)], s)

/-- Adds a task that the master sent. -/
def addTask (s : Service) (r : Request) (fs : Fields Value) : Answer :=
  if s.isDenied r ((fs.get? passwordName).getD .null) then (.ok denial, s)
  else reported (s.onScheduler fun scheduler => scheduler.add (withoutPassword fs))

/-- Does something with a task that the master named. -/
def onTask (s : Service) (r : Request) (n : Named) (change : Text → Except Fault Report × Service) :
    Answer :=
  if s.isDenied r (.text n.password) then (.ok denial, s)
  else if n.id.isEmpty then (.ok missingId, s)
  else reported (change n.id)

/-- Tries a request that an editor sent. -/
def tryRequest (s : Service) (t : Trial) : Answer :=
  let (r, world) := t.run s.world
  (r, { s with world := world })

/-! ## Routing -/

/-- The response that holds a document; one that cannot be encoded cannot be sent. -/
def responseOf (document : Value) : Response :=
  if (Json.text .line document).isWellFormed then .done document.settled else .broken .unencodable

/-- The response of an answer. -/
def respond (a : Answer) : Response × Service :=
  match a with
  | (.ok v, s) => (responseOf v, s)
  | (.error fault, s) => (.broken fault, s)

/-- Answers with a body of the form that `form` reads. -/
def withBody {α : Type} (s : Service) (r : Request) (form : Value → Check α) (answer : α → Answer) :
    Response × Service :=
  match Encoding.documentText? r.body with
  | none => (.unreadable, s)
  | some t =>
    match (Json.read? t).bind fun v => (form v).toOption with
    | some a => respond (answer a)
    | none => (.unfit, s)

/-- The form of a body that is a password. -/
def checkPassword : Value → Check Text
  | .object fs => Check.fieldOr fs "password" [] Check.exactText
  | _ => .refuse

/-- The answer to a request of a route. -/
def answerRoute (s : Service) (r : Request) : Route → Response × Service
  | .health => respond (.ok (.object [("status", .text "ok")]), s)
  | .config => respond (.ok s.config, s)
  | .workflows => respond s.answerWorkflows
  | .tasks => respond (.ok (listed "tasks" (s.scheduler.tasks.map fun (_, t) => t.toValue)), s)
  | .event => s.withBody r Check.object fun fs => s.answerEvent (.object fs)
  | .verifyMaster => s.withBody r checkPassword fun password => (.ok (s.verify password), s)
  | .saveWorkflow => s.withBody r Check.object (s.saveWorkflow r)
  | .deleteWorkflow => s.withBody r Named.check fun n => s.changeWorkflow n.id "已删除" Catalog.delete
  | .toggleWorkflow =>
    s.withBody r Named.check fun n => s.changeWorkflow n.id "状态已更新" Catalog.toggle
  | .trial => s.withBody r Trial.check s.tryRequest
  | .addTask => s.withBody r Check.object (s.addTask r)
  | .deleteTask => s.withBody r Named.check fun n => s.onTask r n fun id => s.onScheduler (·.remove id)
  | .toggleTask => s.withBody r Named.check fun n => s.onTask r n fun id => s.onScheduler (·.toggle id)
  | .runTask => s.withBody r Named.check fun n =>
      s.onTask r n fun id => s.onTasks fun host => Scheduler.runNow host id

/-- The response to a path that is no route. -/
def astray (path : Text) : Response :=
  if Fields.has Route.paths (path.trimEndBy (· = .scalar '/')) then .moved else .notFound

/-- The answer to a request. -/
def answer (s : Service) (r : Request) : Response × Service :=
  match Fields.get? Route.paths r.path with
  | none => (astray r.path, s)
  | some route => if r.method = route.method then s.answerRoute r route else (.notAllowed, s)

end Service

end ChatFlow
