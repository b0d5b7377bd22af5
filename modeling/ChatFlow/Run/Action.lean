import ChatFlow.Outlet.Outlet
import ChatFlow.Run.Arithmetic
import ChatFlow.Run.TextWork
import ChatFlow.Web.Headers

/-!
# Actions

An action replies to the message, moderates a group, asks a web service, or works on variables. What
an outlet refuses is not noticed by a run. A request that fails is reported to the chat instead.

* `Act.ask`: a call of an outlet.
* `Act.request`: the request of an action, and `Act.askService` what becomes of it.
* `Act.act`: an action of any kind.
-/

namespace ChatFlow

/-- The kinds of actions. -/
inductive ActionKind where
  | replyText
  | replyImage
  | replyVoice
  | replyVideo
  | replyAt
  | replyFace
  | replyPoke
  | replyJson
  | replyFile
  | replyMusic
  | replyForward
  | retract
  | askService
  | math
  | text
  | groupSign
  | groupBan
  | groupKick
  | groupWholeBan
  | groupSetCard
  | groupSetAdmin
  | groupNotice
  | callApi
deriving DecidableEq, Repr

/-- The names of the kinds of actions. -/
def ActionKind.words : List (Text × ActionKind) :=
  ([("reply_text", .replyText), ("reply_image", .replyImage), ("reply_voice", .replyVoice),
    ("reply_video", .replyVideo), ("reply_at", .replyAt), ("reply_face", .replyFace),
    ("reply_poke", .replyPoke), ("reply_json", .replyJson), ("reply_file", .replyFile),
    ("reply_music", .replyMusic), ("reply_forward", .replyForward), ("recall_msg", .retract)]
      : List (Text × ActionKind))
  ++ ([("custom_api", .askService), ("math", .math), ("string_op", .text),
    ("group_sign", .groupSign), ("group_ban", .groupBan), ("group_kick", .groupKick),
    ("group_whole_ban", .groupWholeBan), ("group_set_card", .groupSetCard),
    ("group_set_admin", .groupSetAdmin), ("group_notice", .groupNotice), ("call_api", .callApi)]
      : List (Text × ActionKind))

/-- Who runs workflows: the outlet that calls go to, the names of actions that have handlers of their
own, and the name that lines of the journal are written under. -/
structure Runner where
  outlet : Outlet
  handled : List Text
  component : Text

/-- Gives actions of a name a handler of their own. -/
def Runner.register (r : Runner) (name : Text) : Except Fault Runner :=
  if name.isBlank then .error .emptyName else .ok { r with handled := r.handled ++ [name.trim] }

/-- The variants that a text offers: its parts between triple bars that are not blank. -/
def variants (t : Text) : List Text := ((t.splitOn "|||").map Text.trim).filter (!·.isEmpty)

namespace Act

/-- Makes a call; when it fails, its result is null. -/
def ask (o : Outlet) (c : Call) : Act Value := do
  let (r, w) := o.perform c (← world)
  modifyWorld fun _ => w
  return (r.toOption).getD .null

/-- Makes a call whose result does not matter. -/
def tell (o : Outlet) (c : Call) : Act Unit := do
  let _ ← ask o c

/-- The text, or nothing if it is empty. -/
def nonempty (t : Text) : Option Text := if t.isEmpty then none else some t

/-- The text, or another one if it is empty. -/
def orElse (t other : Text) : Text := if t.isEmpty then other else t

/-- A template filled in; an empty result counts as none. -/
def renderOptional (m : Message) (t : Text) : Act (Option Text) := return nonempty (← render m t)

/-! ## Replies -/

/-- Replies with one of the variants of a text; an empty text is not sent. -/
def replyText (o : Outlet) (t : Text) : Act Unit := do
  let t ← match variants t with
    | [] => pure t
    | v :: vs => roll (Dice.pick (v :: vs))
  if t.isEmpty then return
  tell o (.reply t)

/-- Replies with a document, or with the text if it writes none. -/
def replyJson (o : Outlet) (t : Text) : Act Unit :=
  match Json.read? t with
  | some v => tell o (.replyJson v)
  | none => tell o (.reply t)

/-- Takes back a message: the named one, else the one that is replied to. -/
def retract (o : Outlet) (m : Message) (t : Text) : Act Unit := do
  let id := orElse t m.event.messageId
  if id.isEmpty then return
  tell o (.retract id)

/-! ## Moderation -/

/-- The user that moderation is about. -/
def targetUser (d : ActionData) (m : Message) : Act Text :=
  render m (orElse d.targetUser ActionData.sender)

/-- The length of a ban when none is given, in seconds. -/
def usualBan : Int := 600

/-- The length of a ban: the number at the beginning of a text, unless it is zero. -/
def banSeconds (t : Text) : Except Fault Int :=
  t.leadingInteger.map fun n => (n.filter (· ≠ 0)).getD usualBan

/-- Bans a user for a while. -/
def groupBan (o : Outlet) (d : ActionData) (m : Message) : Act Unit := do
  let seconds ← lift (banSeconds (← render m (orElse d.banDuration (Text.ofInt usualBan))))
  let user ← targetUser d m
  tell o (.groupBan user seconds)

/-- Sets the name of a user in the group. -/
def groupSetCard (o : Outlet) (d : ActionData) (m : Message) : Act Unit := do
  let card ← render m d.card
  let user ← targetUser d m
  tell o (.groupSetCard user card)

/-! ## The chat program -/

/-- The parameters that a text writes; none if it is no object. -/
def paramsOf (t : Text) : Fields Value :=
  match Json.read? t with
  | some (.object fs) => fs
  | _ => []

/-- The text of the parameters; it is empty if a value in it cannot be shown. -/
def renderParams (d : ActionData) (m : Message) : Act Text :=
  tryCatch (render m (orElse d.apiParams ActionData.noParams)) fun fault =>
    if fault.isOfValue then pure [] else throw fault

/-- Calls the chat program by name and keeps the result. -/
def callApi (o : Outlet) (d : ActionData) (m : Message) : Act Unit := do
  let name ← render m d.apiAction
  let params ← renderParams d m
  let v ← ask o (.callApi name (paramsOf params))
  if d.resultVar.isEmpty then return
  setVariable d.resultVar v

/-! ## Web services -/

/-- Headers that every request has unless it sets them otherwise. -/
def usualHeaders : Fields Text := [("User-Agent", "Mozilla/5.0"), ("Accept", "*/*")]

/-- Adds headers with their values filled in. -/
def addHeaders (m : Message) (headers : Fields Text) : Fields Text → Act (Fields Text)
  | [] => return headers
  | (name, v) :: rest => do
    let v ← render m v
    addHeaders m (headers.set name v) rest

/-- Methods whose requests have a body. -/
def bodyMethods : List Text := ["POST", "PUT", "PATCH"]

/-- How long a request may take: ten seconds unless something positive is given, sixty at most. -/
def timeLimit (seconds : Double) : Double := (if Double.lt 0 seconds then seconds else 10).min 60

/-- The body of a request, if its method has one. -/
def bodyFor (m : Message) (method body : Text) : Act (Option Text) := do
  if body.isEmpty || !bodyMethods.contains method then return none
  return some (← render m body)

/-- The request of an action. -/
def request (d : ActionData) (m : Message) : Act Web.Request := do
  let url ← render m d.url
  let method := (orElse d.method "GET").toUpper
  let headers ← addHeaders m usualHeaders (← lift (Headers.ofText d.headers))
  let body ← bodyFor m method d.body
  return ⟨timeLimit d.timeout, method, url, headers, body⟩

/-- How a response is looked at. -/
inductive ResponseKind where
  | document
  | bytes
  | text
deriving DecidableEq, Repr

/-- The kind of responses of a name; without a name it is the usual one. -/
def ResponseKind.ofLabel (t : Text) : ResponseKind :=
  if t.isEmpty || t = "json" then .document else if t = "binary" then .bytes else .text

/-- What the variables of a response are set to: its document, its bytes, and what is shown of it. -/
def responseParts (kind : ResponseKind) (url : Text) (r : Web.Response) : Value × Value × Text :=
  match kind with
  | .document =>
    match r.document? with
    | some v => (v, .null, Json.text .line v)
    | none => (.null, .null, r.text)
  | .bytes => (.null, .bytes r.body, url)
  | .text => (.null, .null, r.text)

/-- Keeps a response in the variables. -/
def keepResponse (kind : ResponseKind) (url : Text) (r : Web.Response) : Act Unit := do
  let (document, bytes, shown) := responseParts kind url r
  setVariable "api_status" (.int r.status)
  setVariable documentVariable document
  setVariable Context.hiddenVariable bytes
  setVariable "api_response" (.text shown)

/-- What a reply to a response sends: its bytes if it has any, else the text. -/
def mediaOf (kind : ResponseKind) (r : Web.Response) (t : Text) : Media :=
  if kind = .bytes && !r.body.isEmpty then .data r.body else .link t

/-- Replies to a response in one of several ways. -/
def replyAs (o : Outlet) (d : ActionData) (m : Message) (t : Text) (media : Media) : Act Unit := do
  let way := orElse d.replyKind "text"
  if way = "text" then tell o (.reply t)
  else if way = "image" then tell o (.replyImage media (← renderOptional m d.imageText))
  else if way = "voice" then tell o (.replyVoice media)
  else if way = "video" then tell o (.replyVideo media)
  else if way = "forward" then tell o (.replyForward (variants t))

/-- Keeps a response and replies to it. -/
def replyToResponse (o : Outlet) (d : ActionData) (m : Message) (url : Text) (r : Web.Response) :
    Act Unit := do
  let kind := ResponseKind.ofLabel d.responseKind
  keepResponse kind url r
  let t ←
    if d.reply.isEmpty then pure (responseParts kind url r).2.2 else renderResponse m d.reply
  replyAs o d m t (mediaOf kind r t)

/-- What is said of a request that took too long. -/
def timeoutText : Text := "请求超时"

/-- The report of a request that failed. -/
def failureReport (reason : Text) : Text := ("API调用失败: " : Text) ++ orElse reason timeoutText

/-- Sends the request of an action and replies to its response, or reports that it failed. -/
def askService (o : Outlet) (d : ActionData) (m : Message) : Act Unit := do
  let request ← request d m
  let (answer, w) := (← world).askWeb request
  modifyWorld fun _ => w
  match answer with
  | .timeout _ => tell o (.reply (failureReport timeoutText))
  | .failure reason => tell o (.reply (failureReport reason))
  | .response r => replyToResponse o d m request.url r

/-! ## All kinds -/

/-- An action of a kind, given its value. -/
def actAs (kind : ActionKind) (o : Outlet) (d : ActionData) (m : Message) (value : Text) : Act Unit := do
  match kind with
  | .replyText => replyText o value
  | .replyImage => tell o (.replyImage (.link value) (← renderOptional m d.imageText))
  | .replyVoice => tell o (.replyVoice (.link value))
  | .replyVideo => tell o (.replyVideo (.link value))
  | .replyAt => tell o (.replyAt value)
  | .replyFace => tell o (.replyFace ((← lift value.leadingInteger).getD 0))
  | .replyPoke => tell o (.replyPoke (orElse value m.event.userId))
  | .replyJson => replyJson o value
  | .replyFile => tell o (.replyFile value (← renderOptional m d.fileName))
  | .replyMusic => tell o (.replyMusic (orElse d.musicKind "qq") value)
  | .replyForward => tell o (.replyForward (variants value))
  | .retract => retract o m value
  | .askService => askService o d m
  | .math => compute d m
  | .text => edit d m
  | .groupSign => tell o .groupSign
  | .groupBan => groupBan o d m
  | .groupKick => tell o (.groupKick (← targetUser d m) d.rejectAdd)
  | .groupWholeBan => tell o (.groupWholeBan d.enableBan)
  | .groupSetCard => groupSetCard o d m
  | .groupSetAdmin => tell o (.groupSetAdmin (← targetUser d m) d.enableAdmin)
  | .groupNotice => tell o (.groupNotice value)
  | .callApi => callApi o d m

/-- An action. One with a handler of its own is left to it; an unknown one does nothing. -/
def act (r : Runner) (d : ActionData) (m : Message) : Act Unit := do
  let name := orElse d.kind "reply_text"
  if r.handled.contains name then
    let value ← render m d.value
    modifyWorld (World.act (.handled name value))
  else
    match Fields.get? ActionKind.words name with
    | some kind => actAs kind r.outlet d m (← render m d.value)
    | none => return

end Act

end ChatFlow
