import ChatFlow.Event
import ChatFlow.Outlet.Call
import ChatFlow.Text.Base64
import ChatFlow.Value.Display

/-!
# Chats

A chat is where calls are addressed to: a group or a single user. Each call is turned into one action
of the chat program with its parameters, or into none.

* `Chat.ofEvent`, `Chat.ofTarget`: the chat of a message, and one that is fixed beforehand.
* `Chat.action`: the action of a call.
-/

namespace ChatFlow

/-- A chat. -/
structure Chat where
  /-- The group; without one, or with an empty name, the chat is with the user. -/
  group : Option Text
  user : Text
  /-- The account that speaks. -/
  self : Text
  /-- Is the chat fixed beforehand? Then nobody has spoken who could be mentioned or poked. -/
  fixed : Bool
deriving DecidableEq, Repr

/-- An action of the chat program. -/
structure Action where
  name : Text
  params : Fields Value

/-- How the chat program is told of a medium: by its place, or by its bytes in base 64. -/
def Media.file : Media → Text
  | .link url => url
  | .data bytes => "base64://" ++ Base64.encode bytes

namespace Chat

/-- The chat that a message came from. -/
def ofEvent (e : Event) : Chat :=
  ⟨if e.kind = .group then e.groupId else none, e.userId, e.selfId, false⟩

/-- The chat with a target: the group of the name if its kind says so, else the user. -/
def ofTarget (kind id : Text) : Chat := ⟨if kind = "group" then some id else none, id, [], true⟩

/-- The group of the chat, if it is one with a group. -/
def groupName? (c : Chat) : Option Text := c.group.filter (!·.isEmpty)

/-- The parameter that addresses the chat. -/
def destination (c : Chat) : Text × Value :=
  match c.groupName? with
  | some g => ("group_id", .text g)
  | none => ("user_id", .text c.user)

/-- A part of a message. -/
def segment (kind : Text) (data : Fields Value) : Value :=
  .object [("type", .text kind), ("data", .object data)]

/-- A part that is text. -/
def textSegment (t : Text) : Value := segment "text" [("text", .text t)]

/-- Sends a message of some parts. -/
def message (c : Chat) (segments : List Value) : Action :=
  ⟨if c.groupName?.isSome then "send_group_msg" else "send_private_msg",
    [c.destination, ("message", .list segments)]⟩

/-- The name of the speaker of forwarded messages. -/
def forwardName : Text := "工作流"

/-- The account that stands for the speaker of forwarded messages when it is not known. -/
def forwardUser : Text := "10000"

/-- Sends messages as a bundle. -/
def bundle (c : Chat) (messages : List Text) : Action :=
  let speaker := if c.self.isEmpty then forwardUser else c.self
  let nodes := messages.map fun t =>
    segment "node"
      [("user_id", .text speaker), ("nickname", .text forwardName), ("content", .list [textSegment t])]
  ⟨if c.groupName?.isSome then "send_group_forward_msg" else "send_private_forward_msg",
    [c.destination, ("messages", .list nodes)]⟩

/-- An action on the group, which there is only in a group. -/
def onGroup (c : Chat) (name : Text) (params : Fields Value) : Option Action :=
  c.groupName?.map fun g => ⟨name, ("group_id", .text g) :: params⟩

/-- The action of a call, if there is one. -/
def action (c : Chat) : Call → Except Fault (Option Action)
  | .reply t => .ok (some (c.message [textSegment t]))
  | .replyImage source caption =>
    let image := segment "image" [("file", .text source.file)]
    let caption := (caption.filter (!·.isEmpty)).map textSegment
    .ok (some (c.message (image :: caption.toList)))
  | .replyVoice source => .ok (some (c.message [segment "record" [("file", .text source.file)]]))
  | .replyVideo source => .ok (some (c.message [segment "video" [("file", .text source.file)]]))
  | .replyFile url name =>
    let name := (name.filter (!·.isEmpty)).getD "file"
    .ok (some (c.message [segment "file" [("file", .text url), ("name", .text name)]]))
  | .replyForward messages => .ok (some (c.bundle messages))
  | .replyAt t =>
    if c.fixed then .ok (some (c.message [textSegment t]))
    else .ok (some (c.message [segment "at" [("qq", .text c.user)], textSegment (" " ++ t)]))
  | .replyFace id => do
    let id ← Value.integerText id
    .ok (some (c.message [segment "face" [("id", .text id)]]))
  | .replyPoke user =>
    if c.fixed then .ok none else .ok (some (c.message [segment "poke" [("qq", .text user)]]))
  | .replyJson data => do
    let data ← (Json.write .line data).mapError (·.toFault)
    .ok (some (c.message [segment "json" [("data", .text data)]]))
  | .replyMusic kind id =>
    .ok (some (c.message [segment "music" [("type", .text kind), ("id", .text id)]]))
  | .retract message => .ok (some ⟨"delete_msg", [("message_id", .text message)]⟩)
  | .groupSign => .ok (c.onGroup "send_group_sign" [])
  | .groupBan user seconds =>
    .ok (c.onGroup "set_group_ban" [("user_id", .text user), ("duration", .int seconds)])
  | .groupKick user rejectAdd =>
    .ok (c.onGroup "set_group_kick"
      [("user_id", .text user), ("reject_add_request", .bool rejectAdd)])
  | .groupWholeBan enable => .ok (c.onGroup "set_group_whole_ban" [("enable", .bool enable)])
  | .groupSetCard user card =>
    .ok (c.onGroup "set_group_card" [("user_id", .text user), ("card", .text card)])
  | .groupSetAdmin user enable =>
    .ok (c.onGroup "set_group_admin" [("user_id", .text user), ("enable", .bool enable)])
  | .groupNotice content => .ok (c.onGroup "_send_group_notice" [("content", .text content)])
  | .callApi name params => .ok (some ⟨name, params⟩)

end Chat

end ChatFlow
