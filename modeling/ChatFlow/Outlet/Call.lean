import ChatFlow.Fault
import ChatFlow.Value

/-!
# Calls

What a workflow can ask of the chat: replies of all kinds, moderation of a group, and calls of the
chat program by name.

* `Call.name`, `Call.arguments`: how a call is written down.
* `Call.ofParts`: the call of a name and arguments.
-/

namespace ChatFlow

/-- A picture, voice or video: where it is found, or its bytes. -/
inductive Media where
  | link (url : Text)
  | data (bytes : List UInt8)
deriving DecidableEq

/-- The value of a medium. -/
def Media.toValue : Media → Value
  | link url => .text url
  | data bytes => .bytes bytes

/-- Something asked of the chat. -/
inductive Call where
  | reply (text : Text)
  | replyImage (source : Media) (caption : Option Text)
  | replyVoice (source : Media)
  | replyVideo (source : Media)
  | replyFile (url : Text) (name : Option Text)
  | replyForward (messages : List Text)
  | replyAt (text : Text)
  | replyFace (id : Int)
  | replyPoke (user : Text)
  | replyJson (data : Value)
  | replyMusic (kind id : Text)
  | retract (message : Text)
  | groupSign
  | groupBan (user : Text) (seconds : Int)
  | groupKick (user : Text) (rejectAdd : Bool)
  | groupWholeBan (enable : Bool)
  | groupSetCard (user card : Text)
  | groupSetAdmin (user : Text) (enable : Bool)
  | groupNotice (content : Text)
  | callApi (action : Text) (params : Fields Value)

namespace Call

/-- The name of a call. -/
def name : Call → Text
  | reply _ => "reply"
  | replyImage .. => "reply_image"
  | replyVoice _ => "reply_voice"
  | replyVideo _ => "reply_video"
  | replyFile .. => "reply_file"
  | replyForward _ => "reply_forward"
  | replyAt _ => "reply_at"
  | replyFace _ => "reply_face"
  | replyPoke _ => "reply_poke"
  | replyJson _ => "reply_json"
  | replyMusic .. => "reply_music"
  | retract _ => "recall_msg"
  | groupSign => "group_sign"
  | groupBan .. => "group_ban"
  | groupKick .. => "group_kick"
  | groupWholeBan _ => "group_whole_ban"
  | groupSetCard .. => "group_set_card"
  | groupSetAdmin .. => "group_set_admin"
  | groupNotice _ => "group_notice"
  | callApi .. => "call_api"

/-- The value of a text that may be missing. -/
def optional : Option Text → Value
  | some t => .text t
  | none => .null

/-- The arguments of a call, in order. -/
def arguments : Call → List Value
  | reply text => [.text text]
  | replyImage source caption => [source.toValue, optional caption]
  | replyVoice source => [source.toValue]
  | replyVideo source => [source.toValue]
  | replyFile url name => [.text url, optional name]
  | replyForward messages => [.list (messages.map .text)]
  | replyAt text => [.text text]
  | replyFace id => [.int id]
  | replyPoke user => [.text user]
  | replyJson data => [data]
  | replyMusic kind id => [.text kind, .text id]
  | retract message => [.text message]
  | groupSign => []
  | groupBan user seconds => [.text user, .int seconds]
  | groupKick user rejectAdd => [.text user, .bool rejectAdd]
  | groupWholeBan enable => [.bool enable]
  | groupSetCard user card => [.text user, .text card]
  | groupSetAdmin user enable => [.text user, .bool enable]
  | groupNotice content => [.text content]
  | callApi action params => [.text action, .object params]

/-- The medium of a value. -/
def media? : Value → Option Media
  | .text url => some (.link url)
  | .bytes bytes => some (.data bytes)
  | _ => none

/-- The text of a value that may be missing. -/
def optional? : Value → Option (Option Text)
  | .text t => some (some t)
  | .null => some none
  | _ => none

/-- The texts of a list. -/
def texts? (vs : List Value) : Option (List Text) :=
  vs.mapM fun
    | .text t => some t
    | _ => none

/-- The names of all calls. -/
def names : List Text :=
  ["reply", "reply_image", "reply_voice", "reply_video", "reply_file", "reply_forward", "reply_at",
   "reply_face", "reply_poke", "reply_json", "reply_music", "recall_msg", "group_sign", "group_ban",
   "group_kick", "group_whole_ban", "group_set_card", "group_set_admin", "group_notice", "call_api"]

/-- The call of a name with arguments that fit it. The last argument of some calls may be left out. -/
def ofArguments? (name : Text) (arguments : List Value) : Option Call :=
  match arguments with
  | [] => if name = "group_sign" then some .groupSign else none
  | [v] =>
    if name = "reply_image" then (media? v).map (.replyImage · none)
    else if name = "reply_voice" then (media? v).map .replyVoice
    else if name = "reply_video" then (media? v).map .replyVideo
    else if name = "reply_json" then some (.replyJson v)
    else
      match v with
      | .text t =>
        if name = "reply" then some (.reply t)
        else if name = "reply_file" then some (.replyFile t none)
        else if name = "reply_at" then some (.replyAt t)
        else if name = "reply_poke" then some (.replyPoke t)
        else if name = "recall_msg" then some (.retract t)
        else if name = "group_kick" then some (.groupKick t false)
        else if name = "group_notice" then some (.groupNotice t)
        else none
      | .int n => if name = "reply_face" then some (.replyFace n) else none
      | .bool b => if name = "group_whole_ban" then some (.groupWholeBan b) else none
      | .list vs => if name = "reply_forward" then (texts? vs).map .replyForward else none
      | _ => none
  | [v, w] =>
    if name = "reply_image" then do some (.replyImage (← media? v) (← optional? w))
    else
      match v, w with
      | .text s, .text t =>
        if name = "reply_file" then some (.replyFile s (some t))
        else if name = "reply_music" then some (.replyMusic s t)
        else if name = "group_set_card" then some (.groupSetCard s t)
        else none
      | .text s, .null => if name = "reply_file" then some (.replyFile s none) else none
      | .text s, .int n => if name = "group_ban" then some (.groupBan s n) else none
      | .text s, .bool b =>
        if name = "group_kick" then some (.groupKick s b)
        else if name = "group_set_admin" then some (.groupSetAdmin s b)
        else none
      | .text s, .object fields => if name = "call_api" then some (.callApi s fields) else none
      | _, _ => none
  | _ => none

/-- The call of a name and arguments, or why there is none. -/
def ofParts (name : Text) (arguments : List Value) : Except Fault Call :=
  if names.contains name then (ofArguments? name arguments).elim (.error .badCall) .ok
  else .error .noSuchCall

end Call

end ChatFlow
