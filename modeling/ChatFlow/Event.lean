import ChatFlow.Document.Check

/-!
# Message events

A message that came in from a chat, or the stand-in for one when a workflow is started by the clock.

* `Event.check`, `Event.toValue`: reading and writing the document of an event.
* `Event.ofPost?`: the event of a post of the chat program; posts that are no messages have none.
-/

namespace ChatFlow

/-- The kinds of chats. -/
inductive ChatKind where
  | group
  | single
deriving DecidableEq, Repr

/-- The name of a kind of chats. -/
def ChatKind.label : ChatKind → Text
  | .group => "group"
  | .single => "private"

/-- The names of the kinds of chats. -/
def ChatKind.words : List (Text × ChatKind) := [("group", .group), ("private", .single)]

/-- A message that came in. -/
structure Event where
  userId : Text
  groupId : Option Text
  kind : ChatKind
  /-- The text of the message. -/
  raw : Text
  /-- The parts of the message. -/
  segments : List Value
  messageId : Text
  /-- The account that received it. -/
  selfId : Text
  sender : Fields Value

namespace Event

/-- The event of a user without a message. -/
def ofUser (userId : Text) : Event := ⟨userId, none, .single, [], [], [], [], []⟩

/-- Reads the fields of an event. -/
def checkFields (fs : Fields Value) : Check Event :=
  Event.mk <$> Check.field fs "user_id" Check.text
    <*> Check.fieldOr fs "group_id" none (Check.nullable Check.text)
    <*> Check.fieldOr fs "message_type" .single (Check.word ChatKind.words)
    <*> Check.fieldOr fs "raw_message" [] Check.text
    <*> Check.fieldOr fs "message" [] Check.anyList
    <*> Check.fieldOr fs "message_id" [] Check.text
    <*> Check.fieldOr fs "self_id" [] Check.text
    <*> Check.fieldOr fs "sender" [] Check.object

/-- Reads the document of an event. -/
def check : Value → Check Event
  | .object fs => checkFields fs
  | _ => .refuse

/-- The document of an event. -/
def toValue (e : Event) : Value :=
  .object
    [("user_id", .text e.userId), ("group_id", e.groupId.elim .null .text),
     ("message_type", .text e.kind.label), ("raw_message", .text e.raw),
     ("message", (Value.list e.segments).settled), ("message_id", .text e.messageId),
     ("self_id", .text e.selfId), ("sender", (Value.object e.sender).settled)]

/-! ## Posts of the chat program -/

/-- The value, or an empty text in the place of everything that does not count as true. -/
def orEmpty (v : Value) : Value := if v.truthy then v else .text []

/-- The fields of the event of a post of a kind of chats. Empty parts are taken as missing, and a group
only where the chat is one. -/
def postFields (post : Value) (kind : ChatKind) : Fields Value :=
  let sender := post.fieldOrNull "sender"
  let parts :=
    match post.fieldOrNull "message" with
    | .list items => items
    | _ => []
  [("user_id", post.fieldOrNull "user_id"),
   ("group_id", if kind = .group then post.fieldOrNull "group_id" else .null),
   ("message_type", .text kind.label), ("raw_message", orEmpty (post.fieldOrNull "raw_message")),
   ("message", .list parts), ("message_id", orEmpty (post.fieldOrNull "message_id")),
   ("self_id", orEmpty (post.fieldOrNull "self_id")),
   ("sender", if sender.truthy then sender else .object [])]

/-- The event of the fields of a post, if it is a message of a known kind from a user. -/
def ofPostFields? (post : Value) : Option Event :=
  let user := post.fieldOrNull "user_id"
  match post.fieldOrNull "post_type", post.fieldOrNull "message_type" with
  | .text kind, .text chat =>
    if kind = "message" && user ≠ .null && user ≠ .text [] then
      (Fields.get? ChatKind.words chat).bind fun k => (checkFields (postFields post k)).toOption
    else none
  | _, _ => none

/-- The event of a post, which has to have fields. -/
def ofPost? : Value → Except Fault (Option Event)
  | post@(.object _) => .ok (ofPostFields? post)
  | _ => .error .noFields

end Event

end ChatFlow
