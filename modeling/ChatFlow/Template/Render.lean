import ChatFlow.Run.Scene
import ChatFlow.Template.Path
import ChatFlow.Template.Piece

/-!
# Filling in templates

A token of a template is looked up in four places, in this order: the built-in names, the captures
`$1`, `$2`, …, the variables, and the stored values of the user. A token that is found nowhere stays
as it is, and what is filled in is not looked at again.

* `Names.resolve`: what a token stands for.
* `Act.render`: a template filled in.
* `Act.renderResponse`: the same, and then the remaining tokens as paths into the last response.
-/

namespace ChatFlow

/-- The places where tokens are looked up. -/
structure Names where
  builtins : Fields Text
  captures : List Text
  vars : Fields Value
  /-- The stored value of a key. -/
  stored : Text → Except Fault Value

namespace Names

/-- The digits of a token for a capture, behind which one line end may stand. -/
def captureDigits? : Text → Option Text
  | .scalar '$' :: r =>
    let ds := r.takeWhile CodePoint.isDecimal
    match r.dropWhile CodePoint.isDecimal with
    | [] | [.scalar '\n'] => if ds.isEmpty then none else some ds
    | _ => none
  | _ => none

/-- What stands before the key of a stored value. -/
def storedMark : Text := "storage."

/-- The capture of a number, from 1 on. -/
def capture? (names : Names) (ds : Text) : Except Fault (Option Text) :=
  (Text.decimalNumber ds).map fun n => if n = 0 then none else names.captures[n - 1]?

/-- What a token stands for, if it is found. -/
def resolve (names : Names) (token : Text) : Except Fault (Option Text) :=
  match names.builtins.get? token with
  | some t => .ok (some t)
  | none =>
    match captureDigits? token with
    | some ds => names.capture? ds
    | none =>
      match names.vars.get? token with
      | some v => v.display.map some
      | none =>
        match Text.dropPrefix? storedMark token with
        | some (c :: key) => do
          let v ← names.stored (c :: key)
          v.display.map some
        | _ => .ok none

end Names

/-- The names of the days of the week, from Sunday on. -/
def weekdayNames : List Text := ["周日", "周一", "周二", "周三", "周四", "周五", "周六"]

/-- The built-in names that tell of the message. -/
def Message.names (m : Message) : Fields Text :=
  [("user_id", m.event.userId), ("group_id", m.event.groupId.getD []),
   ("message_id", m.event.messageId), ("content", m.content), ("message", m.content)]

/-- The built-in names that tell the time, given the full seconds since 1970. -/
def Moment.names (m : Moment) (seconds : Int) : Fields Text :=
  [("date", m.dateText), ("today", m.dateText), ("time", m.timeText), ("datetime", m.dateTimeText),
   ("timestamp", Text.ofInt seconds), ("year", Text.ofInt m.date.year),
   ("month", Text.ofNat m.date.month), ("day", Text.ofNat m.date.day), ("hour", Text.ofNat m.hour),
   ("minute", Text.ofNat m.minuteOfHour), ("weekday", Text.ofNat m.weekday),
   ("weekday_cn", (weekdayNames[m.weekday]?).getD [])]

/-- The mention of a user. -/
def mention (user : Text) : Text := ("[CQ:at,qq=" : Text) ++ user ++ "]"

namespace Act

/-- The built-in names. Three numbers are drawn for them, needed or not. -/
def builtins (m : Message) : Act (Fields Text) := do
  let now ← clock
  let hundred ← roll (Dice.between 1 100)
  let seconds ← lift now.timestamp
  let ten ← roll (Dice.between 1 10)
  let six ← roll (Dice.between 1 6)
  let drawn : Fields Text :=
    [("random", Text.ofInt hundred), ("random100", Text.ofInt hundred), ("random10", Text.ofInt ten),
     ("random6", Text.ofInt six), ("at_user", mention m.event.userId)]
  return m.names ++ now.names (seconds.truncate?.getD 0) ++ drawn

/-- The places where the tokens of a template are looked up. -/
def names (m : Message) : Act Names := do
  let builtins ← builtins m
  let c ← context
  let store := (← world).store
  return ⟨builtins, c.captures, c.visible, fun key => store.read (.user m.event.userId) key (.text [])⟩

/-- A template filled in. Without an opening brace nothing is looked up or drawn. -/
def render (m : Message) (t : Text) : Act Text := do
  if t.contains '{' then
    let names ← names m
    lift (Piece.fill names.resolve (Piece.ofText t))
  else return t

/-- Names that are no paths into a response. -/
def reservedPaths : List Text :=
  ["user_id", "group_id", "content", "message", "api_response", "api_status"]

/-- The text of what a path finds in a response. Reserved names and names of captures are no paths. -/
def resolvePath (document : Value) (path : Text) : Except Fault (Option Text) :=
  if reservedPaths.contains path || Text.startsWith path "$" then .ok none
  else do
    let v ← document.extract path.trim
    v.display.map some

/-- The variable that holds the document of the last response. -/
def documentVariable : Text := "api_json"

/-- A template filled in, and then the tokens of the result as paths into the last response. -/
def renderResponse (m : Message) (t : Text) : Act Text := do
  let t ← render m t
  match (← context).get documentVariable with
  | .null => return t
  | document => lift (Piece.fill (resolvePath document) (Piece.ofText t))

end Act

end ChatFlow
