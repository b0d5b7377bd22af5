import ChatFlow.Expr.Eval
import ChatFlow.Pattern.Search
import ChatFlow.Template.Render
import ChatFlow.Unicode.Identifier
import ChatFlow.Workflow.Payload

/-!
# Conditions

A condition is a question about the message, the run's variables, stored values or the clock. Its
value is a template. Numbers are compared as doubles, and nothing compares with what is no number.

* `Act.holds`: does a condition hold? Conditions of an unknown kind do.
-/

namespace ChatFlow

/-- The kinds of conditions. -/
inductive ConditionKind where
  | contains
  | equals
  | regex
  | random
  | userId
  | groupId
  | varEquals
  | varGreater
  | varLess
  | dataEquals
  | dataGreater
  | dataLess
  | dataIsToday
  | cooldown
  | timeRange
  | weekdayIn
  | sharedEquals
  | sharedGreater
  | expression
deriving DecidableEq, Repr

namespace ConditionKind

/-- The names of the kinds. -/
def words : List (Text × ConditionKind) :=
  ([("contains", contains), ("equals", equals), ("regex", regex), ("random", random),
    ("user_id", userId), ("group_id", groupId), ("var_equals", varEquals), ("var_gt", varGreater),
    ("var_lt", varLess), ("data_equals", dataEquals)] : List (Text × ConditionKind))
  ++ ([("data_gt", dataGreater), ("data_lt", dataLess), ("data_is_today", dataIsToday),
    ("cooldown", cooldown), ("time_range", timeRange), ("weekday_in", weekdayIn),
    ("global_equals", sharedEquals), ("global_gt", sharedGreater), ("expression", expression)]
      : List (Text × ConditionKind))

/-- The kind of a name; without a name it is the usual one. -/
def ofLabel? (t : Text) : Option ConditionKind := if t.isEmpty then some contains else Fields.get? words t

end ConditionKind

namespace Condition

/-- The key before the first separator, and the operand between it and the next one. -/
def operand (separator : CodePoint) (t : Text) : Text × Option Text :=
  match Text.splitChar separator t with
  | [] => ([], none)
  | [key] => (key.trim, none)
  | key :: operand :: _ => (key.trim, some operand.trim)

/-- The number of a text, not-a-number if it has none. -/
def numberOf (t : Text) : Except Fault Double := (Value.text t).toDouble .nan

/-- Does the hour lie in a range of hours? A range whose end comes before its start goes past
midnight. -/
def inHours (start stop hour : Int) : Bool :=
  if start ≤ stop then start ≤ hour && hour ≤ stop else start ≤ hour || hour ≤ stop

/-- Does the hour lie in the range of hours that a text writes? -/
def hourFits (range : Text) (hour : Int) : Except Fault Bool := do
  let (before, after) := Text.partition '-' range
  let start ← before.leadingInteger
  let stop ← (after.getD []).leadingInteger
  match start, stop with
  | some start, some stop => return inHours start stop hour
  | _, _ => return false

/-- Names of the days of the week, 0 for Sunday. -/
def dayNames : List (Text × Int) :=
  ([("周日", 0), ("周一", 1), ("周二", 2), ("周三", 3), ("周四", 4), ("周五", 5), ("周六", 6)]
      : List (Text × Int))
  ++ ([("星期日", 0), ("星期天", 0), ("星期一", 1), ("星期二", 2), ("星期三", 3), ("星期四", 4),
    ("星期五", 5), ("星期六", 6)] : List (Text × Int))

/-- The day of the week that a text names or numbers. -/
def dayOf? (t : Text) : Except Fault (Option Int) :=
  match Fields.get? dayNames t with
  | some day => .ok (some day)
  | none => t.leadingInteger

/-- Is the day among those of a list? Days behind it are not looked at. -/
def dayAmong (today : Int) : List Text → Except Fault Bool
  | [] => .ok false
  | t :: rest => do
    if (← dayOf? t.trim) = some today then return true else dayAmong today rest

/-- Has the waiting time passed since the last use? -/
def hasCooled (threshold elapsed : Double) : Bool :=
  !threshold.isNaN && !elapsed.isNaN && Double.le threshold elapsed

/-- The variables that an expression sees: those whose names can stand in it. -/
def scope (c : Context) : Fields Value := c.visible.filter fun (n, _) => Text.isIdentifier n

end Condition

namespace Act

open Condition

/-- Is the stored value, shown as text, the operand? -/
def storedEquals (owner : Owner) (separator : CodePoint) (value : Text) : Act Bool := do
  match operand separator value with
  | (_, none) => return false
  | (key, some t) => return (← lift (← stored owner key (.text [])).display) = t

/-- Are the stored value and the operand, as numbers, in the order `inOrder`? -/
def storedCompares (owner : Owner) (separator : CodePoint) (inOrder : Double → Double → Bool)
    (value : Text) : Act Bool := do
  match operand separator value with
  | (_, none) => return false
  | (key, some t) => do
    let v ← stored owner key (.int 0)
    let x ← lift (v.toDouble .nan)
    let y ← lift (numberOf t)
    return inOrder x y

/-- Are a variable and the value, as numbers, in the order `inOrder`? -/
def variableCompares (name : Text) (inOrder : Double → Double → Bool) (value : Text) : Act Bool := do
  let v := (← context).get name
  let x ← lift ((if v.truthy then v else .int 0).toDouble .nan)
  let y ← lift (numberOf value)
  return inOrder x y

/-- Has the waiting time passed since the moment that is stored under the key? -/
def cooled (user value : Text) : Act Bool := do
  let (key, t) := operand ',' value
  let threshold ← lift (numberOf (t.getD []))
  let last ← lift ((← stored (.user user) key (.int 0)).toDouble .nan)
  let now ← lift (← clock).timestamp
  return hasCooled threshold (now.sub last)

/-- Does a condition of a kind hold, given its value and the name of its variable? -/
def holdsOf (kind : ConditionKind) (m : Message) (value varName : Text) : Act Bool := do
  let user := m.event.userId
  match kind with
  | .contains => return m.content.includes value
  | .equals => return m.content = value
  | .regex =>
    match Pattern.find value m.content with
    | .error .badPattern => return false
    | r => return (← lift r).isSome
  | .random =>
    let x ← roll fun d => .ok d.fraction
    let limit ← lift ((Value.text value).toDouble (.infinite true))
    return Double.lt (x.mul 100) limit
  | .userId => return user = value
  | .groupId => return m.event.groupId = some value
  | .varEquals => return (← lift ((← context).get varName).display) = value
  | .varGreater => variableCompares varName (fun x y => Double.lt y x) value
  | .varLess => variableCompares varName Double.lt value
  | .dataEquals => storedEquals (.user user) '=' value
  | .dataGreater => storedCompares (.user user) '>' (fun x y => Double.lt y x) value
  | .dataLess => storedCompares (.user user) '<' Double.lt value
  | .dataIsToday =>
    let v ← stored (.user user) value.trim (.text [])
    let t ← lift v.display
    return t = (← clock).dateText
  | .cooldown => cooled user value
  | .timeRange => lift (hourFits value (← clock).hour)
  | .weekdayIn => lift (dayAmong (← clock).weekday (Text.splitChar '|' value))
  | .sharedEquals => storedEquals .shared '=' value
  | .sharedGreater => storedCompares .shared '>' (fun x y => Double.lt y x) value
  | .expression => return Expr.holds (scope (← context)) false value

/-- Does a condition hold? -/
def holds (d : ConditionData) (m : Message) : Act Bool := do
  let value ← render m d.value
  match ConditionKind.ofLabel? d.kind with
  | some kind => holdsOf kind m value d.varName
  | none => return true

end Act

end ChatFlow
