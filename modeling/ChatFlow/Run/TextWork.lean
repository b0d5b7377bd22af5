import ChatFlow.Pattern.Search
import ChatFlow.Template.Render
import ChatFlow.Unicode.Case
import ChatFlow.Workflow.Payload

/-!
# Work on texts in a run

An action makes a text out of one or two others. An unknown operation gives the first one.

* `Text.slice`: a part of a text, where negative positions count from the end.
* `Act.edit`: the action.
-/

namespace ChatFlow

namespace Text

/-- A position in a text of a length; a negative one counts from the end. -/
def clip (length : Nat) (n : Int) : Nat := if n < 0 then (length + n).toNat else min n.toNat length

/-- The part of a text from a position on, up to another one if there is one. -/
def slice (t : Text) (start : Int) (stop : Option Int) : Text :=
  let last := (stop.map (clip t.length)).getD t.length
  (t.take last).drop (clip t.length start)

/-- A text many times. -/
def times (n : Nat) (t : Text) : Text := (List.replicate n t).flatten

end Text

/-- The operations on texts. -/
inductive TextOp where
  | concat
  | replace
  | split
  | substring
  | length
  | upper
  | lower
  | trim
  | contains
  | times
deriving DecidableEq, Repr

namespace TextOp

/-- The names of the operations. -/
def words : List (Text × TextOp) :=
  [("concat", concat), ("replace", replace), ("split", split), ("substr", substring),
   ("substring", substring), ("length", length), ("upper", upper), ("lower", lower), ("trim", trim),
   ("contains", contains), ("repeat", times)]

/-- The operation of a name; without a name it is concatenation. -/
def ofLabel? (t : Text) : Option TextOp := if t.isEmpty then some concat else Fields.get? words t

end TextOp

namespace Act

/-- The greatest number of repetitions. -/
def maxTimes : Int := 100

/-- The part of a text between two positions that are written with a comma between them. An end of zero
stands for none. -/
def substring (t range : Text) : Except Fault Text := do
  let (before, after) := Text.partition ',' (if range.isEmpty then ("0" : Text) else range)
  let start ← before.leadingInteger
  let stop ← (after.getD []).leadingInteger
  return t.slice (start.getD 0) (stop.filter (· ≠ 0))

/-- A text as many times as is written; zero stands for once. -/
def repeated (t count : Text) : Except Fault Text :=
  count.leadingInteger.map fun n =>
    Text.times (min ((n.filter (· ≠ 0)).getD 1) maxTimes).toNat t

/-- Makes a text out of two, and sets further variables for some operations. -/
def editWith (op : TextOp) (pattern first second : Text) : Act Value := do
  match op with
  | .concat => return .text (first ++ second)
  | .replace =>
    if pattern.isEmpty then return .text first
    else return .text (← lift (Pattern.substitute pattern second first))
  | .split =>
    let parts := first.splitOn (if second.isEmpty then "|" else second)
    setVariable "split_list" (.list (parts.map .text))
    setVariable "split_count" (.int parts.length)
    return .text (parts.headD [])
  | .substring => return .text (← lift (substring first second))
  | .length => return .int first.length
  | .upper => return .text first.toUpper
  | .lower => return .text first.toLower
  | .trim => return .text first.trim
  | .contains =>
    let found := first.includes second
    setVariable "contains" (.bool found)
    return .text (if found then "1" else "0")
  | .times => return .text (← lift (repeated first second))

/-- The action that works on texts. -/
def edit (d : ActionData) (m : Message) : Act Unit := do
  let first ← render m d.input1
  let second ← render m d.input2
  let result ← match TextOp.ofLabel? d.stringKind with
    | some op => editWith op d.target first second
    | none => pure (.text first)
  let name := if d.resultVar.isEmpty then ("string_result" : Text) else d.resultVar
  setVariable name result

end Act

end ChatFlow
