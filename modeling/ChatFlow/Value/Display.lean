import ChatFlow.Fault
import ChatFlow.Json.Writer

/-!
# How values are shown

A value in a message is shown plainly: nothing for null, whole doubles without a point, texts as
they are, lists and objects as JSON. Media bytes are not shown.

* `Value.display`: the shown text, unless the value has none.
-/

namespace ChatFlow

/-- The fault of a value that has no JSON text. -/
def Json.WriteFault.toFault : Json.WriteFault → Fault
  | .bytes => .bytesInDocument
  | .integerTooLong => .integerTooLong

namespace Value

/-- The digits of an integer, unless there are too many. -/
def integerText (n : Int) : Except Fault Text :=
  if ChatFlow.integerTooLong n then .error .integerTooLong else .ok (Text.ofInt n)

/-- The text of a double; whole ones are written as integers. -/
def doubleText (x : Double) : Text :=
  if x.isIntegral then Text.ofInt (x.truncate?.getD 0) else x.toText

/-- The text that shows a value. -/
def display : Value → Except Fault Text
  | null => .ok []
  | bool b => .ok (if b then "true" else "false")
  | int n => integerText n
  | float x => .ok (doubleText x)
  | text t => .ok t
  | bytes _ => .ok []
  | v@(list _) => (Json.write .line v).mapError (·.toFault)
  | v@(object _) => (Json.write .line v).mapError (·.toFault)

end Value

end ChatFlow
