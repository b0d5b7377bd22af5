import ChatFlow.Fields
import ChatFlow.Value

/-!
# Reports

What is answered to a change that was asked for: whether it was done, and what is said about it.
-/

namespace ChatFlow

/-- The report of a change. -/
structure Report where
  success : Bool
  message : Text
  error : Text
  data : Fields Value

namespace Report

/-- The report of a change that was done. -/
def done (message : Text) (data : Fields Value) : Report := ⟨true, message, [], data⟩

/-- The report of a change that was not done. -/
def failed (error : Text) : Report := ⟨false, [], error, []⟩

/-- The document of a report. -/
def toValue (r : Report) : Value :=
  .object [("success", .bool r.success), ("message", .text r.message), ("error", .text r.error),
    ("data", .object r.data)]

end Report

end ChatFlow
