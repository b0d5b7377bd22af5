import ChatFlow.Value

/-!
# The journal

What happens is written down line by line. A line has a component, an event and a level; what else
it holds comes from the event, and may also replace those three.

* `Journal.line`: the line of an event.
* `Journal.measured`: the line of an operation that was timed.
-/

namespace ChatFlow.Journal

/-- How serious a line is. -/
inductive Severity where
  | debug
  | info
  | warning
  | error
  | critical
deriving DecidableEq, Repr

/-- The name of a severity. -/
def Severity.label : Severity → Text
  | .debug => "DEBUG"
  | .info => "INFO"
  | .warning => "WARNING"
  | .error => "ERROR"
  | .critical => "CRITICAL"

/-- Names of severities in lower case; any other name stands for information. -/
def severities : List (Text × Severity) :=
  [("debug", .debug), ("info", .info), ("warning", .warning), ("warn", .warning), ("error", .error),
   ("exception", .error), ("critical", .critical), ("fatal", .critical)]

/-- A line of the journal: its fields, and the severity that it is logged with. -/
structure Line where
  fields : Fields Value
  severity : Severity

/-- The line of an event. The level is kept as it is given, and its name in lower case tells the
severity. -/
def line (component event : Text) (level lowerLevel : Text) (payload : Fields Value) : Line :=
  let head : Fields Value :=
    [("component", .text component), ("event", .text event), ("level", .text level)]
  ⟨head.setAll payload, (Fields.get? severities lowerLevel).getD .info⟩

/-- The line of an event of a severity. -/
def lineOf (component event : Text) (severity : Severity) (payload : Fields Value) : Line :=
  let head : Fields Value :=
    [("component", .text component), ("event", .text event), ("level", .text severity.label)]
  ⟨head.setAll payload, severity⟩

/-- The line of an operation that was timed: whether it succeeded, and what it failed with. -/
def measured (component operation : Text) (failure : Option Text) (payload : Fields Value) : Line :=
  let result : Fields Value :=
    [("operation", .text operation), ("success", .bool failure.isNone),
     ("error", failure.elim .null .text)]
  lineOf component "execution_metric" .debug (result.setAll payload)

end ChatFlow.Journal
