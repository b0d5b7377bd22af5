import ChatFlow.Command.Arguments
import ChatFlow.Double.Reader
import ChatFlow.Store.Basic

/-!
# Commands

The commands of whoever runs the service: to serve, to look at workflows and tasks, to run a task, and
to look at the store and change it.

* `Command.read`: the command that arguments name.
* `Command.valueOf`: the value that an argument stands for.
-/

namespace ChatFlow

/-- A command. -/
inductive Command where
  | serve (host : Text) (port : Int)
  | listWorkflows
  | listTasks
  | runTask (id : Text)
  | setValue (owner : Owner) (key value : Text)
  | getValue (owner : Owner) (key : Text)
deriving DecidableEq, Repr

namespace Command

/-- The host that is served by default. -/
def defaultHost : Text := "0.0.0.0"

/-- The port that is served by default. -/
def defaultPort : Int := 8090

/-- The names of commands. -/
inductive Name where
  | serve
  | listWorkflows
  | listTasks
  | runTask
  | setValue
  | getValue
deriving DecidableEq, Repr

/-- How commands are named. -/
def names : List (Text × Name) :=
  [("serve", .serve), ("workflow-list", .listWorkflows), ("task-list", .listTasks),
   ("task-run", .runTask), ("data-set", .setValue), ("data-get", .getValue)]

/-- An option that accepts any value. -/
def free (name : Text) : Text × (Text → Bool) := (name, fun _ => true)

/-- What a command takes. -/
def Name.form : Name → Form
  | serve => ⟨0, [free "--host", ("--port", fun t => t.toInteger?.isSome)]⟩
  | listWorkflows | listTasks => ⟨0, []⟩
  | runTask => ⟨1, []⟩
  | setValue => ⟨2, [free "--user"]⟩
  | getValue => ⟨1, [free "--user"]⟩

/-- The owner of a value: the user that is named, or all. -/
def ownerOf (options : Fields Text) : Owner :=
  match options.get? "--user" with
  | none | some [] => .shared
  | some id => .user id

/-- The command of a name with its operands and options, of which there are as many as it takes. -/
def ofParts (name : Name) (operands : List Text) (options : Fields Text) : Command :=
  let operand (i : Nat) : Text := (operands[i]?).getD []
  match name with
  | .serve =>
    serve ((options.get? "--host").getD defaultHost)
      (((options.get? "--port").bind Text.toInteger?).getD defaultPort)
  | .listWorkflows => listWorkflows
  | .listTasks => listTasks
  | .runTask => runTask (operand 0)
  | .setValue => setValue (ownerOf options) (operand 0) (operand 1)
  | .getValue => getValue (ownerOf options) (operand 0)

/-- Reads the arguments of a command that is named. -/
def readNamed (excess : Bool) (name : Text) (arguments : List Text) : Reading (Option Command) :=
  match Fields.get? names name with
  | none => .refused
  | some n =>
    match n.form.read excess arguments with
    | .done (operands, options) => .done (some (ofParts n operands options))
    | .help => .help
    | .refused => .refused

/-- Reads arguments up to the name of a command. With `excess` there was one before that nobody takes. -/
def readFrom (excess : Bool) : List Text → Reading (Option Command)
  | [] => if excess then .refused else .done none
  | t :: rest =>
    match Argument.ofText? [] t with
    | some (.operand name) => readNamed excess name rest
    | some .help => .help
    | some .unknown => readFrom true rest
    | _ => .refused

/-- The command that arguments name, if they name one. -/
def read (arguments : List Text) : Reading (Option Command) := readFrom false arguments

/-- The value that an argument stands for: that of a document, or else its text without the blanks
around it. -/
def valueOf (t : Text) : Value := Store.valueOfText t.trim

end Command

end ChatFlow
