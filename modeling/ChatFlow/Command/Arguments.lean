import ChatFlow.Fields
import ChatFlow.Text.Split
import ChatFlow.Unicode.Classes

/-!
# Arguments of a command line

A form tells what a command takes: operands, and options with a value. The name of an option may be
cut short as long as it fits one option only, and its value may stand behind an equals sign. What
follows two dashes is an operand whatever it looks like, and so is a negative number.

* `Argument.ofText?`: what an argument is by its looks.
* `Form.read`: the operands and options of a list of arguments.
-/

namespace ChatFlow.Command

/-- What comes of reading arguments. -/
inductive Reading (α : Type) where
  | done (a : α)
  /-- Somebody asks how the command is used. -/
  | help
  | refused
deriving DecidableEq, Repr

/-- An argument by its looks. -/
inductive Argument where
  | operand (t : Text)
  /-- Two dashes. -/
  | divider
  | help
  /-- The flag for help with a value, which it does not take. -/
  | helpWithValue
  | option (name : Text) (value : Option Text)
  /-- An option that nobody knows. -/
  | unknown
deriving DecidableEq, Repr

namespace Argument

/-- The name of the flag for help. -/
def helpName : Text := "--help"

/-- A flag for help, with whatever is written behind its letter. -/
def helpFlags : Text → Argument
  | [] => help
  | c :: rest =>
    if c = 'h' then helpFlags rest
    else if c = '=' ∨ c = '-' then helpWithValue
    else help

/-- Does a text without its dash write a negative number? -/
def isMagnitude (t : Text) : Bool :=
  let t := t.withoutLineEnd
  match Text.partition '.' t with
  | (whole, none) => !whole.isEmpty && whole.all CodePoint.isDecimal
  | (whole, some places) =>
    whole.all CodePoint.isDecimal && !places.isEmpty && places.all CodePoint.isDecimal

/-- An argument that looks like an option but is none that is known; with a blank in it, it is an
operand after all. -/
def unknownOr (t : Text) : Argument := if t.contains (.scalar ' ') then operand t else unknown

/-- An option of a name that is known. -/
def known (name : Text) (value : Option Text) : Argument :=
  if name = helpName then if value.isSome then helpWithValue else help else option name value

/-- An argument that begins with two dashes; nothing if its name fits more than one option. -/
def ofLong? (options : List Text) (t : Text) : Option Argument :=
  let (name, value) := Text.partition '=' t
  let names := helpName :: options
  if names.contains name then some (known name value)
  else
    match names.filter name.isPrefixOf with
    | [] => some (unknownOr t)
    | [full] => some (known full value)
    | _ => none

/-- What an argument is by its looks; nothing if it fits more than one option. -/
def ofText? (options : List Text) (t : Text) : Option Argument :=
  match t with
  | [.scalar '-', .scalar '-'] => some divider
  | .scalar '-' :: .scalar '-' :: _ => ofLong? options t
  | .scalar '-' :: .scalar 'h' :: rest => some (helpFlags rest)
  | .scalar '-' :: c :: rest => some (if isMagnitude (c :: rest) then operand t else unknownOr t)
  | _ => some (operand t)

/-- What arguments are by their looks; behind two dashes everything is an operand. -/
def ofTexts? (options : List Text) : List Text → Option (List Argument)
  | [] => some []
  | t :: rest =>
    match ofText? options t with
    | none => none
    | some divider => some (divider :: rest.map operand)
    | some a => (ofTexts? options rest).map (a :: ·)

end Argument

/-- What a command takes. -/
structure Form where
  /-- The number of operands. -/
  operands : Nat
  /-- The names of options, and which values they accept. -/
  options : List (Text × (Text → Bool))

/-- The operands and options that were read. -/
structure Reading.State where
  operands : List Text
  options : Fields Text
  /-- Is there an argument that the command does not take? -/
  excess : Bool
  /-- Was the argument before this one an operand of the command? -/
  afterOperand : Bool
deriving DecidableEq, Repr

namespace Form

/-- Keeps an option with its value, if it accepts it. -/
def keep? (form : Form) (s : Reading.State) (name value : Text) : Option Reading.State :=
  if (Fields.get? form.options name).any fun accepts => accepts value then
    some { s with options := s.options.set name value, afterOperand := false }
  else none

/-- Reads an operand. -/
def readOperand (form : Form) (s : Reading.State) (t : Text) : Reading.State :=
  if s.operands.length < form.operands then
    { s with operands := s.operands ++ [t], afterOperand := true }
  else { s with excess := true, afterOperand := false }

/-- Reads two dashes, which are in excess when no operand stands around them. -/
def readDivider (form : Form) (s : Reading.State) : Reading.State :=
  if s.operands.length < form.operands || s.afterOperand then s else { s with excess := true }

/-- Reads arguments one after the other. A call for help and a refused value end the reading at once,
whatever follows. -/
def readAll (form : Form) (s : Reading.State) : List Argument → Reading Reading.State
  | [] => .done s
  | .help :: _ => .help
  | .helpWithValue :: _ => .refused
  | .operand t :: rest => readAll form (form.readOperand s t) rest
  | .divider :: rest => readAll form (form.readDivider s) rest
  | .unknown :: rest => readAll form { s with excess := true, afterOperand := false } rest
  | .option name (some value) :: rest =>
    match form.keep? s name value with
    | some s => readAll form s rest
    | none => .refused
  | .option name none :: .operand value :: rest =>
    match form.keep? s name value with
    | some s => readAll form s rest
    | none => .refused
  | .option _ none :: _ => .refused

/-- Reads the arguments of a command. With `excess` there was one before that nobody takes. -/
def read (form : Form) (excess : Bool) (arguments : List Text) : Reading (List Text × Fields Text) :=
  match Argument.ofTexts? (Fields.names form.options) arguments with
  | none => .refused
  | some arguments =>
    match form.readAll ⟨[], [], excess, false⟩ arguments with
    | .done s =>
      if s.excess || s.operands.length < form.operands then .refused
      else .done (s.operands, s.options)
    | .help => .help
    | .refused => .refused

end Form

end ChatFlow.Command
