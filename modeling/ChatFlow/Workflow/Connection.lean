import ChatFlow.Document.Check
import ChatFlow.Text.Split
import ChatFlow.Unicode.Classes
import ChatFlow.Value.Literal

/-!
# Connections

A connection leads from a slot of a node to another node. Both ends are names, which need not be
those of nodes.

* `Connection.check`: reading a connection, in its present or in an older form.
* `Connection.toValue`: writing it.
-/

namespace ChatFlow

/-- The slots that connections leave a node from: the usual one, and that of a condition that does
not hold. -/
inductive Slot where
  | first
  | second
deriving DecidableEq, Repr

namespace Slot

/-- The name of a slot. -/
def label : Slot → Text
  | first => "output_1"
  | second => "output_2"

/-- The names of the slots in all spellings. -/
def words : List (Text × Slot) :=
  [("output", first), ("output-1", first), ("output_1", first), ("output-2", second),
   ("output_2", second)]

end Slot

/-- A connection between two nodes. -/
structure Connection where
  origin : Text
  target : Text
  slot : Slot
deriving DecidableEq, Repr

namespace Connection

/-- The first of two fields that is there. -/
def either? (fs : Fields Value) (name older : Text) : Option Value :=
  (fs.get? name).orElse fun _ => fs.get? older

/-- An end of a connection: the text of anything but null. -/
def checkEnd (v : Option Value) : Check Text :=
  match v with
  | none | some .null => .refuse
  | some v => .ofOption (v.plain).toOption

/-- The slot: the first of two fields that is not empty, else the usual one. -/
def checkSlot (fs : Fields Value) : Check Slot :=
  let given := [fs.get? "from_output", fs.get? "port"].filterMap fun v => v.filter Value.truthy
  match given with
  | [] => .accepted .first
  | v :: _ => .ofOption ((v.plain).toOption.bind fun t => Fields.get? Slot.words t.trim)

/-- Reads a connection. -/
def check : Value → Check Connection
  | .object fs =>
    Connection.mk <$> checkEnd (either? fs "from_node" "from") <*> checkEnd (either? fs "to_node" "to")
      <*> checkSlot fs
  | _ => .refuse

/-- Writes a connection. -/
def toValue (c : Connection) : Value :=
  .object [("from_node", .text c.origin), ("to_node", .text c.target),
    ("from_output", .text c.slot.label)]

end Connection

end ChatFlow
