import ChatFlow.Json.Reader
import ChatFlow.Text.Split
import ChatFlow.Unicode.Classes
import ChatFlow.Value.Display

/-!
# Headers

The headers of a request are written as a JSON object or as lines with a name and a value.

* `Headers.ofFields`: the headers of an object.
* `Headers.ofText`: the headers that a text writes in either form.
-/

namespace ChatFlow.Headers

/-- The headers of an object; values are shown as text. -/
def ofFields (fs : Fields Value) : Except Fault (Fields Text) :=
  fs.mapM fun (name, v) => v.display.map (name, ·)

/-- The name and value of a line, if it has both. -/
def ofLine? (t : Text) : Option (Text × Text) :=
  let (name, v) := Text.partition ':' t
  let name := name.trim
  let v := (v.getD []).trim
  if name.isEmpty || v.isEmpty then none else some (name, v)

/-- The headers of lines; of lines with one name the last counts. -/
def ofLines (lines : List Text) : Fields Text := Fields.ofList (lines.filterMap ofLine?)

/-- The headers that a text writes. -/
def ofText (t : Text) : Except Fault (Fields Text) :=
  if t.isBlank then .ok []
  else
    match Json.read? t with
    | some (.object fs) => ofFields fs
    | _ => .ok (ofLines t.lines)

end ChatFlow.Headers
