import ChatFlow.Fault
import ChatFlow.Json.Reader

/-!
# Files

A file holds text or is not there, and its version tells one writing of it from the next. A file may be
blocked, so that it cannot be written; one whose place is taken by something else is, and it holds nothing.

* `File.write`: writing; a text that cannot be encoded leaves the file empty.
* `File.document?`: the JSON document that the file holds.
-/

namespace ChatFlow

/-- A file. -/
structure File where
  content : Option Text
  /-- How often the file was changed. -/
  version : Nat
  /-- Can it not be written? -/
  blocked : Bool
deriving DecidableEq, Repr

namespace File

/-- A file that is not there. -/
def absent : File := ⟨none, 0, false⟩

/-- Puts a text into the file, or removes the file. -/
def put (f : File) (content : Option Text) : File :=
  if f.blocked then f else { f with content := content, version := f.version + 1 }

/-- Writes a text. Was it written? -/
def write (f : File) (t : Text) : Except Fault Bool × File :=
  if f.blocked then (.ok false, f)
  else if t.isWellFormed then (.ok true, f.put (some t))
  else (.error .unencodable, f.put (some []))

/-- Writes a value as a document. -/
def writeDocument (f : File) (v : Value) : Except Fault Bool × File := f.write (Json.text .file v)

/-- What tells whether the file was changed; nothing if it is not there. -/
def tag? (f : File) : Option Nat := f.content.map fun _ => f.version

/-- The document that the file holds, if it is there and holds one. -/
def document? (f : File) : Option Value := f.content.bind Json.read?

end File

end ChatFlow
