import ChatFlow.File
import ChatFlow.Store.Basic

/-!
# The store as a document

Between two runs of the program the rows of the store stand in a document: a list of rows, each a list
of its user or null, its key and its text.

* `Store.toValue`, `Store.ofValue`: writing and reading the document.
* `Store.reopen`: the store of the next run.
-/

namespace ChatFlow.Store

/-- The entry of a row. -/
def entryOf (row : Row) : Value :=
  let user : Value :=
    match row.owner with
    | .user id => .text id
    | .shared => .null
  .list [user, .text row.key, .text row.text]

/-- The document of a store. -/
def toValue (s : Store) : Value := .list (s.rows.map entryOf)

/-- Puts the row of an entry into a store; anything else is left out. -/
def putEntry (s : Store) : Value → Store
  | .list [.text id, .text key, .text text] => s.put (.user id) key text
  | .list [.null, .text key, .text text] => s.put .shared key text
  | _ => s

/-- The store of a document. -/
def ofValue : Value → Store
  | .list entries => entries.foldl putEntry empty
  | _ => empty

/-- The store of a file; a file that holds no document holds no rows. -/
def ofFile (f : File) : Store := (f.document?.map ofValue).getD empty

/-- The store after it was closed and opened again. A table that is gone is made anew, without rows. -/
def reopen (s : Store) : Store :=
  if s.intact then ofFile (File.absent.writeDocument s.toValue).2 else empty

end ChatFlow.Store
