import ChatFlow.File
import ChatFlow.Workflow.Basic

/-!
# The catalog of workflows

The workflows stand in a file as a list of documents. What was read is kept until the file changes.
Entries that are no workflows are kept with their places, and are written back as they are.

* `Catalog.current`: what the file holds, as it was read or as it is read now.
* `Catalog.load`, `Catalog.get`: the workflows, and the one of an id.
* `Catalog.save`: writes workflows into the file, and the other entries with them.
* `Catalog.delete`, `Catalog.toggle`: changes of one workflow.
-/

namespace ChatFlow

/-- What was read from the file. -/
structure Snapshot where
  workflows : List Workflow
  /-- The entries that are no workflows, and their places in the file. -/
  unread : List (Nat × Value)
  /-- What told whether the file was changed. -/
  tag : Option Nat

/-- The file of workflows, and what was read from it. -/
structure Catalog where
  file : File
  snapshot : Option Snapshot

namespace Snapshot

/-- The workflows among entries, and the other ones with their places; `i` is the first place. -/
def sort (i : Nat) : List Value → List Workflow × List (Nat × Value)
  | [] => ([], [])
  | v :: rest =>
    let (ws, others) := sort (i + 1) rest
    match Workflow.check v with
    | .accepted w => (w :: ws, others)
    | .refused _ => (ws, (i, v) :: others)

/-- The entries of a file; a file that holds no list has none. -/
def entries (f : File) : List Value :=
  match f.document? with
  | some (.list items) => items
  | _ => []

/-- Reads the file. -/
def ofFile (f : File) : Snapshot :=
  let (ws, others) := sort 0 (entries f)
  ⟨ws, others, f.tag?⟩

end Snapshot

namespace Catalog

/-- The catalog of a file that was not read yet. -/
def ofFile (f : File) : Catalog := ⟨f, none⟩

/-- Forgets what was read. -/
def forget (c : Catalog) : Catalog := ⟨c.file, none⟩

/-- What the file holds; it is read only if it was changed. -/
def current (c : Catalog) : Snapshot :=
  match c.snapshot with
  | some s => if s.tag = c.file.tag? then s else .ofFile c.file
  | none => .ofFile c.file

/-- Keeps what was read. -/
def keep (c : Catalog) (s : Snapshot) : Catalog := ⟨c.file, some s⟩

/-- The workflows. -/
def load (c : Catalog) : List Workflow × Catalog := (c.current.workflows, c.keep c.current)

/-- The workflow of an id. -/
def get (c : Catalog) (id : Text) : Option Workflow × Catalog :=
  (c.current.workflows.find? fun w => w.id = id, c.keep c.current)

/-- The id that an entry has, workflow or not. -/
def idOf? (entry : Value) : Option Text :=
  let id := entry.fieldOrNull "id"
  if id = .null ∨ id = .text [] then none else id.plain.toOption

/-- Puts the other entries between the documents of workflows, each to its place or to the end. -/
def place (documents : List Value) (others : List (Nat × Value)) : List Value :=
  others.foldl (fun vs (i, v) => vs.insertIdx (min i vs.length) v) documents

/-- Writes workflows into the file, with the other entries that have none of their ids. -/
def save (c : Catalog) (ws : List Workflow) : Except Fault Bool × Catalog :=
  let s := c.current
  let ids := ws.map (·.id)
  let others := s.unread.filter fun (_, v) => (idOf? v).all fun id => !ids.contains id
  let (r, file) := c.file.writeDocument (.list (place (ws.map Workflow.toValue) others))
  match r with
  | .ok true => (.ok true, ⟨file, some ⟨ws, others, file.tag?⟩⟩)
  | r => (r, ⟨file, some s⟩)

/-- Deletes the workflow of an id, and other entries that have it. Was there any? -/
def delete (c : Catalog) (id : Text) : Except Fault Bool × Catalog :=
  let s := c.current
  let ws := s.workflows.filter fun w => w.id ≠ id
  let others := s.unread.filter fun (_, v) => idOf? v ≠ some id
  if ws.length = s.workflows.length && others.length = s.unread.length then (.ok false, c.keep s)
  else (c.keep { s with unread := others }).save ws

/-- The workflows, where the first one of an id is enabled if it was not and the other way round. -/
def toggled? (id : Text) : List Workflow → Option (List Workflow)
  | [] => none
  | w :: rest =>
    if w.id = id then some ({ w with enabled := !w.enabled } :: rest)
    else (toggled? id rest).map (w :: ·)

/-- Enables or disables the workflow of an id. Is there one? -/
def toggle (c : Catalog) (id : Text) : Except Fault Bool × Catalog :=
  match toggled? id c.current.workflows with
  | some ws => (c.keep c.current).save ws
  | none => (.ok false, c.keep c.current)

end Catalog

end ChatFlow
