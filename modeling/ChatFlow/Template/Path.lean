import ChatFlow.Double.Reader
import ChatFlow.Value

/-!
# Paths into documents

A path such as `a.b[0].c` leads into a document: names into objects, positions into lists. A name of
digits alone leads into a list as well.

* `Path.ofText?`: the steps of a path.
* `Value.follow`: where they lead.
* `Value.extract`: what a path finds, an empty text if nothing.
-/

namespace ChatFlow

/-- A part of a path: a name, a position in brackets, or both. -/
structure PathPart where
  name : Option Text
  position : Option Text
deriving DecidableEq, Repr

namespace PathPart

/-- The digits in brackets at the end of a part, behind which one line end may stand. -/
def position? (t : Text) : Option Text :=
  let ds := t.takeWhile CodePoint.isDecimal
  if ds.isEmpty then none
  else
    match t.dropWhile CodePoint.isDecimal with
    | [.scalar ']'] => some ds
    | [.scalar ']', .scalar '\n'] => some ds
    | _ => none

/-- Reads a part of a path. -/
def ofText? (t : Text) : Option PathPart :=
  let name := t.takeWhile (· ≠ .scalar '[')
  let name? := if name.isEmpty then none else some name
  match t.dropWhile (· ≠ .scalar '[') with
  | [] => name?.map fun n => ⟨some n, none⟩
  | _ :: r => (position? r).map fun ds => ⟨name?, some ds⟩

end PathPart

namespace Value

/-- The item at a position of a list; null if there is none. -/
def item (v : Value) (n : Nat) : Value :=
  match v with
  | list items => (items[n]?).getD null
  | _ => null

/-- What a name leads to. -/
def member (v : Value) (name : Text) : Except Fault Value :=
  match v with
  | object _ => .ok (v.fieldOrNull name)
  | list _ =>
    if !name.isEmpty && name.all CodePoint.isDigit then
      if name.all CodePoint.isDecimal then (Text.decimalNumber name).map v.item
      else .error .notANumber
    else .ok null
  | _ => .ok null

/-- What a part of a path leads to. -/
def followPart (v : Value) (part : PathPart) : Except Fault Value := do
  let v ← match part.name with
    | some name => v.member name
    | none => .ok v
  match part.position with
  | some ds => (Text.decimalNumber ds).map v.item
  | none => .ok v

/-- What the parts of a path lead to; nothing behind a part that is malformed. -/
def follow (v : Value) : List Text → Except Fault Value
  | [] => .ok v
  | t :: ts =>
    match PathPart.ofText? t with
    | none => .ok (.text [])
    | some part => do (← v.followPart part).follow ts

/-- What a path finds in a document; an empty text stands for nothing. -/
def extract (v : Value) (path : Text) : Except Fault Value :=
  (v.follow (Text.splitChar '.' path)).map fun
    | null => .text []
    | v => v

end Value

end ChatFlow
