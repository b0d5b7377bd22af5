import ChatFlow.Document.Check
import ChatFlow.Unicode.Case
import ChatFlow.Value.Number

/-!
# Loose fields

The fields that an editor writes may be missing, null, or of a neighbouring kind. A field that cannot
be used takes its stand-in, so that reading it always succeeds.

* `Loose.text`, `Loose.bool`, `Loose.number`, `Loose.integer`, `Loose.word`, `Loose.any`: the readers.
-/

namespace ChatFlow.Loose

/-- A text; values of other kinds are taken as the text that shows them. -/
def text (fields : Fields Value) (name other : Text) : Text :=
  match fields.get? name with
  | none | some .null => other
  | some (.text t) => t
  | some (.bool b) => if b then "true" else "false"
  | some (.int n) => Text.ofInt n
  | some (.float x) => x.toText
  | some v => Json.text .line v

/-- Is the value null or a blank text? -/
def isVoid : Value → Bool
  | .null => true
  | .text t => t.isBlank
  | _ => false

/-- The field, unless it is missing, null or blank. -/
def filled? (fields : Fields Value) (name : Text) : Option Value :=
  (fields.get? name).filter fun v => !isVoid v

/-- Words that stand for true, in lower case. -/
def trueWords : List Text := ["true", "1", "yes", "on"]

/-- Does the value stand for true? -/
def isTrue : Value → Bool
  | .text t => trueWords.contains t.trim.toLower
  | .bool b => b
  | .int n => n == 1
  | .float x => x.eq 1
  | _ => false

/-- A truth value. -/
def bool (fields : Fields Value) (name : Text) (other : Bool) : Bool :=
  ((filled? fields name).map isTrue).getD other

/-- The finite number that a value stands for. -/
def number? (v : Value) : Option Double :=
  let x : Option Double :=
    match v with
    | .bool b => some (if b then 1 else 0)
    | .int n => some (Double.ofInt n)
    | .float x => some x
    | .text t => t.toDouble?
    | _ => none
  x.filter Double.isFinite

/-- A finite number. -/
def number (fields : Fields Value) (name : Text) (other : Double) : Double :=
  ((filled? fields name).bind number?).getD other

/-- The integer part of a finite number. -/
def integer (fields : Fields Value) (name : Text) (other : Int) : Int :=
  (((filled? fields name).bind number?).bind Double.truncate?).getD other

/-- One of some words. -/
def word {α : Type} (words : List (Text × α)) (fields : Fields Value) (name : Text) (other : α) : α :=
  match filled? fields name with
  | some (.text t) => (Fields.get? words t).getD other
  | _ => other

/-- Any value but null. -/
def any (fields : Fields Value) (name : Text) (other : Value) : Value :=
  match fields.get? name with
  | none | some .null => other
  | some v => v

/-- A position of a node, which may be unknown. -/
def position (fields : Fields Value) (name : Text) : Option Double := (fields.get? name).bind number?

end ChatFlow.Loose
