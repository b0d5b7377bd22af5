import ChatFlow.Calendar.Stamp
import ChatFlow.Text.Split
import ChatFlow.Unicode.Classes
import ChatFlow.Value.Literal

/-!
# Checking documents

A document is checked part by part, and all parts that are refused are counted. Here are the readers
of single parts; they accept a value of a neighbouring kind where nothing is lost by it.

* `Check`: a checked value, or the number of refused parts.
* `Check.text`, `Check.bool`, `Check.int`, `Check.stamp`, `Check.list`: readers of parts.
* `Check.field`, `Check.fieldOr`: a part of an object, which has to be there or has a stand-in.
-/

namespace ChatFlow

/-- A checked value, or how many parts were refused. -/
inductive Check (α : Type) where
  | accepted (a : α)
  | refused (count : Nat)

namespace Check

/-- Applies a checked function; the refused parts of both sides are counted. -/
def apply {α β : Type} (f : Check (α → β)) (x : Check α) : Check β :=
  match f, x with
  | accepted f, accepted a => accepted (f a)
  | accepted _, refused n => refused n
  | refused m, accepted _ => refused m
  | refused m, refused n => refused (m + n)

instance : Applicative Check where
  pure := accepted
  seq f x := apply f (x ())

/-- One refused part. -/
def refuse {α : Type} : Check α := refused 1

/-- A part that is there or not. -/
def ofOption {α : Type} : Option α → Check α
  | some a => accepted a
  | none => refuse

/-- The value, if it was accepted. -/
def toOption {α : Type} : Check α → Option α
  | accepted a => some a
  | refused _ => none

/-! ## Parts -/

/-- A text; a number is taken as its text. -/
def text : Value → Check Text
  | .text t => accepted t
  | .int n => accepted (Text.ofInt n)
  | .float x => accepted x.toText
  | _ => refuse

/-- A text and nothing else. -/
def exactText : Value → Check Text
  | .text t => accepted t
  | _ => refuse

/-- The words for truth values, in lower case. -/
def boolWords : List (Text × Bool) :=
  [("0", false), ("off", false), ("f", false), ("false", false), ("n", false), ("no", false),
   ("1", true), ("on", true), ("t", true), ("true", true), ("y", true), ("yes", true)]

/-- A code point with an upper case ASCII letter made lower case. -/
def asciiLower : CodePoint → CodePoint
  | .scalar c => .scalar c.toLower
  | c => c

/-- A truth value: itself, a one or a zero, or a word for it. -/
def bool : Value → Check Bool
  | .bool b => accepted b
  | .text t => ofOption (Fields.get? boolWords (t.map asciiLower))
  | .int n => if n = 0 then accepted false else if n = 1 then accepted true else refuse
  | .float x => if x.isZero then accepted false else if x.eq 1 then accepted true else refuse
  | _ => refuse

/-- Digits of which neighbours may be parted by a single low line. -/
def groupedDigits? (t : Text) : Option Nat :=
  let parts := Text.splitChar '_' t
  let digit? (c : CodePoint) : Option Nat :=
    if c.isAscii Char.isDigit then some (c.toNat - 0x30) else none
  if parts.any (·.isEmpty) then none
  else (parts.flatten.mapM digit?).map fun ds => ds.foldl (fun n d => n * 10 + d) 0

/-- The integer that a text writes, perhaps with zeros behind a point. -/
def integerText? (t : Text) : Option Int :=
  let t := t.trim
  let (negative, t) :=
    match t with
    | .scalar '-' :: r => (true, r)
    | .scalar '+' :: r => (false, r)
    | _ => (false, t)
  let (whole, places) := Text.partition '.' t
  if maxIntegerDigits < t.length || !(places.getD []).all (· = .scalar '0') then none
  else (groupedDigits? whole).map fun n => if negative then -(n : Int) else n

/-- An integer: itself, a truth value, a whole double that is not too large, or a text that writes it. -/
def int : Value → Check Int
  | .int n => accepted n
  | .bool b => accepted (if b then 1 else 0)
  | .float x =>
    match x.isIntegral, x.truncate? with
    | true, some n => if n.natAbs < Nat.pow 2 63 then accepted n else refuse
    | _, _ => refuse
  | .text t => ofOption (integerText? t)
  | _ => refuse

/-- A time stamp. -/
def stamp (v : Value) : Check Stamp := ofOption (Stamp.ofValue? v)

/-- One of some words. -/
def word {α : Type} (words : List (Text × α)) : Value → Check α
  | .text t => ofOption (Fields.get? words t)
  | _ => refuse

/-- The fields of an object. -/
def object : Value → Check (Fields Value)
  | .object fields => accepted fields
  | _ => refuse

/-- A list of anything. -/
def anyList : Value → Check (List Value)
  | .list items => accepted items
  | _ => refuse

/-- Checks items one after the other. -/
def items {α : Type} (item : Value → Check α) : List Value → Check (List α)
  | [] => accepted []
  | v :: vs => List.cons <$> item v <*> items item vs

/-- A list of which all items are accepted. -/
def list {α : Type} (item : Value → Check α) : Value → Check (List α)
  | .list vs => items item vs
  | _ => refuse

/-- A part or null. -/
def nullable {α : Type} (part : Value → Check α) : Value → Check (Option α)
  | .null => accepted none
  | v => some <$> part v

/-! ## Fields -/

/-- A field that has to be there. -/
def field {α : Type} (fields : Fields Value) (name : Text) (part : Value → Check α) : Check α :=
  (fields.get? name).elim refuse part

/-- A field with a stand-in for when it is not there. -/
def fieldOr {α : Type} (fields : Fields Value) (name : Text) (other : α) (part : Value → Check α) :
    Check α :=
  (fields.get? name).elim (accepted other) part

end Check

mutual

/-- The value as it stands in a document that is read elsewhere: null instead of not-a-number and of
the infinities. -/
def Value.settled : Value → Value
  | .float x => if x.isFinite then .float x else .null
  | .list items => .list (settledItems items)
  | .object fields => .object (settledFields fields)
  | v => v

/-- The items as they stand in a document. -/
def Value.settledItems : List Value → List Value
  | [] => []
  | v :: rest => v.settled :: settledItems rest

/-- The fields as they stand in a document. -/
def Value.settledFields : List (Text × Value) → List (Text × Value)
  | [] => []
  | (name, v) :: rest => (name, v.settled) :: settledFields rest

end

/-- The fields that have none of the given names. -/
def Fields.without {α : Type u} (fields : Fields α) (names : List Text) : Fields α :=
  fields.filter fun (n, _) => !names.contains n

end ChatFlow
