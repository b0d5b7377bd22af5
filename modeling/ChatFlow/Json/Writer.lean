import ChatFlow.Value

/-!
# Writing JSON

One writer with two decisions left open: whether code points outside ASCII are escaped, and whether
items stand on lines of their own. Not-a-number and the infinities are written as bare words.

* `Json.text`: the text of a value.
* `Json.write`: the same for values that have one, with the fault of the first part that has none.
-/

namespace ChatFlow

namespace Json

/-- The decisions of a JSON format: escape everything outside ASCII, and the width of one level of
indentation when items stand on lines of their own. -/
structure Style where
  ascii : Bool
  indent : Option Nat

/-- On one line, as text: the form of stored values and of logged lines. -/
def Style.line : Style := ⟨false, none⟩

/-- On lines of their own, two blanks a level: the form of files. -/
def Style.file : Style := ⟨false, some 2⟩

/-- On one line in ASCII only: the form that passes through any channel. -/
def Style.wire : Style := ⟨true, none⟩

/-- A hexadecimal digit. -/
def hexDigit (n : Nat) : Char := if n < 10 then Char.ofNat (0x30 + n) else Char.ofNat (0x57 + n)

/-- A code unit as an escape of four hexadecimal digits. -/
def escapeUnit (n : Nat) : Text :=
  "\\u" ++ ([n / 4096, n / 256, n / 16, n].map fun d => CodePoint.scalar (hexDigit (d % 16)))

/-- A code point of a string. A code point above U+FFFF is escaped as two surrogates. -/
def escape (style : Style) (c : CodePoint) : Text :=
  let n := c.toNat
  if c = '"' then "\\\""
  else if c = '\\' then "\\\\"
  else if n = 0x0A then "\\n"
  else if n = 0x0D then "\\r"
  else if n = 0x09 then "\\t"
  else if n = 0x0C then "\\f"
  else if n = 0x08 then "\\b"
  else if n < 0x20 then escapeUnit n
  else if style.ascii && 0x7F ≤ n then
    if n = 0x7F then [c]
    else if n < 0x10000 then escapeUnit n
    else escapeUnit (0xD800 + (n - 0x10000) / 0x400) ++ escapeUnit (0xDC00 + (n - 0x10000) % 0x400)
  else [c]

/-- A string in quotes. -/
def quoted (style : Style) (t : Text) : Text :=
  .scalar '"' :: (t.flatMap (escape style) ++ [.scalar '"'])

/-- A double: the fewest digits that read back, or a word. -/
def floatText : Double → Text
  | .nan => "NaN"
  | .infinite s => Double.signed s "Infinity"
  | x => x.toText

/-- What stands before an item at a depth: nothing, or a line end and the indentation. -/
def Style.lineBreak (style : Style) (depth : Nat) : Text :=
  match style.indent with
  | none => []
  | some width => .scalar '\n' :: List.replicate (width * depth) (.scalar ' ')

/-- What stands between two items at a depth. -/
def Style.separator (style : Style) (depth : Nat) : Text :=
  match style.indent with
  | none => ", "
  | some _ => "," ++ style.lineBreak depth

mutual

/-- The text of a value that stands at a depth. Bytes have none and are left out as null. -/
def textAt (style : Style) (depth : Nat) : Value → Text
  | .null => "null"
  | .bool b => if b then "true" else "false"
  | .int n => Text.ofInt n
  | .float x => floatText x
  | .text t => quoted style t
  | .bytes _ => "null"
  | .list [] => "[]"
  | .list (v :: vs) =>
    .scalar '[' :: (style.lineBreak (depth + 1) ++ textAt style (depth + 1) v
      ++ itemsText style (depth + 1) vs ++ style.lineBreak depth ++ "]")
  | .object [] => [.scalar '{', .scalar '}']
  | .object ((name, v) :: rest) =>
    .scalar '{' :: (style.lineBreak (depth + 1) ++ quoted style name ++ ": "
      ++ textAt style (depth + 1) v ++ fieldsText style (depth + 1) rest ++ style.lineBreak depth
      ++ ([.scalar '}'] : Text))

/-- The items after the first one, each after a separator. -/
def itemsText (style : Style) (depth : Nat) : List Value → Text
  | [] => []
  | v :: vs => style.separator depth ++ textAt style depth v ++ itemsText style depth vs

/-- The fields after the first one, each after a separator. -/
def fieldsText (style : Style) (depth : Nat) : List (Text × Value) → Text
  | [] => []
  | (name, v) :: rest =>
    style.separator depth ++ quoted style name ++ ": " ++ textAt style depth v
      ++ fieldsText style depth rest

end

/-- The text of a value. -/
def text (style : Style) (v : Value) : Text := textAt style 0 v

/-- Why a value has no JSON text. -/
inductive WriteFault where
  | bytes
  | integerTooLong
deriving DecidableEq, Repr

mutual

/-- The fault of the first part of a value that cannot be written. -/
def fault? : Value → Option WriteFault
  | .bytes _ => some .bytes
  | .int n => if ChatFlow.integerTooLong n then some .integerTooLong else none
  | .list items => itemsFault? items
  | .object fields => fieldsFault? fields
  | _ => none

/-- The first fault among items. -/
def itemsFault? : List Value → Option WriteFault
  | [] => none
  | v :: vs => (fault? v).orElse fun _ => itemsFault? vs

/-- The first fault among fields. -/
def fieldsFault? : List (Text × Value) → Option WriteFault
  | [] => none
  | (_, v) :: rest => (fault? v).orElse fun _ => fieldsFault? rest

end

/-- The text of a value, or the fault that it has none. -/
def write (style : Style) (v : Value) : Except WriteFault Text :=
  match fault? v with
  | some fault => .error fault
  | none => .ok (text style v)

end Json

end ChatFlow
