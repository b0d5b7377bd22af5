import ChatFlow.Fault
import ChatFlow.Json.Writer
import ChatFlow.Unicode.Classes

/-!
# Literal notation of values

The notation in which expressions write values: quoted texts with escapes for what cannot be shown,
and displays of lists and objects.

* `Value.literal`: the notation of a value.
* `Value.plain`: the same, but a text stands for itself.
-/

namespace ChatFlow

namespace Text

/-- A number in `width` hexadecimal digits. -/
def hexDigits : (width : Nat) → Nat → Text
  | 0, _ => []
  | width + 1, n => hexDigits width (n / 16) ++ [.scalar (Json.hexDigit (n % 16))]

/-- A code point inside quotes. -/
def literalPoint (ascii : Bool) (quote : Char) (c : CodePoint) : Text :=
  let n := c.toNat
  if c = quote ∨ c = '\\' then [.scalar '\\', c]
  else if n = 0x0A then "\\n"
  else if n = 0x0D then "\\r"
  else if n = 0x09 then "\\t"
  else if n < 0x80 ∨ !ascii then
    if c.isPrintable then [c]
    else if n < 0x100 then "\\x" ++ hexDigits 2 n
    else if n < 0x10000 then "\\u" ++ hexDigits 4 n
    else "\\U" ++ hexDigits 8 n
  else if n < 0x100 then "\\x" ++ hexDigits 2 n
  else if n < 0x10000 then "\\u" ++ hexDigits 4 n
  else "\\U" ++ hexDigits 8 n

/-- A text in quotes: single ones, unless it has such quotes and no double ones. -/
def literal (ascii : Bool) (t : Text) : Text :=
  let quote := if t.contains '\'' && !t.contains '"' then '"' else '\''
  .scalar quote :: (t.flatMap (literalPoint ascii quote) ++ [.scalar quote])

/-- A byte string in quotes. -/
def bytesLiteral (b : List UInt8) : Text :=
  let points : Text := b.map fun x => .ofNat x.toNat
  let quote := if points.contains '\'' && !points.contains '"' then '"' else '\''
  let shown (c : CodePoint) : Text :=
    if 0x7F ≤ c.toNat then "\\x" ++ hexDigits 2 c.toNat else literalPoint true quote c
  let body := points.flatMap shown
  .scalar 'b' :: .scalar quote :: (body ++ [.scalar quote])

end Text

namespace Value

mutual

/-- The notation of a value whose integers are not too long. -/
def literalText (ascii : Bool) : Value → Text
  | .null => "None"
  | .bool b => if b then "True" else "False"
  | .int n => Text.ofInt n
  | .float x => x.toText
  | .text t => t.literal ascii
  | .bytes b => Text.bytesLiteral b
  | .list items => "[" ++ literalItems ascii items ++ "]"
  | .object fields => .scalar '{' :: (literalFields ascii fields ++ ([.scalar '}'] : Text))

/-- Items with commas between them. -/
def literalItems (ascii : Bool) : List Value → Text
  | [] => []
  | [v] => literalText ascii v
  | v :: w :: rest => literalText ascii v ++ ", " ++ literalItems ascii (w :: rest)

/-- Fields with commas between them. -/
def literalFields (ascii : Bool) : List (Text × Value) → Text
  | [] => []
  | [(name, v)] => name.literal ascii ++ ": " ++ literalText ascii v
  | (name, v) :: w :: rest =>
    name.literal ascii ++ ": " ++ literalText ascii v ++ ", " ++ literalFields ascii (w :: rest)

end

mutual

/-- Has the value an integer that is too long to be written? -/
def hasLongInteger : Value → Bool
  | .int n => integerTooLong n
  | .list items => itemsHaveLongInteger items
  | .object fields => fieldsHaveLongInteger fields
  | _ => false

/-- Has one of the items an integer that is too long? -/
def itemsHaveLongInteger : List Value → Bool
  | [] => false
  | v :: rest => hasLongInteger v || itemsHaveLongInteger rest

/-- Has one of the fields an integer that is too long? -/
def fieldsHaveLongInteger : List (Text × Value) → Bool
  | [] => false
  | (_, v) :: rest => hasLongInteger v || fieldsHaveLongInteger rest

end

/-- The notation of a value, in ASCII only if asked for. -/
def literal (ascii : Bool) (v : Value) : Except Fault Text :=
  if v.hasLongInteger then .error .integerTooLong else .ok (literalText ascii v)

/-- The notation of a value, except that a text stands for itself. -/
def plain : Value → Except Fault Text
  | .text t => .ok t
  | v => v.literal false

end Value

end ChatFlow
