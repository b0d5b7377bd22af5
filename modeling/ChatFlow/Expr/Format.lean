import ChatFlow.Value.Literal
import ChatFlow.Value.Number

/-!
# Formatting by percent signs

A text with conversions such as `%s`, `%05.2f` or `%(name)d` takes its values from the operand: a
named conversion from a field of it, an unnamed one the operand itself, which can be taken once.

* `Format.apply`: the formatted text.
-/

namespace ChatFlow

/-- Why a format cannot be applied. -/
inductive FormatFault where
  /-- The operand is of no use for the conversion, is missing, or is left over. -/
  | operand
  /-- A named field is missing. -/
  | missingField
  /-- The conversion is none. -/
  | conversion
  /-- The number is not in the range of the conversion. -/
  | range
  /-- An integer is too long to be written. -/
  | integerTooLong
deriving DecidableEq, Repr

namespace Magnitude

/-- The magnitude rounded to `n` significant digits, which are at least one: the digits and the
exponent of the last of them. -/
def significant (m : Magnitude) (n : Nat) : Nat × Int :=
  if m.quanta = 0 then (0, 1 - (n : Int))
  else
    let g := m.decimalScale - n
    let (num, den) := m.overPowerOfTen g
    let q := roundHalfEven num den
    if q = Nat.pow 10 n then (Nat.pow 10 (n - 1), g + 1) else (q, g)

end Magnitude

namespace Format

/-- The flags before a conversion. -/
structure Flags where
  left : Bool := false
  plus : Bool := false
  blank : Bool := false
  alternate : Bool := false
  zero : Bool := false

/-- A conversion: flags, least width, precision and kind. -/
structure Conversion where
  flags : Flags
  width : Nat
  precision : Option Nat
  kind : Char

/-- Flags at the beginning of a text, and the rest. -/
def flags : Flags → Text → Flags × Text
  | f, .scalar '-' :: r => flags { f with left := true } r
  | f, .scalar '+' :: r => flags { f with plus := true } r
  | f, .scalar ' ' :: r => flags { f with blank := true } r
  | f, .scalar '#' :: r => flags { f with alternate := true } r
  | f, .scalar '0' :: r => flags { f with zero := true } r
  | f, r => (f, r)

/-- The digits at the beginning of a text as a number, and the rest. -/
def number (t : Text) : Nat × Text :=
  let ds := t.takeWhile (·.isAscii Char.isDigit)
  (ds.foldl (fun n d => n * 10 + d.hex?.getD 0) 0, t.drop ds.length)

/-- The name of a field up to its closing parenthesis; parentheses inside have to match. -/
def fieldName : (depth : Nat) → Text → Option (Text × Text)
  | _, [] => none
  | depth, .scalar '(' :: r =>
    (fieldName (depth + 1) r).map fun (n, rest) => (.scalar '(' :: n, rest)
  | 0, .scalar ')' :: r => some ([], r)
  | depth + 1, .scalar ')' :: r =>
    (fieldName depth r).map fun (n, rest) => (.scalar ')' :: n, rest)
  | depth, c :: r => (fieldName depth r).map fun (n, rest) => (c :: n, rest)

/-- Pads a text to a width. A number has a sign and a base mark in front, before zeros and behind
blanks. -/
def pad (c : Conversion) (zeros : Bool) (front body : Text) : Text :=
  let missing := c.width - (front.length + body.length)
  if c.flags.left then front ++ body ++ List.replicate missing (.scalar ' ')
  else if zeros then front ++ List.replicate missing (.scalar '0') ++ body
  else List.replicate missing (.scalar ' ') ++ front ++ body

/-- The sign of a number. -/
def signText (f : Flags) (negative : Bool) : Text :=
  if negative then "-" else if f.plus then "+" else if f.blank then " " else []

/-- The digits of a number in base 8, 10 or 16. -/
def digitsIn (base : Nat) (n : Nat) : Text := (Nat.toDigits base n).map .scalar

/-- An integer in a base, with its mark if the flag asks for it. -/
def integer (c : Conversion) (base : Nat) (mark : Text) (n : Int) : Text :=
  let digits := digitsIn base n.natAbs
  let digits := List.replicate ((c.precision.getD 0) - digits.length) (.scalar '0') ++ digits
  let mark := if c.flags.alternate then mark else []
  pad c c.flags.zero (signText c.flags (n < 0) ++ mark) digits

/-- The text without trailing zeros behind its point, and without a point that ends it. -/
def trimZeros (t : Text) : Text :=
  if t.contains '.' then
    Text.trimEndBy (· == '.') (Text.trimEndBy (· == '0') t)
  else t

/-- A number with an exponent and `places` digits behind the point. -/
def scientific (alternate trimmed : Bool) (places : Nat) (m : Magnitude) : Text :=
  let (digits, e) := m.significant (places + 1)
  let ds := Text.padded (places + 1) digits
  let body :=
    match Double.scientificDigits ds with
    | [d] => if alternate then [d, .scalar '.'] else [d]
    | t => if trimmed then trimZeros t else t
  body ++ Double.exponentText (e + places)

/-- A number with `places` digits behind the point. -/
def fixed (alternate trimmed : Bool) (places : Nat) (m : Magnitude) : Text :=
  let t := Double.pointText places (Double.scaled m places)
  let t := if alternate && places = 0 then t ++ "." else t
  if trimmed then trimZeros t else t

/-- The unsigned text of a double under one of the conversions `e`, `f` and `g`. -/
def doubleBody (c : Conversion) (x : Double) : Text :=
  match x with
  | .nan => "nan"
  | .infinite _ => "inf"
  | .finite _ m =>
    let places := c.precision.getD 6
    match c.kind.toLower with
    | 'e' => scientific c.flags.alternate false places m
    | 'f' => fixed c.flags.alternate false places m
    | _ =>
      let p := Nat.max 1 places
      let e := (m.significant p).2 + p - 1
      let trimmed := !c.flags.alternate
      if -4 ≤ e && e < p then fixed c.flags.alternate trimmed (p - 1 - e).toNat m
      else scientific c.flags.alternate trimmed (p - 1) m

/-- The text in upper case, for conversions that are written so. -/
def cased (c : Conversion) (t : Text) : Text :=
  if c.kind.isUpper then
    t.map fun
      | .scalar ch => .scalar ch.toUpper
      | p => p
  else t

/-- The integer that a conversion of whole numbers takes from a value; the decimal ones cut doubles
toward zero. -/
def wholeOperand (decimal : Bool) : Value → Except FormatFault Int
  | .int n => .ok n
  | .bool b => .ok (if b then 1 else 0)
  | .float x =>
    if !decimal then .error .operand
    else
      match x with
      | .nan => .error .conversion
      | .infinite _ => .error .range
      | .finite .. => .ok (x.truncate?.getD 0)
  | _ => .error .operand

/-- The double that a conversion takes from a value. -/
def doubleOperand : Value → Except FormatFault Double
  | .float x => .ok x
  | .int n =>
    match doubleOfInt n with
    | .ok x => .ok x
    | .error _ => .error .range
  | .bool b => .ok (if b then 1 else 0)
  | _ => .error .operand

/-- A text cut to the precision and padded. -/
def words (c : Conversion) (t : Except Fault Text) : Except FormatFault Text :=
  match t with
  | .error _ => .error .integerTooLong
  | .ok t => .ok (pad c false [] (match c.precision with | some n => t.take n | none => t))

/-- The text of a value under a conversion. -/
def convert (c : Conversion) (v : Value) : Except FormatFault Text :=
  match c.kind with
  | 's' => words c v.plain
  | 'r' => words c (v.literal false)
  | 'a' => words c (v.literal true)
  | 'c' =>
    match v with
    | .text [p] => .ok (pad c false [] [p])
    | .int n => if 0 ≤ n && n < 0x110000 then .ok (pad c false [] [.ofNat n.toNat]) else .error .range
    | .bool b => .ok (pad c false [] [.ofNat (if b then 1 else 0)])
    | _ => .error .operand
  | 'd' | 'i' | 'u' => do
    let n ← wholeOperand true v
    if integerTooLong n then .error .integerTooLong else .ok (integer c 10 [] n)
  | 'x' => return integer c 16 "0x" (← wholeOperand false v)
  | 'X' => return cased c (integer c 16 "0X" (← wholeOperand false v))
  | 'o' => return integer c 8 "0o" (← wholeOperand false v)
  | 'e' | 'E' | 'f' | 'F' | 'g' | 'G' => do
    let x ← doubleOperand v
    .ok (pad c c.flags.zero (signText c.flags x.isNegative) (cased c (doubleBody c x)))
  | _ => .error .conversion

/-- What is left to take of the operand: unnamed conversions take it once. -/
def next (taken : Bool) (operand : Value) : Except FormatFault Value :=
  if taken then .error .operand else .ok operand

/-- A conversion after its percent sign and name: flags, width, precision, length marks and kind. -/
def conversion (t : Text) : Except FormatFault (Conversion × Text) :=
  let (fs, r) := flags {} t
  match r with
  | .scalar '*' :: _ => .error .operand
  | _ =>
    let (width, r) := number r
    let (precision, r) : Option Nat × Text :=
      match r with
      | .scalar '.' :: r =>
        let (n, r) := number r
        (some n, r)
      | _ => (none, r)
    match precision, r with
    | some _, .scalar '*' :: _ => .error .operand
    | _, _ =>
      let r :=
        match r with
        | .scalar 'h' :: r => r
        | .scalar 'l' :: r => r
        | .scalar 'L' :: r => r
        | _ => r
      match r with
      | .scalar kind :: r => .ok (⟨fs, width, precision, kind⟩, r)
      | _ => .error .conversion

/-- Formats from left to right; `taken` tells whether the operand has been taken. -/
def applyAux (operand : Value) : (fuel : Nat) → (taken : Bool) → Text →
    Except FormatFault (Text × Bool)
  | 0, taken, _ => .ok ([], taken)
  | _ + 1, taken, [] => .ok ([], taken)
  | fuel + 1, taken, .scalar '%' :: r => do
    let (named, r) ←
      match r with
      | .scalar '(' :: r =>
        match operand with
        | .object fields =>
          match fieldName 0 r with
          | none => .error .conversion
          | some (name, r) =>
            match Fields.get? fields name with
            | some v => pure (some v, r)
            | none => .error .missingField
        | _ => .error .operand
      | _ => pure (none, r)
    let (c, r) ← conversion r
    if c.kind = '%' then
      let (t, taken) ← applyAux operand fuel taken r
      return (.scalar '%' :: t, taken)
    else
      let v ←
        match named with
        | some v => pure v
        | none => next taken operand
      let shown ← convert c v
      let (t, taken) ← applyAux operand fuel (taken || named.isNone) r
      return (shown ++ t, taken)
  | fuel + 1, taken, c :: r => do
    let (t, taken) ← applyAux operand fuel taken r
    return (c :: t, taken)

/-- The formatted text. An operand that is no collection has to be taken. -/
def apply (format : Text) (operand : Value) : Except FormatFault Text := do
  let (t, taken) ← applyAux operand (format.length + 1) false format
  let collection : Bool :=
    match operand with
    | .list _ => true
    | .object _ => true
    | .bytes _ => true
    | _ => false
  if taken || collection then .ok t else .error .operand

end Format

end ChatFlow
