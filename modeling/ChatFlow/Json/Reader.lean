import ChatFlow.Json.Writer

/-!
# Reading JSON

The reader takes the grammar of JSON with the bare words for not-a-number and the infinities that
the writer uses. A number without point and exponent is an integer, any other a double. Of fields
with one name the last counts. Escaped surrogates that follow each other make one code point.

* `Json.read?`: the value of a whole text.
-/

namespace ChatFlow.Json

/-- Blanks between the parts of a document. -/
def isGap (c : CodePoint) : Bool := c == ' ' || c == '\t' || c == '\n' || c == '\r'

/-- The text after leading blanks. -/
def skipGap (t : Text) : Text := t.dropWhile isGap

/-- Four hexadecimal digits. -/
def unit? : Text → Option (Nat × Text)
  | a :: b :: c :: d :: r => do
    let a ← a.hex?
    let b ← b.hex?
    let c ← c.hex?
    let d ← d.hex?
    some (((a * 16 + b) * 16 + c) * 16 + d, r)
  | _ => none

/-- Is the number that of a leading surrogate? -/
def isLeading (n : Nat) : Bool := 0xD800 ≤ n && n < 0xDC00

/-- Is the number that of a trailing surrogate? -/
def isTrailing (n : Nat) : Bool := 0xDC00 ≤ n && n < 0xE000

/-- The code point of an escape whose first unit is `n`; a trailing surrogate escaped right behind a
leading one belongs to it. -/
def escapedPoint? (n : Nat) (r : Text) : Option (CodePoint × Text) :=
  match r with
  | .scalar '\\' :: .scalar 'u' :: r' =>
    if isLeading n then do
      let (m, r'') ← unit? r'
      if isTrailing m then some (.ofNat (0x10000 + (n - 0xD800) * 0x400 + (m - 0xDC00)), r'')
      else some (.ofNat n, r)
    else some (.ofNat n, r)
  | _ => some (.ofNat n, r)

/-- The code point of a one-letter escape. -/
def shortEscape? (c : CodePoint) : Option CodePoint :=
  if c = '"' ∨ c = '\\' ∨ c = '/' then some c
  else if c = 'b' then some (.ofNat 0x08)
  else if c = 'f' then some (.ofNat 0x0C)
  else if c = 'n' then some '\n'
  else if c = 'r' then some '\r'
  else if c = 't' then some '\t'
  else none

/-- The text of a string after its opening quote. Control characters have to be escaped. -/
def string? : (fuel : Nat) → Text → Option (Text × Text)
  | 0, _ => none
  | _ + 1, [] => none
  | fuel + 1, c :: r =>
    if c = '"' then some ([], r)
    else if c = '\\' then
      match r with
      | [] => none
      | e :: r =>
        if e = 'u' then do
          let (n, r) ← unit? r
          let (p, r) ← escapedPoint? n r
          let (t, r) ← string? fuel r
          some (p :: t, r)
        else do
          let p ← shortEscape? e
          let (t, r) ← string? fuel r
          some (p :: t, r)
    else if c.toNat < 0x20 then none
    else do
      let (t, r) ← string? fuel r
      some (c :: t, r)

/-- Is it an ASCII digit? -/
def isDigit (c : CodePoint) : Bool := 0x30 ≤ c.toNat && c.toNat ≤ 0x39

/-- The number that ASCII digits write. -/
def digitsValue (ds : Text) : Nat := ds.foldl (fun n d => n * 10 + (d.toNat - 0x30)) 0

/-- The digits of a fraction, after a point with at least one digit behind it. -/
def fraction (t : Text) : Option (Text × Text) :=
  match t with
  | .scalar '.' :: r =>
    let ds := r.takeWhile isDigit
    if ds.isEmpty then none else some (ds, r.dropWhile isDigit)
  | _ => none

/-- An exponent with at least one digit. -/
def exponent (t : Text) : Option (Int × Text) :=
  match t with
  | e :: r =>
    if e = 'e' ∨ e = 'E' then
      let (negative, r) :=
        match r with
        | .scalar '-' :: r' => (true, r')
        | .scalar '+' :: r' => (false, r')
        | _ => (false, r)
      let ds := r.takeWhile isDigit
      if ds.isEmpty then none
      else
        let n := digitsValue ds
        some (if negative then -(n : Int) else n, r.dropWhile isDigit)
    else none
  | [] => none

/-- The digits that a number begins with; a zero stands alone. -/
def wholeDigits : Text → Text
  | .scalar '0' :: _ => [.scalar '0']
  | t => t.takeWhile isDigit

/-- A number without its sign. -/
def number? (negative : Bool) (t : Text) : Option (Value × Text) :=
  let whole := wholeDigits t
  if whole.isEmpty then none
  else
    let r := t.drop whole.length
    let fractional := fraction r
    let r := (fractional.map Prod.snd).getD r
    let scaled := exponent r
    let r := (scaled.map Prod.snd).getD r
    if fractional.isNone && scaled.isNone then
      let n := digitsValue whole
      if maxIntegerDigits < whole.length then none
      else some (.int (if negative then -(n : Int) else n), r)
    else
      let places := (fractional.map Prod.fst).getD []
      let e := (scaled.map Prod.fst).getD 0 - places.length
      some (.float (.ofDecimal negative (digitsValue (whole ++ places)) e), r)

/-- A word and its value. -/
def words : List (Text × Value) :=
  [("null", .null), ("true", .bool true), ("false", .bool false), ("NaN", .float .nan),
   ("Infinity", .float (.infinite false)), ("-Infinity", .float (.infinite true))]

/-- A word at the beginning of a text. -/
def word? (t : Text) : Option (Value × Text) :=
  (words.find? fun (w, _) => w.isPrefixOf t).map fun (w, v) => (v, t.drop w.length)

mutual

/-- A value; the text begins with it. -/
def value? : (fuel : Nat) → Text → Option (Value × Text)
  | 0, _ => none
  | fuel + 1, t =>
    match t with
    | .scalar '"' :: r => do
      let (s, r) ← string? (r.length + 1) r
      some (.text s, r)
    | .scalar '[' :: r =>
      match skipGap r with
      | .scalar ']' :: r => some (.list [], r)
      | r => do
        let (items, r) ← items? fuel r
        some (.list items, r)
    | .scalar '{' :: r =>
      match skipGap r with
      | .scalar '}' :: r => some (.object [], r)
      | r => do
        let (fields, r) ← fields? fuel r
        some (.object (Fields.ofList fields), r)
    | _ =>
      match word? t with
      | some found => some found
      | none =>
        match t with
        | .scalar '-' :: r => number? true r
        | _ => number? false t

/-- The items of a list up to its closing bracket. -/
def items? : (fuel : Nat) → Text → Option (List Value × Text)
  | 0, _ => none
  | fuel + 1, t => do
    let (v, r) ← value? fuel t
    match skipGap r with
    | .scalar ']' :: r => some ([v], r)
    | .scalar ',' :: r => do
      let (vs, r) ← items? fuel (skipGap r)
      some (v :: vs, r)
    | _ => none

/-- The fields of an object up to its closing brace. -/
def fields? : (fuel : Nat) → Text → Option (List (Text × Value) × Text)
  | 0, _ => none
  | fuel + 1, t =>
    match t with
    | .scalar '"' :: r => do
      let (name, r) ← string? (r.length + 1) r
      match skipGap r with
      | .scalar ':' :: r => do
        let (v, r) ← value? fuel (skipGap r)
        match skipGap r with
        | .scalar '}' :: r => some ([(name, v)], r)
        | .scalar ',' :: r => do
          let (rest, r) ← fields? fuel (skipGap r)
          some ((name, v) :: rest, r)
        | _ => none
      | _ => none
    | _ => none

end

/-- The value that a whole text writes, if it is a document. Every step of the reader takes a code
point, so the length of the text bounds the nesting. -/
def read? (t : Text) : Option Value :=
  match value? (t.length + 1) (skipGap t) with
  | some (v, r) => if (skipGap r).isEmpty then some v else none
  | none => none

end ChatFlow.Json
