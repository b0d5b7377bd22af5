import ChatFlow.Double.Reader
import ChatFlow.Expr.Syntax
import ChatFlow.Unicode.Identifier

/-!
# Tokens of expressions

An expression is words, numbers, string literals and signs. Line ends count outside brackets only,
comments run to the end of their line, and an expression may not be indented.

* `Expr.tokens?`: the tokens of a text.
-/

namespace ChatFlow

/-- An operator or a delimiter. -/
inductive Sign where
  | plus | minus | star | slash | doubleSlash | percent | doubleStar | at
  | amp | bar | caret | tilde | shiftLeft | shiftRight
  | eq | ne | lt | le | gt | ge
  | leftParen | rightParen | leftBracket | rightBracket | leftBrace | rightBrace
  | comma | colon | dot | ellipsis | assign | walrus
  /-- A sign that no expression has. -/
  | foreign
deriving DecidableEq, Repr

/-- A token of an expression. -/
inductive Token where
  | word (w : Text)
  | number (v : Value)
  | imaginary
  | text (t : Text)
  | bytes
  /-- A string literal with expressions in it, which have to be read in turn. -/
  | formatted (raw : Bool) (body : Text)
  | sign (s : Sign)
  | lineEnd
deriving DecidableEq

namespace Lexer

/-- The signs of three characters. -/
def longSigns : List (Text × Sign) :=
  [("**=", .foreign), ("//=", .foreign), (">>=", .foreign), ("<<=", .foreign), ("...", .ellipsis)]

/-- The signs of two characters. -/
def doubleSigns : List (Text × Sign) :=
  [("!=", .ne), ("%=", .foreign), ("&=", .foreign), ("**", .doubleStar), ("*=", .foreign),
   ("+=", .foreign), ("-=", .foreign), ("->", .foreign), ("//", .doubleSlash), ("/=", .foreign),
   (":=", .walrus), ("<<", .shiftLeft), ("<=", .le), ("<>", .foreign), ("==", .eq), (">=", .ge),
   (">>", .shiftRight), ("@=", .foreign), ("^=", .foreign), ("|=", .foreign)]

/-- The signs of one character. -/
def singleSigns : List (Char × Sign) :=
  [('%', .percent), ('&', .amp), ('(', .leftParen), (')', .rightParen), ('*', .star), ('+', .plus),
   (',', .comma), ('-', .minus), ('.', .dot), ('/', .slash), (':', .colon), (';', .foreign),
   ('<', .lt), ('=', .assign), ('>', .gt), ('@', .at), ('[', .leftBracket), (']', .rightBracket),
   ('^', .caret), ('{', .leftBrace), ('|', .bar), ('}', .rightBrace), ('~', .tilde)]

/-- The signs, longer ones first. -/
def signs : List (Text × Sign) :=
  longSigns ++ doubleSigns ++ singleSigns.map fun (c, s) => ([.scalar c], s)

/-- The longest sign at the beginning of a text, and the rest. -/
def sign? (t : Text) : Option (Sign × Text) :=
  (signs.find? fun (s, _) => s.isPrefixOf t).map fun (s, sign) => (sign, t.drop s.length)

/-- Can the code point belong to a word? Everything outside ASCII can; the word is checked whole. -/
def isWordPart (c : CodePoint) : Bool :=
  128 ≤ c.toNat || c.isAscii fun ch => ch.isAlphanum || ch == '_'

/-- Can a word begin with the code point? -/
def isWordStart (c : CodePoint) : Bool := isWordPart c && !c.isAscii Char.isDigit

/-! ## Numbers -/

/-- Words that may stand right behind a number, and the text that shows them. -/
def afterNumber : List Text := ["and", "else", "for", "if", "in", "is", "or", "not"]

/-- May a number end before this text? -/
def endsNumber (t : Text) : Bool :=
  match t with
  | [] => true
  | c :: _ => !isWordPart c || afterNumber.any (·.isPrefixOf t)

/-- Digits in groups with one low line between them: their text without the low lines, and the
rest. -/
def digitGroups (p : Char → Bool) : (fuel : Nat) → Text → Option (Text × Text)
  | 0, _ => none
  | fuel + 1, t =>
    let ds := t.takeWhile (·.isAscii p)
    if ds.isEmpty then none
    else
      match t.drop ds.length with
      | .scalar '_' :: r => (digitGroups p fuel r).map fun (more, r) => (ds ++ more, r)
      | r => some (ds, r)

/-- The value of digits in a base. -/
def digitsIn (base : Nat) (ds : Text) : Nat :=
  ds.foldl (fun n d => n * base + d.hex?.getD 0) 0

/-- An integer in a base of its own, after its opening. A low line may open the digits. -/
def basedNumber? (base : Nat) (p : Char → Bool) (t : Text) : Option (Token × Text) := do
  let t :=
    match t with
    | .scalar '_' :: r => r
    | _ => t
  let (ds, r) ← digitGroups p (t.length + 1) t
  if (r.head?.any (·.isAscii Char.isDigit)) || !endsNumber r then none
  some (.number (.int (digitsIn base ds)), r)

/-- An exponent: its value and the rest. -/
def exponent? (t : Text) : Option (Int × Text) :=
  match t with
  | c :: r =>
    if c = 'e' ∨ c = 'E' then
      let (negative, r) :=
        match r with
        | .scalar '-' :: r' => (true, r')
        | .scalar '+' :: r' => (false, r')
        | _ => (false, r)
      (digitGroups Char.isDigit (r.length + 1) r).map fun (ds, r) =>
        let n := digitsIn 10 ds
        (if negative then -(n : Int) else n, r)
    else none
  | [] => none

/-- Does an exponent sign begin here that has to have digits behind it? -/
def opensExponent (t : Text) : Bool :=
  match t with
  | e :: s :: r =>
    (e == 'e' || e == 'E') && (s == '-' || s == '+') && !(r.head?.any (·.isAscii Char.isDigit))
  | _ => false

/-- A decimal number. Zeros may open an integer only if it is zero. -/
def decimalNumber? (t : Text) : Option (Token × Text) := do
  let (whole, r) ←
    match t with
    | .scalar '.' :: _ => some ([], t)
    | _ => digitGroups Char.isDigit (t.length + 1) t
  let (fraction, r, pointed) ←
    match r with
    | .scalar '.' :: r =>
      if r.head?.any (·.isAscii Char.isDigit) then
        (digitGroups Char.isDigit (r.length + 1) r).map fun (ds, r) => (ds, r, true)
      else some ([], r, true)
    | _ => some ([], r, false)
  let scaled := exponent? r
  if scaled.isNone && opensExponent r then none
  let r := (scaled.map Prod.snd).getD r
  let value := digitsIn 10 (whole ++ fraction)
  match r with
  | c :: r' =>
    if c = 'j' ∨ c = 'J' then
      if endsNumber r' then some (.imaginary, r') else none
    else finish whole fraction r pointed scaled value
  | [] => finish whole fraction r pointed scaled value
where
  /-- The number before `r`, which has to end it. -/
  finish (whole fraction r : Text) (pointed : Bool) (scaled : Option (Int × Text)) (value : Nat) :
      Option (Token × Text) :=
    if !endsNumber r then none
    else if pointed || scaled.isSome then
      let e := (scaled.map Prod.fst).getD 0 - fraction.length
      some (.number (.float (.ofDecimal false value e)), r)
    else if whole.head? = some (.scalar '0') && value ≠ 0 then none
    else if maxIntegerDigits < whole.length then none
    else some (.number (.int value), r)

/-- A number at the beginning of a text. -/
def number? (t : Text) : Option (Token × Text) :=
  match t with
  | .scalar '0' :: c :: r =>
    if c = 'x' ∨ c = 'X' then
      basedNumber? 16 (fun ch => ch.isDigit || ('a' ≤ ch.toLower && ch.toLower ≤ 'f')) r
    else if c = 'o' ∨ c = 'O' then basedNumber? 8 (fun ch => '0' ≤ ch && ch ≤ '7') r
    else if c = 'b' ∨ c = 'B' then basedNumber? 2 (fun ch => ch == '0' || ch == '1') r
    else decimalNumber? t
  | _ => decimalNumber? t

/-! ## String literals -/

/-- How a string literal is opened. -/
structure Opening where
  raw : Bool := false
  bytes : Bool := false
  formatted : Bool := false

/-- The openings before a quote, in lower case. -/
def openings : List (Text × Opening) :=
  [("", {}), ("u", {}), ("r", { raw := true }), ("b", { bytes := true }),
   ("f", { formatted := true }), ("br", { raw := true, bytes := true }),
   ("rb", { raw := true, bytes := true }), ("fr", { raw := true, formatted := true }),
   ("rf", { raw := true, formatted := true })]

/-- The opening, the quote and what follows it, if a string literal begins here. -/
def opening? (t : Text) : Option (Opening × CodePoint × Text) :=
  let letters := t.takeWhile (·.isAscii Char.isAlpha)
  match t.drop letters.length with
  | q :: r =>
    if q = '"' ∨ q = '\'' then
      let key := letters.map fun
        | .scalar c => CodePoint.scalar c.toLower
        | c => c
      (openings.find? fun (o, _) => o = key).map fun (_, o) => (o, q, r)
    else none
  | [] => none

/-- The body of a literal up to its closing: one quote, or three. A line end needs three. -/
def body? (q : CodePoint) (triple : Bool) : Text → Option (Text × Text)
  | [] => none
  | .scalar '\\' :: c :: r => (body? q triple r).map fun (b, r) => (.scalar '\\' :: c :: b, r)
  | c :: r =>
    if triple then
      match c :: r with
      | a :: b :: d :: r' =>
        if a = q ∧ b = q ∧ d = q then some ([], r')
        else (body? q triple r).map fun (body, r) => (c :: body, r)
      | _ => none
    else if c = q then some ([], r)
    else if c = '\n' then none
    else (body? q triple r).map fun (body, r) => (c :: body, r)

/-- The code point of exactly `n` hexadecimal digits, and the rest. -/
def hexEscape? (n : Nat) (r : Text) : Option (CodePoint × Text) := do
  let ds := r.take n
  if ds.length < n then none
  let values ← ds.mapM CodePoint.hex?
  let value := values.foldl (fun a b => a * 16 + b) 0
  if 0x110000 ≤ value then none
  some (.ofNat value, r.drop n)

/-- The text that a body with escapes writes. An escape without meaning stands for itself. -/
def unescape? : (fuel : Nat) → Text → Option Text
  | 0, _ => none
  | _ + 1, [] => some []
  | fuel + 1, .scalar '\\' :: c :: r =>
    let short (n : Nat) : Option Text := (unescape? fuel r).map (.ofNat n :: ·)
    let hex (n : Nat) : Option Text :=
      (hexEscape? n r).bind fun (p, r) => (unescape? fuel r).map (p :: ·)
    match c with
    | .scalar '\n' => unescape? fuel r
    | .scalar '\\' => short 0x5C
    | .scalar '\'' => short 0x27
    | .scalar '"' => short 0x22
    | .scalar 'a' => short 0x07
    | .scalar 'b' => short 0x08
    | .scalar 'f' => short 0x0C
    | .scalar 'n' => short 0x0A
    | .scalar 'r' => short 0x0D
    | .scalar 't' => short 0x09
    | .scalar 'v' => short 0x0B
    | .scalar 'x' => hex 2
    | .scalar 'u' => hex 4
    | .scalar 'U' => hex 8
    | .scalar 'N' => none
    | c =>
      let octal (d : CodePoint) : Bool := d.isAscii fun ch => '0' ≤ ch && ch ≤ '7'
      if octal c then
        let more := (r.take 2).takeWhile octal
        (unescape? fuel (r.drop more.length)).map (.ofNat (digitsIn 8 (c :: more)) :: ·)
      else (unescape? fuel r).map fun t => .scalar '\\' :: c :: t
  | fuel + 1, c :: r => (unescape? fuel r).map (c :: ·)

/-- Are the escapes of a byte string well formed, and all characters ASCII? -/
def bytesOk : (fuel : Nat) → Text → Bool
  | 0, _ => false
  | _ + 1, [] => true
  | fuel + 1, .scalar '\\' :: .scalar 'x' :: r =>
    match hexEscape? 2 r with
    | some (_, r) => bytesOk fuel r
    | none => false
  | fuel + 1, .scalar '\\' :: c :: r => c.toNat < 128 && bytesOk fuel r
  | fuel + 1, c :: r => c.toNat < 128 && bytesOk fuel r

/-- A string literal at the beginning of a text, if one begins there. -/
def string? (t : Text) : Option (Option (Token × Text)) :=
  (opening? t).map fun (o, q, r) => do
    let (triple, r) :=
      match r with
      | a :: b :: r' => if a = q ∧ b = q then (true, r') else (false, r)
      | _ => (false, r)
    let (body, r) ← body? q triple r
    if o.bytes then
      if o.raw then (if body.all (·.toNat < 128) then some (.bytes, r) else none)
      else if bytesOk (body.length + 1) body then some (.bytes, r)
      else none
    else if o.formatted then some (.formatted o.raw body, r)
    else if o.raw then some (.text body, r)
    else (unescape? (body.length + 1) body).map fun t => (.text t, r)

/-! ## Lines and tokens -/

/-- The greatest depth of brackets. -/
def maxDepth : Nat := 200

/-- The text after a comment, at the line end. -/
def skipComment (t : Text) : Text := t.dropWhile (· ≠ .scalar '\n')

/-- Is it a blank between tokens? -/
def isGap (c : CodePoint) : Bool := c == ' ' || c == '\t' || c.toNat == 0x0C

/-- Is nothing but blanks and a comment left of the line? -/
def lineIsBlank (t : Text) : Bool :=
  match t.dropWhile isGap with
  | [] => true
  | c :: _ => c == '\n' || c == '#'

/-- Is the line indented? A form feed takes back the indentation before it. -/
def isIndented (t : Text) : Bool :=
  !((t.takeWhile isGap).reverse.takeWhile fun c => c.toNat ≠ 0x0C).isEmpty

/-- The tokens of a text. `lineStart` tells whether a line begins here, `depth` how many brackets are
open. -/
def scan : (fuel depth : Nat) → (lineStart : Bool) → Text → Option (List Token)
  | 0, _, _, _ => none
  | fuel + 1, depth, lineStart, t =>
    if lineStart && depth = 0 && lineIsBlank t then
      match skipComment (t.dropWhile isGap) with
      | [] => some []
      | _ :: r => scan fuel depth true r
    else if lineStart && depth = 0 && isIndented t then none
    else
      match t.dropWhile isGap with
      | [] => some []
      | .scalar '#' :: r => scan fuel depth false (skipComment r)
      | .scalar '\n' :: r =>
        if depth = 0 then (scan fuel depth true r).map (.lineEnd :: ·) else scan fuel depth false r
      | .scalar '\\' :: .scalar '\n' :: r => if r.isEmpty then none else scan fuel depth false r
      | c :: r =>
        match string? (c :: r) with
        | some found => found.bind fun (token, r) => (scan fuel depth false r).map (token :: ·)
        | none =>
          if isWordStart c then
            let w := (c :: r).takeWhile isWordPart
            if Text.isIdentifier w then
              (scan fuel depth false ((c :: r).drop w.length)).map (.word w :: ·)
            else none
          else if c.isAscii Char.isDigit ||
              (c == '.' && r.head?.any (·.isAscii Char.isDigit)) then
            (number? (c :: r)).bind fun (token, r) => (scan fuel depth false r).map (token :: ·)
          else
            match sign? (c :: r) with
            | none => none
            | some (s, r) =>
              if s = .leftParen ∨ s = .leftBracket ∨ s = .leftBrace then
                if maxDepth ≤ depth then none
                else (scan fuel (depth + 1) false r).map (.sign s :: ·)
              else if s = .rightParen ∨ s = .rightBracket ∨ s = .rightBrace then
                if depth = 0 then none else (scan fuel (depth - 1) false r).map (.sign s :: ·)
              else (scan fuel depth false r).map (.sign s :: ·)

/-- The text with every kind of line end written as a line feed. -/
def unifyLineEnds : Text → Text
  | .scalar '\r' :: .scalar '\n' :: r => .scalar '\n' :: unifyLineEnds r
  | .scalar '\r' :: r => .scalar '\n' :: unifyLineEnds r
  | c :: r => c :: unifyLineEnds r
  | [] => []

/-- The tokens of a text. -/
def tokens? (t : Text) : Option (List Token) :=
  let t := unifyLineEnds t
  scan (2 * t.length + 2) 0 true t

end Lexer

end ChatFlow
