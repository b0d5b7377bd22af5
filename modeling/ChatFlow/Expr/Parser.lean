import ChatFlow.Expr.Lexer
import ChatFlow.Unicode.Compatibility

/-!
# Reading expressions

The expression grammar: `or`, `and` and `not`, chains of comparisons, bitwise and arithmetic
operators by precedence, and atoms. Calls, look-ups, displays, comprehensions and the like are read
as well, as the grammar tells whether they are well formed, and kept as `Expr.other`.

* `Expr.parse?`: the tree of a text, if the text is an expression.
-/

namespace ChatFlow

namespace ExprReader

/-- A reader of tokens; it fails where the grammar has no way on. -/
abbrev Reader := StateT (List Token) Option

/-- The grammar has no way on. -/
def refuse {α : Type} : Reader α := fun _ => none

/-- Words that are no names. -/
def keywords : List Text :=
  ["False", "None", "True", "and", "as", "assert", "async", "await", "break", "class", "continue",
   "def", "del", "elif", "else", "except", "finally", "for", "from", "global", "if", "import",
   "in", "is", "lambda", "nonlocal", "not", "or", "pass", "raise", "return", "try", "while",
   "with", "yield"].map Text.ofString

/-- The next token, which stays. -/
def peek : Reader (Option Token) := fun ts => some (ts.head?, ts)

/-- Is the next token this one? It stays. -/
def at? (t : Token) : Reader Bool := fun ts => some (ts.head? == some t, ts)

/-- Takes the next token if it is this one. -/
def takeIf (t : Token) : Reader Bool := fun ts =>
  match ts with
  | u :: r => if u = t then some (true, r) else some (false, ts)
  | [] => some (false, [])

/-- Takes a sign if it is next. -/
def sign? (s : Sign) : Reader Bool := takeIf (.sign s)

/-- Takes a keyword if it is next. -/
def keyword? (w : Text) : Reader Bool := takeIf (.word w)

/-- Requires a sign. -/
def sign (s : Sign) : Reader Unit := do
  if ← sign? s then return () else refuse

/-- Requires a keyword. -/
def keyword (w : Text) : Reader Unit := do
  if ← keyword? w then return () else refuse

/-- Requires a name. -/
def name : Reader Text := fun ts =>
  match ts with
  | .word w :: r => if keywords.contains w then none else some (w, r)
  | _ => none

/-- The tokens that are left, to come back to. -/
def mark : Reader (List Token) := fun ts => some (ts, ts)

/-- Goes back. -/
def reset (ts : List Token) : Reader Unit := fun _ => some ((), ts)

/-- The binary operators by precedence, the weakest first. -/
def binaryOps : List (List (Sign × BinaryOp)) :=
  [[(.bar, .bitOr)], [(.caret, .bitXor)], [(.amp, .bitAnd)],
   [(.shiftLeft, .shiftLeft), (.shiftRight, .shiftRight)],
   [(.plus, .add), (.minus, .sub)],
   [(.star, .mul), (.slash, .div), (.doubleSlash, .floorDiv), (.percent, .mod), (.at, .matrixMul)]]

/-- The operator of a level that is next; it is taken. -/
def binaryOp? (level : Nat) : Reader (Option BinaryOp) := fun ts =>
  match ts with
  | .sign s :: r =>
    match (binaryOps.getD level []).lookup s with
    | some op => some (some op, r)
    | none => some (none, ts)
  | _ => some (none, ts)

/-- The comparisons that one sign writes. -/
def compareSigns : List (Sign × CompareOp) :=
  [(.eq, .eq), (.ne, .ne), (.lt, .lt), (.le, .le), (.gt, .gt), (.ge, .ge)]

/-- The comparison that is next; it is taken. -/
def compareOp? : Reader (Option CompareOp) := fun ts =>
  match ts with
  | .sign s :: r =>
    match compareSigns.lookup s with
    | some op => some (some op, r)
    | none => some (none, ts)
  | .word w :: r =>
    if w = "in" then some (some .isIn, r)
    else if w = "not" then
      match r with
      | .word v :: r => if v = "in" then some (some .notIn, r) else some (none, ts)
      | _ => some (none, ts)
    else if w = "is" then
      match r with
      | .word v :: r' => if v = "not" then some (some .notSame, r') else some (some .same, r)
      | _ => some (some .same, r)
    else some (none, ts)
  | _ => some (none, ts)

/-- What has been seen of an argument list: positional arguments only, a named one, or a double
star. -/
inductive ArgumentPhase where
  | positional
  | named
  | doubleStar
deriving DecidableEq

/-- What has been seen of a parameter list. -/
structure ParameterPhase where
  any : Bool := false
  hasDefault : Bool := false
  slash : Bool := false
  star : Bool := false
  /-- A bare star still needs a parameter. -/
  bareStar : Bool := false

/-! ## Formatted literals -/

/-- The bracket that closes another one. -/
def closing? : CodePoint → Option CodePoint
  | .scalar '(' => some ')'
  | .scalar '[' => some ']'
  | .scalar '{' => some '}'
  | _ => none

/-- Goes through the expression part of a formatted literal: its text, and the rest from the sign
that ends it. `brackets` are the closings that are awaited, `quote` the literal that is open, with
three quotes or one. Backslashes and comments are not allowed. -/
def fieldText : (fuel : Nat) → (brackets : List CodePoint) → (quote : Option (CodePoint × Bool)) →
    Text → Option (Text × Text)
  | 0, _, _, _ => none
  | _ + 1, _, _, [] => none
  | fuel + 1, brackets, quote, c :: r =>
    let go (n : Nat) (brackets : List CodePoint) (quote : Option (CodePoint × Bool)) :=
      (fieldText fuel brackets quote ((c :: r).drop n)).map fun (t, rest) =>
        ((c :: r).take n ++ t, rest)
    let tripled : Bool := match r with
      | a :: b :: _ => a == c && b == c
      | _ => false
    if c = '\\' then none
    else
      match quote with
      | some (q, triple) =>
        if c = q then
          if triple then (if tripled then go 3 brackets none else go 1 brackets quote)
          else go 1 brackets none
        else go 1 brackets quote
      | none =>
        if c = '\'' ∨ c = '"' then
          if tripled then go 3 brackets (some (c, true)) else go 1 brackets (some (c, false))
        else if c = '#' then none
        else
          match closing? c with
          | some close => if 200 ≤ brackets.length then none else go 1 (close :: brackets) none
          | none =>
            let nested := !brackets.isEmpty
            if !nested && (c = '!' || c = ':' || c = '}' || c = '=' || c = '<' || c = '>') then
              match c, r with
              | .scalar '!', .scalar '=' :: _ => go 2 brackets none
              | .scalar '=', .scalar '=' :: _ => go 2 brackets none
              | .scalar '<', .scalar '=' :: _ => go 2 brackets none
              | .scalar '>', .scalar '=' :: _ => go 2 brackets none
              | .scalar '<', _ => go 1 brackets none
              | .scalar '>', _ => go 1 brackets none
              | _, _ => some ([], c :: r)
            else if c = ')' ∨ c = ']' ∨ c = '}' then
              match brackets with
              | close :: brackets => if close = c then go 1 brackets none else none
              | [] => none
            else go 1 brackets none

/-- The literal part before the next field or the end. Doubled braces stand for themselves; in a
format a single closing brace ends it. -/
def plainPart (inFormat : Bool) : (fuel : Nat) → Text → Option (Text × Text)
  | 0, _ => none
  | _ + 1, [] => some ([], [])
  | fuel + 1, .scalar '{' :: r =>
    match r with
    | .scalar '{' :: r' =>
      if inFormat then some ([], .scalar '{' :: r)
      else (plainPart inFormat fuel r').map fun (t, rest) => (.scalar '{' :: t, rest)
    | _ => some ([], .scalar '{' :: r)
  | fuel + 1, .scalar '}' :: r =>
    if inFormat then some ([], .scalar '}' :: r)
    else
      match r with
      | .scalar '}' :: r => (plainPart inFormat fuel r).map fun (t, rest) => (.scalar '}' :: t, rest)
      | _ => none
  | fuel + 1, c :: r => (plainPart inFormat fuel r).map fun (t, rest) => (c :: t, rest)

/-- Has a reader come to the end? Only line ends may be left. -/
def isFinished {α : Type} : Option (α × List Token) → Bool
  | some (_, rest) => rest.all (· == .lineEnd)
  | none => false

/-- The text after leading blanks of a field. -/
def skipFieldGap (t : Text) : Text := t.dropWhile fun c => Lexer.isGap c || c == '\n'

mutual

/-- An expression: a condition, a lambda, or a disjunction. -/
def expression : (fuel : Nat) → Reader Expr
  | 0 => refuse
  | fuel + 1 => do
    if ← keyword? "lambda" then
      parameters {} fuel
      sign .colon
      let _ ← expression fuel
      return .other .lambda
    let e ← disjunction fuel
    if ← keyword? "if" then
      let _ ← disjunction fuel
      keyword "else"
      let _ ← expression fuel
      return .other .conditional
    return e
termination_by structural fuel => fuel

/-- Operands of `or`. -/
def disjunction : (fuel : Nat) → Reader Expr
  | 0 => refuse
  | fuel + 1 => do
    let e ← conjunction fuel
    match ← operands "or" false fuel with
    | [] => return e
    | es => return .any (e :: es)
termination_by structural fuel => fuel

/-- Operands of `and`. -/
def conjunction : (fuel : Nat) → Reader Expr
  | 0 => refuse
  | fuel + 1 => do
    let e ← inversion fuel
    match ← operands "and" true fuel with
    | [] => return e
    | es => return .all (e :: es)
termination_by structural fuel => fuel

/-- The operands after the first one, each after the word. -/
def operands (word : Text) (inner : Bool) : (fuel : Nat) → Reader (List Expr)
  | 0 => refuse
  | fuel + 1 => do
    if ← keyword? word then
      let e ← if inner then inversion fuel else conjunction fuel
      return e :: (← operands word inner fuel)
    else return []
termination_by structural fuel => fuel

/-- Operands of `not`. -/
def inversion : (fuel : Nat) → Reader Expr
  | 0 => refuse
  | fuel + 1 => do
    if ← keyword? "not" then return .unary .not (← inversion fuel)
    let e ← binary 0 fuel
    match ← comparisons fuel with
    | [] => return e
    | rest => return .compare e rest
termination_by structural fuel => fuel

/-- The comparisons after an operand. -/
def comparisons : (fuel : Nat) → Reader (List (CompareOp × Expr))
  | 0 => refuse
  | fuel + 1 => do
    match ← compareOp? with
    | none => return []
    | some op =>
      let e ← binary 0 fuel
      return (op, e) :: (← comparisons fuel)
termination_by structural fuel => fuel

/-- Operators of one precedence and the stronger ones. -/
def binary (level : Nat) : (fuel : Nat) → Reader Expr
  | 0 => refuse
  | fuel + 1 => do
    if binaryOps.length ≤ level then factor fuel
    else
      let e ← binary (level + 1) fuel
      binaryRest level e fuel
termination_by structural fuel => fuel

/-- The operators of one precedence after a left operand. -/
def binaryRest (level : Nat) (left : Expr) : (fuel : Nat) → Reader Expr
  | 0 => refuse
  | fuel + 1 => do
    match ← binaryOp? level with
    | none => return left
    | some op =>
      let right ← binary (level + 1) fuel
      binaryRest level (.binary op left right) fuel
termination_by structural fuel => fuel

/-- Unary signs before a power. -/
def factor : (fuel : Nat) → Reader Expr
  | 0 => refuse
  | fuel + 1 => do
    if ← sign? .plus then return .unary .plus (← factor fuel)
    if ← sign? .minus then return .unary .negate (← factor fuel)
    if ← sign? .tilde then return .unary .invert (← factor fuel)
    let base ←
      if ← keyword? "await" then
        let _ ← primary fuel
        pure (Expr.other .wait)
      else primary fuel
    if ← sign? .doubleStar then return .binary .power base (← factor fuel)
    return base
termination_by structural fuel => fuel

/-- An atom with attributes, calls and subscripts behind it. -/
def primary : (fuel : Nat) → Reader Expr
  | 0 => refuse
  | fuel + 1 => do
    let e ← atom fuel
    trailers e fuel
termination_by structural fuel => fuel

/-- The attributes, calls and subscripts behind an expression. -/
def trailers (e : Expr) : (fuel : Nat) → Reader Expr
  | 0 => refuse
  | fuel + 1 => do
    if ← sign? .dot then
      let _ ← name
      trailers (.other .attribute) fuel
    else if ← sign? .leftParen then
      callArguments fuel
      trailers (.other .call) fuel
    else if ← sign? .leftBracket then
      slices fuel
      trailers (.other .subscript) fuel
    else return e
termination_by structural fuel => fuel

/-- An atom: a name, a literal, or something in brackets. -/
def atom : (fuel : Nat) → Reader Expr
  | 0 => refuse
  | fuel + 1 => do
    match ← peek with
    | some (.word w) =>
      if w = "None" then
        keyword w
        return .literal .null
      else if w = "True" then
        keyword w
        return .literal (.bool true)
      else if w = "False" then
        keyword w
        return .literal (.bool false)
      else return .name (Text.compatibilityForm (← name))
    | some (.number v) =>
      let _ ← takeIf (.number v)
      return .literal v
    | some .imaginary =>
      let _ ← takeIf .imaginary
      return .oddLiteral .complex
    | some (.text _) => strings none [] fuel
    | some .bytes => strings none [] fuel
    | some (.formatted _ _) => strings none [] fuel
    | some (.sign .ellipsis) =>
      sign .ellipsis
      return .oddLiteral .ellipsis
    | some (.sign .leftParen) =>
      sign .leftParen
      parenthesized fuel
    | some (.sign .leftBracket) =>
      sign .leftBracket
      listDisplay fuel
    | some (.sign .leftBrace) =>
      sign .leftBrace
      braceDisplay fuel
    | _ => refuse
termination_by structural fuel => fuel

/-- String literals one after the other. `kind` is that of the ones before: bytes or not, and
formatted or not. -/
def strings (kind : Option (Bool × Bool)) (before : Text) : (fuel : Nat) → Reader Expr
  | 0 => refuse
  | fuel + 1 => do
    let bytesBefore := kind.any Prod.fst
    let formattedBefore := kind.any Prod.snd
    match ← peek with
    | some (.text t) =>
      let _ ← takeIf (.text t)
      if kind.isSome && bytesBefore then refuse
      strings (some (false, formattedBefore)) (before ++ t) fuel
    | some .bytes =>
      let _ ← takeIf .bytes
      if kind.isSome && !bytesBefore then refuse
      strings (some (true, false)) before fuel
    | some (.formatted raw body) =>
      let _ ← takeIf (.formatted raw body)
      if kind.isSome && bytesBefore then refuse
      if !formattedBody raw 0 body fuel then refuse
      strings (some (false, true)) before fuel
    | _ =>
      match kind with
      | none => refuse
      | some (true, _) => return .oddLiteral .bytes
      | some (false, true) => return .other .formattedText
      | some (false, false) => return .literal (.text before)
termination_by structural fuel => fuel

/-- Is the body of a formatted literal well formed? `depth` counts the formats around it. -/
def formattedBody (raw : Bool) (depth : Nat) (t : Text) : (fuel : Nat) → Bool
  | 0 => false
  | fuel + 1 =>
    match plainPart (0 < depth) (t.length + 1) t with
    | none => false
    | some (plain, rest) =>
      (raw || (Lexer.unescape? (plain.length + 1) plain).isSome) &&
        match rest with
        | [] => depth = 0
        | .scalar '{' :: r =>
          match formattedField raw depth r fuel with
          | some r => formattedBody raw depth r fuel
          | none => false
        | _ => false
termination_by structural fuel => fuel

/-- The text after a field of a formatted literal, if the field is well formed: an expression, an
equals sign, a conversion and a format, of which only the first is needed. -/
def formattedField (raw : Bool) (depth : Nat) (t : Text) : (fuel : Nat) → Option Text
  | 0 => none
  | fuel + 1 => do
    if 2 ≤ depth then none
    let (e, r) ← fieldText (t.length + 1) [] none t
    if Text.isBlank e then none
    let ts ← Lexer.tokens? ("(" ++ e ++ ")")
    if !isFinished ((sign .leftParen *> parenthesized fuel).run ts) then none
    let r :=
      match r with
      | .scalar '=' :: r => skipFieldGap r
      | _ => r
    let r ←
      match r with
      | .scalar '!' :: c :: r =>
        if c = 's' ∨ c = 'r' ∨ c = 'a' then some r else none
      | .scalar '!' :: [] => none
      | _ => some r
    match r with
    | .scalar '}' :: r => some r
    | .scalar ':' :: r => formatEnd raw (depth + 1) r fuel
    | _ => none
termination_by structural fuel => fuel

/-- The text after a format and its closing brace. -/
def formatEnd (raw : Bool) (depth : Nat) (t : Text) : (fuel : Nat) → Option Text
  | 0 => none
  | fuel + 1 => do
    let (plain, rest) ← plainPart true (t.length + 1) t
    if !raw && (Lexer.unescape? (plain.length + 1) plain).isNone then none
    match rest with
    | .scalar '}' :: r => some r
    | .scalar '{' :: r =>
      let r ← formattedField raw depth r fuel
      formatEnd raw depth r fuel
    | _ => none
termination_by structural fuel => fuel

/-- An expression that may be an assignment. -/
def namedExpression : (fuel : Nat) → Reader Expr
  | 0 => refuse
  | fuel + 1 => do
    match ← mark with
    | .word w :: .sign .walrus :: r =>
      if keywords.contains w then refuse
      reset r
      let _ ← expression fuel
      return .other .assignment
    | _ => expression fuel
termination_by structural fuel => fuel

/-- An item of a display: starred, or perhaps an assignment. -/
def starNamed : (fuel : Nat) → Reader Expr
  | 0 => refuse
  | fuel + 1 => do
    if ← sign? .star then
      let _ ← binary 0 fuel
      return .other .tuple
    namedExpression fuel
termination_by structural fuel => fuel

/-- Items up to a closing sign, which is taken; a comma may stand behind the last. -/
def itemsUntil (close : Sign) : (fuel : Nat) → Reader Unit
  | 0 => refuse
  | fuel + 1 => do
    if ← sign? close then return ()
    let _ ← starNamed fuel
    if ← sign? .comma then itemsUntil close fuel else sign close
termination_by structural fuel => fuel

/-- One or more expressions, starred or not, with commas between them. -/
def starExpressions : (fuel : Nat) → Reader Unit
  | 0 => refuse
  | fuel + 1 => do
    if ← sign? .star then
      let _ ← binary 0 fuel
    else
      let _ ← expression fuel
    if ← sign? .comma then
      if (← at? (.sign .rightParen)) || (← peek).isNone then return ()
      starExpressions fuel
termination_by structural fuel => fuel

/-- What follows an opening parenthesis. -/
def parenthesized : (fuel : Nat) → Reader Expr
  | 0 => refuse
  | fuel + 1 => do
    if ← sign? .rightParen then return .other .tuple
    if ← keyword? "yield" then
      if ← keyword? "from" then
        let _ ← expression fuel
        sign .rightParen
        return .other .yieldFrom
      if ← sign? .rightParen then return .other .yield
      starExpressions fuel
      sign .rightParen
      return .other .yield
    if ← at? (.sign .star) then
      let _ ← starNamed fuel
      sign .comma
      itemsUntil .rightParen fuel
      return .other .tuple
    let e ← namedExpression fuel
    if ← sign? .rightParen then return e
    if ← sign? .comma then
      itemsUntil .rightParen fuel
      return .other .tuple
    clauses fuel
    sign .rightParen
    return .other .generator
termination_by structural fuel => fuel

/-- What follows an opening bracket. -/
def listDisplay : (fuel : Nat) → Reader Expr
  | 0 => refuse
  | fuel + 1 => do
    if ← sign? .rightBracket then return .other .list
    let starred ← at? (.sign .star)
    let _ ← starNamed fuel
    if ← sign? .rightBracket then return .other .list
    if ← sign? .comma then
      itemsUntil .rightBracket fuel
      return .other .list
    if starred then refuse
    clauses fuel
    sign .rightBracket
    return .other .listComprehension
termination_by structural fuel => fuel

/-- What follows an opening brace. -/
def braceDisplay : (fuel : Nat) → Reader Expr
  | 0 => refuse
  | fuel + 1 => do
    if ← sign? .rightBrace then return .other .dict
    if ← sign? .doubleStar then
      let _ ← binary 0 fuel
      if ← sign? .comma then dictItems fuel else sign .rightBrace
      return .other .dict
    if ← at? (.sign .star) then
      itemsUntil .rightBrace fuel
      return .other .set
    let saved ← mark
    let e ← namedExpression fuel
    if ← sign? .colon then
      match e, saved with
      | .other .assignment, .word _ :: .sign .walrus :: _ => refuse
      | _, _ => pure ()
      let _ ← expression fuel
      if ← sign? .rightBrace then return .other .dict
      if ← sign? .comma then
        dictItems fuel
        return .other .dict
      clauses fuel
      sign .rightBrace
      return .other .dictComprehension
    if ← sign? .rightBrace then return .other .set
    if ← sign? .comma then
      itemsUntil .rightBrace fuel
      return .other .set
    clauses fuel
    sign .rightBrace
    return .other .setComprehension
termination_by structural fuel => fuel

/-- Pairs of a dictionary up to the closing brace. -/
def dictItems : (fuel : Nat) → Reader Unit
  | 0 => refuse
  | fuel + 1 => do
    if ← sign? .rightBrace then return ()
    if ← sign? .doubleStar then
      let _ ← binary 0 fuel
    else
      let _ ← expression fuel
      sign .colon
      let _ ← expression fuel
    if ← sign? .comma then dictItems fuel else sign .rightBrace
termination_by structural fuel => fuel

/-- The clauses of a comprehension: one loop at least, each with its conditions. -/
def clauses : (fuel : Nat) → Reader Unit
  | 0 => refuse
  | fuel + 1 => do
    let _ ← keyword? "async"
    keyword "for"
    targets fuel
    keyword "in"
    let _ ← disjunction fuel
    conditions fuel
    if (← at? (.word "for")) || (← at? (.word "async")) then clauses fuel
termination_by structural fuel => fuel

/-- The conditions of a loop. -/
def conditions : (fuel : Nat) → Reader Unit
  | 0 => refuse
  | fuel + 1 => do
    if ← keyword? "if" then
      let _ ← disjunction fuel
      conditions fuel
termination_by structural fuel => fuel

/-- The targets of a loop, with commas between them. -/
def targets : (fuel : Nat) → Reader Unit
  | 0 => refuse
  | fuel + 1 => do
    if ← sign? .star then
      if ← at? (.sign .star) then refuse
      target fuel
    else target fuel
    if ← sign? .comma then
      match ← peek with
      | some (.sign .rightParen) => return ()
      | some (.sign .rightBracket) => return ()
      | some (.word w) => if w = "in" then return () else targets fuel
      | _ => targets fuel
termination_by structural fuel => fuel

/-- A target: a name, an attribute, a subscript, or targets in brackets. -/
def target : (fuel : Nat) → Reader Unit
  | 0 => refuse
  | fuel + 1 => fun ts =>
    match (primary fuel).run ts with
    | some (.other .attribute, r) => some ((), r)
    | some (.other .subscript, r) => some ((), r)
    | _ =>
      match ts with
      | .word w :: r => if keywords.contains w then none else some ((), r)
      | .sign .leftParen :: .sign .rightParen :: r => some ((), r)
      | .sign .leftBracket :: .sign .rightBracket :: r => some ((), r)
      | .sign .leftParen :: r => (groupedTargets .rightParen fuel).run r
      | .sign .leftBracket :: r => (targets fuel *> sign .rightBracket).run r
      | _ => none
termination_by structural fuel => fuel

/-- Targets in parentheses; a single starred one needs a comma. -/
def groupedTargets (close : Sign) : (fuel : Nat) → Reader Unit
  | 0 => refuse
  | fuel + 1 => do
    if ← sign? .star then
      if ← at? (.sign .star) then refuse
      target fuel
      if !(← at? (.sign .comma)) then refuse
    else target fuel
    if ← sign? .comma then
      if ← sign? close then return ()
      targets fuel
    sign close
termination_by structural fuel => fuel

/-- The subscripts up to the closing bracket: one at least. -/
def slices : (fuel : Nat) → Reader Unit
  | 0 => refuse
  | fuel + 1 => do
    slice fuel
    if ← sign? .comma then
      if ← sign? .rightBracket then return ()
      slices fuel
    else sign .rightBracket
termination_by structural fuel => fuel

/-- A subscript: an expression, a range, or a starred expression. -/
def slice : (fuel : Nat) → Reader Unit
  | 0 => refuse
  | fuel + 1 => do
    if ← sign? .star then
      let _ ← binary 0 fuel
      return ()
    let first ← at? (.sign .colon)
    if !first then
      match ← mark with
      | .word _ :: .sign .walrus :: _ =>
        let _ ← namedExpression fuel
        return ()
      | _ =>
        let _ ← expression fuel
    if ← sign? .colon then
      sliceBound fuel
      if ← sign? .colon then sliceBound fuel
termination_by structural fuel => fuel

/-- A bound of a range, which may be missing. -/
def sliceBound : (fuel : Nat) → Reader Unit
  | 0 => refuse
  | fuel + 1 => do
    match ← peek with
    | some (.sign .colon) => return ()
    | some (.sign .comma) => return ()
    | some (.sign .rightBracket) => return ()
    | _ =>
      let _ ← expression fuel
termination_by structural fuel => fuel

/-- The arguments of a call up to the closing parenthesis. A lone comprehension needs no parentheses
of its own. -/
def callArguments : (fuel : Nat) → Reader Unit
  | 0 => refuse
  | fuel + 1 => do
    let saved ← mark
    match ((namedExpression fuel) *> clauses fuel *> sign .rightParen).run saved with
    | some (_, r) => reset r
    | none => arguments .positional fuel
termination_by structural fuel => fuel

/-- Arguments up to the closing parenthesis: positional ones first, then named ones with starred
ones among them, and starred ones no longer behind a double star. -/
def arguments (phase : ArgumentPhase) : (fuel : Nat) → Reader Unit
  | 0 => refuse
  | fuel + 1 => do
    if ← sign? .rightParen then return ()
    let next ←
      if ← sign? .doubleStar then
        let _ ← expression fuel
        pure ArgumentPhase.doubleStar
      else
        if ← sign? .star then
          if phase = .doubleStar then refuse
          let _ ← expression fuel
          pure phase
        else
          match ← mark with
          | .word w :: .sign .assign :: r =>
            if keywords.contains w then refuse
            reset r
            let _ ← expression fuel
            pure (if phase = .positional then .named else phase)
          | _ =>
            if phase ≠ .positional then refuse
            let _ ← namedExpression fuel
            pure .positional
    if ← sign? .comma then arguments next fuel else sign .rightParen
termination_by structural fuel => fuel

/-- The parameters of a lambda, before its colon. -/
def parameters (phase : ParameterPhase) : (fuel : Nat) → Reader Unit
  | 0 => refuse
  | fuel + 1 => do
    if ← at? (.sign .colon) then
      if phase.bareStar then refuse
      return ()
    let next ←
      if ← sign? .doubleStar then
        let _ ← name
        if phase.bareStar then refuse
        let _ ← sign? .comma
        if !(← at? (.sign .colon)) then refuse
        return ()
      else
        if ← sign? .star then
          if phase.star then refuse
          if ← at? (.sign .comma) then pure { phase with star := true, bareStar := true }
          else
            let _ ← name
            pure { phase with star := true }
        else
          if ← sign? .slash then
            if phase.slash || phase.star || !phase.any then refuse
            pure { phase with slash := true }
          else
            let _ ← name
            if ← sign? .assign then
              let _ ← expression fuel
              pure { phase with
                any := true, hasDefault := phase.hasDefault || !phase.star, bareStar := false }
            else
              if phase.hasDefault && !phase.star then refuse
              pure { phase with any := true, bareStar := false }
    if ← sign? .comma then parameters next fuel
    else if ← at? (.sign .colon) then
      if next.bareStar then refuse
      return ()
    else refuse
termination_by structural fuel => fuel

end

/-- A whole expression. A comma makes a tuple, and only line ends may follow. -/
def whole (fuel : Nat) : Reader Expr := do
  let e ← expression fuel
  if ← sign? .comma then
    tupleRest fuel
    return .other .tuple
  return e
where
  /-- The expressions after a comma, up to the end. -/
  tupleRest : (fuel : Nat) → Reader Unit
    | 0 => refuse
    | n + 1 => do
      match ← peek with
      | none => return ()
      | some .lineEnd => return ()
      | _ =>
        let _ ← expression fuel
        if ← sign? .comma then tupleRest n else return ()

end ExprReader

/-- The tree of a text, if the text is an expression. Every token takes a bounded number of the
reader's steps, one for each precedence. -/
def Expr.parse? (t : Text) : Option Expr := do
  let ts ← Lexer.tokens? t
  let (e, rest) ← (ExprReader.whole (64 * (t.length + 4))).run ts
  if rest.all (· == .lineEnd) then some e else none

end ChatFlow
