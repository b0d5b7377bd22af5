import ChatFlow.Text.Basic

/-!
# Two spellings of operators

Conditions may write `&&`, `||`, `!`, `===` and `!==` for `and`, `or`, `not`, `==` and `!=`. They
are replaced from left to right; a string literal is kept as it is, with all that stands in it.

* `Expr.unifyOperators`: the text in the one spelling.
-/

namespace ChatFlow.Expr

/-- The operators with a second spelling, the longer ones first. -/
def respelled : List (Text × Text) :=
  [("===", "=="), ("!==", "!="), ("&&", " and "), ("||", " or ")]

/-- The rest of a string literal with its closing quote, and what follows it. An escape takes the
next character, which may not be a line end. -/
def literalRest (quote : CodePoint) : Text → Option (Text × Text)
  | [] => none
  | .scalar '\\' :: c :: r =>
    if c = '\n' then none
    else (literalRest quote r).map fun (body, rest) => (.scalar '\\' :: c :: body, rest)
  | c :: r =>
    if c = quote then some ([c], r)
    else if c = '\\' then none
    else (literalRest quote r).map fun (body, rest) => (c :: body, rest)

/-- The replacement at the beginning of a text, and what follows what it replaces. -/
def replacement? (t : Text) : Option (Text × Text) :=
  match respelled.find? fun (old, _) => old.isPrefixOf t with
  | some (old, new) => some (new, t.drop old.length)
  | none =>
    match t with
    | .scalar '!' :: r => if r.head? = some (.scalar '=') then none else some (" not ", r)
    | _ => none

/-- Replaces from left to right; every step takes at least one code point. -/
def unifyAux : (fuel : Nat) → Text → Text
  | 0, t => t
  | _ + 1, [] => []
  | fuel + 1, c :: r =>
    let kept :=
      if c = '\'' ∨ c = '"' then
        (literalRest c r).map fun (body, rest) => (c :: body, rest)
      else none
    match kept.or (replacement? (c :: r)) with
    | some (new, rest) => new ++ unifyAux fuel rest
    | none => c :: unifyAux fuel r

/-- The text with every operator in its first spelling. -/
def unifyOperators (t : Text) : Text := unifyAux t.length t

end ChatFlow.Expr
