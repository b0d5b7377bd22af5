import ChatFlow.Expr.Format
import ChatFlow.Expr.Operators
import ChatFlow.Expr.Parser
import ChatFlow.Text.Split

/-!
# Evaluating expressions

An expression is evaluated over named values. Arithmetic is exact on integers and that of doubles
otherwise, comparisons may be chained, and `and` and `or` stop at the first operand that decides.
Nothing is called, looked up inside a value, or bound.

* `Expr.eval`: the value of a tree.
* `Expr.evaluate`: the value of a text, or a stand-in when the text has none.
* `Expr.holds`: the same as a truth value.
-/

namespace ChatFlow

/-- Why an expression has no value. -/
inductive ExprFault where
  /-- The text is no expression. -/
  | malformed
  /-- The text holds a surrogate. -/
  | unencodable
  | unsupportedForm (form : Form)
  | unsupportedLiteral (kind : OddLiteral)
  | unsupportedUnary
  | unsupportedBinary
  | unsupportedComparison (op : CompareOp)
  | undeclared (name : Text)
  | textRepetition
  /-- The operands are not of kinds that the operator joins. -/
  | operandKinds
  | zeroDivision
  /-- No double is near the result, or it is too large to count. -/
  | tooLarge
  /-- The result would not fit into memory. -/
  | tooLong
  /-- A number is not one of those that are looked for. -/
  | outOfRange
  | format (fault : FormatFault)
deriving DecidableEq, Repr

/-- The name of a form. -/
def Form.label : Form → Text
  | .call => "Call"
  | .attribute => "Attribute"
  | .subscript => "Subscript"
  | .list => "List"
  | .tuple => "Tuple"
  | .set => "Set"
  | .dict => "Dict"
  | .lambda => "Lambda"
  | .conditional => "IfExp"
  | .assignment => "NamedExpr"
  | .wait => "Await"
  | .yield => "Yield"
  | .yieldFrom => "YieldFrom"
  | .generator => "GeneratorExp"
  | .listComprehension => "ListComp"
  | .setComprehension => "SetComp"
  | .dictComprehension => "DictComp"
  | .formattedText => "JoinedStr"

/-- The name of a kind of literals. -/
def OddLiteral.label : OddLiteral → Text
  | .complex => "complex"
  | .bytes => "bytes"
  | .ellipsis => "ellipsis"

/-- The name of a comparison. -/
def CompareOp.label : CompareOp → Text
  | .eq => "Eq"
  | .ne => "NotEq"
  | .lt => "Lt"
  | .le => "LtE"
  | .gt => "Gt"
  | .ge => "GtE"
  | .isIn => "In"
  | .notIn => "NotIn"
  | .same => "Is"
  | .notSame => "IsNot"

/-- What is said of a construct that is not evaluated; other faults have no text of their own. -/
def ExprFault.message? : ExprFault → Option Text
  | .unsupportedForm form => some ("Unsupported expression node: " ++ form.label)
  | .unsupportedLiteral kind => some ("Unsupported literal: " ++ kind.label)
  | .unsupportedUnary => some "Unsupported unary operator"
  | .unsupportedBinary => some "Unsupported binary operator"
  | .unsupportedComparison op => some ("Unsupported comparison operator: " ++ op.label)
  | .undeclared name => some ("Undeclared variable '" ++ name ++ "'")
  | .textRepetition => some "String repetition is not allowed"
  | _ => none

namespace Expr

/-- Names that stand for a value of their own, in all their spellings. -/
def literalNames : Fields Value :=
  [("True", .bool true), ("False", .bool false), ("None", .null), ("true", .bool true),
   ("false", .bool false), ("null", .null), ("none", .null)]

/-- The value of a name: one of the literal names, or a variable. -/
def valueOf (vars : Fields Value) (n : Text) : Except ExprFault Value :=
  match literalNames.get? n with
  | some v => .ok v
  | none =>
    match vars.get? n with
    | some v => .ok v
    | none => .error (.undeclared n)

/-- A double as operand. -/
def toDouble : Value.Numeric → Except ExprFault Double
  | .int n => (doubleOfInt n).mapError fun _ => .tooLarge
  | .float x => .ok x

/-- Joins two numbers, as integers if both are. -/
def arithmetic (onInts : Int → Int → Except ExprFault Value)
    (onDoubles : Double → Double → Except ExprFault Value) (a b : Value.Numeric) :
    Except ExprFault Value :=
  match a, b with
  | .int m, .int n => onInts m n
  | a, b => do onDoubles (← toDouble a) (← toDouble b)

/-- The quotient of integers, rounded once. -/
def quotient (m n : Int) : Except ExprFault Value :=
  if n = 0 then .error .zeroDivision
  else
    match Double.ofQuanta ((m < 0) != (n < 0)) (m.natAbs * Double.unit) n.natAbs with
    | .finite s q => .ok (.float (.finite s q))
    | _ => .error .tooLarge

/-- An operation on doubles that needs a divisor other than zero. -/
def dividing (f : Double → Double → Double) (x y : Double) : Except ExprFault Value :=
  if y.isZero then .error .zeroDivision else .ok (.float (f x y))

/-- An operation on integers that needs a divisor other than zero. -/
def dividingInts (f : Int → Int → Int) (m n : Int) : Except ExprFault Value :=
  if n = 0 then .error .zeroDivision else .ok (.int (f m n))

/-- The arithmetic of an operator on numbers, if it has one. -/
def numericOp? : BinaryOp → Option (Value.Numeric → Value.Numeric → Except ExprFault Value)
  | .add => some (arithmetic (fun m n => .ok (.int (m + n))) (fun x y => .ok (.float (x.add y))))
  | .sub => some (arithmetic (fun m n => .ok (.int (m - n))) (fun x y => .ok (.float (x.sub y))))
  | .mul => some (arithmetic (fun m n => .ok (.int (m * n))) (fun x y => .ok (.float (x.mul y))))
  | .div => some (arithmetic quotient (dividing Double.div))
  | .floorDiv => some (arithmetic (dividingInts Int.fdiv) (dividing Double.floorDiv))
  | .mod => some (arithmetic (dividingInts Int.fmod) (dividing Double.floorMod))
  | _ => none

/-- The greatest number of items that a repetition may have. -/
def maxItems : Nat := Nat.pow 2 28

/-- Items repeated `n` times; none if `n` is negative. -/
def repeated {α : Type} (items : List α) (n : Int) : Except ExprFault (List α) :=
  if Nat.pow 2 63 ≤ n.natAbs then .error .tooLarge
  else if maxItems ≤ items.length * n.toNat then .error .tooLong
  else .ok (List.replicate n.toNat items).flatten

/-- Is the value a text? -/
def isText : Value → Bool
  | .text _ => true
  | _ => false

/-- A list or a byte string repeated by an integer, if the operands are such. -/
def repetition? (a b : Value) : Option (Except ExprFault Value) :=
  match a, b.numeric?, b, a.numeric? with
  | .list vs, some (.int n), _, _ => some ((repeated vs n).map .list)
  | .bytes bs, some (.int n), _, _ => some ((repeated bs n).map .bytes)
  | _, _, .list vs, some (.int n) => some ((repeated vs n).map .list)
  | _, _, .bytes bs, some (.int n) => some ((repeated bs n).map .bytes)
  | _, _, _, _ => none

/-- Joins two values by a binary operator. -/
def binaryValue (op : BinaryOp) (a b : Value) : Except ExprFault Value :=
  match numericOp? op with
  | none => .error .unsupportedBinary
  | some onNumbers =>
    if op = .mul && (isText a || isText b) then .error .textRepetition
    else
      match a.numeric?, b.numeric? with
      | some x, some y => onNumbers x y
      | _, _ =>
        match op, a, b with
        | .add, .text s, .text t => .ok (.text (s ++ t))
        | .add, .list vs, .list ws => .ok (.list (vs ++ ws))
        | .add, .bytes x, .bytes y => .ok (.bytes (x ++ y))
        | .mul, a, b => (repetition? a b).getD (.error .operandKinds)
        | .mod, .text s, b => ((Format.apply s b).map .text).mapError .format
        | _, _, _ => .error .operandKinds

/-- Applies a unary operator. -/
def unaryValue (op : UnaryOp) (v : Value) : Except ExprFault Value :=
  match op with
  | .not => .ok (.bool !v.truthy)
  | .invert => .error .unsupportedUnary
  | .negate =>
    match v.numeric? with
    | some (.int n) => .ok (.int (-n))
    | some (.float x) => .ok (.float x.neg)
    | none => .error .operandKinds
  | .plus =>
    match v.numeric? with
    | some (.int n) => .ok (.int n)
    | some (.float x) => .ok (.float x)
    | none => .error .operandKinds

/-- An order comparison. -/
inductive Order where
  | lt
  | le
  | gt
  | ge

/-- Compares by an order relation that comes as strict order and equality. -/
def Order.decide (o : Order) (less equal greater : Bool) : Bool :=
  match o with
  | .lt => less
  | .le => less || equal
  | .gt => greater
  | .ge => greater || equal

mutual

/-- Compares two values of a kind that has an order: numbers, texts, byte strings and lists. -/
def ordered (o : Order) : Value → Value → Except ExprFault Bool
  | .text s, .text t => .ok (o.decide (Text.lt s t) (s == t) (Text.lt t s))
  | .bytes x, .bytes y =>
    let s : Text := x.map fun b => .ofNat b.toNat
    let t : Text := y.map fun b => .ofNat b.toNat
    .ok (o.decide (Text.lt s t) (s == t) (Text.lt t s))
  | .list vs, .list ws => orderedItems o vs ws
  | v, w =>
    match v.numeric?, w.numeric? with
    | some x, some y => .ok (o.decide (x.lt y) (x.eq y) (y.lt x))
    | _, _ => .error .operandKinds

/-- Compares lists by their first different items; without such, by their lengths. -/
def orderedItems (o : Order) : List Value → List Value → Except ExprFault Bool
  | v :: vs, w :: ws => if v.same w then orderedItems o vs ws else ordered o v w
  | [], [] => .ok (o.decide false true false)
  | [], _ :: _ => .ok (o.decide true false false)
  | _ :: _, [] => .ok (o.decide false false true)

end

/-- Is the value among those of a collection? -/
def member (v collection : Value) : Except ExprFault Bool :=
  match collection with
  | .text t =>
    match v with
    | .text s => .ok (t.includes s)
    | _ => .error .operandKinds
  | .list ws => .ok (ws.any v.same)
  | .object fields =>
    match v with
    | .text key => .ok (Fields.has fields key)
    | .list _ => .error .operandKinds
    | .object _ => .error .operandKinds
    | _ => .ok false
  | .bytes bs =>
    let points : Text := bs.map fun b => .ofNat b.toNat
    match v, v.numeric? with
    | .bytes part, _ => .ok (points.includes (part.map fun b => .ofNat b.toNat))
    | _, some (.int n) =>
      if 0 ≤ n && n < 256 then .ok (bs.any fun b => b.toNat == n.toNat) else .error .outOfRange
    | _, _ => .error .operandKinds
  | _ => .error .operandKinds

/-- Compares two values. -/
def compareValues (op : CompareOp) (v w : Value) : Except ExprFault Bool :=
  match op with
  | .eq => .ok (v.same w)
  | .ne => .ok !(v.same w)
  | .lt => ordered .lt v w
  | .le => ordered .le v w
  | .gt => ordered .gt v w
  | .ge => ordered .ge v w
  | .isIn => member v w
  | .notIn => (member v w).map (!·)
  | .same => .error (.unsupportedComparison .same)
  | .notSame => .error (.unsupportedComparison .notSame)

mutual

/-- The value of an expression. -/
def eval (vars : Fields Value) : Expr → Except ExprFault Value
  | .literal v => .ok v
  | .oddLiteral kind => .error (.unsupportedLiteral kind)
  | .name n => valueOf vars n
  | .all es => (evalAll vars es).map .bool
  | .any es => (evalAny vars es).map .bool
  | .unary op e => do unaryValue op (← eval vars e)
  | .binary op a b => do
    let x ← eval vars a
    let y ← eval vars b
    binaryValue op x y
  | .compare e rest => do
    let v ← eval vars e
    (evalChain vars v rest).map .bool
  | .other form => .error (.unsupportedForm form)

/-- Do all operands count as true? The first that does not ends the evaluation. -/
def evalAll (vars : Fields Value) : List Expr → Except ExprFault Bool
  | [] => .ok true
  | e :: es => do
    let v ← eval vars e
    if v.truthy then evalAll vars es else .ok false

/-- Does one of the operands count as true? The first that does ends the evaluation. -/
def evalAny (vars : Fields Value) : List Expr → Except ExprFault Bool
  | [] => .ok false
  | e :: es => do
    let v ← eval vars e
    if v.truthy then .ok true else evalAny vars es

/-- Do the comparisons of a chain hold, beginning with the operand `v`? The first that does not ends
the evaluation. -/
def evalChain (vars : Fields Value) (v : Value) : List (CompareOp × Expr) → Except ExprFault Bool
  | [] => .ok true
  | (op, e) :: rest => do
    let w ← eval vars e
    if ← compareValues op v w then evalChain vars w rest else .ok false

end

/-- The value of a text as it stands. -/
def run (vars : Fields Value) (t : Text) : Except ExprFault Value :=
  if !t.isWellFormed then .error .unencodable
  else if t.any fun c => c.toNat == 0 then .error .malformed
  else
    match parse? t with
    | none => .error .malformed
    | some e => eval vars e

/-- The greatest length of an expression in a condition. -/
def maxLength : Nat := 500

/-- The value of a text in either spelling of the operators, or `other` when it has none, is empty or
is too long. -/
def evaluate (vars : Fields Value) (other : Value) (t : Text) : Value :=
  let t := (unifyOperators t).trim
  if t.isEmpty || maxLength < t.length then other
  else
    match run vars t with
    | .ok v => v
    | .error _ => other

/-- Does a text hold? One without a value counts as `other` says. -/
def holds (vars : Fields Value) (other : Bool) (t : Text) : Bool :=
  (evaluate vars (.bool other) t).truthy

end Expr

end ChatFlow
