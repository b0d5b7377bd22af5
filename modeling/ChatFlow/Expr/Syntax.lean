import ChatFlow.Value

/-!
# Expressions

The syntax tree of condition expressions. Forms that the grammar knows and the evaluator refuses
are kept by name only: to refuse one takes no more.
-/

namespace ChatFlow

/-- A form of expression that is read and never evaluated. -/
inductive Form where
  | call
  | attribute
  | subscript
  | list
  | tuple
  | set
  | dict
  | lambda
  | conditional
  | assignment
  | wait
  | yield
  | yieldFrom
  | generator
  | listComprehension
  | setComprehension
  | dictComprehension
  | formattedText
deriving DecidableEq, Repr

/-- A literal that is read and never evaluated. -/
inductive OddLiteral where
  | complex
  | bytes
  | ellipsis
deriving DecidableEq, Repr

/-- A unary operator. -/
inductive UnaryOp where
  | not
  | negate
  | plus
  | invert
deriving DecidableEq, Repr

/-- A binary operator. The ones after the remainder are read and never evaluated. -/
inductive BinaryOp where
  | add
  | sub
  | mul
  | div
  | floorDiv
  | mod
  | power
  | matrixMul
  | shiftLeft
  | shiftRight
  | bitAnd
  | bitXor
  | bitOr
deriving DecidableEq, Repr

/-- A comparison. Identity is read and never evaluated. -/
inductive CompareOp where
  | eq
  | ne
  | lt
  | le
  | gt
  | ge
  | isIn
  | notIn
  | same
  | notSame
deriving DecidableEq, Repr

/-- An expression. -/
inductive Expr where
  | literal (v : Value)
  | oddLiteral (kind : OddLiteral)
  | name (n : Text)
  /-- All operands hold. -/
  | all (operands : List Expr)
  /-- One of the operands holds. -/
  | any (operands : List Expr)
  | unary (op : UnaryOp) (operand : Expr)
  | binary (op : BinaryOp) (left right : Expr)
  /-- A chain of comparisons, each with the operand before it. -/
  | compare (first : Expr) (rest : List (CompareOp × Expr))
  | other (form : Form)
deriving Inhabited

end ChatFlow
