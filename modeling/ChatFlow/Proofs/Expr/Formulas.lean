import ChatFlow.Proofs.Expr.Quotations

/-!
# Formulas and their spellings

A formula is an expression of the grammar as it is written: names, numbers and string literals as they are spelled, and
above them `not`, signs, arithmetic, chains of comparisons, and `and` and `or`. It is spelled with every compound in
parentheses, in symbols (`===`, `!==`, `&&`, `||`, `!`) or in words (`==`, `!=`, `and`, `or`, `not`), and with blanks
around operators as the style has them.

* `Formula`, `Style`, `Formula.spell`: formulas, styles, and spellings.
* `Formula.tokens?`, `Formula.tree`: the tokens and the tree that the spellings stand for.
* `Formula.tree?`: the tree of a formula that can be read.
-/

namespace ChatFlow

/-- Can an operand begin with the character? -/
def CodePoint.isOpening (c : CodePoint) : Bool :=
  Lexer.isWordPart c || (['(', '.', '"', '\''].map CodePoint.scalar).contains c

/-- A name: an identifier that is no keyword, or one of the three words that stand for a value. -/
structure Name where
  text : Text
  isName : text.isIdentifier = true
  isFree : text ∈ ExprReader.keywords → text ∈ ["True", "False", "None"].map Text.ofString

/-- An identifier is a word. -/
theorem Text.isWordPart_of_isIdentifier {w : Text} (hw : w.isIdentifier = true) :
    ∀ c ∈ w, Lexer.isWordPart c = true := by
  cases w with
  | nil => exact fun c hc => absurd hc List.not_mem_nil
  | cons first rest =>
      rw [Text.isIdentifier, Bool.and_eq_true, List.all_eq_true] at hw
      intro c hc
      rcases List.mem_cons.mp hc with rfl | hc
      · have hstart := CodePoint.isWordStart_of_isNameStart hw.1
        rw [Lexer.isWordStart, Bool.and_eq_true] at hstart
        exact hstart.1
      · exact CodePoint.isWordPart_of_isNameRest (hw.2 c hc)

theorem Name.isWordPart_of_mem (n : Name) {c : CodePoint} (h : c ∈ n.text) : Lexer.isWordPart c = true :=
  Text.isWordPart_of_isIdentifier n.isName c h

theorem Name.text_ne_nil (n : Name) : n.text ≠ [] := by
  intro htext
  have hname := n.isName
  rw [htext] at hname
  cases hname

/-- The tree of a name. -/
def Name.tree (n : Name) : Expr :=
  if n.text = "None" then .literal .null
  else if n.text = "True" then .literal (.bool true)
  else if n.text = "False" then .literal (.bool false)
  else .name n.text.compatibilityForm

/-- The operators of arithmetic. -/
inductive Arithmetic where
  | add
  | sub
  | mul
  | div
  | floorDiv
  | mod

namespace Arithmetic

def op : Arithmetic → BinaryOp
  | add => .add
  | sub => .sub
  | mul => .mul
  | div => .div
  | floorDiv => .floorDiv
  | mod => .mod

def sign : Arithmetic → Sign
  | add => .plus
  | sub => .minus
  | mul => .star
  | div => .slash
  | floorDiv => .doubleSlash
  | mod => .percent

def text : Arithmetic → Text
  | add => "+"
  | sub => "-"
  | mul => "*"
  | div => "/"
  | floorDiv => "//"
  | mod => "%"

end Arithmetic

/-- The comparisons. -/
inductive Comparison where
  | eq
  | ne
  | lt
  | le
  | gt
  | ge
  | isIn
  | notIn

namespace Comparison

def op : Comparison → CompareOp
  | eq => .eq
  | ne => .ne
  | lt => .lt
  | le => .le
  | gt => .gt
  | ge => .ge
  | isIn => .isIn
  | notIn => .notIn

def tokens : Comparison → List Token
  | eq => [.sign .eq]
  | ne => [.sign .ne]
  | lt => [.sign .lt]
  | le => [.sign .le]
  | gt => [.sign .gt]
  | ge => [.sign .ge]
  | isIn => [.word "in"]
  | notIn => [.word "not", .word "in"]

end Comparison

/-- The ways to join truth values. -/
inductive Junction where
  | all
  | any

namespace Junction

def word : Junction → Text
  | all => "and"
  | any => "or"

def symbol : Junction → Text
  | all => "&&"
  | any => "||"

/-- The tree of an operand and further ones; without these it is that of the operand. -/
def tree (junction : Junction) (e : Expr) (es : List Expr) : Expr :=
  match es, junction with
  | [], _ => e
  | es, .all => .all (e :: es)
  | es, .any => .any (e :: es)

end Junction

/-- A formula. Without further operands or comparisons, a junction and a chain are their first operand in parentheses.
-/
inductive Formula where
  | name (n : Name)
  | number (n : Numeral)
  | quoted (q : Quoted)
  | not (operand : Formula)
  | signed (negative : Bool) (operand : Formula)
  | binary (op : Arithmetic) (left right : Formula)
  | junction (junction : Junction) (first : Formula) (more : List Formula)
  | chain (first : Formula) (links : List (Comparison × Formula))

/-- How operators are written: in symbols or in words. `gap` blanks stand on either side of a sign, one more than
`wide` on either side of a word, and `lead` before `not`. -/
inductive Style where
  | symbols (gap : Nat)
  | words (gap wide lead : Nat)

def blanks (n : Nat) : Text := List.replicate n (.scalar ' ')

namespace Style

variable (s : Style)

def gap : Style → Nat
  | symbols gap => gap
  | words gap _ _ => gap

def wide : Style → Nat
  | symbols gap => gap
  | words _ wide _ => wide

/-- A sign with its blanks. -/
def around (t : Text) : Text := blanks s.gap ++ (t ++ blanks s.gap)

/-- A word with its blanks. -/
def apart (t : Text) : Text := blanks (s.wide + 1) ++ (t ++ blanks (s.wide + 1))

def not : Style → Text
  | symbols _ => "!"
  | words _ _ lead => blanks lead ++ "not "

def junction : Style → Junction → Text
  | s@(symbols _), j => s.around j.symbol
  | s@(words _ _ _), j => s.apart j.word

def comparison : Style → Comparison → Text
  | s@(symbols _), .eq => s.around "==="
  | s@(words _ _ _), .eq => s.around "=="
  | s@(symbols _), .ne => s.around "!=="
  | s@(words _ _ _), .ne => s.around "!="
  | s, .lt => s.around "<"
  | s, .le => s.around "<="
  | s, .gt => s.around ">"
  | s, .ge => s.around ">="
  | s, .isIn => s.apart "in"
  | s, .notIn => s.apart "not in"

end Style

namespace Formula

/-! ## Spellings -/

mutual

/-- The spelling of a formula, with every compound in parentheses. -/
def spell (s : Style) : Formula → Text
  | name n => n.text
  | number n => n.text
  | quoted q => q.text
  | not f => .scalar '(' :: (s.not ++ (spell s f ++ [.scalar ')']))
  | signed negative f => .scalar '(' :: .scalar (if negative then '-' else '+') :: (spell s f ++ [.scalar ')'])
  | binary op a b => .scalar '(' :: (spell s a ++ (s.around op.text ++ (spell s b ++ [.scalar ')'])))
  | junction j f fs => .scalar '(' :: (spell s f ++ (spellMore s j fs ++ [.scalar ')']))
  | chain f links => .scalar '(' :: (spell s f ++ (spellLinks s links ++ [.scalar ')']))

/-- The further operands of a junction, each behind its operator. -/
def spellMore (s : Style) (j : Junction) : List Formula → Text
  | [] => []
  | f :: fs => s.junction j ++ (spell s f ++ spellMore s j fs)

/-- The comparisons of a chain. -/
def spellLinks (s : Style) : List (Comparison × Formula) → Text
  | [] => []
  | (op, f) :: links => s.comparison op ++ (spell s f ++ spellLinks s links)

end

/-! ## Beginnings -/

theorem spell_opens (s : Style) (f : Formula) : ∃ c t, f.spell s = c :: t ∧ c.isOpening = true := by
  cases f with
  | name n =>
      obtain ⟨c, t, htext⟩ := List.exists_cons_of_ne_nil n.text_ne_nil
      refine ⟨c, t, htext, ?_⟩
      rw [CodePoint.isOpening, n.isWordPart_of_mem (by rw [htext]; exact List.mem_cons_self), Bool.true_or]
  | number n =>
      obtain ⟨c, t, htext, hdigit | ⟨rfl, -⟩⟩ := n.text_opens
      · refine ⟨c, t, htext, ?_⟩
        rw [CodePoint.isOpening, CodePoint.isWordPart_of_isAscii isAlphanum_of_isDigit hdigit, Bool.true_or]
      · exact ⟨_, t, htext, by decide⟩
  | quoted q =>
      refine ⟨_, _, rfl, ?_⟩
      rw [Quoted.quote]
      cases q.double <;> decide
  | not f => exact ⟨_, _, rfl, by decide⟩
  | signed negative f => exact ⟨_, _, rfl, by decide⟩
  | binary op a b => exact ⟨_, _, rfl, by decide⟩
  | junction j f fs => exact ⟨_, _, rfl, by decide⟩
  | chain f links => exact ⟨_, _, rfl, by decide⟩

/-! ## Tokens -/

/-- Tokens after tokens, if both are there. -/
def joined (a b : Option (List Token)) : Option (List Token) := a.bind fun ts => b.map (ts ++ ·)

/-- Tokens in parentheses, if these are not nested too deeply. -/
def bracketed (depth : Nat) (inner : Option (List Token)) : Option (List Token) :=
  if Lexer.maxDepth ≤ depth then none
  else joined (some [.sign .leftParen]) (joined inner (some [.sign .rightParen]))

mutual

/-- The tokens of a formula in `depth` parentheses. There are none if a literal cannot be read, or the parentheses are
nested too deeply. -/
def tokens? (depth : Nat) : Formula → Option (List Token)
  | name n => some [.word n.text]
  | number n => n.value?.map fun v => [.number v]
  | quoted q => q.value?.map fun t => [.text t]
  | not f => bracketed depth (joined (some [.word "not"]) (tokens? (depth + 1) f))
  | signed negative f =>
      bracketed depth (joined (some [.sign (if negative then .minus else .plus)]) (tokens? (depth + 1) f))
  | binary op a b =>
      bracketed depth (joined (tokens? (depth + 1) a) (joined (some [.sign op.sign]) (tokens? (depth + 1) b)))
  | junction j f fs => bracketed depth (joined (tokens? (depth + 1) f) (tokensMore? (depth + 1) j fs))
  | chain f links => bracketed depth (joined (tokens? (depth + 1) f) (tokensLinks? (depth + 1) links))

def tokensMore? (depth : Nat) (j : Junction) : List Formula → Option (List Token)
  | [] => some []
  | f :: fs => joined (some [.word j.word]) (joined (tokens? depth f) (tokensMore? depth j fs))

def tokensLinks? (depth : Nat) : List (Comparison × Formula) → Option (List Token)
  | [] => some []
  | (op, f) :: links => joined (some op.tokens) (joined (tokens? depth f) (tokensLinks? depth links))

end

mutual

/-- The number of tokens that a formula is spelled with. -/
def size : Formula → Nat
  | name _ => 1
  | number _ => 1
  | quoted _ => 1
  | not f => size f + 3
  | signed _ f => size f + 3
  | binary _ a b => size a + size b + 3
  | junction _ f fs => size f + sizeMore fs + 2
  | chain f links => size f + sizeLinks links + 2

def sizeMore : List Formula → Nat
  | [] => 0
  | f :: fs => size f + sizeMore fs + 1

def sizeLinks : List (Comparison × Formula) → Nat
  | [] => 0
  | (op, f) :: links => size f + sizeLinks links + op.tokens.length

end

/-! ## Trees -/

/-- The tree of an operand and comparisons with it; without these it is that of the operand. -/
def chainTree (e : Expr) : List (CompareOp × Expr) → Expr
  | [] => e
  | links => .compare e links

mutual

/-- The tree of a formula. A literal without a value is left to `tree?`. -/
def tree : Formula → Expr
  | name n => n.tree
  | number n => .literal (n.value?.getD .null)
  | quoted q => .literal (.text (q.value?.getD []))
  | not f => .unary .not (tree f)
  | signed negative f => .unary (if negative then .negate else .plus) (tree f)
  | binary op a b => .binary op.op (tree a) (tree b)
  | junction j f fs => j.tree (tree f) (trees fs)
  | chain f links => chainTree (tree f) (linkTrees links)

def trees : List Formula → List Expr
  | [] => []
  | f :: fs => tree f :: trees fs

def linkTrees : List (Comparison × Formula) → List (CompareOp × Expr)
  | [] => []
  | (op, f) :: links => (op.op, tree f) :: linkTrees links

end

/-- The tree, if the formula can be read. -/
def tree? (f : Formula) : Option Expr := (f.tokens? 0).map fun _ => f.tree

end Formula

end ChatFlow
