import ChatFlow.Text.Split

/-!
# Tokens in texts

A token is a name in braces: at least one code point, none of which is a brace. A text falls into
tokens and the code points between them.

* `Piece.ofText`: the pieces of a text.
* `Piece.fill`: the text with tokens replaced, all at once; the rest stays in place.
* `Piece.flatMap_source`: the pieces are all of the text.
-/

namespace ChatFlow

/-- A piece of a text. -/
inductive Piece where
  | plain (c : CodePoint)
  | token (name : Text)
deriving DecidableEq, Repr

namespace Piece

/-- A token as it is written. -/
def written (name : Text) : Text := .scalar '{' :: (name ++ [.scalar '}'])

/-- A piece as it is written. -/
def source : Piece → Text
  | plain c => [c]
  | token name => written name

/-- The pieces of a text behind an opening brace and the code points `name`, if one is open. -/
def scan : (opened : Option Text) → Text → List Piece
  | none, [] => []
  | none, c :: r => if c = '{' then scan (some []) r else plain c :: scan none r
  | some name, [] => plain '{' :: name.map plain
  | some name, c :: r =>
    if c = '{' then plain '{' :: (name.map plain ++ scan (some []) r)
    else if c = '}' then
      if name.isEmpty then plain '{' :: plain '}' :: scan none r else token name :: scan none r
    else scan (some (name ++ [c])) r

/-- The pieces of a text. -/
def ofText (t : Text) : List Piece := scan none t

/-- Replaces the tokens that have a replacement, from left to right. -/
def fill {m : Type → Type} [Monad m] (replacement : Text → m (Option Text)) : List Piece → m Text
  | [] => pure []
  | plain c :: rest => return c :: (← fill replacement rest)
  | token name :: rest => do
    let t ← replacement name
    return t.getD (written name) ++ (← fill replacement rest)

/-! ## Laws -/

theorem flatMap_source_plain (t : Text) : (t.map plain).flatMap source = t := by
  induction t with
  | nil => rfl
  | cons c r ih => simp [source, ih]

theorem flatMap_source_scan (opened : Option Text) (t : Text) :
    (scan opened t).flatMap source = opened.elim [] (CodePoint.scalar '{' :: ·) ++ t := by
  induction t generalizing opened with
  | nil => cases opened <;> simp [scan, source, flatMap_source_plain]
  | cons c r ih =>
      cases opened with
      | none => by_cases h : c = '{' <;> simp [scan, source, h, ih]
      | some name =>
          by_cases h : c = '{'
          · simp [scan, source, h, ih, flatMap_source_plain]
          · by_cases h' : c = '}'
            · by_cases hn : name = [] <;> simp [scan, source, written, h', hn, ih]
            · simp [scan, h, h', ih]

/-- The pieces are all of the text. -/
theorem flatMap_source (t : Text) : (ofText t).flatMap source = t := by
  simp [ofText, flatMap_source_scan]

end Piece

end ChatFlow
