import ChatFlow.Expr.Eval
import ChatFlow.Proofs.Expr.Numerals

/-!
# String literals as they are spelled

A string literal stands between single or double quotes, with any characters but raw line feeds, and with escapes.
Respelling the operators of a text keeps it, and the lexer reads it back, or refuses it if one of its escapes is
malformed.

* `Quoted`: a string literal as it is spelled. `Quoted.text`, `Quoted.value?`: the spelling, and the value if there is
  one.
* `Quoted.literalRest_append`: the literal is found to its end.
* `Quoted.string?_append`: the lexer reads the value, and stops where the spelling ends.
-/

namespace ChatFlow

/-- A character of a string literal, or a backslash and the character behind it. -/
inductive QuotedPart where
  | plain (c : CodePoint)
  | escaped (c : CodePoint)

namespace QuotedPart

def text : QuotedPart → Text
  | plain c => [c]
  | escaped c => [.scalar '\\', c]

/-- The part can stand between the quotes. -/
def Fits (quote : CodePoint) : QuotedPart → Prop
  | plain c => c ≠ quote ∧ c ≠ .scalar '\\' ∧ c ≠ .scalar '\n'
  | escaped c => c ≠ .scalar '\n'

/-- The part as the lexer sees it: a carriage return is a line feed, which may stand behind a backslash only. -/
def seen? : QuotedPart → Option Text
  | plain c => if c = .scalar '\r' then none else some [c]
  | escaped c => some [.scalar '\\', if c = .scalar '\r' then .scalar '\n' else c]

end QuotedPart

/-- A string literal as it is spelled. -/
structure Quoted where
  double : Bool
  parts : List QuotedPart
  fits : ∀ p ∈ parts, p.Fits (.scalar (if double then '"' else '\''))

namespace Quoted

def quote (q : Quoted) : CodePoint := .scalar (if q.double then '"' else '\'')

def body (q : Quoted) : Text := q.parts.flatMap QuotedPart.text

/-- The spelling. -/
def text (q : Quoted) : Text := q.quote :: (q.body ++ [q.quote])

/-- The text that the literal stands for, if its escapes have a meaning and no line ends in it. -/
def value? (q : Quoted) : Option Text := do
  let seen ← q.parts.mapM QuotedPart.seen?
  Lexer.unescape? (seen.flatten.length + 1) seen.flatten

/-- The quote is told apart from what a literal may have in it. -/
theorem quote_ne (q : Quoted) : q.quote ≠ .scalar '\\' ∧ q.quote ≠ .scalar '\n' ∧ q.quote ≠ .scalar '\r' := by
  rw [quote]
  cases q.double <;> decide

end Quoted

variable {quote : CodePoint} {parts : List QuotedPart} {q : Quoted} {r : Text}

/-! ## Respelling -/

theorem literalRest_plain {c : CodePoint} {t : Text} (hc : c ≠ .scalar '\\') :
    Expr.literalRest quote (c :: t) =
      if c = quote then some ([c], t) else (Expr.literalRest quote t).map fun (body, rest) => (c :: body, rest) := by
  rw [Expr.literalRest, if_neg hc]
  exact fun d r hopen _ => hc hopen

theorem literalRest_parts (hparts : ∀ p ∈ parts, p.Fits quote) (hquote : quote ≠ .scalar '\\') :
    Expr.literalRest quote (parts.flatMap QuotedPart.text ++ quote :: r) =
      some (parts.flatMap QuotedPart.text ++ [quote], r) := by
  induction parts with
  | nil => exact (literalRest_plain hquote).trans (if_pos rfl)
  | cons p parts ih =>
      have hrest := ih fun p hp => hparts p (List.mem_cons_of_mem _ hp)
      have hp := hparts p List.mem_cons_self
      cases p with
      | plain c =>
          refine (literalRest_plain hp.2.1).trans ?_
          rw [if_neg hp.1]
          exact congrArg (Option.map _) hrest
      | escaped c =>
          change Expr.literalRest quote (.scalar '\\' :: c :: (parts.flatMap QuotedPart.text ++ quote :: r)) = _
          rw [Expr.literalRest, if_neg hp]
          exact congrArg (Option.map _) hrest

/-- The literal is found to its end, whatever stands behind it. -/
theorem Quoted.literalRest_append (q : Quoted) :
    Expr.literalRest q.quote (q.body ++ q.quote :: r) = some (q.body ++ [q.quote], r) :=
  literalRest_parts q.fits q.quote_ne.1

/-! ## Line ends -/

theorem unifyLineEnds_of_ne {c : CodePoint} (hc : c ≠ .scalar '\r') :
    Lexer.unifyLineEnds (c :: r) = c :: Lexer.unifyLineEnds r := by
  rw [Lexer.unifyLineEnds]
  · exact fun r hopen _ => hc hopen
  · exact hc

/-- Without carriage returns, a text keeps its line ends. -/
theorem unifyLineEnds_append {t : Text} (ht : .scalar '\r' ∉ t) :
    Lexer.unifyLineEnds (t ++ r) = t ++ Lexer.unifyLineEnds r := by
  induction t with
  | nil => rfl
  | cons c t ih =>
      rw [List.mem_cons, not_or] at ht
      rw [List.cons_append, unifyLineEnds_of_ne (Ne.symm ht.1), ih ht.2]
      rfl

theorem unifyLineEnds_return (hr : r.head? ≠ some (.scalar '\n')) :
    Lexer.unifyLineEnds (.scalar '\r' :: r) = .scalar '\n' :: Lexer.unifyLineEnds r := by
  rw [Lexer.unifyLineEnds]
  rintro r rfl
  exact hr rfl

theorem head?_unifyLineEnds (c : CodePoint) :
    (Lexer.unifyLineEnds (c :: r)).head? = some (if c = .scalar '\r' then .scalar '\n' else c) := by
  by_cases hc : c = .scalar '\r'
  · subst hc
    rw [if_pos rfl]
    unfold Lexer.unifyLineEnds
    split
    · rfl
    · rfl
    · next hother heq => exact (hother (List.cons.inj heq).1.symm).elim
    · next heq => cases heq
  · rw [unifyLineEnds_of_ne hc, if_neg hc, List.head?_cons]

theorem Text.Stops.unified (hr : r.Stops) : (Lexer.unifyLineEnds r).Stops := by
  cases r with
  | nil => exact hr
  | cons c r =>
      intro d hd
      rw [head?_unifyLineEnds, Option.mem_some_iff] at hd
      subst hd
      split
      · decide
      · exact hr c rfl

theorem Quoted.unifyLineEnds_text (q : Quoted) :
    Lexer.unifyLineEnds (q.text ++ r) = q.quote :: Lexer.unifyLineEnds (q.body ++ q.quote :: r) := by
  rw [Quoted.text, List.cons_append, List.append_assoc, unifyLineEnds_of_ne q.quote_ne.2.2]
  rfl

/-! ## Reading -/

namespace Lexer

theorem body?_plain {c : CodePoint} {t : Text} (hc : c ≠ .scalar '\\') :
    body? quote false (c :: t) =
      if c = quote then some ([], t)
      else if c = .scalar '\n' then none
      else (body? quote false t).map fun (body, r) => (c :: body, r) := by
  rw [body?]
  · rfl
  · exact fun d r hopen _ => hc hopen

theorem head?_parts (hparts : ∀ p ∈ parts, p.Fits quote) (hquote : quote ≠ .scalar '\n') :
    (parts.flatMap QuotedPart.text ++ quote :: r).head? ≠ some (.scalar '\n') := by
  cases parts with
  | nil => exact fun h => hquote (Option.some.inj h)
  | cons p parts =>
      have hp := hparts p List.mem_cons_self
      cases p with
      | plain c => exact fun h => hp.2.2 (Option.some.inj h)
      | escaped c => exact fun h => absurd (Option.some.inj h) (by decide)

/-- The lexer reads the parts up to the closing quote. -/
theorem body?_parts (hparts : ∀ p ∈ parts, p.Fits quote)
    (hquote : quote ≠ .scalar '\\' ∧ quote ≠ .scalar '\n' ∧ quote ≠ .scalar '\r') :
    body? quote false (unifyLineEnds (parts.flatMap QuotedPart.text ++ quote :: r)) =
      (parts.mapM QuotedPart.seen?).map fun seen => (seen.flatten, unifyLineEnds r) := by
  induction parts with
  | nil =>
      rw [List.flatMap_nil, List.nil_append, unifyLineEnds_of_ne hquote.2.2, body?_plain hquote.1, if_pos rfl]
      rfl
  | cons p parts ih =>
      have htail : ∀ p ∈ parts, p.Fits quote := fun p hp => hparts p (List.mem_cons_of_mem _ hp)
      have hp := hparts p List.mem_cons_self
      have hrest := ih htail
      have hhead := head?_parts (r := r) htail hquote.2.1
      rw [List.mapM_cons, List.flatMap_cons, List.append_assoc]
      generalize parts.flatMap QuotedPart.text ++ quote :: r = t at hrest hhead ⊢
      cases p with
      | plain c =>
          change body? quote false (unifyLineEnds (c :: t)) = _
          -- a carriage return has become a line feed, at which the literal breaks off
          by_cases hreturn : c = .scalar '\r'
          · subst hreturn
            rw [unifyLineEnds_return hhead, body?_plain (by decide), if_neg (Ne.symm hquote.2.1), if_pos rfl]
            rfl
          · rw [unifyLineEnds_of_ne hreturn, body?_plain hp.2.1, if_neg hp.1, if_neg hp.2.2, hrest, QuotedPart.seen?,
              if_neg hreturn]
            cases parts.mapM QuotedPart.seen? <;> rfl
      | escaped c =>
          change body? quote false (unifyLineEnds (.scalar '\\' :: c :: t)) = _
          rw [unifyLineEnds_of_ne (by decide), QuotedPart.seen?]
          by_cases hreturn : c = .scalar '\r'
          · subst hreturn
            rw [unifyLineEnds_return hhead, body?, hrest]
            cases parts.mapM QuotedPart.seen? <;> rfl
          · rw [unifyLineEnds_of_ne hreturn, body?, hrest, if_neg hreturn]
            cases parts.mapM QuotedPart.seen? <;> rfl

theorem opening?_quote (q : Quoted) (t : Text) : opening? (q.quote :: t) = some ({}, q.quote, t) := by
  rw [Quoted.quote]
  cases q.double <;> rfl

theorem string?_single {t : Text} (hopen : opening? t = some ({}, quote, r))
    (hsingle : ∀ a b t, r = a :: b :: t → ¬ (a = quote ∧ b = quote)) :
    string? t = some ((body? quote false r).bind fun (body, r) =>
      (unescape? (body.length + 1) body).map fun t => (.text t, r)) := by
  rw [string?, hopen, Option.map_some, Option.some_inj]
  match r with
  | [] => rfl
  | [_] => rfl
  | a :: b :: t =>
      dsimp only
      rw [if_neg (hsingle a b t rfl)]
      rfl

/-- Behind the opening quote there are not two more. -/
theorem not_tripled (q : Quoted) (hr : r.Stops) (a b : CodePoint) (t : Text)
    (h : unifyLineEnds (q.body ++ q.quote :: r) = a :: b :: t) : ¬ (a = q.quote ∧ b = q.quote) := by
  rintro ⟨rfl, rfl⟩
  obtain ⟨hslash, hfeed, hreturn⟩ := q.quote_ne
  cases hparts : q.parts with
  | nil =>
      -- the first of the two would be the closing quote, and no quote stands behind it
      rw [Quoted.body, hparts, List.flatMap_nil, List.nil_append, unifyLineEnds_of_ne hreturn] at h
      have hstop := hr.unified q.quote (by rw [(List.cons.inj h).2]; rfl)
      rw [Quoted.quote] at hstop
      cases hdouble : q.double <;> rw [hdouble] at hstop
      · exact hstop.2.2.2 rfl
      · exact hstop.2.2.1 rfl
  | cons p parts =>
      have hp := q.fits p (by rw [hparts]; exact List.mem_cons_self)
      rw [Quoted.body, hparts, List.flatMap_cons, List.append_assoc] at h
      cases p with
      | escaped c => exact hslash (Option.some.inj ((congrArg List.head? h).symm.trans (head?_unifyLineEnds _)))
      | plain c =>
          have hfirst := Option.some.inj ((congrArg List.head? h).symm.trans (head?_unifyLineEnds c))
          split at hfirst
          · exact hfeed hfirst
          · exact hp.1 hfirst.symm

/-- The lexer reads a string literal back, or refuses it. -/
theorem string?_append (q : Quoted) (hr : r.Stops) :
    string? (unifyLineEnds (q.text ++ r)) = some (q.value?.map fun t => (.text t, unifyLineEnds r)) := by
  have hbody : body? q.quote false (unifyLineEnds (q.body ++ q.quote :: r)) =
      (q.parts.mapM QuotedPart.seen?).map fun seen => (seen.flatten, unifyLineEnds r) :=
    body?_parts q.fits q.quote_ne
  rw [q.unifyLineEnds_text, string?_single (opening?_quote q _) (not_tripled q hr), hbody, Quoted.value?]
  cases q.parts.mapM QuotedPart.seen? <;> rfl

end Lexer

end ChatFlow
