import ChatFlow.Proofs.Expr.Formulas

/-!
# The tokens of a formula

The lexer is followed through the spelling of a formula in words. It takes a step for every token, blanks before it
included, and goes on behind it as it would have begun there.

* `Lexer.scan_word`, `Lexer.scan_number`, `Lexer.scan_quoted`, `Lexer.scan_sign`: one token.
* `Formula.scan_spell`: the tokens of a formula, or none if a literal cannot be read or parentheses are nested too
  deeply.
* `Formula.tokens?_spell`: the same for a text that is nothing but a formula.
-/

namespace ChatFlow

/-- An operand begins here. -/
def Text.Opens (t : Text) : Prop := ∃ c r, t = c :: r ∧ c.isOpening = true

/-- No sign goes on with what stands here. -/
def Text.EndsSign (r : Text) : Prop := ∀ d ∈ r.head?, d ∉ ['=', '<', '>', '*', '/'].map CodePoint.scalar

namespace Lexer

variable {c : CodePoint} {t r w : Text} {fuel depth m : Nat}

/-! ## Steps of the lexer -/

/-- What the lexer does at the first character of a token. -/
def scanSolid (fuel depth : Nat) (c : CodePoint) (r : Text) : Option (List Token) :=
  match string? (c :: r) with
  | some found => found.bind fun (token, r) => (scan fuel depth false r).map (token :: ·)
  | none =>
    if isWordStart c then
      let w := (c :: r).takeWhile isWordPart
      if Text.isIdentifier w then (scan fuel depth false ((c :: r).drop w.length)).map (.word w :: ·) else none
    else if c.isAscii Char.isDigit || (c == '.' && r.head?.any (·.isAscii Char.isDigit)) then
      (number? (c :: r)).bind fun (token, r) => (scan fuel depth false r).map (token :: ·)
    else
      match sign? (c :: r) with
      | none => none
      | some (s, r) =>
        if s = .leftParen ∨ s = .leftBracket ∨ s = .leftBrace then
          if maxDepth ≤ depth then none else (scan fuel (depth + 1) false r).map (.sign s :: ·)
        else if s = .rightParen ∨ s = .rightBracket ∨ s = .rightBrace then
          if depth = 0 then none else (scan fuel (depth - 1) false r).map (.sign s :: ·)
        else (scan fuel depth false r).map (.sign s :: ·)

/-- A character with which no blank, no comment and no line end begins. -/
def IsSolid (c : CodePoint) : Prop :=
  isGap c = false ∧ c ≠ .scalar '#' ∧ c ≠ .scalar '\n' ∧ c ≠ .scalar '\\'

theorem scan_solid (hc : IsSolid c) : scan (fuel + 1) depth false (c :: r) = scanSolid fuel depth c r := by
  have hdrop : (c :: r).dropWhile isGap = c :: r := by rw [List.dropWhile_cons, hc.1]; rfl
  rw [scan]
  simp only [Bool.false_and, Bool.false_eq_true, if_false, hdrop]
  split
  · next h => cases h
  · next h => exact absurd (List.cons.inj h).1 hc.2.1
  · next h => exact absurd (List.cons.inj h).1 hc.2.2.1
  · next h => exact absurd (List.cons.inj h).1 hc.2.2.2
  · next h =>
      cases h
      rfl

/-- At the beginning of an unindented line with something on it, the lexer goes on as within a line. -/
theorem scan_lineStart (hc : IsSolid c) :
    scan (fuel + 1) depth true (c :: r) = scan (fuel + 1) depth false (c :: r) := by
  have hblank : lineIsBlank (c :: r) = false := by
    rw [lineIsBlank, List.dropWhile_cons, hc.1]
    change (c == .scalar '\n' || c == .scalar '#') = false
    rw [Bool.or_eq_false_iff, beq_eq_false_iff_ne, beq_eq_false_iff_ne]
    exact ⟨hc.2.2.1, hc.2.1⟩
  have hindent : isIndented (c :: r) = false := by
    rw [isIndented, List.takeWhile_cons, hc.1]
    rfl
  simp only [scan, hblank, hindent, Bool.and_false, Bool.false_eq_true, if_false]

/-- Blanks before a token are left out. -/
theorem scan_blanks (n : Nat) : scan fuel depth false (blanks n ++ t) = scan fuel depth false t := by
  induction n with
  | zero => rfl
  | succ n ih =>
      rw [← ih]
      cases fuel with
      | zero => rfl
      | succ fuel => rfl

/-! ## Words -/

theorem isSolid_of_not_mem (hc : c ∉ [' ', '\t', '\x0c', '#', '\n', '\\'].map CodePoint.scalar) : IsSolid c := by
  simp only [List.map_cons, List.map_nil, List.mem_cons, List.not_mem_nil, or_false, not_or] at hc
  obtain ⟨hblank, htab, hfeed, hcomment, hline, hslash⟩ := hc
  have hnumber : c.toNat ≠ 0x0C := fun h => hfeed (by rw [← CodePoint.ofNat_toNat c, h]; rfl)
  refine ⟨?_, hcomment, hline, hslash⟩
  rw [isGap, beq_eq_false_iff_ne.mpr hblank, beq_eq_false_iff_ne.mpr htab, beq_eq_false_iff_ne.mpr hnumber]
  rfl

theorem isSolid_of_isOpening (hc : c.isOpening = true) : IsSolid c := by
  have hnone : ∀ d ∈ [' ', '\t', '\x0c', '#', '\n', '\\'].map CodePoint.scalar, d.isOpening = false := by decide
  exact isSolid_of_not_mem fun hmem => absurd hc (ne_true_of_eq_false (hnone c hmem))

/-- No string literal begins with letters behind which there is no quote. -/
theorem opening?_eq_none (h : ∀ d ∈ (t.dropWhile (·.isAscii Char.isAlpha)).head?, d ≠ .scalar '"' ∧ d ≠ .scalar '\'') :
    opening? t = none := by
  have hdrop : t.drop (t.takeWhile (·.isAscii Char.isAlpha)).length = t.dropWhile (·.isAscii Char.isAlpha) := by
    calc t.drop (t.takeWhile (·.isAscii Char.isAlpha)).length
        = (t.takeWhile (·.isAscii Char.isAlpha) ++ t.dropWhile (·.isAscii Char.isAlpha)).drop
            (t.takeWhile (·.isAscii Char.isAlpha)).length := by rw [List.takeWhile_append_dropWhile]
      _ = t.dropWhile (·.isAscii Char.isAlpha) := List.drop_left
  unfold opening?
  simp only [hdrop]
  split
  · next q r hq =>
      rw [hq] at h
      exact if_neg (not_or.mpr (h q rfl))
  · rfl

theorem string?_word (hw : ∀ d ∈ w, isWordPart d = true) (hr : r.Stops) : string? (w ++ r) = none := by
  rw [string?, opening?_eq_none, Option.map_none]
  induction w with
  | nil =>
      cases r with
      | nil => exact fun d hd => absurd hd (by simp)
      | cons c r =>
          have hletter : c.isAscii Char.isAlpha = false :=
            (hr.notDigit (fun ch h => by rw [Char.isAlphanum, h]; rfl) c rfl).1
          intro d hd
          rw [List.nil_append, List.dropWhile_cons, hletter] at hd
          exact (hr d hd).2.2
  | cons c w ih =>
      have hrest := ih fun d hd => hw d (List.mem_cons_of_mem _ hd)
      rw [List.cons_append, List.dropWhile_cons]
      split
      · exact hrest
      · rintro d ⟨⟩
        have hc := hw c List.mem_cons_self
        constructor <;> rintro rfl <;> exact absurd hc (by decide)

theorem scan_word (hw : w.isIdentifier = true) (hr : r.Stops) :
    scan (fuel + 1) depth false (w ++ r) = (scan fuel depth false r).map (.word w :: ·) := by
  have hparts := Text.isWordPart_of_isIdentifier hw
  have hstring := string?_word hparts hr
  have hwhole : (w ++ r).takeWhile isWordPart = w := by
    have hrest : r.takeWhile isWordPart = [] := by
      cases r with
      | nil => rfl
      | cons c r => rw [List.takeWhile_cons, (hr c rfl).1]; rfl
    rw [List.takeWhile_append_of_pos hparts, hrest, List.append_nil]
  have hdrop : (w ++ r).drop w.length = r := List.drop_left
  cases w with
  | nil => cases hw
  | cons c w =>
      have hopening : c.isOpening = true := by rw [CodePoint.isOpening, hparts c List.mem_cons_self]; rfl
      have hstart : isWordStart c = true := by
        rw [Text.isIdentifier, Bool.and_eq_true] at hw
        exact CodePoint.isWordStart_of_isNameStart hw.1
      rw [List.cons_append] at hstring hwhole hdrop
      rw [List.cons_append, scan_solid (isSolid_of_isOpening hopening), scanSolid, hstring]
      simp only [hstart, if_true, hwhole, hw, hdrop]

/-! ## Numbers and string literals -/

theorem string?_digit (hc : c.isAscii Char.isDigit = true ∨ c = .scalar '.') : string? (c :: r) = none := by
  have hother : c.isAscii Char.isAlpha = false ∧ c ≠ .scalar '"' ∧ c ≠ .scalar '\'' := by
    rcases hc with hdigit | rfl
    · cases c with
      | surrogate n => cases hdigit
      | scalar ch =>
          rw [CodePoint.isAscii, Bool.and_eq_true, CodePoint.isDigit_iff] at hdigit
          refine ⟨?_, ?_, ?_⟩
          · rw [CodePoint.isAscii, Bool.and_eq_false_iff, ← Bool.not_eq_true ch.isAlpha, CodePoint.isAlpha_iff]
            omega
          · rintro ⟨⟩
            exact absurd hdigit (by decide)
          · rintro ⟨⟩
            exact absurd hdigit (by decide)
    · decide
  rw [string?, opening?_eq_none, Option.map_none]
  intro d hd
  rw [List.dropWhile_cons, hother.1] at hd
  cases hd
  exact hother.2

theorem scan_number (n : Numeral) (hr : r.Stops) :
    scan (fuel + 1) depth false (n.text ++ r) =
      n.value?.bind fun v => (scan fuel depth false r).map (.number v :: ·) := by
  obtain ⟨c, t, htext, hopen⟩ := n.text_opens
  have hfirst : c.isAscii Char.isDigit = true ∨ c = .scalar '.' := hopen.imp id And.left
  have hopening : c.isOpening = true := by
    rcases hfirst with hdigit | rfl
    · rw [CodePoint.isOpening, CodePoint.isWordPart_of_isAscii isAlphanum_of_isDigit hdigit]
      rfl
    · decide
  have hstart : isWordStart c = false := by
    rcases hfirst with hdigit | rfl
    · rw [isWordStart, hdigit]
      exact Bool.and_false _
    · decide
  have hnumber : (c.isAscii Char.isDigit || (c == '.' && (t ++ r).head?.any (·.isAscii Char.isDigit))) = true := by
    rcases hopen with hdigit | ⟨rfl, d, u, rfl, hdigit⟩
    · rw [hdigit, Bool.true_or]
    · rw [List.cons_append, List.head?_cons, Option.any_some, hdigit]
      decide
  have hread := Lexer.number?_append n hr
  rw [htext, List.cons_append] at hread ⊢
  rw [scan_solid (isSolid_of_isOpening hopening), scanSolid, string?_digit hfirst, hread]
  simp only [hstart, hnumber, Bool.false_eq_true, if_false, if_true]
  cases n.value? <;> rfl

theorem scan_quoted (q : Quoted) (hr : r.Stops) :
    scan (fuel + 1) depth false (unifyLineEnds (q.text ++ r)) =
      q.value?.bind fun t => (scan fuel depth false (unifyLineEnds r)).map (.text t :: ·) := by
  have hread := string?_append q hr
  have hopening : q.quote.isOpening = true := by rw [Quoted.quote]; cases q.double <;> decide
  rw [q.unifyLineEnds_text] at hread ⊢
  rw [scan_solid (isSolid_of_isOpening hopening), scanSolid, hread]
  dsimp only
  cases q.value? <;> rfl

/-! ## Signs -/

/-- The characters that the signs of a formula begin with. -/
def signStarts : List CodePoint := ['(', ')', '=', '!', '<', '>', '+', '-', '*', '/', '%'].map .scalar

theorem scanSolid_sign {s : Sign} (hc : c ∈ signStarts) (hsign : sign? (c :: r) = some (s, t)) :
    scan (fuel + 1) depth false (c :: r) =
      if s = .leftParen ∨ s = .leftBracket ∨ s = .leftBrace then
        if maxDepth ≤ depth then none else (scan fuel (depth + 1) false t).map (.sign s :: ·)
      else if s = .rightParen ∨ s = .rightBracket ∨ s = .rightBrace then
        if depth = 0 then none else (scan fuel (depth - 1) false t).map (.sign s :: ·)
      else (scan fuel depth false t).map (.sign s :: ·) := by
  have hall : ∀ c ∈ signStarts, c ∉ [' ', '\t', '\x0c', '#', '\n', '\\'].map CodePoint.scalar ∧ isWordStart c = false ∧
      c.isAscii Char.isDigit = false ∧ (c == .scalar '.') = false ∧ c.isAscii Char.isAlpha = false ∧ c ≠ .scalar '"' ∧
      c ≠ .scalar '\'' := by decide
  obtain ⟨hsolid, hstart, hdigit, hpoint, hletter, hquote⟩ := hall c hc
  have hstring : string? (c :: r) = none := by
    rw [string?, opening?_eq_none, Option.map_none]
    intro d hd
    rw [List.dropWhile_cons, hletter] at hd
    cases hd
    exact hquote
  rw [scan_solid (isSolid_of_not_mem hsolid), scanSolid, hstring, hsign]
  simp only [hstart, hdigit, hpoint, Bool.false_and, Bool.or_false, Bool.false_eq_true, if_false]

/-- An opening parenthesis goes one deeper. -/
theorem scan_open : scan (fuel + 1) depth false (.scalar '(' :: r) =
    if maxDepth ≤ depth then none else (scan fuel (depth + 1) false r).map (.sign .leftParen :: ·) :=
  scanSolid_sign (t := r) (s := .leftParen) (by decide) rfl

/-- A closing parenthesis comes back. -/
theorem scan_close : scan (fuel + 1) (depth + 1) false (.scalar ')' :: r) =
    (scan fuel depth false r).map (.sign .rightParen :: ·) :=
  scanSolid_sign (t := r) (s := .rightParen) (by decide) rfl

theorem sign?_arithmetic (op : Arithmetic) (hr : r.EndsSign) : sign? (op.text ++ r) = some (op.sign, r) := by
  cases r with
  | nil => cases op <;> rfl
  | cons d r =>
      have hd := hr d rfl
      simp only [List.map_cons, List.map_nil, List.mem_cons, List.not_mem_nil, or_false, not_or] at hd
      have hne {e : CodePoint} (h : d ≠ e) : (e == d) = false := beq_eq_false_iff_ne.mpr (Ne.symm h)
      obtain ⟨heq, hlt, hgt, hstar, hslash⟩ := hd
      cases op <;>
        simp [Arithmetic.text, Arithmetic.sign, sign?, signs, longSigns, doubleSigns, singleSigns, List.isPrefixOf,
          Text.ofString, hne heq, hne hlt, hne hgt, hne hstar, hne hslash]

theorem sign?_less (hr : r.EndsSign) :
    sign? (.scalar '<' :: r) = some (.lt, r) ∧ sign? (.scalar '>' :: r) = some (.gt, r) := by
  cases r with
  | nil => exact ⟨rfl, rfl⟩
  | cons d r =>
      have hd := hr d rfl
      simp only [List.map_cons, List.map_nil, List.mem_cons, List.not_mem_nil, or_false, not_or] at hd
      have hne {e : CodePoint} (h : d ≠ e) : (e == d) = false := beq_eq_false_iff_ne.mpr (Ne.symm h)
      obtain ⟨heq, hlt, hgt, -, -⟩ := hd
      constructor <;>
        simp [sign?, signs, longSigns, doubleSigns, singleSigns, List.isPrefixOf, Text.ofString, hne heq, hne hlt,
          hne hgt]

/-! ## Operators -/

theorem endsSign_of_opens (hr : r.Opens) (n : Nat) : (blanks n ++ r).EndsSign := by
  cases n with
  | succ n => rintro d ⟨⟩; decide
  | zero =>
      obtain ⟨c, t, rfl, hc⟩ := hr
      rintro d ⟨⟩
      have hnone : ∀ d ∈ ['=', '<', '>', '*', '/'].map CodePoint.scalar, d.isOpening = false := by decide
      exact fun hd => absurd hc (ne_true_of_eq_false (hnone c hd))

theorem stops_cons (hc : isWordPart c = false ∧ c ≠ .scalar '.' ∧ c ≠ .scalar '"' ∧ c ≠ .scalar '\'') :
    Text.Stops (c :: r) := by
  rintro d ⟨⟩
  exact hc

theorem stops_blanks (n : Nat) : (blanks (n + 1) ++ r).Stops := stops_cons (c := ' ') (by decide)

theorem stops_blanks_append (hr : r.Stops) (n : Nat) : (blanks n ++ r).Stops := by
  cases n with
  | zero => exact hr
  | succ n => exact stops_blanks n

/-- A sign that is no bracket, with its blanks. -/
theorem scan_sign (n : Nat) {x : Text} {sign : Sign} (hx : ∃ c t, x = c :: t ∧ c ∈ signStarts)
    (hsign : sign? (x ++ (blanks n ++ r)) = some (sign, blanks n ++ r))
    (hbracket : sign ∉ [.leftParen, .leftBracket, .leftBrace, .rightParen, .rightBracket, .rightBrace]) :
    scan (fuel + 1) depth false (blanks n ++ (x ++ (blanks n ++ r))) =
      (scan fuel depth false r).map (.sign sign :: ·) := by
  simp only [List.mem_cons, List.not_mem_nil, or_false, not_or] at hbracket
  obtain ⟨hparen, hbracket, hbrace, hparen', hbracket', hbrace'⟩ := hbracket
  obtain ⟨c, t, rfl, hc⟩ := hx
  rw [List.cons_append] at hsign
  rw [scan_blanks, List.cons_append, scanSolid_sign hc hsign,
    if_neg (by simp only [hparen, hbracket, hbrace, or_self, not_false_eq_true]),
    if_neg (by simp only [hparen', hbracket', hbrace', or_self, not_false_eq_true]), scan_blanks]

/-- A word with its blanks. -/
theorem scan_apart (n : Nat) (hw : w.isIdentifier = true) :
    scan (fuel + 1) depth false (blanks n ++ (w ++ (blanks (m + 1) ++ r))) =
      (scan fuel depth false r).map (.word w :: ·) := by
  rw [scan_blanks, scan_word hw (stops_blanks m), scan_blanks]

theorem isIdentifier_junction (j : Junction) : Text.isIdentifier j.word = true := by
  cases j <;> exact Text.isIdentifier_of_letters (by decide)

theorem isIdentifier_in : Text.isIdentifier "in" = true := Text.isIdentifier_of_letters (by decide)

theorem isIdentifier_not : Text.isIdentifier "not" = true := Text.isIdentifier_of_letters (by decide)

variable (s : Style)

theorem scan_around {x : Text} {sign : Sign} (hx : ∃ c t, x = c :: t ∧ c ∈ signStarts)
    (hsign : sign? (x ++ (blanks s.gap ++ r)) = some (sign, blanks s.gap ++ r))
    (hbracket : sign ∉ [.leftParen, .leftBracket, .leftBrace, .rightParen, .rightBracket, .rightBrace]) :
    scan (fuel + 1) depth false (s.around x ++ r) = (scan fuel depth false r).map (.sign sign :: ·) := by
  rw [Style.around, List.append_assoc, List.append_assoc]
  exact scan_sign s.gap hx hsign hbracket

theorem scan_arithmetic (op : Arithmetic) (hr : r.Opens) :
    scan (fuel + 1) depth false (s.around op.text ++ r) = (scan fuel depth false r).map (.sign op.sign :: ·) := by
  have hx : ∃ c t, op.text = c :: t ∧ c ∈ signStarts := by cases op <;> exact ⟨_, _, rfl, by decide⟩
  exact scan_around s hx (sign?_arithmetic op (endsSign_of_opens hr s.gap)) (by cases op <;> decide)

/-- The sign of an operand. -/
theorem scan_signed (negative : Bool) (hr : r.Opens) :
    scan (fuel + 1) depth false (.scalar (if negative then '-' else '+') :: r) =
      (scan fuel depth false r).map (.sign (if negative then .minus else .plus) :: ·) := by
  have hsign (op : Arithmetic) := sign?_arithmetic op (endsSign_of_opens hr 0)
  cases negative with
  | false => exact scan_sign 0 ⟨_, _, rfl, by decide⟩ (hsign .add) (by decide)
  | true => exact scan_sign 0 ⟨_, _, rfl, by decide⟩ (hsign .sub) (by decide)

variable (gap wide lead : Nat)

theorem scan_comparison (op : Comparison) (hr : r.Opens) :
    scan (op.tokens.length + fuel) depth false ((Style.words gap wide lead).comparison op ++ r) =
      (scan fuel depth false r).map (op.tokens ++ ·) := by
  have hopen {c : CodePoint} {t : Text} (hc : c ∈ signStarts) : ∃ d u, c :: t = d :: u ∧ d ∈ signStarts :=
    ⟨_, _, rfl, hc⟩
  have hends := endsSign_of_opens hr gap
  have happend (x : Text) (n : Nat) : blanks n ++ (x ++ blanks n) ++ r = blanks n ++ (x ++ (blanks n ++ r)) := by
    rw [List.append_assoc, List.append_assoc]
  rw [Nat.add_comm]
  cases op with
  | eq => exact scan_around (.words gap wide lead) (hopen (by decide)) rfl (by decide)
  | ne => exact scan_around (.words gap wide lead) (hopen (by decide)) rfl (by decide)
  | lt => exact scan_around (.words gap wide lead) (hopen (by decide)) (sign?_less hends).1 (by decide)
  | le => exact scan_around (.words gap wide lead) (hopen (by decide)) rfl (by decide)
  | gt => exact scan_around (.words gap wide lead) (hopen (by decide)) (sign?_less hends).2 (by decide)
  | ge => exact scan_around (.words gap wide lead) (hopen (by decide)) rfl (by decide)
  | isIn =>
      refine (congrArg (scan (fuel + 1) depth false) (happend "in" (wide + 1))).trans ?_
      exact scan_apart (wide + 1) isIdentifier_in
  | notIn =>
      refine (congrArg (scan (fuel + 2) depth false) (happend ("not" ++ (blanks 1 ++ "in")) (wide + 1))).trans ?_
      rw [List.append_assoc, List.append_assoc, scan_apart (wide + 1) (m := 0) isIdentifier_not]
      refine (congrArg (Option.map _) (scan_apart 0 (m := wide) isIdentifier_in)).trans ?_
      cases scan fuel depth false r <;> rfl

theorem scan_junction (j : Junction) :
    scan (fuel + 1) depth false ((Style.words gap wide lead).junction j ++ r) =
      (scan fuel depth false r).map (.word j.word :: ·) := by
  rw [Style.junction, Style.apart, List.append_assoc, List.append_assoc]
  exact scan_apart _ (isIdentifier_junction j)

theorem scan_not : scan (fuel + 1) depth false ((Style.words gap wide lead).not ++ r) =
    (scan fuel depth false r).map (.word "not" :: ·) := by
  refine (congrArg (scan (fuel + 1) depth false) (List.append_assoc ..)).trans ?_
  exact scan_apart lead (m := 0) isIdentifier_not

end Lexer

/-! ## Formulas -/

namespace Formula

open Lexer

variable {depth fuel : Nat} {t r : Text}

theorem joined_assoc (a b c : Option (List Token)) : joined (joined a b) c = joined a (joined b c) := by
  cases a <;> cases b <;> cases c <;> simp [joined]

/-- What stands in parentheses is read one deeper. -/
theorem scan_bracketed {n : Nat} {inner : Option (List Token)}
    (hinner : scan (n + (fuel + 1)) (depth + 1) false (unifyLineEnds t) =
      joined inner (scan (fuel + 1) (depth + 1) false (unifyLineEnds (.scalar ')' :: r)))) :
    scan (n + 2 + fuel) depth false (unifyLineEnds (.scalar '(' :: t)) =
      joined (bracketed depth inner) (scan fuel depth false (unifyLineEnds r)) := by
  have hsteps : n + 2 + fuel = (n + (fuel + 1)) + 1 := by omega
  rw [unifyLineEnds_of_ne (by decide), hsteps, scan_open, hinner, unifyLineEnds_of_ne (by decide), scan_close,
    bracketed]
  split
  · rfl
  · rw [joined_assoc, joined_assoc]
    rfl

/-! ### Texts without line ends -/

theorem not_mem_blanks (n : Nat) : CodePoint.scalar '\r' ∉ blanks n := fun h =>
  absurd (List.eq_of_mem_replicate h) (by decide)

theorem not_mem_between (n : Nat) {x : Text} (hx : CodePoint.scalar '\r' ∉ x) :
    CodePoint.scalar '\r' ∉ blanks n ++ (x ++ blanks n) := by
  rw [List.mem_append, List.mem_append]
  rintro (h | h | h)
  · exact not_mem_blanks n h
  · exact hx h
  · exact not_mem_blanks n h

theorem not_mem_of_isWordPart {x : Text} (hx : ∀ c ∈ x, isWordPart c = true) : CodePoint.scalar '\r' ∉ x := fun h =>
  absurd (hx _ h) (by decide)

theorem not_mem_numeral (n : Numeral) : CodePoint.scalar '\r' ∉ n.text := by
  intro h
  rcases Numeral.mem_text h with hword | hsign
  · exact absurd hword (by decide)
  · exact absurd hsign (by decide)

variable (gap wide lead : Nat)

theorem not_mem_arithmetic (op : Arithmetic) : CodePoint.scalar '\r' ∉ (Style.words gap wide lead).around op.text :=
  not_mem_between gap (by cases op <;> decide)

theorem not_mem_comparison (op : Comparison) : CodePoint.scalar '\r' ∉ (Style.words gap wide lead).comparison op := by
  cases op <;> exact not_mem_between _ (by decide)

theorem not_mem_junction (j : Junction) : CodePoint.scalar '\r' ∉ (Style.words gap wide lead).junction j :=
  not_mem_between _ (by cases j <;> decide)

theorem not_mem_not : CodePoint.scalar '\r' ∉ (Style.words gap wide lead).not := by
  rw [Style.not, List.mem_append]
  rintro (h | h)
  · exact not_mem_blanks lead h
  · exact absurd h (by decide)

/-! ### What stands behind an operand -/

theorem stops_around {s : Style} {x : Text} (hx : ∃ c t, x = c :: t ∧ c ∈ signStarts) : (s.around x ++ r).Stops := by
  obtain ⟨c, t, rfl, hc⟩ := hx
  have hall : ∀ c ∈ signStarts, isWordPart c = false ∧ c ≠ .scalar '.' ∧ c ≠ .scalar '"' ∧ c ≠ .scalar '\'' := by decide
  rw [Style.around, List.append_assoc]
  exact stops_blanks_append (stops_cons (hall c hc)) _

theorem stops_apart {s : Style} {x : Text} : (s.apart x ++ r).Stops := by
  rw [Style.apart, List.append_assoc]
  exact stops_blanks _

theorem stops_arithmetic (op : Arithmetic) : ((Style.words gap wide lead).around op.text ++ r).Stops :=
  stops_around (by cases op <;> exact ⟨_, _, rfl, by decide⟩)

theorem stops_comparison (op : Comparison) : ((Style.words gap wide lead).comparison op ++ r).Stops := by
  have hopen {c : CodePoint} {t : Text} (hc : c ∈ signStarts) : ∃ d u, c :: t = d :: u ∧ d ∈ signStarts :=
    ⟨_, _, rfl, hc⟩
  cases op with
  | isIn => exact stops_apart
  | notIn => exact stops_apart
  | _ => exact stops_around (hopen (by decide))

theorem opens_spell (f : Formula) (s : Style) : (unifyLineEnds (f.spell s ++ r)).Opens := by
  obtain ⟨c, t, htext, hc⟩ := f.spell_opens s
  have hreturn : c ≠ .scalar '\r' := by
    rintro rfl
    exact absurd hc (by decide)
  exact ⟨c, unifyLineEnds (t ++ r), by rw [htext, List.cons_append, unifyLineEnds_of_ne hreturn], hc⟩

theorem stops_close : Text.Stops (.scalar ')' :: r) := stops_cons (by decide)

theorem stops_spellMore (j : Junction) (fs : List Formula) (hr : r.Stops) :
    (spellMore (.words gap wide lead) j fs ++ r).Stops := by
  cases fs with
  | nil => exact hr
  | cons f fs =>
      rw [spellMore, List.append_assoc]
      exact stops_apart

theorem stops_spellLinks (links : List (Comparison × Formula)) (hr : r.Stops) :
    (spellLinks (.words gap wide lead) links ++ r).Stops := by
  cases links with
  | nil => exact hr
  | cons link links =>
      rw [spellLinks, List.append_assoc]
      exact stops_comparison gap wide lead link.1

/-! ### The whole -/

mutual

/-- The lexer reads the tokens of a formula, a step for each, and goes on behind it. -/
theorem scan_spell (f : Formula) (depth fuel : Nat) {r : Text} (hr : r.Stops) :
    scan (f.size + fuel) depth false (unifyLineEnds (f.spell (.words gap wide lead) ++ r)) =
      joined (f.tokens? depth) (scan fuel depth false (unifyLineEnds r)) := by
  -- the steps that are left over are for what stands behind: inside of a formula, for the rest of it
  match f with
  | .name n =>
      rw [spell, unifyLineEnds_append (not_mem_of_isWordPart fun _ => n.isWordPart_of_mem), size, Nat.add_comm,
        scan_word n.isName hr.unified]
      rfl
  | .number n =>
      rw [spell, unifyLineEnds_append (not_mem_numeral n), size, Nat.add_comm, scan_number n hr.unified, tokens?]
      cases n.value? <;> rfl
  | .quoted q =>
      rw [spell, size, Nat.add_comm, scan_quoted q hr, tokens?]
      cases q.value? <;> rfl
  | .not f =>
      simp only [spell, size, tokens?, List.cons_append, List.append_assoc, List.nil_append]
      refine scan_bracketed (n := size f + 1) ?_
      rw [unifyLineEnds_append (not_mem_not gap wide lead), Nat.add_right_comm, scan_not,
        scan_spell f (depth + 1) (fuel + 1) stops_close, joined_assoc]
      rfl
  | .signed negative f =>
      simp only [spell, size, tokens?, List.cons_append, List.append_assoc, List.nil_append]
      refine scan_bracketed (n := size f + 1) ?_
      rw [unifyLineEnds_of_ne (by cases negative <;> decide), Nat.add_right_comm,
        scan_signed negative (opens_spell f _),
        scan_spell f (depth + 1) (fuel + 1) stops_close, joined_assoc]
      rfl
  | .binary op a b =>
      simp only [spell, size, tokens?, List.cons_append, List.append_assoc, List.nil_append]
      refine scan_bracketed (n := size a + size b + 1) ?_
      have hsteps : size a + size b + 1 + (fuel + 1) = size a + (size b + (fuel + 1) + 1) := by omega
      rw [hsteps, scan_spell a _ _ (stops_arithmetic gap wide lead op),
        unifyLineEnds_append (not_mem_arithmetic gap wide lead op), scan_arithmetic _ op (opens_spell b _),
        scan_spell b _ _ stops_close, joined_assoc, joined_assoc]
      rfl
  | .junction j f fs =>
      simp only [spell, size, tokens?, List.cons_append, List.append_assoc, List.nil_append]
      refine scan_bracketed (n := size f + sizeMore fs) ?_
      rw [Nat.add_assoc, scan_spell f _ _ (stops_spellMore gap wide lead j fs stops_close),
        scan_spellMore j fs _ _ stops_close, joined_assoc]
  | .chain f links =>
      simp only [spell, size, tokens?, List.cons_append, List.append_assoc, List.nil_append]
      refine scan_bracketed (n := size f + sizeLinks links) ?_
      rw [Nat.add_assoc, scan_spell f _ _ (stops_spellLinks gap wide lead links stops_close),
        scan_spellLinks links _ _ stops_close, joined_assoc]

theorem scan_spellMore (j : Junction) (fs : List Formula) (depth fuel : Nat) {r : Text} (hr : r.Stops) :
    scan (sizeMore fs + fuel) depth false (unifyLineEnds (spellMore (.words gap wide lead) j fs ++ r)) =
      joined (tokensMore? depth j fs) (scan fuel depth false (unifyLineEnds r)) := by
  match fs with
  | [] =>
      rw [spellMore, sizeMore, tokensMore?, Nat.zero_add, List.nil_append]
      cases scan fuel depth false (unifyLineEnds r) <;> rfl
  | f :: fs =>
      simp only [spellMore, sizeMore, tokensMore?, List.append_assoc]
      have hsteps : size f + sizeMore fs + 1 + fuel = size f + (sizeMore fs + fuel) + 1 := by omega
      rw [hsteps, unifyLineEnds_append (not_mem_junction gap wide lead j), scan_junction,
        scan_spell f _ _ (stops_spellMore gap wide lead j fs hr), scan_spellMore j fs _ _ hr, joined_assoc,
        joined_assoc]
      rfl

theorem scan_spellLinks (links : List (Comparison × Formula)) (depth fuel : Nat) {r : Text} (hr : r.Stops) :
    scan (sizeLinks links + fuel) depth false (unifyLineEnds (spellLinks (.words gap wide lead) links ++ r)) =
      joined (tokensLinks? depth links) (scan fuel depth false (unifyLineEnds r)) := by
  match links with
  | [] =>
      rw [spellLinks, sizeLinks, tokensLinks?, Nat.zero_add, List.nil_append]
      cases scan fuel depth false (unifyLineEnds r) <;> rfl
  | (op, f) :: links =>
      simp only [spellLinks, sizeLinks, tokensLinks?, List.append_assoc]
      have hsteps : size f + sizeLinks links + op.tokens.length + fuel =
          op.tokens.length + (size f + (sizeLinks links + fuel)) := by omega
      rw [hsteps, unifyLineEnds_append (not_mem_comparison gap wide lead op),
        scan_comparison _ _ _ op (opens_spell f _),
        scan_spell f _ _ (stops_spellLinks gap wide lead links hr), scan_spellLinks links _ _ hr, joined_assoc,
        joined_assoc]
      rfl

end

/-! ### Enough steps -/

theorem length_unifyLineEnds (t : Text) : t.length ≤ 2 * (unifyLineEnds t).length := by
  fun_induction unifyLineEnds t with
  -- two characters become one
  | case1 r ih => simp only [List.length_cons]; omega
  | case2 r _ ih => simp only [List.length_cons]; omega
  | case3 c r _ _ ih => simp only [List.length_cons]; omega
  | case4 => exact Nat.le_refl _

theorem length_comparison (s : Style) (op : Comparison) : op.tokens.length ≤ (s.comparison op).length := by
  cases s <;> cases op <;>
    simp [Style.comparison, Style.around, Style.apart, Comparison.tokens, Text.ofString] <;> omega

mutual

/-- A token takes a character at least. -/
theorem size_le (s : Style) (f : Formula) : f.size ≤ (f.spell s).length := by
  match f with
  | .name n => exact List.length_pos_iff.mpr n.text_ne_nil
  | .number n =>
      obtain ⟨c, t, htext, -⟩ := n.text_opens
      rw [spell, htext]
      exact Nat.succ_le_succ (Nat.zero_le _)
  | .quoted q => exact Nat.succ_le_succ (Nat.zero_le _)
  | .not f =>
      have hf := size_le s f
      have hnot : 1 ≤ s.not.length := by cases s <;> simp [Style.not, Text.ofString]
      simp only [spell, size, List.length_cons, List.length_append, List.length_nil]
      omega
  | .signed negative f =>
      have hf := size_le s f
      simp only [spell, size, List.length_cons, List.length_append, List.length_nil]
      omega
  | .binary op a b =>
      have ha := size_le s a
      have hb := size_le s b
      have hop : 1 ≤ op.text.length := by cases op <;> decide
      simp only [spell, size, Style.around, List.length_cons, List.length_append, List.length_nil]
      omega
  | .junction j f fs =>
      have hf := size_le s f
      have hfs := sizeMore_le s j fs
      simp only [spell, size, List.length_cons, List.length_append, List.length_nil]
      omega
  | .chain f links =>
      have hf := size_le s f
      have hlinks := sizeLinks_le s links
      simp only [spell, size, List.length_cons, List.length_append, List.length_nil]
      omega

theorem sizeMore_le (s : Style) (j : Junction) (fs : List Formula) : sizeMore fs ≤ (spellMore s j fs).length := by
  match fs with
  | [] => exact Nat.le_refl _
  | f :: fs =>
      have hf := size_le s f
      have hfs := sizeMore_le s j fs
      have hj : 1 ≤ (s.junction j).length := by
        cases s <;> cases j <;>
          simp [Style.junction, Style.around, Style.apart, Junction.symbol, Junction.word, Text.ofString] <;> omega
      simp only [spellMore, sizeMore, List.length_append]
      omega

theorem sizeLinks_le (s : Style) (links : List (Comparison × Formula)) :
    sizeLinks links ≤ (spellLinks s links).length := by
  match links with
  | [] => exact Nat.le_refl _
  | (op, f) :: links =>
      have hf := size_le s f
      have hlinks := sizeLinks_le s links
      have hop := length_comparison s op
      simp only [spellLinks, sizeLinks, List.length_append]
      omega

end

/-- The tokens of a text that is a formula in words. -/
theorem tokens?_spell (f : Formula) : Lexer.tokens? (f.spell (.words gap wide lead)) = f.tokens? 0 := by
  have hsize := size_le (.words gap wide lead) f
  have hlength := length_unifyLineEnds (f.spell (.words gap wide lead))
  obtain ⟨c, t, htext, hopening⟩ := opens_spell (r := []) f (.words gap wide lead)
  obtain ⟨fuel, hfuel⟩ : ∃ n, 2 * (unifyLineEnds (f.spell (.words gap wide lead))).length + 2 = f.size + (n + 1) :=
    ⟨2 * (unifyLineEnds (f.spell (.words gap wide lead))).length + 1 - f.size, by omega⟩
  have hscan := scan_spell gap wide lead f 0 (fuel + 1) (r := []) (fun c hc => absurd hc (by simp))
  rw [List.append_nil] at htext
  rw [List.append_nil, ← hfuel, htext] at hscan
  -- a formula begins at once, so that the first line is neither blank nor indented
  rw [Lexer.tokens?, htext, scan_lineStart (isSolid_of_isOpening hopening), hscan]
  cases f.tokens? 0 with
  | none => rfl
  | some ts => exact congrArg some (List.append_nil ts)

end Formula
end ChatFlow
