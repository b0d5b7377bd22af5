import ChatFlow.Proofs.Expr.Formulas
import ChatFlow.Proofs.Expr.Reading

/-!
# Respelling the operators of a formula

The operators of a spelled formula are respelled one by one, and nothing else is touched: string literals are skipped to
their ends, and no sign of one operator goes on with another one. So a formula in symbols and the same formula in words
have one tree and one value. What the evaluator asks of a text before it reads it (no surrogates, no null characters,
nothing but the text between blanks) does not depend on the style either.

* `Expr.unifyOperators_quoted`, `Expr.unifyOperators_plain`: what is kept.
* `Formula.unifyOperators_spell`: a formula in symbols becomes the formula in words; in words it stays as it is.
* `Formula.spell_any`: what is said of characters other than those of operators is said of every style alike.
* `Formula.evaluate_spellings`: the tree and the value of both spellings.
-/

namespace ChatFlow

namespace Expr

variable {c : CodePoint} {t r new rest : Text} {quote : CodePoint} {fuel : Nat}

/-! ## One step -/

theorem literalRest_length (h : literalRest quote t = some (new, rest)) : rest.length < t.length := by
  fun_induction literalRest quote t generalizing new rest with
  | case1 => cases h
  | case2 => cases h
  | case3 c r hline ih =>
      obtain ⟨found, hfound, heq⟩ := Option.map_eq_some_iff.mp h
      cases heq
      have hrest := ih hfound
      rw [List.length_cons, List.length_cons]
      omega
  | case4 => cases h; exact Nat.lt_succ_self _
  | case5 => cases h
  | case6 c r _ _ _ ih =>
      obtain ⟨found, hfound, heq⟩ := Option.map_eq_some_iff.mp h
      cases heq
      exact Nat.lt_succ_of_lt (ih hfound)

theorem replacement?_length (h : replacement? t = some (new, rest)) : rest.length < t.length := by
  unfold replacement? at h
  split at h
  · next old spelling hfound =>
      cases h
      have hmem := List.mem_of_find?_eq_some hfound
      have hlong : 0 < old.length := by
        simp only [respelled, List.mem_cons, List.not_mem_nil, or_false, Prod.mk.injEq] at hmem
        rcases hmem with ⟨rfl, -⟩ | ⟨rfl, -⟩ | ⟨rfl, -⟩ | ⟨rfl, -⟩ <;> decide
      have hprefix := List.isPrefixOf_iff_prefix.mp
        (List.find?_some (p := fun x : Text × Text => x.1.isPrefixOf t) hfound)
      have hle : old.length ≤ t.length := hprefix.length_le
      rw [List.length_drop]
      omega
  · split at h
    · split at h
      · cases h
      · cases h
        exact Nat.lt_succ_self _
    · cases h

/-- What is kept or replaced at the beginning of a text: a string literal, or an operator. -/
def step? (c : CodePoint) (r : Text) : Option (Text × Text) :=
  (if c = '\'' ∨ c = '"' then (literalRest c r).map fun (body, rest) => (c :: body, rest) else none).or
    (replacement? (c :: r))

theorem step?_length (h : step? c r = some (new, rest)) : rest.length ≤ r.length := by
  unfold step? at h
  rcases Option.or_eq_some_iff.mp h with hkept | ⟨-, hreplaced⟩
  · split at hkept
    · obtain ⟨found, hfound, heq⟩ := Option.map_eq_some_iff.mp hkept
      cases heq
      exact Nat.le_of_lt (literalRest_length hfound)
    · cases hkept
  · exact Nat.le_of_lt_succ (replacement?_length hreplaced)

theorem unifyAux_cons : unifyAux (fuel + 1) (c :: r) =
    match step? c r with
    | some (new, rest) => new ++ unifyAux fuel rest
    | none => c :: unifyAux fuel r := rfl

/-- A step for every code point is enough. -/
theorem unifyAux_eq (h : t.length ≤ fuel) : unifyAux fuel t = unifyOperators t := by
  -- any two numbers of steps that are enough give the same
  suffices hall : ∀ n m (t : Text), t.length ≤ n → t.length ≤ m → unifyAux n t = unifyAux m t from
    hall _ _ _ h (Nat.le_refl _)
  intro n
  induction n with
  | zero =>
      intro m t hn _
      rw [List.length_eq_zero_iff.mp (Nat.le_zero.mp hn)]
      cases m <;> rfl
  | succ n ih =>
      intro m t hn hm
      cases t with
      | nil => cases m <;> rfl
      | cons c r =>
          obtain ⟨m, rfl⟩ : ∃ k, m = k + 1 := ⟨m - 1, by rw [List.length_cons] at hm; omega⟩
          rw [List.length_cons] at hn hm
          rw [unifyAux_cons, unifyAux_cons]
          split
          · next new rest hstep =>
              have hlength := step?_length hstep
              rw [ih m rest (by omega) (by omega)]
          · rw [ih m r (by omega) (by omega)]

theorem unifyOperators_cons (c : CodePoint) (r : Text) : unifyOperators (c :: r) =
    match step? c r with
    | some (new, rest) => new ++ unifyOperators rest
    | none => c :: unifyOperators r := by
  rw [unifyOperators, List.length_cons, unifyAux_cons]
  split
  · next new rest hstep => rw [unifyAux_eq (step?_length hstep)]
  · rfl

/-! ## What is kept -/

/-- A string literal is kept as it is. -/
theorem unifyOperators_quoted (q : Quoted) : unifyOperators (q.text ++ r) = q.text ++ unifyOperators r := by
  have hquote : q.quote = .scalar '\'' ∨ q.quote = .scalar '"' := by
    rw [Quoted.quote]
    cases q.double
    · exact .inl rfl
    · exact .inr rfl
  have hstep : step? q.quote (q.body ++ q.quote :: r) = some (q.text, r) := by
    rw [step?, if_pos hquote, q.literalRest_append]
    rfl
  rw [Quoted.text, List.cons_append, List.append_assoc, List.singleton_append, unifyOperators_cons, hstep]
  rfl

/-- The characters that begin no literal and no operator. -/
def IsPlain (c : CodePoint) : Prop := c ∉ ['\'', '"', '=', '!', '&', '|'].map CodePoint.scalar

instance : DecidablePred IsPlain := fun _ => inferInstanceAs (Decidable (_ ∉ _))

theorem step?_none (hquote : c ≠ .scalar '\'' ∧ c ≠ .scalar '"') (h : replacement? (c :: r) = none) :
    step? c r = none := by
  rw [step?, if_neg (not_or.mpr hquote), h]
  rfl

/-! ## Signs of operators -/

theorem respelled_eq : respelled =
    ([([.scalar '=', .scalar '=', .scalar '='], "=="), ([.scalar '!', .scalar '=', .scalar '='], "!="),
      ([.scalar '&', .scalar '&'], " and "), ([.scalar '|', .scalar '|'], " or ")] : List (Text × Text)) := rfl

theorem beq_false {d : CodePoint} (h : c ≠ d) : (d == c) = false := beq_eq_false_iff_ne.mpr (Ne.symm h)

/-- A character that is no sign of an operator begins none. -/
theorem replacement?_plain (h : c ∉ ['=', '!', '&', '|'].map CodePoint.scalar) : replacement? (c :: r) = none := by
  simp only [List.map_cons, List.map_nil, List.mem_cons, List.not_mem_nil, or_false, not_or] at h
  obtain ⟨heq, hnot, hand, hor⟩ := h
  simp only [replacement?, respelled_eq, List.find?_cons, List.find?_nil, List.isPrefixOf, beq_false heq,
    beq_false hnot, beq_false hand, beq_false hor, Bool.false_and]
  split
  · next hopen => exact absurd (List.cons.inj hopen).1 hnot
  · rfl

theorem head_ne_equals (h : (c :: r).head? ≠ some (.scalar '=')) : (CodePoint.scalar '=' == c) = false :=
  beq_false fun hc => h (by rw [hc]; rfl)

theorem replacement?_equals (hr : r.head? ≠ some (.scalar '=')) :
    replacement? (.scalar '=' :: r) = none ∧ replacement? (.scalar '=' :: .scalar '=' :: r) = none ∧
      replacement? (.scalar '!' :: .scalar '=' :: r) = none := by
  cases r with
  | nil => exact ⟨rfl, rfl, rfl⟩
  | cons d r =>
      have hd := head_ne_equals hr
      refine ⟨?_, ?_, ?_⟩ <;> simp [replacement?, respelled_eq, List.isPrefixOf, hd]

theorem replacement?_not (hr : r.head? ≠ some (.scalar '=')) :
    replacement? (.scalar '!' :: r) = some (Text.ofString " not ", r) := by
  cases r with
  | nil => rfl
  | cons d r =>
      have hd := head_ne_equals hr
      have hd' : d ≠ .scalar '=' := fun hc => hr (by rw [hc]; rfl)
      simp [replacement?, respelled_eq, List.isPrefixOf, hd, hd']

theorem unifyOperators_plain (ht : ∀ c ∈ t, IsPlain c) : unifyOperators (t ++ r) = t ++ unifyOperators r := by
  induction t with
  | nil => rfl
  | cons c t ih =>
      have hc := ht c List.mem_cons_self
      rw [IsPlain, List.map_cons, List.map_cons, List.mem_cons, List.mem_cons, not_or, not_or] at hc
      rw [List.cons_append, unifyOperators_cons, step?_none ⟨hc.1, hc.2.1⟩ (replacement?_plain hc.2.2)]
      exact congrArg (c :: ·) (ih fun d hd => ht d (List.mem_cons_of_mem _ hd))

/-! ## Operators -/

theorem step?_of_ne_quote (hquote : c ≠ .scalar '\'' ∧ c ≠ .scalar '"') : step? c r = replacement? (c :: r) := by
  rw [step?, if_neg (not_or.mpr hquote), Option.none_or]

theorem unifyOperators_kept (hquote : c ≠ .scalar '\'' ∧ c ≠ .scalar '"') (h : replacement? (c :: r) = none) :
    unifyOperators (c :: r) = c :: unifyOperators r := by
  rw [unifyOperators_cons, step?_of_ne_quote hquote, h]

theorem unifyOperators_replaced (hquote : c ≠ .scalar '\'' ∧ c ≠ .scalar '"')
    (h : replacement? (c :: r) = some (new, rest)) : unifyOperators (c :: r) = new ++ unifyOperators rest := by
  rw [unifyOperators_cons, step?_of_ne_quote hquote, h]

end Expr

namespace Style

/-- The style after respelling: symbols give way to words, and bring blanks of their own. -/
def respelled : Style → Style
  | symbols gap => words gap gap 1
  | words gap wide lead => words gap wide lead

end Style

namespace Expr

/-- The text is respelled by itself, before all that begins with no equals sign. -/
def Respells (t t' : Text) : Prop :=
  ∀ r : Text, r.head? ≠ some (.scalar '=') → unifyOperators (t ++ r) = t' ++ unifyOperators r

theorem Respells.plain {t : Text} (ht : ∀ c ∈ t, IsPlain c) : Respells t t := fun _ _ => unifyOperators_plain ht

theorem isPlain_blanks {n : Nat} : ∀ c ∈ blanks n, IsPlain c := by
  intro c hc
  rw [List.eq_of_mem_replicate hc]
  decide

/-- Blanks on either side stay. -/
theorem Respells.between {t t' : Text} (n : Nat) (ht : Respells t t') :
    Respells (blanks n ++ (t ++ blanks n)) (blanks n ++ (t' ++ blanks n)) := by
  intro r hr
  have hnext : (blanks n ++ r).head? ≠ some (.scalar '=') := by
    cases n with
    | zero => exact hr
    | succ n => exact fun h => absurd (Option.some.inj h) (by decide)
  rw [List.append_assoc, List.append_assoc, unifyOperators_plain isPlain_blanks, ht _ hnext,
    unifyOperators_plain isPlain_blanks, List.append_assoc, List.append_assoc]

theorem respells_equal : Respells "===" "==" ∧ Respells "==" "==" := by
  refine ⟨fun r hr => unifyOperators_replaced (by decide) (r := _) rfl, fun r hr => ?_⟩
  exact (unifyOperators_kept (by decide) (replacement?_equals hr).2.1).trans
    (congrArg _ (unifyOperators_kept (by decide) (replacement?_equals hr).1))

theorem respells_different : Respells "!==" "!=" ∧ Respells "!=" "!=" := by
  refine ⟨fun r hr => unifyOperators_replaced (by decide) (r := _) rfl, fun r hr => ?_⟩
  exact (unifyOperators_kept (by decide) (replacement?_equals hr).2.2).trans
    (congrArg _ (unifyOperators_kept (by decide) (replacement?_equals hr).1))

/-- An equals sign behind another sign is kept. -/
theorem respells_orEqual (h : IsPlain c) : Respells [c, .scalar '='] [c, .scalar '='] := by
  intro r hr
  refine (unifyOperators_plain (t := [c]) fun d hd => List.mem_singleton.mp hd ▸ h).trans ?_
  exact congrArg (c :: ·) (unifyOperators_kept (by decide) (replacement?_equals hr).1)

theorem respells_junction (j : Junction) : Respells j.symbol (blanks 1 ++ (j.word ++ blanks 1)) := by
  intro r hr
  cases j <;> exact unifyOperators_replaced (by decide) (r := _) rfl

theorem blanks_succ (n : Nat) : blanks (n + 1) = blanks n ++ blanks 1 ∧ blanks (n + 1) = blanks 1 ++ blanks n :=
  ⟨List.replicate_succ', rfl⟩

variable (s : Style)

theorem respells_comparison (op : Comparison) : Respells (s.comparison op) (s.respelled.comparison op) := by
  have hplain {t : Text} (ht : ∀ c ∈ t, IsPlain c) (n : Nat) := (Respells.plain ht).between n
  cases s with
  | symbols gap =>
      cases op with
      | eq => exact respells_equal.1.between gap
      | ne => exact respells_different.1.between gap
      | lt => exact hplain (by decide) gap
      | le => exact (respells_orEqual (by decide)).between gap
      | gt => exact hplain (by decide) gap
      | ge => exact (respells_orEqual (by decide)).between gap
      | isIn => exact hplain (by decide) (gap + 1)
      | notIn => exact hplain (by decide) (gap + 1)
  | words gap wide lead =>
      cases op with
      | eq => exact respells_equal.2.between gap
      | ne => exact respells_different.2.between gap
      | lt => exact hplain (by decide) gap
      | le => exact (respells_orEqual (by decide)).between gap
      | gt => exact hplain (by decide) gap
      | ge => exact (respells_orEqual (by decide)).between gap
      | isIn => exact hplain (by decide) (wide + 1)
      | notIn => exact hplain (by decide) (wide + 1)

theorem respells_junctionStyle (j : Junction) : Respells (s.junction j) (s.respelled.junction j) := by
  cases s with
  | symbols gap =>
      -- the word that replaces a symbol brings a blank on either side, which joins those of the style
      have hj := (respells_junction j).between gap
      have hspelled : blanks gap ++ (blanks 1 ++ (j.word ++ blanks 1) ++ blanks gap) =
          (Style.words gap gap 1).junction j := by
        change _ = blanks (gap + 1) ++ (j.word ++ blanks (gap + 1))
        rw [List.append_assoc, List.append_assoc, ← (blanks_succ gap).2, ← List.append_assoc, ← (blanks_succ gap).1]
      rw [hspelled] at hj
      exact hj
  | words gap wide lead =>
      have hword : ∀ c ∈ j.word, IsPlain c := by cases j <;> decide
      exact (Respells.plain hword).between (wide + 1)

theorem respells_arithmetic (op : Arithmetic) : Respells (s.around op.text) (s.respelled.around op.text) := by
  have htext : ∀ c ∈ op.text, IsPlain c := by cases op <;> decide
  cases s <;> exact (Respells.plain htext).between _

theorem respells_not : Respells s.not s.respelled.not := by
  cases s with
  | symbols gap => exact fun r hr => unifyOperators_replaced (by decide) (replacement?_not hr)
  | words gap wide lead =>
      refine Respells.plain fun c hc => ?_
      rcases List.mem_append.mp hc with hc | hc
      · exact isPlain_blanks c hc
      · exact (by decide : ∀ c ∈ ("not " : Text), IsPlain c) c hc

end Expr

namespace Formula

open ChatFlow.Expr

variable (s : Style) {r : Text} {c : CodePoint}

theorem isPlain_of_isWordPart {c : CodePoint} (h : Lexer.isWordPart c = true) : IsPlain c := by
  intro hc
  have hnone : ∀ c ∈ ['\'', '"', '=', '!', '&', '|'].map CodePoint.scalar, Lexer.isWordPart c = false := by decide
  exact absurd h (ne_true_of_eq_false (hnone c hc))

theorem head_spell_ne (f : Formula) : (f.spell s ++ r).head? ≠ some (.scalar '=') := by
  obtain ⟨c, t, htext, hopening⟩ := f.spell_opens s
  rw [htext]
  intro h
  rw [Option.some.inj h] at hopening
  exact absurd hopening (by decide)

theorem isPlain_name (n : Name) : ∀ c ∈ n.text, IsPlain c := fun _ hc => isPlain_of_isWordPart (n.isWordPart_of_mem hc)

theorem isPlain_numeral (n : Numeral) : ∀ c ∈ n.text, IsPlain c := by
  intro c hc
  rcases Numeral.mem_text hc with hword | hsign
  · exact isPlain_of_isWordPart hword
  · exact (by decide : ∀ c ∈ ['.', '+', '-'].map CodePoint.scalar, IsPlain c) c hsign

theorem unifyOperators_paren (hc : IsPlain c) : unifyOperators (c :: r) = c :: unifyOperators r :=
  unifyOperators_plain (t := [c]) fun _ hd => List.mem_singleton.mp hd ▸ hc

mutual

/-- A formula is respelled operator by operator; its names, numbers and string literals stay as they are. -/
theorem unifyOperators_spell (f : Formula) (r : Text) :
    unifyOperators (f.spell s ++ r) = f.spell s.respelled ++ unifyOperators r := by
  have hopen (t : Text) : unifyOperators (.scalar '(' :: t) = .scalar '(' :: unifyOperators t :=
    unifyOperators_paren (by decide)
  have hclose : unifyOperators (.scalar ')' :: r) = .scalar ')' :: unifyOperators r := unifyOperators_paren (by decide)
  match f with
  | .name n => exact unifyOperators_plain (isPlain_name n)
  | .number n => exact unifyOperators_plain (isPlain_numeral n)
  | .quoted q => exact unifyOperators_quoted q
  | .not f =>
      -- in front of an equals sign `!` would be a part of `!=`, but no operand begins with one
      simp only [spell, List.cons_append, List.append_assoc, List.nil_append]
      rw [hopen, respells_not s _ (head_spell_ne s f), unifyOperators_spell f, hclose]
  | .signed negative f =>
      have hsign : IsPlain (.scalar (if negative then '-' else '+')) := by cases negative <;> decide
      simp only [spell, List.cons_append, List.append_assoc, List.nil_append]
      rw [hopen, unifyOperators_paren hsign, unifyOperators_spell f, hclose]
  | .binary op a b =>
      simp only [spell, List.cons_append, List.append_assoc, List.nil_append]
      rw [hopen, unifyOperators_spell a, respells_arithmetic s op _ (head_spell_ne s b), unifyOperators_spell b, hclose]
  | .junction j f fs =>
      simp only [spell, List.cons_append, List.append_assoc, List.nil_append]
      rw [hopen, unifyOperators_spell f, unifyOperators_spellMore j fs, hclose]
  | .chain f links =>
      simp only [spell, List.cons_append, List.append_assoc, List.nil_append]
      rw [hopen, unifyOperators_spell f, unifyOperators_spellLinks links, hclose]

theorem unifyOperators_spellMore (j : Junction) (fs : List Formula) (r : Text) :
    unifyOperators (spellMore s j fs ++ r) = spellMore s.respelled j fs ++ unifyOperators r := by
  match fs with
  | [] => rfl
  | f :: fs =>
      simp only [spellMore, List.append_assoc]
      rw [respells_junctionStyle s j _ (head_spell_ne s f), unifyOperators_spell f, unifyOperators_spellMore j fs]

theorem unifyOperators_spellLinks (links : List (Comparison × Formula)) (r : Text) :
    unifyOperators (spellLinks s links ++ r) = spellLinks s.respelled links ++ unifyOperators r := by
  match links with
  | [] => rfl
  | (op, f) :: links =>
      simp only [spellLinks, List.append_assoc]
      rw [respells_comparison s op _ (head_spell_ne s f), unifyOperators_spell f, unifyOperators_spellLinks links]

end

end Formula

/-! ## Two spellings of one formula -/

/-- The characters of operators, blanks and parentheses in words. -/
def operatorMarks : Text := " ()+-*/%<>=!andorit"

namespace Formula

variable {p : CodePoint → Bool} (hp : ∀ c ∈ operatorMarks, p c = false)

include hp

theorem any_eq_false {t : Text} (ht : ∀ c ∈ t, c ∈ operatorMarks) : t.any p = false :=
  List.any_eq_false.mpr fun c hc hpc => by
    rw [hp c (ht c hc)] at hpc
    cases hpc

theorem any_blanks (n : Nat) : (blanks n).any p = false :=
  any_eq_false hp fun c hc => by
    rw [List.eq_of_mem_replicate hc]
    decide

theorem any_between {t : Text} (n : Nat) (ht : ∀ c ∈ t, c ∈ operatorMarks) :
    (blanks n ++ (t ++ blanks n)).any p = false := by
  rw [List.any_append, List.any_append, any_blanks hp, any_eq_false hp ht]
  rfl

variable (gap wide lead : Nat)

theorem any_not : (Style.words gap wide lead).not.any p = false := by
  change (blanks lead ++ Text.ofString "not ").any p = false
  rw [List.any_append, any_blanks hp, any_eq_false hp (by decide)]
  rfl

theorem any_junction (j : Junction) : ((Style.words gap wide lead).junction j).any p = false := by
  cases j <;> exact any_between hp _ (by decide)

theorem any_comparison (op : Comparison) : ((Style.words gap wide lead).comparison op).any p = false := by
  cases op <;> exact any_between hp _ (by decide)

theorem any_arithmetic (op : Arithmetic) : ((Style.words gap wide lead).around op.text).any p = false := by
  cases op <;> exact any_between hp _ (by decide)

variable (gap' wide' lead' : Nat)

mutual

/-- What is said of characters other than those of operators is said of all styles alike. -/
theorem spell_any (f : Formula) :
    (f.spell (.words gap wide lead)).any p = (f.spell (.words gap' wide' lead')).any p := by
  match f with
  | .name n => rfl
  | .number n => rfl
  | .quoted q => rfl
  | .not f =>
      simp only [spell, List.any_cons, List.any_append, any_not hp, spell_any f]
  | .signed negative f =>
      simp only [spell, List.any_cons, List.any_append, spell_any f]
  | .binary op a b =>
      simp only [spell, List.any_cons, List.any_append, any_arithmetic hp, spell_any a, spell_any b]
  | .junction j f fs =>
      simp only [spell, List.any_cons, List.any_append, spell_any f, spellMore_any j fs]
  | .chain f links =>
      simp only [spell, List.any_cons, List.any_append, spell_any f, spellLinks_any links]

theorem spellMore_any (j : Junction) (fs : List Formula) :
    (spellMore (.words gap wide lead) j fs).any p = (spellMore (.words gap' wide' lead') j fs).any p := by
  match fs with
  | [] => rfl
  | f :: fs => simp only [spellMore, List.any_append, any_junction hp, spell_any f, spellMore_any j fs]

theorem spellLinks_any (links : List (Comparison × Formula)) :
    (spellLinks (.words gap wide lead) links).any p = (spellLinks (.words gap' wide' lead') links).any p := by
  match links with
  | [] => rfl
  | (op, f) :: links => simp only [spellLinks, List.any_append, any_comparison hp, spell_any f, spellLinks_any links]

end

omit hp

/-! ## Blanks at the ends -/

/-- A formula stands in parentheses, or has no operators. -/
theorem spell_compound (f : Formula) :
    (∀ s s' : Style, f.spell s = f.spell s') ∨ ∀ s : Style, ∃ t, f.spell s = .scalar '(' :: (t ++ [.scalar ')']) := by
  cases f with
  | name n => exact .inl fun _ _ => rfl
  | number n => exact .inl fun _ _ => rfl
  | quoted q => exact .inl fun _ _ => rfl
  | not f => exact .inr fun s => ⟨s.not ++ f.spell s, by rw [spell, List.append_assoc]⟩
  | signed negative f => exact .inr fun s => ⟨.scalar (if negative then '-' else '+') :: f.spell s, rfl⟩
  | binary op a b =>
      exact .inr fun s => ⟨a.spell s ++ (s.around op.text ++ b.spell s), by simp only [spell, List.append_assoc]⟩
  | junction j f fs => exact .inr fun s => ⟨f.spell s ++ spellMore s j fs, by rw [spell, List.append_assoc]⟩
  | chain f links => exact .inr fun s => ⟨f.spell s ++ spellLinks s links, by rw [spell, List.append_assoc]⟩

theorem trim_parenthesized (t : Text) :
    Text.trim (.scalar '(' :: (t ++ [.scalar ')'])) = .scalar '(' :: (t ++ [.scalar ')']) := by
  have hopen : CodePoint.isBlank (.scalar '(') = false := by decide
  have hclose : CodePoint.isBlank (.scalar ')') = false := by decide
  rw [Text.trim, Text.trimBy, List.dropWhile_cons_of_neg (by rw [hopen]; decide), List.reverse_cons,
    List.reverse_append, List.reverse_singleton, List.singleton_append, List.cons_append,
    List.dropWhile_cons_of_neg (by rw [hclose]; decide)]
  simp

/-! ## Values -/

theorem run_spell (vars : Fields Value) (gap wide lead gap' wide' lead' : Nat) (f : Formula) :
    Expr.run vars (f.spell (.words gap wide lead)) = Expr.run vars (f.spell (.words gap' wide' lead')) := by
  have hsurrogate := spell_any (p := fun c => !c.toChar?.isSome) (by decide) gap wide lead gap' wide' lead' f
  have hwell : (f.spell (.words gap wide lead)).isWellFormed = (f.spell (.words gap' wide' lead')).isWellFormed := by
    rw [Text.isWellFormed, Text.isWellFormed, List.all_eq_not_any_not, List.all_eq_not_any_not, hsurrogate]
  have hzero := spell_any (p := fun c => c.toNat == 0) (by decide) gap wide lead gap' wide' lead' f
  rw [Expr.run, Expr.run, hwell, hzero, parse?_spell, parse?_spell]

/-- A text in symbols is respelled operator by operator, and its literals stay; both spellings have the tree of the
formula, or none, and the same value under all variables if they are not too long. -/
theorem evaluate_spellings (f : Formula) (gap gap' wide lead : Nat) (vars : Fields Value) (other : Value) :
    let symbols := Expr.unifyOperators (f.spell (.symbols gap))
    let words := Expr.unifyOperators (f.spell (.words gap' wide lead))
    symbols = f.spell (.words gap gap 1) ∧ words = f.spell (.words gap' wide lead) ∧
      Expr.parse? symbols = f.tree? ∧ Expr.parse? words = f.tree? ∧
      (symbols.length ≤ Expr.maxLength → words.length ≤ Expr.maxLength →
        Expr.evaluate vars other (f.spell (.symbols gap)) =
          Expr.evaluate vars other (f.spell (.words gap' wide lead))) := by
  have hsymbols := unifyOperators_spell (.symbols gap) f []
  have hwords := unifyOperators_spell (.words gap' wide lead) f []
  simp only [List.append_nil, Style.respelled, show Expr.unifyOperators [] = [] from rfl] at hsymbols hwords
  simp only [hsymbols, hwords, parse?_spell, true_and]
  intro hshort hshort'
  -- what has no operators has one spelling, and the rest has no blanks at its ends
  rcases spell_compound f with hsame | hparen
  · rw [hsame (.symbols gap) (.words gap' wide lead)]
  · have htrim (s : Style) : (f.spell s).trim = f.spell s := by
      obtain ⟨t, ht⟩ := hparen s
      rw [ht, trim_parenthesized]
    have hempty (s : Style) : (f.spell s).isEmpty = false := by
      obtain ⟨t, ht⟩ := hparen s
      rw [ht]
      rfl
    rw [Expr.evaluate, Expr.evaluate, hsymbols, hwords]
    simp only [htrim, hempty, Nat.not_lt.mpr hshort, Nat.not_lt.mpr hshort']
    rw [run_spell vars gap gap 1 gap' wide lead]

/-- `x` is the literal, in which an operator and an escaped quote stand, and not above 1. -/
def guarded : Formula :=
  let x : Formula := .name ⟨"x", Text.isIdentifier_of_letters (by decide), by decide⟩
  let one : Formula := .number (.decimal ⟨⟨.scalar '1', by decide⟩, []⟩ none none)
  .junction .all (.chain x [(.eq, .quoted ⟨false, [.plain (.scalar '!'), .escaped (.scalar '\''), .plain (.scalar '&'),
    .plain (.scalar '&')], by simp [QuotedPart.Fits]⟩)]) [.not (.chain one [(.lt, x), (.ne, one)])]

theorem evaluate_spellings_guarded :
    guarded.spell (.symbols 1) = "((x === '!\\'&&') && (!(1 < x !== 1)))" ∧
      guarded.spell (.words 1 0 0) = "((x == '!\\'&&') and (not (1 < x != 1)))" ∧
      Expr.evaluate [("x", .text "!'&&")] .null (guarded.spell (.symbols 1)) =
        Expr.evaluate [("x", .text "!'&&")] .null (guarded.spell (.words 1 0 0)) :=
  ⟨by decide, by decide, (evaluate_spellings guarded 1 1 0 0 _ _).2.2.2.2 (by decide) (by decide)⟩

end Formula

end ChatFlow
