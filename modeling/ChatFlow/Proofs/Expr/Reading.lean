import ChatFlow.Proofs.Expr.Scanning

/-!
# Reading a formula back

The reader is followed over the tokens of a formula. An operand is an atom; inside of parentheses one level of the
grammar has an operator, and the levels above and below it pass the operand on. Steps are counted: sixteen for every
token are enough for all levels of the grammar.

* `ExprReader.Reads`: what a reader makes of tokens when it has steps enough.
* `Formula.isAtom_tokens`: the tokens of a formula are an atom with the tree of the formula.
* `Formula.parse?_spell`: the tree of a formula in words.
-/

namespace ChatFlow

namespace Token

/-- Does an operand of a formula begin with the token? -/
def opens : Token → Bool
  | word w => !ExprReader.keywords.contains w || (["True", "False", "None"].map Text.ofString).contains w
  | number _ => true
  | text _ => true
  | sign s => s == .leftParen
  | _ => false

/-- Does a formula begin with the token inside of its parentheses? -/
def begins (t : Token) : Bool := t.opens || [word "not", sign .plus, sign .minus].contains t

end Token

namespace ExprReader

variable {α β : Type} {ts ts' ts'' rest toks r : List Token} {fuel n m k l : Nat} {e e' right : Expr}

/-! ## Steps of readers -/

theorem bind_run {p : Reader α} {a : α} (next : α → Reader β) (h : p ts = some (a, ts')) :
    (p >>= next) ts = next a ts' := by
  change (p ts).bind (fun x => next x.1 x.2) = _
  rw [h]
  rfl

theorem bind_skip {p : Reader Bool} {x y : Reader α} (h : p ts = some (false, ts')) :
    (p >>= fun b => if b = true then x else y) ts = y ts' := bind_run _ h

theorem bind_take {p : Reader Bool} {x y : Reader α} (h : p ts = some (true, ts')) :
    (p >>= fun b => if b = true then x else y) ts = x ts' := bind_run _ h

theorem takeIf_skip {t : Token} (h : ts.head? ≠ some t) : takeIf t ts = some (false, ts) := by
  cases ts with
  | nil => rfl
  | cons u r => exact if_neg fun hu => h (congrArg some hu)

theorem takeIf_take {t : Token} : takeIf t (t :: ts) = some (true, ts) := if_pos rfl

theorem sign?_skip {s : Sign} (h : ts.head? ≠ some (.sign s)) : sign? s ts = some (false, ts) := takeIf_skip h

theorem keyword?_skip {w : Text} (h : ts.head? ≠ some (.word w)) : keyword? w ts = some (false, ts) := takeIf_skip h

theorem at?_skip {t : Token} (h : ts.head? ≠ some t) : at? t ts = some (false, ts) := by
  rw [at?, beq_eq_false_iff_ne.mpr h]

theorem sign_take {s : Sign} : sign s (.sign s :: ts) = some ((), ts) := by
  rw [sign, bind_take (p := sign? s) takeIf_take]
  rfl

/-- From `n` steps on, a reader reads the first tokens as `a` and leaves the second ones. -/
def Reads (p : Nat → Reader α) (n : Nat) (ts : List Token) (a : α) (ts' : List Token) : Prop :=
  ∀ fuel, n ≤ fuel → p fuel ts = some (a, ts')

theorem Reads.mono {p : Nat → Reader α} {a : α} (h : Reads p n ts a ts') (hn : n ≤ m) : Reads p m ts a ts' :=
  fun fuel hfuel => h fuel (Nat.le_trans hn hfuel)

/-- A reader takes a step and goes on with one step less. -/
theorem Reads.step {p : Nat → Reader α} {a : α} (h : ∀ fuel, n ≤ fuel → p (fuel + 1) ts = some (a, ts')) :
    Reads p (n + 1) ts a ts' := by
  rintro (_ | fuel) hfuel
  · exact absurd hfuel (by omega)
  · exact h fuel (Nat.le_of_succ_le_succ hfuel)

/-! ## Where an operand begins and what stands behind it -/

/-- The signs and words that may stand behind a sum. -/
def sumEnds : List (Option Token) :=
  none :: (([.rightParen, .eq, .ne, .lt, .le, .gt, .ge].map Token.sign) ++
    ["and", "or", "in", "not"].map fun w => Token.word (Text.ofString w)).map some

/-- The signs and words that may stand behind an operand. -/
def follows : List (Option Token) :=
  sumEnds ++ ([.plus, .minus, .star, .slash, .doubleSlash, .percent].map Token.sign).map some

theorem head?_ne_of_any {p : Token → Bool} {t : Token} (h : ts.head?.any p = true) (ht : p t = false) :
    ts.head? ≠ some t := by
  intro heq
  rw [heq, Option.any_some, ht] at h
  cases h

theorem head?_ne_of_mem {u : Option Token} {us : List (Option Token)} (h : ts.head? ∈ us) (hu : u ∉ us) :
    ts.head? ≠ u :=
  fun heq => hu (heq ▸ h)

theorem any_head?_append {p : Token → Bool} (h : toks.head?.any p = true) (ts : List Token) :
    (toks ++ ts).head?.any p = true := by
  cases toks with
  | nil => cases h
  | cons t r => exact h

theorem begins_of_opens (h : ts.head?.any Token.opens = true) : ts.head?.any Token.begins = true := by
  cases ts with
  | nil => cases h
  | cons t r =>
      rw [List.head?_cons, Option.any_some] at h ⊢
      rw [Token.begins, h, Bool.true_or]

theorem mem_follows (h : ts.head? ∈ sumEnds) : ts.head? ∈ follows := List.mem_append_left _ h

/-! ## Literals and names -/

/-- The tokens are read as an atom in front of everything that may stand behind an operand. -/
structure IsAtom (n : Nat) (toks : List Token) (e : Expr) : Prop where
  opens : toks.head?.any Token.opens = true
  /-- No assignment is among them. -/
  plain : .sign .walrus ∉ toks
  reads : ∀ ts, ts.head? ∈ follows → Reads atom n (toks ++ ts) e ts

theorem peek_cons (t : Token) : peek (t :: ts) = some (some t, t :: ts) := rfl

theorem keyword_take {w : Text} : keyword w (.word w :: ts) = some ((), ts) := by
  rw [keyword, bind_take (p := keyword? w) takeIf_take]
  rfl

theorem name_take {w : Text} (hw : keywords.contains w = false) : name (.word w :: ts) = some (w, ts) := by
  rw [name, hw]
  rfl

/-- A word that an operand begins with is a name, unless it stands for a value. -/
theorem not_keyword {w : Text} (hw : Token.opens (.word w) = true) (hnone : w ≠ "None") (htrue : w ≠ "True")
    (hfalse : w ≠ "False") : keywords.contains w = false := by
  have hvalue : (["True", "False", "None"].map Text.ofString).contains w = false := by
    simp [hnone, htrue, hfalse]
  rw [Token.opens, hvalue, Bool.or_false, Bool.not_eq_true'] at hw
  exact hw

theorem isAtom_name {w : Text} (hw : Token.opens (.word w) = true) :
    IsAtom 1 [.word w] (if w = "None" then .literal .null else if w = "True" then .literal (.bool true)
      else if w = "False" then .literal (.bool false) else .name w.compatibilityForm) where
  opens := hw
  plain := by simp
  reads ts _ := Reads.step fun fuel _ => by
    rw [atom, List.singleton_append, bind_run _ (peek_cons _)]
    dsimp only
    split
    case isTrue => exact bind_run _ keyword_take
    case isFalse hnone =>
      split
      case isTrue => exact bind_run _ keyword_take
      case isFalse htrue =>
        split
        case isTrue => exact bind_run _ keyword_take
        case isFalse hfalse => exact bind_run _ (name_take (not_keyword hw hnone htrue hfalse))

theorem isAtom_number (v : Value) : IsAtom 1 [.number v] (.literal v) where
  opens := rfl
  plain := by simp
  reads ts _ := Reads.step fun fuel _ => by
    rw [atom, List.singleton_append, bind_run _ (peek_cons _)]
    exact bind_run _ takeIf_take

/-- A string literal without another one behind it is over. -/
theorem strings_end (t : Text) (hts : ts.head? ∈ follows) :
    strings (some (false, false)) t (fuel + 1) ts = some (.literal (.text t), ts) := by
  cases ts with
  | nil => rfl
  | cons u r =>
      cases u with
      | text t => simp [follows, sumEnds] at hts
      | bytes => simp [follows, sumEnds] at hts
      | formatted raw body => simp [follows, sumEnds] at hts
      | _ => rfl

theorem isAtom_text (t : Text) : IsAtom 3 [.text t] (.literal (.text t)) where
  opens := rfl
  plain := by simp
  reads ts hts := Reads.step fun fuel hfuel => by
    obtain ⟨m, rfl⟩ : ∃ m, fuel = m + 1 + 1 := ⟨fuel - 2, by omega⟩
    rw [atom, List.singleton_append, bind_run _ (peek_cons _)]
    change strings none [] (m + 1 + 1) (.text t :: ts) = _
    rw [strings, bind_run _ (peek_cons _)]
    exact (bind_run _ takeIf_take).trans (strings_end t hts)

/-! ## Signs and powers -/

theorem reads_primary (h : Reads atom n ts e ts') (hts' : ts'.head? ∈ follows) (hn : 0 < n) :
    Reads primary (n + 1) ts e ts' :=
  Reads.step fun fuel hfuel => by
    obtain ⟨m, rfl⟩ : ∃ m, fuel = m + 1 := ⟨fuel - 1, by omega⟩
    rw [primary, bind_run _ (h _ hfuel), trailers,
      bind_skip (sign?_skip (head?_ne_of_mem hts' (by decide))),
      bind_skip (sign?_skip (head?_ne_of_mem hts' (by decide))),
      bind_skip (sign?_skip (head?_ne_of_mem hts' (by decide)))]
    rfl

theorem reads_factor (h : Reads primary n ts e ts') (hts : ts.head?.any Token.opens = true)
    (hts' : ts'.head? ∈ follows) :
    Reads factor (n + 1) ts e ts' :=
  Reads.step fun fuel hfuel => by
    rw [factor, bind_skip (sign?_skip (head?_ne_of_any hts (by decide))),
      bind_skip (sign?_skip (head?_ne_of_any hts (by decide))),
      bind_skip (sign?_skip (head?_ne_of_any hts (by decide))),
      bind_skip (keyword?_skip (head?_ne_of_any hts (by decide))), bind_run _ (h fuel hfuel)]
    exact bind_skip (sign?_skip (head?_ne_of_mem hts' (by decide)))

theorem reads_signed (negative : Bool) (h : Reads factor n ts e ts') :
    Reads factor (n + 1) (.sign (if negative then .minus else .plus) :: ts)
      (.unary (if negative then .negate else .plus) e) ts' :=
  Reads.step fun fuel hfuel => by
    cases negative with
    | false =>
        rw [factor]
        exact (bind_take takeIf_take).trans (bind_run _ (h fuel hfuel))
    | true =>
        rw [factor, bind_skip (sign?_skip (by simp))]
        exact (bind_take takeIf_take).trans (bind_run _ (h fuel hfuel))

/-! ## Arithmetic -/

/-- The level of an operator. -/
def level : Arithmetic → Nat
  | .add => 4
  | .sub => 4
  | _ => 5

theorem binaryOp?_sumEnds (h : ts.head? ∈ sumEnds) (k : Nat) : binaryOp? k ts = some (none, ts) := by
  cases ts with
  | nil => rfl
  | cons t r =>
      cases t with
      | sign s =>
          have hs : s ∈ [Sign.rightParen, .eq, .ne, .lt, .le, .gt, .ge] := by simpa [sumEnds] using h
          have hnone : (binaryOps.getD k []).lookup s = none := by
            rcases Nat.lt_or_ge k binaryOps.length with hk | hk
            · exact (by decide : ∀ k < binaryOps.length, ∀ s ∈ [Sign.rightParen, .eq, .ne, .lt, .le, .gt, .ge],
                (binaryOps.getD k []).lookup s = none) k hk s hs
            · rw [List.getD_eq_getElem?_getD, List.getElem?_eq_none hk]
              rfl
          rw [binaryOp?, hnone]
      | _ => rfl

theorem binaryOp?_take (op : Arithmetic) : binaryOp? (level op) (.sign op.sign :: ts) = some (some op.op, ts) := by
  cases op <;> rfl

/-- The levels above that of an operator leave it. -/
theorem binaryOp?_above (op : Arithmetic) (hk : level op < k) (hlast : k < binaryOps.length) :
    binaryOp? k (.sign op.sign :: ts) = some (none, .sign op.sign :: ts) := by
  have hnone : (binaryOps.getD k []).lookup op.sign = none := by
    have hall : ∀ k < binaryOps.length, level op < k → (binaryOps.getD k []).lookup op.sign = none := by
      cases op <;> decide
    exact hall k hlast hk
  rw [binaryOp?, hnone]

theorem reads_binaryTop (h : Reads factor n ts e ts') : Reads (binary binaryOps.length) (n + 1) ts e ts' :=
  Reads.step fun fuel hfuel => by
    rw [binary, if_pos (Nat.le_refl _), h fuel hfuel]

theorem reads_binaryRest_skip (e : Expr) (h : binaryOp? k ts = some (none, ts)) : Reads (binaryRest k e) 1 ts e ts :=
  Reads.step fun fuel _ => by
    rw [binaryRest, bind_run _ h]
    rfl

theorem reads_binaryRest_take {op : BinaryOp} (hop : binaryOp? k ts = some (some op, ts'))
    (hright : Reads (binary (k + 1)) n ts' right ts'')
    (hrest : Reads (binaryRest k (.binary op e right)) n ts'' e' rest) : Reads (binaryRest k e) (n + 1) ts e' rest :=
  Reads.step fun fuel hfuel => by
    rw [binaryRest, bind_run _ hop]
    exact (bind_run _ (hright fuel hfuel)).trans (hrest fuel hfuel)

/-- What a level of arithmetic reads and what its operators add. -/
theorem reads_binary (hk : k < binaryOps.length) (hfirst : Reads (binary (k + 1)) n ts e ts')
    (hrest : Reads (binaryRest k e) n ts' e' ts'') : Reads (binary k) (n + 1) ts e' ts'' :=
  Reads.step fun fuel hfuel => by
    rw [binary, if_neg (Nat.not_le.mpr hk), bind_run _ (hfirst fuel hfuel), hrest fuel hfuel]

/-- Levels without an operator of their own pass on what the next ones read. -/
theorem reads_binaryLower (d : Nat) (hl : k + d ≤ binaryOps.length) (hread : Reads (binary (k + d)) n ts e ts')
    (hnone : ∀ j, k ≤ j → j < k + d → binaryOp? j ts' = some (none, ts')) (hn : 0 < n) :
    Reads (binary k) (n + d) ts e ts' := by
  induction d generalizing k with
  | zero => exact hread
  | succ d ih =>
      have hnext : Reads (binary (k + 1)) (n + d) ts e ts' :=
        ih (by omega) (by rwa [Nat.add_assoc, Nat.add_comm 1 d]) fun j hj hjl => hnone j (by omega) (by omega)
      have hskip : Reads (binaryRest k e) (n + d) ts' e ts' :=
        (reads_binaryRest_skip e (hnone k (Nat.le_refl k) (by omega))).mono (by omega)
      exact reads_binary (by omega) hnext hskip

/-- An atom is an operand of every level that the sign behind it does not belong to. -/
theorem IsAtom.binary (h : IsAtom n toks e) (hn : 0 < n) (hr : r.head? ∈ follows) (hk : k ≤ binaryOps.length)
    (hnone : ∀ j, k ≤ j → j < binaryOps.length → binaryOp? j r = some (none, r)) :
    Reads (binary k) (n + 9) (toks ++ r) e r := by
  have hfactor := reads_factor (reads_primary (h.reads r hr) hr hn) (any_head?_append h.opens r) hr
  have hlower := reads_binaryLower (k := k) (binaryOps.length - k) (by omega)
    (by rw [Nat.add_sub_cancel' hk]; exact reads_binaryTop hfactor)
    (fun j hj hjl => hnone j hj (by omega)) (by omega)
  have hlevels : binaryOps.length = 6 := rfl
  exact hlower.mono (by omega)

/-- An operator of arithmetic between two atoms. -/
theorem reads_arithmetic (op : Arithmetic) {toks' : List Token} (ha : IsAtom n toks e) (hb : IsAtom m toks' e')
    (hn : 0 < n) (hm : 0 < m) (hr : r.head? ∈ sumEnds) :
    Reads (binary 0) (n + m + 20) (toks ++ .sign op.sign :: (toks' ++ r)) (.binary op.op e e') r := by
  -- the operator is read at its own level: those above leave it to it, and those below find nothing behind the sum
  have hlevel : level op < binaryOps.length := by cases op <;> decide
  have hsign : some (Token.sign op.sign) ∈ follows := by cases op <;> decide
  have hleft := ha.binary (k := level op + 1) (r := .sign op.sign :: (toks' ++ r)) hn hsign hlevel fun k hk hlast =>
    binaryOp?_above op hk hlast
  have hright := hb.binary (k := level op + 1) hm (mem_follows hr) hlevel fun k _ _ => binaryOp?_sumEnds hr k
  have hrest := reads_binaryRest_take (binaryOp?_take op) (hright.mono (m := m + 10) (by omega))
    ((reads_binaryRest_skip (.binary op.op e e') (binaryOp?_sumEnds hr _)).mono (by omega))
  have hwhole := reads_binary hlevel (hleft.mono (m := n + m + 11) (by omega)) (hrest.mono (by omega))
  have hlower := reads_binaryLower (k := 0) (level op) (by omega) (by rwa [Nat.zero_add])
    (fun j _ _ => binaryOp?_sumEnds hr j) (by omega)
  have hlevels : binaryOps.length = 6 := rfl
  exact hlower.mono (by omega)

/-! ## Comparisons and truth values -/

/-- The sign and the words that may stand behind a comparison. -/
def ends : List (Option Token) := [none, some (.sign .rightParen), some (.word "and"), some (.word "or")]

theorem mem_sumEnds (h : ts.head? ∈ ends) : ts.head? ∈ sumEnds :=
  (by decide : ∀ t ∈ ends, t ∈ sumEnds) _ h

theorem rightParen_mem_ends (r : List Token) : (Token.sign .rightParen :: r).head? ∈ ends :=
  List.mem_cons_of_mem _ List.mem_cons_self

theorem rightParen_mem_sumEnds (r : List Token) : (Token.sign .rightParen :: r).head? ∈ sumEnds :=
  mem_sumEnds (rightParen_mem_ends r)

theorem reads_comparisons_end (hts : ts.head? ∈ ends) : Reads comparisons 1 ts [] ts :=
  Reads.step fun fuel _ => by
    have hnone : compareOp? ts = some (none, ts) := by
      cases ts with
      | nil => rfl
      | cons t r =>
          have ht : t ∈ [Token.sign .rightParen, .word "and", .word "or"] := by simpa [ends] using hts
          simp only [List.mem_cons, List.not_mem_nil, or_false] at ht
          rcases ht with rfl | rfl | rfl <;> rfl
    rw [comparisons, bind_run _ hnone]
    rfl

theorem compareOp?_take (op : Comparison) : compareOp? (op.tokens ++ ts) = some (some op.op, ts) := by
  cases op <;> rfl

theorem reads_comparisons_cons {links : List (CompareOp × Expr)} (op : Comparison) (hread : Reads (binary 0) n ts e ts')
    (hrest : Reads comparisons n ts' links ts'') :
    Reads comparisons (n + 1) (op.tokens ++ ts) ((op.op, e) :: links) ts'' :=
  Reads.step fun fuel hfuel => by
    rw [comparisons, bind_run _ (compareOp?_take op)]
    exact (bind_run _ (hread fuel hfuel)).trans (bind_run _ (hrest fuel hfuel))

theorem reads_inversion {links : List (CompareOp × Expr)} (hts : ts.head? ≠ some (.word "not"))
    (hread : Reads (binary 0) n ts e ts') (hlinks : Reads comparisons n ts' links ts'') :
    Reads inversion (n + 1) ts (Formula.chainTree e links) ts'' :=
  Reads.step fun fuel hfuel => by
    rw [inversion, bind_skip (keyword?_skip hts), bind_run _ (hread fuel hfuel), bind_run _ (hlinks fuel hfuel)]
    cases links <;> rfl

theorem reads_not (h : Reads inversion n ts e ts') : Reads inversion (n + 1) (.word "not" :: ts) (.unary .not e) ts' :=
  Reads.step fun fuel hfuel => by
    rw [inversion]
    exact (bind_take takeIf_take).trans (bind_run _ (h fuel hfuel))

/-- The reader of an operand of a junction. -/
def operand : Junction → Nat → Reader Expr
  | .all => inversion
  | .any => conjunction

/-- Does the junction bind more strongly? -/
def isInner : Junction → Bool
  | .all => true
  | .any => false

theorem reads_operands_end (j : Junction) (hts : ts.head? ≠ some (.word j.word)) :
    Reads (operands j.word (isInner j)) 1 ts [] ts :=
  Reads.step fun fuel _ => by
    rw [operands, bind_skip (keyword?_skip hts)]
    rfl

theorem reads_operands_cons {es : List Expr} (j : Junction) (hread : Reads (operand j) n ts e ts')
    (hrest : Reads (operands j.word (isInner j)) n ts' es ts'') :
    Reads (operands j.word (isInner j)) (n + 1) (.word j.word :: ts) (e :: es) ts'' :=
  Reads.step fun fuel hfuel => by
    rw [operands]
    cases j <;>
      exact (bind_take takeIf_take).trans ((bind_run _ (hread fuel hfuel)).trans (bind_run _ (hrest fuel hfuel)))

theorem reads_conjunction {es : List Expr} (hread : Reads inversion n ts e ts')
    (hmore : Reads (operands "and" true) n ts' es ts'') : Reads conjunction (n + 1) ts (Junction.all.tree e es) ts'' :=
  Reads.step fun fuel hfuel => by
    rw [conjunction, bind_run _ (hread fuel hfuel), bind_run _ (hmore fuel hfuel)]
    cases es <;> rfl

theorem reads_disjunction {es : List Expr} (hread : Reads conjunction n ts e ts')
    (hmore : Reads (operands "or" false) n ts' es ts'') : Reads disjunction (n + 1) ts (Junction.any.tree e es) ts'' :=
  Reads.step fun fuel hfuel => by
    rw [disjunction, bind_run _ (hread fuel hfuel), bind_run _ (hmore fuel hfuel)]
    cases es <;> rfl

/-! ## Parentheses -/

theorem reads_expression (hts : ts.head?.any Token.begins = true) (hread : Reads disjunction n ts e ts')
    (hts' : ts'.head? ≠ some (.word "if")) : Reads expression (n + 1) ts e ts' :=
  Reads.step fun fuel hfuel => by
    rw [expression, bind_skip (keyword?_skip (head?_ne_of_any hts (by decide))), bind_run _ (hread fuel hfuel),
      bind_skip (keyword?_skip hts')]
    rfl

theorem reads_namedExpression (hts : ∀ w r, ts ≠ .word w :: .sign .walrus :: r) (hread : Reads expression n ts e ts') :
    Reads namedExpression (n + 1) ts e ts' :=
  Reads.step fun fuel hfuel => by
    rw [namedExpression, bind_run (p := mark) _ rfl]
    split
    case h_1 w r => exact absurd rfl (hts w r)
    case h_2 => exact hread fuel hfuel

/-- Tokens in front of a closing parenthesis are no assignment if none is among them. -/
theorem ne_assignment (hbegins : toks.head?.any Token.begins = true) (hplain : .sign .walrus ∉ toks) (w : Text)
    (r r' : List Token) : toks ++ .sign .rightParen :: r ≠ .word w :: .sign .walrus :: r' := by
  rcases toks with _ | ⟨t, _ | ⟨u, toks⟩⟩
  · cases hbegins
  · simp
  · grind

/-- What is read in front of a closing parenthesis is an atom with its parentheses. -/
theorem isAtom_parenthesized (hbegins : toks.head?.any Token.begins = true) (hplain : .sign .walrus ∉ toks)
    (hread : ∀ r, Reads disjunction n (toks ++ .sign .rightParen :: r) e (.sign .rightParen :: r)) :
    IsAtom (n + 4) (.sign .leftParen :: (toks ++ [.sign .rightParen])) e where
  opens := rfl
  plain := by simp [hplain]
  reads ts _ := by
    have hhead : (toks ++ .sign .rightParen :: ts).head?.any Token.begins = true := any_head?_append hbegins _
    have hnamed := reads_namedExpression (ne_assignment hbegins hplain · ts ·)
      (reads_expression hhead (hread ts) (by simp))
    -- what begins a formula is no end, no `yield` and no star, so neither a tuple nor a generator stands here
    have hinside : Reads parenthesized (n + 3) (toks ++ .sign .rightParen :: ts) e ts := Reads.step fun fuel hfuel => by
      rw [parenthesized, bind_skip (sign?_skip (head?_ne_of_any hhead (by decide))),
        bind_skip (keyword?_skip (head?_ne_of_any hhead (by decide))),
        bind_skip (at?_skip (head?_ne_of_any hhead (by decide))), bind_run _ (hnamed fuel hfuel)]
      exact bind_take takeIf_take
    refine Reads.step fun fuel hfuel => ?_
    rw [List.cons_append, List.append_assoc, atom, bind_run _ (peek_cons _)]
    exact (bind_run _ sign_take).trans (hinside fuel hfuel)

/-! ## Operands in front of an end -/

theorem IsAtom.inversion (h : IsAtom n toks e) (hn : 0 < n) (hr : r.head? ∈ ends) :
    Reads inversion (n + 10) (toks ++ r) e r :=
  reads_inversion (head?_ne_of_any (any_head?_append h.opens r) (by decide))
    (h.binary hn (mem_follows (mem_sumEnds hr)) (by decide) fun k _ _ => binaryOp?_sumEnds (mem_sumEnds hr) k)
    ((reads_comparisons_end hr).mono (by omega))

/-- An atom is an operand of a junction in front of the next one. -/
theorem IsAtom.operand (j : Junction) (h : IsAtom n toks e) (hn : 0 < n)
    (hr : r.head? = some (.word j.word) ∨ r.head? = some (.sign .rightParen)) :
    Reads (operand j) (n + 11) (toks ++ r) e r := by
  cases j with
  | all => exact (h.inversion hn (by rcases hr with hr | hr <;> rw [hr] <;> decide)).mono (by omega)
  | any =>
      exact reads_conjunction (h.inversion hn (by rcases hr with hr | hr <;> rw [hr] <;> decide))
        ((reads_operands_end .all (by rcases hr with hr | hr <;> rw [hr] <;> decide)).mono (by omega))

/-- A negation, a sum or a chain of comparisons is a disjunction where no junction goes on. -/
theorem reads_disjunction_of_inversion (h : Reads inversion n ts e ts') (hn : 0 < n)
    (hand : ts'.head? ≠ some (.word "and")) (hor : ts'.head? ≠ some (.word "or")) :
    Reads disjunction (n + 2) ts e ts' :=
  reads_disjunction (reads_conjunction h ((reads_operands_end .all hand).mono hn))
    ((reads_operands_end .any hor).mono (by omega))

/-- A junction can stand in parentheses. -/
theorem reads_disjunction_of_operands {es : List Expr} (j : Junction) (h : Reads (operand j) n ts e ts')
    (hmore : Reads (operands j.word (isInner j)) n ts' es (.sign .rightParen :: rest)) (hn : 0 < n) :
    Reads disjunction (n + 2) ts (j.tree e es) (.sign .rightParen :: rest) := by
  cases j with
  | all => exact reads_disjunction (reads_conjunction h hmore) ((reads_operands_end .any (by simp)).mono (by omega))
  | any => exact (reads_disjunction h hmore).mono (by omega)

/-! ## Compounds -/

theorem IsAtom.mono (h : IsAtom n toks e) (hn : n ≤ m) : IsAtom m toks e :=
  ⟨h.opens, h.plain, fun ts hts => (h.reads ts hts).mono hn⟩

theorem IsAtom.not (h : IsAtom n toks e) (hn : 0 < n) :
    IsAtom (n + 17) (.sign .leftParen :: (.word "not" :: toks ++ [.sign .rightParen])) (.unary .not e) :=
  isAtom_parenthesized (by decide : Token.begins (.word "not") = true) (by simp [h.plain]) fun r =>
    reads_disjunction_of_inversion (reads_not (h.inversion hn (rightParen_mem_ends r))) (by omega) (by simp) (by simp)

theorem IsAtom.signed (negative : Bool) (h : IsAtom n toks e) (hn : 0 < n) :
    IsAtom (n + 17) (.sign .leftParen :: (.sign (if negative then .minus else .plus) :: toks ++ [.sign .rightParen]))
      (.unary (if negative then .negate else .plus) e) := by
  have hbegins : Token.begins (.sign (if negative then .minus else .plus)) = true := by cases negative <;> decide
  refine isAtom_parenthesized hbegins (by cases negative <;> simp [h.plain]) fun r => ?_
  have hend := rightParen_mem_sumEnds r
  have hfactor := reads_signed negative
    (reads_factor (reads_primary (h.reads _ (mem_follows hend)) (mem_follows hend) hn) (any_head?_append h.opens _)
      (mem_follows hend))
  have hsum := reads_binaryLower (k := 0) binaryOps.length (by omega)
    (by rw [Nat.zero_add]; exact reads_binaryTop hfactor)
    (fun k _ _ => binaryOp?_sumEnds hend k) (by omega)
  have hinversion := reads_inversion (by cases negative <;> simp) hsum
    ((reads_comparisons_end (rightParen_mem_ends _)).mono (by omega))
  exact reads_disjunction_of_inversion hinversion (by omega) (by simp) (by simp)

theorem IsAtom.arithmetic (op : Arithmetic) {toks' : List Token} (ha : IsAtom n toks e) (hb : IsAtom m toks' e')
    (hn : 0 < n) (hm : 0 < m) :
    IsAtom (n + m + 27) (.sign .leftParen :: (toks ++ .sign op.sign :: toks' ++ [.sign .rightParen]))
      (.binary op.op e e') := by
  have hplain : Token.sign .walrus ∉ toks ++ .sign op.sign :: toks' := by
    cases op <;> simp [ha.plain, hb.plain, Arithmetic.sign]
  refine isAtom_parenthesized (any_head?_append (begins_of_opens ha.opens) _) hplain fun r => ?_
  have hsum := reads_arithmetic op ha hb hn hm (rightParen_mem_sumEnds r)
  have hinversion := reads_inversion (head?_ne_of_any (any_head?_append ha.opens _) (by decide)) hsum
    ((reads_comparisons_end (rightParen_mem_ends _)).mono (by omega))
  rw [List.append_assoc, List.cons_append]
  exact reads_disjunction_of_inversion hinversion (by omega) (by simp) (by simp)

/-- What is read up to a closing parenthesis: further operands, or comparisons. -/
structure IsTail (p : Nat → Reader α) (heads : List Token) (n : Nat) (toks : List Token) (a : α) : Prop where
  head : ∀ r, ∃ t ∈ heads, (toks ++ Token.sign .rightParen :: r).head? = some t
  plain : .sign .walrus ∉ toks
  reads : ∀ r, Reads p n (toks ++ .sign .rightParen :: r) a (.sign .rightParen :: r)

theorem IsTail.mono {p : Nat → Reader α} {heads : List Token} {a : α} (h : IsTail p heads n toks a) (hn : n ≤ m) :
    IsTail p heads m toks a :=
  ⟨h.head, h.plain, fun r => (h.reads r).mono hn⟩

/-- Further operands of a junction. -/
def IsMore (j : Junction) (n : Nat) (toks : List Token) (es : List Expr) : Prop :=
  IsTail (operands j.word (isInner j)) [.word j.word, .sign .rightParen] n toks es

theorem isMore_nil (j : Junction) : IsMore j 1 [] [] where
  head _ := ⟨.sign .rightParen, by simp, rfl⟩
  plain := by simp
  reads _ := reads_operands_end j (by simp)

theorem IsAtom.more (j : Junction) {toks' : List Token} {es : List Expr} (h : IsAtom n toks e) (hn : 0 < n)
    (hmore : IsMore j m toks' es) : IsMore j (n + m + 12) (.word j.word :: (toks ++ toks')) (e :: es) where
  head _ := ⟨.word j.word, by simp, rfl⟩
  plain := by simp [h.plain, hmore.plain]
  reads r := by
    have hnext := h.operand j hn (r := toks' ++ .sign .rightParen :: r) (by simpa using hmore.head r)
    rw [List.cons_append, List.append_assoc]
    exact reads_operands_cons j (hnext.mono (by omega)) ((hmore.reads r).mono (by omega))

theorem IsAtom.junction (j : Junction) {toks' : List Token} {es : List Expr} (h : IsAtom n toks e) (hn : 0 < n)
    (hmore : IsMore j m toks' es) :
    IsAtom (n + m + 17) (.sign .leftParen :: (toks ++ toks' ++ [.sign .rightParen])) (j.tree e es) := by
  refine isAtom_parenthesized (any_head?_append (begins_of_opens h.opens) _) (by simp [h.plain, hmore.plain])
    fun r => ?_
  have hfirst := h.operand j hn (r := toks' ++ .sign .rightParen :: r) (by simpa using hmore.head r)
  rw [List.append_assoc]
  exact reads_disjunction_of_operands j (hfirst.mono (m := n + m + 11) (by omega)) ((hmore.reads r).mono (by omega))
    (by omega)

/-- Comparisons with an operand. -/
def IsLinks (n : Nat) (toks : List Token) (links : List (CompareOp × Expr)) : Prop :=
  IsTail comparisons ([.rightParen, .eq, .ne, .lt, .le, .gt, .ge].map .sign ++ [.word "in", .word "not"]) n toks links

theorem IsLinks.mem_sumEnds {links : List (CompareOp × Expr)} (h : IsLinks n toks links) (r : List Token) :
    (toks ++ .sign .rightParen :: r).head? ∈ sumEnds := by
  obtain ⟨t, ht, hhead⟩ := h.head r
  rw [hhead]
  exact (by decide : ∀ t ∈ [Sign.rightParen, .eq, .ne, .lt, .le, .gt, .ge].map Token.sign ++ [.word "in", .word "not"],
    some t ∈ sumEnds) t ht

theorem isLinks_nil : IsLinks 1 [] [] where
  head _ := ⟨.sign .rightParen, by simp, rfl⟩
  plain := by simp
  reads _ := reads_comparisons_end (rightParen_mem_ends _)

theorem IsAtom.links (op : Comparison) {toks' : List Token} {links : List (CompareOp × Expr)} (h : IsAtom n toks e)
    (hn : 0 < n) (hlinks : IsLinks m toks' links) :
    IsLinks (n + m + 10) (op.tokens ++ (toks ++ toks')) ((op.op, e) :: links) where
  head _ := by cases op <;> exact ⟨_, by simp, rfl⟩
  plain := by cases op <;> simp [Comparison.tokens, h.plain, hlinks.plain]
  reads r := by
    have hend := hlinks.mem_sumEnds r
    have hoperand := h.binary (k := 0) hn (mem_follows hend) (by decide) fun k _ _ => binaryOp?_sumEnds hend k
    rw [List.append_assoc, List.append_assoc]
    exact reads_comparisons_cons op (hoperand.mono (by omega)) ((hlinks.reads r).mono (by omega))

theorem IsAtom.chain {toks' : List Token} {links : List (CompareOp × Expr)} (h : IsAtom n toks e) (hn : 0 < n)
    (hlinks : IsLinks m toks' links) :
    IsAtom (n + m + 16) (.sign .leftParen :: (toks ++ toks' ++ [.sign .rightParen])) (Formula.chainTree e links) := by
  refine isAtom_parenthesized (any_head?_append (begins_of_opens h.opens) _) (by simp [h.plain, hlinks.plain])
    fun r => ?_
  have hend := hlinks.mem_sumEnds r
  have hoperand := h.binary (k := 0) hn (mem_follows hend) (by decide) fun k _ _ => binaryOp?_sumEnds hend k
  have hinversion := reads_inversion (head?_ne_of_any (any_head?_append h.opens _) (by decide))
    (hoperand.mono (m := n + m + 9) (by omega)) ((hlinks.reads r).mono (by omega))
  rw [List.append_assoc]
  exact reads_disjunction_of_inversion hinversion (by omega) (by simp) (by simp)

end ExprReader

namespace Formula

open ExprReader

/-! ## The tokens of a formula -/

theorem joined_eq_some {a b : Option (List Token)} {toks : List Token} (h : joined a b = some toks) :
    ∃ x y, a = some x ∧ b = some y ∧ toks = x ++ y := by
  cases a with
  | none => cases h
  | some x =>
      cases b with
      | none => cases h
      | some y => exact ⟨x, y, rfl, rfl, (Option.some.inj h).symm⟩

theorem bracketed_eq_some {depth : Nat} {inner : Option (List Token)} {toks : List Token}
    (h : bracketed depth inner = some toks) :
    ∃ x, inner = some x ∧ toks = .sign .leftParen :: (x ++ [.sign .rightParen]) := by
  rw [bracketed] at h
  split at h
  case isTrue => cases h
  case isFalse =>
    obtain ⟨_, _, ⟨⟩, hinner, rfl⟩ := joined_eq_some h
    obtain ⟨x, _, hx, ⟨⟩, rfl⟩ := joined_eq_some hinner
    exact ⟨x, hx, rfl⟩

theorem size_pos (f : Formula) : 0 < f.size := by
  cases f <;> rw [size] <;> omega

theorem opens_name (n : Name) : Token.opens (.word n.text) = true := by
  rw [Token.opens, Bool.or_eq_true, Bool.not_eq_true', List.contains_iff_mem]
  rcases hkeyword : keywords.contains n.text with _ | _
  · exact Or.inl rfl
  · exact Or.inr (n.isFree (List.contains_iff_mem.mp hkeyword))

mutual

/-- The tokens of a formula are an atom with the tree of the formula. -/
theorem isAtom_tokens {depth : Nat} {toks : List Token} : (f : Formula) → f.tokens? depth = some toks →
    IsAtom (16 * f.size) toks f.tree
  | name n, h => by
      cases h
      exact (isAtom_name (opens_name n)).mono (by rw [size]; decide)
  | number n, h => by
      obtain ⟨v, hv, rfl⟩ := Option.map_eq_some_iff.mp h
      rw [tree, hv]
      exact (isAtom_number v).mono (by rw [size]; decide)
  | quoted q, h => by
      obtain ⟨t, ht, rfl⟩ := Option.map_eq_some_iff.mp h
      rw [tree, ht]
      exact (isAtom_text t).mono (by rw [size]; decide)
  | not f, h => by
      obtain ⟨inner, hinner, rfl⟩ := bracketed_eq_some h
      obtain ⟨_, toks, ⟨⟩, htoks, rfl⟩ := joined_eq_some hinner
      exact ((isAtom_tokens f htoks).not (by have := f.size_pos; omega)).mono (by rw [size]; omega)
  | signed negative f, h => by
      obtain ⟨inner, hinner, rfl⟩ := bracketed_eq_some h
      obtain ⟨_, toks, ⟨⟩, htoks, rfl⟩ := joined_eq_some hinner
      exact ((isAtom_tokens f htoks).signed negative (by have := f.size_pos; omega)).mono (by rw [size]; omega)
  | binary op a b, h => by
      obtain ⟨inner, hinner, rfl⟩ := bracketed_eq_some h
      obtain ⟨left, _, hleft, hmiddle, rfl⟩ := joined_eq_some hinner
      obtain ⟨_, right, ⟨⟩, hright, rfl⟩ := joined_eq_some hmiddle
      exact ((isAtom_tokens a hleft).arithmetic op (isAtom_tokens b hright) (by have := a.size_pos; omega)
        (by have := b.size_pos; omega)).mono (by rw [size]; omega)
  | junction j f fs, h => by
      obtain ⟨inner, hinner, rfl⟩ := bracketed_eq_some h
      obtain ⟨first, more, hfirst, hmore, rfl⟩ := joined_eq_some hinner
      exact ((isAtom_tokens f hfirst).junction j (by have := f.size_pos; omega) (isMore_tokens j fs hmore)).mono
        (by rw [size]; omega)
  | chain f links, h => by
      obtain ⟨inner, hinner, rfl⟩ := bracketed_eq_some h
      obtain ⟨first, rest, hfirst, hrest, rfl⟩ := joined_eq_some hinner
      exact ((isAtom_tokens f hfirst).chain (by have := f.size_pos; omega) (isLinks_tokens links hrest)).mono
        (by rw [size]; omega)

theorem isMore_tokens {depth : Nat} {toks : List Token} (j : Junction) : (fs : List Formula) →
    tokensMore? depth j fs = some toks → IsMore j (16 * sizeMore fs + 1) toks (trees fs)
  | [], h => by
      cases h
      exact isMore_nil j
  | f :: fs, h => by
      obtain ⟨_, _, ⟨⟩, hboth, rfl⟩ := joined_eq_some h
      obtain ⟨first, more, hfirst, hmore, rfl⟩ := joined_eq_some hboth
      exact IsTail.mono ((isAtom_tokens f hfirst).more j (by have := f.size_pos; omega) (isMore_tokens j fs hmore))
        (by rw [sizeMore]; omega)

theorem isLinks_tokens {depth : Nat} {toks : List Token} : (links : List (Comparison × Formula)) →
    tokensLinks? depth links = some toks → IsLinks (16 * sizeLinks links + 1) toks (linkTrees links)
  | [], h => by
      cases h
      exact isLinks_nil
  | (op, f) :: links, h => by
      obtain ⟨_, _, ⟨⟩, hboth, rfl⟩ := joined_eq_some h
      obtain ⟨first, rest, hfirst, hrest, rfl⟩ := joined_eq_some hboth
      have hlength : 1 ≤ op.tokens.length := by cases op <;> decide
      exact IsTail.mono ((isAtom_tokens f hfirst).links op (by have := f.size_pos; omega) (isLinks_tokens links hrest))
        (by rw [sizeLinks]; omega)

end

/-! ## The text of a formula -/

theorem isAtom_whole {n : Nat} (fuel : Nat) {toks : List Token} {e : Expr} (h : IsAtom n toks e) (hn : 0 < n)
    (hfuel : n + 13 ≤ fuel) : whole fuel toks = some (e, []) := by
  have hdisjunction := reads_disjunction_of_inversion (h.inversion hn (r := []) List.mem_cons_self) (by omega) (by simp)
    (by simp)
  have hexpression := reads_expression (begins_of_opens (any_head?_append h.opens [])) hdisjunction (by simp) fuel hfuel
  rw [List.append_nil] at hexpression
  rw [whole, bind_run _ hexpression, bind_skip (sign?_skip (by simp))]
  rfl

/-- The text of a formula in words has the tree of the formula. -/
theorem parse?_spell (gap wide lead : Nat) (f : Formula) : Expr.parse? (f.spell (.words gap wide lead)) = f.tree? := by
  rw [Expr.parse?, tokens?_spell, tree?]
  cases htoks : f.tokens? 0 with
  | none => rfl
  | some toks =>
      have hsize := f.size_le (.words gap wide lead)
      have hwhole := isAtom_whole (64 * ((f.spell (.words gap wide lead)).length + 4)) (isAtom_tokens f htoks)
        (by have := f.size_pos; omega) (by omega)
      change (whole _ toks).bind _ = _
      rw [hwhole]
      rfl

end Formula
end ChatFlow
