import ChatFlow.Expr.Eval

/-!
# Constructs that are refused

A construct outside of the grammar is refused when evaluation comes to it, and then the expression has no value. It may
stand anywhere in the tree. Evaluation comes to all parts but those behind an operand of `and` or `or`, or a comparison
of a chain, that decides; these are not looked at, and what stands there is not refused.

* `Construct`, `Construct.Foreign`: the constructs of a tree, and those outside of the grammar.
* `Expr.Contains`, `Expr.Reaches`, `Expr.Skips`: a construct stands in a tree; evaluation comes to it; it stands
  behind a part that decides.
* `Expr.hasForeign`, `Expr.exists_foreign`: a construct outside of the grammar is looked for, and stands where it is
  found.
* `Expr.Reaches.refused`: a foreign construct that evaluation comes to is refused.
* `Expr.holds_false_or_skips`: an expression with a foreign construct does not hold, or skips it.
-/

namespace ChatFlow

/-- A construct of an expression: an expression itself, or a comparison of a chain. -/
inductive Construct where
  | expression (e : Expr)
  | comparison (op : CompareOp)

/-- The construct is outside of the grammar. What stands inside of a form that is not evaluated is left out of the tree,
so the form stands for it. -/
def Construct.Foreign (vars : Fields Value) : Construct → Prop
  | .expression (.oddLiteral _) => True
  | .expression (.name n) => Expr.literalNames.get? n = none ∧ vars.get? n = none
  | .expression (.unary op _) => op = .invert
  | .expression (.binary op _ _) => Expr.numericOp? op = none
  | .expression (.other _) => True
  | .expression _ => False
  | .comparison op => op = .same ∨ op = .notSame

namespace Expr

variable {vars : Fields Value} {e a b : Expr} {es before after : List Expr} {c : Construct} {v : Value}
  {links links' : List (CompareOp × Expr)} {op : CompareOp} {t : Text}

/-- The construct stands in the tree. -/
inductive Contains : Expr → Construct → Prop where
  | self (e : Expr) : Contains e (.expression e)
  | unary {e : Expr} {c : Construct} (op : UnaryOp) (h : Contains e c) : Contains (.unary op e) c
  | left {a : Expr} {c : Construct} (op : BinaryOp) (b : Expr) (h : Contains a c) : Contains (.binary op a b) c
  | right {b : Expr} {c : Construct} (op : BinaryOp) (a : Expr) (h : Contains b c) : Contains (.binary op a b) c
  | all {e : Expr} {es : List Expr} {c : Construct} (he : e ∈ es) (h : Contains e c) : Contains (.all es) c
  | any {e : Expr} {es : List Expr} {c : Construct} (he : e ∈ es) (h : Contains e c) : Contains (.any es) c
  | first {e : Expr} {c : Construct} (links : List (CompareOp × Expr)) (h : Contains e c) :
      Contains (.compare e links) c
  | comparison (e : Expr) {op : CompareOp} {f : Expr} {links : List (CompareOp × Expr)} (hf : (op, f) ∈ links) :
      Contains (.compare e links) (.comparison op)
  | operand (e : Expr) {op : CompareOp} {f : Expr} {links : List (CompareOp × Expr)} {c : Construct}
      (hf : (op, f) ∈ links) (h : Contains f c) : Contains (.compare e links) c

mutual

/-- Does a construct outside of the grammar stand in the tree? -/
def hasForeign (vars : Fields Value) : Expr → Bool
  | .literal _ => false
  | .oddLiteral _ => true
  | .name n => (literalNames.get? n).isNone && (vars.get? n).isNone
  | .all es => anyForeign vars es
  | .any es => anyForeign vars es
  | .unary op e => op == .invert || hasForeign vars e
  | .binary op a b => (numericOp? op).isNone || hasForeign vars a || hasForeign vars b
  | .compare e links => hasForeign vars e || linksForeign vars links
  | .other _ => true

def anyForeign (vars : Fields Value) : List Expr → Bool
  | [] => false
  | e :: es => hasForeign vars e || anyForeign vars es

def linksForeign (vars : Fields Value) : List (CompareOp × Expr) → Bool
  | [] => false
  | (op, f) :: links => op == .same || op == .notSame || hasForeign vars f || linksForeign vars links

end

mutual

/-- A construct is found where it stands. -/
theorem exists_foreign : (e : Expr) → hasForeign vars e = true → ∃ c, e.Contains c ∧ c.Foreign vars
  | .literal v, h => by cases h
  | .oddLiteral kind, _ => ⟨_, .self _, trivial⟩
  | .name n, h => ⟨_, .self _, by simpa [hasForeign, Construct.Foreign] using h⟩
  | .all es, h => by
      obtain ⟨e, he, c, hcontains, hc⟩ := exists_anyForeign es h
      exact ⟨c, .all he hcontains, hc⟩
  | .any es, h => by
      obtain ⟨e, he, c, hcontains, hc⟩ := exists_anyForeign es h
      exact ⟨c, .any he hcontains, hc⟩
  | .unary op e, h => by
      rcases Bool.or_eq_true_iff.mp h with hop | he
      · exact ⟨_, .self _, eq_of_beq hop⟩
      · obtain ⟨c, hcontains, hc⟩ := exists_foreign e he
        exact ⟨c, .unary op hcontains, hc⟩
  | .binary op a b, h => by
      rcases Bool.or_eq_true_iff.mp h with h | hb
      · rcases Bool.or_eq_true_iff.mp h with hop | ha
        · exact ⟨_, .self _, Option.isNone_iff_eq_none.mp hop⟩
        · obtain ⟨c, hcontains, hc⟩ := exists_foreign a ha
          exact ⟨c, .left op b hcontains, hc⟩
      · obtain ⟨c, hcontains, hc⟩ := exists_foreign b hb
        exact ⟨c, .right op a hcontains, hc⟩
  | .compare e links, h => by
      rcases Bool.or_eq_true_iff.mp h with he | hlinks
      · obtain ⟨c, hcontains, hc⟩ := exists_foreign e he
        exact ⟨c, .first links hcontains, hc⟩
      · obtain ⟨op, f, hf, hop | ⟨c, hcontains, hc⟩⟩ := exists_linksForeign links hlinks
        · exact ⟨_, .comparison e hf, hop⟩
        · exact ⟨c, .operand e hf hcontains, hc⟩
  | .other form, _ => ⟨_, .self _, trivial⟩

theorem exists_anyForeign : (es : List Expr) → anyForeign vars es = true → ∃ e ∈ es, ∃ c, e.Contains c ∧ c.Foreign vars
  | e :: es, h => by
      rcases Bool.or_eq_true_iff.mp h with he | hes
      · exact ⟨e, List.mem_cons_self, exists_foreign e he⟩
      · obtain ⟨f, hf, hforeign⟩ := exists_anyForeign es hes
        exact ⟨f, List.mem_cons_of_mem _ hf, hforeign⟩

theorem exists_linksForeign : (links : List (CompareOp × Expr)) → linksForeign vars links = true →
    ∃ op f, (op, f) ∈ links ∧ ((Construct.comparison op).Foreign vars ∨ ∃ c, f.Contains c ∧ c.Foreign vars)
  | (op, f) :: links, h => by
      rcases Bool.or_eq_true_iff.mp h with h | hlinks
      · refine ⟨op, f, List.mem_cons_self, ?_⟩
        rcases Bool.or_eq_true_iff.mp h with hop | hf
        · exact .inl ((Bool.or_eq_true_iff.mp hop).imp eq_of_beq eq_of_beq)
        · exact .inr (exists_foreign f hf)
      · obtain ⟨op', f', hf, hforeign⟩ := exists_linksForeign links hlinks
        exact ⟨op', f', List.mem_cons_of_mem _ hf, hforeign⟩

end

/-- The comparisons decide: one of them does not hold. -/
def Decides (vars : Fields Value) (e : Expr) (links : List (CompareOp × Expr)) : Prop :=
  ∃ v, eval vars e = .ok v ∧ evalChain vars v links = .ok false

/-- Evaluation comes to the construct, unless a part before it is refused already. -/
inductive Reaches (vars : Fields Value) : Expr → Construct → Prop where
  | self (e : Expr) : Reaches vars e (.expression e)
  | unary {e : Expr} {c : Construct} (op : UnaryOp) (h : Reaches vars e c) : Reaches vars (.unary op e) c
  | left {a : Expr} {c : Construct} (op : BinaryOp) (b : Expr) (h : Reaches vars a c) : Reaches vars (.binary op a b) c
  | right {b : Expr} {c : Construct} (op : BinaryOp) (a : Expr) (h : Reaches vars b c) : Reaches vars (.binary op a b) c
  | all {before after : List Expr} {e : Expr} {c : Construct} (hopen : evalAll vars before ≠ .ok false)
      (h : Reaches vars e c) : Reaches vars (.all (before ++ e :: after)) c
  | any {before after : List Expr} {e : Expr} {c : Construct} (hopen : evalAny vars before ≠ .ok true)
      (h : Reaches vars e c) : Reaches vars (.any (before ++ e :: after)) c
  | first {e : Expr} {c : Construct} (links : List (CompareOp × Expr)) (h : Reaches vars e c) :
      Reaches vars (.compare e links) c
  | comparison {e f : Expr} {op : CompareOp} {before after : List (CompareOp × Expr)}
      (hopen : ¬ Decides vars e before) :
      Reaches vars (.compare e (before ++ (op, f) :: after)) (.comparison op)
  | operand {e f : Expr} {op : CompareOp} {before after : List (CompareOp × Expr)} {c : Construct}
      (hopen : ¬ Decides vars e before) (h : Reaches vars f c) :
      Reaches vars (.compare e (before ++ (op, f) :: after)) c

/-- The construct stands behind an operand or a comparison that decides. -/
inductive Skips (vars : Fields Value) : Expr → Construct → Prop where
  | behindFalse {before after : List Expr} {e : Expr} {c : Construct} (hdecides : evalAll vars before = .ok false)
      (h : Contains e c) : Skips vars (.all (before ++ e :: after)) c
  | behindTrue {before after : List Expr} {e : Expr} {c : Construct} (hdecides : evalAny vars before = .ok true)
      (h : Contains e c) : Skips vars (.any (before ++ e :: after)) c
  | comparison {e f : Expr} {op : CompareOp} {before after : List (CompareOp × Expr)}
      (hdecides : Decides vars e before) :
      Skips vars (.compare e (before ++ (op, f) :: after)) (.comparison op)
  | operand {e f : Expr} {op : CompareOp} {before after : List (CompareOp × Expr)} {c : Construct}
      (hdecides : Decides vars e before) (h : Contains f c) : Skips vars (.compare e (before ++ (op, f) :: after)) c
  | unary {e : Expr} {c : Construct} (op : UnaryOp) (h : Skips vars e c) : Skips vars (.unary op e) c
  | left {a : Expr} {c : Construct} (op : BinaryOp) (b : Expr) (h : Skips vars a c) : Skips vars (.binary op a b) c
  | right {b : Expr} {c : Construct} (op : BinaryOp) (a : Expr) (h : Skips vars b c) : Skips vars (.binary op a b) c
  | inAll {e : Expr} {es : List Expr} {c : Construct} (he : e ∈ es) (h : Skips vars e c) : Skips vars (.all es) c
  | inAny {e : Expr} {es : List Expr} {c : Construct} (he : e ∈ es) (h : Skips vars e c) : Skips vars (.any es) c
  | inFirst {e : Expr} {c : Construct} (links : List (CompareOp × Expr)) (h : Skips vars e c) :
      Skips vars (.compare e links) c
  | inOperand (e : Expr) {op : CompareOp} {f : Expr} {links : List (CompareOp × Expr)} {c : Construct}
      (hf : (op, f) ∈ links) (h : Skips vars f c) : Skips vars (.compare e links) c

/-- A construct of a tree is one that evaluation comes to, or one that it skips. -/
theorem Contains.reaches_or_skips (vars : Fields Value) (h : e.Contains c) : e.Reaches vars c ∨ e.Skips vars c := by
  induction h with
  | self e => exact .inl (.self e)
  | unary op _ ih => exact ih.imp (.unary op) (.unary op)
  | left op b _ ih => exact ih.imp (.left op b) (.left op b)
  | right op a _ ih => exact ih.imp (.right op a) (.right op a)
  | first links _ ih => exact ih.imp (.first links) (.inFirst links)
  -- with operands, the question is whether those before this one decide
  | all he hc ih =>
      obtain ⟨before, after, rfl⟩ := List.append_of_mem he
      by_cases hdecides : evalAll vars before = .ok false
      · exact .inr (.behindFalse hdecides hc)
      · exact ih.imp (.all hdecides) (.inAll he)
  | any he hc ih =>
      obtain ⟨before, after, rfl⟩ := List.append_of_mem he
      by_cases hdecides : evalAny vars before = .ok true
      · exact .inr (.behindTrue hdecides hc)
      · exact ih.imp (.any hdecides) (.inAny he)
  | comparison e hf =>
      obtain ⟨before, after, rfl⟩ := List.append_of_mem hf
      by_cases hdecides : Decides vars e before
      · exact .inr (.comparison hdecides)
      · exact .inl (.comparison hdecides)
  | operand e hf hc ih =>
      obtain ⟨before, after, rfl⟩ := List.append_of_mem hf
      by_cases hdecides : Decides vars e before
      · exact .inr (.operand hdecides hc)
      · exact ih.imp (.operand hdecides) (.inOperand e hf)

/-! ## Refusals -/

/-- The expression has no value. -/
def Refused (vars : Fields Value) (e : Expr) : Prop := ∃ fault, eval vars e = .error fault

theorem refused_unary {op : UnaryOp} (h : Refused vars e) : Refused vars (.unary op e) := by
  obtain ⟨fault, hfault⟩ := h
  exact ⟨fault, by rw [eval, hfault]; rfl⟩

theorem refused_left {op : BinaryOp} (h : Refused vars a) : Refused vars (.binary op a b) := by
  obtain ⟨fault, hfault⟩ := h
  exact ⟨fault, by rw [eval, hfault]; rfl⟩

theorem refused_right {op : BinaryOp} (h : Refused vars b) : Refused vars (.binary op a b) := by
  cases ha : eval vars a with
  | error fault => exact refused_left ⟨fault, ha⟩
  | ok v =>
      obtain ⟨fault, hfault⟩ := h
      exact ⟨fault, by rw [eval, ha, hfault]; rfl⟩

/-- Operands that do not decide are followed by a refused one. -/
theorem evalAll_refused (hopen : evalAll vars before ≠ .ok false) (h : Refused vars e) :
    ∃ fault, evalAll vars (before ++ e :: after) = .error fault := by
  induction before with
  | nil =>
      obtain ⟨fault, hfault⟩ := h
      exact ⟨fault, by rw [List.nil_append, evalAll, hfault]; rfl⟩
  | cons b before ih =>
      rw [List.cons_append, evalAll]
      rw [evalAll] at hopen
      cases hb : eval vars b with
      | error fault => exact ⟨fault, rfl⟩
      | ok v =>
          simp only [hb, bind, Except.bind] at hopen ⊢
          split at hopen
          · next hv => simpa only [if_pos hv] using ih hopen
          · exact absurd rfl hopen

theorem evalAny_refused (hopen : evalAny vars before ≠ .ok true) (h : Refused vars e) :
    ∃ fault, evalAny vars (before ++ e :: after) = .error fault := by
  induction before with
  | nil =>
      obtain ⟨fault, hfault⟩ := h
      exact ⟨fault, by rw [List.nil_append, evalAny, hfault]; rfl⟩
  | cons b before ih =>
      rw [List.cons_append, evalAny]
      rw [evalAny] at hopen
      cases hb : eval vars b with
      | error fault => exact ⟨fault, rfl⟩
      | ok v =>
          simp only [hb, bind, Except.bind] at hopen ⊢
          split at hopen
          · exact absurd rfl hopen
          · next hv => simpa only [if_neg hv] using ih hopen

/-- Comparisons that hold are followed by one that is refused, or whose operand is. -/
theorem evalChain_refused {f : Expr} (hopen : evalChain vars v links ≠ .ok false)
    (h : Refused vars f ∨ (Construct.comparison op).Foreign vars) :
    ∃ fault, evalChain vars v (links ++ (op, f) :: links') = .error fault := by
  induction links generalizing v with
  | nil =>
      rw [List.nil_append, evalChain]
      cases hf : eval vars f with
      | error fault => exact ⟨fault, rfl⟩
      | ok w =>
          rcases h with ⟨fault, hfault⟩ | rfl | rfl
          · rw [hf] at hfault
            cases hfault
          · exact ⟨_, rfl⟩
          · exact ⟨_, rfl⟩
  | cons link links ih =>
      rw [List.cons_append, evalChain]
      rw [evalChain] at hopen
      cases hw : eval vars link.2 with
      | error fault => exact ⟨fault, rfl⟩
      | ok w =>
          simp only [hw, bind, Except.bind] at hopen ⊢
          rcases hcompare : compareValues link.1 v w with fault | holds
          · exact ⟨fault, rfl⟩
          · cases holds with
            | true =>
                rw [hcompare] at hopen
                exact ih hopen
            | false =>
                rw [hcompare] at hopen
                exact absurd rfl hopen

theorem refused_compare {f : Expr} (hopen : ¬ Decides vars e links)
    (h : Refused vars f ∨ (Construct.comparison op).Foreign vars) :
    Refused vars (.compare e (links ++ (op, f) :: links')) := by
  cases he : eval vars e with
  | error fault => exact ⟨fault, by rw [eval, he]; rfl⟩
  | ok v =>
      have hlinks : evalChain vars v links ≠ .ok false := fun hdecides => hopen ⟨v, he, hdecides⟩
      obtain ⟨fault, hfault⟩ := evalChain_refused hlinks h
      exact ⟨fault, by rw [eval, he]; exact congrArg (Except.map Value.bool) hfault⟩

/-- Evaluated itself, a foreign construct is refused. -/
theorem refused_of_foreign (h : (Construct.expression e).Foreign vars) : Refused vars e := by
  cases e with
  | oddLiteral kind => exact ⟨_, rfl⟩
  | other form => exact ⟨_, rfl⟩
  | name n => exact ⟨.undeclared n, by rw [eval, valueOf, h.1, h.2]⟩
  | unary op a =>
      cases (h : op = .invert)
      cases ha : eval vars a with
      | error fault => exact refused_unary ⟨fault, ha⟩
      | ok v => exact ⟨.unsupportedUnary, by rw [eval, ha]; rfl⟩
  | binary op a b =>
      have hop : numericOp? op = none := h
      cases ha : eval vars a with
      | error fault => exact refused_left ⟨fault, ha⟩
      | ok v =>
          cases hb : eval vars b with
          | error fault => exact refused_right ⟨fault, hb⟩
          | ok w => exact ⟨.unsupportedBinary, by rw [eval, ha, hb]; simp only [bind, Except.bind, binaryValue, hop]⟩
  | literal v => exact absurd h id
  | all es => exact absurd h id
  | any es => exact absurd h id
  | compare a links => exact absurd h id

/-- A foreign construct that evaluation comes to is refused, and with it the expression. -/
theorem Reaches.refused (h : e.Reaches vars c) (hforeign : c.Foreign vars) : Refused vars e := by
  induction h with
  | self e => exact refused_of_foreign hforeign
  | unary op _ ih => exact refused_unary (ih hforeign)
  | left op b _ ih => exact refused_left (ih hforeign)
  | right op a _ ih => exact refused_right (ih hforeign)
  | all hopen _ ih =>
      obtain ⟨fault, hfault⟩ := evalAll_refused hopen (ih hforeign)
      exact ⟨fault, by rw [eval, hfault]; rfl⟩
  | any hopen _ ih =>
      obtain ⟨fault, hfault⟩ := evalAny_refused hopen (ih hforeign)
      exact ⟨fault, by rw [eval, hfault]; rfl⟩
  | first links _ ih =>
      obtain ⟨fault, hfault⟩ := ih hforeign
      exact ⟨fault, by rw [eval, hfault]; rfl⟩
  | comparison hopen => exact refused_compare hopen (.inr hforeign)
  | operand hopen _ ih => exact refused_compare hopen (.inl (ih hforeign))

/-! ## Texts -/

/-- A text whose tree is refused has no value. -/
theorem evaluate_of_refused {other : Value} (hparse : parse? (unifyOperators t).trim = some e) (h : Refused vars e) :
    evaluate vars other t = other := by
  obtain ⟨fault, hfault⟩ := h
  have hrun : ∃ fault, run vars (unifyOperators t).trim = .error fault := by
    unfold run
    split
    · exact ⟨_, rfl⟩
    · split
      · exact ⟨_, rfl⟩
      · exact ⟨fault, by rw [hparse]; exact hfault⟩
  obtain ⟨fault, hrun⟩ := hrun
  unfold evaluate
  simp only [hrun, ite_self]

/-- An expression with a construct outside of the grammar, anywhere in its tree, does not hold, unless the construct
stands behind an operand of `and` or `or`, or behind a comparison of a chain, that decides. -/
theorem holds_false_or_skips (hparse : parse? (unifyOperators t).trim = some e) (hcontains : e.Contains c)
    (hforeign : c.Foreign vars) : holds vars false t = false ∨ e.Skips vars c := by
  rcases hcontains.reaches_or_skips vars with hreaches | hskips
  · left
    rw [holds, evaluate_of_refused hparse (hreaches.refused hforeign)]
    rfl
  · exact .inr hskips

theorem holds_false_or_skips_of_power :
    ∃ e c, parse? (unifyOperators "9 ** 9").trim = some e ∧ (holds [] false "9 ** 9" = false ∨ e.Skips [] c) := by
  have hforeign : (parse? (unifyOperators "9 ** 9").trim).any (hasForeign []) = true := by decide +kernel
  obtain ⟨e, hparse, he⟩ := (Option.any_eq_true _ _).mp hforeign
  obtain ⟨c, hcontains, hc⟩ := exists_foreign e he
  exact ⟨e, c, hparse, holds_false_or_skips hparse hcontains hc⟩

/-- A list stands in the chain and is skipped, as the first comparison decides; that the chain does not hold is compared
with 0 then. -/
theorem holds_around_list :
    ∃ e c, parse? (unifyOperators "(2 < 1 < [0]) == 0").trim = some e ∧ e.Contains c ∧ c.Foreign [] ∧
      holds [] false "(2 < 1 < [0]) == 0" = true := by
  have hforeign : (parse? (unifyOperators "(2 < 1 < [0]) == 0").trim).any (hasForeign []) = true := by decide +kernel
  obtain ⟨e, hparse, he⟩ := (Option.any_eq_true _ _).mp hforeign
  obtain ⟨c, hcontains, hc⟩ := exists_foreign e he
  exact ⟨e, c, hparse, hcontains, hc, by decide +kernel⟩

end Expr

end ChatFlow
