import ChatFlow.Proofs.Expr.Extents

/-!
# What a tree is read from

Every token has a weight. A reader gives no more to the tree than it takes from the tokens.

* `Token.weight`: what a token can bring into a value.
* `ExprReader.PaysAt`: the readers that give no more than they take, and the rules that put them together.
* `ExprReader.Thrifty`, `ExprReader.thrifty`: every reader of the grammar is such a reader, by induction on the fuel.
-/

namespace ChatFlow

/-- What a token can bring into a value: a variable of length `L`, or the text of a literal. -/
def Token.weight (L : Nat) : Token → Nat
  | .word _ => L
  | .number v => v.extent
  | .text t => t.length
  | _ => 0

namespace ExprReader

variable {α β : Type} {L b k fuel : Nat} {c : α → Nat} {d : β → Nat} {p : Reader α} {ts r : List Token} {t : Token}

/-- The weight of tokens. -/
def weight (L : Nat) : List Token → Nat
  | [] => 0
  | t :: ts => t.weight L + weight L ts

@[simp] theorem weight_cons : weight L (t :: ts) = t.weight L + weight L ts := rfl

/-- With `b` to begin with, the reader gives no more than it takes: `c` says what a result is worth. -/
def PaysAt (L b : Nat) (c : α → Nat) (p : Reader α) (ts : List Token) : Prop :=
  ∀ a r, p ts = some (a, r) → c a + weight L r ≤ b + weight L ts

def Pays (L b : Nat) (c : α → Nat) (p : Reader α) : Prop := ∀ ts, PaysAt L b c p ts

/-- Whatever the result is, no tokens are added. -/
abbrev Free (L : Nat) (p : Reader α) : Prop := Pays L 0 (fun _ => 0) p

/-! ## Rules -/

theorem Pays.free (h : Pays L 0 c p) : Free L p := fun ts a r hrun =>
  Nat.le_trans (Nat.add_le_add_right (Nat.zero_le _) _) (h ts a r hrun)

theorem pays_pure {a : α} (h : c a ≤ b) : Pays L b c (pure a : Reader α) := fun ts a' r hrun => by
  cases hrun
  exact Nat.add_le_add_right h _

theorem free_pure {a : α} : Free L (pure a : Reader α) := pays_pure (Nat.le_refl 0)

theorem pays_refuse : Pays L b c (refuse : Reader α) := fun ts a r hrun => by cases hrun

theorem PaysAt.bind {f : α → Reader β} (hp : PaysAt L b c p ts) (hf : ∀ a, Pays L (c a) d (f a)) :
    PaysAt L b d (p >>= f) ts := fun a r hrun => by
  change (p ts).bind (fun x => f x.1 x.2) = some (a, r) at hrun
  obtain ⟨⟨x, rest⟩, hx, hnext⟩ := Option.bind_eq_some_iff.mp hrun
  exact Nat.le_trans (hf x rest a r hnext) (hp x rest hx)

/-- What a reader is given besides is left. -/
theorem Pays.frame (k : Nat) (hp : Pays L b c p) : Pays L (b + k) (fun a => c a + k) p := fun ts a r hrun => by
  have h := hp ts a r hrun
  dsimp only
  omega

theorem Pays.weaken {b' : Nat} (hp : Pays L b c p) (hb : b ≤ b') : Pays L b' c p := fun ts a r hrun =>
  Nat.le_trans (hp ts a r hrun) (Nat.add_le_add_right hb _)

/-- A result that is worth something is kept. -/
theorem Pays.keep {f : α → Reader β} (hp : Pays L 0 c p) (hf : ∀ a, Pays L (c a + b) d (f a)) : Pays L b d (p >>= f) :=
  fun ts => PaysAt.bind (by have h := hp.frame b ts; rwa [Nat.zero_add] at h) hf

/-- A result that is worth nothing is dropped. -/
theorem Free.andThen {f : α → Reader β} (hp : Free L p) (hf : ∀ a, Pays L b d (f a)) : Pays L b d (p >>= f) :=
  Pays.keep (c := fun _ => 0) hp fun a => (hf a).weaken (by omega)

theorem Free.seqRight {q : Reader β} (hp : Free L p) (hq : Free L q) : Free L (p *> q) :=
  show Free L (p >>= fun _ => q) from hp.andThen fun _ => hq

theorem pays_ite {cond : Prop} [Decidable cond] {q : Reader α} (hp : Pays L b c p) (hq : Pays L b c q) :
    Pays L b c (if cond then p else q) := by
  split
  · exact hp
  · exact hq

/-! ## Tokens -/

theorem free_takeIf : Free L (takeIf t) := fun ts a r hrun => by
  unfold takeIf at hrun
  split at hrun
  · split at hrun <;> cases hrun
    · rw [weight_cons]
      dsimp only
      omega
    · exact Nat.le_refl _
  · cases hrun
    exact Nat.le_refl _

theorem free_sign? {s : Sign} : Free L (sign? s) := free_takeIf

theorem free_keyword? {w : Text} : Free L (keyword? w) := free_takeIf

theorem free_sign {s : Sign} :
    Free L (sign s) := free_sign?.andThen fun _ => pays_ite (pays_pure (Nat.le_refl _)) pays_refuse

theorem free_keyword {w : Text} : Free L (keyword w) :=
  free_keyword?.andThen fun _ => pays_ite (pays_pure (Nat.le_refl _)) pays_refuse

theorem free_peek : Free L peek := fun ts a r hrun => by
  cases hrun
  exact Nat.le_refl _

theorem free_at? : Free L (at? t) := fun ts a r hrun => by
  cases hrun
  exact Nat.le_refl _

theorem pays_name : Pays L 0 (fun _ => L) name := fun ts a r hrun => by
  unfold name at hrun
  split at hrun
  · split at hrun <;> cases hrun
    rw [weight_cons, Nat.zero_add]
    exact Nat.le_refl _
  · cases hrun

theorem free_compareOp? : Free L compareOp? := fun ts a r hrun => by
  unfold compareOp? at hrun
  dsimp only
  grind [weight_cons]

theorem free_binaryOp? {level : Nat} : Free L (binaryOp? level) := fun ts a r hrun => by
  unfold binaryOp? at hrun
  dsimp only
  grind [weight_cons]

/-- A reader that begins with the tokens as they are. -/
theorem pays_mark {f : List Token → Reader α} (h : ∀ ts, PaysAt L b c (f ts) ts) : Pays L b c (mark >>= f) :=
  fun ts => h ts

/-- Tokens may be left out. -/
theorem paysAt_reset {f : Unit → Reader α} (hr : weight L r ≤ weight L ts) (h : Pays L b c (f ())) :
    PaysAt L b c (reset r >>= f) ts := fun a r' hrun =>
  Nat.le_trans (h r a r' hrun) (Nat.add_le_add_left hr _)

/-- A guard in front. -/
theorem PaysAt.guarded {cond : Prop} [Decidable cond] {f : Unit → Reader α} (h : PaysAt L b c (f ()) ts) :
    PaysAt L b c (if cond then refuse >>= f else f ()) ts := by
  split
  · exact fun _ _ hrun => by cases hrun
  · exact h

theorem Pays.guarded {cond : Prop} [Decidable cond] {f : Unit → Reader α} (h : Pays L b c (f ())) :
    Pays L b c (if cond then refuse >>= f else f ()) := fun ts => (h ts).guarded

theorem pays_odd {kind : OddLiteral} : Pays L b (Expr.extent L) (pure (.oddLiteral kind) : Reader Expr) :=
  pays_pure (Nat.zero_le b)

theorem paysAt_peek {f : Option Token → Reader α} (h : PaysAt L b c (f ts.head?) ts) : PaysAt L b c (peek >>= f) ts := h

theorem paysAt_take {f : Bool → Reader α} (h : Pays L (b + t.weight L) c (f true)) :
    PaysAt L b c (takeIf t >>= f) (t :: ts) := fun a r hrun => by
  have hf : f true ts = some (a, r) := by
    change (takeIf t (t :: ts)).bind (fun x => f x.1 x.2) = some (a, r) at hrun
    rwa [takeIf, if_pos rfl] at hrun
  rw [weight_cons, ← Nat.add_assoc]
  exact h ts a r hf

theorem free_mark : Free L mark := fun ts a r hrun => by
  cases hrun
  exact Nat.le_refl _

/-- What is not evaluated is worth nothing. -/
theorem pays_other {form : Form} :
    Pays L b (Expr.extent L) (pure (.other form) : Reader Expr) := pays_pure (Nat.zero_le b)

/-- What the readers give and take with this many steps. -/
structure Thrifty (L fuel : Nat) : Prop where
  expression : Pays L 0 (Expr.extent L) (expression fuel)
  disjunction : Pays L 0 (Expr.extent L) (disjunction fuel)
  conjunction : Pays L 0 (Expr.extent L) (conjunction fuel)
  operands (word inner) : Free L (operands word inner fuel)
  inversion : Pays L 0 (Expr.extent L) (inversion fuel)
  comparisons : Free L (comparisons fuel)
  binary (level) : Pays L 0 (Expr.extent L) (binary level fuel)
  binaryRest (level left) : Pays L (left.extent L) (Expr.extent L) (binaryRest level left fuel)
  factor : Pays L 0 (Expr.extent L) (factor fuel)
  primary : Pays L 0 (Expr.extent L) (primary fuel)
  trailers (e) : Pays L (e.extent L) (Expr.extent L) (trailers e fuel)
  atom : Pays L 0 (Expr.extent L) (atom fuel)
  strings (kind before) : Pays L before.length (Expr.extent L) (strings kind before fuel)
  namedExpression : Pays L 0 (Expr.extent L) (namedExpression fuel)
  starNamed : Free L (starNamed fuel)
  itemsUntil (close) : Free L (itemsUntil close fuel)
  starExpressions : Free L (starExpressions fuel)
  parenthesized : Pays L 0 (Expr.extent L) (parenthesized fuel)
  listDisplay : Pays L 0 (Expr.extent L) (listDisplay fuel)
  braceDisplay : Pays L 0 (Expr.extent L) (braceDisplay fuel)
  dictItems : Free L (dictItems fuel)
  clauses : Free L (clauses fuel)
  conditions : Free L (conditions fuel)
  targets : Free L (targets fuel)
  target : Free L (target fuel)
  groupedTargets (close) : Free L (groupedTargets close fuel)
  slices : Free L (slices fuel)
  slice : Free L (slice fuel)
  sliceBound : Free L (sliceBound fuel)
  callArguments : Free L (callArguments fuel)
  arguments (phase) : Free L (arguments phase fuel)
  parameters (phase) : Free L (parameters phase fuel)

variable (h : Thrifty L fuel)

include h

namespace Thrifty

theorem expression_succ : Pays L 0 (Expr.extent L) (ExprReader.expression (fuel + 1)) := by
  rw [ExprReader.expression]
  refine free_keyword?.andThen fun _ => pays_ite ?lambda ?other
  case lambda =>
    exact (h.parameters _).andThen fun _ => free_sign.andThen fun _ => h.expression.free.andThen fun _ => pays_other
  case other =>
    refine h.disjunction.keep fun e => free_keyword?.andThen fun _ => pays_ite ?_ (pays_pure (Nat.le_refl _))
    exact h.disjunction.free.andThen fun _ => free_keyword.andThen fun _ => h.expression.free.andThen fun _ =>
      pays_other

theorem disjunction_succ : Pays L 0 (Expr.extent L) (ExprReader.disjunction (fuel + 1)) := by
  rw [ExprReader.disjunction]
  refine h.conjunction.keep fun e => (h.operands _ _).andThen fun es => ?_
  cases es with
  | nil => exact pays_pure (Nat.le_refl _)
  | cons e es => exact pays_pure (Nat.zero_le _)

theorem conjunction_succ : Pays L 0 (Expr.extent L) (ExprReader.conjunction (fuel + 1)) := by
  rw [ExprReader.conjunction]
  refine h.inversion.keep fun e => (h.operands _ _).andThen fun es => ?_
  cases es with
  | nil => exact pays_pure (Nat.le_refl _)
  | cons e es => exact pays_pure (Nat.zero_le _)

theorem operands_succ (word : Text) (inner : Bool) : Free L (ExprReader.operands word inner (fuel + 1)) := by
  rw [ExprReader.operands]
  have hmore (e : Expr) : Free L (ExprReader.operands word inner fuel >>= fun es => pure (e :: es)) :=
    (h.operands word inner).andThen fun _ => free_pure
  exact free_keyword?.andThen fun _ => pays_ite
    (pays_ite (h.inversion.free.andThen fun e => hmore e) (h.conjunction.free.andThen fun e => hmore e)) free_pure

theorem inversion_succ : Pays L 0 (Expr.extent L) (ExprReader.inversion (fuel + 1)) := by
  rw [ExprReader.inversion]
  refine free_keyword?.andThen fun _ => pays_ite (h.inversion.free.andThen fun _ => pays_pure (Nat.zero_le _)) ?_
  refine (h.binary 0).keep fun e => h.comparisons.andThen fun links => ?_
  cases links with
  | nil => exact pays_pure (Nat.le_refl _)
  | cons link links => exact pays_pure (Nat.zero_le _)

theorem comparisons_succ : Free L (ExprReader.comparisons (fuel + 1)) := by
  rw [ExprReader.comparisons]
  refine free_compareOp?.andThen fun op => ?_
  cases op with
  | none => exact free_pure
  | some op => exact (h.binary 0).free.andThen fun _ => h.comparisons.andThen fun _ => free_pure

theorem binary_succ (level : Nat) : Pays L 0 (Expr.extent L) (ExprReader.binary level (fuel + 1)) := by
  rw [ExprReader.binary]
  exact pays_ite h.factor ((h.binary _).keep fun e => h.binaryRest level e)

theorem binaryRest_succ (level : Nat) (left : Expr) :
    Pays L (left.extent L) (Expr.extent L) (ExprReader.binaryRest level left (fuel + 1)) := by
  rw [ExprReader.binaryRest]
  refine free_binaryOp?.andThen fun op => ?_
  cases op with
  | none => exact pays_pure (Nat.le_refl _)
  | some op => exact (h.binary _).keep fun right => (h.binaryRest level _).weaken (Nat.le_of_eq (Nat.add_comm _ _))

theorem factor_succ : Pays L 0 (Expr.extent L) (ExprReader.factor (fuel + 1)) := by
  rw [ExprReader.factor]
  have hsigned (op : UnaryOp) : Pays L 0 (Expr.extent L) (ExprReader.factor fuel >>= fun e => pure (.unary op e)) :=
    h.factor.free.andThen fun _ => pays_pure (Nat.zero_le _)
  refine free_sign?.andThen fun _ => pays_ite (hsigned .plus) <| free_sign?.andThen fun _ =>
    pays_ite (hsigned .negate) <| free_sign?.andThen fun _ => pays_ite (hsigned .invert) ?_
  have hpower (base : Expr) : Pays L (base.extent L) (Expr.extent L) (sign? .doubleStar >>= fun found =>
      if found = true then ExprReader.factor fuel >>= fun e => pure (.binary .power base e) else pure base) :=
    free_sign?.andThen fun _ => pays_ite
      (h.factor.keep fun e => pays_pure (Nat.le_of_eq (Nat.add_comm _ _))) (pays_pure (Nat.le_refl _))
  exact free_keyword?.andThen fun _ => pays_ite
    (h.primary.free.andThen fun _ => pays_other.keep fun base => hpower base) (h.primary.keep fun base => hpower base)

theorem primary_succ : Pays L 0 (Expr.extent L) (ExprReader.primary (fuel + 1)) := by
  rw [ExprReader.primary]
  exact h.atom.keep fun e => h.trailers e

theorem trailers_succ (e : Expr) : Pays L (e.extent L) (Expr.extent L) (ExprReader.trailers e (fuel + 1)) := by
  rw [ExprReader.trailers]
  have hother (form : Form) : Pays L (e.extent L) (Expr.extent L) (ExprReader.trailers (.other form) fuel) :=
    (h.trailers _).weaken (Nat.zero_le _)
  exact free_sign?.andThen fun _ => pays_ite (pays_name.free.andThen fun _ => hother _) <|
    free_sign?.andThen fun _ => pays_ite (h.callArguments.andThen fun _ => hother _) <|
    free_sign?.andThen fun _ => pays_ite (h.slices.andThen fun _ => hother _) (pays_pure (Nat.le_refl _))

theorem strings_succ (kind : Option (Bool × Bool)) (before : Text) :
    Pays L before.length (Expr.extent L) (ExprReader.strings kind before (fuel + 1)) := by
  intro ts
  rw [ExprReader.strings.eq_def]
  refine paysAt_peek ?_
  have hbefore (kind : Option (Bool × Bool)) :
      Pays L before.length (Expr.extent L) (ExprReader.strings kind before fuel) :=
    h.strings kind before
  split
  case h_1 t hhead =>
    obtain ⟨r, rfl⟩ := List.head?_eq_some_iff.mp hhead
    exact paysAt_take <| Pays.guarded <| (h.strings _ _).weaken (Nat.le_of_eq List.length_append)
  case h_2 => exact (free_takeIf.andThen fun _ => Pays.guarded (hbefore _)) ts
  case h_3 => exact (free_takeIf.andThen fun _ => Pays.guarded <| Pays.guarded (hbefore _)) ts
  case h_4 =>
    split
    · exact pays_refuse ts
    · exact pays_odd ts
    · exact pays_other ts
    · exact pays_pure (Nat.le_refl _) ts

theorem atom_succ : Pays L 0 (Expr.extent L) (ExprReader.atom (fuel + 1)) := by
  intro ts
  rw [ExprReader.atom]
  refine paysAt_peek ?_
  have hvalue (w : Text) (v : Value) (hv : v.extent = 0) :
      Pays L 0 (Expr.extent L) (keyword w >>= fun _ => pure (.literal v)) :=
    free_keyword.andThen fun _ => pays_pure (Nat.le_of_eq hv)
  have hstrings := h.strings none []
  split
  case h_1 w _ =>
    exact pays_ite (hvalue _ _ rfl) (pays_ite (hvalue _ _ rfl) (pays_ite (hvalue _ _ rfl)
      (pays_name.keep fun n => pays_pure (Nat.le_refl _)))) ts
  case h_2 v hhead =>
    obtain ⟨r, rfl⟩ := List.head?_eq_some_iff.mp hhead
    exact paysAt_take (pays_pure (Nat.le_of_eq (Nat.zero_add _).symm))
  case h_3 => exact (free_takeIf.andThen fun _ => pays_odd) ts
  case h_4 => exact hstrings ts
  case h_5 => exact hstrings ts
  case h_6 => exact hstrings ts
  case h_7 => exact (free_sign.andThen fun _ => pays_odd) ts
  case h_8 => exact (free_sign.andThen fun _ => h.parenthesized) ts
  case h_9 => exact (free_sign.andThen fun _ => h.listDisplay) ts
  case h_10 => exact (free_sign.andThen fun _ => h.braceDisplay) ts
  case h_11 => exact pays_refuse ts

theorem namedExpression_succ : Pays L 0 (Expr.extent L) (ExprReader.namedExpression (fuel + 1)) := by
  rw [ExprReader.namedExpression]
  refine pays_mark fun ts => ?_
  split
  case h_1 w r =>
    have hlater : weight L r ≤ weight L (.word w :: .sign .walrus :: r) := by
      rw [weight_cons, weight_cons]
      omega
    exact PaysAt.guarded (paysAt_reset hlater (h.expression.free.andThen fun _ => pays_other))
  case h_2 => exact h.expression _

theorem starNamed_succ : Free L (ExprReader.starNamed (fuel + 1)) := by
  rw [ExprReader.starNamed]
  exact free_sign?.andThen fun _ => pays_ite ((h.binary 0).free.andThen fun _ => free_pure) h.namedExpression.free

theorem itemsUntil_succ (close : Sign) : Free L (ExprReader.itemsUntil close (fuel + 1)) := by
  rw [ExprReader.itemsUntil]
  exact free_sign?.andThen fun _ => pays_ite free_pure <| h.starNamed.andThen fun _ =>
    free_sign?.andThen fun _ => pays_ite (h.itemsUntil close) free_sign

theorem starExpressions_succ : Free L (ExprReader.starExpressions (fuel + 1)) := by
  rw [ExprReader.starExpressions]
  have hrest : Free L (sign? .comma >>= fun found => if found = true then
      at? (.sign .rightParen) >>= fun atEnd => peek >>= fun next =>
        if (atEnd || next.isNone) = true then pure () else ExprReader.starExpressions fuel else pure ()) :=
    free_sign?.andThen fun _ => pays_ite (free_at?.andThen fun _ => free_peek.andThen fun _ =>
      pays_ite free_pure h.starExpressions) free_pure
  exact free_sign?.andThen fun _ => pays_ite ((h.binary 0).free.andThen fun _ => hrest)
    (h.expression.free.andThen fun _ => hrest)

theorem parenthesized_succ : Pays L 0 (Expr.extent L) (ExprReader.parenthesized (fuel + 1)) := by
  rw [ExprReader.parenthesized]
  refine free_sign?.andThen fun _ => pays_ite pays_other <| free_keyword?.andThen fun _ => pays_ite ?yield <|
    free_at?.andThen fun _ => pays_ite ?starred ?plain
  case yield =>
    exact free_keyword?.andThen fun _ => pays_ite
      (h.expression.free.andThen fun _ => free_sign.andThen fun _ => pays_other) <|
      free_sign?.andThen fun _ => pays_ite pays_other <|
      h.starExpressions.andThen fun _ => free_sign.andThen fun _ => pays_other
  case starred =>
    exact h.starNamed.andThen fun _ => free_sign.andThen fun _ => (h.itemsUntil _).andThen fun _ => pays_other
  case plain =>
    exact h.namedExpression.keep fun e => free_sign?.andThen fun _ => pays_ite (pays_pure (Nat.le_refl _)) <|
      free_sign?.andThen fun _ => pays_ite ((h.itemsUntil _).andThen fun _ => pays_other) <|
      h.clauses.andThen fun _ => free_sign.andThen fun _ => pays_other

theorem listDisplay_succ : Pays L 0 (Expr.extent L) (ExprReader.listDisplay (fuel + 1)) := by
  rw [ExprReader.listDisplay]
  exact free_sign?.andThen fun _ => pays_ite pays_other <| free_at?.andThen fun _ => h.starNamed.andThen fun _ =>
    free_sign?.andThen fun _ => pays_ite pays_other <|
    free_sign?.andThen fun _ => pays_ite ((h.itemsUntil _).andThen fun _ => pays_other) <|
    Pays.guarded <| h.clauses.andThen fun _ => free_sign.andThen fun _ => pays_other

theorem braceDisplay_succ : Pays L 0 (Expr.extent L) (ExprReader.braceDisplay (fuel + 1)) := by
  rw [ExprReader.braceDisplay]
  refine free_sign?.andThen fun _ => pays_ite pays_other <| free_sign?.andThen fun _ => pays_ite ?spread <|
    free_at?.andThen fun _ => pays_ite ((h.itemsUntil _).andThen fun _ => pays_other) <|
    free_mark.andThen fun saved => h.namedExpression.free.andThen fun e => free_sign?.andThen fun _ =>
      pays_ite ?pair ?item
  case spread =>
    exact (h.binary 0).free.andThen fun _ => free_sign?.andThen fun _ =>
      pays_ite (h.dictItems.andThen fun _ => pays_other) (free_sign.andThen fun _ => pays_other)
  case pair =>
    have hdict : Pays L 0 (Expr.extent L) (ExprReader.expression fuel >>= fun _ => sign? .rightBrace >>= fun found =>
        if found = true then pure (.other .dict) else sign? .comma >>= fun found =>
          if found = true then ExprReader.dictItems fuel >>= fun _ => pure (.other .dict)
          else ExprReader.clauses fuel >>= fun _ => sign .rightBrace >>= fun _ => pure (.other .dictComprehension)) :=
      h.expression.free.andThen fun _ => free_sign?.andThen fun _ => pays_ite pays_other <|
        free_sign?.andThen fun _ => pays_ite (h.dictItems.andThen fun _ => pays_other) <|
        h.clauses.andThen fun _ => free_sign.andThen fun _ => pays_other
    dsimp only
    split
    · exact fun ts _ _ hrun => by cases hrun
    · exact hdict
  case item =>
    exact free_sign?.andThen fun _ => pays_ite pays_other <|
      free_sign?.andThen fun _ => pays_ite ((h.itemsUntil _).andThen fun _ => pays_other) <|
      h.clauses.andThen fun _ => free_sign.andThen fun _ => pays_other

theorem dictItems_succ : Free L (ExprReader.dictItems (fuel + 1)) := by
  rw [ExprReader.dictItems]
  have hrest : Free L (sign? .comma >>= fun found =>
      if found = true then ExprReader.dictItems fuel else sign .rightBrace) :=
    free_sign?.andThen fun _ => pays_ite h.dictItems free_sign
  exact free_sign?.andThen fun _ => pays_ite free_pure <| free_sign?.andThen fun _ => pays_ite
    ((h.binary 0).free.andThen fun _ => hrest)
    (h.expression.free.andThen fun _ => free_sign.andThen fun _ => h.expression.free.andThen fun _ => hrest)

theorem clauses_succ : Free L (ExprReader.clauses (fuel + 1)) := by
  rw [ExprReader.clauses]
  exact free_keyword?.andThen fun _ => free_keyword.andThen fun _ => h.targets.andThen fun _ =>
    free_keyword.andThen fun _ => h.disjunction.free.andThen fun _ => h.conditions.andThen fun _ =>
    free_at?.andThen fun _ => free_at?.andThen fun _ => pays_ite h.clauses free_pure

theorem conditions_succ : Free L (ExprReader.conditions (fuel + 1)) := by
  rw [ExprReader.conditions]
  exact free_keyword?.andThen fun _ => pays_ite (h.disjunction.free.andThen fun _ => h.conditions) free_pure

theorem targets_succ : Free L (ExprReader.targets (fuel + 1)) := by
  rw [ExprReader.targets]
  refine free_sign?.andThen fun _ => pays_ite
    (free_at?.andThen fun _ => Pays.guarded (h.target.andThen fun _ => ?_)) (h.target.andThen fun _ => ?_)
  -- with or without a star in front, what may come behind the target is the same
  all_goals
    refine free_sign?.andThen fun _ => pays_ite (free_peek.andThen fun next => ?_) free_pure
    split
    · exact free_pure
    · exact free_pure
    · exact pays_ite free_pure h.targets
    · exact h.targets

theorem target_succ : Free L (ExprReader.target (fuel + 1)) := by
  rw [ExprReader.target]
  intro ts a r hrun
  dsimp only at hrun ⊢
  have hgrouped : Free L (ExprReader.targets fuel *> sign .rightBracket) := h.targets.seqRight free_sign
  split at hrun
  case h_1 hprimary =>
    cases hrun
    exact h.primary.free ts _ _ hprimary
  case h_2 hprimary =>
    cases hrun
    exact h.primary.free ts _ _ hprimary
  case h_3 =>
    split at hrun
    · split at hrun <;> cases hrun
      rw [weight_cons]
      omega
    · cases hrun
      rw [weight_cons, weight_cons]
      omega
    · cases hrun
      rw [weight_cons, weight_cons]
      omega
    · have := h.groupedTargets _ _ _ _ hrun
      rw [weight_cons]
      omega
    · have := hgrouped _ _ _ hrun
      rw [weight_cons]
      omega
    · cases hrun

theorem groupedTargets_succ (close : Sign) : Free L (ExprReader.groupedTargets close (fuel + 1)) := by
  rw [ExprReader.groupedTargets]
  have hrest : Free L (sign? .comma >>= fun found => if found = true then sign? close >>= fun found =>
      if found = true then pure () else ExprReader.targets fuel >>= fun _ => sign close else sign close) :=
    free_sign?.andThen fun _ => pays_ite
      (free_sign?.andThen fun _ => pays_ite free_pure (h.targets.andThen fun _ => free_sign)) free_sign
  exact free_sign?.andThen fun _ => pays_ite
    (free_at?.andThen fun _ => Pays.guarded <| h.target.andThen fun _ => free_at?.andThen fun _ => Pays.guarded hrest)
    (h.target.andThen fun _ => hrest)

theorem slices_succ : Free L (ExprReader.slices (fuel + 1)) := by
  rw [ExprReader.slices]
  exact h.slice.andThen fun _ => free_sign?.andThen fun _ => pays_ite
    (free_sign?.andThen fun _ => pays_ite free_pure h.slices) free_sign

theorem slice_succ : Free L (ExprReader.slice (fuel + 1)) := by
  rw [ExprReader.slice]
  have hrest : Free L (sign? .colon >>= fun found => if found = true then ExprReader.sliceBound fuel >>= fun _ =>
      sign? .colon >>= fun found => if found = true then ExprReader.sliceBound fuel else pure () else pure ()) :=
    free_sign?.andThen fun _ => pays_ite
      (h.sliceBound.andThen fun _ => free_sign?.andThen fun _ => pays_ite h.sliceBound free_pure) free_pure
  refine free_sign?.andThen fun _ => pays_ite ((h.binary 0).free.andThen fun _ => free_pure) <|
    free_at?.andThen fun _ => pays_ite (free_mark.andThen fun ts => ?_) hrest
  split
  · exact h.namedExpression.free.andThen fun _ => free_pure
  · exact h.expression.free.andThen fun _ => hrest

theorem sliceBound_succ : Free L (ExprReader.sliceBound (fuel + 1)) := by
  rw [ExprReader.sliceBound]
  refine free_peek.andThen fun _ => ?_
  split
  case h_4 => exact h.expression.free.andThen fun _ => free_pure
  all_goals exact free_pure

theorem callArguments_succ : Free L (ExprReader.callArguments (fuel + 1)) := by
  rw [ExprReader.callArguments]
  have hcomprehension : Free L (ExprReader.namedExpression fuel *> ExprReader.clauses fuel *> sign .rightParen) :=
    (h.namedExpression.free.seqRight h.clauses).seqRight free_sign
  refine pays_mark fun ts => ?_
  split
  case h_1 a r hrun =>
    have hlater := hcomprehension ts a r hrun
    intro _ _ hreset
    cases hreset
    exact hlater
  case h_2 => exact h.arguments _ ts

theorem arguments_succ (phase : ArgumentPhase) : Free L (ExprReader.arguments phase (fuel + 1)) := by
  rw [ExprReader.arguments]
  have hrest (next : ArgumentPhase) : Free L (sign? .comma >>= fun found =>
      if found = true then ExprReader.arguments next fuel else sign .rightParen) :=
    free_sign?.andThen fun _ => pays_ite (h.arguments next) free_sign
  refine free_sign?.andThen fun _ => pays_ite free_pure <| free_sign?.andThen fun _ => pays_ite
    (h.expression.free.andThen fun _ => free_pure.andThen hrest) <| free_sign?.andThen fun _ => pays_ite
    (Pays.guarded <| h.expression.free.andThen fun _ => free_pure.andThen hrest) <| pays_mark fun ts => ?_
  split
  case h_1 w r =>
    have hlater : weight L r ≤ weight L (.word w :: .sign .assign :: r) := by
      rw [weight_cons, weight_cons]
      omega
    exact PaysAt.guarded <| paysAt_reset hlater <| h.expression.free.andThen fun _ => free_pure.andThen hrest
  case h_2 => exact PaysAt.guarded ((h.namedExpression.free.andThen fun _ => free_pure.andThen hrest) _)

theorem parameters_succ (phase : ParameterPhase) : Free L (ExprReader.parameters phase (fuel + 1)) := by
  rw [ExprReader.parameters]
  have hrest (next : ParameterPhase) : Free L (sign? .comma >>= fun found =>
      if found = true then ExprReader.parameters next fuel else at? (.sign .colon) >>= fun found =>
        if found = true then (if next.bareStar = true then refuse >>= fun _ => pure () else pure ()) else refuse) :=
    free_sign?.andThen fun _ => pays_ite (h.parameters next) <| free_at?.andThen fun _ =>
      pays_ite (Pays.guarded free_pure) pays_refuse
  refine free_at?.andThen fun _ => pays_ite (Pays.guarded free_pure) <| free_sign?.andThen fun _ => pays_ite ?spread <|
    free_sign?.andThen fun _ => pays_ite ?star <| free_sign?.andThen fun _ => pays_ite ?slash ?plain
  case spread =>
    exact pays_name.free.andThen fun _ => Pays.guarded <| free_sign?.andThen fun _ => free_at?.andThen fun _ =>
      Pays.guarded free_pure
  case star =>
    exact Pays.guarded <| free_at?.andThen fun _ => pays_ite (free_pure.andThen hrest)
      (pays_name.free.andThen fun _ => free_pure.andThen hrest)
  case slash => exact Pays.guarded <| free_pure.andThen hrest
  case plain =>
    exact pays_name.free.andThen fun _ => free_sign?.andThen fun _ => pays_ite
      (h.expression.free.andThen fun _ => free_pure.andThen hrest) (Pays.guarded <| free_pure.andThen hrest)

end Thrifty

omit h

theorem thrifty (L : Nat) : (fuel : Nat) → Thrifty L fuel
  | 0 => by
      constructor <;> (intros; exact pays_refuse)
  | fuel + 1 => by
      have h := thrifty L fuel
      exact {
        expression := h.expression_succ
        disjunction := h.disjunction_succ
        conjunction := h.conjunction_succ
        operands := h.operands_succ
        inversion := h.inversion_succ
        comparisons := h.comparisons_succ
        binary := h.binary_succ
        binaryRest := h.binaryRest_succ
        factor := h.factor_succ
        primary := h.primary_succ
        trailers := h.trailers_succ
        atom := h.atom_succ
        strings := h.strings_succ
        namedExpression := h.namedExpression_succ
        starNamed := h.starNamed_succ
        itemsUntil := h.itemsUntil_succ
        starExpressions := h.starExpressions_succ
        parenthesized := h.parenthesized_succ
        listDisplay := h.listDisplay_succ
        braceDisplay := h.braceDisplay_succ
        dictItems := h.dictItems_succ
        clauses := h.clauses_succ
        conditions := h.conditions_succ
        targets := h.targets_succ
        target := h.target_succ
        groupedTargets := h.groupedTargets_succ
        slices := h.slices_succ
        slice := h.slice_succ
        sliceBound := h.sliceBound_succ
        callArguments := h.callArguments_succ
        arguments := h.arguments_succ
        parameters := h.parameters_succ }

end ExprReader

end ChatFlow
