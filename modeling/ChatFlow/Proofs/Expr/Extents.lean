import ChatFlow.Expr.Eval

/-!
# The lengths of values

A text or a list that an expression has as its value is put together from the literals and the variables on the way to
it. Each of the operators makes one that is no longer than its operands together, but for two: a list may be repeated,
and a text may be formatted.

* `Value.extent`, `Expr.extent`: the length of a value, and the lengths of what a value is put together from.
* `Expr.Swells`: a list is repeated or a text formatted on the way to the value.
* `Expr.extent_eval`: without that, a value is no longer than what it is put together from.
-/

namespace ChatFlow

/-- The length of a text or of a list; other values have none. -/
def Value.extent : Value → Nat
  | .text t => t.length
  | .list vs => vs.length
  | _ => 0

namespace Expr

variable {vars : Fields Value} {L : Nat} {op : BinaryOp} {v w u : Value} {e : Expr}

/-- The lengths of the literals that a value is put together from, and `L` for every variable. -/
def extent (L : Nat) : Expr → Nat
  | .literal v => v.extent
  | .name _ => L
  | .binary _ a b => extent L a + extent L b
  | _ => 0

/-- On the way to the value, a list is repeated or a text is formatted. -/
inductive Swells (vars : Fields Value) : Expr → Prop where
  | repetition {a b : Expr} {vs : List Value} (h : eval vars a = .ok (.list vs) ∨ eval vars b = .ok (.list vs)) :
      Swells vars (.binary .mul a b)
  | format {a b : Expr} {t : Text} (h : eval vars a = .ok (.text t)) : Swells vars (.binary .mod a b)
  | left {a : Expr} (op : BinaryOp) (b : Expr) (h : Swells vars a) : Swells vars (.binary op a b)
  | right {b : Expr} (op : BinaryOp) (a : Expr) (h : Swells vars b) : Swells vars (.binary op a b)

/-! ## Operators -/

theorem extent_arithmetic {onInts : Int → Int → Except ExprFault Value}
    {onDoubles : Double → Double → Except ExprFault Value}
    (hints : ∀ m n v, onInts m n = .ok v → v.extent = 0) (hdoubles : ∀ x y v, onDoubles x y = .ok v → v.extent = 0)
    {a b : Value.Numeric} (h : arithmetic onInts onDoubles a b = .ok v) : v.extent = 0 := by
  unfold arithmetic at h
  split at h
  next m n => exact hints m n v h
  · cases hx : toDouble a with
    | error fault => rw [hx] at h; cases h
    | ok x =>
        cases hy : toDouble b with
        | error fault => rw [hx, hy] at h; cases h
        | ok y =>
            rw [hx, hy] at h
            exact hdoubles x y v h

theorem extent_quotient {m n : Int} (h : quotient m n = .ok v) : v.extent = 0 := by
  unfold quotient at h
  split at h
  · cases h
  · split at h <;> cases h
    rfl

theorem extent_dividing {f : Double → Double → Double} {x y : Double} (h : dividing f x y = .ok v) : v.extent = 0 := by
  unfold dividing at h
  split at h <;> cases h
  rfl

theorem extent_dividingInts {f : Int → Int → Int} {m n : Int} (h : dividingInts f m n = .ok v) : v.extent = 0 := by
  unfold dividingInts at h
  split at h <;> cases h
  rfl

/-- Numbers are joined to numbers. -/
theorem extent_numericOp? {f : Value.Numeric → Value.Numeric → Except ExprFault Value} {x y : Value.Numeric}
    (hop : numericOp? op = some f) (h : f x y = .ok v) : v.extent = 0 := by
  cases op <;> cases hop
  case add => exact extent_arithmetic (fun _ _ _ h => by cases h; rfl) (fun _ _ _ h => by cases h; rfl) h
  case sub => exact extent_arithmetic (fun _ _ _ h => by cases h; rfl) (fun _ _ _ h => by cases h; rfl) h
  case mul => exact extent_arithmetic (fun _ _ _ h => by cases h; rfl) (fun _ _ _ h => by cases h; rfl) h
  case div => exact extent_arithmetic (fun _ _ _ => extent_quotient) (fun _ _ _ => extent_dividing) h
  case floorDiv => exact extent_arithmetic (fun _ _ _ => extent_dividingInts) (fun _ _ _ => extent_dividing) h
  case mod => exact extent_arithmetic (fun _ _ _ => extent_dividingInts) (fun _ _ _ => extent_dividing) h

theorem extent_map_bytes {r : Except ExprFault (List UInt8)} (h : r.map Value.bytes = .ok v) : v.extent = 0 := by
  cases r with
  | error fault => cases h
  | ok b => cases h; rfl

theorem extent_map_bool {r : Except ExprFault Bool} (h : r.map Value.bool = .ok v) : v.extent = 0 := by
  cases r with
  | error fault => cases h
  | ok b => cases h; rfl

theorem extent_repetition? (hv : ∀ vs, v ≠ .list vs) (hw : ∀ vs, w ≠ .list vs)
    (h : repetition? v w = some (.ok u)) : u.extent = 0 := by
  unfold repetition? at h
  split at h
  next vs n _ => exact absurd rfl (hv vs)
  next => exact extent_map_bytes (Option.some.inj h)
  next vs n => exact absurd rfl (hw _)
  next => exact extent_map_bytes (Option.some.inj h)
  next => cases h

/-- An operator that neither repeats a list nor formats a text makes nothing longer than its operands together. -/
theorem extent_binaryValue (hmul : op = .mul → (∀ vs, v ≠ .list vs) ∧ ∀ vs, w ≠ .list vs)
    (hmod : op = .mod → ∀ t, v ≠ .text t)
    (h : binaryValue op v w = .ok u) : u.extent ≤ v.extent + w.extent := by
  unfold binaryValue at h
  split at h
  · cases h
  next onNumbers hop =>
    split at h
    · cases h
    · split at h
      next x y hx hy =>
        rw [extent_numericOp? hop h]
        exact Nat.zero_le _
      · split at h
        next => cases h; exact Nat.le_of_eq List.length_append
        next => cases h; exact Nat.le_of_eq List.length_append
        next => cases h; exact Nat.zero_le _
        next =>
          cases hrepetition : repetition? v w with
          | none => rw [hrepetition] at h; cases h
          | some r =>
              rw [hrepetition, Option.getD_some] at h
              rw [extent_repetition? (hmul rfl).1 (hmul rfl).2 (hrepetition.trans (congrArg some h))]
              exact Nat.zero_le _
        next => exact absurd rfl (hmod rfl _)
        next => cases h

theorem extent_unaryValue {op : UnaryOp} (h : unaryValue op v = .ok w) : w.extent = 0 := by
  unfold unaryValue at h
  cases op with
  | not => cases h; rfl
  | invert => cases h
  | negate =>
      dsimp only at h
      split at h <;> cases h <;> rfl
  | plus =>
      dsimp only at h
      split at h <;> cases h <;> rfl

/-! ## Values -/

theorem extent_literalNames {n : Text} (h : literalNames.get? n = some v) : v.extent = 0 := by
  simp only [literalNames, Fields.get?] at h
  grind [Value.extent]

theorem extent_valueOf {n : Text} (hvars : ∀ n w, vars.get? n = some w → w.extent ≤ L) (h : valueOf vars n = .ok v) :
    v.extent ≤ L := by
  unfold valueOf at h
  split at h
  case h_1 w hliteral =>
    cases h
    rw [extent_literalNames hliteral]
    exact Nat.zero_le L
  case h_2 =>
    split at h
    case h_1 hw =>
      cases h
      exact hvars n _ hw
    case h_2 => cases h

theorem eval_bind {α β : Type} {r : Except ExprFault α} {next : α → Except ExprFault β} {b : β}
    (h : (r >>= next) = .ok b) :
    ∃ a, r = .ok a ∧ next a = .ok b := by
  cases r with
  | error fault => cases h
  | ok a => exact ⟨a, rfl, h⟩

/-- A value is no longer than what it is put together from, unless a list is repeated or a text formatted on the way. -/
theorem extent_eval (hvars : ∀ n w, vars.get? n = some w → w.extent ≤ L) :
    (e : Expr) → (v : Value) → eval vars e = .ok v → v.extent ≤ e.extent L ∨ e.Swells vars
  | .literal v, _, h => by cases h; exact .inl (Nat.le_refl _)
  | .oddLiteral kind, _, h => by cases h
  | .name n, v, h => .inl (extent_valueOf hvars h)
  | .all es, v, h => .inl (Nat.le_of_eq (extent_map_bool h))
  | .any es, v, h => .inl (Nat.le_of_eq (extent_map_bool h))
  | .unary op e, v, h => by
      obtain ⟨w, -, hv⟩ := eval_bind h
      exact .inl (Nat.le_of_eq (extent_unaryValue hv))
  | .binary op a b, u, h => by
      obtain ⟨v, ha, h⟩ := eval_bind h
      obtain ⟨w, hb, h⟩ := eval_bind h
      rcases extent_eval hvars a v ha with hva | hswells
      · rcases extent_eval hvars b w hb with hwb | hswells
        · -- of operands that are short enough, only these two operators make something longer than both
          by_cases hmul : op = .mul ∧ ((∃ vs, v = .list vs) ∨ ∃ vs, w = .list vs)
          · obtain ⟨rfl, ⟨vs, rfl⟩ | ⟨vs, rfl⟩⟩ := hmul
            · exact .inr (.repetition (.inl ha))
            · exact .inr (.repetition (.inr hb))
          by_cases hmod : op = .mod ∧ ∃ t, v = .text t
          · obtain ⟨rfl, t, rfl⟩ := hmod
            exact .inr (.format ha)
          have hu := extent_binaryValue
            (fun hop => ⟨fun vs hvs => hmul ⟨hop, .inl ⟨vs, hvs⟩⟩, fun vs hvs => hmul ⟨hop, .inr ⟨vs, hvs⟩⟩⟩)
            (fun hop t ht => hmod ⟨hop, t, ht⟩) h
          exact .inl (Nat.le_trans hu (Nat.add_le_add hva hwb))
        · exact .inr (.right op a hswells)
      · exact .inr (.left op b hswells)
  | .compare e links, v, h => by
      obtain ⟨w, -, hv⟩ := eval_bind h
      exact .inl (Nat.le_of_eq (extent_map_bool hv))
  | .other form, _, h => by cases h

end Expr

end ChatFlow
