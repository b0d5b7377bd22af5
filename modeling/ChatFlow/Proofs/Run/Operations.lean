import ChatFlow.Proofs.Double.Extended
import ChatFlow.Proofs.Run.Answered
import ChatFlow.Proofs.Run.Moments

/-!
# Operations on two numbers

An action joins two numbers, which may be infinite or NaN, as the texts of a chat may write anything. The result is a
number again and is kept in a variable. Two operations are not continued to the infinities: the remainder of an infinity
and a choice up to an infinity make the action fail.

* `Text.operand`: the number that a text counts for.
* `MathOp.fault?`: why two numbers cannot be joined.
* `MathOp.Continues`: what the result is if an operand is not finite.
* `Act.run_joined`, `Act.run_compute`: joining two numbers, and the action.
* `Act.computes_unless_unbounded`: the number that is kept, or the failure.
-/

namespace ChatFlow

/-! ## Numbers -/

/-- The number that a text counts for as an operand. -/
def Text.operand (t : Text) : Double := if t.isBlank then 0 else t.toDouble?.getD .nan

/-- The value is a number. -/
def Value.IsNumber (v : Value) : Prop := (∃ n, v = .int n) ∨ ∃ x, v = .float x

namespace Double

theorem isNumber_rounded (x : Double) : x.rounded.IsNumber := by
  rw [rounded]
  split
  · exact .inl ⟨_, rfl⟩
  · exact .inr ⟨_, rfl⟩

/-- What is not finite is kept as it is. -/
theorem rounded_of_not_finite {x : Double} (h : x.isFinite = false) : x.rounded = .float x := by
  cases x with
  | nan => rfl
  | infinite s => rfl
  | finite s m => cases h

theorem isNaN_of_isFinite {x : Double} (h : x.isFinite = true) : x.isNaN = false := by
  cases x with
  | nan => cases h
  | infinite s => rfl
  | finite s m => rfl

end Double

/-! ## Operations -/

namespace MathOp

variable {op : Option MathOp} {x y r : Double}

/-- Why two numbers cannot be joined: an infinity leaves no remainder, and nothing can be chosen up to one. -/
def fault? (op : Option MathOp) (x y : Double) : Option Fault :=
  match op with
  | some .mod => if x.isInfinite && !y.isNaN && !y.isZero then some .undefinedRemainder else none
  | some .random => if !x.isNaN && !y.isNaN && (x.isInfinite || y.isInfinite) then some .infinite else none
  | _ => none

/-- The result continues the operation to operands that are not finite. A division by zero is zero for these, too; a
number is its own remainder by an infinity; and an unknown operation gives the first operand. -/
def Continues (op : Option MathOp) (x y r : Double) : Prop :=
  match op with
  | some .add => Double.Continues (· + ·) (fun a b => a.abs = ⊤ ∧ b = -a) x y r
  | some .sub => Double.Continues (· - ·) (fun a b => a.abs = ⊤ ∧ b = a) x y r
  | some .mul => Double.Continues (· * ·) (fun a b => (a = 0 ∧ b.abs = ⊤) ∨ (a.abs = ⊤ ∧ b = 0)) x y r
  | some .div =>
    if y.isZero then r = 0 else Double.Continues (· / ·) (fun a b => a.abs = ⊤ ∧ b.abs = ⊤) x y r
  | some .mod =>
    if y.isZero then r = 0 else if x.isNaN || y.isNaN then r = .nan else r = x
  | some .pow => Double.ContinuesPower x y r
  | some .min => Double.Selects Min.min x y r
  | some .max => Double.Selects Max.max x y r
  | some .random => r = .nan
  | none => r = x

end MathOp

namespace Act

variable {op : Option MathOp} {x y r : Double} {sc : Scene} {m : Message} {d : ActionData}

/-- Joins two numbers; an unknown operation gives the first one. -/
def joined (op : Option MathOp) (x y : Double) : Act Double :=
  match op with
  | some op => join op x y
  | none => pure x

/-- A number between two others can always be drawn. -/
theorem run_between {low high : Int} (h : low ≤ high) (sc : Scene) : ∃ n, low ≤ n ∧ n ≤ high ∧
    (roll (Dice.between low high)).run.run sc = (.ok n, sc.rolled 1) := by
  obtain ⟨n, hbelow⟩ : ∃ n, sc.world.dice.below (high - low + 1) = .ok (n, (sc.rolled 1).world.dice) := by
    rw [Dice.below, if_neg (by omega)]
    exact ⟨_, rfl⟩
  have hbounds := Dice.below_lt hbelow
  refine ⟨low + n, by omega, by omega, ?_⟩
  rw [roll, run_bind, run_world]
  simp only [run_bind, run_lift, Dice.between, hbelow]
  rfl

/-- Between finite numbers some number is chosen. -/
theorem run_randomBetween (hx : x.isFinite = true) (hy : y.isFinite = true) (sc : Scene) :
    ∃ r, (randomBetween x y).run.run sc = (.ok r, sc.rolled 1) := by
  obtain ⟨a, ha⟩ : ∃ a, x.ceil? = some a := by
    rcases x with _ | s | ⟨s, k⟩
    · cases hx
    · cases hx
    · exact ⟨_, rfl⟩
  obtain ⟨b, hb⟩ : ∃ b, y.floor? = some b := by
    rcases y with _ | s | ⟨s, k⟩
    · cases hy
    · cases hy
    · exact ⟨_, rfl⟩
  have hnumbers : (x.isNaN || y.isNaN) = false := by
    rw [Double.isNaN_of_isFinite hx, Double.isNaN_of_isFinite hy, Bool.or_false]
  obtain ⟨n, hlow, hhigh, hdrawn⟩ := run_between (le_max_of_le_left (min_le_left a b) : min a b ≤ max a b) sc
  -- it lies between two integers that doubles are equal to, so there is a double near it
  have hnear : n.natAbs < Double.beyond := by
    have hfirst := (Double.exact_of_ceil? ha).natAbs_lt_beyond
    have hsecond := (Double.exact_of_floor? hb).natAbs_lt_beyond
    omega
  refine ⟨Double.ofInt n, ?_⟩
  rw [randomBetween, hnumbers, if_neg Bool.false_ne_true]
  simp only [run_bind, run_lift, ha, hb, bound, Option.elim_some, hdrawn, doubleOfInt_eq, if_pos hnear]

theorem run_joined_of_fault {fault : Fault} (h : MathOp.fault? op x y = some fault) (sc : Scene) :
    (joined op x y).run.run sc = (.error fault, sc) := by
  unfold MathOp.fault? at h
  split at h
  · obtain ⟨hcase, hfault⟩ := Option.ite_none_right_eq_some.mp h
    cases hfault
    rw [Bool.and_eq_true, Bool.and_eq_true, Bool.not_eq_true', Bool.not_eq_true'] at hcase
    obtain ⟨⟨hx, hy⟩, hzero⟩ := hcase
    rw [joined, join, hzero, if_neg Bool.false_ne_true, run_lift, remainder, hx, hy]
    rfl
  · obtain ⟨hcase, hfault⟩ := Option.ite_none_right_eq_some.mp h
    cases hfault
    rw [Bool.and_eq_true, Bool.and_eq_true, Bool.not_eq_true', Bool.not_eq_true', Bool.or_eq_true] at hcase
    obtain ⟨⟨hx, hy⟩, hinfinite⟩ := hcase
    rw [joined, join, randomBetween, hx, hy, Bool.or_false, if_neg Bool.false_ne_true]
    rcases x with _ | s | ⟨s, k⟩
    · cases hx
    · rfl
    · -- the first operand has a ceiling, so the second one has no floor
      rcases y with _ | t | ⟨t, l⟩
      · cases hy
      · rfl
      · rcases hinfinite with ⟨⟨⟩⟩ | ⟨⟨⟩⟩
  · cases h

/-- A division comes to a remainder unless an infinity is divided by a number. -/
theorem run_mod (h : MathOp.fault? (some .mod) x y = none) (sc : Scene) :
    ∃ r, (joined (some .mod) x y).run.run sc = (.ok r, sc) ∧
      (x.isFinite = false ∨ y.isFinite = false → MathOp.Continues (some .mod) x y r) := by
  cases hzero : y.isZero with
  | true =>
      refine ⟨0, ?_, fun _ => ?_⟩
      · rw [joined, join, hzero, if_pos rfl]
        rfl
      · rw [MathOp.Continues, hzero, if_pos rfl]
  | false =>
      have hdefined : (x.isInfinite && !y.isNaN) = false := by
        rw [MathOp.fault?, hzero, Bool.not_false, Bool.and_true] at h
        by_contra hcase
        rw [if_pos (Bool.not_eq_false _ ▸ hcase)] at h
        cases h
      refine ⟨x.fmod y, ?_, fun hspecial => ?_⟩
      · rw [joined, join, hzero, if_neg Bool.false_ne_true, run_lift, remainder, hdefined, if_neg Bool.false_ne_true]
      · rw [MathOp.Continues, hzero, if_neg Bool.false_ne_true]
        rcases x with _ | s | ⟨s, k⟩
        · rfl
        · rcases y with _ | t | ⟨t, l⟩
          · rfl
          · cases hdefined
          · cases hdefined
        · rcases y with _ | t | ⟨t, l⟩
          · rfl
          · rfl
          · rcases hspecial with ⟨⟨⟩⟩ | ⟨⟨⟩⟩

/-- Something can be chosen between numbers that are finite, and nothing else is asked for unless there is NaN. -/
theorem run_random (h : MathOp.fault? (some .random) x y = none) (sc : Scene) :
    ∃ r k, (joined (some .random) x y).run.run sc = (.ok r, sc.rolled k) ∧
      (x.isFinite = false ∨ y.isFinite = false → MathOp.Continues (some .random) x y r) := by
  cases hnan : x.isNaN || y.isNaN with
  | true =>
      refine ⟨.nan, 0, ?_, fun _ => rfl⟩
      rw [joined, join, randomBetween, hnan, if_pos rfl]
      rfl
  | false =>
      obtain ⟨hx, hy⟩ : x.isFinite = true ∧ y.isFinite = true := by
        rcases x with _ | s | ⟨s, k⟩
        · cases hnan
        · rcases y with _ | t | ⟨t, l⟩
          · cases hnan
          · exact absurd h (Option.some_ne_none Fault.infinite)
          · exact absurd h (Option.some_ne_none Fault.infinite)
        · rcases y with _ | t | ⟨t, l⟩
          · cases hnan
          · exact absurd h (Option.some_ne_none Fault.infinite)
          · exact ⟨rfl, rfl⟩
      obtain ⟨r, hr⟩ := run_randomBetween hx hy sc
      refine ⟨r, 1, hr, fun hspecial => ?_⟩
      rw [hx, hy] at hspecial
      exact absurd hspecial (by decide)

/-- Whatever is joined without a fault comes to a number. -/
theorem exists_run_joined (h : MathOp.fault? op x y = none) (sc : Scene) :
    ∃ r k, (joined op x y).run.run sc = (.ok r, sc.rolled k) ∧
      (x.isFinite = false ∨ y.isFinite = false → MathOp.Continues op x y r) := by
  rcases op with _ | op
  · exact ⟨x, 0, rfl, fun _ => rfl⟩
  cases op with
  | add => exact ⟨x.add y, 0, rfl, Double.continues_add⟩
  | sub => exact ⟨x.sub y, 0, rfl, Double.continues_sub⟩
  | mul => exact ⟨x.mul y, 0, rfl, Double.continues_mul⟩
  | div =>
      refine ⟨_, 0, rfl, fun hspecial => ?_⟩
      rw [MathOp.Continues]
      split
      · rfl
      · next hzero => exact Double.continues_div hspecial (Bool.eq_false_iff.mpr hzero)
  | mod =>
      obtain ⟨r, hr, hcontinues⟩ := run_mod h sc
      exact ⟨r, 0, hr, hcontinues⟩
  | pow => exact ⟨x.power y, 0, rfl, fun _ => Double.continuesPower x y⟩
  | min => exact ⟨x.min y, 0, rfl, fun _ => Double.selects_min x y⟩
  | max => exact ⟨x.max y, 0, rfl, fun _ => Double.selects_max x y⟩
  | random => exact run_random h sc

/-! ## The action -/

/-- The variable that the result is kept in. -/
def resultName (d : ActionData) : Text := if d.resultVar.isEmpty then "math_result" else d.resultVar

/-- The template of an operand; without one it is zero. -/
def operandTemplate (t : Text) : Text := if t.isEmpty then "0" else t

theorem run_operandOf {sc' : Scene} {t s : Text} (h : (render m (operandTemplate t)).run.run sc = (.ok s, sc')) :
    (operandOf m t).run.run sc = (.ok s.operand, sc') := by
  unfold operandTemplate at h
  rw [operandOf, run_bind, h]
  rfl

/-- The action fills in its operands, joins them and keeps the short form of the result. -/
theorem run_compute {sc₁ sc₂ : Scene} {s t : Text}
    (hfirst : (render m (operandTemplate d.operand1)).run.run sc = (.ok s, sc₁))
    (hsecond : (render m (operandTemplate d.operand2)).run.run sc₁ = (.ok t, sc₂)) :
    (compute d m).run.run sc =
      ((joined (MathOp.ofLabel? d.mathKind) s.operand t.operand >>= fun r =>
        setVariable (resultName d) r.rounded : Act Unit)).run.run sc₂ := by
  unfold compute joined
  rw [run_bind, run_operandOf hfirst]
  dsimp only
  rw [run_bind, run_operandOf hsecond]
  dsimp only
  rcases MathOp.ofLabel? d.mathKind with _ | op
  · rfl
  · rfl

/-- An action whose operands come to texts joins the numbers of these texts and keeps the result, which is a number, in
its variable; nothing else changes but the dice. NaN and infinities are kept as they are, and as operands they give what
the operation has at the limit. Only a remainder of an infinity and a choice up to an infinity make the action fail. -/
theorem computes_unless_unbounded {sc₁ sc₂ : Scene} {s t : Text}
    (hfirst : (render m (operandTemplate d.operand1)).run.run sc = (.ok s, sc₁))
    (hsecond : (render m (operandTemplate d.operand2)).run.run sc₁ = (.ok t, sc₂)) :
    (∀ fault, MathOp.fault? (MathOp.ofLabel? d.mathKind) s.operand t.operand = some fault →
      (compute d m).run.run sc = (.error fault, sc₂)) ∧
    (MathOp.fault? (MathOp.ofLabel? d.mathKind) s.operand t.operand = none →
      ∃ r k, (compute d m).run.run sc =
          (.ok (), { sc₂.rolled k with context := sc₂.context.set (resultName d) r.rounded }) ∧
        ((sc₂.context.set (resultName d) r.rounded).get (resultName d)).IsNumber ∧
        (r.isFinite = false → r.rounded = .float r) ∧
        (s.operand.isFinite = false ∨ t.operand.isFinite = false →
          MathOp.Continues (MathOp.ofLabel? d.mathKind) s.operand t.operand r)) := by
  rw [run_compute hfirst hsecond]
  constructor
  · intro fault hfault
    rw [run_bind, run_joined_of_fault hfault]
  · intro hnone
    obtain ⟨r, k, hrun, hcontinues⟩ := exists_run_joined hnone sc₂
    refine ⟨r, k, ?_, ?_, Double.rounded_of_not_finite, hcontinues⟩
    · rw [run_bind, hrun]
      rfl
    · rw [Context.get_set, if_pos rfl]
      exact r.isNumber_rounded

/-- An action that joins two numbers. -/
def sampleOperation (kind first second : Text) : ActionData :=
  { (default : ActionData) with mathKind := kind, operand1 := first, operand2 := second }

/-- The difference of two infinities is kept as NaN. -/
theorem computes_unless_unbounded_of_sample :
    let d := sampleOperation "sub" "inf" "inf"
    let m : Message := ⟨.ofUser "u", "hi"⟩
    let sc : Scene := ⟨sampleWorld .empty, .start []⟩
    ((render m (operandTemplate d.operand1)).run.run sc = (.ok "inf", sc) ∧
        (render m (operandTemplate d.operand2)).run.run sc = (.ok "inf", sc)) ∧
      ∃ sc', (compute d m).run.run sc = (.ok (), sc') ∧ sc'.context.get "math_result" = .float .nan := by
  intro d m sc
  have hrender : (render m (operandTemplate "inf")).run.run sc = (.ok "inf", sc) :=
    run_render_of_no_brace m sc (by decide)
  obtain ⟨-, hcomputes⟩ := computes_unless_unbounded (d := d) hrender hrender
  obtain ⟨r, k, hrun, -, -, hcontinues⟩ := hcomputes (by decide)
  have hinfinity : Text.operand "inf" = .infinite false := by decide
  have hkind : MathOp.ofLabel? d.mathKind = some .sub := by decide
  rw [hinfinity, hkind] at hcontinues
  -- equal infinities have no definite difference
  have hnan : r = .nan := (hcontinues (.inl rfl)).indefinite ⊤ ⊤ rfl rfl ⟨rfl, rfl⟩
  rw [hnan] at hrun
  exact ⟨⟨hrender, hrender⟩, _, hrun, rfl⟩

/-- A remainder of an infinity and a choice up to one fail. -/
theorem compute_fails_at_infinity :
    let m : Message := ⟨.ofUser "u", "hi"⟩
    let sc : Scene := ⟨sampleWorld .empty, .start []⟩
    ((compute (sampleOperation "mod" "inf" "2") m).run.run sc).1 = .error .undefinedRemainder ∧
      ((compute (sampleOperation "random" "1" "inf") m).run.run sc).1 = .error .infinite := by
  decide +kernel

end Act

end ChatFlow
