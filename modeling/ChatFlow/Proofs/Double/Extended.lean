import ChatFlow.Double.Power
import ChatFlow.Proofs.Double.Sums
import Mathlib.Analysis.SpecialFunctions.Log.ENNRealLogExp

/-!
# Doubles as extended real numbers

A double other than NaN stands for an extended real number. An operation with an infinite operand rounds nothing: its
result stands for what the extended reals have there, and where these have no definite value it is NaN.

* `Double.value?`: the extended real number that a double stands for.
* `Double.lt_iff_of_value?`, `Double.eq_iff_of_value?`: doubles compare as these numbers do.
* `Double.Continues`: a result that continues an operation to the infinities.
* `Double.continues_add`, `continues_sub`, `continues_mul`, `continues_div`: the operations.
* `Double.Selects`: a result that is one of the operands, as the lesser and the greater one are.
* `Double.ContinuesPower`: a result that continues powers; `continuesPower` says that powers do.
-/

open Filter Topology
open scoped ENNReal

namespace ChatFlow.Double

variable {x y : Double} {a b : EReal} {s t : Bool} {m n : Magnitude}

/-! ## Values -/

/-- The real number that a finite double is. -/
noncomputable def real (negative : Bool) (m : Magnitude) : ℝ :=
  ((if negative then -(m.quanta : Int) else m.quanta : Int) : ℝ) / unit

/-- The extended real number that a double stands for; NaN stands for none. -/
noncomputable def value? : Double → Option EReal
  | nan => none
  | infinite s => some (if s then ⊥ else ⊤)
  | finite s m => some (real s m)

theorem cast_unit_pos : (0 : ℝ) < unit := Nat.cast_pos.mpr unit_pos

theorem real_true (m : Magnitude) : real true m = -real false m := by
  rw [real, real, if_pos rfl, if_neg Bool.false_ne_true, Int.cast_neg, neg_div]

theorem real_pos (hm : m.quanta ≠ 0) : 0 < real false m := by
  rw [real, if_neg Bool.false_ne_true, Int.cast_natCast]
  exact div_pos (Nat.cast_pos.mpr (Nat.pos_of_ne_zero hm)) cast_unit_pos

theorem real_neg (hm : m.quanta ≠ 0) : real true m < 0 := by
  rw [real_true]
  exact neg_neg_of_pos (real_pos hm)

theorem real_of_zero (s : Bool) (hm : m.quanta = 0) : real s m = 0 := by
  have hzero : (if s then -(m.quanta : Int) else m.quanta : Int) = 0 := by
    rw [hm]
    cases s
    · rfl
    · rfl
  rw [real, hzero, Int.cast_zero, zero_div]

theorem real_eq_zero_iff : real s m = 0 ↔ m.quanta = 0 := by
  refine ⟨fun h => ?_, real_of_zero s⟩
  by_contra hm
  cases s with
  | false => exact (real_pos hm).ne' h
  | true => exact (real_neg hm).ne h

theorem value?_eq_none_iff : x.value? = none ↔ x = nan := by
  rcases x with _ | s | ⟨s, m⟩
  · exact iff_of_true rfl rfl
  · exact iff_of_false nofun nofun
  · exact iff_of_false nofun nofun

theorem value?_eq_zero_iff : x.value? = some 0 ↔ x.isZero = true := by
  rcases x with _ | s | ⟨s, m⟩
  · exact iff_of_false nofun nofun
  · refine iff_of_false (fun h => ?_) nofun
    cases s with
    | false => exact EReal.top_ne_zero (Option.some.inj h)
    | true => exact EReal.bot_ne_zero (Option.some.inj h)
  · rw [value?, Option.some.injEq, EReal.coe_eq_zero, real_eq_zero_iff, isZero, beq_iff_eq]

theorem value?_neg (x : Double) : x.neg.value? = x.value?.map (- ·) := by
  rcases x with _ | s | ⟨s, m⟩
  · rfl
  · cases s with
    | false => exact congrArg some EReal.neg_top.symm
    | true => exact congrArg some EReal.neg_bot.symm
  · rw [neg, value?, value?, Option.map_some, ← EReal.coe_neg]
    cases s with
    | false => rw [Bool.not_false, real_true]
    | true => rw [Bool.not_true, real_true, neg_neg]

/-- A whole double stands for its integer. -/
theorem value?_of_whole? {n : Int} (h : x.whole? = some n) : x.value? = some ((n : ℝ) : EReal) := by
  have hquanta := whole?_eq_some_iff.mp h
  rcases x with _ | s | ⟨s, m⟩
  · cases hquanta
  · cases hquanta
  · rw [quanta?, Option.some.injEq] at hquanta
    rw [value?, real, hquanta, Int.cast_mul, Int.cast_natCast, mul_div_cancel_right₀ _ cast_unit_pos.ne']

/-- A double stands for the quotient that its quanta are of the unit. -/
theorem value?_of_quanta {n p q : ℤ} (hx : x.quanta? = some n) (hq : q ≠ 0) (h : n * q = p * unit) :
    x.value? = some ((p / q : ℝ) : EReal) := by
  rcases x with _ | s | ⟨s, m⟩
  · cases hx
  · cases hx
  · rw [quanta?, Option.some.injEq] at hx
    have hquotient : (n : ℝ) / unit = p / q := by
      rw [div_eq_div_iff cast_unit_pos.ne' (Int.cast_ne_zero.mpr hq)]
      exact_mod_cast h
    rw [value?, real, hx, hquotient]

/-- What stands for a real number is finite. -/
theorem exists_finite {a : ℝ} (h : x.value? = some (a : EReal)) : ∃ s m, x = finite s m ∧ real s m = a := by
  rcases x with _ | s | ⟨s, m⟩
  · cases h
  · cases s with
    | false => exact absurd (Option.some.inj h).symm (EReal.coe_ne_top a)
    | true => exact absurd (Option.some.inj h).symm (EReal.coe_ne_bot a)
  · exact ⟨s, m, rfl, EReal.coe_injective (Option.some.inj h)⟩

theorem value?_one : value? 1 = some 1 :=
  (value?_of_whole? (exact_of_natAbs_le (by decide)).whole?_ofInt).trans (by simp)

theorem value?_zero : value? 0 = some 0 :=
  (value?_of_whole? (exact_of_natAbs_le (by decide)).whole?_ofInt).trans (by simp)

/-! ## Order -/

/-- The comparison of finite doubles is that of their quanta. -/
theorem real_lt_iff : real s m < real t n ↔
    (if s then -(m.quanta : Int) else m.quanta) < (if t then -(n.quanta : Int) else n.quanta) := by
  rw [real, real, div_lt_div_iff_of_pos_right cast_unit_pos, Int.cast_lt]

theorem lt_iff_of_value? (hx : x.value? = some a) (hy : y.value? = some b) : lt x y = true ↔ a < b := by
  rcases x with _ | s | ⟨s, m⟩
  · cases hx
  · cases hx
    rcases y with _ | t | ⟨t, n⟩
    · cases hy
    · cases hy
      cases s
      · cases t
        · exact iff_of_false Bool.false_ne_true (lt_irrefl _)
        · exact iff_of_false Bool.false_ne_true not_top_lt
      · cases t
        · exact iff_of_true rfl bot_lt_top
        · exact iff_of_false Bool.false_ne_true (lt_irrefl _)
    · cases hy
      cases s
      · exact iff_of_false Bool.false_ne_true not_top_lt
      · exact iff_of_true rfl (EReal.bot_lt_coe _)
  · cases hx
    rcases y with _ | t | ⟨t, n⟩
    · cases hy
    · cases hy
      cases t
      · exact iff_of_true rfl (EReal.coe_lt_top _)
      · exact iff_of_false Bool.false_ne_true not_lt_bot
    · cases hy
      rw [EReal.coe_lt_coe_iff, real_lt_iff]
      exact decide_eq_true_iff

theorem eq_iff_of_value? (hx : x.value? = some a) (hy : y.value? = some b) : eq x y = true ↔ a = b := by
  have hneither : eq x y = true ↔ lt x y = false ∧ lt y x = false := by
    rcases x with _ | s | ⟨s, m⟩
    · cases hx
    · rcases y with _ | t | ⟨t, n⟩
      · cases hy
      · cases s <;> cases t <;> decide
      · cases s
        · exact iff_of_false Bool.false_ne_true fun h => Bool.false_ne_true h.2.symm
        · exact iff_of_false Bool.false_ne_true fun h => Bool.false_ne_true h.1.symm
    · rcases y with _ | t | ⟨t, n⟩
      · cases hy
      · cases t
        · exact iff_of_false Bool.false_ne_true fun h => Bool.false_ne_true h.1.symm
        · exact iff_of_false Bool.false_ne_true fun h => Bool.false_ne_true h.2.symm
      · rw [eq, lt, lt, beq_iff_eq, decide_eq_false_iff_not, decide_eq_false_iff_not]
        omega
  rw [hneither, ← Bool.not_eq_true, ← Bool.not_eq_true, lt_iff_of_value? hx hy, lt_iff_of_value? hy hx, not_lt, not_lt,
    and_comm]
  exact le_antisymm_iff.symm

/-! ## Results for infinite operands -/

/-- The result continues an operation of the extended reals: it stands for what the operation has for the operands, and
is NaN if one of these is NaN, or if the operation has nothing definite for them. -/
structure Continues (f : EReal → EReal → EReal) (Indefinite : EReal → EReal → Prop) (x y r : Double) : Prop where
  nan : x = nan ∨ y = nan → r = nan
  indefinite : ∀ a b, x.value? = some a → y.value? = some b → Indefinite a b → r = Double.nan
  definite : ∀ a b, x.value? = some a → y.value? = some b → ¬ Indefinite a b → r.value? = some (f a b)

theorem continues_of_nan {f : EReal → EReal → EReal} {Indefinite : EReal → EReal → Prop} (h : x = nan ∨ y = nan) :
    Continues f Indefinite x y nan := by
  refine ⟨fun _ => rfl, fun _ _ _ _ _ => rfl, fun a b hx hy _ => ?_⟩
  rcases h with rfl | rfl
  · cases hx
  · cases hy

theorem continues_of_values {f : EReal → EReal → EReal} {Indefinite : EReal → EReal → Prop} {r : Double}
    (hx : x.value? = some a) (hy : y.value? = some b) (hindefinite : Indefinite a b → r = nan)
    (hdefinite : ¬ Indefinite a b → r.value? = some (f a b)) : Continues f Indefinite x y r := by
  constructor
  · rintro (rfl | rfl)
    · cases hx
    · cases hy
  · intro a' b' ha hb
    obtain rfl : a = a' := Option.some.inj (hx.symm.trans ha)
    obtain rfl : b = b' := Option.some.inj (hy.symm.trans hb)
    exact hindefinite
  · intro a' b' ha hb
    obtain rfl : a = a' := Option.some.inj (hx.symm.trans ha)
    obtain rfl : b = b' := Option.some.inj (hy.symm.trans hb)
    exact hdefinite

theorem add_of_nan (h : x = nan ∨ y = nan) : x.add y = nan := by
  rcases h with rfl | rfl
  · rfl
  · cases x <;> rfl

/-- The cases of two doubles that are not both finite. -/
theorem rec_of_not_finite {P : Double → Double → Prop} (h : x.isFinite = false ∨ y.isFinite = false)
    (nan : ∀ x y, x = nan ∨ y = Double.nan → P x y) (infinite : ∀ s t, P (infinite s) (Double.infinite t))
    (left : ∀ s t n, P (Double.infinite s) (finite t n)) (right : ∀ s m t, P (finite s m) (Double.infinite t)) :
    P x y := by
  rcases x with _ | s | ⟨s, m⟩
  · exact nan _ _ (.inl rfl)
  · rcases y with _ | t | ⟨t, n⟩
    · exact nan _ _ (.inr rfl)
    · exact infinite s t
    · exact left s t n
  · rcases y with _ | t | ⟨t, n⟩
    · exact nan _ _ (.inr rfl)
    · exact right s m t
    · rcases h with h | h
      · cases h
      · cases h

/-- Opposite infinities have no definite sum. -/
theorem continues_add (h : x.isFinite = false ∨ y.isFinite = false) :
    Continues (· + ·) (fun a b => a.abs = ⊤ ∧ b = -a) x y (x.add y) := by
  refine rec_of_not_finite (P := fun x y => Continues _ _ x y (x.add y)) h ?_ ?_ ?_ ?_
  · intro x y hnan
    rw [add_of_nan hnan]
    exact continues_of_nan hnan
  · intro s t
    refine continues_of_values rfl rfl ?_ ?_
    · cases s <;> cases t <;> simp [add]
    · cases s <;> cases t <;> simp [add, value?]
  · intro s t n
    refine continues_of_values rfl rfl ?_ ?_
    · cases s <;> simp
    · cases s <;> simp [add, value?]
  · intro s m t
    refine continues_of_values rfl rfl ?_ ?_
    · cases t <;> simp [EReal.abs_def]
    · cases t <;> simp [add, value?]

/-- Equal infinities have no definite difference. -/
theorem continues_sub (h : x.isFinite = false ∨ y.isFinite = false) :
    Continues (· - ·) (fun a b => a.abs = ⊤ ∧ b = a) x y (x.sub y) := by
  have hneg : y.neg.isFinite = y.isFinite := by cases y <;> rfl
  have hnan : y.neg = nan ↔ y = nan := by cases y <;> simp [neg]
  have hsum : Continues (· + ·) (fun a b => a.abs = ⊤ ∧ b = -a) x y.neg (x.sub y) := continues_add (by rwa [hneg])
  refine ⟨fun hone => hsum.nan (by rwa [hnan]), ?_, ?_⟩
  · rintro a b hx hy ⟨hinfinite, rfl⟩
    exact hsum.indefinite b (-b) hx (by rw [value?_neg, hy, Option.map_some]) ⟨hinfinite, rfl⟩
  · intro a b hx hy hdefinite
    refine hsum.definite a (-b) hx (by rw [value?_neg, hy, Option.map_some]) fun hopposite => hdefinite ?_
    exact ⟨hopposite.1, neg_injective hopposite.2⟩

/-- An infinity times a number other than zero is an infinity, of the sign that the two have together. -/
theorem infinity_mul_real (s t : Bool) (hn : n.quanta ≠ 0) :
    (if s then ⊥ else ⊤ : EReal) * real t n = if s != t then ⊥ else ⊤ := by
  cases t
  · cases s
    · exact EReal.top_mul_coe_of_pos (real_pos hn)
    · exact EReal.bot_mul_coe_of_pos (real_pos hn)
  · cases s
    · exact EReal.top_mul_coe_of_neg (real_neg hn)
    · exact EReal.bot_mul_coe_of_neg (real_neg hn)

/-- A zero and an infinity have no definite product. -/
theorem continues_mul (h : x.isFinite = false ∨ y.isFinite = false) :
    Continues (· * ·) (fun a b => (a = 0 ∧ b.abs = ⊤) ∨ (a.abs = ⊤ ∧ b = 0)) x y (x.mul y) := by
  refine rec_of_not_finite (P := fun x y => Continues _ _ x y (x.mul y)) h ?_ ?_ ?_ ?_
  · intro x y hnan
    have hmul : x.mul y = nan := by
      rcases hnan with rfl | rfl
      · rfl
      · cases x <;> rfl
    rw [hmul]
    exact continues_of_nan hnan
  · intro s t
    refine continues_of_values rfl rfl ?_ ?_
    · cases s <;> cases t <;> simp
    · cases s <;> cases t <;> simp [mul, value?]
  · intro s t n
    by_cases hn : n.quanta = 0
    · refine continues_of_values rfl rfl (fun _ => by rw [mul, if_pos hn]) fun hdefinite => absurd ?_ hdefinite
      exact .inr ⟨by cases s <;> rfl, by rw [real_of_zero t hn, EReal.coe_zero]⟩
    · refine continues_of_values rfl rfl ?_ ?_
      · rintro (⟨hzero, -⟩ | ⟨-, hzero⟩)
        · cases s <;> simp at hzero
        · exact absurd (real_eq_zero_iff.mp (EReal.coe_eq_zero.mp hzero)) hn
      · intro _
        rw [mul, if_neg hn, value?, infinity_mul_real s t hn]
  · intro s m t
    by_cases hm : m.quanta = 0
    · refine continues_of_values rfl rfl (fun _ => by rw [mul, if_pos hm]) fun hdefinite => absurd ?_ hdefinite
      exact .inl ⟨by rw [real_of_zero s hm, EReal.coe_zero], by cases t <;> rfl⟩
    · refine continues_of_values rfl rfl ?_ ?_
      · rintro (⟨hzero, -⟩ | ⟨-, hzero⟩)
        · exact absurd (real_eq_zero_iff.mp (EReal.coe_eq_zero.mp hzero)) hm
        · cases t <;> simp at hzero
      · intro _
        rw [mul, if_neg hm, value?, EReal.mul_comm, infinity_mul_real t s hm, bne_comm]

/-- Two infinities have no definite quotient. -/
theorem continues_div (h : x.isFinite = false ∨ y.isFinite = false) (hzero : y.isZero = false) :
    Continues (· / ·) (fun a b => a.abs = ⊤ ∧ b.abs = ⊤) x y (x.div y) := by
  refine rec_of_not_finite (P := fun x y => y.isZero = false → Continues _ _ x y (x.div y)) h ?_ ?_ ?_ ?_ hzero
  · intro x y hnan _
    have hdiv : x.div y = nan := by
      rcases hnan with rfl | rfl
      · rfl
      · cases x <;> rfl
    rw [hdiv]
    exact continues_of_nan hnan
  · intro s t _
    refine continues_of_values rfl rfl (fun _ => rfl) fun hdefinite => absurd ?_ hdefinite
    exact ⟨by cases s <;> rfl, by cases t <;> rfl⟩
  · intro s t n hn
    have hquanta : n.quanta ≠ 0 := by simpa [isZero] using hn
    refine continues_of_values rfl rfl ?_ ?_
    · rintro ⟨-, hinfinite⟩
      exact absurd hinfinite (EReal.abs_coe_lt_top _).ne
    · intro _
      rw [div, value?, Option.some.injEq]
      cases t
      · have hpos : (0 : EReal) < real false n := EReal.coe_pos.mpr (real_pos hquanta)
        cases s
        · exact (EReal.top_div_of_pos_ne_top hpos (EReal.coe_ne_top _)).symm
        · exact (EReal.bot_div_of_pos_ne_top hpos (EReal.coe_ne_top _)).symm
      · have hneg : (real true n : EReal) < 0 := EReal.coe_neg'.mpr (real_neg hquanta)
        cases s
        · exact (EReal.top_div_of_neg_ne_bot hneg (EReal.coe_ne_bot _)).symm
        · exact (EReal.bot_div_of_neg_ne_bot hneg (EReal.coe_ne_bot _)).symm
  · intro s m t _
    refine continues_of_values rfl rfl ?_ ?_
    · rintro ⟨hinfinite, -⟩
      exact absurd hinfinite (EReal.abs_coe_lt_top _).ne
    · intro _
      have hresult : ((finite s m).div (infinite t)).value? = some 0 := value?_eq_zero_iff.mpr rfl
      rw [hresult]
      cases t
      · exact congrArg some EReal.div_top.symm
      · exact congrArg some EReal.div_bot.symm

/-! ## Selections -/

/-- The result is the operand that is selected by value; with NaN, it is the first one. -/
structure Selects (f : EReal → EReal → EReal) (x y r : Double) : Prop where
  nan : x = nan ∨ y = nan → r = x
  value : ∀ a b, x.value? = some a → y.value? = some b → r.value? = some (f a b)

theorem lt_of_nan (h : x = nan ∨ y = nan) : lt x y = false := by
  rcases h with rfl | rfl
  · rfl
  · cases x <;> rfl

theorem selects_min (x y : Double) : Selects Min.min x y (x.min y) := by
  constructor
  · intro h
    rw [min, lt_of_nan h.symm, if_neg Bool.false_ne_true]
  · intro a b hx hy
    rw [min]
    split
    · next hlt => rw [hy, min_eq_right (le_of_lt ((lt_iff_of_value? hy hx).mp hlt))]
    · next hle => rw [hx, min_eq_left (not_lt.mp (mt (lt_iff_of_value? hy hx).mpr hle))]

theorem selects_max (x y : Double) : Selects Max.max x y (x.max y) := by
  constructor
  · intro h
    rw [max, lt_of_nan h, if_neg Bool.false_ne_true]
  · intro a b hx hy
    rw [max]
    split
    · next hlt => rw [hy, max_eq_right (le_of_lt ((lt_iff_of_value? hx hy).mp hlt))]
    · next hle => rw [hx, max_eq_left (not_lt.mp (mt (lt_iff_of_value? hx hy).mpr hle))]

/-! ## Powers -/

/-- The result continues powers to the infinities: to an infinite exponent by the limit of the powers of the magnitude,
and to an infinite base with the sign that odd exponents have. NaN makes NaN, unless the power is one whatever the
operand is. -/
structure ContinuesPower (x y r : Double) : Prop where
  one : y.isZero = true ∨ x.value? = some 1 → r = 1
  nan : y.isZero = false → x.value? ≠ some 1 → x = nan ∨ y = nan → r = nan
  exponent : ∀ s a, y = infinite s → x.value? = some a →
    ∃ c : ℝ≥0∞, r.value? = some (c : EReal) ∧ Tendsto (fun w : ℝ => a.abs ^ w) (if s then atBot else atTop) (𝓝 c)
  base : ∀ s (b : ℝ), x = infinite s → y.value? = some b →
    ∃ c, r.value? = some c ∧ c.abs = ⊤ ^ b ∧ (c < 0 ↔ s = true ∧ 0 < b ∧ ∃ k : ℤ, b = 2 * k + 1)

theorem value?_abs (hx : x.value? = some a) : x.abs.value? = some (a.abs : EReal) := by
  rcases x with _ | s | ⟨s, m⟩
  · cases hx
  · cases hx
    cases s
    · rfl
    · rfl
  · cases hx
    have hnonneg : 0 ≤ real false m := by
      by_cases hm : m.quanta = 0
      · exact (real_of_zero false hm).ge
      · exact (real_pos hm).le
    rw [abs, value?, Option.some.injEq, EReal.coe_abs]
    cases s
    · rw [abs_of_nonneg hnonneg]
    · rw [real_true, abs_neg, abs_of_nonneg hnonneg]

/-- A finite double is an integer if its quanta are that many units. -/
theorem real_eq_iff {n : ℤ} : real s m = n ↔ (if s then -(m.quanta : Int) else m.quanta) = n * unit := by
  rw [real, div_eq_iff cast_unit_pos.ne', ← Int.cast_natCast unit, ← Int.cast_mul, Int.cast_inj]

/-- The double is an odd number. -/
theorem isOdd_iff : (finite s m).isOdd = true ↔ ∃ k : ℤ, real s m = ((2 * k + 1 : ℤ) : ℝ) := by
  have hpos := unit_pos
  simp only [isOdd, beq_iff_eq, real_eq_iff]
  generalize unit = u at *
  constructor
  · intro hodd
    have hquanta : m.quanta = (2 * (m.quanta / (2 * u)) + 1) * u := by
      have hsplit := Nat.div_add_mod m.quanta (2 * u)
      rw [hodd] at hsplit
      rw [Nat.add_mul, Nat.one_mul, Nat.mul_comm 2, Nat.mul_assoc, Nat.mul_comm _ (2 * u)]
      exact hsplit.symm
    generalize m.quanta / (2 * u) = j at hquanta
    cases s
    · refine ⟨j, ?_⟩
      rw [if_neg Bool.false_ne_true, hquanta]
      push_cast
      ring
    · refine ⟨-j - 1, ?_⟩
      rw [if_pos rfl, hquanta]
      push_cast
      ring
  · rintro ⟨k, hk⟩
    have hquanta : m.quanta = (2 * k + 1).natAbs * u := by
      have habs := congrArg Int.natAbs hk
      rw [Int.natAbs_mul, Int.natAbs_natCast] at habs
      rw [← habs]
      cases s
      · rfl
      · rw [if_pos rfl, Int.natAbs_neg, Int.natAbs_natCast]
    obtain ⟨j, hj⟩ : ∃ j, (2 * k + 1).natAbs = 2 * j + 1 := ⟨(2 * k + 1).natAbs / 2, by omega⟩
    rw [hquanta, hj, Nat.add_mul, Nat.one_mul, Nat.mul_right_comm, Nat.mul_add_mod, Nat.mod_eq_of_lt (by omega)]

/-- A power to an infinite exponent is settled by how the magnitude compares with one. -/
theorem power_infinite (hx : x.value? = some a) :
    x.power (infinite s) = if a.abs = 1 then 1 else if decide (a.abs < 1) = s then infinity else 0 := by
  have hone : eq x.abs 1 = true ↔ a.abs = 1 := by
    rw [eq_iff_of_value? (value?_abs hx) value?_one, EReal.coe_ennreal_eq_one]
  have hless : lt x.abs 1 = true ↔ a.abs < 1 := by
    rw [lt_iff_of_value? (value?_abs hx) value?_one, ← EReal.coe_ennreal_one, EReal.coe_ennreal_lt_coe_ennreal_iff]
  have hbase : eq x 1 = true → a.abs = 1 := by
    intro heq
    rw [(eq_iff_of_value? hx value?_one).mp heq]
    simp [← EReal.coe_one, EReal.abs_def]
  have hcompared : (if eq x.abs 1 then (1 : Double) else if lt x.abs 1 == s then infinity else 0) =
      if a.abs = 1 then 1 else if decide (a.abs < 1) = s then infinity else 0 := by
    have hdecide : lt x.abs 1 = decide (a.abs < 1) := Bool.eq_iff_iff.mpr (hless.trans decide_eq_true_iff.symm)
    exact if_congr hone rfl (if_congr (by rw [hdecide, beq_iff_eq]) rfl rfl)
  rw [← hcompared]
  unfold power
  split
  · next heq =>
      -- the powers of one are one: the magnitude is, too
      rw [if_pos (hone.mpr (hbase heq))]
  · rcases x with _ | t | ⟨t, m⟩
    · cases hx
    · rfl
    · rfl

/-- The power to an infinite exponent stands for the limit of the powers of the magnitude. -/
theorem exists_limit (hx : x.value? = some a) (s : Bool) : ∃ c : ℝ≥0∞, (x.power (infinite s)).value? = some (c : EReal) ∧
    Tendsto (fun w : ℝ => a.abs ^ w) (if s then atBot else atTop) (𝓝 c) := by
  rw [power_infinite hx]
  generalize a.abs = t
  have hzero : value? 0 = some ((0 : ℝ≥0∞) : EReal) := by rw [value?_zero, EReal.coe_ennreal_zero]
  have hinfinity : value? infinity = some ((⊤ : ℝ≥0∞) : EReal) := by rw [EReal.coe_ennreal_top]; rfl
  rcases lt_trichotomy t 1 with hless | rfl | hmore
  · rw [if_neg hless.ne, decide_eq_true hless]
    cases s
    · rw [if_neg Bool.noConfusion]
      exact ⟨0, hzero, ENNReal.tendsto_rpow_atTop_of_base_lt_one hless⟩
    · rw [if_pos rfl]
      exact ⟨⊤, hinfinity, ENNReal.tendsto_rpow_atBot_of_base_lt_one hless⟩
  · rw [if_pos rfl]
    refine ⟨1, value?_one.trans (by rw [EReal.coe_ennreal_one]), ?_⟩
    simp only [ENNReal.one_rpow]
    exact tendsto_const_nhds
  · rw [if_neg hmore.ne', decide_eq_false hmore.not_gt]
    cases s
    · rw [if_pos rfl]
      exact ⟨⊤, hinfinity, ENNReal.tendsto_rpow_atTop_of_one_lt_base hmore⟩
    · rw [if_neg Bool.noConfusion]
      exact ⟨0, hzero, ENNReal.tendsto_rpow_atBot_of_one_lt_base hmore⟩

/-- The power of an infinity to a finite exponent is infinite or zero, and negative for odd positive exponents of the
negative infinity. -/
theorem exists_power_of_infinite {b : ℝ} (hy : y.value? = some b) (s : Bool) :
    ∃ c, ((infinite s).power y).value? = some c ∧ c.abs = ⊤ ^ b ∧ (c < 0 ↔ s = true ∧ 0 < b ∧ ∃ k : ℤ, b = 2 * k + 1) := by
  rcases y with _ | t | ⟨t, n⟩
  · cases hy
  · cases t <;> cases hy
  · obtain rfl : real t n = b := EReal.coe_injective (Option.some.inj hy)
    have hless : lt (finite t n) 0 = true ↔ real t n < 0 := by
      rw [lt_iff_of_value? hy value?_zero, ← EReal.coe_zero, EReal.coe_lt_coe_iff]
    unfold power
    split
    · next hzero =>
        have hexponent : real t n = 0 := by
          rw [Bool.or_eq_true] at hzero
          rcases hzero with hzero | hone
          · exact real_of_zero t (beq_iff_eq.mp hzero)
          · refine absurd ((eq_iff_of_value? rfl value?_one).mp hone) ?_
            cases s
            · exact EReal.top_ne_coe 1
            · exact EReal.bot_ne_coe 1
        refine ⟨1, value?_one, ?_, ?_⟩
        · rw [hexponent, ENNReal.rpow_zero]
          simp [← EReal.coe_one, EReal.abs_def]
        · rw [hexponent]
          exact iff_of_false (not_lt.mpr zero_le_one) fun h => lt_irrefl _ h.2.1
    · next hnonzero =>
        have hexponent : real t n ≠ 0 := by
          intro hzero
          refine hnonzero ?_
          rw [isZero, beq_iff_eq.mpr (real_eq_zero_iff.mp hzero), Bool.true_or]
        dsimp only
        rcases lt_or_gt_of_ne hexponent with hneg | hpos
        · rw [if_pos (hless.mpr hneg), ENNReal.top_rpow_of_neg hneg]
          refine ⟨0, ?_, EReal.abs_zero, iff_of_false (lt_irrefl _) fun h => absurd h.2.1 hneg.not_gt⟩
          split
          · rw [value?_neg, value?_zero, Option.map_some, neg_zero]
          · exact value?_zero
        · rw [if_neg (mt hless.mp hpos.not_gt), ENNReal.top_rpow_of_pos hpos]
          split
          · next hodd =>
              rw [Bool.and_eq_true, isOdd_iff] at hodd
              refine ⟨⊥, rfl, rfl, iff_of_true (EReal.bot_lt_zero) ⟨hodd.1, hpos, ?_⟩⟩
              obtain ⟨k, hk⟩ := hodd.2
              exact ⟨k, by rw [hk]; push_cast; rfl⟩
          · next heven =>
              rw [Bool.and_eq_true, isOdd_iff, not_and] at heven
              refine ⟨⊤, rfl, rfl, iff_of_false not_top_lt ?_⟩
              rintro ⟨hs, -, k, hk⟩
              exact heven hs ⟨k, by rw [hk]; push_cast; rfl⟩

theorem continuesPower (x y : Double) : ContinuesPower x y (x.power y) := by
  constructor
  · intro hone
    have hrule : (y.isZero || eq x 1) = true := by
      rw [Bool.or_eq_true]
      exact hone.imp_right fun hx => (eq_iff_of_value? hx value?_one).mpr rfl
    unfold power
    rw [if_pos hrule]
  · intro hzero hone hnan
    have hrule : ¬ (y.isZero || eq x 1) = true := by
      rw [hzero, Bool.false_or]
      intro heq
      rcases hvalue : x.value? with _ | a
      · rw [value?_eq_none_iff.mp hvalue] at heq
        cases heq
      · exact hone (by rw [hvalue, (eq_iff_of_value? hvalue value?_one).mp heq])
    unfold power
    rw [if_neg hrule]
    rcases hnan with rfl | rfl
    · rfl
    · cases x <;> rfl
  · rintro s a rfl hx
    exact exists_limit hx s
  · rintro s b rfl hy
    exact exists_power_of_infinite hy s

end ChatFlow.Double
