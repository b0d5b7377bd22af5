import ChatFlow.Proofs.Double.Largest

/-!
# Sums of whole doubles

The sum of two doubles that are integers is the sum of these integers, as long as a double is equal to it, and so is the
difference. All integers of up to 53 bits are such. Whole doubles compare as their integers do.

* `Double.whole?`: the integer that a double is equal to.
* `Double.whole?_add`, `Double.whole?_sub`: the sum of two of them, and the difference.
* `Double.le_iff_of_whole?`: how they compare.
* `Value.amount?`, `Value.start?`: the integer that a value counts for when it is added, or begun with.
-/

namespace ChatFlow

namespace Double

variable {x y : Double} {a b n : Int}

/-- The integer that a double is equal to. -/
def whole? (x : Double) : Option Int := if x.isIntegral then x.truncate? else none

theorem whole?_eq_some_iff : x.whole? = some n ↔ x.quanta? = some (n * unit) := by
  have hpos := unit_pos
  have hneither : (none : Option Int) = some n ↔ (none : Option Int) = some (n * unit) := by
    constructor
    · intro h
      cases h
    · intro h
      cases h
  rcases x with _ | s | ⟨s, m⟩
  · exact hneither
  · exact hneither
  · have hdvd : (finite s m).isIntegral = true ↔ (unit : Int) ∣ (finite s m).quanta?.getD 0 := by
      rw [isIntegral, quanta?, Option.getD_some, Int.natCast_dvd, beq_iff_eq, ← Nat.dvd_iff_mod_eq_zero]
      cases s
      · rfl
      · rw [if_pos rfl, Int.natAbs_neg]
        rfl
    rw [whole?, Option.ite_none_right_eq_some, hdvd, truncate?, quanta?, Option.map_some, Option.getD_some,
      Option.some.injEq, Option.some.injEq]
    -- the sign is settled: it is a matter of signed quanta from here on
    generalize (if s = true then -(m.quanta : Int) else m.quanta) = q
    constructor
    · rintro ⟨hwhole, rfl⟩
      exact (Int.tdiv_mul_cancel hwhole).symm
    · rintro rfl
      exact ⟨Int.dvd_mul_left .., Int.mul_tdiv_cancel _ (by omega)⟩

/-- What is taken for the short form of a whole double is the integer. -/
theorem rounded_of_whole? (h : x.whole? = some n) : x.rounded = .int n := by
  rw [whole?, Option.ite_none_right_eq_some] at h
  rw [rounded, if_pos h.1, h.2, Option.getD_some]

/-- A sum of quanta that a magnitude has is not rounded. -/
theorem quanta?_add {q r : Int} (hx : x.quanta? = some q) (hy : y.quanta? = some r)
    (hexact : ∃ m : Magnitude, m.quanta = (q + r).natAbs) : (x.add y).quanta? = some (q + r) := by
  obtain ⟨sum, hsum⟩ := hexact
  rcases x with _ | s | ⟨s, m⟩
  · cases hx
  · cases hx
  rcases y with _ | t | ⟨t, k⟩
  · cases hy
  · cases hy
  rw [quanta?, Option.some.injEq] at hx hy
  have hadd : (finite s m).add (finite t k) = ofSignedQuanta (s && t) (q + r) := by
    rw [← hx, ← hy]
    rfl
  rw [hadd, ofSignedQuanta]
  -- only zero keeps the signs of what was added; any other sum has its own
  split
  · next hzero =>
      rw [hzero]
      cases s && t
      · rfl
      · rfl
  · rw [← hsum, ofQuanta_exact, quanta?, hsum]
    split
    · next hnegative =>
        have := of_decide_eq_true hnegative
        congr 1
        omega
    · next hpositive =>
        have := of_decide_eq_false (Bool.eq_false_iff.mpr hpositive)
        congr 1
        omega

theorem whole?_add (hx : x.whole? = some a) (hy : y.whole? = some b) (hexact : Exact (a + b)) :
    (x.add y).whole? = some (a + b) := by
  rw [whole?_eq_some_iff] at hx hy ⊢
  rw [quanta?_add hx hy, ← Int.add_mul]
  obtain ⟨m, hm⟩ := hexact
  refine ⟨m, ?_⟩
  rw [hm, ← Int.add_mul, Int.natAbs_mul, Int.natAbs_natCast]

theorem whole?_neg (hx : x.whole? = some a) : x.neg.whole? = some (-a) := by
  rw [whole?_eq_some_iff] at hx ⊢
  rcases x with _ | s | ⟨s, m⟩
  · cases hx
  · cases hx
  · rw [quanta?, Option.some.injEq] at hx
    rw [neg, quanta?, Option.some.injEq, Int.neg_mul, ← hx]
    cases s
    · rfl
    · exact (Int.neg_neg _).symm

theorem whole?_sub (hx : x.whole? = some a) (hy : y.whole? = some b) (hexact : Exact (a - b)) :
    (x.sub y).whole? = some (a - b) := by
  rw [Int.sub_eq_add_neg] at hexact ⊢
  exact whole?_add hx (whole?_neg hy) hexact

/-- Whole doubles compare as the integers do that they are equal to. -/
theorem le_iff_of_whole? (hx : x.whole? = some a) (hy : y.whole? = some b) : x.le y = true ↔ a ≤ b := by
  rw [whole?_eq_some_iff] at hx hy
  have hpos : (0 : Int) < unit := Int.natCast_pos.mpr unit_pos
  rcases x with _ | s | ⟨s, m⟩
  · cases hx
  · cases hx
  rcases y with _ | t | ⟨t, k⟩
  · cases hy
  · cases hy
  rw [le, lt, eq, hx, hy, Option.getD_some, Option.getD_some, Bool.or_eq_true, decide_eq_true_eq, beq_iff_eq,
    Int.mul_lt_mul_right hpos, Int.mul_eq_mul_right_iff (by omega)]
  omega

theorem isNaN_of_whole? (hx : x.whole? = some a) : x.isNaN = false := by
  cases x with
  | nan => cases hx
  | infinite s => cases hx
  | finite s m => rfl
theorem Exact.whole?_ofInt (h : Exact n) : (ofInt n).whole? = some n := by
  obtain ⟨m, hm, hofInt⟩ := h.ofInt_eq
  rw [whole?_eq_some_iff, hofInt, quanta?, hm, Int.natCast_mul]
  generalize (unit : Int) = u
  split
  · next hnegative =>
      have hnatAbs : (n.natAbs : Int) = -n := Int.ofNat_natAbs_of_nonpos (Int.le_of_lt (of_decide_eq_true hnegative))
      rw [hnatAbs, Int.neg_mul, Int.neg_neg]
  · next hpositive =>
      have hnatAbs : (n.natAbs : Int) = n :=
        Int.natAbs_of_nonneg (Int.not_lt.mp (of_decide_eq_false (Bool.eq_false_iff.mpr hpositive)))
      rw [hnatAbs]

end Double

namespace Value

/-- The integer that a value counts for when it is added. -/
def amount? (v : Value) : Option Int := v.exactDouble.toOption.bind Double.whole?

/-- The integer that a value counts for when something is added to it. -/
def start? (v : Value) : Option Int := (v.toDouble .nan).toOption.bind Double.whole?

variable {n : Int}

/-- An integer that a double is equal to counts for itself. -/
theorem amount?_int (h : Double.Exact n) : (int n).amount? = some n := by
  rw [amount?, exactDouble, doubleOfInt_eq, if_pos h.natAbs_lt_beyond, Except.toOption, Option.bind_some,
    h.whole?_ofInt]

theorem start?_int (h : Double.Exact n) : (int n).start? = some n := by
  rw [start?, toDouble, doubleOfInt_eq, if_pos h.natAbs_lt_beyond, Except.toOption, Option.bind_some, h.whole?_ofInt]

end Value

end ChatFlow
