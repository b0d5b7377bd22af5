import ChatFlow.Double.Arithmetic
import ChatFlow.Proofs.Double.Shortest

/-!
# Integers that are doubles

The integer part of a finite double is a double itself, so an integer that was cut from a double stays the
same when it is taken as a double and cut again.

* `Double.Exact`: a double is equal to the integer.
* `Double.exact_of_truncate?`: the integer part of a double is such an integer; `exact_of_floor?` and `exact_of_ceil?`
  say so of a double that is rounded down or up.
* `Double.Exact.truncate?_ofInt`: taken as a double and cut, it is what it was.
-/

namespace ChatFlow

namespace Magnitude

/-- The whole part of a magnitude, in quanta, is that of a magnitude too. -/
theorem exists_whole (m : Magnitude) {k : Nat} :
    ∃ m' : Magnitude, m'.quanta = m.quanta / 2 ^ k * 2 ^ k := by
  have hrepresentable : ∃ significand s, significand ≤ Nat.pow 2 53 ∧
      m.quanta / 2 ^ k * 2 ^ k = significand * Nat.pow 2 s := by
    obtain ⟨significand, s, hsignificand, hquanta⟩ := m.representable
    have hpow : m.quanta = significand * 2 ^ s := hquanta
    rcases Nat.le_total k s with hks | hks
    · -- nothing stands behind the point
      obtain ⟨j, rfl⟩ := Nat.exists_eq_add_of_le hks
      have hdvd : 2 ^ k ∣ significand * 2 ^ (k + j) := by
        rw [Nat.pow_add, Nat.mul_left_comm]
        exact Nat.dvd_mul_right _ _
      rw [hpow, Nat.div_mul_cancel hdvd]
      exact ⟨significand, k + j, hsignificand, rfl⟩
    · -- the significand loses the bits behind the point
      obtain ⟨j, rfl⟩ := Nat.exists_eq_add_of_le hks
      have hdiv : significand * 2 ^ s / 2 ^ (s + j) = significand / 2 ^ j := by
        rw [Nat.pow_add, Nat.mul_comm significand, Nat.mul_div_mul_left _ _ (Nat.two_pow_pos s)]
      rw [hpow, hdiv]
      exact ⟨significand / 2 ^ j, s + j, Nat.le_trans (Nat.div_le_self _ _) hsignificand, rfl⟩
  exact ⟨⟨_, hrepresentable, Nat.lt_of_le_of_lt (Nat.div_mul_le_self _ _) m.bounded⟩, rfl⟩

end Magnitude

namespace Double

/-- A double is equal to the integer. -/
def Exact (n : Int) : Prop := ∃ m : Magnitude, m.quanta = n.natAbs * unit

theorem unit_eq : unit = 2 ^ 1074 := by
  rw [unit, Nat.pow_eq]

theorem unit_pos : 0 < unit := Magnitude.two_pow_pos 1074

theorem ofQuanta_exact (s : Bool) (m : Magnitude) : ofQuanta s m.quanta 1 = .finite s m := by
  have hround := m.round_exact Nat.one_pos
  rw [Nat.mul_one] at hround
  unfold ofQuanta
  rw [hround]

/-- An integer with a double equal to it is taken as this one. -/
theorem Exact.ofInt_eq {n : Int} (h : Exact n) :
    ∃ m : Magnitude, m.quanta = n.natAbs * unit ∧ ofInt n = .finite (n < 0 : Bool) m := by
  obtain ⟨m, hm⟩ := h
  refine ⟨m, hm, ?_⟩
  rw [ofInt, ofRatio, ← hm, ofQuanta_exact]

theorem Exact.isFinite_ofInt {n : Int} (h : Exact n) : (ofInt n).isFinite = true := by
  obtain ⟨m, -, hofInt⟩ := h.ofInt_eq
  rw [hofInt]
  rfl

/-- Taken as a double and cut, the integer is what it was. -/
theorem Exact.truncate?_ofInt {n : Int} (h : Exact n) : (ofInt n).truncate? = some n := by
  obtain ⟨m, hm, hofInt⟩ := h.ofInt_eq
  have hpos : (unit : Int) ≠ 0 := by
    have := unit_pos
    omega
  rw [hofInt, truncate?, quanta?, Option.map_some, hm]
  refine congrArg some ?_
  generalize unit = u at *
  by_cases hn : n < 0
  · simp only [hn, decide_true, if_true]
    rw [Int.neg_tdiv, Int.natCast_mul, Int.mul_tdiv_cancel _ hpos]
    omega
  · simp only [hn, decide_false, Bool.false_eq_true, if_false]
    rw [Int.natCast_mul, Int.mul_tdiv_cancel _ hpos]
    omega

/-- The integer part of a double is a double. -/
theorem exact_of_truncate? {x : Double} {n : Int} (h : x.truncate? = some n) : Exact n := by
  cases x with
  | nan => cases h
  | infinite s => cases h
  | finite s m =>
      obtain ⟨k, hk⟩ : ∃ k, unit = 2 ^ k := ⟨1074, unit_eq⟩
      obtain ⟨m', hm'⟩ := m.exists_whole (k := k)
      have hn : n.natAbs = m.quanta / unit := by
        rw [truncate?, quanta?, Option.map_some] at h
        generalize unit = u at *
        have hcut := Option.some.inj h
        rw [← hcut, Int.natAbs_tdiv]
        cases s with
        | false => rfl
        | true =>
            rw [if_pos rfl, Int.natAbs_neg]
            rfl
      exact ⟨m', by rw [hm', hn, hk]⟩

/-- Integers of up to 53 bits are doubles. -/
theorem exact_of_natAbs_le {n : Int} (h : n.natAbs ≤ Nat.pow 2 53) : Exact n := by
  have hlargest : Nat.pow 2 53 * unit < Nat.pow 2 overflowBit := by decide +kernel
  have hbounded : n.natAbs * unit < Nat.pow 2 overflowBit :=
    Nat.lt_of_le_of_lt (Nat.mul_le_mul_right unit h) hlargest
  exact ⟨⟨n.natAbs * unit, ⟨n.natAbs, 1074, h, rfl⟩, hbounded⟩, rfl⟩

/-- Doubles from 53 bits on are whole. -/
theorem unit_dvd_of_le (m : Magnitude) (h : Nat.pow 2 53 * unit ≤ m.quanta) : unit ∣ m.quanta := by
  obtain ⟨significand, s, hsignificand, hquanta⟩ := m.representable
  rcases Nat.lt_or_ge s 1074 with hs | hs
  · -- a shorter shift stays below
    have hpow : Nat.pow 2 s < unit := Nat.pow_lt_pow_right (by decide) hs
    have hless : significand * Nat.pow 2 s < Nat.pow 2 53 * unit :=
      Nat.lt_of_le_of_lt (Nat.mul_le_mul_right _ hsignificand) (Nat.mul_lt_mul_of_pos_left hpow (Magnitude.two_pow_pos 53))
    omega
  · rw [hquanta]
    exact Nat.dvd_mul_left_of_dvd (Nat.pow_dvd_pow 2 hs) significand

theorem exact_of_floor? {x : Double} {n : Int} (h : x.floor? = some n) : Exact n := by
  cases x with
  | nan => cases h
  | infinite s => cases h
  | finite s m =>
      have hwhole := unit_dvd_of_le m
      have hpos := unit_pos
      have hsmall := fun hn => exact_of_natAbs_le (n := n) hn
      rw [floor?, quanta?, Option.map_some, Option.some.injEq, Int.fdiv_eq_ediv_of_nonneg _ (Int.natCast_nonneg _)] at h
      have hquanta : (if s = true then -(m.quanta : Int) else m.quanta).natAbs = m.quanta := by
        cases s
        · rfl
        · rw [if_pos rfl, Int.natAbs_neg, Int.natAbs_natCast]
      generalize (if s = true then -(m.quanta : Int) else m.quanta) = q at *
      by_cases hdvd : unit ∣ m.quanta
      · refine ⟨m, ?_⟩
        have hq : (unit : Int) ∣ q := Int.natCast_dvd.mpr (by rwa [hquanta])
        rw [← hquanta, ← Int.ediv_mul_cancel hq, h, Int.natAbs_mul, Int.natAbs_natCast]
      · refine hsmall ?_
        have hless : m.quanta < Nat.pow 2 53 * unit := Nat.lt_of_not_le (mt hwhole hdvd)
        have hlower : -(Nat.pow 2 53 : Int) ≤ q / unit := by
          refine Int.le_ediv_of_mul_le (by omega) ?_
          rw [Int.neg_mul, ← Int.natCast_mul]
          omega
        have hupper : q / unit < (Nat.pow 2 53 : Int) := by
          refine Int.ediv_lt_of_lt_mul (by omega) ?_
          rw [← Int.natCast_mul]
          omega
        omega

theorem Exact.neg {n : Int} (h : Exact n) : Exact (-n) := by
  rwa [Exact, Int.natAbs_neg]

theorem exact_of_ceil? {x : Double} {n : Int} (h : x.ceil? = some n) : Exact n := by
  obtain ⟨q, hq, rfl⟩ := Option.map_eq_some_iff.mp h
  have hneg : x.neg.quanta? = some (-q) := by
    rcases x with _ | s | ⟨s, m⟩
    · cases hq
    · cases hq
    · cases hq
      cases s
      · rfl
      · exact congrArg some (Int.neg_neg _).symm
  have hfloor : x.neg.floor? = some (Int.fdiv (-q) unit) := by rw [floor?, hneg, Option.map_some]
  exact (exact_of_floor? hfloor).neg

theorem isFinite_one : Double.isFinite 1 = true := (exact_of_natAbs_le (n := 1) (by decide)).isFinite_ofInt

theorem isFinite_ten : Double.isFinite 10 = true := (exact_of_natAbs_le (n := 10) (by decide)).isFinite_ofInt

/-- An integer that is a double is not too long to be written. -/
theorem Exact.not_integerTooLong {n : Int} (h : Exact n) : integerTooLong n = false := by
  obtain ⟨m, hm⟩ := h
  have hbounded := m.bounded
  have hpow : Nat.pow 2 overflowBit ≤ Nat.pow 10 maxIntegerDigits := by decide +kernel
  have hpos := unit_pos
  rw [integerTooLong, decide_eq_false_iff_not, Nat.not_le]
  generalize Nat.pow 2 overflowBit = b at *
  generalize Nat.pow 10 maxIntegerDigits = t at *
  generalize unit = u at *
  have hn : n.natAbs ≤ n.natAbs * u := Nat.le_mul_of_pos_right _ hpos
  omega

end Double

end ChatFlow
