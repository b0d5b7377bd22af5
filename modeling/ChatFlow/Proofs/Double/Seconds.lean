import ChatFlow.Double.Arithmetic
import ChatFlow.Proofs.Double.Integers

/-!
# Rounded seconds against whole seconds

Microseconds that are counted in seconds make a double, and this one is rounded. Rounding does not take it below a
whole number of seconds that had passed, as long as there is a double of that number. Nor does it bring it up to one
that had not, if that is not above 2³⁴; above, doubles lie more than two microseconds apart.

* `Magnitude.le_roundQuanta`: rounding does not pass below a magnitude.
* `Magnitude.roundQuanta_lt`: nor up to a whole number of seconds.
* `Double.micros_lt_of_compareInt?`, `Double.compareInt?_of_micros_lt`: what this means for comparisons.
-/

namespace ChatFlow

theorem div_le_roundHalfEven (num den : Nat) : num / den ≤ roundHalfEven num den := by
  rcases roundHalfEven_cases num den with h | h
  · rw [h]
  · omega

/-- Below the half between two neighbours, the lower one is the nearer one. -/
theorem roundHalfEven_le_of_lt {num den k : Nat} (h : 2 * num < (2 * k + 1) * den) : roundHalfEven num den ≤ k := by
  have hexpand : (2 * k + 1) * den = 2 * (den * k) + den := by ring
  have hsplit := Nat.div_add_mod num den
  have hquotient : num / den ≤ k := by
    have hless : num < (k + 1) * den := by
      have hnext : (k + 1) * den = den * k + den := by ring
      omega
    exact Nat.lt_succ_iff.mp (Nat.div_lt_of_lt_mul (by rwa [Nat.mul_comm]))
  rcases Nat.lt_or_eq_of_le hquotient with hless | hsame
  · exact Nat.le_trans (Magnitude.roundHalfEven_le num den) hless
  · -- the rest is less than a half, so the quotient is not rounded up
    have hrest : 2 * (num % den) < den := by
      rw [hsame] at hsplit
      omega
    rw [roundHalfEven, if_pos hrest, hsame]

namespace Magnitude

variable {num den : Nat}

/-- What is rounded is at least what stands before its last bit. -/
theorem mul_pow_le_roundQuanta (num den : Nat) :
    num / den / 2 ^ shiftOf (num / den) * 2 ^ shiftOf (num / den) ≤ roundQuanta num den := by
  show _ ≤ roundHalfEven num (den * 2 ^ shiftOf (num / den)) * 2 ^ shiftOf (num / den)
  refine Nat.mul_le_mul_right _ ?_
  rw [Nat.div_div_eq_div_mul]
  exact div_le_roundHalfEven _ _

/-- Of more than 52 bits, the first one stays. -/
theorem pow_log2_le_kept {q : Nat} (hlarge : 52 ≤ q.log2) : 2 ^ q.log2 ≤ q / 2 ^ shiftOf q * 2 ^ shiftOf q := by
  have hshift : q.log2 = shiftOf q + 52 := by
    unfold shiftOf
    omega
  have hq : q ≠ 0 := by
    rintro rfl
    exact absurd hlarge (by decide)
  have hfirst : 2 ^ 52 ≤ q / 2 ^ shiftOf q := by
    rw [Nat.le_div_iff_mul_le (Nat.two_pow_pos _), ← Nat.pow_add, Nat.add_comm, ← hshift]
    exact Nat.log2_self_le hq
  calc 2 ^ q.log2 = 2 ^ 52 * 2 ^ shiftOf q := by rw [hshift, Nat.pow_add, Nat.mul_comm]
    _ ≤ q / 2 ^ shiftOf q * 2 ^ shiftOf q := Nat.mul_le_mul_right _ hfirst

/-- Rounding does not pass below a magnitude. -/
theorem le_roundQuanta (m : Magnitude) (hden : 0 < den) (h : m.quanta * den ≤ num) :
    m.quanta ≤ roundQuanta num den := by
  refine Nat.le_trans ?_ (mul_pow_le_roundQuanta num den)
  have hle : m.quanta ≤ num / den := (Nat.le_div_iff_mul_le hden).mpr h
  generalize num / den = q at hle
  rcases Nat.eq_zero_or_pos m.quanta with hzero | hpos
  · rw [hzero]
    exact Nat.zero_le _
  have hlog : m.quanta.log2 ≤ q.log2 :=
    Nat.lt_succ_iff.mp ((Nat.log2_lt hpos.ne').mpr (Nat.lt_of_le_of_lt hle Nat.lt_log2_self))
  rcases Nat.lt_or_eq_of_le hlog with hless | hsame
  · -- the magnitude has fewer bits than the quotient, of which the first one stays
    rcases Nat.lt_or_ge q.log2 52 with hsmall | hlarge
    · have hshift : shiftOf q = 0 := by
        unfold shiftOf
        omega
      rw [hshift, Nat.pow_zero, Nat.div_one, Nat.mul_one]
      exact hle
    · have hbits : m.quanta < 2 ^ q.log2 := by
        refine Nat.lt_of_lt_of_le Nat.lt_log2_self ?_
        exact Nat.pow_le_pow_right (by decide) hless
      exact Nat.le_trans (Nat.le_of_lt hbits) (pow_log2_le_kept hlarge)
  · -- the last bit of both is the same
    have hdvd := m.pow_shiftOf_dvd
    have hshift : shiftOf m.quanta = shiftOf q := by rw [shiftOf, shiftOf, hsame]
    rw [hshift] at hdvd
    calc m.quanta = m.quanta / 2 ^ shiftOf q * 2 ^ shiftOf q := (Nat.div_mul_cancel hdvd).symm
      _ ≤ q / 2 ^ shiftOf q * 2 ^ shiftOf q := Nat.mul_le_mul_right _ (Nat.div_le_div_right hle)

/-- The quanta of microseconds below 2³⁴ seconds are rounded to a bit that stands 19 places behind the point or further.
The unit is a power of two, of which the exponent is left open. -/
theorem exists_places {d n e : Nat} (he : 1000 ≤ e) (hn : n ≤ 2 ^ 34) (hd : d < n * 1000000) :
    ∃ j, shiftOf (d * 2 ^ e / 1000000) + j = e ∧ 19 ≤ j := by
  have hquotient : d * 2 ^ e / 1000000 < 2 ^ (34 + e) := by
    refine Nat.div_lt_of_lt_mul ?_
    calc d * 2 ^ e < n * 1000000 * 2 ^ e := Nat.mul_lt_mul_of_pos_right hd (Nat.two_pow_pos e)
      _ ≤ 2 ^ 34 * 1000000 * 2 ^ e := Nat.mul_le_mul_right _ (Nat.mul_le_mul_right _ hn)
      _ = 1000000 * 2 ^ (34 + e) := by rw [Nat.pow_add, ← Nat.mul_assoc, Nat.mul_comm 1000000]
  have hbits : (d * 2 ^ e / 1000000).log2 < 34 + e := by
    rcases Nat.eq_zero_or_pos (d * 2 ^ e / 1000000) with hzero | hpos
    · rw [hzero]
      exact Nat.lt_of_lt_of_le (by decide : Nat.log2 0 < 1) (by omega)
    · exact (Nat.log2_lt hpos.ne').mpr hquotient
  refine ⟨e - shiftOf (d * 2 ^ e / 1000000), ?_, ?_⟩
  · unfold shiftOf
    omega
  · unfold shiftOf
    omega

/-- There, half of a bit is less than a microsecond, and microseconds below a whole number of seconds are rounded
below it. -/
theorem roundHalfEven_lt {d n s j : Nat} (hj : 19 ≤ j) (hd : d < n * 1000000) :
    roundHalfEven (d * 2 ^ (s + j)) (1000000 * 2 ^ s) < n * 2 ^ j := by
  have hpos : 0 < n := by omega
  have hlast : 1 ≤ n * 2 ^ j := Nat.mul_pos hpos (Nat.two_pow_pos j)
  suffices hround : roundHalfEven (d * 2 ^ (s + j)) (1000000 * 2 ^ s) ≤ n * 2 ^ j - 1 by omega
  refine roundHalfEven_le_of_lt ?_
  have hmicro : 1000000 * 2 ^ s < 2 * (2 ^ j * 2 ^ s) := by
    have hsmall : 1000000 < 2 * 2 ^ j :=
      Nat.lt_of_lt_of_le (by decide) (Nat.mul_le_mul_left 2 (Nat.pow_le_pow_right (by decide) hj))
    rw [← Nat.mul_assoc]
    exact Nat.mul_lt_mul_of_pos_right hsmall (Nat.two_pow_pos s)
  have hleft : 2 * (d * 2 ^ (s + j)) + 2 * (2 ^ j * 2 ^ s) ≤ 2 * (n * 1000000 * (2 ^ j * 2 ^ s)) := by
    rw [Nat.pow_add, Nat.mul_comm (2 ^ s), ← Nat.mul_add]
    refine Nat.mul_le_mul_left 2 ?_
    calc d * (2 ^ j * 2 ^ s) + 2 ^ j * 2 ^ s = (d + 1) * (2 ^ j * 2 ^ s) := by ring
      _ ≤ n * 1000000 * (2 ^ j * 2 ^ s) := Nat.mul_le_mul_right _ hd
  have hright : (2 * (n * 2 ^ j - 1) + 1) * (1000000 * 2 ^ s) + 1000000 * 2 ^ s =
      2 * (n * 1000000 * (2 ^ j * 2 ^ s)) := by
    obtain ⟨k, hk⟩ := Nat.exists_eq_add_of_le hlast
    have hcut : n * 2 ^ j - 1 = k := by omega
    calc (2 * (n * 2 ^ j - 1) + 1) * (1000000 * 2 ^ s) + 1000000 * 2 ^ s
        = 2 * (1 + k) * (1000000 * 2 ^ s) := by rw [hcut]; ring
      _ = 2 * (n * 2 ^ j) * (1000000 * 2 ^ s) := by rw [hk]
      _ = 2 * (n * 1000000 * (2 ^ j * 2 ^ s)) := by ring
  omega

/-- A whole number of microseconds below a number of seconds up to 2³⁴ is rounded below it. -/
theorem roundQuanta_lt {d n e : Nat} (he : 1000 ≤ e) (hn : n ≤ 2 ^ 34) (hd : d < n * 1000000) :
    roundQuanta (d * 2 ^ e) 1000000 < n * 2 ^ e := by
  obtain ⟨j, hj, hplaces⟩ := exists_places he hn hd
  generalize hs : shiftOf (d * 2 ^ e / 1000000) = s at hj
  subst hj
  show roundHalfEven (d * 2 ^ (s + j)) (1000000 * 2 ^ shiftOf (d * 2 ^ (s + j) / 1000000)) *
    2 ^ shiftOf (d * 2 ^ (s + j) / 1000000) < _
  rw [hs]
  calc roundHalfEven (d * 2 ^ (s + j)) (1000000 * 2 ^ s) * 2 ^ s < n * 2 ^ j * 2 ^ s :=
        Nat.mul_lt_mul_of_pos_right (roundHalfEven_lt hplaces hd) (Nat.two_pow_pos s)
    _ = n * 2 ^ (s + j) := by rw [Nat.pow_add, Nat.mul_comm (2 ^ s), Nat.mul_assoc]

end Magnitude

namespace Double

/-- A rounded quotient compares with a whole number, of which there is a double, as its quanta do. -/
theorem compareInt?_ofQuanta (num den : Nat) {n : Nat} (hn : Exact n) :
    (ofQuanta false num den).compareInt? n = some .lt ↔ Magnitude.roundQuanta num den < n * unit := by
  obtain ⟨m, hm⟩ := hn
  rw [Int.natAbs_natCast] at hm
  unfold ofQuanta Magnitude.round
  split
  · next m' hround =>
      split at hround
      · cases hround
        have hcompare : compare (Magnitude.roundQuanta num den : Int) ((n : Int) * unit) = .lt ↔
            Magnitude.roundQuanta num den < n * unit := by
          rw [Int.compare_eq_lt]
          exact Int.ofNat_lt
        exact Iff.trans ⟨Option.some.inj, congrArg some⟩ hcompare
      · cases hround
  · next hround =>
      split at hround
      · cases hround
      · next hlarge =>
          -- what is rounded to infinity is beyond all doubles
          have hbounded := m.bounded
          rw [hm] at hbounded
          exact iff_of_false nofun fun hless => hlarge (Nat.lt_trans hless hbounded)

/-- A double that is not positive is less than all positive numbers. -/
theorem compareInt?_of_negative (m : Magnitude) {n : Int} (hn : 0 < n) :
    (finite true m).compareInt? n = some .lt := by
  have hunit : (0 : Int) < (unit : Nat) := Int.natCast_pos.mpr unit_pos
  have hseconds : 0 < n * (unit : Nat) := Int.mul_pos hn hunit
  have hless : -(m.quanta : Int) < n * (unit : Nat) :=
    Int.lt_of_le_of_lt (Int.neg_nonpos_of_nonneg (Int.natCast_nonneg _)) hseconds
  exact congrArg some (Int.compare_eq_lt.mpr hless)

theorem compareInt?_ofQuanta_of_negative (num den : Nat) {n : Int} (hn : 0 < n) :
    (ofQuanta true num den).compareInt? n = some .lt := by
  unfold ofQuanta
  cases Magnitude.round num den with
  | none => rfl
  | some m => exact compareInt?_of_negative m hn

theorem compareInt?_ofRatio_of_negative {d n : Int} (hd : d < 0) (hn : 0 < n) (den : Nat) :
    (ofRatio d den).compareInt? n = some .lt := by
  rw [ofRatio, decide_eq_true hd]
  exact compareInt?_ofQuanta_of_negative _ den hn

/-- Rounded microseconds do not get below a whole number of seconds that had passed, if there is a double of it. -/
theorem lt_of_roundQuanta_micros {k j : Nat} (hexact : Exact j)
    (hless : Magnitude.roundQuanta (k * unit) 1000000 < j * unit) : k < j * 1000000 := by
  by_contra hmore
  -- the whole number is a double, which rounding does not pass
  obtain ⟨m, hm⟩ := hexact
  rw [Int.natAbs_natCast] at hm
  have hle : m.quanta ≤ Magnitude.roundQuanta (k * unit) 1000000 := by
    refine m.le_roundQuanta (by decide) ?_
    rw [hm, Nat.mul_right_comm]
    exact Nat.mul_le_mul_right _ (Nat.not_lt.mp hmore)
  rw [hm] at hle
  exact absurd hless (Nat.not_lt.mpr hle)

/-- Microseconds counted in seconds that are less than a whole number of seconds were so before they were rounded. -/
theorem micros_lt_of_compareInt? {d n : Int} (hn : 0 < n) (hmost : n ≤ 2 ^ 53)
    (h : (ofRatio d 1000000).compareInt? n = some .lt) : d < n * 1000000 := by
  rcases Int.lt_or_le d 0 with hnegative | hpositive
  · omega
  · obtain ⟨k, rfl⟩ := Int.eq_ofNat_of_zero_le hpositive
    obtain ⟨j, rfl⟩ := Int.eq_ofNat_of_zero_le (Int.le_of_lt hn)
    have hsign : ¬ (k : Int) < 0 := by omega
    have hj : j ≤ 2 ^ 53 := by omega
    have hexact : Exact j := exact_of_natAbs_le hj
    rw [ofRatio, decide_eq_false hsign, Int.natAbs_natCast, compareInt?_ofQuanta _ _ hexact] at h
    have hless := lt_of_roundQuanta_micros hexact h
    omega

/-- Microseconds that are less than a whole number of seconds, up to 2³⁴, are so when they are counted in seconds. -/
theorem compareInt?_of_micros_lt {d n : Int} (hn : 0 < n) (hmost : n ≤ 2 ^ 34) (h : d < n * 1000000) :
    (ofRatio d 1000000).compareInt? n = some .lt := by
  rcases Int.lt_or_le d 0 with hnegative | hpositive
  · -- what lies in the past is less anyway
    exact compareInt?_ofRatio_of_negative hnegative hn _
  · obtain ⟨k, rfl⟩ := Int.eq_ofNat_of_zero_le hpositive
    obtain ⟨j, rfl⟩ := Int.eq_ofNat_of_zero_le (Int.le_of_lt hn)
    have hsign : ¬ (k : Int) < 0 := by omega
    have hj : j ≤ 2 ^ 34 := by omega
    have hexact : Exact j := exact_of_natAbs_le (Nat.le_trans hj (by decide))
    have hless : k < j * 1000000 := by omega
    rw [ofRatio, decide_eq_false hsign, Int.natAbs_natCast, compareInt?_ofQuanta _ _ hexact, unit_eq]
    exact Magnitude.roundQuanta_lt (by decide) hj hless

end Double

end ChatFlow
