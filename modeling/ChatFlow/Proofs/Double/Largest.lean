import ChatFlow.Proofs.Double.Seconds
import ChatFlow.Value.Number

/-!
# Integers beyond all doubles

The largest double is half of its last bit away from a power of two. An integer from there on is rounded up to that
power, for which there is no double; every other one has a double near it.

* `Magnitude.roundQuanta_lt_iff`: which quanta are rounded to a power of two, or further.
* `Double.beyond`: the least integer without a double near it.
* `doubleOfInt_eq`: which integers can be taken as doubles.
-/

namespace ChatFlow

namespace Magnitude

variable {q e : Nat}

/-- What is more than half of a last bit below a power of two is rounded below it. -/
theorem roundQuanta_lt_of_lt (h : q < (2 ^ 54 - 1) * 2 ^ e) : roundQuanta q 1 < 2 ^ (54 + e) := by
  have hpos : 0 < 2 ^ e := Nat.two_pow_pos e
  have hpow : 2 ^ (54 + e) = 2 ^ 54 * 2 ^ e := Nat.pow_add ..
  show roundHalfEven q (1 * 2 ^ shiftOf (q / 1)) * 2 ^ shiftOf (q / 1) < _
  rw [Nat.div_one, Nat.one_mul]
  rcases Nat.lt_or_ge q (2 ^ (53 + e)) with hsmall | hlarge
  · -- even rounded up to the next power of two, it is below
    have hbits : roundHalfEven q (2 ^ shiftOf q) ≤ 2 ^ 53 := by
      have hdigits := div_shift_lt q 1
      rw [Nat.div_one, Nat.one_mul] at hdigits
      exact Nat.le_trans (roundHalfEven_le ..) hdigits
    have hshift : shiftOf q ≤ e := by
      rcases Nat.eq_zero_or_pos q with rfl | hq
      · exact Nat.zero_le _
      · have hlog := (Nat.log2_lt hq.ne').mpr hsmall
        unfold shiftOf
        omega
    calc roundHalfEven q (2 ^ shiftOf q) * 2 ^ shiftOf q
        ≤ 2 ^ 53 * 2 ^ e := Nat.mul_le_mul hbits (Nat.pow_le_pow_right (by decide) hshift)
      _ < 2 ^ (54 + e) := by omega
  · have hshift : shiftOf q = e + 1 := by
      have hq : q ≠ 0 := (Nat.lt_of_lt_of_le (Nat.two_pow_pos _) hlarge).ne'
      have hlower := (Nat.le_log2 hq).mpr hlarge
      have hupper : q.log2 < 54 + e := (Nat.log2_lt hq).mpr (by omega)
      unfold shiftOf
      omega
    have hnext : 2 ^ (e + 1) = 2 * 2 ^ e := by rw [Nat.pow_succ, Nat.mul_comm]
    have hbits : roundHalfEven q (2 ^ (e + 1)) ≤ 2 ^ 53 - 1 := by
      apply roundHalfEven_le_of_lt
      omega
    rw [hshift]
    calc roundHalfEven q (2 ^ (e + 1)) * 2 ^ (e + 1)
        ≤ (2 ^ 53 - 1) * 2 ^ (e + 1) := Nat.mul_le_mul_right _ hbits
      _ < 2 ^ (54 + e) := by omega

/-- From half of a last bit below a power of two on, everything is rounded up to it. -/
theorem le_roundQuanta_of_le (h : (2 ^ 54 - 1) * 2 ^ e ≤ q) : 2 ^ (54 + e) ≤ roundQuanta q 1 := by
  have hpos : 0 < 2 ^ e := Nat.two_pow_pos e
  have hpow : 2 ^ (54 + e) = 2 ^ 54 * 2 ^ e := Nat.pow_add ..
  have hq : q ≠ 0 := by omega
  rcases Nat.lt_or_ge q (2 ^ (54 + e)) with hsmall | hlarge
  · have hnext : 2 ^ (e + 1) = 2 * 2 ^ e := by rw [Nat.pow_succ, Nat.mul_comm]
    have hshift : shiftOf q = e + 1 := by
      have hlower : 53 + e ≤ q.log2 := (Nat.le_log2 hq).mpr (by rw [Nat.pow_add]; omega)
      have hupper := (Nat.log2_lt hq).mpr hsmall
      unfold shiftOf
      omega
    -- the quotient is odd and the rest at least a half, so it is rounded up
    have hquotient : q / 2 ^ (e + 1) = 2 ^ 53 - 1 := by
      rw [Nat.div_eq_iff (Nat.two_pow_pos _)]
      omega
    have hbits : roundHalfEven q (2 ^ (e + 1)) = 2 ^ 53 := by
      have hsplit := Nat.div_add_mod q (2 ^ (e + 1))
      rw [hquotient] at hsplit
      have hrest : ¬ 2 * (q % 2 ^ (e + 1)) < 2 ^ (e + 1) := by omega
      rw [roundHalfEven, if_neg hrest, hquotient]
      split
      · rfl
      · rfl
    show _ ≤ roundHalfEven q (1 * 2 ^ shiftOf (q / 1)) * 2 ^ shiftOf (q / 1)
    rw [Nat.div_one, Nat.one_mul, hshift, hbits]
    omega
  · have hlog : 54 + e ≤ q.log2 := (Nat.le_log2 hq).mpr hlarge
    have hkept := mul_pow_le_roundQuanta q 1
    rw [Nat.div_one] at hkept
    calc 2 ^ (54 + e) ≤ 2 ^ q.log2 := Nat.pow_le_pow_right (by decide) hlog
      _ ≤ q / 2 ^ shiftOf q * 2 ^ shiftOf q := pow_log2_le_kept (by omega)
      _ ≤ roundQuanta q 1 := hkept

theorem roundQuanta_lt_iff : roundQuanta q 1 < 2 ^ (54 + e) ↔ q < (2 ^ 54 - 1) * 2 ^ e := by
  constructor
  · intro hless
    by_contra hmore
    exact absurd hless (Nat.not_lt.mpr (le_roundQuanta_of_le (Nat.not_lt.mp hmore)))
  · exact roundQuanta_lt_of_lt

/-- Quanta are rounded to a magnitude unless they are beyond the largest one by half of its last bit. -/
theorem isSome_round_iff {limit : Nat} (he : overflowBit = 54 + e)
    (hlimit : limit = (Nat.pow 2 54 - 1) * Nat.pow 2 e) : (round q 1).isSome = true ↔ q < limit := by
  have hround : (round q 1).isSome = true ↔ roundQuanta q 1 < Nat.pow 2 overflowBit := by
    unfold round
    by_cases hsmall : roundQuanta q 1 < Nat.pow 2 overflowBit
    · rw [dif_pos hsmall]
      exact iff_of_true rfl hsmall
    · rw [dif_neg hsmall]
      exact iff_of_false nofun hsmall
  rw [hround, he, hlimit]
  exact roundQuanta_lt_iff

end Magnitude

namespace Double

/-- The least integer that no double is near: half of its last bit above the largest double. -/
def beyond : Nat := Nat.pow 2 1024 - Nat.pow 2 970

/-- In quanta, it has 54 bits that are all set, and zeros behind them. -/
theorem beyond_mul_unit : beyond * unit = (Nat.pow 2 54 - 1) * Nat.pow 2 2044 := by decide +kernel

variable {n : Int}

theorem isFinite_ofQuanta (s : Bool) (num den : Nat) :
    (ofQuanta s num den).isFinite = (Magnitude.round num den).isSome := by
  unfold ofQuanta
  cases Magnitude.round num den with
  | none => rfl
  | some m => rfl

theorem isFinite_ofInt_iff : (ofInt n).isFinite = true ↔ n.natAbs < beyond := by
  rw [ofInt, ofRatio, isFinite_ofQuanta]
  exact (Magnitude.isSome_round_iff rfl beyond_mul_unit).trans (Nat.mul_lt_mul_right unit_pos)

/-- An integer that was cut from a double has one near it. -/
theorem Exact.natAbs_lt_beyond (h : Exact n) : n.natAbs < beyond := isFinite_ofInt_iff.mp h.isFinite_ofInt

end Double

/-- An integer is taken as the double that it is rounded to, if this one is finite. -/
theorem doubleOfInt_eq_ite : doubleOfInt = fun n =>
    if (Double.ofInt n).isFinite then .ok (Double.ofInt n) else .error .integerTooLarge := by
  -- applied to an integer, the definition would be evaluated when it is opened
  delta doubleOfInt
  funext n
  generalize Double.ofInt n = x
  cases x with
  | nan => rfl
  | infinite s => rfl
  | finite s m => rfl

/-- An integer is taken as the double near it, if there is one. -/
theorem doubleOfInt_eq (n : Int) :
    doubleOfInt n = if n.natAbs < Double.beyond then .ok (Double.ofInt n) else .error .integerTooLarge :=
  (congrFun doubleOfInt_eq_ite n).trans (if_congr Double.isFinite_ofInt_iff rfl rfl)

end ChatFlow
