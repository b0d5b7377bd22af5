import ChatFlow.Proofs.Text.Digits

/-!
# The digits of doubles read back

A double is written with the fewest digits that read back to it. The search for them tries each candidate,
so it is enough that what it ends with, when none does, is the exact value, and that neither zeros at the
end nor the place of the point matter.

* `Magnitude.round_exact`: a magnitude is rounded to itself.
* `Double.ofDecimal_mul_pow`: zeros at the end of the digits do not matter.
* `Double.ofDecimal_shortest`: the digits that are written read back.
-/

namespace ChatFlow

/-! ## Rounding of quotients -/

theorem roundHalfEven_mul (num den : Nat) {k : Nat} (hk : 0 < k) :
    roundHalfEven (num * k) (den * k) = roundHalfEven num den := by
  have hless : 2 * (num % den * k) < den * k ↔ 2 * (num % den) < den := by
    rw [← Nat.mul_assoc, Nat.mul_lt_mul_right hk]
  have hmore : den * k < 2 * (num % den * k) ↔ den < 2 * (num % den) := by
    rw [← Nat.mul_assoc, Nat.mul_lt_mul_right hk]
  simp only [roundHalfEven, Nat.mul_div_mul_right _ _ hk, Nat.mul_mod_mul_right, hless, hmore]

theorem roundHalfEven_exact (q : Nat) {den : Nat} (hden : 0 < den) : roundHalfEven (q * den) den = q := by
  simp only [roundHalfEven, Nat.mul_mod_left, Nat.mul_zero, hden, if_true, Nat.mul_div_cancel q hden]

/-- The nearer one of two neighbours is one of them. -/
theorem roundHalfEven_cases (num den : Nat) :
    roundHalfEven num den = num / den ∨ roundHalfEven num den = num / den + 1 := by
  simp only [roundHalfEven]
  split
  · exact .inl rfl
  · split
    · exact .inr rfl
    · split
      · exact .inl rfl
      · exact .inr rfl

theorem log2_mul_pow {n : Nat} (hn : n ≠ 0) (k : Nat) : (n * 2 ^ k).log2 = n.log2 + k := by
  induction k with
  | zero => simp
  | succ k ih =>
      have hpos : n * 2 ^ k ≠ 0 := Nat.mul_ne_zero hn (Nat.two_pow_pos k).ne'
      rw [Nat.pow_succ, ← Nat.mul_assoc, Nat.mul_comm _ 2, Nat.log2_two_mul hpos, ih]
      rfl

namespace Magnitude

theorem eq_of_quanta {m m' : Magnitude} (h : m.quanta = m'.quanta) : m = m' := by
  obtain ⟨q, _, _⟩ := m
  obtain ⟨q', _, _⟩ := m'
  obtain rfl : q = q' := h
  rfl

theorem roundQuanta_mul (num den : Nat) {k : Nat} (hk : 0 < k) :
    roundQuanta (num * k) (den * k) = roundQuanta num den := by
  simp only [roundQuanta, Nat.mul_div_mul_right _ _ hk, Nat.mul_right_comm den k,
    roundHalfEven_mul _ _ hk]

/-- A representable number of quanta is a multiple of the last bit that is kept of it. -/
theorem pow_shiftOf_dvd (m : Magnitude) : 2 ^ shiftOf m.quanta ∣ m.quanta := by
  obtain ⟨significand, k, hsignificand, hquanta⟩ := m.representable
  have hpow : m.quanta = significand * 2 ^ k := hquanta
  rw [hpow]
  rcases Nat.eq_zero_or_pos significand with rfl | hpos
  · rw [Nat.zero_mul]
    exact Nat.dvd_zero _
  · have hlog : (significand * 2 ^ k).log2 = significand.log2 + k := log2_mul_pow (by omega) k
    rcases Nat.lt_or_eq_of_le hsignificand with hlt | hmost
    · -- up to 53 bits, the shift is that of the significand at most
      have hbits : significand.log2 < 53 := (Nat.log2_lt (by omega)).mpr hlt
      refine Dvd.dvd.mul_left (Nat.pow_dvd_pow 2 ?_) significand
      rw [shiftOf, hlog]
      omega
    · -- the least number of 54 bits has a single one
      have htop : significand = 2 ^ 53 := hmost
      have hbits : significand.log2 = 53 := by rw [htop, Nat.log2_two_pow]
      have hwhole : significand * 2 ^ k = 2 ^ (53 + k) := by rw [htop, Nat.pow_add]
      rw [shiftOf, hlog, hbits, hwhole]
      exact Nat.pow_dvd_pow 2 (by omega)

theorem roundQuanta_exact (m : Magnitude) {den : Nat} (hden : 0 < den) :
    roundQuanta (m.quanta * den) den = m.quanta := by
  obtain ⟨significand, hsignificand⟩ := m.pow_shiftOf_dvd
  have hstep : 0 < den * 2 ^ shiftOf m.quanta := Nat.mul_pos hden (Nat.two_pow_pos _)
  have hnum : m.quanta * den = significand * (den * 2 ^ shiftOf m.quanta) := by
    conv_lhs => rw [hsignificand]
    ring
  show roundHalfEven (m.quanta * den) (den * 2 ^ shiftOf (m.quanta * den / den)) *
    2 ^ shiftOf (m.quanta * den / den) = m.quanta
  rw [Nat.mul_div_cancel _ hden, hnum, roundHalfEven_exact _ hstep, Nat.mul_comm]
  exact hsignificand.symm

theorem round_congr {num den num' den' : Nat} (h : roundQuanta num den = roundQuanta num' den') :
    round num den = round num' den' := by
  unfold round
  by_cases hsmall : roundQuanta num den < Nat.pow 2 overflowBit
  · have hsmall' : roundQuanta num' den' < Nat.pow 2 overflowBit := h ▸ hsmall
    rw [dif_pos hsmall, dif_pos hsmall']
    exact congrArg some (eq_of_quanta h)
  · have hlarge : ¬ roundQuanta num' den' < Nat.pow 2 overflowBit := h ▸ hsmall
    rw [dif_neg hsmall, dif_neg hlarge]

theorem round_mul (num den : Nat) {k : Nat} (hk : 0 < k) :
    round (num * k) (den * k) = round num den := round_congr (roundQuanta_mul num den hk)

/-- A magnitude is rounded to itself. -/
theorem round_exact (m : Magnitude) {den : Nat} (hden : 0 < den) :
    round (m.quanta * den) den = some m := by
  have hquanta := m.roundQuanta_exact hden
  have hsmall : roundQuanta (m.quanta * den) den < Nat.pow 2 overflowBit :=
    Nat.lt_of_le_of_lt (Nat.le_of_eq hquanta) m.bounded
  unfold round
  rw [dif_pos hsmall]
  exact congrArg some (eq_of_quanta hquanta)

end Magnitude

namespace Double

variable {s : Bool} {m : Magnitude}

theorem ofQuanta_mul (s : Bool) (num den : Nat) {k : Nat} (hk : 0 < k) :
    ofQuanta s (num * k) (den * k) = ofQuanta s num den := by
  unfold ofQuanta
  rw [Magnitude.round_mul num den hk]

/-! ## Zeros at the end -/

/-- A zero at the end of the digits makes no difference, as the exponent tells of it. -/
theorem ofDecimal_mul_ten (s : Bool) (digits : Nat) (exponent : Int) :
    ofDecimal s (10 * digits) (exponent - 1) = ofDecimal s digits exponent := by
  rcases Nat.eq_zero_or_pos digits with rfl | hpos
  · simp only [ofDecimal, Nat.mul_zero, if_true]
  · have hscale : (digitCount (10 * digits) : Int) + (exponent - 1) = digitCount digits + exponent := by
      rw [digitCount_mul_ten hpos]
      omega
    have hquanta : ofQuanta s (10 * digits * Nat.pow 10 (exponent - 1).toNat * unit)
          (Nat.pow 10 (-(exponent - 1)).toNat) =
        ofQuanta s (digits * Nat.pow 10 exponent.toNat * unit) (Nat.pow 10 (-exponent).toNat) := by
      by_cases hexponent : 1 ≤ exponent
      · -- the zero goes into the power of ten
        obtain ⟨n, hn⟩ : ∃ n : Nat, exponent = n + 1 := ⟨(exponent - 1).toNat, by omega⟩
        have h₁ : (exponent - 1).toNat = n := by omega
        have h₂ : exponent.toNat = n + 1 := by omega
        have h₃ : (-(exponent - 1)).toNat = 0 := by omega
        have h₄ : (-exponent).toNat = 0 := by omega
        have hnum : 10 * digits * Nat.pow 10 n = digits * Nat.pow 10 (n + 1) := by
          simp only [Nat.pow_eq]
          ring
        rw [h₁, h₂, h₃, h₄, hnum]
      · -- both sides of the quotient get it
        obtain ⟨n, hn⟩ : ∃ n : Nat, exponent = -n := ⟨(-exponent).toNat, by omega⟩
        have h₁ : (exponent - 1).toNat = 0 := by omega
        have h₂ : exponent.toNat = 0 := by omega
        have h₃ : (-(exponent - 1)).toNat = n + 1 := by omega
        have h₄ : (-exponent).toNat = n := by omega
        have hnum : 10 * digits * Nat.pow 10 0 * unit = digits * Nat.pow 10 0 * unit * 10 := by
          generalize unit = u
          ring
        have hden : Nat.pow 10 (n + 1) = Nat.pow 10 n * 10 := Nat.pow_succ 10 n
        rw [h₁, h₂, h₃, h₄, hnum, hden, ofQuanta_mul _ _ _ (by decide)]
    have hzero : 10 * digits ≠ 0 := by omega
    have hzero' : digits ≠ 0 := by omega
    simp only [ofDecimal, hzero, hzero', if_false, hscale, hquanta]

theorem ofDecimal_mul_pow (s : Bool) (digits k : Nat) (exponent : Int) :
    ofDecimal s (digits * 10 ^ k) (exponent - k) = ofDecimal s digits exponent := by
  induction k with
  | zero => simp
  | succ k ih =>
      have hdigits : digits * 10 ^ (k + 1) = 10 * (digits * 10 ^ k) := by ring
      have hexponent : exponent - ((k + 1 : Nat) : Int) = (exponent - k) - 1 := by omega
      rw [hdigits, hexponent, ofDecimal_mul_ten, ih]

theorem ofDecimal_stripZeros (s : Bool) (fuel : Nat) (d : Decimal) :
    ofDecimal s (d.stripZeros fuel).digits (d.stripZeros fuel).exponent =
      ofDecimal s d.digits d.exponent := by
  induction fuel generalizing d with
  | zero => rfl
  | succ fuel ih =>
      rw [Decimal.stripZeros]
      split
      · next h =>
          have hdigits : d.digits = 10 * (d.digits / 10) := by omega
          have hexponent : d.exponent = (d.exponent + 1) - 1 := by omega
          rw [ih]
          conv_rhs => rw [hdigits, hexponent, ofDecimal_mul_ten]
      · rfl

/-! ## The digits that are written -/

theorem ofQuanta_of_unsigned {num den : Nat} (h : ofQuanta false num den = .finite false m) (s : Bool) :
    ofQuanta s num den = .finite s m := by
  unfold ofQuanta at h ⊢
  cases hround : Magnitude.round num den with
  | none =>
      rw [hround] at h
      cases h
  | some m' =>
      rw [hround] at h
      cases h
      rfl

/-- A sign before the digits is the sign of the double. -/
theorem ofDecimal_of_unsigned {digits : Nat} {exponent : Int}
    (h : ofDecimal false digits exponent = .finite false m) (s : Bool) :
    ofDecimal s digits exponent = .finite s m := by
  have hzero : ∀ {m}, signedZero false = .finite false m → signedZero s = .finite s m := by
    rintro m ⟨⟩
    rfl
  unfold ofDecimal at h ⊢
  by_cases hdigits : digits = 0
  · rw [if_pos hdigits] at h ⊢
    exact hzero h
  · rw [if_neg hdigits] at h ⊢
    by_cases hlarge : 310 < (digitCount digits : Int) + exponent
    · rw [if_pos hlarge] at h
      cases h
    · rw [if_neg hlarge] at h ⊢
      by_cases hsmall : (digitCount digits : Int) + exponent < -330
      · rw [if_pos hsmall] at h ⊢
        exact hzero h
      · rw [if_neg hsmall] at h ⊢
        exact ofQuanta_of_unsigned h s

/-- The exact value of a magnitude has neither too many digits before the point nor too many zeros behind
it. -/
theorem scale_exact (m : Magnitude) (hm : m.quanta ≠ 0) :
    ¬ 310 < (digitCount (m.quanta * Nat.pow 5 1074) : Int) + (-(1074 : Nat) : Int) ∧
      ¬ (digitCount (m.quanta * Nat.pow 5 1074) : Int) + (-(1074 : Nat) : Int) < -330 := by
  have hleast : 10 ^ 743 ≤ Nat.pow 5 1074 := by decide +kernel
  have hgreatest : Nat.pow 2 overflowBit * Nat.pow 5 1074 < 10 ^ 1384 := by decide +kernel
  have hbounded := m.bounded
  -- the powers are too large to be looked at
  generalize Nat.pow 5 1074 = p at *
  generalize Nat.pow 2 overflowBit = b at *
  have hfew : digitCount (m.quanta * p) ≤ 1384 := by
    have hquanta : m.quanta * p ≤ b * p := Nat.mul_le_mul_right _ (Nat.le_of_lt hbounded)
    rw [digitCount_eq, Text.length_ofNat_le_iff (by decide)]
    exact Nat.lt_of_le_of_lt hquanta hgreatest
  have hmany : ¬ digitCount (m.quanta * p) ≤ 743 := by
    have hdigits : p ≤ m.quanta * p := Nat.le_mul_of_pos_left _ (by omega)
    rw [digitCount_eq, Text.length_ofNat_le_iff (by decide), Nat.not_lt]
    exact Nat.le_trans hleast hdigits
  constructor
  · omega
  · omega

theorem quanta_exact (q : Nat) {k : Nat} (hunit : unit = Nat.pow 2 k) :
    q * Nat.pow 5 k * Nat.pow 10 (-(k : Int)).toNat * unit = q * Nat.pow 10 k := by
  have hnone : (-(k : Int)).toNat = 0 := by omega
  have hten : (10 : Nat) ^ k = 5 ^ k * 2 ^ k := Nat.mul_pow 5 2 k
  simp only [hunit, hnone, Nat.pow_eq, hten, Nat.pow_zero, Nat.mul_one, Nat.mul_assoc]

/-- The exact value of a magnitude reads back. -/
theorem ofDecimal_exact (m : Magnitude) {k : Nat} (hk : k = 1074) :
    ofDecimal false (m.quanta * Nat.pow 5 k) (-(k : Int)) = .finite false m := by
  have hunit : unit = Nat.pow 2 k := congrArg (Nat.pow 2) hk.symm
  have hfive : Nat.pow 5 k ≠ 0 := (Nat.pow_pos (by decide)).ne'
  by_cases hm : m.quanta = 0
  · have hzero : m = default := Magnitude.eq_of_quanta hm
    unfold ofDecimal
    rw [hm, Nat.zero_mul, if_pos rfl, hzero]
    rfl
  · have hscale := scale_exact m hm
    rw [← hk] at hscale
    obtain ⟨hlarge, hsmall⟩ := hscale
    have hdigits : m.quanta * Nat.pow 5 k ≠ 0 := Nat.mul_ne_zero hm hfive
    have hten : 0 < Nat.pow 10 k := Nat.pow_pos (by decide)
    have hround := m.round_exact hten
    unfold ofDecimal
    rw [if_neg hdigits, if_neg hlarge, if_neg hsmall, quanta_exact m.quanta hunit, Int.neg_neg,
      Int.toNat_natCast]
    unfold ofQuanta
    rw [hround]

/-- What the search for digits finds reads back. -/
theorem ofDecimal_of_shortestOf {n : Nat} {d : Decimal} (h : m.shortestOf? n = some d) :
    ofDecimal false d.digits d.exponent = .finite false m := by
  unfold Magnitude.shortestOf? at h
  dsimp only at h
  rcases hover : m.overPowerOfTen (m.decimalScale - n) with ⟨num, den⟩
  rw [hover] at h
  dsimp only at h
  -- only a neighbour that reads back is taken
  cases hbelow : m.readsBack ⟨num / den, m.decimalScale - n⟩ with
  | true =>
      cases habove : m.readsBack ⟨num / den + 1, m.decimalScale - n⟩ with
      | true =>
          rw [hbelow, habove] at h
          cases h
          rcases roundHalfEven_cases num den with hsame | hsame
          · rw [hsame]
            exact of_decide_eq_true hbelow
          · rw [hsame]
            exact of_decide_eq_true habove
      | false =>
          rw [hbelow, habove] at h
          cases h
          exact of_decide_eq_true hbelow
  | false =>
      cases habove : m.readsBack ⟨num / den + 1, m.decimalScale - n⟩ with
      | true =>
          rw [hbelow, habove] at h
          cases h
          exact of_decide_eq_true habove
      | false =>
          rw [hbelow, habove] at h
          cases h

/-- The digits that a magnitude is written with read back to it. -/
theorem ofDecimal_shortest (s : Bool) (m : Magnitude) :
    ofDecimal s m.shortest.digits m.shortest.exponent = .finite s m := by
  rw [Magnitude.shortest, ofDecimal_stripZeros]
  refine ofDecimal_of_unsigned ?_ s
  cases hfound : (List.range 17).findSome? fun n => m.shortestOf? (n + 1) with
  | none => exact ofDecimal_exact m rfl
  | some d =>
      obtain ⟨n, -, hn⟩ := List.exists_of_findSome?_eq_some hfound
      exact ofDecimal_of_shortestOf hn

end Double

end ChatFlow
