import ChatFlow.Proofs.Calendar.Stamps
import ChatFlow.Proofs.Double.Extended
import ChatFlow.Proofs.Double.Nearest
import ChatFlow.Proofs.Text.Scalars

/-!
# Two decimal places

A double that is not whole is kept with two decimal places. First it is rounded to a number of hundredths, then this
number to the nearest double. The double that is found rounds to the same hundredths, so rounding it again changes
nothing; but it is whole if the hundredths are those of an integer.

A whole double is written with the digits of its integer and a zero behind a point. The search for the fewest digits ends
with these at the latest, so no place behind the point is written. A number of hundredths is shown with two places.

* `Double.IsHundredths`: the number of hundredths that is nearest to a real number.
* `Double.IsNearest`: no double is nearer to a real number.
* `Double.Places`: what a magnitude is rounded to, with its properties; `Double.exists_places` says that there is one.
* `Magnitude.exists_shortest_whole`: the digits of a whole magnitude.
* `Double.toText_whole`, `Double.writesHundredths_fixedText`: the texts.
-/

namespace ChatFlow

namespace Magnitude

variable {m : Magnitude}

/-- Magnitudes from 52 bits on are whole. -/
theorem unit_dvd_of_bits (h : 2 ^ 52 * Double.unit ≤ m.quanta) : Double.unit ∣ m.quanta := by
  have hunit : Double.unit = 2 ^ 1074 := Double.unit_eq
  generalize hk : 1074 = k at hunit
  rw [hunit, ← Nat.pow_add] at h
  rw [hunit]
  refine Nat.dvd_trans (Nat.pow_dvd_pow 2 ?_) m.pow_shiftOf_dvd
  have hlog := (Nat.le_log2 (Nat.lt_of_lt_of_le (Nat.two_pow_pos _) h).ne').mpr h
  unfold shiftOf
  omega

end Magnitude

namespace Double

variable {m r : Magnitude} {s : Bool}

/-! ## Hundredths of magnitudes -/

theorem scaled_two (m : Magnitude) : scaled m 2 = roundHalfEven (m.quanta * 100) unit := rfl

/-- What is not whole has at most 52 bits before the point. -/
theorem scaled_le (h : ¬ unit ∣ m.quanta) : scaled m 2 ≤ 2 ^ 52 * 100 := by
  have hbelow : m.quanta < 2 ^ 52 * unit := Nat.lt_of_not_le fun hmore => h (Magnitude.unit_dvd_of_bits hmore)
  rw [scaled_two]
  refine roundHalfEven_le_of_le unit_pos ?_
  rw [Nat.mul_right_comm]
  exact Nat.mul_le_mul_right 100 (Nat.le_of_lt hbelow)

theorem exists_whole {j : Nat} (h : j ≤ 2 ^ 53) : ∃ k : Magnitude, k.quanta = j * unit := exact_of_natAbs_le (n := j) h

/-- So many hundredths have neither too many digits nor too few. -/
theorem ofDecimal_hundredths (s : Bool) {n : Nat} (h : n ≤ 2 ^ 52 * 100) :
    ofDecimal s n (-2) = ofQuanta s (n * unit) 100 := by
  unfold ofDecimal
  by_cases hn : n = 0
  · have hzero : (default : Magnitude).quanta = 0 := rfl
    have hround := (default : Magnitude).round_exact (by decide : 0 < 100)
    rw [hzero, Nat.zero_mul] at hround
    rw [if_pos hn, hn, Nat.zero_mul, ofQuanta_of_round hround, signedZero]
  · have hfew : digitCount n ≤ 18 := by
      rw [digitCount_eq, Text.length_ofNat_le_iff (by decide)]
      omega
    have hnum : n * Nat.pow 10 (-2 : Int).toNat * unit = n * unit := by
      rw [show Nat.pow 10 (-2 : Int).toNat = 1 from rfl, Nat.mul_one]
    rw [if_neg hn]
    dsimp only
    rw [if_neg (by omega), if_neg (by omega), hnum]
    rfl

/-- The magnitude that so many hundredths are rounded to. -/
theorem exists_round_hundredths {n : Nat} (h : n ≤ 2 ^ 52 * 100) : ∃ r : Magnitude,
    (∀ s, ofQuanta s (n * unit) 100 = finite s r) ∧ r.quanta = Magnitude.roundQuanta (n * unit) 100 ∧
      r.quanta ≤ 2 ^ 52 * unit := by
  obtain ⟨k, hk⟩ := exists_whole (j := 2 ^ 52) (Nat.pow_le_pow_right (by decide) (by decide))
  have hmost : n * unit ≤ k.quanta * 100 := by
    rw [hk, Nat.mul_right_comm]
    exact Nat.mul_le_mul_right unit h
  have hround := k.roundQuanta_le (by decide) hmost
  obtain ⟨r, hr, hquanta⟩ := Magnitude.exists_round (Nat.lt_of_le_of_lt hround k.bounded)
  refine ⟨r, fun s => ofQuanta_of_round hr s, hquanta, ?_⟩
  rw [hquanta, ← hk]
  exact hround

/-- What the hundredths are rounded to has the same hundredths. -/
theorem scaled_of_round (h : r.quanta = Magnitude.roundQuanta (scaled m 2 * unit) 100) : scaled r 2 = scaled m 2 := by
  have hnearest := m.dist_roundQuanta_le (scaled m 2 * unit) (by decide : 0 < 100)
  obtain ⟨hround, heven⟩ := two_mul_dist_roundHalfEven (m.quanta * 100) unit_pos
  rw [← scaled_two] at hround heven
  rw [← h] at hnearest
  rw [scaled_two r]
  push_cast at hnearest hround heven
  have hcomm := abs_sub_comm (r.quanta * 100 : Int) (scaled m 2 * unit)
  have hcomm' := abs_sub_comm (m.quanta * 100 : Int) (scaled m 2 * unit)
  rw [hcomm, hcomm'] at hnearest
  refine roundHalfEven_eq_of_near unit_pos ?_ fun hhalf => heven ?_
  · push_cast
    exact le_trans (by omega) hround
  · push_cast at hhalf
    omega

/-- It is whole if the hundredths are those of an integer. -/
theorem quanta_eq_iff (hn : scaled m 2 ≤ 2 ^ 52 * 100) (h : r.quanta = Magnitude.roundQuanta (scaled m 2 * unit) 100)
    {j : Nat} : r.quanta = j * unit ↔ scaled m 2 = j * 100 := by
  constructor
  · intro hr
    rw [← scaled_of_round h, scaled_two, hr, Nat.mul_right_comm, roundHalfEven_exact _ unit_pos]
  · intro hn'
    obtain ⟨k, hk⟩ := exists_whole (j := j) (by omega)
    rw [h, hn', ← hk, Nat.mul_right_comm, ← hk, k.roundQuanta_exact (by decide)]

/-! ## Hundredths of real numbers -/

variable {a c : ℝ} {n k : ℤ}

/-- The number of hundredths that is nearest to a real number; of two equally near ones, the even one. -/
def IsHundredths (a : ℝ) (n : ℤ) : Prop := |a - n / 100| ≤ 1 / 200 ∧ (|a - n / 100| = 1 / 200 → Even n)

/-- The double is one of those that are nearest to a real number. -/
def IsNearest (x : Double) (c : ℝ) : Prop :=
  ∃ a : ℝ, x.value? = some (a : EReal) ∧ ∀ (y : Double) (b : ℝ), y.value? = some (b : EReal) → |a - c| ≤ |b - c|

theorem IsHundredths.neg (h : IsHundredths a n) : IsHundredths (-a) (-n) := by
  have hdist : |-a - ((-n : ℤ) : ℝ) / 100| = |a - n / 100| := by
    rw [Int.cast_neg, neg_div, neg_sub_neg, abs_sub_comm]
  rw [IsHundredths, hdist]
  exact ⟨h.1, fun hhalf => (h.2 hhalf).neg⟩

theorem IsHundredths.unique (h : IsHundredths a n) (h' : IsHundredths a k) : n = k := by
  obtain ⟨hnear, heven⟩ := h
  obtain ⟨hnear', heven'⟩ := h'
  have htriangle : ((|n - k| : ℤ) : ℝ) / 100 ≤ |a - n / 100| + |a - k / 100| := by
    have hpart := abs_sub_le ((n : ℝ) / 100) a (k / 100)
    rw [abs_sub_comm ((n : ℝ) / 100) a, ← sub_div, abs_div, abs_of_pos (by norm_num : (0 : ℝ) < 100)] at hpart
    rwa [Int.cast_abs, Int.cast_sub]
  by_contra hne
  -- they are neighbours then, and both a half away, so both are even
  have hapart : 1 ≤ |n - k| := Int.one_le_abs (sub_ne_zero.mpr hne)
  have happart' : (1 : ℝ) ≤ ((|n - k| : ℤ) : ℝ) := by exact_mod_cast hapart
  have hclose : ((|n - k| : ℤ) : ℝ) ≤ 1 := by linarith
  obtain ⟨i, hi⟩ := (heven (by linarith)).sub (heven' (by linarith))
  have hone : |n - k| = 1 := le_antisymm (by exact_mod_cast hclose) hapart
  rcases (abs_eq one_pos.le).mp hone with hone | hone
  · omega
  · omega

/-- Close to an integer, the hundredths are those of the integer. -/
theorem isHundredths_of_near (h : |a - k| ≤ 1 / 200) : IsHundredths a (100 * k) := by
  have hcast : ((100 * k : ℤ) : ℝ) / 100 = k := by
    push_cast
    ring
  rw [IsHundredths, hcast]
  exact ⟨h, fun _ => (by decide : Even (100 : ℤ)).mul_right k⟩

/-- Integers are not close to each other. -/
theorem eq_of_close {i j : ℤ} (h : |(i : ℝ) - j| ≤ 1 / 200) : i = j := by
  by_contra hne
  have hapart : (1 : ℝ) ≤ ((|i - j| : ℤ) : ℝ) := by exact_mod_cast Int.one_le_abs (sub_ne_zero.mpr hne)
  rw [Int.cast_abs, Int.cast_sub] at hapart
  linarith

/-- A natural number with a sign. -/
def withSign (s : Bool) (n : Nat) : ℤ := if s then -(n : ℤ) else n

theorem dist_hundredths (m : Magnitude) (n : Nat) :
    |real false m - n / 100| * (100 * unit) = ((|(m.quanta * 100 : ℤ) - n * unit| : ℤ) : ℝ) := by
  have hunit : (0 : ℝ) < 100 * unit := mul_pos (by norm_num) cast_unit_pos
  have hdist : (real false m - n / 100) * (100 * unit) = ((m.quanta * 100 : ℤ) - n * unit : ℤ) := by
    have hne := cast_unit_pos.ne'
    rw [real, if_neg Bool.false_ne_true]
    generalize unit = u at *
    push_cast
    field_simp
  rw [Int.cast_abs, ← hdist, abs_mul, abs_of_pos hunit]

theorem isHundredths_real (s : Bool) (m : Magnitude) : IsHundredths (real s m) (withSign s (scaled m 2)) := by
  have hpositive : IsHundredths (real false m) (scaled m 2) := by
    obtain ⟨hround, heven⟩ := two_mul_dist_roundHalfEven (m.quanta * 100) unit_pos
    rw [← scaled_two, abs_sub_comm] at hround heven
    push_cast at hround heven
    have hdist := dist_hundredths m (scaled m 2)
    have hpos := cast_unit_pos
    rw [IsHundredths, Int.cast_natCast, Int.even_coe_nat, Nat.even_iff]
    generalize |real false m - scaled m 2 / 100| = d at *
    generalize |(m.quanta * 100 : ℤ) - scaled m 2 * unit| = distance at *
    generalize unit = u at *
    constructor
    · have hround' : (2 : ℝ) * distance ≤ u := by exact_mod_cast hround
      refine le_of_mul_le_mul_right ?_ hpos
      linarith
    · intro hhalf
      refine heven ?_
      have htwice : (2 : ℝ) * distance = u := by
        rw [← hdist, hhalf]
        ring
      exact_mod_cast htwice
  cases s with
  | false => exact hpositive
  | true =>
      rw [real_true, withSign, if_pos rfl]
      exact hpositive.neg

theorem abs_real (s : Bool) (m : Magnitude) : |real s m| = real false m := by
  have hnonneg : 0 ≤ real false m := by
    rw [real, if_neg Bool.false_ne_true, Int.cast_natCast]
    exact div_nonneg (Nat.cast_nonneg _) cast_unit_pos.le
  cases s with
  | false => exact abs_of_nonneg hnonneg
  | true => rw [real_true, abs_neg, abs_of_nonneg hnonneg]

theorem abs_withSign (s : Bool) (n : Nat) : |((withSign s n : ℤ) : ℝ) / 100| = n / 100 := by
  have hnonneg : (0 : ℝ) ≤ n / 100 := div_nonneg (Nat.cast_nonneg n) (by norm_num)
  cases s with
  | false => exact abs_of_nonneg hnonneg
  | true => rw [withSign, if_pos rfl, Int.cast_neg, neg_div, abs_neg, Int.cast_natCast, abs_of_nonneg hnonneg]

/-- The rounded hundredths are the nearest double to them. One of the other sign is not nearer than that of the same. -/
theorem isNearest_round {n : Nat} (hr : r.quanta = Magnitude.roundQuanta (n * unit) 100) (s : Bool) :
    IsNearest (finite s r) ((withSign s n : ℤ) / 100) := by
  refine ⟨real s r, rfl, fun y b hy => ?_⟩
  obtain ⟨t, k, rfl, rfl⟩ := exists_finite hy
  have hsame : |real s r - ((withSign s n : ℤ) : ℝ) / 100| = |real false r - n / 100| := by
    cases s with
    | false => rfl
    | true => rw [real_true, withSign, if_pos rfl, Int.cast_neg, neg_div, neg_sub_neg, abs_sub_comm, Int.cast_natCast]
  have hother := abs_abs_sub_abs_le (real t k) (((withSign s n : ℤ) : ℝ) / 100)
  rw [abs_real, abs_withSign] at hother
  rw [hsame]
  refine le_trans ?_ hother
  have hquanta := k.dist_roundQuanta_le (n * unit) (by decide : 0 < 100)
  have hround := dist_hundredths r n
  have hround' := dist_hundredths k n
  have hpos : (0 : ℝ) < 100 * unit := mul_pos (by norm_num) cast_unit_pos
  rw [← hr] at hquanta
  push_cast at hquanta
  refine le_of_mul_le_mul_right ?_ hpos
  rw [hround, hround']
  exact_mod_cast hquanta

/-! ## Rounding to hundredths -/

theorem natCast_quanta_eq_iff (hn : scaled m 2 ≤ 2 ^ 52 * 100)
    (h : r.quanta = Magnitude.roundQuanta (scaled m 2 * unit) 100) :
    (r.quanta : ℤ) = k * unit ↔ (scaled m 2 : ℤ) = 100 * k := by
  rcases Int.lt_or_le k 0 with hk | hk
  · -- a magnitude is not negative, nor are its hundredths
    have hbelow : k * unit < 0 := Int.mul_neg_of_neg_of_pos hk (Int.natCast_pos.mpr unit_pos)
    omega
  · obtain ⟨j, rfl⟩ := Int.eq_ofNat_of_zero_le hk
    rw [Int.mul_comm 100]
    exact_mod_cast quanta_eq_iff hn h

/-- A magnitude is what another one with a sign is rounded to, with two decimal places. -/
structure Places (s : Bool) (m r : Magnitude) : Prop where
  /-- Rounding gives it, -/
  rounded : roundPlaces 2 (finite s m) = finite s r
  /-- and leaves it as it is. -/
  again : roundPlaces 2 (finite s r) = finite s r
  nearest : IsNearest (finite s r) ((withSign s (scaled m 2) : ℤ) / 100)
  /-- It is an integer if the number was this integer with two places. -/
  whole_iff : ∀ k : ℤ, (finite s r).whole? = some k ↔ |real s m - k| ≤ 1 / 200
  bits : r.quanta ≤ 2 ^ 52 * unit

/-- The hundredths of an integer are those of the numbers close to it. -/
theorem withSign_scaled_eq_iff (s : Bool) (m : Magnitude) :
    withSign s (scaled m 2) = 100 * k ↔ |real s m - k| ≤ 1 / 200 := by
  have hhundredths := isHundredths_real s m
  constructor
  · intro h
    have hnear := hhundredths.1
    rw [h] at hnear
    push_cast at hnear
    rwa [mul_div_cancel_left₀ _ (by norm_num : (100 : ℝ) ≠ 0)] at hnear
  · intro h
    exact hhundredths.unique (isHundredths_of_near h)

theorem whole?_iff_of_value? {x : Double} (hx : x.value? = some (a : EReal)) : x.whole? = some k ↔ a = k := by
  obtain ⟨s, m, rfl, rfl⟩ := exists_finite hx
  rw [whole?_eq_some_iff, quanta?, Option.some.injEq, real_eq_iff]

theorem isIntegral_iff {x : Double} : x.isIntegral = true ↔ ∃ k, x.whole? = some k := by
  rw [whole?]
  constructor
  · intro h
    rcases x with _ | s | ⟨s, m⟩
    · cases h
    · cases h
    · exact ⟨_, if_pos h⟩
  · rintro ⟨k, hk⟩
    exact (Option.ite_none_right_eq_some.mp hk).1

/-- Every number that is not whole can be rounded to two places. -/
theorem exists_places (s : Bool) (h : ¬ unit ∣ m.quanta) : ∃ r, Places s m r := by
  have hn := scaled_le h
  obtain ⟨r, hround, hr, hbits⟩ := exists_round_hundredths hn
  have hrounded : ofDecimal s (scaled m 2) (-2) = finite s r := by
    rw [ofDecimal_hundredths s hn, hround s]
  refine ⟨r, hrounded, ?_, isNearest_round hr s, fun k => ?_, hbits⟩
  · rw [roundPlaces, scaled_of_round hr]
    exact hrounded
  · rw [← withSign_scaled_eq_iff, whole?_eq_some_iff, quanta?, Option.some.injEq]
    cases s with
    | false => exact natCast_quanta_eq_iff hn hr
    | true =>
        have hnegative := natCast_quanta_eq_iff hn hr (k := -k)
        rw [Int.neg_mul, Int.mul_neg] at hnegative
        rw [if_pos rfl, withSign, if_pos rfl]
        omega

/-! ## Digits that are read as integers -/

/-- Digits without an exponent are read as their integer. -/
theorem ofDecimal_integer (s : Bool) {n : Nat} (hn : n ≠ 0) (hfew : digitCount n ≤ 310) :
    ofDecimal s n 0 = ofQuanta s (n * unit) 1 := by
  rw [ofDecimal, if_neg hn]
  dsimp only
  rw [if_neg (by omega), if_neg (by omega), show (0 : ℤ).toNat = 0 from rfl, show Nat.pow 10 0 = 1 from rfl,
    Nat.mul_one]
  rfl

/-- Only one integer without an exponent is read as a whole double of 52 bits. -/
theorem eq_of_ofDecimal {m : Magnitude} {j n : Nat} (hm : m.quanta = j * unit) (hpos : 0 < j)
    (hmost : j ≤ 2 ^ 52) (h : ofDecimal false n 0 = finite false m) : n = j := by
  have hn : n ≠ 0 := by
    rintro rfl
    cases h
    exact (Nat.mul_pos hpos unit_pos).ne hm
  have hfew : digitCount n ≤ 310 := by
    by_contra hmany
    rw [ofDecimal, if_neg hn] at h
    dsimp only at h
    rw [if_pos (by omega)] at h
    cases h
  rw [ofDecimal_integer false hn hfew] at h
  rcases Nat.le_or_le n (2 ^ 53) with hless | hmore
  · -- the integer is a double itself
    obtain ⟨k, hk⟩ := exists_whole hless
    rw [← hk, ofQuanta_exact] at h
    cases h
    exact Nat.eq_of_mul_eq_mul_right unit_pos (hk.symm.trans hm)
  · obtain ⟨k, hk⟩ := exists_whole (Nat.le_refl (2 ^ 53))
    have hquanta : k.quanta * 1 ≤ n * unit := by
      rw [Nat.mul_one, hk]
      exact Nat.mul_le_mul_right unit hmore
    have hround := k.le_roundQuanta Nat.one_pos hquanta
    rw [← quanta_of_ofQuanta h, hk, hm] at hround
    have hlarge := Nat.le_of_mul_le_mul_right hround unit_pos
    omega

end Double

namespace Magnitude

variable {m : Magnitude} {d : Decimal} {j n : Nat}

/-! ## The search for digits -/

/-- In an increasing list, the first number that satisfies a condition is not above another one that does. -/
theorem exists_find?_of_sorted {l : List ℤ} {p : ℤ → Bool} {c : ℤ} (hl : l.Pairwise (· ≤ ·)) (hc : c ∈ l)
    (hp : p c = true) : ∃ k, l.find? p = some k ∧ p k = true ∧ k ≤ c := by
  induction l with
  | nil => cases hc
  | cons k l ih =>
      rw [List.pairwise_cons] at hl
      cases hk : p k with
      | true =>
          refine ⟨k, by rw [List.find?_cons_of_pos hk], hk, ?_⟩
          rcases List.mem_cons.mp hc with rfl | hc
          · exact le_rfl
          · exact hl.1 c hc
      | false =>
          have hrest : c ∈ l := by
            rcases List.mem_cons.mp hc with rfl | hc
            · rw [hp] at hk
              cases hk
            · exact hc
          obtain ⟨i, hfound, hi, hle⟩ := ih hl.2 hrest
          exact ⟨i, by rw [List.find?_cons_of_neg (by rw [hk]; exact Bool.false_ne_true), hfound], hi, hle⟩

theorem belowPowerOfTen_iff (hm : m.quanta = j * Double.unit) {k : ℤ} :
    m.belowPowerOfTen k = true ↔ j * 10 ^ (-k).toNat < 10 ^ k.toNat := by
  rw [belowPowerOfTen, decide_eq_true_eq, hm, Nat.mul_comm Double.unit, Nat.mul_right_comm]
  exact Nat.mul_lt_mul_right Double.unit_pos

/-- Of an integer of 52 bits, at least one digit and at most sixteen stand before the point. -/
theorem decimalScale_bounds (hm : m.quanta = j * Double.unit) (hpos : 0 < j) (hmost : j ≤ 2 ^ 52) :
    1 ≤ m.decimalScale ∧ m.decimalScale ≤ 16 := by
  have hlog : m.quanta.log2 = j.log2 + 1074 := by
    rw [hm, Double.unit_eq]
    exact log2_mul_pow hpos.ne' 1074
  have hbits : j.log2 < 53 := (Nat.log2_lt hpos.ne').mpr (Nat.lt_of_le_of_lt hmost (by decide))
  have hless : j < 2 ^ (j.log2 + 1) := Nat.lt_log2_self
  -- one of the candidates is large enough, and it is the first one or stands behind that
  have hscale : ∀ l < 53, 2 ^ (l + 1) ≤ 10 ^ min (l * 30103 / 100000 + 3) 16 := by decide
  have hlarge := hscale j.log2 hbits
  have hestimate : Int.fdiv (((m.quanta.log2 : Int) - 1074) * 30103) 100000 = (j.log2 * 30103 / 100000 : Nat) := by
    rw [hlog, Int.fdiv_eq_ediv_of_nonneg _ (by decide)]
    omega
  rw [decimalScale, hestimate]
  generalize he : j.log2 * 30103 / 100000 = e at *
  have hcandidate : ((min (e + 3) 16 : Nat) : ℤ) ∈ (List.range 5).map fun i : Nat => (e : ℤ) - 1 + i := by
    rw [List.mem_map]
    exact ⟨min (e + 3) 16 + 1 - e, List.mem_range.mpr (by omega), by omega⟩
  have hsorted : ((List.range 5).map fun i : Nat => (e : ℤ) - 1 + i).Pairwise (· ≤ ·) := by
    exact List.pairwise_le_range.map _ fun _ _ h => by omega
  have hbelow : m.belowPowerOfTen ((min (e + 3) 16 : Nat) : ℤ) = true := by
    rw [belowPowerOfTen_iff hm, Int.toNat_natCast, show (-((min (e + 3) 16 : Nat) : ℤ)).toNat = 0 by omega,
      Nat.pow_zero, Nat.mul_one]
    exact Nat.lt_of_lt_of_le hless hlarge
  obtain ⟨k, hfound, hk, hle⟩ := exists_find?_of_sorted hsorted hcandidate hbelow
  rw [hfound, Option.getD_some]
  refine ⟨?_, by omega⟩
  by_contra hnone
  rw [belowPowerOfTen_iff hm, show k.toNat = 0 by omega, Nat.pow_zero] at hk
  have hpow := Nat.mul_pos hpos (Nat.pow_pos (n := (-k).toNat) (by decide : 0 < 10))
  omega

/-- As many digits as stand before the point are enough. -/
theorem isSome_shortestOf? (hm : m.quanta = j * Double.unit) (hpos : 0 < j) (hmost : j ≤ 2 ^ 52)
    (hn : (n : ℤ) = m.decimalScale) : (m.shortestOf? n).isSome = true := by
  have hdigits : m.quanta * Nat.pow 10 0 / (Double.unit * Nat.pow 10 0) = j := by
    rw [show Nat.pow 10 0 = 1 from rfl, Nat.mul_one, Nat.mul_one, hm, Nat.mul_div_cancel _ Double.unit_pos]
  have hfew : Double.digitCount j ≤ 16 := by
    rw [Double.digitCount_eq, Text.length_ofNat_le_iff (by decide)]
    exact Nat.lt_of_le_of_lt hmost (by decide)
  have hreads : m.readsBack ⟨j, 0⟩ = true := by
    rw [readsBack, decide_eq_true_eq, Double.ofDecimal_integer false hpos.ne' (hfew.trans (by decide)), ← hm,
      Double.ofQuanta_exact]
  rw [shortestOf?, show m.decimalScale - n = 0 by omega, overPowerOfTen, show (-(0 : ℤ)).toNat = 0 from rfl,
    show (0 : ℤ).toNat = 0 from rfl]
  dsimp only
  rw [hdigits, hreads]
  cases m.readsBack ⟨j + 1, 0⟩
  · rfl
  · rfl

theorem exponent_of_shortestOf? (h : m.shortestOf? n = some d) : d.exponent = m.decimalScale - n := by
  unfold shortestOf? at h
  dsimp only at h
  generalize m.readsBack ⟨(m.overPowerOfTen (m.decimalScale - n)).1 / (m.overPowerOfTen (m.decimalScale - n)).2,
    m.decimalScale - n⟩ = below at h
  generalize m.readsBack ⟨(m.overPowerOfTen (m.decimalScale - n)).1 / (m.overPowerOfTen (m.decimalScale - n)).2 + 1,
    m.decimalScale - n⟩ = above at h
  rcases below with _ | _
  · rcases above with _ | _
    · cases h
    · rw [← Option.some.inj h]
  · rcases above with _ | _
    · rw [← Option.some.inj h]
    · rw [← Option.some.inj h]

theorem exponent_le_stripZeros (fuel : Nat) (d : Decimal) : d.exponent ≤ (d.stripZeros fuel).exponent := by
  induction fuel generalizing d with
  | zero => exact le_rfl
  | succ fuel ih =>
      rw [Decimal.stripZeros]
      split
      · exact (Int.le_of_lt (Int.lt_succ d.exponent)).trans (ih _)
      · exact le_rfl

/-- No place behind the point of an integer is written. -/
theorem exponent_shortest_nonneg (hm : m.quanta = j * Double.unit) (hpos : 0 < j) (hmost : j ≤ 2 ^ 52) :
    0 ≤ m.shortest.exponent := by
  obtain ⟨hleast, hgreatest⟩ := decimalScale_bounds hm hpos hmost
  obtain ⟨n, hn⟩ : ∃ n : Nat, m.decimalScale = n + 1 := ⟨(m.decimalScale - 1).toNat, by omega⟩
  have hsome := isSome_shortestOf? (n := n + 1) hm hpos hmost hn.symm
  have hmem : n ∈ List.range 17 := List.mem_range.mpr (by omega)
  rw [shortest]
  refine le_trans ?_ (exponent_le_stripZeros _ _)
  cases hfound : (List.range 17).findSome? fun n => m.shortestOf? (n + 1) with
  | none =>
      rw [List.findSome?_eq_none_iff.mp hfound n hmem] at hsome
      cases hsome
  | some d =>
      -- the search ends with these digits at the latest
      obtain ⟨before, i, after, hrange, hi, hbefore⟩ := List.findSome?_eq_some_iff.mp hfound
      have hsorted : (before ++ i :: after).Pairwise (· ≤ ·) := hrange ▸ List.pairwise_le_range
      have hle : i ≤ n := by
        rw [hrange, List.mem_append, List.mem_cons] at hmem
        rcases hmem with hmem | rfl | hmem
        · rw [hbefore n hmem] at hsome
          cases hsome
        · exact Nat.le_refl _
        · exact List.rel_of_pairwise_cons (List.pairwise_append.mp hsorted).2.1 hmem
      rw [Option.getD_some, exponent_of_shortestOf? hi, hn]
      omega

/-- What an integer of 52 bits is written with writes it. -/
theorem exists_shortest_whole (hm : m.quanta = j * Double.unit) (hpos : 0 < j) (hmost : j ≤ 2 ^ 52) :
    ∃ e : Nat, m.shortest.exponent = e ∧ m.shortest.digits * 10 ^ e = j := by
  obtain ⟨e, he⟩ := Int.eq_ofNat_of_zero_le (exponent_shortest_nonneg hm hpos hmost)
  refine ⟨e, he, Double.eq_of_ofDecimal hm hpos hmost ?_⟩
  have hread := Double.ofDecimal_mul_pow false m.shortest.digits e m.shortest.exponent
  rw [he, Int.sub_self, ← he, Double.ofDecimal_shortest] at hread
  exact hread

end Magnitude

/-! ## Texts of doubles -/

namespace Text

theorem ofNat_mul_pow_ten {n : Nat} (hn : 0 < n) (k : Nat) :
    ofNat (n * 10 ^ k) = ofNat n ++ List.replicate k (.scalar '0') := by
  induction k with
  | zero => rw [Nat.pow_zero, Nat.mul_one, List.replicate_zero, List.append_nil]
  | succ k ih =>
      have hpos : 0 < n * 10 ^ k := Nat.mul_pos hn (Nat.pow_pos (by decide))
      rw [Nat.pow_succ, ← Nat.mul_assoc, Nat.mul_comm _ 10, ofNat_mul_ten hpos, ih, List.append_assoc,
        List.replicate_succ']

/-- The text writes a number of hundredths, with two places behind a point. -/
def WritesHundredths (t : Text) (negative : Bool) (n : Nat) : Prop :=
  ∃ ds places : Text, ds.IsNumeral ∧ places.IsNumeral ∧ places.length = 2 ∧ (ds ++ places).numeralValue = n ∧
    t = fraction negative ds places

end Text

namespace Double

variable {m : Magnitude} {s : Bool} {j : Nat}

theorem signed_eq (s : Bool) (t : Text) : signed s t = Text.minus s ++ t := by
  cases s with
  | false => rfl
  | true => rfl

/-- Up to sixteen digits, an integer is written without an exponent. -/
theorem decimalText_integer {d e : Nat} (hd : 0 < d) (hfew : d * 10 ^ e < 10 ^ 16) :
    decimalText ⟨d, e⟩ = Text.ofNat (d * 10 ^ e) ++ ".0" := by
  have hdigits := Text.ofNat_mul_pow_ten hd e
  have hlength := (Text.length_ofNat_le_iff (by decide)).mpr hfew
  have hpos := List.length_pos_of_ne_nil (Text.ofNat_ne_nil d)
  rw [hdigits, List.length_append, List.length_replicate] at hlength
  rw [decimalText, hdigits]
  dsimp only
  have hzeros : ((Text.ofNat d).length + (e : ℤ)).toNat - (Text.ofNat d).length = e := by omega
  rw [if_neg (by omega), if_neg (by omega), if_pos (by omega), hzeros]

/-- A whole double is written with a zero behind the point. -/
theorem toText_whole (s : Bool) (hm : m.quanta = j * unit) (hmost : j ≤ 2 ^ 52) :
    (finite s m).toText = Text.fraction s (Text.ofNat j) "0" := by
  rw [toText, signed_eq, Text.fraction]
  rcases Nat.eq_zero_or_pos j with rfl | hpos
  · rw [Nat.zero_mul] at hm
    rw [if_pos hm]
    rfl
  · have hsome : m.quanta ≠ 0 := hm ▸ (Nat.mul_pos hpos unit_pos).ne'
    obtain ⟨e, he, hdigits⟩ := Magnitude.exists_shortest_whole hm hpos hmost
    have hsmall : m.shortest.digits * 10 ^ e < 10 ^ 16 := by
      rw [hdigits]
      exact Nat.lt_of_le_of_lt hmost (by decide)
    have hfirst : 0 < m.shortest.digits := Nat.pos_of_mul_pos_right (hdigits ▸ hpos)
    have htext := decimalText_integer hfirst hsmall
    rw [← he, hdigits] at htext
    rw [if_neg hsome, htext]
    rfl

/-- Two places are written of a double that is shown with two places. -/
theorem writesHundredths_fixedText (s : Bool) (m : Magnitude) :
    ((finite s m).fixedText 2).WritesHundredths s (scaled m 2) := by
  rw [fixedText, signed_eq, pointText]
  generalize scaled m 2 = n
  have hdigits : ∀ c ∈ Text.padded (2 + 1) n, Json.isDigit c = true := fun c => Text.isDigit_of_mem_padded
  have hvalue := Text.digitsValue_padded (2 + 1) n
  have hlength : 3 ≤ (Text.padded (2 + 1) n).length := by
    rw [Text.padded, List.length_append, List.length_replicate]
    omega
  generalize Text.padded (2 + 1) n = digits at *
  have hnumeral : ∀ ds : Text, ds ⊆ digits → ds ≠ [] → ds.IsNumeral := fun ds hds hne =>
    ⟨hne, fun c hc => CodePoint.isDecimal_of_digit (hdigits c (hds hc))⟩
  refine ⟨digits.take (digits.length - 2), digits.drop (digits.length - 2), ?_, ?_, ?_, ?_, ?_⟩
  · exact hnumeral _ (List.take_subset _ _) (List.ne_nil_of_length_pos (by rw [List.length_take]; omega))
  · exact hnumeral _ (List.drop_subset _ _) (List.ne_nil_of_length_pos (by rw [List.length_drop]; omega))
  · rw [List.length_drop]
    omega
  · rw [List.take_append_drop, Text.numeralValue_of_digits hdigits, hvalue]
  · rw [if_neg (by decide), Text.fraction, List.append_assoc]
    rfl

end Double

end ChatFlow
