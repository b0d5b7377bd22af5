import ChatFlow.Double.Decimal
import ChatFlow.Json.Reader
import Mathlib.Tactic.Ring

/-!
# Decimal digits

The digits of a number are ASCII digits, the first of which is a zero for zero only, and they write the
number. Zeros before them change nothing; zeros behind them multiply by ten.

* `Json.digitsValue_ofNat`: the digits of a number write it.
* `Json.digitsValue_append`: what two runs of digits write together.
* `Double.digitCount_mul_ten`: ten times a number has one more digit.
-/

namespace ChatFlow

/-! ## The digits of a number -/

namespace Text

theorem ofNat_eq (n : Nat) : ofNat n = (Nat.toDigits 10 n).map .scalar := by
  rw [ofNat, ofString, Nat.toString_eq_ofList_toDigits, String.toList_ofList]

theorem ofNat_ne_nil (n : Nat) : ofNat n ≠ [] := by
  rw [ofNat_eq]
  simp [Nat.toDigits_ne_nil]

theorem length_ofNat_le_iff {n k : Nat} (hk : 0 < k) : (ofNat n).length ≤ k ↔ n < 10 ^ k := by
  rw [ofNat_eq, List.length_map, Nat.length_toDigits_le_iff (by decide) hk]

theorem ofNat_mul_ten {n : Nat} (hn : 0 < n) : ofNat (10 * n) = ofNat n ++ [.scalar '0'] := by
  have hdigits := Nat.toDigits_append_toDigits (b := 10) (d := 0) (by decide) hn (by decide)
  rw [Nat.toDigits_zero, Nat.add_zero] at hdigits
  rw [ofNat_eq, ofNat_eq, ← hdigits, List.map_append]
  rfl

theorem ofNat_pow_ten (k : Nat) : ofNat (10 ^ k) = .scalar '1' :: List.replicate k (.scalar '0') := by
  induction k with
  | zero => rfl
  | succ k ih =>
      rw [Nat.pow_succ, Nat.mul_comm, ofNat_mul_ten (Nat.pow_pos (by decide)), ih, List.replicate_succ']
      rfl

theorem isDigit_of_mem_ofNat {n : Nat} {c : CodePoint} (h : c ∈ ofNat n) : Json.isDigit c = true := by
  rw [ofNat_eq] at h
  obtain ⟨d, hd, rfl⟩ := List.mem_map.mp h
  have hdigit := Nat.isDigit_of_mem_toDigits (by decide) (by decide) hd
  have hbounds : 48 ≤ d.toNat ∧ d.toNat ≤ 57 := by
    simpa [Char.isDigit, UInt32.le_iff_toNat_le] using hdigit
  rw [Json.isDigit, CodePoint.toNat, decide_eq_true hbounds.1, decide_eq_true hbounds.2]
  rfl

/-- Only the digits of zero begin with a zero. -/
theorem head_ofNat_ne_zero {n : Nat} (hn : n ≠ 0) : (ofNat n).head? ≠ some (.scalar '0') := by
  -- the first digits of a number are the digits of its tenth
  induction n using Nat.strongRecOn with
  | ind n ih =>
      rw [ofNat_eq, Nat.toDigits_eq_if (by decide)]
      split
      · next hlt =>
          have hdigit : ∀ d < 10, d ≠ 0 → d.digitChar ≠ '0' := by decide
          simpa using hdigit n hlt hn
      · next hge =>
          have htenth := ih (n / 10) (by omega) (by omega)
          rw [ofNat_eq] at htenth
          cases hdigits : Nat.toDigits 10 (n / 10) with
          | nil => exact absurd hdigits Nat.toDigits_ne_nil
          | cons d ds =>
              rw [hdigits] at htenth
              exact htenth

end Text

/-! ## The number that digits write -/

namespace Json

theorem digitsValue_append (ds es : Text) :
    digitsValue (ds ++ es) = digitsValue ds * 10 ^ es.length + digitsValue es := by
  have hfrom : ∀ (es : Text) (start : Nat), es.foldl (fun n d => n * 10 + (d.toNat - 0x30)) start =
      start * 10 ^ es.length + digitsValue es := by
    intro es
    induction es with
    | nil => simp [digitsValue]
    | cons e es ih =>
        intro start
        have hvalue : digitsValue (e :: es) = (e.toNat - 0x30) * 10 ^ es.length + digitsValue es := by
          rw [digitsValue, List.foldl_cons, ih, Nat.zero_mul, Nat.zero_add]
        rw [List.foldl_cons, ih, hvalue, List.length_cons]
        ring
  rw [digitsValue, List.foldl_append, hfrom]
  rfl

theorem digitsValue_cons (d : CodePoint) (ds : Text) :
    digitsValue (d :: ds) = (d.toNat - 0x30) * 10 ^ ds.length + digitsValue ds := by
  have hone : digitsValue [d] = d.toNat - 0x30 := by simp [digitsValue]
  rw [← List.singleton_append, digitsValue_append, hone]

theorem digitsValue_ofNat (n : Nat) : digitsValue (Text.ofNat n) = n := by
  have hfold : ∀ cs : List Char, digitsValue (cs.map .scalar) = Nat.ofDigitChars 10 cs 0 := by
    intro cs
    rw [digitsValue, List.foldl_map, Nat.ofDigitChars_eq_foldl]
    simp only [Nat.mul_comm 10]
    rfl
  rw [Text.ofNat_eq, hfold, Nat.ofDigitChars_ten_toDigits]

theorem digitsValue_zeros (k : Nat) : digitsValue (List.replicate k (.scalar '0')) = 0 := by
  induction k with
  | zero => rfl
  | succ k ih =>
      rw [List.replicate_succ', digitsValue_append, ih]
      rfl

end Json

/-! ## How many digits a number has -/

namespace Double

theorem digitCount_eq (n : Nat) : digitCount n = (Text.ofNat n).length := by
  rw [digitCount, Text.ofNat, Text.ofString, List.length_map, String.length_toList]

theorem digitCount_mul_ten {n : Nat} (hn : 0 < n) : digitCount (10 * n) = digitCount n + 1 := by
  rw [digitCount_eq, digitCount_eq, Text.ofNat_mul_ten hn, List.length_append]
  rfl

end Double

end ChatFlow
