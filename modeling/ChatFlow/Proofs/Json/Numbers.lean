import ChatFlow.Proofs.Double.Shortest
import Mathlib.Data.List.Basic

/-!
# Numbers that are written and read

What is written of a number is read as that number, up to where it ends: in front of anything that could
not go on with it.

* `Json.Ends`: nothing that could go on with a number.
* `Json.number?_ofNat`: integers.
* `Json.number?_decimalText`: decimals, in each of their forms.
-/

namespace ChatFlow.Json

open Double (decimalText exponentText ofDecimal)

/-- No digit stands here. -/
def NoDigit (r : Text) : Prop := ∀ c ∈ r.head?, isDigit c = false

/-- Nothing stands here that could go on with a number. -/
def Ends (r : Text) : Prop :=
  ∀ c ∈ r.head?, isDigit c = false ∧ c ≠ .scalar '.' ∧ c ≠ .scalar 'e' ∧ c ≠ .scalar 'E'

variable {ds places r : Text} {negative : Bool}

theorem Ends.noDigit (h : Ends r) : NoDigit r := fun c hc => (h c hc).1

theorem Ends.nil : Ends [] := by
  intro c hc
  cases hc

/-! ## Parts of a number -/

theorem takeWhile_digits (hds : ∀ c ∈ ds, isDigit c = true) (hr : NoDigit r) :
    (ds ++ r).takeWhile isDigit = ds := by
  rw [List.takeWhile_append_of_pos hds]
  cases r with
  | nil => simp
  | cons c r =>
      have hc : isDigit c = false := hr c rfl
      simp [hc]

theorem dropWhile_digits (hds : ∀ c ∈ ds, isDigit c = true) (hr : NoDigit r) :
    (ds ++ r).dropWhile isDigit = r := by
  rw [List.dropWhile_append_of_pos hds]
  cases r with
  | nil => rfl
  | cons c r =>
      have hc : isDigit c = false := hr c rfl
      simp [hc]

/-- Digits that a number may begin with: there are some, and a zero stands alone. -/
structure Whole (ds : Text) : Prop where
  digits : ∀ c ∈ ds, isDigit c = true
  nonempty : ds ≠ []
  zero : ds.head? = some (.scalar '0') → ds = [.scalar '0']

theorem Whole.wholeDigits_append (h : Whole ds) (hr : NoDigit r) : wholeDigits (ds ++ r) = ds := by
  by_cases hzero : ds.head? = some (.scalar '0')
  · rw [h.zero hzero]
    rfl
  · rw [wholeDigits, takeWhile_digits h.digits hr]
    intro rest hrest
    cases ds with
    | nil => exact h.nonempty rfl
    | cons c ds =>
        rw [List.cons_append] at hrest
        cases hrest
        exact hzero rfl

theorem Whole.ofNat (n : Nat) : Whole (Text.ofNat n) where
  digits _ := Text.isDigit_of_mem_ofNat
  nonempty := Text.ofNat_ne_nil n
  zero := by
    intro h
    by_cases hn : n = 0
    · rw [hn]
      rfl
    · exact absurd h (Text.head_ofNat_ne_zero hn)

theorem fraction_places (hplaces : ∀ c ∈ places, isDigit c = true) (hne : places ≠ []) (hr : NoDigit r) :
    fraction (.scalar '.' :: (places ++ r)) = some (places, r) := by
  simp [fraction, takeWhile_digits hplaces hr, dropWhile_digits hplaces hr, hne]

theorem fraction_none (h : ∀ c ∈ r.head?, c ≠ .scalar '.') : fraction r = none := by
  unfold fraction
  split
  · next ds => exact absurd rfl (h _ rfl)
  · rfl

theorem exponent_none (h : ∀ c ∈ r.head?, c ≠ .scalar 'e' ∧ c ≠ .scalar 'E') : exponent r = none := by
  cases r with
  | nil => rfl
  | cons c r =>
      obtain ⟨hlower, hupper⟩ := h c rfl
      simp [exponent, hlower, hupper]

/-- An exponent reads back. -/
theorem exponent_exponentText (e : Int) (hr : NoDigit r) :
    exponent (exponentText e ++ r) = some (e, r) := by
  have hdigits : ∀ c ∈ Text.padded 2 e.natAbs, isDigit c = true := by
    intro c hc
    rcases List.mem_append.mp hc with hzero | hdigit
    · rw [List.eq_of_mem_replicate hzero]
      decide
    · exact Text.isDigit_of_mem_ofNat hdigit
  have hvalue : digitsValue (Text.padded 2 e.natAbs) = e.natAbs := by
    rw [Text.padded, digitsValue_append, digitsValue_zeros, digitsValue_ofNat]
    omega
  have hne : Text.padded 2 e.natAbs ≠ [] := by
    simp [Text.padded, Text.ofNat_ne_nil]
  have htake := takeWhile_digits hdigits hr
  have hdrop := dropWhile_digits hdigits hr
  by_cases he : e < 0
  · have htext : exponentText e ++ r =
        .scalar 'e' :: .scalar '-' :: (Text.padded 2 e.natAbs ++ r) := by
      simp only [exponentText, he, if_true]
      rfl
    have hsign : -(e.natAbs : Int) = e := by omega
    simp only [htext, exponent, htake, hdrop, hvalue, List.isEmpty_iff, hne, or_false, if_true, if_false,
      CodePoint.scalar.injEq, Char.reduceEq, hsign]
  · have htext : exponentText e ++ r =
        .scalar 'e' :: .scalar '+' :: (Text.padded 2 e.natAbs ++ r) := by
      simp only [exponentText, he, if_false]
      rfl
    have hsign : (e.natAbs : Int) = e := by omega
    simp only [htext, exponent, htake, hdrop, hvalue, List.isEmpty_iff, hne, or_false, if_true, if_false,
      CodePoint.scalar.injEq, Char.reduceEq, Bool.false_eq_true, hsign]

/-! ## Whole numbers -/

/-- Digits with neither a fraction nor an exponent behind them make an integer. -/
theorem number?_integer (hds : Whole ds) (hlength : ds.length ≤ maxIntegerDigits) (hr : Ends r) :
    number? negative (ds ++ r) =
      some (.int (if negative then -(digitsValue ds : Int) else digitsValue ds), r) := by
  have hwhole := hds.wholeDigits_append hr.noDigit
  have hfraction : fraction r = none := fraction_none fun c hc => (hr c hc).2.1
  have hexponent : exponent r = none := exponent_none fun c hc => (hr c hc).2.2
  simp only [number?, hwhole, List.isEmpty_eq_false_iff.mpr hds.nonempty, List.drop_left, hfraction,
    hexponent, Nat.not_lt.mpr hlength, Option.map_none, Option.getD_none, Option.isNone_none, Bool.and_self,
    Bool.false_eq_true, if_false, if_true]

/-- Digits with a fraction behind them make a double, with or without an exponent. -/
theorem number?_fraction (negative : Bool) (hds : Whole ds) (hplaces : ∀ c ∈ places, isDigit c = true)
    (hne : places ≠ []) (hr : NoDigit r) :
    number? negative (ds ++ .scalar '.' :: (places ++ r)) =
      some (.float (ofDecimal negative (digitsValue (ds ++ places))
        (((exponent r).map Prod.fst).getD 0 - places.length)), ((exponent r).map Prod.snd).getD r) := by
  have hpoint : NoDigit (.scalar '.' :: (places ++ r)) := by
    rintro c ⟨⟩
    decide
  have hwhole := hds.wholeDigits_append hpoint
  have hfraction := fraction_places hplaces hne hr
  simp only [number?, hwhole, List.isEmpty_eq_false_iff.mpr hds.nonempty, List.drop_left, hfraction,
    Option.map_some, Option.getD_some, Option.isNone_some, Bool.false_and, Bool.false_eq_true, if_false]

/-- Digits with an exponent right behind them make a double. -/
theorem number?_exponent (hds : Whole ds) (e : Int) (hr : NoDigit r) :
    number? negative (ds ++ (exponentText e ++ r)) =
      some (.float (ofDecimal negative (digitsValue ds) e), r) := by
  have hletter : (exponentText e ++ r).head? = some (.scalar 'e') := rfl
  have hnodigit : NoDigit (exponentText e ++ r) := by
    intro c hc
    rw [hletter] at hc
    cases hc
    decide
  have hwhole := hds.wholeDigits_append hnodigit
  have hfraction : fraction (exponentText e ++ r) = none := by
    refine fraction_none ?_
    intro c hc
    rw [hletter] at hc
    cases hc
    decide
  have hexponent := exponent_exponentText e hr
  simp only [number?, hwhole, List.isEmpty_eq_false_iff.mpr hds.nonempty, List.drop_left, hfraction,
    hexponent, Option.map_none, Option.map_some, Option.getD_none, Option.getD_some, Option.isNone_none,
    Option.isNone_some, Bool.and_false, Bool.false_eq_true, if_false, List.append_nil, List.length_nil]
  simp

/-- An integer that is not too long is read as it is written. -/
theorem number?_ofNat (negative : Bool) {n : Nat} (hn : n < 10 ^ maxIntegerDigits) (hr : Ends r) :
    number? negative (Text.ofNat n ++ r) = some (.int (if negative then -(n : Int) else n), r) := by
  have hlength := (Text.length_ofNat_le_iff (by decide)).mpr hn
  rw [number?_integer (.ofNat n) hlength hr, digitsValue_ofNat]

/-! ## Decimals -/

variable {d : Decimal}

theorem digitsValue_pad (k n : Nat) :
    digitsValue (List.replicate k (.scalar '0') ++ Text.ofNat n) = n := by
  rw [digitsValue_append, digitsValue_zeros, digitsValue_ofNat]
  omega

/-- A decimal with an exponent reads back. -/
theorem number?_scientific (hr : Ends r) :
    number? negative (Double.scientificDigits (Text.ofNat d.digits) ++
        exponentText (((Text.ofNat d.digits).length : Int) + d.exponent - 1) ++ r) =
      some (.float (ofDecimal negative d.digits d.exponent), r) := by
  have hwhole := Whole.ofNat d.digits
  have hvalue := digitsValue_ofNat d.digits
  generalize Text.ofNat d.digits = ds at hwhole hvalue ⊢
  rcases ds with _ | ⟨c, _ | ⟨c', cs⟩⟩
  · exact absurd rfl hwhole.nonempty
  · have hexponent : (([c] : Text).length : Int) + d.exponent - 1 = d.exponent := by
      simp
    rw [hexponent, List.append_assoc]
    show number? negative ([c] ++ (exponentText d.exponent ++ r)) = _
    rw [number?_exponent hwhole _ hr.noDigit, hvalue]
  · -- the first digit stands before the point, and all other ones behind it
    have hfirst : Whole [c] :=
      { digits := fun x hx => hwhole.digits x (by simp_all)
        nonempty := by simp
        zero := fun h => by simp_all }
    have hplaces : ∀ x ∈ c' :: cs, isDigit x = true := fun x hx =>
      hwhole.digits x (List.mem_cons_of_mem c hx)
    have hpoint : ((c :: c' :: cs).length : Int) + d.exponent - 1 - (c' :: cs).length = d.exponent := by
      simp only [List.length_cons]
      omega
    generalize ((c :: c' :: cs).length : Int) + d.exponent - 1 = e at hpoint ⊢
    have hnodigit : NoDigit (exponentText e ++ r) := by
      rintro x ⟨⟩
      decide
    have hnumber := number?_fraction negative hfirst hplaces (by simp) hnodigit
    rw [exponent_exponentText e hr.noDigit, Option.map_some, Option.map_some, Option.getD_some,
      Option.getD_some, hpoint] at hnumber
    rw [← hvalue]
    simpa [Double.scientificDigits] using hnumber

/-- A decimal less than one reads back. -/
theorem number?_small (hpoint : ((Text.ofNat d.digits).length : Int) + d.exponent ≤ 0) (hr : Ends r) :
    number? negative (("0." : Text) ++ List.replicate
        (-(((Text.ofNat d.digits).length : Int) + d.exponent)).toNat (.scalar '0') ++
        Text.ofNat d.digits ++ r) =
      some (.float (ofDecimal negative d.digits d.exponent), r) := by
  have hzero : Whole [.scalar '0'] := Whole.ofNat 0
  generalize hk : (-(((Text.ofNat d.digits).length : Int) + d.exponent)).toNat = k
  have hplaces : ∀ c ∈ List.replicate k (.scalar '0') ++ Text.ofNat d.digits, isDigit c = true := by
    intro c hc
    rcases List.mem_append.mp hc with hpad | hdigit
    · rw [List.eq_of_mem_replicate hpad]
      decide
    · exact Text.isDigit_of_mem_ofNat hdigit
  have hne : List.replicate k (.scalar '0') ++ Text.ofNat d.digits ≠ [] := by
    simp [Text.ofNat_ne_nil]
  have hexponent : (0 : Int) - (List.replicate k (CodePoint.scalar '0') ++ Text.ofNat d.digits).length =
      d.exponent := by
    rw [List.length_append, List.length_replicate]
    omega
  have hvalue : digitsValue ([.scalar '0'] ++ (List.replicate k (.scalar '0') ++ Text.ofNat d.digits)) =
      d.digits := by
    rw [digitsValue_append, digitsValue_pad]
    simp [digitsValue, CodePoint.toNat]
  have hnumber := number?_fraction negative hzero hplaces hne hr.noDigit
  rw [exponent_none fun c hc => (hr c hc).2.2, Option.map_none, Option.map_none, Option.getD_none,
    Option.getD_none, hexponent, hvalue] at hnumber
  rw [← hnumber, List.append_assoc, List.append_assoc, List.append_assoc]
  rfl

/-- A whole decimal, with zeros up to the point, reads back. -/
theorem number?_large (hpoint : (Text.ofNat d.digits).length ≤
      (((Text.ofNat d.digits).length : Int) + d.exponent).toNat) (hd : d.digits ≠ 0) (hr : Ends r) :
    number? negative (Text.ofNat d.digits ++ List.replicate
        ((((Text.ofNat d.digits).length : Int) + d.exponent).toNat - (Text.ofNat d.digits).length)
        (.scalar '0') ++ (".0" : Text) ++ r) =
      some (.float (ofDecimal negative d.digits d.exponent), r) := by
  have hnonempty := List.length_pos_iff.mpr (Text.ofNat_ne_nil d.digits)
  obtain ⟨k, hk⟩ : ∃ k : Nat, d.exponent = k := ⟨d.exponent.toNat, by omega⟩
  have hzeros : (((Text.ofNat d.digits).length : Int) + d.exponent).toNat -
      (Text.ofNat d.digits).length = k := by omega
  have hwhole : Whole (Text.ofNat d.digits ++ List.replicate k (.scalar '0')) :=
    { digits := by
        intro c hc
        rcases List.mem_append.mp hc with hdigit | hpad
        · exact Text.isDigit_of_mem_ofNat hdigit
        · rw [List.eq_of_mem_replicate hpad]
          decide
      nonempty := by simp [Text.ofNat_ne_nil]
      zero := by
        intro h
        have hhead : (Text.ofNat d.digits).head? = some (.scalar '0') := by
          rwa [List.head?_append_of_ne_nil _ (Text.ofNat_ne_nil _)] at h
        exact absurd hhead (Text.head_ofNat_ne_zero hd) }
  have hplaces : ∀ c ∈ ([.scalar '0'] : Text), isDigit c = true := by decide
  have hvalue : digitsValue (Text.ofNat d.digits ++ List.replicate k (.scalar '0') ++ [.scalar '0']) =
      d.digits * 10 ^ (k + 1) := by
    rw [List.append_assoc, ← List.replicate_succ', digitsValue_append, digitsValue_zeros,
      digitsValue_ofNat, List.length_replicate, Nat.add_zero]
  have hexponent : (0 : Int) - ([.scalar '0'] : Text).length = d.exponent - ((k + 1 : Nat) : Int) := by
    simp only [List.length_singleton]
    omega
  have hnumber := number?_fraction negative hwhole hplaces (by simp) hr.noDigit
  rw [exponent_none fun c hc => (hr c hc).2.2, Option.map_none, Option.map_none, Option.getD_none,
    Option.getD_none, hexponent, hvalue, Double.ofDecimal_mul_pow] at hnumber
  rw [hzeros, ← hnumber, List.append_assoc _ _ r]
  rfl

/-- A decimal with a point between its digits reads back. -/
theorem number?_middle {k : Nat} (hk : 0 < k) (hlt : k < (Text.ofNat d.digits).length)
    (hpoint : ((Text.ofNat d.digits).length : Int) + d.exponent = k) (hr : Ends r) :
    number? negative ((Text.ofNat d.digits).take k ++ ("." : Text) ++ (Text.ofNat d.digits).drop k ++ r) =
      some (.float (ofDecimal negative d.digits d.exponent), r) := by
  have hdigits : ∀ c ∈ Text.ofNat d.digits, isDigit c = true := fun _ => Text.isDigit_of_mem_ofNat
  have hwhole : Whole ((Text.ofNat d.digits).take k) :=
    { digits := fun c hc => hdigits c (List.mem_of_mem_take hc)
      nonempty := by
        rw [ne_eq, ← List.length_eq_zero_iff, List.length_take]
        omega
      zero := by
        intro h
        have hhead : (Text.ofNat d.digits).head? = some (.scalar '0') := by
          rwa [List.head?_take, if_neg (by omega)] at h
        rw [(Whole.ofNat d.digits).zero hhead] at hlt
        simp at hlt
        omega }
  have hplaces : ∀ c ∈ (Text.ofNat d.digits).drop k, isDigit c = true := fun c hc =>
    hdigits c (List.mem_of_mem_drop hc)
  have hne : (Text.ofNat d.digits).drop k ≠ [] := by
    rw [ne_eq, ← List.length_eq_zero_iff, List.length_drop]
    omega
  have hexponent : (0 : Int) - ((Text.ofNat d.digits).drop k).length = d.exponent := by
    rw [List.length_drop]
    omega
  have hnumber := number?_fraction negative hwhole hplaces hne hr.noDigit
  rw [exponent_none fun c hc => (hr c hc).2.2, Option.map_none, Option.map_none, Option.getD_none,
    Option.getD_none, hexponent, List.take_append_drop, digitsValue_ofNat] at hnumber
  rw [← hnumber, List.append_assoc, List.append_assoc]
  rfl

/-- The text of a decimal reads back, in whichever form it is. -/
theorem number?_decimalText (hd : d.digits ≠ 0) (hr : Ends r) :
    number? negative (decimalText d ++ r) = some (.float (ofDecimal negative d.digits d.exponent), r) := by
  unfold decimalText
  dsimp only
  split
  · exact number?_scientific hr
  · split
    · next hpoint => exact number?_small hpoint hr
    · split
      · next hpoint => exact number?_large hpoint hd hr
      · exact number?_middle (by omega) (by omega) (by omega) hr

end ChatFlow.Json
