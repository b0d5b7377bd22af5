import ChatFlow.Proofs.Double.Largest
import ChatFlow.Proofs.Text.Cuts
import ChatFlow.Proofs.Text.Digits
import ChatFlow.Run.Storage

/-!
# Reading the digits of a number

Decimal digits are read loosely wherever a text stands for a number. The digits of a number are read as this number, as
an integer and as a double, and are stored as it.

* `NumeralMark.ofText?_of_digits`, `NumeralMark.digits_of_digits`: the marks of digits, and the number that they write.
* `Text.toInteger?_ofNat`, `Text.toDouble?_ofNat`: the digits of a number are read as it.
* `Text.scalar_ofNat`: they are stored as it.
-/

namespace ChatFlow

variable {t : Text} {c : CodePoint} {n : Nat}

/-! ## Digits -/

theorem CodePoint.decimal?_of_digit (h : Json.isDigit c = true) : c.decimal? = some (c.toNat - 0x30) := by
  rw [Json.isDigit, Bool.and_eq_true, decide_eq_true_eq, decide_eq_true_eq] at h
  have hblock : (0x30 ≤ c.toNat && c.toNat < 0x30 + 10) = true := by
    rw [Bool.and_eq_true, decide_eq_true_eq, decide_eq_true_eq]
    omega
  have hfirst : (Unicode.zeros.find? fun first => first ≤ c.toNat && c.toNat < first + 10) = some 0x30 :=
    List.find?_cons_of_pos hblock
  rw [decimal?, hfirst, Option.map_some]

theorem CodePoint.isBlank_of_digit (h : Json.isDigit c = true) : c.isBlank = false := by
  rw [Json.isDigit, Bool.and_eq_true, decide_eq_true_eq, decide_eq_true_eq] at h
  simp only [isBlank, Bool.or_eq_false_iff, Bool.and_eq_false_iff, beq_eq_false_iff_ne, decide_eq_false_iff_not]
  omega

theorem Text.trim_of_digits (h : ∀ c ∈ t, Json.isDigit c = true) : t.trim = t :=
  trim_of_ends (fun c hc => CodePoint.isBlank_of_digit (h c (List.mem_of_mem_head? hc)))
    fun c hc => CodePoint.isBlank_of_digit (h c (List.mem_of_getLast? hc))

namespace NumeralMark

/-- The marks of digits. -/
def ofDigits (t : Text) : List NumeralMark := t.map fun c => .digit (c.toNat - 0x30)

theorem joinGroups?_ofDigits (afterDigit : Bool) (t : Text) :
    joinGroups? afterDigit (ofDigits t) = some (ofDigits t) := by
  induction t generalizing afterDigit with
  | nil => rfl
  | cons c t ih =>
      show (joinGroups? true (ofDigits t)).map _ = _
      rw [ih]
      rfl

theorem mapM_ofCodePoint?_of_digits (h : ∀ c ∈ t, Json.isDigit c = true) :
    t.mapM ofCodePoint? = some (ofDigits t) := by
  induction t with
  | nil => rfl
  | cons c t ih =>
      have hmark : ofCodePoint? c = some (.digit (c.toNat - 0x30)) := by
        unfold ofCodePoint?
        rw [CodePoint.decimal?_of_digit (h c List.mem_cons_self)]
      rw [List.mapM_cons, hmark, ih fun c hc => h c (List.mem_cons_of_mem _ hc)]
      rfl

theorem ofText?_of_digits (h : ∀ c ∈ t, Json.isDigit c = true) : ofText? t = some (ofDigits t) := by
  rw [ofText?, Text.trim_of_digits h, mapM_ofCodePoint?_of_digits h, Option.bind_some, joinGroups?_ofDigits]

/-- Digits are read to their end, and write the number that they do in documents. -/
theorem digits_of_digits (t : Text) : digits 0 0 (ofDigits t) = (t.length, Json.digitsValue t, []) := by
  have hfrom : ∀ (t : Text) (count value : Nat), digits count value (ofDigits t) =
      (count + t.length, t.foldl (fun n d => n * 10 + (d.toNat - 0x30)) value, []) := by
    intro t
    induction t with
    | nil => exact fun _ _ => rfl
    | cons c t ih =>
        intro count value
        show digits (count + 1) (value * 10 + (c.toNat - 0x30)) (ofDigits t) = _
        rw [ih, List.length_cons, List.foldl_cons, Nat.add_right_comm]
        rfl
  rw [hfrom, Nat.zero_add]
  rfl

theorem sign_ofDigits (t : Text) : sign (ofDigits t) = (false, ofDigits t) := by
  cases t with
  | nil => rfl
  | cons c t => rfl

/-- What is read as digits to its end is digits, and has as many of them as are read. -/
theorem of_digits_eq {marks : List NumeralMark} {count value start total : Nat}
    (h : digits start total marks = (count, value, [])) :
    (∀ mark ∈ marks, ∃ d, mark = .digit d) ∧ count = start + marks.length := by
  induction marks generalizing start total with
  | nil =>
      cases h
      exact ⟨nofun, rfl⟩
  | cons mark marks ih =>
      cases mark with
      | digit d =>
          obtain ⟨hdigits, hcount⟩ := ih h
          refine ⟨List.forall_mem_cons.mpr ⟨⟨d, rfl⟩, hdigits⟩, ?_⟩
          rw [hcount, List.length_cons]
          omega
      | other c => cases h

/-- Digits are no word. -/
theorem ne_word_of_digits {marks : List NumeralMark} (hdigits : ∀ mark ∈ marks, ∃ d, mark = .digit d)
    (hmarks : marks ≠ []) (word : List Char) : marks ≠ word.map .other := by
  obtain ⟨mark, hmark⟩ := List.exists_mem_of_ne_nil marks hmarks
  obtain ⟨d, rfl⟩ := hdigits mark hmark
  rintro rfl
  obtain ⟨c, -, hc⟩ := List.mem_map.mp hmark
  cases hc

/-- Digits write a double as they write an integer. -/
theorem double?_of_digits {marks : List NumeralMark} {count value : Nat}
    (h : digits 0 0 marks = (count, value, [])) (hcount : count ≠ 0) (negative : Bool) :
    double? negative marks = some (Double.ofDecimal negative value 0) := by
  obtain ⟨hdigits, hlength⟩ := of_digits_eq h
  have hmarks : marks ≠ [] := by
    rintro rfl
    exact hcount hlength
  have hword : isInfinityWord marks = false := by
    rw [isInfinityWord, Bool.or_eq_false_iff, beq_eq_false_iff_ne, beq_eq_false_iff_ne]
    exact ⟨ne_word_of_digits hdigits hmarks _, ne_word_of_digits hdigits hmarks _⟩
  have hsome : ¬ count + 0 = 0 := hcount
  rw [double?, hword, if_neg Bool.false_ne_true, if_neg (ne_word_of_digits hdigits hmarks _), h]
  simp only [if_neg hsome, exponent?, Option.map_some]
  rfl

end NumeralMark

theorem Double.neg_ofQuanta (num den : Nat) : (ofQuanta false num den).neg = ofQuanta true num den := by
  unfold ofQuanta
  generalize Magnitude.round num den = found
  cases found with
  | none => rfl
  | some m => rfl

/-- A decimal without an exponent that is a double is this double. -/
theorem Double.ofDecimal_of_exact (h : Exact n) (negative : Bool) :
    ofDecimal negative n 0 = if negative then (ofInt n).neg else ofInt n := by
  have hscale : ¬ (310 : Int) < (digitCount n : Int) + 0 := by
    have hbeyond : beyond ≤ 10 ^ 310 := by decide +kernel
    have hsize := h.natAbs_lt_beyond
    rw [Int.natAbs_natCast] at hsize
    have hcount := (Text.length_ofNat_le_iff (by decide : 0 < 310)).mpr (Nat.lt_of_lt_of_le hsize hbeyond)
    rw [digitCount_eq]
    omega
  rw [ofDecimal]
  split
  · next hzero =>
      rw [hzero]
      cases negative <;> decide +kernel
  · dsimp only
    rw [if_neg hscale, if_neg (by omega), ofInt, ofRatio, Int.natAbs_natCast]
    have hsign : decide ((n : Int) < 0) = false := decide_eq_false (by omega)
    have hone : n * Nat.pow 10 (0 : Int).toNat * unit = n * unit ∧ Nat.pow 10 (-0 : Int).toNat = 1 :=
      ⟨congrArg (· * unit) (Nat.mul_one n), rfl⟩
    rw [hsign, hone.1, hone.2]
    generalize n * unit = q
    cases negative with
    | false => rw [if_neg Bool.false_ne_true]
    | true => rw [if_pos (Eq.refl true), neg_ofQuanta]

/-! ## The digits of a number -/

namespace Text

theorem digits_ofNat (n : Nat) : ∀ c ∈ ofNat n, Json.isDigit c = true := fun _ => isDigit_of_mem_ofNat

theorem trim_ofNat (n : Nat) : (ofNat n).trim = ofNat n := trim_of_digits (digits_ofNat n)

theorem isBlank_ofNat (n : Nat) : (ofNat n).isBlank = false := by
  rw [isBlank, Bool.eq_false_iff]
  intro hblank
  obtain ⟨c, hc⟩ := List.exists_mem_of_ne_nil _ (ofNat_ne_nil n)
  have hdigit := CodePoint.isBlank_of_digit (digits_ofNat n c hc)
  rw [List.all_eq_true.mp hblank c hc] at hdigit
  cases hdigit

/-- The digits of a number are read as it, unless they are too many. -/
theorem toInteger?_ofNat (h : integerTooLong n = false) : (ofNat n).toInteger? = some (n : Int) := by
  have hshort : ∀ k, 0 < k → n < Nat.pow 10 k → (ofNat n).length ≤ k := fun k hk hn =>
    (length_ofNat_le_iff hk).mpr hn
  have hlength : (ofNat n).length ≤ maxIntegerDigits := by
    rw [integerTooLong, decide_eq_false_iff_not, Nat.not_le, Int.natAbs_natCast] at h
    exact hshort maxIntegerDigits (by decide) h
  have hcount : ¬ ((ofNat n).length = 0 ∨ maxIntegerDigits < (ofNat n).length) := by
    rintro (hnone | hmany)
    · exact ofNat_ne_nil n (List.length_eq_zero_iff.mp hnone)
    · exact absurd hlength (Nat.not_le.mpr hmany)
  rw [toInteger?, NumeralMark.ofText?_of_digits (digits_ofNat n)]
  simp only [Option.bind_eq_bind, Option.bind_some, NumeralMark.sign_ofDigits, NumeralMark.digits_of_digits,
    if_neg hcount, Json.digitsValue_ofNat]
  rfl

/-- The digits of a number that is a double are read as this double. -/
theorem toDouble?_ofNat (h : Double.Exact n) : (ofNat n).toDouble? = some (.ofInt n) := by
  have hcount : (ofNat n).length ≠ 0 := fun hnone => ofNat_ne_nil n (List.length_eq_zero_iff.mp hnone)
  rw [toDouble?, NumeralMark.ofText?_of_digits (digits_ofNat n)]
  simp only [Option.bind_eq_bind, Option.bind_some, NumeralMark.sign_ofDigits]
  rw [NumeralMark.double?_of_digits (NumeralMark.digits_of_digits _) hcount, Json.digitsValue_ofNat,
    Double.ofDecimal_of_exact h, if_neg Bool.false_ne_true]

/-- The digits of a number are stored as it, unless they are too many. -/
theorem scalar_ofNat (h : integerTooLong n = false) : (ofNat n).scalar = .ok (.int n) := by
  have hend : withoutLineEnd (ofNat n) = ofNat n := by
    rw [withoutLineEnd, if_neg]
    intro hlast
    exact absurd (digits_ofNat n _ (List.mem_of_getLast? hlast)) (by decide)
  have hminus : afterMinus (ofNat n) = ofNat n := by
    unfold afterMinus
    split
    · next r hminus => exact absurd (digits_ofNat n (.scalar '-') (hminus ▸ List.mem_cons_self)) (by decide)
    · rfl
  have hdecimal : isDecimal (ofNat n) = true := by
    rw [isDecimal, Bool.and_eq_true, Bool.not_eq_true', List.isEmpty_eq_false_iff, List.all_eq_true]
    refine ⟨ofNat_ne_nil n, ?_⟩
    intro c hc
    rw [CodePoint.isDecimal, CodePoint.decimal?_of_digit (digits_ofNat n c hc), Option.isSome_some]
  have hinteger : writesInteger (ofNat n) = true := by rw [writesInteger, hend, hminus, hdecimal]
  rw [scalar, if_pos hinteger, toInteger?_ofNat h]

end Text

end ChatFlow
